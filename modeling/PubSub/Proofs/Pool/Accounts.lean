import PubSub.Proofs.Pool.Balance
import PubSub.Proofs.Pool.Construction

/-!
# Accounts

Whole runs of a desk keep the account of held slots.

* `Desk.tallied_step`, `Desk.sized_step`: every move keeps the invariant of the pool, for the slots
  that are held after it.
* `Desk.releases`: the slots that a move gives back.
* `slots_accounted`: after any run the counters of the links are the numbers of held slots.
-/

namespace PubSub

/-! ## New pools -/

namespace SlotPool

/-- A new pool of a checked shape: it is open and empty, and its dialer refuses like the one it was
made with. -/
structure Fresh (p : SlotPool) (shape : PoolShape) (d : Dialer) : Prop where
  checked : shape.check = .ok ()
  tallied : p.Tallied []
  sized : p.Sized shape
  notClosed : p.closed = false
  unvisited : p.rotor = 0
  refusal : p.dialer.refusal = d.refusal

/-- A new pool has as many links as its shape starts with. -/
theorem size_of_build {shape : PoolShape} {scheduler : Bool} {d : Dialer} {p : SlotPool}
    (h : (build shape scheduler d).answer = .ok p) : p.size = shape.initialLinks := by
  rcases build_ok h with ⟨-, rfl⟩
  exact d.length_nextLinks _

theorem fresh_of_build {shape : PoolShape} {scheduler : Bool} {d : Dialer} {p : SlotPool}
    (h : (build shape scheduler d).answer = .ok p) : p.Fresh shape d := by
  have hsize := size_of_build h
  rcases build_ok h with ⟨hcheck, rfl⟩
  refine ⟨hcheck, ⟨?_, ?_, ?_, ?_⟩, ⟨rfl, rfl, rfl, ?_, ?_⟩, rfl, rfl, rfl⟩
  · intro i l hl
    exact congrArg Link.id (Dialer.getElem?_nextLinks hl)
  · intro i l hl
    exact congrArg Link.streams (Dialer.getElem?_nextLinks hl)
  · intro i l hl
    exact Nat.le_trans (Nat.le_of_eq (congrArg Link.streams (Dialer.getElem?_nextLinks hl)))
      (Nat.zero_le _)
  · intro i hi
    cases hi
  · exact Nat.le_of_eq hsize.symm
  · exact Nat.le_trans (Nat.le_of_eq hsize) shape.initialLinks_le_maxLinks

end SlotPool

namespace Desk

variable {shape : PoolShape} {d : Desk}

/-- A desk that could be made has a pool that could be made, and nobody holds a slot of it. -/
theorem build_ok {scheduler : Bool} {dialer : Dialer}
    (h : (build shape scheduler dialer).answer = .ok d) :
    (SlotPool.build shape scheduler dialer).answer = .ok d.pool ∧ d.leases = [] := by
  unfold build at h
  cases hbuilt : (SlotPool.build shape scheduler dialer).answer with
  | error e => simp [hbuilt, Except.map] at h
  | ok p =>
    simp only [hbuilt, Except.map, Except.ok.injEq] at h
    subst h
    exact ⟨rfl, rfl⟩

theorem fresh_of_build {scheduler : Bool} {dialer : Dialer}
    (h : (build shape scheduler dialer).answer = .ok d) :
    d.pool.Fresh shape dialer ∧ d.leases = [] :=
  (build_ok h).imp_left SlotPool.fresh_of_build

theorem tallied_of_build {scheduler : Bool} {dialer : Dialer}
    (h : (build shape scheduler dialer).answer = .ok d) : d.pool.Tallied d.live := by
  rcases fresh_of_build h with ⟨hfresh, hleases⟩
  have hlive : d.live = [] := by
    simp [live, hleases]
  exact hlive ▸ hfresh.tallied

/-! ### Held slots -/

theorem live_grant (d : Desk) (link : Nat) : (d.grant link).2.live = d.live ++ [link] := by
  simp [grant, live]

theorem live_grantAll (places : List Nat) (d : Desk) :
    (grantAll places d).2.live = d.live ++ places := by
  induction places generalizing d with
  | nil => simp [grantAll]
  | cons i places ih =>
    have hrest : (grantAll (i :: places) d).2.live = (grantAll places (d.grant i).2).2.live := rfl
    rw [hrest, ih, live_grant, List.append_assoc]
    rfl

theorem insertPlace_perm (i : Nat) (places : List Nat) :
    (insertPlace i places).Perm (i :: places) := by
  induction places with
  | nil => exact .refl _
  | cons j places ih =>
    unfold insertPlace
    split
    · exact .refl _
    · exact (ih.cons j).trans (.swap i j places)

/-- The places of a burst are those of its grants, in another order. -/
theorem grantedPlaces_perm (answers : List (Except TransportError Nat)) :
    (grantedPlaces answers).Perm (answers.filterMap (·.toOption)) := by
  unfold grantedPlaces
  induction answers.filterMap (·.toOption) with
  | nil => exact .refl _
  | cons i places ih => exact (insertPlace_perm i _).trans (ih.cons i)

/-- A slot that is given back is one of those that were held. -/
theorem live_set {handle i : Nat} (h : d.held? handle = some i) :
    d.live.Perm (i :: (d.leases.set handle none).filterMap id) := by
  unfold held? at h
  unfold live
  generalize d.leases = leases at h ⊢
  -- the handle counts down along the leases
  induction leases generalizing handle with
  | nil => simp at h
  | cons lease leases ih =>
    cases handle with
    | zero =>
      simp only [List.getElem?_cons_zero, Option.join_some] at h
      subst h
      exact .refl _
    | succ handle =>
      have hrest : leases[handle]?.join = some i := by simpa using h
      have hperm := ih hrest
      cases lease with
      | none => simpa using hperm
      | some j => simpa using (hperm.cons j).trans (.swap i j _)

/-! ### Moves -/

/-- Claims one after another hand out the slots that they are answered with. -/
theorem tallied_claims (callers : Nat) {p : SlotPool} {live : List Nat} (h : p.Tallied live) :
    (claims callers p).next.Tallied
      ((claims callers p).answer.filterMap (·.toOption) ++ live) := by
  induction callers generalizing p live with
  | zero => exact h
  | succ callers ih =>
    have hfirst := h.claimed p.claim_claimed
    have hothers := ih hfirst
    -- the first slot was taken first and is listed last
    refine hothers.perm ?_
    have hanswers : (claims (callers + 1) p).answer.filterMap (·.toOption) =
        p.claim.answer.toOption.toList ++
          (claims callers p.claim.next).answer.filterMap (·.toOption) := by
      show (p.claim.answer :: _).filterMap (·.toOption) = _
      cases p.claim.answer <;> simp [Except.toOption]
    rw [hanswers, ← List.append_assoc]
    exact List.perm_append_comm.append_right live

theorem sized_claims (callers : Nat) {p : SlotPool} (h : p.Sized shape) :
    (claims callers p).next.Sized shape := by
  induction callers generalizing p with
  | zero => exact h
  | succ callers ih => exact ih (h.claimed p.claim_claimed)

/-- What a claim does to the held slots. -/
theorem live_claim (d : Desk) :
    d.claim.next.live = d.live ++ d.pool.claim.answer.toOption.toList := by
  unfold claim
  simp only
  split
  · rename_i e he
    simp [he, live, Except.toOption]
  · rename_i link hlink
    rw [live_grant, hlink]
    rfl

theorem live_burst (d : Desk) (callers : Nat) :
    (d.burst callers).next.live =
      d.live ++ grantedPlaces (claims callers d.pool).answer :=
  live_grantAll _ _

/-- Every move keeps the account of the held slots. -/
theorem tallied_step (h : d.pool.Tallied d.live) (m : Move) :
    (d.step m).pool.Tallied (d.step m).live := by
  cases m with
  | claim =>
    simp only [step, d.pool_claim, d.live_claim]
    exact (h.claimed d.pool.claim_claimed).perm List.perm_append_comm
  | burst callers =>
    simp only [step, d.pool_burst, d.live_burst]
    refine (tallied_claims callers h).perm ?_
    -- handles are given in the order of the links, which is not that of the claims
    exact (((grantedPlaces_perm _).symm.append_right _).trans List.perm_append_comm)
  | abandon =>
    -- the slot that the claim took is given back before the move is over
    have hclaimed := h.claimed d.pool.claim_claimed
    simp only [step, abandon]
    split
    · rename_i link hlink
      rw [hlink] at hclaimed
      exact hclaimed.release
    · rename_i e he
      rw [he] at hclaimed
      exact hclaimed
  | drop handle =>
    simp only [step, drop]
    split
    · exact h
    · rename_i link hlink
      exact (h.perm (live_set hlink)).release
  | dropAll =>
    have hall : d.dropAll.2.live = [] := by
      simp [dropAll, live]
    have hlive : d.pool.Tallied (d.live ++ []) := by
      rw [List.append_nil]
      exact h
    exact hall ▸ hlive.releases
  | closeLink link => exact h.closeLink link
  | closeLease handle =>
    simp only [step, closeLease]
    split
    · exact h.closeLink _
    · exact h
  | close => exact h.close

/-- Every move keeps the shape. -/
theorem sized_step (h : d.pool.Sized shape) (m : Move) : (d.step m).pool.Sized shape := by
  cases m with
  | claim => exact d.pool_claim ▸ h.claimed d.pool.claim_claimed
  | burst callers => exact d.pool_burst callers ▸ sized_claims callers h
  | abandon =>
    have hclaimed := h.claimed d.pool.claim_claimed
    simp only [step, abandon]
    split
    · exact hclaimed.release _
    · exact hclaimed
  | drop handle =>
    simp only [step, drop]
    split
    · exact h
    · exact h.release _
  | dropAll => exact h.releases d.live
  | closeLink link => exact h.closeLink link
  | closeLease handle =>
    simp only [step, closeLease]
    split
    · exact h.closeLink _
    · exact h
  | close => exact h.close

/-- What holds of the desk at the start and is kept by every move holds after every run. -/
theorem run_induction {P : Desk → Prop} (hstep : ∀ d m, P d → P (d.step m)) (h : P d)
    (moves : List Move) : P (d.run moves) := by
  induction moves generalizing d with
  | nil => exact h
  | cons m moves ih => exact ih (hstep d m h)

theorem tallied_run (h : d.pool.Tallied d.live) (moves : List Move) :
    (d.run moves).pool.Tallied (d.run moves).live :=
  run_induction (P := fun d => d.pool.Tallied d.live) (fun _ m hd => tallied_step hd m) h moves

theorem sized_run (h : d.pool.Sized shape) (moves : List Move) :
    (d.run moves).pool.Sized shape :=
  run_induction (P := fun d => d.pool.Sized shape) (fun _ m hd => sized_step hd m) h moves

/-! ### Releases -/

/-- The pool to which a move gives slots back, and their places in turn. -/
def releases (d : Desk) : Move → SlotPool × List Nat
  | .abandon => (d.pool.claim.next, d.pool.claim.answer.toOption.toList)
  | .drop handle => (d.pool, (d.held? handle).toList)
  | .dropAll => (d.pool, d.live)
  | m => ((d.step m).pool, [])

theorem pool_step_eq_releases (d : Desk) (m : Move) :
    (d.step m).pool = (d.releases m).2.foldl SlotPool.release (d.releases m).1 := by
  cases m with
  | abandon =>
    simp only [step, abandon, releases]
    split
    · rename_i link hlink
      rw [hlink]
      rfl
    · rename_i e he
      rw [he]
      rfl
  | drop handle =>
    simp only [step, drop, releases]
    split
    · rename_i hnone
      rw [hnone]
      rfl
    · rename_i link hlink
      rw [hlink]
      rfl
  | _ => rfl

/-- No move gives back a slot of a link without streams. -/
theorem releasable_releases (h : d.pool.Tallied d.live) (m : Move) :
    (d.releases m).1.Releasable (d.releases m).2 := by
  cases m with
  | abandon => exact (h.claimed d.pool.claim_claimed).releasable
  | drop handle =>
    simp only [releases]
    cases hheld : d.held? handle with
    | none => trivial
    | some link =>
      have hperm : d.pool.Tallied ([link] ++ _) := h.perm (live_set hheld)
      exact hperm.releasable
  | dropAll =>
    have hlive : d.pool.Tallied (d.live ++ []) := by
      rw [List.append_nil]
      exact h
    exact hlive.releasable
  | _ => trivial

end Desk

/-! ## The account -/

/-- After every run of moves on a pool that could be made, whatever its dialer does: every link is
at its place and counts the held slots of that place; it never counts more than it has, and what a
claim on it may count up to fits into a word; all links together count all held slots; the capacity
goes with the number of links, which stays between its bounds; without held slots every counter is
zero; and whatever is given back next, no release meets a counter at zero. -/
theorem slots_accounted {shape : PoolShape} {scheduler : Bool} {dialer : Dialer} {start : Desk}
    (hbuilt : (Desk.build shape scheduler dialer).answer = .ok start)
    (hword : shape.slotsPerLink < UInt32.size - 1) (moves : List Move) :
    let d := start.run moves
    (∀ (i : Nat) (l : Link), d.pool.links[i]? = some l →
      l.id = i ∧ l.streams = d.live.count i ∧ l.streams ≤ shape.slotsPerLink ∧
        l.streams + 1 < UInt32.size) ∧
    (∀ i ∈ d.live, i < d.pool.size) ∧
    d.pool.active = d.live.length ∧
    d.pool.capacity = d.pool.size * shape.slotsPerLink ∧
    shape.initialLinks ≤ d.pool.size ∧ d.pool.size ≤ shape.maxLinks ∧
    (d.live = [] → ∀ l ∈ d.pool.links, l.streams = 0) ∧
    ∀ m, (d.step m).pool = (d.releases m).2.foldl SlotPool.release (d.releases m).1 ∧
      (d.releases m).1.Releasable (d.releases m).2 := by
  intro d
  rcases Desk.fresh_of_build hbuilt with ⟨hfresh, -⟩
  have htallied : d.pool.Tallied d.live := Desk.tallied_run (Desk.tallied_of_build hbuilt) moves
  have hshape : d.pool.Sized shape := Desk.sized_run hfresh.sized moves
  refine ⟨?_, htallied.within, htallied.active_eq, ?_, hshape.initialLinks_le, hshape.size_le,
    ?_, ?_⟩
  · intro i l hl
    have hbound : l.streams ≤ shape.slotsPerLink :=
      hshape.slotsPerLink ▸ htallied.bounded i l hl
    exact ⟨htallied.placed i l hl, htallied.counted i l hl, hbound, by omega⟩
  · exact congrArg (d.pool.size * ·) hshape.slotsPerLink
  · intro hnone l hl
    rcases List.mem_iff_getElem?.1 hl with ⟨i, hi⟩
    have hcount : l.streams = d.live.count i := htallied.counted i l hi
    simpa [hnone] using hcount
  · intro m
    exact ⟨d.pool_step_eq_releases m, Desk.releasable_releases htallied m⟩

/-- An elastic pool for five streams with two slots on a link. -/
def smallShape : PoolShape where
  sizing := .elastic 5
  slotsPerLink := 2

/-- The desk that such a pool starts with. -/
def smallDesk : Desk where
  pool :=
    { slotsPerLink := 2, maxLinks := 3, canGrow := true
      links := [{ id := 0, connection := some 0 }]
      dialer := { Dialer.faultless with calls := 1, created := 1 } }

/-- A run that fills the pool, gives slots back before and after it is closed, and claims on the
closed pool. -/
def busyRun : List Move :=
  [.claim, .burst 6, .abandon, .drop 1, .abandon, .closeLink 0, .drop 1, .close, .claim, .drop 0]

theorem slots_accounted_after_close :
    (Desk.build smallShape true .faultless).answer = .ok smallDesk ∧
    smallShape.slotsPerLink < UInt32.size - 1 ∧
    (smallDesk.run busyRun).pool.closed = true ∧
    (smallDesk.run busyRun).live = [1, 1, 2, 2] ∧
    (smallDesk.run busyRun).pool.active = (smallDesk.run busyRun).live.length := by
  have hbuilt : (Desk.build smallShape true .faultless).answer = .ok smallDesk := rfl
  have hword : smallShape.slotsPerLink < UInt32.size - 1 := by decide
  exact ⟨hbuilt, hword, by decide, by decide, (slots_accounted hbuilt hword busyRun).2.2.1⟩

end PubSub
