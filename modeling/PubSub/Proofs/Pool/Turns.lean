import PubSub.Proofs.Pool.Connections
import PubSub.Proofs.Pool.Semaphore

/-!
# Turns

The claims of a run, one after another.

Callers of a pool are served one at a time, also those that claim at the same time and those that
are gone before the answer comes.  A turn is the desk as such a claim finds it.  What lies between
two turns gives slots back and closes links, but leaves the number of links and the counter of
visits alone; so the counter is known from the visits of the turns so far.

* `SlotPool.rotor_claim`: a claim moves the counter on by its visits.
* `Desk.turnsIn`: the turns of a run.
* `Desk.mem_turnsIn`: what every move keeps holds at every turn.
* `Desk.turn_of_build`: what is known at the turns of any run.
* `Desk.rotor_turn_le`: a run that stays within the period of the counter has turns that do.
* `Desk.size_turn_le`: the links that there are at a turn are there after the run.
* `Desk.Leads`: a pool comes to its turns without claims between them.
* `Desk.leads_turnsIn`: the turns of a run are of this kind.
-/

namespace PubSub

namespace SlotPool

variable {p q : SlotPool} {live : List Nat}

/-! ## Claims -/

theorem claim_of_ok (hopen : p.closed = false) (hroom : p.makeRoom.answer = .ok ()) :
    p.claim.answer = p.makeRoom.next.take.1 ∧ p.claim.next = p.makeRoom.next.take.2 := by
  simp [claim, hopen, hroom]

theorem claim_of_error {e : TransportError} (hopen : p.closed = false)
    (hroom : p.makeRoom.answer = .error e) :
    p.claim.answer = .error e ∧ p.claim.next = p.makeRoom.next ∧ p.visits = 0 := by
  simp [claim, visits, hopen, hroom]

theorem rotor_take (p : SlotPool) :
    p.take.2.rotor = (findFree p.links p.slotsPerLink p.capacity p.rotor).2 := by
  unfold take
  split
  · rename_i hsearch
    rw [hsearch]
  · rename_i hsearch
    rw [hsearch]

/-- A search moves the counter on by its visits, also if it may visit nothing. -/
theorem findFree_rotor_of_lt (links : List Link) (slots visits : Nat) {rotor : Nat}
    (h : rotor < rotorPeriod) :
    (findFree links slots visits rotor).2 =
      (rotor + searchVisits links slots visits rotor) % rotorPeriod := by
  cases visits with
  | zero => exact (Nat.mod_eq_of_lt h).symm
  | succ visits => exact findFree_rotor rotor (Nat.succ_pos visits)

/-- A claim moves the counter on by its visits. -/
theorem rotor_claim (h : p.rotor < rotorPeriod) :
    p.claim.next.rotor = (p.rotor + p.visits) % rotorPeriod := by
  have hstill : p.rotor = (p.rotor + 0) % rotorPeriod := (Nat.mod_eq_of_lt h).symm
  cases hclosed : p.closed with
  | true =>
    have hvisits : p.visits = 0 := by simp [visits, hclosed]
    have hnext : p.claim.next = p := by simp [claim, hclosed]
    rw [hvisits, hnext]
    exact hstill
  | false =>
    rcases p.makeRoom_cases with
      ⟨hanswer, hroom⟩ | ⟨-, -, hanswer, hnext⟩ | ⟨-, -, -, _, _, -, hanswer, hnext⟩
    · have hrotor : p.makeRoom.next.rotor < rotorPeriod := hroom.rotor.symm ▸ h
      rw [(claim_of_ok hclosed hanswer).2, rotor_take, findFree_rotor_of_lt _ _ _ hrotor,
        ← hroom.visits_eq hclosed, hroom.rotor]
    · rcases claim_of_error hclosed hanswer with ⟨-, hclaim, hvisits⟩
      rw [hclaim, hnext, hvisits]
      exact hstill
    · rcases claim_of_error hclosed hanswer with ⟨-, hclaim, hvisits⟩
      rw [hclaim, hnext, hvisits]
      exact hstill

theorem rotor_claim_lt (h : p.rotor < rotorPeriod) : p.claim.next.rotor < rotorPeriod := by
  rw [rotor_claim h]
  exact Nat.mod_lt _ (by decide)

/-- A link is wanted: the pool is open and full, and it may have more links. -/
structure WantsLink (p : SlotPool) : Prop where
  opened : p.closed = false
  full : p.capacity ≤ p.active
  canGrow : p.canGrow = true
  size_lt : p.size < p.maxLinks

/-- The pool after its dialer was asked for a link and refused. -/
def asked (p : SlotPool) : SlotPool :=
  { p with dialer := { p.dialer with calls := p.dialer.calls + 1 } }

/-- The ways in which a claim is refused while the counter stays within its period: the pool is
closed, or it is full and may not have more links, or the dialer refuses to make one.  Nothing is
searched then. -/
theorem refused_cases {e : TransportError} (hslots : 0 < p.slotsPerLink)
    (hwrap : p.rotor + p.visits ≤ rotorPeriod) (h : p.claim.answer = .error e) :
    p.visits = 0 ∧
      ((p.closed = true ∧ e = .shuttingDown ∧ p.claim.next = p) ∨
       (p.closed = false ∧ p.capacity ≤ p.active ∧ ¬ p.WantsLink ∧
          e = .exhausted (.allTaken p.active p.size p.capacity) ∧ p.claim.next = p) ∨
       (p.WantsLink ∧ ∃ refusal,
          p.dialer.refusal (p.dialer.calls + 1) p.dialer.created = some refusal ∧
            e = refusal.error ∧ p.claim.next = p.asked)) := by
  by_cases hclosed : p.closed = true
  · have hclaim : p.claim = { answer := .error .shuttingDown, next := p } := by
      simp [claim, hclosed]
    rw [hclaim] at h
    cases h
    exact ⟨by simp [visits, hclosed], Or.inl ⟨hclosed, rfl, congrArg (·.next) hclaim⟩⟩
  · have hopen : p.closed = false := by simpa using hclosed
    rcases p.makeRoom_cases with
      ⟨hanswer, hroom⟩ | ⟨hfull, hmax, hanswer, hnext⟩ |
        ⟨hfull, hgrow, hsize, refusal, d, hmade, hanswer, hnext⟩
    · -- with room the search would have found a slot
      have hsome := hroom.findFree_ne_none hopen hslots hwrap
      rw [(claim_of_ok hopen hanswer).1] at h
      unfold take at h
      split at h
      · cases h
      · rename_i hnone
        exact absurd (congrArg Prod.fst hnone) hsome
    · rcases claim_of_error hopen hanswer with ⟨herror, hclaim, hvisits⟩
      rw [herror] at h
      cases h
      refine ⟨hvisits, Or.inr (Or.inl ⟨hopen, hfull, fun hwants => ?_, rfl, hclaim.trans hnext⟩)⟩
      rcases hmax with hfixed | hmax
      · exact Bool.false_ne_true (hfixed.symm.trans hwants.canGrow)
      · exact Nat.not_lt_of_le hmax hwants.size_lt
    · rcases claim_of_error hopen hanswer with ⟨herror, hclaim, hvisits⟩
      rw [herror] at h
      cases h
      rcases Dialer.of_connect_error hmade with ⟨hrefused, rfl⟩
      exact ⟨hvisits, Or.inr (Or.inr
        ⟨⟨hopen, hfull, hgrow, hsize⟩, refusal, hrefused, rfl, hclaim.trans hnext⟩)⟩

/-! ## Between claims -/

/-- One pool comes from another without a claim. -/
structure Idle (p q : SlotPool) : Prop where
  slotsPerLink : q.slotsPerLink = p.slotsPerLink
  size : q.size = p.size
  rotor : q.rotor = p.rotor

namespace Idle

theorem refl (p : SlotPool) : p.Idle p := ⟨rfl, rfl, rfl⟩

theorem trans {r : SlotPool} (hpq : p.Idle q) (hqr : q.Idle r) : p.Idle r :=
  ⟨hqr.slotsPerLink.trans hpq.slotsPerLink, hqr.size.trans hpq.size, hqr.rotor.trans hpq.rotor⟩

end Idle

theorem idle_release (p : SlotPool) (i : Nat) : p.Idle (p.release i) :=
  ⟨rfl, p.size_release i, rfl⟩

theorem idle_releases (places : List Nat) (p : SlotPool) :
    p.Idle (places.foldl release p) := by
  induction places generalizing p with
  | nil => exact .refl p
  | cons i places ih => exact (p.idle_release i).trans (ih _)

theorem idle_closeLink (p : SlotPool) (i : Nat) : p.Idle (p.closeLink i).next :=
  ⟨rfl, (Links.sameCounts_closeAt p.links i p.dialer).1, rfl⟩

theorem idle_close (p : SlotPool) : p.Idle p.close.next := by
  refine ⟨p.alike_close.slotsPerLink, p.size_close, ?_⟩
  unfold close
  split <;> rfl

end SlotPool

namespace Desk

open SlotPool

/-! ## The number of links -/

theorem size_claims_le (callers : Nat) (p : SlotPool) : p.size ≤ (claims callers p).next.size := by
  induction callers generalizing p with
  | zero => exact Nat.le_refl _
  | succ callers ih => exact Nat.le_trans p.claim_claimed.size_le (ih _)

/-- Links are never taken away. -/
theorem size_step_le (d : Desk) (m : Move) : d.pool.size ≤ (d.step m).pool.size := by
  have hclosing (i : Nat) : d.pool.size ≤ (d.closeLink i).next.pool.size :=
    Nat.le_of_eq (Links.sameCounts_closeAt d.pool.links i d.pool.dialer).1.symm
  cases m with
  | claim => exact d.pool_claim ▸ d.pool.claim_claimed.size_le
  | burst callers => exact d.pool_burst callers ▸ size_claims_le callers d.pool
  | abandon =>
    have hclaim := d.pool.claim_claimed.size_le
    simp only [step, abandon]
    split
    · exact Nat.le_trans hclaim (Nat.le_of_eq (SlotPool.size_release _ _).symm)
    · exact hclaim
  | drop handle =>
    simp only [step, drop]
    split
    · exact Nat.le_refl _
    · exact Nat.le_of_eq (SlotPool.size_release _ _).symm
  | dropAll => exact Nat.le_of_eq (SlotPool.size_releases d.live d.pool).symm
  | closeLink link => exact hclosing link
  | closeLease handle =>
    simp only [step, closeLease]
    split
    · exact hclosing _
    · exact Nat.le_refl _
  | close => exact Nat.le_of_eq d.pool.size_close.symm

theorem size_run_le (d : Desk) (moves : List Move) : d.pool.size ≤ (d.run moves).pool.size := by
  induction moves generalizing d with
  | nil => exact Nat.le_refl _
  | cons m moves ih => exact Nat.le_trans (d.size_step_le m) (ih _)

/-! ## The turns of a run -/

/-- The desks at which so many callers are served one after another. -/
def turnsOf : Nat → Desk → List Desk
  | 0, _ => []
  | callers + 1, d => d :: turnsOf callers d.claim.next

/-- The desks that the claims of a move find, one after another. -/
def turns (d : Desk) : Move → List Desk
  | .claim | .abandon => [d]
  | .burst callers => turnsOf callers d
  | .drop _ | .dropAll | .closeLink _ | .closeLease _ | .close => []

/-- The desks that the claims of a run find, one after another. -/
def turnsIn : Desk → List Move → List Desk
  | _, [] => []
  | d, m :: moves => d.turns m ++ (d.step m).turnsIn moves

/-- The places of the links on which slots are granted at some turns. -/
def granted (turns : List Desk) : List Nat :=
  turns.filterMap (·.pool.claim.answer.toOption)

/-- The number of links that the claims at some turns visit. -/
def turnVisits : List Desk → Nat
  | [] => 0
  | a :: turns => a.pool.visits + turnVisits turns

section Turns

variable {d : Desk}

theorem turnVisits_append (before after : List Desk) :
    turnVisits (before ++ after) = turnVisits before + turnVisits after := by
  induction before with
  | nil => exact (Nat.zero_add _).symm
  | cons a before ih =>
    show a.pool.visits + turnVisits (before ++ after) = _
    rw [ih, ← Nat.add_assoc]
    rfl

theorem turnVisits_turnsOf (callers : Nat) (d : Desk) :
    turnVisits (turnsOf callers d) = claimsVisits callers d.pool := by
  induction callers generalizing d with
  | zero => rfl
  | succ callers ih =>
    have hrest : turnVisits (turnsOf callers d.claim.next) =
        claimsVisits callers d.pool.claim.next := d.pool_claim ▸ ih d.claim.next
    exact congrArg (d.pool.visits + ·) hrest

theorem turnVisits_turns (d : Desk) (m : Move) : turnVisits (d.turns m) = d.visits m := by
  cases m with
  | burst callers => exact turnVisits_turnsOf callers d
  | _ => rfl

theorem length_turnsOf (callers : Nat) (d : Desk) : (turnsOf callers d).length = callers := by
  induction callers generalizing d with
  | zero => rfl
  | succ callers ih => exact congrArg (· + 1) (ih _)

theorem turnsIn_append (d : Desk) (before after : List Move) :
    d.turnsIn (before ++ after) = d.turnsIn before ++ (d.run before).turnsIn after := by
  induction before generalizing d with
  | nil => rfl
  | cons m before ih =>
    show d.turns m ++ (d.step m).turnsIn (before ++ after) = _
    rw [ih, ← List.append_assoc]
    rfl

theorem granted_append (before after : List Desk) :
    granted (before ++ after) = granted before ++ granted after :=
  List.filterMap_append

theorem granted_cons (a : Desk) (turns : List Desk) :
    granted (a :: turns) = a.pool.claim.answer.toOption.toList ++ granted turns := by
  unfold granted
  cases hanswer : a.pool.claim.answer.toOption <;> simp [hanswer]

/-- A run visits what its turns visit. -/
theorem turnVisits_turnsIn (d : Desk) (moves : List Move) :
    turnVisits (d.turnsIn moves) = d.visited moves := by
  induction moves generalizing d with
  | nil => rfl
  | cons m moves ih =>
    rw [turnsIn, turnVisits_append, turnVisits_turns, ih]
    rfl

/-- What every move keeps holds at every turn. -/
theorem mem_turnsIn {P : Desk → Prop} (hstep : ∀ d m, P d → P (d.step m)) (h : P d)
    (moves : List Move) : ∀ a ∈ d.turnsIn moves, P a := by
  have hcallers : ∀ (callers : Nat) (d : Desk), P d → ∀ a ∈ turnsOf callers d, P a := by
    intro callers
    induction callers with
    | zero =>
      intro d _ a ha
      cases ha
    | succ callers ih =>
      intro d hd a ha
      rcases List.mem_cons.1 ha with rfl | ha
      · exact hd
      · exact ih d.claim.next (hstep d .claim hd) a ha
  induction moves generalizing d with
  | nil =>
    intro a ha
    cases ha
  | cons m moves ih =>
    intro a ha
    rcases List.mem_append.1 ha with ha | ha
    · cases m with
      | claim => exact List.mem_singleton.1 ha ▸ h
      | abandon => exact List.mem_singleton.1 ha ▸ h
      | burst callers => exact hcallers callers d h a ha
      | _ => cases ha
    · exact ih (hstep d m h) a ha

theorem tallied_turn (h : d.pool.Tallied d.live) (moves : List Move) :
    ∀ a ∈ d.turnsIn moves, a.pool.Tallied a.live :=
  mem_turnsIn (P := fun d => d.pool.Tallied d.live) (fun _ m hd => tallied_step hd m) h moves

theorem sized_turn {shape : PoolShape} (h : d.pool.Sized shape) (moves : List Move) :
    ∀ a ∈ d.turnsIn moves, a.pool.Sized shape :=
  mem_turnsIn (P := fun d => d.pool.Sized shape) (fun _ m hd => sized_step hd m) h moves

theorem le_size_turn (d : Desk) (moves : List Move) :
    ∀ a ∈ d.turnsIn moves, d.pool.size ≤ a.pool.size :=
  mem_turnsIn (P := fun a => d.pool.size ≤ a.pool.size)
    (fun a m ha => Nat.le_trans ha (a.size_step_le m)) (Nat.le_refl _) moves

theorem rotor_turnsOf_le (callers : Nat) (d : Desk) :
    ∀ a ∈ turnsOf callers d,
      a.pool.rotor + a.pool.visits ≤ d.pool.rotor + claimsVisits callers d.pool := by
  induction callers generalizing d with
  | zero =>
    intro a ha
    cases ha
  | succ callers ih =>
    intro a ha
    rw [claimsVisits]
    rcases List.mem_cons.1 ha with rfl | ha
    · omega
    · have hrest := ih d.claim.next a ha
      have hfirst := d.pool.claim_claimed.rotor_le
      rw [d.pool_claim] at hrest
      omega

/-- No turn takes the counter further than the whole run. -/
theorem rotor_turn_le (d : Desk) (moves : List Move) :
    ∀ a ∈ d.turnsIn moves,
      a.pool.rotor + a.pool.visits ≤ d.pool.rotor + d.visited moves := by
  induction moves generalizing d with
  | nil =>
    intro a ha
    cases ha
  | cons m moves ih =>
    intro a ha
    rw [visited]
    rcases List.mem_append.1 ha with ha | ha
    · refine Nat.le_trans ?_ (Nat.add_le_add_left (Nat.le_add_right _ _) _)
      cases m with
      | claim => exact List.mem_singleton.1 ha ▸ Nat.le_refl _
      | abandon => exact List.mem_singleton.1 ha ▸ Nat.le_refl _
      | burst callers => exact rotor_turnsOf_le callers d a ha
      | _ => cases ha
    · have hrest := ih (d.step m) a ha
      have hfirst := d.rotor_step_le m
      omega

/-- What is known at the turns of a run that stays within the period of the counter, on a pool that
could be made. -/
theorem turn_of_build {shape : PoolShape} {scheduler : Bool} {dialer : Dialer} {a : Desk}
    {moves : List Move} (h : (build shape scheduler dialer).answer = .ok d)
    (hwrap : d.visited moves ≤ rotorPeriod) (ha : a ∈ d.turnsIn moves) :
    a.pool.Tallied a.live ∧ a.pool.Sized shape ∧ 0 < a.pool.slotsPerLink ∧
      a.pool.rotor + a.pool.visits ≤ rotorPeriod := by
  rcases fresh_of_build h with ⟨hfresh, -⟩
  have hsized := sized_turn hfresh.sized moves a ha
  have hturn := d.rotor_turn_le moves a ha
  rw [hfresh.unvisited, Nat.zero_add] at hturn
  exact ⟨tallied_turn (tallied_of_build h) moves a ha, hsized,
    hsized.slotsPerLink.symm ▸ shape.slots_pos hfresh.checked, Nat.le_trans hturn hwrap⟩

theorem size_turnsOf_le (callers : Nat) (d : Desk) :
    ∀ a ∈ turnsOf callers d, a.pool.claim.next.size ≤ (claims callers d.pool).next.size := by
  induction callers generalizing d with
  | zero =>
    intro a ha
    cases ha
  | succ callers ih =>
    intro a ha
    rcases List.mem_cons.1 ha with rfl | ha
    · exact size_claims_le callers _
    · have hothers := ih d.claim.next a ha
      rw [d.pool_claim] at hothers
      exact hothers

/-- No turn leaves more links than there are after the whole run. -/
theorem size_turn_le (d : Desk) (moves : List Move) :
    ∀ a ∈ d.turnsIn moves, a.pool.claim.next.size ≤ (d.run moves).pool.size := by
  induction moves generalizing d with
  | nil =>
    intro a ha
    cases ha
  | cons m moves ih =>
    intro a ha
    rcases List.mem_append.1 ha with ha | ha
    · refine Nat.le_trans ?_ ((d.step m).size_run_le moves)
      cases m with
      | claim =>
        obtain rfl := List.mem_singleton.1 ha
        exact Nat.le_of_eq (congrArg size a.pool_claim.symm)
      | burst callers => exact d.pool_burst callers ▸ size_turnsOf_le callers d a ha
      | abandon =>
        -- the link that the claim may have added stays when its slot is given back
        obtain rfl := List.mem_singleton.1 ha
        simp only [step, abandon]
        split
        · exact Nat.le_of_eq (size_release _ _).symm
        · exact Nat.le_refl _
      | _ => cases ha
    · exact ih (d.step m) a ha

end Turns

/-! ## From one turn to the next -/

/-- A pool comes to the first of some turns, and from the claim at each of them to the next, without
another claim. -/
def Leads : SlotPool → List Desk → Prop
  | _, [] => True
  | p, a :: turns => p.Idle a.pool ∧ Leads a.pool.claim.next turns

theorem Leads.of_idle {p q : SlotPool} {turns : List Desk} (hidle : p.Idle q)
    (h : Leads q turns) : Leads p turns := by
  cases turns with
  | nil => trivial
  | cons a turns => exact ⟨hidle.trans h.1, h.2⟩

theorem Leads.start {p : SlotPool} {before after : List Desk} (h : Leads p (before ++ after)) :
    Leads p before := by
  induction before generalizing p with
  | nil => trivial
  | cons a before ih => exact ⟨h.1, ih h.2⟩

/-- The later turns are led to by a pool whose counter has moved on by the visits of the earlier
ones. -/
theorem Leads.rest {p : SlotPool} {before after : List Desk} (h : Leads p (before ++ after))
    (hrotor : p.rotor < rotorPeriod) :
    ∃ q, Leads q after ∧ q.rotor = (p.rotor + turnVisits before) % rotorPeriod := by
  induction before generalizing p with
  | nil => exact ⟨p, h, (Nat.mod_eq_of_lt hrotor).symm⟩
  | cons a before ih =>
    have hturn : a.pool.rotor < rotorPeriod := h.1.rotor.symm ▸ hrotor
    rcases ih h.2 (rotor_claim_lt hturn) with ⟨q, hq, hcounter⟩
    refine ⟨q, hq, ?_⟩
    rw [hcounter, rotor_claim hturn, Nat.mod_add_mod, h.1.rotor, turnVisits, Nat.add_assoc]

theorem leads_turnsOf_append (callers : Nat) {d : Desk} {turns : List Desk}
    (h : Leads (claims callers d.pool).next turns) :
    Leads d.pool (turnsOf callers d ++ turns) := by
  induction callers generalizing d with
  | zero => exact h
  | succ callers ih =>
    refine ⟨.refl _, ?_⟩
    rw [← d.pool_claim]
    apply ih
    rw [d.pool_claim]
    exact h

/-- The turns of a run follow one another without claims between them. -/
theorem leads_turnsIn (d : Desk) (moves : List Move) : Leads d.pool (d.turnsIn moves) := by
  induction moves generalizing d with
  | nil => trivial
  | cons m moves ih =>
    have hrest := ih (d.step m)
    rw [turnsIn]
    cases m with
    | claim => exact ⟨.refl _, d.pool_claim ▸ hrest⟩
    | burst callers => exact leads_turnsOf_append callers (d.pool_burst callers ▸ hrest)
    | abandon =>
      -- the slot that the claim took is given back before the next turn
      refine ⟨.refl _, hrest.of_idle ?_⟩
      simp only [step, abandon]
      split
      · exact idle_release _ _
      · exact .refl _
    | drop handle =>
      refine hrest.of_idle ?_
      simp only [step, drop]
      split
      · exact .refl _
      · exact idle_release _ _
    | dropAll => exact hrest.of_idle (idle_releases d.live d.pool)
    | closeLink link => exact hrest.of_idle (d.pool.idle_closeLink link)
    | closeLease handle =>
      refine hrest.of_idle ?_
      simp only [step, closeLease]
      split
      · exact d.pool.idle_closeLink _
      · exact .refl _
    | close => exact hrest.of_idle d.pool.idle_close

end Desk

end PubSub
