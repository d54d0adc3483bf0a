import PubSub.Pool.Desk
import PubSub.Proofs.Pool.Dialing

/-!
# Admission

The ways in which a claim can go, and what the operations of a stream pool leave alone.

* `SlotPool.Claimed`: every way in which a claim can go, with all that is known about it.
* `SlotPool.claim_claimed`: there is no other way.
* `SlotPool.Alike`: the pools between which operations lead, which differ in links and counters
  only.
-/

namespace PubSub

namespace SlotPool

/-! ## Searches -/

/-- A search that ends at a place ends at a link with a free slot. -/
theorem findFree_some {links : List Link} {slots visits rotor i next : Nat}
    (h : findFree links slots visits rotor = (some i, next)) :
    ∃ l, links[i]? = some l ∧ l.streams < slots := by
  induction visits generalizing rotor with
  | zero => cases h
  | succ visits ih =>
    unfold findFree at h
    simp only at h
    split at h
    · cases h
    · rename_i l hl
      split at h
      · rename_i hfree
        cases h
        exact ⟨l, hl, hfree⟩
      · exact ih h

/-! ## Claims -/

/-- The pool with one more link. -/
def withLink (p : SlotPool) (connection : Nat) (d : Dialer) : SlotPool :=
  { p with
    links := p.links ++ [{ id := p.size, connection := some connection }]
    dialer := d }

/-- The pool with one more stream on the link at a place, at which a search ended. -/
def withStream (p : SlotPool) (i rotor : Nat) : SlotPool :=
  { p with links := p.links.modify i Link.claim, rotor := rotor }

theorem size_withLink (p : SlotPool) (connection : Nat) (d : Dialer) :
    (p.withLink connection d).size = p.size + 1 := by
  simp [withLink, size]

theorem size_withStream (p : SlotPool) (i rotor : Nat) : (p.withStream i rotor).size = p.size :=
  List.length_modify _ _ _

/-- The pool that a claim searches: the pool itself if that has a slot left, or else the pool with
one more link. -/
inductive Room (p : SlotPool) : SlotPool → Prop where
  | already (h : p.active < p.capacity) : Room p p
  | grown {connection : Nat} {d : Dialer} (hfull : p.capacity ≤ p.active)
      (hgrow : p.canGrow = true) (hsize : p.size < p.maxLinks)
      (hmade : p.dialer.connect = (.ok connection, d)) : Room p (p.withLink connection d)

/-- The ways in which a claim can go: its answer and the pool after it. -/
inductive Claimed (p : SlotPool) : Except TransportError Nat → SlotPool → Prop where
  | closed (hclosed : p.closed = true) : Claimed p (.error .shuttingDown) p
  | full (hopen : p.closed = false) (hfull : p.capacity ≤ p.active)
      (hmax : p.canGrow = false ∨ p.maxLinks ≤ p.size) :
      Claimed p (.error (.exhausted (.allTaken p.active p.size p.capacity))) p
  | refused {refusal : Refusal} {d : Dialer} (hopen : p.closed = false)
      (hfull : p.capacity ≤ p.active) (hgrow : p.canGrow = true) (hsize : p.size < p.maxLinks)
      (hmade : p.dialer.connect = (.error refusal, d)) :
      Claimed p (.error refusal.error) { p with dialer := d }
  | granted {q : SlotPool} {i rotor : Nat} (hopen : p.closed = false) (hroom : p.Room q)
      (hsearch : findFree q.links q.slotsPerLink q.capacity q.rotor = (some i, rotor)) :
      Claimed p (.ok i) (q.withStream i rotor)
  | noneFree {q : SlotPool} {rotor : Nat} (hopen : p.closed = false) (hroom : p.Room q)
      (hsearch : findFree q.links q.slotsPerLink q.capacity q.rotor = (none, rotor)) :
      Claimed p (.error (.exhausted (.noneFree q.capacity q.size))) { q with rotor := rotor }

/-- How room is made: there is some, or it cannot be made, or the dialer decides. -/
theorem makeRoom_cases (p : SlotPool) :
    ((p.makeRoom).answer = .ok () ∧ p.Room p.makeRoom.next) ∨
    (p.capacity ≤ p.active ∧ (p.canGrow = false ∨ p.maxLinks ≤ p.size) ∧
      p.makeRoom.answer = .error (.exhausted (.allTaken p.active p.size p.capacity)) ∧
      p.makeRoom.next = p) ∨
    (p.capacity ≤ p.active ∧ p.canGrow = true ∧ p.size < p.maxLinks ∧
      ∃ refusal d, p.dialer.connect = (.error refusal, d) ∧
        p.makeRoom.answer = .error refusal.error ∧ p.makeRoom.next = { p with dialer := d }) := by
  unfold makeRoom
  split
  · rename_i hroom
    exact Or.inl ⟨rfl, .already hroom⟩
  · rename_i hroom
    have hfull : p.capacity ≤ p.active := Nat.le_of_not_lt hroom
    split
    · rename_i hgrow
      have hcan : p.canGrow = true := by
        cases h : p.canGrow <;> simp_all
      have hsize : p.size < p.maxLinks := by
        simpa [hcan] using hgrow
      -- the pool may grow, and now the dialer decides
      unfold grow
      cases hmade : p.dialer.connect with
      | mk made d =>
        cases made with
        | ok connection => exact Or.inl ⟨rfl, .grown hfull hcan hsize hmade⟩
        | error refusal =>
          exact Or.inr (Or.inr ⟨hfull, hcan, hsize, refusal, d, rfl, rfl, rfl⟩)
    · rename_i hgrow
      refine Or.inr (Or.inl ⟨hfull, ?_, rfl, rfl⟩)
      cases hcan : p.canGrow with
      | false => exact Or.inl rfl
      | true => exact Or.inr (by simpa [hcan] using hgrow)

/-- Every claim goes in one of the ways described. -/
theorem claim_claimed (p : SlotPool) : p.Claimed p.claim.answer p.claim.next := by
  unfold claim
  split
  · rename_i hclosed
    exact .closed hclosed
  · rename_i hclosed
    have hopen : p.closed = false := by simpa using hclosed
    -- with room there is a search, which may still fail as far as this goes
    rcases p.makeRoom_cases with
      ⟨hanswer, hroom⟩ | ⟨hfull, hmax, hanswer, hnext⟩ |
        ⟨hfull, hgrow, hsize, refusal, d, hmade, hanswer, hnext⟩
    · simp only [hanswer]
      unfold take
      split
      · rename_i i rotor hsearch
        exact .granted hopen hroom hsearch
      · rename_i rotor hsearch
        exact .noneFree hopen hroom hsearch
    · simp only [hanswer, hnext]
      exact .full hopen hfull hmax
    · simp only [hanswer, hnext]
      exact .refused hopen hfull hgrow hsize hmade

/-! ## What stays as it is -/

/-- Pools of one shape, whose dialers refuse alike. -/
structure Alike (p q : SlotPool) : Prop where
  slotsPerLink : q.slotsPerLink = p.slotsPerLink
  maxLinks : q.maxLinks = p.maxLinks
  canGrow : q.canGrow = p.canGrow
  refusal : q.dialer.refusal = p.dialer.refusal

namespace Alike

theorem refl (p : SlotPool) : Alike p p := ⟨rfl, rfl, rfl, rfl⟩

theorem trans {p q r : SlotPool} (hpq : Alike p q) (hqr : Alike q r) : Alike p r where
  slotsPerLink := hqr.slotsPerLink.trans hpq.slotsPerLink
  maxLinks := hqr.maxLinks.trans hpq.maxLinks
  canGrow := hqr.canGrow.trans hpq.canGrow
  refusal := hqr.refusal.trans hpq.refusal

end Alike

theorem Room.alike {p q : SlotPool} (h : p.Room q) : Alike p q := by
  cases h with
  | already _ => exact .refl p
  | grown _ _ _ hmade => exact ⟨rfl, rfl, rfl, Dialer.refusal_connect hmade⟩

theorem Room.closed {p q : SlotPool} (h : p.Room q) : q.closed = p.closed := by
  cases h <;> rfl

theorem Claimed.alike {p q : SlotPool} {answer : Except TransportError Nat}
    (h : p.Claimed answer q) : Alike p q := by
  cases h with
  | closed _ => exact .refl p
  | full _ _ _ => exact .refl p
  | refused _ _ _ _ hmade => exact ⟨rfl, rfl, rfl, Dialer.refusal_connect hmade⟩
  | granted _ hroom _ => exact hroom.alike.trans ⟨rfl, rfl, rfl, rfl⟩
  | noneFree _ hroom _ => exact hroom.alike.trans ⟨rfl, rfl, rfl, rfl⟩

theorem Claimed.closed_eq {p q : SlotPool} {answer : Except TransportError Nat}
    (h : p.Claimed answer q) : q.closed = p.closed := by
  cases h with
  | granted _ hroom _ => exact hroom.closed
  | noneFree _ hroom _ => exact hroom.closed
  | _ => rfl

theorem alike_claim (p : SlotPool) : Alike p p.claim.next := p.claim_claimed.alike

theorem closed_claim (p : SlotPool) : p.claim.next.closed = p.closed := p.claim_claimed.closed_eq

theorem alike_release (p : SlotPool) (i : Nat) : Alike p (p.release i) := ⟨rfl, rfl, rfl, rfl⟩

theorem alike_releases (places : List Nat) (p : SlotPool) :
    Alike p (places.foldl release p) := by
  induction places generalizing p with
  | nil => exact .refl p
  | cons i places ih => exact (p.alike_release i).trans (ih _)

theorem closed_releases (places : List Nat) (p : SlotPool) :
    (places.foldl release p).closed = p.closed := by
  induction places generalizing p with
  | nil => rfl
  | cons i places ih => exact ih _

theorem alike_closeLink (p : SlotPool) (i : Nat) : Alike p (p.closeLink i).next :=
  ⟨rfl, rfl, rfl, Links.refusal_closeAt p.links i p.dialer⟩

theorem alike_close (p : SlotPool) : Alike p p.close.next := by
  unfold close
  split
  · exact .refl p
  · exact ⟨rfl, rfl, rfl, Links.refusal_closeAll p.links p.dialer⟩

end SlotPool

/-! ## Desks -/

namespace Desk

theorem alike_claims (callers : Nat) (p : SlotPool) : p.Alike (claims callers p).next := by
  induction callers generalizing p with
  | zero => exact .refl p
  | succ callers ih => exact p.alike_claim.trans (ih _)

theorem closed_claims (callers : Nat) (p : SlotPool) :
    (claims callers p).next.closed = p.closed := by
  induction callers generalizing p with
  | zero => rfl
  | succ callers ih => exact (ih _).trans p.closed_claim

theorem pool_grantAll (places : List Nat) (d : Desk) : (grantAll places d).2.pool = d.pool := by
  induction places generalizing d with
  | nil => rfl
  | cons i places ih => exact ih _

theorem pool_claim (d : Desk) : d.claim.next.pool = d.pool.claim.next := by
  unfold claim
  simp only
  split <;> rfl

theorem pool_burst (d : Desk) (callers : Nat) :
    (d.burst callers).next.pool = (claims callers d.pool).next :=
  pool_grantAll _ _

/-- A move other than closing the pool leaves the shape and the temper of the dialer as they are,
and the pool as open as it was. -/
theorem alike_step (d : Desk) (m : Move) : d.pool.Alike (d.step m).pool := by
  cases m with
  | claim => exact d.pool_claim ▸ d.pool.alike_claim
  | burst callers => exact d.pool_burst callers ▸ alike_claims callers d.pool
  | abandon =>
    simp only [step, abandon]
    split
    · exact d.pool.alike_claim.trans (SlotPool.alike_release _ _)
    · exact d.pool.alike_claim
  | drop handle =>
    simp only [step, drop]
    split
    · exact .refl _
    · exact d.pool.alike_release _
  | dropAll => exact SlotPool.alike_releases d.live d.pool
  | closeLink link => exact d.pool.alike_closeLink link
  | closeLease handle =>
    simp only [step, closeLease]
    split
    · exact d.pool.alike_closeLink _
    · exact .refl _
  | close => exact d.pool.alike_close

/-- Only closing a pool closes it. -/
theorem closed_step (d : Desk) {m : Move} (hm : m ≠ .close) :
    (d.step m).pool.closed = d.pool.closed := by
  cases m with
  | claim => exact d.pool_claim ▸ d.pool.closed_claim
  | burst callers => exact d.pool_burst callers ▸ closed_claims callers d.pool
  | abandon =>
    simp only [step, abandon]
    split <;> exact d.pool.closed_claim
  | drop handle =>
    simp only [step, drop]
    split <;> rfl
  | dropAll => exact SlotPool.closed_releases d.live d.pool
  | closeLink link => rfl
  | closeLease handle =>
    simp only [step, closeLease]
    split <;> rfl
  | close => exact absurd rfl hm

theorem alike_run (d : Desk) (moves : List Move) : d.pool.Alike (d.run moves).pool := by
  induction moves generalizing d with
  | nil => exact .refl _
  | cons m moves ih => exact (d.alike_step m).trans (ih _)

theorem closed_run (d : Desk) {moves : List Move} (h : Move.close ∉ moves) :
    (d.run moves).pool.closed = d.pool.closed := by
  induction moves generalizing d with
  | nil => rfl
  | cons m moves ih =>
    rw [List.mem_cons, not_or] at h
    exact (ih (d.step m) h.2).trans (d.closed_step (Ne.symm h.1))

end Desk

end PubSub
