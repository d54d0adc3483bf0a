import PubSub.Proofs.Pool.Accounts
import PubSub.Proofs.Pool.Search

/-!
# Decisions

What decides about a claim: the number of held slots, the number of links and the dialer.  A pool
never compares the held slots with the largest number there may be, and the outcome is as if it did.

* `PoolShape.limit`: that number.
* `SlotPool.Claimed.decided`: the answer of a claim.
* `SlotPool.Admits`: what that means for the next claim, with any dialer.
* `Desk.admits_claims`: the same in the middle of a burst.
* `Desk.claims_faultless`: the answers of claims one after another, if the dialer never refuses.
-/

namespace PubSub

/-! ## Limits -/

namespace PoolShape

/-- The number of streams that a pool of a shape may carry. -/
def limit (s : PoolShape) : Nat := s.maxLinks * s.slotsPerLink

theorem slots_pos {s : PoolShape} (h : s.check = .ok ()) : 0 < s.slotsPerLink := by
  unfold check at h
  split at h
  · cases h
  · omega

/-- A pool that may not grow starts with all of its links. -/
theorem initialLinks_eq_maxLinks {s : PoolShape} (h : s.canGrow = false) :
    s.initialLinks = s.maxLinks := by
  unfold canGrow at h
  unfold initialLinks maxLinks
  cases hs : s.sizing with
  | fixed links => rfl
  | elastic budget => simp [hs] at h

/-- The limit of an elastic pool is its budget, rounded up to whole links. -/
theorem limit_elastic {s : PoolShape} {budget : Nat} (h : s.check = .ok ())
    (hsizing : s.sizing = .elastic budget) :
    budget ≤ s.limit ∧ s.limit < budget + s.slotsPerLink := by
  have hslots := s.slots_pos h
  have hbudget : 0 < budget := by
    rcases Nat.eq_zero_or_pos budget with rfl | hpos
    · simp [check, hsizing, Nat.ne_of_gt hslots] at h
    · exact hpos
  have hper : max s.slotsPerLink 1 = s.slotsPerLink := Nat.max_eq_left hslots
  have hlinks : s.maxLinks = (budget + s.slotsPerLink - 1) / s.slotsPerLink := by
    simp only [maxLinks, hsizing, hper]
    exact Nat.max_eq_left ((Nat.one_le_div_iff hslots).2 (by omega))
  have hdiv := Nat.div_add_mod (budget + s.slotsPerLink - 1) s.slotsPerLink
  have hmod := Nat.mod_lt (budget + s.slotsPerLink - 1) hslots
  rw [limit, hlinks, Nat.mul_comm]
  omega

end PoolShape

/-! ## Single claims -/

namespace SlotPool

/-- The answer of a claim on an open pool of a shape when so many slots are held. -/
inductive Decided (p : SlotPool) (shape : PoolShape) (held : Nat) :
    Except TransportError Nat → Prop where
  /-- There is a slot left. -/
  | spare (i : Nat) (h : held < p.size * shape.slotsPerLink) : Decided p shape held (.ok i)
  /-- All slots are held, and a link can be added. -/
  | grown (i connection : Nat) (h : held = p.size * shape.slotsPerLink)
      (hsize : p.size < shape.maxLinks) (hmade : p.dialer.connect.1 = .ok connection) :
      Decided p shape held (.ok i)
  /-- All slots are held, and the dialer refuses to add a link. -/
  | refused (refusal : Refusal) (h : held = p.size * shape.slotsPerLink)
      (hsize : p.size < shape.maxLinks) (hmade : p.dialer.connect.1 = .error refusal) :
      Decided p shape held (.error refusal.error)
  /-- All slots are held, and there are as many links as there may be. -/
  | full (h : held = shape.limit) (hsize : p.size = shape.maxLinks) :
      Decided p shape held (.error (.exhausted (.allTaken shape.limit shape.maxLinks shape.limit)))

section Decided

variable {p : SlotPool} {shape : PoolShape} {live : List Nat}

theorem Sized.capacity_eq (h : p.Sized shape) : p.capacity = p.size * shape.slotsPerLink :=
  congrArg (p.size * ·) h.slotsPerLink

/-- No pool carries more streams than it has slots. -/
theorem Tallied.length_le (htallied : p.Tallied live) : live.length ≤ p.capacity := by
  rw [← htallied.active_eq]
  have hle : ∀ l ∈ p.links, l.streams ≤ p.slotsPerLink := by
    intro l hl
    rcases List.mem_iff_getElem?.1 hl with ⟨i, hi⟩
    exact htallied.bounded i l hi
  exact Links.streams_le_mul hle

/-- The number of held slots, the number of links and the dialer decide about a claim; the search
for a free slot does not. -/
theorem Claimed.decided {q : SlotPool} {answer : Except TransportError Nat}
    (hclaimed : p.Claimed answer q) (htallied : p.Tallied live) (hsized : p.Sized shape)
    (hslots : 0 < shape.slotsPerLink) (hopen : p.closed = false)
    (hwrap : p.rotor + p.visits ≤ rotorPeriod) :
    p.Decided shape live.length answer := by
  have hactive : p.active = live.length := htallied.active_eq
  have hcapacity := hsized.capacity_eq
  have hle : live.length ≤ p.capacity := htallied.length_le
  have hpos : 0 < p.slotsPerLink := hsized.slotsPerLink.symm ▸ hslots
  cases hclaimed with
  | closed hclosed =>
    rw [hopen] at hclosed
    cases hclosed
  | full _ hfull hmax =>
    -- a pool that may not grow has all of its links
    have hsize : p.size = shape.maxLinks := by
      rcases hmax with hgrow | hmax
      · have hfixed := PoolShape.initialLinks_eq_maxLinks (hsized.canGrow ▸ hgrow)
        exact Nat.le_antisymm hsized.size_le (hfixed ▸ hsized.initialLinks_le)
      · exact Nat.le_antisymm hsized.size_le (hsized.maxLinks ▸ hmax)
    have hlimit : p.capacity = shape.limit := by
      rw [hcapacity, hsize, PoolShape.limit]
    have hheld : live.length = shape.limit := by
      omega
    rw [hactive.trans hheld, hlimit, hsize]
    exact .full hheld hsize
  | refused _ hfull _ hsize hmade =>
    refine .refused _ ?_ (hsized.maxLinks ▸ hsize) (congrArg Prod.fst hmade)
    omega
  | granted _ hroom _ =>
    cases hroom with
    | already hroom => exact .spare _ (by omega)
    | grown hfull _ hsize hmade =>
      refine .grown _ _ ?_ (hsized.maxLinks ▸ hsize) (congrArg Prod.fst hmade)
      omega
  | noneFree _ hroom hsearch =>
    -- this is the way that cannot be gone while the counter stays within its period
    exact absurd (congrArg Prod.fst hsearch) (hroom.findFree_ne_none hopen hpos hwrap)

namespace Decided

variable {held : Nat} {answer : Except TransportError Nat}

theorem granted_iff (h : p.Decided shape held answer) (hslots : 0 < shape.slotsPerLink)
    (hsize : p.size ≤ shape.maxLinks) :
    (∃ i, answer = .ok i) ↔
      held < shape.limit ∧
        ¬ (held = p.size * shape.slotsPerLink ∧ p.size < shape.maxLinks ∧
          ∃ refusal, p.dialer.connect.1 = .error refusal) := by
  have hcapacity : p.size * shape.slotsPerLink ≤ shape.limit := Nat.mul_le_mul_right _ hsize
  cases h with
  | spare i hspare =>
    refine ⟨fun _ => ⟨Nat.lt_of_lt_of_le hspare hcapacity, ?_⟩, fun _ => ⟨i, rfl⟩⟩
    rintro ⟨hfull, -⟩
    omega
  | grown i connection hfull hless hmade =>
    refine ⟨fun _ => ⟨?_, ?_⟩, fun _ => ⟨i, rfl⟩⟩
    · rw [hfull]
      exact Nat.mul_lt_mul_of_pos_right hless hslots
    · rintro ⟨-, -, refusal, hrefused⟩
      rw [hmade] at hrefused
      cases hrefused
  | refused refusal hfull hless hmade =>
    constructor
    · rintro ⟨i, hi⟩
      cases hi
    · rintro ⟨-, hnot⟩
      exact absurd ⟨hfull, hless, refusal, hmade⟩ hnot
  | full hfull hall =>
    constructor
    · rintro ⟨i, hi⟩
      cases hi
    · rintro ⟨hless, -⟩
      omega

/-- The error of a dialer that refuses to make a link that is needed is the answer. -/
theorem of_refused {refusal : Refusal} (h : p.Decided shape held answer)
    (hfull : held = p.size * shape.slotsPerLink) (hsize : p.size < shape.maxLinks)
    (hmade : p.dialer.connect.1 = .error refusal) : answer = .error refusal.error := by
  cases h with
  | spare _ hspare => exact absurd hspare (Nat.not_lt_of_le (Nat.le_of_eq hfull.symm))
  | grown _ _ _ _ hgrown =>
    rw [hmade] at hgrown
    cases hgrown
  | refused other _ _ hother =>
    rw [hmade] at hother
    cases hother
    rfl
  | full _ hall => exact absurd hall (Nat.ne_of_lt hsize)

/-- Without a slot that may be granted the answer says so. -/
theorem of_full (h : p.Decided shape held answer) (hslots : 0 < shape.slotsPerLink)
    (hsize : p.size ≤ shape.maxLinks) (hfull : ¬ held < shape.limit) :
    answer = .error (.exhausted (.allTaken shape.limit shape.maxLinks shape.limit)) := by
  have hcapacity : p.size * shape.slotsPerLink ≤ shape.limit := Nat.mul_le_mul_right _ hsize
  -- while links can be added, fewer slots are held than there may be
  have hgrowing : p.size < shape.maxLinks → p.size * shape.slotsPerLink < shape.limit :=
    fun hless => Nat.mul_lt_mul_of_pos_right hless hslots
  cases h with
  | spare _ hspare => exact absurd (Nat.lt_of_lt_of_le hspare hcapacity) hfull
  | grown _ _ hheld hless _ => exact absurd (hheld ▸ hgrowing hless) hfull
  | refused _ hheld hless _ => exact absurd (hheld ▸ hgrowing hless) hfull
  | full _ _ => rfl

/-- With a dialer that does not refuse, the number of held slots decides alone. -/
theorem of_faultless (h : p.Decided shape held answer) (hslots : 0 < shape.slotsPerLink)
    (hsize : p.size ≤ shape.maxLinks)
    (hdialer : ∀ tries made, p.dialer.refusal tries made = none) :
    (held < shape.limit ∧ ∃ i, answer = .ok i) ∨
      (held = shape.limit ∧
        answer = .error (.exhausted (.allTaken shape.limit shape.maxLinks shape.limit))) := by
  have hmakes : ∀ refusal, p.dialer.connect.1 ≠ .error refusal := by
    intro refusal
    simp [Dialer.connect, hdialer]
  cases h with
  | spare i hspare =>
    exact Or.inl ⟨Nat.lt_of_lt_of_le hspare (Nat.mul_le_mul_right _ hsize), i, rfl⟩
  | grown i connection hfull hless _ =>
    refine Or.inl ⟨?_, i, rfl⟩
    rw [hfull]
    exact Nat.mul_lt_mul_of_pos_right hless hslots
  | refused refusal _ _ hmade => exact absurd hmade (hmakes refusal)
  | full hfull _ => exact Or.inr ⟨hfull, rfl⟩

end Decided

/-- What is known about the next claim on a pool of a shape when so many slots are held. -/
structure Admits (p : SlotPool) (shape : PoolShape) (held : Nat) : Prop where
  /-- A slot is granted if fewer are held than there may be, unless a link is needed for it and the
  dialer refuses to make one. -/
  granted_iff : (∃ i, p.claim.answer = .ok i) ↔
    held < shape.limit ∧
      ¬ (held = p.size * shape.slotsPerLink ∧ p.size < shape.maxLinks ∧
        ∃ refusal, p.dialer.connect.1 = .error refusal)
  /-- If the dialer refuses, its error is the answer. -/
  refused : ∀ refusal, held = p.size * shape.slotsPerLink → p.size < shape.maxLinks →
    p.dialer.connect.1 = .error refusal → p.claim.answer = .error refusal.error
  /-- If as many slots are held as there may be, the answer says so. -/
  full : ¬ held < shape.limit →
    p.claim.answer = .error (.exhausted (.allTaken shape.limit shape.maxLinks shape.limit))
  /-- If there is room, the search for it succeeds. -/
  found : p.makeRoom.answer = .ok () → ∃ i, p.makeRoom.next.take.1 = .ok i

theorem Tallied.admits (htallied : p.Tallied live) (hsized : p.Sized shape)
    (hslots : 0 < shape.slotsPerLink) (hopen : p.closed = false)
    (hwrap : p.rotor + p.visits ≤ rotorPeriod) : p.Admits shape live.length := by
  have hdecided := p.claim_claimed.decided htallied hsized hslots hopen hwrap
  refine ⟨hdecided.granted_iff hslots hsized.size_le, ?_, ?_, ?_⟩
  · intro refusal hfull hsize hmade
    exact hdecided.of_refused hfull hsize hmade
  · intro hfull
    exact hdecided.of_full hslots hsized.size_le hfull
  · intro hroom
    have hpos : 0 < p.slotsPerLink := hsized.slotsPerLink.symm ▸ hslots
    rcases p.makeRoom_cases with ⟨-, hsearched⟩ | ⟨-, -, herror, -⟩ | ⟨-, -, -, _, _, -, herror, -⟩
    · -- a claim that made room goes on to search it
      have hsome := hsearched.findFree_ne_none hopen hpos hwrap
      unfold take
      split
      · exact ⟨_, rfl⟩
      · rename_i hnone
        exact absurd (congrArg Prod.fst hnone) hsome
    · rw [herror] at hroom
      cases hroom
    · rw [herror] at hroom
      cases hroom

end Decided

end SlotPool

/-! ## Claims one after another -/

namespace Desk

open SlotPool

/-- The number of links that claims visit one after another. -/
def claimsVisits : Nat → SlotPool → Nat
  | 0, _ => 0
  | callers + 1, p => p.visits + claimsVisits callers p.claim.next

/-- The number of slots that are granted to claims one after another. -/
def grants (callers : Nat) (p : SlotPool) : Nat :=
  ((claims callers p).answer.filterMap (·.toOption)).length

section Claims

variable {shape : PoolShape}

theorem grants_succ (callers : Nat) (p : SlotPool) :
    grants (callers + 1) p =
      p.claim.answer.toOption.toList.length + grants callers p.claim.next := by
  show ((p.claim.answer :: _).filterMap (·.toOption)).length = _
  cases p.claim.answer <;> simp [Except.toOption, grants, Nat.add_comm]

/-- The counter moves on by no more than the visits. -/
theorem rotor_claims_le (callers : Nat) (p : SlotPool) :
    (claims callers p).next.rotor ≤ p.rotor + claimsVisits callers p := by
  induction callers generalizing p with
  | zero => exact Nat.le_refl _
  | succ callers ih =>
    have hfirst := p.claim_claimed.rotor_le
    have hothers := ih p.claim.next
    rw [claimsVisits]
    exact Nat.le_trans hothers (by omega)

/-- After claims one after another, the next one is decided by the slots that are held then. -/
theorem admits_claims (callers : Nat) {p : SlotPool} {live : List Nat}
    (htallied : p.Tallied live) (hsized : p.Sized shape) (hslots : 0 < shape.slotsPerLink)
    (hopen : p.closed = false) (hwrap : p.rotor + claimsVisits (callers + 1) p ≤ rotorPeriod) :
    (claims callers p).next.Admits shape (live.length + grants callers p) := by
  induction callers generalizing p live with
  | zero => exact htallied.admits hsized hslots hopen hwrap
  | succ callers ih =>
    have hfirst := htallied.claimed p.claim_claimed
    have hmoved := p.claim_claimed.rotor_le
    rw [claimsVisits] at hwrap
    have hothers := ih hfirst (hsized.claimed p.claim_claimed) (p.closed_claim.trans hopen)
      (by omega)
    -- the slot of the first claim counts as held for the others
    rw [List.length_append] at hothers
    rw [grants_succ, ← Nat.add_assoc, Nat.add_comm live.length]
    exact hothers

/-- With a dialer that does not refuse, claims one after another are granted until as many slots
are held as there may be. -/
theorem claims_faultless (callers : Nat) {p : SlotPool} {live : List Nat}
    (htallied : p.Tallied live) (hsized : p.Sized shape) (hslots : 0 < shape.slotsPerLink)
    (hopen : p.closed = false) (hwrap : p.rotor + claimsVisits callers p ≤ rotorPeriod)
    (hdialer : ∀ tries made, p.dialer.refusal tries made = none) :
    grants callers p = min callers (shape.limit - live.length) ∧
      refusals (claims callers p).answer =
        List.replicate (callers - (shape.limit - live.length))
          (.exhausted (.allTaken shape.limit shape.maxLinks shape.limit)) := by
  induction callers generalizing p live with
  | zero => simp [grants, claims, refusals]
  | succ callers ih =>
    have hmoved := p.claim_claimed.rotor_le
    rw [claimsVisits] at hwrap
    have hdecided := p.claim_claimed.decided htallied hsized hslots hopen (by omega)
    have hothers := ih (htallied.claimed p.claim_claimed) (hsized.claimed p.claim_claimed)
      (p.closed_claim.trans hopen) (by omega) (by
        intro tries made
        rw [p.alike_claim.refusal]
        exact hdialer tries made)
    have hrefusals : refusals (claims (callers + 1) p).answer =
        refusals [p.claim.answer] ++ refusals (claims callers p.claim.next).answer :=
      List.filterMap_append (l := [p.claim.answer])
    rw [grants_succ, hrefusals]
    rcases hdecided.of_faultless hslots hsized.size_le hdialer with
      ⟨hless, i, hanswer⟩ | ⟨hfull, hanswer⟩
    · -- one slot less is left for the others
      have hheld : (p.claim.answer.toOption.toList ++ live).length = live.length + 1 := by
        rw [hanswer]
        rfl
      rw [hheld] at hothers
      rw [hothers.1, hothers.2, hanswer]
      refine ⟨?_, ?_⟩
      · show 1 + _ = _
        omega
      · show List.replicate _ _ = _
        congr 1
        omega
    · -- nothing is left, for the others neither
      have hheld : (p.claim.answer.toOption.toList ++ live).length = live.length := by
        rw [hanswer]
        rfl
      rw [hheld] at hothers
      rw [hothers.1, hothers.2, hanswer, hfull, Nat.sub_self]
      refine ⟨?_, ?_⟩
      · show 0 + _ = _
        omega
      · rfl

end Claims

end Desk

end PubSub
