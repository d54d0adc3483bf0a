import Mathlib.Data.Int.CardIntervalMod
import PubSub.Proofs.Pool.Turns

/-!
# Round robin

Which link a claim takes, and how the links share the claims of a run.

A claim visits the links in turn, from where the last claim stopped, and takes the first one with a
free slot.  So no claim passes over a free link: as long as a link keeps a free slot, every claim
that takes another link comes closer to it, and it has its turn before the claims have gone round
all links.

* `SlotPool.Tallied.takes_first`: the link that a claim takes, and the number of its visits.
* `SlotPool.Filled.claim`: a claim goes on with the round in which a new fixed pool is filled.
* `Desk.filled_turnsIn`: claims alone fill such a pool evenly.
* `Desk.length_granted_le`: how long a free link can wait.
* `claims_go_round`: all of this for the turns of any run.
-/

namespace PubSub

namespace SlotPool

/-! ## The link that a claim takes -/

section Search

variable {links : List Link} {slots : Nat}

/-- A search goes no further than to a free link. -/
theorem searchVisits_le {visits rotor k : Nat} (hwrap : rotor + k < rotorPeriod)
    (hfree : FreeAt links slots (rotor + k)) :
    searchVisits links slots visits rotor ≤ k + 1 := by
  induction visits generalizing rotor k with
  | zero => exact Nat.zero_le _
  | succ visits ih =>
    unfold searchVisits
    split
    · exact Nat.le_add_left _ _
    · rename_i l hl
      split
      · exact Nat.le_add_left _ _
      · rename_i hbusy
        -- the link that is visited now is full, so the free one is still to come
        cases k with
        | zero =>
          rcases hfree with ⟨l', hl', hslot⟩
          rw [Nat.add_zero, hl] at hl'
          cases hl'
          exact absurd hslot hbusy
        | succ k =>
          have hshift : rotor + 1 + k = rotor + (k + 1) := by omega
          rw [nextVisit_of_lt (by omega)]
          exact Nat.succ_le_succ (ih (hshift ▸ hwrap) (hshift ▸ hfree))

theorem searchVisits_first {visits rotor k : Nat} (hk : k < visits)
    (hwrap : rotor + k < rotorPeriod) (hfree : FreeAt links slots (rotor + k))
    (hfull : ∀ j < k, ¬ FreeAt links slots (rotor + j)) :
    searchVisits links slots visits rotor = k + 1 := by
  have hlinks : 0 < links.length := by
    rcases hfree with ⟨l, hl, -⟩
    exact Nat.zero_lt_of_lt (List.getElem?_eq_some_iff.1 hl).1
  exact Nat.le_antisymm (searchVisits_le hwrap hfree)
    (lt_searchVisits hlinks hk hfull (Nat.le_of_lt hwrap))

end Search

namespace Tallied

variable {p q : SlotPool} {live : List Nat}

/-- A link has a free slot if fewer slots of its place are held. -/
theorem freeAt_iff (h : q.Tallied live) (hlinks : 0 < q.size) (visit : Nat) :
    FreeAt q.links q.slotsPerLink visit ↔ live.count (visit % q.size) < q.slotsPerLink := by
  have hlt : visit % q.links.length < q.links.length := Nat.mod_lt _ hlinks
  have hl := List.getElem?_eq_getElem hlt
  have hcount := h.counted _ _ hl
  constructor
  · rintro ⟨l, hl', hslot⟩
    rw [hl] at hl'
    cases hl'
    exact hcount ▸ hslot
  · intro hslot
    exact ⟨_, hl, hcount.symm ▸ hslot⟩

/-- A claim that is granted takes the first link with a free slot, counted from the place of the
counter round the links that there are after the claim, and visits the links up to this one. -/
theorem takes_first {i : Nat} (h : p.Tallied live) (hslots : 0 < p.slotsPerLink)
    (hwrap : p.rotor + p.visits ≤ rotorPeriod) (hanswer : p.claim.answer = .ok i) :
    ∃ k < p.claim.next.size,
      i = (p.rotor + k) % p.claim.next.size ∧
      live.count i < p.slotsPerLink ∧
      (∀ j < k, ¬ live.count ((p.rotor + j) % p.claim.next.size) < p.slotsPerLink) ∧
      p.visits = k + 1 := by
  have hclaim := p.claim_claimed
  rw [hanswer] at hclaim
  generalize p.claim.next = r at hclaim ⊢
  cases hclaim with
  | @granted q i rotor hopen hroom hsearch =>
    have hsize := q.size_withStream i rotor
    have hsame : q.slotsPerLink = p.slotsPerLink := hroom.alike.slotsPerLink
    have hsearched : q.Tallied live := h.room hroom
    rcases hroom.exists_free hslots with ⟨_, _, hl, hslot⟩
    have hlinks : 0 < q.size := Nat.zero_lt_of_lt (List.getElem?_eq_some_iff.1 hl).1
    have hbudget : q.links.length ≤ q.capacity :=
      Nat.le_mul_of_pos_right _ (Nat.zero_lt_of_lt hslot)
    have hvisits := hroom.visits_eq hopen
    have hwithin := hwrap
    rw [hvisits, ← hroom.rotor] at hwithin
    rcases findFree_of_free hl hslot hbudget hwithin with ⟨k, hk, hfree, hfull, hfound⟩
    rw [hsearch] at hfound
    have hplace : i = (q.rotor + k) % q.links.length := by
      have hboth := congrArg Prod.fst hfound
      exact Option.some.inj hboth
    have hmay : k < q.capacity := Nat.lt_of_lt_of_le hk hbudget
    have hunwrapped : q.rotor + k < rotorPeriod := add_lt_rotorPeriod hlinks hmay hfull hwithin
    rw [hsize, ← hsame, ← hroom.rotor]
    refine ⟨k, hk, hplace, ?_, ?_, ?_⟩
    · rw [hplace]
      exact (hsearched.freeAt_iff hlinks _).1 hfree
    · intro j hj hslot
      exact hfull j hj ((hsearched.freeAt_iff hlinks _).2 hslot)
    · rw [hvisits]
      exact searchVisits_first hmay hunwrapped hfree hfull

end Tallied

end SlotPool

/-! ## Claims alone -/

/-- So many places, round the links from the first one. -/
def roundPlaces (links granted : Nat) : List Nat := (List.range granted).map (· % links)

theorem roundPlaces_succ (links granted : Nat) :
    roundPlaces links (granted + 1) = roundPlaces links granted ++ [granted % links] := by
  simp [roundPlaces, List.range_succ]

/-- Going round the links comes to each of them once a round, and once more to those that it has
passed in the last one. -/
theorem count_roundPlaces {links i : Nat} (hi : i < links) (granted : Nat) :
    (roundPlaces links granted).count i =
      granted / links + if i < granted % links then 1 else 0 := by
  have hlinks : 0 < links := Nat.zero_lt_of_lt hi
  have hsame : i % links = i := Nat.mod_eq_of_lt hi
  calc
    (roundPlaces links granted).count i
        = (List.range granted).countP (fun j => j % links == i) := by
          rw [roundPlaces, List.count, List.countP_map]
          rfl
    _ = granted.count (· ≡ i [MOD links]) := by
          rw [Nat.count]
          apply List.countP_congr
          intro j _
          simp [Nat.ModEq, hsame]
    _ = granted / links + if i < granted % links then 1 else 0 := by
          rw [Nat.count_modEq_card _ hlinks, hsame]

namespace SlotPool

/-- An open fixed pool of so many links on which so many slots were granted, round the links, and
all of them are held. -/
structure Filled (shape : PoolShape) (links granted : Nat) (p : SlotPool) : Prop where
  sized : p.Sized shape
  opened : p.closed = false
  tallied : p.Tallied (roundPlaces links granted)
  rotor : p.rotor = granted % rotorPeriod
  within : granted ≤ links * shape.slotsPerLink

theorem size_of_fixed {shape : PoolShape} {links : Nat} {p : SlotPool}
    (hsizing : shape.sizing = .fixed links) (h : p.Sized shape) : p.size = links := by
  have hinitial : shape.initialLinks = links := by
    simp only [PoolShape.initialLinks, hsizing]
  have hmax : shape.maxLinks = links := by
    simp only [PoolShape.maxLinks, hsizing]
  exact Nat.le_antisymm (hmax ▸ h.size_le) (hinitial ▸ h.initialLinks_le)

namespace Filled

variable {shape : PoolShape} {links granted : Nat} {p : SlotPool}

theorem wrap (h : p.Filled shape links granted) (hwrap : granted + p.visits ≤ rotorPeriod) :
    p.rotor + p.visits ≤ rotorPeriod := by
  rw [h.rotor]
  exact Nat.le_trans (Nat.add_le_add_right (Nat.mod_le _ _) _) hwrap

/-- While slots are left, the next claim takes the link whose turn it is. -/
theorem claim_spare (h : p.Filled shape links granted) (hsizing : shape.sizing = .fixed links)
    (hslots : 0 < shape.slotsPerLink) (hless : granted < links * shape.slotsPerLink)
    (hwrap : granted + p.visits ≤ rotorPeriod) :
    p.claim.answer = .ok (granted % links) ∧ p.visits = 1 ∧
      p.claim.next.Filled shape links (granted + 1) := by
  have hsize : p.size = links := size_of_fixed hsizing h.sized
  have hmax : shape.maxLinks = links := by
    simp only [PoolShape.maxLinks, hsizing]
  have hheld : (roundPlaces links granted).length = granted := by
    simp [roundPlaces]
  have hlinks : 0 < links := Nat.pos_of_mul_pos_right (Nat.zero_lt_of_lt hless)
  have hwithin := h.wrap hwrap
  -- a fixed pool grants a slot as long as one is left
  have hgranted : ∃ i, p.claim.answer = .ok i := by
    rw [(h.tallied.admits h.sized hslots h.opened hwithin).granted_iff, hheld]
    refine ⟨?_, ?_⟩
    · rw [PoolShape.limit, hmax]
      exact hless
    · rintro ⟨-, hgrow, -⟩
      omega
  rcases hgranted with ⟨i, hanswer⟩
  have hsized : p.claim.next.Sized shape := h.sized.claimed p.claim_claimed
  rcases h.tallied.takes_first (h.sized.slotsPerLink.symm ▸ hslots) hwithin hanswer with
    ⟨k, -, hplace, -, hfull, hvisits⟩
  have hunwrapped : p.rotor = granted := by
    rw [h.rotor]
    exact Nat.mod_eq_of_lt (by omega)
  rw [size_of_fixed hsizing hsized, hunwrapped, h.sized.slotsPerLink] at hfull
  rw [size_of_fixed hsizing hsized, hunwrapped] at hplace
  -- the link whose turn it is has had all rounds but this one
  have hfree : (roundPlaces links granted).count (granted % links) < shape.slotsPerLink := by
    rw [count_roundPlaces (Nat.mod_lt _ hlinks), if_neg (Nat.lt_irrefl _)]
    exact Nat.div_lt_of_lt_mul hless
  obtain rfl : k = 0 := by
    by_contra hk
    exact hfull 0 (Nat.pos_of_ne_zero hk) hfree
  refine ⟨hplace ▸ hanswer, hvisits, hsized, p.closed_claim.trans h.opened, ?_, ?_, hless⟩
  · have hclaimed := h.tallied.claimed p.claim_claimed
    rw [hanswer, hplace] at hclaimed
    rw [roundPlaces_succ]
    exact hclaimed.perm List.perm_append_comm
  · rw [rotor_claim (h.rotor ▸ Nat.mod_lt _ (by decide)), hunwrapped, hvisits]

/-- Once all slots are held, a claim changes nothing. -/
theorem claim_full (h : p.Filled shape links (links * shape.slotsPerLink))
    (hsizing : shape.sizing = .fixed links) (hslots : 0 < shape.slotsPerLink)
    (hwrap : links * shape.slotsPerLink + p.visits ≤ rotorPeriod) :
    (∃ e, p.claim.answer = .error e) ∧ p.visits = 0 ∧ p.claim.next = p := by
  have hmax : shape.maxLinks = links := by
    simp only [PoolShape.maxLinks, hsizing]
  have hheld : (roundPlaces links (links * shape.slotsPerLink)).length =
      links * shape.slotsPerLink := by
    simp [roundPlaces]
  have hwithin := h.wrap hwrap
  cases hanswer : p.claim.answer with
  | ok i =>
    have hless := ((h.tallied.admits h.sized hslots h.opened hwithin).granted_iff.1 ⟨i, hanswer⟩).1
    rw [hheld, PoolShape.limit, hmax] at hless
    exact absurd hless (Nat.lt_irrefl _)
  | error e =>
    rcases refused_cases (h.sized.slotsPerLink.symm ▸ hslots) hwithin hanswer with
      ⟨hvisits, ⟨-, -, hnext⟩ | ⟨-, -, -, -, hnext⟩ | ⟨hwants, -⟩⟩
    · exact ⟨⟨e, rfl⟩, hvisits, hnext⟩
    · exact ⟨⟨e, rfl⟩, hvisits, hnext⟩
    · -- no link is wanted, since all links of a fixed pool are there
      have hsize := hwants.size_lt
      rw [size_of_fixed hsizing h.sized, h.sized.maxLinks, hmax] at hsize
      exact absurd hsize (Nat.lt_irrefl _)

/-- A claim goes on with the round, unless all slots are held. -/
theorem claim (h : p.Filled shape links granted) (hsizing : shape.sizing = .fixed links)
    (hslots : 0 < shape.slotsPerLink) (hwrap : granted + p.visits ≤ rotorPeriod) :
    let after := min (granted + 1) (links * shape.slotsPerLink)
    roundPlaces links granted ++ p.claim.answer.toOption.toList = roundPlaces links after ∧
      granted + p.visits = after ∧ p.claim.next.Filled shape links after := by
  intro after
  by_cases hless : granted < links * shape.slotsPerLink
  · have hafter : after = granted + 1 := Nat.min_eq_left hless
    rcases h.claim_spare hsizing hslots hless hwrap with ⟨hanswer, hvisits, hnext⟩
    rw [hafter, hanswer, hvisits, roundPlaces_succ]
    exact ⟨rfl, rfl, hnext⟩
  · obtain rfl : granted = links * shape.slotsPerLink :=
      Nat.le_antisymm h.within (Nat.le_of_not_lt hless)
    have hafter : after = links * shape.slotsPerLink := Nat.min_eq_right (Nat.le_succ _)
    rcases h.claim_full hsizing hslots hwrap with ⟨⟨e, hanswer⟩, hvisits, hnext⟩
    rw [hafter, hanswer, hvisits, hnext]
    exact ⟨List.append_nil _, rfl, h⟩

/-- The numbers of streams on two links differ by one at most. -/
theorem streams_le (h : p.Filled shape links granted) (hsizing : shape.sizing = .fixed links)
    {i j : Nat} {k l : Link} (hk : p.links[i]? = some k) (hl : p.links[j]? = some l) :
    k.streams ≤ l.streams + 1 := by
  have hsize : p.links.length = links := size_of_fixed hsizing h.sized
  have hi : i < links := hsize ▸ (List.getElem?_eq_some_iff.1 hk).1
  have hj : j < links := hsize ▸ (List.getElem?_eq_some_iff.1 hl).1
  rw [h.tallied.counted i k hk, h.tallied.counted j l hl, count_roundPlaces hi,
    count_roundPlaces hj]
  split <;> split <;> omega

end Filled

end SlotPool

namespace Desk

open SlotPool

section Filled

variable {shape : PoolShape} {links held : Nat} {d : Desk}

/-- Callers one after another go on with the round until all slots are held. -/
theorem filled_turnsOf (callers : Nat) (h : d.pool.Filled shape links held)
    (hsizing : shape.sizing = .fixed links) (hslots : 0 < shape.slotsPerLink)
    (hwrap : held + turnVisits (turnsOf callers d) ≤ rotorPeriod) :
    let after := min (held + callers) (links * shape.slotsPerLink)
    roundPlaces links held ++ granted (turnsOf callers d) = roundPlaces links after ∧
      held + turnVisits (turnsOf callers d) = after ∧
      (claims callers d.pool).next.Filled shape links after := by
  intro after
  induction callers generalizing d held with
  | zero =>
    have hafter : after = held := Nat.min_eq_left h.within
    rw [hafter]
    exact ⟨List.append_nil _, rfl, h⟩
  | succ callers ih =>
    rw [turnsOf, turnVisits] at hwrap
    rcases h.claim hsizing hslots (by omega) with ⟨hplaces, hvisits, hnext⟩
    rw [← d.pool_claim] at hnext
    rcases ih hnext (by omega) with ⟨hothers, hmore, hlast⟩
    have hafter : min (min (held + 1) (links * shape.slotsPerLink) + callers)
        (links * shape.slotsPerLink) = after := by
      omega
    rw [hafter] at hothers hmore hlast
    refine ⟨?_, ?_, ?_⟩
    · rw [turnsOf, granted_cons, ← List.append_assoc, hplaces, hothers]
    · rw [turnsOf, turnVisits, ← Nat.add_assoc, hvisits, hmore]
    · rw [d.pool_claim] at hlast
      exact hlast

/-- Claims and bursts alone go on with the round until all slots are held. -/
theorem filled_turnsIn {moves : List Move} (h : d.pool.Filled shape links held)
    (hsizing : shape.sizing = .fixed links) (hslots : 0 < shape.slotsPerLink)
    (hmoves : ∀ m ∈ moves, m = .claim ∨ ∃ callers, m = .burst callers)
    (hwrap : held + turnVisits (d.turnsIn moves) ≤ rotorPeriod) :
    let after := min (held + (d.turnsIn moves).length) (links * shape.slotsPerLink)
    roundPlaces links held ++ granted (d.turnsIn moves) = roundPlaces links after ∧
      (d.run moves).pool.Filled shape links after := by
  intro after
  induction moves generalizing d held with
  | nil =>
    have hafter : after = held := Nat.min_eq_left h.within
    rw [hafter]
    exact ⟨List.append_nil _, h⟩
  | cons m moves ih =>
    -- a claim is a burst of one caller
    have hcallers : ∃ callers, d.turns m = turnsOf callers d ∧
        (d.step m).pool = (claims callers d.pool).next := by
      rcases hmoves m List.mem_cons_self with rfl | ⟨callers, rfl⟩
      · exact ⟨1, rfl, d.pool_claim⟩
      · exact ⟨callers, rfl, d.pool_burst callers⟩
    rcases hcallers with ⟨callers, hturns, hpool⟩
    rw [turnsIn, hturns, turnVisits_append] at hwrap
    rcases filled_turnsOf callers h hsizing hslots (by omega) with ⟨hplaces, hvisits, hnext⟩
    rw [← hpool] at hnext
    rcases ih hnext (fun m hm => hmoves m (List.mem_cons_of_mem _ hm)) (by omega) with
      ⟨hothers, hlast⟩
    have hlength : (d.turnsIn (m :: moves)).length =
        callers + ((d.step m).turnsIn moves).length := by
      rw [turnsIn, hturns, List.length_append, length_turnsOf]
    have hafter : min (min (held + callers) (links * shape.slotsPerLink) +
        ((d.step m).turnsIn moves).length) (links * shape.slotsPerLink) = after := by
      omega
    rw [hafter] at hothers hlast
    refine ⟨?_, hlast⟩
    rw [turnsIn, hturns, granted_append, ← List.append_assoc, hplaces, hothers]

end Filled

/-! ## Free links -/

section Waiting

variable {size i : Nat}

/-- A turn at which the link at a place has a free slot and which leaves so many links. -/
structure FreeTurn (size i : Nat) (a : Desk) : Prop where
  tallied : a.pool.Tallied a.live
  slots_pos : 0 < a.pool.slotsPerLink
  size_eq : a.pool.claim.next.size = size
  free : a.live.count i < a.pool.slotsPerLink

/-- While the number of links stays the same, a link that keeps a free slot and gets no claim is
passed by no more grants than there are links before it. -/
theorem length_granted_le {p : SlotPool} {turns : List Desk} {visited distance : Nat}
    (h : Leads p turns) (hfree : ∀ a ∈ turns, a.FreeTurn size i)
    (hrotor : p.rotor = visited % rotorPeriod) (hwrap : visited + turnVisits turns ≤ rotorPeriod)
    (hplace : (visited + distance) % size = i) (hnever : i ∉ granted turns) :
    (granted turns).length ≤ distance := by
  induction turns generalizing p visited distance with
  | nil => exact Nat.zero_le _
  | cons a turns ih =>
    rw [turnVisits] at hwrap
    rw [granted_cons, List.mem_append, not_or] at hnever
    rw [granted_cons, List.length_append]
    have hturn := hfree a List.mem_cons_self
    have hothers : ∀ b ∈ turns, b.FreeTurn size i := fun b hb => hfree b (List.mem_cons_of_mem a hb)
    have hcounter : a.pool.rotor = visited % rotorPeriod := h.1.rotor.trans hrotor
    have hwithin : a.pool.rotor + a.pool.visits ≤ rotorPeriod := by
      rw [hcounter]
      exact Nat.le_trans (Nat.add_le_add_right (Nat.mod_le _ _) _) (by omega)
    have hnext : a.pool.claim.next.rotor = (visited + a.pool.visits) % rotorPeriod := by
      rw [rotor_claim (hcounter ▸ Nat.mod_lt _ (by decide)), hcounter, Nat.mod_add_mod]
    cases hanswer : a.pool.claim.answer with
    | error e =>
      -- a claim that is refused leaves the counter where it is
      have hvisits := (refused_cases hturn.slots_pos hwithin hanswer).1
      rw [hvisits, Nat.add_zero] at hnext
      have hrest := ih h.2 hothers hnext (by omega) hplace hnever.2
      exact Nat.le_trans (Nat.le_of_eq (Nat.zero_add _)) hrest
    | ok j =>
      rcases hturn.tallied.takes_first hturn.slots_pos hwithin hanswer with
        ⟨k, -, htaken, -, hfull, hvisits⟩
      have hunwrapped : a.pool.rotor = visited := by
        rw [hcounter]
        exact Nat.mod_eq_of_lt (by omega)
      rw [hturn.size_eq, hunwrapped] at htaken hfull
      have hother : j ≠ i := by
        rintro rfl
        exact hnever.1 (by simp [hanswer, Except.toOption])
      -- the link that is taken comes before the free one, which was neither full nor taken
      have hbefore : k < distance := by
        rcases Nat.lt_trichotomy k distance with hlt | rfl | hgt
        · exact hlt
        · exact absurd (htaken.trans hplace) hother
        · exact absurd (hplace.symm ▸ hturn.free) (hfull distance hgt)
      have hshift : visited + a.pool.visits + (distance - a.pool.visits) = visited + distance := by
        omega
      have hrest := ih h.2 hothers hnext (by omega) (hshift.symm ▸ hplace) hnever.2
      show 1 + _ ≤ distance
      omega

/-- While the number of links stays the same, a link that keeps a free slot is among any grants in
turn that are as many as there are links. -/
theorem mem_of_free {p : SlotPool} {turns : List Desk} {window : List Nat} (hi : i < size)
    (h : Leads p turns) (hfree : ∀ a ∈ turns, a.FreeTurn size i) (hrotor : p.rotor < rotorPeriod)
    (hwrap : p.rotor + turnVisits turns ≤ rotorPeriod) (hwindow : window <:+: granted turns)
    (hlong : size ≤ window.length) : i ∈ window := by
  rcases hwindow with ⟨before, after, hgranted⟩
  rw [granted] at hgranted
  rcases List.filterMap_eq_append_iff.1 hgranted.symm with ⟨front, last, rfl, hfront, -⟩
  rcases List.filterMap_eq_append_iff.1 hfront with ⟨first, turns, rfl, -, hturns⟩
  have hturns : granted turns = window := hturns
  -- the turns of the window follow those before it, so its counter is known
  rcases (h.start).rest hrotor with ⟨q, hq, hcounter⟩
  rw [turnVisits_append, turnVisits_append] at hwrap
  rcases exists_lt_add_mod_eq hi (p.rotor + turnVisits first) with ⟨distance, hdistance, hplace⟩
  by_contra hnever
  have hlength := length_granted_le hq
    (fun a ha => hfree a (List.mem_append_left _ (List.mem_append_right _ ha))) hcounter
    (by omega) hplace (hturns.symm ▸ hnever)
  rw [hturns] at hlength
  omega

end Waiting

end Desk

/-! ## Round robin -/

/-- A claim of a desk is granted the slot that the pool takes. -/
theorem Desk.link_of_claim {d : Desk} {grant : Grant} (h : d.claim.answer = .ok grant) :
    d.pool.claim.answer = .ok grant.link := by
  unfold claim at h
  simp only at h
  split at h
  · cases h
  · rename_i link hlink
    cases h
    exact hlink

/-- Any run of moves on a pool that could be made, whatever its dialer does, as long as the counter
of visits has not started again from zero.

Whenever a claim is granted, alone, in a burst or for a caller who is gone by then, it takes the
first link with a free slot, counted from the place of the counter round the links that there are
after the claim.  It visits no link twice and moves the counter on by its visits.

If the pool is fixed and callers do nothing but claim, the slots are granted round the links from
the first one until all are held, and no link ever has two streams more than another.

In any stretch of a run in which no link is added, a link that has a free slot whenever something is
claimed gets at least one of any grants in turn that are as many as there are links. -/
theorem claims_go_round {shape : PoolShape} {scheduler : Bool} {dialer : Dialer} {start : Desk}
    (hbuilt : (Desk.build shape scheduler dialer).answer = .ok start) {moves : List Move}
    (hwrap : start.visited moves ≤ rotorPeriod) :
    (∀ a ∈ start.turnsIn moves, ∀ grant, a.claim.answer = .ok grant →
      let size := a.claim.next.pool.size
      ∃ passed < size, grant.link = (a.pool.rotor + passed) % size ∧
        a.live.count grant.link < shape.slotsPerLink ∧
        (∀ j < passed, ¬ a.live.count ((a.pool.rotor + j) % size) < shape.slotsPerLink) ∧
        a.pool.visits = passed + 1 ∧
        a.claim.next.pool.rotor = (a.pool.rotor + (passed + 1)) % rotorPeriod) ∧
    (∀ links, shape.sizing = .fixed links →
      (∀ m ∈ moves, m = .claim ∨ ∃ callers, m = .burst callers) →
      Desk.granted (start.turnsIn moves) =
        (List.range (min (start.turnsIn moves).length (links * shape.slotsPerLink))).map
          (· % links) ∧
      ∀ (i j : Nat) (k l : Link), (start.run moves).pool.links[i]? = some k →
        (start.run moves).pool.links[j]? = some l → k.streams ≤ l.streams + 1) ∧
    ∀ before stretch, moves = before ++ stretch →
      let d := start.run before
      (start.run moves).pool.size = d.pool.size →
      ∀ i < d.pool.size, (∀ a ∈ d.turnsIn stretch, a.live.count i < shape.slotsPerLink) →
        ∀ window, window <:+: Desk.granted (d.turnsIn stretch) →
          d.pool.size ≤ window.length → i ∈ window := by
  rcases Desk.fresh_of_build hbuilt with ⟨hfresh, -⟩
  have hslots : 0 < shape.slotsPerLink := shape.slots_pos hfresh.checked
  have htallied : start.pool.Tallied start.live := Desk.tallied_of_build hbuilt
  have hcounter : start.pool.rotor = 0 := hfresh.unvisited
  refine ⟨?_, ?_, ?_⟩
  · intro a ha grant hanswer size
    rcases Desk.turn_of_build hbuilt hwrap ha with ⟨hheld, hshape, hpos, hwithin⟩
    rcases hheld.takes_first hpos hwithin (Desk.link_of_claim hanswer) with
      ⟨passed, hpassed, hplace, hfree, hfull, hvisits⟩
    have hsize : size = a.pool.claim.next.size := congrArg SlotPool.size a.pool_claim
    have hrotor : a.pool.rotor < rotorPeriod := by omega
    rw [← hsize] at hpassed hplace hfull
    rw [hshape.slotsPerLink] at hfree hfull
    refine ⟨passed, hpassed, hplace, hfree, hfull, hvisits, ?_⟩
    rw [a.pool_claim, SlotPool.rotor_claim hrotor, hvisits]
  · intro links hsizing hmoves
    have hfilled : start.pool.Filled shape links 0 :=
      ⟨hfresh.sized, hfresh.notClosed, hfresh.tallied, hcounter, Nat.zero_le _⟩
    rw [← start.turnVisits_turnsIn] at hwrap
    rcases Desk.filled_turnsIn hfilled hsizing hslots hmoves (by omega) with ⟨hgranted, hrun⟩
    rw [Nat.zero_add] at hgranted hrun
    exact ⟨hgranted, fun i j k l hk hl => hrun.streams_le hsizing hk hl⟩
  · rintro before stretch rfl d hsize i hi hfree window hwindow hlong
    have hrun : (start.run (before ++ stretch)).pool = (d.run stretch).pool := by
      simp [Desk.run, d]
    have hleads := start.leads_turnsIn (before ++ stretch)
    rw [start.turnsIn_append] at hleads
    rcases hleads.rest (hcounter ▸ (by decide)) with ⟨q, hq, hrotor⟩
    rw [← start.turnVisits_turnsIn, start.turnsIn_append, Desk.turnVisits_append] at hwrap
    refine Desk.mem_of_free hi hq ?_ (hrotor ▸ Nat.mod_lt _ (by decide)) ?_ hwindow hlong
    · intro a ha
      have hshape := Desk.sized_turn (Desk.sized_run hfresh.sized before) stretch a ha
      refine ⟨Desk.tallied_turn (Desk.tallied_run htallied before) stretch a ha,
        hshape.slotsPerLink.symm ▸ hslots, ?_, hshape.slotsPerLink.symm ▸ hfree a ha⟩
      -- the number of links does not go down, and ends as it began
      have hleast := d.le_size_turn stretch a ha
      have hgrown := a.pool.claim_claimed.size_le
      have hmost := d.size_turn_le stretch a ha
      rw [← hrun, hsize] at hmost
      omega
    · rw [hrotor, hcounter]
      exact Nat.le_trans (Nat.add_le_add_right (Nat.mod_le _ _) _) (by omega)

/-- A fixed pool of two links with two slots each. -/
def pairShape : PoolShape where
  sizing := .fixed 2
  slotsPerLink := 2

/-- The desk that such a pool starts with. -/
def pairDesk : Desk where
  pool :=
    { slotsPerLink := 2, maxLinks := 2, canGrow := false
      links := [{ id := 0, connection := some 0 }, { id := 1, connection := some 1 }]
      dialer := { Dialer.faultless with calls := 2, created := 2 } }

/-- The first link stays full, so both of the last two claims go to the second one. -/
theorem claims_go_round_pair :
    (Desk.build pairShape true .faultless).answer = .ok pairDesk ∧
    pairDesk.visited ([.burst 3] ++ [.abandon, .claim]) ≤ rotorPeriod ∧
    Desk.granted (pairDesk.turnsIn [.burst 3]) = (List.range 3).map (· % 2) ∧
    (pairDesk.run [.burst 3]).live.count 0 = 2 ∧
    1 ∈ Desk.granted ((pairDesk.run [.burst 3]).turnsIn [.abandon, .claim]) := by
  have hbuilt : (Desk.build pairShape true .faultless).answer = .ok pairDesk := rfl
  have hwrap : pairDesk.visited ([.burst 3] ++ [.abandon, .claim]) ≤ rotorPeriod := by decide
  have hfirst : pairDesk.visited [.burst 3] ≤ rotorPeriod := by decide
  have heven := (claims_go_round hbuilt hfirst).2.1 2 rfl (by simp)
  have hfair := (claims_go_round hbuilt hwrap).2.2 [.burst 3] [.abandon, .claim] rfl (by decide)
    1 (by decide) (by decide) _ List.infix_rfl (by decide)
  exact ⟨hbuilt, hwrap, heven.1, by decide, hfair⟩

end PubSub
