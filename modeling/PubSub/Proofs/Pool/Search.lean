import Mathlib.Data.Nat.Find
import PubSub.Proofs.Pool.Balance

/-!
# Search

The search for a link with a free slot, mostly as long as the counter of visits does not start again
from zero in the middle of it.

* `SlotPool.searchVisits`, `SlotPool.visits`: how many links a search and a claim visit.
* `SlotPool.findFree_first`: a search ends at the first link with a free slot, counted round the
  links from the place of the counter.
* `SlotPool.findFree_of_free`: a search that may visit as many links as there are finds a free slot
  if there is one.
* `SlotPool.findFree_ne_none_of_twice`: so does a search that may visit twice as many, even if the
  counter starts again.
* `Links.exists_free`: there is one if there are fewer streams than slots.
-/

namespace PubSub

namespace Links

/-- Full links carry as many streams as they have slots. -/
theorem mul_le_streams {links : List Link} {slots : Nat} (h : ∀ l ∈ links, slots ≤ l.streams) :
    links.length * slots ≤ streams links := by
  induction links with
  | nil => simp [streams]
  | cons l links ih =>
    have hl : slots ≤ l.streams := h l List.mem_cons_self
    have hrest := ih fun k hk => h k (List.mem_cons_of_mem l hk)
    rw [List.length_cons, Nat.succ_mul, streams]
    omega

theorem streams_le_mul {links : List Link} {slots : Nat} (h : ∀ l ∈ links, l.streams ≤ slots) :
    streams links ≤ links.length * slots := by
  induction links with
  | nil => simp [streams]
  | cons l links ih =>
    have hl : l.streams ≤ slots := h l List.mem_cons_self
    have hrest := ih fun k hk => h k (List.mem_cons_of_mem l hk)
    rw [List.length_cons, Nat.succ_mul, streams]
    omega

/-- Among links with fewer streams than slots one has a free slot. -/
theorem exists_free {links : List Link} {slots : Nat} (h : streams links < links.length * slots) :
    ∃ (i : Nat) (l : Link), links[i]? = some l ∧ l.streams < slots := by
  by_contra hnone
  have hfull : ∀ l ∈ links, slots ≤ l.streams := by
    intro l hl
    rcases List.mem_iff_getElem?.1 hl with ⟨i, hi⟩
    by_contra hfree
    exact hnone ⟨i, l, hi, Nat.lt_of_not_le hfree⟩
  exact Nat.lt_irrefl _ (Nat.lt_of_lt_of_le h (mul_le_streams hfull))

end Links

/-- A counter takes every value of a cycle within one round from where it stands. -/
theorem exists_lt_add_mod_eq {size i : Nat} (h : i < size) (rotor : Nat) :
    ∃ k, k < size ∧ (rotor + k) % size = i := by
  have hsplit : size * (rotor / size) + rotor % size = rotor := Nat.div_add_mod rotor size
  have hrest : rotor % size < size := Nat.mod_lt _ (Nat.zero_lt_of_lt h)
  -- the place is still to come in this round of the counter, or else comes in the next one
  by_cases hle : rotor % size ≤ i
  · refine ⟨i - rotor % size, by omega, ?_⟩
    have hsum : rotor + (i - rotor % size) = size * (rotor / size) + i := by omega
    rw [hsum, Nat.mul_add_mod, Nat.mod_eq_of_lt h]
  · refine ⟨size + i - rotor % size, by omega, ?_⟩
    have hsum : rotor + (size + i - rotor % size) = size * (rotor / size + 1) + i := by
      rw [Nat.mul_succ]
      omega
    rw [hsum, Nat.mul_add_mod, Nat.mod_eq_of_lt h]

theorem nextVisit_of_lt {rotor : Nat} (h : rotor + 1 < rotorPeriod) :
    nextVisit rotor = rotor + 1 := Nat.mod_eq_of_lt h

namespace SlotPool

/-- Whether the link that is visited at a value of the counter has a free slot. -/
def FreeAt (links : List Link) (slots visit : Nat) : Prop :=
  ∃ l, links[visit % links.length]? = some l ∧ l.streams < slots

/-- The number of links that a search visits. -/
def searchVisits (links : List Link) (slots : Nat) : Nat → Nat → Nat
  | 0, _ => 0
  | visits + 1, rotor =>
    match links[rotor % links.length]? with
    | none => 1
    | some l =>
      if l.streams < slots then 1 else searchVisits links slots visits (nextVisit rotor) + 1

section Search

variable {links : List Link} {slots : Nat}

/-- A search is a visit, and the rest of the search if that was in vain. -/
theorem findFree_succ (hlinks : 0 < links.length) (visits rotor : Nat) :
    findFree links slots (visits + 1) rotor =
      match findFree links slots 1 rotor with
      | (some i, next) => (some i, next)
      | (none, next) => findFree links slots visits next := by
  have hlt : rotor % links.length < links.length := Nat.mod_lt rotor hlinks
  have hl : links[rotor % links.length]? = some links[rotor % links.length] :=
    List.getElem?_eq_getElem hlt
  by_cases hslot : links[rotor % links.length].streams < slots <;>
    simp only [findFree, hl, hslot, if_true, if_false]

/-- A search moves the counter on by the number of its visits. -/
theorem findFree_rotor {visits : Nat} (rotor : Nat) (h : 0 < visits) :
    (findFree links slots visits rotor).2 =
      (rotor + searchVisits links slots visits rotor) % rotorPeriod := by
  induction visits generalizing rotor with
  | zero => cases h
  | succ visits ih =>
    cases hl : links[rotor % links.length]? with
    | none => simp only [findFree, searchVisits, hl, nextVisit]
    | some l =>
      by_cases hslot : l.streams < slots
      · simp only [findFree, searchVisits, hl, if_pos hslot, nextVisit]
      · -- a visit in vain moves the counter on by one, and the rest of the search by its visits
        simp only [findFree, searchVisits, hl, if_neg hslot]
        cases visits with
        | zero => rfl
        | succ visits =>
          rw [ih (nextVisit rotor) (Nat.succ_pos visits), nextVisit, Nat.mod_add_mod,
            Nat.add_right_comm, Nat.add_assoc]

theorem searchVisits_pos {visits : Nat} (rotor : Nat) (h : 0 < visits) :
    0 < searchVisits links slots visits rotor := by
  cases visits with
  | zero => cases h
  | succ visits =>
    unfold searchVisits
    split
    · exact Nat.one_pos
    · split
      · exact Nat.one_pos
      · exact Nat.succ_pos _

/-- A search has no more visits than it may have. -/
theorem searchVisits_le_visits (links : List Link) (slots visits rotor : Nat) :
    searchVisits links slots visits rotor ≤ visits := by
  induction visits generalizing rotor with
  | zero => exact Nat.le_refl _
  | succ visits ih =>
    unfold searchVisits
    split
    · exact Nat.succ_pos _
    · split
      · exact Nat.succ_pos _
      · exact Nat.succ_le_succ (ih _)

/-- One visit moves the counter on by one. -/
theorem findFree_one_rotor {found : Option Nat} {rotor next : Nat}
    (h : findFree links slots 1 rotor = (found, next)) : next = (rotor + 1) % rotorPeriod := by
  have hone : searchVisits links slots 1 rotor = 1 :=
    Nat.le_antisymm (searchVisits_le_visits _ _ _ _) (searchVisits_pos rotor Nat.one_pos)
  rw [← hone, ← findFree_rotor rotor Nat.one_pos, h]

/-- A link that is visited and not free is there, if there is any link. -/
theorem exists_full {visit : Nat} (hlinks : 0 < links.length)
    (hfull : ¬ FreeAt links slots visit) :
    ∃ l, links[visit % links.length]? = some l ∧ ¬ l.streams < slots := by
  have hlt : visit % links.length < links.length := Nat.mod_lt _ hlinks
  refine ⟨links[visit % links.length], List.getElem?_eq_getElem hlt, ?_⟩
  intro hfree
  exact hfull ⟨_, List.getElem?_eq_getElem hlt, hfree⟩

/-- Visits to full links are followed by another one, while the search may go on. -/
theorem lt_searchVisits {visits rotor n : Nat} (hlinks : 0 < links.length) (hn : n < visits)
    (hfull : ∀ j < n, ¬ FreeAt links slots (rotor + j)) (hwrap : rotor + n ≤ rotorPeriod) :
    n < searchVisits links slots visits rotor := by
  -- on the number of full links that were visited; the search moves on from each of them
  induction n generalizing visits rotor with
  | zero => exact searchVisits_pos rotor hn
  | succ n ih =>
    rcases Nat.exists_eq_succ_of_ne_zero (Nat.ne_of_gt (Nat.zero_lt_of_lt hn)) with ⟨visits, rfl⟩
    rcases exists_full hlinks (hfull 0 (Nat.succ_pos n)) with ⟨l, hl, hbusy⟩
    have hvisits : searchVisits links slots (visits + 1) rotor =
        searchVisits links slots visits (nextVisit rotor) + 1 := by
      rw [searchVisits, show links[rotor % links.length]? = some l from hl]
      exact if_neg hbusy
    rw [Nat.succ_eq_add_one, hvisits]
    refine Nat.succ_lt_succ ?_
    cases n with
    | zero => exact searchVisits_pos _ (Nat.lt_of_succ_lt_succ hn)
    | succ n =>
      rw [nextVisit_of_lt (by omega)]
      apply ih (Nat.lt_of_succ_lt_succ hn)
      · intro j hj
        rw [Nat.add_assoc, Nat.add_comm 1 j]
        exact hfull (j + 1) (Nat.succ_lt_succ hj)
      · omega

/-- A search ends at the first link with a free slot, counted from the place of the counter. -/
theorem findFree_first {visits rotor k : Nat} (hk : k < visits)
    (hwrap : rotor + k < rotorPeriod) (hfree : FreeAt links slots (rotor + k))
    (hfull : ∀ j < k, ¬ FreeAt links slots (rotor + j)) :
    findFree links slots visits rotor =
      (some ((rotor + k) % links.length), nextVisit (rotor + k)) := by
  have hlinks : 0 < links.length := by
    rcases hfree with ⟨l, hl, -⟩
    exact Nat.zero_lt_of_lt (List.getElem?_eq_some_iff.1 hl).1
  -- on the distance from the counter to the free link
  induction k generalizing visits rotor with
  | zero =>
    rcases Nat.exists_eq_succ_of_ne_zero (Nat.ne_of_gt hk) with ⟨visits, rfl⟩
    rcases hfree with ⟨l, hl, hslot⟩
    rw [Nat.add_zero] at hl
    simp only [findFree, hl, if_pos hslot, Nat.add_zero]
  | succ k ih =>
    rcases Nat.exists_eq_succ_of_ne_zero (Nat.ne_of_gt (Nat.zero_lt_of_lt hk)) with ⟨visits, rfl⟩
    rcases exists_full hlinks (hfull 0 (Nat.succ_pos k)) with ⟨l, hl, hbusy⟩
    rw [Nat.add_zero] at hl
    have hnext : nextVisit rotor = rotor + 1 := nextVisit_of_lt (by omega)
    have hshift : ∀ j, rotor + 1 + j = rotor + (j + 1) := by
      intro j
      omega
    simp only [findFree, hl, if_neg hbusy, hnext]
    rw [ih (Nat.lt_of_succ_lt_succ hk) (hshift k ▸ hwrap) (hshift k ▸ hfree)
      (fun j hj => hshift j ▸ hfull (j + 1) (Nat.succ_lt_succ hj)), hshift k]

/-- Round the links from any place there is a first link with a free slot, if there is one. -/
theorem exists_first_free {i : Nat} {l : Link} (hl : links[i]? = some l)
    (hslot : l.streams < slots) (rotor : Nat) :
    ∃ k, k < links.length ∧ FreeAt links slots (rotor + k) ∧
      ∀ j < k, ¬ FreeAt links slots (rotor + j) := by
  classical
  have hi : i < links.length := (List.getElem?_eq_some_iff.1 hl).1
  rcases exists_lt_add_mod_eq hi rotor with ⟨k, hk, hmod⟩
  have hex : ∃ k, FreeAt links slots (rotor + k) := ⟨k, l, hmod.symm ▸ hl, hslot⟩
  refine ⟨Nat.find hex, ?_, Nat.find_spec hex, fun j hj => Nat.find_min hex hj⟩
  exact Nat.lt_of_le_of_lt (Nat.find_min' hex ⟨l, hmod.symm ▸ hl, hslot⟩) hk

/-- A search that does not take the counter past its period does not do so before it comes to the
first free link. -/
theorem add_lt_rotorPeriod {visits rotor k : Nat} (hlinks : 0 < links.length) (hk : k < visits)
    (hfull : ∀ j < k, ¬ FreeAt links slots (rotor + j))
    (hwrap : rotor + searchVisits links slots visits rotor ≤ rotorPeriod) :
    rotor + k < rotorPeriod := by
  -- otherwise the search has to pass the end of the period on its way
  by_contra hpast
  have hn : rotorPeriod - rotor < searchVisits links slots visits rotor := by
    apply lt_searchVisits hlinks
    · omega
    · intro j hj
      exact hfull j (by omega)
    · omega
  omega

/-- A search that may visit every link, and does not take the counter past its period, finds the
first link with a free slot if there is one. -/
theorem findFree_of_free {visits rotor i : Nat} {l : Link} (hl : links[i]? = some l)
    (hslot : l.streams < slots) (hvisits : links.length ≤ visits)
    (hwrap : rotor + searchVisits links slots visits rotor ≤ rotorPeriod) :
    ∃ k, k < links.length ∧ FreeAt links slots (rotor + k) ∧
      (∀ j < k, ¬ FreeAt links slots (rotor + j)) ∧
      findFree links slots visits rotor =
        (some ((rotor + k) % links.length), nextVisit (rotor + k)) := by
  rcases exists_first_free hl hslot rotor with ⟨k, hk, hfree, hfull⟩
  have hmay : k < visits := Nat.lt_of_lt_of_le hk hvisits
  have hunwrapped := add_lt_rotorPeriod (Nat.zero_lt_of_lt hk) hmay hfull hwrap
  exact ⟨k, hk, hfree, hfull, findFree_first hmay hunwrapped hfree hfull⟩

/-- A search that meets full links only until the counter has run through its period goes on from
zero. -/
theorem findFree_wrap {visits rotor n : Nat} (hlinks : 0 < links.length) (hn : n < visits)
    (hend : rotor + (n + 1) = rotorPeriod)
    (hfull : ∀ j < n + 1, ¬ FreeAt links slots (rotor + j)) :
    findFree links slots visits rotor = findFree links slots (visits - (n + 1)) 0 := by
  -- on the number of links that are visited before the end of the period
  induction n generalizing visits rotor with
  | zero =>
    rcases Nat.exists_eq_succ_of_ne_zero (Nat.ne_of_gt hn) with ⟨visits, rfl⟩
    rcases exists_full hlinks (hfull 0 Nat.one_pos) with ⟨l, hl, hbusy⟩
    rw [Nat.add_zero] at hl
    have hnext : nextVisit rotor = 0 := by
      rw [nextVisit, hend, Nat.mod_self]
    simp only [findFree, hl, if_neg hbusy, hnext]
    rfl
  | succ n ih =>
    rcases Nat.exists_eq_succ_of_ne_zero (Nat.ne_of_gt (Nat.zero_lt_of_lt hn)) with ⟨visits, rfl⟩
    rcases exists_full hlinks (hfull 0 (Nat.succ_pos _)) with ⟨l, hl, hbusy⟩
    rw [Nat.add_zero] at hl
    have hnext : nextVisit rotor = rotor + 1 := nextVisit_of_lt (by omega)
    have hothers : ∀ j < n + 1, ¬ FreeAt links slots (rotor + 1 + j) := by
      intro j hj
      rw [Nat.add_assoc, Nat.add_comm 1 j]
      exact hfull (j + 1) (Nat.succ_lt_succ hj)
    simp only [findFree, hl, if_neg hbusy, hnext]
    rw [ih (Nat.lt_of_succ_lt_succ hn) (by omega) hothers]
    congr 1
    omega

/-- A search that may visit every link twice finds a free slot if there is one, wherever the counter
starts again: one of the two rounds is without a break. -/
theorem findFree_ne_none_of_twice {visits rotor i : Nat} {l : Link} (hl : links[i]? = some l)
    (hslot : l.streams < slots) (hvisits : 2 * links.length ≤ visits)
    (hperiod : links.length ≤ rotorPeriod) (hrotor : rotor < rotorPeriod) :
    (findFree links slots visits rotor).1 ≠ none := by
  rcases exists_first_free hl hslot rotor with ⟨k, hk, hfree, hfull⟩
  by_cases hwrap : rotor + k < rotorPeriod
  · rw [findFree_first (by omega) hwrap hfree hfull]
    exact Option.some_ne_none _
  · -- the counter starts again before it comes to the free link
    have hend : rotor + (rotorPeriod - rotor - 1 + 1) = rotorPeriod := by omega
    rw [findFree_wrap (Nat.zero_lt_of_lt hk) (by omega) hend fun j hj => hfull j (by omega)]
    rcases exists_first_free hl hslot 0 with ⟨m, hm, hagain, hbefore⟩
    rw [findFree_first (by omega) (by omega) hagain hbefore]
    exact Option.some_ne_none _

end Search

/-! ## Claims -/

/-- The number of links that a claim visits. -/
def visits (p : SlotPool) : Nat :=
  if p.closed then 0
  else
    match p.makeRoom.answer with
    | .error _ => 0
    | .ok () =>
      searchVisits p.makeRoom.next.links p.makeRoom.next.slotsPerLink p.makeRoom.next.capacity
        p.makeRoom.next.rotor

theorem Room.eq_makeRoom {p q : SlotPool} (h : p.Room q) :
    p.makeRoom.answer = .ok () ∧ p.makeRoom.next = q := by
  cases h with
  | already hroom => simp [makeRoom, hroom]
  | grown hfull hgrow hsize hmade =>
    have hroom : ¬ p.active < p.capacity := Nat.not_lt_of_le hfull
    simp [makeRoom, hroom, hgrow, hsize, grow, hmade, withLink]

theorem Room.visits_eq {p q : SlotPool} (h : p.Room q) (hopen : p.closed = false) :
    p.visits = searchVisits q.links q.slotsPerLink q.capacity q.rotor := by
  rcases h.eq_makeRoom with ⟨hanswer, rfl⟩
  simp [visits, hopen, hanswer]

theorem Room.rotor {p q : SlotPool} (h : p.Room q) : q.rotor = p.rotor := by
  cases h <;> rfl

theorem findFree_rotor_le (links : List Link) (slots budget rotor : Nat) :
    (findFree links slots budget rotor).2 ≤ rotor + searchVisits links slots budget rotor := by
  cases budget with
  | zero => exact Nat.le_refl _
  | succ budget =>
    rw [findFree_rotor rotor (Nat.succ_pos budget)]
    exact Nat.mod_le _ _

/-- A claim moves the counter on by no more than its visits. -/
theorem Claimed.rotor_le {p q : SlotPool} {answer : Except TransportError Nat}
    (h : p.Claimed answer q) : q.rotor ≤ p.rotor + p.visits := by
  -- only a claim that gets to the search moves the counter at all
  cases h with
  | @granted r i rotor hopen hroom hsearch =>
    have hle := findFree_rotor_le r.links r.slotsPerLink r.capacity r.rotor
    rw [hsearch, ← hroom.visits_eq hopen, hroom.rotor] at hle
    exact hle
  | @noneFree r rotor hopen hroom hsearch =>
    have hle := findFree_rotor_le r.links r.slotsPerLink r.capacity r.rotor
    rw [hsearch, ← hroom.visits_eq hopen, hroom.rotor] at hle
    exact hle
  | _ => exact Nat.le_add_right _ _

/-- In the pool that a claim searches there is a free slot. -/
theorem Room.exists_free {p q : SlotPool} (h : p.Room q) (hslots : 0 < p.slotsPerLink) :
    ∃ (i : Nat) (l : Link), q.links[i]? = some l ∧ l.streams < q.slotsPerLink := by
  cases h with
  | already hroom => exact Links.exists_free hroom
  | grown hfull hgrow hsize hmade =>
    exact ⟨p.size, _, List.getElem?_concat_length, hslots⟩

/-- A claim on an open pool does not search in vain while the counter stays within its period. -/
theorem Room.findFree_ne_none {p q : SlotPool} (h : p.Room q) (hopen : p.closed = false)
    (hslots : 0 < p.slotsPerLink) (hwrap : p.rotor + p.visits ≤ rotorPeriod) :
    (findFree q.links q.slotsPerLink q.capacity q.rotor).1 ≠ none := by
  rcases h.exists_free hslots with ⟨i, l, hl, hslot⟩
  have hbudget : q.links.length ≤ q.capacity :=
    Nat.le_mul_of_pos_right _ (Nat.zero_lt_of_lt hslot)
  rw [h.visits_eq hopen, ← h.rotor] at hwrap
  rcases findFree_of_free hl hslot hbudget hwrap with ⟨k, -, -, -, hfound⟩
  rw [hfound]
  exact Option.some_ne_none _

end SlotPool

end PubSub
