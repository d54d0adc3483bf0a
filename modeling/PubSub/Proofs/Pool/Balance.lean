import Mathlib.Data.List.Induction
import PubSub.Proofs.Pool.Admission

/-!
# Balance

The streams that a pool counts are the slots that its callers hold.

The invariant ties the counter of every link to the list of held slots, so that a slot that leaks or
is given back twice would break it.  It says nothing about whether the pool or a link is open:
closing leaves the counters to the callers.

* `SlotPool.Tallied`: the invariant, for a pool and the places of the slots that are held.
* `SlotPool.Sized`: the pool has the shape it was built with, and a size that this allows.
* `SlotPool.Releasable`: slots can be given back in turn, each of them to a link that counts it.
-/

namespace PubSub

/-! ## Sums -/

namespace Links

/-- Links that count the held slots of their places count all held slots together. -/
theorem streams_eq_length {ls : List Link} {live : List Nat}
    (hcount : ∀ (i : Nat) (l : Link), ls[i]? = some l → l.streams = live.count i)
    (hwithin : ∀ i ∈ live, i < ls.length) : streams ls = live.length := by
  -- the last link counts the slots at the last place, the others count the rest
  induction ls using List.reverseRecOn generalizing live with
  | nil =>
    cases live with
    | nil => rfl
    | cons i live => exact absurd (hwithin i List.mem_cons_self) (Nat.not_lt_zero i)
  | append_singleton ks k ih =>
    let others := live.filter fun i => ¬ (i == ks.length)
    have hlast : k.streams = live.count ks.length := by
      apply hcount
      simp
    -- without those slots, the other links are links of the kind that the induction is about
    have hothers : streams ks = others.length := by
      apply ih
      · intro i l hl
        have hi : i < ks.length := (List.getElem?_eq_some_iff.1 hl).1
        have hne : (¬ (i == ks.length) : Bool) = true := by
          simpa using Nat.ne_of_lt hi
        have hsame : others.count i = live.count i := List.count_filter hne
        rw [hsame]
        apply hcount
        rw [List.getElem?_append_left hi]
        exact hl
      · intro i hi
        rcases List.mem_filter.1 hi with ⟨hmem, hne⟩
        have hlt : i < ks.length + 1 := by simpa using hwithin i hmem
        have hother : i ≠ ks.length := by simpa using hne
        omega
    have hsplit : live.length = live.count ks.length + others.length := by
      rw [List.count, ← List.countP_eq_length_filter]
      exact List.length_eq_countP_add_countP _
    calc
      streams (ks ++ [k]) = streams ks + k.streams := by simp [streams_append, streams]
      _ = live.length := by rw [hothers, hlast, hsplit, Nat.add_comm]

/-- A place among links to which one was added is an old place, or the new one. -/
theorem getElem?_concat_cases {ls : List Link} {l k : Link} {i : Nat}
    (h : (ls ++ [l])[i]? = some k) : ls[i]? = some k ∨ (i = ls.length ∧ k = l) := by
  rcases Nat.lt_trichotomy i ls.length with hlt | rfl | hgt
  · exact Or.inl ((List.getElem?_append_left hlt).symm.trans h)
  · rw [List.getElem?_concat_length] at h
    exact Or.inr ⟨rfl, (Option.some.inj h).symm⟩
  · have hnone : (ls ++ [l])[i]? = none := by
      apply List.getElem?_eq_none
      simpa using Nat.succ_le_of_lt hgt
    cases hnone.symm.trans h

/-- Links that differ from others in their connections only. -/
def SameCounts (ks ls : List Link) : Prop :=
  ks.length = ls.length ∧ ∀ (i : Nat) (k : Link), ks[i]? = some k →
    ∃ l, ls[i]? = some l ∧ k.id = l.id ∧ k.streams = l.streams

theorem sameCounts_closeAll (ls : List Link) (d : Dialer) :
    SameCounts (closeAll ls d).next.1 ls := by
  refine ⟨length_closeAll ls d, ?_⟩
  induction ls generalizing d with
  | nil =>
    intro i k hk
    cases hk
  | cons l ls ih =>
    intro i k hk
    -- the dialer has changed when the rest is closed; the counts do not depend on it
    cases i with
    | zero =>
      have hclosed : (l.close d).2.1 = k := Option.some.inj hk
      exact ⟨l, rfl, hclosed ▸ l.id_close d, hclosed ▸ l.streams_close d⟩
    | succ i => exact ih (l.close d).2.2 i k hk

theorem sameCounts_closeAt (ls : List Link) (i : Nat) (d : Dialer) :
    SameCounts (closeAt ls i d).next.1 ls := by
  unfold closeAt
  cases hl : ls[i]? with
  | none => exact ⟨rfl, fun _ k hk => ⟨k, hk, rfl, rfl⟩⟩
  | some l =>
    refine ⟨List.length_set, ?_⟩
    intro j k hk
    by_cases hij : i = j
    · subst hij
      have hset : (ls.set i (l.close d).2.1)[i]? = some (l.close d).2.1 :=
        List.getElem?_set_self (List.getElem?_eq_some_iff.1 hl).1
      have hclosed : (l.close d).2.1 = k := Option.some.inj (hset.symm.trans hk)
      exact ⟨l, hl, hclosed ▸ l.id_close d, hclosed ▸ l.streams_close d⟩
    · have hset : (ls.set i (l.close d).2.1)[j]? = ls[j]? := List.getElem?_set_ne hij
      exact ⟨k, hset.symm.trans hk, rfl, rfl⟩

end Links

/-- A pool does not start with more links than it may have. -/
theorem PoolShape.initialLinks_le_maxLinks (shape : PoolShape) :
    shape.initialLinks ≤ shape.maxLinks := by
  unfold initialLinks maxLinks
  split
  · exact Nat.le_refl _
  · exact Nat.le_max_right _ _

namespace SlotPool

/-! ## The invariant -/

/-- Every link is at its place, counts the held slots of that place, and holds no more of them than
it has; and there is a link for every held slot. -/
structure Tallied (p : SlotPool) (live : List Nat) : Prop where
  placed : ∀ (i : Nat) (l : Link), p.links[i]? = some l → l.id = i
  counted : ∀ (i : Nat) (l : Link), p.links[i]? = some l → l.streams = live.count i
  bounded : ∀ (i : Nat) (l : Link), p.links[i]? = some l → l.streams ≤ p.slotsPerLink
  within : ∀ i ∈ live, i < p.size

/-- A pool has the shape that it was built with, and a number of links that this allows. -/
structure Sized (p : SlotPool) (shape : PoolShape) : Prop where
  slotsPerLink : p.slotsPerLink = shape.slotsPerLink
  maxLinks : p.maxLinks = shape.maxLinks
  canGrow : p.canGrow = shape.canGrow
  initialLinks_le : shape.initialLinks ≤ p.size
  size_le : p.size ≤ shape.maxLinks

namespace Tallied

variable {p q : SlotPool} {live : List Nat}

theorem active_eq (h : p.Tallied live) : p.active = live.length :=
  Links.streams_eq_length h.counted h.within

theorem perm {live' : List Nat} (h : p.Tallied live) (hperm : live.Perm live') :
    p.Tallied live' where
  placed := h.placed
  counted := by
    intro i l hl
    rw [← hperm.count_eq]
    exact h.counted i l hl
  bounded := h.bounded
  within := fun i hi => h.within i (hperm.mem_iff.2 hi)

/-- The invariant looks at the numbers and the counters of the links only. -/
theorem congr (h : p.Tallied live) (hslots : q.slotsPerLink = p.slotsPerLink)
    (hlinks : Links.SameCounts q.links p.links) : q.Tallied live where
  placed := by
    intro i k hk
    rcases hlinks.2 i k hk with ⟨l, hl, hid, -⟩
    exact hid.trans (h.placed i l hl)
  counted := by
    intro i k hk
    rcases hlinks.2 i k hk with ⟨l, hl, -, hstreams⟩
    exact hstreams.trans (h.counted i l hl)
  bounded := by
    intro i k hk
    rcases hlinks.2 i k hk with ⟨l, hl, -, hstreams⟩
    rw [hstreams, hslots]
    exact h.bounded i l hl
  within := fun i hi => Nat.lt_of_lt_of_eq (h.within i hi) hlinks.1.symm

/-- A new link counts nothing, since no slot of its place was handed out yet. -/
theorem withLink (h : p.Tallied live) (connection : Nat) (d : Dialer) :
    (p.withLink connection d).Tallied live := by
  -- nobody can hold a slot of a place where there was no link
  have hnew : live.count p.size = 0 := by
    rw [List.count_eq_zero]
    intro hmem
    exact Nat.lt_irrefl _ (h.within p.size hmem)
  have hlinks : ∀ (i : Nat) (k : Link), (p.withLink connection d).links[i]? = some k →
      p.links[i]? = some k ∨
        (i = p.size ∧ k = { id := p.size, connection := some connection }) :=
    fun _ _ hk => Links.getElem?_concat_cases hk
  refine ⟨?_, ?_, ?_, ?_⟩
  · intro i k hk
    rcases hlinks i k hk with hold | ⟨rfl, rfl⟩
    · exact h.placed i k hold
    · rfl
  · intro i k hk
    rcases hlinks i k hk with hold | ⟨rfl, rfl⟩
    · exact h.counted i k hold
    · exact hnew.symm
  · intro i k hk
    rcases hlinks i k hk with hold | ⟨rfl, rfl⟩
    · exact h.bounded i k hold
    · exact Nat.zero_le _
  · intro i hi
    have hlt : i < p.size := h.within i hi
    have hsize := p.size_withLink connection d
    omega

/-- One link changes its counter, as the held slots of its place change, and no other does. -/
theorem modify {live' : List Nat} {f : Link → Link} {i : Nat} {l : Link} (h : p.Tallied live)
    (hl : p.links[i]? = some l) (hslots : q.slotsPerLink = p.slotsPerLink)
    (hlinks : q.links = p.links.modify i f) (hid : (f l).id = l.id)
    (hcount : (f l).streams = live'.count i) (hbound : (f l).streams ≤ p.slotsPerLink)
    (hothers : ∀ j, i ≠ j → live'.count j = live.count j)
    (hwithin : ∀ j ∈ live', j < p.size) : q.Tallied live' := by
  -- a link afterwards is the one that has changed, or an old one at another place
  have hcases : ∀ (j : Nat) (k : Link), q.links[j]? = some k →
      (i = j ∧ k = f l) ∨ (i ≠ j ∧ p.links[j]? = some k) := by
    intro j k hk
    rw [hlinks] at hk
    by_cases hij : i = j
    · subst hij
      rw [List.getElem?_modify_eq, hl] at hk
      exact Or.inl ⟨rfl, (Option.some.inj hk).symm⟩
    · rw [List.getElem?_modify_ne _ _ hij] at hk
      exact Or.inr ⟨hij, hk⟩
  refine ⟨?_, ?_, ?_, ?_⟩
  · intro j k hk
    rcases hcases j k hk with ⟨rfl, rfl⟩ | ⟨_, hold⟩
    · exact hid.trans (h.placed i l hl)
    · exact h.placed j k hold
  · intro j k hk
    rcases hcases j k hk with ⟨rfl, rfl⟩ | ⟨hij, hold⟩
    · exact hcount
    · exact (h.counted j k hold).trans (hothers j hij).symm
  · intro j k hk
    rw [hslots]
    rcases hcases j k hk with ⟨rfl, rfl⟩ | ⟨_, hold⟩
    · exact hbound
    · exact h.bounded j k hold
  · intro j hj
    have hsize : q.size = p.size := by
      simp [size, hlinks]
    exact hsize ▸ hwithin j hj

/-- A stream is counted at the place of the slot that is handed out for it. -/
theorem withStream {i : Nat} {l : Link} (h : p.Tallied live) (hl : p.links[i]? = some l)
    (hfree : l.streams < p.slotsPerLink) (rotor : Nat) :
    (p.withStream i rotor).Tallied (i :: live) := by
  refine h.modify (f := Link.claim) hl rfl rfl rfl ?_ hfree ?_ ?_
  · rw [List.count_cons_self, ← h.counted i l hl]
    rfl
  · intro j hij
    exact List.count_cons_of_ne hij
  · intro j hj
    rcases List.mem_cons.1 hj with rfl | hj
    · exact (List.getElem?_eq_some_iff.1 hl).1
    · exact h.within j hj

/-- A held slot can be given back: its link is there and counts it. -/
theorem exists_stream {i : Nat} (h : p.Tallied live) (hi : i ∈ live) :
    ∃ l, p.links[i]? = some l ∧ 0 < l.streams := by
  have hlt : i < p.links.length := h.within i hi
  refine ⟨p.links[i], List.getElem?_eq_getElem hlt, ?_⟩
  rw [h.counted i _ (List.getElem?_eq_getElem hlt)]
  exact List.count_pos_iff.2 hi

theorem release {i : Nat} (h : p.Tallied (i :: live)) : (p.release i).Tallied live := by
  rcases h.exists_stream List.mem_cons_self with ⟨l, hl, hpos⟩
  have hcount : l.streams = live.count i + 1 := by
    rw [h.counted i l hl, List.count_cons_self]
  refine h.modify (f := Link.release) hl rfl rfl rfl ?_ ?_ ?_ ?_
  · -- the slot that is given back was counted, so the subtraction takes one away
    show l.streams - 1 = live.count i
    omega
  · exact Nat.le_trans (Nat.sub_le _ _) (h.bounded i l hl)
  · intro j hij
    exact (List.count_cons_of_ne hij).symm
  · intro j hj
    exact h.within j (List.mem_cons_of_mem i hj)

/-- Slots can be given back one after another. -/
theorem releases {places : List Nat} (h : p.Tallied (places ++ live)) :
    (places.foldl SlotPool.release p).Tallied live := by
  induction places generalizing p with
  | nil => exact h
  | cons i places ih => exact ih h.release

theorem closeLink (h : p.Tallied live) (i : Nat) : (p.closeLink i).next.Tallied live :=
  h.congr rfl (Links.sameCounts_closeAt p.links i p.dialer)

theorem close (h : p.Tallied live) : p.close.next.Tallied live := by
  unfold SlotPool.close
  split
  · exact h
  · exact h.congr rfl (Links.sameCounts_closeAll p.links p.dialer)

theorem room (h : p.Tallied live) (hroom : p.Room q) : q.Tallied live := by
  cases hroom with
  | already _ => exact h
  | grown _ _ _ _ => exact h.withLink _ _

/-- A claim hands out the slot that it is answered with, and none if it is refused. -/
theorem claimed {answer : Except TransportError Nat} (h : p.Tallied live)
    (hclaim : p.Claimed answer q) : q.Tallied (answer.toOption.toList ++ live) := by
  cases hclaim with
  | closed _ => exact h
  | full _ _ _ => exact h
  | refused _ _ _ _ _ => exact ⟨h.placed, h.counted, h.bounded, h.within⟩
  | granted _ hroom hsearch =>
    -- the search ended at a link with a free slot, so the bound is kept
    rcases findFree_some hsearch with ⟨l, hl, hfree⟩
    exact (h.room hroom).withStream hl hfree _
  | noneFree _ hroom _ =>
    have hsearched := h.room hroom
    exact ⟨hsearched.placed, hsearched.counted, hsearched.bounded, hsearched.within⟩

end Tallied

namespace Sized

variable {p q : SlotPool} {shape : PoolShape}

/-- Pools of one shape and one size are sized alike. -/
theorem congr (h : p.Sized shape) (halike : p.Alike q) (hsize : q.size = p.size) :
    q.Sized shape where
  slotsPerLink := halike.slotsPerLink.trans h.slotsPerLink
  maxLinks := halike.maxLinks.trans h.maxLinks
  canGrow := halike.canGrow.trans h.canGrow
  initialLinks_le := hsize.symm ▸ h.initialLinks_le
  size_le := hsize.symm ▸ h.size_le

/-- A link may be added as long as there are not as many as the shape allows. -/
theorem withLink (h : p.Sized shape) (hsize : p.size < p.maxLinks) (connection : Nat)
    (d : Dialer) : (p.withLink connection d).Sized shape := by
  have hone := p.size_withLink connection d
  have hmax := h.maxLinks
  refine ⟨h.slotsPerLink, hmax, h.canGrow, ?_, ?_⟩
  · exact hone.symm ▸ Nat.le_succ_of_le h.initialLinks_le
  · omega

theorem room (h : p.Sized shape) (hroom : p.Room q) : q.Sized shape := by
  cases hroom with
  | already _ => exact h
  | grown _ _ hsize _ => exact h.withLink hsize _ _

theorem claimed {answer : Except TransportError Nat} (h : p.Sized shape)
    (hclaim : p.Claimed answer q) : q.Sized shape := by
  cases hclaim with
  | closed _ => exact h
  | full _ _ _ => exact h
  | refused hopen hfull hgrow hsize hmade =>
    exact h.congr (Claimed.refused hopen hfull hgrow hsize hmade).alike rfl
  | granted _ hroom _ =>
    exact (h.room hroom).congr ⟨rfl, rfl, rfl, rfl⟩ (List.length_modify _ _ _)
  | noneFree _ hroom _ => exact (h.room hroom).congr ⟨rfl, rfl, rfl, rfl⟩ rfl

theorem release (h : p.Sized shape) (i : Nat) : (p.release i).Sized shape :=
  h.congr (p.alike_release i) (List.length_modify _ _ _)

theorem releases (h : p.Sized shape) (places : List Nat) :
    (places.foldl SlotPool.release p).Sized shape := by
  induction places generalizing p with
  | nil => exact h
  | cons i places ih => exact ih (h.release i)

theorem closeLink (h : p.Sized shape) (i : Nat) : (p.closeLink i).next.Sized shape :=
  h.congr (p.alike_closeLink i) (Links.sameCounts_closeAt p.links i p.dialer).1

theorem close (h : p.Sized shape) : p.close.next.Sized shape := by
  refine h.congr p.alike_close ?_
  unfold SlotPool.close
  split
  · rfl
  · exact Links.length_closeAll p.links p.dialer

end Sized

/-! ## Releases -/

/-- Giving back slots of links at these places in turn finds a stream to end on each of them. -/
def Releasable : SlotPool → List Nat → Prop
  | _, [] => True
  | p, i :: places =>
    (∃ l, p.links[i]? = some l ∧ 0 < l.streams) ∧ Releasable (p.release i) places

theorem Tallied.releasable {p : SlotPool} {places live : List Nat}
    (h : p.Tallied (places ++ live)) : p.Releasable places := by
  induction places generalizing p with
  | nil => trivial
  | cons i places ih => exact ⟨h.exists_stream List.mem_cons_self, ih h.release⟩

end SlotPool

end PubSub
