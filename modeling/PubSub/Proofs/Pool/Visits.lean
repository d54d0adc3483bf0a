import PubSub.Proofs.Pool.Decision
import PubSub.Proofs.Pool.Interleaving

/-!
# Visits

The visits of a clerk who searches for a free slot, counted over a whole run.

A search begins when there is a free slot, and whatever happens during the search, there is no slot
fewer until it takes one.  So the search finds a slot, unless the counter of visits starts again
from zero on the way and the rest of the search misses the one link that is free; and this cannot
happen where a search may go round its links twice.

* `Queue.visited`: the number of visits during a run.
* `Queue.Searches`: the counter of visits, and what is known of a search that is under way.
* `Queue.searches_run`: the invariant after every run.
* `Queue.Searches.wrapped`: a search that ends in vain.
-/

namespace PubSub

namespace Links

/-- Links that have at least the free slots of others. -/
def Freer (ks ls : List Link) : Prop :=
  ks.length = ls.length ∧ ∀ (i : Nat) (l : Link), ls[i]? = some l →
    ∃ k, ks[i]? = some k ∧ k.streams ≤ l.streams

theorem Freer.refl (ls : List Link) : Freer ls ls := ⟨rfl, fun _ l hl => ⟨l, hl, Nat.le_refl _⟩⟩

theorem SameCounts.freer {ks ls : List Link} (h : SameCounts ks ls) : Freer ks ls := by
  refine ⟨h.1, ?_⟩
  intro i l hl
  have hi : i < ks.length := h.1.symm ▸ (List.getElem?_eq_some_iff.1 hl).1
  have hk : ks[i]? = some ks[i] := List.getElem?_eq_getElem hi
  rcases h.2 i _ hk with ⟨l', hl', -, hstreams⟩
  cases hl.symm.trans hl'
  exact ⟨_, hk, Nat.le_of_eq hstreams⟩

theorem freer_release (ls : List Link) (i : Nat) : Freer (ls.modify i Link.release) ls := by
  refine ⟨List.length_modify _ _ _, ?_⟩
  intro j l hl
  by_cases hij : i = j
  · subst hij
    exact ⟨l.release, by rw [List.getElem?_modify_eq, hl]; rfl, Nat.sub_le _ _⟩
  · exact ⟨l, by rw [List.getElem?_modify_ne _ _ hij, hl], Nat.le_refl _⟩

end Links

namespace SlotPool

variable {links : List Link} {slots : Nat}

/-- Where more slots are free, a search is not in vain either. -/
theorem findFree_ne_none_of_freer {others : List Link} (h : Links.Freer others links) {visits : Nat}
    {rotor : Nat} (hfound : (findFree links slots visits rotor).1 ≠ none) :
    (findFree others slots visits rotor).1 ≠ none := by
  induction visits generalizing rotor with
  | zero => exact absurd rfl hfound
  | succ visits ih =>
    cases hl : links[rotor % links.length]? with
    | none => exact absurd (by simp only [findFree, hl]) hfound
    | some l =>
      rcases h.2 _ l hl with ⟨k, hk, hless⟩
      rw [← h.1] at hk
      by_cases hslot : k.streams < slots
      · simp [findFree, hk, hslot]
      · have hbusy : ¬ l.streams < slots := fun hfree =>
          hslot (Nat.lt_of_le_of_lt hless hfree)
        simp only [findFree, hl, if_neg hbusy] at hfound
        simp only [findFree, hk, if_neg hslot]
        exact ih hfound

end SlotPool

/-- Whether a search may go round all links twice while the counter of visits runs through its
period once at most. -/
def PoolShape.Twice (shape : PoolShape) : Prop :=
  2 ≤ shape.slotsPerLink ∧ shape.maxLinks ≤ rotorPeriod

namespace Queue

variable {q : Queue} {shape : PoolShape} {before : Nat}

/-- The number of links that are visited in a step. -/
def visit (q : Queue) : QueueMove → Nat
  | .serve =>
    match q.clerk with
    | .searching _ (_ + 1) _ => 1
    | _ => 0
  | _ => 0

/-- The number of links that are visited during a run. -/
def visited (q : Queue) : List QueueMove → Nat
  | [] => 0
  | m :: moves => q.visit m + (q.step m).next.visited moves

theorem visited_append (q : Queue) (before later : List QueueMove) :
    q.visited (before ++ later) = q.visited before + (q.run before).next.visited later := by
  induction before generalizing q with
  | nil => simp [visited, run]
  | cons m before ih => simp [visited, run, ih, Nat.add_assoc]

theorem visit_eq_zero {m : QueueMove} (hm : m ≠ .serve) : q.visit m = 0 := by
  cases m with
  | serve => exact absurd rfl hm
  | _ => rfl

theorem visit_of_idle (hidle : q.clerk.deciding = false) : q.visit .serve = 0 := by
  simp only [visit]
  split
  · rename_i hclerk
    rw [hclerk] at hidle
    cases hidle
  · rfl

/-- A step that is not the clerk's neither takes a slot nor visits a link. -/
theorem frees_step (q : Queue) {m : QueueMove} (hm : m ≠ .serve) :
    Links.Freer (q.step m).next.desk.pool.links q.desk.pool.links ∧
      (q.step m).next.desk.pool.rotor = q.desk.pool.rotor ∧
      Passes q.clerk (q.step m).next.clerk := by
  have heffect := q.step_effect m
  have hclerk := q.clerk_step hm
  generalize (q.step m).next = r, q.told m = places at heffect hclerk ⊢
  cases heffect with
  | quiet hpool _ hpasses => rw [hpool]; exact ⟨.refl _, rfl, hpasses⟩
  | proceeded hproceeds _ =>
    -- a claim would have brought the clerk on
    rcases hclerk with hsame | ⟨⟨caller, answer, hanswering⟩, -⟩
    · exact absurd hsame hproceeds.next_ne
    · rw [hanswering] at hproceeds
      cases hproceeds
  | released hpool _ hpasses => rw [hpool]; exact ⟨Links.freer_release _ _, rfl, hpasses⟩
  | closed hpool _ hsame =>
    rw [hpool]
    exact ⟨(Links.sameCounts_closeAt _ _ _).freer, rfl, Or.inl hsame⟩
  | marked hpool _ hsame => rw [hpool]; exact ⟨.refl _, rfl, Or.inl hsame⟩

/-- A search with so many visits left finds a free slot, or the counter of visits starts again on
the way and the search may not go round twice. -/
def Finds (p : SlotPool) (shape : PoolShape) (before visits : Nat) : Prop :=
  (SlotPool.findFree p.links p.slotsPerLink visits p.rotor).1 ≠ none ∨
    (¬ shape.Twice ∧ rotorPeriod < before + visits)

/-- A search that begins at a free slot. -/
theorem finds_of_free {p : SlotPool} (hsized : p.Sized shape)
    (hrotor : p.rotor = before % rotorPeriod)
    (hfree : ∃ (i : Nat) (l : Link), p.links[i]? = some l ∧ l.streams < p.slotsPerLink) :
    Finds p shape before p.capacity := by
  rcases hfree with ⟨i, l, hl, hslot⟩
  by_cases htwice : shape.Twice
  · have hsize : p.links.length ≤ rotorPeriod := Nat.le_trans hsized.size_le htwice.2
    have hvisits : 2 * p.links.length ≤ p.capacity := by
      rw [SlotPool.capacity, SlotPool.size, hsized.slotsPerLink, Nat.mul_comm]
      exact Nat.mul_le_mul_left _ htwice.1
    exact Or.inl (SlotPool.findFree_ne_none_of_twice hl hslot hvisits hsize
      (hrotor ▸ Nat.mod_lt _ (by decide)))
  · by_cases hwrap : before + p.capacity ≤ rotorPeriod
    · have hvisits : p.links.length ≤ p.capacity :=
        Nat.le_mul_of_pos_right _ (Nat.zero_lt_of_lt hslot)
      have hlinks : 0 < p.links.length := Nat.zero_lt_of_lt (List.getElem?_eq_some_iff.1 hl).1
      have hunwrapped : p.rotor = before := hrotor.trans (Nat.mod_eq_of_lt (by omega))
      have hsearch := SlotPool.searchVisits_le_visits p.links p.slotsPerLink p.capacity p.rotor
      have hwithin : p.rotor + SlotPool.searchVisits p.links p.slotsPerLink p.capacity p.rotor ≤
          rotorPeriod := by omega
      rcases SlotPool.findFree_of_free hl hslot hvisits hwithin with ⟨k, -, -, -, hfound⟩
      refine Or.inl ?_
      rw [hfound]
      exact Option.some_ne_none _
    · exact Or.inr ⟨htwice, Nat.lt_of_not_le hwrap⟩

/-- After a visit in vain the rest of the search finds what there was to be found. -/
theorem Finds.passed {p : SlotPool} {visits rotor : Nat} (h : Finds p shape before (visits + 1))
    (hvisit : SlotPool.findFree p.links p.slotsPerLink 1 p.rotor = (none, rotor)) :
    Finds { p with rotor := rotor } shape (before + 1) visits := by
  rcases h with hfound | ⟨htwice, hwrapped⟩
  · refine Or.inl ?_
    have hlinks : 0 < p.links.length := by
      by_contra hnone
      have hnil : p.links = [] := List.length_eq_zero_iff.1 (by omega)
      exact hfound (by simp [hnil, SlotPool.findFree])
    rw [SlotPool.findFree_succ hlinks, hvisit] at hfound
    exact hfound
  · have hsum : before + 1 + visits = before + (visits + 1) := by omega
    exact Or.inr ⟨htwice, hsum ▸ hwrapped⟩

/-- The counter of visits counts them all, from zero again after each period; and a search that is
under way finds a slot as long as this does not get in its way. -/
structure Searches (q : Queue) (shape : PoolShape) (before : Nat) : Prop where
  rotor : q.desk.pool.rotor = before % rotorPeriod
  finds : ∀ caller visits grown, q.clerk = .searching caller visits grown →
    Finds q.desk.pool shape before visits

/-- A claim begins its search where a slot is free, and counts its visits. -/
theorem Searches.proceed (h : q.Searches shape before) (hsized : q.Sized shape)
    (hslots : 0 < shape.slotsPerLink) {clerk : Clerk} {p : SlotPool}
    (hproceeds : q.clerk.Proceeds q.desk.pool clerk p) :
    (q.withPool clerk p).Searches shape (before + q.visit .serve) := by
  have hafter : p.Sized shape := hproceeds.sized hsized.pool hsized.mayGrow
  have hrotor := h.rotor
  have hfinds := h.finds
  simp only [visit]
  generalize q.clerk = now at hproceeds hfinds ⊢
  cases hproceeds with
  | room hroom =>
    refine ⟨hrotor, ?_⟩
    intro caller visits grown hsearching
    cases hsearching
    exact finds_of_free hafter hrotor (Links.exists_free hroom)
  | grown _ =>
    refine ⟨hrotor, ?_⟩
    intro caller visits grown hsearching
    cases hsearching
    refine finds_of_free hafter hrotor ⟨q.desk.pool.size, _, List.getElem?_concat_length, ?_⟩
    exact hafter.slotsPerLink.symm ▸ hslots
  | found hvisit =>
    refine ⟨?_, fun _ _ _ => Clerk.noConfusion⟩
    rw [← Nat.mod_add_mod, ← hrotor]
    exact SlotPool.findFree_one_rotor hvisit
  | passed hvisit =>
    refine ⟨?_, ?_⟩
    · rw [← Nat.mod_add_mod, ← hrotor]
      exact SlotPool.findFree_one_rotor hvisit
    · intro caller visits grown hsearching
      cases hsearching
      exact (hfinds _ _ _ rfl).passed hvisit
  | full _ _ _ | allTaken _ _ | refused _ | noneFree =>
    exact ⟨hrotor, fun _ _ _ => Clerk.noConfusion⟩

theorem searches_serve (h : q.Searches shape before) (hsized : q.Sized shape)
    (hslots : 0 < shape.slotsPerLink) :
    q.serve.next.Searches shape (before + q.visit .serve) := by
  rcases q.serve_turn.claims_or_idles with ⟨clerk, p, hproceeds, hnext⟩ | ⟨hpool, hidle, hidle'⟩
  · rw [hnext]
    exact h.proceed hsized hslots hproceeds
  · rw [visit_of_idle hidle]
    refine ⟨by rw [hpool]; exact h.rotor, ?_⟩
    intro caller visits grown hsearching
    rw [hsearching] at hidle'
    cases hidle'

theorem searches_step (h : q.Searches shape before) (hsized : q.Sized shape)
    (hslots : 0 < shape.slotsPerLink) (m : QueueMove) :
    (q.step m).next.Searches shape (before + q.visit m) := by
  by_cases hm : m = .serve
  · subst hm
    exact searches_serve h hsized hslots
  · rcases q.frees_step hm with ⟨hfreer, hrotor, hclerk⟩
    rw [visit_eq_zero hm]
    refine ⟨hrotor.trans h.rotor, ?_⟩
    intro caller visits grown hsearching
    have hsame : (q.step m).next.clerk = q.clerk :=
      hclerk.eq_of_deciding (by rw [hsearching]; rfl)
    rcases h.finds caller visits grown (hsame ▸ hsearching) with hfound | hwrapped
    · rw [Finds, (q.step_effect m).alike.slotsPerLink, hrotor]
      exact Or.inl (SlotPool.findFree_ne_none_of_freer hfreer hfound)
    · exact Or.inr hwrapped

theorem searches_run (h : q.Searches shape before) (hsized : q.Sized shape)
    (hslots : 0 < shape.slotsPerLink) (moves : List QueueMove) :
    (q.run moves).next.Searches shape (before + q.visited moves) := by
  induction moves generalizing q before with
  | nil => exact h
  | cons m moves ih =>
    have hrest := ih (searches_step h hsized hslots m) ((q.step_effect m).sized hsized)
    rw [Nat.add_assoc] at hrest
    exact hrest

theorem searches_of_build {scheduler : Bool} {dialer : Dialer} {start : Desk}
    (h : (Desk.build shape scheduler dialer).answer = .ok start) :
    start.queue.Searches shape 0 := by
  rw [queue_of_build h]
  exact ⟨(Desk.fresh_of_build h).1.unvisited, fun _ _ _ => Clerk.noConfusion⟩

/-- A search that has no visits left has been in vain because the counter started again. -/
theorem Searches.wrapped (h : q.Searches shape before) {caller : Nat} {grown : Bool}
    (hclerk : q.clerk = .searching caller 0 grown) : ¬ shape.Twice ∧ rotorPeriod < before := by
  rcases h.finds caller 0 grown hclerk with hfound | hwrapped
  · exact absurd rfl hfound
  · exact hwrapped

end Queue

end PubSub
