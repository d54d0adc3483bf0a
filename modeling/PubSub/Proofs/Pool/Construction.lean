import PubSub.Pool.Rotation
import PubSub.Pool.SlotPool
import PubSub.Proofs.Pool.Dialing

/-!
# Construction

Links are made all at once or not at all.

The first try that a dialer refuses ends a construction.  What was made until then is closed, and
whatever happens on the way, the answer is the error of the dialer that refused.

* `Dialer.Makes`: the next tries work.
* `Dialer.AllOrNothing`: how a construction that needs so many connections can end.
* `Links.build_allOrNothing`: building links is of this kind, and with it whatever is made of them.
* `construction_all_or_nothing`: links, rotations and stream pools.
-/

namespace PubSub

namespace Dialer

/-! ## Tries in turn -/

/-- The dialer after so many tries that worked. -/
def making (d : Dialer) (count : Nat) : Dialer :=
  { d with calls := d.calls + count, created := d.created + count }

/-- So many tries work from now on, one after another. -/
def Makes (d : Dialer) (count : Nat) : Prop :=
  ∀ j < count, d.refusal (d.calls + j + 1) (d.created + j) = none

/-- After so many tries that work, the next one is refused. -/
def Refuses (d : Dialer) (count : Nat) (refusal : Refusal) : Prop :=
  d.Makes count ∧ d.refusal (d.calls + count + 1) (d.created + count) = some refusal

/-- Links that carry no streams, for the next connections of a dialer. -/
def nextLinks (d : Dialer) (count : Nat) : List Link :=
  (List.range count).map fun i => { id := i, connection := some (d.created + i) }

theorem nextLinks_succ (d : Dialer) (count : Nat) :
    d.nextLinks (count + 1) =
      d.nextLinks count ++ [{ id := count, connection := some (d.created + count) }] := by
  simp [nextLinks, List.range_succ]

theorem length_nextLinks (d : Dialer) (count : Nat) : (d.nextLinks count).length = count := by
  simp [nextLinks]

theorem connections_nextLinks (d : Dialer) (count : Nat) :
    (d.nextLinks count).filterMap Link.connection = (List.range count).map (d.created + ·) := by
  rw [nextLinks, List.filterMap_map, ← List.filterMap_eq_map]
  rfl

theorem getElem?_nextLinks {d : Dialer} {count i : Nat} {l : Link}
    (h : (d.nextLinks count)[i]? = some l) :
    l = { id := i, connection := some (d.created + i) } := by
  rw [nextLinks, List.getElem?_map] at h
  rcases Option.map_eq_some_iff.1 h with ⟨j, hj, rfl⟩
  rcases List.getElem?_eq_some_iff.1 hj with ⟨hlt, hget⟩
  rw [List.getElem_range] at hget
  rw [hget]

/-- Either all tries work, or one of them is the first to be refused. -/
theorem makes_or_refuses (d : Dialer) (count : Nat) :
    d.Makes count ∨ ∃ k < count, ∃ refusal, d.Refuses k refusal := by
  induction count with
  | zero => exact Or.inl fun j hj => absurd hj (Nat.not_lt_zero j)
  | succ count ih =>
    rcases ih with hmakes | ⟨k, hk, refusal, hrefuses⟩
    · -- the others work, so it depends on the last one
      cases hlast : d.refusal (d.calls + count + 1) (d.created + count) with
      | none =>
        refine Or.inl fun j hj => ?_
        rcases Nat.lt_or_eq_of_le (Nat.le_of_lt_succ hj) with hless | rfl
        · exact hmakes j hless
        · exact hlast
      | some refusal => exact Or.inr ⟨count, Nat.lt_succ_self count, refusal, hmakes, hlast⟩
    · exact Or.inr ⟨k, Nat.lt_succ_of_lt hk, refusal, hrefuses⟩

/-! ## Constructions -/

/-- How a construction that needs so many connections ends.  If the dialer makes all of them, it
has succeeded and nothing was closed.  Otherwise the first refusal is the answer, no other try was
made after it, and the connections that there were by then have been closed in the order in which
they were made; an error on closing one is reported and changes nothing about that. -/
structure AllOrNothing {α : Type} (d : Dialer) (count : Nat) (whole : α)
    (reply : Reply Dialer (Except TransportError α)) : Prop where
  all : d.Makes count →
    reply.answer = .ok whole ∧ reply.next = d.making count ∧ reply.notices = []
  nothing : ∀ (k : Nat) (refusal : Refusal), k < count → d.Refuses k refusal →
    reply.answer = .error refusal.error ∧
      reply.next =
        { d with
          calls := d.calls + (k + 1)
          created := d.created + k
          closed := d.closed ++ (List.range k).map (d.created + ·) } ∧
      reply.notices =
        refusal.notices ++ .linkNotBuilt k count refusal.error ::
          (List.range k).filterMap fun i =>
            (d.closeFault (d.created + i)).map (Notice.linkNotClosed i)

/-- A construction that succeeds has made the whole. -/
theorem AllOrNothing.of_ok {α : Type} {d : Dialer} {count : Nat} {whole made : α}
    {reply : Reply Dialer (Except TransportError α)} (h : d.AllOrNothing count whole reply)
    (hok : reply.answer = .ok made) : made = whole ∧ reply.next = d.making count := by
  rcases d.makes_or_refuses count with hmakes | ⟨k, hk, refusal, hrefuses⟩
  · rcases h.all hmakes with ⟨hanswer, hnext, -⟩
    exact ⟨Except.ok.inj (hok.symm.trans hanswer), hnext⟩
  · have herror := (h.nothing k refusal hk hrefuses).1
    rw [hok] at herror
    cases herror

/-- What is made of a whole construction is made of all or nothing as well. -/
theorem AllOrNothing.map {α β : Type} {d : Dialer} {count : Nat} {whole : α}
    {reply : Reply Dialer (Except TransportError α)} (h : d.AllOrNothing count whole reply)
    (make : α → Dialer → β) :
    d.AllOrNothing count (make whole (d.making count))
      { answer := reply.answer.map fun made => make made reply.next
        next := reply.next
        notices := reply.notices } where
  all := by
    intro hmakes
    rcases h.all hmakes with ⟨hanswer, hnext, hnotices⟩
    refine ⟨?_, hnext, hnotices⟩
    show reply.answer.map _ = _
    rw [hanswer, hnext]
    rfl
  nothing := by
    intro k refusal hk hrefuses
    rcases h.nothing k refusal hk hrefuses with ⟨hanswer, hnext, hnotices⟩
    refine ⟨?_, hnext, hnotices⟩
    show reply.answer.map _ = _
    rw [hanswer]
    rfl

end Dialer

namespace Links

open Dialer

/-- While tries work, links are added one after another. -/
theorem extend_makes {d : Dialer} {k : Nat} (h : d.Makes k) (requested missing : Nat) :
    extend requested (k + missing) [] d =
      extend requested missing (d.nextLinks k) (d.making k) := by
  induction k generalizing missing with
  | zero =>
    rw [Nat.zero_add]
    rfl
  | succ k ih =>
    have hmade : (d.making k).connect = (.ok (d.created + k), d.making (k + 1)) :=
      connect_of_none (h k (Nat.lt_succ_self k))
    calc
      extend requested (k + 1 + missing) [] d
          = extend requested (k + (missing + 1)) [] d := by rw [Nat.succ_add_eq_add_succ]
      _ = extend requested (missing + 1) (d.nextLinks k) (d.making k) :=
          ih (fun j hj => h j (Nat.lt_succ_of_lt hj)) (missing + 1)
      _ = extend requested missing (d.nextLinks (k + 1)) (d.making (k + 1)) := by
          rw [extend, hmade]
          simp only [length_nextLinks, nextLinks_succ]

/-- Links are built all at once or not at all. -/
theorem build_allOrNothing (d : Dialer) (count : Nat) :
    d.AllOrNothing count (d.nextLinks count) (build count d) where
  all := by
    intro hmakes
    rw [show build count d = extend count 0 (d.nextLinks count) (d.making count) from
      extend_makes hmakes count 0]
    exact ⟨rfl, rfl, rfl⟩
  nothing := by
    rintro k refusal hk ⟨hmakes, hrefused⟩
    rcases Nat.exists_eq_add_of_lt hk with ⟨missing, hcount⟩
    have hbuilt : build count d =
        extend count (missing + 1) (d.nextLinks k) (d.making k) := by
      have hfirst := extend_makes hmakes count (missing + 1)
      rw [← Nat.add_assoc, ← hcount] at hfirst
      exact hfirst
    have hmade : (d.making k).connect =
        (.error refusal, { d.making k with calls := d.calls + (k + 1) }) :=
      connect_of_some hrefused
    rw [hbuilt, extend, hmade]
    refine ⟨rfl, ?_, ?_⟩
    · simp only [closeAll_next, connections_nextLinks]
      rfl
    · simp only [closeAll_notices, length_nextLinks]
      rw [nextLinks, List.filterMap_map]
      rfl

end Links

/-! ## Rotations and pools -/

theorem Rotation.build_allOrNothing (d : Dialer) {count : Nat} (h : 0 < count) :
    d.AllOrNothing count { links := d.nextLinks count, dialer := d.making count }
      (build count d) := by
  unfold build
  rw [if_neg (Nat.ne_of_gt h)]
  exact (Links.build_allOrNothing d count).map fun links next =>
    ({ links := links, dialer := next } : Rotation)

/-- A shape passes its check if it has slots and either links or a budget. -/
theorem PoolShape.check_eq_ok {s : PoolShape} (hslots : 0 < s.slotsPerLink)
    (hfixed : s.sizing ≠ .fixed 0) (helastic : s.sizing ≠ .elastic 0) : s.check = .ok () := by
  unfold check
  rw [if_neg (Nat.ne_of_gt hslots)]
  split
  · exact absurd ‹_› hfixed
  · exact absurd ‹_› helastic
  · rfl

theorem PoolShape.check_eq_error {s : PoolShape}
    (h : s.slotsPerLink = 0 ∨ s.sizing = .fixed 0 ∨ s.sizing = .elastic 0) :
    ∃ fault, s.check = .error fault := by
  unfold check
  split
  · exact ⟨_, rfl⟩
  · rename_i hslots
    rcases h with hnone | hfixed | helastic
    · exact absurd hnone hslots
    · rw [hfixed]
      exact ⟨_, rfl⟩
    · rw [helastic]
      exact ⟨_, rfl⟩

/-- A shape that passes its check starts with a link. -/
theorem PoolShape.initialLinks_pos {s : PoolShape} (h : s.sizing ≠ .fixed 0) :
    0 < s.initialLinks := by
  unfold initialLinks
  split
  · rename_i links hsizing
    exact Nat.pos_of_ne_zero fun hnone => h (hnone ▸ hsizing)
  · exact Nat.one_pos

/-- A new pool of a shape, given its links and its dialer. -/
def PoolShape.newPool (s : PoolShape) (links : List Link) (d : Dialer) : SlotPool where
  slotsPerLink := s.slotsPerLink
  maxLinks := s.maxLinks
  canGrow := s.canGrow
  links := links
  dialer := d

theorem SlotPool.build_allOrNothing (d : Dialer) {shape : PoolShape} (h : shape.check = .ok ()) :
    d.AllOrNothing shape.initialLinks
      (shape.newPool (d.nextLinks shape.initialLinks) (d.making shape.initialLinks))
      (build shape true d) := by
  unfold build
  rw [h]
  exact (Links.build_allOrNothing d shape.initialLinks).map shape.newPool

/-- What cannot be a pool is turned down before the dialer is asked. -/
theorem SlotPool.build_invalid (d : Dialer) {shape : PoolShape} {scheduler : Bool}
    (h : (∃ fault, shape.check = .error fault) ∨ scheduler = false) :
    ∃ fault, build shape scheduler d = { answer := .error (.invalidSetup fault), next := d } := by
  unfold build
  cases hcheck : shape.check with
  | error fault => exact ⟨fault, rfl⟩
  | ok _ =>
    rcases h with ⟨fault, hfault⟩ | rfl
    · rw [hcheck] at hfault
      cases hfault
    · exact ⟨.noScheduler, rfl⟩

/-- A pool that could be made has a checked shape, and the links and the dialer of a construction
that succeeded. -/
theorem SlotPool.build_ok {shape : PoolShape} {scheduler : Bool} {d : Dialer} {p : SlotPool}
    (h : (build shape scheduler d).answer = .ok p) :
    shape.check = .ok () ∧
      p = shape.newPool (d.nextLinks shape.initialLinks) (d.making shape.initialLinks) := by
  cases hcheck : shape.check with
  | error fault =>
    rcases build_invalid d (Or.inl ⟨fault, hcheck⟩) with ⟨_, hinvalid⟩
    rw [hinvalid] at h
    cases h
  | ok _ =>
    cases scheduler with
    | false =>
      rcases build_invalid d (Or.inr rfl) with ⟨_, hinvalid⟩
      rw [hinvalid] at h
      cases h
    | true => exact ⟨rfl, ((build_allOrNothing d hcheck).of_ok h).1⟩

/-- With every dialer, whatever tries it refuses and whatever it reports when it closes: a number of
links, a rotation or a stream pool is made as a whole, with links that are numbered from zero and
have the connections in the order in which they were made; or, if a try was refused, it is not made
and nothing of it is left.  What cannot be a rotation or a stream pool is turned down before the
dialer is asked. -/
theorem construction_all_or_nothing (d : Dialer) (count : Nat) (shape : PoolShape)
    (scheduler : Bool) :
    (d.Makes count ∨ ∃ k < count, ∃ refusal, d.Refuses k refusal) ∧
    d.AllOrNothing count (d.nextLinks count) (Links.build count d) ∧
    (0 < count → d.AllOrNothing count { links := d.nextLinks count, dialer := d.making count }
      (Rotation.build count d)) ∧
    Rotation.build 0 d = { answer := .error (.invalidSetup .noCallLinks), next := d } ∧
    (0 < shape.slotsPerLink → shape.sizing ≠ .fixed 0 → shape.sizing ≠ .elastic 0 →
      0 < shape.initialLinks ∧
      d.AllOrNothing shape.initialLinks
        (shape.newPool (d.nextLinks shape.initialLinks) (d.making shape.initialLinks))
        (SlotPool.build shape true d)) ∧
    (shape.slotsPerLink = 0 ∨ shape.sizing = .fixed 0 ∨ shape.sizing = .elastic 0 ∨
        scheduler = false →
      ∃ fault, SlotPool.build shape scheduler d =
        { answer := .error (.invalidSetup fault), next := d }) := by
  refine ⟨d.makes_or_refuses count, Links.build_allOrNothing d count,
    Rotation.build_allOrNothing d, rfl, ?_, ?_⟩
  · intro hslots hfixed helastic
    have hcheck := PoolShape.check_eq_ok hslots hfixed helastic
    exact ⟨PoolShape.initialLinks_pos hfixed, SlotPool.build_allOrNothing d hcheck⟩
  · rintro (hslots | hfixed | helastic | hscheduler)
    · exact SlotPool.build_invalid d (Or.inl (PoolShape.check_eq_error (Or.inl hslots)))
    · exact SlotPool.build_invalid d (Or.inl (PoolShape.check_eq_error (Or.inr (Or.inl hfixed))))
    · exact SlotPool.build_invalid d (Or.inl (PoolShape.check_eq_error (Or.inr (Or.inr helastic))))
    · exact SlotPool.build_invalid d (Or.inr hscheduler)

/-- A dialer that refuses the third try and reports an error when it closes the first
connection. -/
def brittleDialer : Dialer where
  refusal tries _ := if tries = 3 then some { error := .connectionFailed "refused" } else none
  closeFault c := if c = 0 then some .connectionClosed else none

theorem construction_all_or_nothing_third :
    let reply := SlotPool.build { sizing := .fixed 4 } true brittleDialer
    reply.answer = .error (.connectionFailed "refused") ∧
    reply.next.calls = 3 ∧ reply.next.closed = [0, 1] ∧
    reply.notices = [.linkNotBuilt 2 4 (.connectionFailed "refused"),
      .linkNotClosed 0 .connectionClosed] := by
  have hrefuses : brittleDialer.Refuses 2 { error := .connectionFailed "refused" } :=
    ⟨by unfold Dialer.Makes; decide, rfl⟩
  have hpool := (construction_all_or_nothing brittleDialer 4 { sizing := .fixed 4 } true).2.2.2.2.1
    (by decide) (by decide) (by decide)
  rcases hpool.2.nothing 2 _ (by decide) hrefuses with ⟨hanswer, hnext, hnotices⟩
  exact ⟨hanswer, congrArg Dialer.calls hnext, congrArg Dialer.closed hnext, hnotices⟩

end PubSub
