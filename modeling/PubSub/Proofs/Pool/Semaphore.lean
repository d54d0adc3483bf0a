import PubSub.Proofs.Pool.Decision

/-!
# Semaphores

A stream pool admits streams like a counting semaphore with as many tokens as the pool may have
slots.

* `Semaphore`: the semaphore, with numbered tokens, and what the moves of a desk do to it.
* `Desk.visited`: how far a run takes the counter of visits.
* `Desk.semaphore_step`: if the dialer never refuses, every move does to a desk what it does to the
  semaphore.
* `pool_refines_semaphore`: claims, bursts and whole runs go as on the semaphore.
-/

namespace PubSub

/-! ## The semaphore -/

/-- A counting semaphore.  Tokens are numbered in the order in which they are handed out, and each
is marked while it is held. -/
structure Semaphore where
  limit : Nat
  tokens : List Bool := []
  deriving DecidableEq, Repr

namespace Semaphore

/-- The number of tokens that are held. -/
def taken (s : Semaphore) : Nat := s.tokens.count true

/-- Hands out a token unless all of them are held. -/
def acquire (s : Semaphore) : Semaphore :=
  if s.taken < s.limit then { s with tokens := s.tokens ++ [true] } else s

/-- Hands out tokens to so many callers one after another. -/
def acquireMany : Nat → Semaphore → Semaphore
  | 0, s => s
  | callers + 1, s => acquireMany callers s.acquire

/-- Takes a token back. -/
def release (s : Semaphore) (token : Nat) : Semaphore :=
  { s with tokens := s.tokens.set token false }

/-- The semaphore after a move.  A caller that leaves early holds nothing in the end, and closing
links takes no token back. -/
def step (s : Semaphore) : Move → Semaphore
  | .claim => s.acquire
  | .burst callers => acquireMany callers s
  | .drop handle => s.release handle
  | .dropAll => { s with tokens := s.tokens.map fun _ => false }
  | .abandon | .closeLink _ | .closeLease _ | .close => s

/-- The semaphore after a run of moves. -/
def run (s : Semaphore) (moves : List Move) : Semaphore := moves.foldl step s

theorem acquireMany_eq (callers : Nat) (s : Semaphore) :
    acquireMany callers s =
      { s with tokens := s.tokens ++ List.replicate (min callers (s.limit - s.taken)) true } := by
  induction callers generalizing s with
  | zero => simp [acquireMany]
  | succ callers ih =>
    rw [acquireMany, ih]
    by_cases hfree : s.taken < s.limit
    · have hcount : s.acquire.taken = s.taken + 1 := by
        rw [acquire, if_pos hfree]
        simp [taken]
      have hmin : min (callers + 1) (s.limit - s.taken) =
          min callers (s.limit - (s.taken + 1)) + 1 := by
        omega
      rw [hcount, hmin, List.replicate_succ]
      simp [acquire, hfree]
    · have hzero : s.limit - s.taken = 0 := by
        omega
      have hsame : s.acquire = s := by
        simp [acquire, hfree]
      simp [hsame, hzero]

end Semaphore

namespace Desk

open SlotPool

/-! ## Runs -/

/-- The number of links that a move visits. -/
def visits (d : Desk) : Move → Nat
  | .claim | .abandon => d.pool.visits
  | .burst callers => claimsVisits callers d.pool
  | _ => 0

/-- The number of links that a run of moves visits. -/
def visited (d : Desk) : List Move → Nat
  | [] => 0
  | m :: moves => d.visits m + (d.step m).visited moves

/-- The slots of a desk as the tokens of a semaphore. -/
def semaphore (d : Desk) (shape : PoolShape) : Semaphore where
  limit := shape.limit
  tokens := d.leases.map Option.isSome

section Runs

variable {shape : PoolShape} {d : Desk}

theorem visited_append (d : Desk) (before after : List Move) :
    d.visited (before ++ after) = d.visited before + (d.run before).visited after := by
  induction before generalizing d with
  | nil => exact (Nat.zero_add _).symm
  | cons m before ih =>
    show d.visits m + (d.step m).visited (before ++ after) = _
    rw [ih, ← Nat.add_assoc]
    rfl

theorem rotor_releases (places : List Nat) (p : SlotPool) :
    (places.foldl release p).rotor = p.rotor := by
  induction places generalizing p with
  | nil => rfl
  | cons i places ih => exact ih _

/-- A move takes the counter of visits on by no more than its visits. -/
theorem rotor_step_le (d : Desk) (m : Move) :
    (d.step m).pool.rotor ≤ d.pool.rotor + d.visits m := by
  cases m with
  | claim => exact d.pool_claim ▸ d.pool.claim_claimed.rotor_le
  | burst callers => exact d.pool_burst callers ▸ rotor_claims_le callers d.pool
  | abandon =>
    have hclaimed := d.pool.claim_claimed.rotor_le
    simp only [step, abandon]
    split <;> exact hclaimed
  | drop handle =>
    simp only [step, drop]
    split <;> exact Nat.le_refl _
  | dropAll => exact Nat.le_of_eq (rotor_releases d.live d.pool)
  | closeLink link => exact Nat.le_refl _
  | closeLease handle =>
    simp only [step, closeLease]
    split <;> exact Nat.le_refl _
  | close =>
    simp only [step, close, SlotPool.close]
    split <;> exact Nat.le_refl _

theorem rotor_run_le (d : Desk) (moves : List Move) :
    (d.run moves).pool.rotor ≤ d.pool.rotor + d.visited moves := by
  induction moves generalizing d with
  | nil => exact Nat.le_refl _
  | cons m moves ih =>
    have hfirst := d.rotor_step_le m
    have hothers := ih (d.step m)
    rw [visited]
    exact Nat.le_trans hothers (by omega)

theorem taken_semaphore (d : Desk) (shape : PoolShape) :
    (d.semaphore shape).taken = d.live.length := by
  unfold semaphore Semaphore.taken live
  induction d.leases with
  | nil => rfl
  | cons lease leases ih =>
    cases lease with
    | none => simpa using ih
    | some link => simpa using ih

/-- Slots that are granted are tokens that are handed out. -/
theorem leases_grantAll (places : List Nat) (d : Desk) :
    (grantAll places d).2.leases = d.leases ++ places.map some := by
  induction places generalizing d with
  | nil => simp [grantAll]
  | cons i places ih =>
    have hrest : (grantAll (i :: places) d).2.leases = (grantAll places (d.grant i).2).2.leases :=
      rfl
    rw [hrest, ih]
    simp [grant]

theorem length_grantAll (places : List Nat) (d : Desk) :
    (grantAll places d).1.length = places.length := by
  induction places generalizing d with
  | nil => rfl
  | cons i places ih => exact congrArg (· + 1) (ih _)

/-- So many slots are granted in a burst as claims one after another are granted. -/
theorem length_grantedPlaces (callers : Nat) (p : SlotPool) :
    (grantedPlaces (claims callers p).answer).length = grants callers p :=
  (grantedPlaces_perm _).length_eq

/-- A burst hands out one token for each slot that is granted. -/
theorem semaphore_burst (d : Desk) (shape : PoolShape) (callers : Nat) :
    (d.burst callers).next.semaphore shape =
      { limit := shape.limit
        tokens := (d.semaphore shape).tokens ++ List.replicate (grants callers d.pool) true } := by
  have hleases : (d.burst callers).next.leases =
      d.leases ++ (grantedPlaces (claims callers d.pool).answer).map some :=
    leases_grantAll _ _
  have hmarks : ((grantedPlaces (claims callers d.pool).answer).map some).map Option.isSome =
      List.replicate (grants callers d.pool) true := by
    rw [← length_grantedPlaces, List.map_map]
    exact List.map_const'
  simp only [semaphore, hleases, List.map_append, hmarks]

/-- Giving a slot back takes its token back; without a slot there is no token to take. -/
theorem semaphore_drop (d : Desk) (shape : PoolShape) (handle : Nat) :
    (d.drop handle).2.semaphore shape = (d.semaphore shape).release handle := by
  have hset : (d.semaphore shape).release handle =
      { limit := shape.limit, tokens := (d.leases.set handle none).map Option.isSome } := by
    simp [semaphore, Semaphore.release, List.map_set]
  rw [hset]
  unfold drop
  split
  · rename_i hnone
    -- the handle is unknown, or its slot was given back before
    have hsame : d.leases.set handle none = d.leases := by
      unfold held? at hnone
      cases hlease : d.leases[handle]? with
      | none => exact List.set_eq_of_length_le (List.getElem?_eq_none_iff.1 hlease)
      | some lease =>
        rw [hlease] at hnone
        obtain rfl : lease = none := hnone
        rcases List.getElem?_eq_some_iff.1 hlease with ⟨hlt, hget⟩
        rw [← hget]
        exact List.set_getElem_self hlt
    rw [hsame]
    rfl
  · rfl

/-- On an open desk whose dialer does not refuse, a move other than closing it does what it does to
the semaphore. -/
theorem semaphore_step (htallied : d.pool.Tallied d.live) (hsized : d.pool.Sized shape)
    (hslots : 0 < shape.slotsPerLink) (hopen : d.pool.closed = false) {m : Move} (hm : m ≠ .close)
    (hwrap : d.pool.rotor + d.visits m ≤ rotorPeriod)
    (hdialer : ∀ tries made, d.pool.dialer.refusal tries made = none) :
    (d.step m).semaphore shape = (d.semaphore shape).step m := by
  cases m with
  | claim =>
    have hdecided := d.pool.claim_claimed.decided htallied hsized hslots hopen hwrap
    show _ = (d.semaphore shape).acquire
    unfold Semaphore.acquire
    rw [d.taken_semaphore shape]
    rcases hdecided.of_faultless hslots hsized.size_le hdialer with
      ⟨hless, i, hanswer⟩ | ⟨hfull, hanswer⟩
    · rw [if_pos (show d.live.length < (d.semaphore shape).limit from hless)]
      simp [step, claim, hanswer, grant, semaphore]
    · rw [if_neg (show ¬ d.live.length < (d.semaphore shape).limit from
        Nat.not_lt_of_le (Nat.le_of_eq hfull.symm))]
      simp [step, claim, hanswer, semaphore]
  | burst callers =>
    have hgrants := (claims_faultless callers htallied hsized hslots hopen hwrap hdialer).1
    show _ = Semaphore.acquireMany callers (d.semaphore shape)
    rw [Semaphore.acquireMany_eq, d.taken_semaphore shape]
    have hlimit : (d.semaphore shape).limit = shape.limit := rfl
    rw [hlimit, ← hgrants]
    exact d.semaphore_burst shape callers
  | abandon =>
    -- whatever the claim was answered, no lease came of it
    simp only [step, abandon]
    split <;> rfl
  | drop handle => exact d.semaphore_drop shape handle
  | dropAll =>
    simp [step, dropAll, semaphore, Semaphore.step]
  | closeLink link => rfl
  | closeLease handle =>
    simp only [step, closeLease]
    split <;> rfl
  | close => exact absurd rfl hm

/-- A whole run does to the desk what it does to the semaphore. -/
theorem semaphore_run (htallied : d.pool.Tallied d.live) (hsized : d.pool.Sized shape)
    (hslots : 0 < shape.slotsPerLink) (hopen : d.pool.closed = false) {moves : List Move}
    (hmoves : Move.close ∉ moves) (hwrap : d.pool.rotor + d.visited moves ≤ rotorPeriod)
    (hdialer : ∀ tries made, d.pool.dialer.refusal tries made = none) :
    (d.run moves).semaphore shape = (d.semaphore shape).run moves := by
  induction moves generalizing d with
  | nil => rfl
  | cons m moves ih =>
    rw [List.mem_cons, not_or] at hmoves
    rw [visited] at hwrap
    have hm : m ≠ .close := Ne.symm hmoves.1
    have hmoved := d.rotor_step_le m
    have hfirst := semaphore_step htallied hsized hslots hopen hm (by omega) hdialer
    have hothers := ih (tallied_step htallied m) (sized_step hsized m)
      ((d.closed_step hm).trans hopen) hmoves.2 (by omega) (by
        intro tries made
        rw [(d.alike_step m).refusal]
        exact hdialer tries made)
    show ((d.step m).run moves).semaphore shape = ((d.semaphore shape).step m).run moves
    rw [hothers, hfirst]

end Runs

end Desk

/-! ## Pools are semaphores -/

/-- A pool that could be made and was not closed admits streams like a semaphore, as long as its
counter of visits has not started again from zero.  The limit of a fixed pool is the number of slots
of its links, that of an elastic pool its budget in whole links.  Every claim, of a burst or alone,
is decided by the number of slots that are held at that time, except that a dialer may refuse to
make a link which is needed; no search for a slot is in vain.  With a dialer that never refuses,
claims are granted below the limit only, bursts are granted what is left, and the whole run goes as
on the semaphore. -/
theorem pool_refines_semaphore {shape : PoolShape} {scheduler : Bool} {dialer : Dialer}
    {start : Desk} (hbuilt : (Desk.build shape scheduler dialer).answer = .ok start)
    {moves : List Move} (hmoves : Move.close ∉ moves) :
    let d := start.run moves
    (∀ links, shape.sizing = .fixed links → shape.limit = links * shape.slotsPerLink) ∧
    (∀ budget, shape.sizing = .elastic budget →
      budget ≤ shape.limit ∧ shape.limit < budget + shape.slotsPerLink) ∧
    (∀ callers, start.visited (moves ++ [.burst (callers + 1)]) ≤ rotorPeriod →
      (Desk.claims callers d.pool).next.Admits shape
        (d.live.length + Desk.grants callers d.pool)) ∧
    ((∀ tries made, dialer.refusal tries made = none) →
      (start.visited (moves ++ [.claim]) ≤ rotorPeriod →
        ((∃ grant, d.claim.answer = .ok grant) ↔ d.live.length < shape.limit) ∧
        (¬ d.live.length < shape.limit → d.claim.answer =
          .error (.exhausted (.allTaken shape.limit shape.maxLinks shape.limit)))) ∧
      (∀ callers, start.visited (moves ++ [.burst callers]) ≤ rotorPeriod →
        (d.burst callers).answer.granted.length = min callers (shape.limit - d.live.length) ∧
        (d.burst callers).answer.errors =
          List.replicate (callers - (shape.limit - d.live.length))
            (.exhausted (.allTaken shape.limit shape.maxLinks shape.limit))) ∧
      (start.visited moves ≤ rotorPeriod →
        d.semaphore shape = Semaphore.run { limit := shape.limit } moves)) := by
  intro d
  rcases Desk.fresh_of_build hbuilt with ⟨hfresh, hleases⟩
  have hslots : 0 < shape.slotsPerLink := shape.slots_pos hfresh.checked
  have htallied : start.pool.Tallied start.live := Desk.tallied_of_build hbuilt
  -- the invariants at the end of the run
  have hheld : d.pool.Tallied d.live := Desk.tallied_run htallied moves
  have hshape : d.pool.Sized shape := Desk.sized_run hfresh.sized moves
  have hopen : d.pool.closed = false := (start.closed_run hmoves).trans hfresh.notClosed
  -- a move stays within the period if the whole run together with it does
  have hwithin : ∀ m, start.visited (moves ++ [m]) ≤ rotorPeriod →
      d.pool.rotor + d.visits m ≤ rotorPeriod := by
    intro m hvisited
    have hmoved := start.rotor_run_le moves
    rw [start.visited_append] at hvisited
    have hlast : d.visited [m] = d.visits m := rfl
    rw [hfresh.unvisited, Nat.zero_add] at hmoved
    exact Nat.le_trans (Nat.add_le_add hmoved (Nat.le_of_eq hlast.symm)) hvisited
  refine ⟨?_, fun budget hsizing => PoolShape.limit_elastic hfresh.checked hsizing, ?_, ?_⟩
  · intro links hsizing
    simp [PoolShape.limit, PoolShape.maxLinks, hsizing]
  · intro callers hvisited
    exact Desk.admits_claims callers hheld hshape hslots hopen (hwithin _ hvisited)
  · intro hdialer
    -- dialers keep their temper over a run
    have hsteady : ∀ tries made, d.pool.dialer.refusal tries made = none := by
      intro tries made
      rw [(start.alike_run moves).refusal, hfresh.refusal]
      exact hdialer tries made
    refine ⟨?_, ?_, ?_⟩
    · intro hvisited
      have hdecided := d.pool.claim_claimed.decided hheld hshape hslots hopen (hwithin _ hvisited)
      unfold Desk.claim
      rcases hdecided.of_faultless hslots hshape.size_le hsteady with
        ⟨hless, i, hanswer⟩ | ⟨hfull, hanswer⟩
      · simp [hanswer, hless]
      · simp [hanswer, hfull]
    · intro callers hvisited
      have hclaims := Desk.claims_faultless callers hheld hshape hslots hopen
        (hwithin _ hvisited) hsteady
      refine ⟨?_, hclaims.2⟩
      calc (d.burst callers).answer.granted.length
          = (Desk.grantedPlaces (Desk.claims callers d.pool).answer).length :=
            Desk.length_grantAll _ _
        _ = Desk.grants callers d.pool := Desk.length_grantedPlaces callers d.pool
        _ = min callers (shape.limit - d.live.length) := hclaims.1
    · intro hvisited
      have hfrom : start.semaphore shape = { limit := shape.limit } := by
        simp [Desk.semaphore, hleases]
      rw [← hfrom]
      apply Desk.semaphore_run htallied hfresh.sized hslots hfresh.notClosed hmoves
      · rw [hfresh.unvisited, Nat.zero_add]
        exact hvisited
      · intro tries made
        rw [hfresh.refusal]
        exact hdialer tries made

/-- A run that leaves the links of the small pool unevenly full. -/
def unevenRun : List Move := [.claim, .burst 3, .abandon, .drop 0, .claim, .closeLink 1, .drop 1]

theorem pool_refines_semaphore_uneven :
    (Desk.build smallShape true .faultless).answer = .ok smallDesk ∧
    Move.close ∉ unevenRun ∧
    smallDesk.visited (unevenRun ++ [.burst 9]) ≤ rotorPeriod ∧
    (smallDesk.run unevenRun).live = [1, 1, 0] ∧
    ((smallDesk.run unevenRun).burst 9).answer.granted.length = 3 := by
  have hbuilt : (Desk.build smallShape true .faultless).answer = .ok smallDesk := rfl
  have hmoves : Move.close ∉ unevenRun := by decide
  have hvisited : smallDesk.visited (unevenRun ++ [.burst 9]) ≤ rotorPeriod := by decide
  have hlive : (smallDesk.run unevenRun).live = [1, 1, 0] := by decide
  rcases pool_refines_semaphore hbuilt hmoves with ⟨-, -, -, hfaultless⟩
  have hburst := ((hfaultless fun _ _ => rfl).2.1 9 hvisited).1
  rw [hlive] at hburst
  exact ⟨hbuilt, hmoves, hvisited, hlive, hburst⟩

end PubSub
