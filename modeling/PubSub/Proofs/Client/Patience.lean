import PubSub.Proofs.Client.Slots
import PubSub.Proofs.Retry.Course

/-!
# Patience

How long an operation is watched does not change what comes of it.

Operations of a client are followed for a number of attempts and rounds, so that those that go on
for ever can be described too.  One that has ended is the same however much longer it would have
been followed.  So the events that a subscription delivers do not depend on that number at all.

* `Client.publish_of_le`, `Client.subscribe_of_le`, `Subscriber.event_of_le`: what has ended stays
  as it is.
* `Subscriber.Delivers`: the events that a subscription delivers one after another.
-/

namespace PubSub

theorem Caller.call_of_le {α : Type} {c : Caller} {method : String} {deadline : Option Instant}
    {work : Attempt → Work α} {now : Instant} {fuel more : Nat} (hle : fuel ≤ more)
    (h : (c.call method deadline work now fuel).ending ≠ .unfinished) :
    c.call method deadline work now more = c.call method deadline work now fuel := by
  unfold call at h ⊢
  cases hoverall : c.overallDeadline deadline now with
  | none => rfl
  | some overall =>
    simp only [hoverall] at h
    exact c.attempts_of_le method overall work hle _ now h

namespace Client

variable {c : Client} {fuel more : Nat}

theorem publish_of_le {cache topic : String} {value : Value} (hle : fuel ≤ more)
    (h : (c.publish cache topic value fuel).answer ≠ .unfinished) :
    c.publish cache topic value more = c.publish cache topic value fuel := by
  unfold publish at h ⊢
  cases hnames : checkNames cache topic with
  | error e => rfl
  | ok _ =>
    simp only [hnames] at h ⊢
    cases hconnection : c.calls.use.1 with
    | error e => rfl
    | ok connection =>
      simp only [hconnection] at h ⊢
      cases htimeout : c.requestTimeout.callTimeout? with
      | none => rfl
      | some header =>
        simp only [htimeout] at h ⊢
        rw [Caller.call_of_le hle]
        intro hcut
        rw [hcut] at h
        exact h rfl

theorem openOn_of_le {link : Nat} {r : SubscribeRequest} (hle : fuel ≤ more)
    (h : (c.openOn link r fuel).answer ≠ .unfinished) :
    c.openOn link r more = c.openOn link r fuel := by
  unfold openOn at h ⊢
  cases hdeadline : Instant.after? c.now c.requestTimeout with
  | none => rfl
  | some deadline =>
    simp only [hdeadline] at h ⊢
    rw [Caller.call_of_le hle]
    intro hcut
    rw [hcut] at h
    exact h rfl

theorem openStream_of_le {r : SubscribeRequest} (hle : fuel ≤ more)
    (h : (c.openStream r fuel).answer ≠ .unfinished) :
    c.openStream r more = c.openStream r fuel := by
  unfold openStream at h ⊢
  simp only at h ⊢
  cases hclaim : c.pool.claim.answer with
  | error e => rfl
  | ok link =>
    simp only [hclaim] at h ⊢
    split
    · rename_i connection hlink
      rw [hlink] at h
      rw [openOn_of_le hle h]
    · rfl

theorem subscribe_of_le {r : SubscribeRequest} (hle : fuel ≤ more)
    (h : (c.subscribe r fuel).answer ≠ .unfinished) :
    c.subscribe r more = c.subscribe r fuel := by
  unfold subscribe at h ⊢
  cases hnames : checkNames r.cache r.topic with
  | error e => rfl
  | ok _ =>
    simp only [hnames] at h ⊢
    rw [openStream_of_le hle]
    intro hcut
    exact h (by rw [hcut]; rfl)

end Client

namespace Subscriber

variable {s t u : Subscriber} {fuel more : Nat} {es ds : List Event}

theorem round_of_le (hle : fuel ≤ more) (h : (s.round fuel).answer ≠ .done .unfinished) :
    s.round more = s.round fuel := by
  unfold round at h ⊢
  split
  · rename_i hstream
    rw [hstream] at h
    split
    · rfl
    · rename_i hopen
      simp only [hopen] at h
      unfold reopen at h ⊢
      simp only at h ⊢
      rw [Client.openStream_of_le hle]
      intro hcut
      rw [hcut] at h
      exact h rfl
  · rfl

/-- Waiting for an event leads to the same however long it might have taken. -/
theorem event_of_le (hle : fuel ≤ more) (h : (event fuel s).answer ≠ .unfinished) :
    event more s = event fuel s := by
  induction fuel generalizing more s with
  | zero => exact absurd rfl h
  | succ fuel ih =>
    cases more with
    | zero => cases hle
    | succ more =>
      -- a round that was cut off would have cut off the wait
      have hless := Nat.le_of_succ_le_succ hle
      have hround : s.round more = s.round fuel := by
        refine round_of_le hless ?_
        intro hcut
        simp only [event, hcut] at h
        exact h rfl
      simp only [event, hround] at h ⊢
      cases hfirst : (s.round fuel).answer with
      | done answer => rfl
      | again =>
        simp only [hfirst] at h ⊢
        rw [ih hless h]

/-! ## Deliveries -/

/-- A subscriber that waits for one event after another gets these events, and comes to be another
one. -/
inductive Delivers : Subscriber → List Event → Subscriber → Prop where
  | nil (s : Subscriber) : Delivers s [] s
  | cons {s t : Subscriber} {fuel : Nat} {e : Event} {es : List Event}
      (hfirst : (event fuel s).answer = .ok e) (hrest : Delivers (event fuel s).next es t) :
      Delivers s (e :: es) t

theorem Delivers.reaches (h : s.Delivers es t) : s.Reaches t := by
  induction h with
  | nil s => exact .start
  | cons _ _ ih => exact (reaches_event _ _).trans ih

end Subscriber

end PubSub
