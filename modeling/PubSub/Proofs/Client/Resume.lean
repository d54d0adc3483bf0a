import PubSub.Proofs.Client.Log
import PubSub.Proofs.Client.Rounds

/-!
# Resuming

No item is lost, repeated or moved when streams break and are opened again.

* `Subscriber.Keeps`: the invariant.  A stream brings the items behind the position at which the
  subscription would resume.
* `Subscriber.Passed.advanced`: every round keeps it, and what it delivers leads from the position
  before to the position after.
* `Session.received`: the items that were returned for a handle in a run.
* `items_in_order`: they are the items of the log, in order, from where the subscription started.
* `items_out_of_order`: they are not if gaps only have to fit between the items that are sent.
-/

namespace PubSub

/-! ## Items -/

/-- What an operation returned, if it succeeded. -/
def Outcome.toList {α : Type} : Outcome α → List α
  | .ok a => [a]
  | _ => []

/-- The items that an operation returned. -/
def Outcome.items (o : Outcome Event) : List Item := o.toList.flatMap Event.items

/-! ## Rounds -/

/-- A new stream starts where it was asked to, or anywhere if that was the live end. -/
theorem Client.fed_openStream {c : Client} {r : SubscribeRequest} {fuel : Nat}
    {stream : ActiveStream} {log : Log} (h : c.service.Replays r.cache r.topic log)
    (hopening : (c.openStream r fuel).answer = .ok stream) :
    ∃ place, log.Feeds place stream.feed ∧
      (1 ≤ r.position.number → place = r.position.number) := by
  rcases openStream_ok hopening with ⟨k, ready, hanswer⟩
  -- the number zero asks for the live end, every other one for what was sent before
  by_cases hresume : 1 ≤ r.position.number
  · have hfeeds := h.resumed k r.toMessage _ rfl rfl hresume hanswer
    exact ⟨_, hfeeds.of_heartbeat, fun _ => rfl⟩
  · have hlive : r.position.number = 0 := by
      rw [UInt64.not_le, UInt64.lt_iff_toNat_lt] at hresume
      exact UInt64.toNat_inj.1 (Nat.lt_one_iff.1 hresume)
    rcases h.live k r.toMessage _ rfl rfl hlive hanswer with ⟨place, hfeeds⟩
    exact ⟨place, hfeeds.of_heartbeat, fun h => absurd h hresume⟩

/-- The number at which a subscriber would resume. -/
def Subscriber.number (s : Subscriber) : UInt64 := s.subscription.position.number

/-- The service answers from the log, and what arrives on the stream starts in the log where the
subscription would resume, or anywhere if it would start at the live end. -/
structure Subscriber.Keeps (s : Subscriber) (log : Log) : Prop where
  replays : s.client.service.Replays s.subscription.cache s.subscription.topic log
  fed : ∀ stream, s.subscription.stream = some stream →
    ∃ place, log.Feeds place stream.feed ∧ (1 ≤ s.number → place = s.number)

/-- A subscriber got items on its way to another state. -/
structure Subscriber.Advanced (s : Subscriber) (log : Log) (got : List Item) (t : Subscriber) :
    Prop where
  keeps : t.Keeps log
  goes : log.Goes s.number t.number got

namespace Subscriber

/-- The items that a round delivers. -/
def Round.items : Round → List Item
  | .done answer => answer.items
  | .again => []

theorem items_roundAfter (e : TopicError) (verdict : Option Verdict) :
    (roundAfter e verdict).items = [] := by
  rcases verdict with - | - | delay | - <;> rfl

variable {s t u : Subscriber} {log : Log} {fuel : Nat}

theorem Keeps.replays_of_akin (h : s.Keeps log) (hakin : Akin s t) :
    t.client.service.Replays t.subscription.cache t.subscription.topic log := by
  rw [hakin.service, hakin.cache, hakin.topic]
  exact h.replays

/-- A subscriber that stays where it is and has no stream keeps the invariant. -/
theorem Keeps.idle (h : s.Keeps log) (hakin : Akin s t) (hnumber : t.number = s.number)
    (hstream : t.subscription.stream = none) : s.Advanced log [] t where
  keeps :=
    { replays := h.replays_of_akin hakin
      fed := by
        intro stream hsome
        rw [hstream] at hsome
        cases hsome }
  goes := hnumber ▸ .refl log s.number

namespace Advanced

theorem refl (h : s.Keeps log) : s.Advanced log [] s := ⟨h, .refl log s.number⟩

theorem trans {got more : List Item} (h : s.Advanced log got t) (hmore : t.Advanced log more u) :
    s.Advanced log (got ++ more) u :=
  ⟨hmore.keeps, h.goes.trans hmore.goes⟩

end Advanced

/-- A message that arrives is an event, and takes the subscriber past the item it delivers and
past no other. -/
theorem Keeps.message {stream : ActiveStream} {first : Signal} {rest : Feed} {m : DeliveryMessage}
    (h : s.Keeps log) (hstream : s.subscription.stream = some stream)
    (hfeed : stream.feed = first :: rest) (harrival : first.arrival = .message m) :
    ∃ e, Event.ofMessage m = .ok e ∧
      s.Advanced log e.items
        { client := (s.taking stream first rest).client
          subscription := (s.taking stream first rest).subscription.deliver e } := by
  rcases h.fed stream hstream with ⟨place, hfeeds, hplace⟩
  rcases first with ⟨ready, arrival⟩
  obtain rfl : arrival = .message m := harrival
  rw [hfeed] at hfeeds
  rcases hfeeds.message hplace with ⟨e, next, hevent, hrest, hgoes, hnext⟩
  refine ⟨e, hevent, ⟨h.replays, ?_⟩, hgoes⟩
  intro stream' hstream'
  cases hstream'
  exact ⟨next, hrest, hnext⟩

/-- Every round keeps the invariant, and its items lead from one position to the next. -/
theorem Passed.advanced {round : Round} (hpassed : s.Passed fuel round t) (h : s.Keeps log) :
    s.Advanced log round.items t := by
  have hakin := hpassed.akin
  cases hpassed with
  | shutDown _ _ => exact .refl h
  | opened _ _ hopening =>
    refine ⟨⟨h.replays_of_akin hakin, ?_⟩, .refl log s.number⟩
    intro stream' hstream'
    cases hstream'
    exact Client.fed_openStream h.replays hopening
  | refused hstream _ _ ht =>
    rw [items_roundAfter]
    subst ht
    refine h.idle hakin (congrArg Position.number (position_judge _ _)) ?_
    exact (stream_judge _ _).trans hstream
  | waiting hstream _ _ => exact h.idle hakin rfl hstream
  | unfinished hstream _ _ => exact h.idle hakin rfl hstream
  | overflow hstream _ _ => exact h.idle hakin rfl hstream
  | linkClosed _ _ =>
    exact h.idle hakin (congrArg Position.number s.position_disconnect) s.stream_disconnect
  | silent _ _ _ => exact .refl h
  | @event _ _ _ _ e hstream _ hfeed harrival hevent =>
    rcases h.message hstream hfeed (Arrival.eq_of_within harrival) with ⟨e', he, hadvanced⟩
    obtain rfl : e = e' := Except.ok.inj (hevent.symm.trans he)
    have hitems : (Round.done (.ok e)).items = e.items := List.append_nil _
    rw [hitems]
    exact hadvanced
  | fault hstream _ hfeed harrival hevent =>
    -- the service sends no message that is not an event
    rcases h.message hstream hfeed (Arrival.eq_of_within harrival) with ⟨e, he, -⟩
    rw [hevent] at he
    cases he
  | ended _ _ _ _ =>
    exact h.idle hakin (congrArg Position.number (position_disconnect _)) (stream_disconnect _)
  | broken _ _ _ _ ht =>
    rw [items_roundAfter]
    subst ht
    refine h.idle hakin ?_ (stream_disconnect _)
    exact congrArg Position.number ((position_disconnect _).trans (position_judge _ _))

theorem advanced_round (h : s.Keeps log) (fuel : Nat) :
    s.Advanced log (s.round fuel).answer.items (s.round fuel).next :=
  (s.round_passed fuel).advanced h

/-- So does waiting for an event, over any number of rounds. -/
theorem advanced_event (h : s.Keeps log) (fuel : Nat) :
    s.Advanced log (event fuel s).answer.items (event fuel s).next := by
  -- a round that delivers nothing leaves a subscriber from which the next one starts
  induction fuel generalizing s with
  | zero => exact .refl h
  | succ fuel ih =>
    have hfirst := advanced_round h fuel
    simp only [event]
    split
    · rename_i answer hdone
      rw [hdone] at hfirst
      exact hfirst
    · rename_i hagain
      rw [hagain] at hfirst
      exact hfirst.trans (ih hfirst.keeps)

/-- So does waiting for an item, over any number of other events. -/
theorem advanced_item (h : s.Keeps log) (patience fuel : Nat) :
    s.Advanced log (item patience fuel s).answer.toList (item patience fuel s).next := by
  induction fuel generalizing s with
  | zero => exact .refl h
  | succ fuel ih =>
    have hfirst := advanced_event h patience
    simp only [item]
    split
    · rename_i i hitem
      rw [hitem] at hfirst
      exact hfirst
    · rename_i e hother hevent
      -- heartbeats and gaps deliver nothing
      have hnone : (event patience s).answer.items = [] := by
        rw [hevent]
        cases e with
        | item i => exact absurd rfl (hother i)
        | _ => rfl
      rw [hnone] at hfirst
      exact hfirst.trans (ih hfirst.keeps)
    all_goals
      rename_i hend
      rw [hend] at hfirst
      exact hfirst

end Subscriber

/-! ## Sessions -/

namespace Session

/-- The items that a move returns for a handle. -/
def handed (fuel handle : Nat) (s : Session) : SessionMove → List Item
  | .event other =>
    if other = handle then ((s.event? other fuel).map (·.answer.items)).getD [] else []
  | .item other =>
    if other = handle then ((s.item? other fuel).map (·.answer.toList)).getD [] else []
  | _ => []

/-- The items that a run of moves returns for a handle. -/
def received (fuel handle : Nat) : Session → List SessionMove → List Item
  | _, [] => []
  | s, m :: moves => s.handed fuel handle m ++ received fuel handle (s.step fuel m) moves

/-- The subscription of a handle, which is at a number of the log; or it was given up. -/
inductive At (s : Session) (handle : Nat) (log : Log) : UInt64 → Prop where
  | kept {x : Subscription} (hx : s.subscriptions[handle]? = some (some x))
      (hkeeps : Subscriber.Keeps ⟨s.client, x⟩ log) : At s handle log x.position.number
  | gone (hx : s.subscriptions[handle]? = some none) (number : UInt64) : At s handle log number

variable {s t : Session} {handle fuel : Nat} {log : Log} {number : UInt64}

/-- What leaves the service and the subscription alone leaves the place alone. -/
theorem At.congr (h : s.At handle log number) (hservice : t.client.service = s.client.service)
    (hsame : t.subscriptions[handle]? = s.subscriptions[handle]?) : t.At handle log number := by
  cases h with
  | kept hx hkeeps =>
    refine .kept (hsame.trans hx) ⟨?_, hkeeps.fed⟩
    rw [hservice]
    exact hkeeps.replays
  | gone hx number => exact .gone (hsame.trans hx) number

theorem At.lt_length (h : s.At handle log number) : handle < s.subscriptions.length := by
  cases h with
  | kept hx _ => exact (List.getElem?_eq_some_iff.1 hx).1
  | gone hx _ => exact (List.getElem?_eq_some_iff.1 hx).1

/-- Waiting on the subscription of any handle, if it exists, takes this one past the items that are
returned for it, and leaves it alone otherwise. -/
theorem At.wait {α : Type} {wait : Subscriber → Reply Subscriber α} {items : α → List Item}
    (hadvanced : ∀ x : Subscriber, x.Keeps log →
      x.Advanced log (items (wait x).answer) (wait x).next)
    (hakin : ∀ x, Subscriber.Akin x (wait x).next) (h : s.At handle log number) (other : Nat) :
    let waited := (s.get? other).map fun x => s.putBack other (wait ⟨s.client, x⟩)
    ∃ next,
      log.Goes number next
        (if other = handle then (waited.map fun r => items r.answer).getD [] else []) ∧
      ((waited.map fun r => r.next).getD s).At handle log next := by
  intro waited
  -- the other subscription may be this one, and this one may have been given up
  by_cases heq : other = handle
  · subst heq
    rw [if_pos rfl]
    cases h with
    | kept hx hkeeps =>
      have hget : s.get? other = some _ := congrArg Option.join hx
      have hgot := hadvanced _ hkeeps
      simp only [waited, hget, Option.map_some, Option.getD_some]
      refine ⟨_, hgot.goes, .kept ?_ hgot.keeps⟩
      exact List.getElem?_set_self (List.getElem?_eq_some_iff.1 hx).1
    | gone hx number =>
      have hget : s.get? other = none := congrArg Option.join hx
      simp only [waited, hget, Option.map_none, Option.getD_none]
      exact ⟨number, .refl log number, .gone hx number⟩
  · rw [if_neg heq]
    refine ⟨number, .refl log number, ?_⟩
    cases hget : s.get? other with
    | none => simpa [waited, hget] using h
    | some x =>
      simp only [waited, hget, Option.map_some, Option.getD_some]
      exact h.congr (hakin _).service (List.getElem?_set_ne heq)

theorem At.subscribe (h : s.At handle log number) (r : SubscribeRequest) (fuel : Nat) :
    (s.subscribe r fuel).next.At handle log number := by
  have hservice := s.client.service_subscribe r fuel
  have hlt := h.lt_length
  unfold Session.subscribe
  simp only
  split
  · exact h.congr hservice (List.getElem?_append_left hlt)
  · exact h.congr hservice rfl

theorem At.drop (h : s.At handle log number) (other : Nat) :
    (s.drop other).2.At handle log number := by
  unfold Session.drop
  split
  · exact h
  · rename_i x hget
    have hakin := Subscriber.akin_disconnect ⟨s.client, x⟩
    by_cases heq : other = handle
    · subst heq
      exact .gone (List.getElem?_set_self h.lt_length) number
    · exact h.congr hakin.service (List.getElem?_set_ne heq)

/-- Every move takes the subscription of a handle past the items that it returns for it. -/
theorem At.step (h : s.At handle log number) (fuel : Nat) (m : SessionMove) :
    ∃ next, log.Goes number next (s.handed fuel handle m) ∧
      (s.step fuel m).At handle log next := by
  have hstay : ∀ {t : Session}, t.At handle log number →
      ∃ next, log.Goes number next [] ∧ t.At handle log next :=
    fun ht => ⟨number, .refl log number, ht⟩
  cases m with
  | publish cache topic value =>
    exact hstay (h.congr (s.client.service_publish cache topic value fuel) rfl)
  | subscribe r => exact hstay (h.subscribe r fuel)
  | event other =>
    exact h.wait (fun _ hx => Subscriber.advanced_event hx fuel) (Subscriber.akin_event fuel) other
  | item other =>
    exact h.wait (fun _ hx => Subscriber.advanced_item hx fuel fuel)
      (Subscriber.akin_item fuel fuel) other
  | drop other => exact hstay (h.drop other)
  | closeLink link => exact hstay (h.congr rfl rfl)
  | close => exact hstay (h.congr rfl rfl)

/-- Every run takes the subscription of a handle past the items that it returned for it. -/
theorem At.received (h : s.At handle log number) (fuel : Nat) (moves : List SessionMove) :
    ∃ next, log.Goes number next (Session.received fuel handle s moves) := by
  induction moves generalizing s number with
  | nil => exact ⟨number, .refl log number⟩
  | cons m moves ih =>
    rcases h.step fuel m with ⟨middle, hgoes, hat⟩
    rcases ih hat with ⟨next, hmore⟩
    exact ⟨next, hgoes.trans hmore⟩

/-- A new subscription is where it was asked to start. -/
theorem at_subscribe {r : SubscribeRequest} (h : s.client.service.Replays r.cache r.topic log)
    (hopened : (s.subscribe r fuel).answer = .ok handle) :
    (s.subscribe r fuel).next.At handle log r.position.number := by
  have hservice := s.client.service_subscribe r fuel
  unfold Session.subscribe at hopened ⊢
  cases hx : (s.client.subscribe r fuel).answer with
  | ok x =>
    simp only [hx] at hopened ⊢
    obtain rfl : s.subscriptions.length = handle := Outcome.ok.inj hopened
    rcases Client.subscribe_ok hx with ⟨stream, hopening, hfields⟩
    have hnumber : x.position.number = r.position.number := by
      rw [hfields]
    rw [← hnumber]
    refine .kept List.getElem?_concat_length ⟨?_, ?_⟩
    · rw [hservice, hfields]
      exact h
    · rw [hfields]
      intro stream' hstream'
      cases hstream'
      exact Client.fed_openStream h hopening
  | _ =>
    simp only [hx] at hopened
    cases hopened

end Session

/-- Take a service that answers from a log, as long as it answers, and a subscription that was
opened in any session with any client of the service; and let the session go on in any way.  If the
subscription resumed, then the items that were returned for it up to now are the items of the log
from there on, in order, as far as they go.  If it started at the live end, then they are the items
of the log from the first of them on. -/
theorem items_in_order {s : Session} {r : SubscribeRequest} {log : Log} {patience fuel handle : Nat}
    (hservice : s.client.service.Replays r.cache r.topic log)
    (hopened : (s.subscribe r patience).answer = .ok handle) (moves : List SessionMove) :
    let received := Session.received fuel handle (s.subscribe r patience).next moves
    (1 ≤ r.position.number → received <+: log.since r.position.number) ∧
    ∀ first later, received = first :: later → received <+: log.since first.number := by
  intro received
  -- the position that the subscription has reached, and what it got on the way
  rcases (Session.at_subscribe hservice hopened).received fuel moves with ⟨next, hgoes⟩
  constructor
  · intro hresume
    have hsince := (hgoes.resumed hresume).2
    exact ⟨log.since next, hsince.symm⟩
  · intro first later hfirst
    have hsince := (hgoes.observed first later hfirst).2
    exact ⟨log.since next, hsince.symm⟩

/-- Four items with gaps in their numbering. -/
def scatteredLog : Log where
  items := [1, 2, 5, 7].map fun n =>
    { value := .binary [], number := n, page := 0, publisher := none }
  ascending := by decide
  bounded := by decide

/-- A service that refuses every third request, and whose streams bring one item, name the next
number and break. -/
def unsteadyService : Service where
  publish _ _ := { takes := some .zero, result := .ok () }
  subscribe k m :=
    if k % 3 = 1 then
      { takes := some .zero, result := .error { code := .unavailable, message := "" } }
    else
      { takes := some .zero
        result := .ok
          (⟨0, .message { kind := some .heartbeat }⟩ ::
            match scatteredLog.since m.resumeAt with
            | [] => []
            | i :: later =>
              [⟨0, .message { kind := some (.item
                  { number := i.number, value := some i.value.toMessage, page := i.page }) }⟩,
               ⟨0, .message { kind := some (.gap
                  { last := i.number, new := (later.head?.elim (i.number + 1) (·.number)) }) }⟩,
               ⟨0, .failed { code := .unavailable, message := "" }⟩]) }

/-- A session of a client of that service. -/
def unsteadySession : Session where
  client :=
    { identity := ⟨[], []⟩
      policy := .counted
      requestTimeout := .ofMillis 5000
      reconnectDelay := .ofMillis 100
      receiveLimit := 4096
      pool :=
        { slotsPerLink := 2, maxLinks := 1, canGrow := false
          links := [{ id := 0, connection := some 0 }], dialer := .faultless }
      calls := { links := [], dialer := .faultless }
      service := unsteadyService
      clock := .coarse
      chance := fun _ _ => .least }

theorem unsteadyService_replays (cache topic : String) :
    unsteadyService.Replays cache topic scatteredLog := by
  have hfeeds : ∀ k m feed, (unsteadyService.subscribe k m).result = .ok feed →
      scatteredLog.Feeds m.resumeAt feed := by
    intro k m feed hfeed
    unfold unsteadyService at hfeed
    simp only at hfeed
    split at hfeed
    · cases hfeed
    · cases hfeed
      refine .heartbeat ?_
      split
      · exact .silent _
      · rename_i i later hsince
        have hlater := Log.since_succ hsince
        have hi : i ∈ scatteredLog.items := (Log.mem_since.1 (hsince ▸ List.mem_cons_self)).1
        simp only [scatteredLog, List.map_cons, List.map_nil, List.mem_cons, List.not_mem_nil,
          or_false] at hi
        rcases hi with rfl | rfl | rfl | rfl
        all_goals
          refine .item hsince rfl (.gap ?_ ?_ ?_ .failed)
          all_goals
            rw [← hlater]
            decide
  exact
    { resumed := fun k m feed _ _ _ h => hfeeds k m feed h
      live := fun k m feed _ _ _ h => ⟨m.resumeAt, hfeeds k m feed h⟩ }

/-- A request to resume behind the first of the items. -/
def resumingRequest : SubscribeRequest where
  cache := "cache"
  topic := "topic"
  position := { number := 2 }

theorem items_in_order_unsteady :
    let moves := [SessionMove.item 0, .event 0, .item 0, .item 0, .item 0]
    let received := Session.received 8 0 (unsteadySession.subscribe resumingRequest 4).next moves
    unsteadySession.client.service.Replays "cache" "topic" scatteredLog ∧
    (unsteadySession.subscribe resumingRequest 4).answer = .ok 0 ∧
    received.map (·.number) = [2, 5, 7] ∧ received <+: scatteredLog.since 2 := by
  intro moves received
  have hservice := unsteadyService_replays "cache" "topic"
  have hopened : (unsteadySession.subscribe resumingRequest 4).answer = .ok 0 := rfl
  have hnumbers : received.map (·.number) = [2, 5, 7] := by decide +kernel
  exact ⟨hservice, hopened, hnumbers, (items_in_order hservice hopened moves).1 (by decide)⟩

/-! ### Gaps that fit the stream and not the log -/

/-- Two items with a gap in their numbering. -/
def pairLog : Log where
  items := [5, 12].map fun n => { value := .binary [], number := n, page := 0, publisher := none }
  ascending := by decide
  bounded := by decide

/-- A service whose first stream names a number and breaks, and whose other streams bring all items
from the number asked for on. -/
def blindService (named : UInt64) : Service where
  publish _ _ := { takes := some .zero, result := .ok () }
  subscribe k m :=
    { takes := some .zero
      result := .ok
        (if k = 0 then
          [⟨0, .message { kind := some .heartbeat }⟩,
            ⟨0, .message { kind := some (.gap { last := 0, new := named }) }⟩,
            ⟨0, .failed { code := .unavailable, message := "" }⟩]
        else pairLog.plainFeed m.resumeAt) }

/-- On the first stream no item is sent, so any number fits there. -/
theorem blindService_sends {named : UInt64} (hpositive : 1 ≤ named) {k : Nat}
    {m : SubscribeMessage} {feed : Feed}
    (h : ((blindService named).subscribe k m).result = .ok feed) :
    pairLog.Sends m.resumeAt feed := by
  unfold blindService at h
  simp only at h
  split at h
  · cases h
    refine ⟨rfl, ?_, List.nil_prefix, ?_⟩
    · intro s hs d harrival
      simp only [List.mem_cons, List.not_mem_nil, or_false] at hs
      rcases hs with rfl | rfl | rfl <;> cases harrival <;> exact ⟨_, rfl⟩
    · intro before ready g after hsplit
      have hnone :
          Feed.items (before ++ ⟨ready, .message { kind := some (.gap g) }⟩ :: after) = [] :=
        hsplit ▸ rfl
      simp only [Feed.items, List.flatMap_append, List.flatMap_cons,
        List.append_eq_nil_iff] at hnone
      have hmem : (⟨ready, .message { kind := some (.gap g) }⟩ : Signal) ∈ before ++ _ :: after :=
        List.mem_append_right before List.mem_cons_self
      rw [← hsplit] at hmem
      simp only [List.mem_cons, List.not_mem_nil, or_false] at hmem
      have hnamed : g.new = named := by
        rcases hmem with h | h | h <;> cases h
        rfl
      refine ⟨hnamed ▸ hpositive, ?_, ?_⟩
      · intro i hi
        rw [Feed.items, hnone.1] at hi
        cases hi
      · intro i hi
        rw [Feed.items, hnone.2.2] at hi
        cases hi
  · cases h
    refine Log.sends_plainFeed ?_ m.resumeAt
    intro i hi
    simp only [pairLog, List.map_cons, List.map_nil, List.mem_cons, List.not_mem_nil,
      or_false] at hi
    rcases hi with rfl | rfl <;> rfl

/-- A session of a client of that service. -/
def blindSession (named : UInt64) : Session where
  client := { unsteadySession.client with service := blindService named }

/-- A request to resume at a number. -/
def requestFrom (number : UInt64) : SubscribeRequest where
  cache := "cache"
  topic := "topic"
  position := { number }

/-- The first two items that are returned for a subscription to that service. -/
def blindItems (named number : UInt64) : List Item :=
  Session.received 8 0 ((blindSession named).subscribe (requestFrom number) 4).next
    [.item 0, .item 0]

/-- A gap has to fit between the items of the log, and not only between those that are sent on its
stream.  If it names the number of an item below the start of its stream, then that item is returned
although it was not asked for.  If it names a number behind an item that is still to come when the
stream breaks, then that item is lost. -/
theorem items_out_of_order :
    (∀ named ≥ 1, ∀ k m feed,
      ((blindSession named).client.service.subscribe k m).result = .ok feed →
      pairLog.Sends m.resumeAt feed) ∧
    ((blindSession 5).subscribe (requestFrom 10) 4).answer = .ok 0 ∧
    (pairLog.since 10).map (·.number) = [12] ∧
    (blindItems 5 10).map (·.number) = [5, 12] ∧ ¬ blindItems 5 10 <+: pairLog.since 10 ∧
    ((blindSession 12).subscribe (requestFrom 5) 4).answer = .ok 0 ∧
    (pairLog.since 5).map (·.number) = [5, 12] ∧
    (blindItems 12 5).map (·.number) = [12] ∧ ¬ blindItems 12 5 <+: pairLog.since 5 := by
  refine ⟨fun named hpositive k m feed => blindService_sends hpositive, rfl, by decide,
    by decide +kernel, ?_, rfl, by decide, by decide +kernel, ?_⟩
  · intro hprefix
    have hnumbers : (blindItems 5 10).map (·.number) <+: [12] := hprefix.map (·.number)
    exact absurd hnumbers (by decide +kernel)
  · intro hprefix
    have hnumbers : (blindItems 12 5).map (·.number) <+: [5, 12] := hprefix.map (·.number)
    exact absurd hnumbers (by decide +kernel)

end PubSub
