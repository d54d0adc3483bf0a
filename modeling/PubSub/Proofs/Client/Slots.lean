import PubSub.Proofs.Client.Rounds
import PubSub.Proofs.Pool.Decision
import PubSub.Proofs.Pool.Connections

/-!
# Slots

The slots that a client's pool counts are those of the streams of its subscriptions.

The invariant is that of the pool, for the places of the streams there are.  While a subscriber is
at work, the slots of the other subscriptions are a fixed list beside its own; a stream that is
opened adds a place, a stream that ends takes its place away, and an opening that fails leaves the
others as they were.

* `SlotPool.Leased`: the pool counts the slots that are held, and if it is closed, so are its links.
* `Client.leased_openStream`: a stream that is opened holds a slot, and one that is not holds none.
* `Subscriber.leased_round`: a round keeps the account of the subscriber's own slot.
* `Session.leased_run`: a whole run does.
* `slots_match_streams`: what follows for every client.
-/

namespace PubSub

/-- The answer of an operation that succeeded. -/
def Outcome.toOption {α : Type} : Outcome α → Option α
  | ok a => some a
  | error _ | waiting | unfinished | overflow => none

/-! ## Pools -/

namespace SlotPool

/-- The pool counts the slots that are held; and if it is closed, its links are too. -/
structure Leased (p : SlotPool) (live : List Nat) : Prop where
  tallied : p.Tallied live
  shut : p.closed = true → ∀ (i : Nat) (l : Link), p.links[i]? = some l → l.connection = none

namespace Leased

variable {p : SlotPool} {live : List Nat}

theorem perm {live' : List Nat} (h : p.Leased live) (hperm : live.Perm live') : p.Leased live' :=
  ⟨h.tallied.perm hperm, h.shut⟩

theorem claim (h : p.Leased live) :
    p.claim.next.Leased (p.claim.answer.toOption.toList ++ live) where
  tallied := h.tallied.claimed p.claim_claimed
  shut := by
    intro hclosed
    have hbefore : p.closed = true := p.closed_claim.symm.trans hclosed
    rw [claim_of_closed hbefore]
    exact h.shut hbefore

theorem release {i : Nat} (h : p.Leased (i :: live)) : (p.release i).Leased live where
  tallied := h.tallied.release
  shut := fun hclosed => (p.sameConnections_release i).connection_eq_none (h.shut hclosed)

theorem closeLink (h : p.Leased live) (i : Nat) : (p.closeLink i).next.Leased live where
  tallied := h.tallied.closeLink i
  shut := by
    intro hclosed
    have hnext := closeLink_next_of_none fun l hl => h.shut hclosed i l hl
    exact hnext.2.connection_eq_none (h.shut hclosed)

theorem close (h : p.Leased live) : p.close.next.Leased live where
  tallied := h.tallied.close
  shut := by
    intro _ i k hk
    cases hopen : p.closed with
    | true =>
      have hsame : p.close.next = p := by
        simp [SlotPool.close, hopen]
      exact h.shut hopen i k (hsame ▸ hk)
    | false =>
      simp only [SlotPool.close, hopen, Bool.false_eq_true, if_false] at hk
      rcases Links.getElem?_closeAll hk with ⟨l, -, rfl⟩
      rfl

end Leased

theorem leased_of_build {shape : PoolShape} {scheduler : Bool} {d : Dialer} {p : SlotPool}
    (h : (build shape scheduler d).answer = .ok p) : p.Leased [] where
  tallied := (fresh_of_build h).tallied
  shut := by
    intro hclosed
    cases (fresh_of_build h).notClosed.symm.trans hclosed

end SlotPool

/-! ## Opening streams -/

namespace Client

variable {c : Client} {live : List Nat}

/-- The place of the slot that an opened stream holds. -/
def openedAt (answer : Outcome ActiveStream) : List Nat :=
  (answer.toOption.map ActiveStream.link).toList

/-- A slot that was taken for a stream is the stream's if that begins well, and is given back
otherwise. -/
theorem leased_awaitHeartbeat {link : Nat} (h : c.pool.Leased (link :: live)) (deadline : Instant)
    (feed : Feed) :
    (c.awaitHeartbeat link deadline feed).next.pool.Leased
      (openedAt (c.awaitHeartbeat link deadline feed).answer ++ live) := by
  have hrefused : (c.pool.release link).Leased live := h.release
  unfold awaitHeartbeat
  cases feed with
  | nil => exact hrefused
  | cons first rest =>
    simp only
    split
    · exact hrefused
    · split
      · exact h
      all_goals exact hrefused

theorem leased_openOn {link : Nat} (h : c.pool.Leased (link :: live)) (r : SubscribeRequest)
    (fuel : Nat) :
    (c.openOn link r fuel).next.pool.Leased (openedAt (c.openOn link r fuel).answer ++ live) := by
  have hrefused : (c.pool.release link).Leased live := h.release
  unfold openOn
  split
  · exact hrefused
  · simp only
    split
    · exact hrefused
    · exact hrefused
    · exact hrefused
    · apply leased_awaitHeartbeat
      exact h

/-- A stream that is opened holds a slot on its link; whatever else comes of it, no slot stays
taken. -/
theorem leased_openStream (h : c.pool.Leased live) (r : SubscribeRequest) (fuel : Nat) :
    (c.openStream r fuel).next.pool.Leased (openedAt (c.openStream r fuel).answer ++ live) := by
  have hclaimed := h.claim
  unfold openStream
  simp only
  cases hanswer : c.pool.claim.answer with
  | error e =>
    rw [hanswer] at hclaimed
    exact hclaimed
  | ok link =>
    rw [hanswer] at hclaimed
    simp only
    split
    · apply leased_openOn
      exact hclaimed
    · -- the link was closed before it was granted
      exact hclaimed.release

theorem pool_publish (c : Client) (cache topic : String) (value : Value) (fuel : Nat) :
    (c.publish cache topic value fuel).next.pool = c.pool := by
  rcases c.publish_next cache topic value fuel with ⟨_, _, _, hnext⟩
  rw [hnext]

end Client

/-- The place of the slot that a subscription holds. -/
def Subscription.slot? (x : Subscription) : Option Nat := x.stream.map ActiveStream.link

namespace Client

variable {c : Client} {live : List Nat}

/-- A new subscription holds the slot of its stream; a subscribe that fails leaves no slot taken. -/
theorem leased_subscribe (h : c.pool.Leased live) (r : SubscribeRequest) (fuel : Nat) :
    (c.subscribe r fuel).next.pool.Leased
      (((c.subscribe r fuel).answer.toOption.bind Subscription.slot?).toList ++ live) := by
  unfold subscribe
  split
  · exact h
  · have hopening := leased_openStream h r fuel
    simp only
    cases hanswer : (c.openStream r fuel).answer with
    | ok stream =>
      rw [hanswer] at hopening
      exact hopening
    | _ =>
      rw [hanswer] at hopening
      exact hopening

/-- A new client has a new pool and the policy of its settings. -/
theorem connect_ok {settings : ClientSettings} {trustedRoots : Bool} {service : Service}
    {chance : Nat → Failure → Draw} {clock : Clock}
    (h : (connect settings trustedRoots service chance clock).1 = .ok c) :
    (∃ dialer, (SlotPool.build settings.poolShape true dialer).answer = .ok c.pool) ∧
      c.policy = settings.policy.policy := by
  unfold connect at h
  split at h
  · cases h
  · simp only at h
    split at h
    · cases h
    · split at h
      · cases h
      · rename_i slots hbuilt
        cases h
        exact ⟨⟨_, hbuilt⟩, rfl⟩

theorem leased_of_connect {settings : ClientSettings} {trustedRoots : Bool} {service : Service}
    {chance : Nat → Failure → Draw} {clock : Clock}
    (h : (connect settings trustedRoots service chance clock).1 = .ok c) : c.pool.Leased [] := by
  rcases (connect_ok h).1 with ⟨dialer, hbuilt⟩
  exact SlotPool.leased_of_build hbuilt

end Client

/-! ## Rounds -/

namespace Subscriber

variable {s t : Subscriber} {others : List Nat}

/-- The client's pool counts the slot of the subscriber and those of others. -/
def Leased (s : Subscriber) (others : List Nat) : Prop :=
  s.client.pool.Leased (s.subscription.slot?.toList ++ others)

theorem pool_judge (s : Subscriber) (code : StatusCode) :
    (s.judge code).2.client.pool = s.client.pool := by
  unfold judge
  simp only
  split <;> rfl

theorem leased_judge (h : s.Leased others) (code : StatusCode) :
    (s.judge code).2.Leased others := by
  unfold Leased Subscription.slot?
  rw [pool_judge, stream_judge]
  exact h

/-- A subscriber whose stream ends gives its slot back. -/
theorem leased_disconnect (h : s.Leased others) : s.disconnect.Leased others := by
  unfold Leased Subscription.slot? at h
  unfold Leased Subscription.slot? disconnect
  cases hstream : s.subscription.stream with
  | none =>
    rw [hstream] at h
    simpa [hstream] using h
  | some stream =>
    rw [hstream] at h
    exact SlotPool.Leased.release h

/-- What an opening leaves behind when the subscriber has no stream. -/
theorem leased_opening (h : s.Leased others) (hstream : s.subscription.stream = none)
    (fuel : Nat) :
    (s.opening fuel).next.pool.Leased (Client.openedAt (s.opening fuel).answer ++ others) := by
  have hothers : s.client.pool.Leased others := by
    simpa [Leased, Subscription.slot?, hstream] using h
  have hrested : s.rested.pool = s.client.pool := rfl
  exact Client.leased_openStream (hrested ▸ hothers) s.subscription.request fuel

/-- An opening that fails leaves the slots of others. -/
theorem leased_not_opened (h : s.Leased others) (hstream : s.subscription.stream = none)
    {fuel : Nat} (hanswer : (s.opening fuel).answer.toOption = none) :
    Leased { s with client := (s.opening fuel).next } others := by
  have hopening := leased_opening h hstream fuel
  unfold Client.openedAt at hopening
  rw [hanswer] at hopening
  unfold Leased Subscription.slot?
  rw [hstream]
  exact hopening

theorem Passed.leased {fuel : Nat} {round : Round} (h : s.Passed fuel round t)
    (hleased : s.Leased others) : t.Leased others := by
  -- as long as the stream stays on its link, it does not matter what is read from it
  have htaking : ∀ {stream : ActiveStream} (first : Signal) (rest : Feed),
      s.subscription.stream = some stream → (s.taking stream first rest).Leased others := by
    intro stream first rest hstream
    have hslot : s.client.pool.Leased (stream.link :: others) := by
      simpa [Leased, Subscription.slot?, hstream] using hleased
    exact hslot
  cases h with
  | shutDown _ _ => exact hleased
  | opened hstream _ hopening =>
    have hopened := leased_opening hleased hstream fuel
    rw [hopening] at hopened
    exact hopened
  | refused hstream _ hopening ht =>
    subst ht
    exact leased_judge (leased_not_opened hleased hstream (by rw [hopening]; rfl)) _
  | waiting hstream _ hopening =>
    exact leased_not_opened hleased hstream (by rw [hopening]; rfl)
  | unfinished hstream _ hopening =>
    exact leased_not_opened hleased hstream (by rw [hopening]; rfl)
  | overflow hstream _ hopening =>
    exact leased_not_opened hleased hstream (by rw [hopening]; rfl)
  | linkClosed _ _ => exact leased_disconnect hleased
  | silent _ _ _ => exact hleased
  | event hstream _ _ _ _ => exact htaking _ _ hstream
  | fault hstream _ _ _ _ => exact htaking _ _ hstream
  | @ended stream first rest hstream _ _ _ => exact leased_disconnect (htaking first rest hstream)
  | broken hstream _ _ _ ht =>
    subst ht
    exact leased_disconnect (leased_judge (htaking _ _ hstream) _)

/-- A round keeps the account of the subscriber's slot. -/
theorem leased_round (h : s.Leased others) (fuel : Nat) : (s.round fuel).next.Leased others :=
  (s.round_passed fuel).leased h

/-! ### Whole calls -/

/-- The subscribers that rounds lead to, one after another.  Waiting for an event or an item goes
through such subscribers only. -/
inductive Reaches (s : Subscriber) : Subscriber → Prop where
  | start : Reaches s s
  | round {t : Subscriber} (h : Reaches s t) (fuel : Nat) : Reaches s (t.round fuel).next

namespace Reaches

theorem trans {u : Subscriber} (hst : s.Reaches t) (htu : t.Reaches u) : s.Reaches u := by
  induction htu with
  | start => exact hst
  | round _ fuel ih => exact ih.round fuel

theorem leased (h : s.Reaches t) (hleased : s.Leased others) : t.Leased others := by
  induction h with
  | start => exact hleased
  | round _ fuel ih => exact leased_round ih fuel

end Reaches

/-- Waiting for an event goes on in rounds. -/
theorem reaches_event (fuel : Nat) (s : Subscriber) : s.Reaches (event fuel s).next := by
  induction fuel generalizing s with
  | zero => exact .start
  | succ fuel ih =>
    have hfirst : s.Reaches (s.round fuel).next := Reaches.start.round fuel
    simp only [event]
    split
    · exact hfirst
    · exact hfirst.trans (ih _)

theorem reaches_item (patience fuel : Nat) (s : Subscriber) :
    s.Reaches (item patience fuel s).next := by
  induction fuel generalizing s with
  | zero => exact .start
  | succ fuel ih =>
    have hfirst := reaches_event patience s
    simp only [item]
    split
    · exact hfirst
    · exact hfirst.trans (ih _)
    all_goals exact hfirst

/-! ### Asking for a slot -/

end Subscriber

namespace Client

/-- The number of times a slot was asked for. -/
def openCount (c : Client) : Nat :=
  (c.history.filter fun | .opened _ => true | _ => false).length

end Client

namespace Subscriber

theorem openCount_judge (s : Subscriber) (code : StatusCode) :
    (s.judge code).2.client.openCount = s.client.openCount := by
  unfold judge
  simp only
  split
  · rfl
  · simp [Client.record, Client.openCount]

theorem openCount_disconnect (s : Subscriber) :
    s.disconnect.client.openCount = s.client.openCount := by
  unfold disconnect
  split <;> rfl

/-- A round asks for a slot only if the subscriber holds none. -/
theorem stream_of_openCount {s : Subscriber} {fuel : Nat}
    (h : (s.round fuel).next.client.openCount ≠ s.client.openCount) :
    s.subscription.stream = none := by
  cases hstream : s.subscription.stream with
  | none => rfl
  | some stream =>
    -- a subscriber with a stream reads, and reading adds other entries to the history
    have hround := s.round_passed fuel
    refine absurd ?_ h
    generalize (s.round fuel).answer = round, (s.round fuel).next = t at hround
    cases hround with
    | linkClosed _ _ => exact s.openCount_disconnect
    | silent _ _ _ => rfl
    | event _ _ _ _ _ => rfl
    | fault _ _ _ _ _ => rfl
    | ended _ _ _ _ =>
      rw [openCount_disconnect]
      simp [Client.record, Client.openCount, taking]
    | broken _ _ _ _ ht =>
      subst ht
      rw [openCount_disconnect, openCount_judge]
      rfl
    | shutDown hnone _ => cases hstream.symm.trans hnone
    | opened hnone _ _ => cases hstream.symm.trans hnone
    | refused hnone _ _ _ => cases hstream.symm.trans hnone
    | waiting hnone _ _ => cases hstream.symm.trans hnone
    | unfinished hnone _ _ => cases hstream.symm.trans hnone
    | overflow hnone _ _ => cases hstream.symm.trans hnone

end Subscriber

/-! ## Sessions -/

namespace Session

variable {s : Session} {handle : Nat} {x : Subscription}

/-- The places of the slots that subscriptions hold. -/
def slots (s : Session) : List Nat := s.existing.filterMap Subscription.slot?

theorem length_slots (s : Session) : s.slots.length = s.connected.length := by
  unfold slots connected
  induction s.existing with
  | nil => rfl
  | cons x xs ih => cases hstream : x.stream <;> simp [Subscription.slot?, hstream, ih]

/-- What is under a handle holds a slot or not, beside all others. -/
theorem slots_set {xs : List (Option Subscription)} (hhandle : handle < xs.length)
    (y : Option Subscription) :
    (((xs.set handle y).filterMap id).filterMap Subscription.slot?).Perm
      ((y.bind Subscription.slot?).toList ++
        ((xs.set handle none).filterMap id).filterMap Subscription.slot?) := by
  -- what comes before and behind the handle is the same, whatever the handle holds
  have hsplit : ∀ z, xs.set handle z = xs.take handle ++ z :: xs.drop (handle + 1) := by
    intro z
    rw [List.set_eq_take_append_cons_drop, if_pos hhandle]
  rw [hsplit y, hsplit none]
  cases y with
  | none => simp
  | some x =>
    cases hslot : x.slot? with
    | none => simp [hslot]
    | some link => simp [hslot]

/-- A subscription that exists is what its handle holds. -/
theorem set_get? (h : s.get? handle = some x) :
    handle < s.subscriptions.length ∧ s.subscriptions.set handle (some x) = s.subscriptions := by
  unfold get? at h
  have hfound : s.subscriptions[handle]? = some (some x) := by
    cases hhandle : s.subscriptions[handle]? with
    | none => simp [hhandle] at h
    | some found => simpa [hhandle] using h
  rcases List.getElem?_eq_some_iff.1 hfound with ⟨hlt, hget⟩
  exact ⟨hlt, hget ▸ List.set_getElem_self hlt⟩

/-- The slots that subscriptions hold under other handles. -/
def slotsBeside (s : Session) (handle : Nat) : List Nat :=
  ((s.subscriptions.set handle none).filterMap id).filterMap Subscription.slot?

/-- The client's pool counts the slots of the subscriptions. -/
def Leased (s : Session) : Prop := s.client.pool.Leased s.slots

theorem Leased.subscriber (h : s.Leased) (hx : s.get? handle = some x) :
    Subscriber.Leased ⟨s.client, x⟩ (s.slotsBeside handle) := by
  rcases set_get? hx with ⟨hhandle, hset⟩
  have hperm := slots_set hhandle (some x)
  rw [hset] at hperm
  exact SlotPool.Leased.perm h hperm

theorem leased_putBack {α : Type} {r : Reply Subscriber α}
    (hhandle : handle < s.subscriptions.length)
    (h : r.next.Leased (s.slotsBeside handle)) : (s.putBack handle r).next.Leased :=
  h.perm (slots_set hhandle (some r.next.subscription)).symm

theorem leased_drop (h : s.Leased) (handle : Nat) : (s.drop handle).2.Leased := by
  unfold drop
  cases hx : s.get? handle with
  | none => exact h
  | some x =>
    have hleft := Subscriber.leased_disconnect (h.subscriber hx)
    unfold Subscriber.Leased Subscription.slot? at hleft
    rw [Subscriber.stream_disconnect] at hleft
    exact hleft

theorem leased_event (h : s.Leased) {fuel : Nat} {r : Reply Session (Outcome Event)}
    (hr : s.event? handle fuel = some r) : r.next.Leased := by
  rcases Option.map_eq_some_iff.1 hr with ⟨x, hx, rfl⟩
  exact leased_putBack (set_get? hx).1 ((Subscriber.reaches_event fuel _).leased (h.subscriber hx))

theorem leased_item (h : s.Leased) {fuel : Nat} {r : Reply Session (Outcome Item)}
    (hr : s.item? handle fuel = some r) : r.next.Leased := by
  rcases Option.map_eq_some_iff.1 hr with ⟨x, hx, rfl⟩
  exact leased_putBack (set_get? hx).1
    ((Subscriber.reaches_item fuel fuel _).leased (h.subscriber hx))

theorem leased_subscribe (h : s.Leased) (r : SubscribeRequest) (fuel : Nat) :
    (s.subscribe r fuel).next.Leased := by
  have hopening := Client.leased_subscribe h r fuel
  unfold subscribe
  simp only
  cases hanswer : (s.client.subscribe r fuel).answer with
  | ok x =>
    rw [hanswer] at hopening
    refine hopening.perm ?_
    have hslots : slots ⟨(s.client.subscribe r fuel).next, s.subscriptions ++ [some x]⟩ =
        s.slots ++ x.slot?.toList := by
      cases hslot : x.slot? <;> simp [slots, existing, hslot]
    rw [hslots]
    exact List.perm_append_comm
  | _ =>
    rw [hanswer] at hopening
    exact hopening

/-- Every move keeps the account of the slots. -/
theorem leased_step (fuel : Nat) (h : s.Leased) (m : SessionMove) : (s.step fuel m).Leased := by
  cases m with
  | publish cache topic value =>
    unfold Leased
    simp only [step, publish, slots, existing]
    rw [Client.pool_publish]
    exact h
  | subscribe r => exact leased_subscribe h r fuel
  | event handle =>
    simp only [step]
    cases hr : s.event? handle fuel with
    | none => exact h
    | some r => exact leased_event h hr
  | item handle =>
    simp only [step]
    cases hr : s.item? handle fuel with
    | none => exact h
    | some r => exact leased_item h hr
  | drop handle => exact leased_drop h handle
  | closeLink link => exact SlotPool.Leased.closeLink h link
  | close => exact SlotPool.Leased.close h

theorem leased_run (fuel : Nat) (h : s.Leased) (moves : List SessionMove) :
    (s.run fuel moves).Leased := by
  induction moves generalizing s with
  | nil => exact h
  | cons m moves ih => exact ih (leased_step fuel h m)

/-! ### Counting -/

theorem active_eq (h : s.Leased) : s.client.active = s.connected.length :=
  h.tallied.active_eq.trans s.length_slots

/-- While a subscriber is at work, the client counts its slot, if it holds one, and those of the
other subscriptions. -/
theorem active_of_reaches (h : s.Leased) (hx : s.get? handle = some x) {u : Subscriber}
    (hu : Subscriber.Reaches ⟨s.client, x⟩ u) :
    u.client.active =
      (s.drop handle).2.connected.length + if u.subscription.stream.isSome then 1 else 0 := by
  have hothers : (s.drop handle).2.connected.length = (s.slotsBeside handle).length := by
    rw [← length_slots, drop, hx]
    rfl
  rw [hothers, Client.active, (hu.leased (h.subscriber hx)).tallied.active_eq,
    List.length_append, Nat.add_comm]
  cases hstream : u.subscription.stream <;> simp [Subscription.slot?, hstream]

/-- A subscribe that does not succeed leaves the number of streams as it was. -/
theorem active_subscribe (h : s.Leased) {r : SubscribeRequest} {fuel : Nat}
    (hfailed : ∀ handle, (s.subscribe r fuel).answer ≠ .ok handle) :
    (s.subscribe r fuel).next.client.active = s.client.active := by
  have hsubs : (s.subscribe r fuel).next.connected.length = s.connected.length := by
    unfold subscribe at hfailed ⊢
    simp only at hfailed ⊢
    split
    · rename_i x hanswer
      rw [hanswer] at hfailed
      exact absurd rfl (hfailed _)
    · rfl
  rw [active_eq (leased_subscribe h r fuel), hsubs, active_eq h]

theorem active_subscribe_ok (h : s.Leased) {r : SubscribeRequest} {fuel : Nat}
    (hok : (s.subscribe r fuel).answer = .ok handle) :
    (s.subscribe r fuel).next.client.active = s.client.active + 1 := by
  have hsubs : (s.subscribe r fuel).next.connected.length = s.connected.length + 1 := by
    unfold subscribe at hok ⊢
    simp only at hok ⊢
    cases hanswer : (s.client.subscribe r fuel).answer with
    | ok x =>
      -- a subscription that was just opened has a stream
      rcases Client.subscribe_ok hanswer with ⟨stream, -, rfl⟩
      simp [connected, existing]
    | _ =>
      rw [hanswer] at hok
      cases hok
  rw [active_eq (leased_subscribe h r fuel), hsubs, active_eq h]

end Session

/-- Names that are blank are refused, and nothing has happened. -/
theorem Client.refused_of_blank {cache topic : String}
    (h : Text.allBlank cache = true ∨ Text.allBlank topic = true) :
    ∃ fault, ∀ (c : Client) (fuel : Nat),
      (∀ position, c.subscribe { cache, topic, position } fuel =
        { answer := .error (.invalidArgument fault), next := c }) ∧
      ∀ value, c.publish cache topic value fuel =
        { answer := .error (.invalidArgument fault), next := c } := by
  have hnames : ∃ fault, checkNames cache topic = .error (.invalidArgument fault) := by
    unfold checkNames
    cases hcache : Text.allBlank cache with
    | true => exact ⟨_, rfl⟩
    | false =>
      have htopic : Text.allBlank topic = true := by simpa [hcache] using h
      exact ⟨.blankTopic, by simp [htopic]⟩
  rcases hnames with ⟨fault, hfault⟩
  refine ⟨fault, fun c fuel => ⟨?_, ?_⟩⟩
  · intro position
    simp [subscribe, hfault]
  · intro value
    simp [publish, hfault]

/-- After every run of a client that could be made, whatever its service does and whatever it is
made from: the streams that the client counts are those of its subscriptions, and there are slots
for all of them.  While a subscription waits for an event, its stream is counted as long as it has
one, and it asks for a slot only when it has none.  A subscribe that succeeds takes one slot, and
one that does not leaves the count as it was.  Blank names are refused before anything else,
whatever the client has gone through. -/
theorem slots_match_streams {settings : ClientSettings} {trustedRoots : Bool} {service : Service}
    {chance : Nat → Failure → Draw} {clock : Clock} {client : Client}
    (hmade : (Client.connect settings trustedRoots service chance clock).1 = .ok client) (fuel : Nat)
    (moves : List SessionMove) :
    let s := Session.run fuel { client } moves
    s.client.active = s.connected.length ∧
    s.client.active ≤ s.client.pool.capacity ∧
    (∀ (handle : Nat) (x : Subscription), s.get? handle = some x →
      ∀ u, Subscriber.Reaches ⟨s.client, x⟩ u →
        u.client.active =
          (s.drop handle).2.connected.length + (if u.subscription.stream.isSome then 1 else 0) ∧
        ∀ n, (u.round n).next.client.openCount ≠ u.client.openCount →
          u.subscription.stream = none) ∧
    (∀ (r : SubscribeRequest) (n : Nat),
      (∀ handle, (s.subscribe r n).answer = .ok handle →
        (s.subscribe r n).next.client.active = s.client.active + 1) ∧
      ((∀ handle, (s.subscribe r n).answer ≠ .ok handle) →
        (s.subscribe r n).next.client.active = s.client.active)) ∧
    ∀ cache topic : String, (Text.allBlank cache = true ∨ Text.allBlank topic = true) →
      ∃ fault, ∀ (c : Client) (n : Nat),
        (∀ position, c.subscribe { cache, topic, position } n =
          { answer := .error (.invalidArgument fault), next := c }) ∧
        ∀ value, c.publish cache topic value n =
          { answer := .error (.invalidArgument fault), next := c } := by
  intro s
  have hstart : Session.Leased { client } := Client.leased_of_connect hmade
  have hs : s.Leased := Session.leased_run fuel hstart moves
  refine ⟨Session.active_eq hs, ?_, ?_, ?_, ?_⟩
  · rw [Client.active, hs.tallied.active_eq]
    exact hs.tallied.length_le
  · intro handle x hx u hu
    exact ⟨Session.active_of_reaches hs hx hu, fun _ => Subscriber.stream_of_openCount⟩
  · intro r n
    exact ⟨fun _ => Session.active_subscribe_ok hs, Session.active_subscribe hs⟩
  · intro cache topic hblank
    exact Client.refused_of_blank hblank

/-- The beginning of a stream. -/
def heartbeatSignal : Signal := ⟨0, .message { kind := some .heartbeat }⟩

/-- A service that refuses every second stream, and whose streams end after one event. -/
def briefService : Service where
  publish _ _ := { takes := some .zero, result := .ok () }
  subscribe k _ :=
    if k % 2 = 1 then
      { takes := some .zero, result := .error { code := .unavailable, message := "later" } }
    else { takes := some .zero, result := .ok [heartbeatSignal, heartbeatSignal, ⟨0, .ended⟩] }

/-- Settings for two streams, without retries. -/
def briefSettings : ClientSettings where
  credentials := ⟨"http://localhost:80", "http://localhost:80", "token"⟩
  maxSubscriptions := 2
  policy := .never
  callLinks := 1

/-- The second of three subscriptions is refused; the first is read to the end of its stream, which
cannot be opened again. -/
def briefRun : List SessionMove :=
  [.subscribe ⟨"cache", "a", {}⟩, .subscribe ⟨"cache", "b", {}⟩, .subscribe ⟨"cache", "c", {}⟩,
   .event 0, .event 0]

theorem slots_match_streams_brief :
    let made := (Client.connect briefSettings true briefService fun _ _ => .least).1
    let after (client : Client) : Session := Session.run 4 { client } briefRun
    made.toOption.map (fun client =>
      ((after client).existing.length, (after client).client.active)) = some (2, 1) ∧
    ∃ client, made = .ok client ∧
      (after client).client.active = (after client).connected.length := by
  intro made after
  have hafter : made.toOption.map (fun client =>
      ((after client).existing.length, (after client).client.active)) = some (2, 1) := by
    decide +kernel
  cases hmade : made with
  | error e =>
    rw [hmade] at hafter
    cases hafter
  | ok client =>
    rw [hmade] at hafter
    exact ⟨hafter, client, rfl, (slots_match_streams hmade 4 briefRun).1⟩

end PubSub
