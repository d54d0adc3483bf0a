import PubSub.Proofs.Client.Slots

/-!
# Closing

What is left to do with a client once it has been closed.

Closing takes the connections of all links away and stops the stream pool.  From then on a
subscription that is read ends its stream before anything that waits there is looked at, a stream
cannot be opened because no slot is granted, and a publish finds no connection; so nothing is sent,
and the streams there were can only end.

* `Client.Shut`: a client without connections.
* `Session.Calms`: the ways in which a move can go for such a client.
* `Session.calms_step`: there is no other way.
* `closing_is_terminal`: what follows for every client.
-/

namespace PubSub

/-! ## Clients -/

/-- A client that was closed: no link has a connection, and the pool grants no slots. -/
structure Client.Shut (c : Client) : Prop where
  closed : c.pool.closed = true
  streamLinks : ∀ (i : Nat) (l : Link), c.pool.links[i]? = some l → l.connection = none
  callLinks : ∀ (i : Nat) (l : Link), c.calls.links[i]? = some l → l.connection = none

/-- One client comes from another by what can happen after it was closed, and that sends nothing. -/
structure Client.Quiet (c d : Client) : Prop where
  shut : d.Shut
  publishCount : d.publishCount = c.publishCount
  subscribeCount : d.subscribeCount = c.subscribeCount

namespace Client

variable {c d : Client}

theorem Quiet.refl (h : c.Shut) : c.Quiet c := ⟨h, rfl, rfl⟩

theorem Quiet.trans {e : Client} (hcd : c.Quiet d) (hde : d.Quiet e) : c.Quiet e where
  shut := hde.shut
  publishCount := hde.publishCount.trans hcd.publishCount
  subscribeCount := hde.subscribeCount.trans hcd.subscribeCount

/-- Links with the same connections are as closed as before. -/
theorem Quiet.of_links (h : c.Shut) {pool : SlotPool} {calls : Rotation}
    (hclosed : pool.closed = c.pool.closed)
    (hpool : Links.SameConnections pool.links c.pool.links) (hcalls : calls.links = c.calls.links) :
    c.Quiet { c with pool, calls } := by
  refine ⟨⟨hclosed.trans h.closed, hpool.connection_eq_none h.streamLinks, ?_⟩, rfl, rfl⟩
  intro i k hk
  exact h.callLinks i k (hcalls ▸ hk)

theorem quiet_release (h : c.Shut) (link : Nat) : c.Quiet (c.release link) :=
  .of_links h rfl (c.pool.sameConnections_release link) rfl

theorem quiet_closeLink (h : c.Shut) (link : Nat) :
    c.Quiet { c with pool := (c.pool.closeLink link).next } :=
  .of_links h rfl (SlotPool.closeLink_next_of_none fun l hl => h.streamLinks link l hl).2 rfl

theorem callLinks_close (c : Client) {i : Nat} {k : Link}
    (hk : c.close.next.calls.links[i]? = some k) : k.connection = none := by
  have hclosed : (Links.closeAll c.calls.links c.calls.dialer).next.1[i]? = some k := hk
  rcases Links.getElem?_closeAll hclosed with ⟨l, -, rfl⟩
  rfl

theorem shut_close {live : List Nat} (h : c.pool.Leased live) : c.close.next.Shut where
  closed := SlotPool.closed_close c.pool
  streamLinks := h.close.shut (SlotPool.closed_close c.pool)
  callLinks := fun _ _ hk => c.callLinks_close hk

/-- Closing once more closes nothing. -/
theorem quiet_close (h : c.Shut) : c.Quiet c.close.next := by
  have hpool : c.close.next.pool = c.pool := by
    simp [close, SlotPool.close, h.closed]
  exact ⟨⟨hpool ▸ h.closed, hpool ▸ h.streamLinks, fun _ _ hk => c.callLinks_close hk⟩, rfl, rfl⟩

theorem checkNames_ok {cache topic : String} (hcache : Text.allBlank cache = false)
    (htopic : Text.allBlank topic = false) : checkNames cache topic = .ok () := by
  simp [checkNames, hcache, htopic]

theorem openStream_of_shut (h : c.Shut) (r : SubscribeRequest) (fuel : Nat) :
    c.openStream r fuel =
      { answer := .error (.transport .shuttingDown), next := c.record [.opened r] } := by
  simp [openStream, SlotPool.claim_of_closed h.closed]

/-- A subscribe gets no slot, unless it is refused for its names. -/
theorem subscribe_of_shut (h : c.Shut) (r : SubscribeRequest) (fuel : Nat) :
    c.subscribe r fuel =
      match checkNames r.cache r.topic with
      | .error e => { answer := .error e, next := c }
      | .ok () =>
        { answer := .error (.transport .shuttingDown), next := c.record [.opened r] } := by
  unfold subscribe
  rw [openStream_of_shut h]
  rfl

/-- A publish gets no connection, unless it is refused for its names. -/
theorem publish_of_shut (h : c.Shut) (cache topic : String) (value : Value) (fuel : Nat) :
    c.publish cache topic value fuel =
      match checkNames cache topic with
      | .error e => { answer := .error e, next := c }
      | .ok () =>
        { answer := .error (.transport .connectionClosed)
          next := { c with calls := c.calls.pick.2 } } := by
  -- the turn may be that of any link, and all of them are closed
  have hconnection : c.calls.use.1 = .error .connectionClosed := by
    unfold Rotation.use Rotation.connectionAt
    simp only
    split
    · rename_i l hl
      simp [Link.connection?, h.callLinks _ l hl]
    · rfl
  unfold publish
  cases checkNames cache topic with
  | error e => rfl
  | ok _ =>
    simp only [hconnection]
    rfl

end Client

/-! ## Subscribers -/

namespace Subscriber

variable {s : Subscriber}

theorem linkClosed_of_shut (h : s.client.Shut) (stream : ActiveStream) :
    linkClosed s.client stream = true := by
  unfold linkClosed
  split
  · rename_i l hl
    simp [Link.isClosed, h.streamLinks _ l hl]
  · rfl

/-- The first round ends the stream, whatever waits on it. -/
theorem round_of_shut (h : s.client.Shut) (fuel : Nat) :
    s.round fuel =
      { answer := .done (.error (.transport .shuttingDown)), next := s.disconnect } := by
  unfold round
  cases hstream : s.subscription.stream with
  | none =>
    have hclosed : s.client.closed = true := h.closed
    simp [hclosed, disconnect, hstream]
  | some stream => simp [linkClosed_of_shut h stream]

theorem event_of_shut (h : s.client.Shut) (fuel : Nat) :
    event (fuel + 1) s =
      { answer := .error (.transport .shuttingDown), next := s.disconnect } := by
  simp [event, round_of_shut h]

theorem item_of_shut (h : s.client.Shut) (patience fuel : Nat) :
    item (patience + 1) (fuel + 1) s =
      { answer := .error (.transport .shuttingDown), next := s.disconnect } := by
  simp [item, event_of_shut h]

theorem quiet_disconnect (h : s.client.Shut) : s.client.Quiet s.disconnect.client := by
  unfold disconnect
  split
  · exact .refl h
  · exact Client.quiet_release h _

end Subscriber

/-! ## Sessions -/

namespace Session

variable {s t : Session} {handle : Nat} {x : Subscription}

/-- What remains of a subscription that is read after the client was closed. -/
def ending (s : Session) (handle : Nat) (x : Subscription) : Session where
  client := (Subscriber.disconnect ⟨s.client, x⟩).client
  subscriptions :=
    s.subscriptions.set handle (some (Subscriber.disconnect ⟨s.client, x⟩).subscription)

theorem event?_of_shut (h : s.client.Shut) (hx : s.get? handle = some x) (fuel : Nat) :
    s.event? handle (fuel + 1) =
      some { answer := .error (.transport .shuttingDown), next := s.ending handle x } := by
  have hends := Subscriber.event_of_shut (s := ⟨s.client, x⟩) h fuel
  simp [event?, hx, hends, putBack, ending]

theorem item?_of_shut (h : s.client.Shut) (hx : s.get? handle = some x) (fuel : Nat) :
    s.item? handle (fuel + 1) =
      some { answer := .error (.transport .shuttingDown), next := s.ending handle x } := by
  have hends := Subscriber.item_of_shut (s := ⟨s.client, x⟩) h fuel fuel
  simp [item?, hx, hends, putBack, ending]

/-- The ways in which a move can go after the client was closed: nothing happens to the
subscriptions, or one of them loses its stream, or is given up. -/
inductive Calms (s : Session) : Session → Prop where
  | idle {c : Client} (hquiet : s.client.Quiet c) : Calms s { s with client := c }
  | ended {handle : Nat} {x : Subscription} (hx : s.get? handle = some x) :
      Calms s (s.ending handle x)
  | dropped {handle : Nat} {x : Subscription} (hx : s.get? handle = some x) :
      Calms s
        { client := (Subscriber.disconnect ⟨s.client, x⟩).client
          subscriptions := s.subscriptions.set handle none }

/-- Every move after the client was closed goes in one of the ways described. -/
theorem calms_step (h : s.client.Shut) (fuel : Nat) (m : SessionMove) :
    s.Calms (s.step (fuel + 1) m) := by
  have hidle : s.Calms s := .idle (.refl h)
  cases m with
  | publish cache topic value =>
    simp only [step, publish, Client.publish_of_shut h]
    split
    · exact hidle
    · exact .idle (.of_links h rfl (.refl _) rfl)
  | subscribe r =>
    simp only [step, subscribe, Client.subscribe_of_shut h]
    cases Client.checkNames r.cache r.topic with
    | error e => exact hidle
    | ok _ =>
      -- a slot was asked for, which is no request
      refine .idle ⟨⟨h.closed, h.streamLinks, h.callLinks⟩, ?_, ?_⟩
      · simp [Client.record, Client.publishCount]
      · simp [Client.record, Client.subscribeCount]
  | event handle =>
    cases hx : s.get? handle with
    | none =>
      -- there is no such subscription
      simpa [step, event?, hx] using hidle
    | some x =>
      rw [step, event?_of_shut h hx]
      exact .ended hx
  | item handle =>
    cases hx : s.get? handle with
    | none => simpa [step, item?, hx] using hidle
    | some x =>
      rw [step, item?_of_shut h hx]
      exact .ended hx
  | drop handle =>
    simp only [step, drop]
    cases hx : s.get? handle with
    | none => exact hidle
    | some x => exact .dropped hx
  | closeLink link => exact .idle (Client.quiet_closeLink h link)
  | close => exact .idle (Client.quiet_close h)

theorem get?_ending (hx : s.get? handle = some x) :
    (s.ending handle x).get? handle = some (Subscriber.disconnect ⟨s.client, x⟩).subscription := by
  unfold ending
  rw [get?_set (set_get? hx).1, if_pos rfl]

namespace Calms

theorem quiet (h : s.Calms t) (hshut : s.client.Shut) : s.client.Quiet t.client := by
  have hdisconnect (x : Subscription) :
      s.client.Quiet (Subscriber.disconnect ⟨s.client, x⟩).client :=
    Subscriber.quiet_disconnect (s := ⟨s.client, x⟩) hshut
  cases h with
  | idle hquiet => exact hquiet
  | ended _ => exact hdisconnect _
  | dropped _ => exact hdisconnect _

/-- No subscription gets a stream. -/
theorem get? (h : s.Calms t) {y : Subscription} (hy : t.get? handle = some y)
    (hstream : y.stream ≠ none) : s.get? handle = some y := by
  cases h with
  | idle _ => exact hy
  | ended hx =>
    rw [ending, get?_set (set_get? hx).1] at hy
    split at hy
    · cases hy
      exact absurd (Subscriber.stream_disconnect _) hstream
    · exact hy
  | dropped hx =>
    rw [get?_set (set_get? hx).1] at hy
    split at hy
    · cases hy
    · exact hy

/-- There are no more streams than before. -/
theorem connected_le (h : s.Calms t) : t.connected.length ≤ s.connected.length := by
  have hbeside : ∀ {handle : Nat} {x : Subscription}, s.get? handle = some x →
      (s.slotsBeside handle).length ≤ s.slots.length := by
    intro handle x hx
    rcases set_get? hx with ⟨hhandle, hset⟩
    have hperm := slots_set hhandle (some x)
    rw [hset] at hperm
    have hlength : s.slots.length = _ := hperm.length_eq
    rw [hlength, List.length_append]
    exact Nat.le_add_left _ _
  rw [← length_slots, ← length_slots]
  cases h with
  | idle _ => exact Nat.le_refl _
  | @ended handle x hx =>
    -- the subscription that was read holds no slot, so the slots are those of the others
    have hperm := slots_set (set_get? hx).1
      (some (Subscriber.disconnect ⟨s.client, x⟩).subscription)
    rw [Option.bind_some, Subscription.slot?, Subscriber.stream_disconnect] at hperm
    exact Nat.le_trans (Nat.le_of_eq hperm.length_eq) (hbeside hx)
  | dropped hx => exact hbeside hx

end Calms

/-- A subscription that is read or dropped has no stream afterwards. -/
theorem stream_of_poll (h : s.client.Shut) {fuel : Nat} {m : SessionMove}
    (hm : m = .event handle ∨ m = .item handle ∨ m = .drop handle) {y : Subscription}
    (hy : (s.step (fuel + 1) m).get? handle = some y) : y.stream = none := by
  cases hx : s.get? handle with
  | none =>
    -- there was no subscription, and none has come
    have hnone : (s.step (fuel + 1) m).get? handle = none := by
      rcases hm with rfl | rfl | rfl <;> simp [step, event?, item?, drop, hx]
    cases hnone.symm.trans hy
  | some x =>
    rcases hm with rfl | rfl | rfl
    · rw [step, event?_of_shut h hx] at hy
      cases (get?_ending hx).symm.trans hy
      exact Subscriber.stream_disconnect _
    · rw [step, item?_of_shut h hx] at hy
      cases (get?_ending hx).symm.trans hy
      exact Subscriber.stream_disconnect _
    · rw [step, drop, hx] at hy
      simp only [get?_set (set_get? hx).1, if_true] at hy
      cases hy

/-! ### Runs -/

theorem quiet_run (h : s.client.Shut) (fuel : Nat) (moves : List SessionMove) :
    s.client.Quiet (s.run (fuel + 1) moves).client := by
  induction moves generalizing s with
  | nil => exact .refl h
  | cons m moves ih =>
    have hfirst := (calms_step h fuel m).quiet h
    exact hfirst.trans (ih hfirst.shut)

theorem get?_run (h : s.client.Shut) {fuel : Nat} {moves : List SessionMove} {y : Subscription}
    (hy : (s.run (fuel + 1) moves).get? handle = some y) (hstream : y.stream ≠ none) :
    s.get? handle = some y := by
  induction moves generalizing s with
  | nil => exact hy
  | cons m moves ih =>
    have hfirst := calms_step h fuel m
    exact hfirst.get? (ih (hfirst.quiet h).shut hy) hstream

/-- A subscription that was read or dropped during a run has no stream after it. -/
theorem stream_of_polled (h : s.client.Shut) {fuel : Nat} {moves : List SessionMove}
    {m : SessionMove} (hm : m ∈ moves)
    (hpolls : m = .event handle ∨ m = .item handle ∨ m = .drop handle) {y : Subscription}
    (hy : (s.run (fuel + 1) moves).get? handle = some y) : y.stream = none := by
  induction moves generalizing s with
  | nil => cases hm
  | cons first moves ih =>
    have hfirst := (calms_step h fuel first).quiet h
    rcases List.mem_cons.1 hm with rfl | hlater
    · -- what has a stream after the run had it right after the move
      by_contra hstream
      exact hstream (stream_of_poll h hpolls (get?_run hfirst.shut hy hstream))
    · exact ih hfirst.shut hlater hy

theorem mem_connected {y : Subscription} (hy : y ∈ s.connected) :
    y.stream ≠ none ∧ ∃ handle, s.get? handle = some y := by
  rcases List.mem_filter.1 hy with ⟨hexists, hstream⟩
  rcases List.mem_filterMap.1 hexists with ⟨found, hfound, rfl⟩
  rcases List.mem_iff_getElem?.1 hfound with ⟨handle, hhandle⟩
  refine ⟨?_, handle, ?_⟩
  · intro hnone
    rw [hnone] at hstream
    cases hstream
  · rw [get?, hhandle]
    rfl

end Session

/-! ## After closing -/

/-- For every client that could be made, any run before it is closed and any run after that: every
event and every item that is waited for is answered by the same error, whatever waits on the
stream, and the subscription has no stream afterwards; nothing can be opened or published, and no
request is sent; no move adds a stream, and once every subscription was read or dropped there are
none. -/
theorem closing_is_terminal {settings : ClientSettings} {trustedRoots : Bool} {service : Service}
    {chance : Nat → Failure → Draw} {clock : Clock} {client : Client}
    (hmade : (Client.connect settings trustedRoots service chance clock).1 = .ok client)
    (fuelBefore : Nat) (before : List SessionMove) (fuel : Nat) (later : List SessionMove) :
    let s := (Session.run fuelBefore { client } before).close.next
    let t := s.run (fuel + 1) later
    (∀ (handle : Nat) (x : Subscription) (n : Nat), t.get? handle = some x →
      (∃ r y, t.event? handle (n + 1) = some r ∧ r.answer = .error (.transport .shuttingDown) ∧
        r.next.get? handle = some y ∧ y.stream = none) ∧
      ∃ r y, t.item? handle (n + 1) = some r ∧ r.answer = .error (.transport .shuttingDown) ∧
        r.next.get? handle = some y ∧ y.stream = none) ∧
    (∀ (cache topic : String) (n : Nat), Text.allBlank cache = false →
      Text.allBlank topic = false →
      (∀ position, (t.subscribe { cache, topic, position } n).answer =
        .error (.transport .shuttingDown)) ∧
      ∀ value, (t.publish cache topic value n).answer =
        .error (.transport .connectionClosed)) ∧
    t.client.publishCount = s.client.publishCount ∧
    t.client.subscribeCount = s.client.subscribeCount ∧
    (∀ m, (t.step (fuel + 1) m).client.active ≤ t.client.active) ∧
    ((∀ (handle : Nat) (x : Subscription), s.get? handle = some x →
      ∃ m ∈ later, m = .event handle ∨ m = .item handle ∨ m = .drop handle) →
      t.client.active = 0) := by
  intro s t
  have hstart : Session.Leased { client } := Client.leased_of_connect hmade
  have hbefore := Session.leased_run fuelBefore hstart before
  have hs : s.client.Shut := Client.shut_close hbefore
  have hquiet : s.client.Quiet t.client := Session.quiet_run hs fuel later
  have hclosed : s.Leased := SlotPool.Leased.close hbefore
  have hleased : t.Leased := Session.leased_run (fuel + 1) hclosed later
  refine ⟨?_, ?_, hquiet.publishCount, hquiet.subscribeCount, ?_, ?_⟩
  · intro handle x n hx
    have hending := Session.get?_ending hx
    exact ⟨⟨_, _, Session.event?_of_shut hquiet.shut hx n, rfl, hending,
        Subscriber.stream_disconnect _⟩,
      ⟨_, _, Session.item?_of_shut hquiet.shut hx n, rfl, hending,
        Subscriber.stream_disconnect _⟩⟩
  · intro cache topic n hcache htopic
    have hnames := Client.checkNames_ok hcache htopic
    refine ⟨?_, ?_⟩
    · intro position
      simp [Session.subscribe, Client.subscribe_of_shut hquiet.shut, hnames, Outcome.map]
    · intro value
      simp [Session.publish, Client.publish_of_shut hquiet.shut, hnames]
  · intro m
    rw [Session.active_eq hleased, Session.active_eq (Session.leased_step _ hleased m)]
    exact (Session.calms_step hquiet.shut fuel m).connected_le
  · intro hpolled
    rw [Session.active_eq hleased, List.length_eq_zero_iff, List.eq_nil_iff_forall_not_mem]
    intro y hy
    rcases Session.mem_connected hy with ⟨hstream, handle, hhandle⟩
    -- a subscription that still has a stream had it when the client was closed
    have hold := Session.get?_run hs hhandle hstream
    rcases hpolled handle y hold with ⟨m, hm, hpolls⟩
    exact hstream (Session.stream_of_polled hs hm hpolls hhandle)

/-- Both subscriptions are read, and something is opened and published. -/
def lateRun : List SessionMove :=
  [.event 1, .subscribe ⟨"cache", "d", {}⟩, .publish "cache" "a" (.text "hi"), .item 0]

theorem closing_is_terminal_brief :
    let made := (Client.connect briefSettings true briefService fun _ _ => .least).1
    let closed (client : Client) : Session := (Session.run 4 { client } briefRun).close.next
    let after (client : Client) : Session := (closed client).run 2 lateRun
    made.toOption.map (fun client =>
      ((closed client).client.active, (after client).client.active,
        (after client).client.subscribeCount)) = some (1, 0, 4) ∧
    ∃ client, made = .ok client ∧
      (after client).client.subscribeCount = (closed client).client.subscribeCount := by
  intro made closed after
  have hafter : made.toOption.map (fun client =>
      ((closed client).client.active, (after client).client.active,
        (after client).client.subscribeCount)) = some (1, 0, 4) := by
    decide +kernel
  cases hmade : made with
  | error e =>
    rw [hmade] at hafter
    cases hafter
  | ok client =>
    rw [hmade] at hafter
    exact ⟨hafter, client, rfl, (closing_is_terminal hmade 4 briefRun 1 lateRun).2.2.2.1⟩

end PubSub
