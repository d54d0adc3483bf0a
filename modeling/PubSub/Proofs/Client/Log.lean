import PubSub.Client.Service
import PubSub.Topic.Request

/-!
# Logs

A topic as its service keeps it: items with ascending numbers.  The log is taken as it will be in
the end; items that are appended later are those that arrive later.

* `Log.since`: the items from a number on.
* `Log.Feeds`: what may arrive on a stream that starts at a number; `Log.Sends`: what could arrive
  if gaps had to fit between the items of the stream alone.
* `Service.Replays`: a service that answers requests from a log, as long as it answers.
* `Log.Goes`: what a subscriber got on its way from one position to another.
-/

namespace PubSub

/-- The item that an event delivers. -/
def Event.items : Event → List Item
  | .item i => [i]
  | _ => []

/-- The items of a topic. -/
structure Log where
  items : List Item
  ascending : items.Pairwise fun i j => i.number < j.number
  /-- Every number has a successor. -/
  bounded : ∀ i ∈ items, i.number.toNat + 1 < UInt64.size

namespace Log

/-- The items from a number on. -/
def since (log : Log) (number : UInt64) : List Item :=
  log.items.filter fun i => number ≤ i.number

variable {log : Log}

theorem mem_since {number : UInt64} {i : Item} :
    i ∈ log.since number ↔ i ∈ log.items ∧ number ≤ i.number := by
  simp [since]

theorem toNat_succ {i : Item} (h : i ∈ log.items) :
    (i.number + 1).toNat = i.number.toNat + 1 := by
  have hsmall : i.number.toNat + 1 < UInt64.size := log.bounded i h
  rw [UInt64.toNat_add]
  exact Nat.mod_eq_of_lt hsmall

theorem one_le_succ {i : Item} (h : i ∈ log.items) : 1 ≤ i.number + 1 := by
  rw [UInt64.le_iff_toNat_le, toNat_succ h]
  exact Nat.succ_le_succ (Nat.zero_le _)

theorem succ_le_iff {i : Item} (h : i ∈ log.items) {number : UInt64} :
    i.number + 1 ≤ number ↔ i.number < number := by
  rw [UInt64.le_iff_toNat_le, toNat_succ h, UInt64.lt_iff_toNat_lt]
  exact Iff.rfl

/-- Behind the first of the items from a number on are the others. -/
theorem since_succ {number : UInt64} {i : Item} {later : List Item}
    (h : log.since number = i :: later) : log.since (i.number + 1) = later := by
  have hi : i ∈ log.items ∧ number ≤ i.number := mem_since.1 (h ▸ List.mem_cons_self)
  have hsorted : (i :: later).Pairwise fun i j => i.number < j.number :=
    h ▸ log.ascending.filter _
  have hlater : ∀ j ∈ later, i.number < j.number := (List.pairwise_cons.1 hsorted).1
  -- what lies behind the first item is looked for among what lies behind the number
  have hagain : log.since (i.number + 1) =
      (log.since number).filter fun j => i.number + 1 ≤ j.number := by
    unfold since
    rw [List.filter_filter]
    apply List.filter_congr
    intro j _
    have hpast : i.number + 1 ≤ j.number → number ≤ j.number := by
      intro hj
      exact UInt64.le_trans hi.2 (UInt64.le_of_lt ((succ_le_iff hi.1).1 hj))
    simpa using hpast
  rw [hagain, h, List.filter_cons_of_neg, List.filter_eq_self]
  · intro j hj
    have hnext : i.number + 1 ≤ j.number := (succ_le_iff hi.1).2 (hlater j hj)
    simpa using hnext
  · have hself : ¬ i.number + 1 ≤ i.number := by
      rw [succ_le_iff hi.1]
      exact UInt64.lt_irrefl i.number
    simpa using hself

/-- A number that no item separates from another one has the same items from it on. -/
theorem since_congr {number other : UInt64}
    (hbefore : ∀ i ∈ log.items, i.number < number → i.number < other)
    (hafter : ∀ i ∈ log.items, number ≤ i.number → other ≤ i.number) :
    log.since other = log.since number := by
  apply List.filter_congr
  intro i hi
  by_cases hle : number ≤ i.number
  · simp [hle, hafter i hi hle]
  · have hlt : i.number < other := hbefore i hi (UInt64.not_le.1 hle)
    simp [hle, UInt64.not_le.2 hlt]

/-- An item that is first from a number on is first from its own number on. -/
theorem since_number {number : UInt64} {i : Item} {later : List Item}
    (h : log.since number = i :: later) : log.since i.number = i :: later := by
  have hi : i ∈ log.items ∧ number ≤ i.number := mem_since.1 (h ▸ List.mem_cons_self)
  have hsorted : (i :: later).Pairwise fun i j => i.number < j.number :=
    h ▸ log.ascending.filter _
  rw [← h]
  apply since_congr
  · intro j _ hj
    exact UInt64.lt_of_lt_of_le hj hi.2
  · intro j hj hle
    have hmem : j ∈ i :: later := h ▸ mem_since.2 ⟨hj, hle⟩
    rcases List.mem_cons.1 hmem with rfl | hlater
    · exact UInt64.le_refl _
    · exact UInt64.le_of_lt ((List.pairwise_cons.1 hsorted).1 j hlater)

/-! ## Progress -/

/-- Between two positions a subscriber got some items.  From a position that resumes, they are all
the items on the way.  At the live end it is not said where they start; then they are all the items
from the first of them on. -/
structure Goes (log : Log) (start stop : UInt64) (got : List Item) : Prop where
  resumed : 1 ≤ start → 1 ≤ stop ∧ log.since start = got ++ log.since stop
  observed : ∀ i later, got = i :: later →
    1 ≤ stop ∧ log.since i.number = got ++ log.since stop

namespace Goes

theorem refl (log : Log) (position : UInt64) : log.Goes position position [] where
  resumed h := ⟨h, rfl⟩
  observed i later h := by cases h

theorem trans {start middle stop : UInt64} {got more : List Item}
    (h : log.Goes start middle got) (hmore : log.Goes middle stop more) :
    log.Goes start stop (got ++ more) where
  resumed hstart := by
    rcases h.resumed hstart with ⟨hmiddle, hgot⟩
    rcases hmore.resumed hmiddle with ⟨hstop, hsince⟩
    exact ⟨hstop, by rw [hgot, hsince, List.append_assoc]⟩
  observed i later hfirst := by
    -- the first item was got on the first part of the way, or else on the second
    cases got with
    | nil => exact hmore.observed i later hfirst
    | cons j got =>
      rcases List.cons_eq_cons.1 hfirst with ⟨rfl, -⟩
      rcases h.observed j got rfl with ⟨hmiddle, hgot⟩
      rcases hmore.resumed hmiddle with ⟨hstop, hsince⟩
      exact ⟨hstop, by rw [hgot, hsince, List.append_assoc]⟩

/-- An item takes a subscriber to the number behind it. -/
theorem item {start place : UInt64} {i : Item} {later : List Item}
    (hplace : 1 ≤ start → place = start) (h : log.since place = i :: later) :
    log.Goes start (i.number + 1) [i] where
  resumed hstart := by
    have hi : i ∈ log.items ∧ place ≤ i.number := mem_since.1 (h ▸ List.mem_cons_self)
    refine ⟨one_le_succ hi.1, ?_⟩
    rw [← hplace hstart, h, since_succ h]
    rfl
  observed j later' hj := by
    rcases List.cons_eq_cons.1 hj with ⟨rfl, -⟩
    have hi : i ∈ log.items ∧ place ≤ i.number := mem_since.1 (h ▸ List.mem_cons_self)
    refine ⟨one_le_succ hi.1, ?_⟩
    rw [since_number h, since_succ h]
    rfl

/-- A gap takes a subscriber past no item. -/
theorem gap {start place stop : UInt64} (hplace : 1 ≤ start → place = start) (hstop : 1 ≤ stop)
    (h : log.since stop = log.since place) : log.Goes start stop [] where
  resumed hstart := ⟨hstop, by rw [h, hplace hstart]; rfl⟩
  observed i later hnone := by cases hnone

end Goes

/-! ## Streams -/

/-- What may arrive on a stream that starts at a number: the items of the log from there on, with
heartbeats among them.  A gap names a number between the items of the log that lie before it and
those that lie behind it, whether they are sent on the stream or not: the items below the start of
the stream lie before, and the items behind lie there also if the stream breaks first.  The stream
may fall silent, end or break at any point. -/
inductive Feeds (log : Log) : UInt64 → Feed → Prop where
  | silent (number : UInt64) : Feeds log number []
  | heartbeat {number : UInt64} {ready : Instant} {rest : Feed} (hrest : Feeds log number rest) :
      Feeds log number (⟨ready, .message { kind := some .heartbeat }⟩ :: rest)
  | item {number : UInt64} {ready : Instant} {m : ItemMessage} {i : Item} {later : List Item}
      {rest : Feed} (hnext : log.since number = i :: later) (hmessage : Item.ofMessage m = .ok i)
      (hrest : Feeds log (i.number + 1) rest) :
      Feeds log number (⟨ready, .message { kind := some (.item m) }⟩ :: rest)
  | gap {number : UInt64} {ready : Instant} {g : GapMessage} {rest : Feed} (hpositive : 1 ≤ g.new)
      (hbefore : ∀ i ∈ log.items, i.number < number → i.number < g.new)
      (hafter : ∀ i ∈ log.items, number ≤ i.number → g.new ≤ i.number)
      (hrest : Feeds log g.new rest) :
      Feeds log number (⟨ready, .message { kind := some (.gap g) }⟩ :: rest)
  | ended {number : UInt64} {ready : Instant} {rest : Feed} :
      Feeds log number (⟨ready, .ended⟩ :: rest)
  | failed {number : UInt64} {ready : Instant} {s : Status} {rest : Feed} :
      Feeds log number (⟨ready, .failed s⟩ :: rest)

/-- A heartbeat is no progress. -/
theorem Feeds.of_heartbeat {number : UInt64} {ready : Instant} {rest : Feed}
    (h : log.Feeds number (⟨ready, .message { kind := some .heartbeat }⟩ :: rest)) :
    log.Feeds number rest := by
  cases h with
  | heartbeat hrest => exact hrest

/-- Every message that comes from the log is an event, and the position behind it is where the rest
of the stream starts. -/
theorem Feeds.message {place : UInt64} {ready : Instant} {m : DeliveryMessage} {rest : Feed}
    {p : Position} (h : log.Feeds place (⟨ready, .message m⟩ :: rest))
    (hplace : 1 ≤ p.number → place = p.number) :
    ∃ e next, Event.ofMessage m = .ok e ∧ log.Feeds next rest ∧
      log.Goes p.number (p.after e).number e.items ∧
      (1 ≤ (p.after e).number → next = (p.after e).number) := by
  cases h with
  | heartbeat hrest => exact ⟨.heartbeat, place, rfl, hrest, .refl log p.number, hplace⟩
  | @item _ _ _ i _ _ hnext hmessage hrest =>
    refine ⟨.item i, i.number + 1, ?_, hrest, .item hplace hnext, fun _ => rfl⟩
    exact congrArg (Except.map Event.item) hmessage
  | @gap _ _ g _ hpositive hbefore hafter hrest =>
    -- no item lies between the place before the gap and the place after it
    have hsince : log.since g.new = log.since place := since_congr hbefore hafter
    exact ⟨.discontinuity (.ofMessage g), g.new, rfl, hrest, .gap hplace hpositive hsince,
      fun _ => rfl⟩

end Log

/-! ### Streams that are held against themselves -/

/-- The item that arrives with a signal, if one does. -/
def Signal.items (s : Signal) : List Item :=
  match s.arrival with
  | .message m => ((Event.ofMessage m).toOption.map Event.items).getD []
  | .ended | .failed _ => []

/-- The items that a feed brings. -/
def Feed.items (feed : Feed) : List Item := List.flatMap Signal.items feed

/-- What arrives on a stream that starts at a number, if the numbers that gaps name are held against
the items of the stream alone: a heartbeat, and then events that bring items of the log from there
on, in order.  A gap names a number above every item that was sent before it, and at most every item
that is sent behind it. -/
structure Log.Sends (log : Log) (number : UInt64) (feed : Feed) : Prop where
  greets : feed.head?.map Signal.arrival = some (.message { kind := some .heartbeat })
  events : ∀ s ∈ feed, ∀ m, s.arrival = .message m → ∃ e, Event.ofMessage m = .ok e
  items : Feed.items feed <+: log.since number
  gaps : ∀ before ready g after,
    feed = before ++ ⟨ready, .message { kind := some (.gap g) }⟩ :: after →
    1 ≤ g.new ∧ (∀ i ∈ Feed.items before, i.number < g.new) ∧
      ∀ i ∈ Feed.items after, g.new ≤ i.number

/-- The message that brings an item that nobody signed. -/
def Item.message (i : Item) : DeliveryMessage where
  kind := some (.item { number := i.number, value := some i.value.toMessage, page := i.page })

/-- All the items from a number on, without a gap among them. -/
def Log.plainFeed (log : Log) (number : UInt64) : Feed :=
  ⟨0, .message { kind := some .heartbeat }⟩ ::
    (log.since number).map fun i => ⟨0, .message i.message⟩

theorem Log.sends_plainFeed {log : Log}
    (h : ∀ i ∈ log.items, Event.ofMessage i.message = .ok (.item i)) (number : UInt64) :
    log.Sends number (log.plainFeed number) := by
  have hsince : ∀ i ∈ log.since number, Event.ofMessage i.message = .ok (.item i) :=
    fun i hi => h i (mem_since.1 hi).1
  have hplain : ∀ s ∈ log.plainFeed number, s.arrival = .message { kind := some .heartbeat } ∨
      ∃ i ∈ log.since number, s.arrival = .message i.message := by
    intro s hs
    rcases List.mem_cons.1 hs with rfl | hs
    · exact Or.inl rfl
    · rcases List.mem_map.1 hs with ⟨i, hi, rfl⟩
      exact Or.inr ⟨i, hi, rfl⟩
  refine ⟨rfl, ?_, ?_, ?_⟩
  · intro s hs m hm
    rcases hplain s hs with hheartbeat | ⟨i, hi, hitem⟩
    · cases hheartbeat.symm.trans hm
      exact ⟨_, rfl⟩
    · cases hitem.symm.trans hm
      exact ⟨_, hsince i hi⟩
  · have hitems : ∀ items : List Item,
        (∀ i ∈ items, Event.ofMessage i.message = .ok (.item i)) →
        Feed.items (items.map fun i => ⟨0, .message i.message⟩) = items := by
      intro items
      induction items with
      | nil => exact fun _ => rfl
      | cons i items ih =>
        intro hall
        have hrest := ih fun j hj => hall j (List.mem_cons_of_mem i hj)
        have hfirst : Signal.items ⟨0, .message i.message⟩ = [i] := by
          simp [Signal.items, hall i List.mem_cons_self, Except.toOption, Event.items]
        simp only [Feed.items] at hrest
        simp [Feed.items, hfirst, hrest]
    exact (hitems _ hsince).symm ▸ List.prefix_rfl
  · intro before ready g after hsplit
    have hmem : (⟨ready, .message { kind := some (.gap g) }⟩ : Signal) ∈ log.plainFeed number :=
      hsplit ▸ List.mem_append_right before List.mem_cons_self
    rcases hplain _ hmem with hheartbeat | ⟨i, -, hitem⟩
    · cases hheartbeat
    · cases hitem

/-- A service that keeps the log of a topic.  If it accepts a request to resume, the stream starts
at the number asked for; at the live end it starts anywhere.  It may refuse any request, or not
answer it. -/
structure Service.Replays (service : Service) (cache topic : String) (log : Log) : Prop where
  resumed : ∀ k m feed, m.cache = cache → m.topic = topic → 1 ≤ m.resumeAt →
    (service.subscribe k m).result = .ok feed → log.Feeds m.resumeAt feed
  live : ∀ k m feed, m.cache = cache → m.topic = topic → m.resumeAt = 0 →
    (service.subscribe k m).result = .ok feed → ∃ number, log.Feeds number feed

end PubSub
