import PubSub.Command.Causes
import PubSub.Proofs.Client.Closing
import PubSub.Proofs.Client.Publishing
import PubSub.Proofs.Command.Following

/-!
# Performing commands

What publishing sends and when it stops, and what a command leaves behind that has ended.

Publishing sends its messages one after another.  A publish that succeeds has sent a request at
least once, so the history of the client tells how many did.

* `PublishJob.Sends`: so many messages have been sent one after another.
* `PublishJob.Ends`: the ways in which publishing can end.
* `PublishJob.run_of_ends`, `PublishJob.ends_of_run`: it ends in these ways and in no others.
* `Command.leased_of_ends`: the slots are accounted for when the client is closed.
* `command_carried_out`: what follows for every command.
-/

namespace PubSub

theorem Client.metadata_publish (c : Client) (cache topic : String) (value : Value) (fuel : Nat) :
    (c.publish cache topic value fuel).next.metadata = c.metadata := by
  rcases c.publish_next cache topic value fuel with ⟨_, _, _, hnext⟩
  rw [metadata, metadata, hnext]

theorem Client.policy_publish (c : Client) (cache topic : String) (value : Value) (fuel : Nat) :
    (c.publish cache topic value fuel).next.policy = c.policy := by
  rcases c.publish_next cache topic value fuel with ⟨_, _, _, hnext⟩
  rw [hnext]

/-- Whether the policy of a client is one that settings can name, other than the one that repeats
attempts which ran out of time. -/
def Client.SendsOnce (c : Client) : Prop :=
  ∃ kind : PolicyKind, c.policy = kind.policy ∧ kind ≠ .windowed

/-- Such a client makes one attempt to publish a value. -/
theorem Client.SendsOnce.length_publishing {c : Client} (h : c.SendsOnce) (m : PublishMessage)
    (fuel : Nat) : (c.publishing m fuel).tries.length ≤ 1 := by
  rcases h with ⟨kind, hpolicy, hkind⟩
  exact length_publishing_le_one hpolicy (fun hwindowed => absurd hwindowed hkind) fuel

/-! ## Publishing -/

namespace PublishJob

/-- One publish of a job. -/
def sending (job : PublishJob) (c : Client) (fuel : Nat) : Reply Client (Outcome Unit) :=
  c.publish job.cache job.topic (.text job.message) fuel

/-- The message of a job as it travels. -/
def toMessage (job : PublishJob) : PublishMessage :=
  publishMessage job.cache job.topic (.text job.message)

/-- A client sends so many messages of a job one after another, and comes to be another one. -/
inductive Sends (job : PublishJob) : Nat → Client → Client → Prop where
  | none (c : Client) : Sends job 0 c c
  | more {c t : Client} {sent fuel : Nat} (hfirst : (job.sending c fuel).answer = .ok ())
      (hrest : Sends job sent (job.sending c fuel).next t) : Sends job (sent + 1) c t

/-- The ways in which publishing can end: how many messages were sent, the ending, and the
client. -/
inductive Ends (job : PublishJob) (c : Client) : Nat → Command.Ending → Client → Prop where
  | complete {t : Client} (hsent : job.Sends job.count.toNat c t) :
      Ends job c job.count.toNat .success t
  | failed {t : Client} {sent fuel : Nat} {e : TopicError} (hsent : job.Sends sent c t)
      (hless : sent < job.count.toNat) (hanswer : (job.sending t fuel).answer = .error e) :
      Ends job c sent (.failure (.publish (sent + 1) job.count.toNat e)) (job.sending t fuel).next

variable {job : PublishJob} {c d t : Client} {sent patience left fuel : Nat}
  {ending : Command.Ending}

/-! ### Requests -/

theorem metadata_of_sends (h : job.Sends sent c t) : t.metadata = c.metadata := by
  induction h with
  | none c => rfl
  | @more c t sent fuel _ _ ih => exact ih.trans (c.metadata_publish _ _ _ fuel)

theorem policy_of_sends (h : job.Sends sent c t) : t.policy = c.policy := by
  induction h with
  | none c => rfl
  | @more c t sent fuel _ _ ih => exact ih.trans (c.policy_publish _ _ _ fuel)

/-- Every message was sent in a request at least, and in one only if the policy does not repeat
attempts which ran out of time. -/
theorem Sends.requests (h : job.Sends sent c t) :
    ∃ groups : List (List Act), groups.length = sent ∧ t.history = c.history ++ groups.flatten ∧
      ∀ group ∈ groups, group ≠ [] ∧ c.Sent job.toMessage group ∧
        (c.SendsOnce → group.length = 1) := by
  induction h with
  | none c => exact ⟨[], rfl, (List.append_nil _).symm, nofun⟩
  | @more c t sent fuel hfirst hrest ih =>
    rcases ih with ⟨groups, hlength, hhistory, hgroups⟩
    rcases Client.sent_of_publish_ok hfirst with ⟨group, hpublished, hsent, hsome, htries⟩
    refine ⟨group :: groups, congrArg (· + 1) hlength, ?_, ?_⟩
    · rw [hhistory, sending, hpublished, List.flatten_cons, List.append_assoc]
    · rintro other hother
      rcases List.mem_cons.1 hother with rfl | hother
      · refine ⟨hsome, hsent, fun honce => ?_⟩
        have hmost : other.length ≤ 1 := htries ▸ honce.length_publishing _ fuel
        exact Nat.le_antisymm hmost (List.length_pos_iff.2 hsome)
      · -- the requests of the others were made by the client after the first publish
        have hmetadata := c.metadata_publish job.cache job.topic (.text job.message) fuel
        have hpolicy := c.policy_publish job.cache job.topic (.text job.message) fuel
        rcases hgroups other hother with ⟨hnonempty, hothers, hone⟩
        refine ⟨hnonempty, ?_, ?_⟩
        · intro act hact
          exact hmetadata ▸ hothers act hact
        · rintro ⟨kind, hkind, hrepeats⟩
          exact hone ⟨kind, hpolicy.trans hkind, hrepeats⟩

/-- Behind the messages that were sent there is at most what was tried for one that failed. -/
theorem Ends.requests (h : job.Ends c sent ending d) :
    ∃ (groups : List (List Act)) (last : List Act), groups.length = sent ∧
      d.history = c.history ++ (groups.flatten ++ last) ∧
      (∀ group ∈ groups, group ≠ [] ∧ c.Sent job.toMessage group ∧
        (c.SendsOnce → group.length = 1)) ∧
      c.Sent job.toMessage last ∧ (c.SendsOnce → last.length ≤ 1) ∧
      (sent = job.count.toNat → last = []) := by
  cases h with
  | complete hsent =>
    rcases hsent.requests with ⟨groups, hlength, hhistory, hgroups⟩
    refine ⟨groups, [], hlength, ?_, hgroups, nofun, fun _ => Nat.zero_le _, fun _ => rfl⟩
    rw [hhistory, List.append_nil]
  | @failed t sent fuel e hsent hless hanswer =>
    rcases hsent.requests with ⟨groups, hlength, hhistory, hgroups⟩
    rcases t.history_publish job.cache job.topic (.text job.message) fuel with
      ⟨last, hpublished, hlast, htries⟩
    refine ⟨groups, last, hlength, ?_, hgroups, ?_, ?_, ?_⟩
    · rw [sending, hpublished, hhistory, List.append_assoc]
    · intro act hact
      exact metadata_of_sends hsent ▸ hlast act hact
    · rintro ⟨kind, hkind, hrepeats⟩
      have honce : t.SendsOnce := ⟨kind, (policy_of_sends hsent).trans hkind, hrepeats⟩
      exact Nat.le_trans htries (honce.length_publishing _ fuel)
    · intro hall
      exact absurd hall (Nat.ne_of_lt hless)

/-! ### Runs -/

theorem runLast_ok (h : (job.sending c patience).answer = .ok ()) :
    job.runLast patience (left + 1) c =
      (job.runLast patience left (job.sending c patience).next).after
        ((job.sending c patience).notices.map .notice) := by
  unfold sending at h
  rw [runLast]
  simp only [h]
  rfl

theorem runLast_error {e : TopicError} (h : (job.sending c patience).answer = .error e) :
    job.runLast patience (left + 1) c =
      { client := (job.sending c patience).next
        output := (job.sending c patience).notices.map .notice
        ending := .failure (.publish (job.count.toNat - left) job.count.toNat e) } := by
  unfold sending at h
  rw [runLast]
  simp only [h]
  rfl

theorem sending_of_le {more : Nat} (hle : fuel ≤ more)
    (h : (job.sending c fuel).answer ≠ .unfinished) : job.sending c more = job.sending c fuel :=
  Client.publish_of_le hle h

/-- Behind the messages that can be sent, publishing goes on with those that are left. -/
theorem runLast_of_sends (h : job.Sends sent c t) :
    ∃ output, output.filterMap Output.line? = [] ∧
      ∃ enough, ∀ patience ≥ enough, ∀ left,
        job.runLast patience (sent + left) c = (job.runLast patience left t).after output := by
  induction h with
  | none c =>
    refine ⟨[], rfl, 0, ?_⟩
    intro patience _ left
    rw [Nat.zero_add]
    rfl
  | @more c t sent once hfirst hrest ih =>
    rcases ih with ⟨output, hlines, enough, hgoes⟩
    refine ⟨(job.sending c once).notices.map .notice ++ output, ?_, max once enough, ?_⟩
    · rw [List.filterMap_append, Output.lines_notices, hlines]
      rfl
    · intro patience hpatience left
      have hsame : job.sending c patience = job.sending c once :=
        sending_of_le (Nat.le_trans (Nat.le_max_left _ _) hpatience) (by simp [hfirst])
      have hmore := hgoes patience (Nat.le_trans (Nat.le_max_right _ _) hpatience) left
      rw [Nat.add_right_comm, runLast_ok (hsame ▸ hfirst), hsame, hmore]
      simp only [Command.Performance.after, List.append_assoc]

/-- What can end, ends so, given enough patience. -/
theorem run_of_ends (h : job.Ends c sent ending d) :
    ∃ enough, ∀ patience ≥ enough, (job.run patience c).lines = [] ∧
      (job.run patience c).ending = ending ∧ (job.run patience c).client = d := by
  cases h with
  | complete hsent =>
    rcases runLast_of_sends hsent with ⟨output, hlines, enough, hgoes⟩
    refine ⟨enough, ?_⟩
    intro patience hpatience
    have hrun : job.run patience c = _ := hgoes patience hpatience 0
    rw [hrun, Command.Performance.lines_after, hlines]
    exact ⟨rfl, rfl, rfl⟩
  | @failed t sent once e hsent hless hanswer =>
    rcases runLast_of_sends hsent with ⟨output, hlines, enough, hgoes⟩
    refine ⟨max once enough, ?_⟩
    intro patience hpatience
    have hsame : job.sending t patience = job.sending t once :=
      sending_of_le (Nat.le_trans (Nat.le_max_left _ _) hpatience) (by simp [hanswer])
    -- behind the message that failed there are some left, and that is how it is numbered
    rcases Nat.exists_eq_add_of_lt hless with ⟨left, hcount⟩
    have hrun : job.run patience c = (job.runLast patience (left + 1) t).after output := by
      rw [run, hcount, Nat.add_assoc]
      exact hgoes patience (Nat.le_trans (Nat.le_max_right _ _) hpatience) (left + 1)
    have hnumber : job.count.toNat - left = sent + 1 := by
      rw [hcount, Nat.add_right_comm, Nat.add_sub_cancel]
    rw [hrun, runLast_error (hsame ▸ hanswer), hsame, hnumber, Command.Performance.lines_after,
      hlines]
    exact ⟨Output.lines_notices _, rfl, rfl⟩

/-- How the publishing of messages stops of which so many are sent: when all are, when one fails, or
without an end. -/
inductive Stops (job : PublishJob) (left sent : Nat) (t : Client) :
    Command.Ending → Client → Prop where
  | complete (h : sent = left) : Stops job left sent t .success t
  | failed {e : TopicError} {rest : Nat} (patience : Nat) (h : left = sent + (rest + 1))
      (hanswer : (job.sending t patience).answer = .error e) :
      Stops job left sent t (.failure (.publish (job.count.toNat - rest) job.count.toNat e))
        (job.sending t patience).next
  | onwards {ending : Command.Ending} {client : Client} (h : ¬ ending.Ended) :
      Stops job left sent t ending client

theorem Stops.succ (h : job.Stops left sent t ending d) :
    job.Stops (left + 1) (sent + 1) t ending d := by
  cases h with
  | complete h => exact .complete (congrArg (· + 1) h)
  | failed patience h hanswer =>
    refine .failed patience ?_ hanswer
    rw [h, Nat.add_right_comm]
  | onwards h => exact .onwards h

/-- Whatever becomes of it, publishing sends some messages and writes no lines. -/
theorem runLast_course (job : PublishJob) (patience left : Nat) (c : Client) :
    (job.runLast patience left c).lines = [] ∧
      ∃ sent t, job.Sends sent c t ∧
        job.Stops left sent t (job.runLast patience left c).ending
          (job.runLast patience left c).client := by
  induction left generalizing c with
  | zero => exact ⟨rfl, 0, c, .none c, .complete rfl⟩
  | succ left ih =>
    cases hanswer : (job.sending c patience).answer with
    | ok _ =>
      rcases ih (job.sending c patience).next with ⟨hlines, sent, t, hsends, hstops⟩
      rw [runLast_ok hanswer, Command.Performance.lines_after, hlines, Output.lines_notices]
      exact ⟨rfl, sent + 1, t, .more hanswer hsends, hstops.succ⟩
    | error e =>
      rw [runLast_error hanswer]
      exact ⟨Output.lines_notices _, 0, c, .none c, .failed patience (Nat.zero_add _).symm hanswer⟩
    | waiting | unfinished | overflow =>
      unfold sending at hanswer
      rw [runLast]
      simp only [hanswer]
      exact ⟨Output.lines_notices _, 0, c, .none c, .onwards not_false⟩

/-- Publishing ends in no other way. -/
theorem ends_of_run (hended : (job.run patience c).ending.Ended) :
    ∃ sent, job.Ends c sent (job.run patience c).ending (job.run patience c).client := by
  rcases (job.runLast_course patience job.count.toNat c).2 with ⟨sent, t, hsends, hstops⟩
  unfold run at hended ⊢
  generalize (job.runLast patience job.count.toNat c).ending = ending at hstops hended ⊢
  generalize (job.runLast patience job.count.toNat c).client = d at hstops ⊢
  cases hstops with
  | complete h =>
    subst h
    exact ⟨_, .complete hsends⟩
  | @failed e rest again h hanswer =>
    have hless : sent < job.count.toNat := h ▸ Nat.lt_add_of_pos_right rest.succ_pos
    have hnumber : job.count.toNat - rest = sent + 1 := by
      rw [h, Nat.add_comm rest, ← Nat.add_assoc, Nat.add_sub_cancel]
    exact ⟨sent, hnumber ▸ .failed hsends hless hanswer⟩
  | onwards h => exact absurd hended h

end PublishJob

/-! ## Commands -/

/-- A subscriber that is disconnected holds no slot. -/
theorem Subscriber.Leased.disconnected {s : Subscriber} {live : List Nat} (h : s.Leased live) :
    s.disconnect.client.pool.Leased live := by
  have hleft := Subscriber.leased_disconnect h
  rw [Subscriber.Leased, Subscription.slot?, Subscriber.stream_disconnect] at hleft
  exact hleft

namespace FollowJob

variable {job : FollowJob} {c d : Client} {lines : List String} {ending : Command.Ending}

/-- Without a number to resume at, a subscription starts at the live end. -/
theorem position_request (job : FollowJob) :
    job.request.position = { number := job.resumeAt.getD 0 } := by
  unfold request
  cases job.resumeAt <;> rfl

theorem Opens.leased {live : List Nat} {s : Subscriber} (h : job.Opens c s)
    (hc : c.pool.Leased live) : s.Leased live := by
  rcases h with ⟨fuel, x, hanswer, rfl⟩
  have hsubscribed := Client.leased_subscribe hc job.request fuel
  rw [hanswer] at hsubscribed
  exact hsubscribed

/-- When following ends, no slot is taken but those that were taken before. -/
theorem Ends.leased {live : List Nat} (h : job.Ends c lines ending d) (hc : c.pool.Leased live) :
    d.pool.Leased live := by
  cases h with
  | @refused fuel e hanswer =>
    have hsubscribed := Client.leased_subscribe hc job.request fuel
    rw [hanswer] at hsubscribed
    exact hsubscribed
  | complete hopens hdelivers _ =>
    exact (hdelivers.reaches.leased (hopens.leased hc)).disconnected
  | @failed s t es fuel e hopens hdelivers _ _ =>
    have hread := hdelivers.reaches.trans (Subscriber.reaches_event fuel t)
    exact (hread.leased (hopens.leased hc)).disconnected

end FollowJob

namespace PublishJob

variable {job : PublishJob} {c d : Client} {sent : Nat} {ending : Command.Ending}

theorem pool_of_sends {t : Client} (h : job.Sends sent c t) : t.pool = c.pool := by
  induction h with
  | none c => rfl
  | @more c t sent fuel _ _ ih => exact ih.trans (c.pool_publish _ _ _ fuel)

/-- Publishing takes no slots. -/
theorem pool_of_ends (h : job.Ends c sent ending d) : d.pool = c.pool := by
  cases h with
  | complete hsent => exact pool_of_sends hsent
  | @failed t sent fuel e hsent _ _ =>
    exact (t.pool_publish _ _ _ fuel).trans (pool_of_sends hsent)

end PublishJob

namespace Command

/-- What a command does before its client is closed. -/
def work (patience : Nat) (c : Client) : Command → Performance
  | publish job => job.run patience c
  | follow job => job.run patience c

/-- The ways in which a command can end: the lines that were written, the ending, and the client
before it is closed. -/
def Ends (c : Client) (lines : List String) (ending : Ending) (d : Client) : Command → Prop
  | publish job => lines = [] ∧ ∃ sent, job.Ends c sent ending d
  | follow job => job.Ends c lines ending d

variable {command : Command} {c d : Client} {lines : List String} {ending : Ending}

theorem perform_eq (patience : Nat) : command.perform patience c =
    (command.work patience c).close := by
  cases command <;> rfl

/-- Closing the client writes no lines. -/
theorem Performance.lines_close (p : Performance) : p.close.lines = p.lines := by
  have hnotices (notices : List Notice) :
      (p.output ++ notices.map Output.notice).filterMap Output.line? = p.lines := by
    rw [List.filterMap_append, Output.lines_notices, List.append_nil]
    rfl
  unfold close
  split
  · exact hnotices _
  · exact hnotices _
  · rfl

theorem Performance.ending_close (p : Performance) : p.close.ending = p.ending := by
  unfold close
  split <;> rfl

theorem Performance.client_close {p : Performance} (h : p.ending.Ended) :
    p.close.client = p.client.close.next := by
  unfold close
  cases hending : p.ending with
  | success | failure e => rfl
  | waiting | unfinished | overflow =>
    rw [hending] at h
    exact absurd h not_false

/-- What can end has ended. -/
theorem ended_of_ends (h : command.Ends c lines ending d) : ending.Ended := by
  cases command with
  | publish job =>
    rcases h with ⟨-, sent, h⟩
    cases h <;> exact trivial
  | follow job => cases h <;> exact trivial

theorem work_of_ends (h : command.Ends c lines ending d) :
    ∃ enough, ∀ patience ≥ enough, (command.work patience c).lines = lines ∧
      (command.work patience c).ending = ending ∧ (command.work patience c).client = d := by
  cases command with
  | publish job =>
    rcases h with ⟨rfl, sent, h⟩
    exact PublishJob.run_of_ends h
  | follow job => exact FollowJob.run_of_ends h

theorem ends_of_work {patience : Nat} (h : (command.work patience c).ending.Ended) :
    command.Ends c (command.work patience c).lines (command.work patience c).ending
      (command.work patience c).client := by
  cases command with
  | publish job =>
    exact ⟨(job.runLast_course patience job.count.toNat c).1, PublishJob.ends_of_run h⟩
  | follow job => exact FollowJob.ends_of_run h

/-- A command that ended leaves the slots of its client as it found them. -/
theorem leased_of_ends {live : List Nat} (h : command.Ends c lines ending d)
    (hc : c.pool.Leased live) : d.pool.Leased live := by
  cases command with
  | publish job =>
    rcases h with ⟨-, sent, h⟩
    exact (PublishJob.pool_of_ends h).symm ▸ hc
  | follow job => exact h.leased hc

end Command

/-- A command with a client that could be made, whatever the service does.

If the command can end in some way, it ends in this way, as long as it is watched for long enough;
and whenever it has ended, it ended in such a way.  Its lines are written, and its client is closed
then: it is the client that was left behind, without its connections.

Following ends as soon as the items that are wanted have come, or with the first error; until then,
and also if it goes on for ever, the lines are those for the events that were delivered.  Publishing
ends when all messages were sent, each in a request at least, or with the first that fails; that one
is counted from one, and none is sent behind it.  Unless the policy is the one that repeats attempts
which ran out of time, each message is sent in a single request. -/
theorem command_carried_out {settings : ClientSettings} {trustedRoots : Bool} {service : Service}
    {chance : Nat → Failure → Draw} {clock : Clock} {client : Client}
    (hmade : (Client.connect settings trustedRoots service chance clock).1 = .ok client)
    (command : Command) :
    (∀ lines ending d, command.Ends client lines ending d → ∃ enough, ∀ patience ≥ enough,
      (command.perform patience client).lines = lines ∧
      (command.perform patience client).ending = ending ∧
      (command.perform patience client).client = d.close.next) ∧
    (∀ patience, (command.perform patience client).ending.Ended →
      (command.perform patience client).client.Shut ∧
      ∃ d, command.Ends client (command.perform patience client).lines
          (command.perform patience client).ending d ∧
        (command.perform patience client).client = d.close.next) ∧
    (∀ job patience x, command = .follow job →
      (client.subscribe job.request patience).answer = .ok x →
      x.cache = job.cache ∧ x.topic = job.topic ∧ x.position = { number := job.resumeAt.getD 0 } ∧
      ∃ es t, Subscriber.Delivers ⟨(client.subscribe job.request patience).next, x⟩ es t ∧
        (command.perform patience client).lines = job.shown es) ∧
    ∀ job sent ending d, command = .publish job → job.Ends client sent ending d →
      (ending = .success ↔ sent = job.count.toNat) ∧
      ending.causes.head? = (if sent = job.count.toNat then none else
        some ("Failed to publish message " ++ toString (sent + 1) ++ " of "
          ++ toString job.count.toNat)) ∧
      ∃ (groups : List (List Act)) (last : List Act), groups.length = sent ∧
        d.history = client.history ++ (groups.flatten ++ last) ∧
        (∀ group ∈ groups, group ≠ [] ∧ client.Sent job.toMessage group ∧
          (settings.policy ≠ .windowed → group.length = 1)) ∧
        client.Sent job.toMessage last ∧ (settings.policy ≠ .windowed → last.length ≤ 1) ∧
        (sent = job.count.toNat → last = []) := by
  -- no slot of a new client is taken, so its account is in order when the command begins
  have hleased := Client.leased_of_connect hmade
  refine ⟨?_, ?_, ?_, ?_⟩
  · intro lines ending d hends
    have hended := Command.ended_of_ends hends
    rcases Command.work_of_ends hends with ⟨enough, hwork⟩
    refine ⟨enough, ?_⟩
    intro patience hpatience
    rcases hwork patience hpatience with ⟨hlines, hending, hclient⟩
    rw [Command.perform_eq, Command.Performance.lines_close, Command.Performance.ending_close,
      Command.Performance.client_close (hending.symm ▸ hended), hclient]
    exact ⟨hlines, hending, rfl⟩
  · intro patience hended
    rw [Command.perform_eq, Command.Performance.ending_close] at hended
    have hends := Command.ends_of_work hended
    rw [Command.perform_eq, Command.Performance.lines_close, Command.Performance.ending_close,
      Command.Performance.client_close hended]
    exact ⟨Client.shut_close (Command.leased_of_ends hends hleased), _, hends, rfl⟩
  · rintro job patience x rfl hopened
    rcases Client.subscribe_ok hopened with ⟨stream, -, rfl⟩
    rcases FollowJob.run_course hopened with ⟨es, t, hdelivers, -, hlines, -⟩
    rw [Command.perform_eq, Command.Performance.lines_close]
    exact ⟨rfl, rfl, job.position_request, es, t, hdelivers, hlines⟩
  · rintro job sent ending d rfl hends
    have honce : settings.policy ≠ .windowed → client.SendsOnce := fun hrepeats =>
      ⟨settings.policy, (Client.connect_ok hmade).2, hrepeats⟩
    rcases hends.requests with
      ⟨groups, last, hlength, hhistory, hgroups, hlast, hfew, hnothing⟩
    refine ⟨?_, ?_, groups, last, hlength, hhistory, ?_, hlast, fun h => hfew (honce h), hnothing⟩
    · cases hends with
      | complete _ => simp
      | failed _ hless _ => simp [Nat.ne_of_lt hless]
    · cases hends with
      | complete _ =>
        rw [if_pos rfl]
        rfl
      | failed _ hless _ =>
        rw [if_neg (Nat.ne_of_lt hless)]
        rfl
    · intro group hgroup
      rcases hgroups group hgroup with ⟨hsome, hsent, hone⟩
      exact ⟨hsome, hsent, fun h => hone (honce h)⟩

/-- The error of a service that has had enough. -/
def grudge : Status where
  code := .internal
  message := "no"

/-- A service that refuses the second publish.  Its streams bring two items with a gap and a
heartbeat between them, and break behind a third. -/
def grudgingService : Service where
  publish k _ :=
    { takes := some .zero, result := if k = 1 then .error grudge else .ok () }
  subscribe _ _ :=
    let item (value : Value) (number : UInt64) : Signal :=
      ⟨0, .message { kind := some (.item { value := some value.toMessage, number, page := 1 }) }⟩
    { takes := some .zero
      result := .ok
        [heartbeatSignal, item (.text "hi") 7,
         ⟨0, .message { kind := some (.gap { last := 7, new := 9, page := 1 }) }⟩, heartbeatSignal,
         item (.binary [1, 2]) 9, item (.text "late") 10, ⟨0, .failed grudge⟩] }

/-- Two items are wanted, and all events shown. -/
def twoItems : FollowJob where
  cache := "cache"
  topic := "topic"
  limit := some 2
  resumeAt := some 7
  verbose := true

/-- All items are wanted, and nothing else is shown. -/
def allItems : FollowJob := { twoItems with limit := none, verbose := false }

/-- The same message is wanted three times. -/
def threeMessages : PublishJob where
  cache := "cache"
  topic := "topic"
  message := "hi"
  count := 3

/-- Following stops at its limit or at the error, and publishing stops at the second message. -/
theorem command_carried_out_grudging :
    let made := (Client.connect briefSettings true grudgingService fun _ _ => .least).1
    ∃ client, made = .ok client ∧
      let limited (patience : Nat) := Command.perform patience client (.follow twoItems)
      let broken := Command.perform 8 client (.follow allItems)
      let refused := Command.perform 8 client (.publish threeMessages)
      ((limited 8).lines =
          ["[7] hi", "-- discontinuity: 7 -> 9", "-- heartbeat", "[9] <2 bytes>"] ∧
        (limited 8).ending = .success ∧ (limited 8).client.Shut ∧
        ∃ enough, ∀ patience ≥ enough, (limited patience).lines = (limited 8).lines) ∧
      (broken.lines = ["[7] hi", "[9] <2 bytes>", "[10] late"] ∧
        broken.ending = .failure (.event (.service grudge)) ∧ broken.client.Shut ∧
        ∃ x, (client.subscribe allItems.request 8).answer = .ok x ∧
          x.position = { number := 7 } ∧ ∃ es, broken.lines = allItems.shown es) ∧
      refused.ending = .failure (.publish 2 3 (.service grudge)) ∧
        refused.client.publishCount = 2 ∧ refused.client.Shut ∧
        ∃ sent d, threeMessages.Ends client sent refused.ending d ∧
          refused.ending.causes.head? = some "Failed to publish message 2 of 3" ∧
          ∃ groups : List (List Act), groups.length = sent ∧
            ∀ group ∈ groups, group.length = 1 := by
  intro made
  have hperformed : made.toOption.map (fun client =>
      let limited := Command.perform 8 client (.follow twoItems)
      let broken := Command.perform 8 client (.follow allItems)
      let refused := Command.perform 8 client (.publish threeMessages)
      ((limited.lines, limited.ending), (broken.lines, broken.ending),
        (client.subscribe allItems.request 8).answer.toOption.isSome, refused.ending,
        refused.client.publishCount)) =
      some
        ((["[7] hi", "-- discontinuity: 7 -> 9", "-- heartbeat", "[9] <2 bytes>"], .success),
          (["[7] hi", "[9] <2 bytes>", "[10] late"], .failure (.event (.service grudge))), true,
          .failure (.publish 2 3 (.service grudge)), 2) := by
    decide +kernel
  cases hmade : made with
  | error e =>
    rw [hmade] at hperformed
    cases hperformed
  | ok client =>
    rw [hmade] at hperformed
    simp only [Except.toOption, Option.map_some, Option.some.injEq, Prod.mk.injEq] at hperformed
    rcases hperformed with
      ⟨⟨hlimited, hsuccess⟩, ⟨hbroken, hfailure⟩, hopened, hrefused, hcount⟩
    have hfollow := command_carried_out hmade (.follow twoItems)
    have hall := command_carried_out hmade (.follow allItems)
    have hpublish := command_carried_out hmade (.publish threeMessages)
    rcases hfollow.2.1 8 (hsuccess ▸ trivial) with ⟨hlimitedShut, d, hends, -⟩
    rcases hfollow.1 _ _ d hends with ⟨enough, hsame⟩
    rcases hpublish.2.1 8 (hrefused ▸ trivial) with ⟨hrefusedShut, t, ⟨-, sent, hsent⟩, -⟩
    rcases hpublish.2.2.2 _ sent _ t rfl hsent with ⟨-, -, groups, last, hlength, -, hgroups, -⟩
    cases hsubscribed : (client.subscribe allItems.request 8).answer with
    | ok x =>
      rcases hall.2.2.1 allItems 8 x rfl hsubscribed with ⟨-, -, hposition, es, u, -, hshown⟩
      exact ⟨client, rfl,
        ⟨hlimited, hsuccess, hlimitedShut, enough, fun patience hpatience =>
          (hsame patience hpatience).1⟩,
        ⟨hbroken, hfailure, (hall.2.1 8 (hfailure ▸ trivial)).1, x, hsubscribed, hposition, es,
          hshown⟩,
        hrefused, hcount, hrefusedShut, sent, t, hsent, by rw [hrefused]; rfl, groups, hlength,
        fun group hgroup => (hgroups group hgroup).2.2 (by decide)⟩
    | error e | waiting | unfinished | overflow =>
      rw [hsubscribed] at hopened
      cases hopened

end PubSub
