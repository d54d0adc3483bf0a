import PubSub.Client.Subscription
import PubSub.Command.Arguments
import PubSub.Command.Output

/-!
# Running a command

Publishing sends one message after another and stops at the first that fails.  Following opens a
subscription and writes a line for every item it delivers, and with the verbose option also for
every gap and every heartbeat, until the wanted number of items has come or the subscription fails.
That number is looked at before every event, so none is read that is not wanted.  A command that
ends leaves its client closed.
-/

namespace PubSub

namespace Command

/-- Why a command failed. -/
inductive Error where
  | settings (e : SettingError)
  | client (e : TopicError)
  /-- Message `number` of `count` could not be published. -/
  | publish (number count : Nat) (e : TopicError)
  | subscribe (cache topic : String) (e : TopicError)
  | event (e : TopicError)
  deriving DecidableEq, Repr

/-- How a command ended. -/
inductive Ending where
  | success
  | failure (e : Error)
  /-- It goes on waiting for ever. -/
  | waiting
  /-- It was cut off before it ended. -/
  | unfinished
  /-- An instant or a delay could not be represented. -/
  | overflow
  deriving DecidableEq, Repr

/-- What a command wrote, how it ended, and the client as it left it. -/
structure Performance where
  output : List Output := []
  ending : Ending
  client : Client

namespace Performance

/-- The performance with some output in front. -/
def after (p : Performance) (output : List Output) : Performance :=
  { p with output := output ++ p.output }

/-- Closes the client of a command that ended. -/
def close (p : Performance) : Performance :=
  match p.ending with
  | .success | .failure _ =>
    let closing := p.client.close
    { p with client := closing.next, output := p.output ++ closing.notices.map .notice }
  | _ => p

end Performance

/-- The ending after an operation that did not succeed. -/
def Ending.ofOutcome {α : Type} (error : TopicError → Error) : Outcome α → Ending
  | .ok _ => success
  | .error e => failure (error e)
  | .waiting => waiting
  | .unfinished => unfinished
  | .overflow => overflow

end Command

/-! ## Publishing -/

namespace PublishJob

/-- Publishes the last messages of a job, given how many are left. -/
def runLast (job : PublishJob) (patience : Nat) : Nat → Client → Command.Performance
  | 0, c =>
    { client := c, ending := .success
      output := [.notice (.published job.cache job.topic job.count.toNat)] }
  | left + 1, c =>
    let sending := c.publish job.cache job.topic (.text job.message) patience
    let output := sending.notices.map Output.notice
    match sending.answer with
    | .ok () => (runLast job patience left sending.next).after output
    | other =>
      { client := sending.next, output
        ending := .ofOutcome (.publish (job.count.toNat - left) job.count.toNat) other }

/-- Publishes all messages of a job. -/
def run (job : PublishJob) (patience : Nat) (c : Client) : Command.Performance :=
  job.runLast patience job.count.toNat c

end PublishJob

/-! ## Following -/

namespace Event

/-- The line for an event; none if the event is passed over. -/
def line? (verbose : Bool) : Event → Option String
  | item i => some ("[" ++ toString i.number.toNat ++ "] " ++ i.value.display)
  | discontinuity d =>
    if verbose then
      some ("-- discontinuity: " ++ toString d.last.toNat ++ " -> " ++ toString d.new.toNat)
    else none
  | heartbeat => if verbose then some "-- heartbeat" else none

def isItem : Event → Bool
  | item _ => true
  | _ => false

end Event

namespace FollowJob

/-- Whether enough items have come. -/
def satisfied (job : FollowJob) (received : Nat) : Bool :=
  match job.limit with
  | some limit => limit.toNat ≤ received
  | none => false

/-- The request that following begins with. -/
def request (job : FollowJob) : SubscribeRequest where
  cache := job.cache
  topic := job.topic
  position :=
    match job.resumeAt with
    | some number => { number }
    | none => {}

/-- Writes what a subscription delivers from here on, of which at most as many events are read as
the fuel allows. -/
def runRest (job : FollowJob) (patience : Nat) : Nat → Nat → Subscriber → Command.Performance
  | fuel, received, s =>
    if job.satisfied received then
      { client := s.disconnect.client, ending := .success
        output := [.notice (.finished received)] }
    else
      match fuel with
      | 0 => { client := s.client, ending := .unfinished }
      | fuel + 1 =>
        let reading := s.event patience
        let output := reading.notices.map Output.notice
        match reading.answer with
        | .ok e =>
          let lines := (e.line? job.verbose).toList.map Output.line
          let received := if e.isItem then received + 1 else received
          (runRest job patience fuel received reading.next).after (output ++ lines)
        | .error e =>
          { client := reading.next.disconnect.client, output, ending := .failure (.event e) }
        | other => { client := reading.next.client, output, ending := .ofOutcome .event other }

/-- Opens the subscription and writes what it delivers. -/
def run (job : FollowJob) (patience : Nat) (c : Client) : Command.Performance :=
  let opening := c.subscribe job.request patience
  let output := opening.notices.map Output.notice
  match opening.answer with
  | .ok subscription =>
    (job.runRest patience patience 0 ⟨opening.next, subscription⟩).after
      (output ++ [.notice (.subscribed job.cache job.topic)])
  | other =>
    { client := opening.next, output, ending := .ofOutcome (.subscribe job.cache job.topic) other }

end FollowJob

namespace Command

/-- Performs a command with a client and closes the client. -/
def perform (patience : Nat) (c : Client) : Command → Performance
  | publish job => (job.run patience c).close
  | follow job => (job.run patience c).close

end Command

end PubSub
