import PubSub.Command.Causes
import PubSub.Command.Isolation

/-!
# Reports

What a run of the program leaves behind: an exit code, the lines it wrote, and, if it failed, the
causes.  Unless a network is described, none is at hand.
-/

namespace PubSub

/-! ## Exit codes -/

namespace Command

/-- The exit code; none if the program does not end. -/
def Ending.exitCode? : Ending → Option Nat
  | success => some 0
  | failure _ => some 1
  | overflow => some 101
  | waiting | unfinished => none

/-- The exit code when the arguments are no command. -/
def Stop.exitCode : Stop → Nat
  | help => 0
  | refused => 2

end Command

/-! ## The program -/

/-- What a run of the program leaves behind. -/
structure Report where
  /-- None if the program does not end. -/
  exitCode? : Option Nat
  lines : List String := []
  causes : List String := []
  /-- The history as far as the service knows it: nothing, if it cannot be reached. -/
  received : List Act := []

/-- The surroundings of a run. -/
structure Surroundings where
  environment : Environment
  /-- Whether the machine knows authorities for secure channels. -/
  trustedRoots : Bool := true
  /-- The service under each endpoint. -/
  service : String → Service := .unreachable
  /-- The draws of the retry strategy. -/
  chance : Nat → Failure → Draw := fun _ _ => .least

namespace Surroundings

/-- Performs a command: loads the settings, makes a client, and lets it do the work. -/
def perform (s : Surroundings) (patience : Nat) (command : Command) : Report :=
  let started := Output.notice (.started (Stage.ofEnvironment s.environment).name)
  let report (output : List Output) (ending : Command.Ending) (received : List Act) : Report :=
    { exitCode? := ending.exitCode?, causes := ending.causes, received
      lines := outputLines s.environment (started :: output) }
  match ClientSettings.ofEnvironment s.environment with
  | .error e => report [] (.failure (.settings e)) []
  | .ok settings =>
    let service := s.service settings.credentials.cacheEndpoint
    match Client.connect settings s.trustedRoots service s.chance with
    | (.error e, notices) => report (notices.map .notice) (.failure (.client e)) []
    | (.ok client, notices) =>
      let p := command.perform patience client
      report (notices.map .notice ++ p.output) p.ending p.client.received

/-- Runs the program with arguments. -/
def run (s : Surroundings) (patience : Nat) (arguments : List String) : Report :=
  match Command.ofArguments arguments with
  | .error stop => { exitCode? := some stop.exitCode }
  | .ok command => s.perform patience command

end Surroundings

end PubSub
