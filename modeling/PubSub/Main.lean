import PubSub.Command.Report

/-!
# The program

Reads the arguments and the environment, runs the command, and writes what came of it.
-/

namespace PubSub

/-- The variables that the program looks at. -/
def programVariables : List String :=
  ["MOMENTO_AUTH_TOKEN", "MOMENTO_CACHE_ENDPOINT", "MOMENTO_CONTROL_ENDPOINT",
   "TOPICS_MAX_SUBSCRIPTIONS", "TOPICS_NUM_STREAM_CHANNELS", "TOPICS_NUM_UNARY_CHANNELS",
   "TOPICS_REQUEST_TIMEOUT_MS", "TOPICS_RETRY_STRATEGY", "TOPICS_RECONNECT_DELAY_MS", "APP_ENV",
   "RUST_LOG"]

/-- The attempts of a call and the events of a subscription after which the program gives up. -/
def programPatience : Nat := 100000

/-- The lines of an error report: the causes with their numbers, the outermost first. -/
def causeLines (causes : List String) : List String :=
  causes.mapIdx fun i cause => "   " ++ toString i ++ ": " ++ cause

end PubSub

/-- Runs the program and returns its exit code. -/
def main (arguments : List String) : IO UInt32 := do
  let assigned ← PubSub.programVariables.filterMapM fun name => do
    return (← IO.getEnv name).map fun text => (name, PubSub.utf8Bytes text)
  let surroundings : PubSub.Surroundings := { environment := .ofList assigned }
  let report := surroundings.run PubSub.programPatience arguments
  report.lines.forM IO.println
  unless report.causes.isEmpty do
    IO.eprintln "Error:"
    (PubSub.causeLines report.causes).forM IO.eprintln
  return UInt32.ofNat (report.exitCode?.getD 1)
