import ClusterHosts.Kubeconfig
import ClusterHosts.Machine
import ClusterHosts.Program
import Std.Async.System
import Std.Time.DateTime.Timestamp

/-! # The program on a machine

A run with the words of a command line, in the surroundings of the machine.
-/

namespace ClusterHosts.Machine

/-- The home directory of the account that runs the program, as far as the machine knows it. -/
def accountHome? : IO (Option String) := do
  try
    let user ← Std.Async.System.getCurrentUser
    pure (user.homeDir.map toString)
  catch _ => pure none

/-- The seconds since the year 1970. -/
def clock : IO Int := do
  let time ← Std.Time.Timestamp.now
  pure time.toSecondsSinceUnixEpoch.val

/-- What the program is told by its surroundings. -/
def environment : IO Environment := do
  pure {
    home := (← IO.getEnv "HOME").map .ofText
    accountHome := (← accountHome?).map .ofText
    kubeconfigPaths := (← IO.getEnv "KUBECONFIG").map .ofText }

/-- What is written about words that cannot be read as a command line. -/
def explanation (error : UsageError) : String :=
  let complaint := match error with
    | .unknownArgument => "unexpected argument found"
    | .invalidValue => "one of the values isn't valid for an argument"
    | .invalidNumber => "invalid value for one of the arguments"
    | .notText => "invalid UTF-8 was detected in one or more arguments"
    | .repeated =>
        "an argument cannot be used with one or more of the other specified arguments"
    | .surplusValue => "unexpected value for an argument found"
  "error: " ++ complaint ++ "\n\nFor more information, try '--help'.\n"

/-- What a run on the machine can reach. -/
def surroundings : IO (Surroundings IO) := do
  pure {
    environment := ← environment
    files := files
    clusters := fun seconds => Clusters.ofFiles files (http seconds) clock
    explain := fun _ => explanation }

end ClusterHosts.Machine

/-- Runs the program and gives its exit code. -/
def main (words : List String) : IO UInt32 := do
  let report ← ClusterHosts.Program.run (← ClusterHosts.Machine.surroundings)
    (words.map .ofText)
  IO.print report.output
  IO.eprint report.errors
  pure report.code.toUInt32
