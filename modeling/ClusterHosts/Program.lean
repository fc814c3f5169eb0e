import ClusterHosts.Inventory
import ClusterHosts.Invocation
import ClusterHosts.SavedDefaults

/-! # A run of the program

A run reads its command line, lays it over the saved defaults, saves the result if it is asked to,
and resolves and writes an inventory. The first failure ends it: with code 2 if the command line
cannot be read, and with code 1 otherwise. Only a run that resolves an inventory writes to its
output; what it saved stays saved even if the resolution fails.
-/

namespace ClusterHosts

/-- What a run leaves behind: its exit code, and what it writes to its output and to its error
output. -/
structure Report where
  code : UInt8
  output : String := ""
  errors : String := ""
  deriving DecidableEq, Inhabited

/-- What a run can reach. -/
structure Surroundings (m : Type → Type) where
  environment : Environment
  files : Files m
  /-- The clusters, given how many seconds to wait for a connection. -/
  clusters : UInt64 → Clusters m
  /-- What is written about words that cannot be read as a command line. -/
  explain : List SystemText → UsageError → String

namespace Program

/-- The name of the program, and its version. -/
def versionText : String := "kube-nodes-provider 0.1.0\n"

/-- What the program tells of its command line. -/
def helpText : String :=
  "Discover Kubernetes nodes and print an SSH provider config\n\n" ++
  "Usage: kube-nodes-provider [OPTIONS]\n\n" ++
  "Options:\n" ++
  "  -k, --kubeconfig <PATH>       Path to the kubeconfig file (defaults to $KUBECONFIG, then " ++
  "~/.kube/config)\n" ++
  "  -c, --context <CONTEXT>       Kubernetes context to use (defaults to the kubeconfig " ++
  "current context)\n" ++
  "      --names <NAME>            Node names to select. Repeat or separate with commas\n" ++
  "      --nodes <NAME>            Alias for --names; takes precedence when both are given\n" ++
  "  -l, --labels <SELECTOR>       Label selectors (e.g., \"node-role.kubernetes.io/worker\"). " ++
  "Repeatable\n" ++
  "      --ssh-user <USER>         SSH user for discovered hosts\n" ++
  "      --ssh-port <PORT>         SSH port for discovered hosts\n" ++
  "      --private-key <PATH>      SSH private key path\n" ++
  "      --max-retries <N>         SSH connection retries\n" ++
  "      --connect-timeout <SECS>  Seconds to wait when connecting to the Kubernetes API " ++
  "[default: 10]\n" ++
  "  -o, --output <OUTPUT>         Output format [default: json] [possible values: json, yaml]\n" ++
  "  -v, --verbose                 Enable verbose logging\n" ++
  "      --save                    Save the kubeconfig, context and ssh flags as defaults for " ++
  "later runs\n" ++
  "  -h, --help                    Print help\n" ++
  "  -V, --version                 Print version\n"

/-- The report of a command line that does not lead to a run, given how it is explained. -/
def decline (explain : UsageError → String) : Declined → Report
  | .unusable error => { code := 2, errors := explain error }
  | .help => { code := 0, output := helpText }
  | .version => { code := 0, output := versionText }

/-- Causes with their numbers, each on a line. -/
def numbered (index : Nat) : List String → String
  | [] => ""
  | cause :: causes =>
      "    " ++ String.ofList (Text.decimal index) ++ ": " ++ cause ++ "\n" ++
        numbered (index + 1) causes

/-- The causes of a failure below its message. A single cause has no number. -/
def causesText : List String → String
  | [] => ""
  | [cause] => "\nCaused by:\n    " ++ cause ++ "\n"
  | causes => "\nCaused by:\n" ++ numbered 0 causes

/-- What is written of a failure of the defaults. -/
def defaultsErrorText (error : DefaultsError) : String :=
  "Error: " ++ error.message ++ "\n" ++ causesText error.causes

/-- The report of a failure before the resolution. -/
def fail (error : DefaultsError) : Report := { code := 1, errors := defaultsErrorText error }

/-- The report of a resolution. -/
def conclude (format : OutputFormat) : Except CallError Inventory → Report
  | .ok inventory => { code := 0, output := inventory.render format ++ "\n" }
  | .error error => { code := 1, errors := "Error: " ++ error.message ++ "\n" }

variable {m : Type → Type} [Monad m]

/-- The name of the file to which a run adds what it does. -/
def logName : SystemText := .ofText "kube-nodes-provider.log"

/-- Makes the file to which a run adds what it does, and tells if that is not possible. A run goes
on without it. -/
def prepareLog (surroundings : Surroundings m) : m String := do
  let directory := match surroundings.environment.baseDirectory with
    | .ok base => Path.join base (.ofText "log")
    | .error _ => .ofText "."
  match ← surroundings.files.createDirectories directory with
  | .error error =>
      pure ("Warning: Could not create log directory: " ++ error.message ++ "\n")
  | .ok () =>
      match ← surroundings.files.openLog (Path.join directory logName) with
      | .error error => pure ("Warning: Could not create log file: " ++ error.message ++ "\n")
      | .ok () => pure ""

/-- The defaults of a run: the saved ones with the command line laid over them, saved if the command
line asks for it. -/
def defaults (surroundings : Surroundings m) (invocation : Invocation) :
    m (Except DefaultsError SavedDefaults) := do
  match ← SavedDefaults.load surroundings.files surroundings.environment with
  | .error error => pure (.error error)
  | .ok saved =>
      match saved.override invocation with
      | (.error error, _) => pure (.error error)
      | (.ok (), defaults) =>
          if invocation.save then
            match ← defaults.save surroundings.files surroundings.environment with
            | .error error => pure (.error error)
            | .ok () => pure (.ok defaults)
          else pure (.ok defaults)

/-- The inventory that a command line asks for, from certain defaults on. -/
def resolve (surroundings : Surroundings m) (invocation : Invocation) (defaults : SavedDefaults) :
    m (Except CallError Inventory) := do
  let fallback ← surroundings.environment.fallbackKubeconfig? surroundings.files
  match Attributes.ofKeywords Inventory.kind invocation.keywords with
  | .error error => pure (.error error)
  | .ok arguments =>
      Inventory.resolve (surroundings.clusters invocation.timeoutSeconds)
        (defaults.session fallback) arguments

/-- A run that a command line asks for. -/
def runInvocation (surroundings : Surroundings m) (invocation : Invocation) : m Report := do
  let warning ← prepareLog surroundings
  let report ← match ← defaults surroundings invocation with
    | .error error => pure (fail error)
    | .ok defaults => do
        let outcome ← resolve surroundings invocation defaults
        pure (conclude invocation.format outcome)
  pure { report with errors := warning ++ report.errors }

/-- A run with a command line, given by its words without the name of the program. -/
def run (surroundings : Surroundings m) (words : List SystemText) : m Report :=
  match Invocation.parse words with
  | .error declined => pure (decline (surroundings.explain words) declined)
  | .ok invocation => runInvocation surroundings invocation

end Program

end ClusterHosts
