import ClusterHosts.Files
import ClusterHosts.Invocation
import ClusterHosts.Json.Record
import ClusterHosts.Settings

/-! # Saved defaults

The defaults of later runs: how the options of a run override them, and how they are kept in a
file. -/

namespace ClusterHosts

/-! ## Failures of the defaults

Every way in which the defaults between runs can fail to be loaded, saved or overridden, with what
led to it.
-/

/-- Why defaults cannot be loaded, saved or overridden. -/
inductive DefaultsError where
  | noHome
  | unreadable (path : SystemText) (cause : FileError)
  | malformed (path : SystemText) (cause : DecodeError)
  | noDirectory (path : SystemText) (cause : FileError)
  /-- There is no text for the values. -/
  | noText
  | noTemporary (cause : FileError)
  | notWritten (temporary : SystemText) (cause : FileError)
  | notMoved (path : SystemText) (cause : FileError)
  /-- There are options for SSH connections, but no user name. -/
  | noUser

/-- The wording of a failure. -/
def DefaultsError.message : DefaultsError → String
  | .noHome => "Could not determine home directory"
  | .unreadable path _ => "Failed to read config file: " ++ path.shown
  | .malformed path _ => "Failed to parse config file: " ++ path.shown
  | .noDirectory path _ => "Failed to create config directory: " ++ path.shown
  | .noText => "Failed to serialize config"
  | .noTemporary _ => "Failed to create temp file"
  | .notWritten temporary _ => "Failed to write temp file " ++ temporary.quoted
  | .notMoved path _ => "Failed to persist file to " ++ path.quoted
  | .noUser => "--ssh-user is required when no default ssh user is configured"

/-- The wordings of what led to a failure, from the failure on. -/
def DefaultsError.causes : DefaultsError → List String
  | .noHome => []
  | .unreadable _ cause => [cause.message]
  | .malformed _ cause => [cause.message]
  | .noDirectory _ cause => [cause.message]
  | .noText => ["path contains invalid UTF-8 characters"]
  | .noTemporary cause => [cause.message]
  | .notWritten _ cause => [cause.message]
  | .notMoved _ cause => ["failed to persist temporary file: " ++ cause.message, cause.message]
  | .noUser => []

/-! ## Defaults kept between runs

What a run of the program takes for granted when its command line does not say otherwise. The
options of a command line are laid over the saved values, field by field; saved again, the result is
the default of later runs. A session starts from it. A path that is no text is not saved.
-/

/-- The values that are kept between runs. -/
structure SavedDefaults where
  kubeconfig : Option SystemText := none
  clusterContext : Option String := none
  ssh : Option SshSettings := none
  global : Option GlobalSettings := none
  deriving DecidableEq, Inhabited

namespace SavedDefaults

/-- A member of an object, unless its value is missing. -/
def optionalMember (name : String) : Option Json → List (String × Json)
  | some value => [(name, value)]
  | none => []

/-- The values as JSON, given the text of their path; what is missing is left out. -/
def jsonWith (path : Option String) (defaults : SavedDefaults) : Json :=
  .object (optionalMember "kubeconfig" (path.map .string) ++
    optionalMember "context" (defaults.clusterContext.map .string) ++
    optionalMember "ssh" (defaults.ssh.map SshSettings.json) ++
    optionalMember "global" (defaults.global.map GlobalSettings.json))

/-- The values as JSON, unless their path is no text. -/
def json? (defaults : SavedDefaults) : Option Json :=
  match defaults.kubeconfig with
  | none => some (defaults.jsonWith none)
  | some path => path.text?.map fun text => defaults.jsonWith (some text)

/-- How the values are kept in a file. -/
def form : RecordForm SavedDefaults where
  name := "Config"
  start := {}
  fields := [
    { name := "kubeconfig",
      read := fun draft defaults => do
        let text ← draft.nullable (Draft.text "path string")
        pure { defaults with kubeconfig := text.map .ofText } },
    { name := "context",
      read := fun draft defaults => do
        pure { defaults with clusterContext := ← draft.optionalText } },
    { name := "ssh",
      read := fun draft defaults => do
        pure { defaults with ssh := ← draft.nullable SshSettings.form.read } },
    { name := "global",
      read := fun draft defaults => do
        pure { defaults with global := ← draft.nullable GlobalSettings.form.read } }]

/-- The values that a text stands for. -/
def parse (text : String) : Except DecodeError SavedDefaults := form.parse text

/-- The text that is kept in the file. -/
def text? (defaults : SavedDefaults) : Option String := defaults.json?.map Json.renderPretty

/-- The SSH settings under a user name given on the command line: the saved ones of another user, or
settings that have only defaults beside the name. -/
def sshOfUser (user : Option String) (saved : Option SshSettings) : Option SshSettings :=
  match user, saved with
  | some user, some saved => some { saved with username := user }
  | some user, none => some { username := user }
  | none, saved => saved

/-- Whether a command line says something about the connections that needs a user name. -/
def needsUser (invocation : Invocation) : Bool :=
  invocation.sshPort.isSome || invocation.privateKey.isSome || invocation.maxRetries.isSome

/-- Settings with the options of a command line laid over them. -/
def overlaid (invocation : Invocation) (settings : SshSettings) : SshSettings :=
  { settings with
    port := invocation.sshPort.getD settings.port
    privateKeyPath := invocation.privateKey.or settings.privateKeyPath
    maxRetries := invocation.maxRetries.getD settings.maxRetries }

/-- Lays the options of a command line over the saved values. It fails if there are options for the
connections, but no user name. The values that go on are returned beside the outcome; in them the
path and context of the command line are taken over even if it failed. -/
def override (defaults : SavedDefaults) (invocation : Invocation) :
    Except DefaultsError Unit × SavedDefaults :=
  let located := { defaults with
    kubeconfig := invocation.kubeconfig.or defaults.kubeconfig
    clusterContext := invocation.clusterContext.or defaults.clusterContext }
  let ssh := sshOfUser invocation.sshUser defaults.ssh
  if needsUser invocation && ssh.isNone then (.error .noUser, located)
  else (.ok (), { located with ssh := ssh.map (overlaid invocation) })

/-- The session that starts from the values; a path is used that is not saved if none is. -/
def session (defaults : SavedDefaults) (fallback : Option SystemText) : Session where
  ssh := defaults.ssh
  kube := (defaults.kubeconfig.or fallback).map fun path => ⟨path, defaults.clusterContext⟩
  global := defaults.global

end SavedDefaults

/-! ## The file of the defaults

Where the defaults are kept, and how they are loaded and saved. A file that is not there holds no
defaults. Saving replaces the file as a whole, so that it is never half written; it fails before
that if there is no text for the defaults.
-/

/-- What the program is told by its surroundings. -/
structure Environment where
  /-- The home directory that the surroundings name. -/
  home : Option SystemText := none
  /-- The home directory of the account that runs the program. -/
  accountHome : Option SystemText := none
  /-- The kubeconfig files that the surroundings name, between colons. -/
  kubeconfigPaths : Option SystemText := none
  deriving DecidableEq, Inhabited

namespace Environment

/-- The home directory. -/
def homeDirectory? (environment : Environment) : Option SystemText :=
  (environment.home.filter fun path => !path.isEmpty).or environment.accountHome

/-- The directory of the program's own files. -/
def baseDirectory (environment : Environment) : Except DefaultsError SystemText :=
  match environment.homeDirectory? with
  | some home => .ok (Path.join home (.ofText ".kube-nodes-provider"))
  | none => .error .noHome

/-- The file of the defaults. -/
def defaultsPath (environment : Environment) : Except DefaultsError SystemText := do
  pure (Path.join (← environment.baseDirectory) (.ofText "config.json"))

/-- The byte of a colon. -/
def colon : UInt8 := 0x3A

/-- The first kubeconfig file that the surroundings name. -/
def namedKubeconfig? (environment : Environment) : Option SystemText :=
  environment.kubeconfigPaths.bind fun paths =>
    ((Text.split colon paths.bytes).map SystemText.mk).find? fun path => !path.isEmpty

/-- The kubeconfig file in the home directory, be it there or not. -/
def homeKubeconfig? (environment : Environment) : Option SystemText :=
  environment.homeDirectory?.map fun home =>
    Path.join (Path.join home (.ofText ".kube")) (.ofText "config")

variable {m : Type → Type} [Monad m]

/-- The kubeconfig file that is used if no other is configured: the first that the surroundings
name, or else the one in the home directory, if it is there. -/
def fallbackKubeconfig? (files : Files m) (environment : Environment) :
    m (Option SystemText) :=
  match environment.namedKubeconfig? with
  | some path => pure (some path)
  | none =>
      match environment.homeKubeconfig? with
      | none => pure none
      | some path => do
          if ← files.isPresent path then pure (some path) else pure none

end Environment

namespace SavedDefaults

variable {m : Type → Type} [Monad m]

/-- The defaults in a file. -/
def loadFrom (files : Files m) (path : SystemText) : m (Except DefaultsError SavedDefaults) := do
  if ← files.isPresent path then
    match ← files.readText path with
    | .error cause => pure (.error (.unreadable path cause))
    | .ok text =>
        match parse text with
        | .error cause => pure (.error (.malformed path cause))
        | .ok defaults => pure (.ok defaults)
  else pure (.ok {})

/-- The saved defaults. -/
def load (files : Files m) (environment : Environment) :
    m (Except DefaultsError SavedDefaults) :=
  match environment.defaultsPath with
  | .error error => pure (.error error)
  | .ok path => loadFrom files path

/-- Makes the directory that a path lies in. -/
def createParent (files : Files m) (path : SystemText) : m (Except DefaultsError Unit) :=
  match Path.parent? path with
  | none => pure (.ok ())
  | some parent => do
      match ← files.createDirectories parent with
      | .error cause => pure (.error (.noDirectory parent cause))
      | .ok () => pure (.ok ())

/-- Puts the defaults into a file. -/
def saveTo (files : Files m) (defaults : SavedDefaults) (path : SystemText) :
    m (Except DefaultsError Unit) := do
  match ← createParent files path with
  | .error error => pure (.error error)
  | .ok () =>
      match defaults.text? with
      | none => pure (.error .noText)
      | some text =>
          match ← files.replace path text.toUTF8 with
          | .error (.noTemporary cause) => pure (.error (.noTemporary cause))
          | .error (.notWritten temporary cause) => pure (.error (.notWritten temporary cause))
          | .error (.notMoved cause) => pure (.error (.notMoved path cause))
          | .ok () => pure (.ok ())

/-- Saves the defaults for later runs. -/
def save (files : Files m) (environment : Environment) (defaults : SavedDefaults) :
    m (Except DefaultsError Unit) :=
  match environment.defaultsPath with
  | .error error => pure (.error error)
  | .ok path => saveTo files defaults path

end SavedDefaults

end ClusterHosts
