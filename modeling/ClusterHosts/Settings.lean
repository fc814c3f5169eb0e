import ClusterHosts.Json.Record
import ClusterHosts.Text.Basic
import ClusterHosts.Text.System
import ClusterHosts.Value

/-! # Settings

The settings for secure shells, for kubeconfig files and for all inventories: what they are read
from, what scripts see of them, how a session keeps them and how they are written in files. -/

namespace ClusterHosts.Attributes

/-! ## Reading settings from attributes

The settings of a session are given as structs whose attributes are all optional to the reader: a
missing attribute and one that is `None` are the same. A number may be given as an integer or as its
numeral.
-/

/-- Refuses the first attribute, in the order of the names, that is not one of the known ones. -/
def refuseUnknown (function : String) (known : List String) (attributes : Attributes) :
    Except CallError Unit :=
  match attributes.names.find? fun name => !known.contains name with
  | some name => .error (.badArgument function name (.unexpected known))
  | none => .ok ()

/-- The text of an attribute that may be missing. -/
def optionalText (function : String) (attributes : Attributes) (name : String) :
    Except CallError (Option String) :=
  match attributes.getSome? name with
  | none => .ok none
  | some (.string text) => .ok (some text)
  | some other => .error (.badArgument function name (.wrongType "string" other.typeName))

/-- The natural number below 2^32 that a value stands for, as an integer or as a numeral between
blanks. -/
def word? : Value → Option UInt32
  | .int value =>
      if 0 ≤ value.toInt ∧ value.toInt < UInt32.size then some (UInt32.ofNat value.toInt.toNat)
      else none
  | .string text => (Text.unsigned? UInt32.size (Text.trim text)).map UInt32.ofNat
  | _ => none

/-- The number of an attribute that may be missing. -/
def optionalNumber (function : String) (attributes : Attributes) (name : String) :
    Except CallError (Option UInt32) :=
  match attributes.getSome? name with
  | none => .ok none
  | some (.int value) => number (.int value)
  | some (.string text) => number (.string text)
  | some other => .error (.badArgument function name (.wrongType "int" other.typeName))
where
  /-- The number that a value of a fitting type stands for. -/
  number (value : Value) : Except CallError (Option UInt32) :=
    match word? value with
    | some value => .ok (some value)
    | none => .error (.badArgument function name .notNonNegative)

end ClusterHosts.Attributes

namespace ClusterHosts

/-! ## How hosts are reached

The settings of the SSH connections to the hosts that are found. Scripts must give a user name; the
rest has defaults.
-/

/-- The settings of SSH connections. -/
structure SshSettings where
  username : String
  port : UInt16 := 22
  privateKeyPath : Option String := none
  maxRetries : UInt32 := 5
  /-- How many seconds to wait for a connection. -/
  connTimeout : UInt32 := 30
  deriving DecidableEq, Inhabited

namespace SshSettings

/-- The attributes of the settings. -/
def attributeNames : List String :=
  ["username", "port", "private_key_path", "max_retries", "conn_timeout"]

/-- The user name, which must be given and not be empty. -/
def readUsername (function : String) (attributes : Attributes) : Except CallError String := do
  match ← attributes.optionalText function "username" with
  | some username =>
      if username.isEmpty then throw (.badArgument function "username" .required) else pure username
  | none => throw (.badArgument function "username" .required)

/-- The port, which must be below 2^16. -/
def readPort (function : String) (attributes : Attributes) : Except CallError UInt16 := do
  match ← attributes.optionalNumber function "port" with
  | some port =>
      if port.toNat < UInt16.size then pure port.toUInt16
      else throw (.badArgument function "port" .outOfRange)
  | none => pure 22

/-- The settings that attributes stand for. -/
def ofAttributes (function : String) (attributes : Attributes) : Except CallError SshSettings := do
  attributes.refuseUnknown function attributeNames
  let username ← readUsername function attributes
  let port ← readPort function attributes
  let privateKeyPath ← attributes.optionalText function "private_key_path"
  let maxRetries ← attributes.optionalNumber function "max_retries"
  let connTimeout ← attributes.optionalNumber function "conn_timeout"
  pure ⟨username, port, privateKeyPath, maxRetries.getD 5, connTimeout.getD 30⟩

/-- The settings that an argument stands for: it must be a struct. -/
def ofValue (function key : String) (value : Value) : Except CallError SshSettings :=
  match Attributes.ofValue? value with
  | some attributes => ofAttributes function attributes
  | none => .error (.badArgument function key (.wrongType "ssh_config struct" value.typeName))

/-- The settings as attributes; a missing path is `None`. -/
def toAttributes (settings : SshSettings) : Attributes :=
  Attributes.ofList [
    ("username", .string settings.username),
    ("port", .ofNat settings.port.toNat),
    ("private_key_path", .ofText? settings.privateKeyPath),
    ("max_retries", .ofNat settings.maxRetries.toNat),
    ("conn_timeout", .ofNat settings.connTimeout.toNat)]

/-- The settings as JSON; a missing path is left out. -/
def json (settings : SshSettings) : Json :=
  .object ([
      ("username", .string settings.username),
      ("port", .integer settings.port.toNat)] ++
    settings.privateKeyPath.toList.map (fun path => ("private_key_path", .string path)) ++ [
      ("max_retries", .integer settings.maxRetries.toNat),
      ("conn_timeout", .integer settings.connTimeout.toNat)])

end SshSettings

/-! ## Which cluster is searched

A cluster is named by the kubeconfig file that describes it, and perhaps by one of the contexts in
that file. Scripts know paths only as texts: a path that is none is given to them as it is shown.
-/

/-- Where a cluster is described. -/
structure KubeTarget where
  /-- The path of the kubeconfig file. -/
  path : SystemText
  /-- The context within the file, if it is not the file's current one. -/
  clusterContext : Option String := none
  deriving DecidableEq, Inhabited

namespace KubeTarget

/-- The attributes of a target. -/
def attributeNames : List String := ["path", "cluster_context"]

/-- The path, which must be given and not be blank. -/
def readPath (function : String) (attributes : Attributes) : Except CallError String := do
  match ← attributes.optionalText function "path" with
  | some path =>
      if Text.isBlankText path then throw (.badArgument function "path" .required) else pure path
  | none => throw (.badArgument function "path" .required)

/-- The target that attributes stand for. -/
def ofAttributes (function : String) (attributes : Attributes) : Except CallError KubeTarget := do
  attributes.refuseUnknown function attributeNames
  let path ← readPath function attributes
  let clusterContext ← attributes.optionalText function "cluster_context"
  pure ⟨.ofText path, clusterContext⟩

/-- The target that an argument stands for: a path, or a struct. -/
def ofValue (function key : String) (value : Value) : Except CallError KubeTarget :=
  match value with
  | .string path =>
      if Text.isBlankText path then .error (.badArgument function key .emptyPath)
      else .ok ⟨.ofText path, none⟩
  | value =>
      match Attributes.ofValue? value with
      | some attributes => ofAttributes function attributes
      | none =>
          .error (.badArgument function key
            (.wrongType "path or kube_config struct" value.typeName))

/-- The target as attributes; a missing context is `None`. -/
def toAttributes (target : KubeTarget) : Attributes :=
  Attributes.ofList [
    ("path", .string target.path.shown), ("cluster_context", .ofText? target.clusterContext)]

end KubeTarget

/-! ## Settings of the whole session

The user and group that a script works for, its directory and where its results go. All of them may
be missing.
-/

/-- Settings shared by all calls of a session. -/
structure GlobalSettings where
  uid : Option String := none
  gid : Option String := none
  workdir : Option String := none
  outputPath : Option String := none
  deriving DecidableEq, Inhabited

namespace GlobalSettings

/-- The attributes of the settings. -/
def attributeNames : List String := ["uid", "gid", "workdir", "output_path"]

/-- The settings that attributes stand for. -/
def ofAttributes (function : String) (attributes : Attributes) :
    Except CallError GlobalSettings := do
  attributes.refuseUnknown function attributeNames
  let uid ← attributes.optionalText function "uid"
  let gid ← attributes.optionalText function "gid"
  let workdir ← attributes.optionalText function "workdir"
  let outputPath ← attributes.optionalText function "output_path"
  pure ⟨uid, gid, workdir, outputPath⟩

/-- The settings by the names of their attributes. -/
def texts (settings : GlobalSettings) : List (String × Option String) := [
  ("uid", settings.uid), ("gid", settings.gid), ("workdir", settings.workdir),
  ("output_path", settings.outputPath)]

/-- The settings as attributes; what is missing is `None`. -/
def toAttributes (settings : GlobalSettings) : Attributes :=
  Attributes.ofList (settings.texts.map fun (name, text) => (name, .ofText? text))

/-- The settings as JSON; what is missing is left out. -/
def json (settings : GlobalSettings) : Json :=
  .object (settings.texts.filterMap fun (name, text) => text.map fun text => (name, .string text))

end GlobalSettings

/-! ## Sessions

A session keeps defaults for the calls of a script: at most one of each kind of settings.
-/

/-- The defaults of a session. -/
structure Session where
  ssh : Option SshSettings := none
  kube : Option KubeTarget := none
  global : Option GlobalSettings := none
  deriving DecidableEq, Inhabited

/-- The kinds of defaults. -/
inductive Session.Slot where
  | ssh
  | kube
  | global
  deriving DecidableEq

/-- The name by which scripts know a kind of defaults. -/
def Session.Slot.name : Session.Slot → String
  | .ssh => "ssh_config"
  | .kube => "kube_config"
  | .global => "global_config"

/-- The defaults of a kind, as a script sees them. -/
def Session.get? (session : Session) : Session.Slot → Option Value
  | .ssh => session.ssh.map fun settings => settings.toAttributes.value
  | .kube => session.kube.map fun target => target.toAttributes.value
  | .global => session.global.map fun settings => settings.toAttributes.value

/-! ## Settings in a file

How the settings of a session are read from the file that keeps them between runs. The file has the
settings in the form in which they are written as JSON. Unlike a script it may give an empty user
name, and numbers only as numbers.
-/

/-- Reads a text, or `null` in its place. -/
def Draft.optionalText (draft : Draft) : Except DecodeError (Option String) :=
  draft.nullable (Draft.text "a string")

/-- How the settings of SSH connections are kept in a file. -/
def SshSettings.form : RecordForm SshSettings where
  name := "SshConfig"
  start := { username := "" }
  fields := [
    { name := "username", required := true,
      read := fun draft settings => do
        pure { settings with username := ← draft.text "a string" } },
    { name := "port",
      read := fun draft settings => do
        pure { settings with port := UInt16.ofNat (← draft.natural 16) } },
    { name := "private_key_path",
      read := fun draft settings => do
        pure { settings with privateKeyPath := ← draft.optionalText } },
    { name := "max_retries",
      read := fun draft settings => do
        pure { settings with maxRetries := UInt32.ofNat (← draft.natural 32) } },
    { name := "conn_timeout",
      read := fun draft settings => do
        pure { settings with connTimeout := UInt32.ofNat (← draft.natural 32) } }]

/-- How the settings of the whole session are kept in a file. -/
def GlobalSettings.form : RecordForm GlobalSettings where
  name := "GlobalConfig"
  start := {}
  fields := [
    { name := "uid",
      read := fun draft settings => do
        pure { settings with uid := ← draft.optionalText } },
    { name := "gid",
      read := fun draft settings => do
        pure { settings with gid := ← draft.optionalText } },
    { name := "workdir",
      read := fun draft settings => do
        pure { settings with workdir := ← draft.optionalText } },
    { name := "output_path",
      read := fun draft settings => do
        pure { settings with outputPath := ← draft.optionalText } }]

end ClusterHosts
