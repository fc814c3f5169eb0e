import ClusterHosts.Json.Basic
import ClusterHosts.Search
import ClusterHosts.Settings
import ClusterHosts.Yaml.Scalar

/-! # Inventories

The result of a resolution: the hosts that were found, one for each node in the order of the nodes,
and how to reach them. A node without an internal address is an empty host.
-/

namespace ClusterHosts

/-- Hosts and how to reach them. -/
structure Inventory where
  hosts : List String
  ssh : SshSettings
  deriving DecidableEq, Inhabited

namespace Inventory

/-- The kind of provider that an inventory names as its origin; scripts call it by this name. -/
def kind : String := "kube_nodes_provider"

/-- The way in which the hosts are reached. -/
def transport : String := "ssh"

/-- An attribute as a script sees it. -/
def attribute? (inventory : Inventory) : String → Option Value
  | "kind" => some (.string kind)
  | "transport" => some (.string transport)
  | "hosts" => some (.ofTexts inventory.hosts)
  | "ssh_config" => some inventory.ssh.toAttributes.value
  | _ => none

/-- The inventory as attributes. -/
def toAttributes (inventory : Inventory) : Attributes :=
  Attributes.ofList [
    ("kind", .string kind),
    ("transport", .string transport),
    ("hosts", .ofTexts inventory.hosts),
    ("ssh_config", inventory.ssh.toAttributes.value)]

/-- The inventory as JSON. -/
def json (inventory : Inventory) : Json :=
  .object [
    ("kind", .string kind),
    ("transport", .string transport),
    ("hosts", .array (inventory.hosts.map .string)),
    ("ssh_config", inventory.ssh.json)]

end Inventory

/-! ## Writing an inventory

An inventory is written as JSON laid out over lines, or as a YAML document of the same fields in the
same order. In YAML the hosts stand at the column of their key, and a document ends with a line
break.
-/

/-- The formats of an inventory. -/
inductive OutputFormat where
  | json
  | yaml
  deriving DecidableEq, Inhabited

/-- The name of a format. -/
def OutputFormat.name : OutputFormat → String
  | .json => "json"
  | .yaml => "yaml"

/-- The format of a name. -/
def OutputFormat.ofName? (name : String) : Option OutputFormat :=
  [OutputFormat.json, OutputFormat.yaml].find? fun format => format.name == name

namespace Inventory

/-- A key and what is written behind it up to the end of its last line, at a column. -/
def yamlLine (column : Nat) (key : String) (written : List Char) : List Char :=
  List.replicate column ' ' ++ (key.toList ++ ':' :: ' ' :: written)

/-- A key with a text, at a column. -/
def yamlText (column : Nat) (key text : String) : List Char :=
  yamlLine column key (Yaml.Scalar.write (column + 2) text)

/-- A key with a number, at a column. -/
def yamlNumber (column : Nat) (key : String) (number : Nat) : List Char :=
  yamlLine column key (Text.decimal number ++ ['\n'])

/-- A host as an item of a list. -/
def yamlHost (host : String) : List Char :=
  '-' :: ' ' :: Yaml.Scalar.write 2 host

/-- The hosts under their key. -/
def yamlHosts (hosts : List String) : List Char :=
  if hosts.isEmpty then yamlLine 0 "hosts" ['[', ']', '\n']
  else "hosts:\n".toList ++ hosts.flatMap yamlHost

/-- The settings of the connections under their key. -/
def yamlSsh (settings : SshSettings) : List Char :=
  "ssh_config:\n".toList ++ (yamlText 2 "username" settings.username ++
    (yamlNumber 2 "port" settings.port.toNat ++
      (settings.privateKeyPath.toList.flatMap (yamlText 2 "private_key_path") ++
        (yamlNumber 2 "max_retries" settings.maxRetries.toNat ++
          yamlNumber 2 "conn_timeout" settings.connTimeout.toNat))))

/-- The inventory as a YAML document. -/
def yaml (inventory : Inventory) : List Char :=
  yamlText 0 "kind" kind ++ (yamlText 0 "transport" transport ++
    (yamlHosts inventory.hosts ++ yamlSsh inventory.ssh))

/-- The inventory in a format. -/
def render (inventory : Inventory) : OutputFormat → String
  | .json => inventory.json.renderPretty
  | .yaml => String.ofList inventory.yaml

end Inventory

end ClusterHosts

namespace ClusterHosts.Inventory

/-! ## Resolving an inventory

A resolution goes through stages, and the first that fails decides its outcome: the cluster to
search, the connection, the filter, the search, the nodes, the SSH settings. An argument that is
given and is not `None` comes before the default of the session.
-/

section

/-- The cluster to search. -/
def target (session : Session) (arguments : Attributes) : Except CallError KubeTarget :=
  match arguments.getSome? "kube_config" with
  | some value => KubeTarget.ofValue kind "kube_config" value
  | none =>
      match session.kube with
      | some target => .ok target
      | none => .error (.noTarget kind)

/-- The settings for the connections to the hosts. -/
def sshSettings (session : Session) (arguments : Attributes) : Except CallError SshSettings :=
  match arguments.getSome? "ssh_config" with
  | some value => SshSettings.ofValue kind "ssh_config" value
  | none =>
      match session.ssh with
      | some settings => .ok settings
      | none => .error (.missingDefault kind "ssh_config")

/-- The question for the nodes of a filter. -/
def nodeQuery (filter : NodeFilter) : Query :=
  { group := "core", kind := "nodes", names := filter.names.texts, labels := filter.labels.texts }

/-- The inventory of what a search found. -/
def ofListings (session : Session) (arguments : Attributes) (listings : List Listing) :
    Except CallError Inventory := do
  let nodes ← Node.ofListings kind listings
  let settings ← sshSettings session arguments
  pure ⟨nodes.map Node.internalAddress, settings⟩

variable {m : Type → Type} [Monad m]

/-- The inventory of the nodes that a connected cluster finds. -/
def search (searcher : Searcher m) (session : Session) (arguments : Attributes) :
    m (Except CallError Inventory) :=
  match NodeFilter.ofArguments kind arguments with
  | .error error => pure (.error error)
  | .ok filter => do
      match ← searcher (nodeQuery filter) with
      | .error cause => pure (.error (.searchFailed kind "nodes" cause))
      | .ok listings => pure (ofListings session arguments listings)

/-- The inventory that the arguments of a call and the defaults of a session ask for. -/
def resolve (clusters : Clusters m) (session : Session) (arguments : Attributes) :
    m (Except CallError Inventory) :=
  match target session arguments with
  | .error error => pure (.error error)
  | .ok target => do
      match ← clusters.connect target with
      | .error cause => pure (.error (.connectFailed kind cause))
      | .ok searcher => search searcher session arguments

end

end ClusterHosts.Inventory

namespace ClusterHosts

/-! ## Functions of scripts

Scripts know four functions. Three build settings from their keyword arguments, keep them as
defaults of the session and return them; the fourth resolves an inventory. A call that fails leaves
the session as it was.
-/

/-- A function that scripts can call. -/
inductive Builtin where
  | globalConfig
  | sshConfig
  | kubeConfig
  | kubeNodesProvider
  deriving DecidableEq

namespace Builtin

/-- All functions. -/
def all : List Builtin := [globalConfig, sshConfig, kubeConfig, kubeNodesProvider]

/-- The name by which scripts call a function. -/
def name : Builtin → String
  | globalConfig => Session.Slot.global.name
  | sshConfig => Session.Slot.ssh.name
  | kubeConfig => Session.Slot.kube.name
  | kubeNodesProvider => Inventory.kind

/-- The function of a name. -/
def ofName (name : String) : Except CallError Builtin :=
  match all.find? fun builtin => builtin.name == name with
  | some builtin => .ok builtin
  | none => .error (.unknownFunction name)

variable {m : Type → Type} [Monad m]

/-- Applies a function to a struct of arguments. The session that goes on is returned beside the
outcome. -/
def apply (builtin : Builtin) (clusters : Clusters m) (session : Session) (arguments : Attributes) :
    m (Except CallError Value × Session) :=
  match builtin with
  | globalConfig =>
      pure <| match GlobalSettings.ofAttributes builtin.name arguments with
        | .ok settings =>
            (.ok settings.toAttributes.value, { session with global := some settings })
        | .error error => (.error error, session)
  | sshConfig =>
      pure <| match SshSettings.ofAttributes builtin.name arguments with
        | .ok settings => (.ok settings.toAttributes.value, { session with ssh := some settings })
        | .error error => (.error error, session)
  | kubeConfig =>
      pure <| match KubeTarget.ofAttributes builtin.name arguments with
        | .ok target => (.ok target.toAttributes.value, { session with kube := some target })
        | .error error => (.error error, session)
  | kubeNodesProvider => do
      let outcome ← Inventory.resolve clusters session arguments
      pure (outcome.map fun inventory => inventory.toAttributes.value, session)

/-- Calls the function of a name with keyword arguments. -/
def call (clusters : Clusters m) (session : Session) (name : String)
    (keywords : List (String × Value)) : m (Except CallError Value × Session) :=
  match ofName name with
  | .error error => pure (.error error, session)
  | .ok builtin =>
      match Attributes.ofKeywords builtin.name keywords with
      | .error error => pure (.error error, session)
      | .ok arguments => builtin.apply clusters session arguments

end Builtin

end ClusterHosts
