import ClusterHosts.Api.Http
import ClusterHosts.Object
import ClusterHosts.Text.Basic
import ClusterHosts.Text.Lowercase

/-! # Resources of a cluster

The resources that are known, and how a cluster is asked for others. -/

namespace ClusterHosts

/-! ## Kinds of objects

The resources of a cluster: what kinds of objects there are, and where they are listed. The common
ones are known without asking the cluster. A kind is named by its plural, by its own name in any
case, or by one of its short names; no two known resources of a group share a name.
-/

/-- A kind of objects that a cluster lists. -/
structure Resource where
  group : String
  version : String
  /-- The group and the version as objects of the kind name them. -/
  apiVersion : String
  kind : String
  plural : String
  isNamespaced : Bool
  aliases : List String := []
  deriving DecidableEq, Inhabited

namespace Resource

/-- The group and version as objects name them. -/
def groupVersion (group version : String) : String :=
  if group.isEmpty then version else group ++ "/" ++ version

/-- A resource of the first version of a group. -/
def ofGroup (group kind plural : String) (isNamespaced : Bool) (aliases : List String) :
    Resource :=
  ⟨group, "v1", groupVersion group "v1", kind, plural, isNamespaced, aliases⟩

/-- The resources that are known without asking the cluster. -/
def known : List Resource := [
  ofGroup "" "Node" "nodes" false ["node", "no"],
  ofGroup "" "Namespace" "namespaces" false ["namespace", "ns"],
  ofGroup "" "PersistentVolume" "persistentvolumes" false ["persistentvolume", "pv"],
  ofGroup "" "Pod" "pods" true ["pod", "po"],
  ofGroup "" "Service" "services" true ["service", "svc"],
  ofGroup "" "ConfigMap" "configmaps" true ["configmap", "cm"],
  ofGroup "" "Secret" "secrets" true ["secret"],
  ofGroup "" "Event" "events" true ["event", "ev"],
  ofGroup "" "ServiceAccount" "serviceaccounts" true ["serviceaccount", "sa"],
  ofGroup "" "Endpoints" "endpoints" true ["endpoint", "ep"],
  ofGroup "" "PersistentVolumeClaim" "persistentvolumeclaims" true
    ["persistentvolumeclaim", "pvc"],
  ofGroup "apps" "Deployment" "deployments" true ["deployment", "deploy"],
  ofGroup "apps" "StatefulSet" "statefulsets" true ["statefulset", "sts"],
  ofGroup "apps" "DaemonSet" "daemonsets" true ["daemonset", "ds"],
  ofGroup "apps" "ReplicaSet" "replicasets" true ["replicaset", "rs"],
  ofGroup "batch" "Job" "jobs" true ["job"],
  ofGroup "batch" "CronJob" "cronjobs" true ["cronjob", "cj"]]

/-- Whether a kind is a name of the resource. -/
def isNamed (resource : Resource) (kind : String) : Bool :=
  let kind := Text.lowercase kind
  resource.plural == kind || Text.lowercase resource.kind == kind || resource.aliases.contains kind

/-- Whether the resource is a part of objects, such as their logs, which has no list of its own. -/
def isPart (resource : Resource) : Bool := resource.plural.contains '/'

/-- The group that a query means: `core` is another name for the group without a name. -/
def normalizeGroup (group : String) : String :=
  let group := Text.trim group
  if group = "core" then "" else group

/-- Whether a resource answers to a group, a version and a kind. An empty version means any. -/
def answersTo (resource : Resource) (group version kind : String) : Bool :=
  resource.group == normalizeGroup group && (version.isEmpty || resource.version == version) &&
    resource.isNamed kind

/-- The known resource that answers to a group, a version and a kind. -/
def known? (group version kind : String) : Option Resource :=
  known.find? fun resource => resource.answersTo group version kind

/-- Where the objects are listed, in one namespace or in all. -/
def path (resource : Resource) (inNamespace : Option String) : String :=
  let within := match inNamespace with
    | some inNamespace => "namespaces/" ++ inNamespace ++ "/"
    | none => ""
  (if resource.group.isEmpty then "/api/" else "/apis/") ++ resource.apiVersion ++ "/" ++ within ++
    resource.plural

end Resource

/-! ## Versions of an API

Versions such as `v1`, `v2beta1` and `v1alpha1` are ranked: a stable version before a beta, a beta
before an alpha, and higher numbers before lower ones. Versions written otherwise come last, in the
order of their texts.
-/

/-- How far a version is developed. -/
inductive Stability where
  | other
  | alpha
  | beta
  | stable
  deriving DecidableEq

/-- The rank of a stability. -/
def Stability.rank : Stability → Nat
  | .other => 0
  | .alpha => 1
  | .beta => 2
  | .stable => 3

/-- A version, as it is ranked. -/
structure ApiVersion where
  stability : Stability
  major : Nat := 0
  /-- The number behind `alpha` or `beta`, if there is one. -/
  minor : Option Nat := none
  /-- The text of a version that is written otherwise. -/
  text : String := ""
  deriving DecidableEq

namespace ApiVersion

/-- A version that is not stable, from what follows `alpha` or `beta`. -/
def unstable? (stability : Stability) (major : Nat) (minor : List Char) : Option ApiVersion :=
  if minor.isEmpty then some { stability, major }
  else (Text.unsigned? UInt32.size (String.ofList minor)).map fun n =>
    { stability, major, minor := some n }

/-- The version of a text that is written in the usual way. -/
def usual? (text : String) : Option ApiVersion :=
  match text.toList with
  | 'v' :: cs => do
      let major ← (Text.natural? (cs.takeWhile Char.isDigit)).filter (· < UInt32.size)
      match cs.dropWhile Char.isDigit with
      | [] => some { stability := .stable, major }
      | 'a' :: 'l' :: 'p' :: 'h' :: 'a' :: minor => unstable? .alpha major minor
      | 'b' :: 'e' :: 't' :: 'a' :: minor => unstable? .beta major minor
      | _ => none
  | _ => none

/-- The version of a text. -/
def ofText (text : String) : ApiVersion := (usual? text).getD { stability := .other, text }

/-- The numbers by which versions are ranked, from the most important on. A missing number is lower
than all others. -/
def ranks (version : ApiVersion) : List Nat :=
  [version.stability.rank, version.major,
    match version.minor with
    | none => 0
    | some n => n + 1]

/-- Whether a version comes before another or has its rank. -/
def isAtLeast (first second : ApiVersion) : Bool :=
  if first.ranks = second.ranks then first.text ≤ second.text
  else decide (second.ranks < first.ranks)

end ApiVersion

/-! ## Finding out what a cluster lists

A resource that is not known is looked up in the lists by which a cluster tells its groups, their
versions and the resources of each. The group without a name has lists of its own. Among the
resources of the version that is asked for, or else of the preferred or the highest one, the first
that has the name and is no part of objects is taken.
-/

/-- Why a cluster cannot be searched. -/
inductive SearchError where
  /-- The objects of a resource cannot be listed. -/
  | unlisted (plural : String) (cause : ApiError)
  /-- The cluster does not tell what it lists. -/
  | undiscovered (cause : ApiError)
  | emptyGroup (group : String)
  /-- A group and version are not written with at most one slash. -/
  | badGroupVersion (groupVersion : String)
  | unknownKind (kind group : String)
  deriving DecidableEq

/-- The wording of a failure. -/
def SearchError.message : SearchError → String
  | .unlisted plural _ => "K8s API error listing " ++ plural
  | .undiscovered cause => cause.message
  | .emptyGroup group => "Error from discovery: Empty Api Group: " ++ group
  | .badGroupVersion groupVersion =>
      "Error from discovery: Invalid GroupVersion: " ++ groupVersion
  | .unknownKind kind group =>
      "Unknown resource kind '" ++ kind ++ "' in group '" ++
        (if group.isEmpty then "core" else group) ++ "'"

/-- A version of a group, with its resources. -/
structure GroupVersion where
  version : String
  resources : List Resource

namespace Shape

/-- A version of a group. -/
def groupVersion : Shape :=
  .record "GroupVersionForDiscovery" [("groupVersion", .text), ("version", .text)]
    ["groupVersion", "version"]

/-- A group of resources. -/
def apiGroup : Shape := .record "APIGroup" [
  ("name", .text), ("preferredVersion", groupVersion), ("versions", .list groupVersion)] ["name"]

/-- The groups of a cluster. -/
def apiGroupList : Shape := fields "APIGroupList" [("groups", .list apiGroup)]

/-- A resource of a version. -/
def apiResource : Shape := .record "APIResource" [
  ("group", .text), ("kind", .text), ("name", .text), ("namespaced", .truth), ("version", .text)]
  ["kind", "name"]

/-- The resources of a version. -/
def apiResourceList : Shape := .record "APIResourceList" [
  ("groupVersion", .text), ("resources", .list apiResource)] ["groupVersion"]

/-- The versions of the group without a name. -/
def apiVersions : Shape := fields "APIVersions" [("versions", .list .text)]

end Shape

namespace Discovery

/-- A text field of a decoded list; missing is the same as empty. -/
def text (name : String) (value : Json) : String := ((value.member? name).bind Json.text?).getD ""

/-- The items of a field of a decoded list. -/
def items (name : String) (value : Json) : List Json :=
  ((value.member? name).bind Json.items?).getD []

/-- The group and version in a text. -/
def splitGroupVersion? (groupVersion : String) : Option (String × String) :=
  match Text.splitText '/' groupVersion with
  | [version] => some ("", version)
  | [group, version] => some (group, version)
  | _ => none

/-- The resource that an entry of a list stands for. -/
def resource (group version groupVersion : String) (entry : Json) : Resource where
  group := ((entry.member? "group").bind Json.text?).getD group
  version := ((entry.member? "version").bind Json.text?).getD version
  apiVersion := groupVersion
  kind := text "kind" entry
  plural := text "name" entry
  isNamespaced := match entry.member? "namespaced" with
    | some (.bool value) => value
    | _ => false

/-- The resources of a list. Names with a slash belong to parts of objects, which are not listed. -/
def resources (list : Json) : Except SearchError (List Resource) :=
  let groupVersion := text "groupVersion" list
  let entries := (items "resources" list).filter fun entry => !(text "name" entry).contains '/'
  match splitGroupVersion? groupVersion with
  | some (group, version) =>
      .ok (entries.map (resource group version (Resource.groupVersion group version)))
  | none => if entries.isEmpty then .ok [] else .error (.badGroupVersion groupVersion)

variable {m : Type → Type} [Monad m]

/-- Asks for the resources of versions, each with the path of its list. -/
def versions (http : Http m) (address : ServerAddress) :
    List (String × String) → m (Except SearchError (List GroupVersion))
  | [] => pure (.ok [])
  | (version, path) :: rest => do
      match ← http.getShape address path Shape.apiResourceList with
      | .error cause => pure (.error (.undiscovered cause))
      | .ok list =>
          match resources list with
          | .error error => pure (.error error)
          | .ok found =>
              match ← versions http address rest with
              | .error error => pure (.error error)
              | .ok others => pure (.ok (⟨version, found⟩ :: others))

/-- The resources of a version that is asked for. Without one the preferred version is meant, or
else the highest. -/
def choose (version : String) (preferred : Option String) (found : List GroupVersion) :
    List Resource :=
  let ranked := found.mergeSort fun first second =>
    (ApiVersion.ofText first.version).isAtLeast (ApiVersion.ofText second.version)
  let wanted :=
    if !version.isEmpty then version
    else preferred.getD ((ranked.head?.map GroupVersion.version).getD "")
  match ranked.find? fun entry => entry.version == wanted with
  | some entry => entry.resources
  | none => []

/-- Asks for the resources of a group that the cluster lists. -/
def namedGroup (http : Http m) (address : ServerAddress) (version : String) (entry : Json) :
    m (Except SearchError (List Resource)) :=
  let paths := (items "versions" entry).map fun item =>
    (text "version" item, "/apis/" ++ text "groupVersion" item)
  if paths.isEmpty then pure (.error (.emptyGroup (text "name" entry)))
  else do
    match ← versions http address paths with
    | .error error => pure (.error error)
    | .ok found =>
        pure (.ok (choose version ((entry.member? "preferredVersion").map (text "version")) found))

/-- Asks for the resources of each group in turn; of groups with one name the last counts. -/
def namedGroups (http : Http m) (address : ServerAddress) (version : String)
    (found : Option (List Resource)) :
    List Json → m (Except SearchError (Option (List Resource)))
  | [] => pure (.ok found)
  | entry :: entries => do
      match ← namedGroup http address version entry with
      | .error error => pure (.error error)
      | .ok resources => namedGroups http address version (some resources) entries

/-- Asks for the resources of the group without a name. -/
def coreGroup (http : Http m) (address : ServerAddress) (version : String) :
    m (Except SearchError (List Resource)) := do
  match ← http.getShape address "/api" Shape.apiVersions with
  | .error cause => pure (.error (.undiscovered cause))
  | .ok list =>
      let paths := (items "versions" list).map fun item =>
        let version := item.text?.getD ""
        (version, "/api/" ++ version)
      if paths.isEmpty then pure (.error (.emptyGroup ""))
      else do
        match ← versions http address paths with
        | .error error => pure (.error error)
        | .ok found => pure (.ok (choose version (some "v1") found))

/-- Asks for the resources of a group. -/
def group (http : Http m) (address : ServerAddress) (name version : String) :
    m (Except SearchError (List Resource)) := do
  match ← http.getShape address "/apis" Shape.apiGroupList with
  | .error cause => pure (.error (.undiscovered cause))
  | .ok list =>
      let entries := (items "groups" list).filter fun entry => text "name" entry == name
      match ← namedGroups http address version none entries with
      | .error error => pure (.error error)
      | .ok found =>
          if name.isEmpty then coreGroup http address version
          else pure (.ok (found.getD []))

/-- The resource that answers to a group, a version and a kind. The cluster is asked only if none is
known. -/
def resolve (http : Http m) (address : ServerAddress) (groupName version kind : String) :
    m (Except SearchError Resource) :=
  match Resource.known? groupName version kind with
  | some resource => pure (.ok resource)
  | none => do
      let name := Resource.normalizeGroup groupName
      match ← group http address name version with
      | .error error => pure (.error error)
      | .ok resources =>
          match resources.find? fun resource => !resource.isPart && resource.isNamed kind with
          | some resource => pure (.ok resource)
          | none => pure (.error (.unknownKind kind name))

end Discovery

end ClusterHosts
