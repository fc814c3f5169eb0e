import ClusterHosts.Json.Basic
import ClusterHosts.Object
import ClusterHosts.Settings
import ClusterHosts.Text.Basic
import ClusterHosts.Value

/-! # Searching for nodes

Which nodes are asked for, how a cluster is searched, and what the objects that are found say. -/

namespace ClusterHosts

/-! ## Which nodes are wanted

A filter holds the names and the labels of the wanted nodes; an empty set does not restrict the
nodes. A set is given as a text, of which the words are taken, or as a list of texts, which are
trimmed and dropped where nothing remains. The argument `nodes` is another name for `names` and
hides it.
-/

/-- A set of texts, in increasing order. -/
structure TextSet where
  texts : List String
  increasing : Ordered.Increasing id texts
  deriving DecidableEq

namespace TextSet

/-- The empty set. -/
def empty : TextSet := ⟨[], Ordered.increasing_nil⟩

instance : Inhabited TextSet := ⟨empty⟩

/-- The set of the texts in a list. -/
def ofList (texts : List String) : TextSet :=
  ⟨Ordered.ofList id texts, Ordered.increasing_ofList texts⟩

/-- The texts of a list of values, or the type of the first that is not a text. -/
def texts? : List Value → Except String (List String)
  | [] => .ok []
  | .string text :: values => (texts? values).map (text :: ·)
  | other :: _ => .error other.typeName

/-- The set that an argument stands for. -/
def ofValue (function key : String) : Value → Except CallError TextSet
  | .none => .ok empty
  | .string text => .ok (ofList (Text.words text))
  | .list values =>
      match texts? values with
      | .ok texts => .ok (ofList ((texts.map Text.trim).filter fun text => !text.isEmpty))
      | .error found => .error (.badArgument function key (.wrongElement found))
  | other =>
      .error (.badArgument function key (.wrongType "string or list of strings" other.typeName))

/-- The set that an argument stands for that may be missing. -/
def ofValue? (function key : String) : Option Value → Except CallError TextSet
  | some value => ofValue function key value
  | none => .ok empty

end TextSet

/-- The names and labels of the wanted nodes. -/
structure NodeFilter where
  names : TextSet
  labels : TextSet
  deriving DecidableEq

namespace NodeFilter

/-- The argument that selects names. -/
def namesKey (arguments : Attributes) : String :=
  if arguments.contains "nodes" then "nodes" else "names"

/-- The filter that the arguments of a call stand for. -/
def ofArguments (function : String) (arguments : Attributes) : Except CallError NodeFilter := do
  let key := namesKey arguments
  let names ← TextSet.ofValue? function key (arguments.get? key)
  let labels ← TextSet.ofValue? function "labels" (arguments.get? "labels")
  pure ⟨names, labels⟩

end NodeFilter

/-! ## Searching clusters

What is asked of a cluster and what it answers. The program reaches clusters only through
`Clusters`: connecting to a target either fails or yields a function that answers queries. Both may
have effects of a monad, so that the same program runs against a network, against canned answers, or
against an observer that records what it is asked.
-/

/-- A question for objects of one kind. An empty version stands for any version; an empty list does
not restrict the objects. -/
structure Query where
  group : String := ""
  kind : String := ""
  version : String := ""
  namespaces : List String := []
  names : List String := []
  labels : List String := []
  containers : List String := []
  deriving DecidableEq, Inhabited

/-- The labels as the cluster takes them: one text, if there are any. -/
def Query.labelSelector? (query : Query) : Option String :=
  if query.labels.isEmpty then none else some (",".intercalate query.labels)

/-- The objects found in one namespace, or in the whole cluster. -/
structure Listing where
  kind : String := ""
  inNamespace : Option String := none
  items : List Json := []
  deriving Inhabited

/-- Answers queries, or says why it cannot. -/
abbrev Searcher (m : Type → Type) := Query → m (Except String (List Listing))

/-- Ways to reach clusters. -/
structure Clusters (m : Type → Type) where
  /-- Sets up a client for a target, or says why it cannot. -/
  connect : KubeTarget → m (Except String (Searcher m))

/-! ## Nodes

A node as it is needed to reach it: its name and its addresses. An object must have metadata;
whatever else it has of a node must have the form of a node's fields. Decoding the objects of a
search stops at the first that is not a node, and tells how many came before it.
-/

/-- An address of a node, of a type such as `InternalIP`. -/
structure NodeAddress where
  kind : String
  address : String
  deriving DecidableEq, Inhabited

/-- A node of a cluster. -/
structure Node where
  /-- The name, or the empty text if the node has none. -/
  name : String
  /-- The addresses, if the node has a status. -/
  addresses : Option (List NodeAddress)
  deriving DecidableEq, Inhabited

namespace Node

/-- The type of the addresses that can be reached from inside a cluster. -/
def internalAddressKind : String := "InternalIP"

/-- The first internal address, or the empty text if there is none. -/
def internalAddress (node : Node) : String :=
  match (node.addresses.getD []).find? fun address => address.kind == internalAddressKind with
  | some address => address.address
  | none => ""

/-- A text field of a decoded object; missing is the same as empty. -/
def textField (name : String) (object : Json) : String :=
  ((object.member? name).bind Json.text?).getD ""

/-- The node with decoded metadata and perhaps a decoded status. -/
def ofParts (metadata : Json) (status : Option Json) : Node where
  name := textField "name" metadata
  addresses := status.map fun status =>
    (((status.member? "addresses").bind Json.items?).getD []).map fun address =>
      ⟨textField "type" address, textField "address" address⟩

/-- The status that a member of an object stands for; `null` is the same as no status. -/
def decodeStatus (value : Json) : Except DecodeError (Option Json) :=
  match value with
  | .null => .ok none
  | value => (Shape.decode value Shape.nodeStatus).map some

/-- Finds and decodes the metadata and the status among the members of an object. -/
def decodeMembers (metadata status : Option Json) :
    List (String × Json) → Except DecodeError Node
  | [] =>
      match metadata with
      | some metadata => .ok (ofParts metadata status)
      | none => .error (.missingField "metadata")
  | (name, value) :: members =>
      if name = "metadata" then do
        let metadata ← Shape.decode value Shape.objectMeta
        decodeMembers (some metadata) status members
      else if name = "status" then do
        let status ← decodeStatus value
        decodeMembers metadata status members
      else decodeMembers metadata status members

/-- The node that a value stands for: an object, or an array of its metadata and perhaps its
status. -/
def ofJson : Json → Except DecodeError Node
  | .object members => decodeMembers none none members
  | .array [] => .error (.wrongLength 0 "struct NodeRecord with 2 elements")
  | .array (metadata :: rest) => do
      let metadata ← Shape.decode metadata Shape.objectMeta
      match rest with
      | [] => pure (ofParts metadata none)
      | status :: surplus =>
          let status ← decodeStatus status
          if surplus.isEmpty then pure (ofParts metadata status)
          else throw (.wrongLength (surplus.length + 2) "fewer elements in array")
  | other => .error (.wrongType other.found "struct NodeRecord")

/-- The nodes that values stand for, after a number of nodes. -/
def ofItems (function : String) (index : Nat) : List Json → Except CallError (List Node)
  | [] => .ok []
  | item :: items =>
      match ofJson item with
      | .ok node => (ofItems function (index + 1) items).map (node :: ·)
      | .error cause => .error (.badObject function "node" index cause)

/-- The nodes of a search, in order. -/
def ofListings (function : String) (listings : List Listing) : Except CallError (List Node) :=
  ofItems function 0 (listings.flatMap Listing.items)

end Node

end ClusterHosts
