import ClusterHosts.Json.Record

/-! # Objects of a cluster

The shapes that the members of an object must have. -/

namespace ClusterHosts

/-! ## Shapes of objects

A shape says which types the fields of a cluster's objects have. Decoding goes through the members
of an object in their order and stops at the first that does not fit. What it returns holds only
what the shape knows: other fields are dropped, and a field that is `null` is as good as missing. A
second decoding finds nothing left to drop.
-/

/-- The type of a field. -/
inductive Shape where
  | text
  | truth
  /-- An integer of a number of bits, with a sign. -/
  | integer (bits : Nat)
  | time
  /-- An amount, given as a text or as an integer. -/
  | quantity
  | anything
  | list (item : Shape)
  | map (value : Shape)
  /-- An object with named fields, all of which may be missing; some texts are then empty. -/
  | record (name : String) (fields : List (String × Shape)) (texts : List String)
  deriving Inhabited

namespace Shape

/-- What messages call a value of the shape. -/
def words : Shape → String
  | .text => "a string"
  | .truth => "a boolean"
  | .integer bits => "i" ++ String.ofList (Text.decimal bits)
  | .time => "an RFC 3339 formatted date and time string"
  | .quantity => "Quantity"
  | .anything => "any value"
  | .list _ => "a sequence"
  | .map _ => "a map"
  | .record name _ _ => name

/-- The complaint about a value of another type. -/
def mismatch (shape : Shape) (value : Json) : DecodeError := .wrongType value.found shape.words

/-- Adds the texts that are missing from an object, as empty ones. -/
def completed (texts : List String) (members : List (String × Json)) : List (String × Json) :=
  texts.foldl (fun members name =>
    if (members.lookup name).isSome then members
    else Ordered.insert Prod.fst (name, .string "") members) members

mutual

/-- The part of a value that a shape knows. -/
def decode : Json → Shape → Except DecodeError Json
  | value, .anything => .ok value
  | .string content, .text => .ok (.string content)
  | .bool value, .truth => .ok (.bool value)
  | .number (.integer value), .integer bits =>
      if -(Nat.pow 2 (bits - 1) : Int) ≤ value ∧ value < Nat.pow 2 (bits - 1) then
        .ok (.integer value)
      else .error (.outOfRange value (words (.integer bits)))
  | .string content, .time =>
      match Timestamp.parse content with
      | .ok instant => .ok (.string instant.text)
      | .error error => .error (.badTime error)
  | .string content, .quantity => .ok (.string content)
  | .number (.integer value), .quantity =>
      .ok (.string (String.ofList (Text.signedDecimal value)))
  | .array items, .list item => (decodeItems items item).map Json.array
  | .object members, .map item => (decodeEntries members item).map Json.object
  | .object members, .record _ fields texts =>
      (decodeFields members fields).map fun known => Json.object (completed texts known)
  | value, shape => .error (shape.mismatch value)

/-- Decodes the items of an array. -/
def decodeItems : List Json → Shape → Except DecodeError (List Json)
  | [], _ => .ok []
  | item :: items, shape => do
      let item ← decode item shape
      let items ← decodeItems items shape
      pure (item :: items)

/-- Decodes the values of a map. -/
def decodeEntries : List (String × Json) → Shape → Except DecodeError (List (String × Json))
  | [], _ => .ok []
  | (name, value) :: members, shape => do
      let value ← decode value shape
      let members ← decodeEntries members shape
      pure ((name, value) :: members)

/-- Decodes the fields of an object. -/
def decodeFields :
    List (String × Json) → List (String × Shape) → Except DecodeError (List (String × Json))
  | [], _ => .ok []
  | (name, value) :: members, fields =>
      match value, fields.lookup name with
      | .null, some _ => decodeFields members fields
      | _, none => decodeFields members fields
      | value, some shape => do
          let value ← decode value shape
          let members ← decodeFields members fields
          pure ((name, value) :: members)

end

end Shape

end ClusterHosts

namespace ClusterHosts.Shape

/-! ## The metadata of objects

What every object of a cluster says of itself, and what a list of objects says of itself.
-/

/-- A record whose fields may all be missing. -/
def fields (name : String) (fields : List (String × Shape)) : Shape := .record name fields []

/-- Texts by name. -/
def textMap : Shape := .map .text

/-- Who manages which fields of an object. -/
def managedFieldsEntry : Shape := fields "ManagedFieldsEntry" [
  ("apiVersion", .text), ("fieldsType", .text), ("fieldsV1", .anything), ("manager", .text),
  ("operation", .text), ("subresource", .text), ("time", .time)]

/-- An object that another one belongs to. Its texts are always there. -/
def ownerReference : Shape := .record "OwnerReference" [
  ("apiVersion", .text), ("blockOwnerDeletion", .truth), ("controller", .truth), ("kind", .text),
  ("name", .text), ("uid", .text)] ["apiVersion", "kind", "name", "uid"]

/-- The metadata of an object. -/
def objectMeta : Shape := fields "ObjectMeta" [
  ("annotations", textMap), ("creationTimestamp", .time),
  ("deletionGracePeriodSeconds", .integer 64), ("deletionTimestamp", .time),
  ("finalizers", .list .text), ("generateName", .text), ("generation", .integer 64),
  ("labels", textMap), ("managedFields", .list managedFieldsEntry), ("name", .text),
  ("namespace", .text), ("ownerReferences", .list ownerReference), ("resourceVersion", .text),
  ("selfLink", .text), ("uid", .text)]

/-- The metadata of a list of objects. -/
def listMeta : Shape := fields "ListMeta" [
  ("continue", .text), ("remainingItemCount", .integer 64), ("resourceVersion", .text),
  ("selfLink", .text)]

/-! ## The status of nodes

What the cluster reports of a node.
-/

/-- Amounts by name. -/
def quantityMap : Shape := .map .quantity

/-- An address of a node. -/
def nodeAddress : Shape := fields "NodeAddress" [("address", .text), ("type", .text)]

/-- A condition of a node. -/
def nodeCondition : Shape := fields "NodeCondition" [
  ("lastHeartbeatTime", .time), ("lastTransitionTime", .time), ("message", .text),
  ("reason", .text), ("status", .text), ("type", .text)]

/-- Where the configuration of a node comes from. -/
def nodeConfigSource : Shape := fields "NodeConfigSource" [
  ("configMap", fields "ConfigMapNodeConfigSource" [
    ("kubeletConfigKey", .text), ("name", .text), ("namespace", .text), ("resourceVersion", .text),
    ("uid", .text)])]

/-- The state of a node's configuration. -/
def nodeConfigStatus : Shape := fields "NodeConfigStatus" [
  ("active", nodeConfigSource), ("assigned", nodeConfigSource), ("error", .text),
  ("lastKnownGood", nodeConfigSource)]

/-- The ports of a node's own services. -/
def nodeDaemonEndpoints : Shape := fields "NodeDaemonEndpoints" [
  ("kubeletEndpoint", fields "DaemonEndpoint" [("Port", .integer 32)])]

/-- What a node's runtime is able to do. -/
def nodeFeatures : Shape := fields "NodeFeatures" [("supplementalGroupsPolicy", .truth)]

/-- A container image on a node. -/
def containerImage : Shape := fields "ContainerImage" [
  ("names", .list .text), ("sizeBytes", .integer 64)]

/-- The system of a node. -/
def nodeSystemInfo : Shape := fields "NodeSystemInfo" [
  ("architecture", .text), ("bootID", .text), ("containerRuntimeVersion", .text),
  ("kernelVersion", .text), ("kubeProxyVersion", .text), ("kubeletVersion", .text),
  ("machineID", .text), ("operatingSystem", .text), ("osImage", .text),
  ("swap", fields "NodeSwapStatus" [("capacity", .integer 64)]), ("systemUUID", .text)]

/-- A container runtime of a node. -/
def nodeRuntimeHandler : Shape := fields "NodeRuntimeHandler" [
  ("features", fields "NodeRuntimeHandlerFeatures" [
    ("recursiveReadOnlyMounts", .truth), ("userNamespaces", .truth)]),
  ("name", .text)]

/-- A volume attached to a node. -/
def attachedVolume : Shape := fields "AttachedVolume" [("devicePath", .text), ("name", .text)]

/-- The status of a node. -/
def nodeStatus : Shape := fields "NodeStatus" [
  ("addresses", .list nodeAddress), ("allocatable", quantityMap), ("capacity", quantityMap),
  ("conditions", .list nodeCondition), ("config", nodeConfigStatus),
  ("daemonEndpoints", nodeDaemonEndpoints), ("features", nodeFeatures),
  ("images", .list containerImage), ("nodeInfo", nodeSystemInfo), ("phase", .text),
  ("runtimeHandlers", .list nodeRuntimeHandler), ("volumesAttached", .list attachedVolume),
  ("volumesInUse", .list .text)]

end ClusterHosts.Shape
