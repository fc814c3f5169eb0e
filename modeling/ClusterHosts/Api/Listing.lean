import ClusterHosts.Api.Discovery
import ClusterHosts.Search

/-! # Listing objects

A cluster lists objects in pages; each page but the last carries a token with which the next one is
asked for. The objects of all pages are taken in order, and none if a page cannot be had. Labels are
sorted out by the cluster, names and containers here.
-/

namespace ClusterHosts

/-- A page of a list. -/
structure Page where
  items : List Json
  /-- The token with which the next page is asked for; the empty text counts as none. -/
  token : Option String := none
  deriving DecidableEq, Inhabited

/-- The token of the next page, if there is one. -/
def Page.next? (page : Page) : Option String := page.token.filter fun token => !token.isEmpty

namespace Page

/-- An object with the metadata that its form knows. -/
def itemOfJson (item : Json) : Except DecodeError Json :=
  match item with
  | .object members =>
      match members.lookup "metadata" with
      | none => .ok (item.withMember "metadata" (.object []))
      | some metadata =>
          (Shape.decode metadata Shape.objectMeta).map fun metadata =>
            item.withMember "metadata" metadata
  | other => .error (.wrongType other.found "struct DynamicObject")

/-- The objects of a page. -/
def itemsOfJson : List Json → Except DecodeError (List Json)
  | [] => .ok []
  | item :: items => do
      let item ← itemOfJson item
      let items ← itemsOfJson items
      pure (item :: items)

/-- The metadata of a list with certain members. -/
def metadataOfMembers (members : List (String × Json)) : Except DecodeError Json :=
  match members.lookup "metadata" with
  | none => .ok (.object [])
  | some metadata => Shape.decode metadata Shape.listMeta

/-- The objects of a list with certain members. -/
def itemsOfMembers (members : List (String × Json)) : Except DecodeError (List Json) :=
  match members.lookup "items" with
  | none => .error (.missingField "items")
  | some .null => .ok []
  | some (.array items) => itemsOfJson items
  | some other => .error (.wrongType other.found "a sequence")

/-- The page that an answer stands for. -/
def ofJson (answer : Json) : Except DecodeError Page :=
  match answer with
  | .object members => do
      let metadata ← metadataOfMembers members
      let items ← itemsOfMembers members
      pure ⟨items, (metadata.member? "continue").bind Json.text?⟩
  | other => .error (.wrongType other.found "struct ObjectList")

end Page

/-! ### Requests -/

/-- The most objects that are asked for in a page. -/
def Page.size : Nat := 500

/-- How a character is written in the parameters of a request. -/
def encodedChar (c : Char) : List Char :=
  if c = ' ' then ['+']
  else if c.isAlphanum ∨ ['*', '-', '.', '_'].contains c then [c]
  else (String.singleton c).toUTF8.toList.flatMap fun byte =>
    '%' :: Text.capitalHexadecimal 2 byte.toNat

/-- A parameter of a request. -/
def parameter (name value : String) : String :=
  "&" ++ name ++ "=" ++ String.ofList (value.toList.flatMap encodedChar)

/-- A parameter of a request that may be missing. -/
def optionalParameter (name : String) : Option String → String
  | some value => parameter name value
  | none => ""

/-- The target that asks for a page of the objects at a path. -/
def pageTarget (path : String) (selector token : Option String) : String :=
  path ++ "?" ++ optionalParameter "labelSelector" selector ++
    parameter "limit" (String.ofList (Text.decimal Page.size)) ++ optionalParameter "continue" token

namespace Listing

variable {m : Type → Type} [Monad m]

/-- How far a list has been read: the token of the next page, which the first page has none of, and
the objects of the pages before it. -/
structure Progress where
  token : Option String := none
  items : List Json := []
  deriving Inhabited

/-- Reads the next page, given how a page is asked for with or without a token. The reading goes on
behind the page, or ends with the last page or a failure. -/
def readPage (fetch : Option String → m (Except ApiError Page)) (progress : Progress) :
    m (Progress ⊕ Except ApiError (List Json)) := do
  match ← fetch progress.token with
  | .error error => pure (.inr (.error error))
  | .ok page =>
      let items := progress.items ++ page.items
      match page.next? with
      | some token => pure (.inl ⟨some token, items⟩)
      | none => pure (.inr (.ok items))

/-- Reads all pages from a progress on. -/
def readFrom (fetch : Option String → m (Except ApiError Page)) (progress : Progress) :
    m (Except ApiError (List Json)) :=
  repeatM (readPage fetch) progress

/-- The objects of all pages. -/
def readPages (fetch : Option String → m (Except ApiError Page)) :
    m (Except ApiError (List Json)) :=
  readFrom fetch {}

/-- Asks for a page of the objects at a path. -/
def fetchPage (http : Http m) (address : ServerAddress) (path : String) (selector : Option String)
    (token : Option String) : m (Except ApiError Page) := do
  match ← http.getJson address (pageTarget path selector token) with
  | .error error => pure (.error error)
  | .ok answer =>
      match Page.ofJson answer with
      | .ok page => pure (.ok page)
      | .error cause => pure (.error (.malformed cause))

/-! ### Selection -/

/-- The name of an object. -/
def nameOf? (item : Json) : Option String :=
  ((item.member? "metadata").bind (Json.member? "name")).bind Json.text?

/-- Whether an object has one of the wanted names; all names are wanted if none is given. -/
def hasWantedName (names : List String) (item : Json) : Bool :=
  names.isEmpty || match nameOf? item with
    | some name => names.contains name
    | none => false

/-- The names of the containers in a field of a pod. -/
def containerNames (field : String) (pod : Json) : List String :=
  let containers := ((pod.member? "spec").bind (Json.member? field)).bind Json.items?
  (containers.getD []).filterMap fun container => (container.member? "name").bind Json.text?

/-- Whether a pod has one of the wanted containers. -/
def hasWantedContainer (containers : List String) (pod : Json) : Bool :=
  (containerNames "containers" pod ++ containerNames "initContainers" pod).any containers.contains

/-- The object with the version and kind of its resource, which a list leaves out. -/
def labelled (resource : Resource) (item : Json) : Json :=
  (item.withMember "apiVersion" (.string resource.apiVersion)).withMember "kind"
    (.string resource.kind)

/-- The objects that a query wants, each with its version and kind. Containers matter only for
pods. -/
def select (query : Query) (resource : Resource) (items : List Json) : List Json :=
  let items := (items.filter (hasWantedName query.names)).map (labelled resource)
  if query.containers.isEmpty || resource.kind != "Pod" then items
  else items.filter (hasWantedContainer query.containers)

/-! ### Searching -/

/-- What is found in one namespace, or in the whole cluster. -/
def ofScope (http : Http m) (address : ServerAddress) (query : Query) (resource : Resource)
    (inNamespace : Option String) : m (Except SearchError Listing) := do
  let path := resource.path inNamespace
  match ← readPages (fetchPage http address path query.labelSelector?) with
  | .error cause => pure (.error (.unlisted resource.plural cause))
  | .ok items =>
      pure (.ok {
        kind := resource.kind, inNamespace, items := select query resource items })

/-- What is found in each of several scopes, or the first failure. -/
def ofScopes (http : Http m) (address : ServerAddress) (query : Query) (resource : Resource) :
    List (Option String) → m (Except SearchError (List Listing))
  | [] => pure (.ok [])
  | scope :: scopes => do
      match ← ofScope http address query resource scope with
      | .error error => pure (.error error)
      | .ok listing =>
          match ← ofScopes http address query resource scopes with
          | .error error => pure (.error error)
          | .ok listings => pure (.ok (listing :: listings))

/-- Where a query is answered: in each of its namespaces, or at once if it has none or the objects
are not kept in namespaces. -/
def scopes (query : Query) (resource : Resource) : List (Option String) :=
  if !resource.isNamespaced || query.namespaces.isEmpty then [none]
  else query.namespaces.map some

/-- What a cluster answers to a query. -/
def search (http : Http m) (address : ServerAddress) (query : Query) :
    m (Except SearchError (List Listing)) := do
  match ← Discovery.resolve http address query.group query.version query.kind with
  | .error error => pure (.error error)
  | .ok resource => ofScopes http address query resource (scopes query resource)

end Listing

end ClusterHosts
