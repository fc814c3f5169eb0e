import ClusterHosts.Proofs.Listed

/-! # What a search finds

A search lists the objects of its resource in each of its scopes, one after the other, and ends with
the first that cannot be listed. Of the objects that are listed it keeps those that have a wanted
name and a wanted container, in order, and says of each what it is (`Search.finds_wanted_objects`).
-/

namespace ClusterHosts

namespace Listing

variable {σ : Type}

/-- The objects of several scopes, from one world to another, and the failure that ends the listing
if not all of them can be listed. -/
inductive Lists (fetch : Option String → Option String → StateM σ (Except ApiError Page)) :
    List (Option String) → σ → List (List Json) → Option ApiError → σ → Prop where
  | done {world : σ} : Lists fetch [] world [] none world
  | next {scope : Option String} {scopes : List (Option String)} {world between after : σ}
      {pages : List Page} {found : List (List Json)} {failure : Option ApiError}
      (reads : Reads (fetch scope) none world pages none between)
      (rest : Lists fetch scopes between found failure after) :
      Lists fetch (scope :: scopes) world (pages.flatMap Page.items :: found) failure after
  | fails {scope : Option String} {scopes : List (Option String)} {world after : σ}
      {pages : List Page} {error : ApiError}
      (reads : Reads (fetch scope) none world pages (some error) after) :
      Lists fetch (scope :: scopes) world [] (some error) after

/-- Each scope has its own objects. -/
theorem Lists.length_eq {fetch : Option String → Option String → StateM σ (Except ApiError Page)}
    {scopes : List (Option String)} {world after : σ} {found : List (List Json)}
    (lists : Lists fetch scopes world found none after) : found.length = scopes.length := by
  generalize ended : (none : Option ApiError) = failure at lists
  induction lists with
  | done => rfl
  | next _ _ ih => rw [List.length_cons, ih ended, List.length_cons]
  | fails _ => cases ended

/-- How a server is asked for the pages of the objects of a resource in a scope. -/
def scopePage (http : Http (StateM σ)) (address : ServerAddress) (query : Query)
    (resource : Resource) (scope : Option String) :
    Option String → StateM σ (Except ApiError Page) :=
  fetchPage http address (resource.path scope) query.labelSelector?

variable {http : Http (StateM σ)} {address : ServerAddress} {query : Query} {resource : Resource}
  {scopes : List (Option String)} {world after : σ} {found : List (List Json)}
  {failure : Option ApiError}

/-- The scopes are searched in turn, up to the first failure. -/
theorem run_ofScopes
    (lists : Lists (scopePage http address query resource) scopes world found failure after) :
    (ofScopes http address query resource scopes).run world =
      (failure.elim
        (.ok (scopes.zipWith (fun scope objects =>
          ⟨resource.kind, scope, select query resource objects⟩) found))
        (fun error => .error (.unlisted resource.plural error)), after) := by
  -- One scope is listed by the lemma for it; a later failure passes through the scopes before it.
  induction lists with
  | done => rfl
  | @next scope scopes world between after pages found failure reads rest ih =>
      rw [ofScopes, run_bind, run_ofScope reads]
      simp only [Option.elim_none, run_bind, ih]
      cases failure <;> rfl
  | fails reads =>
      rw [ofScopes, run_bind, run_ofScope reads]
      rfl

/-- What is found in a scope was listed by the server. -/
theorem Lists.isListed
    (lists : Lists (scopePage http address query resource) scopes world found failure after)
    {objects : List Json} (member : objects ∈ found) {object : Json} (inside : object ∈ objects) :
    IsListed object := by
  induction lists with
  | done => cases member
  | next reads rest ih =>
      rcases List.mem_cons.1 member with rfl | member
      · obtain ⟨page, read, inside⟩ := List.mem_flatMap.1 inside
        obtain ⟨token, world, after, answer⟩ := reads.exists_answer read
        exact isListed_of_fetchPage answer object inside
      · exact ih member
  | fails reads => cases member

/-! ### Objects that are wanted -/

/-- An object has a name in its metadata. -/
def HasName (object : Json) (name : String) : Prop :=
  ∃ metadata, object.member? "metadata" = some metadata ∧
    metadata.member? "name" = some (.string name)

/-- A pod has a container among those that run or among those that prepare it. -/
def HasContainer (pod : Json) (container : String) : Prop :=
  ∃ field ∈ ["containers", "initContainers"], ∃ spec entries entry,
    pod.member? "spec" = some spec ∧ spec.member? field = some (.array entries) ∧
      entry ∈ entries ∧ entry.member? "name" = some (.string container)

/-- A query wants an object of a resource. Without names it wants objects of any name or none;
containers count for pods only. -/
structure Wants (query : Query) (resource : Resource) (object : Json) : Prop where
  name : query.names = [] ∨ ∃ name ∈ query.names, HasName object name
  container : query.containers = [] ∨ resource.kind ≠ "Pod" ∨
    ∃ container ∈ query.containers, HasContainer object container

theorem text?_eq_some_iff {value : Json} {text : String} :
    value.text? = some text ↔ value = .string text := by
  cases value <;> simp [Json.text?]

theorem items?_eq_some_iff {value : Json} {items : List Json} :
    value.items? = some items ↔ value = .array items := by
  cases value <;> simp [Json.items?]

/-- The name of an object is the one in its metadata. -/
theorem nameOf?_eq_some_iff {object : Json} {name : String} :
    nameOf? object = some name ↔ HasName object name := by
  simp [nameOf?, HasName, Option.bind_eq_some_iff, text?_eq_some_iff]

/-- An object has a wanted name if it has one of the names, or if none are wanted. -/
theorem hasWantedName_iff {names : List String} {object : Json} :
    hasWantedName names object = true ↔ names = [] ∨ ∃ name ∈ names, HasName object name := by
  simp only [hasWantedName, ← nameOf?_eq_some_iff]
  cases nameOf? object <;> simp

/-- The containers of a pod are named in the lists of its specification. -/
theorem mem_containerNames_iff {field container : String} {pod : Json} :
    container ∈ containerNames field pod ↔ ∃ spec entries entry,
      pod.member? "spec" = some spec ∧ spec.member? field = some (.array entries) ∧
        entry ∈ entries ∧ entry.member? "name" = some (.string container) := by
  have entriesOf (entries : List Json) :
      ((pod.member? "spec").bind (Json.member? field)).bind Json.items? = some entries ↔
        ∃ spec, pod.member? "spec" = some spec ∧ spec.member? field = some (.array entries) := by
    simp [Option.bind_eq_some_iff, items?_eq_some_iff]
  have nameOf (entry : Json) : (entry.member? "name").bind Json.text? = some container ↔
      entry.member? "name" = some (.string container) := by
    simp [Option.bind_eq_some_iff, text?_eq_some_iff]
  simp only [containerNames, List.mem_filterMap, nameOf]
  constructor
  · rintro ⟨entry, member, named⟩
    cases found : ((pod.member? "spec").bind (Json.member? field)).bind Json.items? with
    | none =>
        rw [found] at member
        cases member
    | some entries =>
        rw [found] at member
        obtain ⟨spec, inPod, inSpec⟩ := (entriesOf entries).1 found
        exact ⟨spec, entries, entry, inPod, inSpec, member, named⟩
  · rintro ⟨spec, entries, entry, inPod, inSpec, member, named⟩
    rw [(entriesOf entries).2 ⟨spec, inPod, inSpec⟩]
    exact ⟨entry, member, named⟩

/-- A pod has a wanted container if it has one of them. -/
theorem hasWantedContainer_iff {containers : List String} {pod : Json} :
    hasWantedContainer containers pod = true ↔
      ∃ container ∈ containers, HasContainer pod container := by
  have declared (container : String) :
      container ∈ containerNames "containers" pod ++ containerNames "initContainers" pod ↔
        HasContainer pod container := by
    rw [List.mem_append, mem_containerNames_iff, mem_containerNames_iff, HasContainer]
    simp
  simp only [hasWantedContainer, List.any_eq_true, declared, List.contains_iff_mem]
  exact ⟨fun ⟨container, has, wanted⟩ => ⟨container, wanted, has⟩,
    fun ⟨container, wanted, has⟩ => ⟨container, has, wanted⟩⟩

/-- The tests on an object together are what the query wants of it. -/
theorem wants_iff {object : Json} :
    (hasWantedName query.names object && (query.containers.isEmpty || resource.kind != "Pod" ||
      hasWantedContainer query.containers object)) = true ↔ Wants query resource object := by
  rw [Bool.and_eq_true, Bool.or_eq_true, Bool.or_eq_true, hasWantedName_iff,
    hasWantedContainer_iff, List.isEmpty_iff, bne_iff_ne, or_assoc]
  exact ⟨fun ⟨name, container⟩ => ⟨name, container⟩, fun ⟨name, container⟩ => ⟨name, container⟩⟩

instance : DecidablePred (Wants query resource) := fun _ => decidable_of_iff _ wants_iff

/-! ### Objects that say what they are -/

/-- An object that says what it is keeps everything else. -/
theorem member?_labelled {object : Json} (listed : IsListed object) (name : String) :
    (labelled resource object).member? name =
      if name = "kind" then some (.string resource.kind)
      else if name = "apiVersion" then some (.string resource.apiVersion)
      else object.member? name := by
  obtain ⟨members, rfl, increasing⟩ := listed.members
  simp only [labelled, Json.withMember, Json.member?]
  rw [Ordered.lookup_insert _ _ _ (Ordered.increasing_insert _ increasing),
    Ordered.lookup_insert _ _ _ increasing]

/-- Labels do not change the name of an object. -/
theorem hasName_labelled_iff {object : Json} (listed : IsListed object) {name : String} :
    HasName (labelled resource object) name ↔ HasName object name := by
  rw [HasName, member?_labelled listed, if_neg (by decide), if_neg (by decide), HasName]

/-- Labels do not change the containers of an object. -/
theorem hasContainer_labelled_iff {object : Json} (listed : IsListed object) {container : String} :
    HasContainer (labelled resource object) container ↔ HasContainer object container := by
  rw [HasContainer, member?_labelled listed, if_neg (by decide), if_neg (by decide), HasContainer]

/-- The objects that are wanted are kept in order, and each says what it is. -/
theorem select_eq {objects : List Json} (listed : ∀ object ∈ objects, IsListed object) :
    select query resource objects =
      (objects.filter (Wants query resource ·)).map (labelled resource) := by
  have once : select query resource objects =
      ((objects.filter (hasWantedName query.names)).map (labelled resource)).filter fun object =>
        query.containers.isEmpty || resource.kind != "Pod" ||
          hasWantedContainer query.containers object := by
    unfold select
    cases unrestricted : query.containers.isEmpty || resource.kind != "Pod" with
    | false => simp
    | true => simp
  -- Containers are looked for in objects that say what they are already.
  have containers (object : Json) (listed : IsListed object) :
      hasWantedContainer query.containers (labelled resource object) =
        hasWantedContainer query.containers object := by
    rw [Bool.eq_iff_iff, hasWantedContainer_iff, hasWantedContainer_iff]
    simp only [hasContainer_labelled_iff listed]
  rw [once, List.filter_map, List.filter_filter]
  congr 1
  refine List.filter_congr fun object member => ?_
  rw [Bool.eq_iff_iff, decide_eq_true_iff, ← wants_iff, Function.comp_apply,
    containers object (listed object member), Bool.and_comm]

/-- Queries for the same names and containers want the same objects. -/
theorem wants_congr {other : Query} (names : ∀ name, name ∈ query.names ↔ name ∈ other.names)
    (containers : ∀ container, container ∈ query.containers ↔ container ∈ other.containers) :
    Wants query resource = Wants other resource := by
  have noNames : query.names = [] ↔ other.names = [] := by
    simp only [List.eq_nil_iff_forall_not_mem, names]
  have noContainers : query.containers = [] ↔ other.containers = [] := by
    simp only [List.eq_nil_iff_forall_not_mem, containers]
  funext object
  refine propext ⟨fun ⟨name, container⟩ => ⟨?_, ?_⟩, fun ⟨name, container⟩ => ⟨?_, ?_⟩⟩
  · simpa only [noNames, names] using name
  · simpa only [noContainers, containers] using container
  · simpa only [noNames, names] using name
  · simpa only [noContainers, containers] using container

end Listing

/-! ### Searches -/

/-- A search of a server for a resource that the query stands for, with what comes of listing its
objects in one scope after the other. -/
structure Search (σ : Type) where
  server : ApiServer
  http : Http (StateM σ)
  query : Query
  resource : Resource
  world : σ
  /-- The world in which the resource is known. -/
  resolved : σ
  found : List (List Json)
  failure : Option ApiError
  after : σ
  resolves : (Discovery.resolve (http.authorized server.authorization) server.address query.group
    query.version query.kind).run world = (.ok resource, resolved)
  lists : Listing.Lists
    (Listing.scopePage (http.authorized server.authorization) server.address query resource)
    (Listing.scopes query resource) resolved found failure after

namespace Search

open Listing (Wants HasName labelled)

variable {σ τ : Type} (search : Search σ)

/-- What the search comes to. -/
def outcome : Except String (List Listing) :=
  ((search.server.searcher search.http search.query).run search.world).1

/-- What is kept of the objects that are listed in a scope. -/
def kept (objects : List Json) : List Json :=
  (objects.filter (Wants search.query search.resource ·)).map (labelled search.resource)

/-- The listing of a scope in which there are certain objects. -/
def listing (scope : Option String) (objects : List Json) : Listing :=
  ⟨search.resource.kind, scope, search.kept objects⟩

/-- Each namespace that is named is a scope, where the resource has namespaces. -/
theorem scopes_eq : Listing.scopes search.query search.resource =
    if search.resource.isNamespaced = true ∧ search.query.namespaces ≠ [] then
      search.query.namespaces.map some
    else [none] := by
  unfold Listing.scopes
  cases search.resource.isNamespaced <;> simp [ite_not]

/-- Listed objects are kept if they are wanted. -/
theorem zipWith_select_eq :
    (Listing.scopes search.query search.resource).zipWith
        (fun scope objects => ⟨search.resource.kind, scope,
          Listing.select search.query search.resource objects⟩) search.found =
      (Listing.scopes search.query search.resource).zipWith search.listing search.found := by
  have selected : search.found.map (Listing.select search.query search.resource) =
      search.found.map search.kept :=
    List.map_congr_left fun _ member =>
      Listing.select_eq fun _ inside => search.lists.isListed member inside
  calc (Listing.scopes search.query search.resource).zipWith _ search.found
      = (Listing.scopes search.query search.resource).zipWith (Listing.mk search.resource.kind)
          (search.found.map (Listing.select search.query search.resource)) :=
        List.zipWith_map_right.symm
    _ = (Listing.scopes search.query search.resource).zipWith search.listing search.found := by
        rw [selected, List.zipWith_map_right]
        rfl

/-- What is listed decides what comes of the search, and nothing is asked after it. -/
theorem run_eq : (search.server.searcher search.http search.query).run search.world =
    (search.failure.elim
      (.ok ((Listing.scopes search.query search.resource).zipWith search.listing search.found))
      (fun error => .error (SearchError.unlisted search.resource.plural error).message),
        search.after) := by
  simp only [ApiServer.searcher, Listing.search, run_bind, search.resolves,
    Listing.run_ofScopes search.lists, zipWith_select_eq]
  cases search.failure <;> rfl

/-- A search gives a listing for each scope, or the failure that ended it. -/
theorem outcome_eq : search.outcome = search.failure.elim
    (.ok ((Listing.scopes search.query search.resource).zipWith search.listing search.found))
    (fun error => .error (SearchError.unlisted search.resource.plural error).message) := by
  rw [outcome, run_eq]

/-- Each item of a listing is an object that was listed and is wanted, with its labels. -/
theorem exists_object_of_mem {scopes : List (Option String)} {listing : Listing}
    (member : listing ∈ scopes.zipWith search.listing search.found) {item : Json}
    (inside : item ∈ listing.items) :
    ∃ object, Listing.IsListed object ∧ Wants search.query search.resource object ∧
      item = labelled search.resource object := by
  rw [← List.map_uncurry_zip_eq_zipWith, List.mem_map] at member
  obtain ⟨⟨scope, objects⟩, paired, rfl⟩ := member
  obtain ⟨object, selected, rfl⟩ := List.mem_map.1 inside
  obtain ⟨among, wanted⟩ := List.mem_filter.1 selected
  have listed := search.lists.isListed (List.of_mem_zip paired).2 among
  exact ⟨object, listed, of_decide_eq_true wanted, rfl⟩

/-- Only which names and containers are wanted counts for a listing. -/
theorem listing_congr {other : Search τ} (resource : other.resource = search.resource)
    (names : ∀ name, name ∈ other.query.names ↔ name ∈ search.query.names)
    (containers : ∀ container,
      container ∈ other.query.containers ↔ container ∈ search.query.containers) :
    other.listing = search.listing := by
  have wants : ∀ object, Wants other.query search.resource object ↔
      Wants search.query search.resource object :=
    fun object => iff_of_eq (congrFun (Listing.wants_congr names containers) object)
  funext scope objects
  simp only [listing, kept, resource, wants]

/-- **A search finds the wanted objects.** A resource that is kept in namespaces is searched in each
namespace that the query names, in this order and as often as it is named, and any other search is
one of the whole cluster. If all these scopes can be listed, there is one listing for each of them.
It says of which namespace it is, and holds the wanted ones of the listed objects, in order, each
with the version and kind of the resource and with its other members as they were. If one of them
cannot be listed, nothing is found. Of the names and containers of the query it only matters which
there are, and a query with names finds no object without one. -/
theorem finds_wanted_objects :
    let scopes := if search.resource.isNamespaced = true ∧ search.query.namespaces ≠ [] then
      search.query.namespaces.map some else [none]
    (search.failure = none →
      search.found.length = scopes.length ∧
        search.outcome = .ok (scopes.zipWith search.listing search.found) ∧
        (scopes.zipWith search.listing search.found).map Listing.inNamespace = scopes) ∧
    (∀ error, search.failure = some error →
      search.outcome = .error (SearchError.unlisted search.resource.plural error).message) ∧
    (∀ objects ∈ search.found, ∀ object ∈ objects, ∀ name,
      (labelled search.resource object).member? name =
        if name = "kind" then some (.string search.resource.kind)
        else if name = "apiVersion" then some (.string search.resource.apiVersion)
        else object.member? name) ∧
    (∀ {τ : Type} (other : Search τ), other.resource = search.resource →
      other.found = search.found → other.failure = search.failure →
      other.query.namespaces = search.query.namespaces →
      (∀ name, name ∈ other.query.names ↔ name ∈ search.query.names) →
      (∀ container, container ∈ other.query.containers ↔ container ∈ search.query.containers) →
      other.outcome = search.outcome) ∧
    ∀ listings, search.outcome = .ok listings → search.query.names ≠ [] →
      ∀ listing ∈ listings, ∀ item ∈ listing.items, ∃ name ∈ search.query.names,
        HasName item name := by
  intro scopes
  have asked : Listing.scopes search.query search.resource = scopes := search.scopes_eq
  have decides := search.outcome_eq
  rw [asked] at decides
  refine ⟨?_, ?_, ?_, ?_, ?_⟩
  · intro lasting
    have lists := search.lists
    rw [lasting, asked] at lists
    rw [lasting] at decides
    refine ⟨lists.length_eq, decides, ?_⟩
    rw [List.map_zipWith]
    change scopes.zipWith (fun scope _ => scope) search.found = scopes
    rw [← List.map_uncurry_zip_eq_zipWith]
    exact List.map_fst_zip (Nat.le_of_eq lists.length_eq.symm)
  · intro error failing
    rw [failing] at decides
    exact decides
  · intro objects member object inside name
    exact Listing.member?_labelled (search.lists.isListed member inside) name
  · intro τ other resource found failure namespaces names containers
    have others : Listing.scopes other.query other.resource = scopes := by
      rw [other.scopes_eq, resource, namespaces]
    rw [decides, other.outcome_eq, others, found, failure, resource,
      search.listing_congr resource names containers]
  · intro listings gives named listing member item inside
    rw [decides] at gives
    cases failing : search.failure with
    | some error =>
        rw [failing] at gives
        cases gives
    | none =>
        rw [failing] at gives
        rw [← Except.ok.inj gives] at member
        obtain ⟨object, listed, wanted, rfl⟩ := search.exists_object_of_mem member inside
        obtain ⟨name, wanted, has⟩ := wanted.name.resolve_left named
        exact ⟨name, wanted, (Listing.hasName_labelled_iff listed).2 has⟩

/-! ### A namespace that is searched twice -/

/-- The pods among the resources of a cluster. -/
def podResource : Resource := Resource.ofGroup "" "Pod" "pods" true ["pod", "po"]

/-- A pod `web` that calls itself something else and prepares itself with a proxy. -/
def preparedPod : Json :=
  .object [
    ("kind", .string "Node"),
    ("metadata", .object [("name", .string "web")]),
    ("spec", .object [("initContainers", .array [.object [("name", .string "proxy")]])])]

/-- A pod without a name that runs a proxy. -/
def unnamedPod : Json :=
  .object [
    ("metadata", .object []),
    ("spec", .object [("containers", .array [.object [("name", .string "proxy")]])])]

/-- A pod `web` whose containers are no list. -/
def strangePod : Json :=
  .object [
    ("metadata", .object [("name", .string "web")]),
    ("spec", .object [("containers", .integer 7)])]

/-- A server with pods in the namespace `b`, none in the namespace `a` and no others. -/
def twoNamespaces : Http (StateM Unit) where
  get _ target := pure (
    if target = "/api/v1/namespaces/b/pods?&limit=500" then .ok ⟨200,
      "\x7b\"items\":[\x7b\"kind\":\"Node\",\"metadata\":\x7b\"name\":\"web\"\x7d," ++
        "\"spec\":\x7b\"initContainers\":[\x7b\"name\":\"proxy\"\x7d]\x7d\x7d," ++
        "\x7b\"metadata\":\x7b\x7d," ++
        "\"spec\":\x7b\"containers\":[\x7b\"name\":\"proxy\"\x7d]\x7d\x7d," ++
        "\x7b\"metadata\":\x7b\"name\":\"web\"\x7d,\"spec\":\x7b\"containers\":7\x7d\x7d]\x7d"⟩
    else if target = "/api/v1/namespaces/a/pods?&limit=500" then .ok ⟨200, "\x7b\"items\":[]\x7d"⟩
    else .error "refused")

/-- A query for pods with certain names and with a proxy. -/
def proxies (namespaces names : List String) : Query where
  group := "core"
  kind := "po"
  namespaces := namespaces
  names := names
  containers := ["proxy"]

/-- How the server is asked for pods. -/
def podsPage (scope : Option String) : Option String → StateM Unit (Except ApiError Page) :=
  Listing.scopePage (twoNamespaces.authorized .absent) Inventory.openServer.address {} podResource
    scope

set_option maxRecDepth 1000 in
/-- The pods of the namespace `b` are read. -/
theorem reads_namespaceB : Listing.Reads (podsPage (some "b")) none ()
    [⟨[preparedPod, unnamedPod, strangePod], none⟩] none () := by
  have asks : pageTarget (podResource.path (some "b")) none none =
      "/api/v1/namespaces/b/pods?&limit=500" := by decide
  have page : (podsPage (some "b") none).run () =
      (.ok ⟨[preparedPod, unnamedPod, strangePod], none⟩, ()) :=
    Listing.run_fetchPage asks (by decide) (by decide) rfl (by decide +kernel)
  exact .last page rfl

theorem reads_namespaceA : Listing.Reads (podsPage (some "a")) none () [⟨[], none⟩] none () := by
  have asks : pageTarget (podResource.path (some "a")) none none =
      "/api/v1/namespaces/a/pods?&limit=500" := by decide
  have page : (podsPage (some "a") none).run () = (.ok ⟨[], none⟩, ()) :=
    Listing.run_fetchPage asks (by decide) (by decide) rfl (by decide +kernel)
  exact .last page rfl

theorem reads_namespaceC : Listing.Reads (podsPage (some "c")) none () []
    (some (.noAnswer "refused")) () := by
  have asks : pageTarget (podResource.path (some "c")) none none =
      "/api/v1/namespaces/c/pods?&limit=500" := by decide
  have sent :
      ServerAddress.isPathAndQuery "/api/v1/namespaces/c/pods?&limit=500".toList = true := by
    decide
  have refused : (podsPage (some "c") none).run () = (.error (.noAnswer "refused"), ()) := by
    change (Listing.fetchPage (twoNamespaces.authorized .absent) Inventory.openServer.address
      (podResource.path (some "c")) none none).run () = _
    rw [Listing.fetchPage, asks, Http.getJson, sent]
    rfl
  exact .fails refused

/-- A search of the server for pods, given what comes of listing them. -/
def podSearch (namespaces names : List String) (found : List (List Json))
    (failure : Option ApiError)
    (lists : Listing.Lists podsPage (Listing.scopes (proxies namespaces names) podResource) ()
      found failure ()) : Search Unit where
  server := Inventory.openServer
  http := twoNamespaces
  query := proxies namespaces names
  resource := podResource
  world := ()
  resolved := ()
  found := found
  failure := failure
  after := ()
  resolves := by
    have known : Resource.known? "core" "" "po" = some podResource := by decide
    simp only [Discovery.resolve, proxies, known]
    rfl
  lists := lists

/-- A search of `b`, `a` and again `b` for pods `web` with a proxy. -/
def repeatedSearch (names : List String) : Search Unit :=
  podSearch ["b", "a", "b"] names
    [[preparedPod, unnamedPod, strangePod], [], [preparedPod, unnamedPod, strangePod]] none
    (.next reads_namespaceB (.next reads_namespaceA (.next reads_namespaceB .done)))

/-- The namespace `b` is searched twice, the prepared pod is found each time and says that it is a
pod, and one cannot tell how often its name was given. Where a namespace cannot be listed nothing is
found. -/
theorem finds_wanted_objects_in_repeated_namespace :
    let search := repeatedSearch ["web"]
    let pod := labelled podResource preparedPod
    search.outcome =
        .ok [⟨"Pod", some "b", [pod]⟩, ⟨"Pod", some "a", []⟩, ⟨"Pod", some "b", [pod]⟩] ∧
      pod.member? "kind" = some (.string "Pod") ∧
      pod.member? "spec" = preparedPod.member? "spec" ∧
      (repeatedSearch ["web", "web"]).outcome = search.outcome ∧
      (∃ name ∈ ["web"], HasName pod name) ∧
      (podSearch ["b", "c"] ["web"] _ _
        (.next reads_namespaceB (.fails reads_namespaceC))).outcome =
          .error "K8s API error listing pods" := by
  intro search pod
  obtain ⟨succeeds, _, untouched, same, named⟩ := search.finds_wanted_objects
  obtain ⟨_, outcome, _⟩ := succeeds rfl
  have members := untouched _ List.mem_cons_self preparedPod List.mem_cons_self
  obtain ⟨_, fails, _⟩ := (podSearch ["b", "c"] ["web"] _ _
    (.next reads_namespaceB (.fails reads_namespaceC))).finds_wanted_objects
  refine ⟨outcome, members "kind", members "spec", ?_, ?_, fails _ rfl⟩
  · exact same (repeatedSearch ["web", "web"]) rfl rfl rfl rfl
      (fun name => by simp [repeatedSearch, podSearch, proxies, search]) fun _ => Iff.rfl
  · exact named _ outcome (List.cons_ne_nil _ _) ⟨"Pod", some "b", [pod]⟩ List.mem_cons_self pod
      List.mem_cons_self

end Search

end ClusterHosts
