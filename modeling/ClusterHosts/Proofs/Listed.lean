import ClusterHosts.Proofs.Hosts
import ClusterHosts.Proofs.Paging
import ClusterHosts.Proofs.Resolution

/-! # From listed objects to hosts

A resolution that reaches a server, and whose questions the server answers, comes to what the listed
objects say: the filter by names keeps some of them, and each of those is a host or the resolution
fails. How the list is cut into pages and what the other objects hold does not matter
(`Inventory.Answered.hosts_of_kept_objects`).
-/

namespace ClusterHosts

namespace Inventory

variable {σ : Type}

/-- The nodes among the resources of a cluster. -/
def nodeResource : Resource := Resource.ofGroup "" "Node" "nodes" false ["node", "no"]

/-- How a server is asked for a page of its nodes. -/
def nodesPage (server : ApiServer) (http : Http (StateM σ)) (filter : NodeFilter) :
    Option String → StateM σ (Except ApiError Page) :=
  Listing.fetchPage (http.authorized server.authorization) server.address "/api/v1/nodes"
    (nodeQuery filter).labelSelector?

/-- Whether an object is kept by the names of a filter. -/
def IsKept (filter : NodeFilter) (object : Json) : Prop :=
  filter.names.texts = [] ∨ ∃ name ∈ filter.names.texts, Listing.nameOf? object = some name

instance (filter : NodeFilter) : DecidablePred (IsKept filter) := fun _ =>
  inferInstanceAs (Decidable (_ ∨ _))

/-! ### The search -/

/-- A node has a wanted name if the filter keeps it. -/
theorem hasWantedName_eq (filter : NodeFilter) (object : Json) :
    Listing.hasWantedName (nodeQuery filter).names object = decide (IsKept filter object) := by
  rw [Bool.eq_iff_iff, decide_eq_true_iff, IsKept, Listing.hasWantedName]
  cases Listing.nameOf? object <;> simp [nodeQuery]

/-- What a search finds that keeps some objects. -/
def nodeListing (kept : List Json) : Listing :=
  ⟨nodeResource.kind, none, kept.map (Listing.labelled nodeResource)⟩

/-- Of the objects that are listed those are selected that the filter keeps. -/
theorem select_nodes (filter : NodeFilter) (objects : List Json) :
    Listing.select (nodeQuery filter) nodeResource objects =
      (objects.filter (IsKept filter ·)).map (Listing.labelled nodeResource) := by
  have wanted : Listing.hasWantedName (nodeQuery filter).names = (IsKept filter ·) :=
    funext (hasWantedName_eq filter)
  rw [Listing.select, wanted]
  rfl

/-- A search for nodes finds the kept ones of the objects in the pages. -/
theorem run_searcher_nodes {server : ApiServer} {http : Http (StateM σ)} {filter : NodeFilter}
    {world after : σ} {pages : List Page}
    (reads : Listing.Reads (nodesPage server http filter) none world pages none after) :
    (server.searcher http (nodeQuery filter)).run world =
      (.ok [nodeListing ((pages.flatMap Page.items).filter (IsKept filter ·))], after) := by
  have known : Resource.known? (nodeQuery filter).group (nodeQuery filter).version
      (nodeQuery filter).kind = some nodeResource := by
    change Resource.known? "core" "" "nodes" = some nodeResource
    decide
  have listed : (Listing.ofScope (http.authorized server.authorization) server.address
      (nodeQuery filter) nodeResource none).run world =
        (.ok (nodeListing ((pages.flatMap Page.items).filter (IsKept filter ·))), after) := by
    have path : nodeResource.path none = "/api/v1/nodes" := by decide
    rw [nodesPage, ← path] at reads
    rw [Listing.run_ofScope reads, select_nodes]
    rfl
  have scopes : Listing.scopes (nodeQuery filter) nodeResource = [none] := rfl
  simp only [ApiServer.searcher, Listing.search, Discovery.resolve, known, pure_bind, scopes,
    Listing.ofScopes, run_bind]
  rw [listed]
  rfl

/-! ### The resolution -/

/-- A resolution that reaches a server, whose arguments have the right form, and whose every
question for a page of the nodes is answered. -/
structure Answered (σ : Type) extends Resolution σ where
  cluster : KubeTarget
  server : ApiServer
  http : Http (StateM σ)
  /-- The world in which the server is asked for the first page. -/
  connected : σ
  names : NodeFilter
  ssh : SshSettings
  pages : List Page
  after : σ
  cluster_eq : Inventory.target session arguments = .ok cluster
  connects : (clusters.connect cluster).run world = (.ok (server.searcher http), connected)
  names_eq : NodeFilter.ofArguments kind arguments = .ok names
  ssh_eq : sshSettings session arguments = .ok ssh
  reads : Listing.Reads (nodesPage server http names) none connected pages none after

namespace Answered

variable (answered : Answered σ)

/-- What the resolution comes to. -/
def outcome : Except CallError Inventory :=
  ((resolve answered.clusters answered.session answered.arguments).run answered.world).1

/-- The objects that the filter keeps, in the order of the list. -/
def kept : List Json := (answered.pages.flatMap Page.items).filter (IsKept answered.names ·)

/-- The objects are as servers list them. -/
theorem isListed {object : Json} (member : object ∈ answered.kept) : Listing.IsListed object := by
  obtain ⟨page, read, inside⟩ := List.mem_flatMap.1 (List.mem_filter.1 member).1
  obtain ⟨token, world, after, answer⟩ := answered.reads.exists_answer read
  exact Listing.isListed_of_fetchPage answer object inside

/-- The kept objects decide what comes of the resolution. -/
theorem outcome_eq :
    answered.outcome =
      (Node.ofItems kind 0 answered.kept).map fun nodes =>
        ⟨nodes.map Node.internalAddress, answered.ssh⟩ := by
  have found : Node.ofListings kind [nodeListing answered.kept] =
      Node.ofItems kind 0 answered.kept := by
    rw [Node.ofListings, List.flatMap_singleton]
    exact Node.ofItems_labelled nodeResource
  have run := run_resolve answered.clusters answered.session answered.arguments answered.world
  rw [outcome, run, observe_resolve, answered.cluster_eq]
  simp only [answered.connects, answered.names_eq, run_searcher_nodes answered.reads]
  change ofListings answered.session answered.arguments [nodeListing answered.kept] = _
  rw [ofListings, found, answered.ssh_eq]
  cases Node.ofItems kind 0 answered.kept <;> rfl

/-- **Hosts of kept objects.** Whatever the pages are that a server cuts the list of its nodes into,
a resolution succeeds exactly if every object that the filter keeps is a node. The hosts are then
the first internal addresses of these objects, in the order of the list. Otherwise the first kept
object that is not a node is to blame, by its position among the kept ones. Two resolutions that
keep the same objects, out of whatever lists in whatever pages, and have the same settings come to
the same. -/
theorem hosts_of_kept_objects :
    ((∃ inventory, answered.outcome = .ok inventory) ↔
      ∀ object ∈ answered.kept, ∃ node, Node.ofJson object = .ok node) ∧
    (∀ inventory, answered.outcome = .ok inventory →
      inventory = ⟨answered.kept.map Node.reportedHost, answered.ssh⟩) ∧
    (∀ error, answered.outcome = .error error ↔
      ∃ before object later cause, answered.kept = before ++ object :: later ∧
        (∀ other ∈ before, ∃ node, Node.ofJson other = .ok node) ∧
        Node.ofJson object = .error cause ∧
        error = .badObject kind "node" before.length cause) ∧
    ∀ {τ : Type} (other : Answered τ), other.kept = answered.kept → other.ssh = answered.ssh →
      other.outcome = answered.outcome := by
  refine ⟨?_, ?_, ?_, ?_⟩
  · rw [← Node.exists_ofItems_eq_ok_iff, outcome_eq]
    constructor
    · rintro ⟨inventory, gives⟩
      obtain ⟨nodes, decoded, _⟩ := Outcome.map_eq_ok.1 gives
      exact ⟨nodes, decoded⟩
    · rintro ⟨nodes, decoded⟩
      exact ⟨_, Outcome.map_eq_ok.2 ⟨nodes, decoded, rfl⟩⟩
  · intro inventory gives
    rw [outcome_eq] at gives
    obtain ⟨nodes, decoded, rfl⟩ := Outcome.map_eq_ok.1 gives
    rw [Node.map_internalAddress_of_ofItems (fun _ member => answered.isListed member) decoded]
  · intro error
    rw [outcome_eq, Outcome.map_eq_error, Node.ofItems_eq_error_iff]
    simp only [Nat.zero_add]
  · intro τ other sameKept sameSettings
    rw [outcome_eq, outcome_eq, sameKept, sameSettings]

end Answered

/-! ### One list in one page and in two -/

/-- A server that can be asked by anyone. -/
def openServer : ApiServer := ⟨"open", ⟨some "http", "cluster", ""⟩, .absent⟩

/-- A filter for the node `a`. -/
def onlyA : NodeFilter := ⟨.ofList ["a"], .empty⟩

/-- A resolution with this filter, given what is asked for pages and which pages there are. -/
def answeredBy (http : Http (StateM Unit)) (pages : List Page)
    (reads : Listing.Reads (nodesPage openServer http onlyA) none () pages none ()) :
    Answered Unit where
  clusters := { connect := fun _ => pure (.ok (openServer.searcher http)) }
  session := { kube := some ⟨.ofText "/kube", none⟩, ssh := some { username := "core" } }
  arguments := .ofList [("names", .string "a")]
  world := ()
  cluster := ⟨.ofText "/kube", none⟩
  server := openServer
  http := http
  connected := ()
  names := onlyA
  ssh := { username := "core" }
  pages := pages
  after := ()
  cluster_eq := rfl
  connects := rfl
  names_eq := rfl
  ssh_eq := rfl
  reads := reads

/-- The node `a`, with an address. -/
def nodeA : Json :=
  .object [
    ("metadata", .object [("name", .string "a")]),
    ("status", .object [("addresses", .array [
      .object [("address", .string "10.0.0.1"), ("type", .string "InternalIP")]])])]

/-- The node `b`, with a status that no node has. -/
def nodeB : Json :=
  .object [("metadata", .object [("name", .string "b")]), ("status", .integer 7)]

/-- The node `a` as a server writes it. -/
def textA : String :=
  "\x7b\"metadata\":\x7b\"name\":\"a\"\x7d,\"status\":\x7b\"addresses\":[" ++
    "\x7b\"type\":\"InternalIP\",\"address\":\"10.0.0.1\"\x7d]\x7d\x7d"

/-- A server that gives both nodes, each in a page of its own. -/
def inTwoPages : Http (StateM Unit) where
  get _ target := pure (.ok ⟨200,
    if target = "/api/v1/nodes?&limit=500" then
      "\x7b\"metadata\":\x7b\"continue\":\"b\"\x7d,\"items\":[" ++ textA ++ "]\x7d"
    else "\x7b\"items\":[\x7b\"metadata\":\x7b\"name\":\"b\"\x7d,\"status\":7\x7d]\x7d"⟩)

/-- A server that gives the node `a` alone. -/
def inOnePage : Http (StateM Unit) where
  get _ _ := pure (.ok ⟨200, "\x7b\"items\":[" ++ textA ++ "]\x7d"⟩)

/-- Both nodes are read, each from its page. -/
theorem reads_inTwoPages :
    Listing.Reads (nodesPage openServer inTwoPages onlyA) none ()
      [⟨[nodeA], some "b"⟩, ⟨[nodeB], none⟩] none () := by
  have asksFirst : pageTarget "/api/v1/nodes" (nodeQuery onlyA).labelSelector? none =
      "/api/v1/nodes?&limit=500" := by decide
  have asksSecond : pageTarget "/api/v1/nodes" (nodeQuery onlyA).labelSelector? (some "b") =
      "/api/v1/nodes?&limit=500&continue=b" := by decide
  have first : (nodesPage openServer inTwoPages onlyA none).run () =
      (.ok ⟨[nodeA], some "b"⟩, ()) :=
    Listing.run_fetchPage asksFirst (by decide) (by decide) rfl (by decide +kernel)
  have second : (nodesPage openServer inTwoPages onlyA (some "b")).run () =
      (.ok ⟨[nodeB], none⟩, ()) :=
    Listing.run_fetchPage asksSecond (by decide) (by decide) rfl (by decide +kernel)
  exact .more first rfl (.last second rfl)

theorem reads_inOnePage :
    Listing.Reads (nodesPage openServer inOnePage onlyA) none () [⟨[nodeA], none⟩] none () := by
  have asks : pageTarget "/api/v1/nodes" (nodeQuery onlyA).labelSelector? none =
      "/api/v1/nodes?&limit=500" := by decide
  have page : (nodesPage openServer inOnePage onlyA none).run () = (.ok ⟨[nodeA], none⟩, ()) :=
    Listing.run_fetchPage asks (by decide) (by decide) rfl (by decide +kernel)
  exact .last page rfl

/-- The node `a` is a host, in whatever pages it comes, and the node `b`, which is none, does not
matter. -/
theorem hosts_of_kept_objects_in_two_pages :
    let two := answeredBy inTwoPages _ reads_inTwoPages
    let one := answeredBy inOnePage _ reads_inOnePage
    (∃ cause, Node.ofJson nodeB = .error cause) ∧ one.kept = two.kept ∧
      two.outcome = .ok ⟨["10.0.0.1"], { username := "core" }⟩ ∧ one.outcome = two.outcome := by
  intro two one
  have keptTwo : two.kept = [nodeA] := rfl
  have keptOne : one.kept = [nodeA] := rfl
  obtain ⟨succeeds, gives, _, same⟩ := two.hosts_of_kept_objects
  have node : ∀ object ∈ two.kept, ∃ node, Node.ofJson object = .ok node := by
    rw [keptTwo, List.forall_mem_singleton]
    exact ⟨_, rfl⟩
  obtain ⟨inventory, outcome⟩ := succeeds.2 node
  have value := gives inventory outcome
  rw [keptTwo] at value
  refine ⟨⟨_, rfl⟩, keptOne.trans keptTwo.symm, ?_, same one (keptOne.trans keptTwo.symm) rfl⟩
  rw [outcome, value]
  rfl

end Inventory
end ClusterHosts
