import ClusterHosts.Inventory
import ClusterHosts.Proofs.Acceptance
import ClusterHosts.Proofs.Contact

/-! # The stages of a resolution

The first stage that fails decides on the error and on the contact with clusters
(`Inventory.Resolution.first_failing_stage_decides`). -/

/-! ## Stages of a resolution

A resolution goes through six stages, and each of them fails in its own ways. An error alone tells
the stage that it comes from: it is of a kind that only one stage has, or it is about an argument
that only one stage reads.
-/

namespace ClusterHosts.Inventory

/-- A stage of a resolution. -/
inductive Stage where
  /-- The cluster to search is determined. -/
  | target
  /-- The cluster is connected to. -/
  | connection
  /-- The arguments that filter the nodes are read. -/
  | filter
  /-- The cluster is searched. -/
  | search
  /-- The nodes are decoded. -/
  | nodes
  /-- The settings for the hosts are determined. -/
  | settings
  deriving DecidableEq

namespace Stage

/-- The stages, in the order in which a resolution goes through them. -/
def all : List Stage := [.target, .connection, .filter, .search, .nodes, .settings]

theorem mem_all (stage : Stage) : stage ∈ all := by
  cases stage <;> decide

/-- The stages before a stage. -/
def earlier (stage : Stage) : List Stage := all.takeWhile fun other => other ≠ stage

/-- How many connections and how many queries have been made when a stage fails. -/
def traffic : Stage → Nat × Nat
  | .target => (0, 0)
  | .connection | .filter => (1, 0)
  | .search | .nodes | .settings => (1, 1)

end Stage

/-- The stage that reads what has a name: an argument, or an attribute of the struct that an
argument is. -/
def Stage.ofKey (key : String) : Stage :=
  if key ∈ "kube_config" :: KubeTarget.attributeNames then .target
  else if key ∈ ["names", "nodes", "labels"] then .filter
  else .settings

end Inventory

open Inventory (Stage)

/-- The stage that a complaint about an argument comes from. An attribute that is unexpected may be
named like anything, and is told by the attributes that are expected in its place. -/
def Complaint.stage (key : String) : Complaint → Stage
  | .unexpected known => if known = KubeTarget.attributeNames then .target else .settings
  | _ => .ofKey key

/-- The stage that a failure comes from. -/
def CallError.stage? : CallError → Option Stage
  | .badArgument _ key complaint => some (complaint.stage key)
  | .badObject .. => some .nodes
  | .noTarget _ => some .target
  | .connectFailed .. => some .connection
  | .searchFailed .. => some .search
  | .missingDefault .. => some .settings
  | .unknownFunction _ => none

/-! ### Where errors come from -/

/-- An attribute that does not meet its demand comes from the stage that reads it. -/
theorem FirstFault.stage_eq {attributes : Attributes} {demands : List (String × Demand)}
    {name : String} {complaint : Complaint} (fault : FirstFault attributes demands name complaint) :
    complaint.stage name = .ofKey name := by
  obtain ⟨demand, refuses⟩ := fault.exists_refuses
  cases complaint with
  | unexpected => exact absurd rfl (Demand.ne_unexpected_of_refuses refuses)
  | _ => rfl

/-- Attributes that cannot be read as settings fail in the stage that all their names belong to. -/
theorem Session.Slot.stage_of_ofAttributes (slot : Slot) {function : String}
    {attributes : Attributes} {error : CallError} {stage : Stage}
    (fails : slot.ofAttributes function attributes = .error error)
    (unexpected : ∀ name, (Complaint.unexpected (slot.demands.map Prod.fst)).stage name = stage)
    (names : ∀ name ∈ slot.demands.map Prod.fst, Stage.ofKey name = stage) :
    error.stage? = some stage := by
  rcases ofAttributes_eq_error_iff.1 fails with ⟨name, _, rfl⟩ | ⟨_, name, complaint, fault, rfl⟩
  · rw [CallError.stage?, unexpected name]
  · rw [CallError.stage?, fault.stage_eq, names name fault.name_mem]

namespace Inventory

variable {session : Session} {arguments : Attributes} {error : CallError}

/-- A target that cannot be determined fails as such. -/
theorem stage_of_target (fails : target session arguments = .error error) :
    error.stage? = some .target := by
  unfold target at fails
  split at fails
  · unfold KubeTarget.ofValue at fails
    split at fails
    · split at fails
      · cases fails
        rfl
      · cases fails
    · split at fails
      · exact Session.Slot.kube.stage_of_ofAttributes fails (fun _ => rfl) (by decide)
      · cases fails
        rfl
  · split at fails
    · cases fails
    · cases fails
      rfl

/-- A set that cannot be read belongs to the stage of its key. -/
private theorem stage_of_set {key : String} {value? : Option Value}
    (fails : TextSet.ofValue? kind key value? = .error error) :
    error.stage? = some (Stage.ofKey key) := by
  unfold TextSet.ofValue? at fails
  split at fails
  · unfold TextSet.ofValue at fails
    split at fails
    · cases fails
    · cases fails
    · split at fails
      · cases fails
      · cases fails
        rfl
    · cases fails
      rfl
  · cases fails

/-- A filter that cannot be read fails as such. -/
theorem stage_of_filter (fails : NodeFilter.ofArguments kind arguments = .error error) :
    error.stage? = some .filter := by
  have namesKey : Stage.ofKey (NodeFilter.namesKey arguments) = .filter := by
    unfold NodeFilter.namesKey
    split <;> decide
  unfold NodeFilter.ofArguments at fails
  rcases Outcome.bind_eq_error.1 fails with names | ⟨_, _, fails⟩
  · rw [stage_of_set names, namesKey]
  rcases Outcome.bind_eq_error.1 fails with labels | ⟨_, _, fails⟩
  · rw [stage_of_set labels]
    decide
  · cases fails

/-- Nodes that cannot be decoded fail as such. -/
theorem stage_of_nodes {index : Nat} {items : List Json}
    (fails : Node.ofItems kind index items = .error error) : error.stage? = some .nodes := by
  induction items generalizing index with
  | nil => cases fails
  | cons item items ih =>
      unfold Node.ofItems at fails
      split at fails
      · exact ih (Outcome.map_eq_error.1 fails)
      · cases fails
        rfl

/-- Settings that cannot be determined fail as such. -/
theorem stage_of_settings (fails : sshSettings session arguments = .error error) :
    error.stage? = some .settings := by
  unfold sshSettings at fails
  split at fails
  · unfold SshSettings.ofValue at fails
    split at fails
    · exact Session.Slot.ssh.stage_of_ofAttributes fails (fun _ => rfl) (by decide)
    · cases fails
      rfl
  · split at fails
    · cases fails
    · cases fails
      rfl

end Inventory
end ClusterHosts

namespace ClusterHosts

/-! ## The order of failures

Several stages of a resolution may be bound to fail at once. What comes of the resolution, and what
has been asked of clusters by then, depends on the first of them
(`Inventory.Resolution.first_failing_stage_decides`).
-/

/-- The failure of a computation that fails. -/
def failure? {α : Type} : Except CallError α → Option CallError
  | .ok _ => none
  | .error error => some error

/-- The targets of the connections that were made, in order. -/
def Observation.connections {σ α : Type} (observation : Observation σ α) : List KubeTarget :=
  observation.contacts.filterMap Contact.target?

/-- The queries that were made, in order. -/
def Observation.queries {σ α : Type} (observation : Observation σ α) : List Query :=
  observation.contacts.filterMap Contact.query?

namespace Inventory

/-- A resolution, with everything that its course depends on. -/
structure Resolution (σ : Type) where
  clusters : Clusters (StateM σ)
  session : Session
  arguments : Attributes
  world : σ

namespace Resolution

variable {σ : Type} (resolution : Resolution σ)

/-- What comes of the resolution. -/
def run : Observation σ (Except CallError Inventory) :=
  observe (resolve resolution.clusters.recorded resolution.session resolution.arguments)
    resolution.world

def target : Except CallError KubeTarget := Inventory.target resolution.session resolution.arguments

def filter : Except CallError NodeFilter := NodeFilter.ofArguments kind resolution.arguments

def settings : Except CallError SshSettings :=
  Inventory.sshSettings resolution.session resolution.arguments

/-- What comes of connecting, if there is a target. -/
def connection? : Option (Except String (Searcher (StateM σ)) × σ) :=
  resolution.target.toOption.map fun target =>
    (resolution.clusters.connect target).run resolution.world

/-- The searcher that connecting yields, and the world in which it is asked. -/
def searcher? : Option (Searcher (StateM σ) × σ) :=
  resolution.connection?.bind fun connection =>
    connection.1.toOption.map fun searcher => (searcher, connection.2)

/-- The query, if there is a searcher to answer it and a filter to ask for. -/
def query? : Option Query :=
  resolution.searcher?.bind fun _ => resolution.filter.toOption.map nodeQuery

/-- What comes of the search, if there is one. -/
def found? : Option (Except String (List Listing)) :=
  resolution.searcher?.bind fun (searcher, world) =>
    resolution.query?.map fun query => ((searcher query).run world).1

/-- The nodes, if a search found listings. -/
def nodes? : Option (Except CallError (List Node)) :=
  resolution.found?.bind fun found => found.toOption.map (Node.ofListings kind)

/-- How a stage fails, whether or not a stage before it fails too. A stage that needs what an
earlier one yields does not fail where that is missing. -/
def failureAt? : Stage → Option CallError
  | .target => failure? resolution.target
  | .connection =>
      resolution.connection?.bind fun connection =>
        failure? (connection.1.mapError (CallError.connectFailed kind))
  | .filter => failure? resolution.filter
  | .search =>
      resolution.found?.bind fun found =>
        failure? (found.mapError (CallError.searchFailed kind "nodes"))
  | .nodes => resolution.nodes?.bind failure?
  | .settings => failure? resolution.settings

/-- The failure of the first stage that fails. -/
def firstFailure? : Option CallError := Stage.all.findSome? resolution.failureAt?

/-- The inventory, if there are nodes and settings for it. -/
def inventory? : Option Inventory :=
  (resolution.nodes?.bind Except.toOption).bind fun nodes =>
    resolution.settings.toOption.map fun settings => ⟨nodes.map Node.internalAddress, settings⟩

/-- The course of a resolution: how it fails, what it gives, and what it asks of clusters. -/
theorem course :
    failure? resolution.run.result = resolution.firstFailure? ∧
      resolution.run.result.toOption = resolution.inventory? ∧
      resolution.run.contacts =
        resolution.target.toOption.toList.map .connection ++
          resolution.query?.toList.map .search := by
  obtain ⟨clusters, session, arguments, world⟩ := resolution
  unfold run
  rw [observe_resolve]
  -- The cases are the stages in their order; where one fails, the later ones are not looked at on
  -- either side, be they bound to fail or not.
  simp only [firstFailure?, Stage.all, List.findSome?_cons, List.findSome?_nil, failureAt?, target,
    connection?, filter, found?, query?, searcher?, nodes?, settings, inventory?]
  cases Inventory.target session arguments with
  | error error => exact ⟨rfl, rfl, rfl⟩
  | ok target =>
      simp only [Except.toOption, Option.map_some, Option.bind_some]
      rcases (clusters.connect target).run world with ⟨cause | searcher, next⟩
      · exact ⟨rfl, rfl, rfl⟩
      · cases NodeFilter.ofArguments kind arguments with
        | error error => exact ⟨rfl, rfl, rfl⟩
        | ok filter =>
            simp only [Option.map_some, Option.bind_some]
            rcases (searcher (nodeQuery filter)).run next with ⟨cause | listings, last⟩
            · exact ⟨rfl, rfl, rfl⟩
            · simp only [ofListings, Option.map_some, Option.bind_some]
              cases Node.ofListings kind listings with
              | error error => exact ⟨rfl, rfl, rfl⟩
              | ok nodes => cases sshSettings session arguments <;> exact ⟨rfl, rfl, rfl⟩

/-- The connections and the queries of a resolution. -/
theorem connections_run : resolution.run.connections = resolution.target.toOption.toList := by
  rw [Observation.connections, resolution.course.2.2, List.filterMap_append]
  simp [List.filterMap_map, Function.comp_def, Contact.target?]

/-- A resolution makes the query that it comes to, and no other. -/
theorem queries_run : resolution.run.queries = resolution.query?.toList := by
  rw [Observation.queries, resolution.course.2.2, List.filterMap_append]
  simp [List.filterMap_map, Function.comp_def, Contact.query?]

/-! ### The first failure -/

private theorem failure?_eq_none_iff {α : Type} (computation : Except CallError α) :
    failure? computation = none ↔ computation.toOption.isSome := by
  cases computation <;> simp [failure?, Except.toOption]

private theorem failure?_eq_some_iff {α : Type} {computation : Except CallError α}
    {error : CallError} : failure? computation = some error ↔ computation = .error error := by
  cases computation <;> simp [failure?]

/-- There is a connection if no stage before it fails. -/
theorem isSome_target_iff :
    resolution.target.toOption.isSome ↔
      ∀ stage ∈ Stage.connection.earlier, resolution.failureAt? stage = none := by
  have earlier : Stage.connection.earlier = [.target] := by decide
  simp [earlier, failureAt?, failure?_eq_none_iff]

/-- There is a query if no stage before it fails. -/
theorem isSome_query?_iff :
    resolution.query?.isSome ↔
      ∀ stage ∈ Stage.search.earlier, resolution.failureAt? stage = none := by
  have earlier : Stage.search.earlier = [.target, .connection, .filter] := by decide
  simp only [earlier, List.forall_mem_cons, List.not_mem_nil, false_imp_iff, implies_true, and_true,
    failureAt?, failure?_eq_none_iff, query?, searcher?, connection?]
  cases resolution.target with
  | error error => simp [Except.toOption]
  | ok target =>
      simp only [Except.toOption, Option.map_some, Option.bind_some, Option.isSome_some, true_and]
      rcases (resolution.clusters.connect target).run resolution.world with ⟨cause | searcher, next⟩
      · change false = true ↔ some _ = none ∧ _
        simp
      · change (resolution.filter.toOption.map nodeQuery).isSome = true ↔
          none = none ∧ resolution.filter.toOption.isSome = true
        simp

/-- The first failure is that of a stage before which none fails. -/
theorem exists_stage_of_firstFailure? {error : CallError}
    (first : resolution.firstFailure? = some error) :
    ∃ stage, resolution.failureAt? stage = some error ∧
      ∀ other ∈ stage.earlier, resolution.failureAt? other = none := by
  obtain ⟨before, stage, after, split, fails, clear⟩ := List.findSome?_eq_some_iff.1 first
  refine ⟨stage, fails, fun other member => clear other ?_⟩
  have fresh : ∀ other ∈ before, decide (other ≠ stage) = true := by
    intro other member
    have passes := clear other member
    refine decide_eq_true fun same => ?_
    rw [same, fails] at passes
    cases passes
  rw [Stage.earlier, split, List.takeWhile_append_of_pos fresh,
    List.takeWhile_cons_of_neg (by simp), List.append_nil] at member
  exact member

/-- What has been asked of clusters when a stage fails is known from the stage. -/
theorem traffic_of_first {stage : Stage} {error : CallError}
    (fails : resolution.failureAt? stage = some error)
    (clear : ∀ other ∈ stage.earlier, resolution.failureAt? other = none) :
    (resolution.run.connections.length, resolution.run.queries.length) = stage.traffic := by
  rw [connections_run, queries_run, Option.length_toList, Option.length_toList]
  simp only [isSome_target_iff, isSome_query?_iff]
  cases stage <;> simp [Stage.earlier, Stage.all] at clear ⊢ <;> simp [clear, fails, Stage.traffic]

/-- A stage fails in a way that tells it from the others. -/
theorem stage?_of_failureAt? {stage : Stage} {error : CallError}
    (fails : resolution.failureAt? stage = some error) : error.stage? = some stage := by
  cases stage with
  | target => exact stage_of_target (failure?_eq_some_iff.1 fails)
  | connection =>
      obtain ⟨⟨outcome, next⟩, _, fails⟩ := Option.bind_eq_some_iff.1 fails
      cases outcome with
      | ok searcher => cases fails
      | error cause =>
          cases fails
          rfl
  | filter => exact stage_of_filter (failure?_eq_some_iff.1 fails)
  | search =>
      obtain ⟨found, _, fails⟩ := Option.bind_eq_some_iff.1 fails
      cases found with
      | ok listings => cases fails
      | error cause =>
          cases fails
          rfl
  | nodes =>
      obtain ⟨nodes, decoded, fails⟩ := Option.bind_eq_some_iff.1 fails
      obtain ⟨found, _, decoded⟩ := Option.bind_eq_some_iff.1 decoded
      obtain ⟨listings, _, rfl⟩ := Option.map_eq_some_iff.1 decoded
      exact stage_of_nodes (failure?_eq_some_iff.1 fails)
  | settings => exact stage_of_settings (failure?_eq_some_iff.1 fails)

/-- **The first failing stage decides.** A resolution fails as the first of its stages that fails,
and gives the whole inventory if none does. It connects once, to the target, if there is one. It
asks one query, for the filter, if it is connected and has a filter. An error tells the stage that
failed, and with it what has been asked of clusters. -/
theorem first_failing_stage_decides :
    (∀ error, resolution.run.result = .error error ↔ resolution.firstFailure? = some error) ∧
    ((∃ inventory, resolution.run.result = .ok inventory) ↔
      ∀ stage, resolution.failureAt? stage = none) ∧
    (∀ inventory, resolution.run.result = .ok inventory ↔ resolution.inventory? = some inventory) ∧
    resolution.run.contacts =
      resolution.run.connections.map .connection ++ resolution.run.queries.map .search ∧
    resolution.run.connections = resolution.target.toOption.toList ∧
    resolution.run.queries = resolution.query?.toList ∧
    ∀ error, resolution.run.result = .error error →
      ∃ stage, error.stage? = some stage ∧ resolution.failureAt? stage = some error ∧
        (∀ other ∈ stage.earlier, resolution.failureAt? other = none) ∧
        (resolution.run.connections.length, resolution.run.queries.length) = stage.traffic := by
  obtain ⟨failure, gives, asks⟩ := resolution.course
  have fails (error : CallError) :
      resolution.run.result = .error error ↔ resolution.firstFailure? = some error := by
    rw [← failure?_eq_some_iff, failure]
  refine ⟨fails, ?_, ?_, ?_, resolution.connections_run, resolution.queries_run, ?_⟩
  · have succeeds : (∃ inventory, resolution.run.result = .ok inventory) ↔
        resolution.firstFailure? = none := by
      rw [← failure]
      cases resolution.run.result <;> simp [failure?]
    rw [succeeds, firstFailure?, List.findSome?_eq_none_iff]
    exact ⟨fun passes stage => passes stage stage.mem_all, fun passes stage _ => passes stage⟩
  · intro inventory
    rw [← gives]
    cases resolution.run.result <;> simp [Except.toOption]
  · rw [resolution.connections_run, resolution.queries_run, asks]
  · intro error failed
    obtain ⟨stage, here, clear⟩ := resolution.exists_stage_of_firstFailure? ((fails error).1 failed)
    exact ⟨stage, resolution.stage?_of_failureAt? here, here, clear,
      resolution.traffic_of_first here clear⟩

/-- A resolution with three failures: the cluster cannot be connected to, the labels are a number,
and there are no settings for the hosts. -/
def muddled : Resolution Unit where
  clusters := { connect := fun _ => pure (.error "refused") }
  session := { kube := some ⟨.ofText "/kube", none⟩ }
  arguments := Attributes.ofList [("labels", .ofNat 1)]
  world := ()

/-- Of three failures the first decides; by then nothing has been searched. -/
theorem first_failing_stage_decides_of_three :
    muddled.run.result = .error (.connectFailed kind "refused") ∧
      (muddled.failureAt? .filter).isSome ∧ (muddled.failureAt? .settings).isSome ∧
      (muddled.run.connections.length, muddled.run.queries.length) = (1, 0) := by
  have failed : muddled.run.result = .error (.connectFailed kind "refused") := rfl
  obtain ⟨_, _, _, _, _, _, tells⟩ := muddled.first_failing_stage_decides
  obtain ⟨stage, told, _, _, traffic⟩ := tells _ failed
  cases told
  exact ⟨failed, rfl, rfl, traffic⟩

end Resolution
end Inventory

end ClusterHosts
