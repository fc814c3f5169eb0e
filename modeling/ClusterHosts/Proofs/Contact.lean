import ClusterHosts.Inventory

/-! # Observing a resolution

What comes of a resolution, which clusters it has contact with, and what it reads of the session and
the arguments. -/

namespace ClusterHosts

/-! ## What a resolution reads

A resolution depends on the session and on its arguments only through the target, the filter and the
settings that they stand for (`Inventory.resolve_congr`).
-/

/-- A filter is read from three arguments only. -/
theorem NodeFilter.ofArguments_congr (function : String) {first second : Attributes}
    (nodes : first.get? "nodes" = second.get? "nodes")
    (names : first.get? "names" = second.get? "names")
    (labels : first.get? "labels" = second.get? "labels") :
    ofArguments function first = ofArguments function second := by
  have key : namesKey first = namesKey second := by
    rw [namesKey, namesKey, Attributes.contains, Attributes.contains, nodes]
  have selected : first.get? (namesKey second) = second.get? (namesKey second) := by
    unfold namesKey
    split
    · exact nodes
    · exact names
  rw [ofArguments, ofArguments, key, selected, labels]

namespace Inventory

variable {m : Type → Type} [Monad m]

/-- **Only target, filter and settings matter.** Two resolutions with the same target, filter and
settings are the same. -/
theorem resolve_congr (clusters : Clusters m) {first second : Session}
    {firstArguments secondArguments : Attributes}
    (targets : target first firstArguments = target second secondArguments)
    (filters : NodeFilter.ofArguments kind firstArguments =
      NodeFilter.ofArguments kind secondArguments)
    (settings : sshSettings first firstArguments = sshSettings second secondArguments) :
    resolve clusters first firstArguments = resolve clusters second secondArguments := by
  have searches : ∀ searcher : Searcher m,
      search searcher first firstArguments = search searcher second secondArguments := by
    intro searcher
    unfold search ofListings
    rw [filters, settings]
  unfold resolve
  rw [targets]
  simp only [searches]

/-- No resolution reads the settings of the whole session. -/
theorem resolve_global (clusters : Clusters m) (session : Session)
    (global : Option GlobalSettings) (arguments : Attributes) :
    resolve clusters { session with global } arguments = resolve clusters session arguments :=
  resolve_congr clusters rfl rfl rfl

end Inventory

/-! ## What is asked of clusters

Observed clusters note every connection and every query before they pass it on. What a program asks
of clusters is then part of what comes of it, and everything else is as it would be without an
observer (`Inventory.run_resolve`).

Actions run in worlds. A world is whatever the answers of clusters depend on, and every answer may
change it, so that a statement about all worlds is one about all ways in which clusters can behave.
-/

/-- Something that is asked of clusters. -/
inductive Contact where
  | connection (target : KubeTarget)
  | search (query : Query)
  deriving DecidableEq

namespace Contact

/-- The target of a connection. -/
def target? : Contact → Option KubeTarget
  | .connection target => some target
  | .search _ => none

/-- The query of a search. -/
def query? : Contact → Option Query
  | .connection _ => none
  | .search query => some query

end Contact

section Recording

variable {m : Type → Type} [Monad m]

/-- The searcher, with every query noted before it is passed on. -/
def Searcher.recorded (searcher : Searcher m) : Searcher (StateT (List Contact) m) :=
  fun query => do
    modify (· ++ [.search query])
    liftM (searcher query)

/-- The clusters, with every connection and every query noted before it is passed on. -/
def Clusters.recorded (clusters : Clusters m) : Clusters (StateT (List Contact) m) where
  connect target := do
    modify (· ++ [.connection target])
    let outcome ← liftM (clusters.connect target)
    pure (outcome.map Searcher.recorded)

end Recording

/-- What comes of an action in a world. -/
structure Observation (σ α : Type) where
  result : α
  /-- What the action asked of clusters, in order. -/
  contacts : List Contact
  /-- The world that the action leaves. -/
  world : σ

variable {σ : Type}

/-- Runs an observed action in a world, after certain contacts. -/
def observeAfter {α : Type} (contacts : List Contact)
    (action : StateT (List Contact) (StateM σ) α) (world : σ) : Observation σ α :=
  let outcome := (action.run contacts).run world
  ⟨outcome.1.1, outcome.1.2, outcome.2⟩

/-- Runs an observed action in a world. -/
def observe {α : Type} (action : StateT (List Contact) (StateM σ) α) (world : σ) :
    Observation σ α :=
  observeAfter [] action world

/-- Of two actions the second is observed behind the first. -/
theorem observeAfter_bind {α β : Type} (contacts : List Contact)
    (action : StateT (List Contact) (StateM σ) α) (next : α → StateT (List Contact) (StateM σ) β)
    (world : σ) :
    observeAfter contacts (action >>= next) world =
      let first := observeAfter contacts action world
      observeAfter first.contacts (next first.result) first.world := rfl

/-- A connection is noted, whatever comes of it. -/
theorem observeAfter_connect (contacts : List Contact) (clusters : Clusters (StateM σ))
    (target : KubeTarget) (world : σ) :
    observeAfter contacts (clusters.recorded.connect target) world =
      let outcome := (clusters.connect target).run world
      ⟨outcome.1.map Searcher.recorded, contacts ++ [.connection target], outcome.2⟩ := rfl

/-- A search is noted, whatever comes of it. -/
theorem observeAfter_search (contacts : List Contact) (searcher : Searcher (StateM σ))
    (query : Query) (world : σ) :
    observeAfter contacts (Searcher.recorded searcher query) world =
      let outcome := (searcher query).run world
      ⟨outcome.1, contacts ++ [.search query], outcome.2⟩ := rfl

/-- What follows an action runs in the world that the action leaves. -/
theorem run_bind {α β : Type} (action : StateM σ α) (next : α → StateM σ β) (world : σ) :
    (action >>= next).run world = (next (action.run world).1).run (action.run world).2 := rfl

namespace Inventory

/-- What comes of an observed resolution, stage by stage. -/
theorem observe_resolve (clusters : Clusters (StateM σ)) (session : Session)
    (arguments : Attributes) (world : σ) :
    observe (resolve clusters.recorded session arguments) world =
      match target session arguments with
      | .error error => ⟨.error error, [], world⟩
      | .ok target =>
          match (clusters.connect target).run world with
          | (.error cause, next) =>
              ⟨.error (.connectFailed kind cause), [.connection target], next⟩
          | (.ok searcher, next) =>
              match NodeFilter.ofArguments kind arguments with
              | .error error => ⟨.error error, [.connection target], next⟩
              | .ok filter =>
                  let contacts := [.connection target, .search (nodeQuery filter)]
                  match (searcher (nodeQuery filter)).run next with
                  | (.error cause, last) =>
                      ⟨.error (.searchFailed kind "nodes" cause), contacts, last⟩
                  | (.ok listings, last) =>
                      ⟨ofListings session arguments listings, contacts, last⟩ := by
  unfold resolve observe
  cases target session arguments with
  | error error => rfl
  | ok target =>
      simp only [observeAfter_bind, observeAfter_connect, List.nil_append]
      rcases (clusters.connect target).run world with ⟨cause | searcher, next⟩
      · rfl
      · unfold search
        simp only [Except.map]
        cases NodeFilter.ofArguments kind arguments with
        | error error => rfl
        | ok filter =>
            simp only [observeAfter_bind, observeAfter_search]
            rcases (searcher (nodeQuery filter)).run next with ⟨cause | listings, last⟩ <;> rfl

/-- Without an observer a resolution gives the same and leaves the same world. -/
theorem run_resolve (clusters : Clusters (StateM σ)) (session : Session) (arguments : Attributes)
    (world : σ) :
    let observed := observe (resolve clusters.recorded session arguments) world
    (resolve clusters session arguments).run world = (observed.result, observed.world) := by
  unfold resolve observe
  cases target session arguments with
  | error error => rfl
  | ok target =>
      simp only [observeAfter_bind, observeAfter_connect, run_bind]
      rcases (clusters.connect target).run world with ⟨cause | searcher, next⟩
      · rfl
      · unfold search
        simp only [Except.map]
        cases NodeFilter.ofArguments kind arguments with
        | error error => rfl
        | ok filter =>
            simp only [observeAfter_bind, observeAfter_search, run_bind]
            rcases (searcher (nodeQuery filter)).run next with ⟨cause | listings, last⟩ <;> rfl

end Inventory

end ClusterHosts
