import ClusterHosts.Proofs.Resolution
import ClusterHosts.Proofs.Paging
import ClusterHosts.Proofs.Untouched

/-! # The context that is meant is the one that is reached

A target names a context, or else the kubeconfig file does. If the file lists the context,
connecting binds the searches to the server that it leads to; otherwise connecting fails, and so
does every resolution that is to reach the target. Files are read on the way, but no server is
asked (`Kubeconfig.Attempt.reaches_selected_context_only`).
-/

namespace ClusterHosts

variable {σ ν : Type}

namespace Kubeconfig

/-! ### The choice of a context -/

/-- The context that a target selects: its own if it has one, whatever its name, and otherwise the
current one of the file. -/
inductive Selects (config : Kubeconfig) (target : KubeTarget) (context : String) : Prop where
  | given (names : target.clusterContext = some context) : Selects config target context
  | current (nameless : target.clusterContext = none)
      (names : config.currentContext = some context) : Selects config target context

/-- A context is listed if an entry has its name. -/
def Lists (config : Kubeconfig) (context : String) : Prop :=
  ∃ entry ∈ config.contexts, entry.name = context

/-- Why a target is refused: it selects no context, or one that is not listed. -/
inductive Refuses (config : Kubeconfig) (target : KubeTarget) : ConnectError → Prop where
  | unselected (selectsNone : ∀ context, ¬ config.Selects target context) :
      Refuses config target (.noContext target.path)
  | unlisted {context : String} (selects : config.Selects target context)
      (absent : ¬ config.Lists context) :
      Refuses config target (.unlistedContext context target.path)

variable {config : Kubeconfig} {target : KubeTarget} {context : String}

/-- A target selects its own context, or else the current one. -/
theorem selects_iff :
    config.Selects target context ↔
      target.clusterContext.or config.currentContext = some context := by
  constructor
  · intro selects
    cases selects with
    | given names => rw [names, Option.some_or]
    | current nameless names => rw [nameless, Option.none_or, names]
  · intro names
    cases given : target.clusterContext with
    | none =>
        rw [given, Option.none_or] at names
        exact .current given names
    | some own =>
        rw [given, Option.some_or] at names
        exact .given (given.trans names)

theorem any_name_iff :
    (config.contexts.any fun entry => entry.name == context) = true ↔ config.Lists context := by
  simp only [List.any_eq_true, beq_iff_eq, Lists]

/-- A context that is selected and listed is the one that is taken. -/
theorem selectContext_of_lists (selects : config.Selects target context)
    (lists : config.Lists context) : config.selectContext target = .ok context := by
  rw [selectContext, selects_iff.1 selects]
  simp only
  rw [if_pos (any_name_iff.2 lists)]

theorem Refuses.selectContext_eq {cause : ConnectError} (refuses : config.Refuses target cause) :
    config.selectContext target = .error cause := by
  cases refuses with
  | unselected selectsNone =>
      have nothing : target.clusterContext.or config.currentContext = none := by
        rw [Option.eq_none_iff_forall_ne_some]
        exact fun context names => selectsNone context (selects_iff.2 names)
      rw [selectContext, nothing]
  | unlisted selects absent =>
      rw [selectContext, selects_iff.1 selects]
      simp only
      rw [if_neg fun listed => absent (any_name_iff.1 listed)]

/-- What connecting makes of a target: it is refused, or it selects a context that is listed. -/
theorem refuses_or_selects (config : Kubeconfig) (target : KubeTarget) :
    (∃ cause, config.Refuses target cause) ∨
      ∃ context, config.Selects target context ∧ config.Lists context := by
  by_cases selected : ∃ context, config.Selects target context
  · obtain ⟨context, selects⟩ := selected
    by_cases lists : config.Lists context
    · exact .inr ⟨context, selects, lists⟩
    · exact .inl ⟨_, .unlisted selects lists⟩
  · exact .inl ⟨_, .unselected fun context selects => selected ⟨context, selects⟩⟩

/-! ### Files beside the kubeconfig file -/

section

variable {files : Files (StateM σ)} {view : σ → ν}
  (keeps : ∀ path, Keeps view (files.read path))

include keeps

/-- Reading a kubeconfig file touches nothing that reading files does not touch. -/
theorem read_keeps (path : SystemText) : Keeps view (read files path) := by
  refine (keeps path).bind fun world => ?_
  split <;> exact .pure _

theorem readBeside_keeps (kubeconfig : SystemText) (path : String) :
    Keeps view (readBeside files kubeconfig path) := by
  refine (keeps _).bind fun world => ?_
  split <;> exact .pure _

theorem loadBytes_keeps (kubeconfig : SystemText) (data path : Option String) :
    Keeps view (loadBytes files kubeconfig data path) := by
  unfold loadBytes
  split
  · exact .pure _
  · exact (readBeside_keeps keeps _ _).bind fun world => .pure _
  · exact .pure _

theorem loadAuthority_keeps (kubeconfig : SystemText) (cluster : ClusterEntry) :
    Keeps view (loadAuthority files kubeconfig cluster) := by
  unfold loadAuthority
  split
  · exact .pure _
  · refine (loadBytes_keeps keeps _ _ _).bind fun world => ?_
    split <;> exact .pure _

/-- Finding the address of a context touches nothing but files. -/
theorem endpoint_keeps (path : SystemText) (context : String) (config : Kubeconfig) :
    Keeps view (endpoint files path context config) := by
  unfold endpoint
  split
  · exact .pure _
  · split
    · exact .pure _
    · refine (loadAuthority_keeps keeps _ _).bind fun world => ?_
      split
      · exact .pure _
      · split <;> exact .pure _

theorem authorization_keeps (now : Int) (kubeconfig : SystemText) (user : UserEntry) :
    Keeps view (authorization files now kubeconfig user) := by
  unfold authorization
  split
  · exact .pure _
  · split
    · exact .pure _
    · split
      · exact .pure _
      · exact (readBeside_keeps keeps _ _).bind fun world => .pure _
      · exact .pure _

theorem canIdentify_keeps (kubeconfig : SystemText) (user : UserEntry) :
    Keeps view (canIdentify files kubeconfig user) := by
  refine (loadBytes_keeps keeps _ _ _).bind fun world => ?_
  refine (loadBytes_keeps keeps _ _ _).bind fun next => ?_
  split <;> exact .pure _

theorem authorize_keeps (now : Int) (path : SystemText) (endpoint : Endpoint) (user : UserEntry) :
    Keeps view (authorize files now path endpoint user) :=
  (authorization_keeps keeps _ _ _).bind fun _ =>
    (canIdentify_keeps keeps _ _).bind fun _ => .pure _

theorem bind_keeps (now : Int) (path : SystemText) (context : String) (config : Kubeconfig) :
    Keeps view (bind files now path context config) := by
  refine (endpoint_keeps keeps _ _ _).bind fun world => ?_
  split
  · exact .pure _
  · refine (authorize_keeps keeps _ _ _ _).bind fun next => ?_
    split <;> exact .pure _

/-- Connecting to a target touches nothing but files. -/
theorem connect_keeps (now : Int) (target : KubeTarget) :
    Keeps view (connect files now target) := by
  refine (read_keeps keeps _).bind fun world => ?_
  split
  · exact .pure _
  · split
    · exact .pure _
    · exact bind_keeps keeps _ _ _ _

end

/-! ### The server of a context -/

/-- An entry is the first that has a name. -/
def IsFirst {α : Type} (entries : List (Named α)) (name : String) (entry : Named α) : Prop :=
  entry.name = name ∧ ∃ before after, entries = before ++ entry :: after ∧
    ∀ other ∈ before, other.name ≠ name

/-- What is found under a name is what the first entry of the name has. -/
theorem find?_eq_some_iff {α : Type} {entries : List (Named α)} {name : String} {body : α} :
    Named.find? entries name = some body ↔
      ∃ entry, IsFirst entries name entry ∧ entry.body = some body := by
  simp only [Named.find?, Option.bind_eq_some_iff, List.find?_eq_some_iff_append, beq_iff_eq,
    Bool.not_eq_true', beq_eq_false_iff_ne, IsFirst]

/-- The cluster of a context: the first context of the name names it, and it is the first cluster of
the name that is given there. -/
def HasCluster (config : Kubeconfig) (context : String) (cluster : ClusterEntry) : Prop :=
  ∃ entry body, IsFirst config.contexts context entry ∧ entry.body = some body ∧
    ∃ named, IsFirst config.clusters body.cluster named ∧ named.body = some cluster

/-- The user that a context names: the first context of the name names it, and it is the first user
of the name that is given there. -/
def NamesUser (config : Kubeconfig) (context : String) (user : UserEntry) : Prop :=
  ∃ entry body name, IsFirst config.contexts context entry ∧ entry.body = some body ∧
    body.user = some name ∧ ∃ named, IsFirst config.users name named ∧ named.body = some user

/-- The user of a context: the one that it names, or one that has nothing to show. -/
inductive HasUser (config : Kubeconfig) (context : String) : UserEntry → Prop where
  | named {user : UserEntry} (names : config.NamesUser context user) : HasUser config context user
  | nameless (namesNone : ∀ user, ¬ config.NamesUser context user) : HasUser config context {}

/-- What is taken for the cluster of a context is its cluster. -/
theorem cluster?_eq_some_iff {cluster : ClusterEntry} :
    config.cluster? context = some cluster ↔ config.HasCluster context cluster := by
  unfold cluster?
  rw [HasCluster, Option.bind_eq_bind, Option.bind_eq_some_iff]
  simp only [find?_eq_some_iff]
  constructor
  · rintro ⟨body, ⟨entry, first, bodyOf⟩, found⟩
    exact ⟨entry, body, first, bodyOf, found⟩
  · rintro ⟨entry, body, first, bodyOf, found⟩
    exact ⟨body, ⟨entry, first, bodyOf⟩, found⟩

/-- The user that is found under the name in a context is the user that the context names. -/
theorem bind_find?_eq_some_iff {user : UserEntry} :
    ((Named.find? config.contexts context).bind ContextEntry.user).bind
      (Named.find? config.users) = some user ↔ config.NamesUser context user := by
  simp only [Option.bind_eq_some_iff, find?_eq_some_iff, NamesUser]
  constructor
  · rintro ⟨name, ⟨body, ⟨entry, first, bodyOf⟩, names⟩, found⟩
    exact ⟨entry, body, name, first, bodyOf, names, found⟩
  · rintro ⟨entry, body, name, first, bodyOf, names, found⟩
    exact ⟨name, ⟨body, ⟨entry, first, bodyOf⟩, names⟩, found⟩

/-- What is taken for the user of a context is its user. -/
theorem user_eq_iff {user : UserEntry} :
    config.user context = user ↔ config.HasUser context user := by
  have same : config.user context =
      (((Named.find? config.contexts context).bind ContextEntry.user).bind
        (Named.find? config.users)).getD {} := by
    unfold Kubeconfig.user
    cases (Named.find? config.contexts context).bind ContextEntry.user <;> rfl
  rw [same]
  constructor
  · rintro rfl
    cases found : ((Named.find? config.contexts context).bind ContextEntry.user).bind
        (Named.find? config.users) with
    | some user => exact .named (bind_find?_eq_some_iff.1 found)
    | none =>
        refine .nameless fun user names => ?_
        rw [bind_find?_eq_some_iff.2 names] at found
        cases found
  · intro has
    cases has with
    | named names => rw [bind_find?_eq_some_iff.2 names, Option.getD_some]
    | nameless namesNone =>
        have nothing := Option.eq_none_iff_forall_ne_some.2 fun user found =>
          namesNone user (bind_find?_eq_some_iff.1 found)
        rw [nothing, Option.getD_none]

/-- A context leads to a server: the address is that of its cluster, and requests are made as its
user, at a time in seconds. -/
structure LeadsTo (config : Kubeconfig) (files : Files (StateM σ)) (now : Int)
    (path : SystemText) (context : String) (server : ApiServer) : Prop where
  context_eq : server.context = context
  address_eq : ∃ cluster, config.HasCluster context cluster ∧
    cluster.server.bind ServerAddress.parse? = some server.address
  authorization_eq : ∃ user, config.HasUser context user ∧ ∃ world,
    ((authorization files now path user).run world).1 = some server.authorization

section

variable {files : Files (StateM σ)} {now : Int} {path : SystemText} {world : σ}

/-- The address that is found for a context is that of its cluster. -/
theorem address_of_endpoint {found : Endpoint}
    (gives : ((endpoint files path context config).run world).1 = some found) :
    ∃ cluster, config.HasCluster context cluster ∧
      cluster.server.bind ServerAddress.parse? = some found.address := by
  unfold endpoint at gives
  split at gives
  · cases gives
  · next cluster listed =>
      split at gives
      · cases gives
      · next address parsed =>
          rw [run_bind] at gives
          split at gives
          · cases gives
          · split at gives
            · obtain rfl := Option.some.inj gives
              exact ⟨cluster, cluster?_eq_some_iff.1 listed, parsed⟩
            · cases gives

/-- What a user may show is what the user has to show. -/
theorem authorization_of_authorize {endpoint : Endpoint} {user : UserEntry}
    {authorization : Authorization}
    (gives : ((authorize files now path endpoint user).run world).1 = some authorization) :
    ((Kubeconfig.authorization files now path user).run world).1 = some authorization := by
  rw [authorize, run_bind, run_bind] at gives
  change (if _ then _ else none) = _ at gives
  split at gives
  · exact gives
  · cases gives

/-- The server that a context is bound to is the one that it leads to. -/
theorem leadsTo_of_bind {server : ApiServer}
    (gives : ((bind files now path context config).run world).1 = .ok server) :
    config.LeadsTo files now path context server := by
  rw [bind, run_bind] at gives
  cases found : ((endpoint files path context config).run world).1 with
  | none =>
      rw [found] at gives
      cases gives
  | some endpoint =>
      simp only [found, run_bind] at gives
      split at gives
      · next authorization authorized =>
          obtain rfl := Except.ok.inj gives
          exact ⟨rfl, address_of_endpoint found,
            ⟨_, user_eq_iff.1 rfl, _, authorization_of_authorize authorized⟩⟩
      · cases gives

end

/-! ### Connecting -/

/-- An attempt to reach a target whose kubeconfig file can be read. -/
structure Attempt (σ : Type) where
  files : Files (StateM σ)
  clock : StateM σ Int
  target : KubeTarget
  world : σ
  config : Kubeconfig
  /-- The world in which the file has been read. -/
  opened : σ
  reads : (read files target.path).run (clock.run world).2 = (some config, opened)

namespace Attempt

variable (attempt : Attempt σ) (http : Http (StateM σ))

/-- The clusters that the files lead to. -/
def clusters : Clusters (StateM σ) := .ofFiles attempt.files http attempt.clock

/-- The time of the attempt. -/
def now : Int := (attempt.clock.run attempt.world).1

/-- What comes of the attempt, and the world that it leaves. -/
def outcome : Except String (Searcher (StateM σ)) × σ :=
  ((attempt.clusters http).connect attempt.target).run attempt.world

/-- What comes of an attempt is decided by the context, and then by its server. -/
theorem outcome_eq :
    attempt.outcome http =
      match attempt.config.selectContext attempt.target with
      | .error cause => (.error cause.message, attempt.opened)
      | .ok context =>
          let bound := (bind attempt.files attempt.now attempt.target.path context
            attempt.config).run attempt.opened
          match bound.1 with
          | .error cause => (.error cause.message, bound.2)
          | .ok server => (.ok (server.searcher http), bound.2) := by
  simp only [outcome, clusters, Clusters.ofFiles, run_bind, connect, attempt.reads, now]
  cases attempt.config.selectContext attempt.target with
  | error cause => rfl
  | ok context =>
      simp only
      rcases (bind attempt.files (attempt.clock.run attempt.world).1 attempt.target.path context
        attempt.config).run attempt.opened with ⟨cause | server, after⟩
      · rfl
      · rfl

theorem outcome_of_refuses {cause : ConnectError}
    (refuses : attempt.config.Refuses attempt.target cause) :
    attempt.outcome http = (.error cause.message, attempt.opened) := by
  rw [outcome_eq, refuses.selectContext_eq]

/-- An attempt that succeeds reaches the server of the context that is selected. -/
theorem leadsTo_of_outcome {searcher : Searcher (StateM σ)}
    (connects : (attempt.outcome http).1 = .ok searcher) :
    ∃ context server, attempt.config.Selects attempt.target context ∧
      attempt.config.Lists context ∧
      attempt.config.LeadsTo attempt.files attempt.now attempt.target.path context server ∧
      searcher = server.searcher http := by
  rcases refuses_or_selects attempt.config attempt.target with
    ⟨cause, refuses⟩ | ⟨context, selects, lists⟩
  · rw [attempt.outcome_of_refuses http refuses] at connects
    cases connects
  · rw [outcome_eq, selectContext_of_lists selects lists] at connects
    simp only at connects
    split at connects
    · cases connects
    · next server bound =>
        obtain rfl := Except.ok.inj connects
        exact ⟨context, server, selects, lists, leadsTo_of_bind bound, rfl⟩

/-- **Only the selected context is reached.** Connecting succeeds only if the target selects a
context that the file lists. Searches are then bound to the server that this context leads to, and
how any other server would answer does not matter. If no context is selected or the selected one is
not listed, connecting fails when the file has been read, whatever servers there are. It never asks
one: what the clock and the reading of files leave untouched is left untouched. A resolution that
is to reach such a target ends with the failed connection, and nothing is searched. -/
theorem reaches_selected_context_only :
    (∀ searcher, (attempt.outcome http).1 = .ok searcher →
      ∃ context server, attempt.config.Selects attempt.target context ∧
        attempt.config.Lists context ∧
        attempt.config.LeadsTo attempt.files attempt.now attempt.target.path context server ∧
        searcher = server.searcher http ∧
        ∀ other, Http.AgreeAt server.address other http → server.searcher other = searcher) ∧
    (∀ cause, attempt.config.Refuses attempt.target cause →
      attempt.outcome http = (.error cause.message, attempt.opened)) ∧
    (∀ {ν : Type} (view : σ → ν), Keeps view attempt.clock →
      (∀ path, Keeps view (attempt.files.read path)) →
      view (attempt.outcome http).2 = view attempt.world) ∧
    ∀ session arguments, Inventory.target session arguments = .ok attempt.target →
      ∀ cause, attempt.config.Refuses attempt.target cause →
        observe (Inventory.resolve (attempt.clusters http).recorded session arguments)
          attempt.world =
          ⟨.error (.connectFailed Inventory.kind cause.message), [.connection attempt.target],
            attempt.opened⟩ := by
  refine ⟨?_, ?_, ?_, ?_⟩
  · intro searcher connects
    obtain ⟨context, server, selects, lists, leads, rfl⟩ := attempt.leadsTo_of_outcome http connects
    exact ⟨context, server, selects, lists, leads, rfl,
      fun other agree => server.searcher_congr agree⟩
  · exact fun cause refuses => attempt.outcome_of_refuses http refuses
  · intro ν view clock read
    have connects : Keeps view ((attempt.clusters http).connect attempt.target) := by
      refine clock.bind fun world => (connect_keeps read _ _).bind fun next => ?_
      split <;> exact .pure _
    exact connects attempt.world
  · intro session arguments names cause refuses
    have refused := attempt.outcome_of_refuses http refuses
    rw [outcome] at refused
    rw [Inventory.observe_resolve, names]
    simp only [refused]

end Attempt

/-! ### A file whose current context is not listed -/

/-- The lines of a kubeconfig file with two contexts, neither of which is the current one. -/
def danglingLines : List String := [
  "clusters:", "- name: here", "  cluster:", "    server: https://here",
  "- name: there", "  cluster:", "    server: https://there",
  "users:", "- name: ann", "  user:", "    token: one",
  "- name: bob", "  user:", "    token: two",
  "contexts:", "- name: dev", "  context:", "    cluster: here", "    user: ann",
  "- name: prod", "  context:", "    cluster: there", "    user: bob",
  "current-context: gone"]

/-- The content of the file. -/
def danglingText : String := String.join (danglingLines.map (· ++ "\n"))

/-- What this file says. -/
def danglingConfig : Kubeconfig where
  clusters := [
    ⟨"here", some { server := some "https://here" }⟩,
    ⟨"there", some { server := some "https://there" }⟩]
  users := [⟨"ann", some { token := some "one" }⟩, ⟨"bob", some { token := some "two" }⟩]
  contexts := [⟨"dev", some ⟨"here", some "ann"⟩⟩, ⟨"prod", some ⟨"there", some "bob"⟩⟩]
  currentContext := some "gone"

/-- A text without quotes. -/
def plainNode (text : String) : Yaml.Node := .scalar {} true text

/-- An entry of a list of named things, with the texts in its body. -/
def namedNode (name bodyName : String) (body : List (String × String)) : Yaml.Node :=
  .mapping {} [(plainNode "name", plainNode name),
    (plainNode bodyName, .mapping {} (body.map (·.map plainNode plainNode)))]

/-- The parts of the file. -/
def danglingNode : Yaml.Node := .mapping {} [
  (plainNode "clusters", .sequence {} [
    namedNode "here" "cluster" [("server", "https://here")],
    namedNode "there" "cluster" [("server", "https://there")]]),
  (plainNode "users", .sequence {} [
    namedNode "ann" "user" [("token", "one")], namedNode "bob" "user" [("token", "two")]]),
  (plainNode "contexts", .sequence {} [
    namedNode "dev" "context" [("cluster", "here"), ("user", "ann")],
    namedNode "prod" "context" [("cluster", "there"), ("user", "bob")]]),
  (plainNode "current-context", plainNode "gone")]

/-- The value of an entry of a list of named things. -/
def namedData (name bodyName : String) (body : List (String × String)) : Yaml.Data :=
  .mapping [(.text "name", .text name),
    (.text bodyName, .mapping (body.map (·.map .text .text)))]

/-- The value of the file. -/
def danglingData : Yaml.Data := .mapping [
  (.text "clusters", .sequence [
    namedData "here" "cluster" [("server", "https://here")],
    namedData "there" "cluster" [("server", "https://there")]]),
  (.text "users", .sequence [
    namedData "ann" "user" [("token", "one")], namedData "bob" "user" [("token", "two")]]),
  (.text "contexts", .sequence [
    namedData "dev" "context" [("cluster", "here"), ("user", "ann")],
    namedData "prod" "context" [("cluster", "there"), ("user", "bob")]]),
  (.text "current-context", .text "gone")]

/-- The file has its lines one after the other. -/
theorem toList_danglingText :
    danglingText.toList = danglingLines.flatMap fun line => line.toList ++ ['\n'] := by
  simp only [danglingText, String.toList_join, List.flatMap_map, String.toList_append]
  rfl

theorem ofDocument?_danglingNode : Yaml.Data.ofDocument? danglingNode = some danglingData := by
  simp only [danglingNode, namedNode, plainNode, List.map_cons, List.map_nil, Prod.map,
    Yaml.Data.ofDocument?, Yaml.Data.ofNode, Yaml.Data.ofItems, Yaml.Data.ofEntries,
    Yaml.maximalDepth]
  rfl

/-- The file says what was written. -/
theorem ofBytes?_danglingText : ofBytes? danglingText.toUTF8 = some danglingConfig := by
  have text : Text.ofMarkedBytes? danglingText.toUTF8 = some danglingText := by decide +kernel
  have allowed : (Yaml.dropMark danglingText.toList).all Yaml.isAllowed = true := by
    rw [toList_danglingText]
    decide +kernel
  have nodes : (Yaml.tokens? (Yaml.normalizeBreaks (Yaml.dropMark danglingText.toList))).bind
      Yaml.Node.ofTokens? = some [danglingNode] := by
    rw [toList_danglingText]
    decide +kernel
  have config : ofDocuments? [danglingData] = some danglingConfig := by decide +kernel
  obtain ⟨tokens, scanned, parsed⟩ := Option.bind_eq_some_iff.1 nodes
  have documents : Yaml.documents? danglingText = some [danglingData] := by
    simp only [Yaml.documents?, allowed, scanned]
    change (Yaml.Node.ofTokens? tokens).bind _ = _
    rw [parsed]
    simp [ofDocument?_danglingNode]
  rw [ofBytes?, text, Option.bind_eq_bind, Option.bind_some, documents]
  exact config

/-- An attempt to reach a context of this file, on a computer that has no other file. -/
def danglingAttempt (context : Option String) : Attempt Unit where
  files := {
    isPresent := fun _ => pure true
    isDirectory := fun _ => pure false
    read := fun _ => pure (.ok danglingText.toUTF8)
    createDirectory := fun _ => pure (.error .alreadyPresent)
    replace := fun _ _ => pure (.error (.notMoved .busy))
    openLog := fun _ => pure (.error .busy) }
  clock := pure 0
  target := ⟨.ofText "/kube", context⟩
  world := ()
  config := danglingConfig
  opened := ()
  reads := by
    change (ofBytes? danglingText.toUTF8, ()) = _
    rw [ofBytes?_danglingText]

/-- Servers that do not answer. -/
def silentServers : Http (StateM Unit) where
  get _ _ := pure (.error "offline")

/-- Of the two contexts of the file the one that is given is reached, with the address of its own
cluster and the token of its own user. Neither the current context nor another one that is given is
reached, be its name empty. -/
theorem reaches_selected_context_only_of_dangling :
    (∃ server : ApiServer, server.address = ⟨some "https", "there", ""⟩ ∧
      server.authorization = .token "two" ∧
      ((danglingAttempt (some "prod")).outcome silentServers).1 =
        .ok (server.searcher silentServers)) ∧
    (danglingAttempt none).outcome silentServers =
      (.error "Context 'gone' not found in /kube", ()) ∧
    observe (Inventory.resolve ((danglingAttempt (some "")).clusters silentServers).recorded
        { kube := some ⟨.ofText "/kube", some ""⟩ } .empty) () =
      ⟨.error (.connectFailed Inventory.kind "Context '' not found in /kube"),
        [.connection ⟨.ofText "/kube", some ""⟩], ()⟩ := by
  have unlisted {context : String} (others : context ∉ ["dev", "prod"]) :
      ¬ danglingConfig.Lists context := by
    rintro ⟨entry, member, named⟩
    exact others (named ▸ List.mem_map_of_mem member)
  refine ⟨?_, ?_, ?_⟩
  · obtain ⟨reached, _⟩ :=
      (danglingAttempt (some "prod")).reaches_selected_context_only silentServers
    have selected : (danglingAttempt (some "prod")).config.selectContext
        (danglingAttempt (some "prod")).target = .ok "prod" :=
      selectContext_of_lists (.given rfl) ⟨_, List.mem_cons_of_mem _ List.mem_cons_self, rfl⟩
    have address : ServerAddress.parse? "https://there" = some ⟨some "https", "there", ""⟩ := by
      decide +kernel
    have connects : ∃ searcher,
        ((danglingAttempt (some "prod")).outcome silentServers).1 = .ok searcher := by
      rw [Attempt.outcome_eq, selected]
      exact ⟨_, rfl⟩
    obtain ⟨searcher, connects⟩ := connects
    obtain ⟨context, server, selects, _, leads, rfl, _⟩ := reached searcher connects
    obtain ⟨cluster, hasCluster, parsed⟩ := leads.address_eq
    obtain ⟨user, hasUser, _, authorized⟩ := leads.authorization_eq
    cases selects with
    | current nameless _ => cases nameless
    | given names =>
        obtain rfl := Option.some.inj names
        -- The entries of the context are found by their names.
        obtain rfl := Option.some.inj (cluster?_eq_some_iff.2 hasCluster)
        obtain rfl := user_eq_iff.2 hasUser
        exact ⟨server, Option.some.inj (parsed.symm.trans address),
          (Option.some.inj authorized).symm, connects⟩
  · obtain ⟨_, refused, _⟩ := (danglingAttempt none).reaches_selected_context_only silentServers
    exact refused _ (.unlisted (.current rfl rfl) (unlisted (by decide)))
  · obtain ⟨_, _, _, ends⟩ :=
      (danglingAttempt (some "")).reaches_selected_context_only silentServers
    exact ends { kube := some ⟨.ofText "/kube", some ""⟩ } .empty rfl _
      (.unlisted (.given rfl) (unlisted (by decide)))

end Kubeconfig

end ClusterHosts
