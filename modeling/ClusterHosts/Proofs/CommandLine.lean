import ClusterHosts.Proofs.Interchange
import ClusterHosts.Proofs.Merging
import ClusterHosts.Proofs.Readback
import ClusterHosts.Proofs.Resolution

/-! # Command lines as scripts

What a command line asks for, a script can ask for: it stores the target and the settings that are
meant as its defaults, and then resolves an inventory with the search of the command line
(`SavedDefaults.resolves_as_script`).
-/

namespace ClusterHosts

/-! ### Keywords -/

/-- No search is asked for under the same name twice. -/
theorem Invocation.nodup_keywords (invocation : Invocation) :
    (invocation.keywords.map Prod.fst).Nodup := by
  have kept (searches : List (String × List String)) :
      ((searches.filterMap fun search =>
        if search.2.isEmpty then none else some (search.1, Value.ofTexts search.2)).map
          Prod.fst).Sublist
          (searches.map Prod.fst) := by
    induction searches with
    | nil => exact .slnil
    | cons search searches ih =>
        obtain ⟨name, texts⟩ := search
        simp only [List.filterMap_cons]
        by_cases nothing : texts.isEmpty = true
        · rw [if_pos nothing]
          exact ih.cons name
        · rw [if_neg nothing]
          exact ih.cons_cons name
  have distinct : ["names", "nodes", "labels"].Nodup := by decide
  exact distinct.sublist (kept _)

/-- The keywords that name a target stand for it, if scripts can name it. -/
theorem KubeTarget.ofKeywords_keywords {target : KubeTarget} (visible : target.path.IsVisible) :
    Session.Slot.kube.ofKeywords target.keywords = .ok target := by
  rw [Session.Slot.ofKeywords_of_nodup target.nodup_keywords]
  exact Session.Slot.ofAttributes_attributes_iff.2 visible

/-- The keywords of settings stand for them, if scripts can give them. -/
theorem SshSettings.ofKeywords_keywords {settings : SshSettings}
    (named : settings.username ≠ "") :
    Session.Slot.ssh.ofKeywords settings.keywords = .ok settings := by
  rw [Session.Slot.ofKeywords_of_nodup settings.nodup_keywords]
  exact Session.Slot.ofAttributes_attributes_iff.2 named

/-! ### Runs -/

namespace Script

variable {σ : Type} (session : Session) (world : σ)

/-- Calls after others find what those left. -/
theorem run_append (first second : List (Call σ)) :
    run (first ++ second) session world =
      let before := run first session world
      let after := run second before.session before.world
      ⟨before.events ++ after.events, after.session, after.world⟩ := by
  induction first generalizing session world with
  | nil => rfl
  | cons call calls ih =>
      simp only [List.cons_append, run, ih]

/-- The run succeeds in storing settings, asks nothing of clusters and leaves the world as it is. -/
structure Run.Stores (run : Run σ) (session : Session) (world : σ) : Prop where
  session : run.session = session
  world : run.world = world
  contacts : run.contacts = []
  succeeds : ∀ event ∈ run.events, event.outcome.isOk

/-- The call that stores settings, if there are settings to be stored. -/
def storing (clusters : Clusters (StateM σ)) (slot : Session.Slot)
    (keywords : Option (List (String × Value))) : List (Call σ) :=
  keywords.toList.map fun keywords => ⟨clusters, slot.name, keywords⟩

/-- The calls for a setting that may be missing store it if it is there. -/
theorem stores_storing (clusters : Clusters (StateM σ)) (slot : Session.Slot)
    (settings : Option slot.Settings) {keywords : slot.Settings → List (String × Value)}
    (read : ∀ found, settings = some found → slot.ofKeywords (keywords found) = .ok found) :
    (run (storing clusters slot (settings.map keywords)) session world).Stores
      (settings.elim session (session.store slot)) world := by
  cases settings with
  | none => exact ⟨rfl, rfl, rfl, fun event member => absurd member List.not_mem_nil⟩
  | some found =>
      simp only [storing, Option.map_some, Option.toList_some, List.map_cons, List.map_nil, run,
        Call.perform_slot, read found rfl, Session.fill]
      refine ⟨rfl, rfl, rfl, fun event member => ?_⟩
      rw [List.mem_singleton.1 member]
      rfl

variable {session} {world}

/-- What two scripts store, the first script and then the second store together. -/
theorem Run.Stores.append {first second : List (Call σ)} {between after : Session}
    (begins : (run first session world).Stores between world)
    (continues : (run second between world).Stores after world) :
    (run (first ++ second) session world).Stores after world := by
  rw [run_append]
  simp only [begins.session, begins.world]
  refine ⟨continues.session, continues.world, ?_, fun event member => ?_⟩
  · have silent : ((run first session world).events.flatMap Event.contacts) = [] := begins.contacts
    have quiet : ((run second between world).events.flatMap Event.contacts) = [] :=
      continues.contacts
    rw [Run.contacts, List.flatMap_append, silent, quiet, List.append_nil]
  · rcases List.mem_append.1 member with earlier | later
    · exact begins.succeeds event earlier
    · exact continues.succeeds event later

/-- A call of the provider after settings are stored is a resolution with these settings. -/
theorem Run.Stores.append_provider {calls : List (Call σ)} {between : Session}
    (begins : (run calls session world).Stores between world) (clusters : Clusters (StateM σ))
    {keywords : List (String × Value)} {arguments : Attributes}
    (folded : Attributes.ofKeywords Inventory.kind keywords = .ok arguments) :
    let resolved := observe (Inventory.resolve clusters.recorded between arguments) world
    let run := run (calls ++ [⟨clusters, Inventory.kind, keywords⟩]) session world
    run.outcome? = some (resolved.result.map fun inventory => inventory.toAttributes.value) ∧
      run.contacts = resolved.contacts ∧ run.world = resolved.world ∧
      ∀ event ∈ run.events.dropLast, event.outcome.isOk := by
  intro resolved
  have silent : ((run calls session world).events.flatMap Event.contacts) = [] := begins.contacts
  rw [run_append]
  simp only [begins.session, begins.world, run, Call.perform_provider, folded]
  refine ⟨?_, ?_, rfl, ?_⟩
  · rw [Run.outcome?, List.getLast?_append, List.getLast?_singleton]
    rfl
  · rw [Run.contacts, List.flatMap_append, silent, List.nil_append, List.flatMap_singleton]
  · rw [List.dropLast_concat]
    exact begins.succeeds

end Script

/-! ### Command lines -/

namespace SavedDefaults

variable {σ : Type} {saved merged : SavedDefaults} {invocation : Invocation}

/-- The script of a command line: it stores the target and the settings that are meant, as far as
there are any, and resolves an inventory. -/
def script (saved : SavedDefaults) (invocation : Invocation) (fallback : Option SystemText)
    (clusters : Clusters (StateM σ)) : List (Script.Call σ) :=
  Script.storing clusters .kube
      ((saved.effectiveTarget? invocation fallback).map KubeTarget.keywords) ++
    Script.storing clusters .ssh ((saved.effectiveSsh? invocation).map SshSettings.keywords) ++
    [⟨clusters, Inventory.kind, invocation.keywords⟩]

/-- Storing the target and the settings that are meant makes them the defaults. -/
theorem store_effective (fallback : Option SystemText) :
    (saved.effectiveSsh? invocation).elim
        ((saved.effectiveTarget? invocation fallback).elim {} (Session.store {} .kube))
        (((saved.effectiveTarget? invocation fallback).elim {}
          (Session.store {} .kube)).store .ssh) =
      saved.effectiveDefaults invocation fallback := by
  unfold effectiveDefaults
  cases saved.effectiveSsh? invocation <;>
    cases saved.effectiveTarget? invocation fallback <;> rfl

/-- **A command line is a script.** If the user name and the path that are meant can be given by
scripts, which give paths as texts, resolving what a command line asks for gives the same as the
script of the command line in an empty session, and asks the same of clusters; all calls of the
script before the last succeed. If no path is meant, the session has no target, whether a context is
meant or not. -/
theorem resolves_as_script (accepted : saved.override invocation = (.ok (), merged))
    (fallback : Option SystemText) :
    ((∀ user, saved.effectiveUser? invocation = some user → user ≠ "") →
      (∀ path, saved.effectivePath? invocation fallback = some path → path.IsVisible) →
      ∀ (clusters : Clusters (StateM σ)) (world : σ),
        ∃ arguments, Attributes.ofKeywords Inventory.kind invocation.keywords = .ok arguments ∧
          let direct := observe
            (Inventory.resolve clusters.recorded (merged.session fallback) arguments) world
          let scripted := Script.run (saved.script invocation fallback clusters) {} world
          scripted.outcome? =
              some (direct.result.map fun inventory => inventory.toAttributes.value) ∧
            scripted.contacts = direct.contacts ∧ scripted.world = direct.world ∧
            ∀ event ∈ scripted.events.dropLast, event.outcome.isOk) ∧
    (saved.effectivePath? invocation fallback = none → (merged.session fallback).kube = none) := by
  rw [session_of_override accepted]
  constructor
  · intro named visible clusters world
    refine ⟨.ofList invocation.keywords,
      Attributes.ofKeywords_of_nodup _ invocation.nodup_keywords, ?_⟩
    have storesTarget (found : KubeTarget)
        (meant : saved.effectiveTarget? invocation fallback = some found) :
        Session.Slot.kube.ofKeywords found.keywords = .ok found := by
      obtain ⟨path, located, rfl⟩ := Option.map_eq_some_iff.1 meant
      exact KubeTarget.ofKeywords_keywords (visible path located)
    have storesSettings (found : SshSettings)
        (meant : saved.effectiveSsh? invocation = some found) :
        Session.Slot.ssh.ofKeywords found.keywords = .ok found := by
      obtain ⟨user, known, rfl⟩ := Option.map_eq_some_iff.1 meant
      exact SshSettings.ofKeywords_keywords (named user known)
    have stored : (Script.run
        (Script.storing clusters .kube
            ((saved.effectiveTarget? invocation fallback).map KubeTarget.keywords) ++
          Script.storing clusters .ssh ((saved.effectiveSsh? invocation).map SshSettings.keywords))
        {} world).Stores
          (saved.effectiveDefaults invocation fallback) world := by
      rw [← store_effective fallback]
      exact (Script.stores_storing {} world clusters .kube _ storesTarget).append
        (Script.stores_storing _ world clusters .ssh _ storesSettings)
    have folded := Attributes.ofKeywords_of_nodup Inventory.kind invocation.nodup_keywords
    rw [Inventory.resolve_global]
    exact stored.append_provider clusters folded
  · intro missing
    change saved.effectiveTarget? invocation fallback = none
    rw [effectiveTarget?, missing, Option.map_none]

/-- A saved user name and context, a port and a name from the command line, and a path that is used
if none is configured. Without that path the context is no target. -/
theorem resolves_as_script_with_saved_user :
    let saved : SavedDefaults :=
      { clusterContext := some "dev", ssh := some { username := "core" } }
    let invocation : Invocation := { sshPort := some 2222, names := ["a"] }
    let merged : SavedDefaults := { saved with ssh := some { username := "core", port := 2222 } }
    let path := SystemText.ofText "/kube"
    let target : KubeTarget := ⟨path, some "dev"⟩
    let scripted := Script.run (saved.script invocation (some path) Script.vacant) {} 0
    saved.override invocation = (.ok (), merged) ∧
      saved.effectiveUser? invocation = some "core" ∧
      saved.effectivePath? invocation (some path) = some path ∧
      (merged.session (some path)).kube = some target ∧
      (∃ arguments, Attributes.ofKeywords Inventory.kind invocation.keywords = .ok arguments ∧
        let direct := observe
          (Inventory.resolve Script.vacant.recorded (merged.session (some path)) arguments) 0
        direct.result = .ok ⟨[], { username := "core", port := 2222 }⟩ ∧
          scripted.outcome? =
            some (direct.result.map fun inventory => inventory.toAttributes.value) ∧
          scripted.contacts = direct.contacts ∧ scripted.world = direct.world) ∧
      scripted.contacts.filterMap Contact.target? = [target] ∧ scripted.world = 1 ∧
      saved.effectivePath? invocation none = none ∧ (merged.session none).kube = none := by
  intro saved invocation merged path target scripted
  have accepted : saved.override invocation = (.ok (), merged) := rfl
  have named (user : String) (meant : saved.effectiveUser? invocation = some user) : user ≠ "" :=
    Option.some.inj meant ▸ by decide
  have visible (other : SystemText)
      (meant : saved.effectivePath? invocation (some path) = some other) : other.IsVisible :=
    Option.some.inj meant ▸ ⟨"/kube", rfl, by decide⟩
  obtain ⟨arguments, folded, outcome, contacts, world, _⟩ :=
    (resolves_as_script accepted (some path)).1 named visible Script.vacant 0
  have connected : scripted.contacts.filterMap Contact.target? = [target] := by decide
  have searched : scripted.world = 1 := by decide
  refine ⟨accepted, rfl, rfl, rfl, ⟨arguments, folded, ?_, outcome, contacts, world⟩, connected,
    searched, rfl, (@resolves_as_script Nat _ _ _ accepted none).2 rfl⟩
  cases Attributes.eq_ofList_of_ofKeywords folded
  rfl

end SavedDefaults

end ClusterHosts
