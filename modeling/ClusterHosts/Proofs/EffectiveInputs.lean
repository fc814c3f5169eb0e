import ClusterHosts.Proofs.Contact
import ClusterHosts.Proofs.Interchange
import ClusterHosts.Proofs.Resolution

/-! # What counts for a resolution

Four things count for a resolution: what is given for the target and for the settings, be it by an
argument or by a default, and the values that select names and labels. Two resolutions that agree in
these have the same outcome and ask the same of clusters, except that each complains about names
under the key that it was given them by (`Inventory.Resolution.only_effective_inputs_count`).
-/

namespace ClusterHosts

/-- The same is found under some names. -/
def Attributes.AgreeOn (first second : Attributes) (names : List String) : Prop :=
  ∀ name ∈ names, first.get? name = second.get? name

/-- What agrees on names agrees on fewer names. -/
theorem Attributes.AgreeOn.mono {first second : Attributes} {names fewer : List String}
    (agree : first.AgreeOn second names) (included : fewer ⊆ names) :
    first.AgreeOn second fewer :=
  fun name member => agree name (included member)

/-! ### Filters -/

/-- A value is read as a set under every key, or refused under every key for the same reason. -/
theorem TextSet.ofValue_of_keys (function key other : String) (value : Value) :
    (∃ set, ofValue function key value = .ok set ∧ ofValue function other value = .ok set) ∨
      ∃ complaint, ofValue function key value = .error (.badArgument function key complaint) ∧
        ofValue function other value = .error (.badArgument function other complaint) := by
  cases value with
  | none => exact .inl ⟨_, rfl, rfl⟩
  | string text => exact .inl ⟨_, rfl, rfl⟩
  | list values =>
      simp only [ofValue]
      cases texts? values with
      | ok texts => exact .inl ⟨_, rfl, rfl⟩
      | error found => exact .inr ⟨_, rfl, rfl⟩
  | bool value => exact .inr ⟨_, rfl, rfl⟩
  | int value => exact .inr ⟨_, rfl, rfl⟩
  | struct attributes => exact .inr ⟨_, rfl, rfl⟩

/-- `None` is read as nothing. -/
theorem TextSet.ofValue?_filter (function key : String) (value : Option Value) :
    ofValue? function key value =
      ofValue? function key (value.filter fun value => !value.isNone) := by
  cases value with
  | none => rfl
  | some value => cases value <;> rfl

namespace Inventory

/-- The value that selects names: the one under `nodes`, or else the one under `names`. -/
def selection? (arguments : Attributes) : Option Value :=
  ((arguments.get? "nodes").or (arguments.get? "names")).filter fun value => !value.isNone

/-- What is given under `nodes` hides what is given under `names`. -/
theorem get?_namesKey (arguments : Attributes) :
    arguments.get? (NodeFilter.namesKey arguments) =
      (arguments.get? "nodes").or (arguments.get? "names") := by
  unfold NodeFilter.namesKey Attributes.contains
  cases found : arguments.get? "nodes" with
  | none => simp
  | some value => simp [found]

/-- The filter of a selection and labels, where complaints about the names are under a key. -/
theorem ofArguments_eq (arguments : Attributes) :
    NodeFilter.ofArguments kind arguments = (do
      let names ← TextSet.ofValue? kind (NodeFilter.namesKey arguments) (selection? arguments)
      let labels ← TextSet.ofValue? kind "labels" (arguments.getSome? "labels")
      pure ⟨names, labels⟩) := by
  rw [NodeFilter.ofArguments, get?_namesKey, TextSet.ofValue?_filter,
    TextSet.ofValue?_filter kind "labels"]
  rfl

variable {first second : Attributes}

/-- Under which name the nodes are given depends on `nodes` alone. -/
theorem namesKey_congr (nodes : first.get? "nodes" = second.get? "nodes") :
    NodeFilter.namesKey first = NodeFilter.namesKey second := by
  rw [NodeFilter.namesKey, NodeFilter.namesKey, Attributes.contains, Attributes.contains, nodes]

/-- Arguments that select the same are read as the same filter, or the names are refused, by each
under its own key. -/
theorem ofArguments_of_selection (selections : selection? first = selection? second)
    (labels : first.getSome? "labels" = second.getSome? "labels") :
    NodeFilter.ofArguments kind first = NodeFilter.ofArguments kind second ∨
      NodeFilter.namesKey first ≠ NodeFilter.namesKey second ∧
      (selection? first).isSome ∧ ∃ complaint,
        NodeFilter.ofArguments kind first =
            .error (.badArgument kind (NodeFilter.namesKey first) complaint) ∧
          NodeFilter.ofArguments kind second =
            .error (.badArgument kind (NodeFilter.namesKey second) complaint) := by
  simp only [ofArguments_eq, labels, ← selections]
  by_cases keys : NodeFilter.namesKey first = NodeFilter.namesKey second
  · exact .inl (by rw [keys])
  · cases selected : selection? first with
    | none => exact .inl rfl
    | some value =>
        rcases TextSet.ofValue_of_keys kind (NodeFilter.namesKey first)
          (NodeFilter.namesKey second) value with ⟨set, read, alike⟩ | ⟨complaint, refused, alike⟩
        · left
          simp only [TextSet.ofValue?, read, alike]
        · simp only [TextSet.ofValue?, refused, alike]
          exact .inr ⟨keys, rfl, complaint, rfl, rfl⟩

/-! ### Targets and settings -/

/-- What is given for a kind of settings: an argument that is not `None`, or else the default of the
session, if there is one. -/
inductive Given (α : Type) where
  | argument (value : Value)
  | default (settings : Option α)

namespace Given

variable {α : Type}

/-- An argument that is given comes before the default. -/
def of (argument : Option Value) (settings : Option α) : Given α :=
  match argument with
  | some value => .argument value
  | none => .default settings

/-- A default does not count where there is an argument. -/
theorem of_eq_of {argument : Option Value} (given : argument ≠ none)
    (settings others : Option α) : of argument settings = of argument others := by
  cases argument with
  | some value => rfl
  | none => exact absurd rfl given

variable (read : Value → Except CallError α)

/-- What is given stands for settings: the argument is read as them, or they are the default. -/
def StandsFor : Given α → α → Prop
  | .argument value, settings => read value = .ok settings
  | .default held, settings => held = some settings

/-- The same is given twice, or both stand for the same settings. -/
def Agrees (first second : Given α) : Prop :=
  first = second ∨ ∃ settings, first.StandsFor read settings ∧ second.StandsFor read settings

/-- The settings, or why there are none. -/
def settings (missing : CallError) : Given α → Except CallError α
  | .argument value => read value
  | .default (some settings) => .ok settings
  | .default none => .error missing

variable {read}

/-- What stands for settings is read as these settings. -/
theorem StandsFor.settings_eq {given : Given α} {settings : α}
    (stands : given.StandsFor read settings) (missing : CallError) :
    given.settings read missing = .ok settings := by
  cases given with
  | argument value => exact stands
  | default held =>
      cases (stands : held = some settings)
      rfl

/-- What agrees is read as the same settings. -/
theorem Agrees.settings_eq {first second : Given α} (agrees : first.Agrees read second)
    (missing : CallError) : first.settings read missing = second.settings read missing := by
  rcases agrees with rfl | ⟨settings, left, right⟩
  · rfl
  · rw [left.settings_eq missing, right.settings_eq missing]

end Given

namespace Resolution

variable {σ : Type} (resolution : Resolution σ)

/-- What is given for the target. -/
def givenTarget : Given KubeTarget :=
  .of (resolution.arguments.getSome? "kube_config") resolution.session.kube

/-- What is given for the settings. -/
def givenSettings : Given SshSettings :=
  .of (resolution.arguments.getSome? "ssh_config") resolution.session.ssh

/-- The target is read from what is given for it. -/
theorem target_eq :
    resolution.target =
      resolution.givenTarget.settings (KubeTarget.ofValue kind "kube_config") (.noTarget kind) := by
  unfold target givenTarget Inventory.target
  cases resolution.arguments.getSome? "kube_config" with
  | some value => rfl
  | none => cases resolution.session.kube <;> rfl

theorem settings_eq :
    resolution.settings =
      resolution.givenSettings.settings (SshSettings.ofValue kind "ssh_config")
        (.missingDefault kind "ssh_config") := by
  unfold settings givenSettings sshSettings
  cases resolution.arguments.getSome? "ssh_config" with
  | some value => rfl
  | none => cases resolution.session.ssh <;> rfl

/-- Two resolutions in the same world agree in all that counts. -/
structure Agree (first second : Resolution σ) : Prop where
  clusters : first.clusters = second.clusters
  world : first.world = second.world
  target : first.givenTarget.Agrees (KubeTarget.ofValue kind "kube_config") second.givenTarget
  settings : first.givenSettings.Agrees (SshSettings.ofValue kind "ssh_config") second.givenSettings
  selection : selection? first.arguments = selection? second.arguments
  labels : first.arguments.getSome? "labels" = second.arguments.getSome? "labels"

/-- The same comes of two resolutions, but for the key that a complaint about the names is under. -/
structure Alike (first second : Resolution σ) : Prop where
  contacts : first.run.contacts = second.run.contacts
  world : first.run.world = second.run.world
  result : first.run.result = second.run.result ∨
    NodeFilter.namesKey first.arguments ≠ NodeFilter.namesKey second.arguments ∧
      ∃ complaint,
        first.run.result =
            .error (.badArgument kind (NodeFilter.namesKey first.arguments) complaint) ∧
          second.run.result =
            .error (.badArgument kind (NodeFilter.namesKey second.arguments) complaint)

variable {first second : Resolution σ}

/-- Resolutions that agree have one target. -/
theorem Agree.target_eq (agree : first.Agree second) : first.target = second.target := by
  rw [first.target_eq, second.target_eq, agree.target.settings_eq]

theorem Agree.settings_eq (agree : first.Agree second) : first.settings = second.settings := by
  rw [first.settings_eq, second.settings_eq, agree.settings.settings_eq]

/-- Resolutions that agree and have one filter run alike. -/
theorem Agree.run_eq (agree : first.Agree second) (filters : first.filter = second.filter) :
    first.run = second.run := by
  rw [run, run, ← agree.clusters, ← agree.world,
    resolve_congr first.clusters.recorded agree.target_eq filters agree.settings_eq]

/-- Where both filters are refused, each resolution fails for its own reason if it comes that
far. -/
theorem Agree.run_of_refused (agree : first.Agree second) {error other : CallError}
    (refused : first.filter = .error error) (alike : second.filter = .error other) :
    first.run.contacts = second.run.contacts ∧ first.run.world = second.run.world ∧
      (first.run.result = second.run.result ∨
        first.run.result = .error error ∧ second.run.result = .error other) := by
  have targets : Inventory.target second.session second.arguments =
      Inventory.target first.session first.arguments := agree.target_eq.symm
  unfold filter at refused alike
  simp only [run, observe_resolve, ← agree.clusters, ← agree.world, targets, refused, alike]
  -- Both runs are the same up to the filter, where each stops with its own complaint.
  cases Inventory.target first.session first.arguments with
  | error error => exact ⟨rfl, rfl, .inl rfl⟩
  | ok target =>
      dsimp only
      rcases (first.clusters.connect target).run first.world with ⟨cause | searcher, next⟩
      · exact ⟨rfl, rfl, .inl rfl⟩
      · exact ⟨rfl, rfl, .inr ⟨rfl, rfl⟩⟩

theorem Agree.alike (agree : first.Agree second) : first.Alike second := by
  rcases ofArguments_of_selection agree.selection agree.labels with
    filters | ⟨keys, _, complaint, refused, alike⟩
  · rw [← filter, ← filter] at filters
    have same := agree.run_eq filters
    exact ⟨congrArg _ same, congrArg _ same, .inl (congrArg _ same)⟩
  · obtain ⟨contacts, world, result⟩ := agree.run_of_refused refused alike
    refine ⟨contacts, world, result.imp_right fun fail => ?_⟩
    exact ⟨keys, complaint, fail.1, fail.2⟩

/-- Nothing tells two resolutions apart that select under the same key, or that select nothing. -/
theorem Agree.run_eq_of_key (agree : first.Agree second)
    (key : NodeFilter.namesKey first.arguments = NodeFilter.namesKey second.arguments ∨
      selection? first.arguments = none) : first.run = second.run := by
  rcases ofArguments_of_selection agree.selection agree.labels with
    filters | ⟨keys, selected, _⟩
  · exact agree.run_eq filters
  · rcases key with same | nothing
    · exact absurd same keys
    · rw [nothing] at selected
      cases selected

/-! ### What does not count -/

variable (resolution : Resolution σ)

/-- Sessions that leave the target and the settings as they are do not count. -/
theorem run_session {session : Session}
    (target : Given.of (resolution.arguments.getSome? "kube_config") session.kube =
      resolution.givenTarget)
    (settings : Given.of (resolution.arguments.getSome? "ssh_config") session.ssh =
      resolution.givenSettings) :
    run { resolution with session } = resolution.run := by
  have agree : Agree { resolution with session } resolution :=
    ⟨rfl, rfl, .inl target, .inl settings, rfl, rfl⟩
  exact agree.run_eq rfl

/-- Arguments that differ in how they select names, but select the same, agree in what counts. -/
theorem agree_arguments {others : Attributes}
    (same : others.AgreeOn resolution.arguments ["kube_config", "ssh_config", "labels"])
    (selections : selection? others = selection? resolution.arguments) :
    Agree { resolution with arguments := others } resolution := by
  have found (name : String) (member : name ∈ ["kube_config", "ssh_config", "labels"]) :
      others.getSome? name = resolution.arguments.getSome? name := by
    rw [Attributes.getSome?, same name member, Attributes.getSome?]
  refine ⟨rfl, rfl, .inl ?_, .inl ?_, selections, found "labels" (by decide)⟩
  · rw [givenTarget, found "kube_config" (by decide), givenTarget]
  · rw [givenSettings, found "ssh_config" (by decide), givenSettings]

/-- **Only effective inputs count.** Resolutions that agree in the target, the settings, the
selection of names and the labels have the same outcome and ask the same of clusters, but for the
key that a complaint about the names is under. So the settings of the session as a whole do not
count, nor a default where there is an argument, nor arguments of other names, nor `names` where
there is `nodes`. With `nodes` being `None`, a resolution searches as if neither were given. -/
theorem only_effective_inputs_count :
    (∀ first second : Resolution σ, first.Agree second → first.Alike second) ∧
    ∀ resolution : Resolution σ,
      (∀ global, run { resolution with session := { resolution.session with global } } =
        resolution.run) ∧
      (resolution.arguments.getSome? "kube_config" ≠ none →
        ∀ kube, run { resolution with session := { resolution.session with kube } } =
          resolution.run) ∧
      (resolution.arguments.getSome? "ssh_config" ≠ none →
        ∀ ssh, run { resolution with session := { resolution.session with ssh } } =
          resolution.run) ∧
      (∀ others : Attributes,
        others.AgreeOn resolution.arguments
          ["kube_config", "ssh_config", "nodes", "names", "labels"] →
        run { resolution with arguments := others } = resolution.run) ∧
      (resolution.arguments.contains "nodes" = true → ∀ others : Attributes,
        others.AgreeOn resolution.arguments ["kube_config", "ssh_config", "nodes", "labels"] →
        run { resolution with arguments := others } = resolution.run) ∧
      (resolution.arguments.get? "nodes" = some .none → ∀ others : Attributes,
        others.AgreeOn resolution.arguments ["kube_config", "ssh_config", "labels"] →
        others.get? "nodes" = none → others.get? "names" = none →
        run { resolution with arguments := others } = resolution.run) := by
  refine ⟨fun _ _ => Agree.alike, fun resolution => ⟨?_, ?_, ?_, ?_, ?_, ?_⟩⟩
  · exact fun global => resolution.run_session rfl rfl
  · exact fun given kube => resolution.run_session (Given.of_eq_of given _ _) rfl
  · exact fun given ssh => resolution.run_session rfl (Given.of_eq_of given _ _)
  · intro others same
    have nodes := same "nodes" (by decide)
    have names := same "names" (by decide)
    have agree := resolution.agree_arguments (same.mono (by decide))
      (by rw [selection?, selection?, nodes, names])
    exact agree.run_eq_of_key (.inl (namesKey_congr nodes))
  · intro present others same
    have nodes := same "nodes" (by decide)
    obtain ⟨value, found⟩ := Option.isSome_iff_exists.1 present
    have agree := resolution.agree_arguments (same.mono (by decide))
      (by rw [selection?, selection?, nodes, found, Option.some_or, Option.some_or])
    exact agree.run_eq_of_key (.inl (namesKey_congr nodes))
  · intro hidden others same nodes names
    have nothing : selection? others = none := by
      rw [selection?, nodes, names]
      rfl
    have disabled : selection? resolution.arguments = none := by
      rw [selection?, hidden]
      rfl
    have agree := resolution.agree_arguments same (nothing.trans disabled.symm)
    exact agree.run_eq_of_key (.inr nothing)

/-- A number in the place of names: under `nodes` beside a shadowed default and with the target as
the default, and under `names` with the target as an argument and the settings as the default. The
two resolutions agree in what counts, connect, and complain about the key that each was given. Where
`nodes` is `None`, the number is not looked at. -/
theorem only_effective_inputs_count_of_two_spellings :
    let target : KubeTarget := ⟨.ofText "/kube", none⟩
    let first : Resolution Nat :=
      ⟨Script.vacant, { kube := some target, ssh := some { username := "root" } },
        .ofList [("nodes", .ofNat 1), ("ssh_config", .struct [("username", .string "core")])], 0⟩
    let second : Resolution Nat :=
      ⟨Script.vacant, { ssh := some { username := "core" } },
        .ofList [("names", .ofNat 1), ("kube_config", .string "/kube")], 0⟩
    let explicit : List (String × Value) :=
      [("kube_config", .string "/kube"), ("ssh_config", .struct [("username", .string "core")])]
    let disabled : Resolution Nat :=
      ⟨Script.vacant, {}, .ofList (explicit ++ [("nodes", .none), ("names", .ofNat 1)]), 0⟩
    let unrestricted := { disabled with arguments := .ofList explicit }
    (first.Agree second ∧ first.Alike second ∧
      first.run.contacts = [.connection target] ∧
      first.run.result =
        .error (.badArgument kind "nodes" (.wrongType "string or list of strings" "int")) ∧
      second.run.result =
        .error (.badArgument kind "names" (.wrongType "string or list of strings" "int"))) ∧
    disabled.arguments.getSome? "kube_config" ≠ none ∧
    disabled.arguments.getSome? "ssh_config" ≠ none ∧
    disabled.arguments.contains "nodes" = true ∧
    disabled.arguments.get? "nodes" = some .none ∧
    run { disabled with session := { kube := some ⟨.ofText "/other", none⟩ } } = disabled.run ∧
    run { disabled with session := { ssh := some { username := "root" } } } = disabled.run ∧
    run { disabled with session := { global := some {} } } = disabled.run ∧
    run { disabled with arguments := disabled.arguments.set "comment" .none } = disabled.run ∧
    run { disabled with arguments := disabled.arguments.set "names" .none } = disabled.run ∧
    unrestricted.run = disabled.run ∧ disabled.run.world = 1 := by
  intro target first second explicit disabled unrestricted
  have targets : first.givenTarget.Agrees (KubeTarget.ofValue kind "kube_config")
      second.givenTarget := .inr ⟨target, rfl, rfl⟩
  have settings : first.givenSettings.Agrees (SshSettings.ofValue kind "ssh_config")
      second.givenSettings := .inr ⟨{ username := "core" }, rfl, rfl⟩
  have agree : first.Agree second := ⟨rfl, rfl, targets, settings, rfl, rfl⟩
  have counts := @only_effective_inputs_count Nat
  obtain ⟨ofGlobal, ofKube, ofSsh, ofOthers, ofNames, ofNothing⟩ := counts.2 disabled
  have target : disabled.arguments.getSome? "kube_config" ≠ none := by decide
  have settings : disabled.arguments.getSome? "ssh_config" ≠ none := by decide
  have present : disabled.arguments.contains "nodes" = true := by decide
  have hidden : disabled.arguments.get? "nodes" = some .none := rfl
  refine ⟨⟨agree, counts.1 first second agree, rfl, rfl, rfl⟩, target, settings, present, hidden,
    ofKube target _, ofSsh settings _, ofGlobal _, ofOthers _ ?_, ofNames present _ ?_,
    ofNothing hidden _ ?_ rfl rfl, rfl⟩
  · intro name member
    rw [Attributes.get?_set, if_neg (by rintro rfl; revert member; decide)]
  · intro name member
    rw [Attributes.get?_set, if_neg (by rintro rfl; revert member; decide)]
  · simp only [Attributes.AgreeOn, List.forall_mem_cons]
    exact ⟨rfl, rfl, rfl, fun _ member => absurd member List.not_mem_nil⟩

end Resolution

end Inventory

end ClusterHosts
