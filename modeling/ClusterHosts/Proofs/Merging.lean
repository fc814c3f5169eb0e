import ClusterHosts.Invocation
import ClusterHosts.SavedDefaults

/-! # Options merged into saved defaults

Options override defaults field by field (`SavedDefaults.overrides_field_by_field`). If they are
refused, the settings for secure shells stay as they were
(`SavedDefaults.refusal_keeps_settings`). -/

namespace ClusterHosts

/-! ## Options before saved values

Where a command line and the saved values both say something, the command line counts. Options that
are accepted leave values that are known field by field (`SavedDefaults.eq_of_override`). Two
command lines one after the other do what the later does when the earlier fills its gaps
(`SavedDefaults.overrides_field_by_field`).
-/

/-- A command line that has what it does not say from an earlier one. -/
def Invocation.completedBy (later earlier : Invocation) : Invocation where
  kubeconfig := later.kubeconfig.or earlier.kubeconfig
  clusterContext := later.clusterContext.or earlier.clusterContext
  names := if later.names.isEmpty then earlier.names else later.names
  nodes := if later.nodes.isEmpty then earlier.nodes else later.nodes
  labels := if later.labels.isEmpty then earlier.labels else later.labels
  sshUser := later.sshUser.or earlier.sshUser
  sshPort := later.sshPort.or earlier.sshPort
  privateKey := later.privateKey.or earlier.privateKey
  maxRetries := later.maxRetries.or earlier.maxRetries
  connectTimeout := later.connectTimeout.or earlier.connectTimeout
  output := later.output.or earlier.output
  verbose := later.verbose || earlier.verbose
  save := later.save || earlier.save

/-- A command line completed by itself is the same. -/
theorem Invocation.completedBy_self (invocation : Invocation) :
    invocation.completedBy invocation = invocation := by
  simp only [completedBy, Option.or_self, Bool.or_self, ite_self]

namespace SavedDefaults

variable (saved : SavedDefaults) (invocation : Invocation)

/-- The kubeconfig file that is meant: that of the command line, or else the saved one, or else the
one that is used if none is configured. -/
def effectivePath? (fallback : Option SystemText) : Option SystemText :=
  invocation.kubeconfig.or (saved.kubeconfig.or fallback)

/-- The context that is meant. -/
def effectiveContext? : Option String := invocation.clusterContext.or saved.clusterContext

/-- The user name that is meant. -/
def effectiveUser? : Option String := invocation.sshUser.or (saved.ssh.map SshSettings.username)

/-- The settings under a user name, each from the command line, or else saved, or else a default. -/
def effectiveSettings (username : String) : SshSettings where
  username
  port := invocation.sshPort.getD ((saved.ssh.map SshSettings.port).getD 22)
  privateKeyPath := invocation.privateKey.or (saved.ssh.bind SshSettings.privateKeyPath)
  maxRetries := invocation.maxRetries.getD ((saved.ssh.map SshSettings.maxRetries).getD 5)
  connTimeout := (saved.ssh.map SshSettings.connTimeout).getD 30

/-- The target that is meant. Without a file there is none, be there a context or not. -/
def effectiveTarget? (fallback : Option SystemText) : Option KubeTarget :=
  (saved.effectivePath? invocation fallback).map fun path =>
    ⟨path, saved.effectiveContext? invocation⟩

/-- The settings that are meant. Without a user name there are none. -/
def effectiveSsh? : Option SshSettings :=
  (saved.effectiveUser? invocation).map (saved.effectiveSettings invocation)

/-- The defaults that are meant, without settings of the whole session, for which there are no
options. -/
def effectiveDefaults (fallback : Option SystemText) : Session where
  ssh := saved.effectiveSsh? invocation
  kube := saved.effectiveTarget? invocation fallback

variable {saved invocation} {merged : SavedDefaults}

/-- The settings with the options laid over them are those that are effective. -/
theorem ssh_overlaid :
    (sshOfUser invocation.sshUser saved.ssh).map (overlaid invocation) =
      saved.effectiveSsh? invocation := by
  unfold sshOfUser effectiveSsh? effectiveUser?
  cases invocation.sshUser with
  | none => cases named : saved.ssh <;> simp [overlaid, effectiveSettings, named]
  | some user => cases named : saved.ssh <;> simp [overlaid, effectiveSettings, named]

variable (saved invocation) in
/-- The options for connections are refused if there is no user name for them. -/
theorem override_eq :
    saved.override invocation =
      if needsUser invocation = true ∧ invocation.sshUser = none ∧ saved.ssh = none then
        (.error .noUser, {
          kubeconfig := invocation.kubeconfig.or saved.kubeconfig
          clusterContext := saved.effectiveContext? invocation
          global := saved.global })
      else
        (.ok (), {
          kubeconfig := invocation.kubeconfig.or saved.kubeconfig
          clusterContext := saved.effectiveContext? invocation
          ssh := saved.effectiveSsh? invocation
          global := saved.global }) := by
  have missing : sshOfUser invocation.sshUser saved.ssh = none ↔
      invocation.sshUser = none ∧ saved.ssh = none := by
    cases invocation.sshUser <;> cases saved.ssh <;> simp [sshOfUser]
  unfold override
  dsimp only
  rw [ssh_overlaid]
  by_cases refused : needsUser invocation = true ∧ invocation.sshUser = none ∧ saved.ssh = none
  · have absent := missing.2 refused.2
    rw [if_pos refused, if_pos (by simp [refused.1, absent]), refused.2.2]
    rfl
  · rw [if_neg refused, if_neg]
    · rfl
    · simpa [← missing] using refused

/-- **What accepted options leave.** -/
theorem eq_of_override (accepted : saved.override invocation = (.ok (), merged)) :
    merged = {
      kubeconfig := invocation.kubeconfig.or saved.kubeconfig
      clusterContext := saved.effectiveContext? invocation
      ssh := saved.effectiveSsh? invocation
      global := saved.global } := by
  rw [override_eq] at accepted
  split at accepted
  · cases accepted
  · exact (congrArg Prod.snd accepted).symm

/-- The session that starts from what accepted options leave. -/
theorem session_of_override (accepted : saved.override invocation = (.ok (), merged))
    (fallback : Option SystemText) :
    merged.session fallback =
      { saved.effectiveDefaults invocation fallback with global := saved.global } := by
  rw [eq_of_override accepted, session, effectiveDefaults, effectiveTarget?, effectivePath?,
    Option.or_assoc]

/-! ### One command line after another -/

/-- There are no settings if neither side names a user. -/
theorem effectiveSsh?_eq_none_iff :
    saved.effectiveSsh? invocation = none ↔ invocation.sshUser = none ∧ saved.ssh = none := by
  simp [effectiveSsh?, effectiveUser?]

variable {earlier later : Invocation}

/-- Command lines that are accepted say nothing of connections where they leave no settings. -/
theorem needsUser_of_override (accepted : saved.override earlier = (.ok (), merged))
    (nothing : merged.ssh = none) : needsUser earlier = false := by
  rw [eq_of_override accepted, effectiveSsh?_eq_none_iff] at nothing
  rw [override_eq] at accepted
  split at accepted
  · cases accepted
  · next passes => simpa [nothing] using passes

/-- The settings that two command lines mean one after the other. -/
theorem effectiveSettings_of_override (accepted : saved.override earlier = (.ok (), merged))
    (later : Invocation) (username : String) :
    merged.effectiveSettings later username =
      saved.effectiveSettings (later.completedBy earlier) username := by
  have ssh : merged.ssh = saved.effectiveSsh? earlier := by rw [eq_of_override accepted]
  cases held : merged.ssh with
  | none =>
      have calm := needsUser_of_override accepted held
      simp only [needsUser, Bool.or_eq_false_iff, Option.isSome_eq_false_iff,
        Option.isNone_iff_eq_none] at calm
      obtain ⟨⟨port, privateKey⟩, maxRetries⟩ := calm
      have absent : saved.ssh = none := (effectiveSsh?_eq_none_iff.1 (ssh.symm.trans held)).2
      simp [effectiveSettings, Invocation.completedBy, held, absent, port, privateKey, maxRetries]
  | some settings =>
      rw [ssh] at held
      obtain ⟨user, _, rfl⟩ := Option.map_eq_some_iff.1 held
      simp [effectiveSettings, Invocation.completedBy, ssh, held, Option.or_assoc]

/-- Two command lines together need a user if one of them does. -/
theorem needsUser_completedBy (later earlier : Invocation) :
    needsUser (later.completedBy earlier) = (needsUser later || needsUser earlier) := by
  simp only [needsUser, Invocation.completedBy, Option.isSome_or]
  ac_rfl

/-- Of options that are accepted and others behind them, the others are refused if all at once
are. -/
theorem refused_of_override_iff (accepted : saved.override earlier = (.ok (), merged))
    (later : Invocation) :
    needsUser later = true ∧ later.sshUser = none ∧ merged.ssh = none ↔
      needsUser (later.completedBy earlier) = true ∧
        (later.completedBy earlier).sshUser = none ∧ saved.ssh = none := by
  have ssh : merged.ssh = none ↔ earlier.sshUser = none ∧ saved.ssh = none := by
    rw [eq_of_override accepted, effectiveSsh?_eq_none_iff]
  have user : (later.completedBy earlier).sshUser = none ↔
      later.sshUser = none ∧ earlier.sshUser = none := Option.or_eq_none_iff
  rw [needsUser_completedBy, Bool.or_eq_true, user]
  constructor
  · rintro ⟨needs, unnamed, nothing⟩
    obtain ⟨unnamedBefore, absent⟩ := ssh.1 nothing
    exact ⟨.inl needs, ⟨unnamed, unnamedBefore⟩, absent⟩
  · rintro ⟨needs, ⟨unnamed, unnamedBefore⟩, absent⟩
    have nothing := ssh.2 ⟨unnamedBefore, absent⟩
    have calm := needsUser_of_override accepted nothing
    exact ⟨needs.resolve_right (by simp [calm]), unnamed, nothing⟩

/-- Options that are accepted can as well be given together with later ones. -/
theorem override_of_override (accepted : saved.override earlier = (.ok (), merged))
    (later : Invocation) : merged.override later = saved.override (later.completedBy earlier) := by
  have kept := eq_of_override accepted
  have context : merged.effectiveContext? later =
      saved.effectiveContext? (later.completedBy earlier) := by
    rw [kept]
    exact Option.or_assoc.symm
  have user : merged.effectiveUser? later = saved.effectiveUser? (later.completedBy earlier) := by
    rw [kept]
    simp [effectiveUser?, effectiveSsh?, effectiveSettings, Invocation.completedBy,
      Option.or_assoc, Function.comp_def]
  have ssh : merged.effectiveSsh? later = saved.effectiveSsh? (later.completedBy earlier) := by
    rw [effectiveSsh?, effectiveSsh?, user]
    congr 1
    funext username
    exact effectiveSettings_of_override accepted later username
  have kubeconfig : later.kubeconfig.or merged.kubeconfig =
      (later.completedBy earlier).kubeconfig.or saved.kubeconfig := by
    rw [kept]
    exact Option.or_assoc.symm
  have global : merged.global = saved.global := by rw [kept]
  rw [override_eq, override_eq, context, ssh, kubeconfig, global]
  simp only [refused_of_override_iff accepted later]

/-- A command line needs a user if it has another option for secure shells. -/
theorem needsUser_iff : needsUser invocation = true ↔
    invocation.sshPort ≠ none ∨ invocation.privateKey ≠ none ∨ invocation.maxRetries ≠ none := by
  simp only [needsUser, Bool.or_eq_true, Option.isSome_iff_ne_none, or_assoc]

/-- Options are refused only for want of a user. -/
theorem override_eq_error_iff {error : DefaultsError} :
    (saved.override invocation).1 = .error error ↔
      error = .noUser ∧ needsUser invocation = true ∧ invocation.sshUser = none ∧
        saved.ssh = none := by
  rw [override_eq]
  split
  · next refused =>
      constructor
      · intro fails
        cases fails
        exact ⟨rfl, refused⟩
      · rintro ⟨rfl, _⟩
        rfl
  · next passes => exact iff_of_false (fun fails => by cases fails) fun known => passes known.2

/-- Options that were taken as far as they go change nothing when they are given again. -/
theorem override_again (saved : SavedDefaults) (invocation : Invocation) :
    (saved.override invocation).2.override invocation = saved.override invocation := by
  by_cases refused : needsUser invocation = true ∧ invocation.sshUser = none ∧ saved.ssh = none
  · have left := override_eq saved invocation
    rw [if_pos refused] at left
    rw [left, override_eq, if_pos ⟨refused.1, refused.2.1, rfl⟩]
    simp only [effectiveContext?, ← Option.or_assoc, Option.or_self]
  · have accepted := override_eq saved invocation
    rw [if_neg refused] at accepted
    have again := override_of_override accepted invocation
    rw [Invocation.completedBy_self] at again
    rw [accepted, again, accepted]

/-- **Options override saved values field by field.** They are refused exactly if they say something
of connections and there is no user name, given or saved. If they are accepted, a value is the one
that is given, and else the saved one, or a default where no settings of connections were saved;
what no option is for stays as it is. Giving the options again changes nothing, and giving others
after them is giving the others with these in their gaps. -/
theorem overrides_field_by_field (saved : SavedDefaults) (invocation : Invocation) :
    (∀ error, (saved.override invocation).1 = .error error ↔
      error = .noUser ∧
        (invocation.sshPort ≠ none ∨ invocation.privateKey ≠ none ∨ invocation.maxRetries ≠ none) ∧
        invocation.sshUser = none ∧ saved.ssh = none) ∧
    (∀ merged, saved.override invocation = (.ok (), merged) →
      merged.kubeconfig = invocation.kubeconfig.or saved.kubeconfig ∧
      merged.clusterContext = invocation.clusterContext.or saved.clusterContext ∧
      merged.global = saved.global ∧
      (merged.ssh = none ↔ invocation.sshUser = none ∧ saved.ssh = none) ∧
      ∀ settings, merged.ssh = some settings →
        let previous := saved.ssh.getD { username := settings.username }
        invocation.sshUser.or (saved.ssh.map SshSettings.username) = some settings.username ∧
        settings.port = invocation.sshPort.getD previous.port ∧
        settings.privateKeyPath = invocation.privateKey.or previous.privateKeyPath ∧
        settings.maxRetries = invocation.maxRetries.getD previous.maxRetries ∧
        settings.connTimeout = previous.connTimeout) ∧
    (saved.override invocation).2.override invocation = saved.override invocation ∧
    ∀ merged later, saved.override invocation = (.ok (), merged) →
      merged.override later = saved.override (later.completedBy invocation) := by
  refine ⟨?_, ?_, override_again saved invocation, ?_⟩
  · intro error
    rw [← needsUser_iff]
    exact override_eq_error_iff
  · intro merged accepted
    have kept := eq_of_override accepted
    refine ⟨by rw [kept], by rw [kept]; rfl, by rw [kept], ?_, ?_⟩
    · rw [kept, effectiveSsh?_eq_none_iff]
    · intro settings held previous
      rw [kept] at held
      obtain ⟨user, meant, rfl⟩ := Option.map_eq_some_iff.1 held
      refine ⟨meant, ?_⟩
      cases ssh : saved.ssh <;> simp [effectiveSettings, previous, ssh]
  · intro merged later accepted
    exact override_of_override accepted later

/-- A port is refused without a user name. Behind a command line that has given a name and a port it
takes the place of that port, and it may be given together with the name as well. -/
theorem overrides_field_by_field_of_new_user :
    let saved : SavedDefaults :=
      { kubeconfig := some (.ofText "/kube"), global := some { uid := some "7" } }
    let first : Invocation := { sshUser := some "core", sshPort := some 2222 }
    let later : Invocation := { clusterContext := some "dev", sshPort := some 2022 }
    let merged : SavedDefaults := { saved with ssh := some ⟨"core", 2222, none, 5, 30⟩ }
    let last : SavedDefaults :=
      { merged with clusterContext := some "dev", ssh := some ⟨"core", 2022, none, 5, 30⟩ }
    (saved.override later).1 = .error .noUser ∧
      (saved.override first = (.ok (), merged) ∧ merged.global = saved.global ∧
        first.sshUser.or (saved.ssh.map SshSettings.username) = some "core") ∧
      merged.override later = (.ok (), last) ∧
      saved.override (later.completedBy first) = (.ok (), last) := by
  intro saved first later merged last
  obtain ⟨refused, _, _, _⟩ := saved.overrides_field_by_field later
  obtain ⟨_, fields, _, follows⟩ := saved.overrides_field_by_field first
  have accepted : saved.override first = (.ok (), merged) := rfl
  have behind : merged.override later = (.ok (), last) := rfl
  obtain ⟨_, _, global, _, settings⟩ := fields merged accepted
  obtain ⟨username, _⟩ := settings _ rfl
  refine ⟨(refused .noUser).2 ⟨rfl, .inl (by decide), rfl, rfl⟩, ⟨accepted, global, username⟩,
    behind, ?_⟩
  rw [← follows merged later accepted, behind]

end SavedDefaults

/-! ## What refused options leave

Options for connections are refused where no user name is known. The values that go on then have
kept all settings, but not their place: a path or context that came with the options is theirs from
now on (`SavedDefaults.refusal_keeps_settings`).
-/

/-- A command line that has what it does not say of the cluster's place from an earlier one. -/
def Invocation.placedBy (later earlier : Invocation) : Invocation :=
  { later with
    kubeconfig := later.kubeconfig.or earlier.kubeconfig
    clusterContext := later.clusterContext.or earlier.clusterContext }

namespace SavedDefaults

variable {saved : SavedDefaults} {invocation : Invocation} {error : DefaultsError}

/-- Options that are refused leave their path and their context. -/
theorem left_of_refusal (refused : (saved.override invocation).1 = .error error) :
    (saved.override invocation).2 =
      { saved with
        kubeconfig := invocation.kubeconfig.or saved.kubeconfig
        clusterContext := invocation.clusterContext.or saved.clusterContext } := by
  obtain ⟨_, needs, unnamed, absent⟩ := override_eq_error_iff.1 refused
  rw [override_eq, if_pos ⟨needs, unnamed, absent⟩, ← absent]
  rfl

/-- A value that is laid over another changes nothing if it is the same or missing. -/
theorem or_eq_right_iff {α : Type} {given kept : Option α} :
    given.or kept = kept ↔ ∀ value ∈ given, kept = some value := by
  cases given with
  | none => simp
  | some value => simp [eq_comm]

/-- The values are as they were if the options name no other place than the saved one. -/
theorem left_of_refusal_eq_iff (refused : (saved.override invocation).1 = .error error) :
    (saved.override invocation).2 = saved ↔
      (∀ path ∈ invocation.kubeconfig, saved.kubeconfig = some path) ∧
        ∀ context ∈ invocation.clusterContext, saved.clusterContext = some context := by
  rw [left_of_refusal refused, ← or_eq_right_iff, ← or_eq_right_iff]
  constructor
  · intro same
    exact ⟨congrArg kubeconfig same, congrArg clusterContext same⟩
  · rintro ⟨path, context⟩
    rw [path, context]

/-- Values that are moved to another place take a command line like the values as they were, with
that place in its gaps. -/
theorem override_placed (saved : SavedDefaults) (earlier later : Invocation) :
    override { saved with
        kubeconfig := earlier.kubeconfig.or saved.kubeconfig
        clusterContext := earlier.clusterContext.or saved.clusterContext } later =
      saved.override (later.placedBy earlier) := by
  simp only [override, Invocation.placedBy, Option.or_assoc]
  rfl

variable (saved invocation) in
/-- **Refused options change the place and nothing else.** What is left has the path and the context
of the options where they give one, and all settings as they were. So nothing is changed if and only
if the options name no place, or the saved one. Whatever command line comes next then does what it
would have done to the values as they were, with that place in its gaps. -/
theorem refusal_keeps_settings (refused : (saved.override invocation).1 = .error error) :
    let left := (saved.override invocation).2
    (left.kubeconfig = invocation.kubeconfig.or saved.kubeconfig ∧
      left.clusterContext = invocation.clusterContext.or saved.clusterContext ∧
      left.ssh = saved.ssh ∧ left.global = saved.global) ∧
    (left = saved ↔
      (∀ path ∈ invocation.kubeconfig, saved.kubeconfig = some path) ∧
        ∀ context ∈ invocation.clusterContext, saved.clusterContext = some context) ∧
    ∀ later, left.override later = saved.override (later.placedBy invocation) := by
  refine ⟨?_, left_of_refusal_eq_iff refused, fun later => ?_⟩
  · rw [left_of_refusal refused]
    exact ⟨rfl, rfl, rfl, rfl⟩
  · rw [left_of_refusal refused, override_placed]

/-- A port is refused with a context beside it. A user name that is given afterwards finds that
context. -/
theorem refusal_keeps_settings_of_port :
    let saved : SavedDefaults :=
      { kubeconfig := some (.ofText "/kube")
        clusterContext := some "dev"
        global := some { uid := some "7" } }
    let first : Invocation := { clusterContext := some "prod", sshPort := some 2222 }
    let left : SavedDefaults := { saved with clusterContext := some "prod" }
    let later : Invocation := { sshUser := some "core" }
    saved.override first = (.error .noUser, left) ∧ left.global = saved.global ∧ left ≠ saved ∧
      left.override later = saved.override { later with clusterContext := some "prod" } := by
  intro saved first left later
  have outcome : saved.override first = (.error .noUser, left) := rfl
  obtain ⟨⟨_, _, _, global⟩, same, next⟩ := saved.refusal_keeps_settings first
    (congrArg Prod.fst outcome)
  refine ⟨outcome, global, fun unchanged => ?_, next later⟩
  have context := (same.1 unchanged).2 "prod" rfl
  exact absurd context (by decide)

/-- Options can be refused and change the values: a path that comes with a port is taken over, also
where no user name is known. -/
theorem refused_path_is_taken :
    let invocation : Invocation := { kubeconfig := some (.ofText "/flag"), sshPort := some 22 }
    Invocation.parse (["-k", "/flag", "--ssh-port", "22"].map .ofText) = .ok invocation ∧
      (override {} invocation).1 = .error .noUser ∧
      (override {} invocation).2 = { kubeconfig := some (.ofText "/flag") } ∧
      ¬ ∀ (saved : SavedDefaults) (options : Invocation) (error : DefaultsError),
        (saved.override options).1 = .error error → (saved.override options).2 = saved := by
  intro invocation
  have refused : (override {} invocation).1 = .error .noUser := rfl
  have left : (override {} invocation).2 = { kubeconfig := some (.ofText "/flag") } := rfl
  refine ⟨rfl, refused, left, fun unchanged => ?_⟩
  have same := unchanged {} invocation .noUser refused
  rw [left] at same
  cases same

end SavedDefaults

end ClusterHosts
