import ClusterHosts.Proofs.Acceptance
import ClusterHosts.Proofs.Contact
import ClusterHosts.Proofs.Readback
import ClusterHosts.Proofs.Script

/-! # Defaults and arguments interchange

A default acts like the argument that says the same
(`Script.default_interchanges_with_argument`), and what is stored settles after one reading
(`Session.Slot.settle_in_one_reading`). -/

namespace ClusterHosts

/-! ## Defaults in the place of arguments

A script may store settings as a default of its session and then resolve an inventory, or give the
same settings as an argument of the resolution. Neither what the script gets nor what clusters are
asked depends on its choice (`Script.default_interchanges_with_argument`).
-/

/-- Keywords that a function reads as settings make up a struct that all functions read as the
same. -/
theorem Session.Slot.ofAttributes_ofList {slot : Slot} {keywords : List (String × Value)}
    {settings : slot.Settings} (read : slot.ofKeywords keywords = .ok settings)
    (function : String) :
    slot.ofAttributes function (Attributes.ofList keywords) = .ok settings := by
  rw [Slot.ofKeywords] at read
  cases folded : Attributes.ofKeywords slot.name keywords with
  | error error => rw [folded] at read; cases read
  | ok attributes =>
      rw [folded] at read
      rw [← Attributes.eq_ofList_of_ofKeywords folded]
      exact Slot.ofAttributes_ok function read

/-- A struct is read as settings by its attributes. -/
theorem SshSettings.ofValue_value (function key : String) (attributes : Attributes) :
    ofValue function key attributes.value = ofAttributes function attributes := by
  rw [ofValue, Attributes.ofValue?_value]

theorem KubeTarget.ofValue_value (function key : String) (attributes : Attributes) :
    ofValue function key attributes.value = ofAttributes function attributes := by
  have read := Attributes.ofValue?_value attributes
  unfold Attributes.value at read ⊢
  simp only [ofValue, read]

private theorem isBlankText_eq_false {path : String}
    (visible : ∃ c ∈ path.toList, Text.isBlank c = false) : Text.isBlankText path = false := by
  obtain ⟨c, member, notBlank⟩ := visible
  rw [Text.isBlankText, List.all_eq_false]
  exact ⟨c, member, by simp [notBlank]⟩

/-- A path that is not blank names a target alone. -/
theorem KubeTarget.ofValue_string {path : String}
    (visible : ∃ c ∈ path.toList, Text.isBlank c = false) (function key : String) :
    ofValue function key (.string path) = .ok ⟨.ofText path, none⟩ := by
  simp [ofValue, isBlankText_eq_false visible]

/-- A path that is not blank names a target as a keyword. -/
theorem Session.Slot.ofKeywords_path {path : String}
    (visible : ∃ c ∈ path.toList, Text.isBlank c = false) :
    Slot.kube.ofKeywords [("path", .string path)] = .ok (⟨.ofText path, none⟩ : KubeTarget) := by
  have read : KubeTarget.readPath Slot.kube.name (Attributes.ofList [("path", .string path)]) =
      .ok path := by
    change (if Text.isBlankText path = true then _ else _) = _
    rw [if_neg (by simp [isBlankText_eq_false visible])]
    rfl
  change KubeTarget.ofAttributes Slot.kube.name (Attributes.ofList [("path", .string path)]) = _
  rw [KubeTarget.ofAttributes, read]
  rfl

namespace Inventory

variable {m : Type → Type} [Monad m] (clusters : Clusters m) (session : Session)
  {arguments : Attributes} {value : Value}

/-- The filter does not read an argument that is set under another name than its own. -/
private theorem ofArguments_set {name : String} (nodes : "nodes" ≠ name) (names : "names" ≠ name)
    (labels : "labels" ≠ name) :
    NodeFilter.ofArguments kind arguments =
      NodeFilter.ofArguments kind (arguments.set name value) := by
  apply NodeFilter.ofArguments_congr
  · rw [Attributes.get?_set, if_neg nodes]
  · rw [Attributes.get?_set, if_neg names]
  · rw [Attributes.get?_set, if_neg labels]

/-- SSH settings that are the default do the same as an argument that is read as them. -/
theorem resolve_store_ssh {settings : SshSettings} (absent : arguments.get? "ssh_config" = none)
    (read : SshSettings.ofValue kind "ssh_config" value = .ok settings) :
    resolve clusters (session.store .ssh settings) arguments =
      resolve clusters session (arguments.set "ssh_config" value) := by
  have something : value.isNone = false := by
    cases value <;> first | rfl | cases read
  apply resolve_congr
  · rw [target, target, arguments.getSome?_set_of_ne value (by decide)]
    rfl
  · exact ofArguments_set (by decide) (by decide) (by decide)
  · rw [sshSettings, sshSettings, Attributes.getSome?_of_absent absent,
      arguments.getSome?_set "ssh_config" something]
    exact read.symm

/-- A target that is the default does the same as an argument that is read as it. -/
theorem resolve_store_kube {settings : KubeTarget} (absent : arguments.get? "kube_config" = none)
    (read : KubeTarget.ofValue kind "kube_config" value = .ok settings) :
    resolve clusters (session.store .kube settings) arguments =
      resolve clusters session (arguments.set "kube_config" value) := by
  have something : value.isNone = false := by
    cases value <;> first | rfl | cases read
  apply resolve_congr
  · rw [target, target, Attributes.getSome?_of_absent absent,
      arguments.getSome?_set "kube_config" something]
    exact read.symm
  · exact ofArguments_set (by decide) (by decide) (by decide)
  · rw [sshSettings, sshSettings, arguments.getSome?_set_of_ne value (by decide)]
    rfl

end Inventory

namespace Script

variable {σ : Type}

/-- What the last call of a run gave. -/
def Run.outcome? (run : Run σ) : Option (Except CallError Value) :=
  run.events.getLast?.map Event.outcome

/-- All that was asked of clusters in a run. -/
def Run.contacts (run : Run σ) : List Contact := run.events.flatMap Event.contacts

/-- Two runs end with the same outcome, have asked the same of clusters and leave the same world. -/
structure Run.Agrees (first second : Run σ) : Prop where
  outcome : first.outcome? = second.outcome?
  contacts : first.contacts = second.contacts
  world : first.world = second.world

namespace Run.Agrees

variable {first second third : Run σ}

theorem symm (agrees : first.Agrees second) : second.Agrees first :=
  ⟨agrees.outcome.symm, agrees.contacts.symm, agrees.world.symm⟩

theorem trans (agrees : first.Agrees second) (further : second.Agrees third) :
    first.Agrees third :=
  ⟨agrees.outcome.trans further.outcome, agrees.contacts.trans further.contacts,
    agrees.world.trans further.world⟩

end Run.Agrees

variable (clusters : Clusters (StateM σ)) (session : Session) (world : σ)

/-- If settings that are stored do the same for a resolution as an argument, then a call that stores
them and a call without the argument do the same as one call with the argument. -/
theorem run_store_agrees (slot : Session.Slot) {keywords arguments : List (String × Value)}
    {settings : slot.Settings} {value : Value} (read : slot.ofKeywords keywords = .ok settings)
    (fresh : slot.name ∉ arguments.map Prod.fst)
    (same : ∀ folded : Attributes, folded.get? slot.name = none →
      Inventory.resolve clusters.recorded (session.store slot settings) folded =
        Inventory.resolve clusters.recorded session (folded.set slot.name value)) :
    (run [⟨clusters, slot.name, keywords⟩, ⟨clusters, Inventory.kind, arguments⟩]
        session world).Agrees
      (run [⟨clusters, Inventory.kind, arguments ++ [(slot.name, value)]⟩] session world) := by
  simp only [run, Call.perform_slot, read, Session.fill, Call.perform_provider,
    Attributes.ofKeywords_append_fresh Inventory.kind fresh value]
  cases outcome : Attributes.ofKeywords Inventory.kind arguments with
  | error error => exact ⟨rfl, rfl, rfl⟩
  | ok folded =>
      have absent : folded.get? slot.name = none := by
        rw [Attributes.get?_of_addKeywords outcome fresh, Attributes.get?_empty]
      simp only [Except.map, same folded absent]
      exact ⟨rfl, rfl, rfl⟩

/-- What a single call that stores settings gives tells whether its keywords stand for settings. -/
theorem ofKeywords_of_outcome {slot : Session.Slot} {keywords : List (String × Value)}
    {value : Value} (succeeds : (run [⟨clusters, slot.name, keywords⟩] session world).outcome? =
      some (.ok value)) :
    ∃ settings, slot.ofKeywords keywords = .ok settings := by
  simp only [run, Call.perform_slot] at succeeds
  cases read : slot.ofKeywords keywords with
  | ok settings => exact ⟨settings, rfl⟩
  | error error =>
      rw [read] at succeeds
      cases succeeds

/-- **Defaults and arguments are interchangeable.** Storing settings of connections, or a target, as
the default and then resolving gives the same as resolving with the struct of the settings as an
argument, and asks the same of clusters. A path alone, the struct of the path and a default of the
path are three ways to name a target that do the same. -/
theorem default_interchanges_with_argument (arguments : List (String × Value)) :
    (∀ (slot : Session.Slot) (keywords : List (String × Value)) (value : Value),
      slot ≠ .global →
      (run [⟨clusters, slot.name, keywords⟩] session world).outcome? = some (.ok value) →
      slot.name ∉ arguments.map Prod.fst →
      (run [⟨clusters, slot.name, keywords⟩, ⟨clusters, Inventory.kind, arguments⟩]
          session world).Agrees
        (run [⟨clusters, Inventory.kind,
          arguments ++ [(slot.name, (Attributes.ofList keywords).value)]⟩] session world)) ∧
    (∀ path : String, (∃ c ∈ path.toList, Text.isBlank c = false) →
      "kube_config" ∉ arguments.map Prod.fst →
      let stored := run [⟨clusters, "kube_config", [("path", .string path)]⟩,
        ⟨clusters, Inventory.kind, arguments⟩] session world
      let bare := run [⟨clusters, Inventory.kind,
        arguments ++ [("kube_config", .string path)]⟩] session world
      let struct := run [⟨clusters, Inventory.kind,
        arguments ++ [("kube_config", .struct [("path", .string path)])]⟩] session world
      stored.Agrees bare ∧ stored.Agrees struct ∧ bare.Agrees struct) := by
  constructor
  · intro slot keywords value notGlobal succeeds fresh
    obtain ⟨settings, read⟩ := ofKeywords_of_outcome clusters session world succeeds
    apply run_store_agrees clusters session world slot read fresh
    intro folded absent
    cases slot with
    | ssh =>
        apply Inventory.resolve_store_ssh _ session absent
        rw [SshSettings.ofValue_value]
        exact Session.Slot.ofAttributes_ofList read Inventory.kind
    | kube =>
        apply Inventory.resolve_store_kube _ session absent
        rw [KubeTarget.ofValue_value]
        exact Session.Slot.ofAttributes_ofList read Inventory.kind
    | global => exact absurd rfl notGlobal
  · intro path visible fresh stored bare struct
    have read := Session.Slot.ofKeywords_path visible
    have agreesBare : stored.Agrees bare :=
      run_store_agrees clusters session world .kube read fresh fun _ absent =>
        Inventory.resolve_store_kube _ session absent (KubeTarget.ofValue_string visible _ _)
    have agreesStruct : stored.Agrees struct :=
      run_store_agrees clusters session world .kube read fresh fun _ absent => by
        apply Inventory.resolve_store_kube _ session absent
        change KubeTarget.ofValue _ _ (Attributes.ofList [("path", .string path)]).value = _
        rw [KubeTarget.ofValue_value]
        exact Session.Slot.ofAttributes_ofList read Inventory.kind
    exact ⟨agreesBare, agreesStruct, agreesBare.symm.trans agreesStruct⟩

/-- Clusters without objects, in a world that counts the searches. -/
def vacant : Clusters (StateM Nat) where
  connect _ := pure (.ok fun _ => modifyGet fun searches => (.ok [], searches + 1))

/-- A user name as a default and as an argument, and a path as a default, alone and in a struct. -/
theorem default_interchanges_of_user_and_path :
    let keywords : List (String × Value) := [("username", .string "core")]
    let named : List (String × Value) := [("kube_config", .string "/k"), ("names", .string "a b")]
    let stored := run [⟨vacant, "ssh_config", keywords⟩,
      ⟨vacant, "kube_nodes_provider", named⟩] {} 0
    let given := run [⟨vacant, "kube_nodes_provider",
      named ++ [("ssh_config", .struct [("username", .string "core")])]⟩] {} 0
    let settings : SshSettings := { username := "core" }
    let path := run [⟨vacant, "kube_config", [("path", .string "/k")]⟩,
      ⟨vacant, "kube_nodes_provider", []⟩] {} 0
    let bare := run [⟨vacant, "kube_nodes_provider", [("kube_config", .string "/k")]⟩] {} 0
    let struct := run [⟨vacant, "kube_nodes_provider",
      [("kube_config", .struct [("path", .string "/k")])]⟩] {} 0
    ((Session.Slot.ssh ≠ .global ∧
          (run [⟨vacant, "ssh_config", keywords⟩] {} 0).outcome? =
            some (.ok (Session.Slot.ssh.value settings)) ∧
          "ssh_config" ∉ named.map Prod.fst) ∧
        stored.Agrees given ∧ stored.world = 1) ∧
      (∃ c ∈ "/k".toList, Text.isBlank c = false) ∧ "kube_config" ∉ ([] : List String) ∧
        path.Agrees bare ∧ path.Agrees struct ∧ bare.Agrees struct := by
  intro keywords named stored given settings path bare struct
  have gives : (run [⟨vacant, "ssh_config", keywords⟩] {} 0).outcome? =
      some (.ok (Session.Slot.ssh.value settings)) := rfl
  have fresh : "ssh_config" ∉ named.map Prod.fst := by decide
  have visible : ∃ c ∈ "/k".toList, Text.isBlank c = false := ⟨'/', by decide, by decide⟩
  have interchanges := default_interchanges_with_argument vacant {} 0
  exact ⟨⟨⟨by decide, gives, fresh⟩,
      (interchanges named).1 .ssh keywords _ (by decide) gives fresh, rfl⟩,
    visible, by decide, (interchanges []).2 "/k" visible (by decide)⟩

end Script

/-! ## Settings settle in one reading

Scripts can spell the same settings in several ways: a number may be a numeral, and what is missing
may be `None` or left out. After one reading nothing is left of the spelling. Settings that were
read are read again from their own attributes, and serve as an argument of a resolution
(`Session.Slot.settle_in_one_reading`). Settings that scripts cannot see as they are, which no
attributes are read as, are read back as what scripts see of them.
-/

namespace Session.Slot

/-- The attribute without which no settings are read. -/
def required? : Slot → Option String
  | .ssh => some "username"
  | .kube => some "path"
  | .global => none

/-- Whether scripts cannot see settings as they are: the path of a target need not be a text. -/
def IsForeign (slot : Slot) (settings : slot.Settings) : Prop :=
  match slot, settings with
  | .ssh, _ => False
  | .kube, target => ¬ (KubeTarget.path target).IsText
  | .global, _ => False

/-- Settings as scripts see them. -/
def asShown (slot : Slot) (settings : slot.Settings) : slot.Settings :=
  match slot, settings with
  | .ssh, settings => settings
  | .kube, target => KubeTarget.asShown target
  | .global, settings => settings

variable {slot : Slot} {settings : slot.Settings}

/-- Settings that scripts cannot see as they are are read back as others. -/
theorem ofAttributes_attributes_of_isForeign (function : String)
    (foreign : slot.IsForeign settings) :
    slot.ofAttributes function (slot.attributes settings) = .ok (slot.asShown settings) ∧
      slot.asShown settings ≠ settings := by
  cases slot with
  | ssh => exact foreign.elim
  | kube =>
      refine ⟨?_, KubeTarget.asShown_ne_of_not_isText foreign⟩
      -- What is shown for bytes that are no text is not blank.
      have visible : ¬ Text.isBlankText (KubeTarget.path settings).shown = true := by
        intro blank
        have replaced := SystemText.mem_shown_of_not_isText foreign
        exact absurd (List.all_eq_true.1 blank _ replaced) (by decide)
      exact (KubeTarget.ofAttributes_toAttributes function settings).trans (if_neg visible)
  | global => exact foreign.elim

/-- Settings that scripts see as they are, and that are not usable, are refused for the attribute
that is required. -/
theorem ofAttributes_attributes_of_not_isUsable (function : String)
    (unusable : ¬ slot.IsUsable settings) (known : ¬ slot.IsForeign settings) :
    ∃ name, slot.required? = some name ∧
      slot.ofAttributes function (slot.attributes settings) =
        .error (.badArgument function name .required) := by
  cases slot with
  | ssh =>
      have unnamed : SshSettings.username settings = "" := Classical.not_not.1 unusable
      refine ⟨"username", rfl, ?_⟩
      exact (SshSettings.ofAttributes_toAttributes function settings).trans (if_pos unnamed)
  | kube =>
      have isText : (KubeTarget.path settings).IsText := Classical.not_not.1 known
      obtain ⟨path, same⟩ := isText
      have blank : Text.isBlankText path = true :=
        (Bool.eq_false_or_eq_true _).resolve_right fun visible => unusable ⟨path, same, visible⟩
      refine ⟨"path", rfl, (KubeTarget.ofAttributes_toAttributes function settings).trans ?_⟩
      rw [same, SystemText.shown_ofText, if_pos blank]
      rfl
  | global => exact absurd trivial unusable

end Session.Slot

/-- Usable settings can be given as an argument, whatever the default is. -/
theorem Inventory.sshSettings_set_of_isUsable {settings : SshSettings}
    (usable : Session.Slot.ssh.IsUsable settings) (session : Session) (arguments : Attributes) :
    sshSettings session (arguments.set "ssh_config" settings.toAttributes.value) =
      .ok settings := by
  have given : (arguments.set "ssh_config" settings.toAttributes.value).getSome? "ssh_config" =
      some settings.toAttributes.value := arguments.getSome?_set "ssh_config" rfl
  rw [sshSettings, given]
  change SshSettings.ofValue kind "ssh_config" settings.toAttributes.value = .ok settings
  rw [SshSettings.ofValue_value]
  exact Session.Slot.ofAttributes_attributes_iff.2 usable

/-- **Settings settle in one reading.** Settings that some attributes were read as are read again
from the attributes that show them. Of all settings those are read back that are usable. Of the
others, a target whose path is no text is read back as another, with the path that scripts see, and
the rest are refused for the attribute that is required. SSH settings that were read can be given as
an argument of every resolution, and are used as they are. -/
theorem Session.Slot.settle_in_one_reading (slot : Slot) (function : String) :
    (∀ attributes settings, slot.ofAttributes function attributes = .ok settings →
      slot.ofAttributes function (slot.attributes settings) = .ok settings) ∧
    (∀ settings,
      (slot.ofAttributes function (slot.attributes settings) = .ok settings ↔
        slot.IsUsable settings) ∧
      (slot.IsForeign settings →
        slot.ofAttributes function (slot.attributes settings) = .ok (slot.asShown settings) ∧
          slot.asShown settings ≠ settings) ∧
      (¬ slot.IsUsable settings → ¬ slot.IsForeign settings →
        ∃ name, slot.required? = some name ∧
          slot.ofAttributes function (slot.attributes settings) =
            .error (.badArgument function name .required))) ∧
    ∀ attributes settings, SshSettings.ofAttributes function attributes = .ok settings →
      ∀ (session : Session) (arguments : Attributes),
        Inventory.sshSettings session
          (arguments.set "ssh_config" settings.toAttributes.value) = .ok settings := by
  refine ⟨?_, ?_, ?_⟩
  · intro attributes settings read
    exact ofAttributes_attributes_iff.2 (isUsable_of_ofAttributes read)
  · intro settings
    exact ⟨ofAttributes_attributes_iff, ofAttributes_attributes_of_isForeign function,
      ofAttributes_attributes_of_not_isUsable function⟩
  · intro attributes settings read
    have usable : Slot.ssh.IsUsable settings := SshSettings.username_ne_of_ofAttributes read
    exact Inventory.sshSettings_set_of_isUsable usable

/-- A path with a byte that is no part of a character. -/
def KubeTarget.brokenPath : SystemText := ⟨(SystemText.ofText "/kube").bytes ++ [0xFF]⟩

/-- A numeral, `None` and what is left out settle; a path of blanks is refused, and one that is no
text is read back as another. -/
theorem Session.Slot.settle_in_one_reading_of_numerals :
    let attributes := Attributes.ofList [("username", .string "core"), ("port", .string " +0022\n"),
      ("max_retries", .none)]
    let settings : SshSettings := ⟨"core", 22, none, 5, 30⟩
    let blank : KubeTarget := ⟨.ofText "\u2003 ", none⟩
    let broken : KubeTarget := ⟨KubeTarget.brokenPath, none⟩
    (Slot.ssh.ofAttributes "f" attributes = .ok settings ∧
      Slot.ssh.ofAttributes "f" (Slot.ssh.attributes settings) = .ok settings) ∧
    (Slot.kube.IsForeign broken ∧
      Slot.kube.ofAttributes "f" (Slot.kube.attributes broken) =
        .ok (Slot.kube.asShown broken) ∧ Slot.kube.asShown broken ≠ broken) ∧
    (¬ Slot.kube.IsUsable blank ∧ ¬ Slot.kube.IsForeign blank ∧
      ∃ name, Slot.kube.required? = some name ∧
        Slot.kube.ofAttributes "f" (Slot.kube.attributes blank) =
          .error (.badArgument "f" name .required)) ∧
    Inventory.sshSettings {} (Attributes.empty.set "ssh_config" settings.toAttributes.value) =
      .ok settings := by
  intro attributes settings blank broken
  have read : SshSettings.ofAttributes "f" attributes = .ok settings := rfl
  have unusable : ¬ Slot.kube.IsUsable blank := by
    rintro ⟨text, same, visible⟩
    rw [← SystemText.ofText_inj.1 same] at visible
    exact absurd visible (by decide)
  have known : ¬ Slot.kube.IsForeign blank := fun foreign => foreign ⟨_, rfl⟩
  have foreign : Slot.kube.IsForeign broken :=
    (by decide : ¬ KubeTarget.brokenPath.IsText)
  obtain ⟨again, _, argument⟩ := Slot.ssh.settle_in_one_reading "f"
  obtain ⟨_, readBack, _⟩ := Slot.kube.settle_in_one_reading "f"
  obtain ⟨_, _, refused⟩ := readBack blank
  obtain ⟨_, shown, _⟩ := readBack broken
  exact ⟨⟨read, again attributes settings read⟩, ⟨foreign, shown foreign⟩,
    ⟨unusable, known, refused unusable known⟩, argument attributes settings read {} .empty⟩

/-- A path that has a character which is not blank, and a byte that is no part of one, is read back
as another path, and not refused. -/
theorem Session.Slot.broken_path_is_read_as_another :
    let target : KubeTarget := ⟨KubeTarget.brokenPath, none⟩
    let read := Slot.kube.ofAttributes "f" (Slot.kube.attributes target)
    .char '/' ∈ target.path.pieces ∧ Text.isBlank '/' = false ∧
      read = .ok ⟨.ofText "/kube\uFFFD", none⟩ ∧ read ≠ .ok target := by
  intro target read
  have foreign : Slot.kube.IsForeign target := (by decide : ¬ KubeTarget.brokenPath.IsText)
  have shown : KubeTarget.brokenPath.shown = "/kube\uFFFD" := by decide
  obtain ⟨readBack, different⟩ := Slot.ofAttributes_attributes_of_isForeign "f" foreign
  have other : Slot.kube.asShown target = (⟨.ofText "/kube\uFFFD", none⟩ : KubeTarget) := by
    change (⟨.ofText KubeTarget.brokenPath.shown, none⟩ : KubeTarget) = _
    rw [shown]
  refine ⟨by decide, by decide, readBack.trans (congrArg Except.ok other), ?_⟩
  intro same
  exact different (Except.ok.inj (readBack.symm.trans same))

end ClusterHosts
