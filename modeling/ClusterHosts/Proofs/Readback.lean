import ClusterHosts.Proofs.Attributes
import ClusterHosts.Proofs.Demands
import ClusterHosts.Proofs.Script

/-! # Settings read back from their attributes

Settings are shown to scripts as attributes, and scripts can give attributes as settings. What comes
back is what was shown, unless no script could have given it in the first place: SSH settings need a
user name, and a target needs a path that is not blank (`Session.Slot.ofAttributes_attributes_iff`).
-/

namespace ClusterHosts

namespace Attributes

variable {attributes : Attributes} {name : String}

/-- An optional text is read back from its attribute. -/
theorem optionalText_of_get? (function : String) {text : Option String}
    (found : attributes.get? name = some (.ofText? text)) :
    attributes.optionalText function name = .ok text := by
  rw [optionalText, getSome?, found]
  cases text <;> rfl

/-- A number of 32 bits is read back from its attribute. -/
theorem optionalNumber_of_get? (function : String) {n : Nat} (small : n < UInt32.size)
    (found : attributes.get? name = some (.ofNat n)) :
    attributes.optionalNumber function name = .ok (some (UInt32.ofNat n)) := by
  have size : UInt32.size = 4294967296 := rfl
  have exact : (Int64.ofNat n).toInt = n := Int64.toInt_ofNat_of_lt (by omega)
  have word := (Value.Denotes.int exact small).word?_eq
  have something : attributes.getSome? name = some (.int (Int64.ofNat n)) := by
    rw [getSome?, found]
    rfl
  simp only [optionalNumber, something, optionalNumber.number, word]

theorem refuseUnknown_of_forall (function : String) {known : List String}
    (all : ∀ name ∈ attributes.names, name ∈ known) :
    attributes.refuseUnknown function known = .ok () := by
  have none : attributes.names.find? (fun name => !known.contains name) = none := by
    rw [List.find?_eq_none]
    intro name member
    simpa using all name member
  rw [refuseUnknown, none]

end Attributes

namespace SshSettings

/-- The keywords that give all settings of connections. -/
def keywords (settings : SshSettings) : List (String × Value) := [
  ("username", .string settings.username), ("port", .ofNat settings.port.toNat),
  ("private_key_path", .ofText? settings.privateKeyPath),
  ("max_retries", .ofNat settings.maxRetries.toNat),
  ("conn_timeout", .ofNat settings.connTimeout.toNat)]

/-- The attributes of settings have distinct names. -/
theorem nodup_keywords (settings : SshSettings) : (settings.keywords.map Prod.fst).Nodup :=
  (by decide : attributeNames.Nodup)

/-- What stands under a name in settings is known from their keywords. -/
theorem get?_toAttributes (settings : SshSettings) (name : String) :
    settings.toAttributes.get? name = settings.keywords.lookup name :=
  Attributes.get?_ofList settings.nodup_keywords name

/-- **SSH settings are read back if they have a user name.** -/
theorem ofAttributes_toAttributes (function : String) (settings : SshSettings) :
    ofAttributes function settings.toAttributes =
      if settings.username = "" then .error (.badArgument function "username" .required)
      else .ok settings := by
  have found := settings.get?_toAttributes
  have known : settings.toAttributes.refuseUnknown function attributeNames = .ok () :=
    Attributes.refuseUnknown_of_forall function fun _ => Attributes.mem_of_mem_names_ofList
  have username : settings.toAttributes.optionalText function "username" =
      .ok (some settings.username) :=
    Attributes.optionalText_of_get? function (found "username")
  have port : readPort function settings.toAttributes = .ok settings.port := by
    have below : settings.port.toNat < UInt16.size := settings.port.toNat_lt
    have size : UInt16.size = 65536 ∧ UInt32.size = 4294967296 := ⟨rfl, rfl⟩
    have small : settings.port.toNat < UInt32.size := by omega
    have number := Attributes.optionalNumber_of_get? function small (found "port")
    rw [readPort, number]
    change (if _ then _ else _) = _
    rw [UInt32.toNat_ofNat_of_lt' small, if_pos below, UInt32.toUInt16_ofNat', UInt16.ofNat_toNat]
    rfl
  have privateKeyPath : settings.toAttributes.optionalText function "private_key_path" =
      .ok settings.privateKeyPath :=
    Attributes.optionalText_of_get? function (found "private_key_path")
  have maxRetries : settings.toAttributes.optionalNumber function "max_retries" =
      .ok (some settings.maxRetries) := by
    rw [Attributes.optionalNumber_of_get? function settings.maxRetries.toNat_lt
      (found "max_retries"), UInt32.ofNat_toNat]
  have connTimeout : settings.toAttributes.optionalNumber function "conn_timeout" =
      .ok (some settings.connTimeout) := by
    rw [Attributes.optionalNumber_of_get? function settings.connTimeout.toNat_lt
      (found "conn_timeout"), UInt32.ofNat_toNat]
  simp only [ofAttributes, readUsername, known, username, port, privateKeyPath, maxRetries,
    connTimeout, bind, Except.bind, pure, Except.pure]
  by_cases unnamed : settings.username = ""
  · simp [unnamed, throw, throwThe, MonadExceptOf.throw]
  · have nonempty : settings.username.isEmpty = false := by simpa using unnamed
    simp [unnamed, nonempty]

/-- Settings that are read are what was read one after the other. -/
theorem reads_of_ofAttributes {function : String} {attributes : Attributes}
    {settings : SshSettings} (read : ofAttributes function attributes = .ok settings) :
    readUsername function attributes = .ok settings.username ∧
      readPort function attributes = .ok settings.port ∧
      attributes.optionalText function "private_key_path" = .ok settings.privateKeyPath ∧
      ∃ maxRetries connTimeout,
        attributes.optionalNumber function "max_retries" = .ok maxRetries ∧
        attributes.optionalNumber function "conn_timeout" = .ok connTimeout ∧
        settings.maxRetries = maxRetries.getD 5 ∧ settings.connTimeout = connTimeout.getD 30 := by
  unfold ofAttributes at read
  obtain ⟨_, _, read⟩ := Outcome.bind_eq_ok.1 read
  obtain ⟨username, usernameRead, read⟩ := Outcome.bind_eq_ok.1 read
  obtain ⟨port, portRead, read⟩ := Outcome.bind_eq_ok.1 read
  obtain ⟨privateKeyPath, pathRead, read⟩ := Outcome.bind_eq_ok.1 read
  obtain ⟨maxRetries, retriesRead, read⟩ := Outcome.bind_eq_ok.1 read
  obtain ⟨connTimeout, timeoutRead, read⟩ := Outcome.bind_eq_ok.1 read
  cases read
  exact ⟨usernameRead, portRead, pathRead, maxRetries, connTimeout, retriesRead, timeoutRead, rfl,
    rfl⟩

/-- Settings that are read have a user name. -/
theorem username_ne_of_ofAttributes {function : String} {attributes : Attributes}
    {settings : SshSettings} (read : ofAttributes function attributes = .ok settings) :
    settings.username ≠ "" := by
  obtain ⟨_, nonempty⟩ := username_of_readUsername (reads_of_ofAttributes read).1
  simpa using nonempty

end SshSettings

/-! ### Targets -/

/-- Bytes are a text that is not blank. -/
def SystemText.IsVisible (raw : SystemText) : Prop :=
  ∃ text, raw = ofText text ∧ Text.isBlankText text = false

namespace KubeTarget

/-- The keywords that name a target. -/
def keywords (target : KubeTarget) : List (String × Value) := [
  ("path", .string target.path.shown), ("cluster_context", .ofText? target.clusterContext)]

/-- A target with its path as scripts see it. -/
def asShown (target : KubeTarget) : KubeTarget := { target with path := .ofText target.path.shown }

/-- The attributes of a target have distinct names. -/
theorem nodup_keywords (target : KubeTarget) : (target.keywords.map Prod.fst).Nodup :=
  (by decide : attributeNames.Nodup)

/-- What stands under a name in a target is known from its keywords. -/
theorem get?_toAttributes (target : KubeTarget) (name : String) :
    target.toAttributes.get? name = target.keywords.lookup name :=
  Attributes.get?_ofList target.nodup_keywords name

/-- **A target is read back with its path as it is shown, if that is not blank.** -/
theorem ofAttributes_toAttributes (function : String) (target : KubeTarget) :
    ofAttributes function target.toAttributes =
      if Text.isBlankText target.path.shown then .error (.badArgument function "path" .required)
      else .ok target.asShown := by
  have found := target.get?_toAttributes
  have known : target.toAttributes.refuseUnknown function attributeNames = .ok () :=
    Attributes.refuseUnknown_of_forall function fun _ => Attributes.mem_of_mem_names_ofList
  have path : target.toAttributes.optionalText function "path" = .ok (some target.path.shown) :=
    Attributes.optionalText_of_get? function (found "path")
  have clusterContext : target.toAttributes.optionalText function "cluster_context" =
      .ok target.clusterContext :=
    Attributes.optionalText_of_get? function (found "cluster_context")
  simp only [ofAttributes, readPath, known, path, clusterContext, bind, Except.bind, pure,
    Except.pure]
  by_cases blank : Text.isBlankText target.path.shown = true
  · simp [blank, throw, throwThe, MonadExceptOf.throw]
  · simp [blank, asShown]

/-- A target that is read has the path and the context that were read. -/
theorem reads_of_ofAttributes {function : String} {attributes : Attributes} {target : KubeTarget}
    (read : ofAttributes function attributes = .ok target) :
    (∃ path, readPath function attributes = .ok path ∧ target.path = .ofText path) ∧
      attributes.optionalText function "cluster_context" = .ok target.clusterContext := by
  unfold ofAttributes at read
  obtain ⟨_, _, read⟩ := Outcome.bind_eq_ok.1 read
  obtain ⟨path, pathRead, read⟩ := Outcome.bind_eq_ok.1 read
  obtain ⟨clusterContext, contextRead, read⟩ := Outcome.bind_eq_ok.1 read
  cases read
  exact ⟨⟨path, pathRead, rfl⟩, contextRead⟩

/-- A target that is read has a path that is a text and not blank. -/
theorem isVisible_path_of_ofAttributes {function : String} {attributes : Attributes}
    {target : KubeTarget} (read : ofAttributes function attributes = .ok target) :
    target.path.IsVisible := by
  obtain ⟨⟨path, pathRead, same⟩, _⟩ := reads_of_ofAttributes read
  exact ⟨path, same, (path_of_readPath pathRead).2⟩

/-- A target whose path is a text is shown as it is. -/
theorem asShown_of_isText {target : KubeTarget} (isText : target.path.IsText) :
    target.asShown = target := by
  obtain ⟨path, same⟩ := isText
  rw [asShown, same, SystemText.shown_ofText, ← same]

/-- A target whose path is no text is shown as another. -/
theorem asShown_ne_of_not_isText {target : KubeTarget} (foreign : ¬ target.path.IsText) :
    target.asShown ≠ target := by
  intro same
  exact foreign ⟨_, (congrArg path same).symm⟩

end KubeTarget

/-- Settings of the whole session are read back. -/
theorem GlobalSettings.ofAttributes_toAttributes (function : String) (settings : GlobalSettings) :
    ofAttributes function settings.toAttributes = .ok settings := by
  have distinct : ((settings.texts.map fun entry =>
      (entry.1, Value.ofText? entry.2)).map Prod.fst).Nodup := (by decide : attributeNames.Nodup)
  have found := Attributes.get?_ofList distinct
  have known : settings.toAttributes.refuseUnknown function attributeNames = .ok () :=
    Attributes.refuseUnknown_of_forall function fun _ => Attributes.mem_of_mem_names_ofList
  have text {name : String} {text : Option String}
      (shown : settings.toAttributes.get? name = some (.ofText? text)) :
      settings.toAttributes.optionalText function name = .ok text :=
    Attributes.optionalText_of_get? function shown
  rw [ofAttributes, known, text (found "uid"), text (found "gid"), text (found "workdir"),
    text (found "output_path")]
  rfl

namespace Session.Slot

/-- Settings as attributes. -/
def attributes (slot : Slot) (settings : slot.Settings) : Attributes :=
  match slot, settings with
  | .ssh, settings => SshSettings.toAttributes settings
  | .kube, target => KubeTarget.toAttributes target
  | .global, settings => GlobalSettings.toAttributes settings

/-- Whether settings have what scripts must give: SSH settings a user name, and a target a path that
is a text and not blank. -/
def IsUsable (slot : Slot) (settings : slot.Settings) : Prop :=
  match slot, settings with
  | .ssh, settings => SshSettings.username settings ≠ ""
  | .kube, target => (KubeTarget.path target).IsVisible
  | .global, _ => True

variable {slot : Slot} {settings : slot.Settings} {function : String}

/-- Settings that are read from attributes are usable. -/
theorem isUsable_of_ofAttributes {attributes : Attributes}
    (read : slot.ofAttributes function attributes = .ok settings) : slot.IsUsable settings := by
  cases slot with
  | ssh => exact SshSettings.username_ne_of_ofAttributes read
  | kube => exact KubeTarget.isVisible_path_of_ofAttributes read
  | global => trivial

/-- **Settings are read back from their attributes if and only if they are usable.** -/
theorem ofAttributes_attributes_iff :
    slot.ofAttributes function (slot.attributes settings) = .ok settings ↔
      slot.IsUsable settings := by
  refine ⟨isUsable_of_ofAttributes, fun usable => ?_⟩
  cases slot with
  | ssh => exact (SshSettings.ofAttributes_toAttributes function settings).trans (if_neg usable)
  | kube =>
      obtain ⟨path, same, visible⟩ := usable
      refine (KubeTarget.ofAttributes_toAttributes function settings).trans ?_
      rw [same, SystemText.shown_ofText, if_neg (Bool.eq_false_iff.1 visible),
        KubeTarget.asShown_of_isText ⟨path, same⟩]
      rfl
  | global => exact GlobalSettings.ofAttributes_toAttributes function settings

/-- Keywords with distinct names are read as the attributes of their struct. -/
theorem ofKeywords_of_nodup {keywords : List (String × Value)}
    (distinct : (keywords.map Prod.fst).Nodup) :
    slot.ofKeywords keywords = slot.ofAttributes slot.name (.ofList keywords) := by
  rw [ofKeywords, Attributes.ofKeywords_of_nodup _ distinct]
  rfl

theorem isUsable_of_ofKeywords {keywords : List (String × Value)}
    (read : slot.ofKeywords keywords = .ok settings) : slot.IsUsable settings := by
  obtain ⟨_, _, read⟩ := Outcome.bind_eq_ok.1 read
  exact isUsable_of_ofAttributes read

end Session.Slot

end ClusterHosts
