import ClusterHosts.Proofs.Drafting
import ClusterHosts.SavedDefaults
import ClusterHosts.Value

/-! # Defaults that are kept

Records are read back as they were written, and so are saved defaults. -/

namespace ClusterHosts

/-! ## Reading records that are written

A record is written as an object with members in the order of its fields, from which members may be
left out that a record need not have. Such an object is read as the record if each member is read as
its field (`RecordForm.read_of_written`).
-/

section

variable {σ : Type}

/-- Members in the order of fields, each of which is read as its field, and the record that reading
them makes of another. -/
inductive Written : List (RecordField σ) → σ → List (String × Json) → σ → Prop where
  | nil {record : σ} : Written [] record [] record
  | leftOut {field : RecordField σ} {fields : List (RecordField σ)} {record final : σ}
      {members : List (String × Json)} (optional : field.required = false)
      (later : Written fields record members final) :
      Written (field :: fields) record members final
  | member {field : RecordField σ} {fields : List (RecordField σ)} {record next final : σ}
      {value : Json} {members : List (String × Json)}
      (read : field.read value.draft record = .ok next)
      (later : Written fields next members final) :
      Written (field :: fields) record ((field.name, value) :: members) final

/-- A field that may be left out, of a record that is the same with nothing in the field. -/
theorem Written.optional {α : Type} {field : RecordField σ} {fields : List (RecordField σ)}
    {members : List (String × Json)} {final : σ} (encode : α → Json) (fill : Option α → σ)
    (optional : field.required = false)
    (read : ∀ found, field.read (encode found).draft (fill none) = .ok (fill (some found)))
    {given : Option α} (later : Written fields (fill given) members final) :
    Written (field :: fields) (fill none)
      (SavedDefaults.optionalMember field.name (given.map encode) ++ members) final := by
  cases given with
  | none => exact .leftOut optional later
  | some found => exact .member (read found) later

namespace RecordForm

variable {form : RecordForm σ}

/-- Among fields with distinct names each is found under its name. -/
theorem find?_of_mem {fields : List (RecordField σ)} {field : RecordField σ}
    (distinct : (fields.map RecordField.name).Nodup) (member : field ∈ fields) :
    fields.find? (fun other => other.name == field.name) = some field := by
  induction fields with
  | nil => cases member
  | cons head fields ih =>
      obtain ⟨fresh, rest⟩ := List.nodup_cons.1 distinct
      rcases List.mem_cons.1 member with rfl | later
      · simp
      · have apart : (head.name == field.name) = false :=
          beq_false_of_ne fun same => fresh (same ▸ List.mem_map_of_mem later)
        rw [List.find?_cons, apart]
        exact ih rest later

/-- A member with a fresh name is read by its field. -/
theorem readMembers_field {field : RecordField σ} {record next : σ} {names : List String}
    {value : Draft} {members : List (Except SyntaxError String × Draft)}
    (found : form.fields.find? (fun other => other.name == field.name) = some field)
    (fresh : field.name ∉ names) (read : field.read value record = .ok next) :
    form.readMembers record names ((.ok field.name, value) :: members) =
      form.readMembers next (field.name :: names) members := by
  have new : names.contains field.name = false := by simpa using fresh
  simp only [readMembers, Draft.orNotJson, bind, Except.bind, found, new, read, Bool.false_eq_true,
    ↓reduceIte]

/-- Members that are written in order are read in order, those of all fields that the record must
have among them. -/
theorem readMembers_of_written {fields : List (RecordField σ)} {record final : σ}
    {members : List (String × Json)} (written : Written fields record members final)
    (found : ∀ field ∈ fields,
      form.fields.find? (fun other => other.name == field.name) = some field)
    (distinct : (fields.map RecordField.name).Nodup) {names : List String}
    (fresh : ∀ field ∈ fields, field.name ∉ names) :
    ∃ read, form.readMembers record names (Json.memberDrafts members) = .ok (final, read) ∧
      names ⊆ read ∧ ∀ field ∈ fields, field.required = true → field.name ∈ read := by
  -- By induction on how the members were written; `names` are the fields that were read before.
  induction written generalizing names with
  | nil =>
      rw [Json.memberDrafts]
      exact ⟨names, rfl, List.Subset.refl names, fun _ member => nomatch member⟩
  | @leftOut field fields record final members optional later ih =>
      rw [List.forall_mem_cons] at found fresh
      obtain ⟨_, rest⟩ := List.nodup_cons.1 distinct
      obtain ⟨read, reads, kept, complete⟩ := ih found.2 rest fresh.2
      refine ⟨read, reads, kept, List.forall_mem_cons.2 ⟨?_, complete⟩⟩
      intro required
      rw [optional] at required
      cases required
  | @member field fields record next final value members readsField later ih =>
      rw [List.forall_mem_cons] at found fresh
      obtain ⟨apart, rest⟩ := List.nodup_cons.1 distinct
      have stillFresh : ∀ other ∈ fields, other.name ∉ field.name :: names := by
        intro other member
        rw [List.mem_cons, not_or]
        exact ⟨fun same => apart (same ▸ List.mem_map_of_mem member), fresh.2 other member⟩
      obtain ⟨read, reads, kept, complete⟩ := ih found.2 rest stillFresh
      obtain ⟨here, others⟩ := List.cons_subset.1 kept
      refine ⟨read, ?_, others, List.forall_mem_cons.2 ⟨fun _ => here, complete⟩⟩
      rw [Json.memberDrafts, readMembers_field found.1 fresh.1 readsField, reads]

/-- Nothing is missing if all fields that are required are there. -/
theorem refuseMissing_eq_ok_iff {names : List String} :
    form.refuseMissing names = .ok () ↔
      ∀ field ∈ form.fields, field.required = true → field.name ∈ names := by
  unfold refuseMissing
  cases found : form.fields.find? fun field => field.required && !names.contains field.name with
  | some field =>
      have absent := List.find?_some found
      refine iff_of_false (fun accepted => by cases accepted) fun complete => ?_
      have listed := complete field (List.mem_of_find?_eq_some found)
      simp_all
  | none =>
      refine iff_of_true rfl fun field member required => ?_
      simpa [required] using List.find?_eq_none.1 found field member

/-- An object is read as what its members are read as, if none is missing that it must have. -/
theorem read_object_eq_ok_iff {members : List (String × Json)} {record : σ} :
    form.read (Json.object members).draft = .ok record ↔
      ∃ names, form.readMembers form.start [] (Json.memberDrafts members) = .ok (record, names) ∧
        ∀ field ∈ form.fields, field.required = true → field.name ∈ names := by
  simp only [← refuseMissing_eq_ok_iff]
  constructor
  · intro reads
    obtain ⟨⟨found, names⟩, readsMembers, rest⟩ := Outcome.bind_eq_ok.1 reads
    obtain ⟨_, complete, rest⟩ := Outcome.bind_eq_ok.1 rest
    cases rest
    exact ⟨names, readsMembers, complete⟩
  · rintro ⟨names, readsMembers, complete⟩
    refine Outcome.bind_eq_ok.2 ⟨(record, names), readsMembers, ?_⟩
    exact Outcome.bind_eq_ok.2 ⟨(), complete, rfl⟩

/-- **Reading is the inverse of writing.** An object of members that are written in order is read as
their record. -/
theorem read_of_written (distinct : (form.fields.map RecordField.name).Nodup)
    {members : List (String × Json)} {record : σ}
    (written : Written form.fields form.start members record) :
    form.read (Json.object members).draft = .ok record := by
  have found := fun field member => @find?_of_mem σ form.fields field distinct member
  obtain ⟨names, reads, _, complete⟩ :=
    @readMembers_of_written σ form _ _ _ _ written found distinct [] fun _ _ => List.not_mem_nil
  exact read_object_eq_ok_iff.2 ⟨names, reads, complete⟩

/-- A text that is laid out from a value is parsed as the value is read. -/
theorem parse_renderPretty {value : Json} (exact : value.IsExact) :
    form.parse value.renderPretty = form.read value.draft := by
  simp only [parse, Draft.ofText_renderPretty exact, bind, Except.bind]
  cases form.read value.draft <;> rfl

end RecordForm

end

/-! ## Values that are kept between runs

The text that is saved of values is read back as these values (`SavedDefaults.parse_text`). Settings
with nothing in them are told from settings that are missing, and numbers that are equal to a
default are written and read like all others.
-/

/-! ### Numbers and objects -/

/-- A natural number of few enough bits is read back. -/
theorem Draft.natural_integer {bits n : Nat} (below : n < Nat.pow 2 bits) :
    (Json.integer n).draft.natural bits = .ok n := by
  have fits : 0 ≤ (n : Int) ∧ (n : Int) < (Nat.pow 2 bits : Nat) :=
    ⟨Int.natCast_nonneg n, Int.ofNat_lt.2 below⟩
  change (if 0 ≤ (n : Int) ∧ (n : Int) < (Nat.pow 2 bits : Nat) then _ else _) = _
  rw [if_pos fits, Int.toNat_natCast]

/-- A field of 16 bits is filled with the number that was written. -/
theorem Draft.fill_word16 {α : Type} (word : UInt16) (fill : UInt16 → α) :
    (do pure (fill (UInt16.ofNat (← (Json.integer word.toNat).draft.natural 16))) :
      Except DecodeError α) = .ok (fill word) := by
  rw [natural_integer word.toNat_lt]
  exact congrArg (fun word => Except.ok (fill word)) UInt16.ofNat_toNat

/-- A field of 32 bits is filled with the number that was written. -/
theorem Draft.fill_word32 {α : Type} (word : UInt32) (fill : UInt32 → α) :
    (do pure (fill (UInt32.ofNat (← (Json.integer word.toNat).draft.natural 32))) :
      Except DecodeError α) = .ok (fill word) := by
  rw [natural_integer word.toNat_lt]
  exact congrArg (fun word => Except.ok (fill word)) UInt32.ofNat_toNat

/-- A field for settings, or for nothing, is filled with the settings that were written. -/
theorem Draft.fill_object {α β : Type} {read : Draft → Except DecodeError α}
    {members : List (String × Json)} {found : α}
    (reads : read (Json.object members).draft = .ok found) (fill : Option α → β) :
    (do pure (fill (← (Json.object members).draft.nullable read)) : Except DecodeError β) =
      .ok (fill (some found)) := by
  have given : (Json.object members).draft.nullable read = .ok (some found) :=
    congrArg (Except.map some) reads
  rw [given]
  rfl

/-! ### Settings and saved values -/

/-- A member that may be missing can be read back if its value can. -/
theorem SavedDefaults.membersExact_optionalMember {α : Type} {encode : α → Json}
    (exact : ∀ found, (encode found).IsExact) (name : String) (given : Option α) :
    Json.MembersExact (optionalMember name (given.map encode)) := by
  cases given with
  | none =>
      simp only [Option.map_none, optionalMember, Json.MembersExact]
  | some found =>
      simp only [Option.map_some, optionalMember, Json.MembersExact, and_true]
      exact exact found

theorem SavedDefaults.membersExact_text (name : String) (text : Option String) :
    Json.MembersExact (optionalMember name (text.map .string)) :=
  membersExact_optionalMember (fun _ => by simp only [Json.IsExact]) name text

namespace SshSettings

variable (settings : SshSettings)

/-- The members of the settings. -/
theorem json_eq :
    settings.json = .object (
      ("username", .string settings.username) :: ("port", .integer settings.port.toNat) ::
      (SavedDefaults.optionalMember "private_key_path" (settings.privateKeyPath.map .string) ++
      [("max_retries", .integer settings.maxRetries.toNat),
        ("conn_timeout", .integer settings.connTimeout.toNat)])) := by
  unfold json
  cases settings.privateKeyPath <;> rfl

/-- Settings are read back from their JSON. -/
theorem read_json : form.read settings.json.draft = .ok settings := by
  obtain ⟨username, port, privateKeyPath, maxRetries, connTimeout⟩ := settings
  rw [json_eq]
  have readsPort := Draft.fill_word16 port fun port =>
    (⟨username, port, none, 5, 30⟩ : SshSettings)
  have readsRetries := Draft.fill_word32 maxRetries fun retries =>
    (⟨username, port, privateKeyPath, retries, 30⟩ : SshSettings)
  have readsTimeout := Draft.fill_word32 connTimeout fun seconds =>
    (⟨username, port, privateKeyPath, maxRetries, seconds⟩ : SshSettings)
  refine RecordForm.read_of_written (by decide) ?_
  refine .member rfl (.member readsPort ?_)
  exact .optional Json.string (fun path => (⟨username, port, path, 5, 30⟩ : SshSettings)) rfl
    (fun _ => rfl) (.member readsRetries (.member readsTimeout .nil))

/-- All numbers among the settings fit into 64 bits. -/
theorem isExact_json : settings.json.IsExact := by
  have size : UInt64.size = 18446744073709551616 := rfl
  have port := settings.port.toNat_lt
  have maxRetries := settings.maxRetries.toNat_lt
  have connTimeout := settings.connTimeout.toNat_lt
  rw [json_eq]
  simp only [Json.IsExact, Json.MembersExact, Json.membersExact_append,
    SavedDefaults.membersExact_text, true_and, and_true]
  exact ⟨Json.isExact_integer (by omega), Json.isExact_integer (by omega),
    Json.isExact_integer (by omega)⟩

end SshSettings

/-- The JSON of global settings has a member for each of them that is there. -/
theorem GlobalSettings.json_eq (settings : GlobalSettings) :
    settings.json = .object (
      SavedDefaults.optionalMember "uid" (settings.uid.map .string) ++
      (SavedDefaults.optionalMember "gid" (settings.gid.map .string) ++
      (SavedDefaults.optionalMember "workdir" (settings.workdir.map .string) ++
      (SavedDefaults.optionalMember "output_path" (settings.outputPath.map .string) ++ [])))) := by
  obtain ⟨uid, gid, workdir, outputPath⟩ := settings
  cases uid <;> cases gid <;> cases workdir <;> cases outputPath <;> rfl

theorem GlobalSettings.isExact_json (settings : GlobalSettings) : settings.json.IsExact := by
  rw [settings.json_eq]
  simp only [Json.IsExact, Json.MembersExact, Json.membersExact_append,
    SavedDefaults.membersExact_text, true_and]

/-- Global settings are read back from their JSON. -/
theorem GlobalSettings.read_json (settings : GlobalSettings) :
    form.read settings.json.draft = .ok settings := by
  obtain ⟨uid, gid, workdir, outputPath⟩ := settings
  rw [json_eq]
  refine RecordForm.read_of_written (by decide) ?_
  refine .optional Json.string (fun uid => (⟨uid, none, none, none⟩ : GlobalSettings)) rfl
    (fun _ => rfl) ?_
  refine .optional Json.string (fun gid => (⟨uid, gid, none, none⟩ : GlobalSettings)) rfl
    (fun _ => rfl) ?_
  refine .optional Json.string (fun workdir => (⟨uid, gid, workdir, none⟩ : GlobalSettings)) rfl
    (fun _ => rfl) ?_
  exact .optional Json.string (fun path => (⟨uid, gid, workdir, path⟩ : GlobalSettings)) rfl
    (fun _ => rfl) .nil

namespace SavedDefaults

variable {defaults : SavedDefaults}

/-- Values that there is a text for: their path is a text, if they have one. -/
def IsStorable (defaults : SavedDefaults) : Prop :=
  ∀ path, defaults.kubeconfig = some path → path.IsText

/-- The JSON of defaults has their path as the text that it is. -/
theorem json?_eq_some_iff {value : Json} :
    defaults.json? = some value ↔
      ∃ path : Option String, defaults.kubeconfig = path.map .ofText ∧
        defaults.jsonWith path = value := by
  unfold json?
  cases defaults.kubeconfig with
  | none => simp [eq_comm]
  | some raw =>
      rw [Option.map_eq_some_iff]
      constructor
      · rintro ⟨text, same, written⟩
        exact ⟨some text, congrArg some (SystemText.text?_eq_some_iff.1 same), written⟩
      · rintro ⟨_ | text, same, written⟩
        · cases same
        · exact ⟨text, SystemText.text?_eq_some_iff.2 (Option.some.inj same), written⟩

/-- There is a text for defaults if their path, where they have one, is a text. -/
theorem exists_text?_iff : (∃ text, defaults.text? = some text) ↔ defaults.IsStorable := by
  simp only [text?, Option.map_eq_some_iff, json?_eq_some_iff]
  constructor
  · rintro ⟨_, _, ⟨path, same, _⟩, _⟩ raw named
    rw [same] at named
    obtain ⟨text, _, rfl⟩ := Option.map_eq_some_iff.1 named
    exact ⟨text, rfl⟩
  · intro storable
    cases named : defaults.kubeconfig with
    | none => exact ⟨_, _, ⟨none, rfl, rfl⟩, rfl⟩
    | some raw =>
        obtain ⟨text, same⟩ := storable raw named
        exact ⟨_, _, ⟨some text, congrArg some same, rfl⟩, rfl⟩

/-- There is no text for values if they cannot be stored. -/
theorem text?_eq_none_iff : defaults.text? = none ↔ ¬ defaults.IsStorable := by
  rw [← exists_text?_iff, Option.eq_none_iff_forall_ne_some, not_exists]

/-- Defaults are read back from their JSON. -/
theorem read_jsonWith (path : Option String) (defaults : SavedDefaults) :
    form.read (defaults.jsonWith path).draft =
      .ok { defaults with kubeconfig := path.map .ofText } := by
  obtain ⟨_, clusterContext, ssh, global⟩ := defaults
  have members (kubeconfig : Option SystemText) :
      jsonWith path ⟨kubeconfig, clusterContext, ssh, global⟩ = .object (
        optionalMember "kubeconfig" (path.map .string) ++
        (optionalMember "context" (clusterContext.map .string) ++
        (optionalMember "ssh" (ssh.map SshSettings.json) ++
        (optionalMember "global" (global.map GlobalSettings.json) ++ [])))) := by
    simp only [jsonWith, List.append_assoc, List.append_nil]
  have readsSsh (settings : SshSettings) := Draft.fill_object settings.read_json fun ssh =>
    (⟨path.map .ofText, clusterContext, ssh, none⟩ : SavedDefaults)
  have readsGlobal (settings : GlobalSettings) := Draft.fill_object settings.read_json fun global =>
    (⟨path.map .ofText, clusterContext, ssh, global⟩ : SavedDefaults)
  rw [members]
  refine RecordForm.read_of_written (by decide) ?_
  refine .optional Json.string
    (fun path => (⟨path.map .ofText, none, none, none⟩ : SavedDefaults)) rfl (fun _ => rfl) ?_
  refine .optional Json.string
    (fun context => (⟨path.map .ofText, context, none, none⟩ : SavedDefaults)) rfl
    (fun _ => rfl) ?_
  refine .optional SshSettings.json
    (fun ssh => (⟨path.map .ofText, clusterContext, ssh, none⟩ : SavedDefaults)) rfl ?_
    (.optional GlobalSettings.json
      (fun global => (⟨path.map .ofText, clusterContext, ssh, global⟩ : SavedDefaults)) rfl ?_
      .nil)
  · exact readsSsh
  · exact readsGlobal

/-- All numbers that are saved fit into 64 bits. -/
theorem isExact_jsonWith (path : Option String) (defaults : SavedDefaults) :
    (defaults.jsonWith path).IsExact := by
  simp only [jsonWith, Json.IsExact, Json.membersExact_append, membersExact_text, true_and]
  exact ⟨membersExact_optionalMember SshSettings.isExact_json _ _,
    membersExact_optionalMember GlobalSettings.isExact_json _ _⟩

/-- **Saving loses nothing.** The text of values is parsed as these values. -/
theorem parse_of_text? {text : String} (kept : defaults.text? = some text) :
    parse text = .ok defaults := by
  obtain ⟨value, written, rfl⟩ := Option.map_eq_some_iff.1 kept
  obtain ⟨path, same, rfl⟩ := json?_eq_some_iff.1 written
  rw [parse, RecordForm.parse_renderPretty (isExact_jsonWith path defaults), read_jsonWith, ← same]

end SavedDefaults

end ClusterHosts
