import ClusterHosts.Proofs.Acceptance
import ClusterHosts.Proofs.Drafting
import ClusterHosts.Proofs.Kept
import ClusterHosts.Settings

/-! # Scripts and files agree on settings

Settings in a file are accepted if a script could give them, member by member
(`settings_agree_in_script_and_file`). -/

namespace ClusterHosts

/-! ## Records by their members

A record is read from an object member by member, in whatever order the members stand. What the
reading of each field keeps up between the record and the members that were read as fields holds of
the whole (`RecordForm.Keeps.holds_of_read`). An object is read if each of its members can be, and
none is missing (`RecordForm.exists_read`).
-/

/-- A result is decoded of a member, or is a default where the member is missing. -/
inductive Decoded {β : Type} (decode : Draft → Except DecodeError β) (default : β) :
    Option Json → β → Prop where
  | missing : Decoded decode default none default
  | member {value : Json} {result : β} (decodes : decode value.draft = .ok result) :
      Decoded decode default (some value) result

namespace RecordForm

variable {σ : Type} {form : RecordForm σ} {record final : σ} {names seen : List String}
  {members : List (String × Json)}

/-- What the reading of a member does: it skips the member, or reads it as a field that was not read
before. -/
theorem readMembers_cons {name : String} {value : Draft}
    {members : List (Except SyntaxError String × Draft)}
    (reads : form.readMembers record names ((.ok name, value) :: members) = .ok (final, seen)) :
    (name ∉ form.fields.map RecordField.name ∧
      form.readMembers record names members = .ok (final, seen)) ∨
    ∃ field ∈ form.fields, field.name = name ∧ name ∉ names ∧ ∃ next,
      field.read value record = .ok next ∧
        form.readMembers next (name :: names) members = .ok (final, seen) := by
  rw [readMembers] at reads
  obtain ⟨found, isName, reads⟩ := Outcome.bind_eq_ok.1 reads
  cases isName
  split at reads
  · next unknown =>
      obtain ⟨_, _, reads⟩ := Outcome.bind_eq_ok.1 reads
      refine .inl ⟨fun known => ?_, reads⟩
      obtain ⟨field, member, rfl⟩ := List.mem_map.1 known
      exact List.find?_eq_none.1 unknown field member (beq_self_eq_true _)
  · next field known =>
      split at reads
      · cases reads
      · next fresh =>
          obtain ⟨next, readsField, reads⟩ := Outcome.bind_eq_ok.1 reads
          have named : (field.name == name) = true := by simpa using List.find?_some known
          have inside := List.mem_of_find?_eq_some known
          refine .inr ⟨field, inside, eq_of_beq named, ?_, next, readsField, reads⟩
          simpa using fresh

/-- No other fields are read than those that there are members for. -/
theorem subset_of_readMembers
    (reads : form.readMembers record names (Json.memberDrafts members) = .ok (final, seen)) :
    seen ⊆ members.map Prod.fst ++ names := by
  induction members generalizing record names with
  | nil =>
      cases reads
      exact List.Subset.refl _
  | cons member members ih =>
      rcases readMembers_cons reads with ⟨_, reads⟩ | ⟨_, _, _, _, _, _, reads⟩
      · exact List.Subset.trans (ih reads) (List.subset_cons_self _ _)
      · intro other isRead
        have found := ih reads isRead
        simp only [List.mem_append, List.mem_cons, List.map_cons] at found ⊢
        rcases found with later | rfl | earlier
        · exact .inl (.inr later)
        · exact .inl (.inl rfl)
        · exact .inr earlier

/-- An object that is read has all members that it must have. -/
theorem mem_of_required (reads : form.read (Json.object members).draft = .ok final)
    {field : RecordField σ} (member : field ∈ form.fields) (required : field.required = true) :
    field.name ∈ members.map Prod.fst := by
  obtain ⟨seen, reads, complete⟩ := read_object_eq_ok_iff.1 reads
  simpa using subset_of_readMembers reads (complete field member required)

/-! ### What holds of a record and its members -/

section Holds

/-- Reading a field keeps up a relation between the members that were read as fields, by their
names, and the record. -/
def Keeps (form : RecordForm σ) (Holds : (String → Option Json) → σ → Prop) : Prop :=
  ∀ field ∈ form.fields, ∀ given record value next, Holds given record →
    field.read value.draft record = .ok next →
    Holds (fun name => if name = field.name then some value else given name) next

variable {Holds : (String → Option Json) → σ → Prop} {given : String → Option Json}

/-- What holds of the record at the start, and is kept by each field, holds when the members have
been read. -/
theorem Keeps.holds_of_readMembers (keeps : form.Keeps Holds) (held : Holds given record)
    (fresh : ∀ name, name ∉ names → given name = none)
    (reads : form.readMembers record names (Json.memberDrafts members) = .ok (final, seen)) :
    ∃ all, Holds all final ∧ ∀ name ∈ form.fields.map RecordField.name,
      all name = (given name).or (members.lookup name) := by
  induction members generalizing record names given with
  | nil =>
      cases reads
      exact ⟨given, held, fun name _ => by rw [List.lookup_nil, Option.or_none]⟩
  | cons member members ih =>
      obtain ⟨other, value⟩ := member
      rcases readMembers_cons reads with
        ⟨unknown, reads⟩ | ⟨field, member, rfl, unread, next, readsField, reads⟩
      · -- The member is skipped, and no field asks for its name.
        obtain ⟨all, holds, found⟩ := ih held fresh reads
        refine ⟨all, holds, fun name known => ?_⟩
        have apart : name ≠ other := fun same => unknown (same ▸ known)
        rw [found name known, List.lookup_cons, beq_false_of_ne apart]
      · have stillFresh : ∀ name, name ∉ field.name :: names →
            (if name = field.name then some value else given name) = none := by
          intro name absent
          rw [List.mem_cons, not_or] at absent
          rw [if_neg absent.1, fresh name absent.2]
        obtain ⟨all, holds, found⟩ :=
          ih (keeps field member given record value next held readsField) stillFresh reads
        refine ⟨all, holds, fun name known => ?_⟩
        rw [found name known]
        by_cases same : name = field.name
        · subst same
          rw [if_pos rfl, fresh _ unread, List.lookup_cons_self]
          rfl
        · rw [if_neg same, List.lookup_cons, beq_false_of_ne same]

/-- **What every field keeps up holds of a record that is read.** -/
theorem Keeps.holds_of_read (keeps : form.Keeps Holds) (start : Holds (fun _ => none) form.start)
    (reads : form.read (Json.object members).draft = .ok final) :
    ∃ all, Holds all final ∧
      ∀ name ∈ form.fields.map RecordField.name, all name = members.lookup name := by
  obtain ⟨seen, reads, _⟩ := read_object_eq_ok_iff.1 reads
  exact keeps.holds_of_readMembers start (fun _ _ => rfl) reads

end Holds

/-! ### Which objects are read -/

/-- A member can be read as a field, whatever was read before. -/
def Reads (form : RecordForm σ) (member : String × Json) : Prop :=
  ∃ field ∈ form.fields, field.name = member.1 ∧
    ∀ record, ∃ next, field.read member.2.draft record = .ok next

/-- A member is read as a field that sets what is decoded of it. -/
theorem reads_of_decodes {γ : Type} {field : RecordField σ} (member : field ∈ form.fields)
    {decode : Draft → Except DecodeError γ} {set : γ → σ → σ}
    (sets : ∀ draft record,
      field.read draft record = (decode draft >>= fun result => pure (set result record)))
    {value : Json} {result : γ} (decodes : decode value.draft = .ok result) :
    form.Reads (field.name, value) := by
  refine ⟨field, member, rfl, fun record => ⟨set result record, ?_⟩⟩
  rw [sets]
  exact Outcome.bind_eq_ok.2 ⟨result, decodes, rfl⟩

/-- Members with distinct names are read if each of them can be read. -/
theorem exists_readMembers (fields : (form.fields.map RecordField.name).Nodup)
    (distinct : (members.map Prod.fst).Nodup) (readable : ∀ member ∈ members, form.Reads member)
    (fresh : ∀ member ∈ members, member.1 ∉ names) :
    ∃ final seen, form.readMembers record names (Json.memberDrafts members) = .ok (final, seen) ∧
      names ⊆ seen ∧ ∀ member ∈ members, member.1 ∈ seen := by
  induction members generalizing record names with
  | nil => exact ⟨record, names, rfl, List.Subset.refl _, fun _ inside => nomatch inside⟩
  | cons member members ih =>
      obtain ⟨name, value⟩ := member
      rw [List.forall_mem_cons] at readable fresh
      obtain ⟨apart, rest⟩ := List.nodup_cons.1 distinct
      obtain ⟨⟨field, inside, rfl, accepts⟩, later⟩ := readable
      obtain ⟨next, readsField⟩ := accepts record
      have stillFresh : ∀ other ∈ members, other.1 ∉ field.name :: names := by
        intro other member
        rw [List.mem_cons, not_or]
        exact ⟨fun same => apart (List.mem_map.2 ⟨other, member, same⟩), fresh.2 other member⟩
      -- The member is read as its field, so its name stays among those that were read.
      obtain ⟨final, seen, reads, kept, complete⟩ :=
        @ih next (field.name :: names) rest later stillFresh
      obtain ⟨here, others⟩ := List.cons_subset.1 kept
      refine ⟨final, seen, ?_, others, List.forall_mem_cons.2 ⟨here, complete⟩⟩
      rw [Json.memberDrafts, readMembers_field (find?_of_mem fields inside) fresh.1 readsField,
        reads]

/-- **An object is read if its members are**, and none is missing that it must have. -/
theorem exists_read (fields : (form.fields.map RecordField.name).Nodup)
    (distinct : (members.map Prod.fst).Nodup) (readable : ∀ member ∈ members, form.Reads member)
    (complete : ∀ field ∈ form.fields, field.required = true →
      field.name ∈ members.map Prod.fst) :
    ∃ final, form.read (Json.object members).draft = .ok final := by
  obtain ⟨final, seen, reads, _, found⟩ := @exists_readMembers σ form form.start [] members fields
    distinct readable fun _ _ => List.not_mem_nil
  refine ⟨final, read_object_eq_ok_iff.2 ⟨seen, reads, fun field member required => ?_⟩⟩
  obtain ⟨member, inside, named⟩ := List.mem_map.1 (complete field member required)
  exact named ▸ found member inside

end RecordForm

/-! ## Settings in scripts and in files

Attributes of a script can stand in a file as the members of an object. The file is read by other
rules: it may have unknown names, an empty user name, and numbers as numbers only. Where both
readings succeed they give the same settings, and the file is read wherever the script is, unless a
number is given as `None` or as a numeral (`settings_agree_in_script_and_file`).
-/

namespace RecordForm

variable {σ : Type} {form : RecordForm σ} {final : σ} {members : List (String × Value)}

/-- What every field keeps up holds of the attributes that are read as a record. -/
theorem Keeps.holds_of_struct {Holds : (String → Option Json) → σ → Prop} (keeps : form.Keeps Holds)
    (start : Holds (fun _ => none) form.start) (distinct : (members.map Prod.fst).Nodup)
    (reads : form.read (Value.struct members).json.draft = .ok final) :
    ∃ given, Holds given final ∧ ∀ name ∈ form.fields.map RecordField.name,
      given name = ((Attributes.ofList members).get? name).map Value.json := by
  rw [Value.json] at reads
  obtain ⟨given, held, found⟩ := keeps.holds_of_read start reads
  refine ⟨given, held, fun name known => ?_⟩
  rw [found name known, Value.lookup_jsonAttributes, Attributes.get?_ofList distinct]

/-- A struct is read as a record if each member can be read and none that is required is missing. -/
theorem exists_read_struct (fields : (form.fields.map RecordField.name).Nodup)
    (distinct : (members.map Prod.fst).Nodup)
    (readable : ∀ name value, (name, value) ∈ members → form.Reads (name, value.json))
    (complete : ∀ field ∈ form.fields, field.required = true →
      field.name ∈ members.map Prod.fst) :
    ∃ final, form.read (Value.struct members).json.draft = .ok final := by
  rw [Value.json]
  refine exists_read fields ?_ ?_ ?_
  · rwa [Value.names_jsonAttributes]
  · intro entry member
    rw [Value.jsonAttributes_eq_map] at member
    obtain ⟨⟨name, value⟩, inside, rfl⟩ := List.mem_map.1 member
    exact readable name value inside
  · rwa [Value.names_jsonAttributes]

end RecordForm

/-- Attributes that are accepted as settings have no other names than these. -/
theorem Session.Slot.known_of_ofAttributes {slot : Slot} {function : String}
    {members : List (String × Value)} {settings : slot.Settings}
    (distinct : (members.map Prod.fst).Nodup)
    (read : slot.ofAttributes function (.ofList members) = .ok settings) :
    ∀ name ∈ members.map Prod.fst, name ∈ slot.demands.map Prod.fst := by
  intro name member
  refine (exists_ofAttributes_eq_ok_iff.1 ⟨settings, read⟩).1 name (lookup_ne_none_iff.1 ?_)
  have found := Attributes.get?_ofList distinct name
  rw [Attributes.get?] at found
  rwa [found, lookup_ne_none_iff]

section Decoded

variable {given : Option Value}

/-- A text is given by the same attributes in a file and in a script. -/
theorem givesText_of_decoded {text : Option String}
    (decoded : Decoded Draft.optionalText none (given.map Value.json) text) :
    GivesText given text := by
  cases given with
  | none =>
      cases decoded
      exact .missing
  | some value =>
      cases decoded with
      | member decodes =>
          cases value with
          | none =>
              cases decodes
              exact .none
          | string text =>
              cases decodes
              exact .text text
          | _ => cases decodes

/-- What gives a text or none in a script is read as such in a file. -/
theorem reads_of_givesText {σ : Type} {form : RecordForm σ} {field : RecordField σ}
    {set : Option String → σ → σ} {value : Value} {text : Option String}
    (member : field ∈ form.fields)
    (sets : ∀ draft record,
      field.read draft record = (draft.optionalText >>= fun text => pure (set text record)))
    (gives : GivesText (some value) text) : form.Reads (field.name, value.json) := by
  obtain ⟨result, decodes⟩ : ∃ result, value.json.draft.optionalText = .ok result := by
    cases gives <;> exact ⟨_, rfl⟩
  exact RecordForm.reads_of_decodes member sets decodes

/-- A text in a record is the one that the attribute gives. -/
theorem givesText_of_decoded_text {default text : String} (present : given ≠ none)
    (decoded : Decoded (Draft.text "a string") default (given.map Value.json) text) :
    GivesText given (some text) := by
  cases given with
  | none => exact absurd rfl present
  | some value =>
      cases decoded with
      | member decodes =>
          cases value with
          | string text =>
              cases decodes
              exact .text text
          | _ => cases decodes

theorem lt_of_natural {draft : Draft} {bits n : Nat} (read : draft.natural bits = .ok n) :
    n < Nat.pow 2 bits := by
  unfold Draft.natural at read
  split at read
  · split at read
    · next fits =>
        cases read
        omega
    · cases read
  · cases read

/-- A number that a file gives is given in a script. -/
theorem givesNumber_of_decoded {bits default n : Nat} (small : Nat.pow 2 bits ≤ UInt32.size)
    (decoded : Decoded (Draft.natural bits) default (given.map Value.json) n) :
    ∃ number, GivesNumber given number ∧ n = number.getD default := by
  cases given with
  | none =>
      cases decoded
      exact ⟨none, .missing, rfl⟩
  | some value =>
      cases decoded with
      | member decodes =>
          have below := lt_of_natural decodes
          cases value with
          | int value =>
              change (if 0 ≤ value.toInt ∧ value.toInt < (Nat.pow 2 bits : Nat) then _ else _) = _
                at decodes
              split at decodes
              · next fits =>
                  cases decodes
                  exact ⟨some _, .number (.int (Int.toNat_of_nonneg fits.1).symm (by omega)), rfl⟩
              · cases decodes
          | _ => cases decodes

/-- An integer that is given as a number in a script is read as one in a file, if it is small
enough. -/
theorem reads_of_givesNumber {σ : Type} {form : RecordForm σ} {field : RecordField σ}
    {set : Nat → σ → σ} {value : Int64} {number : Option Nat} {bits default : Nat}
    (member : field ∈ form.fields)
    (sets : ∀ draft record,
      field.read draft record = (draft.natural bits >>= fun n => pure (set n record)))
    (gives : GivesNumber (some (.int value)) number)
    (small : number.getD default < Nat.pow 2 bits) :
    form.Reads (field.name, (Value.int value).json) := by
  cases gives with
  | number denotes =>
      cases denotes with
      | int same _ =>
          rw [Option.getD_some] at small
          have fits : 0 ≤ value.toInt ∧ value.toInt < (Nat.pow 2 bits : Nat) := by omega
          have decodes : (Value.int value).json.draft.natural bits = .ok value.toInt.toNat :=
            if_pos fits
          exact RecordForm.reads_of_decodes member sets decodes

end Decoded

/-! ### What is read of a file -/

namespace SshSettings

/-- SSH settings are what the members of a file give, and the defaults where there is no member. -/
structure IsReadFrom (given : String → Option Json) (settings : SshSettings) : Prop where
  username : Decoded (Draft.text "a string") "" (given "username") settings.username
  port : Decoded (Draft.natural 16) 22 (given "port") settings.port.toNat
  privateKeyPath : Decoded Draft.optionalText none (given "private_key_path")
    settings.privateKeyPath
  maxRetries : Decoded (Draft.natural 32) 5 (given "max_retries") settings.maxRetries.toNat
  connTimeout : Decoded (Draft.natural 32) 30 (given "conn_timeout") settings.connTimeout.toNat

/-- Each field of the settings keeps what they are read from. -/
theorem keeps_isReadFrom : form.Keeps IsReadFrom := by
  intro field member given record value next held reads
  simp only [form, List.mem_cons, List.not_mem_nil, or_false] at member
  rcases member with rfl | rfl | rfl | rfl | rfl
  -- Each field sets the one setting that its name asks for.
  all_goals
    obtain ⟨result, decodes, reads⟩ := Outcome.bind_eq_ok.1 reads
    cases reads
  · exact { held with username := .member decodes }
  · rw [← UInt16.toNat_ofNat_of_lt' (lt_of_natural decodes)] at decodes
    exact { held with port := .member decodes }
  · exact { held with privateKeyPath := .member decodes }
  · rw [← UInt32.toNat_ofNat_of_lt' (lt_of_natural decodes)] at decodes
    exact { held with maxRetries := .member decodes }
  · rw [← UInt32.toNat_ofNat_of_lt' (lt_of_natural decodes)] at decodes
    exact { held with connTimeout := .member decodes }

variable {settings : SshSettings} {members : List (String × Value)}

/-- **Settings of a file are given by the same attributes in a script.** -/
theorem isGivenBy_of_read (distinct : (members.map Prod.fst).Nodup)
    (reads : form.read (Value.struct members).json.draft = .ok settings) :
    settings.IsGivenBy (.ofList members) := by
  have start : IsReadFrom (fun _ => none) form.start := by
    constructor <;> exact .missing
  obtain ⟨given, held, found⟩ := keeps_isReadFrom.holds_of_struct start distinct reads
  have present : (Attributes.ofList members).get? "username" ≠ none := by
    rw [Attributes.get?_ofList distinct, lookup_ne_none_iff, ← Value.names_jsonAttributes]
    rw [Value.json] at reads
    exact RecordForm.mem_of_required reads List.mem_cons_self rfl
  obtain ⟨username, port, privateKeyPath, maxRetries, connTimeout⟩ := held
  rw [found _ (by decide)] at username port privateKeyPath maxRetries connTimeout
  exact {
    username := givesText_of_decoded_text present username
    port := givesNumber_of_decoded (by decide) port
    privateKeyPath := givesText_of_decoded privateKeyPath
    maxRetries := givesNumber_of_decoded (Nat.le_refl _) maxRetries
    connTimeout := givesNumber_of_decoded (Nat.le_refl _) connTimeout }

/-- All numbers among the members are given as integers. -/
def HasIntegers (members : List (String × Value)) : Prop :=
  ∀ name ∈ ["port", "max_retries", "conn_timeout"], ∀ value, members.lookup name = some value →
    ∃ n, value = .int n

/-- A member that gives a setting in a script can be read in a file, if numbers are integers. -/
theorem reads_of_isGivenBy (distinct : (members.map Prod.fst).Nodup)
    (integers : HasIntegers members) (isGiven : settings.IsGivenBy (.ofList members))
    {name : String} {value : Value} (known : name ∈ attributeNames)
    (member : (name, value) ∈ members) : form.Reads (name, value.json) := by
  have found := lookup_of_mem distinct member
  have gives : (Attributes.ofList members).get? name = some value := by
    rw [Attributes.get?_ofList distinct, found]
  have integer (isNumber : name ∈ ["port", "max_retries", "conn_timeout"]) :=
    integers name isNumber value found
  obtain ⟨username, ⟨port, givesPort, samePort⟩, privateKeyPath, ⟨retries, givesRetries,
    sameRetries⟩, ⟨timeout, givesTimeout, sameTimeout⟩⟩ := isGiven
  simp only [attributeNames, List.mem_cons, List.not_mem_nil, or_false] at known
  rcases known with rfl | rfl | rfl | rfl | rfl
  · rw [gives] at username
    cases username
    exact ⟨_, List.get_mem form.fields ⟨0, by decide⟩, rfl, fun record => ⟨_, rfl⟩⟩
  · obtain ⟨n, rfl⟩ := integer (by decide)
    rw [gives] at givesPort
    exact reads_of_givesNumber (List.get_mem form.fields ⟨1, by decide⟩) (fun _ _ => rfl)
      givesPort (samePort ▸ settings.port.toNat_lt)
  · rw [gives] at privateKeyPath
    exact reads_of_givesText (List.get_mem form.fields ⟨2, by decide⟩) (fun _ _ => rfl)
      privateKeyPath
  · obtain ⟨n, rfl⟩ := integer (by decide)
    rw [gives] at givesRetries
    exact reads_of_givesNumber (List.get_mem form.fields ⟨3, by decide⟩) (fun _ _ => rfl)
      givesRetries (sameRetries ▸ settings.maxRetries.toNat_lt)
  · obtain ⟨n, rfl⟩ := integer (by decide)
    rw [gives] at givesTimeout
    exact reads_of_givesNumber (List.get_mem form.fields ⟨4, by decide⟩) (fun _ _ => rfl)
      givesTimeout (sameTimeout ▸ settings.connTimeout.toNat_lt)

/-- Settings that attributes give are read from the file that has the attributes, if their numbers
are integers. -/
theorem exists_read_of_isGivenBy (distinct : (members.map Prod.fst).Nodup)
    (integers : HasIntegers members)
    (known : ∀ name ∈ members.map Prod.fst, name ∈ attributeNames)
    (isGiven : settings.IsGivenBy (.ofList members)) :
    ∃ saved, form.read (Value.struct members).json.draft = .ok saved := by
  refine RecordForm.exists_read_struct (by decide) distinct ?_ ?_
  · intro name value member
    have isKnown := known name (List.mem_map_of_mem member)
    exact reads_of_isGivenBy distinct integers isGiven isKnown member
  · intro field member required
    have named : field.name = "username" := by
      simp only [form, List.mem_cons, List.not_mem_nil, or_false] at member
      rcases member with rfl | rfl | rfl | rfl | rfl
      · rfl
      all_goals cases required
    have username := isGiven.username
    rw [named, ← lookup_ne_none_iff, ← Attributes.get?_ofList distinct]
    intro absent
    rw [absent] at username
    cases username

end SshSettings

namespace GlobalSettings

/-- Settings of the whole session are what the members of a file give. -/
structure IsReadFrom (given : String → Option Json) (settings : GlobalSettings) : Prop where
  uid : Decoded Draft.optionalText none (given "uid") settings.uid
  gid : Decoded Draft.optionalText none (given "gid") settings.gid
  workdir : Decoded Draft.optionalText none (given "workdir") settings.workdir
  outputPath : Decoded Draft.optionalText none (given "output_path") settings.outputPath

/-- Each field of the global settings keeps what they are read from. -/
theorem keeps_isReadFrom : form.Keeps IsReadFrom := by
  intro field member given record value next held reads
  simp only [form, List.mem_cons, List.not_mem_nil, or_false] at member
  rcases member with rfl | rfl | rfl | rfl
  all_goals
    obtain ⟨result, decodes, reads⟩ := Outcome.bind_eq_ok.1 reads
    cases reads
  · exact { held with uid := .member decodes }
  · exact { held with gid := .member decodes }
  · exact { held with workdir := .member decodes }
  · exact { held with outputPath := .member decodes }

variable {settings : GlobalSettings} {members : List (String × Value)}

/-- Global settings that are read from a file are those that its members give as attributes. -/
theorem isGivenBy_of_read (distinct : (members.map Prod.fst).Nodup)
    (reads : form.read (Value.struct members).json.draft = .ok settings) :
    settings.IsGivenBy (.ofList members) := by
  have start : IsReadFrom (fun _ => none) form.start := by
    constructor <;> exact .missing
  obtain ⟨given, held, found⟩ := keeps_isReadFrom.holds_of_struct start distinct reads
  obtain ⟨uid, gid, workdir, outputPath⟩ := held
  rw [found _ (by decide)] at uid gid workdir outputPath
  exact {
    uid := givesText_of_decoded uid
    gid := givesText_of_decoded gid
    workdir := givesText_of_decoded workdir
    outputPath := givesText_of_decoded outputPath }

/-- Global settings that attributes give are read from the file that has the attributes. -/
theorem exists_read_of_isGivenBy (distinct : (members.map Prod.fst).Nodup)
    (known : ∀ name ∈ members.map Prod.fst, name ∈ attributeNames)
    (isGiven : settings.IsGivenBy (.ofList members)) :
    ∃ saved, form.read (Value.struct members).json.draft = .ok saved := by
  refine RecordForm.exists_read_struct (by decide) distinct ?_ ?_
  · intro name value member
    have gives : (Attributes.ofList members).get? name = some value := by
      rw [Attributes.get?_ofList distinct, lookup_of_mem distinct member]
    have listed := known name (List.mem_map_of_mem member)
    obtain ⟨uid, gid, workdir, outputPath⟩ := isGiven
    simp only [attributeNames, List.mem_cons, List.not_mem_nil, or_false] at listed
    rcases listed with rfl | rfl | rfl | rfl
    · rw [gives] at uid
      exact reads_of_givesText (List.get_mem form.fields ⟨0, by decide⟩) (fun _ _ => rfl) uid
    · rw [gives] at gid
      exact reads_of_givesText (List.get_mem form.fields ⟨1, by decide⟩) (fun _ _ => rfl) gid
    · rw [gives] at workdir
      exact reads_of_givesText (List.get_mem form.fields ⟨2, by decide⟩) (fun _ _ => rfl) workdir
    · rw [gives] at outputPath
      exact reads_of_givesText (List.get_mem form.fields ⟨3, by decide⟩) (fun _ _ => rfl) outputPath
  · intro field member required
    simp only [form, List.mem_cons, List.not_mem_nil, or_false] at member
    rcases member with rfl | rfl | rfl | rfl <;> cases required

end GlobalSettings

/-- **Settings are the same in a script and in a file.** Attributes that are accepted in both, in
whatever order they stand in the file, are the same settings in both, defaults among them. And what
is accepted in a script is accepted in a file, if all numbers of SSH settings are given as integers
or left out. -/
theorem settings_agree_in_script_and_file (function : String) {members : List (String × Value)}
    (distinct : (members.map Prod.fst).Nodup) :
    let attributes := Attributes.ofList members
    let text := (Value.struct members).json.renderPretty
    (∀ settings saved, SshSettings.ofAttributes function attributes = .ok settings →
      SshSettings.form.parse text = .ok saved → saved = settings) ∧
    (∀ settings saved, GlobalSettings.ofAttributes function attributes = .ok settings →
      GlobalSettings.form.parse text = .ok saved → saved = settings) ∧
    (∀ settings, SshSettings.ofAttributes function attributes = .ok settings →
      SshSettings.HasIntegers members → SshSettings.form.parse text = .ok settings) ∧
    ∀ settings, GlobalSettings.ofAttributes function attributes = .ok settings →
      GlobalSettings.form.parse text = .ok settings := by
  intro attributes text
  have ssh : SshSettings.form.parse text =
      SshSettings.form.read (Value.struct members).json.draft :=
    RecordForm.parse_renderPretty (Value.struct members).isExact_json
  have global : GlobalSettings.form.parse text =
      GlobalSettings.form.read (Value.struct members).json.draft :=
    RecordForm.parse_renderPretty (Value.struct members).isExact_json
  rw [ssh, global]
  have sameSsh : ∀ settings saved, SshSettings.ofAttributes function attributes = .ok settings →
      SshSettings.form.read (Value.struct members).json.draft = .ok saved → saved = settings := by
    intro settings saved accepted reads
    have isGiven := SshSettings.isGivenBy_of_ofAttributes accepted
    exact (SshSettings.isGivenBy_of_read distinct reads).unique isGiven
  have sameGlobal : ∀ settings saved,
      GlobalSettings.ofAttributes function attributes = .ok settings →
      GlobalSettings.form.read (Value.struct members).json.draft = .ok saved →
      saved = settings := by
    intro settings saved accepted reads
    have isGiven := GlobalSettings.isGivenBy_of_ofAttributes accepted
    exact (GlobalSettings.isGivenBy_of_read distinct reads).unique isGiven
  refine ⟨sameSsh, sameGlobal, ?_, ?_⟩
  · intro settings accepted integers
    have known := Session.Slot.ssh.known_of_ofAttributes distinct accepted
    have isGiven := SshSettings.isGivenBy_of_ofAttributes accepted
    obtain ⟨saved, reads⟩ := SshSettings.exists_read_of_isGivenBy distinct integers known isGiven
    rw [reads, sameSsh settings saved accepted reads]
  · intro settings accepted
    have known := Session.Slot.global.known_of_ofAttributes distinct accepted
    have isGiven := GlobalSettings.isGivenBy_of_ofAttributes accepted
    obtain ⟨saved, reads⟩ := GlobalSettings.exists_read_of_isGivenBy distinct known isGiven
    rw [reads, sameGlobal settings saved accepted reads]

/-- A path that is `None` in a script is `null` in a file, and the members may stand in any
order. -/
theorem settings_agree_in_script_and_file_of_integers :
    let members := [("private_key_path", Value.none), ("port", .int 2222),
      ("username", .string "core")]
    let settings : SshSettings := ⟨"core", 2222, none, 5, 30⟩
    (members.map Prod.fst).Nodup ∧
      SshSettings.ofAttributes "f" (.ofList members) = .ok settings ∧
      SshSettings.HasIntegers members ∧
      SshSettings.form.parse (Value.struct members).json.renderPretty = .ok settings := by
  intro members settings
  have distinct : (members.map Prod.fst).Nodup := by decide
  have accepted : SshSettings.ofAttributes "f" (.ofList members) = .ok settings := rfl
  have integers : SshSettings.HasIntegers members := by
    intro name isNumber value found
    simp only [List.mem_cons, List.not_mem_nil, or_false] at isNumber
    rcases isNumber with rfl | rfl | rfl
    · cases found
      exact ⟨2222, rfl⟩
    all_goals cases found
  obtain ⟨_, _, ssh, _⟩ := settings_agree_in_script_and_file "f" distinct
  exact ⟨distinct, accepted, integers, ssh settings accepted integers⟩

end ClusterHosts
