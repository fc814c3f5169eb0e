import ClusterHosts.Proofs.Numbers
import ClusterHosts.Value
import ClusterHosts.Settings

/-! # What is demanded of attributes

An attribute that is read may have to give a text, a text that is not empty, or a number below a
limit. A reader of an attribute succeeds if such a demand is met, and otherwise complains in a way
that is known from the value (`Answers`).
-/

namespace ClusterHosts

/-! ### Values that give texts and numbers -/

/-- A value, which may be missing, gives a text or none. -/
inductive GivesText : Option Value → Option String → Prop where
  | missing : GivesText none none
  | none : GivesText (some .none) none
  | text (text : String) : GivesText (some (.string text)) (some text)

/-- A value, which may be missing, gives a number or none. -/
inductive GivesNumber : Option Value → Option Nat → Prop where
  | missing : GivesNumber none none
  | none : GivesNumber (some .none) none
  | number {value : Value} {n : Nat} (denotes : value.Denotes n) :
      GivesNumber (some value) (some n)

/-- A value gives only one text. -/
theorem GivesText.unique {value : Option Value} {first second : Option String}
    (gives : GivesText value first) (also : GivesText value second) : first = second := by
  cases gives <;> cases also <;> rfl

theorem GivesNumber.unique {value : Option Value} {first second : Option Nat}
    (gives : GivesNumber value first) (also : GivesNumber value second) : first = second := by
  cases gives with
  | missing =>
      cases also
      rfl
  | none =>
      cases also with
      | none => rfl
      | number denotes => cases denotes
  | number denotes =>
      cases also with
      | none => cases denotes
      | number also => rw [denotes.unique also]

/-- What is demanded of an attribute. -/
inductive Demand where
  /-- It gives a text or none. -/
  | text
  /-- It gives a text, and not an empty one. -/
  | presentText (isEmpty : String → Bool)
  /-- It gives a number below a limit, or none. -/
  | number (limit : Nat)

namespace Demand

def IsMet : Demand → Option Value → Prop
  | .text, value => ∃ text, GivesText value text
  | .presentText isEmpty, value => ∃ text, GivesText value (some text) ∧ isEmpty text = false
  | .number limit, value => ∃ number, GivesNumber value number ∧ ∀ n ∈ number, n < limit

/-- The types of the values that may meet a demand. -/
def types : Demand → List String
  | .text | .presentText _ => ["NoneType", "string"]
  | .number _ => ["NoneType", "int", "string"]

/-- What messages call the type that is demanded. -/
def words : Demand → String
  | .text | .presentText _ => "string"
  | .number _ => "int"

/-- What is wrong with a value that does not meet a demand. -/
inductive Refuses : Demand → Option Value → Complaint → Prop where
  | wrongType {demand : Demand} {value : Value} (odd : value.typeName ∉ demand.types) :
      Refuses demand (some value) (.wrongType demand.words value.typeName)
  | missing {isEmpty : String → Bool} {value : Option Value} (nothing : GivesText value none) :
      Refuses (.presentText isEmpty) value .required
  | empty {isEmpty : String → Bool} {text : String} (empty : isEmpty text = true) :
      Refuses (.presentText isEmpty) (some (.string text)) .required
  | noNumber {limit : Nat} {value : Value} (fits : value.typeName ∈ ["int", "string"])
      (none : ∀ n, ¬ value.Denotes n) : Refuses (.number limit) (some value) .notNonNegative
  | outOfRange {limit n : Nat} {value : Value} (denotes : value.Denotes n) (large : limit ≤ n) :
      Refuses (.number limit) (some value) .outOfRange

variable {demand : Demand} {value : Option Value} {complaint : Complaint}

theorem typeName_of_denotes {value : Value} {n limit : Nat} (denotes : value.Denotes n) :
    value.typeName ∈ (Demand.number limit).types := by
  cases denotes <;> simp [Value.typeName, types]

/-- A value that meets a demand is of a type that the demand names. -/
theorem typeName_of_isMet {value : Value} (met : demand.IsMet (some value)) :
    value.typeName ∈ demand.types := by
  cases demand with
  | text =>
      obtain ⟨text, gives⟩ := met
      cases gives <;> simp [Value.typeName, types]
  | presentText isEmpty =>
      obtain ⟨text, gives, _⟩ := met
      cases gives
      simp [Value.typeName, types]
  | number limit =>
      obtain ⟨number, gives, _⟩ := met
      cases gives with
      | none => simp [Value.typeName, types]
      | number denotes => exact typeName_of_denotes denotes

/-- What a demand refuses does not meet it. -/
theorem not_isMet_of_refuses (refuses : demand.Refuses value complaint) : ¬ demand.IsMet value := by
  intro met
  cases refuses with
  | wrongType odd => exact odd (typeName_of_isMet met)
  | missing nothing =>
      obtain ⟨text, gives, _⟩ := met
      cases nothing <;> cases gives
  | empty empty =>
      obtain ⟨text, gives, something⟩ := met
      cases gives
      rw [empty] at something
      cases something
  | noNumber fits none =>
      obtain ⟨number, gives, _⟩ := met
      cases gives with
      | none => exact absurd fits (by decide)
      | number denotes => exact none _ denotes
  | outOfRange denotes large =>
      obtain ⟨number, gives, small⟩ := met
      cases gives with
      | none => cases denotes
      | number also =>
          have below := small _ rfl
          rw [also.unique denotes] at below
          exact absurd below (Nat.not_lt.2 large)

/-- A value that is refused for another reason is of a type that may meet the demand. -/
theorem eq_wrongType_or_typeName {value : Value} (refuses : demand.Refuses (some value) complaint) :
    complaint = .wrongType demand.words value.typeName ∨ value.typeName ∈ demand.types := by
  cases refuses with
  | wrongType => exact .inl rfl
  | missing nothing =>
      cases nothing
      exact .inr (by simp [Value.typeName, types])
  | empty => exact .inr (by simp [Value.typeName, types])
  | noNumber fits => exact .inr (List.mem_cons_of_mem _ fits)
  | outOfRange denotes => exact .inr (typeName_of_denotes denotes)

/-- No demand complains about names. -/
theorem ne_unexpected_of_refuses {known : List String} (refuses : demand.Refuses value complaint) :
    complaint ≠ .unexpected known := by
  cases refuses <;> exact Complaint.noConfusion

/-- A value is refused for one reason only. -/
theorem complaint_unique {other : Complaint} (refuses : demand.Refuses value complaint)
    (also : demand.Refuses value other) : complaint = other := by
  cases refuses with
  | wrongType odd => exact ((eq_wrongType_or_typeName also).resolve_right odd).symm
  | missing nothing =>
      cases also with
      | wrongType odd => exact (eq_wrongType_or_typeName (.missing nothing)).resolve_right odd
      | missing => rfl
      | empty => rfl
  | empty empty =>
      cases also with
      | wrongType odd => exact (eq_wrongType_or_typeName (.empty empty)).resolve_right odd
      | missing => rfl
      | empty => rfl
  | noNumber fits none =>
      cases also with
      | wrongType odd => exact (eq_wrongType_or_typeName (.noNumber fits none)).resolve_right odd
      | noNumber => rfl
      | outOfRange denotes => exact absurd denotes (none _)
  | outOfRange denotes large =>
      cases also with
      | wrongType odd => exact absurd (typeName_of_denotes denotes) odd
      | noNumber _ none => exact absurd denotes (none _)
      | outOfRange => rfl

end Demand

/-! ### Readers of single attributes -/

/-- A computation succeeds if a demand is met, and otherwise complains about the attribute. -/
structure Answers {α : Type} (outcome : Except CallError α) (function name : String)
    (demand : Demand) (value : Option Value) : Prop where
  ok : (∃ result, outcome = .ok result) ↔ demand.IsMet value
  error : ∀ error, outcome = .error error ↔
    ∃ complaint, demand.Refuses value complaint ∧ error = .badArgument function name complaint

section Answers

variable {α : Type} {outcome : Except CallError α} {function name : String} {demand : Demand}
  {value : Option Value}

/-- A reader that succeeds on a value which meets the demand answers it. -/
theorem Answers.of_ok (succeeds : ∃ result, outcome = .ok result) (met : demand.IsMet value) :
    Answers outcome function name demand value := by
  obtain ⟨result, rfl⟩ := succeeds
  refine ⟨⟨fun _ => met, fun _ => ⟨result, rfl⟩⟩, fun error => ?_⟩
  refine iff_of_false (fun fails => by cases fails) ?_
  rintro ⟨complaint, refuses, _⟩
  exact Demand.not_isMet_of_refuses refuses met

theorem Answers.of_error {complaint : Complaint}
    (fails : outcome = .error (.badArgument function name complaint))
    (refuses : demand.Refuses value complaint) : Answers outcome function name demand value := by
  subst fails
  refine ⟨iff_of_false ?_ (Demand.not_isMet_of_refuses refuses), fun error => ?_⟩
  · rintro ⟨result, succeeds⟩
    cases succeeds
  · constructor
    · intro fails
      cases fails
      exact ⟨complaint, refuses, rfl⟩
    · rintro ⟨other, also, rfl⟩
      rw [Demand.complaint_unique refuses also]

variable {attributes : Attributes}

/-- Reading an optional text answers the demand for a text. -/
theorem Answers.optionalText :
    Answers (attributes.optionalText function name) function name .text
      (attributes.get? name) := by
  unfold Attributes.optionalText Attributes.getSome?
  cases attributes.get? name with
  | none => exact .of_ok ⟨_, rfl⟩ ⟨_, .missing⟩
  | some value =>
      cases value with
      | none => exact .of_ok ⟨_, rfl⟩ ⟨_, .none⟩
      | string text => exact .of_ok ⟨_, rfl⟩ ⟨_, .text text⟩
      | _ => exact .of_error rfl (.wrongType (by simp [Value.typeName, Demand.types]))

/-- What follows the reading of a text goes on with it, unless it is missing or empty. -/
structure Presents (function name : String) (isEmpty : String → Bool)
    (next : Option String → Except CallError String) : Prop where
  present : ∀ text, isEmpty text = false → next (some text) = .ok text
  empty : ∀ text, isEmpty text = true →
    next (some text) = .error (.badArgument function name .required)
  missing : next none = .error (.badArgument function name .required)

/-- Reading a text that must be there answers the demand for one. -/
theorem Presents.answers {isEmpty : String → Bool} {next : Option String → Except CallError String}
    (presents : Presents function name isEmpty next) :
    Answers (attributes.optionalText function name >>= next) function name
      (.presentText isEmpty) (attributes.get? name) := by
  unfold Attributes.optionalText Attributes.getSome?
  cases attributes.get? name with
  | none => exact .of_error presents.missing (.missing .missing)
  | some value =>
      cases value with
      | none => exact .of_error presents.missing (.missing .none)
      | string text =>
          cases something : isEmpty text with
          | false =>
              exact .of_ok ⟨text, presents.present text something⟩ ⟨text, .text text, something⟩
          | true => exact .of_error (presents.empty text something) (.empty something)
      | _ => exact .of_error rfl (.wrongType (by simp [Value.typeName, Demand.types]))

/-- A number is read and refused if it is too large. -/
theorem Answers.number {limit : Nat} {next : Option UInt32 → Except CallError α}
    (missing : ∃ result, next none = .ok result)
    (small : ∀ word : UInt32, word.toNat < limit → ∃ result, next (some word) = .ok result)
    (large : ∀ word : UInt32, limit ≤ word.toNat →
      next (some word) = .error (.badArgument function name .outOfRange)) :
    Answers (attributes.optionalNumber function name >>= next) function name
      (.number limit) (attributes.get? name) := by
  have ofFitting {value : Value} (fits : value.typeName ∈ ["int", "string"]) :
      Answers (Attributes.optionalNumber.number function name value >>= next) function name
        (.number limit) (some value) := by
    unfold Attributes.optionalNumber.number
    cases read : Attributes.word? value with
    | none =>
        refine .of_error rfl (.noNumber fits fun n denotes => ?_)
        rw [denotes.word?_eq] at read
        cases read
    | some word =>
        have denotes := Attributes.word?_eq_some_iff.1 read
        by_cases below : word.toNat < limit
        · refine .of_ok (small word below) ⟨_, .number denotes, fun n same => ?_⟩
          rwa [← Option.some.inj same]
        · have exceeds : limit ≤ word.toNat := Nat.le_of_not_lt below
          exact .of_error (large word exceeds) (.outOfRange denotes exceeds)
  unfold Attributes.optionalNumber Attributes.getSome?
  cases attributes.get? name with
  | none => exact .of_ok missing ⟨none, .missing, by simp⟩
  | some value =>
      cases value with
      | none => exact .of_ok missing ⟨none, .none, by simp⟩
      | int value => exact ofFitting (by simp [Value.typeName])
      | string text => exact ofFitting (by simp [Value.typeName])
      | _ => exact .of_error rfl (.wrongType (by simp [Value.typeName, Demand.types]))

/-- Reading an optional number answers the demand for a number of 32 bits. -/
theorem Answers.optionalNumber :
    Answers (attributes.optionalNumber function name) function name (.number UInt32.size)
      (attributes.get? name) := by
  have answers : Answers (attributes.optionalNumber function name >>= pure) function name
      (.number UInt32.size) (attributes.get? name) :=
    .number ⟨none, rfl⟩ (fun word _ => ⟨some word, rfl⟩)
      fun word exceeds => absurd word.toNat_lt (Nat.not_lt.2 exceeds)
  rwa [bind_pure] at answers

end Answers

/-! ### What is read -/

section Readers

variable {attributes : Attributes} {function name : String}

/-- An optional text that is read is the one that the value gives. -/
theorem givesText_of_optionalText {text : Option String}
    (read : attributes.optionalText function name = .ok text) :
    GivesText (attributes.get? name) text := by
  unfold Attributes.optionalText Attributes.getSome? at read
  cases found : attributes.get? name with
  | none =>
      rw [found] at read
      cases read
      exact .missing
  | some value =>
      rw [found] at read
      cases value <;> cases read
      · exact .none
      · exact .text _

theorem givesNumber_of_optionalNumber {word : Option UInt32}
    (read : attributes.optionalNumber function name = .ok word) :
    GivesNumber (attributes.get? name) (word.map UInt32.toNat) := by
  have ofFitting {value : Value}
      (read : Attributes.optionalNumber.number function name value = .ok word) :
      GivesNumber (some value) (word.map UInt32.toNat) := by
    unfold Attributes.optionalNumber.number at read
    split at read
    · next stands =>
        cases read
        exact .number (Attributes.word?_eq_some_iff.1 stands)
    · cases read
  unfold Attributes.optionalNumber Attributes.getSome? at read
  cases found : attributes.get? name with
  | none =>
      rw [found] at read
      cases read
      exact .missing
  | some value =>
      rw [found] at read
      cases value with
      | none =>
          cases read
          exact .none
      | int value => exact ofFitting read
      | string text => exact ofFitting read
      | _ => cases read

/-- A text that must be there is given and is not empty. -/
theorem Presents.of_ok {isEmpty : String → Bool} {next : Option String → Except CallError String}
    {text : String} (presents : Presents function name isEmpty next)
    (read : (attributes.optionalText function name >>= next) = .ok text) :
    GivesText (attributes.get? name) (some text) ∧ isEmpty text = false := by
  obtain ⟨given, found, read⟩ := Outcome.bind_eq_ok.1 read
  have gives := givesText_of_optionalText found
  cases given with
  | none =>
      rw [presents.missing] at read
      cases read
  | some given =>
      cases something : isEmpty given with
      | false =>
          rw [presents.present given something] at read
          cases read
          exact ⟨gives, something⟩
      | true =>
          rw [presents.empty given something] at read
          cases read

namespace SshSettings

/-- The name of a user is a text that must be there. -/
theorem exists_presents (function : String) (attributes : Attributes) :
    ∃ next, readUsername function attributes =
        (attributes.optionalText function "username" >>= next) ∧
      Presents function "username" String.isEmpty next := by
  refine ⟨_, rfl, ?_, ?_, rfl⟩
  · intro text something
    exact if_neg (by simp [something])
  · intro text empty
    exact if_pos empty

theorem answers_readUsername :
    Answers (readUsername function attributes) function "username" (.presentText String.isEmpty)
      (attributes.get? "username") := by
  obtain ⟨next, reads, presents⟩ := exists_presents function attributes
  rw [reads]
  exact presents.answers

theorem username_of_readUsername {username : String}
    (read : readUsername function attributes = .ok username) :
    GivesText (attributes.get? "username") (some username) ∧ username.isEmpty = false := by
  obtain ⟨next, reads, presents⟩ := exists_presents function attributes
  rw [reads] at read
  exact presents.of_ok read

theorem answers_readPort :
    Answers (readPort function attributes) function "port" (.number UInt16.size)
      (attributes.get? "port") := by
  apply Answers.number
  · exact ⟨22, rfl⟩
  · intro word small
    exact ⟨word.toUInt16, if_pos small⟩
  · intro word large
    exact if_neg (Nat.not_lt.2 large)

/-- A port that is read is the number that is given, or else 22. -/
theorem port_of_readPort {port : UInt16} (read : readPort function attributes = .ok port) :
    ∃ number, GivesNumber (attributes.get? "port") number ∧ port.toNat = number.getD 22 := by
  obtain ⟨given, found, read⟩ := Outcome.bind_eq_ok.1 read
  refine ⟨_, givesNumber_of_optionalNumber found, ?_⟩
  cases given with
  | none =>
      cases read
      rfl
  | some word =>
      dsimp only at read
      split at read
      · next small =>
          cases read
          rw [UInt32.toNat_toUInt16]
          exact Nat.mod_eq_of_lt small
      · cases read

end SshSettings

namespace KubeTarget

/-- The path of a target is a text that must be there. -/
theorem exists_presents (function : String) (attributes : Attributes) :
    ∃ next, readPath function attributes =
        (attributes.optionalText function "path" >>= next) ∧
      Presents function "path" Text.isBlankText next := by
  refine ⟨_, rfl, ?_, ?_, rfl⟩
  · intro text visible
    exact if_neg (by simp [visible])
  · intro text blank
    exact if_pos blank

theorem answers_readPath :
    Answers (readPath function attributes) function "path" (.presentText Text.isBlankText)
      (attributes.get? "path") := by
  obtain ⟨next, reads, presents⟩ := exists_presents function attributes
  rw [reads]
  exact presents.answers

/-- A path that is read is given and is not blank. -/
theorem path_of_readPath {path : String} (read : readPath function attributes = .ok path) :
    GivesText (attributes.get? "path") (some path) ∧ Text.isBlankText path = false := by
  obtain ⟨next, reads, presents⟩ := exists_presents function attributes
  rw [reads] at read
  exact presents.of_ok read

end KubeTarget

end Readers

end ClusterHosts
