import ClusterHosts.Proofs.Attributes
import ClusterHosts.Proofs.Numbers
import ClusterHosts.Settings

/-! # Numbers given as integers and as numerals

Scripts may quote the numbers of their settings. An attribute that holds the decimal numeral of an
integer, with blanks around it or none, is read as the integer is: as the same number, or refused
for the same reason (`SshSettings.numerals_read_as_integers`).
-/

namespace ClusterHosts

/-! ### Numerals of integers -/

namespace Text

/-- No digit is blank. -/
theorem isBlank_of_isDigit {c : Char} (digit : c.isDigit = true) : isBlank c = false := by
  simp only [Char.isDigit, Bool.and_eq_true, decide_eq_true_eq, ge_iff_le,
    UInt32.le_iff_toNat_le] at digit
  change 48 ≤ c.toNat ∧ c.toNat ≤ 57 at digit
  simp only [isBlank, Bool.or_eq_false_iff, Bool.and_eq_false_iff, decide_eq_false_iff_not,
    beq_eq_false_iff_ne]
  omega

theorem isBlank_of_mem_signedDecimal {value : Int} {c : Char}
    (member : c ∈ signedDecimal value) : isBlank c = false := by
  have ofDecimal {n : Nat} (member : c ∈ decimal n) : isBlank c = false :=
    isBlank_of_isDigit (List.all_eq_true.1 (all_isDigit_decimal n) c member)
  cases value with
  | ofNat n => exact ofDecimal member
  | negSucc n =>
      rcases List.mem_cons.1 member with rfl | behind
      · decide
      · exact ofDecimal behind

/-- A text is the numeral of an integer, with whatever blanks before and after it. -/
def Spells (text : String) (value : Int) : Prop :=
  ∃ before after : List Char, text.toList = before ++ signedDecimal value ++ after ∧
    (∀ c ∈ before, isBlank c = true) ∧ ∀ c ∈ after, isBlank c = true

/-- What is left of such a text after trimming is the numeral. -/
theorem Spells.isCore {text : String} {value : Int} (spells : Spells text value) :
    IsCore text.toList (signedDecimal value) where
  between := spells
  ends := {
    first := fun _ first => isBlank_of_mem_signedDecimal (List.mem_of_head? first)
    last := fun _ last => isBlank_of_mem_signedDecimal (List.mem_of_getLast? last) }

/-- A numeral is made of digits, behind a plus sign perhaps. -/
theorem IsNumeral.exists_digits {cs : List Char} {n : Nat} (numeral : IsNumeral cs n) :
    ∃ digits, (cs = digits ∨ cs = '+' :: digits) ∧
      (∀ digit ∈ digits, digit.isDigit = true) ∧ digitsValue digits = n := by
  cases numeral with
  | plain _ decimal => exact ⟨_, .inl rfl, decimal, rfl⟩
  | signed _ decimal => exact ⟨_, .inr rfl, decimal, rfl⟩

/-- The numeral of an integer is one of a natural number only if the integer is that number. -/
theorem isNumeral_signedDecimal_iff {value : Int} {n : Nat} :
    IsNumeral (signedDecimal value) n ↔ value = n := by
  constructor
  · intro numeral
    obtain ⟨digits, written, decimal, rfl⟩ := numeral.exists_digits
    cases value with
    | ofNat m =>
        obtain ⟨digit, others, starts, isDigit⟩ := exists_digit_decimal m
        rcases written with rfl | written
        · change (m : Int) = (digitsValue (Text.decimal m) : Nat)
          rw [digitsValue_decimal]
        · change Text.decimal m = _ at written
          rw [starts] at written
          rw [(List.cons.inj written).1] at isDigit
          cases isDigit
    | negSucc m =>
        rcases written with rfl | written
        · have isDigit := decimal '-' List.mem_cons_self
          cases isDigit
        · cases (List.cons.inj written).1
  · rintro rfl
    have nonempty : Text.decimal n ≠ [] := Nat.toDigits_ne_nil
    have numeral := IsNumeral.plain nonempty (List.all_eq_true.1 (all_isDigit_decimal n))
    rwa [digitsValue_decimal] at numeral

end Text

/-- Two values that may be missing say the same: they are equal, or one is an integer and the other
a text that spells it. -/
inductive SaysSame : Option Value → Option Value → Prop where
  | refl (value : Option Value) : SaysSame value value
  | quoted {value : Int64} {text : String}
      (spells : Text.Spells text value.toInt) :
      SaysSame (some (.int value)) (some (.string text))
  | unquoted {value : Int64} {text : String}
      (spells : Text.Spells text value.toInt) :
      SaysSame (some (.string text)) (some (.int value))

namespace Attributes

/-- A text with the numeral of an integer stands for the number that the integer stands for. -/
theorem word?_eq_of_spells {value : Int64} {text : String}
    (spells : Text.Spells text value.toInt) :
    word? (.string text) = word? (.int value) := by
  apply Option.ext
  intro word
  rw [word?_eq_some_iff, word?_eq_some_iff]
  constructor
  · intro denotes
    cases denotes with
    | numeral isCore isNumeral small =>
        have core := (Text.isCore_iff.1 isCore).trans (Text.isCore_iff.1 spells.isCore).symm
        rw [core, Text.isNumeral_signedDecimal_iff] at isNumeral
        exact .int isNumeral small
  · intro denotes
    cases denotes with
    | int same small => exact .numeral spells.isCore (Text.isNumeral_signedDecimal_iff.2 same) small

variable {attributes first second : Attributes} {function name : String}

/-- An integer that is there is read as a number. -/
theorem optionalNumber_of_int {value : Int64} (found : attributes.get? name = some (.int value)) :
    attributes.optionalNumber function name = optionalNumber.number function name (.int value) := by
  rw [optionalNumber, getSome?, found]
  rfl

theorem optionalNumber_of_text {text : String}
    (found : attributes.get? name = some (.string text)) :
    attributes.optionalNumber function name =
      optionalNumber.number function name (.string text) := by
  rw [optionalNumber, getSome?, found]
  rfl

/-- A number is read from a value that stands for it. -/
theorem number_eq_ok_iff {value : Value} {word : Option UInt32} :
    optionalNumber.number function name value = .ok word ↔
      ∃ found : UInt32, word = some found ∧ value.Denotes found.toNat := by
  simp only [← word?_eq_some_iff, optionalNumber.number]
  cases word? value with
  | none => simp
  | some found => simp [eq_comm]

/-- A value that stands for no number is refused as none. -/
theorem number_eq_error_of_forall {value : Value} (none : ∀ n, ¬ value.Denotes n) :
    optionalNumber.number function name value =
      .error (.badArgument function name .notNonNegative) := by
  cases read : word? value with
  | none => rw [optionalNumber.number, read]
  | some word => exact absurd (word?_eq_some_iff.1 read) (none _)

/-- Attributes that say the same are read as the same number, or refused for the same reason. -/
theorem optionalNumber_congr (same : SaysSame (first.get? name) (second.get? name)) :
    first.optionalNumber function name = second.optionalNumber function name := by
  have quoted {attributes others : Attributes} {value : Int64} {text : String}
      (spells : Text.Spells text value.toInt)
      (int : attributes.get? name = some (.int value))
      (string : others.get? name = some (.string text)) :
      attributes.optionalNumber function name = others.optionalNumber function name := by
    rw [optionalNumber_of_int int, optionalNumber_of_text string, optionalNumber.number,
      optionalNumber.number, word?_eq_of_spells spells]
  generalize given : first.get? name = value at same
  generalize also : second.get? name = other at same
  cases same with
  | refl => rw [optionalNumber, getSome?, given, ← also, optionalNumber, getSome?]
  | quoted spells => exact quoted spells given also
  | unquoted spells => exact (quoted spells also given).symm

end Attributes

/-! ### Settings with numbers -/

namespace SshSettings

/-- The attributes that are read as numbers. -/
def numberNames : List String := ["port", "max_retries", "conn_timeout"]

/-- Two structs have the same names and say the same under them; those that are read as numbers may
say it as integers and as numerals. -/
structure SayAlike (first second : Attributes) : Prop where
  names : first.names = second.names
  numbers : ∀ name ∈ numberNames, SaysSame (first.get? name) (second.get? name)
  others : ∀ name, name ∉ numberNames → first.get? name = second.get? name

variable {function : String} {first second : Attributes}

/-- Attributes that say alike give the same texts. -/
theorem SayAlike.optionalText (alike : SayAlike first second) {name : String}
    (other : name ∉ numberNames) :
    first.optionalText function name = second.optionalText function name := by
  unfold Attributes.optionalText Attributes.getSome?
  rw [alike.others name other]

/-- Attributes that say alike are read as the same settings, or refused alike. -/
theorem SayAlike.ofAttributes_eq (alike : SayAlike first second) :
    ofAttributes function first = ofAttributes function second := by
  have known : first.refuseUnknown function attributeNames =
      second.refuseUnknown function attributeNames := by
    unfold Attributes.refuseUnknown
    rw [alike.names]
  have number (name : String) (member : name ∈ numberNames) :
      first.optionalNumber function name = second.optionalNumber function name :=
    Attributes.optionalNumber_congr (alike.numbers name member)
  have username : readUsername function first = readUsername function second := by
    unfold readUsername
    rw [alike.optionalText (by decide)]
  have port : readPort function first = readPort function second := by
    unfold readPort
    rw [number "port" (by decide)]
  unfold ofAttributes
  rw [known, username, port, alike.optionalText (by decide : "private_key_path" ∉ numberNames),
    number "max_retries" (by decide), number "conn_timeout" (by decide)]

/-- A port is a number of at most 16 bits. -/
theorem readPort_of_number {attributes : Attributes} {word : UInt32}
    (read : attributes.optionalNumber function "port" = .ok (some word)) :
    readPort function attributes =
      if word.toNat < UInt16.size then .ok (UInt16.ofNat word.toNat)
      else .error (.badArgument function "port" .outOfRange) := by
  rw [readPort, read]
  rfl

/-- **Numerals are read as integers.** A text is read as a number if it has, between blanks,
decimal digits with perhaps a plus sign in front whose value has no more than 32 bits, and an
integer is read if it has such a value. What is read is this value, and everything else is refused
for the same reason. An integer and a text with its numeral are read alike, also among the
attributes of the settings, where a port must have no more than 16 bits. -/
theorem numerals_read_as_integers (function name : String) :
    (∀ (attributes : Attributes) (text : String), attributes.get? name = some (.string text) →
      (∀ word, attributes.optionalNumber function name = .ok word ↔
        ∃ (found : UInt32) (core : List Char), word = some found ∧
          Text.IsCore text.toList core ∧ Text.IsNumeral core found.toNat) ∧
      ((∀ core n, Text.IsCore text.toList core → Text.IsNumeral core n → UInt32.size ≤ n) →
        attributes.optionalNumber function name =
          .error (.badArgument function name .notNonNegative))) ∧
    (∀ (attributes : Attributes) (value : Int64), attributes.get? name = some (.int value) →
      (∀ word, attributes.optionalNumber function name = .ok word ↔
        ∃ found : UInt32, word = some found ∧ value.toInt = found.toNat) ∧
      (¬ (0 ≤ value.toInt ∧ value.toInt < UInt32.size) →
        attributes.optionalNumber function name =
          .error (.badArgument function name .notNonNegative))) ∧
    (∀ first second : Attributes, SaysSame (first.get? name) (second.get? name) →
      first.optionalNumber function name = second.optionalNumber function name) ∧
    (∀ first second : Attributes, SayAlike first second →
      ofAttributes function first = ofAttributes function second) ∧
    ∀ (attributes : Attributes) (word : UInt32),
      attributes.optionalNumber function "port" = .ok (some word) →
      readPort function attributes =
        if word.toNat < UInt16.size then .ok (UInt16.ofNat word.toNat)
        else .error (.badArgument function "port" .outOfRange) := by
  refine ⟨?_, ?_, ?_, ?_, ?_⟩
  · intro attributes text found
    rw [Attributes.optionalNumber_of_text found]
    constructor
    · intro word
      rw [Attributes.number_eq_ok_iff]
      constructor
      · rintro ⟨number, same, denotes⟩
        cases denotes with
        | numeral isCore isNumeral _ => exact ⟨number, _, same, isCore, isNumeral⟩
      · rintro ⟨number, core, same, isCore, isNumeral⟩
        exact ⟨number, same, .numeral isCore isNumeral number.toNat_lt⟩
    · intro large
      apply Attributes.number_eq_error_of_forall
      intro n denotes
      cases denotes with
      | numeral isCore isNumeral small =>
          exact Nat.not_lt.2 (large _ _ isCore isNumeral) small
  · intro attributes value found
    rw [Attributes.optionalNumber_of_int found]
    constructor
    · intro word
      rw [Attributes.number_eq_ok_iff]
      constructor
      · rintro ⟨number, same, denotes⟩
        cases denotes with
        | int value _ => exact ⟨number, same, value⟩
      · rintro ⟨number, same, value⟩
        exact ⟨number, same, .int value number.toNat_lt⟩
    · intro outside
      apply Attributes.number_eq_error_of_forall
      intro n denotes
      cases denotes with
      | int same small => omega
  · exact fun first second same => Attributes.optionalNumber_congr same
  · exact fun first second alike => alike.ofAttributes_eq
  · exact fun attributes word read => readPort_of_number read

/-- A port between blanks with zeros in front is read, and a port and a number of seconds that are
out of range are refused alike as integers and as numerals. -/
theorem numerals_read_as_integers_of_quoted_port :
    let padded := Attributes.ofList [("port", .string "\t+0022 ")]
    let integers := Attributes.ofList
      [("conn_timeout", .int (-5)), ("port", .ofNat 70000), ("username", .string "core")]
    let numerals := Attributes.ofList
      [("conn_timeout", .string "-5\n"), ("port", .string " 70000"), ("username", .string "core")]
    padded.optionalNumber "f" "port" = .ok (some 22) ∧
      integers.optionalNumber "f" "conn_timeout" =
        .error (.badArgument "f" "conn_timeout" .notNonNegative) ∧
      numerals.optionalNumber "f" "conn_timeout" = integers.optionalNumber "f" "conn_timeout" ∧
      readPort "f" integers = .error (.badArgument "f" "port" .outOfRange) ∧
      ofAttributes "f" integers = .error (.badArgument "f" "port" .outOfRange) ∧
      ofAttributes "f" integers = ofAttributes "f" numerals := by
  intro padded integers numerals
  obtain ⟨ofText, _, _, _, limited⟩ := numerals_read_as_integers "f" "port"
  obtain ⟨_, ofInt, same, settings, _⟩ := numerals_read_as_integers "f" "conn_timeout"
  have seconds : SaysSame (integers.get? "conn_timeout") (numerals.get? "conn_timeout") :=
    .quoted ⟨[], ['\n'], rfl, List.forall_mem_nil _, List.forall_mem_singleton.2 rfl⟩
  have port : SaysSame (integers.get? "port") (numerals.get? "port") :=
    .quoted ⟨[' '], [], rfl, List.forall_mem_singleton.2 rfl, List.forall_mem_nil _⟩
  have alike : SayAlike integers numerals := {
    names := rfl
    numbers := by
      intro name member
      simp only [numberNames, List.mem_cons, List.not_mem_nil, or_false] at member
      rcases member with rfl | rfl | rfl
      · exact port
      · exact .refl none
      · exact seconds
    others := by
      intro name other
      simp only [numberNames, List.mem_cons, List.not_mem_nil, or_false, not_or] at other
      obtain ⟨notPort, _, notSeconds⟩ := other
      rw [Attributes.get?_ofList (by decide), Attributes.get?_ofList (by decide)]
      simp only [List.lookup_cons, beq_false_of_ne notPort, beq_false_of_ne notSeconds] }
  refine ⟨?_, ?_, ?_, ?_, ?_, ?_⟩
  · apply ((ofText padded "\t+0022 " rfl).1 (some 22)).2
    exact ⟨22, ['+', '0', '0', '2', '2'], rfl, Text.isCore_iff.2 (by decide),
      .signed (List.cons_ne_nil _ _) (List.all_eq_true.1 rfl)⟩
  · exact (ofInt integers (-5) rfl).2 (by decide)
  · exact (same integers numerals seconds).symm
  · exact limited integers 70000 rfl
  · rfl
  · exact settings integers numerals alike

end SshSettings

end ClusterHosts
