import ClusterHosts.Proofs.Words
import ClusterHosts.Settings
import ClusterHosts.Text.Basic

/-! # Numerals and numbers -/

namespace ClusterHosts.Text

/-! ## Where numerals end

A decimal numeral ends before the first character that is no digit, so that only the same number is
written the same in front of such a character (`Text.signedDecimal_append_inj`). A hexadecimal
numeral is read back as the number it was written for (`Text.inBase?_toDigits`).
-/

/-! ### Decimal digits -/

/-- No decimal numeral of a positive number starts with a zero. -/
theorem head?_decimal {n : Nat} (positive : 0 < n) : (decimal n).head? ≠ some '0' := by
  induction n using Nat.strongRecOn with
  | ind n ih =>
      unfold decimal at ih ⊢
      rw [Nat.toDigits_eq_if (by decide)]
      split
      · next small =>
          have digits : ∀ n < 10, 0 < n → [Nat.digitChar n].head? ≠ some '0' := by decide
          exact digits n small positive
      · next large =>
          have front := ih (n / 10) (Nat.div_lt_self positive (by decide)) (by omega)
          obtain ⟨first, digits, found⟩ :=
            List.exists_cons_of_ne_nil (@Nat.toDigits_ne_nil (n / 10) 10)
          rw [found] at front ⊢
          exact front

/-- A numeral starts with a digit. -/
theorem exists_digit_decimal (n : Nat) :
    ∃ digit digits, decimal n = digit :: digits ∧ digit.isDigit = true := by
  obtain ⟨digit, digits, found⟩ : ∃ digit digits, decimal n = digit :: digits :=
    List.exists_cons_of_ne_nil Nat.toDigits_ne_nil
  have all := List.all_eq_true.1 (all_isDigit_decimal n)
  exact ⟨digit, digits, found, all digit (found ▸ List.mem_cons_self)⟩

section

variable {rest after : List Char} (ends : ∀ c ∈ rest.head?, c.isDigit = false)
  (also : ∀ c ∈ after.head?, c.isDigit = false)

include ends

/-- The digits in front of something else are those of the numeral. -/
theorem takeWhile_decimal (n : Nat) : (decimal n ++ rest).takeWhile Char.isDigit = decimal n := by
  rw [List.takeWhile_append_of_pos (List.all_eq_true.1 (all_isDigit_decimal n))]
  cases rest with
  | nil => rw [List.takeWhile_nil, List.append_nil]
  | cons c rest => rw [List.takeWhile_cons_of_neg (by simp [ends c rfl]), List.append_nil]

theorem dropWhile_decimal (n : Nat) : (decimal n ++ rest).dropWhile Char.isDigit = rest := by
  rw [List.dropWhile_append_of_pos (List.all_eq_true.1 (all_isDigit_decimal n))]
  cases rest with
  | nil => rfl
  | cons c rest => rw [List.dropWhile_cons_of_neg (by simp [ends c rfl])]

include also

/-- Numbers are told apart by their numerals, if no digit follows. -/
theorem decimal_append_inj {n m : Nat} (same : decimal n ++ rest = decimal m ++ after) :
    n = m ∧ rest = after := by
  have digits : decimal n = decimal m := by
    rw [← takeWhile_decimal ends n, same, takeWhile_decimal also m]
  constructor
  · rw [← digitsValue_decimal n, digits, digitsValue_decimal]
  · rw [← dropWhile_decimal ends n, same, dropWhile_decimal also m]

/-- **A numeral shows where it ends**, if no digit follows it. -/
theorem signedDecimal_append_inj {n m : Int}
    (same : signedDecimal n ++ rest = signedDecimal m ++ after) : n = m ∧ rest = after := by
  -- A sign is no digit.
  have unsigned (k : Nat) (cs ds : List Char) : decimal k ++ ds ≠ '-' :: cs := by
    intro same
    obtain ⟨digit, digits, written, isDigit⟩ := exists_digit_decimal k
    rw [written, List.cons_append] at same
    rw [(List.cons.inj same).1] at isDigit
    cases isDigit
  cases n with
  | ofNat n =>
      cases m with
      | ofNat m =>
          obtain ⟨rfl, rests⟩ := decimal_append_inj ends also same
          exact ⟨rfl, rests⟩
      | negSucc m => exact absurd same (unsigned n _ _)
  | negSucc n =>
      cases m with
      | ofNat m => exact absurd same.symm (unsigned m _ _)
      | negSucc m =>
          obtain ⟨sizes, rests⟩ := decimal_append_inj ends also (List.cons.inj same).2
          exact ⟨by rw [Nat.succ.inj sizes], rests⟩

end

/-! ### Hexadecimal digits -/

theorem digitValue?_digitChar {digit : Nat} (small : digit < 16) :
    digitValue? (Nat.digitChar digit) = some digit := by
  revert digit
  decide

/-- A further digit counts behind those before it. -/
theorem inBase?_append_singleton {base digit n : Nat} {digits : List Char} {c : Char}
    (front : inBase? base digits = some n) (value : digitValue? c = some digit)
    (small : digit < base) : inBase? base (digits ++ [c]) = some (base * n + digit) := by
  unfold inBase? at front ⊢
  split at front
  · cases front
  · simp [List.foldlM_append, front, value, small]

/-- A hexadecimal numeral is read as the number it was written for. -/
theorem inBase?_toDigits (n : Nat) : inBase? 16 (Nat.toDigits 16 n) = some n := by
  induction n using Nat.strongRecOn with
  | ind n ih =>
      rw [Nat.toDigits_eq_if (by decide)]
      split
      · next small => simp [inBase?, digitValue?_digitChar small, small]
      · next large =>
          have front := ih (n / 16) (Nat.div_lt_self (by omega) (by decide))
          have below : n % 16 < 16 := Nat.mod_lt n (by decide)
          rw [inBase?_append_singleton front (digitValue?_digitChar below) below, Nat.div_add_mod]

/-- A hexadecimal numeral has hexadecimal digits only. -/
theorem notMem_toDigits {c : Char} (other : digitValue? c = none) (n : Nat) :
    c ∉ Nat.toDigits 16 n := by
  have apart {digit : Nat} (small : digit < 16) : c ≠ Nat.digitChar digit := fun same => by
    rw [same, digitValue?_digitChar small] at other
    cases other
  induction n using Nat.strongRecOn with
  | ind n ih =>
      rw [Nat.toDigits_eq_if (by decide)]
      split
      · next small => simpa using apart small
      · next large =>
          have front := ih (n / 16) (Nat.div_lt_self (by omega) (by decide))
          simpa using ⟨front, apart (Nat.mod_lt n (by decide))⟩

end ClusterHosts.Text

namespace ClusterHosts

/-! ## Numbers that values stand for

An integer stands for itself, and a text for the number whose numeral is left of it when it is
trimmed. Nothing else stands for a number, and no number has more than 32 bits
(`Attributes.word?_eq_some_iff`).
-/

namespace Text

/-- Characters are a numeral of a number: its decimal digits, with any number of zeros in front and
perhaps behind a plus sign. -/
inductive IsNumeral : List Char → Nat → Prop where
  | plain {digits : List Char} (nonempty : digits ≠ [])
      (decimal : ∀ digit ∈ digits, digit.isDigit = true) : IsNumeral digits (digitsValue digits)
  | signed {digits : List Char} (nonempty : digits ≠ [])
      (decimal : ∀ digit ∈ digits, digit.isDigit = true) :
      IsNumeral ('+' :: digits) (digitsValue digits)

/-- A natural number is read from one or more digits. -/
theorem natural?_eq_some_iff {digits : List Char} {n : Nat} :
    natural? digits = some n ↔
      digits ≠ [] ∧ (∀ digit ∈ digits, digit.isDigit = true) ∧ digitsValue digits = n := by
  unfold natural?
  split
  · next refused =>
      refine iff_of_false (fun read => by cases read) ?_
      rintro ⟨nonempty, decimal, _⟩
      have all : digits.all Char.isDigit = true := List.all_eq_true.2 decimal
      have something : digits.isEmpty = false := by simpa using nonempty
      rw [all, something] at refused
      cases refused
  · next accepted =>
      simp only [Bool.or_eq_true, not_or, List.isEmpty_iff, Bool.not_eq_true', Bool.not_eq_false,
        List.all_eq_true] at accepted
      rw [Option.some.injEq]
      exact ⟨fun same => ⟨accepted.1, accepted.2, same⟩, fun known => known.2.2⟩

/-- A number is read from its numeral if it is below the bound. -/
theorem unsigned?_eq_some_iff {bound n : Nat} {text : String} :
    unsigned? bound text = some n ↔ IsNumeral text.toList n ∧ n < bound := by
  have read (digits : List Char) : (natural? digits).filter (· < bound) = some n ↔
      natural? digits = some n ∧ n < bound := by
    rw [Option.filter_eq_some_iff, decide_eq_true_eq]
  unfold unsigned?
  split
  · next digits starts =>
      rw [starts, read, natural?_eq_some_iff]
      refine and_congr_left fun _ => ⟨?_, ?_⟩
      · rintro ⟨nonempty, decimal, rfl⟩
        exact .signed nonempty decimal
      · intro numeral
        cases numeral with
        | plain _ decimal => exact absurd (decimal '+' List.mem_cons_self) (by decide)
        | signed nonempty decimal => exact ⟨nonempty, decimal, rfl⟩
  · next unsigned =>
      rw [read, natural?_eq_some_iff]
      refine and_congr_left fun _ => ⟨?_, ?_⟩
      · rintro ⟨nonempty, decimal, rfl⟩
        exact .plain nonempty decimal
      · intro numeral
        generalize text.toList = characters at numeral unsigned
        cases numeral with
        | plain nonempty decimal => exact ⟨nonempty, decimal, rfl⟩
        | signed _ _ => exact absurd rfl (unsigned _)

end Text

/-- A value stands for a natural number below 2^32: it is the integer, or a text that is a numeral
of the number but for blanks at its ends. -/
inductive Value.Denotes : Value → Nat → Prop where
  | int {value : Int64} {n : Nat} (same : value.toInt = n) (small : n < UInt32.size) :
      Denotes (.int value) n
  | numeral {text : String} {core : List Char} {n : Nat} (isCore : Text.IsCore text.toList core)
      (isNumeral : Text.IsNumeral core n) (small : n < UInt32.size) : Denotes (.string text) n

namespace Attributes

/-- A value is read as the number that it stands for. -/
theorem word?_eq_some_iff {value : Value} {word : UInt32} :
    word? value = some word ↔ value.Denotes word.toNat := by
  cases value with
  | int value =>
      rw [word?]
      constructor
      · intro read
        split at read
        · next fits =>
            cases read
            have small : value.toInt.toNat < UInt32.size := by omega
            rw [UInt32.toNat_ofNat_of_lt' small]
            exact .int (Int.toNat_of_nonneg fits.1).symm small
        · cases read
      · intro denotes
        cases denotes with
        | int same small =>
            have fits : 0 ≤ value.toInt ∧ value.toInt < UInt32.size := by omega
            rw [if_pos fits, same, Int.toNat_natCast, UInt32.ofNat_toNat]
  | string text =>
      have trimmed : Text.IsCore text.toList (Text.trim text).toList :=
        Text.isCore_toList_iff.2 rfl
      rw [word?, Option.map_eq_some_iff]
      constructor
      · rintro ⟨n, read, rfl⟩
        obtain ⟨isNumeral, small⟩ := Text.unsigned?_eq_some_iff.1 read
        rw [UInt32.toNat_ofNat_of_lt' small]
        exact .numeral trimmed isNumeral small
      · intro denotes
        cases denotes with
        | numeral isCore isNumeral small =>
            have same : Text.IsNumeral (Text.trim text).toList word.toNat := by
              rw [Text.isCore_iff.1 trimmed, ← Text.isCore_iff.1 isCore]
              exact isNumeral
            exact ⟨word.toNat, Text.unsigned?_eq_some_iff.2 ⟨same, small⟩, UInt32.ofNat_toNat⟩
  | _ =>
      refine iff_of_false (fun read => by cases read) ?_
      intro denotes
      cases denotes

end Attributes

namespace Value.Denotes

variable {value : Value} {n m : Nat}

/-- No value stands for a number of more than 32 bits. -/
theorem lt_size (denotes : value.Denotes n) : n < UInt32.size := by
  cases denotes with
  | int _ small => exact small
  | numeral _ _ small => exact small

theorem word?_eq (denotes : value.Denotes n) : Attributes.word? value = some (UInt32.ofNat n) := by
  rw [Attributes.word?_eq_some_iff, UInt32.toNat_ofNat_of_lt' denotes.lt_size]
  exact denotes

/-- A value stands for one number at most. -/
theorem unique (denotes : value.Denotes n) (also : value.Denotes m) : n = m := by
  have same : UInt32.ofNat n = UInt32.ofNat m :=
    Option.some.inj (denotes.word?_eq.symm.trans also.word?_eq)
  rw [← UInt32.toNat_ofNat_of_lt' denotes.lt_size, same, UInt32.toNat_ofNat_of_lt' also.lt_size]

end Value.Denotes

end ClusterHosts
