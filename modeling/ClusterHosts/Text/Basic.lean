/-! # Texts as lists of characters

White space and words, digits, and the parts between marks. -/

namespace ClusterHosts.Text

/-! ## Blank characters, trimming and words

A character is blank when it has the Unicode property White_Space. A text is trimmed by dropping the
blank characters at its two ends, and its words are its maximal runs of characters that are not
blank.
-/

/-- The characters with the property White_Space. -/
def isBlank (c : Char) : Bool :=
  (0x9 ≤ c.toNat && c.toNat ≤ 0xD) || c.toNat == 0x20 || c.toNat == 0x85 || c.toNat == 0xA0 ||
    c.toNat == 0x1680 || (0x2000 ≤ c.toNat && c.toNat ≤ 0x200A) || c.toNat == 0x2028 ||
    c.toNat == 0x2029 || c.toNat == 0x202F || c.toNat == 0x205F || c.toNat == 0x3000

/-- The characters without the blanks in front. -/
def dropBlanks (cs : List Char) : List Char := cs.dropWhile isBlank

/-- The characters without the blanks at either end. -/
def trimmed (cs : List Char) : List Char := (dropBlanks (dropBlanks cs).reverse).reverse

/-- The maximal runs of characters that are not blank. -/
def runs : List Char → List (List Char)
  | [] => []
  | c :: cs =>
      if isBlank c then runs cs
      else match cs with
        | [] => [[c]]
        | next :: _ =>
            if isBlank next then [c] :: runs cs
            else match runs cs with
              | [] => [[c]]
              | run :: rest => (c :: run) :: rest

/-- A text without the blanks at either end. -/
def trim (text : String) : String := String.ofList (trimmed text.toList)

/-- The words of a text, in order. -/
def words (text : String) : List String := (runs text.toList).map String.ofList

/-- Whether a text has nothing but blanks, as the empty text has. -/
def isBlankText (text : String) : Bool := text.toList.all isBlank

/-- A text of blanks has no words. -/
theorem runs_eq_nil_of_all {cs : List Char} (blank : cs.all isBlank = true) : runs cs = [] := by
  induction cs with
  | nil => rfl
  | cons c cs ih =>
      simp only [List.all_cons, Bool.and_eq_true] at blank
      unfold runs
      rw [if_pos blank.1, ih blank.2]

/-! ## Numerals

Decimal numerals of integers, and the reading of numerals back. A natural number is read from one or
more ASCII digits, with any number of zeros in front; a sign is allowed where the reader says so.
-/

/-- The decimal numeral of a natural number. -/
def decimal (n : Nat) : List Char := Nat.toDigits 10 n

/-- The decimal numeral of an integer, with a minus sign if it is negative. -/
def signedDecimal : Int → List Char
  | .ofNat n => decimal n
  | .negSucc n => '-' :: decimal (n + 1)

/-- A hexadecimal numeral in small letters, with zeros in front up to a width. -/
def hexadecimal (width n : Nat) : List Char :=
  List.replicate (width - (Nat.toDigits 16 n).length) '0' ++ Nat.toDigits 16 n

/-- A hexadecimal numeral in capital letters, with zeros in front up to a width. -/
def capitalHexadecimal (width n : Nat) : List Char := (hexadecimal width n).map Char.toUpper

/-- The value of a digit in bases up to sixteen. -/
def digitValue? (c : Char) : Option Nat :=
  if c.isDigit then some (c.toNat - '0'.toNat)
  else if 'a' ≤ c ∧ c ≤ 'f' then some (c.toNat - 'a'.toNat + 10)
  else if 'A' ≤ c ∧ c ≤ 'F' then some (c.toNat - 'A'.toNat + 10)
  else none

/-- The value of a sequence of decimal digits. -/
def digitsValue (digits : List Char) : Nat :=
  digits.foldl (fun value digit => 10 * value + (digit.toNat - '0'.toNat)) 0

/-- The number that one or more decimal digits stand for. -/
def natural? (digits : List Char) : Option Nat :=
  if digits.isEmpty || !digits.all Char.isDigit then none else some (digitsValue digits)

/-- The number below a bound that a text stands for: decimal digits, with or without a plus sign. -/
def unsigned? (bound : Nat) (text : String) : Option Nat :=
  let digits := match text.toList with
    | '+' :: digits => digits
    | digits => digits
  (natural? digits).filter (· < bound)

/-- The integer a text stands for: decimal digits, with or without a sign. -/
def integer? (text : String) : Option Int :=
  match text.toList with
  | '-' :: digits => (natural? digits).map fun n => -(n : Int)
  | '+' :: digits => (natural? digits).map Int.ofNat
  | digits => (natural? digits).map Int.ofNat

/-- The value of the digits in a base up to sixteen, if there is a digit and each is below the
base. -/
def inBase? (base : Nat) (digits : List Char) : Option Nat :=
  if digits.isEmpty then none
  else digits.foldlM (fun value digit =>
    (digitValue? digit).bind fun d => if d < base then some (base * value + d) else none) 0

/-- The numeral of a number in decimal digits stands for that number. -/
theorem digitsValue_decimal (n : Nat) : digitsValue (decimal n) = n := by
  induction n using Nat.strongRecOn with
  | ind n ih =>
      unfold decimal at ih ⊢
      rw [Nat.toDigits_eq_if (by decide)]
      split
      · next small =>
          simp only [digitsValue, List.foldl_cons, List.foldl_nil]
          have := Nat.toNat_digitChar_of_lt_ten small
          have zero : '0'.toNat = 48 := rfl
          omega
      · next large =>
          have smaller : n / 10 < n := Nat.div_lt_self (by omega) (by decide)
          have digit := Nat.toNat_digitChar_of_lt_ten (Nat.mod_lt n (by decide : 10 > 0))
          have zero : '0'.toNat = 48 := rfl
          have front := ih (n / 10) smaller
          simp only [digitsValue, List.foldl_append, List.foldl_cons, List.foldl_nil] at front ⊢
          rw [front]
          omega

/-- A decimal numeral has only decimal digits. -/
theorem all_isDigit_decimal (n : Nat) : (decimal n).all Char.isDigit = true := by
  simp only [List.all_eq_true]
  intro c member
  exact Nat.isDigit_of_mem_toDigits (by decide) (by decide) member

/-! ## Splitting at a mark

The parts of a row between the places of one mark: of a text between those of a character, or of
bytes between those of a byte. There is always at least one part, and parts may be empty. Splitting
a join of parts without the mark gives the parts back (`split_join`).
-/

variable {α : Type} [DecidableEq α]

/-- The parts between the places of a mark. -/
def split (mark : α) : List α → List (List α)
  | [] => [[]]
  | c :: cs =>
      if c = mark then [] :: split mark cs
      else match split mark cs with
        | [] => [[c]]
        | part :: rest => (c :: part) :: rest

/-- The parts of a text as texts. -/
def splitText (mark : Char) (text : String) : List String :=
  (split mark text.toList).map String.ofList

/-- Parts with a mark between each two. -/
def join {α : Type} (mark : α) : List (List α) → List α
  | [] => []
  | [part] => part
  | part :: next :: rest => part ++ mark :: join mark (next :: rest)

/-- There is always a part. -/
theorem split_ne_nil (mark : α) (cs : List α) : split mark cs ≠ [] := by
  cases cs with
  | nil => simp [split]
  | cons c cs =>
      unfold split
      split
      · simp
      · split <;> simp

/-- The parts of two texts with a mark between them are the parts of both. -/
theorem split_append_mark (mark : α) (first second : List α) :
    split mark (first ++ mark :: second) = split mark first ++ split mark second := by
  induction first with
  | nil => simp [split]
  | cons c first ih =>
      rw [List.cons_append, split, split, ih]
      by_cases same : c = mark
      · rw [if_pos same, if_pos same, List.cons_append]
      · obtain ⟨part, rest, parts⟩ := List.exists_cons_of_ne_nil (split_ne_nil mark first)
        rw [if_neg same, if_neg same, parts]
        rfl

/-- A text without the mark is one part. -/
theorem split_of_not_mem {mark : α} {part : List α} (free : mark ∉ part) :
    split mark part = [part] := by
  induction part with
  | nil => rfl
  | cons c part ih =>
      have different : c ≠ mark := fun same => free (same ▸ List.mem_cons_self)
      have later : mark ∉ part := fun member => free (List.mem_cons_of_mem _ member)
      simp [split, different, ih later]

/-- A part without the mark stays one part in front of what follows a mark. -/
theorem split_append_cons {mark : α} {part : List α} (free : mark ∉ part) (rest : List α) :
    split mark (part ++ mark :: rest) = part :: split mark rest := by
  rw [split_append_mark, split_of_not_mem free, List.singleton_append]

/-- The first mark ends the same part in the same text. -/
theorem append_mark_inj {mark : α} {part other rest after : List α} (free : mark ∉ part)
    (also : mark ∉ other) (same : part ++ mark :: rest = other ++ mark :: after) :
    part = other ∧ rest = after := by
  have parts := congrArg (split mark) same
  rw [split_append_cons free, split_append_cons also] at parts
  obtain rfl := (List.cons.inj parts).1
  exact ⟨rfl, (List.cons.inj (List.append_cancel_left same)).2⟩

/-- Parts without the mark are found again in their join. -/
theorem split_join {mark : α} {parts : List (List α)} (nonempty : parts ≠ [])
    (free : ∀ part ∈ parts, mark ∉ part) : split mark (join mark parts) = parts := by
  induction parts with
  | nil => exact absurd rfl nonempty
  | cons part rest ih =>
      cases rest with
      | nil => exact split_of_not_mem (free part List.mem_cons_self)
      | cons next rest =>
          have later := ih (by simp) fun part member => free part (List.mem_cons_of_mem _ member)
          rw [join, split_append_cons (free part List.mem_cons_self), later]

end ClusterHosts.Text
