import ClusterHosts.Json.Basic
import ClusterHosts.Json.Scan
import ClusterHosts.Proofs.Numbers

/-! # Scanning what is written

A JSON text that is written from a value is cut into the tokens of the value, whatever blanks stand
between them and whatever follows (`Json.ofText_spaced`). A number is the one token whose end
depends on what follows; values whose numbers are integers of at most 64 bits are written without
loss.
-/

namespace ClusterHosts

/-! ### Strings -/

namespace Token

variable {code : Nat} (c : Char) (tail : List Char)

/-- The escape of a control character has four hexadecimal digits, which stand for it. -/
theorem hexadecimal_control (control : code < 0x20) :
    Text.hexadecimal 4 code = ['0', '0', Nat.digitChar (code / 16), Nat.digitChar (code % 16)] := by
  revert code
  decide

/-- The number of a control character is read back from its two digits. -/
theorem hexCode?_control (control : code < 0x20) :
    hexCode? '0' '0' (Nat.digitChar (code / 16)) (Nat.digitChar (code % 16)) = some code := by
  revert code
  decide

/-- A character that is no quote, backslash or control character stands for itself. -/
theorem unquote_plain {c : Char} (quote : c ≠ '"') (backslash : c ≠ '\\')
    (printable : ¬ c.toNat < 0x20) (tail : List Char) :
    unquote (c :: tail) = (unquote tail).map fun (text, rest) => (c :: text, rest) := by
  rw [unquote, if_neg printable]
  -- What is left are the patterns that come before, which begin with a quote or a backslash.
  all_goals
    intros
    contradiction

/-- A character that stands for itself does not end a string. -/
theorem skipQuoted_plain {c : Char} (quote : c ≠ '"') (backslash : c ≠ '\\')
    (printable : ¬ c.toNat < 0x20) (tail : List Char) :
    skipQuoted (c :: tail) = skipQuoted tail := by
  rw [skipQuoted, if_neg printable]
  all_goals
    intros
    contradiction

/-- An escaped character is read back. -/
theorem unquote_escapedChar :
    unquote (Json.escapedChar c ++ tail) =
      (unquote tail).map fun (text, rest) => (c :: text, rest) := by
  unfold Json.escapedChar
  split
  case h_8 quote backslash _ _ _ _ _ =>
    split
    · next control =>
        have notLow : ¬ (0xDC00 ≤ c.toNat ∧ c.toNat ≤ 0xDFFF) := by omega
        have notHigh : ¬ (0xD800 ≤ c.toNat ∧ c.toNat ≤ 0xDBFF) := by omega
        rw [hexadecimal_control control]
        simp only [List.cons_append, List.nil_append, unquote, hexCode?_control control,
          if_neg notLow, if_neg notHigh, Char.ofNat_toNat]
    · next printable =>
        exact unquote_plain quote backslash printable tail
  all_goals rfl

theorem skipQuoted_escapedChar :
    skipQuoted (Json.escapedChar c ++ tail) = skipQuoted tail := by
  unfold Json.escapedChar
  split
  case h_8 quote backslash _ _ _ _ _ =>
    split
    · next control =>
        rw [hexadecimal_control control]
        simp only [List.cons_append, List.nil_append, skipQuoted, hexCode?_control control,
          Option.isSome_some, ↓reduceIte]
    · next printable =>
        exact skipQuoted_plain quote backslash printable tail
  all_goals rfl

/-- A string is read back up to its closing quote. -/
theorem unquote_escaped (text rest : List Char) :
    unquote (text.flatMap Json.escapedChar ++ '"' :: rest) = .ok (text, rest) := by
  induction text with
  | nil => rfl
  | cons c text ih =>
      rw [List.flatMap_cons, List.append_assoc, unquote_escapedChar, ih]
      rfl

theorem skipQuoted_escaped (text rest : List Char) :
    skipQuoted (text.flatMap Json.escapedChar ++ '"' :: rest) = .ok rest := by
  induction text with
  | nil => rfl
  | cons c text ih => rw [List.flatMap_cons, List.append_assoc, skipQuoted_escapedChar, ih]

/-- A string is scanned as one token. -/
theorem scanString_escaped (text : String) (rest : List Char) :
    scanString (text.toList.flatMap Json.escapedChar ++ '"' :: rest) =
      (.string (.ok text), rest) := by
  rw [scanString, unquote_escaped, skipQuoted_escaped]
  simp only [String.ofList_toList]

end Token

/-! ### Numbers -/

namespace Token

/-- What may follow a number without becoming a part of it. -/
def EndsNumber (rest : List Char) : Prop :=
  ∀ c ∈ rest.head?, c.isDigit = false ∧ c ≠ '.' ∧ c ≠ 'e' ∧ c ≠ 'E'

variable {rest : List Char}

theorem endsNumber_nil : EndsNumber [] := fun _ member => nomatch member

/-- A number ends before a comma and before a closing bracket. -/
theorem endsNumber_mark {c : Char} (mark : c ∈ [',', ']', '}']) : EndsNumber (c :: rest) := by
  rintro first ⟨⟩
  simp only [List.mem_cons, List.not_mem_nil, or_false] at mark
  rcases mark with rfl | rfl | rfl <;> decide

/-- A blank ends a number. -/
theorem endsNumber_blanks {blanks : List Char} (blank : ∀ c ∈ blanks, isSpace c = true)
    (ends : EndsNumber rest) : EndsNumber (blanks ++ rest) := by
  cases blanks with
  | nil => exact ends
  | cons c blanks =>
      have space := blank c List.mem_cons_self
      simp only [isSpace, Bool.or_eq_true, beq_iff_eq] at space
      rintro first ⟨⟩
      rcases space with ((rfl | rfl) | rfl) | rfl <;> decide

/-- Where a number ends there is neither a fraction nor an exponent. -/
theorem scanAfterWhole_of_endsNumber (literal : Literal) (ends : EndsNumber rest) :
    scanAfterWhole literal rest = .ok (literal, rest) := by
  cases rest with
  | nil => rfl
  | cons c rest =>
      obtain ⟨_, notPoint, notSmall, notLarge⟩ := ends c rfl
      rw [scanAfterWhole.eq_def]
      split
      · next same => exact absurd (List.cons.inj same).1 notPoint
      · rw [scanAfterDigits.eq_def]
        split
        · next same => exact absurd (List.cons.inj same).1 notSmall
        · next same => exact absurd (List.cons.inj same).1 notLarge
        · rfl

/-- The digits of a number are scanned as its numeral. -/
theorem scanUnsigned_decimal (negative : Bool) (n : Nat) (ends : EndsNumber rest) :
    scanUnsigned negative (Text.decimal n ++ rest) =
      .ok (⟨negative, Text.decimal n, none, none⟩, rest) := by
  have noDigit : ∀ c ∈ rest.head?, c.isDigit = false := fun c first => (ends c first).1
  rw [scanUnsigned, Text.takeWhile_decimal noDigit, Text.dropWhile_decimal noDigit]
  split
  · next nothing => exact absurd nothing Nat.toDigits_ne_nil
  · next leading =>
      -- Only the numeral of zero starts with a zero, and it has no other digit.
      rcases Nat.eq_zero_or_pos n with rfl | positive
      · cases leading
      · exact absurd (by rw [leading]; rfl) (Text.head?_decimal positive)
  · exact scanAfterWhole_of_endsNumber _ ends

end Token

/-- Whether a number is an integer that fits into 64 bits, with or without a sign. -/
def Number.IsExact : Number → Prop
  | .integer value => -(Nat.pow 2 63 : Int) ≤ value ∧ value < (UInt64.size : Int)
  | .float _ => False

namespace Token

/-- A number that is written exactly is scanned as itself. -/
theorem scanNumber_text {number : Number} (exact : number.IsExact) {rest : List Char}
    (ends : EndsNumber rest) : scanNumber (number.text ++ rest) = (.number (.ok number), rest) := by
  cases number with
  | float value => exact exact.elim
  | integer value =>
      obtain ⟨above, below⟩ := exact
      cases value with
      | negSucc n =>
          have range : 0 < n + 1 ∧ n + 1 ≤ Nat.pow 2 63 := by
            have negative : Int.negSucc n = -((n + 1 : Nat) : Int) := rfl
            omega
          simp only [Number.text, Text.signedDecimal, List.cons_append, scanNumber,
            scanUnsigned_decimal true (n + 1) ends, numberToken, Literal.value,
            Text.digitsValue_decimal, ↓reduceIte, if_pos range]
          rfl
      | ofNat n =>
          have range : n < UInt64.size := Int.ofNat_lt.1 below
          have unsigned : scanNumber (Text.decimal n ++ rest) =
              numberToken (scanUnsigned false (Text.decimal n ++ rest)) := by
            obtain ⟨digit, digits, found, isDigit⟩ := Text.exists_digit_decimal n
            rw [found, List.cons_append, scanNumber.eq_def]
            split
            · next same =>
                rw [(List.cons.inj same).1] at isDigit
                cases isDigit
            · rfl
          simp only [Number.text, Text.signedDecimal, unsigned,
            scanUnsigned_decimal false n ends, numberToken, Literal.value,
            Text.digitsValue_decimal, Bool.false_eq_true, ↓reduceIte, if_pos range]
          rfl

/-- The first character of a number tells that it is one. -/
theorem exists_scan_number {number : Number} (exact : number.IsExact) {rest : List Char}
    (ends : EndsNumber rest) :
    ∃ c cs, number.text ++ rest = c :: cs ∧ isSpace c = false ∧
      scan c cs = (.number (.ok number), rest) := by
  have scanned := scanNumber_text exact ends
  cases number with
  | float value => exact exact.elim
  | integer value =>
      cases value with
      | negSucc n => exact ⟨'-', Text.decimal (n + 1) ++ rest, rfl, rfl, scanned⟩
      | ofNat n =>
          obtain ⟨digit, digits, found, isDigit⟩ := Text.exists_digit_decimal n
          simp only [Number.text, Text.signedDecimal, found, List.cons_append] at scanned ⊢
          refine ⟨digit, digits ++ rest, rfl, ?_, ?_⟩
          · unfold isSpace
            simp only [Bool.or_eq_false_iff, beq_eq_false_iff_ne]
            refine ⟨⟨⟨?_, ?_⟩, ?_⟩, ?_⟩ <;> rintro rfl <;> cases isDigit
          · rw [← scanned, scan.eq_def]
            split
            all_goals first
              | cases isDigit
              | exact if_pos (.inr isDigit)

/-! ### Texts -/

theorem ofText_space {c : Char} (space : isSpace c = true) (cs : List Char) :
    ofText (c :: cs) = ofText cs := by
  rw [ofText, if_pos space]

/-- A text is scanned token by token. -/
theorem ofText_scan {c : Char} {cs rest : List Char} {token : Token}
    (visible : isSpace c = false) (scanned : scan c cs = (token, rest)) :
    ofText (c :: cs) = token :: ofText rest := by
  rw [ofText, if_neg (by simp [visible])]
  simp only [scanned]

/-- Any number of blanks between tokens does not count. -/
theorem ofText_blanks {blanks : List Char} (blank : ∀ c ∈ blanks, isSpace c = true)
    (rest : List Char) : ofText (blanks ++ rest) = ofText rest := by
  induction blanks with
  | nil => rfl
  | cons c blanks ih =>
      rw [List.cons_append, ofText_space (blank c List.mem_cons_self),
        ih fun other member => blank other (List.mem_cons_of_mem _ member)]

theorem ofText_comma (cs : List Char) : ofText (',' :: cs) = .comma :: ofText cs :=
  ofText_scan rfl rfl

theorem ofText_colon (cs : List Char) : ofText (':' :: cs) = .colon :: ofText cs :=
  ofText_scan rfl rfl

/-- A string is scanned as one token. -/
theorem ofText_stringText (text : String) (rest : List Char) :
    ofText (Json.stringText text ++ rest) = .string (.ok text) :: ofText rest := by
  rw [Json.stringText, List.cons_append, List.append_assoc]
  exact ofText_scan rfl (scanString_escaped text rest)

theorem ofText_boolText (value : Bool) (rest : List Char) :
    ofText (Json.boolText value ++ rest) = .bool value :: ofText rest := by
  cases value <;> exact ofText_scan rfl rfl

/-- A number is scanned as one token. -/
theorem ofText_number {number : Number} (exact : number.IsExact) {rest : List Char}
    (ends : EndsNumber rest) :
    ofText (number.text ++ rest) = .number (.ok number) :: ofText rest := by
  obtain ⟨c, cs, written, visible, scanned⟩ := exists_scan_number exact ends
  rw [written, ofText_scan visible scanned]

end Token

namespace Json

mutual

/-- Whether all numbers of a value are exact. -/
def IsExact : Json → Prop
  | .number value => value.IsExact
  | .array items => AllExact items
  | .object members => MembersExact members
  | _ => True

/-- Whether all items are exact. -/
def AllExact : List Json → Prop
  | [] => True
  | item :: items => item.IsExact ∧ AllExact items

/-- Whether the values of all members are exact. -/
def MembersExact : List (String × Json) → Prop
  | [] => True
  | (_, value) :: members => value.IsExact ∧ MembersExact members

end

/-- Members can be read back if those in front and those behind can. -/
theorem membersExact_append {first second : List (String × Json)} :
    MembersExact (first ++ second) ↔ MembersExact first ∧ MembersExact second := by
  induction first with
  | nil => simp only [List.nil_append, MembersExact, true_and]
  | cons member members ih =>
      obtain ⟨name, value⟩ := member
      simp only [List.cons_append, MembersExact, ih, and_assoc]

/-- A natural number of 64 bits can be read back. -/
theorem isExact_integer {n : Nat} (below : n < UInt64.size) : (integer n).IsExact := by
  simp only [integer, IsExact, Number.IsExact]
  omega

mutual

/-- The tokens of a value. -/
def tokens : Json → List Token
  | .null => [.null]
  | .bool value => [.bool value]
  | .number value => [.number (.ok value)]
  | .string text => [.string (.ok text)]
  | .array [] => [.openBracket, .closeBracket]
  | .array (item :: items) => .openBracket :: (item.tokens ++ itemTokens items)
  | .object [] => [.openBrace, .closeBrace]
  | .object ((name, value) :: members) =>
      .openBrace :: .string (.ok name) :: .colon :: (value.tokens ++ memberTokens members)

/-- The tokens of the items after the first, and of the end of the array. -/
def itemTokens : List Json → List Token
  | [] => [.closeBracket]
  | item :: items => .comma :: (item.tokens ++ itemTokens items)

/-- The tokens of the members after the first, and of the end of the object. -/
def memberTokens : List (String × Json) → List Token
  | [] => [.closeBrace]
  | (name, value) :: members =>
      .comma :: .string (.ok name) :: .colon :: (value.tokens ++ memberTokens members)

end

/-! ### Blanks between tokens -/

/-- The blanks that stand in a text: those at the start of a line in containers of a depth, and
those behind a colon. -/
structure Spacing where
  line : Nat → List Char
  gap : List Char
  line_blank : ∀ depth, ∀ c ∈ line depth, Token.isSpace c = true
  gap_blank : ∀ c ∈ gap, Token.isSpace c = true

/-- No blanks. -/
def Spacing.none : Spacing := ⟨fun _ => [], [], fun _ => by simp, by simp⟩

/-- Each item and each member on a line of its own. -/
def Spacing.lines : Spacing where
  line := newLine
  gap := [' ']
  line_blank depth c inside := by
    rcases List.mem_cons.1 inside with rfl | inside
    · rfl
    · rw [List.eq_of_mem_replicate inside]
      rfl
  gap_blank := by simp [Token.isSpace]

mutual

/-- The JSON text with certain blanks, in containers of a depth. -/
def spaced (spacing : Spacing) (depth : Nat) : Json → List Char
  | .null => ['n', 'u', 'l', 'l']
  | .bool value => boolText value
  | .number value => value.text
  | .string text => stringText text
  | .array [] => ['[', ']']
  | .array (item :: items) =>
      '[' :: (spacing.line (depth + 1) ++
        (item.spaced spacing (depth + 1) ++ spacedItems spacing depth items))
  | .object [] => ['{', '}']
  | .object ((name, value) :: members) =>
      '{' :: (spacing.line (depth + 1) ++ (stringText name ++ ':' :: (spacing.gap ++
        (value.spaced spacing (depth + 1) ++ spacedMembers spacing depth members))))

/-- The items after the first, each with a comma before it, and the closing bracket. -/
def spacedItems (spacing : Spacing) (depth : Nat) : List Json → List Char
  | [] => spacing.line depth ++ [']']
  | item :: items =>
      ',' :: (spacing.line (depth + 1) ++
        (item.spaced spacing (depth + 1) ++ spacedItems spacing depth items))

/-- The members after the first, each with a comma before it, and the closing brace. -/
def spacedMembers (spacing : Spacing) (depth : Nat) : List (String × Json) → List Char
  | [] => spacing.line depth ++ ['}']
  | (name, value) :: members =>
      ',' :: (spacing.line (depth + 1) ++ (stringText name ++ ':' :: (spacing.gap ++
        (value.spaced spacing (depth + 1) ++ spacedMembers spacing depth members))))

end

mutual

/-- A value without blanks is written in the compact form. -/
theorem spaced_none (depth : Nat) : (value : Json) → value.spaced .none depth = value.compact
  | .null => by rw [spaced, compact]
  | .bool _ => by rw [spaced, compact]
  | .number _ => by rw [spaced, compact]
  | .string _ => by rw [spaced, compact]
  | .array [] => by rw [spaced, compact]
  | .array (item :: items) => by
      rw [spaced, compact, spaced_none (depth + 1) item, spacedItems_none depth items]
      rfl
  | .object [] => by rw [spaced, compact]
  | .object ((name, value) :: members) => by
      rw [spaced, compact, spaced_none (depth + 1) value, spacedMembers_none depth members]
      rfl

theorem spacedItems_none (depth : Nat) :
    (items : List Json) → spacedItems .none depth items = compactItems items
  | [] => by rw [spacedItems, compactItems]; rfl
  | item :: items => by
      rw [spacedItems, compactItems, spaced_none (depth + 1) item, spacedItems_none depth items]
      rfl

theorem spacedMembers_none (depth : Nat) :
    (members : List (String × Json)) → spacedMembers .none depth members = compactMembers members
  | [] => by rw [spacedMembers, compactMembers]; rfl
  | (name, value) :: members => by
      rw [spacedMembers, compactMembers, spaced_none (depth + 1) value,
        spacedMembers_none depth members]
      rfl

end

mutual

/-- A value with an item on each line is laid out. -/
theorem spaced_lines (depth : Nat) :
    (value : Json) → value.spaced .lines depth = value.laidOut depth
  | .null => by rw [spaced, laidOut]
  | .bool _ => by rw [spaced, laidOut]
  | .number _ => by rw [spaced, laidOut]
  | .string _ => by rw [spaced, laidOut]
  | .array [] => by rw [spaced, laidOut]
  | .array (item :: items) => by
      rw [spaced, laidOut, spaced_lines (depth + 1) item, spacedItems_lines depth items]
      rfl
  | .object [] => by rw [spaced, laidOut]
  | .object ((name, value) :: members) => by
      rw [spaced, laidOut, spaced_lines (depth + 1) value, spacedMembers_lines depth members]
      rfl

theorem spacedItems_lines (depth : Nat) :
    (items : List Json) → spacedItems .lines depth items = laidOutItems depth items
  | [] => by rw [spacedItems, laidOutItems]; rfl
  | item :: items => by
      rw [spacedItems, laidOutItems, spaced_lines (depth + 1) item, spacedItems_lines depth items]
      rfl

theorem spacedMembers_lines (depth : Nat) : (members : List (String × Json)) →
    spacedMembers .lines depth members = laidOutMembers depth members
  | [] => by rw [spacedMembers, laidOutMembers]; rfl
  | (name, value) :: members => by
      rw [spacedMembers, laidOutMembers, spaced_lines (depth + 1) value,
        spacedMembers_lines depth members]
      rfl

end

open Token

variable (spacing : Spacing) (depth : Nat)

/-- What follows an item or a member begins with a comma, a closing mark or a blank. -/
private theorem endsNumber_spacedItems (items : List Json) (rest : List Char) :
    EndsNumber (spacedItems spacing depth items ++ rest) := by
  cases items with
  | nil =>
      rw [spacedItems, List.append_assoc]
      exact endsNumber_blanks (spacing.line_blank depth) (endsNumber_mark (by decide))
  | cons item items =>
      rw [spacedItems]
      exact endsNumber_mark (by decide)

private theorem endsNumber_spacedMembers (members : List (String × Json)) (rest : List Char) :
    EndsNumber (spacedMembers spacing depth members ++ rest) := by
  cases members with
  | nil =>
      rw [spacedMembers, List.append_assoc]
      exact endsNumber_blanks (spacing.line_blank depth) (endsNumber_mark (by decide))
  | cons member members =>
      rw [spacedMembers]
      exact endsNumber_mark (by decide)

mutual

/-- **Scanning is the inverse of writing.** The text of a value, with blanks between its tokens, is
cut into the tokens of the value. -/
theorem ofText_spaced (depth : Nat) (value : Json) (exact : value.IsExact) {rest : List Char}
    (ends : EndsNumber rest) :
    ofText (value.spaced spacing depth ++ rest) = value.tokens ++ ofText rest := by
  cases value with
  | null =>
      rw [spaced, tokens]
      exact ofText_scan rfl rfl
  | bool value =>
      rw [spaced, tokens]
      exact ofText_boolText value rest
  | number value =>
      rw [IsExact] at exact
      rw [spaced, tokens]
      exact ofText_number exact ends
  | string text =>
      rw [spaced, tokens]
      exact ofText_stringText text rest
  | array items =>
      cases items with
      | nil =>
          rw [spaced, tokens]
          exact (ofText_scan rfl rfl).trans (congrArg _ (ofText_scan rfl rfl))
      | cons item items =>
          rw [IsExact, AllExact] at exact
          obtain ⟨first, others⟩ := exact
          have follows := endsNumber_spacedItems spacing depth items rest
          have opens (cs : List Char) : ofText ('[' :: cs) = .openBracket :: ofText cs :=
            ofText_scan rfl rfl
          rw [spaced, tokens]
          simp only [List.cons_append, List.append_assoc]
          rw [opens, ofText_blanks (spacing.line_blank _),
            ofText_spaced (depth + 1) item first follows, ofText_spacedItems depth items others]
  | object members =>
      cases members with
      | nil =>
          rw [spaced, tokens]
          exact (ofText_scan rfl rfl).trans (congrArg _ (ofText_scan rfl rfl))
      | cons member members =>
          obtain ⟨name, value⟩ := member
          rw [IsExact, MembersExact] at exact
          obtain ⟨first, others⟩ := exact
          have follows := endsNumber_spacedMembers spacing depth members rest
          have opens (cs : List Char) : ofText ('{' :: cs) = .openBrace :: ofText cs :=
            ofText_scan rfl rfl
          rw [spaced, tokens]
          simp only [List.cons_append, List.append_assoc]
          rw [opens, ofText_blanks (spacing.line_blank _), ofText_stringText, ofText_colon,
            ofText_blanks spacing.gap_blank, ofText_spaced (depth + 1) value first follows,
            ofText_spacedMembers depth members others]

/-- Items are scanned as their tokens, whatever blanks there are. -/
theorem ofText_spacedItems (depth : Nat) (items : List Json) (exact : AllExact items)
    {rest : List Char} :
    ofText (spacedItems spacing depth items ++ rest) = itemTokens items ++ ofText rest := by
  cases items with
  | nil =>
      rw [spacedItems, itemTokens, List.append_assoc, ofText_blanks (spacing.line_blank _)]
      exact ofText_scan rfl rfl
  | cons item items =>
      rw [AllExact] at exact
      obtain ⟨first, others⟩ := exact
      have follows := endsNumber_spacedItems spacing depth items rest
      rw [spacedItems, itemTokens]
      simp only [List.cons_append, List.append_assoc]
      rw [ofText_comma, ofText_blanks (spacing.line_blank _),
        ofText_spaced (depth + 1) item first follows, ofText_spacedItems depth items others]

theorem ofText_spacedMembers (depth : Nat) (members : List (String × Json))
    (exact : MembersExact members) {rest : List Char} :
    ofText (spacedMembers spacing depth members ++ rest) = memberTokens members ++ ofText rest := by
  cases members with
  | nil =>
      rw [spacedMembers, memberTokens, List.append_assoc, ofText_blanks (spacing.line_blank _)]
      exact ofText_scan rfl rfl
  | cons member members =>
      obtain ⟨name, value⟩ := member
      rw [MembersExact] at exact
      obtain ⟨first, others⟩ := exact
      have follows := endsNumber_spacedMembers spacing depth members rest
      rw [spacedMembers, memberTokens]
      simp only [List.cons_append, List.append_assoc]
      rw [ofText_comma, ofText_blanks (spacing.line_blank _), ofText_stringText, ofText_colon,
        ofText_blanks spacing.gap_blank, ofText_spaced (depth + 1) value first follows,
        ofText_spacedMembers depth members others]

end

variable {value : Json} (exact : value.IsExact)

include exact

/-- A value that is laid out is scanned as its tokens. -/
theorem ofText_laidOut : ofText (value.laidOut depth) = value.tokens := by
  have scanned := ofText_spaced .lines depth value exact endsNumber_nil
  rwa [spaced_lines, List.append_nil, ofText, List.append_nil] at scanned

/-- A value in the compact form is scanned as its tokens. -/
theorem ofText_compact : ofText value.compact = value.tokens := by
  have scanned := ofText_spaced .none 0 value exact endsNumber_nil
  rwa [spaced_none, List.append_nil, ofText, List.append_nil] at scanned

end Json

end ClusterHosts
