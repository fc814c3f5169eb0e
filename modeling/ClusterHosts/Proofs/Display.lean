import ClusterHosts.Proofs.Numbers
import ClusterHosts.Text.Basic
import ClusterHosts.Text.Quoted
import ClusterHosts.Value

/-! # Values told apart by their display

Quoted texts end where their closing quote stands, and so values with plain attribute names are told
apart by what is displayed of them (`Value.display_eq_iff`). -/

namespace ClusterHosts.Text

/-! ## Where quoted texts end

Between quotes every character is read back from the way it is written
(`Text.firstQuoted?_quotedChar`), and none is written like the closing quote. So a quoted text shows
where it ends, whatever it holds (`Text.quoted_append_inj`).
-/

/-- The character that a letter after a backslash stands for. -/
def afterBackslash? : Char → Option Char
  | '0' => some '\x00'
  | 't' => some '\t'
  | 'n' => some '\n'
  | 'r' => some '\r'
  | '"' => some '"'
  | '\\' => some '\\'
  | _ => none

/-- The first character that is written between quotes, and what follows it. At the closing quote
there is none. -/
def firstQuoted? : List Char → Option (Char × List Char)
  | '"' :: _ => none
  | '\\' :: 'u' :: '{' :: cs =>
      (inBase? 16 (cs.takeWhile (· != '}'))).map fun code =>
        (Char.ofNat code, (cs.dropWhile (· != '}')).tail)
  | '\\' :: letter :: cs => (afterBackslash? letter).map fun c => (c, cs)
  | c :: cs => some (c, cs)
  | [] => none

/-- A character that stands for itself is read as itself. -/
theorem firstQuoted?_plain {c : Char} (quote : c ≠ '"') (backslash : c ≠ '\\') (rest : List Char) :
    firstQuoted? (c :: rest) = some (c, rest) := by
  rw [firstQuoted?]
  all_goals
    intros
    contradiction

/-- A character written by its number is read back. -/
theorem firstQuoted?_codePointEscape (c : Char) (rest : List Char) :
    firstQuoted? (codePointEscape c ++ rest) = some (c, rest) := by
  have digits : ∀ digit ∈ Nat.toDigits 16 c.toNat, (digit != '}') = true := by
    intro digit inside
    have apart : digit ≠ '}' := fun same => by
      rw [same] at inside
      exact notMem_toDigits (by decide) _ inside
    simpa using apart
  have written : codePointEscape c ++ rest =
      '\\' :: 'u' :: '{' :: (Nat.toDigits 16 c.toNat ++ '}' :: rest) := by
    simp [codePointEscape, hexadecimal]
  rw [written, firstQuoted?, List.takeWhile_append_of_pos digits,
    List.dropWhile_append_of_pos digits]
  simp [inBase?_toDigits]

/-- **A character between quotes is read back.** -/
theorem firstQuoted?_quotedChar (c : Char) (rest : List Char) :
    firstQuoted? (quotedChar c ++ rest) = some (c, rest) := by
  unfold quotedChar
  split
  case h_7 quote backslash =>
    split
    · exact firstQuoted?_codePointEscape c rest
    · exact firstQuoted?_plain quote backslash rest
  all_goals rfl

theorem quotedChar_append_ne (c : Char) (cs rest : List Char) :
    quotedChar c ++ cs ≠ '"' :: rest := by
  intro same
  have read := firstQuoted?_quotedChar c cs
  rw [same] at read
  cases read

/-- A quoted text is known from what stands up to the closing quote. -/
theorem flatMap_quotedChar_append_inj {cs ds rest after : List Char}
    (same : cs.flatMap quotedChar ++ '"' :: rest = ds.flatMap quotedChar ++ '"' :: after) :
    cs = ds ∧ rest = after := by
  induction cs generalizing ds with
  | nil =>
      cases ds with
      | nil => exact ⟨rfl, (List.cons.inj same).2⟩
      | cons d ds =>
          rw [List.flatMap_cons, List.append_assoc] at same
          exact absurd same.symm (quotedChar_append_ne d _ rest)
  | cons c cs ih =>
      rw [List.flatMap_cons, List.append_assoc] at same
      cases ds with
      | nil => exact absurd same (quotedChar_append_ne c _ after)
      | cons d ds =>
          rw [List.flatMap_cons, List.append_assoc] at same
          have read := congrArg firstQuoted? same
          rw [firstQuoted?_quotedChar, firstQuoted?_quotedChar, Option.some.injEq,
            Prod.mk.injEq] at read
          obtain ⟨rfl, behind⟩ := read
          obtain ⟨rfl, rests⟩ := ih behind
          exact ⟨rfl, rests⟩

/-- **A quoted text shows where it ends.** -/
theorem quoted_append_inj {text other : String} {rest after : List Char}
    (same : quoted text ++ rest = quoted other ++ after) : text = other ∧ rest = after := by
  simp only [quoted, List.cons_append, List.append_assoc, List.nil_append] at same
  obtain ⟨texts, rests⟩ := flatMap_quotedChar_append_inj (List.cons.inj same).2
  exact ⟨String.toList_inj.1 texts, rests⟩

end ClusterHosts.Text

namespace ClusterHosts

/-! ## Displayed values

A displayed value shows its type with its first character, and shows where it ends: a numeral before
the first character that is no digit, a text at its closing quote, a list or a struct at the bracket
behind its last item. So a value whose attributes have plain names is known from its display
(`Value.display_eq_iff`).
-/

namespace Text

/-- A name of one or more ASCII letters, digits and underscores. -/
structure IsPlainName (name : String) : Prop where
  nonempty : name ≠ ""
  plain : ∀ c ∈ name.toList, c.isAlphanum = true ∨ c = '_'

/-- A plain name has no characters but letters, digits and underscores. -/
theorem IsPlainName.notMem {name : String} (plain : IsPlainName name) {c : Char}
    (other : c.isAlphanum = false) (noUnderscore : c ≠ '_') : c ∉ name.toList := by
  intro member
  rcases plain.plain c member with alphanumeric | underscore
  · rw [other] at alphanumeric
    cases alphanumeric
  · exact noUnderscore underscore

theorem IsPlainName.append_ne {name : String} (plain : IsPlainName name) {c : Char}
    (other : c.isAlphanum = false) (noUnderscore : c ≠ '_') {cs rest : List Char} :
    name.toList ++ cs ≠ c :: rest := by
  intro same
  obtain ⟨first, others, written⟩ := List.exists_cons_of_ne_nil
    (mt String.toList_eq_nil_iff.1 plain.nonempty)
  rw [written, List.cons_append] at same
  refine plain.notMem other noUnderscore ?_
  rw [written, (List.cons.inj same).1]
  exact List.mem_cons_self

/-- A plain name ends before the equals sign behind it. -/
theorem IsPlainName.append_equals_inj {name other : String} (plain : IsPlainName name)
    (also : IsPlainName other) {cs ds : List Char}
    (same : name.toList ++ ' ' :: '=' :: ' ' :: cs = other.toList ++ ' ' :: '=' :: ' ' :: ds) :
    name = other ∧ cs = ds := by
  obtain ⟨names, behind⟩ := append_mark_inj (plain.notMem rfl (by decide))
    (also.notMem rfl (by decide)) same
  simp only [List.cons.injEq, true_and] at behind
  exact ⟨String.toList_inj.1 names, behind⟩

instance (name : String) : Decidable (IsPlainName name) :=
  decidable_of_iff (name ≠ "" ∧ (name.toList.all fun c => c.isAlphanum || c == '_') = true)
    ⟨fun ⟨nonempty, plain⟩ => ⟨nonempty, by simpa using plain⟩,
      fun ⟨nonempty, plain⟩ => ⟨nonempty, by simpa using plain⟩⟩

end Text

namespace Value

/-! ### First characters -/

/-- The type of the value that a character begins the display of. -/
def typeOfFirst? : Char → Option String
  | 'N' => some "NoneType"
  | 'T' => some "bool"
  | 'F' => some "bool"
  | '"' => some "string"
  | '[' => some "list"
  | 's' => some "struct"
  | c => if c = '-' ∨ c.isDigit then some "int" else Option.none

/-- What begins with a digit is an integer. -/
theorem typeOfFirst?_digit {c : Char} (digit : c.isDigit = true) :
    typeOfFirst? c = some "int" := by
  unfold typeOfFirst?
  split
  case h_7 => exact if_pos (.inr digit)
  all_goals cases digit

/-- A displayed value shows its type. -/
theorem typeOfFirst?_display (value : Value) (rest : List Char) :
    (value.display ++ rest).head?.bind typeOfFirst? = some value.typeName := by
  cases value with
  | none => rw [display]; rfl
  | bool value => cases value <;> rw [display] <;> rfl
  | int value =>
      rw [display]
      cases value.toInt with
      | ofNat n =>
          obtain ⟨digit, digits, written, isDigit⟩ := Text.exists_digit_decimal n
          rw [Text.signedDecimal, written]
          exact typeOfFirst?_digit isDigit
      | negSucc n => rfl
  | string text => rw [display]; rfl
  | list items => cases items <;> rw [display] <;> rfl
  | struct attributes =>
      cases attributes with
      | nil => rw [display]; rfl
      | cons => rw [display]; rfl

/-- No value is displayed with the first character of something else. -/
theorem display_append_ne (value : Value) {c : Char} (other : typeOfFirst? c = Option.none)
    (rest after : List Char) : value.display ++ rest ≠ c :: after := by
  intro same
  have first := typeOfFirst?_display value rest
  rw [same, List.head?_cons, Option.bind_some, other] at first
  cases first

/-! ### Attribute names -/

mutual

/-- The names of all attributes, at every depth. -/
def attributeNames : Value → List String
  | .list items => itemNames items
  | .struct attributes => memberNames attributes
  | _ => []

/-- The names of all attributes of the items. -/
def itemNames : List Value → List String
  | [] => []
  | item :: items => item.attributeNames ++ itemNames items

/-- The names of some attributes, and of all attributes of their values. -/
def memberNames : List (String × Value) → List String
  | [] => []
  | (name, value) :: attributes => name :: (value.attributeNames ++ memberNames attributes)

end

/-! ### Where values end -/

/-- What may follow a value when it is displayed: anything that begins with no digit. -/
def EndsDisplay (rest : List Char) : Prop := ∀ c ∈ rest.head?, c.isDigit = false

/-- A value ends before the rest of a list. -/
theorem endsDisplay_displayItems (items : List Value) (rest : List Char) :
    EndsDisplay (displayItems items ++ rest) := by
  cases items with
  | nil =>
      rw [displayItems]
      rintro c ⟨⟩
      rfl
  | cons item items =>
      rw [displayItems]
      rintro c ⟨⟩
      rfl

theorem endsDisplay_displayAttributes (attributes : List (String × Value)) (rest : List Char) :
    EndsDisplay (displayAttributes attributes ++ rest) := by
  cases attributes with
  | nil =>
      rw [displayAttributes]
      rintro c ⟨⟩
      rfl
  | cons entry attributes =>
      rw [displayAttributes]
      rintro c ⟨⟩
      rfl

open Text (IsPlainName)

/-- The items of two lists that are displayed the same would also be the same behind other items. -/
theorem displayItems_of_list {items others : List Value} {rest after : List Char}
    (same : (list items).display ++ rest = (list others).display ++ after) :
    displayItems items ++ rest = displayItems others ++ after := by
  cases items with
  | nil =>
      cases others with
      | nil => exact (List.cons.inj same).2
      | cons other others =>
          simp only [display, List.cons_append, List.append_assoc] at same
          exact absurd (List.cons.inj same).2.symm (other.display_append_ne rfl _ _)
  | cons item items =>
      cases others with
      | nil =>
          simp only [display, List.cons_append, List.append_assoc] at same
          exact absurd (List.cons.inj same).2 (item.display_append_ne rfl _ _)
      | cons other others =>
          simpa only [display, displayItems, List.cons_append, List.append_assoc, List.cons.injEq,
            true_and] using same

/-- Two structs with one display have one display of their attributes. -/
theorem displayAttributes_of_struct {attributes others : List (String × Value)}
    (plain : ∀ name ∈ memberNames attributes, IsPlainName name)
    (also : ∀ name ∈ memberNames others, IsPlainName name) {rest after : List Char}
    (same : (struct attributes).display ++ rest = (struct others).display ++ after) :
    displayAttributes attributes ++ rest = displayAttributes others ++ after := by
  cases attributes with
  | nil =>
      cases others with
      | nil =>
          simpa only [display, displayAttributes, List.cons_append, List.nil_append,
            List.cons.injEq, true_and] using same
      | cons other others =>
          obtain ⟨name, value⟩ := other
          simp only [display, List.cons_append, List.append_assoc, List.nil_append, List.cons.injEq,
            true_and] at same
          exact absurd same.symm ((also name List.mem_cons_self).append_ne rfl (by decide))
  | cons entry attributes =>
      obtain ⟨name, value⟩ := entry
      cases others with
      | nil =>
          simp only [display, List.cons_append, List.append_assoc, List.nil_append, List.cons.injEq,
            true_and] at same
          exact absurd same ((plain name List.mem_cons_self).append_ne rfl (by decide))
      | cons other others =>
          simpa only [display, displayAttributes, List.cons_append, List.append_assoc,
            List.cons.injEq, true_and] using same

mutual

/-- **A displayed value shows where it ends.** Only the same value is displayed the same, whatever
follows, if that does not go on with a numeral. -/
theorem display_append_inj {first second : Value}
    (plain : ∀ name ∈ first.attributeNames, IsPlainName name)
    (also : ∀ name ∈ second.attributeNames, IsPlainName name)
    {rest after : List Char} (ends : EndsDisplay rest) (endsAlso : EndsDisplay after)
    (same : first.display ++ rest = second.display ++ after) : first = second ∧ rest = after := by
  -- The first characters tell that both are of one type, so that only the same constructors remain.
  have types : first.typeName = second.typeName := by
    have firsts := congrArg (fun written => written.head?.bind typeOfFirst?) same
    simpa only [typeOfFirst?_display, Option.some.injEq] using firsts
  cases first with
  | none =>
      cases second with
      | none => exact ⟨rfl, List.append_cancel_left same⟩
      | _ => exact absurd types (by simp [typeName])
  | bool value =>
      cases second with
      | bool other =>
          cases value <;> cases other
          · exact ⟨rfl, List.append_cancel_left same⟩
          · simp [display] at same
          · simp [display] at same
          · exact ⟨rfl, List.append_cancel_left same⟩
      | _ => exact absurd types (by simp [typeName])
  | int value =>
      cases second with
      | int other =>
          rw [display, display] at same
          obtain ⟨values, rests⟩ := Text.signedDecimal_append_inj ends endsAlso same
          exact ⟨by rw [Int64.toInt_inj.1 values], rests⟩
      | _ => exact absurd types (by simp [typeName])
  | string text =>
      cases second with
      | string other =>
          rw [display, display] at same
          obtain ⟨rfl, rests⟩ := Text.quoted_append_inj same
          exact ⟨rfl, rests⟩
      | _ => exact absurd types (by simp [typeName])
  | list items =>
      cases second with
      | list others =>
          obtain ⟨lists, rests⟩ := displayItems_append_inj plain also (displayItems_of_list same)
          exact ⟨congrArg list lists, rests⟩
      | _ => exact absurd types (by simp [typeName])
  | struct attributes =>
      cases second with
      | struct others =>
          obtain ⟨lists, rests⟩ :=
            displayAttributes_append_inj plain also (displayAttributes_of_struct plain also same)
          exact ⟨congrArg struct lists, rests⟩
      | _ => exact absurd types (by simp [typeName])

/-- Lists are told apart by the display of their items, whatever follows. -/
theorem displayItems_append_inj {items others : List Value}
    (plain : ∀ name ∈ itemNames items, IsPlainName name)
    (also : ∀ name ∈ itemNames others, IsPlainName name) {rest after : List Char}
    (same : displayItems items ++ rest = displayItems others ++ after) :
    items = others ∧ rest = after := by
  cases items with
  | nil =>
      cases others with
      | nil => exact ⟨rfl, List.append_cancel_left same⟩
      | cons other others => simp [displayItems] at same
  | cons item items =>
      cases others with
      | nil => simp [displayItems] at same
      | cons other others =>
          simp only [itemNames, List.forall_mem_append] at plain also
          simp only [displayItems, List.cons_append, List.append_assoc, List.cons.injEq,
            true_and] at same
          obtain ⟨rfl, behind⟩ := display_append_inj plain.1 also.1
            (endsDisplay_displayItems items rest) (endsDisplay_displayItems others after) same
          obtain ⟨rfl, rests⟩ := displayItems_append_inj plain.2 also.2 behind
          exact ⟨rfl, rests⟩

theorem displayAttributes_append_inj {attributes others : List (String × Value)}
    (plain : ∀ name ∈ memberNames attributes, IsPlainName name)
    (also : ∀ name ∈ memberNames others, IsPlainName name) {rest after : List Char}
    (same : displayAttributes attributes ++ rest = displayAttributes others ++ after) :
    attributes = others ∧ rest = after := by
  cases attributes with
  | nil =>
      cases others with
      | nil => exact ⟨rfl, List.append_cancel_left same⟩
      | cons other others => simp [displayAttributes] at same
  | cons entry attributes =>
      cases others with
      | nil => simp [displayAttributes] at same
      | cons other others =>
          obtain ⟨name, value⟩ := entry
          obtain ⟨otherName, otherValue⟩ := other
          simp only [memberNames, List.forall_mem_cons, List.forall_mem_append] at plain also
          simp only [displayAttributes, List.cons_append, List.append_assoc, List.cons.injEq,
            true_and] at same
          obtain ⟨rfl, values⟩ := plain.1.append_equals_inj also.1 same
          obtain ⟨rfl, behind⟩ := display_append_inj plain.2.1 also.2.1
            (endsDisplay_displayAttributes attributes rest)
            (endsDisplay_displayAttributes others after) values
          obtain ⟨rfl, rests⟩ := displayAttributes_append_inj plain.2.2 also.2.2 behind
          exact ⟨rfl, rests⟩

end

/-- **Values are known from their display.** Two values whose attributes have plain names, at every
depth, are displayed the same only if they are the same. -/
theorem display_eq_iff {first second : Value}
    (plain : ∀ name ∈ first.attributeNames, IsPlainName name)
    (also : ∀ name ∈ second.attributeNames, IsPlainName name) :
    first.display = second.display ↔ first = second := by
  refine ⟨fun same => ?_, congrArg display⟩
  have ends : EndsDisplay [] := fun _ member => nomatch member
  exact (display_append_inj plain also ends ends (congrArg (· ++ []) same)).1

/-- A text that closes its quote, its list and its attribute is not displayed as what it
imitates. -/
theorem display_eq_iff_of_imitation :
    let text : Value := .struct [("a", .list [.string "x\"], b = [1"])]
    let imitated : Value := .struct [("a", .list [.string "x"]), ("b", .list [.int 1])]
    (∀ name ∈ text.attributeNames, IsPlainName name) ∧
      (∀ name ∈ imitated.attributeNames, IsPlainName name) ∧
      ("b" ∈ imitated.attributeNames ∧ "b" ∉ text.attributeNames) ∧
      text.display ≠ imitated.display := by
  intro text imitated
  have names : imitated.attributeNames = ["a", "b"] := rfl
  have plainNames : ∀ name ∈ imitated.attributeNames, IsPlainName name := by
    rw [names, List.forall_mem_cons, List.forall_mem_singleton]
    decide
  have plain : ∀ name ∈ text.attributeNames, IsPlainName name := by
    intro name member
    exact plainNames name (List.mem_append_left ["b"] member)
  refine ⟨plain, plainNames, by decide, fun same => ?_⟩
  have equal : text = imitated := (display_eq_iff plain plainNames).1 same
  simp [text, imitated] at equal

/-- Names that are not plain can imitate attributes. -/
example : (struct [("a = 1, b", .int 2)]).display =
    (struct [("a", .int 1), ("b", .int 2)]).display := by
  decide

end Value

end ClusterHosts
