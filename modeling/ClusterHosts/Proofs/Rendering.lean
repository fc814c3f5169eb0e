import ClusterHosts.Inventory
import ClusterHosts.Proofs.Kept
import ClusterHosts.Text.Basic
import ClusterHosts.Yaml.Flowing
import ClusterHosts.Yaml.Scalar

/-! # Inventories told apart by their texts

Scalars are self-delimiting in YAML, and so two inventories with one text are the same
(`Inventory.render_eq_iff`). -/

namespace ClusterHosts.Yaml

/-! ## Where scalars end

A scalar shows its style with its first character, and each style shows where its text ends: at the
line feed, at a quote that is not doubled or escaped, or at a line that is not indented far enough.
So of two texts only the same can be written the same, whatever follows (`Scalar.write_append_inj`).
-/

section

variable {indent : Nat} {behindBreak : Bool} {cs ds rest after : List Char}

/-- What is put in front of the first character of a line does not end the line. -/
theorem endsLine_margin {c : Char} (unbroken : isBreak c = false) :
    endsLine ((if behindBreak then List.replicate indent ' ' else []) ++ c :: cs) = false := by
  cases behindBreak with
  | false => exact unbroken
  | true =>
      cases indent with
      | zero => exact unbroken
      | succ => rfl

namespace Scalar

/-! ### Between single quotes -/

/-- A text between quotes ends the line if it begins with a line break. -/
theorem endsLine_singleQuoted :
    endsLine (singleQuoted indent behindBreak cs ++ rest) = cs.head?.any isBreak := by
  cases cs with
  | nil =>
      rw [singleQuoted, List.append_assoc]
      exact endsLine_margin rfl
  | cons c cs =>
      rw [singleQuoted]
      by_cases broken : isBreak c
      · simp [broken, endsLine]
      · have unbroken : isBreak c = false := by simpa using broken
        rw [if_neg broken, List.append_assoc, List.append_assoc, List.head?_cons, Option.any_some,
          unbroken]
        by_cases quote : c = '\''
        · rw [if_pos quote]
          exact endsLine_margin rfl
        · rw [if_neg quote]
          exact endsLine_margin unbroken

/-- Quotes are doubled, so that characters between quotes are told apart. -/
theorem singleQuotedChar_append_inj {c d : Char}
    (same : (if c = '\'' then ['\'', '\''] else [c]) ++ cs =
      (if d = '\'' then ['\'', '\''] else [d]) ++ ds) : c = d ∧ cs = ds := by
  have first (c : Char) (cs : List Char) :
      ((if c = '\'' then ['\'', '\''] else [c]) ++ cs).head? = some c := by
    split
    · next quote => simp [quote]
    · rfl
  have chars : c = d := by
    have firsts := congrArg List.head? same
    rw [first, first] at firsts
    exact Option.some.inj firsts
  subst chars
  exact ⟨rfl, List.append_cancel_left same⟩

/-- The closing quote is not taken for a character of the text. -/
theorem singleQuoted_nil_ne {d : Char} :
    singleQuoted indent behindBreak [] ++ '\n' :: rest ≠
      singleQuoted indent behindBreak (d :: ds) ++ after := by
  intro same
  have unbroken : ¬ isBreak d = true := by
    have ends := congrArg endsLine same
    rw [endsLine_singleQuoted, endsLine_singleQuoted] at ends
    simpa using ends.symm
  rw [singleQuoted, singleQuoted, if_neg unbroken] at same
  simp only [List.append_assoc] at same
  have texts := List.append_cancel_left same
  by_cases quote : d = '\''
  · simp [quote] at texts
  · rw [if_neg quote] at texts
    exact quote (List.cons_eq_cons.1 texts).1.symm

/-- A text between single quotes ends at the quote in front of the line feed. -/
theorem singleQuoted_append_inj
    (same : singleQuoted indent behindBreak cs ++ '\n' :: rest =
      singleQuoted indent behindBreak ds ++ '\n' :: after) : cs = ds ∧ rest = after := by
  induction cs generalizing behindBreak ds with
  | nil =>
      cases ds with
      | nil => simpa [singleQuoted] using same
      | cons d ds => exact absurd same singleQuoted_nil_ne
  | cons c cs ih =>
      cases ds with
      | nil => exact absurd same.symm singleQuoted_nil_ne
      | cons d ds =>
          have ends : isBreak c = isBreak d := by
            have ends := congrArg endsLine same
            rw [endsLine_singleQuoted, endsLine_singleQuoted] at ends
            simpa using ends
          -- Breaks stand without a margin, so both texts have one here or neither has.
          rw [singleQuoted, singleQuoted, ← ends] at same
          by_cases broken : isBreak c
          · rw [if_pos broken, if_pos broken] at same
            obtain ⟨rfl, texts⟩ := List.cons_eq_cons.1 same
            obtain ⟨rfl, rfl⟩ := ih texts
            exact ⟨rfl, rfl⟩
          · rw [if_neg broken, if_neg broken] at same
            simp only [List.append_assoc] at same
            obtain ⟨rfl, texts⟩ := singleQuotedChar_append_inj (List.append_cancel_left same)
            obtain ⟨rfl, rfl⟩ := ih texts
            exact ⟨rfl, rfl⟩

/-! ### Literal blocks -/

/-- What stands at the next line that is not part of a block: a line that is not indented as far. -/
def Dedented (column : Nat) (rest : List Char) : Prop :=
  ∃ width < column, ∃ c cs, c ≠ ' ' ∧ isBreak c = false ∧
    rest = List.replicate width ' ' ++ c :: cs

/-- Whether a text ends behind a line break, if it starts behind one or not. -/
def endsBroken (behindBreak : Bool) (cs : List Char) : Bool :=
  (cs.getLast?.map isBreak).getD behindBreak

/-- Whether a text ends behind a break is known from its last character. -/
theorem endsBroken_cons (c : Char) :
    endsBroken behindBreak (c :: cs) = endsBroken (isBreak c) cs := by
  rw [endsBroken, endsBroken, List.getLast?_cons]
  cases cs.getLast? <;> rfl

theorem endsBroken_of_ne_nil (nonempty : cs ≠ []) :
    endsBroken behindBreak cs = cs.getLast?.any isBreak := by
  rw [endsBroken, List.getLast?_eq_some_getLast nonempty]
  rfl

theorem endsLine_literal {c : Char} :
    endsLine (literal indent behindBreak (c :: cs) ++ rest) = isBreak c := by
  rw [literal]
  by_cases broken : isBreak c
  · rw [if_pos broken]
    rfl
  · have unbroken : isBreak c = false := by simpa using broken
    rw [if_neg broken, List.append_assoc, unbroken]
    exact endsLine_margin unbroken

/-- A line that is not indented as far is no line of the block. -/
theorem Dedented.ne_literal (dedented : Dedented indent rest) {d : Char} :
    rest ≠ literal indent true (d :: ds) ++ after := by
  obtain ⟨width, less, c, cs, notSpace, unbroken, rfl⟩ := dedented
  intro same
  have notBroken : ¬ isBreak d = true := by
    have ends := congrArg endsLine same
    have started : endsLine (List.replicate width ' ' ++ c :: cs) = false := by
      cases width with
      | zero => exact unbroken
      | succ => rfl
    rw [endsLine_literal, started] at ends
    simp [← ends]
  obtain ⟨more, rfl⟩ : ∃ more, indent = width + (more + 1) :=
    ⟨indent - width - 1, by omega⟩
  rw [literal, if_neg notBroken, if_pos rfl, ← List.replicate_append_replicate,
    List.append_assoc, List.append_assoc] at same
  exact notSpace (List.cons_eq_cons.1 (List.append_cancel_left same)).1

/-- The end of a block is not taken for a character of the text. -/
theorem literal_nil_ne (dedented : Dedented indent rest) {d : Char}
    (ends : endsBroken behindBreak (d :: ds) = behindBreak) :
    (if behindBreak then [] else ['\n']) ++ rest ≠
      literal indent behindBreak (d :: ds) ++ after := by
  intro same
  cases behindBreak with
  | true => exact dedented.ne_literal same
  | false =>
      have broken : isBreak d = true := by
        have breaks := congrArg endsLine same
        rw [endsLine_literal] at breaks
        exact breaks.symm
      rw [literal, if_pos broken] at same
      rw [endsBroken_cons, broken] at ends
      cases ds with
      | nil => exact absurd ends (by decide)
      | cons => exact dedented.ne_literal (List.cons_eq_cons.1 same).2

/-- A literal block ends at the first line that is not indented as far. -/
theorem literal_append_inj {broken : Bool} (dedented : Dedented indent rest)
    (also : Dedented indent after) (firstEnds : endsBroken behindBreak cs = broken)
    (secondEnds : endsBroken behindBreak ds = broken)
    (same : literal indent behindBreak cs ++ ((if broken then [] else ['\n']) ++ rest) =
      literal indent behindBreak ds ++ ((if broken then [] else ['\n']) ++ after)) :
    cs = ds ∧ rest = after := by
  induction cs generalizing behindBreak ds with
  | nil =>
      subst firstEnds
      -- If the other text goes on, what stands behind this one would be a line of the block.
      cases ds with
      | nil => exact ⟨rfl, List.append_cancel_left same⟩
      | cons d ds => exact absurd same (literal_nil_ne dedented secondEnds)
  | cons c cs ih =>
      cases ds with
      | nil =>
          subst secondEnds
          exact absurd same.symm (literal_nil_ne also firstEnds)
      | cons d ds =>
          have breaks : isBreak c = isBreak d := by
            have breaks := congrArg endsLine same
            rwa [endsLine_literal, endsLine_literal] at breaks
          rw [endsBroken_cons] at firstEnds secondEnds
          rw [literal, literal, ← breaks] at same
          by_cases breaking : isBreak c
          · rw [if_pos breaking, if_pos breaking] at same
            obtain ⟨rfl, texts⟩ := List.cons_eq_cons.1 same
            rw [breaking] at firstEnds secondEnds
            obtain ⟨rfl, rfl⟩ := ih firstEnds secondEnds texts
            exact ⟨rfl, rfl⟩
          · rw [if_neg breaking, if_neg breaking, List.append_assoc, List.append_assoc] at same
            obtain ⟨rfl, texts⟩ := List.cons_eq_cons.1 (List.append_cancel_left same)
            have unbroken : isBreak c = false := by simpa using breaking
            rw [unbroken] at firstEnds secondEnds
            obtain ⟨rfl, rfl⟩ := ih firstEnds secondEnds texts
            exact ⟨rfl, rfl⟩

/-- The header of a block tells whether its text ends with a line break. -/
theorem dash_mem_literalHeader_iff :
    '-' ∈ literalHeader cs ↔ cs.getLast?.any isBreak = false := by
  rw [← List.head?_reverse]
  unfold literalHeader
  generalize cs.reverse = reversed
  cases cs <;> rcases reversed with _ | ⟨d, _ | ⟨e, ds⟩⟩ <;> simp <;> grind

/-- The header of a literal block is on one line. -/
theorem lineFeed_notMem_literalHeader : '\n' ∉ literalHeader cs := by
  unfold literalHeader
  grind

/-! ### Between double quotes -/

/-- The part that a character is between double quotes, as a reader takes it. -/
def quotedPiece (c : Char) : Piece := if c = ' ' then .gap ' ' else .char c

/-- Parts without line breaks stand for their own characters. -/
theorem fold_map_quotedPiece (before cs : List Char) :
    fold (.gaps before) (cs.map quotedPiece) = before.reverse ++ cs := by
  induction cs generalizing before with
  | nil => exact (List.append_nil _).symm
  | cons c cs ih =>
      rw [List.map_cons, quotedPiece]
      by_cases space : c = ' '
      · rw [if_pos space, fold, Before.addGap, ih, List.reverse_cons, space, List.append_assoc]
        rfl
      · rw [if_neg space, fold, ih]
        rfl

/-- An escape of one letter is read back. -/
theorem doubleQuotedParts?_escaped {letter c : Char} (escaped : escaped? letter = some c)
    (rest : List Char) :
    doubleQuotedParts? ('\\' :: letter :: rest) =
      (doubleQuotedParts? rest).map (.add (.char c) 2) := by
  unfold escaped? at escaped
  split at escaped <;> cases escaped <;> simp [doubleQuotedParts?, isBreak, escaped?]

/-- A number below 256 has two hexadecimal digits. -/
theorem capitalHexadecimal_two {n : Nat} (small : n < 0x100) :
    Text.capitalHexadecimal 2 n =
      [(Nat.digitChar (n / 16)).toUpper, (Nat.digitChar (n % 16)).toUpper] := by
  revert n
  decide +kernel

/-- An escape of two hexadecimal digits is read back. -/
theorem doubleQuotedParts?_hexadecimal {n : Nat} (small : n < 0x100) (rest : List Char) :
    doubleQuotedParts? ('\\' :: 'x' :: (Text.capitalHexadecimal 2 n ++ rest)) =
      (doubleQuotedParts? rest).map (.add (.char (Char.ofNat n)) 4) := by
  have value : codePoint? [(Nat.digitChar (n / 16)).toUpper, (Nat.digitChar (n % 16)).toUpper] =
      some (Char.ofNat n) := by
    revert n
    decide +kernel
  simp [capitalHexadecimal_two small, doubleQuotedParts?, value]

/-- Above U+00FF three characters alone are not printable. -/
theorem eq_of_not_isPrintable {c : Char} (unprintable : isPrintable c = false)
    (large : ¬ c.toNat < 0x100) : c = '\ufeff' ∨ c = '\ufffe' ∨ c = '\uffff' := by
  have codes : '\ufeff'.toNat = 0xFEFF ∧ '\ufffe'.toNat = 0xFFFE ∧ '\uffff'.toNat = 0xFFFF :=
    ⟨rfl, rfl, rfl⟩
  simp only [isPrintable, Bool.or_eq_false_iff, Bool.and_eq_false_iff, decide_eq_false_iff_not]
    at unprintable
  rw [← Char.toNat_inj, ← Char.toNat_inj, ← Char.toNat_inj]
  omega

/-- **A character between double quotes is read back.** -/
theorem doubleQuotedParts?_doubleQuotedChar (c : Char) (rest : List Char) :
    doubleQuotedParts? (doubleQuotedChar c ++ rest) =
      (doubleQuotedParts? rest).map (.add (quotedPiece c) (doubleQuotedChar c).length) := by
  have piece (unprintable : ¬ isPrintable c = true) : quotedPiece c = .char c := by
    rw [quotedPiece, if_neg fun space => unprintable (by rw [space]; decide)]
  unfold doubleQuotedChar
  split
  iterate 14 exact doubleQuotedParts?_escaped rfl rest
  split
  · simp_all [doubleQuotedParts?, isBreak, Piece.ofChar, quotedPiece, isGap]
  · next unprintable =>
      rw [piece unprintable]
      split
      · next small =>
          have read := doubleQuotedParts?_hexadecimal small rest
          rw [Char.ofNat_toNat] at read
          rw [capitalHexadecimal_two small] at read ⊢
          exact read
      · next large =>
          rcases eq_of_not_isPrintable (by simpa using unprintable) large with rfl | rfl | rfl
          · rfl
          · rfl
          · rfl

/-- A text between double quotes is read up to the quote behind it. -/
theorem doubleQuotedParts?_written (cs rest : List Char) :
    doubleQuotedParts? (cs.flatMap doubleQuotedChar ++ '"' :: rest) =
      some ⟨cs.map quotedPiece, (cs.flatMap doubleQuotedChar).length + 1⟩ := by
  induction cs with
  | nil => rfl
  | cons c cs ih =>
      rw [List.flatMap_cons, List.append_assoc, doubleQuotedParts?_doubleQuotedChar, ih,
        List.length_append, Nat.add_assoc]
      rfl

/-- A text between double quotes is known from what stands up to the closing quote. -/
theorem doubleQuoted_append_inj
    (same : cs.flatMap doubleQuotedChar ++ '"' :: rest =
      ds.flatMap doubleQuotedChar ++ '"' :: after) : cs = ds ∧ rest = after := by
  have texts : cs = ds := by
    have parts := congrArg doubleQuotedParts? same
    rw [doubleQuotedParts?_written, doubleQuotedParts?_written, Option.some.injEq,
      QuotedParts.mk.injEq] at parts
    have folded := congrArg (fold (.gaps [])) parts.1
    rwa [fold_map_quotedPiece, fold_map_quotedPiece] at folded
  subst texts
  exact ⟨rfl, (List.cons_eq_cons.1 (List.append_cancel_left same)).2⟩

/-! ### Styles -/

end Scalar

/-- The style that the first character of a scalar shows. -/
def ScalarStyle.ofFirst : Char → ScalarStyle
  | '\'' => .singleQuoted
  | '"' => .doubleQuoted
  | '|' => .literal
  | _ => .plain

namespace Scalar

variable {text : String}

/-- A plain text has no line feed and needs no quotes. -/
theorem plain_of_style (plain : style text = .plain) :
    '\n' ∉ text.toList ∧ needsQuotes text = false := by
  unfold style at plain
  grind

theorem toList_ne_nil_of_style (literal : style text = .literal) : text.toList ≠ [] := by
  unfold style at literal
  grind

/-- A plain text does not begin with an indicator. -/
theorem notMem_indicators {c : Char} (ordinary : startsSpecial (c :: cs) = false) :
    c ∉ indicators := by
  unfold startsSpecial at ordinary
  grind

/-- A text without quotes is not empty, and does not start like a scalar of another style. -/
theorem ofFirst_of_plain (plain : style text = .plain) :
    ∃ c cs, text.toList = c :: cs ∧ ScalarStyle.ofFirst c = .plain := by
  obtain ⟨_, bare⟩ := plain_of_style plain
  simp only [needsQuotes, Bool.or_eq_false_iff] at bare
  obtain ⟨⟨⟨⟨_, itself⟩, ordinary⟩, _⟩, _⟩ := bare
  cases chars : text.toList with
  | nil =>
      rw [String.toList_eq_nil_iff.1 chars] at itself
      exact absurd itself (by decide)
  | cons c cs =>
      rw [chars] at ordinary
      refine ⟨c, cs, rfl, ?_⟩
      have notIndicator := notMem_indicators ordinary
      unfold ScalarStyle.ofFirst
      split
      · exact absurd (by decide) notIndicator
      · exact absurd (by decide) notIndicator
      · exact absurd (by decide) notIndicator
      · rfl

/-- A scalar shows its style. -/
theorem style_of_head? (indent : Nat) (text : String) (rest : List Char) :
    (write indent text ++ rest).head?.map ScalarStyle.ofFirst = some (style text) := by
  unfold write
  cases shape : style text with
  | plain =>
      obtain ⟨c, cs, chars, first⟩ := ofFirst_of_plain shape
      simp [chars, first]
  | singleQuoted => rfl
  | doubleQuoted => rfl
  | literal => rfl

/-- **A scalar shows where it ends.** Only the same text is written the same, whatever follows, if
that is not indented as far as the lines of the scalar. -/
theorem write_append_inj {first second : String} (dedented : Dedented indent rest)
    (also : Dedented indent after)
    (same : write indent first ++ rest = write indent second ++ after) :
    first = second ∧ rest = after := by
  have styles : style first = style second := by
    have firsts := congrArg (fun written => written.head?.map ScalarStyle.ofFirst) same
    simpa only [style_of_head?, Option.some.injEq] using firsts
  suffices texts : first.toList = second.toList ∧ rest = after from
    ⟨String.toList_inj.1 texts.1, texts.2⟩
  unfold write at same
  rw [← styles] at same
  cases shape : style first with
  | plain =>
      simp only [shape, List.append_assoc, List.cons_append, List.nil_append] at same
      exact Text.append_mark_inj (plain_of_style shape).1 (plain_of_style (styles ▸ shape)).1 same
  | singleQuoted =>
      simp only [shape, List.append_assoc, List.cons_append, List.nil_append] at same
      exact singleQuoted_append_inj (List.cons_eq_cons.1 same).2
  | doubleQuoted =>
      simp only [shape, List.append_assoc, List.cons_append, List.nil_append] at same
      obtain ⟨texts, rests⟩ := doubleQuoted_append_inj (List.cons_eq_cons.1 same).2
      exact ⟨texts, (List.cons_eq_cons.1 rests).2⟩
  | literal =>
      simp only [shape, List.append_assoc, List.cons_append] at same
      obtain ⟨headers, blocks⟩ := Text.append_mark_inj lineFeed_notMem_literalHeader
        lineFeed_notMem_literalHeader same
      -- The line feed behind a block is left out where the text ends with a break.
      have ends : first.toList.getLast?.any isBreak = second.toList.getLast?.any isBreak := by
        have told : '-' ∈ literalHeader first.toList ↔ _ := dash_mem_literalHeader_iff
        rw [headers, dash_mem_literalHeader_iff] at told
        simpa using told.symm
      rw [← ends] at blocks
      apply literal_append_inj dedented also _ _ blocks
      · exact endsBroken_of_ne_nil (toList_ne_nil_of_style shape)
      · rw [ends]
        exact endsBroken_of_ne_nil (toList_ne_nil_of_style (styles ▸ shape))

end Scalar

end

end ClusterHosts.Yaml

namespace ClusterHosts

/-! ## Inventories and what is written of them

Nothing is lost when an inventory is written: two inventories with the same JSON or the same YAML
are the same (`Inventory.render_eq_iff`). In JSON this holds of all values. In YAML each line shows
where it ends, so the document can be taken apart from its start.
-/

/-- Settings are told apart by their JSON. -/
theorem SshSettings.json_inj {first second : SshSettings} (same : first.json = second.json) :
    first = second := by
  have read := first.read_json
  rw [same, second.read_json] at read
  exact (Except.ok.inj read).symm

namespace Inventory

variable {first second : Inventory}

/-! ### As JSON -/

theorem isExact_json (inventory : Inventory) : inventory.json.IsExact := by
  have hosts : Json.AllExact (inventory.hosts.map .string) := by
    induction inventory.hosts with
    | nil => exact trivial
    | cons host hosts ih => exact ⟨by simp only [Json.IsExact], ih⟩
  simp only [json, Json.IsExact, Json.MembersExact, hosts, inventory.ssh.isExact_json, and_true]

theorem json_inj (same : first.json = second.json) : first = second := by
  have members : first.hosts.map Json.string = second.hosts.map .string ∧
      first.ssh.json = second.ssh.json := by
    simpa [json] using same
  have hosts : first.hosts = second.hosts :=
    (List.map_inj_right fun _ _ => Json.string.inj).1 members.1
  have ssh := SshSettings.json_inj members.2
  cases first
  cases second
  simp_all

/-! ### As YAML -/

section

open Yaml.Scalar (Dedented)

variable {key : String} {column : Nat} {rest after : List Char}

/-- A line at a column is no part of a scalar whose lines are indented farther. -/
theorem dedented_yamlLine {c : Char} {cs written : List Char} {indent : Nat}
    (less : column < indent) (starts : key.toList = c :: cs) (notSpace : c ≠ ' ')
    (unbroken : Yaml.isBreak c = false) :
    Dedented indent (yamlLine column key written ++ rest) := by
  refine ⟨column, less, c, cs ++ ':' :: ' ' :: (written ++ rest), notSpace, unbroken, ?_⟩
  rw [yamlLine, starts]
  simp only [List.append_assoc, List.cons_append]

/-- What stands behind a key is known from the line. -/
theorem yamlLine_append_inj {written other : List Char}
    (same : yamlLine column key written ++ rest = yamlLine column key other ++ after) :
    written ++ rest = other ++ after := by
  simp only [yamlLine, List.append_assoc, List.cons_append] at same
  have lines := List.append_cancel_left (List.append_cancel_left same)
  exact (List.cons_eq_cons.1 (List.cons_eq_cons.1 lines).2).2

/-- A text behind a key is known from its lines, whatever follows. -/
theorem yamlText_append_inj {text other : String} (dedented : Dedented (column + 2) rest)
    (also : Dedented (column + 2) after)
    (same : yamlText column key text ++ rest = yamlText column key other ++ after) :
    text = other ∧ rest = after :=
  Yaml.Scalar.write_append_inj dedented also (yamlLine_append_inj same)

theorem yamlNumber_append_inj {n m : Nat}
    (same : yamlNumber column key n ++ rest = yamlNumber column key m ++ after) :
    n = m ∧ rest = after := by
  have unbroken (n : Nat) : '\n' ∉ Text.decimal n := fun inside =>
    absurd (List.all_eq_true.1 (Text.all_isDigit_decimal n) _ inside) (by decide)
  have lines := yamlLine_append_inj same
  rw [List.append_assoc, List.append_assoc] at lines
  obtain ⟨digits, rests⟩ := Text.append_mark_inj (unbroken n) (unbroken m) lines
  refine ⟨?_, rests⟩
  rw [← Text.digitsValue_decimal n, digits, Text.digitsValue_decimal]

end

/-- The hosts and the key behind them stand at the start of their lines. -/
theorem dedented_hosts (hosts : List String) (settings : SshSettings) :
    Yaml.Scalar.Dedented 2 (hosts.flatMap yamlHost ++ yamlSsh settings) := by
  cases hosts with
  | nil => exact ⟨0, by decide, 's', _, by decide, by decide, rfl⟩
  | cons => exact ⟨0, by decide, '-', _, by decide, by decide, rfl⟩

/-- An item of the list of hosts is not taken for the key behind the list. -/
theorem flatMap_yamlHost_append_inj {hosts others : List String} {settings other : SshSettings}
    (same : hosts.flatMap yamlHost ++ yamlSsh settings = others.flatMap yamlHost ++ yamlSsh other) :
    hosts = others ∧ yamlSsh settings = yamlSsh other := by
  induction hosts generalizing others with
  | nil =>
      cases others with
      | nil => exact ⟨rfl, same⟩
      | cons =>
          have firsts : some 's' = some '-' := congrArg List.head? same
          exact absurd firsts (by decide)
  | cons host hosts ih =>
      cases others with
      | nil =>
          have firsts : some '-' = some 's' := congrArg List.head? same
          exact absurd firsts (by decide)
      | cons otherHost others =>
          simp only [List.flatMap_cons, yamlHost, List.append_assoc, List.cons_append] at same
          have scalars := (List.cons_eq_cons.1 (List.cons_eq_cons.1 same).2).2
          obtain ⟨rfl, items⟩ := Yaml.Scalar.write_append_inj (dedented_hosts hosts settings)
            (dedented_hosts others other) scalars
          obtain ⟨rfl, rests⟩ := ih items
          exact ⟨rfl, rests⟩

/-- Hosts are known from their lines in front of the settings. -/
theorem yamlHosts_append_inj {hosts others : List String} {settings other : SshSettings}
    (same : yamlHosts hosts ++ yamlSsh settings = yamlHosts others ++ yamlSsh other) :
    hosts = others ∧ yamlSsh settings = yamlSsh other := by
  cases hosts with
  | nil =>
      cases others with
      | nil => exact ⟨rfl, List.append_cancel_left same⟩
      | cons =>
          -- Behind the colon there is a space or a line feed.
          have behind : some ' ' = some '\n' := congrArg (fun cs => (cs.drop 6).head?) same
          exact absurd behind (by decide)
  | cons host hosts =>
      cases others with
      | nil =>
          have behind : some '\n' = some ' ' := congrArg (fun cs => (cs.drop 6).head?) same
          exact absurd behind (by decide)
      | cons otherHost others =>
          simp only [yamlHosts, List.isEmpty_cons, Bool.false_eq_true, if_false,
            List.append_assoc] at same
          exact flatMap_yamlHost_append_inj (List.append_cancel_left same)

/-- The key of a path is not taken for the key behind it. -/
theorem yamlPath_append_inj {path other : Option String} {n m : Nat} {rest after : List Char}
    (same : path.toList.flatMap (yamlText 2 "private_key_path") ++
        (yamlNumber 2 "max_retries" n ++ rest) =
      other.toList.flatMap (yamlText 2 "private_key_path") ++
        (yamlNumber 2 "max_retries" m ++ after)) :
    path = other ∧
      yamlNumber 2 "max_retries" n ++ rest = yamlNumber 2 "max_retries" m ++ after := by
  cases path with
  | none =>
      cases other with
      | none => exact ⟨rfl, same⟩
      | some =>
          have keys : some 'm' = some 'p' := congrArg (fun cs => (cs.drop 2).head?) same
          exact absurd keys (by decide)
  | some path =>
      cases other with
      | none =>
          have keys : some 'p' = some 'm' := congrArg (fun cs => (cs.drop 2).head?) same
          exact absurd keys (by decide)
      | some other =>
          have dedented (n : Nat) (rest : List Char) :
              Yaml.Scalar.Dedented 4 (yamlNumber 2 "max_retries" n ++ rest) :=
            dedented_yamlLine (by decide) rfl (by decide) (by decide)
          simp only [Option.toList_some, List.flatMap_cons, List.flatMap_nil,
            List.append_nil] at same
          obtain ⟨rfl, rests⟩ := yamlText_append_inj (dedented n rest) (dedented m after) same
          exact ⟨rfl, rests⟩

/-- Settings are told apart by their lines. -/
theorem yamlSsh_inj {settings other : SshSettings} (same : yamlSsh settings = yamlSsh other) :
    settings = other := by
  have dedented (n : Nat) (rest : List Char) :
      Yaml.Scalar.Dedented 4 (yamlNumber 2 "port" n ++ rest) :=
    dedented_yamlLine (by decide) rfl (by decide) (by decide)
  obtain ⟨username, same⟩ := yamlText_append_inj (dedented _ _) (dedented _ _)
    (List.append_cancel_left same)
  obtain ⟨port, same⟩ := yamlNumber_append_inj same
  obtain ⟨privateKeyPath, same⟩ := yamlPath_append_inj same
  obtain ⟨maxRetries, same⟩ := yamlNumber_append_inj same
  obtain ⟨connTimeout, _⟩ := yamlNumber_append_inj (congrArg (· ++ []) same)
  cases settings
  cases other
  simp_all [UInt16.toNat_inj, UInt32.toNat_inj]

/-- Inventories are told apart by their YAML documents. -/
theorem yaml_inj (same : first.yaml = second.yaml) : first = second := by
  have fields := List.append_cancel_left (List.append_cancel_left same)
  obtain ⟨hosts, settings⟩ := yamlHosts_append_inj fields
  have ssh := yamlSsh_inj settings
  cases first
  cases second
  simp_all

/-- **Nothing is lost when an inventory is written.** Two inventories with the same text are the
same, be it JSON or YAML. -/
theorem render_eq_iff (format : OutputFormat) (first second : Inventory) :
    first.render format = second.render format ↔ first = second := by
  refine ⟨fun same => ?_, congrArg (render · format)⟩
  cases format with
  | json => exact json_inj (Json.renderPretty_inj first.isExact_json second.isExact_json same)
  | yaml => exact yaml_inj (String.ofList_inj.1 same)

end Inventory

end ClusterHosts
