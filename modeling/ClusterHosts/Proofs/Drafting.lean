import ClusterHosts.Json.Record
import ClusterHosts.Proofs.Attributes
import ClusterHosts.Proofs.Scanning
import ClusterHosts.Value

/-! # Values read back from JSON texts

What is written of a value is read back as the value, through drafts
(`Value.known_from_json`). -/

namespace ClusterHosts

/-! ## Drafts of what is written

A reader of tokens that comes to the tokens of a value goes on behind them with the draft of the
value, in whatever containers it is (`Draft.foldl_tokens`). So a text that is written from a value
is read as its draft, with nothing left over (`Draft.ofText_renderPretty`), and only the same value
is written as the same text (`Json.renderPretty_inj`).
-/

namespace Json

mutual

/-- The draft of a value that is read without a fault. -/
def draft : Json → Draft
  | .null => .null
  | .bool value => .bool value
  | .number value => .number (.ok value)
  | .string text => .string (.ok text)
  | .array items => .array (drafts items) .closed
  | .object members => .object (memberDrafts members) .closed

/-- The drafts of the items of an array. -/
def drafts : List Json → List Draft
  | [] => []
  | item :: items => item.draft :: drafts items

/-- The drafts of the members of an object. -/
def memberDrafts : List (String × Json) → List (Except SyntaxError String × Draft)
  | [] => []
  | (name, value) :: members => (.ok name, value.draft) :: memberDrafts members

end

end Json

namespace Draft

/-- Where an array may end, a value is read as its first item. -/
theorem foldl_firstItem (value : Json) (around : List Frame) (rest : List Token) :
    (value.tokens ++ rest).foldl step (.firstItem around) =
      (value.tokens ++ rest).foldl step (.value (.list [] :: around)) := by
  rcases value with _ | _ | _ | _ | ⟨_ | _⟩ | ⟨_ | _⟩ <;> rw [Json.tokens] <;> rfl

/-- After a comma, a value is read as the next item. -/
theorem foldl_nextItem (value : Json) (items : List Draft) (around : List Frame)
    (rest : List Token) :
    (value.tokens ++ rest).foldl step (.nextItem items around) =
      (value.tokens ++ rest).foldl step (.value (.list items :: around)) := by
  rcases value with _ | _ | _ | _ | ⟨_ | _⟩ | ⟨_ | _⟩ <;> rw [Json.tokens] <;> rfl

mutual

/-- **Reading tokens is the inverse of writing them.** Behind the tokens of a value a reader has its
draft. -/
theorem foldl_tokens (value : Json) (around : List Frame) (rest : List Token) :
    (value.tokens ++ rest).foldl step (.value around) =
      rest.foldl step (deliver value.draft around) := by
  cases value with
  | null => rw [Json.tokens, Json.draft]; rfl
  | bool value => rw [Json.tokens, Json.draft]; rfl
  | number value => rw [Json.tokens, Json.draft]; rfl
  | string text => rw [Json.tokens, Json.draft]; rfl
  | array items =>
      cases items with
      | nil => rw [Json.tokens, Json.draft, Json.drafts]; rfl
      | cons item items =>
          rw [Json.tokens, Json.draft, Json.drafts, List.cons_append, List.append_assoc,
            List.foldl_cons]
          -- The array becomes a frame around its first item, and takes up the others one by one.
          have opened : step (.value around) .openBracket = .firstItem around := rfl
          rw [opened, foldl_firstItem, foldl_tokens item, deliver, foldl_itemTokens items]
          rfl
  | object members =>
      cases members with
      | nil => rw [Json.tokens, Json.draft, Json.memberDrafts]; rfl
      | cons member members =>
          obtain ⟨name, value⟩ := member
          rw [Json.tokens, Json.draft, Json.memberDrafts]
          simp only [List.cons_append, List.append_assoc, List.foldl_cons]
          have named : step (step (step (.value around) .openBrace) (.string (.ok name))) .colon =
              .value (.member [] (.ok name) :: around) := rfl
          rw [named, foldl_tokens value, deliver, foldl_memberTokens members]
          rfl

/-- The tokens of further items bring the array to its end. -/
theorem foldl_itemTokens (items : List Json) (before : List Draft) (around : List Frame)
    (rest : List Token) :
    (Json.itemTokens items ++ rest).foldl step (.afterItem before around) =
      rest.foldl step (deliver (.array (before.reverse ++ Json.drafts items) .closed) around) := by
  cases items with
  | nil =>
      rw [Json.itemTokens, Json.drafts, List.append_nil]
      rfl
  | cons item items =>
      rw [Json.itemTokens, Json.drafts, List.cons_append, List.append_assoc, List.foldl_cons]
      have separated : step (.afterItem before around) .comma = .nextItem before around := rfl
      rw [separated, foldl_nextItem, foldl_tokens item, deliver, foldl_itemTokens items,
        List.reverse_cons, List.append_assoc]
      rfl

theorem foldl_memberTokens (members : List (String × Json))
    (before : List (Except SyntaxError String × Draft)) (around : List Frame)
    (rest : List Token) :
    (Json.memberTokens members ++ rest).foldl step (.afterMember before around) =
      rest.foldl step
        (deliver (.object (before.reverse ++ Json.memberDrafts members) .closed) around) := by
  cases members with
  | nil =>
      rw [Json.memberTokens, Json.memberDrafts, List.append_nil]
      rfl
  | cons member members =>
      obtain ⟨name, value⟩ := member
      rw [Json.memberTokens, Json.memberDrafts]
      simp only [List.cons_append, List.append_assoc, List.foldl_cons]
      have named : step (step (step (.afterMember before around) .comma) (.string (.ok name)))
          .colon = .value (.member before (.ok name) :: around) := rfl
      rw [named, foldl_tokens value, deliver, foldl_memberTokens members, List.reverse_cons,
        List.append_assoc]
      rfl

end

/-- A text that is scanned as the tokens of a value gives the draft of the value. -/
theorem ofText_of_tokens {value : Json} {written : List Char}
    (scanned : Token.ofText written = value.tokens) :
    ofText (String.ofList written) = (value.draft, false) := by
  have drafted := foldl_tokens value [] []
  rw [List.append_nil] at drafted
  rw [ofText, String.toList_ofList, scanned, drafted]
  rfl

/-- A text that is laid out from a value is read as the draft of the value. -/
theorem ofText_renderPretty {value : Json} (exact : value.IsExact) :
    ofText value.renderPretty = (value.draft, false) :=
  ofText_of_tokens (Json.ofText_laidOut 0 exact)

/-- So is a text without blanks. -/
theorem ofText_render {value : Json} (exact : value.IsExact) :
    ofText value.render = (value.draft, false) :=
  ofText_of_tokens (Json.ofText_compact exact)

end Draft

namespace Json

mutual

/-- Only the same value has the same draft. -/
theorem draft_inj {first second : Json} (same : first.draft = second.draft) : first = second := by
  cases first with
  | null => cases second <;> simp_all [draft]
  | bool value => cases second <;> simp_all [draft]
  | number value => cases second <;> simp_all [draft]
  | string text => cases second <;> simp_all [draft]
  | array items =>
      cases second with
      | array others =>
          rw [draft, draft, Draft.array.injEq] at same
          rw [drafts_inj same.1]
      | _ => simp [draft] at same
  | object members =>
      cases second with
      | object others =>
          rw [draft, draft, Draft.object.injEq] at same
          rw [memberDrafts_inj same.1]
      | _ => simp [draft] at same

theorem drafts_inj {first second : List Json} (same : drafts first = drafts second) :
    first = second := by
  cases first with
  | nil => cases second <;> simp_all [drafts]
  | cons item items =>
      cases second with
      | nil => simp [drafts] at same
      | cons other others =>
          rw [drafts, drafts, List.cons.injEq] at same
          rw [draft_inj same.1, drafts_inj same.2]

theorem memberDrafts_inj {first second : List (String × Json)}
    (same : memberDrafts first = memberDrafts second) : first = second := by
  cases first with
  | nil => cases second <;> simp_all [memberDrafts]
  | cons member members =>
      cases second with
      | nil => simp [memberDrafts] at same
      | cons other others =>
          obtain ⟨name, value⟩ := member
          obtain ⟨otherName, otherValue⟩ := other
          rw [memberDrafts, memberDrafts, List.cons.injEq, Prod.mk.injEq, Except.ok.injEq] at same
          rw [same.1.1, draft_inj same.1.2, memberDrafts_inj same.2]

end

/-- Only the same value is laid out as the same text. -/
theorem renderPretty_inj {first second : Json} (exact : first.IsExact) (also : second.IsExact)
    (same : first.renderPretty = second.renderPretty) : first = second := by
  have drafts := congrArg Draft.ofText same
  rw [Draft.ofText_renderPretty exact, Draft.ofText_renderPretty also] at drafts
  exact draft_inj (Prod.mk.inj drafts).1

end Json

/-! ## Script values as JSON

The JSON text of a script value has no tags for types, and yet is read back as the value, however
deep it is nested and whatever its texts and names hold (`Value.known_from_json`).
-/

/-! ### Reading at any depth -/

namespace Json

mutual

/-- How many containers lie in each other. -/
def nesting : Json → Nat
  | .array items => itemNesting items + 1
  | .object members => memberNesting members + 1
  | _ => 0

/-- How many containers lie in each other in the items. -/
def itemNesting : List Json → Nat
  | [] => 0
  | item :: items => max item.nesting (itemNesting items)

/-- How many containers lie in each other in the values of the members. -/
def memberNesting : List (String × Json) → Nat
  | [] => 0
  | (_, value) :: members => max value.nesting (memberNesting members)

end

mutual

/-- A container takes a character for its bracket. -/
theorem nesting_le_length : (value : Json) → value.nesting ≤ value.compact.length
  | .null | .bool _ | .number _ | .string _ => by
      simp only [nesting]
      exact Nat.zero_le _
  | .array [] => by
      rw [nesting, itemNesting, compact]
      decide
  | .array (item :: items) => by
      have first := nesting_le_length item
      have others := itemNesting_le_length items
      simp only [nesting, itemNesting, compact, List.length_cons, List.length_append]
      omega
  | .object [] => by
      rw [nesting, memberNesting, compact]
      decide
  | .object ((name, value) :: members) => by
      have first := nesting_le_length value
      have others := memberNesting_le_length members
      simp only [nesting, memberNesting, compact, List.length_cons, List.length_append]
      omega

/-- Items lie no deeper than their text is long. -/
theorem itemNesting_le_length : (items : List Json) →
    itemNesting items ≤ (compactItems items).length
  | [] => Nat.zero_le _
  | item :: items => by
      have first := nesting_le_length item
      have others := itemNesting_le_length items
      simp only [itemNesting, compactItems, List.length_cons, List.length_append]
      omega

theorem memberNesting_le_length : (members : List (String × Json)) →
    memberNesting members ≤ (compactMembers members).length
  | [] => Nat.zero_le _
  | (name, value) :: members => by
      have first := nesting_le_length value
      have others := memberNesting_le_length members
      simp only [memberNesting, compactMembers, List.length_cons, List.length_append]
      omega

end

mutual

/-- A value that is not nested too deep is kept as it is. -/
theorem json_draft : (value : Json) → {depth : Nat} → value.nesting < depth →
    value.draft.json depth = .ok value
  | .null, _, _ | .bool _, _, _ => by rw [draft, Draft.json]
  | .number _, _, _ | .string _, _, _ => by
      rw [draft, Draft.json]
      rfl
  | .array items, depth, shallow => by
      rw [nesting] at shallow
      rw [draft, Draft.json, if_neg (by omega), jsonItems_drafts items (by omega)]
      rfl
  | .object members, depth, shallow => by
      rw [nesting] at shallow
      rw [draft, Draft.json, if_neg (by omega), jsonMembers_memberDrafts members (by omega)]
      rfl

/-- The drafts of items give the items back. -/
theorem jsonItems_drafts : (items : List Json) → {depth : Nat} → itemNesting items < depth →
    Draft.jsonItems depth (drafts items) = .ok items
  | [], _, _ => by rw [drafts, Draft.jsonItems]
  | item :: items, depth, shallow => by
      rw [itemNesting] at shallow
      rw [drafts, Draft.jsonItems, json_draft item (by omega), jsonItems_drafts items (by omega)]
      rfl

theorem jsonMembers_memberDrafts : (members : List (String × Json)) → {depth : Nat} →
    memberNesting members < depth →
    Draft.jsonMembers depth (memberDrafts members) = .ok members
  | [], _, _ => by rw [memberDrafts, Draft.jsonMembers]
  | (name, value) :: members, depth, shallow => by
      rw [memberNesting] at shallow
      rw [memberDrafts, Draft.jsonMembers, json_draft value (by omega),
        jsonMembers_memberDrafts members (by omega)]
      rfl

end

/-- The value of a JSON text that is nested less deep than a limit. -/
def parseWithin (depth : Nat) (text : String) : Except SyntaxError Json := do
  let (draft, trailing) := Draft.ofText text
  let value ← draft.json depth
  if trailing then throw .trailingCharacters else pure value

/-- What is written of a value is read back, if the value is not too deep. -/
theorem parseWithin_render {value : Json} (exact : value.IsExact) {depth : Nat}
    (shallow : value.nesting < depth) : parseWithin depth value.render = .ok value := by
  rw [parseWithin, Draft.ofText_render exact]
  change (value.draft.json depth >>= fun value => pure value) = .ok value
  rw [json_draft value shallow]
  rfl

/-- The value of a JSON text, however deep it is nested. A text has no more containers in each other
than characters. -/
def read? (text : String) : Option Json := (parseWithin (text.length + 1) text).toOption

/-- What is written of a value is read back where depth has no limit. -/
theorem read?_render {value : Json} (exact : value.IsExact) : read? value.render = some value := by
  have shallow : value.nesting < value.render.length + 1 := by
    rw [render, String.length_ofList]
    exact Nat.lt_succ_of_le value.nesting_le_length
  rw [read?, parseWithin_render exact shallow]
  rfl

end Json

namespace Value

theorem jsonAttributes_eq_map (members : List (String × Value)) :
    jsonAttributes members = members.map fun member => (member.1, member.2.json) := by
  induction members with
  | nil => rfl
  | cons member members ih => rw [jsonAttributes, ih, List.map_cons]

/-- Attributes keep their names as JSON. -/
theorem names_jsonAttributes (members : List (String × Value)) :
    (jsonAttributes members).map Prod.fst = members.map Prod.fst := by
  rw [jsonAttributes_eq_map, List.map_map]
  rfl

/-- Under each name stands the JSON of the attribute. -/
theorem lookup_jsonAttributes (members : List (String × Value)) (name : String) :
    (jsonAttributes members).lookup name = (members.lookup name).map json := by
  induction members with
  | nil => rfl
  | cons member members ih =>
      obtain ⟨other, value⟩ := member
      rw [jsonAttributes, List.lookup_cons, List.lookup_cons, ih]
      split <;> rfl

mutual

/-- All numbers of a script value fit into 64 bits. -/
theorem isExact_json (value : Value) : value.json.IsExact := by
  cases value with
  | int value =>
      have above := Int64.le_toInt value
      have below := Int64.toInt_lt value
      have size : UInt64.size = 18446744073709551616 := rfl
      have half : Nat.pow 2 63 = 9223372036854775808 := rfl
      simp only [json, Json.integer, Json.IsExact, Number.IsExact]
      omega
  | list items =>
      rw [json, Json.IsExact]
      exact allExact_jsonItems items
  | struct attributes =>
      rw [json, Json.IsExact]
      exact membersExact_jsonAttributes attributes
  | _ => simp only [json, Json.IsExact]

/-- The items of a list can be read back. -/
theorem allExact_jsonItems (items : List Value) : Json.AllExact (jsonItems items) := by
  cases items with
  | nil => simp only [jsonItems, Json.AllExact]
  | cons item items =>
      rw [jsonItems, Json.AllExact]
      exact ⟨isExact_json item, allExact_jsonItems items⟩

theorem membersExact_jsonAttributes (members : List (String × Value)) :
    Json.MembersExact (jsonAttributes members) := by
  cases members with
  | nil => simp only [jsonAttributes, Json.MembersExact]
  | cons member members =>
      obtain ⟨name, value⟩ := member
      rw [jsonAttributes, Json.MembersExact]
      exact ⟨isExact_json value, membersExact_jsonAttributes members⟩

end

mutual

/-- The JSON of a value stands for the value. -/
theorem ofJson?_json : (value : Value) → ofJson? value.json = some value
  | .none | .bool _ | .string _ => by rw [json, ofJson?]
  | .int value => by
      have range : Int64.minValue.toInt ≤ value.toInt ∧ value.toInt ≤ Int64.maxValue.toInt :=
        ⟨Int64.le_toInt value, Int.le_of_lt_add_one (Int64.toInt_lt value)⟩
      rw [json, Json.integer, ofJson?, if_pos range, Int64.ofInt_toInt]
  | .list items => by
      rw [json, ofJson?, ofJsonItems?_jsonItems items]
      rfl
  | .struct attributes => by
      rw [json, ofJson?, ofJsonMembers?_jsonAttributes attributes]
      rfl

/-- A list is known from its JSON. -/
theorem ofJsonItems?_jsonItems : (items : List Value) → ofJsonItems? (jsonItems items) = some items
  | [] => by rw [jsonItems, ofJsonItems?]
  | item :: items => by
      rw [jsonItems, ofJsonItems?, ofJson?_json item, ofJsonItems?_jsonItems items]

theorem ofJsonMembers?_jsonAttributes : (attributes : List (String × Value)) →
    ofJsonMembers? (jsonAttributes attributes) = some attributes
  | [] => by rw [jsonAttributes, ofJsonMembers?]
  | (name, value) :: attributes => by
      rw [jsonAttributes, ofJsonMembers?, ofJson?_json value,
        ofJsonMembers?_jsonAttributes attributes]

end

/-- The attributes of every struct are in the order of their names, each once, at every depth. -/
inductive InOrder : Value → Prop where
  | none : InOrder .none
  | bool (value : Bool) : InOrder (.bool value)
  | int (value : Int64) : InOrder (.int value)
  | string (text : String) : InOrder (.string text)
  | list {items : List Value} (items_inOrder : ∀ item ∈ items, InOrder item) :
      InOrder (.list items)
  | struct {attributes : List (String × Value)}
      (increasing : Ordered.Increasing Prod.fst attributes)
      (values_inOrder : ∀ entry ∈ attributes, InOrder entry.2) : InOrder (.struct attributes)

/-- Items in canonical form make an array in canonical form. -/
theorem canonicalItems_jsonItems {items : List Value}
    (kept : ∀ item ∈ items, item.json.canonical = item.json) :
    Json.canonicalItems (jsonItems items) = jsonItems items := by
  induction items with
  | nil => rfl
  | cons item items ih =>
      obtain ⟨first, others⟩ := List.forall_mem_cons.1 kept
      rw [jsonItems, Json.canonicalItems, first, ih others]

theorem canonicalMembers_jsonAttributes {attributes : List (String × Value)}
    (kept : ∀ entry ∈ attributes, entry.2.json.canonical = entry.2.json) :
    Json.canonicalMembers (jsonAttributes attributes) = jsonAttributes attributes := by
  induction attributes with
  | nil => rfl
  | cons entry attributes ih =>
      obtain ⟨name, value⟩ := entry
      obtain ⟨first, others⟩ := List.forall_mem_cons.1 kept
      rw [jsonAttributes, Json.canonicalMembers, first, ih others]

/-- Attributes in order are in order as members. -/
theorem canonical_json {value : Value} (inOrder : value.InOrder) :
    value.json.canonical = value.json := by
  induction inOrder with
  | none | bool | int | string =>
      rw [json]
      rfl
  | list _ ih => rw [json, Json.canonical, canonicalItems_jsonItems ih]
  | @struct attributes increasing _ ih =>
      have sorted : Ordered.Increasing Prod.fst (jsonAttributes attributes) := by
        rw [jsonAttributes_eq_map]
        exact List.pairwise_map.2 increasing
      rw [json, Json.canonical, canonicalMembers_jsonAttributes ih,
        Ordered.ofList_of_increasing sorted]

/-- **A value is known from its JSON.** The JSON text of a value is read back as the value, however
deep it is nested; if its structs are in order, that holds also where objects are read as mappings.
The reader of files, which has a limit, reads what is nested less deep. So two values with the same
text are the same. -/
theorem known_from_json (value : Value) :
    (Json.read? value.json.render).bind ofJson? = some value ∧
      (value.InOrder →
        (Json.read? value.json.render).bind (fun read => ofJson? read.canonical) = some value) ∧
      (value.json.nesting < Json.maxDepth → Json.parse value.json.render = .ok value.json) ∧
      ∀ other : Value, value.json.render = other.json.render → value = other := by
  have read (value : Value) : (Json.read? value.json.render).bind ofJson? = some value := by
    rw [Json.read?_render value.isExact_json, Option.bind_some, ofJson?_json]
  refine ⟨read value, fun inOrder => ?_, fun shallow => ?_, fun other same => ?_⟩
  · rw [Json.read?_render value.isExact_json, Option.bind_some, canonical_json inOrder,
      ofJson?_json]
  · exact Json.parseWithin_render value.isExact_json shallow
  · rw [← Option.some.injEq, ← read value, ← read other, same]

/-- Names and texts that need escapes or look like something else, an empty name and an empty
struct. -/
theorem known_from_json_of_strange_names :
    let value : Value := .struct [("", .list [.int (-1), .string "null", .struct []]),
      ("\x01", .none), ("\"\\", .bool false)]
    value.InOrder ∧ value.json.nesting < Json.maxDepth ∧
      value.json.render =
        "\x7b\"\":[-1,\"null\",\x7b\x7d],\"\\u0001\":null,\"\\\"\\\\\":false\x7d" ∧
      (Json.read? value.json.render).bind ofJson? = some value ∧
      (Json.read? value.json.render).bind (fun read => ofJson? read.canonical) = some value ∧
      Json.parse value.json.render = .ok value.json := by
  intro value
  have items : ∀ item ∈ [Value.int (-1), .string "null", .struct []], InOrder item := by
    simp only [List.forall_mem_cons, List.not_mem_nil, false_imp_iff, implies_true, and_true]
    exact ⟨.int _, .string _, .struct Ordered.increasing_nil (by simp)⟩
  have inOrder : value.InOrder := by
    refine .struct ?_ ?_
    · unfold Ordered.Increasing
      decide
    · simp only [List.forall_mem_cons, List.not_mem_nil, false_imp_iff, implies_true, and_true]
      exact ⟨.list items, .none, .bool _⟩
  have shallow : value.json.nesting < Json.maxDepth := by decide
  obtain ⟨read, mapped, parsed, _⟩ := known_from_json value
  exact ⟨inOrder, shallow, by decide, read, mapped inOrder, parsed shallow⟩

end Value

end ClusterHosts
