import ClusterHosts.Json.Basic
import ClusterHosts.Json.Scan
import ClusterHosts.Text.Quoted
import ClusterHosts.Timestamp

/-! # Records in JSON texts

Drafts of values, which keep what a record needs of them, and the failures of reading a record. -/

namespace ClusterHosts

/-! ## Values that do not fit

What a reader says that finds a value of another type or size than it wants. The value is told by
its type, and a scalar also by its content.
-/

/-- A value as a message names it. -/
inductive Found where
  | null
  | bool (value : Bool)
  | number (value : Number)
  | string (text : String)
  | sequence
  | map
  deriving DecidableEq

/-- The words for a value in a message. -/
def Found.words : Found → String
  | .null => "null"
  | .bool value => "boolean `" ++ String.ofList (Json.boolText value) ++ "`"
  | .number (.integer value) => "integer `" ++ String.ofList (Text.signedDecimal value) ++ "`"
  | .number (.float value) => "floating point `" ++ String.ofList value.text ++ "`"
  | .string text => "string " ++ String.ofList (Text.quoted text)
  | .sequence => "sequence"
  | .map => "map"

/-- A JSON value as a message names it. -/
def Json.found : Json → Found
  | .null => .null
  | .bool value => .bool value
  | .number value => .number value
  | .string text => .string text
  | .array _ => .sequence
  | .object _ => .map

/-- Why a value is not of the wanted form. -/
inductive DecodeError where
  /-- The value has another type. -/
  | wrongType (found : Found) (expected : String)
  /-- The value is of the type, but not in its range. -/
  | outOfRange (value : Int) (expected : String)
  /-- A sequence in the place of a record has too few or too many items. -/
  | wrongLength (length : Nat) (expected : String)
  | missingField (name : String)
  | duplicateField (name : String)
  /-- A text is not a time. -/
  | badTime (error : TimeError)
  /-- The text is not JSON. -/
  | notJson (error : SyntaxError)
  deriving DecidableEq

/-- The wording of a decoding failure. -/
def DecodeError.message : DecodeError → String
  | .wrongType found expected => "invalid type: " ++ found.words ++ ", expected " ++ expected
  | .outOfRange value expected =>
      "invalid value: " ++ (Found.number (.integer value)).words ++ ", expected " ++ expected
  | .wrongLength length expected =>
      "invalid length " ++ String.ofList (Text.decimal length) ++ ", expected " ++ expected
  | .missingField name => "missing field `" ++ name ++ "`"
  | .duplicateField name => "duplicate field `" ++ name ++ "`"
  | .badTime error => error.message
  | .notJson error => error.message

/-! ## What is read of a JSON text

A text that is not JSON still has a beginning that is. A draft is the value that was read up to the
first place at which no reader can go on, with what was found there. A reader that wants certain
types goes through the draft in the order of the text, so that of a wrong type and a fault it
reports the one that comes first.

The tokens are taken one by one, by a reader that knows the containers around its place; no token is
looked at twice.
-/

/-- How a container ends. -/
inductive Ending where
  /-- Its closing bracket or brace was read. -/
  | closed
  /-- The text ends before a comma or the closing character. -/
  | endOfText
  /-- The text ends after a comma. -/
  | endAfterComma
  /-- The closing character follows a comma. -/
  | danglingComma
  /-- Something else stands in the place of a comma or of the closing character. -/
  | missingComma
  /-- Something else stands in the place of a name. -/
  | strayKey
  /-- A name is a broken string. -/
  | brokenKey (fault : Fault)

/-- A JSON value as far as it could be read. A string or number that can be skipped but has no value
carries the reason. -/
inductive Draft where
  | null
  | bool (value : Bool)
  | number (value : Except SyntaxError Number)
  | string (text : Except SyntaxError String)
  | array (items : List Draft) (ending : Ending)
  | object (members : List (Except SyntaxError String × Draft)) (ending : Ending)
  | broken (fault : Fault)
  deriving Inhabited

/-- The fault of an array's ending, for a reader that keeps the items. -/
def Ending.listFault? : Ending → Option Fault
  | .closed => none
  | .endOfText => some (.plain .endInList)
  | .endAfterComma => some (.plain .endInValue)
  | .danglingComma => some ⟨.trailingComma, .expectedValue⟩
  | .missingComma => some (.plain .expectedListCommaOrEnd)
  | .strayKey => some (.plain .keyNotString)
  | .brokenKey fault => some fault

/-- The fault of an object's ending. -/
def Ending.objectFault? : Ending → Option Fault
  | .closed => none
  | .endOfText => some (.plain .endInObject)
  | .endAfterComma => some ⟨.endInValue, .endInObject⟩
  | .danglingComma => some ⟨.trailingComma, .keyNotString⟩
  | .missingComma => some (.plain .expectedObjectCommaOrEnd)
  | .strayKey => some (.plain .keyNotString)
  | .brokenKey fault => some fault

/-- The fault met by a reader that needs no more items, after the last it wanted: only the closing
bracket may follow. -/
def Ending.surplusFault? : Ending → Option SyntaxError
  | .closed => none
  | .endOfText => some .endInList
  | .danglingComma => some .trailingComma
  | _ => some .trailingCharacters

namespace Draft

/-! ### Building from tokens -/

/-- A container around the place that is read: what came before, last first. -/
inductive Frame where
  | list (items : List Draft)
  | member (members : List (Except SyntaxError String × Draft)) (name : Except SyntaxError String)

/-- What a reader of tokens looks for next, and the containers around it, innermost first. -/
inductive Place where
  /-- A value. -/
  | value (around : List Frame)
  /-- The first item of an array, or its end. -/
  | firstItem (around : List Frame)
  /-- A comma after an item, or the end of the array. -/
  | afterItem (items : List Draft) (around : List Frame)
  /-- An item after a comma. -/
  | nextItem (items : List Draft) (around : List Frame)
  /-- The first name of an object, or its end. -/
  | firstName (around : List Frame)
  /-- The colon after a name. -/
  | colon (members : List (Except SyntaxError String × Draft)) (name : Except SyntaxError String)
      (around : List Frame)
  /-- A comma after a member, or the end of the object. -/
  | afterMember (members : List (Except SyntaxError String × Draft)) (around : List Frame)
  /-- A name after a comma. -/
  | nextName (members : List (Except SyntaxError String × Draft)) (around : List Frame)
  /-- Nothing more: the text has been read, and whether something followed it. -/
  | done (draft : Draft) (trailing : Bool)

/-- The place after a value. -/
def deliver (draft : Draft) : List Frame → Place
  | [] => .done draft false
  | .list items :: around => .afterItem (draft :: items) around
  | .member members name :: around => .afterMember ((name, draft) :: members) around

/-- Gives up at a draft: the containers around it are taken as far as they were read. -/
def abandon (draft : Draft) : List Frame → Place
  | [] => .done draft false
  | .list items :: around => abandon (.array (draft :: items).reverse .endOfText) around
  | .member members name :: around =>
      abandon (.object ((name, draft) :: members).reverse .endOfText) around

/-- Reads a token where a value may start. -/
def startValue (around : List Frame) : Token → Place
  | .null => deliver .null around
  | .bool value => deliver (.bool value) around
  | .number value => deliver (.number value) around
  | .string text => deliver (.string text) around
  | .openBracket => .firstItem around
  | .openBrace => .firstName around
  | .brokenString fault => abandon (.broken fault) around
  | .broken fault => abandon (.broken fault) around
  | _ => abandon (.broken (.plain .expectedValue)) around

/-- Reads a token where a name must stand. -/
def startName (members : List (Except SyntaxError String × Draft)) (around : List Frame) :
    Token → Place
  | .string name => .colon members name around
  | .brokenString fault => abandon (.object members.reverse (.brokenKey fault)) around
  | _ => abandon (.object members.reverse .strayKey) around

/-- Reads one token. -/
def step : Place → Token → Place
  | .value around, token => startValue around token
  | .firstItem around, .closeBracket => deliver (.array [] .closed) around
  | .firstItem around, token => startValue (.list [] :: around) token
  | .afterItem items around, .comma => .nextItem items around
  | .afterItem items around, .closeBracket => deliver (.array items.reverse .closed) around
  | .afterItem items around, _ => abandon (.array items.reverse .missingComma) around
  | .nextItem items around, .closeBracket => abandon (.array items.reverse .danglingComma) around
  | .nextItem items around, token => startValue (.list items :: around) token
  | .firstName around, .closeBrace => deliver (.object [] .closed) around
  | .firstName around, token => startName [] around token
  | .colon members name around, .colon => .value (.member members name :: around)
  | .colon members name around, _ =>
      abandon (.object ((name, .broken (.plain .expectedColon)) :: members).reverse .endOfText)
        around
  | .afterMember members around, .comma => .nextName members around
  | .afterMember members around, .closeBrace => deliver (.object members.reverse .closed) around
  | .afterMember members around, _ => abandon (.object members.reverse .missingComma) around
  | .nextName members around, .closeBrace =>
      abandon (.object members.reverse .danglingComma) around
  | .nextName members around, token => startName members around token
  | .done draft _, _ => .done draft true

/-- The place at the end of the text. -/
def finish : Place → Place
  | .value around => abandon (.broken (.plain .endInValue)) around
  | .firstItem around => abandon (.array [] .endOfText) around
  | .afterItem items around => abandon (.array items.reverse .endOfText) around
  | .nextItem items around => abandon (.array items.reverse .endAfterComma) around
  | .firstName around => abandon (.object [] .endOfText) around
  | .colon members name around =>
      abandon (.object ((name, .broken (.plain .endInObject)) :: members).reverse .endOfText) around
  | .afterMember members around => abandon (.object members.reverse .endOfText) around
  | .nextName members around => abandon (.object members.reverse .endAfterComma) around
  | .done draft trailing => .done draft trailing

/-- The draft of a text, and whether something follows its value. -/
def ofText (text : String) : Draft × Bool :=
  match finish ((Token.ofText text.toList).foldl step (.value [])) with
  | .done draft trailing => (draft, trailing)
  | _ => (.broken (.plain .endInValue), false)

/-! ### Readers that know no types -/

mutual

/-- Skips a value: only its form matters. -/
def skip : Draft → Except SyntaxError Unit
  | .array items ending => do
      skipItems items
      match ending.listFault? with
      | some fault => throw fault.skipped
      | none => pure ()
  | .object members ending => do
      skipMembers members
      match ending.objectFault? with
      | some fault => throw fault.skipped
      | none => pure ()
  | .broken fault => .error fault.skipped
  | _ => .ok ()

/-- Skips the items of an array. -/
def skipItems : List Draft → Except SyntaxError Unit
  | [] => .ok ()
  | item :: items => do
      item.skip
      skipItems items

/-- Skips the members of an object. -/
def skipMembers : List (Except SyntaxError String × Draft) → Except SyntaxError Unit
  | [] => .ok ()
  | (_, value) :: members => do
      value.skip
      skipMembers members

end

mutual

/-- Keeps a value of any type. A container is read only if there are fewer containers around it than
the depth allows. -/
def json (depth : Nat) : Draft → Except SyntaxError Json
  | .null => .ok .null
  | .bool value => .ok (.bool value)
  | .number value => value.map .number
  | .string text => text.map .string
  | .array items ending =>
      if depth ≤ 1 then .error .nestedTooDeep
      else do
        let items ← jsonItems (depth - 1) items
        match ending.listFault? with
        | some fault => throw fault.kept
        | none => pure (.array items)
  | .object members ending =>
      if depth ≤ 1 then .error .nestedTooDeep
      else do
        let members ← jsonMembers (depth - 1) members
        match ending.objectFault? with
        | some fault => throw fault.kept
        | none => pure (.object members)
  | .broken fault => .error fault.kept

/-- Keeps the items of an array. -/
def jsonItems (depth : Nat) : List Draft → Except SyntaxError (List Json)
  | [] => .ok []
  | item :: items => do
      let item ← item.json depth
      let items ← jsonItems depth items
      pure (item :: items)

/-- Keeps the members of an object. -/
def jsonMembers (depth : Nat) :
    List (Except SyntaxError String × Draft) → Except SyntaxError (List (String × Json))
  | [] => .ok []
  | (name, value) :: members => do
      let name ← name
      let value ← value.json depth
      let members ← jsonMembers depth members
      pure ((name, value) :: members)

end

end Draft

/-- How deep containers may be nested in a value that is kept, counted with the place inside the
innermost. -/
def Json.maxDepth : Nat := 128

/-- The value of a JSON text, with the members of its objects as they are written. -/
def Json.parse (text : String) : Except SyntaxError Json := do
  let (draft, trailing) := Draft.ofText text
  let value ← draft.json Json.maxDepth
  if trailing then throw .trailingCharacters else pure value

/-! ## Reading records from JSON texts

A record is read from an object, in which members of other names are skipped, or from an array that
has the fields in their order and may end early. The reading follows the text, so that the first
thing amiss in it is reported; only then a field that is missing. A field that is read twice is
refused.
-/

namespace Draft

/-- The value as a message names it, unless it is not JSON. -/
def found : Draft → Except SyntaxError Found
  | .null => .ok .null
  | .bool value => .ok (.bool value)
  | .number value => value.map .number
  | .string text => text.map .string
  | .array _ _ => .ok .sequence
  | .object _ _ => .ok .map
  | .broken fault => .error fault.kept

/-- The failure to find a value of the expected type. -/
def mismatch (expected : String) (draft : Draft) : DecodeError :=
  match draft.found with
  | .ok found => .wrongType found expected
  | .error error => .notJson error

/-- The result of a reading that fails only if the text is not JSON. -/
def orNotJson {α : Type} : Except SyntaxError α → Except DecodeError α
  | .ok value => .ok value
  | .error error => .error (.notJson error)

/-- Reads a text; messages call it by the words that are given. -/
def text (expected : String) : Draft → Except DecodeError String
  | .string (.ok text) => .ok text
  | other => .error (other.mismatch expected)

/-- Reads a natural number of at most a number of bits. -/
def natural (bits : Nat) : Draft → Except DecodeError Nat
  | .number (.ok (.integer value)) =>
      if 0 ≤ value ∧ value < Nat.pow 2 bits then .ok value.toNat
      else .error (.outOfRange value (words bits))
  | other => .error (other.mismatch (words bits))
where
  /-- What messages call such a number. -/
  words (bits : Nat) : String := "u" ++ String.ofList (Text.decimal bits)

/-- Reads a value that may be `null`. -/
def nullable {α : Type} (read : Draft → Except DecodeError α) :
    Draft → Except DecodeError (Option α)
  | .null => .ok none
  | other => (read other).map some

end Draft

/-- A field of a record, and how reading it changes the record. -/
structure RecordField (σ : Type) where
  name : String
  /-- Whether the record must have the field. -/
  required : Bool := false
  read : Draft → σ → Except DecodeError σ

/-- The form of a record: the name that messages call it by, its fields, and what it is without
them. -/
structure RecordForm (σ : Type) where
  name : String
  fields : List (RecordField σ)
  start : σ

namespace RecordForm

variable {σ : Type}

/-- What messages call a record of the form. -/
def words (form : RecordForm σ) : String := "struct " ++ form.name

/-- Reads the members of an object, after the fields with certain names. Returns the names of all
fields that were read. -/
def readMembers (form : RecordForm σ) (record : σ) (names : List String) :
    List (Except SyntaxError String × Draft) → Except DecodeError (σ × List String)
  | [] => .ok (record, names)
  | (name, value) :: members => do
      let name ← Draft.orNotJson name
      match form.fields.find? fun field => field.name == name with
      | none =>
          Draft.orNotJson value.skip
          readMembers form record names members
      | some field =>
          if names.contains name then throw (.duplicateField name)
          else
            let record ← field.read value record
            readMembers form record (name :: names) members

/-- Refuses a record without one of the fields it must have. -/
def refuseMissing (form : RecordForm σ) (names : List String) : Except DecodeError Unit :=
  match form.fields.find? fun field => field.required && !names.contains field.name with
  | some field => .error (.missingField field.name)
  | none => .ok ()

/-- The fault that a reader meets that goes on to look for another item. -/
def missingItem (ending : Ending) : Except DecodeError Unit :=
  match ending.listFault? with
  | some fault => .error (.notJson fault.kept)
  | none => .ok ()

/-- The fault that a reader meets after the last item it wants. -/
def refuseSurplus (surplus : List Draft) (ending : Ending) : Except DecodeError Unit :=
  if !surplus.isEmpty then .error (.notJson .trailingCharacters)
  else match ending.surplusFault? with
    | some error => .error (.notJson error)
    | none => .ok ()

/-- Reads the items of an array as fields in their order; a number of fields came before them. -/
def readItems (form : RecordForm σ) (ending : Ending) (index : Nat) (record : σ) :
    List (RecordField σ) → List Draft → Except DecodeError σ
  | [], surplus => do
      refuseSurplus surplus ending
      pure record
  | field :: fields, [] => do
      missingItem ending
      if field.required then
        throw (.wrongLength index (form.words ++ " with " ++
          String.ofList (Text.decimal form.fields.length) ++ " elements"))
      else readItems form ending (index + 1) record fields []
  | field :: fields, item :: items => do
      let record ← field.read item record
      readItems form ending (index + 1) record fields items

/-- Reads a record of the form. -/
def read (form : RecordForm σ) : Draft → Except DecodeError σ
  | .object members ending => do
      let (record, names) ← form.readMembers form.start [] members
      match ending.objectFault? with
      | some fault => throw (.notJson fault.kept)
      | none =>
          form.refuseMissing names
          pure record
  | .array items ending => form.readItems ending 0 form.start form.fields items
  | other => .error (other.mismatch form.words)

/-- Reads a record from a text that holds nothing else. -/
def parse (form : RecordForm σ) (text : String) : Except DecodeError σ := do
  let (draft, trailing) := Draft.ofText text
  let record ← form.read draft
  if trailing then throw (.notJson .trailingCharacters) else pure record

end RecordForm

end ClusterHosts
