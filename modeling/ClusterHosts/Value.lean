import ClusterHosts.Json.Basic
import ClusterHosts.Json.Record
import ClusterHosts.Ordered
import ClusterHosts.Text.Quoted

/-! # Values of scripts

The values that scripts hand over, the attributes that structures are made of, and the failures of
calls. -/

namespace ClusterHosts

/-! ## Script values

The values that scripts pass to functions and get back. A struct holds its attributes as a list of
names and values; the functions that build one keep the names in increasing order. A value is shown
to a script's author as a script would write it, and leaves the program as JSON without a tag for
its type.
-/

/-- A script value. -/
inductive Value where
  | none
  | bool (value : Bool)
  | int (value : Int64)
  | string (text : String)
  | list (items : List Value)
  | struct (attributes : List (String × Value))
  deriving Inhabited

namespace Value

/-- The name of a value's type in messages. -/
def typeName : Value → String
  | .none => "NoneType"
  | .bool _ => "bool"
  | .int _ => "int"
  | .string _ => "string"
  | .list _ => "list"
  | .struct _ => "struct"

/-- The text, if the value is one. -/
def text? : Value → Option String
  | .string text => some text
  | _ => Option.none

/-- Whether the value is a struct. -/
def isStruct : Value → Bool
  | .struct _ => true
  | _ => false

/-- Whether the value stands for nothing. -/
def isNone : Value → Bool
  | .none => true
  | _ => false

/-- A number as a script value. -/
def ofNat (n : Nat) : Value := .int (Int64.ofNat n)

/-- A text that may be missing; `None` if it is. -/
def ofText? : Option String → Value
  | some text => .string text
  | Option.none => .none

/-- Texts as a list. -/
def ofTexts (texts : List String) : Value := .list (texts.map .string)

mutual

/-- The value as a script would write it. Attribute names stand without quotes. -/
def display : Value → List Char
  | .none => ['N', 'o', 'n', 'e']
  | .bool true => ['T', 'r', 'u', 'e']
  | .bool false => ['F', 'a', 'l', 's', 'e']
  | .int value => Text.signedDecimal value.toInt
  | .string text => Text.quoted text
  | .list [] => ['[', ']']
  | .list (item :: items) => '[' :: (item.display ++ displayItems items)
  | .struct [] => ['s', 't', 'r', 'u', 'c', 't', '(', ')']
  | .struct ((name, value) :: attributes) =>
      's' :: 't' :: 'r' :: 'u' :: 'c' :: 't' :: '(' ::
        (name.toList ++ ' ' :: '=' :: ' ' :: (value.display ++ displayAttributes attributes))

/-- The items after the first, each with a comma before it, and the closing bracket. -/
def displayItems : List Value → List Char
  | [] => [']']
  | item :: items => ',' :: ' ' :: (item.display ++ displayItems items)

/-- The attributes after the first, each with a comma before it, and the closing parenthesis. -/
def displayAttributes : List (String × Value) → List Char
  | [] => [')']
  | (name, value) :: attributes =>
      ',' :: ' ' :: (name.toList ++ ' ' :: '=' :: ' ' ::
        (value.display ++ displayAttributes attributes))

end

mutual

/-- The value as JSON. -/
def json : Value → Json
  | .none => .null
  | .bool value => .bool value
  | .int value => .integer value.toInt
  | .string text => .string text
  | .list items => .array (jsonItems items)
  | .struct attributes => .object (jsonAttributes attributes)

/-- The items as JSON. -/
def jsonItems : List Value → List Json
  | [] => []
  | item :: items => item.json :: jsonItems items

/-- The attributes as members of an object. -/
def jsonAttributes : List (String × Value) → List (String × Json)
  | [] => []
  | (name, value) :: attributes => (name, value.json) :: jsonAttributes attributes

end

mutual

/-- The value that a JSON value stands for. Fractions and integers beyond 64 bits stand for none. -/
def ofJson? : Json → Option Value
  | .null => some .none
  | .bool value => some (.bool value)
  | .number (.integer value) =>
      if Int64.minValue.toInt ≤ value ∧ value ≤ Int64.maxValue.toInt then
        some (.int (Int64.ofInt value))
      else Option.none
  | .number (.float _) => Option.none
  | .string text => some (.string text)
  | .array items => (ofJsonItems? items).map .list
  | .object members => (ofJsonMembers? members).map .struct

/-- The values that the items of an array stand for. -/
def ofJsonItems? : List Json → Option (List Value)
  | [] => some []
  | item :: items =>
      match ofJson? item, ofJsonItems? items with
      | some item, some items => some (item :: items)
      | _, _ => Option.none

/-- The attributes that the members of an object stand for. -/
def ofJsonMembers? : List (String × Json) → Option (List (String × Value))
  | [] => some []
  | (name, value) :: members =>
      match ofJson? value, ofJsonMembers? members with
      | some value, some members => some ((name, value) :: members)
      | _, _ => Option.none

end

end Value

/-! ## Failures of a call

Every way in which a script function can fail, with the function that failed. The wording of each is
what the author of the script reads.
-/

/-- What is wrong with an argument. -/
inductive Complaint where
  /-- A keyword is given twice. -/
  | repeated
  /-- An attribute is not one of those that are known. -/
  | unexpected (known : List String)
  /-- An attribute that must be given is missing or empty. -/
  | required
  /-- The value has another type; the wanted one is given in words. -/
  | wrongType (expected found : String)
  /-- A list that should hold texts holds a value of another type. -/
  | wrongElement (found : String)
  | notNonNegative
  | outOfRange
  | emptyPath

/-- The wording of a complaint. -/
def Complaint.message : Complaint → String
  | .repeated => "keyword argument repeated"
  | .unexpected known =>
      "unexpected attribute (expected one of: " ++ ", ".intercalate known ++ ")"
  | .required => "required"
  | .wrongType expected found => "expected " ++ expected ++ ", got " ++ found
  | .wrongElement found => "expected list of strings, found " ++ found ++ " element"
  | .notNonNegative => "expected a non-negative integer"
  | .outOfRange => "out of range"
  | .emptyPath => "empty path"

/-- A failure of a call. -/
inductive CallError where
  /-- An argument does not have the form that the function wants. -/
  | badArgument (function key : String) (complaint : Complaint)
  /-- An object, counted among those before it, does not have the form of its kind. -/
  | badObject (function kind : String) (index : Nat) (cause : DecodeError)
  /-- Neither an argument nor a default says which cluster to search. -/
  | noTarget (function : String)
  /-- The cluster's client could not be set up. -/
  | connectFailed (function cause : String)
  /-- The cluster could not be searched. -/
  | searchFailed (function kind cause : String)
  /-- Neither an argument nor a default gives a setting. -/
  | missingDefault (function key : String)
  | unknownFunction (name : String)

/-- The wording of a failure. -/
def CallError.message : CallError → String
  | .badArgument function key complaint =>
      function ++ ": invalid argument '" ++ key ++ "': " ++ complaint.message
  | .badObject function kind index cause =>
      function ++ ": failed to decode " ++ kind ++ " item #" ++
        String.ofList (Text.decimal index) ++ ": " ++ cause.message
  | .noTarget function =>
      function ++ ": failed to determine kube_config: " ++
        "no kube_config argument and no default kube_config in session"
  | .connectFailed function cause =>
      function ++ ": could not initialize search client: " ++ cause
  | .searchFailed function kind cause =>
      function ++ ": could not fetch " ++ kind ++ ": " ++ cause
  | .missingDefault function key => function ++ ": default " ++ key ++ " not found"
  | .unknownFunction name => "unknown function '" ++ name ++ "'"

/-! ## Attribute structs

Named values, in the order of their names: the attributes of a struct, or the keyword arguments of a
call. Looking a name up after setting one finds the value that was set, and under any other name
what was there before (`get?_set`). Keyword arguments fold into a struct unless a name occurs twice;
the first name that repeats an earlier one is then to blame.
-/

/-- Named values with distinct names, in the order of the names. -/
structure Attributes where
  /-- The names with their values. -/
  entries : List (String × Value)
  increasing : Ordered.Increasing Prod.fst entries

namespace Attributes

/-- No attributes. -/
def empty : Attributes := ⟨[], Ordered.increasing_nil⟩

instance : Inhabited Attributes := ⟨empty⟩

/-- The value of an attribute. -/
def get? (attributes : Attributes) (name : String) : Option Value :=
  attributes.entries.lookup name

/-- The value of an attribute, where `None` counts as no value. -/
def getSome? (attributes : Attributes) (name : String) : Option Value :=
  (attributes.get? name).filter fun value => !value.isNone

/-- Whether there is an attribute of a name, be its value `None`. -/
def contains (attributes : Attributes) (name : String) : Bool := (attributes.get? name).isSome

/-- The attributes with one set to a value. -/
def set (attributes : Attributes) (name : String) (value : Value) : Attributes :=
  ⟨Ordered.insert Prod.fst (name, value) attributes.entries,
    Ordered.increasing_insert _ attributes.increasing⟩

/-- The attributes set one after the other. -/
def ofList (entries : List (String × Value)) : Attributes :=
  ⟨Ordered.ofList Prod.fst entries, Ordered.increasing_ofList entries⟩

/-- The names, in order. -/
def names (attributes : Attributes) : List String := attributes.entries.map Prod.fst

/-- The number of attributes. -/
def size (attributes : Attributes) : Nat := attributes.entries.length

/-- Whether there are no attributes. -/
def isEmpty (attributes : Attributes) : Bool := attributes.entries.isEmpty

/-- The struct with these attributes. -/
def value (attributes : Attributes) : Value := .struct attributes.entries

/-- Adds keyword arguments to a struct, up to the first whose name it has already. -/
def addKeywords (function : String) (attributes : Attributes) :
    List (String × Value) → Except CallError Attributes
  | [] => .ok attributes
  | (name, value) :: keywords =>
      if attributes.contains name then .error (.badArgument function name .repeated)
      else addKeywords function (attributes.set name value) keywords

/-- The struct of the keyword arguments of a call. -/
def ofKeywords (function : String) (keywords : List (String × Value)) :
    Except CallError Attributes :=
  addKeywords function empty keywords

/-- The struct with the attributes of a value that is one, put in order. -/
def ofValue? : Value → Option Attributes
  | .struct entries => some (ofList entries)
  | _ => none

/-- Setting an attribute changes what is found under its name and nothing else. -/
theorem get?_set (attributes : Attributes) (name other : String) (value : Value) :
    (attributes.set name value).get? other =
      if other = name then some value else attributes.get? other :=
  Ordered.lookup_insert name other value attributes.increasing

@[simp] theorem get?_empty (name : String) : empty.get? name = none := rfl

end Attributes

end ClusterHosts

namespace ClusterHosts.Outcome

/-! ## Outcomes of computations

A computation of several steps succeeds if all of them succeed, and otherwise fails as the first
that fails.
-/

variable {ε α β : Type} {first : Except ε α}

/-- Two steps succeed if both do. -/
theorem bind_eq_ok {next : α → Except ε β} {result : β} :
    first >>= next = .ok result ↔ ∃ value, first = .ok value ∧ next value = .ok result := by
  cases first <;> simp [bind, Except.bind]

/-- Two steps fail as the first of them that fails. -/
theorem bind_eq_error {next : α → Except ε β} {error : ε} :
    first >>= next = .error error ↔
      first = .error error ∨ ∃ value, first = .ok value ∧ next value = .error error := by
  cases first <;> simp [bind, Except.bind]

/-- What is made of a result is there if the result is. -/
theorem map_eq_ok {f : α → β} {result : β} :
    first.map f = .ok result ↔ ∃ value, first = .ok value ∧ f value = result := by
  cases first <;> simp [Except.map]

theorem map_eq_error {f : α → β} {error : ε} :
    first.map f = .error error ↔ first = .error error := by
  cases first <;> simp [Except.map]

end ClusterHosts.Outcome
