import ClusterHosts.Binary64
import ClusterHosts.Ordered

/-! # JSON values

A JSON value keeps the members of an object in the order in which they were written. Where an object
stands for a mapping, its canonical form has them in the order of their names, and of two members
with one name the later.
-/

namespace ClusterHosts

/-- A JSON number: an integer, or a number that was written with a fraction or an exponent. -/
inductive Number where
  | integer (value : Int)
  | float (value : Binary64)
  deriving DecidableEq, Inhabited

/-- A JSON value. -/
inductive Json where
  | null
  | bool (value : Bool)
  | number (value : Number)
  | string (text : String)
  | array (items : List Json)
  | object (members : List (String × Json))
  deriving Inhabited

namespace Json

/-- An integer as a JSON value. -/
def integer (value : Int) : Json := .number (.integer value)

/-- The value of the first member with a name, if this is an object that has one. -/
def member? (name : String) : Json → Option Json
  | .object members => members.lookup name
  | _ => none

/-- The text, if this is one. -/
def text? : Json → Option String
  | .string text => some text
  | _ => none

/-- The items, if this is an array. -/
def items? : Json → Option (List Json)
  | .array items => some items
  | _ => none

/-- The object with one member set, at its place in the order of the names. -/
def withMember (value : Json) (name : String) (member : Json) : Json :=
  match value with
  | .object members => .object (Ordered.insert Prod.fst (name, member) members)
  | other => other

mutual

/-- The value with the members of each object in the order of their names, later members in the
place of earlier ones with the same name. -/
def canonical : Json → Json
  | .array items => .array (canonicalItems items)
  | .object members => .object (Ordered.ofList Prod.fst (canonicalMembers members))
  | other => other

/-- The canonical forms of the items. -/
def canonicalItems : List Json → List Json
  | [] => []
  | item :: items => item.canonical :: canonicalItems items

/-- The members with canonical values, in the same order. -/
def canonicalMembers : List (String × Json) → List (String × Json)
  | [] => []
  | (name, value) :: members => (name, value.canonical) :: canonicalMembers members

end

mutual

/-- Two values can be told apart. -/
def decideEq : (first second : Json) → Decidable (first = second)
  | .null, other =>
      match other with
      | .null => isTrue rfl
      | .bool _ | .number _ | .string _ | .array _ | .object _ => isFalse nofun
  | .bool value, other =>
      match other with
      | .bool also => decidable_of_iff (value = also) (by rw [bool.injEq])
      | .null | .number _ | .string _ | .array _ | .object _ => isFalse nofun
  | .number value, other =>
      match other with
      | .number also => decidable_of_iff (value = also) (by rw [number.injEq])
      | .null | .bool _ | .string _ | .array _ | .object _ => isFalse nofun
  | .string text, other =>
      match other with
      | .string also => decidable_of_iff (text = also) (by rw [string.injEq])
      | .null | .bool _ | .number _ | .array _ | .object _ => isFalse nofun
  | .array items, other =>
      match other with
      | .array others =>
          have := decideItemsEq items others
          decidable_of_iff (items = others) (by rw [array.injEq])
      | .null | .bool _ | .number _ | .string _ | .object _ => isFalse nofun
  | .object members, other =>
      match other with
      | .object others =>
          have := decideMembersEq members others
          decidable_of_iff (members = others) (by rw [object.injEq])
      | .null | .bool _ | .number _ | .string _ | .array _ => isFalse nofun

/-- Two lists of values can be told apart. -/
def decideItemsEq : (first second : List Json) → Decidable (first = second)
  | [], [] => isTrue rfl
  | [], _ :: _ | _ :: _, [] => isFalse nofun
  | item :: items, item' :: items' =>
      have := decideEq item item'
      have := decideItemsEq items items'
      decidable_of_iff (item = item' ∧ items = items') (by rw [List.cons.injEq])

/-- Two lists of members can be told apart. -/
def decideMembersEq : (first second : List (String × Json)) → Decidable (first = second)
  | [], [] => isTrue rfl
  | [], _ :: _ | _ :: _, [] => isFalse nofun
  | (name, value) :: members, (name', value') :: members' =>
      have := decideEq value value'
      have := decideMembersEq members members'
      decidable_of_iff ((name = name' ∧ value = value') ∧ members = members')
        (by rw [List.cons.injEq, Prod.mk.injEq])

end

instance : DecidableEq Json := decideEq

end Json

end ClusterHosts

namespace ClusterHosts.Json

/-! ## Writing JSON

A JSON text on one line without spaces, or laid out with one item or member on a line, indented by
two spaces for each container around it. Between quotes the quote and the backslash have a backslash
before them, and the characters below U+0020 are written as escapes; all others stand for
themselves.
-/

/-- How a character is written in a JSON string. -/
def escapedChar (c : Char) : List Char :=
  match c with
  | '"' => ['\\', '"']
  | '\\' => ['\\', '\\']
  | '\x08' => ['\\', 'b']
  | '\x0c' => ['\\', 'f']
  | '\n' => ['\\', 'n']
  | '\r' => ['\\', 'r']
  | '\t' => ['\\', 't']
  | c => if c.toNat < 0x20 then '\\' :: 'u' :: Text.hexadecimal 4 c.toNat else [c]

/-- A JSON string for a text. -/
def stringText (text : String) : List Char := '"' :: (text.toList.flatMap escapedChar ++ ['"'])

/-- The JSON text of a truth value. -/
def boolText (value : Bool) : List Char :=
  if value then ['t', 'r', 'u', 'e'] else ['f', 'a', 'l', 's', 'e']

end Json

/-- The JSON text of a number. -/
def Number.text : Number → List Char
  | .integer value => Text.signedDecimal value
  | .float value => value.text

namespace Json

mutual

/-- The JSON text without spaces or line breaks. -/
def compact : Json → List Char
  | .null => ['n', 'u', 'l', 'l']
  | .bool value => boolText value
  | .number value => value.text
  | .string text => stringText text
  | .array [] => ['[', ']']
  | .array (item :: items) => '[' :: (item.compact ++ compactItems items)
  | .object [] => ['{', '}']
  | .object ((name, value) :: members) =>
      '{' :: (stringText name ++ ':' :: (value.compact ++ compactMembers members))

/-- The items after the first, each with a comma before it, and the closing bracket. -/
def compactItems : List Json → List Char
  | [] => [']']
  | item :: items => ',' :: (item.compact ++ compactItems items)

/-- The members after the first, each with a comma before it, and the closing brace. -/
def compactMembers : List (String × Json) → List Char
  | [] => ['}']
  | (name, value) :: members =>
      ',' :: (stringText name ++ ':' :: (value.compact ++ compactMembers members))

end

/-- A line break and the indentation of a depth. -/
def newLine (depth : Nat) : List Char := '\n' :: List.replicate (2 * depth) ' '

mutual

/-- The JSON text laid out over lines, in containers of a depth. -/
def laidOut (depth : Nat) : Json → List Char
  | .null => ['n', 'u', 'l', 'l']
  | .bool value => boolText value
  | .number value => value.text
  | .string text => stringText text
  | .array [] => ['[', ']']
  | .array (item :: items) =>
      '[' :: (newLine (depth + 1) ++ (item.laidOut (depth + 1) ++ laidOutItems depth items))
  | .object [] => ['{', '}']
  | .object ((name, value) :: members) =>
      '{' :: (newLine (depth + 1) ++ (stringText name ++ ':' :: ' ' ::
        (value.laidOut (depth + 1) ++ laidOutMembers depth members)))

/-- The items after the first, each on a line of its own, and the closing bracket. -/
def laidOutItems (depth : Nat) : List Json → List Char
  | [] => newLine depth ++ [']']
  | item :: items =>
      ',' :: (newLine (depth + 1) ++ (item.laidOut (depth + 1) ++ laidOutItems depth items))

/-- The members after the first, each on a line of its own, and the closing brace. -/
def laidOutMembers (depth : Nat) : List (String × Json) → List Char
  | [] => newLine depth ++ ['}']
  | (name, value) :: members =>
      ',' :: (newLine (depth + 1) ++ (stringText name ++ ':' :: ' ' ::
        (value.laidOut (depth + 1) ++ laidOutMembers depth members)))

end

/-- The JSON text without spaces or line breaks. -/
def render (value : Json) : String := String.ofList value.compact

/-- The JSON text laid out over lines. -/
def renderPretty (value : Json) : String := String.ofList (value.laidOut 0)

end ClusterHosts.Json
