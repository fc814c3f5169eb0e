import ClusterHosts.Text.Basic
import ClusterHosts.Yaml.Layout

/-! # YAML documents

The nodes of a document, and how they are composed of tokens. -/

namespace ClusterHosts.Yaml

/-! ## Nodes of YAML documents

What a document is made of before it is known what its parts mean: scalars, sequences and mappings
with their tags, and references to other nodes. A node that can be referred to has a number, and a
reference leads to the last node that has its number.
-/

/-- What a tag says. -/
inductive Tag where
  | null
  | truth
  | integer
  | decimal
  /-- The value has a name of its own. -/
  | named (name : String)
  /-- The value has a name of its own that is no text. This is as good as no tag. -/
  | unreadable
  /-- Another tag. A scalar with it is a text. -/
  | other
  deriving DecidableEq

/-- What is said about a node in front of it. -/
structure Properties where
  number : Option Nat := none
  tag : Option Tag := none
  deriving DecidableEq

/-- A part of a document. -/
inductive Node where
  | reference (number : Nat)
  | scalar (properties : Properties) (isPlain : Bool) (text : String)
  | sequence (properties : Properties) (items : List Node)
  | mapping (properties : Properties) (entries : List (Node × Node))
  deriving Inhabited

namespace Node

/-- A node without any characters. -/
def empty (properties : Properties) : Node := .scalar properties true ""

/-- What is said about a node. -/
def properties : Node → Properties
  | .reference _ => {}
  | .scalar properties _ _ => properties
  | .sequence properties _ => properties
  | .mapping properties _ => properties

mutual

/-- A node with all that is in it, in the order in which they start. -/
def parts : Node → List Node
  | .sequence properties items => .sequence properties items :: itemParts items
  | .mapping properties entries => .mapping properties entries :: entryParts entries
  | other => [other]

/-- The parts of nodes. -/
def itemParts : List Node → List Node
  | [] => []
  | item :: items => item.parts ++ itemParts items

/-- The parts of keys and values. -/
def entryParts : List (Node × Node) → List Node
  | [] => []
  | (key, value) :: entries => key.parts ++ (value.parts ++ entryParts entries)

end

mutual

/-- How many marks make up a node: one for a scalar or a reference, two for a collection and those
of what is in it. -/
def size : Node → Nat
  | .sequence _ items => 2 + itemsSize items
  | .mapping _ entries => 2 + entriesSize entries
  | _ => 1

/-- The size of nodes. -/
def itemsSize : List Node → Nat
  | [] => 0
  | item :: items => item.size + itemsSize items

/-- The size of keys and values. -/
def entriesSize : List (Node × Node) → Nat
  | [] => 0
  | (key, value) :: entries => key.size + (value.size + entriesSize entries)

end

/-- The node that a reference with a number leads to: the last one with the number. -/
def target? (document : Node) (number : Nat) : Option Node :=
  (document.parts.filter fun node => node.properties.number == some number).getLast?

mutual

/-- Two nodes can be told apart. -/
def decideEq : (first second : Node) → Decidable (first = second)
  | .reference number, other =>
      match other with
      | .reference also => decidable_of_iff (number = also) (by rw [reference.injEq])
      | .scalar .. | .sequence .. | .mapping .. => isFalse nofun
  | .scalar properties isPlain text, other =>
      match other with
      | .scalar properties' isPlain' text' =>
          decidable_of_iff (properties = properties' ∧ isPlain = isPlain' ∧ text = text')
            (by rw [scalar.injEq])
      | .reference .. | .sequence .. | .mapping .. => isFalse nofun
  | .sequence properties items, other =>
      match other with
      | .sequence properties' items' =>
          have := decideItemsEq items items'
          decidable_of_iff (properties = properties' ∧ items = items') (by rw [sequence.injEq])
      | .reference .. | .scalar .. | .mapping .. => isFalse nofun
  | .mapping properties entries, other =>
      match other with
      | .mapping properties' entries' =>
          have := decideEntriesEq entries entries'
          decidable_of_iff (properties = properties' ∧ entries = entries') (by rw [mapping.injEq])
      | .reference .. | .scalar .. | .sequence .. => isFalse nofun

/-- Two lists of nodes can be told apart. -/
def decideItemsEq : (first second : List Node) → Decidable (first = second)
  | [], [] => isTrue rfl
  | [], _ :: _ | _ :: _, [] => isFalse nofun
  | item :: items, item' :: items' =>
      have := decideEq item item'
      have := decideItemsEq items items'
      decidable_of_iff (item = item' ∧ items = items') (by rw [List.cons.injEq])

/-- Two lists of keys and values can be told apart. -/
def decideEntriesEq : (first second : List (Node × Node)) → Decidable (first = second)
  | [], [] => isTrue rfl
  | [], _ :: _ | _ :: _, [] => isFalse nofun
  | (key, value) :: entries, (key', value') :: entries' =>
      have := decideEq key key'
      have := decideEq value value'
      have := decideEntriesEq entries entries'
      decidable_of_iff ((key = key' ∧ value = value') ∧ entries = entries')
        (by rw [List.cons.injEq, Prod.mk.injEq])

end

instance : DecidableEq Node := decideEq

end Node

/-! ## Documents of tokens

How the tokens of a text make up documents. Only the first document can start without three dashes,
and only where dashes stand can directives stand before them. Where a value is missing an empty
scalar takes its place. A reference names a value before it in its document. Readers go down into
the values with a number of steps that each of them may take. Every other step passes over a token
at least, so that the number of tokens bounds them.
-/

/-- The short forms for tags that each document has. -/
def commonHandles : List (String × List UInt8) :=
  [("!", "!".toUTF8.toList), ("!!", "tag:yaml.org,2002:".toUTF8.toList)]

/-- What is known between the tokens of a document. -/
structure Composition where
  tokens : List Token
  /-- The values that have names, the last first, with their numbers. -/
  names : List (String × Nat) := []
  /-- How many different names there are. -/
  nameCount : Nat := 0
  /-- What the short forms for tags stand for. -/
  handles : List (String × List UInt8) := commonHandles

/-- A reader of tokens. -/
abbrev Composer := StateT Composition Option

namespace Composer

/-- The next token. -/
def peek : Composer (Option Token) := do pure (← get).tokens.head?

/-- Passes over a token. -/
def pass : Composer Unit := modify fun state => { state with tokens := state.tokens.drop 1 }

/-- Passes over a token if it comes next; tells whether it did. -/
def passIf (token : Token) : Composer Bool := do
  if (← peek) = some token then
    pass
    pure true
  else pure false

/-- Whether one of some tokens comes next, or the end. -/
def isNext (tokens : List Token) : Composer Bool := do
  match ← peek with
  | none => pure true
  | some token => pure (tokens.contains token)

/-! ### What is said about values -/

/-- Gives a number to the value that a name is for: the number of different names before it. -/
def define (name : String) : Composer Nat := do
  let state ← get
  let isKnown := (state.names.lookup name).isSome
  set { state with
    names := (name, state.nameCount) :: state.names
    nameCount := if isKnown then state.nameCount else state.nameCount + 1 }
  pure state.nameCount

/-- The number of the value with a name. -/
def numberOf (name : String) : Composer Nat := do
  match (← get).names.lookup name with
  | some number => pure number
  | none => failure

/-- The tags that say what a scalar is. -/
def scalarTags : List (List UInt8 × Tag) := [
  ("tag:yaml.org,2002:null".toUTF8.toList, .null),
  ("tag:yaml.org,2002:bool".toUTF8.toList, .truth),
  ("tag:yaml.org,2002:int".toUTF8.toList, .integer),
  ("tag:yaml.org,2002:float".toUTF8.toList, .decimal)]

/-- What the bytes of a tag say. Names of values' own stand behind an exclamation mark. -/
def tagOfBytes (bytes : List UInt8) : Tag :=
  match bytes with
  | 0x21 :: name =>
      match String.fromUTF8? ⟨name.toArray⟩ with
      | some name => .named name
      | none => .unreadable
  | bytes => (scalarTags.lookup bytes).getD .other

/-- What a tag says. Its short form must be known. -/
def tagOf (handle : String) (suffix : List UInt8) : Composer Tag := do
  if handle.isEmpty then pure (tagOfBytes suffix)
  else match (← get).handles.lookup handle with
    | some start => pure (tagOfBytes (start ++ suffix))
    | none => failure

/-- What is said about the value that follows: a name and a tag, in any order. -/
def properties : Composer Properties := do
  match ← peek with
  | some (.anchor name) =>
      pass
      let number ← define name
      match ← peek with
      | some (.tag handle suffix) =>
          pass
          pure ⟨some number, some (← tagOf handle suffix)⟩
      | _ => pure ⟨some number, none⟩
  | some (.tag handle suffix) =>
      pass
      match ← peek with
      | some (.anchor name) =>
          pass
          let number ← define name
          pure ⟨some number, some (← tagOf handle suffix)⟩
      | _ => pure ⟨none, some (← tagOf handle suffix)⟩
  | _ => pure {}

/-! ### Values -/

/-- The node of a scalar. A tag without a name counts for nothing there. -/
def scalarNode (properties : Properties) (isPlain : Bool) (text : String) : Node :=
  let tag := properties.tag.filter (· != .named "")
  .scalar { properties with tag } isPlain text

mutual

/-- Reads a value. Collections in lines are values where lines are; a sequence in lines may stand at
the column of its key. -/
def node : Nat → (inLines mayBeItems : Bool) → Composer Node
  | 0, _, _ => failure
  | steps + 1, inLines, mayBeItems => do
      match ← peek with
      | some (.reference name) =>
          pass
          pure (.reference (← numberOf name))
      | _ =>
          let properties ← properties
          match ← peek with
          | some .item =>
              if mayBeItems then pure (.sequence properties (← items steps))
              else missingNode properties
          | some (.scalar isPlain text) =>
              pass
              pure (scalarNode properties isPlain text)
          | some .flowSequence =>
              pass
              pure (.sequence properties (← flowItems steps))
          | some .flowMapping =>
              pass
              pure (.mapping properties (← flowEntries steps))
          | some .blockSequence =>
              if inLines then
                pass
                let items ← items steps
                closeBlock
                pure (.sequence properties items)
              else missingNode properties
          | some .blockMapping =>
              if inLines then
                pass
                let entries ← entries steps
                closeBlock
                pure (.mapping properties entries)
              else missingNode properties
          | _ => missingNode properties
where
  /-- The end of a collection in lines. -/
  closeBlock : Composer Unit := do if !(← passIf .blockEnd) then failure
  /-- A value of which only what is said in front of it is there. -/
  missingNode (properties : Properties) : Composer Node :=
    if properties = {} then failure else pure (Node.empty properties)

/-- Reads a value, or an empty scalar before some tokens and at the end. -/
def nodeUnless : Nat → (inLines mayBeItems : Bool) → List Token → Composer Node
  | 0, _, _, _ => failure
  | steps + 1, inLines, mayBeItems, tokens => do
      if ← isNext tokens then pure (Node.empty {}) else node steps inLines mayBeItems

/-- Reads the items of a sequence in lines. -/
def items : Nat → Composer (List Node)
  | 0 => failure
  | steps + 1 => do
      if ← passIf .item then
        let item ← nodeUnless steps true false [.item, .key, .value, .blockEnd]
        pure (item :: (← items steps))
      else pure []

/-- Reads the keys and values of a mapping in lines. -/
def entries : Nat → Composer (List (Node × Node))
  | 0 => failure
  | steps + 1 => do
      if ← passIf .key then
        let key ← nodeUnless steps true true [.key, .value, .blockEnd]
        let value ←
          if ← passIf .value then nodeUnless steps true true [.key, .value, .blockEnd]
          else pure (Node.empty {})
        pure ((key, value) :: (← entries steps))
      else pure []

/-- Reads the items of a sequence in brackets, up to its end. -/
def flowItems : Nat → Composer (List Node)
  | 0 => failure
  | steps + 1 => do
      if ← passIf .flowSequenceEnd then pure []
      else
        let item ← if ← passIf .key then singleEntry steps else node steps false false
        if ← passIf .comma then pure (item :: (← flowItems steps))
        else if ← passIf .flowSequenceEnd then pure [item]
        else failure

/-- Reads an item that is a mapping with one key. The token in the place of a missing key is passed
over. -/
def singleEntry : Nat → Composer Node
  | 0 => failure
  | steps + 1 => do
      let key ←
        if ← isNext [.value, .comma, .flowSequenceEnd] then
          pass
          pure (Node.empty {})
        else node steps false false
      let value ←
        if ← passIf .value then nodeUnless steps false false [.comma, .flowSequenceEnd]
        else pure (Node.empty {})
      pure (.mapping {} [(key, value)])

/-- Reads the keys and values of a mapping in brackets, up to its end. -/
def flowEntries : Nat → Composer (List (Node × Node))
  | 0 => failure
  | steps + 1 => do
      if ← passIf .flowMappingEnd then pure []
      else
        let entry ← flowEntry steps
        if ← passIf .comma then pure (entry :: (← flowEntries steps))
        else if ← passIf .flowMappingEnd then pure [entry]
        else failure

/-- Reads a key and its value in brackets. Without a colon behind it a key has no value. -/
def flowEntry : Nat → Composer (Node × Node)
  | 0 => failure
  | steps + 1 => do
      if ← passIf .key then
        let key ← nodeUnless steps false false [.value, .comma, .flowMappingEnd]
        let value ←
          if ← passIf .value then nodeUnless steps false false [.comma, .flowMappingEnd]
          else pure (Node.empty {})
        pure (key, value)
      else pure (← node steps false false, Node.empty {})

end

/-! ### Documents -/

/-- Reads the directives of a document. None of them comes twice. -/
def directives : Nat → (hasVersion : Bool) → List (String × List UInt8) →
    Composer (List (String × List UInt8))
  | 0, _, _ => failure
  | steps + 1, hasVersion, handles => do
      match ← peek with
      | some (.version major minor) =>
          pass
          if hasVersion || major != 1 || (minor != 1 && minor != 2) then failure
          else directives steps true handles
      | some (.handle name start) =>
          pass
          if (handles.lookup name).isSome then failure
          else directives steps hasVersion (handles ++ [(name, start)])
      | _ => pure handles

/-- Whether a token belongs to the start or the end of a document. -/
def isOutside : Token → Bool
  | .documentStart => true
  | .documentEnd => true
  | .version _ _ => true
  | .handle _ _ => true
  | _ => false

/-- Whether a document ends here. -/
def isAtEnd : Composer Bool := do
  match ← peek with
  | none => pure true
  | some token => pure (isOutside token)

/-- Reads what follows the dashes of a document. -/
def content (steps : Nat) : Composer Node := do
  if ← isAtEnd then pure (Node.empty {}) else node steps true false

/-- Reads a document that starts with directives and dashes. -/
def markedDocument (steps : Nat) : Composer Node := do
  let handles ← directives steps false []
  modify fun state =>
    { state with names := [], nameCount := 0, handles := handles ++ commonHandles }
  if ← passIf .documentStart then content steps else failure

/-- Reads the documents behind the first one. -/
def laterDocuments : Nat → Composer (List Node)
  | 0 => failure
  | steps + 1 => do
      match ← peek with
      | none => pure []
      | some .documentEnd =>
          pass
          laterDocuments steps
      | _ => do
          let document ← markedDocument steps
          pure (document :: (← laterDocuments steps))

/-- Reads the documents of a text. A text without tokens has one, which is empty. -/
def documents (steps : Nat) : Composer (List Node) := do
  match ← peek with
  | none => pure [Node.empty {}]
  | some token =>
      let first ←
        if isOutside token && token != .documentEnd then markedDocument steps
        else node steps true false
      pure (first :: (← laterDocuments steps))

end Composer

/-- The documents that tokens make up. -/
def Node.ofTokens? (tokens : List Token) : Option (List Node) :=
  ((Composer.documents (4 * tokens.length + 4)).run { tokens }).map Prod.fst

end ClusterHosts.Yaml
