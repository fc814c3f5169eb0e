import ClusterHosts.Binary64
import ClusterHosts.Yaml.Composition
import ClusterHosts.Yaml.Layout
import ClusterHosts.Yaml.Scalar

/-! # YAML values

What a YAML document says. A value may have a name of its own, its tag. The keys of a mapping are
values, no two of which are the same.
-/

namespace ClusterHosts.Yaml

/-- A YAML value. -/
inductive Data where
  | null
  | truth (value : Bool)
  | integer (value : Int)
  | decimal (value : Binary64)
  | text (value : String)
  | sequence (items : List Data)
  | mapping (entries : List (Data × Data))
  | tagged (name : String) (value : Data)
  deriving Inhabited

namespace Data

mutual

/-- Whether two values are the same. A decimal number is never the same as an integer, and the order
of entries does not matter. -/
def isSame : Data → Data → Bool
  | .null, .null => true
  | .truth first, .truth second => first == second
  | .integer first, .integer second => first == second
  | .decimal first, .decimal second => first.isSame second
  | .text first, .text second => first == second
  | .sequence first, .sequence second => areSame first second
  | .mapping first, .mapping second => first.length == second.length && areIn first second
  | .tagged name value, .tagged otherName otherValue =>
      name == otherName && value.isSame otherValue
  | _, _ => false

/-- Whether two lists have the same values. -/
def areSame : List Data → List Data → Bool
  | [], [] => true
  | first :: rest, other :: others => first.isSame other && areSame rest others
  | _, _ => false

/-- Whether all entries are among others. -/
def areIn : List (Data × Data) → List (Data × Data) → Bool
  | [], _ => true
  | (key, value) :: rest, others =>
      others.any (fun other => key.isSame other.1 && value.isSame other.2) && areIn rest others

end

/-- The value without its tag. -/
def untagged : Data → Data
  | .tagged _ value => value.untagged
  | data => data

/-- The text, if the value is one. -/
def text? (data : Data) : Option String :=
  match data.untagged with
  | .text value => some value
  | _ => none

/-- The items of a sequence. Nothing is taken for a sequence without items. -/
def items? (data : Data) : Option (List Data) :=
  match data.untagged with
  | .sequence items => some items
  | .null => some []
  | _ => none

/-- The entries of a mapping. Nothing is taken for a mapping without entries. -/
def entries? (data : Data) : Option (List (Data × Data)) :=
  match data.untagged with
  | .mapping entries => some entries
  | .null => some []
  | _ => none

/-- The values behind keys that are a text. -/
def members (name : String) (data : Data) : List Data :=
  ((data.entries?.getD []).filter fun entry => entry.1.text? == some name).map Prod.snd

/-- The first value behind a key that is a text. -/
def member? (name : String) (data : Data) : Option Data := (data.members name).head?

end Data

/-! ## The meaning of YAML nodes

The value that a document says. References are replaced by what they lead to; how often this happens
is bounded by the size of the document, and how deep collections lie in each other is bounded as
well, so that a value that refers to itself has no meaning. A mapping in which a key comes twice has
none, either.
-/

/-- How deep collections may lie in each other. -/
def maximalDepth : Nat := 128

/-- How often the references of a document may be followed for each mark in it. -/
def followingsPerMark : Nat := 100

/-- A reader of nodes. It counts how often references may still be followed. -/
abbrev Follower := StateT Nat Option

namespace Data

/-! ### Scalars -/

/-- An integer, if it has at most 64 bits. -/
def ofInteger? (value : Int) : Option Data :=
  if -(Nat.pow 2 63 : Nat) ≤ value ∧ value < (Nat.pow 2 64 : Nat) then some (.integer value)
  else none

/-- What a scalar without quotes or tag says. -/
def ofPlain? (text : String) : Option Data :=
  match Plain.ofText text with
  | .null => some .null
  | .truth value => some (.truth value)
  | .integer value => ofInteger? value
  | .decimal value => some (.decimal value)
  | .text => some (.text text)

/-- What a scalar without a tag says. -/
def ofUntagged? (isPlain : Bool) (text : String) : Option Data :=
  if isPlain then ofPlain? text else some (.text text)

/-- A name for a value. It must not be empty; an exclamation mark in front of it does not count. -/
def ofName? (name : String) (value : Data) : Option Data :=
  match name.toList with
  | [] => none
  | '!' :: c :: cs => some (.tagged (String.ofList (c :: cs)) value)
  | _ => some (.tagged name value)

/-- What a scalar says. A tag that says what it is overrides its quotes. -/
def ofScalar? (tag : Option Tag) (isPlain : Bool) (text : String) : Option Data :=
  match tag with
  | none => ofUntagged? isPlain text
  | some .unreadable => ofUntagged? isPlain text
  | some (.named name) => (ofUntagged? isPlain text).bind (ofName? name)
  | some .null => if Plain.nullTexts.contains text then some .null else none
  | some .truth => (Plain.truth? text).map .truth
  | some .integer => (Plain.integer? text.toList).bind ofInteger?
  | some .decimal => (Plain.decimalValue? text).map .decimal
  | some .other => some (.text text)

/-! ### Collections -/

/-- The value of a collection with the tag of its node. -/
def ofTag? (tag : Option Tag) (value : Data) : Option Data :=
  match tag with
  | some (.named name) => ofName? name value
  | _ => some value

/-- The entries of a mapping with one more at the end, unless its key is there. -/
def addMember? (entries : List (Data × Data)) (key value : Data) : Option (List (Data × Data)) :=
  if entries.any fun entry => entry.1.isSame key then none else some (entries ++ [(key, value)])

/-- Whether a tag is a name. -/
def isNamed : Option Tag → Bool
  | some (.named _) => true
  | _ => false

/-- Counts that a reference is followed. -/
def countFollowing : Follower Unit := do
  match ← get with
  | 0 => failure
  | remaining + 1 => set remaining

mutual

/-- The value of a node, with collections of a depth in it at most. The tag of a node counts for
nothing behind another one. -/
def ofNode (target : Nat → Option Node) (depth : Nat) (isTagged : Bool) : Node → Follower Data
  | .scalar properties isPlain content =>
      liftM (ofScalar? (if isTagged then none else properties.tag) isPlain content)
  | .sequence properties items =>
      match depth with
      | 0 => failure
      | depth + 1 => do
          let items ← ofItems target depth items
          liftM (ofTag? (if isTagged then none else properties.tag) (.sequence items))
  | .mapping properties entries =>
      match depth with
      | 0 => failure
      | depth + 1 => do
          let tag := if isTagged then none else properties.tag
          let entries ← ofEntries target depth (isTagged || isNamed tag) [] entries
          liftM (ofTag? tag (.mapping entries))
  | .reference number => do
      countFollowing
      match target number with
      | none => failure
      | some (.reference _) => failure
      | some (.scalar properties isPlain content) =>
          liftM (ofScalar? properties.tag isPlain content)
      | some (.sequence properties items) =>
          match depth with
          | 0 => failure
          | depth + 1 => do
              let items ← ofItems target depth items
              liftM (ofTag? properties.tag (.sequence items))
      | some (.mapping properties entries) =>
          match depth with
          | 0 => failure
          | depth + 1 => do
              let entries ← ofEntries target depth (isNamed properties.tag) [] entries
              liftM (ofTag? properties.tag (.mapping entries))
termination_by node => (depth, sizeOf node)

/-- The values of items. -/
def ofItems (target : Nat → Option Node) (depth : Nat) : List Node → Follower (List Data)
  | [] => pure []
  | item :: items => do
      let first ← ofNode target depth false item
      pure (first :: (← ofItems target depth items))
termination_by items => (depth, sizeOf items)

/-- The entries of a mapping, behind others. If the mapping has a name, the tags of its keys count
for nothing. -/
def ofEntries (target : Nat → Option Node) (depth : Nat) (isNamed : Bool)
    (before : List (Data × Data)) : List (Node × Node) → Follower (List (Data × Data))
  | [] => pure before
  | (key, value) :: entries => do
      let key ← ofNode target depth isNamed key
      let value ← ofNode target depth false value
      let before ← liftM (addMember? before key value)
      ofEntries target depth isNamed before entries
termination_by entries => (depth, sizeOf entries)

end

/-- The value of a document. -/
def ofDocument? (document : Node) : Option Data :=
  ((ofNode document.target? maximalDepth false document).run
    (followingsPerMark * document.size)).map Prod.fst

end Data

/-! ## Reading YAML

The documents of a YAML text. A text with a mistake in any of its documents has none.
-/

/-- The characters behind a mark of the encoding. -/
def dropMark : List Char → List Char
  | '\ufeff' :: cs => cs
  | cs => cs

/-- The documents of a text, unless it is not YAML. -/
def documents? (text : String) : Option (List Data) := do
  let cs := dropMark text.toList
  if !cs.all isAllowed then none
  else
    let tokens ← tokens? (normalizeBreaks cs)
    let documents ← Node.ofTokens? tokens
    documents.mapM Data.ofDocument?

/-! ## Forms of YAML values

A form says which values a reader takes. Tags of values do not count, but a value with a tag is
there even if it says nothing. The keys of a record are texts; a record may have keys that the form
does not name, and those that it names come once. Nothing can stand for a collection without items
or entries.
-/

/-- What a reader takes. -/
inductive Form where
  | text
  /-- One of some texts, or nothing with one of them as its tag. -/
  | choice (texts : List String)
  | truth
  /-- What JSON can say: keys are texts, and there are no tags but those of keys. -/
  | json
  /-- A value of a form, or nothing in its place. -/
  | nullable (form : Form)
  | sequence (item : Form)
  /-- Values by texts. -/
  | mapping (value : Form)
  /-- Named fields; each says whether it must be there. -/
  | record (fields : List (String × Bool × Form))
  deriving Inhabited

namespace Data

mutual

/-- Whether JSON can say a value. -/
def isJson : Data → Bool
  | .tagged _ _ => false
  | .sequence items => areJson items
  | .mapping entries => haveJson entries
  | _ => true

/-- Whether JSON can say all values of a list. -/
def areJson : List Data → Bool
  | [] => true
  | item :: items => item.isJson && areJson items

/-- Whether JSON can say all entries of a list. -/
def haveJson : List (Data × Data) → Bool
  | [] => true
  | (key, value) :: entries => key.text?.isSome && value.isJson && haveJson entries

end

/-- Whether all keys of a mapping are texts. -/
def hasTextKeys (data : Data) : Bool :=
  match data.entries? with
  | some entries => entries.all fun entry => entry.1.text?.isSome
  | none => false

/-- Whether a value is one of some texts, or nothing with one of them as its tag. -/
def isChoice (texts : List String) : Data → Bool
  | .text value => texts.contains value
  | .tagged name .null => texts.contains name
  | _ => false

/-- Whether a value is a truth value. -/
def isTruth (data : Data) : Bool :=
  match data.untagged with
  | .truth _ => true
  | _ => false

/-- Whether nothing is there, not even a tag. -/
def isNull : Data → Bool
  | .null => true
  | _ => false

end Data

namespace Form

/-- A field that may be missing or nothing. -/
def optionalField (name : String) (form : Form) : String × Bool × Form :=
  (name, false, .nullable form)

/-- A field that may be missing, but not nothing. -/
def presetField (name : String) (form : Form) : String × Bool × Form := (name, false, form)

/-- A field that must be there. -/
def requiredField (name : String) (form : Form) : String × Bool × Form := (name, true, form)

mutual

/-- Whether a value is of a form. -/
def fits : Form → Data → Bool
  | .text, data => data.text?.isSome
  | .choice texts, data => data.isChoice texts
  | .truth, data => data.isTruth
  | .json, data => data.isJson
  | .nullable form, data => data.isNull || form.fits data
  | .sequence item, data =>
      match data.items? with
      | some items => items.all fun data => item.fits data
      | none => false
  | .mapping value, data =>
      data.hasTextKeys && (data.entries?.getD []).all fun entry => value.fits entry.2
  | .record fields, data => data.hasTextKeys && fitsFields fields data

/-- Whether the fields of a value are of their forms. -/
def fitsFields : List (String × Bool × Form) → Data → Bool
  | [], _ => true
  | (name, required, form) :: fields, data =>
      (match data.members name with
        | [] => !required
        | [value] => form.fits value
        | _ => false) && fitsFields fields data

end

end Form

end ClusterHosts.Yaml
