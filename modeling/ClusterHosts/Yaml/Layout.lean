import ClusterHosts.Text.Basic
import ClusterHosts.Yaml.Flowing
import ClusterHosts.Yaml.Scalar

/-! # YAML tokens

A text is divided into tokens by its marks and its indentation. -/

namespace ClusterHosts.Yaml

/-! ## Tokens of YAML texts

The parts that a YAML text is read in. Where the layout of a text opens or closes a collection, a
token stands for that.
-/

/-- A part of a text. -/
inductive Token where
  /-- A document starts. -/
  | documentStart
  /-- A document ends. -/
  | documentEnd
  /-- The version of YAML that a document is written in. -/
  | version (major minor : Nat)
  /-- What a short form for tags stands for. -/
  | handle (name : String) (start : List UInt8)
  /-- A sequence starts whose items stand in lines. -/
  | blockSequence
  /-- A mapping starts whose keys stand in lines. -/
  | blockMapping
  /-- A sequence or a mapping in lines ends. -/
  | blockEnd
  /-- A sequence in brackets starts. -/
  | flowSequence
  /-- A sequence in brackets ends. -/
  | flowSequenceEnd
  /-- A mapping in brackets starts. -/
  | flowMapping
  /-- A mapping in brackets ends. -/
  | flowMappingEnd
  /-- A comma between values in brackets. -/
  | comma
  /-- An item of a sequence in lines follows. -/
  | item
  /-- A key follows. -/
  | key
  /-- The value of a key follows. -/
  | value
  /-- The name of the value that follows. -/
  | anchor (name : String)
  /-- The name of a value that stands elsewhere. -/
  | reference (name : String)
  /-- The tag of the value that follows: a short form and what comes behind it. -/
  | tag (handle : String) (suffix : List UInt8)
  | scalar (isPlain : Bool) (text : String)
  deriving DecidableEq

/-! ## Names, tags and directives

Reading the tokens that say something about values or documents: anchors and references to them,
tags, and the directives in front of a document. Tags are made of the characters of addresses, with
all others as the hexadecimal digits of their bytes.
-/

/-- The characters of names. -/
def isNameChar (c : Char) : Bool := c.isAlphanum || c == '_' || c == '-'

/-! ### Anchors -/

/-- Whether a name may end here. -/
def endsName : List Char → Bool
  | [] => true
  | c :: cs => endsWord (c :: cs) ||
      ['?', ':', ',', ']', '\x7d', '%', '@', '\x60'].contains c

/-- Reads the name of a value behind the character that starts it. -/
def readName? (cs : List Char) : Option String :=
  let name := cs.takeWhile isNameChar
  if name.isEmpty || !endsName (cs.drop name.length) then none else some (String.ofList name)

/-! ### Characters of tags -/

/-- The characters that a tag may have; some only where no comma or bracket can end it. -/
def isTagChar (isEnclosed : Bool) (c : Char) : Bool :=
  isNameChar c ||
    [';', '/', '?', ':', '@', '&', '=', '+', '$', '.', '!', '~', '*', '\'', '(', ')'].contains c ||
    (isEnclosed && [',', '[', ']'].contains c)

/-- The number of bytes that follow the first byte of a character. -/
def followers? (byte : Nat) : Option Nat :=
  if byte < 0x80 then some 0
  else if 0xC0 ≤ byte ∧ byte < 0xE0 then some 1
  else if 0xE0 ≤ byte ∧ byte < 0xF0 then some 2
  else if 0xF0 ≤ byte ∧ byte < 0xF8 then some 3
  else none

/-- How many bytes of a character are missing behind a byte, if the byte may stand there. -/
def missingAfter? (missing byte : Nat) : Option Nat :=
  if missing = 0 then followers? byte
  else if 0x80 ≤ byte ∧ byte < 0xC0 then some (missing - 1)
  else none

/-- Reads the bytes of a tag. A number of bytes of a character may be missing from before. -/
def tagBytes? (isEnclosed : Bool) (missing : Nat) : List Char → Option (List UInt8 × List Char)
  | '%' :: high :: low :: cs => do
      let byte ← Text.inBase? 16 [high, low]
      let missing ← missingAfter? missing byte
      let (bytes, rest) ← tagBytes? isEnclosed missing cs
      pure (UInt8.ofNat byte :: bytes, rest)
  | [] => if missing = 0 then some ([], []) else none
  | c :: cs =>
      if missing ≠ 0 ∨ c = '%' then none
      else if isTagChar isEnclosed c then
        (tagBytes? isEnclosed 0 cs).map fun (bytes, rest) => (UInt8.ofNat c.toNat :: bytes, rest)
      else some ([], c :: cs)

/-- Reads one or more bytes of a tag. A byte of zero ends it, but the others are read. -/
def someTagBytes? (isEnclosed : Bool) (cs : List Char) : Option (List UInt8 × List Char) := do
  let (bytes, rest) ← tagBytes? isEnclosed 0 cs
  if bytes.isEmpty then none else pure (bytes.takeWhile (· != 0), rest)

/-! ### Tags -/

/-- The bytes of a text. -/
def bytesOf (cs : List Char) : List UInt8 := (String.ofList cs).toUTF8.toList

/-- A tag without a short form. The exclamation mark alone has none. -/
def shortTag (suffix : List UInt8) : Token :=
  if suffix.isEmpty then .tag "" (bytesOf ['!']) else .tag "!" suffix

/-- Reads a tag behind its exclamation mark: between angle brackets, behind a short form, or
alone. -/
def readTagBody? : List Char → Option (Token × List Char)
  | '<' :: cs => do
      match ← someTagBytes? true cs with
      | (bytes, '>' :: rest) => pure (.tag "" bytes, rest)
      | _ => none
  | cs =>
      let name := cs.takeWhile isNameChar
      match cs.drop name.length with
      | '!' :: cs => do
          let (bytes, rest) ← someTagBytes? false cs
          pure (.tag (String.ofList ('!' :: (name ++ ['!']))) bytes, rest)
      | cs => do
          let (bytes, rest) ← tagBytes? false 0 cs
          pure (shortTag ((bytesOf name ++ bytes).takeWhile (· != 0)), rest)

/-- Reads a tag behind its exclamation mark. It must end there. -/
def readTag? (inFlow : Bool) (cs : List Char) : Option (Token × List Char) := do
  let (tag, rest) ← readTagBody? cs
  if endsWord rest || (inFlow && rest.head? == some ',') then pure (tag, rest) else none

/-! ### Directives -/

/-- Reads a number of at most nine digits. -/
def readShortNumber? (cs : List Char) : Option (Nat × List Char) :=
  let digits := cs.takeWhile Char.isDigit
  if digits.length ≤ 9 then (Text.natural? digits).map fun n => (n, cs.drop digits.length) else none

/-- Reads the version behind the name of its directive. -/
def readVersion? (cs : List Char) : Option (Token × List Char) := do
  match ← readShortNumber? (cs.dropWhile isGap) with
  | (major, '.' :: cs) =>
      let (minor, rest) ← readShortNumber? cs
      pure (.version major minor, rest)
  | _ => none

/-- Reads a short form for tags: one or two exclamation marks, or a name between two. -/
def readHandle? : List Char → Option (List Char × List Char)
  | '!' :: cs =>
      let name := cs.takeWhile isNameChar
      match cs.drop name.length with
      | '!' :: rest => some ('!' :: (name ++ ['!']), rest)
      | rest => if name.isEmpty then some (['!'], rest) else none
  | _ => none

/-- Reads a short form for tags and what it stands for, behind the name of the directive. -/
def readHandleMeaning? (cs : List Char) : Option (Token × List Char) := do
  match ← readHandle? (cs.dropWhile isGap) with
  | (name, c :: cs) =>
      if isGap c then
        let (bytes, rest) ← someTagBytes? true (cs.dropWhile isGap)
        if endsWord rest then pure (.handle (String.ofList name) bytes, rest) else none
      else none
  | _ => none

/-- Passes over the rest of a line, which may have a comment, and over its line break. -/
def passLine? (cs : List Char) : Option (List Char) :=
  match cs.dropWhile isGap with
  | [] => some []
  | c :: cs =>
      if c = '#' then some ((cs.dropWhile fun c => !isBreak c).drop 1)
      else if isBreak c then some cs
      else none

/-- Reads a directive behind its percent sign, with the rest of its line. -/
def readDirective? (cs : List Char) : Option (Token × List Char) := do
  let name := cs.takeWhile isNameChar
  let rest := cs.drop name.length
  if !endsWord rest then none
  else
    let (token, rest) ←
      if name = "YAML".toList then readVersion? rest
      else if name = "TAG".toList then readHandleMeaning? rest
      else none
    pure (token, ← passLine? rest)

/-! ## Blocks of lines

A block of lines is a text that is indented below a header. The header says whether the lines stand
as they are or are folded into paragraphs, how many line breaks are kept at the end, and perhaps how
far the lines are indented.
-/

/-- Which line breaks are kept at the end of a block. -/
inductive Chomping where
  | strip
  | clip
  | keep
  deriving DecidableEq

/-- The header of a block. -/
structure BlockHeader where
  isFolded : Bool
  chomping : Chomping := .clip
  indentation : Option Nat := none

namespace BlockHeader

/-- Whether nothing but blanks and a comment are on the rest of a line. -/
def isOver (cs : List Char) : Bool :=
  match cs.dropWhile isGap with
  | [] => true
  | c :: _ => c == '#'

/-- Reads what may stand in a header behind its first character. -/
def read (header : BlockHeader) : List Char → Option BlockHeader
  | [] => some header
  | c :: cs =>
      if c = '+' ∧ header.chomping = .clip then { header with chomping := .keep }.read cs
      else if c = '-' ∧ header.chomping = .clip then { header with chomping := .strip }.read cs
      else if '1' ≤ c ∧ c ≤ '9' ∧ header.indentation.isNone then
        { header with indentation := some (c.toNat - '0'.toNat) }.read cs
      else if isOver (c :: cs) then some header
      else none

end BlockHeader

/-! ### Lines -/

/-- A line, and the line break behind it, which the last line of a text does not have. -/
structure Line where
  content : List Char
  ending : Option Char

/-- The lines of a text. There is none behind the last line break. -/
def lines : List Char → List Line
  | [] => []
  | c :: cs =>
      if isBreak c then ⟨[], some c⟩ :: lines cs
      else match lines cs with
        | [] => [⟨[c], none⟩]
        | line :: rest => ⟨c :: line.content, line.ending⟩ :: rest

namespace Line

/-- The number of characters with the line break. -/
def size (line : Line) : Nat := line.content.length + line.ending.toList.length

/-- The number of spaces at the start. -/
def indentation (line : Line) : Nat := (line.content.takeWhile (· == ' ')).length

/-- Whether there are no more than spaces before the line break. -/
def isBlank (line : Line) : Bool := line.ending.isSome && line.content.all (· == ' ')

/-- Whether a tab stands behind the spaces at the start. -/
def hasTab (line : Line) : Bool := line.content[line.indentation]? == some '\t'

/-- Whether the line is part of a block with an indentation. -/
def isInside (indent : Nat) (line : Line) : Bool :=
  line.isBlank || (indent ≤ line.indentation && indent < line.content.length)

end Line

/-! ### Indentation -/

/-- How far the lines of a block are indented, if its header does not say so: as far as the first
that is not blank or as the longest blank one before it, but more than what is around the block. The
first line that is not blank cannot start with a tab. -/
def detectedIndentation? (parent : Int) (block : List Line) : Option Nat :=
  let blank := block.takeWhile Line.isBlank
  let next := (block.drop blank.length).head?
  let first := (next.map Line.indentation).getD 0
  let longest := (blank.map fun line => line.content.length).foldl max first
  if next.any Line.hasTab then none else some (max longest (max 1 (parent + 1).toNat))

/-- The indentation of the lines of a block. -/
def BlockHeader.indentation? (header : BlockHeader) (parent : Int) (block : List Line) :
    Option Nat :=
  match header.indentation with
  | some count => some ((max parent 0).toNat + count)
  | none => detectedIndentation? parent block

/-! ### The text of a block -/

/-- The text of a block so far. -/
structure BlockText where
  /-- The parts that the text is put together from, the last first. -/
  parts : List (List Char) := []
  /-- The line break behind the last line that is not empty. -/
  lineBreak : List Char := []
  /-- The line breaks of the empty lines behind it. -/
  emptyLines : List Char := []
  /-- Whether the last line that is not empty starts with a blank. -/
  startsWithGap : Bool := false

namespace BlockText

/-- Whether a line starts with a blank. -/
def isGapped (content : List Char) : Bool :=
  match content with
  | c :: _ => isGap c
  | [] => false

/-- The text with one more line. In a folded block a line feed between two lines that do not start
with blanks stands for a space, or for nothing before an empty line. -/
def addLine (isFolded : Bool) (block : BlockText) (line : Line) : BlockText :=
  if line.content.isEmpty then
    { block with emptyLines := block.emptyLines ++ line.ending.toList }
  else
    let isJoined := isFolded && block.lineBreak == ['\n'] && !block.startsWithGap &&
      !isGapped line.content
    let space :=
      if !isJoined then block.lineBreak else if block.emptyLines.isEmpty then [' '] else []
    ⟨(space ++ (block.emptyLines ++ line.content)) :: block.parts, line.ending.toList, [],
      isGapped line.content⟩

/-- The text without the line breaks at its end. -/
def text (block : BlockText) : List Char := block.parts.reverse.flatten

/-- The text with the line breaks at its end that are kept. -/
def chomp (block : BlockText) : Chomping → List Char
  | .strip => block.text
  | .clip => block.text ++ block.lineBreak
  | .keep => block.text ++ (block.lineBreak ++ block.emptyLines)

end BlockText

/-- Reads a block behind the character that starts its header: its text, and how many characters it
takes with the spaces in front of what follows. A line behind it cannot be indented by a tab. -/
def readBlock? (parent : Int) (isFolded : Bool) (cs : List Char) : Option (String × Nat) :=
  match lines cs with
  | [] => some ("", 0)
  | first :: block => do
      let header ← BlockHeader.read { isFolded } first.content
      let indent ← header.indentation? parent block
      let inside := block.takeWhile (Line.isInside indent)
      let next := (block.drop inside.length).head?
      let length := inside.foldl (fun length line => length + line.size) first.size +
        min indent ((next.map Line.indentation).getD 0)
      let cut := inside.map fun line => { line with content := line.content.drop indent }
      let text := cut.foldl (BlockText.addLine header.isFolded) {}
      if next.any fun line => line.hasTab && line.indentation < indent then none
      else pure (String.ofList (text.chomp header.chomping), length)

/-! ## The layout of YAML texts

The tokens of a text. Outside of brackets the columns of keys and items open and close collections.
A key is known by the colon behind it, so that the place of what may be a key is kept until the
colon comes; the key must be on one line and not be too long.
-/

/-- The place of what may be a key. -/
structure KeyPlace where
  /-- It stands where a key must stand. -/
  isRequired : Bool
  /-- How many tokens are before it. -/
  index : Nat
  line : Nat
  column : Nat

/-- The most characters that a key may have, with the blanks before its colon. -/
def maximalKeyLength : Nat := 1024

/-- Whether what stands at a place can be no key any more. -/
def KeyPlace.isStale (place : KeyPlace) (cursor : Cursor) : Bool :=
  place.line < cursor.line || place.column + maximalKeyLength < cursor.column

/-- How far the tokens of a text are read. -/
structure Layout where
  cursor : Cursor
  tokens : Array Token := #[]
  /-- The columns of the collections in lines that are open, the innermost first. -/
  columns : List Nat := []
  /-- What may be a key outside of brackets, or in the innermost ones. -/
  key : Option KeyPlace := none
  /-- What may be a key around each pair of brackets that is open. -/
  outerKeys : List (Option KeyPlace) := []
  /-- Whether a key may stand here. -/
  allowsKey : Bool := true

namespace Layout

/-- Whether the place is in brackets. -/
def inFlow (layout : Layout) : Bool := !layout.outerKeys.isEmpty

/-- The column of the innermost collection in lines; it is -1 outside of all. -/
def indentation (layout : Layout) : Int :=
  match layout.columns with
  | [] => -1
  | column :: _ => column

/-- The layout with one more token. -/
def add (layout : Layout) (token : Token) : Layout :=
  { layout with tokens := layout.tokens.push token }

/-- The layout with one more token of a number of characters. -/
def addMark (layout : Layout) (token : Token) (length : Nat) : Layout :=
  { layout.add token with cursor := layout.cursor.behind length }

/-! ### Keys -/

/-- The layout in which nothing before is a key any more, unless it must be one. -/
def forgetKey? (layout : Layout) : Option Layout :=
  if layout.key.any KeyPlace.isRequired then none else some { layout with key := none }

/-- The layout in which the next token may be a key, if a key may stand here. -/
def keepKey? (layout : Layout) : Option Layout :=
  if layout.allowsKey then do
    let next ← layout.forgetKey?
    pure { next with
      key := some {
        isRequired := !layout.inFlow && layout.indentation == layout.cursor.column
        index := layout.tokens.size
        line := layout.cursor.line
        column := layout.cursor.column } }
  else some layout

/-- Forgets a key that is stale, unless it is required. -/
def freshKey? (cursor : Cursor) : Option KeyPlace → Option (Option KeyPlace)
  | none => some none
  | some place =>
      if !place.isStale cursor then some (some place)
      else if place.isRequired then none
      else some none

/-- The layout without the keys that are stale. -/
def forgetStaleKeys? (layout : Layout) : Option Layout := do
  let key ← freshKey? layout.cursor layout.key
  let outerKeys ← layout.outerKeys.mapM (freshKey? layout.cursor)
  pure { layout with key, outerKeys }

/-! ### Collections in lines -/

/-- Opens a collection at a column, unless it is open or the place is in brackets. Its token stands
behind a number of others. -/
def openAt (layout : Layout) (column index : Nat) (token : Token) : Layout :=
  if layout.inFlow || (column : Int) ≤ layout.indentation then layout
  else { layout with
    columns := column :: layout.columns
    tokens := layout.tokens.insertIdxIfInBounds index token }

/-- Closes the collections that are further to the right than a column, outside of brackets. -/
def closeTo (layout : Layout) (column : Int) : Layout :=
  if layout.inFlow then layout
  else
    let closed := layout.columns.takeWhile fun (other : Nat) => column < (other : Int)
    { layout with
      columns := layout.columns.drop closed.length
      tokens := layout.tokens ++ (closed.map fun _ => Token.blockEnd) }

/-! ### Tokens -/

/-- A token of a number of characters that stands between documents. -/
def addMarker? (layout : Layout) (token : Token) (length : Nat) : Option Layout := do
  let layout ← (layout.closeTo (-1)).forgetKey?
  pure { layout.addMark token length with allowsKey := false }

/-- Opens brackets. What they enclose may be a key. -/
def openFlow? (layout : Layout) (token : Token) : Option Layout := do
  let layout ← layout.keepKey?
  pure { layout.addMark token 1 with
    key := none, outerKeys := layout.key :: layout.outerKeys, allowsKey := true }

/-- Closes brackets. -/
def closeFlow? (layout : Layout) (token : Token) : Option Layout := do
  let layout ← layout.forgetKey?
  let layout := { layout.addMark token 1 with allowsKey := false }
  pure <| match layout.outerKeys with
    | [] => layout
    | key :: outerKeys => { layout with key, outerKeys }

/-- A comma in brackets. -/
def addComma? (layout : Layout) : Option Layout := do
  let layout ← layout.forgetKey?
  pure { layout.addMark .comma 1 with allowsKey := true }

/-- Opens a collection at a mark outside of brackets, where a key must be allowed. -/
def openAtMark? (layout : Layout) (token : Token) : Option Layout :=
  if layout.inFlow then some layout
  else if layout.allowsKey then
    some (layout.openAt layout.cursor.column layout.tokens.size token)
  else none

/-- The dash of an item. -/
def addItem? (layout : Layout) : Option Layout := do
  let layout ← (← layout.openAtMark? .blockSequence).forgetKey?
  pure { layout.addMark .item 1 with allowsKey := true }

/-- The question mark before a key. -/
def addKey? (layout : Layout) : Option Layout := do
  let layout ← (← layout.openAtMark? .blockMapping).forgetKey?
  pure { layout.addMark .key 1 with allowsKey := !layout.inFlow }

/-- The colon before a value. What may be a key becomes one; without one the key is behind a
question mark or missing. -/
def addValue? (layout : Layout) : Option Layout :=
  match layout.key with
  | some place =>
      let layout := { layout with
        tokens := layout.tokens.insertIdxIfInBounds place.index .key
        key := none
        allowsKey := false }
      some ((layout.openAt place.column place.index .blockMapping).addMark .value 1)
  | none => do
      let layout ← layout.openAtMark? .blockMapping
      pure { layout.addMark .value 1 with allowsKey := !layout.inFlow }

/-- A token of a number of characters that may be a key or stand before one. -/
def addPart? (layout : Layout) (token : Token) (length : Nat) : Option Layout := do
  let layout ← layout.keepKey?
  pure { layout.addMark token length with allowsKey := false }

/-- The name of a value behind the character that starts it. -/
def addName? (layout : Layout) (token : String → Token) (cs : List Char) : Option Layout := do
  let name ← readName? cs
  layout.addPart? (token name) (name.length + 1)

/-- A tag behind the character that starts it. -/
def addTag? (layout : Layout) (cs : List Char) : Option Layout := do
  let (tag, rest) ← readTag? layout.inFlow cs
  layout.addPart? tag (cs.length + 1 - rest.length)

/-- A block of lines behind the character that starts its header. -/
def addBlock? (layout : Layout) (isFolded : Bool) (cs : List Char) : Option Layout := do
  let layout ← layout.forgetKey?
  let (text, length) ← readBlock? layout.indentation isFolded cs
  pure { layout.addMark (.scalar false text) (length + 1) with allowsKey := true }

/-- A text without quotes. If it ends on a new line, a key may stand there. -/
def addPlain? (layout : Layout) : Option Layout := do
  let least := (layout.indentation + 1).toNat
  let parts ← plainParts? { inFlow := layout.inFlow, least } layout.cursor.rest
  let token := Token.scalar true (textOfPieces (trimPieces parts.pieces))
  let layout ← layout.addPart? token parts.pieces.length
  pure { layout with allowsKey := parts.endsFresh }

/-- A text between quotes. -/
def addQuoted? (layout : Layout) (quoted : Option QuotedParts) : Option Layout := do
  let parts ← quoted
  layout.addPart? (.scalar false (textOfPieces parts.pieces)) (parts.length + 1)

/-- The next token, of which the first character is known. -/
def addNext? (layout : Layout) (c : Char) (cs : List Char) : Option Layout :=
  let isMark := layout.inFlow || endsWord cs
  if layout.cursor.column = 0 ∧ c = '%' then do
    let (token, rest) ← readDirective? cs
    layout.addMarker? token (cs.length + 1 - rest.length)
  else if layout.cursor.isMarker then
    layout.addMarker? (if c = '-' then .documentStart else .documentEnd) 3
  else if c = '[' then layout.openFlow? .flowSequence
  else if c = '\x7b' then layout.openFlow? .flowMapping
  else if c = ']' then layout.closeFlow? .flowSequenceEnd
  else if c = '\x7d' then layout.closeFlow? .flowMappingEnd
  else if c = ',' then layout.addComma?
  else if c = '-' ∧ endsWord cs then layout.addItem?
  else if c = '?' ∧ isMark then layout.addKey?
  else if c = ':' ∧ isMark then layout.addValue?
  else if c = '*' then layout.addName? .reference cs
  else if c = '&' then layout.addName? .anchor cs
  else if c = '!' then layout.addTag? cs
  else if (c = '|' ∨ c = '>') ∧ !layout.inFlow then layout.addBlock? (c == '>') cs
  else if c = '\'' then layout.addQuoted? (singleQuotedParts? cs)
  else if c = '"' then layout.addQuoted? (doubleQuotedParts? cs)
  else if startsPlain layout.inFlow (c :: cs) then layout.addPlain?
  else none

/-- The place of the next token. Stale keys are forgotten there, and the collections closed that are
further to the right. -/
def toToken? (layout : Layout) : Option Layout := do
  let cursor := layout.cursor
  let (allowsKey, cursor) :=
    passSpace layout.inFlow layout.allowsKey false cursor.line cursor.column cursor.rest
  let layout ← { layout with cursor, allowsKey }.forgetStaleKeys?
  pure (layout.closeTo cursor.column)

/-- The tokens at the end of the text. -/
def finish? (layout : Layout) : Option (Array Token) := do
  let layout ← (layout.closeTo (-1)).forgetKey?
  pure layout.tokens

/-- The tokens of a text of which a number of tokens at most is missing. -/
def run? : Nat → Layout → Option (Array Token)
  | 0, _ => none
  | steps + 1, layout => do
      let layout ← layout.toToken?
      match layout.cursor.rest with
      | [] => layout.finish?
      | c :: cs => run? steps (← layout.addNext? c cs)

end Layout

/-- The tokens of a text. Each has a character of its own. -/
def tokens? (text : List Char) : Option (List Token) :=
  (Layout.run? (text.length + 1) { cursor := { rest := text } }).map Array.toList

end ClusterHosts.Yaml
