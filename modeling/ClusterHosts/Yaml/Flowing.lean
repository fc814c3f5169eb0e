import ClusterHosts.Text.Basic
import ClusterHosts.Yaml.Scalar

/-! # YAML scalars in one run

Scalars that are read along a line, with or without quotes, and the breaks in them. -/

namespace ClusterHosts.Yaml

/-! ## Places in a YAML text

Where a reader of a YAML text is: what lies ahead, and in which line and column. Blanks, comments
and line breaks lie between the parts of a text. Tabs are blanks inside brackets and behind the
first part of a line, but not where they would indent a key.
-/

/-- Whether three dashes or three dots come next, which stand between documents where a line starts
with them. -/
def startsMarker : List Char → Bool
  | '-' :: '-' :: '-' :: rest => endsWord rest
  | '.' :: '.' :: '.' :: rest => endsWord rest
  | _ => false

/-- A place in a text. Lines and columns are counted from zero. -/
structure Cursor where
  rest : List Char
  line : Nat := 0
  column : Nat := 0

namespace Cursor

/-- The place behind the next character. -/
def pass (cursor : Cursor) : Cursor :=
  match cursor.rest with
  | [] => cursor
  | c :: cs =>
      if isBreak c then ⟨cs, cursor.line + 1, 0⟩ else ⟨cs, cursor.line, cursor.column + 1⟩

/-- The place behind a number of characters. -/
def behind (cursor : Cursor) (count : Nat) : Cursor := Nat.repeat pass count cursor

/-- Whether a document starts or ends here. -/
def isMarker (cursor : Cursor) : Bool := cursor.column == 0 && startsMarker cursor.rest

end Cursor

/-- Passes over blanks, comments and line breaks, and a mark of the encoding at the start of a line.
Outside of brackets a key may stand behind a line break. Tells whether one may stand here, too. -/
def passSpace (inFlow allowsKey inComment : Bool) (line column : Nat) :
    List Char → Bool × Cursor
  | [] => (allowsKey, ⟨[], line, column⟩)
  | c :: cs =>
      if isBreak c then passSpace inFlow (allowsKey || !inFlow) false (line + 1) 0 cs
      else if inComment || c == ' ' || (c == '\t' && (inFlow || !allowsKey)) ||
          (c == '\ufeff' && column == 0) then
        passSpace inFlow allowsKey inComment line (column + 1) cs
      else if c == '#' then passSpace inFlow allowsKey true line (column + 1) cs
      else (allowsKey, ⟨c :: cs, line, column⟩)

/-! ## Texts over several lines

A text without quotes or between quotes may go on over several lines. The blanks around a line break
are dropped. A single line feed stands for a space, and of several the first is dropped; other line
breaks stand for themselves.
-/

/-- A part of a text that may go on over several lines. -/
inductive Piece where
  | char (c : Char)
  /-- A blank, which is dropped beside a line break. -/
  | gap (c : Char)
  | lineBreak (c : Char)
  /-- A line break that joins two lines without a space. -/
  | joint

/-- Whether a part is no more than space between others. -/
def Piece.isSpace : Piece → Bool
  | .char _ => false
  | _ => true

/-- What stands before a place in a text: blanks on its line, or line breaks. -/
inductive Before where
  | gaps (backwards : List Char)
  /-- A line break and those behind it. -/
  | breaks (first : Char) (backwards : List Char)
  /-- Line breaks behind a joint. -/
  | jointBreaks (backwards : List Char)

/-- What the space before a place stands for, if something follows it. -/
def Before.text : Before → List Char
  | .gaps backwards => backwards.reverse
  | .jointBreaks backwards => backwards.reverse
  | .breaks first backwards =>
      if first != '\n' then first :: backwards.reverse
      else if backwards.isEmpty then [' ']
      else backwards.reverse

/-- The space before a place and a blank. -/
def Before.addGap (c : Char) : Before → Before
  | .gaps backwards => .gaps (c :: backwards)
  | other => other

/-- The space before a place and a line break. -/
def Before.addBreak (c : Char) : Before → Before
  | .gaps _ => .breaks c []
  | .breaks first backwards => .breaks first (c :: backwards)
  | .jointBreaks backwards => .jointBreaks (c :: backwards)

/-- The text that the parts stand for. -/
def fold (before : Before) : List Piece → List Char
  | [] => before.text
  | .char c :: pieces => before.text ++ c :: fold (.gaps []) pieces
  | .gap c :: pieces => fold (before.addGap c) pieces
  | .lineBreak c :: pieces => fold (before.addBreak c) pieces
  | .joint :: pieces => before.text ++ fold (.jointBreaks []) pieces

/-- The text that parts stand for. -/
def textOfPieces (pieces : List Piece) : String := String.ofList (fold (.gaps []) pieces)

/-- The parts without the space at their end. -/
def trimPieces (pieces : List Piece) : List Piece :=
  (pieces.reverse.dropWhile Piece.isSpace).reverse

/-! ## Reading scalars that flow

Reading texts without quotes, between single quotes and between double quotes. A text without quotes
ends before a colon or a comment that is set off by a blank, and inside brackets also before a comma
or a bracket. Outside of brackets it ends before a line that is not indented far enough.
-/

/-! ### Texts without quotes -/

/-- Whether a character comes next that separates the parts of something in brackets. -/
def startsMark : List Char → Bool
  | [] => false
  | c :: _ => flowMarks.contains c

/-- Whether a colon comes next that inside brackets is neither part of a text nor behind a key. -/
def startsStrayColon : List Char → Bool
  | ':' :: c :: _ => c == '?' || flowMarks.contains c
  | _ => false

/-- Whether a text without quotes can start here. -/
def startsPlain (inFlow : Bool) : List Char → Bool
  | [] => false
  | c :: cs =>
      if c = '-' then !endsWord cs
      else if c = '?' ∨ c = ':' then !inFlow && !endsWord cs
      else !isGap c && !isBreak c && !(flowMarks ++
        ['#', '&', '*', '!', '|', '>', '\'', '"', '%', '@', '\x60']).contains c

/-- Where a text without quotes is read on. -/
structure PlainPlace where
  inFlow : Bool
  /-- How far a later line must be indented outside of brackets. -/
  least : Nat
  /-- The column, if only blanks stand before it on a later line. -/
  fresh : Option Nat := none
  afterSpace : Bool := false

namespace PlainPlace

/-- The place behind a character of the text. -/
def afterChar (place : PlainPlace) : PlainPlace :=
  { place with fresh := none, afterSpace := false }

/-- The place behind a blank. A tab cannot indent a line. -/
def afterGap? (place : PlainPlace) (c : Char) : Option PlainPlace :=
  match place.fresh with
  | none => some { place with afterSpace := true }
  | some column =>
      if c == '\t' && column < place.least then none
      else some { place with fresh := some (column + 1), afterSpace := true }

/-- The place behind a line break. -/
def afterBreak (place : PlainPlace) : PlainPlace :=
  { place with fresh := some 0, afterSpace := true }

/-- Whether what comes next is not part of the text, for where it stands. -/
def isOutside (place : PlainPlace) (cs : List Char) : Bool :=
  (match place.fresh with
    | none => false
    | some column => (!place.inFlow && column < place.least) || (column == 0 && startsMarker cs)) ||
  (place.afterSpace && cs.head? == some '#')

/-- Whether what comes next ends the text, for what it is. -/
def isEnd (place : PlainPlace) : List Char → Bool
  | ':' :: cs => endsWord cs
  | cs => place.inFlow && startsMark cs

end PlainPlace

/-- The parts of a text without quotes, each of one character, and whether it ends on a new line. -/
structure PlainParts where
  pieces : List Piece
  endsFresh : Bool

/-- Parts with one more in front. -/
def PlainParts.add (piece : Piece) (parts : PlainParts) : PlainParts :=
  { parts with pieces := piece :: parts.pieces }

/-- Reads a text without quotes, with the space behind it. -/
def plainParts? (place : PlainPlace) : List Char → Option PlainParts
  | [] => some ⟨[], place.fresh.isSome⟩
  | c :: cs =>
      if isBreak c then (plainParts? place.afterBreak cs).map (.add (.lineBreak c))
      else if isGap c then
        (place.afterGap? c).bind fun next => (plainParts? next cs).map (.add (.gap c))
      else if place.isOutside (c :: cs) then some ⟨[], place.fresh.isSome⟩
      else if place.inFlow && startsStrayColon (c :: cs) then none
      else if place.isEnd (c :: cs) then some ⟨[], place.fresh.isSome⟩
      else (plainParts? place.afterChar cs).map (.add (.char c))

/-! ### Texts between quotes -/

/-- The parts of a text between quotes, and how many characters it takes with the closing quote. -/
structure QuotedParts where
  pieces : List Piece
  length : Nat

/-- Parts with one more in front, of a number of characters. -/
def QuotedParts.add (piece : Piece) (length : Nat) (parts : QuotedParts) : QuotedParts :=
  ⟨piece :: parts.pieces, length + parts.length⟩

/-- The part that a character between quotes is. -/
def Piece.ofChar (c : Char) : Piece :=
  if isBreak c then .lineBreak c else if isGap c then .gap c else .char c

/-- Reads a text up to its closing single quote. -/
def singleQuotedParts? : List Char → Option QuotedParts
  | [] => none
  | '\'' :: '\'' :: cs => (singleQuotedParts? cs).map (.add (.char '\'') 2)
  | '\'' :: _ => some ⟨[], 1⟩
  | c :: cs =>
      if isBreak c && startsMarker cs then none
      else (singleQuotedParts? cs).map (.add (.ofChar c) 1)

/-- The character that a letter behind a backslash stands for. -/
def escaped? : Char → Option Char
  | '0' => some '\x00'
  | 'a' => some '\x07'
  | 'b' => some '\x08'
  | 't' => some '\t'
  | '\t' => some '\t'
  | 'n' => some '\n'
  | 'v' => some '\x0b'
  | 'f' => some '\x0c'
  | 'r' => some '\r'
  | 'e' => some '\x1b'
  | ' ' => some ' '
  | '"' => some '"'
  | '/' => some '/'
  | '\\' => some '\\'
  | 'N' => some '\u0085'
  | '_' => some '\u00a0'
  | 'L' => some '\u2028'
  | 'P' => some '\u2029'
  | _ => none

/-- The character with a code point in hexadecimal digits. -/
def codePoint? (digits : List Char) : Option Char :=
  (Text.inBase? 16 digits).bind fun code =>
    if code.isValidChar then some (Char.ofNat code) else none

/-- Reads a text up to its closing double quote. -/
def doubleQuotedParts? : List Char → Option QuotedParts
  | [] => none
  | '"' :: _ => some ⟨[], 1⟩
  | '\\' :: 'x' :: a :: b :: cs => do
      let c ← codePoint? [a, b]
      (doubleQuotedParts? cs).map (.add (.char c) 4)
  | '\\' :: 'u' :: a :: b :: c :: d :: cs => do
      let c ← codePoint? [a, b, c, d]
      (doubleQuotedParts? cs).map (.add (.char c) 6)
  | '\\' :: 'U' :: a :: b :: c :: d :: e :: f :: g :: h :: cs => do
      let c ← codePoint? [a, b, c, d, e, f, g, h]
      (doubleQuotedParts? cs).map (.add (.char c) 10)
  | '\\' :: c :: cs =>
      if isBreak c then
        if startsMarker cs then none else (doubleQuotedParts? cs).map (.add .joint 2)
      else do
        let c ← escaped? c
        (doubleQuotedParts? cs).map (.add (.char c) 2)
  | c :: cs =>
      if isBreak c && startsMarker cs then none
      else (doubleQuotedParts? cs).map (.add (.ofChar c) 1)

end ClusterHosts.Yaml
