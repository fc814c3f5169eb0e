import ClusterHosts.Binary64
import ClusterHosts.Text.Basic

/-! # YAML scalars

The characters of YAML, what plain texts mean, and how a text is written so that it means itself. -/

namespace ClusterHosts.Yaml

/-! ## Characters of YAML texts

The classes of characters that the reading and the writing of YAML share. A text has a line break
wherever it goes on in a new line; U+2028 and U+2029 are line breaks like a line feed, but they
stand for themselves where line feeds are folded.
-/

/-- Whether a character separates words within a line. -/
def isGap (c : Char) : Bool := c == ' ' || c == '\t'

/-- Whether a character ends a line. Texts that are read have one character for each line break. -/
def isBreak (c : Char) : Bool := c == '\n' || c == '\u2028' || c == '\u2029'

/-- Whether a line break or the end comes next. -/
def endsLine : List Char → Bool
  | [] => true
  | c :: _ => isBreak c

/-- Whether a blank, a line break or the end comes next. -/
def endsWord : List Char → Bool
  | [] => true
  | c :: _ => isGap c || isBreak c

/-- The characters that a YAML text may have. -/
def isAllowed (c : Char) : Bool :=
  c == '\t' || c == '\n' || c == '\r' || (0x20 ≤ c.toNat && c.toNat ≤ 0x7E) || c == '\u0085' ||
    (0xA0 ≤ c.toNat && c.toNat ≠ 0xFFFE && c.toNat ≠ 0xFFFF)

/-- Whether a character that is written may stand for itself. -/
def isPrintable (c : Char) : Bool :=
  c == '\n' || (0x20 ≤ c.toNat && c.toNat ≤ 0x7E) ||
    (0xA0 ≤ c.toNat && c.toNat ≠ 0xFEFF && c.toNat ≠ 0xFFFE && c.toNat ≠ 0xFFFF)

/-- The characters of a text with one character for each line break. -/
def normalizeBreaks : List Char → List Char
  | [] => []
  | '\r' :: '\n' :: cs => '\n' :: normalizeBreaks cs
  | '\r' :: cs => '\n' :: normalizeBreaks cs
  | '\u0085' :: cs => '\n' :: normalizeBreaks cs
  | c :: cs => c :: normalizeBreaks cs

/-- The characters that separate the parts of something in brackets. -/
def flowMarks : List Char := [',', '[', ']', '\x7b', '\x7d']

/-! ## What a plain scalar stands for

A YAML scalar without quotes stands for nothing, a truth value or a number if it is written like
one, and otherwise for its own text. Numbers are decimal, with a fraction and an exponent if they
have one, or integers in base sixteen, eight or two. Digits behind a leading zero are a text, and so
is a number that is too large.
-/

/-- What a scalar without quotes stands for. -/
inductive Plain where
  | null
  | truth (value : Bool)
  | integer (value : Int)
  | decimal (value : Binary64)
  | text
  deriving DecidableEq

namespace Plain

/-- The ways to write nothing, apart from writing no character. -/
def nullTexts : List String := ["null", "Null", "NULL", "~"]

/-- The ways to write a truth value. -/
def truth? : String → Option Bool
  | "true" => some true
  | "True" => some true
  | "TRUE" => some true
  | "false" => some false
  | "False" => some false
  | "FALSE" => some false
  | _ => none

/-- The characters behind a sign. -/
def unsigned : List Char → List Char
  | '-' :: cs => cs
  | '+' :: cs => cs
  | cs => cs

/-- Whether the text is digits of which the first of several is a zero, with or without a sign. -/
def isZeroLed (cs : List Char) : Bool :=
  match unsigned cs with
  | '0' :: c :: cs => (c :: cs).all Char.isDigit
  | _ => false

/-- The base that a text names in front of its digits, and the digits. -/
def based? : List Char → Option (Nat × List Char)
  | '0' :: 'x' :: digits => some (16, digits)
  | '0' :: 'o' :: digits => some (8, digits)
  | '0' :: 'b' :: digits => some (2, digits)
  | _ => none

/-- Whether an integer has at most 128 bits. -/
def isBounded (value : Int) : Bool :=
  -(Nat.pow 2 127 : Nat) ≤ value && value < (Nat.pow 2 128 : Nat)

/-- The integer with a sign in front of digits. -/
def signed (cs : List Char) (size : Nat) : Int :=
  if cs.head? = some '-' then -(size : Int) else size

/-- The integer that a text stands for: digits with or without a sign, or with a named base in front
of them. It must have at most 128 bits. -/
def integer? (cs : List Char) : Option Int := do
  let size ← match based? (unsigned cs) with
    | some (base, digits) => Text.inBase? base digits
    | none => if isZeroLed cs then none else Text.natural? (unsigned cs)
  let value := signed cs size
  if isBounded value then pure value else none

/-- A decimal number: the digits of its significand, and the power of ten it is multiplied with. -/
structure Decimal where
  digits : List Char
  power : Int

/-- The exponent behind a significand, if what is there is one or nothing. -/
def exponent? : List Char → Option Int
  | [] => some 0
  | c :: cs =>
      if c = 'e' ∨ c = 'E' then Text.integer? (String.ofList cs) else none

/-- The number that digits with or without a point and an exponent stand for. -/
def decimal? (cs : List Char) : Option Decimal :=
  let whole := cs.takeWhile Char.isDigit
  let (fraction, rest) := match cs.dropWhile Char.isDigit with
    | '.' :: rest => (rest.takeWhile Char.isDigit, rest.dropWhile Char.isDigit)
    | rest => ([], rest)
  if whole.isEmpty && fraction.isEmpty then none
  else (exponent? rest).map fun exponent => ⟨whole ++ fraction, exponent - fraction.length⟩

/-- Whether a number is small enough to be rounded to a finite number of the format binary64. -/
def Decimal.isFinite (number : Decimal) : Bool :=
  let digits := number.digits.dropWhile (· == '0')
  let places : Int := digits.length + number.power
  if digits.isEmpty || places < 309 then true
  else if places > 309 then false
  else
    let bound := Nat.pow 2 1024 - Nat.pow 2 970
    Text.digitsValue digits * Nat.pow 10 number.power.toNat <
      bound * Nat.pow 10 (-number.power).toNat

/-- The number of the format binary64 that is nearest. Those that are too small to matter are
zero. -/
def Decimal.value (number : Decimal) : Binary64 :=
  let significand := Text.digitsValue number.digits
  let places : Int := number.digits.length + number.power
  if significand = 0 || places < -400 then ⟨0⟩ else Binary64.nearest significand number.power

/-- The ways to write an infinite number without its sign. -/
def infinityTexts : List String := [".inf", ".Inf", ".INF"]

/-- The ways to write that a result is not a number. -/
def undefinedTexts : List String := [".nan", ".NaN", ".NAN"]

/-- The number that a text stands for, as a decimal number. A sign may stand in front of it. -/
def decimalValue? (text : String) : Option Binary64 :=
  let cs := text.toList
  let size? :=
    if infinityTexts.contains (String.ofList (unsigned cs)) then some Binary64.infinity
    else ((decimal? (unsigned cs)).filter Decimal.isFinite).map Decimal.value
  if undefinedTexts.contains text then some Binary64.undefined
  else size?.map fun size => if cs.head? = some '-' then size.negated else size

/-- What a scalar without quotes stands for. -/
def ofText (text : String) : Plain :=
  if text.isEmpty || nullTexts.contains text then .null
  else match truth? text with
    | some value => .truth value
    | none =>
        match integer? text.toList with
        | some value => .integer value
        | none =>
            if isZeroLed text.toList then .text
            else match decimalValue? text with
              | some value => .decimal value
              | none => .text

end Plain

/-! ## Writing texts as YAML scalars

A text is written in the plainest style in which it reads back as itself: without quotes, between
single quotes, between double quotes, or, if it has a line feed, as a literal block of lines. Line
breaks other than line feeds can stand between single quotes, where the next line is indented.
-/

/-- The ways to write a text. -/
inductive ScalarStyle where
  | plain
  | singleQuoted
  | doubleQuoted
  | literal
  deriving DecidableEq

namespace Scalar

/-- Whether a text without quotes would not be read as this text, be it for its value or for the
zero in front of its digits. -/
def readsOtherwise (text : String) : Bool :=
  Plain.ofText text ≠ .text || Plain.isZeroLed text.toList

/-- The characters with which a text without quotes cannot start. -/
def indicators : List Char :=
  ['#', ',', '[', ']', '\x7b', '\x7d', '&', '*', '!', '|', '>', '\'', '"', '%', '@', '\x60']

/-- Whether a space or the end follows. -/
def isBreakpoint : List Char → Bool
  | [] => true
  | c :: _ => c == ' '

/-- Whether the start of a text has a meaning of its own. -/
def startsSpecial : List Char → Bool
  | '-' :: '-' :: '-' :: _ => true
  | '.' :: '.' :: '.' :: _ => true
  | c :: cs => indicators.contains c || (['-', '?', ':'].contains c && isBreakpoint cs)
  | [] => false

/-- Whether a colon at the end of a word, or a number sign at its start, separates parts of a
text. -/
def holdsSeparator : List Char → Bool
  | [] => false
  | ':' :: cs => isBreakpoint cs || holdsSeparator cs
  | ' ' :: '#' :: _ => true
  | _ :: cs => holdsSeparator cs

/-- Whether a text starts or ends with a space. -/
def hasOuterSpace (cs : List Char) : Bool := cs.head? == some ' ' || cs.getLast? == some ' '

/-- Whether the last character is a space. -/
def endsWithSpace (cs : List Char) : Bool := cs.getLast? == some ' '

/-- Whether a space stands before a line break. -/
def hasSpaceBeforeBreak : List Char → Bool
  | ' ' :: c :: cs => isBreak c || hasSpaceBeforeBreak (c :: cs)
  | _ :: cs => hasSpaceBeforeBreak cs
  | [] => false

/-- Whether a space stands behind a line break. -/
def hasSpaceBehindBreak : List Char → Bool
  | c :: ' ' :: cs => isBreak c || hasSpaceBehindBreak (' ' :: cs)
  | _ :: cs => hasSpaceBehindBreak cs
  | [] => false

/-- Whether a text cannot stand without quotes. -/
def needsQuotes (text : String) : Bool :=
  let cs := text.toList
  cs.any isBreak || readsOtherwise text || startsSpecial cs || holdsSeparator cs || hasOuterSpace cs

/-- The style in which a text is written. -/
def style (text : String) : ScalarStyle :=
  let cs := text.toList
  if !cs.all isPrintable || hasSpaceBeforeBreak cs then .doubleQuoted
  else if cs.contains '\n' then if endsWithSpace cs then .doubleQuoted else .literal
  else if !needsQuotes text then .plain
  else if hasSpaceBehindBreak cs then .doubleQuoted
  else .singleQuoted

/-- The characters of a text between single quotes. A line behind a line break is indented to a
column, be there only the closing quote in it. -/
def singleQuoted (indent : Nat) (behindBreak : Bool) : List Char → List Char
  | [] => (if behindBreak then List.replicate indent ' ' else []) ++ ['\'']
  | c :: cs =>
      if isBreak c then c :: singleQuoted indent true cs
      else (if behindBreak then List.replicate indent ' ' else []) ++
        ((if c = '\'' then ['\'', '\''] else [c]) ++ singleQuoted indent false cs)

/-- How a character is written between double quotes. -/
def doubleQuotedChar (c : Char) : List Char :=
  match c with
  | '\x00' => ['\\', '0']
  | '\x07' => ['\\', 'a']
  | '\x08' => ['\\', 'b']
  | '\t' => ['\\', 't']
  | '\n' => ['\\', 'n']
  | '\x0b' => ['\\', 'v']
  | '\x0c' => ['\\', 'f']
  | '\r' => ['\\', 'r']
  | '\x1b' => ['\\', 'e']
  | '"' => ['\\', '"']
  | '\\' => ['\\', '\\']
  | '\u0085' => ['\\', 'N']
  | '\u2028' => ['\\', 'L']
  | '\u2029' => ['\\', 'P']
  | c =>
      if isPrintable c then [c]
      else if c.toNat < 0x100 then '\\' :: 'x' :: Text.capitalHexadecimal 2 c.toNat
      else '\\' :: 'u' :: Text.capitalHexadecimal 4 c.toNat

/-- The characters of a literal block. What follows a line break in its line is indented to a
column. -/
def literal (indent : Nat) (behindBreak : Bool) : List Char → List Char
  | [] => []
  | c :: cs =>
      if isBreak c then c :: literal indent true cs
      else (if behindBreak then List.replicate indent ' ' else []) ++ c :: literal indent false cs

/-- The header of a literal block: whether its indentation must be told because the text starts with
a space or a line break, and how many line breaks are at its end. -/
def literalHeader (cs : List Char) : List Char :=
  let hint := match cs with
    | c :: _ => if c == ' ' || isBreak c then ['2'] else []
    | [] => []
  let ending := match cs.reverse with
    | [] => ['-']
    | [c] => if isBreak c then ['+'] else ['-']
    | c :: next :: _ => if !isBreak c then ['-'] else if isBreak next then ['+'] else []
  '|' :: (hint ++ ending)

/-- A text as a scalar, with the line break behind it. The lines behind a line break in it are
indented to a column. A line break at the end of a literal block is the one behind it, too. -/
def write (indent : Nat) (text : String) : List Char :=
  let cs := text.toList
  match style text with
  | .plain => cs ++ ['\n']
  | .singleQuoted => '\'' :: (singleQuoted indent false cs ++ ['\n'])
  | .doubleQuoted => '"' :: (cs.flatMap doubleQuotedChar ++ ['"', '\n'])
  | .literal =>
      literalHeader cs ++ '\n' :: (literal indent true cs ++
        if cs.getLast?.any isBreak then [] else ['\n'])

end Scalar

end ClusterHosts.Yaml
