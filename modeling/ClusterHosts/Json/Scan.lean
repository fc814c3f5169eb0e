import ClusterHosts.Json.Basic

/-! # Reading JSON texts

A text is divided into tokens, one value at a time. -/

namespace ClusterHosts

/-! ## The tokens of a JSON text

A JSON text is cut into tokens before it is read as a value. A text that is not JSON can be at fault
in two ways, since a reader may keep a value or only skip it: a reader that skips a string does not
look at its escapes for halves of surrogate pairs, nor at the size of a number. A string or number
that can be skipped is therefore one token even if it has no value. A fault that stops every reader
ends the tokens.
-/

/-- Why a text is not JSON. -/
inductive SyntaxError where
  | endInValue
  | endInString
  | endInList
  | endInObject
  | expectedValue
  | expectedWord
  | expectedColon
  | expectedListCommaOrEnd
  | expectedObjectCommaOrEnd
  | keyNotString
  | trailingComma
  | trailingCharacters
  | invalidNumber
  | numberOutOfRange
  | invalidEscape
  | loneSurrogate
  | unpairedSurrogate
  | controlCharacter
  | nestedTooDeep
  deriving DecidableEq

/-- The wording of a fault. -/
def SyntaxError.message : SyntaxError → String
  | .endInValue => "EOF while parsing a value"
  | .endInString => "EOF while parsing a string"
  | .endInList => "EOF while parsing a list"
  | .endInObject => "EOF while parsing an object"
  | .expectedValue => "expected value"
  | .expectedWord => "expected ident"
  | .expectedColon => "expected `:`"
  | .expectedListCommaOrEnd => "expected `,` or `]`"
  | .expectedObjectCommaOrEnd => "expected `,` or `\x7d`"
  | .keyNotString => "key must be a string"
  | .trailingComma => "trailing comma"
  | .trailingCharacters => "trailing characters"
  | .invalidNumber => "invalid number"
  | .numberOutOfRange => "number out of range"
  | .invalidEscape => "invalid escape"
  | .loneSurrogate => "lone leading surrogate in hex escape"
  | .unpairedSurrogate => "unexpected end of hex escape"
  | .controlCharacter => "control character (\\u0000-\\u001F) found while parsing a string"
  | .nestedTooDeep => "recursion limit exceeded"

/-- What is wrong at one place, as a reader finds it that keeps the value there or that skips it. -/
structure Fault where
  kept : SyntaxError
  skipped : SyntaxError
  deriving DecidableEq

/-- A fault that all readers find alike. -/
def Fault.plain (error : SyntaxError) : Fault := ⟨error, error⟩

/-- A token of a JSON text. -/
inductive Token where
  | openBracket
  | closeBracket
  | openBrace
  | closeBrace
  | comma
  | colon
  | null
  | bool (value : Bool)
  | number (value : Except SyntaxError Number)
  | string (text : Except SyntaxError String)
  | brokenString (fault : Fault)
  | broken (fault : Fault)

namespace Token

/-- Spaces, tabs and line breaks may stand between tokens. -/
def isSpace (c : Char) : Bool := c == ' ' || c == '\n' || c == '\t' || c == '\r'

/-- What follows a word, if the word is there. -/
def afterWord : (word text : List Char) → Except SyntaxError (List Char)
  | [], rest => .ok rest
  | _ :: _, [] => .error .endInValue
  | expected :: word, c :: rest =>
      if c = expected then afterWord word rest else .error .expectedWord

/-! ### Strings -/

/-- The number that four hexadecimal digits stand for. -/
def hexCode? (a b c d : Char) : Option Nat := Text.inBase? 16 [a, b, c, d]

/-- A text in which an escape has less than four digits ends too early, unless it has other
characters in the place of four bytes. -/
def shortEscape (rest : List Char) : SyntaxError :=
  if (String.ofList rest).utf8ByteSize ≥ 4 then .invalidEscape else .endInString

/-- The character that a letter after a backslash stands for. -/
def escaped? : Char → Option Char
  | '"' => some '"'
  | '\\' => some '\\'
  | '/' => some '/'
  | 'b' => some '\x08'
  | 'f' => some '\x0c'
  | 'n' => some '\n'
  | 'r' => some '\r'
  | 't' => some '\t'
  | _ => none

/-- The characters of a string up to its closing quote, and what follows it. -/
def unquote : List Char → Except SyntaxError (List Char × List Char)
  | [] => .error .endInString
  | '"' :: rest => .ok ([], rest)
  | '\\' :: 'u' :: a :: b :: c :: d :: rest =>
      match hexCode? a b c d with
      | none => .error .invalidEscape
      | some code =>
          if 0xDC00 ≤ code ∧ code ≤ 0xDFFF then .error .loneSurrogate
          else if 0xD800 ≤ code ∧ code ≤ 0xDBFF then
            match rest with
            | '\\' :: 'u' :: e :: f :: g :: h :: rest =>
                match hexCode? e f g h with
                | none => .error .invalidEscape
                | some low =>
                    if 0xDC00 ≤ low ∧ low ≤ 0xDFFF then
                      let joined := 0x10000 + (code - 0xD800) * 0x400 + (low - 0xDC00)
                      (unquote rest).map fun (text, rest) => (Char.ofNat joined :: text, rest)
                    else .error .loneSurrogate
            | '\\' :: 'u' :: rest => .error (shortEscape rest)
            | ['\\'] => .error .endInString
            | [] => .error .endInString
            | _ => .error .unpairedSurrogate
          else (unquote rest).map fun (text, rest) => (Char.ofNat code :: text, rest)
  | '\\' :: 'u' :: rest => .error (shortEscape rest)
  | ['\\'] => .error .endInString
  | '\\' :: c :: rest =>
      match escaped? c with
      | some c => (unquote rest).map fun (text, rest) => (c :: text, rest)
      | none => .error .invalidEscape
  | c :: rest =>
      if c.toNat < 0x20 then .error .controlCharacter
      else (unquote rest).map fun (text, rest) => (c :: text, rest)

/-- What follows the closing quote of a string whose value is not wanted. -/
def skipQuoted : List Char → Except SyntaxError (List Char)
  | [] => .error .endInString
  | '"' :: rest => .ok rest
  | '\\' :: 'u' :: a :: b :: c :: d :: rest =>
      if (hexCode? a b c d).isSome then skipQuoted rest else .error .invalidEscape
  | '\\' :: 'u' :: rest => .error (shortEscape rest)
  | ['\\'] => .error .endInString
  | '\\' :: c :: rest => if (escaped? c).isSome then skipQuoted rest else .error .invalidEscape
  | c :: rest => if c.toNat < 0x20 then .error .controlCharacter else skipQuoted rest

/-- The token of a string, from the character after its opening quote on. -/
def scanString (cs : List Char) : Token × List Char :=
  match unquote cs, skipQuoted cs with
  | .ok (text, _), .ok rest => (.string (.ok (String.ofList text)), rest)
  | .error kept, .ok rest => (.string (.error kept), rest)
  | .error kept, .error skipped => (.brokenString ⟨kept, skipped⟩, [])
  | .ok _, .error skipped => (.brokenString (.plain skipped), [])

/-! ### Numbers -/

/-- The parts of a written number: its sign, the digits before and after the point, and the sign and
digits of its exponent. -/
structure Literal where
  negative : Bool
  whole : List Char
  fraction : Option (List Char)
  exponent : Option (Bool × List Char)

/-- Adds digits to a significand while it stays below 2^64, and returns the digits left over. -/
def absorb (significand : Nat) : List Char → Nat × List Char
  | [] => (significand, [])
  | digit :: digits =>
      let next := 10 * significand + (digit.toNat - '0'.toNat)
      if next < UInt64.size then absorb next digits else (significand, digit :: digits)

/-- The value of a number that has a fraction or an exponent, or is too large for an integer. Digits
that do not fit into the significand count only by their places. -/
def Literal.float (literal : Literal) : Except SyntaxError Number :=
  let (start, dropped) := absorb 0 literal.whole
  let fraction := literal.fraction.getD []
  let (significand, unread) := absorb start fraction
  let base : Int := dropped.length - (fraction.length - unread.length : Nat)
  let signed (exponent : Int) : Except SyntaxError Number :=
    match Binary64.ofParts? literal.negative significand exponent with
    | some value => .ok (.float value)
    | none => .error .numberOutOfRange
  match literal.exponent with
  | none => signed base
  | some (down, digits) =>
      let exponent := Text.digitsValue digits
      if exponent > 2147483647 then
        if significand ≠ 0 ∧ ¬ down then .error .numberOutOfRange else signed (-400)
      else signed (if down then base - exponent else base + exponent)

/-- The value of a number. It is an integer if it is written as one and fits into 64 bits, with or
without a sign; minus zero is not an integer. -/
def Literal.value (literal : Literal) : Except SyntaxError Number :=
  match literal.fraction, literal.exponent with
  | none, none =>
      let size := Text.digitsValue literal.whole
      if literal.negative then
        if 0 < size ∧ size ≤ Nat.pow 2 63 then .ok (.integer (-(size : Int))) else literal.float
      else if size < UInt64.size then .ok (.integer size) else literal.float
  | _, _ => literal.float

/-- The fault of a number that lacks a digit: a reader that keeps it tells the end of the text from
other characters. -/
def missingDigit (rest : List Char) : Fault :=
  ⟨if rest.isEmpty then .endInValue else .invalidNumber, .invalidNumber⟩

/-- Reads the digits of an exponent. -/
def scanExponentDigits (literal : Literal) (down : Bool) (cs : List Char) :
    Except Fault (Literal × List Char) :=
  if (cs.takeWhile Char.isDigit).isEmpty then .error (missingDigit cs)
  else .ok ({ literal with exponent := some (down, cs.takeWhile Char.isDigit) },
    cs.dropWhile Char.isDigit)

/-- Reads an exponent, after the letter that starts it. -/
def scanExponent (literal : Literal) : List Char → Except Fault (Literal × List Char)
  | '-' :: cs => scanExponentDigits literal true cs
  | '+' :: cs => scanExponentDigits literal false cs
  | cs => scanExponentDigits literal false cs

/-- Reads what may follow the digits of a number: an exponent. -/
def scanAfterDigits (literal : Literal) (cs : List Char) : Except Fault (Literal × List Char) :=
  match cs with
  | 'e' :: rest => scanExponent literal rest
  | 'E' :: rest => scanExponent literal rest
  | cs => .ok (literal, cs)

/-- Reads what may follow the first digits of a number: a fraction and an exponent. -/
def scanAfterWhole (literal : Literal) (cs : List Char) : Except Fault (Literal × List Char) :=
  match cs with
  | '.' :: cs =>
      if (cs.takeWhile Char.isDigit).isEmpty then .error (missingDigit cs)
      else scanAfterDigits { literal with fraction := some (cs.takeWhile Char.isDigit) }
        (cs.dropWhile Char.isDigit)
  | cs => scanAfterDigits literal cs

/-- Reads a number without its sign. A zero in front of another digit is a fault. -/
def scanUnsigned (negative : Bool) (cs : List Char) : Except Fault (Literal × List Char) :=
  match cs.takeWhile Char.isDigit with
  | [] => .error (missingDigit cs)
  | '0' :: _ :: _ => .error (.plain .invalidNumber)
  | whole => scanAfterWhole ⟨negative, whole, none, none⟩ (cs.dropWhile Char.isDigit)

/-- The token of a number that was read, or of its fault. -/
def numberToken : Except Fault (Literal × List Char) → Token × List Char
  | .ok (literal, rest) => (.number literal.value, rest)
  | .error fault => (.broken fault, [])

/-- The token of a number, from its sign or first digit on. -/
def scanNumber : List Char → Token × List Char
  | '-' :: cs => numberToken (scanUnsigned true cs)
  | cs => numberToken (scanUnsigned false cs)

/-! ### All tokens -/

/-- The token of a word. -/
def scanWord (token : Token) (word cs : List Char) : Token × List Char :=
  match afterWord word cs with
  | .ok rest => (token, rest)
  | .error error => (.broken (.plain error), [])

/-- The token that starts with a character, and what follows it. -/
def scan (c : Char) (cs : List Char) : Token × List Char :=
  match c with
  | '[' => (.openBracket, cs)
  | ']' => (.closeBracket, cs)
  | '{' => (.openBrace, cs)
  | '}' => (.closeBrace, cs)
  | ',' => (.comma, cs)
  | ':' => (.colon, cs)
  | 'n' => scanWord .null ['u', 'l', 'l'] cs
  | 't' => scanWord (.bool true) ['r', 'u', 'e'] cs
  | 'f' => scanWord (.bool false) ['a', 'l', 's', 'e'] cs
  | '"' => scanString cs
  | c => if c = '-' ∨ c.isDigit then scanNumber (c :: cs) else (.broken (.plain .expectedValue), [])

end Token

end ClusterHosts

namespace ClusterHosts.Token

/-! ## Cutting a JSON text into tokens

Every token takes at least the character it starts with (`length_scan_le`), so that the tokens of a
text are finitely many.
-/

/-- What stands behind a word is no longer than the text. -/
theorem length_afterWord_le {word cs rest : List Char} (found : afterWord word cs = .ok rest) :
    rest.length ≤ cs.length := by
  fun_induction afterWord word cs with
  | case1 => simp_all
  | case2 => simp at found
  | case3 _ _ _ ih => exact Nat.le_succ_of_le (ih found)
  | case4 => simp at found

/-- What stands behind a string is no longer than the text. -/
theorem length_skipQuoted_le {cs rest : List Char} (found : skipQuoted cs = .ok rest) :
    rest.length ≤ cs.length := by
  fun_induction skipQuoted cs <;> simp_all <;> omega

theorem length_scanString_le (cs : List Char) : (scanString cs).2.length ≤ cs.length := by
  unfold scanString
  split <;> simp_all [length_skipQuoted_le]

theorem length_scanWord_le (token : Token) (word cs : List Char) :
    (scanWord token word cs).2.length ≤ cs.length := by
  unfold scanWord
  split
  · next found => exact length_afterWord_le found
  · simp

theorem length_dropWhile_le (p : Char → Bool) (cs : List Char) :
    (cs.dropWhile p).length ≤ cs.length :=
  (List.dropWhile_suffix p).length_le

theorem length_scanExponentDigits_le {literal : Literal} {down : Bool} {cs : List Char}
    {result : Literal × List Char} (found : scanExponentDigits literal down cs = .ok result) :
    result.2.length ≤ cs.length := by
  unfold scanExponentDigits at found
  split at found
  · simp at found
  · cases found
    exact length_dropWhile_le _ _

theorem length_scanExponent_le {literal : Literal} {cs : List Char} {result : Literal × List Char}
    (found : scanExponent literal cs = .ok result) : result.2.length ≤ cs.length := by
  unfold scanExponent at found
  split at found
  · exact Nat.le_succ_of_le (length_scanExponentDigits_le found)
  · exact Nat.le_succ_of_le (length_scanExponentDigits_le found)
  · exact length_scanExponentDigits_le found

theorem length_scanAfterDigits_le {literal : Literal} {cs : List Char}
    {result : Literal × List Char} (found : scanAfterDigits literal cs = .ok result) :
    result.2.length ≤ cs.length := by
  unfold scanAfterDigits at found
  split at found
  · exact Nat.le_succ_of_le (length_scanExponent_le found)
  · exact Nat.le_succ_of_le (length_scanExponent_le found)
  · cases found
    exact Nat.le_refl _

theorem length_scanAfterWhole_le {literal : Literal} {cs : List Char}
    {result : Literal × List Char} (found : scanAfterWhole literal cs = .ok result) :
    result.2.length ≤ cs.length := by
  unfold scanAfterWhole at found
  split at found
  · split at found
    · simp at found
    · exact Nat.le_succ_of_le
        (Nat.le_trans (length_scanAfterDigits_le found) (length_dropWhile_le _ _))
  · exact length_scanAfterDigits_le found

/-- A number takes at least one character. -/
theorem length_scanUnsigned_lt {negative : Bool} {cs : List Char} {result : Literal × List Char}
    (found : scanUnsigned negative cs = .ok result) : result.2.length < cs.length := by
  unfold scanUnsigned at found
  cases cs with
  | nil => simp at found
  | cons c cs =>
      by_cases digit : c.isDigit = true
      · simp only [List.takeWhile_cons, digit, ↓reduceIte, List.dropWhile_cons] at found
        split at found
        · simp at found
        · simp at found
        · exact Nat.lt_succ_of_le
            (Nat.le_trans (length_scanAfterWhole_le found) (length_dropWhile_le _ _))
      · simp [digit] at found

theorem length_numberToken_lt {negative : Bool} {cs : List Char} (nonempty : cs ≠ []) :
    (numberToken (scanUnsigned negative cs)).2.length < cs.length := by
  cases found : scanUnsigned negative cs with
  | ok result => exact length_scanUnsigned_lt found
  | error fault => exact List.length_pos_iff.2 nonempty

/-- Reading a number leaves no more than what stands behind its first character. -/
theorem length_scanNumber_le (c : Char) (cs : List Char) :
    (scanNumber (c :: cs)).2.length ≤ cs.length := by
  unfold scanNumber
  split
  · next same =>
      cases same
      cases cs with
      | nil => simp [scanUnsigned, numberToken]
      | cons d rest => exact Nat.le_of_lt (length_numberToken_lt (by simp))
  · exact Nat.le_of_lt_succ (length_numberToken_lt (by simp))

/-- A token takes at least one character. -/
theorem length_scan_le (c : Char) (cs : List Char) : (scan c cs).2.length ≤ cs.length := by
  unfold scan
  split
  all_goals first
    | exact Nat.le_refl _
    | exact length_scanWord_le _ _ _
    | exact length_scanString_le _
    | skip
  split
  · exact length_scanNumber_le _ _
  · simp

/-- The tokens of a text. -/
def ofText : List Char → List Token
  | [] => []
  | c :: cs =>
      if isSpace c then ofText cs
      else
        have shorter := length_scan_le c cs
        match scan c cs, shorter with
        | (token, rest), _ => token :: ofText rest
termination_by cs => cs.length
decreasing_by
  · simp
  · exact Nat.lt_succ_of_le ‹_›

end ClusterHosts.Token
