/-! # Texts and bytes in files

Bytes that are written in letters, and texts that are written in bytes. -/

namespace ClusterHosts.Text

/-! ## Base 64

The bytes that a text stands for in base 64: groups of four letters for three bytes each, the last
of which may end in one or two equals signs; the bits that the equals signs leave over are zero.
-/

/-- The value of a letter of base 64. -/
def base64Value? (c : Char) : Option Nat :=
  if 'A' ≤ c ∧ c ≤ 'Z' then some (c.toNat - 'A'.toNat)
  else if 'a' ≤ c ∧ c ≤ 'z' then some (c.toNat - 'a'.toNat + 26)
  else if '0' ≤ c ∧ c ≤ '9' then some (c.toNat - '0'.toNat + 52)
  else if c = '+' then some 62
  else if c = '/' then some 63
  else none

/-- The byte that two letters stand for, before equals signs. -/
def bytesOfTwo? (a b : Char) : Option (List UInt8) := do
  let value := 64 * (← base64Value? a) + (← base64Value? b)
  if value % 16 = 0 then pure [UInt8.ofNat (value / 16)] else none

/-- The bytes that three letters stand for, before an equals sign. -/
def bytesOfThree? (a b c : Char) : Option (List UInt8) := do
  let value := 64 * (64 * (← base64Value? a) + (← base64Value? b)) + (← base64Value? c)
  if value % 4 = 0 then pure [UInt8.ofNat (value / 1024), UInt8.ofNat (value / 4)] else none

/-- The bytes that four letters stand for. -/
def bytesOfFour? (a b c d : Char) : Option (List UInt8) := do
  let high := 64 * (← base64Value? a) + (← base64Value? b)
  let value := 64 * (64 * high + (← base64Value? c)) + (← base64Value? d)
  pure [UInt8.ofNat (value / 65536), UInt8.ofNat (value / 256), UInt8.ofNat value]

/-- The bytes that a text stands for. -/
def ofBase64? : List Char → Option (List UInt8)
  | [] => some []
  | [a, b, '=', '='] => bytesOfTwo? a b
  | [a, b, c, '='] => bytesOfThree? a b c
  | a :: b :: c :: d :: rest => do
      let bytes ← bytesOfFour? a b c d
      pure (bytes ++ (← ofBase64? rest))
  | _ => none

/-! ## Texts as bytes

The text of a file may start with a mark that tells its encoding: UTF-16 with the low or the high
byte first, or UTF-8. A text without a mark is UTF-8.
-/

/-- The pairs of bytes as 16-bit units, joined by a function of the two. -/
def units16? (join : UInt8 → UInt8 → Nat) : List UInt8 → Option (List Nat)
  | [] => some []
  | first :: second :: bytes => (units16? join bytes).map (join first second :: ·)
  | [_] => none

/-- The characters that 16-bit units stand for. -/
def charsOfUnits? : List Nat → Option (List Char)
  | [] => some []
  | high :: units =>
      if 0xD800 ≤ high ∧ high < 0xDC00 then
        match units with
        | low :: units =>
            if 0xDC00 ≤ low ∧ low < 0xE000 then
              let code := 0x10000 + (high - 0xD800) * 0x400 + (low - 0xDC00)
              (charsOfUnits? units).map (Char.ofNat code :: ·)
            else none
        | [] => none
      else if 0xDC00 ≤ high ∧ high < 0xE000 then none
      else (charsOfUnits? units).map (Char.ofNat high :: ·)

/-- The text that bytes stand for in UTF-16. -/
def ofUtf16? (join : UInt8 → UInt8 → Nat) (bytes : List UInt8) : Option String := do
  let units ← units16? join bytes
  let cs ← charsOfUnits? units
  pure (String.ofList cs)

/-- The text that bytes stand for, by the mark at their start. -/
def ofMarkedBytes? (bytes : ByteArray) : Option String :=
  match bytes.toList with
  | 0xFF :: 0xFE :: rest => ofUtf16? (fun low high => low.toNat + 0x100 * high.toNat) rest
  | 0xFE :: 0xFF :: rest => ofUtf16? (fun high low => low.toNat + 0x100 * high.toNat) rest
  | 0xEF :: 0xBB :: 0xBF :: _ => String.fromUTF8? (bytes.extract 3 bytes.size)
  | _ => String.fromUTF8? bytes

end ClusterHosts.Text
