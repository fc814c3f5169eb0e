import ClusterHosts.Text.Basic

/-! # Binary floating-point numbers

A number of the format binary64, held by its bit pattern. It is read from a significand below 2^64
and a power of ten, and written with the fewest digits that read back as the same number. Among
decimals of that length the nearest is written; from 10^16 on and below 10^-5 with an exponent,
whose sign is always written.
-/

namespace ClusterHosts

/-- A number of the format binary64. -/
structure Binary64 where
  /-- Sign, exponent and fraction, from the highest bit down. -/
  bits : UInt64
  deriving DecidableEq, Inhabited

namespace Binary64

/-- The power of ten nearest to `10 ^ exponent`. -/
def powerOfTen (exponent : Nat) : Float := Float.ofScientific 1 false exponent

/-- A significand times a power of ten, each rounded before the product is; nothing if the product
is too large. Powers beyond the format are divided off in steps of 308. -/
def magnitude? (significand : Nat) (exponent : Int) : Option Float :=
  let start := (UInt64.ofNat significand).toFloat
  if significand = 0 then some 0.0
  else match exponent with
    | .ofNat up =>
        if up > 308 then none
        else
          let product := start * powerOfTen up
          if product.isInf then none else some product
    | .negSucc down =>
        let steps := min (down / 308) 4
        let rest := down + 1 - 308 * steps
        let divided := (List.range steps).foldl (fun quotient _ => quotient / powerOfTen 308) start
        some (divided / powerOfTen (min rest 308))

/-- The number with a sign, a significand and a power of ten. -/
def ofParts? (negative : Bool) (significand : Nat) (exponent : Int) : Option Binary64 :=
  (magnitude? significand exponent).map fun size =>
    ⟨(if negative then -size else size).toBits⟩

/-- Whether the sign bit is set. -/
def isNegative (x : Binary64) : Bool := x.bits >>> 63 != 0

/-- The bits without the sign. -/
def magnitudeBits (x : Binary64) : UInt64 := x.bits &&& 0x7FFFFFFFFFFFFFFF

/-- Whether the bits stand for no number. -/
def isUndefined (x : Binary64) : Bool := 0x7FF0000000000000 < x.magnitudeBits

/-- Whether two are the same number. The two zeros are the same, and so are any two that are no
number. -/
def isSame (first second : Binary64) : Bool :=
  first.bits == second.bits || (first.magnitudeBits == 0 && second.magnitudeBits == 0) ||
    (first.isUndefined && second.isUndefined)

/-- A positive number without bounds. -/
def infinity : Binary64 := ⟨0x7FF0000000000000⟩

/-- What is no number. -/
def undefined : Binary64 := ⟨0x7FF8000000000000⟩

/-- The number with the other sign. -/
def negated (x : Binary64) : Binary64 := ⟨x.bits ^^^ 0x8000000000000000⟩

/-- The number nearest to `significand * 10 ^ exponent`. -/
def nearest (significand : Nat) (exponent : Int) : Binary64 :=
  ⟨(Float.ofScientific significand (exponent < 0) exponent.natAbs).toBits⟩

/-- The number without its sign, as `significand * 2 ^ exponent`. -/
def parts (x : Binary64) : Nat × Int :=
  let fraction := (x.bits &&& 0xFFFFFFFFFFFFF).toNat
  let biased := ((x.bits >>> 52) &&& 0x7FF).toNat
  if biased = 0 then (fraction, -1074) else (fraction + Nat.pow 2 52, biased - 1075)

/-- The multiple of `10 ^ power` nearest to `significand * 2 ^ exponent` among those that are
rounded to it, as a factor of the power. -/
def gridPoint? (significand : Nat) (exponent power : Int) : Option Nat :=
  let up := Nat.pow 2 (exponent - 2).toNat * Nat.pow 10 (-power).toNat
  let unit := Nat.pow 2 (2 - exponent).toNat * Nat.pow 10 power.toNat
  let value := 4 * significand * up
  let high := (4 * significand + 2) * up
  let low :=
    if significand = Nat.pow 2 52 ∧ exponent > -1074 then (4 * significand - 1) * up
    else (4 * significand - 2) * up
  let rounds (point : Nat) : Bool :=
    if significand % 2 = 0 then low ≤ point * unit && point * unit ≤ high
    else low < point * unit && point * unit < high
  let below := value / unit
  let above := below + 1
  match rounds below, rounds above with
  | true, true =>
      let toBelow := value - below * unit
      let toAbove := above * unit - value
      if toBelow < toAbove ∨ (toBelow = toAbove ∧ below % 2 = 0) then some below else some above
  | true, false => some below
  | false, true => some above
  | false, false => none

/-- The coarsest decimal grid, from a power on downwards, on which a point is rounded to the
number. -/
def coarsest (significand : Nat) (exponent : Int) : Nat → Int → Nat × Int
  | 0, power => (0, power)
  | steps + 1, power =>
      match gridPoint? significand exponent power with
      | some point => (point, power)
      | none => coarsest significand exponent steps (power - 1)

/-- The shortest decimal that reads back, as digits and a power of ten. -/
def shortest (x : Binary64) : Nat × Int :=
  let (significand, exponent) := x.parts
  if significand = 0 then (0, 0) else coarsest significand exponent 640 309

/-- The exponent of a written number, with its sign. -/
def exponentText (exponent : Int) : List Char :=
  'e' :: (if 0 ≤ exponent then '+' :: Text.signedDecimal exponent else Text.signedDecimal exponent)

/-- The written form: positional with at least one digit after the point, or with an exponent. -/
def text (x : Binary64) : List Char :=
  let sign := if x.isNegative then ['-'] else []
  let (point, power) := x.shortest
  let digits := Text.decimal point
  let places : Int := digits.length + power
  let zeros (count : Int) := List.replicate count.toNat '0'
  let body :=
    if point = 0 then ['0', '.', '0']
    else if 0 ≤ power ∧ places ≤ 16 then digits ++ zeros power ++ ['.', '0']
    else if 0 < places ∧ places ≤ 16 then
      digits.take places.toNat ++ '.' :: digits.drop places.toNat
    else if -5 < places ∧ places ≤ 0 then '0' :: '.' :: (zeros (-places) ++ digits)
    else
      let fraction := if digits.length = 1 then [] else '.' :: digits.drop 1
      digits.take 1 ++ fraction ++ exponentText (places - 1)
  sign ++ body

end Binary64

end ClusterHosts
