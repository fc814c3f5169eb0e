import ClusterHosts.Text.Basic

/-! # Times

Times as RFC 3339 writes them, read leniently: blanks may stand before each part, a space or a small
letter in the place of the `T`, and the colon of the offset may be missing. They are written in UTC,
to the second. A second of 60 is a leap second.
-/

namespace ClusterHosts

/-- Why a text is not a time. -/
inductive TimeError where
  | tooShort
  | invalid
  | outOfRange
  /-- The time lies in UTC beyond the years that can be represented. -/
  | beyondUtc
  | tooLong
  deriving DecidableEq

/-- The wording of a failure to read a time. -/
def TimeError.message : TimeError → String
  | .tooShort => "premature end of input"
  | .invalid => "input contains invalid characters"
  | .outOfRange => "input is out of range"
  | .beyondUtc => "no possible date and time matching input"
  | .tooLong => "trailing input"

/-- A date and time of day, and how many minutes the place is ahead of UTC. -/
structure Timestamp where
  year : Int
  month : Nat
  day : Nat
  hour : Nat
  minute : Nat
  second : Nat
  offset : Int
  deriving DecidableEq

namespace Timestamp

/-! ### Reading -/

/-- Reads one or more digits, up to a count. -/
def readNumber (most : Nat) (cs : List Char) : Except TimeError (Nat × List Char) :=
  match cs with
  | [] => .error .tooShort
  | c :: _ =>
      if !c.isDigit then .error .invalid
      else
        let digits := (cs.take most).takeWhile Char.isDigit
        .ok (Text.digitsValue digits, cs.drop digits.length)

/-- Reads a number of at most two digits that must lie between two bounds. -/
def readPart (low high : Nat) (cs : List Char) : Except TimeError (Nat × List Char) := do
  let (value, rest) ← readNumber 2 (Text.dropBlanks cs)
  if low ≤ value ∧ value ≤ high then pure (value, rest) else throw .outOfRange

/-- Reads a year: four digits, or any number of digits after a sign. -/
def readYear (cs : List Char) : Except TimeError (Int × List Char) := do
  let (value, rest) ← match Text.dropBlanks cs with
    | '-' :: cs => (readNumber cs.length cs).map fun (value, rest) => (-(value : Int), rest)
    | '+' :: cs => (readNumber cs.length cs).map fun (value, rest) => ((value : Int), rest)
    | cs => (readNumber 4 cs).map fun (value, rest) => ((value : Int), rest)
  if -2147483648 ≤ value ∧ value ≤ 2147483647 then pure (value, rest) else throw .outOfRange

/-- Reads one certain character, after blanks. -/
def readMark (mark : Char) (cs : List Char) : Except TimeError (List Char) :=
  match Text.dropBlanks cs with
  | [] => .error .tooShort
  | c :: rest => if c = mark then .ok rest else .error .invalid

/-- Passes over the fraction of a second. -/
def readFraction (cs : List Char) : Except TimeError (List Char) :=
  match cs with
  | '.' :: rest => (readNumber 9 rest).map fun (_, rest) => rest.dropWhile Char.isDigit
  | cs => .ok cs

/-- Reads two digits of an offset. -/
def readPair (cs : List Char) : Except TimeError ((Nat × Nat) × List Char) :=
  match cs with
  | [] => .error .tooShort
  | [c] => .error (if c.toNat < 0x80 then .tooShort else .invalid)
  | c :: d :: rest =>
      if c.isDigit && d.isDigit then
        .ok ((Text.digitsValue [c], Text.digitsValue [d]), rest)
      else .error .invalid

/-- Reads the hours and minutes of an offset, after its sign. -/
def readOffsetSize (cs : List Char) : Except TimeError (Nat × List Char) := do
  let ((h, i), rest) ← readPair cs
  let ((m, n), rest) ← readPair (rest.dropWhile fun c => c == ':' || Text.isBlank c)
  if m ≤ 5 then pure ((10 * h + i) * 60 + (10 * m + n), rest) else throw .outOfRange

/-- Reads an offset from UTC: its name, a `Z`, or hours and minutes after a sign. -/
def readOffset (cs : List Char) : Except TimeError (Int × List Char) :=
  match cs with
  | [] => .error .tooShort
  | c :: rest =>
      if (cs.take 3).map Char.toUpper = ['U', 'T', 'C'] then .ok (0, cs.drop 3)
      else if c = 'Z' ∨ c = 'z' then .ok (0, rest)
      else if c = '+' then (readOffsetSize rest).map fun (size, rest) => ((size : Int), rest)
      else if c = '-' ∨ c = '−' then
        (readOffsetSize rest).map fun (size, rest) => (-(size : Int), rest)
      else .error .invalid

/-- Reads the character between a date and a time of day. -/
def readSeparator (cs : List Char) : Except TimeError (List Char) :=
  match cs with
  | [] => .error .tooShort
  | c :: rest => if c = 'T' ∨ c = 't' ∨ c = ' ' then .ok rest else .error .invalid

/-- Whether a year has a 29th of February. -/
def isLeapYear (year : Int) : Bool :=
  year % 4 == 0 && (year % 100 != 0 || year % 400 == 0)

/-- The number of days of a month. -/
def daysInMonth (year : Int) (month : Nat) : Nat :=
  if month = 2 then (if isLeapYear year then 29 else 28)
  else if month = 4 ∨ month = 6 ∨ month = 9 ∨ month = 11 then 30
  else 31

/-- Whether a year can be represented. -/
def isYear (year : Int) : Bool := -262143 ≤ year && year ≤ 262142

/-- Whether the day exists, in the years that can be represented, and the offset is below a day. -/
def isValid (time : Timestamp) : Bool :=
  isYear time.year && time.day ≤ daysInMonth time.year time.month && time.offset.natAbs < 1440

/-! ### In UTC -/

/-- The days from 1 March of year 0 to a date. -/
def dayNumber (year : Int) (month day : Nat) : Int :=
  let fromMarch : Int := (month + 9) % 12
  let year := if month ≤ 2 then year - 1 else year
  365 * year + year / 4 - year / 100 + year / 400 + (153 * fromMarch + 2) / 5 + day - 1

/-- The date that lies a number of days after 1 March of year 0. -/
def dateOfNumber (number : Int) : Int × Nat × Nat :=
  let era := number / 146097
  let day := number % 146097
  let yearOfEra := (day - day / 1460 + day / 36524 - day / 146096) / 365
  let dayOfYear := day - (365 * yearOfEra + yearOfEra / 4 - yearOfEra / 100)
  let fromMarch := (5 * dayOfYear + 2) / 153
  let dayOfMonth := dayOfYear - (153 * fromMarch + 2) / 5 + 1
  let month := if fromMarch < 10 then fromMarch + 3 else fromMarch - 9
  let year := yearOfEra + 400 * era + (if month ≤ 2 then 1 else 0)
  (year, month.toNat, dayOfMonth.toNat)

/-- The same time at no offset. -/
def utc (time : Timestamp) : Timestamp :=
  let minutes : Int := (time.hour * 60 + time.minute : Nat) - time.offset
  let (year, month, day) := dateOfNumber (dayNumber time.year time.month time.day + minutes / 1440)
  let minutes := (minutes % 1440).toNat
  ⟨year, month, day, minutes / 60, minutes % 60, time.second, 0⟩

/-- The seconds from the start of the year 1970 in UTC to a time. -/
def unixSeconds (time : Timestamp) : Int :=
  let days := dayNumber time.year time.month time.day - dayNumber 1970 1 1
  60 * (1440 * days + 60 * time.hour + time.minute - time.offset) + time.second

/-! ### A whole time -/

/-- The time that a text stands for. -/
def parse (text : String) : Except TimeError Timestamp := do
  let (year, rest) ← readYear text.toList
  let rest ← readMark '-' rest
  let (month, rest) ← readPart 1 12 rest
  let rest ← readMark '-' rest
  let (day, rest) ← readPart 1 31 rest
  let rest ← readSeparator rest
  let (hour, rest) ← readPart 0 23 rest
  let rest ← readMark ':' rest
  let (minute, rest) ← readPart 0 59 rest
  let rest ← readMark ':' rest
  let (second, rest) ← readPart 0 60 rest
  let rest ← readFraction rest
  let (offset, rest) ← readOffset (Text.dropBlanks rest)
  let time : Timestamp := ⟨year, month, day, hour, minute, second, offset⟩
  if !(Text.dropBlanks rest).isEmpty then throw .tooLong
  else if !time.isValid then throw .outOfRange
  else if isYear time.utc.year then pure time
  else throw .beyondUtc

/-! ### Writing -/

/-- A number with zeros in front up to a width. -/
def padded (width n : Nat) : List Char :=
  List.replicate (width - (Text.decimal n).length) '0' ++ Text.decimal n

/-- A year in four digits, with a sign if four do not suffice. -/
def yearText (year : Int) : List Char :=
  if 0 ≤ year ∧ year ≤ 9999 then padded 4 year.toNat
  else (if year < 0 then '-' else '+') :: padded 4 year.natAbs

/-- The time in UTC, to the second. -/
def text (time : Timestamp) : String :=
  let utc := time.utc
  String.ofList (yearText utc.year ++ '-' :: (padded 2 utc.month ++ '-' :: (padded 2 utc.day ++
    'T' :: (padded 2 utc.hour ++ ':' :: (padded 2 utc.minute ++ ':' :: (padded 2 utc.second ++
      ['Z']))))))

end Timestamp

end ClusterHosts
