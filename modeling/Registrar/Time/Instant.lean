import Registrar.Decimal.Power
import Registrar.Text.Blank
/-!
# Instants and their written form

An instant is written as a date and a time of day in UTC, to the second. The reader is generous:
it takes a blank in place of the letter between date and time, blanks before each number, and an
offset with or without a colon.
-/

set_option autoImplicit false

namespace Registrar

/-- A moment in time: seconds since the start of 1970 in UTC, and nanoseconds. A leap second has
more than a thousand million of them. -/
structure Instant where
  seconds : Int
  nanoseconds : Nat
deriving DecidableEq, Repr, Inhabited

namespace Instant

inductive Problem where
  | invalidCharacter
  | tooShort
  | tooLong
  | incomplete
  | outOfRange
  /-- There is such a date and time of day, but not in UTC. -/
  | impossible
deriving DecidableEq, Repr

def Problem.message : Problem → String
  | invalidCharacter => "input contains invalid characters"
  | tooShort => "premature end of input"
  | tooLong => "trailing input"
  | incomplete => "input is not enough for unique date and time"
  | outOfRange => "input is out of range"
  | impossible => "no possible date and time matching input"

abbrev Reading := Except Problem

def digitsValue (digits : List Char) : Nat :=
  digits.foldl (fun value digit => 10 * value + (digit.toNat - '0'.toNat)) 0

/-- Read a number of at least one and at most `width` digits. -/
def readNumber (width : Nat) (text : List Char) : Reading (Nat × List Char) :=
  let digits := (text.take width).takeWhile Char.isDigit
  match text, digits with
  | [], _ => .error .tooShort
  | _, [] => .error .invalidCharacter
  | _, _ => .ok (digitsValue digits, text.drop digits.length)

def readBounded (low high : Nat) (text : List Char) : Reading (Nat × List Char) := do
  let (value, rest) ← readNumber 2 (Text.trimStart text)
  if low ≤ value ∧ value ≤ high then .ok (value, rest) else .error .outOfRange

/-- Read a year: four digits, or any number of them after a sign. -/
def readYear (text : List Char) : Reading (Int × List Char) :=
  match Text.trimStart text with
  | '-' :: rest => (readNumber rest.length rest).map fun (value, rest) => (-(value : Int), rest)
  | '+' :: rest => (readNumber rest.length rest).map fun (value, rest) => ((value : Int), rest)
  | rest => (readNumber 4 rest).map fun (value, rest) => ((value : Int), rest)

def expect (c : Char) (text : List Char) : Reading (List Char) :=
  match Text.trimStart text with
  | [] => .error .tooShort
  | found :: rest => if found = c then .ok rest else .error .invalidCharacter

/-- Pass over what stands between a date and a time of day. -/
def passSeparator (text : List Char) : Reading (List Char) :=
  match text with
  | [] => .error .incomplete
  | c :: rest => if c = 'T' || c = 't' || c = ' ' then .ok rest else .error .invalidCharacter

/-- Read the digits after a point as nanoseconds; digits beyond the ninth are passed over. -/
def readFraction (text : List Char) : Reading (Nat × List Char) :=
  match text with
  | '.' :: rest => do
      let (_, _) ← readNumber 9 rest
      let digits := rest.takeWhile Char.isDigit
      let kept := digits.take 9
      .ok (digitsValue kept * Decimal.tenTo (9 - kept.length), rest.dropWhile Char.isDigit)
  | rest => .ok (0, rest)

def readPair (text : List Char) : Reading ((Nat × Nat) × List Char) :=
  match text with
  | first :: second :: rest =>
      if first.isDigit && second.isDigit then
        .ok ((first.toNat - '0'.toNat, second.toNat - '0'.toNat), rest)
      else .error .invalidCharacter
  | _ => .error .tooShort

/-- Read the hours and minutes of an offset after its sign, in seconds. -/
def readOffsetSize (text : List Char) : Reading (Nat × List Char) := do
  let ((tens, ones), rest) ← readPair text
  let rest := rest.dropWhile fun c => c = ':' || Text.isBlank c
  let ((minuteTens, minuteOnes), rest) ← readPair rest
  if 6 ≤ minuteTens then .error .outOfRange
  else .ok ((tens * 10 + ones) * 3600 + (minuteTens * 10 + minuteOnes) * 60, rest)

def readOffset (text : List Char) : Reading (Int × List Char) :=
  match text with
  | [] => .error .tooShort
  | c :: rest =>
      let named := (text.take 3).map Char.toUpper
      if named = ['U', 'T', 'C'] then .ok (0, text.drop 3)
      else if c = 'Z' || c = 'z' then .ok (0, rest)
      else if c = '+' then
        (readOffsetSize rest).map fun (size, rest) => ((size : Int), rest)
      else if c = '-' || c = '−' then
        (readOffsetSize rest).map fun (size, rest) => (-(size : Int), rest)
      else .error .invalidCharacter

def isLeapYear (year : Int) : Bool :=
  year % 4 = 0 && (year % 100 ≠ 0 || year % 400 = 0)

def monthLength (year : Int) (month : Nat) : Nat :=
  if month = 2 then (if isLeapYear year then 29 else 28)
  else if month = 4 || month = 6 || month = 9 || month = 11 then 30
  else 31

/-- Days from the start of 1970 to a date. Years are counted from March, so that the leap day is
the last day of its year. -/
def daysOfDate (year : Int) (month day : Nat) : Int :=
  let shifted := if month ≤ 2 then year - 1 else year
  let era := shifted / 400
  let yearOfEra := shifted % 400
  let monthOfYear : Int := ((month + 9) % 12 : Nat)
  let dayOfYear := (153 * monthOfYear + 2) / 5 + day - 1
  let dayOfEra := yearOfEra * 365 + yearOfEra / 4 - yearOfEra / 100 + dayOfYear
  era * 146097 + dayOfEra - 719468

/-- The date that lies the given number of days after the start of 1970. -/
def dateOfDays (days : Int) : Int × Nat × Nat :=
  let shifted := days + 719468
  let era := shifted / 146097
  let dayOfEra := shifted % 146097
  let yearOfEra := (dayOfEra - dayOfEra / 1460 + dayOfEra / 36524 - dayOfEra / 146096) / 365
  let dayOfYear := dayOfEra - (365 * yearOfEra + yearOfEra / 4 - yearOfEra / 100)
  let monthOfYear := (5 * dayOfYear + 2) / 153
  let day := dayOfYear - (153 * monthOfYear + 2) / 5 + 1
  let month := if monthOfYear < 10 then monthOfYear + 3 else monthOfYear - 9
  let year := yearOfEra + era * 400
  (if month ≤ 2 then year + 1 else year, month.toNat, day.toNat)

/-- The years that a date can have. -/
def isYear (year : Int) : Bool :=
  -262143 ≤ year && year ≤ 262142

/-- The moment of a date and a time of day at a place of the given offset from UTC. The last second
of a minute may be a leap second. -/
def ofLocal (year : Int) (month day hour minute second fraction : Nat) (offset : Int) :
    Reading Instant :=
  if !isYear year || monthLength year month < day then .error .outOfRange
  else if 86400 ≤ offset.natAbs then .error .outOfRange
  else
    let time := hour * 3600 + minute * 60 + if second = 60 then 59 else second
    let seconds := daysOfDate year month day * 86400 + (time : Nat) - offset
    if !isYear (dateOfDays (seconds / 86400)).1 then .error .impossible
    else .ok ⟨seconds, if second = 60 then fraction + 1000000000 else fraction⟩

def parse (text : String) : Reading Instant := do
  let (year, rest) ← readYear text.toList
  let rest ← expect '-' rest
  let (month, rest) ← readBounded 1 12 rest
  let rest ← expect '-' rest
  let (day, rest) ← readBounded 1 31 rest
  let rest ← passSeparator rest
  let (hour, rest) ← readBounded 0 23 rest
  let rest ← expect ':' rest
  let (minute, rest) ← readBounded 0 59 rest
  let rest ← expect ':' rest
  let (second, rest) ← readBounded 0 60 rest
  let (fraction, rest) ← readFraction rest
  let rest := Text.trimStart rest
  if rest.isEmpty then .error .incomplete
  let (offset, rest) ← readOffset rest
  if !(Text.trimStart rest).isEmpty then .error .tooLong
  ofLocal year month day hour minute second fraction offset

def padded (width n : Nat) : List Char :=
  let digits := Nat.toDigits 10 n
  List.replicate (width - digits.length) '0' ++ digits

/-- The date and time in UTC, to the second. A year of more than four digits has a sign. -/
def write (instant : Instant) : String :=
  let (year, month, day) := dateOfDays (instant.seconds / 86400)
  let time := (instant.seconds % 86400).toNat
  let second := time % 60 + instant.nanoseconds / 1000000000
  let sign := if year < 0 then ['-'] else if 9999 < year then ['+'] else []
  String.ofList <| sign ++ padded 4 year.natAbs ++ '-' :: padded 2 month ++ '-' :: padded 2 day ++
    'T' :: padded 2 (time / 3600) ++ ':' :: padded 2 (time / 60 % 60) ++ ':' :: padded 2 second ++
    ['Z']

end Instant

end Registrar
