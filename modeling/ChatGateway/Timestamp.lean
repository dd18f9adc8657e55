import ChatGateway.Json.Reader
import ChatGateway.Text

namespace ChatGateway

/-! Moments of log entries, in universal time. Texts are read in a relaxed form of
RFC 3339: blanks may stand before every number and mark, and the offset may be
written with colons or blanks, or as `Z` or `UTC`. -/

/-- Seconds since 1970 and billionths of a second; within a leap second there are
more than a billion of them. -/
structure Timestamp where
  seconds : Int
  nanoseconds : Nat
  deriving DecidableEq, Inhabited

namespace Timestamp

/-! The calendar. Years begin in March here, so that a leap day is the last day
of its year. -/

def isLeapYear (year : Int) : Bool :=
  year % 4 == 0 && (year % 100 != 0 || year % 400 == 0)

def daysInMonth (year : Int) (month : Nat) : Nat :=
  if month = 2 then (if isLeapYear year then 29 else 28)
  else if month = 4 ∨ month = 6 ∨ month = 9 ∨ month = 11 then 30
  else 31

/-- The days from 1 March to the first day of a month. -/
def daysBeforeMonth (month : Nat) : Nat :=
  (153 * ((month + 9) % 12) + 2) / 5

def dayNumber (year : Int) (month day : Nat) : Int :=
  let marchYear := if month ≤ 2 then year - 1 else year
  marchYear * 365 + marchYear / 4 - marchYear / 100 + marchYear / 400 +
    daysBeforeMonth month + day - 719469

def dateOf (days : Int) : Int × Nat × Nat :=
  let shifted := days + 719468
  let era := shifted / 146097
  let dayOfEra := (shifted % 146097).toNat
  let yearOfEra := (dayOfEra - dayOfEra / 1460 + dayOfEra / 36524 - dayOfEra / 146096) / 365
  let dayOfYear := dayOfEra - (365 * yearOfEra + yearOfEra / 4 - yearOfEra / 100)
  let marchMonth := (5 * dayOfYear + 2) / 153
  let month := if marchMonth < 10 then marchMonth + 3 else marchMonth - 9
  let year := era * 400 + yearOfEra + (if month ≤ 2 then 1 else 0)
  (year, month, dayOfYear - (153 * marchMonth + 2) / 5 + 1)

example : dayNumber 1970 1 1 = 0 ∧ dayNumber 2000 3 1 = 11017 ∧ dayNumber 1969 12 31 = -1 := by
  decide

example : dateOf 0 = (1970, 1, 1) ∧ dateOf 11016 = (2000, 2, 29) ∧
    dateOf (-1) = (1969, 12, 31) := by decide

/-! Writing. -/

def padded (width value : Nat) : List Char :=
  let digits := Nat.toDigits 10 value
  List.replicate (width - digits.length) '0' ++ digits

/-- Four digits; a year beyond them has a sign. -/
def yearChars (year : Int) : List Char :=
  if 0 ≤ year ∧ year ≤ 9999 then padded 4 year.toNat
  else (if year < 0 then '-' else '+') :: padded 4 year.natAbs

/-- As few groups of three digits as are exact. -/
def fractionChars (nanoseconds : Nat) : List Char :=
  if nanoseconds = 0 then []
  else if nanoseconds % 1000000 = 0 then '.' :: padded 3 (nanoseconds / 1000000)
  else if nanoseconds % 1000 = 0 then '.' :: padded 6 (nanoseconds / 1000)
  else '.' :: padded 9 nanoseconds

def render (timestamp : Timestamp) : String :=
  let (year, month, day) := dateOf (timestamp.seconds / 86400)
  let second := (timestamp.seconds % 86400).toNat
  let leap := timestamp.nanoseconds / 1000000000
  String.ofList (yearChars year ++ '-' :: padded 2 month ++ '-' :: padded 2 day ++
    'T' :: padded 2 (second / 3600) ++ ':' :: padded 2 (second / 60 % 60) ++
    ':' :: padded 2 (second % 60 + leap) ++
    fractionChars (timestamp.nanoseconds % 1000000000) ++ ['Z'])

example : render ⟨1577934245, 120000000⟩ = "2020-01-02T03:04:05.120Z" := by decide +kernel

/-! Reading. -/

def skipBlanks (input : List Char) : List Char := input.dropWhile Text.isBlank

def number? (width low high : Nat) (input : List Char) : Option (Nat × List Char) :=
  let input := skipBlanks input
  let digits := (input.take width).takeWhile Char.isDigit
  let value := digitsValue digits
  if digits.isEmpty ∨ value < low ∨ high < value then none
  else some (value, input.drop digits.length)

/-- A year has up to four digits, and any number of them after a sign. -/
def year? (input : List Char) : Option (Int × List Char) :=
  match skipBlanks input with
  | '-' :: rest =>
      (number? rest.length 0 (Nat.pow 2 31) rest).map fun (year, rest) => (-year, rest)
  | '+' :: rest =>
      (number? rest.length 0 (Nat.pow 2 31 - 1) rest).map fun (year, rest) => (year, rest)
  | input => (number? 4 0 9999 input).map fun (year, rest) => (year, rest)

/-- What follows a mark, blanks before it ignored. -/
def mark? (char : Char) (input : List Char) : Option (List Char) :=
  match skipBlanks input with
  | head :: rest => if head = char then some rest else none
  | [] => none

def isKnownYear (year : Int) : Bool :=
  -262143 ≤ year && year ≤ 262142

def date? (input : List Char) : Option (Int × List Char) := do
  let (year, input) ← year? input
  let (month, input) ← number? 2 1 12 (← mark? '-' input)
  let (day, input) ← number? 2 1 31 (← mark? '-' input)
  if isKnownYear year ∧ day ≤ daysInMonth year month then
    some (dayNumber year month day, input)
  else none

/-- The billionths after a point; digits beyond the ninth are ignored. -/
def fraction? : List Char → Option (Nat × List Char)
  | '.' :: rest =>
      let digits := rest.takeWhile Char.isDigit
      let taken := digits.take 9
      if digits.isEmpty then none
      else some (digitsValue taken * Nat.pow 10 (9 - taken.length), rest.drop digits.length)
  | rest => some (0, rest)

def time? (input : List Char) : Option (Nat × Nat × List Char) := do
  let (hour, input) ← number? 2 0 23 input
  let (minute, input) ← number? 2 0 59 (← mark? ':' input)
  let (second, input) ← number? 2 0 60 (← mark? ':' input)
  let (fraction, input) ← fraction? input
  let start := hour * 3600 + minute * 60
  if second = 60 then some (start + 59, 1000000000 + fraction, input)
  else some (start + second, fraction, input)

def isSeparator (char : Char) : Bool := char == ':' || Text.isBlank char

/-- Hours and minutes of an offset, in seconds; less than a day. -/
def offsetSize? : List Char → Option (Nat × List Char)
  | first :: second :: rest =>
      match rest.dropWhile isSeparator with
      | third :: fourth :: rest =>
          let digits := [first, second, third, fourth]
          let hours := digitsValue [first, second]
          let minutes := digitsValue [third, fourth]
          if digits.all Char.isDigit ∧ minutes < 60 ∧ hours < 24 then
            some (hours * 3600 + minutes * 60, rest)
          else none
      | _ => none
  | _ => none

def offset? (input : List Char) : Option (Int × List Char) :=
  match skipBlanks input with
  | 'Z' :: rest | 'z' :: rest => some (0, rest)
  | '+' :: rest => (offsetSize? rest).map fun (size, rest) => ((size : Int), rest)
  | '-' :: rest | '−' :: rest => (offsetSize? rest).map fun (size, rest) => (-(size : Int), rest)
  | first :: second :: third :: rest =>
      if Text.lowerAscii [first, second, third] = ['u', 't', 'c'] then some (0, rest) else none
  | _ => none

def afterSeparator? : List Char → Option (List Char)
  | 'T' :: rest | 't' :: rest | ' ' :: rest => some rest
  | _ => none

def readChars (text : List Char) : Option Timestamp := do
  let (days, input) ← date? text
  let (second, nanoseconds, input) ← time? (← afterSeparator? input)
  let (offset, input) ← offset? input
  if (skipBlanks input).isEmpty then
    some ⟨days * 86400 + second - offset, nanoseconds⟩
  else none

def read (text : String) : Option Timestamp :=
  readChars text.toList

example : read "2020-01-02 05:04:05.1239+02:00" = some ⟨1577934245, 123900000⟩ := by
  decide +kernel

example : read "2020-01-02T03:04:05" = none ∧ read "2020-02-30T03:04:05Z" = none := by
  decide +kernel

end Timestamp

end ChatGateway
