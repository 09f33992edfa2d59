import SkillScan.Timestamp
import SkillScan.Yaml.Error

/-!
# Dates and times in YAML

A scalar may hold a day, or a day with a time, a fraction of a second and an offset from universal time.
Reading finds the numbers; whether the calendar has such a day and the clock such a time is checked
afterwards.
-/

namespace SkillScan.Yaml

/-- An offset from universal time as it is written. -/
inductive WrittenOffset where
  | universal
  | hours (negative : Bool) (hours minutes : List Char)

/-- A time of day as it is written. -/
structure WrittenTime where
  hour : List Char
  minute : List Char
  second : List Char
  /-- The digits of the fraction of a second. -/
  fraction : List Char
  offset : Option WrittenOffset

/-- A day, with or without a time, as it is written. -/
structure WrittenMoment where
  year : List Char
  month : List Char
  day : List Char
  time : Option WrittenTime

namespace WrittenMoment

/-- Reads `least` to `most` digits, as many as there are. -/
def digits? (least most : Nat) (text : List Char) : Option (List Char × List Char) :=
  let found := (text.take most).takeWhile Char.isDigit
  if least ≤ found.length then some (found, text.drop found.length) else none

/-- Reads a character. -/
def mark? (mark : Char) : List Char → Option (List Char)
  | [] => none
  | char :: rest => if char == mark then some rest else none

/-- Whether a character is a space or a tab. -/
def isGap (char : Char) : Bool :=
  char == ' ' || char == '\t'

/-- Reads what separates a day from a time. -/
def separator? (text : List Char) : Option (List Char) :=
  match text with
  | 'T' :: rest | 't' :: rest => some rest
  | _ => if text.head?.any isGap then some (text.dropWhile isGap) else none

/-- Reads the minutes of an offset, which may be left out. -/
def offsetMinutes? (text : List Char) : Option (List Char × List Char) :=
  match text with
  | ':' :: rest => digits? 2 2 rest
  | _ => some ([], text)

/-- Reads an offset that ends the text, or nothing at the end of the text. -/
def offset? (text : List Char) : Option (Option WrittenOffset) :=
  match text, text.dropWhile isGap with
  | [], _ => some none
  | _, ['Z'] => some (some .universal)
  | _, sign :: rest => do
    guard (sign == '-' || sign == '+')
    let (hours, rest) ← digits? 1 2 rest
    let (minutes, rest) ← offsetMinutes? rest
    guard rest.isEmpty
    return some (.hours (sign == '-') hours minutes)
  | _, [] => none

/-- Reads the fraction of a second, which may be left out. -/
def fraction (text : List Char) : List Char × List Char :=
  match text with
  | '.' :: rest => (rest.takeWhile Char.isDigit, rest.dropWhile Char.isDigit)
  | _ => ([], text)

/-- Reads a time up to the end of the text. -/
def time? (text : List Char) : Option WrittenTime := do
  let (hour, rest) ← digits? 1 2 text
  let (minute, rest) ← digits? 2 2 (← mark? ':' rest)
  let (second, rest) ← digits? 2 2 (← mark? ':' rest)
  let (fraction, rest) := fraction rest
  return ⟨hour, minute, second, fraction, ← offset? rest⟩

/-- Reads a day with or without a time. -/
def ofText? (text : List Char) : Option WrittenMoment := do
  let (year, rest) ← digits? 4 4 text
  let (month, rest) ← digits? 1 2 (← mark? '-' rest)
  let (day, rest) ← digits? 1 2 (← mark? '-' rest)
  if rest.isEmpty then return ⟨year, month, day, none⟩
  else return ⟨year, month, day, some (← time? (← separator? rest))⟩

/-- Whether a day stands in full, or a time stands behind it. -/
def isPlain (written : WrittenMoment) : Bool :=
  written.time.isSome || (written.month.length == 2 && written.day.length == 2)

/-- The number that decimal digits stand for. -/
def number (digits : List Char) : Nat :=
  digits.foldl (fun value digit => 10 * value + (digit.toNat - 48)) 0

/-- Whether a year has a 29th of February. -/
def isLeapYear (year : Nat) : Bool :=
  year % 4 == 0 && (year % 100 != 0 || year % 400 == 0)

/-- The number of days of a month. -/
def daysOfMonth (year month : Nat) : Nat :=
  if month = 2 then if isLeapYear year then 29 else 28
  else if month = 4 || month = 6 || month = 9 || month = 11 then 30
  else 31

/-- The day, if the calendar has it. -/
def date (written : WrittenMoment) : Except ConversionError Date :=
  let year := number written.year
  let month := number written.month
  let day := number written.day
  if year = 0 then .error (.yearOutOfRange year)
  else if month < 1 || 12 < month then .error .monthOutOfRange
  else if day < 1 || daysOfMonth year month < day then .error .dayOutOfRange
  else .ok ⟨year, month, day⟩

/-- The seconds of an offset, which must be less than a day. -/
def offsetSeconds : WrittenOffset → Except ConversionError Int
  | .universal => .ok 0
  | .hours negative hours minutes =>
    let size : Int := 3600 * number hours + 60 * number minutes
    let seconds := if negative then -size else size
    if size < secondsOfDay then .ok seconds else .error (.offsetOutOfRange seconds)

/-- The microseconds that the digits of a fraction stand for. -/
def microseconds (fraction : List Char) : Nat :=
  let digits := fraction.take 6
  number (digits ++ List.replicate (6 - digits.length) '0')

/-- The moment, if calendar and clock have it. -/
def timestamp (written : WrittenMoment) (time : WrittenTime) : Except ConversionError Timestamp := do
  let offset ← match time.offset with
    | none => pure none
    | some offset => some <$> offsetSeconds offset
  let date ← written.date
  let hour := number time.hour
  let minute := number time.minute
  let second := number time.second
  if 24 ≤ hour then .error .hourOutOfRange
  else if 60 ≤ minute then .error .minuteOutOfRange
  else if 60 ≤ second then .error .secondOutOfRange
  else return ⟨date, hour, minute, second, microseconds time.fraction, offset⟩

end WrittenMoment

end SkillScan.Yaml
