import SkillScan.Text.Numeral

/-!
# Timestamps

Days of the calendar and moments of a day, and the form in which a moment is written: date and time with a
`T` between them, a fraction only where there is one, and the offset from universal time where it is known.
-/

namespace SkillScan

/-- A day of the calendar. -/
structure Date where
  year : Nat
  month : Nat
  day : Nat
  deriving DecidableEq

/-- The day that comes some days after the first of March of the year zero. Years are counted from March
on, so that a leap day ends its year, and in cycles of four hundred. -/
def Date.ofDays (days : Nat) : Date :=
  let day := days % 146097
  let year := (day - day / 1460 + day / 36524 - day / 146096) / 365
  let dayOfYear := day - (365 * year + year / 4 - year / 100)
  let month := (5 * dayOfYear + 2) / 153
  let january := if month < 10 then 0 else 1
  ⟨400 * (days / 146097) + year + january, month + 3 - 12 * january,
    dayOfYear - (153 * month + 2) / 5 + 1⟩

/-- How far local time is ahead of universal time. -/
structure UtcOffset where
  microseconds : Int
  deriving DecidableEq

namespace UtcOffset

/-- An offset of whole seconds. -/
def ofSeconds (seconds : Int) : UtcOffset := ⟨1000000 * seconds⟩

instance (seconds : Nat) : OfNat UtcOffset seconds := ⟨ofSeconds seconds⟩

instance : Coe (Option Int) (Option UtcOffset) := ⟨Option.map ofSeconds⟩

end UtcOffset

/-- A moment. -/
structure Timestamp where
  date : Date
  hour : Nat
  minute : Nat
  second : Nat
  microsecond : Nat
  /-- The offset of local time, if it is known. -/
  offset : Option UtcOffset
  deriving DecidableEq

namespace Timestamp

open Text

/-- The fraction of a second in writing, which is left out where there is none. -/
def fractionText (microsecond : Nat) : String :=
  if microsecond = 0 then "" else "." ++ zeroPadded 6 microsecond

/-- An offset in writing. Its seconds are shown only if there are any, or a fraction of one. -/
def offsetText (offset : UtcOffset) : String :=
  let size := offset.microseconds.natAbs
  let seconds := size / 1000000
  let rest := if size % 60000000 = 0 then "" else ":" ++ zeroPadded 2 (seconds % 60)
  (if offset.microseconds < 0 then "-" else "+") ++ zeroPadded 2 (seconds / 3600) ++ ":" ++
    zeroPadded 2 (seconds / 60 % 60) ++ rest ++ fractionText (size % 1000000)

/-- The date in writing. -/
def dateText (date : Date) : String :=
  zeroPadded 4 date.year ++ "-" ++ zeroPadded 2 date.month ++ "-" ++ zeroPadded 2 date.day

/-- The moment in writing. -/
def text (moment : Timestamp) : String :=
  dateText moment.date ++ "T" ++ zeroPadded 2 moment.hour ++ ":" ++ zeroPadded 2 moment.minute ++ ":" ++
    zeroPadded 2 moment.second ++ fractionText moment.microsecond ++
      (moment.offset.map offsetText).getD ""

/-- The moment in the form of log records: a space between date and time, and thousandths of a second after
a comma. -/
def recordText (moment : Timestamp) : String :=
  dateText moment.date ++ " " ++ zeroPadded 2 moment.hour ++ ":" ++ zeroPadded 2 moment.minute ++ ":" ++
    zeroPadded 2 moment.second ++ "," ++ zeroPadded 3 (moment.microsecond / 1000)

/-- The moment some seconds and microseconds after the beginning of 1970, in universal time. -/
def sinceEpoch (seconds microsecond : Nat) : Timestamp where
  date := .ofDays (seconds / 86400 + 719468)
  hour := seconds / 3600 % 24
  minute := seconds / 60 % 60
  second := seconds % 60
  microsecond := microsecond
  offset := some 0

end Timestamp

end SkillScan
