import SkillScan.Text.Quoted
import SkillScan.Text.Utf8

/-!
# Errors in YAML documents

A document that breaks the rules of the language is malformed, and one whose bytes are not UTF-8 cannot be
decoded. A well-formed document may still hold a scalar that its tag does not admit; such a scalar cannot be
converted to a value.
-/

namespace SkillScan.Yaml

/-- Why a scalar cannot be converted to the value that its tag asks for. -/
inductive ConversionError where
  /-- The text of a truth value is none of the known words. -/
  | unknownWord (text : String)
  /-- The text of a number is empty. -/
  | emptyNumber
  /-- The text is no integer in a base. -/
  | notInteger (base : Nat) (text : String)
  /-- The text is a decimal integer with too many digits. -/
  | tooManyDigits (count : Nat)
  /-- The text is no decimal fraction. -/
  | notFraction (text : String)
  /-- A place of a number in base sixty is too high. -/
  | placeTooHigh
  /-- The text is no date and time. -/
  | notTimestamp
  /-- A date and time is asked of something that is no text. -/
  | timestampOfMapping
  | yearOutOfRange (year : Nat)
  | monthOutOfRange
  | dayOutOfRange
  | hourOutOfRange
  | minuteOutOfRange
  | secondOutOfRange
  /-- An offset from universal time, in seconds, is a day or more. -/
  | offsetOutOfRange (seconds : Int)
  /-- An escape stands for a number that no character has. -/
  | noSuchCharacter
  /-- An escape stands for a number that does not fit into 32 bits with a sign. -/
  | codeTooLarge
  /-- The main value of a mapping is the mapping itself. -/
  | endless

/-- The most decimal digits of an integer. -/
def maxIntegerDigits : Nat := 4300

/-- The seconds of a day. -/
def secondsOfDay : Int := 86400

/-- A span of time in writing, in days and seconds, where the seconds are not negative. -/
def spanText (seconds : Int) : String :=
  let days := seconds / secondsOfDay
  let rest := seconds % secondsOfDay
  let parts := (if days = 0 then [] else ["days=" ++ toString days]) ++
    (if rest = 0 then [] else ["seconds=" ++ toString rest])
  "datetime.timedelta(" ++ (if parts.isEmpty then "0" else ", ".intercalate parts) ++ ")"

/-- The wording of the error. -/
def ConversionError.message : ConversionError → String
  | .unknownWord text => Text.quoted text
  | .emptyNumber => "string index out of range"
  | .notInteger base text =>
    "invalid literal for int() with base " ++ toString base ++ ": " ++
      String.ofList ((Text.quoted text).toList.take 200)
  | .tooManyDigits count =>
    "Exceeds the limit (" ++ toString maxIntegerDigits ++
      " digits) for integer string conversion: value has " ++ toString count ++
      " digits; use sys.set_int_max_str_digits() to increase the limit"
  | .notFraction text => "could not convert string to float: " ++ Text.quoted text
  | .placeTooHigh => "int too large to convert to float"
  | .notTimestamp => "'NoneType' object has no attribute 'groupdict'"
  | .timestampOfMapping => "expected string or bytes-like object, got 'list'"
  | .yearOutOfRange year => "year " ++ toString year ++ " is out of range"
  | .monthOutOfRange => "month must be in 1..12"
  | .dayOutOfRange => "day is out of range for month"
  | .hourOutOfRange => "hour must be in 0..23"
  | .minuteOutOfRange => "minute must be in 0..59"
  | .secondOutOfRange => "second must be in 0..59"
  | .offsetOutOfRange seconds =>
    "offset must be a timedelta strictly between -timedelta(hours=24) and timedelta(hours=24), not " ++
      spanText seconds ++ "."
  | .noSuchCharacter => "chr() arg not in range(0x110000)"
  | .codeTooLarge => "Python int too large to convert to C int"
  | .endless => "maximum recursion depth exceeded"

/-- What is wrong with a document. -/
inductive Error where
  | malformed (reason : String)
  | undecodable (error : Text.Utf8Error)
  | conversion (error : ConversionError)

/-- The wording of the error. -/
def Error.message : Error → String
  | .malformed reason => reason
  | .undecodable error => error.message
  | .conversion error => error.message

end SkillScan.Yaml
