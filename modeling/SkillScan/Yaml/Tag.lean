import SkillScan.Text.Line
import SkillScan.Yaml.Moment
import SkillScan.Yaml.Scalar.Quoted

/-!
# Tags

A tag says what kind of value a node stands for. A plain scalar that bears no tag gets one from its form:
words for truth and for nothing, integers in several bases, fractions, days and times, and two marks that
have a meaning as keys of mappings. Any other form is a text.
-/

namespace SkillScan.Yaml

/-- The kinds of values. -/
inductive Tag where
  | null
  | bool
  | int
  | float
  | binary
  | timestamp
  /-- The key whose value is merged into a mapping. -/
  | merge
  /-- The key of a mapping's main value. -/
  | value
  | str
  | seq
  | map
  | set
  | omap
  | pairs
  /-- A kind of value that is not known. -/
  | other
  deriving DecidableEq

namespace Tag

/-- The beginning of the known tags. -/
def namespaceText : String := "tag:yaml.org,2002:"

/-- The known tags by their names. -/
def known : List (String × Tag) := [
  ("null", .null), ("bool", .bool), ("int", .int), ("float", .float), ("binary", .binary),
  ("timestamp", .timestamp), ("merge", .merge), ("value", .value), ("str", .str), ("seq", .seq),
  ("map", .map), ("set", .set), ("omap", .omap), ("pairs", .pairs)]

/-- The tag of a given text. -/
def ofText (text : String) : Tag :=
  ((known.map fun (name, tag) => (namespaceText ++ name, tag)).lookup text).getD .other

/-! ## Forms of scalars -/

/-- A text without a newline at its end. -/
def withoutLastNewline (text : List Char) : List Char :=
  if text.getLast? = some '\n' then text.dropLast else text

/-- A number without its sign. -/
def unsigned (text : List Char) : List Char :=
  match text with
  | '-' :: rest | '+' :: rest => rest
  | _ => text

/-- Whether a character is a decimal digit or the underscore that may stand between digits. -/
def isDigitOrBar (char : Char) : Bool :=
  char.isDigit || char == '_'

/-- Whether a text is a place of a number in base sixty. -/
def isSixtieth (text : List Char) : Bool :=
  match text with
  | [digit] => digit.isDigit
  | [tens, ones] => '0' ≤ tens && tens ≤ '5' && ones.isDigit
  | _ => false

/-- Whether a text is a decimal digit with digits and underscores behind it. -/
def isDigitsAndBars (text : List Char) : Bool :=
  text.head?.any Char.isDigit && text.all isDigitOrBar

/-- Whether an unsigned text consists of the first place of a number in base sixty and at least one other,
where `isLast` tells what the last place may be. -/
def hasSixtieths (isLast : List Char → Bool) (text : List Char) : Bool :=
  match Text.splitAt ':' text with
  | first :: second :: others =>
    isDigitsAndBars first && (second :: others).dropLast.all isSixtieth &&
      isLast ((second :: others).getLastD [])
  | _ => false

/-- Whether a text has the form of an integer. -/
def isInteger (text : List Char) : Bool :=
  match unsigned text with
  | '0' :: 'b' :: rest => !rest.isEmpty && rest.all fun char => char == '0' || char == '1' || char == '_'
  | '0' :: 'x' :: rest => !rest.isEmpty && rest.all fun char => Text.isHexDigit char || char == '_'
  | '0' :: rest => rest.all fun char => ('0' ≤ char && char ≤ '7') || char == '_'
  | body => body.head?.any Char.isDigit && (body.all isDigitOrBar || hasSixtieths isSixtieth body)

/-- Whether a text is an exponent or nothing. -/
def isExponentOrNothing (text : List Char) : Bool :=
  match text with
  | [] => true
  | mark :: sign :: digits =>
    (mark == 'e' || mark == 'E') && (sign == '-' || sign == '+') && !digits.isEmpty &&
      digits.all Char.isDigit
  | [_] => false

/-- Whether a text is a fraction that begins with digits before its point. -/
def isPointed (text : List Char) : Bool :=
  match text.dropWhile isDigitOrBar with
  | '.' :: rest =>
    text.head?.any Char.isDigit && isExponentOrNothing (rest.dropWhile isDigitOrBar)
  | _ => false

/-- Whether a text is a fraction that begins with its point. -/
def isPointFirst (text : List Char) : Bool :=
  match text with
  | '.' :: digit :: rest => digit.isDigit && isExponentOrNothing (rest.dropWhile isDigitOrBar)
  | _ => false

/-- Whether a text is the last place of a fraction in base sixty. -/
def isLastSixtieth (text : List Char) : Bool :=
  match text.dropWhile Char.isDigit with
  | '.' :: rest => isSixtieth (text.takeWhile Char.isDigit) && rest.all isDigitOrBar
  | _ => false

/-- Whether a text has the form of a fraction, of infinity or of no number at all. -/
def isFraction (text : List Char) : Bool :=
  isPointed (unsigned text) || isPointFirst text || hasSixtieths isLastSixtieth (unsigned text) ||
    [".inf", ".Inf", ".INF"].contains (String.ofList (unsigned text)) ||
    [".nan", ".NaN", ".NAN"].contains (String.ofList text)

/-- The words for true and false. -/
def truthWords : List String := [
  "yes", "Yes", "YES", "no", "No", "NO", "true", "True", "TRUE", "false", "False", "FALSE", "on", "On",
  "ON", "off", "Off", "OFF"]

/-- The words for nothing. -/
def nullWords : List String := ["~", "null", "Null", "NULL"]

/-- Whether a text has the form of a day or of a moment. -/
def isMoment (text : List Char) : Bool :=
  (WrittenMoment.ofText? text).any (·.isPlain)

/-- The tag that the form of a plain scalar gives it. -/
def ofForm (text : String) : Tag :=
  let form := withoutLastNewline text.toList
  let word := String.ofList form
  if truthWords.contains word then .bool
  else if isFraction form then .float
  else if isInteger form then .int
  else if word = "<<" then .merge
  else if text = "" || nullWords.contains word then .null
  else if isMoment form then .timestamp
  else if word = "=" then .value
  else if ["!", "&", "*"].contains word then .other
  else .str

end Tag

end SkillScan.Yaml
