import SkillScan.Text.Line

/-!
# Property lists

Values made of texts and integers, and their form in XML: one element a line, indented by one tab a level.
A text must not hold control characters other than tabs and line ends, and an integer must fit into 64
bits with or without a sign. The first value that breaks one of these rules is reported.
-/

namespace SkillScan

/-- A value of a property list. -/
inductive PropertyList where
  | text (value : String)
  | integer (value : Int)
  | array (items : List PropertyList)
  | dictionary (fields : List (String × PropertyList))

/-- Why a value cannot be written. -/
inductive PropertyListError where
  | controlCharacter
  | integerOutOfRange (value : Int)

/-- The wording of the error. -/
def PropertyListError.message : PropertyListError → String
  | .controlCharacter => "strings can't contain control characters; use bytes instead"
  | .integerOutOfRange value => toString value

namespace PropertyList

/-- Whether a character may not stand in a text. -/
def isControl (char : Char) : Bool :=
  let code := char.toNat
  code < 9 || code == 11 || code == 12 || (14 ≤ code && code < 32)

/-- How a character stands in an element. -/
def escapedChar (char : Char) : List Char :=
  if char == '&' then "&amp;".toList
  else if char == '<' then "&lt;".toList
  else if char == '>' then "&gt;".toList
  else [char]

/-- A text as it stands in an element, with one newline for every line end. -/
def escaped (text : String) : Except PropertyListError String :=
  if text.toList.any isControl then .error .controlCharacter
  else .ok (String.ofList ((Text.unifyNewlines text.toList).flatMap escapedChar))

/-- The least integer that can be written. -/
def leastInteger : Int := -0x8000000000000000

/-- The first integer that is too large to be written. -/
def integerBound : Int := 0x10000000000000000

/-- An integer as it stands in an element. -/
def writtenInteger (value : Int) : Except PropertyListError String :=
  if leastInteger ≤ value && value < integerBound then .ok (toString value)
  else .error (.integerOutOfRange value)

/-- A line at a level. -/
def lineAt (level : Nat) (content : String) : String :=
  String.ofList (List.replicate level '\t') ++ content

/-- A line that holds an element and its content. -/
def element (level : Nat) (tag content : String) : String :=
  lineAt level ("<" ++ tag ++ ">" ++ content ++ "</" ++ tag ++ ">")

/-- The lines of an element that holds other lines. -/
def enclosing (level : Nat) (tag : String) (inner : List String) : List String :=
  if inner.isEmpty then [lineAt level ("<" ++ tag ++ "/>")]
  else [lineAt level ("<" ++ tag ++ ">")] ++ inner ++ [lineAt level ("</" ++ tag ++ ">")]

mutual

/-- The lines of a value at a level. -/
def lines (level : Nat) : PropertyList → Except PropertyListError (List String)
  | .text value => do
    return [element level "string" (← escaped value)]
  | .integer value => do
    return [element level "integer" (← writtenInteger value)]
  | .array items => do
    return enclosing level "array" (← itemLines (level + 1) items)
  | .dictionary fields => do
    return enclosing level "dict" (← fieldLines (level + 1) fields)

/-- The lines of the items of an array. -/
def itemLines (level : Nat) : List PropertyList → Except PropertyListError (List String)
  | [] => .ok []
  | item :: rest => do
    let first ← lines level item
    return first ++ (← itemLines level rest)

/-- The lines of the fields of a dictionary. -/
def fieldLines (level : Nat) : List (String × PropertyList) → Except PropertyListError (List String)
  | [] => .ok []
  | (name, value) :: rest => do
    let key := element level "key" (← escaped name)
    let first ← lines level value
    return key :: first ++ (← fieldLines level rest)

end

/-- The lines before the value. -/
def opening : List String := [
  "<?xml version=\"1.0\" encoding=\"UTF-8\"?>",
  "<!DOCTYPE plist PUBLIC \"-//Apple//DTD PLIST 1.0//EN\" " ++
    "\"http://www.apple.com/DTDs/PropertyList-1.0.dtd\">",
  "<plist version=\"1.0\">"]

/-- The document that holds a value. -/
def document (value : PropertyList) : Except PropertyListError String := do
  return String.join ((opening ++ (← lines 0 value) ++ ["</plist>"]).map (· ++ "\n"))

end PropertyList

end SkillScan
