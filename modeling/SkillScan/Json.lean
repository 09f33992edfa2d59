import SkillScan.Text.Numeral

/-!
# JSON documents

The values that a report in JSON consists of, and their written form: one member a line, indented by two
spaces a level, with every character beyond printable ASCII escaped. A character above U+FFFF is escaped
as the pair of its UTF-16 units.
-/

namespace SkillScan

/-- A JSON value. The fields of an object keep their order. -/
inductive Json where
  | null
  | bool (value : Bool)
  | int (value : Int)
  | text (value : String)
  | list (items : List Json)
  | object (fields : List (String × Json))

namespace Json

open Text

/-- A backslash, `u` and four hexadecimal digits. -/
def unitEscape (unit : Nat) : List Char :=
  '\\' :: 'u' :: hexDigits 4 unit

/-- How one character is written inside a string. -/
def escapedChar (char : Char) : List Char :=
  let code := char.toNat
  if char == '\x22' || char == '\\' then ['\\', char]
  else if char == '\n' then ['\\', 'n']
  else if char == '\r' then ['\\', 'r']
  else if char == '\t' then ['\\', 't']
  else if code == 8 then ['\\', 'b']
  else if code == 12 then ['\\', 'f']
  else if 32 ≤ code && code < 127 then [char]
  else if code < 0x10000 then unitEscape code
  else
    unitEscape (0xD800 + (code - 0x10000) / 0x400) ++ unitEscape (0xDC00 + (code - 0x10000) % 0x400)

/-- A string as it is written. -/
def writtenText (text : String) : List Char :=
  '\x22' :: (text.toList.flatMap escapedChar ++ ['\x22'])

/-- A new line, indented to a level. -/
def newLine (level : Nat) : List Char :=
  '\n' :: List.replicate (2 * level) ' '

mutual

/-- The written form of a value whose line is indented to a level. -/
def written (level : Nat) : Json → List Char
  | .null => "null".toList
  | .bool true => "true".toList
  | .bool false => "false".toList
  | .int value => (toString value).toList
  | .text value => writtenText value
  | .list [] => ['[', ']']
  | .list (first :: rest) =>
    '[' :: (newLine (level + 1) ++ written (level + 1) first ++ writtenItems (level + 1) rest ++
      newLine level ++ [']'])
  | .object [] => ['\x7b', '\x7d']
  | .object ((name, value) :: rest) =>
    '\x7b' :: (newLine (level + 1) ++ writtenText name ++ [':', ' '] ++ written (level + 1) value ++
      writtenFields (level + 1) rest ++ newLine level ++ ['\x7d'])

/-- The written form of the items after the first. -/
def writtenItems (level : Nat) : List Json → List Char
  | [] => []
  | item :: rest => ',' :: (newLine level ++ written level item ++ writtenItems level rest)

/-- The written form of the fields after the first. -/
def writtenFields (level : Nat) : List (String × Json) → List Char
  | [] => []
  | (name, value) :: rest =>
    ',' :: (newLine level ++ writtenText name ++ [':', ' '] ++ written level value ++
      writtenFields level rest)

end

/-- The document that holds a value. -/
def document (value : Json) : String :=
  String.ofList (written 0 value)

end Json

end SkillScan
