import SkillScan.Text.Numeral
import SkillScan.Text.Printable

/-!
# Quoted texts

Messages show names and paths in quotes. Single quotes are used unless the text holds a single quote and
no double one. The quote, the backslash and the characters that cannot be printed are escaped.
-/

namespace SkillScan.Text

/-- The mark that stands around a text. -/
def quoteMark (text : List Char) : Char :=
  if text.contains '\x27' && !text.contains '\x22' then '\x22' else '\x27'

/-- How one character is written between two quote marks. -/
def escaped (mark char : Char) : List Char :=
  if char == mark || char == '\\' then ['\\', char]
  else if char == '\n' then ['\\', 'n']
  else if char == '\r' then ['\\', 'r']
  else if char == '\t' then ['\\', 't']
  else if isPrintable char then [char]
  else if char.toNat < 0x100 then '\\' :: 'x' :: hexDigits 2 char.toNat
  else if char.toNat < 0x10000 then '\\' :: 'u' :: hexDigits 4 char.toNat
  else '\\' :: 'U' :: hexDigits 8 char.toNat

/-- A text between quote marks. -/
def quoted (text : String) : String :=
  let chars := text.toList
  let mark := quoteMark chars
  String.ofList (mark :: (chars.flatMap (escaped mark)) ++ [mark])

end SkillScan.Text
