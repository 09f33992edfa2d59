import SkillScan.Text.Blank
import SkillScan.Text.DecimalDigit
import SkillScan.Text.WordChar

/-!
# Kinds of characters in signatures

The signatures of the built-in rules are put together from these kinds of characters.
-/

namespace SkillScan.Signature

open Text

/-- A single or double quote. -/
def isQuote (char : Char) : Bool :=
  char == '\x27' || char == '\x22'

/-- A quote that may open a string in a script, the backquote included. -/
def isStringMark (char : Char) : Bool :=
  isQuote char || char == '\x60'

/-- Any character that does not end a string in a script. -/
def isInString (char : Char) : Bool :=
  !isStringMark char

/-- An ASCII letter or digit. -/
def isLetterOrDigit (char : Char) : Bool :=
  char.isAlphanum

/-- A character of a bot token. -/
def isTokenChar (char : Char) : Bool :=
  isLetterOrDigit char || char == '_' || char == '-'

/-- Any character but a newline. -/
def isOnLine (char : Char) : Bool :=
  char != '\n'

/-- Any character but a blank. -/
def isSolid (char : Char) : Bool :=
  !isBlank char

/-- A capital ASCII letter or the underscore. -/
def isCapital (char : Char) : Bool :=
  char.isUpper || char == '_'

/-- A character of the clause between `import` and `from`. -/
def isClauseChar (char : Char) : Bool :=
  isWord char || isBlank char || ['*', '\x7b', '\x7d', '$', ','].contains char

end SkillScan.Signature
