/-!
# Words of the shell

A text becomes one word of a shell command: it stands as it is if all its characters are plain, and
otherwise between single quotes. A single quote cannot stand between single quotes, so it closes them, is
written between double quotes and opens them again.
-/

namespace SkillScan.ShellWord

/-- Whether a character means nothing to the shell. -/
def isPlain (char : Char) : Bool :=
  char.isAlphanum || ['_', '@', '%', '+', '=', ':', ',', '.', '/', '-'].contains char

/-- A single quote within single quotes. -/
def innerQuote : List Char :=
  ['\x27', '\x22', '\x27', '\x22', '\x27']

/-- A character within single quotes. -/
def inQuotes (char : Char) : List Char :=
  if char == '\x27' then innerQuote else [char]

/-- The word that stands for a text. -/
def quotedChars (text : List Char) : List Char :=
  if !text.isEmpty && text.all isPlain then text
  else '\x27' :: (text.flatMap inQuotes ++ ['\x27'])

/-- The word that stands for a text. -/
def quoted (text : String) : String :=
  String.ofList (quotedChars text.toList)

end SkillScan.ShellWord
