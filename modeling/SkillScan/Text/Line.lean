/-!
# Lines

A text is cut into lines at its newlines, after a carriage return followed by a newline and a carriage
return that stands alone have both become one newline. A text without any newline is one line.
-/

namespace SkillScan.Text

/-- What is left of a text whose line ends are being unified. -/
structure Unified where
  /-- The unified text, where nothing or an ordinary character stands before. -/
  afterOther : List Char
  /-- The unified text, where a carriage return stands before. -/
  afterReturn : List Char

/-- A newline that follows a carriage return belongs to the same line end. -/
def Unified.put (char : Char) (later : Unified) : Unified :=
  if char = '\n' then ⟨'\n' :: later.afterOther, later.afterOther⟩
  else if char = '\r' then ⟨'\n' :: later.afterReturn, '\n' :: later.afterReturn⟩
  else ⟨char :: later.afterOther, char :: later.afterOther⟩

/-- The text with one newline for every line end. -/
def unifyNewlines (text : List Char) : List Char :=
  (text.foldr Unified.put ⟨[], []⟩).afterOther

/-- Puts a character before pieces, the first of which it joins unless it is the separator. -/
def putBefore (separator char : Char) (pieces : List (List Char)) : List (List Char) :=
  if char = separator then [] :: pieces
  else (char :: pieces.headD []) :: pieces.tail

/-- The pieces between the places where a separator stands. -/
def splitAt (separator : Char) (text : List Char) : List (List Char) :=
  text.foldr (putBefore separator) [[]]

/-- The lines of a text whose line ends are newlines. -/
def lines (text : List Char) : List (List Char) :=
  splitAt '\n' text

/-- Whether `part` stands somewhere in `whole`. -/
def occursIn (part : List Char) : (whole : List Char) → Bool
  | [] => part.isEmpty
  | char :: rest => part.isPrefixOf (char :: rest) || occursIn part rest

end SkillScan.Text
