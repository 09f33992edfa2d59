import SkillScan.Text.Escape
import SkillScan.Yaml.Error
import SkillScan.Yaml.Scalar.Plain

/-!
# Quoted scalars

Between single quotes a doubled quote stands for one quote. Between double quotes a backslash begins an
escape, and a backslash before a line end joins two lines. In both, line ends are folded as in plain
scalars.
-/

namespace SkillScan.Yaml

/-- The two ways of quoting. -/
inductive QuoteStyle where
  | single
  | double
  deriving DecidableEq

/-- The mark at both ends of a quoted scalar. -/
def QuoteStyle.mark : QuoteStyle → Char
  | .single => '\x27'
  | .double => '\x22'

/-- The characters that an escape of one letter stands for. -/
def simpleEscapes : List (Char × Char) := [
  ('0', '\x00'), ('a', '\x07'), ('b', '\x08'), ('t', '\x09'), ('\t', '\x09'), ('n', '\x0A'),
  ('v', '\x0B'), ('f', '\x0C'), ('r', '\x0D'), ('e', '\x1B'), (' ', ' '), ('\x22', '\x22'),
  ('\\', '\\'), ('/', '/'), ('N', '\x85'), ('_', '\xA0'), ('L', '\u2028'), ('P', '\u2029')]

/-- The number of digits that follow the letter of a numeric escape. -/
def escapeDigits? (letter : Char) : Option Nat :=
  if letter == 'x' then some 2
  else if letter == 'u' then some 4
  else if letter == 'U' then some 8
  else none

/-- The character with a code. Half of a pair of UTF-16 units is read as U+FFFD. -/
def charOfCode (code : Nat) : Char :=
  if Text.isFirstHalf code || Text.isSecondHalf code then '\uFFFD' else Char.ofNat code

/-- Why a number is no code, if it is none. -/
def codeError? (code : Nat) : Option ConversionError :=
  if code < 0x110000 then none
  else if code < 0x80000000 then some .noSuchCharacter
  else some .codeTooLarge

/-- The line ends in a quoted scalar after the first one of a gap, last one first, up to the character that
goes on. A document must not begin or end there. The first argument is the text at the cursor. -/
def quotedBreaks : List Char → Cursor → (atLineStart : Bool) → (found : List Char) →
    Except Error (List Char × Cursor)
  | [], cursor, _, found => .ok (found, cursor)
  | char :: rest, cursor, atLineStart, found =>
    if atLineStart && cursor.atSeparator then
      cursor.lookForSeparator.malformed "document separator in quotes"
    else
      let place := if atLineStart then cursor.lookForSeparator else cursor
      if isSpace char then quotedBreaks rest place.advance false found
      else if isBreak char then
        quotedBreaks rest place.advance true (Cursor.breakValue char :: found)
      else .ok (found, place)

/-- Reads the hexadecimal digits of a numeric escape. -/
def readCode (count : Nat) (cursor : Cursor) : Except Error (Nat × Cursor) :=
  let digits := (cursor.rest.take count).takeWhile Text.isHexDigit
  if digits.length < count then
    (cursor.lookAhead digits.length).malformed "escape without its digits"
  else
    match codeError? (Text.hexValue digits) with
    | none => .ok (Text.hexValue digits, cursor.advanceBy count)
    | some error => (cursor.lookAhead (count - 1)).fail (.conversion error)

/-- Reads an escape of the second half of a pair, if one comes next. -/
def secondHalf? (cursor : Cursor) : Option (Nat × Cursor) :=
  if cursor.next == some '\\' then
    match cursor.second.bind escapeDigits? with
    | some count =>
      match readCode count cursor.advance.advance with
      | .ok (code, place) => if Text.isSecondHalf code then some (code, place) else none
      | .error _ => none
    | none => none
  else none

/-- Reads a numeric escape, together with the next one where both make up a pair. -/
def readNumericEscape (count : Nat) (cursor : Cursor) : Except Error (Char × Cursor) := do
  let (code, place) ← readCode count cursor
  match if Text.isFirstHalf code then secondHalf? place else none with
  | some (second, place) => return (Text.charOfHalves code second, place)
  | none => return (charOfCode code, place)

/-- What an escape stands for, and the place after it. The cursor stands behind the backslash. -/
def readEscape (cursor : Cursor) : Except Error (List Char × Cursor) :=
  match cursor.next with
  | none => cursor.malformed "unfinished escape"
  | some letter =>
    match simpleEscapes.lookup letter, escapeDigits? letter with
    | some char, _ => .ok ([char], cursor.advance)
    | none, some count => do
      let (char, place) ← readNumericEscape count cursor.advance
      return ([char], place)
    | none, none => do
      if isBreak letter then
        let (breaks, place) ← quotedBreaks cursor.advance.rest cursor.advance true []
        return (breaks.reverse, place)
      else cursor.malformed "unknown escape"

/-- Reads a quoted scalar up to its next gap or to its closing mark. The text so far is given last
character first; the argument before the cursor bounds the characters ahead. -/
def quotedPart (style : QuoteStyle) :
    (ahead : List Char) → Cursor → (text : List Char) → Except Error (List Char × Cursor)
  | [], cursor, text => .ok (text, cursor)
  | _ :: ahead, cursor, text =>
    match cursor.next with
    | none => .ok (text, cursor)
    | some char =>
      if isSpace char || isBreak char then .ok (text, cursor)
      else if char == style.mark then
        if style = .single && cursor.second == some char then
          quotedPart style ahead cursor.advance.advance (char :: text)
        else .ok (text, cursor)
      else if style = .double && char == '\\' then do
        let (meant, place) ← readEscape cursor.advance
        quotedPart style ahead place (meant.reverse ++ text)
      else quotedPart style ahead cursor.advance (char :: text)

/-- What a gap in a quoted scalar stands for, and the place after it. -/
def quotedGap (cursor : Cursor) : Except Error (List Char × Cursor) := do
  let after := cursor.skip isSpace
  match after.next, after.nextBreak with
  | none, _ => after.malformed "unfinished quotes"
  | some _, none => return (cursor.run isSpace, after)
  | some _, some first =>
    let (others, place) ← quotedBreaks after.advance.rest after.advance true []
    return (foldedBreaks first others.reverse, place)

/-- Reads a quoted scalar on behind its opening mark. The text so far is given last character first; the
argument before the cursor bounds the characters ahead. -/
def quotedParts (style : QuoteStyle) :
    (ahead : List Char) → Cursor → (text : List Char) → Except Error (List Char × Cursor)
  | [], cursor, _ => cursor.malformed "unfinished quotes"
  | _ :: ahead, cursor, text => do
    let (text, place) ← quotedPart style cursor.rest cursor text
    if place.next == some style.mark then return (text.reverse, place.advance)
    else
      let (gap, place) ← quotedGap place
      quotedParts style ahead place (gap.reverse ++ text)

/-- Reads the quoted scalar whose opening mark stands at a cursor. -/
def quotedScalar (style : QuoteStyle) (cursor : Cursor) : Except Error (List Char × Cursor) :=
  quotedParts style cursor.rest cursor.advance []

end SkillScan.Yaml
