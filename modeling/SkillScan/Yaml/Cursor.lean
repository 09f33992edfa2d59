import SkillScan.Yaml.Source

/-!
# Cursors

A cursor stands at a place of a text and knows the index, the line and the column of this place. The lines
of the text end with newlines or with one of the three other line ends of YAML. A cursor also knows how far
the text has been looked at: what has been found holds only if no obstacle has been met on the way.
-/

namespace SkillScan.Yaml

/-- Whether a character ends a line. -/
def isBreak (char : Char) : Bool :=
  char == '\n' || char == '\x85' || char == '\u2028' || char == '\u2029'

/-- Whether a character is a space or a tab. -/
def isSpace (char : Char) : Bool :=
  char == ' ' || char == '\t'

/-- Whether a word is over where this character comes next. The end of the text is given as `none`. -/
def endsWord (next : Option Char) : Bool :=
  next.all fun char => isSpace char || isBreak char

/-- Whether a word is over where this character comes next and a tab is not allowed. -/
def endsWordOnly (next : Option Char) : Bool :=
  next.all fun char => char == ' ' || isBreak char

/-- Whether a line is over where this character comes next. -/
def endsLine (next : Option Char) : Bool :=
  next.all isBreak

/-- A place of a text. -/
structure Cursor where
  /-- The text from this place on. -/
  rest : List Char
  index : Nat
  line : Nat
  column : Nat
  /-- The greatest index that has been looked at. -/
  seen : Nat
  /-- What keeps the text from being read to its end. -/
  obstacle : Option Obstacle

namespace Cursor

/-- The beginning of a text. -/
def start (source : Source) : Cursor :=
  ⟨source.text, 0, 0, 0, 0, source.obstacle⟩

/-- The next character. -/
def next (cursor : Cursor) : Option Char :=
  cursor.rest.head?

/-- The character after the next one. -/
def second (cursor : Cursor) : Option Char :=
  cursor.rest.tail.head?

/-- The same place, after a look at some characters beyond the next one. -/
def lookAhead (cursor : Cursor) (count : Nat) : Cursor :=
  { cursor with seen := max cursor.seen (cursor.index + count) }

/-- The obstacle that has been met by looking at the text. -/
def metObstacle? (cursor : Cursor) : Option Obstacle :=
  cursor.obstacle.filter (·.place ≤ cursor.seen)

/-- The error of an obstacle that has been met, or else another error. -/
def fail {α : Type} (cursor : Cursor) (error : Error) : Except Error α :=
  match cursor.metObstacle? with
  | some obstacle => .error obstacle.error
  | none => .error error

/-- The failure at a place where the text breaks a rule. -/
def malformed {α : Type} (cursor : Cursor) (reason : String) : Except Error α :=
  cursor.fail (.malformed reason)

/-- The place after the next character. A byte order mark takes no column. -/
def advance (cursor : Cursor) : Cursor :=
  match cursor.rest with
  | [] => cursor
  | char :: rest =>
    let index := cursor.index + 1
    if isBreak char then
      { cursor with rest, index, line := cursor.line + 1, column := 0, seen := max cursor.seen index }
    else
      { cursor with
        rest, index, column := cursor.column + if char == '\uFEFF' then 0 else 1
        seen := max cursor.seen index }

/-- The place after some characters. -/
def advanceBy : (count : Nat) → Cursor → Cursor
  | 0, cursor => cursor
  | count + 1, cursor => advanceBy count cursor.advance

/-- The characters of a kind that come next. -/
def run (kind : Char → Bool) (cursor : Cursor) : List Char :=
  cursor.rest.takeWhile kind

/-- The place after the characters of a kind. -/
def skip (kind : Char → Bool) (cursor : Cursor) : Cursor :=
  cursor.advanceBy (cursor.run kind).length

/-- The place after the spaces. -/
def skipSpaces (cursor : Cursor) : Cursor :=
  cursor.skip (· == ' ')

/-- The place after a comment that comes next. -/
def skipComment (cursor : Cursor) : Cursor :=
  if cursor.next = some '#' then cursor.skip (!isBreak ·) else cursor

/-- What a line end stands for in a scalar. -/
def breakValue (char : Char) : Char :=
  if char == '\x85' then '\n' else char

/-- What the line end that comes next stands for, if there is one. -/
def nextBreak (cursor : Cursor) : Option Char :=
  match cursor.next with
  | some char => if isBreak char then some (breakValue char) else none
  | none => none

/-- The place after a line end that comes next. -/
def skipBreak (cursor : Cursor) : Cursor :=
  if cursor.nextBreak.isSome then cursor.advance else cursor

/-- Whether three marks and the end of a word come next. -/
def atMarks (mark : Char) (cursor : Cursor) : Bool :=
  match cursor.rest with
  | first :: second :: third :: rest =>
    first == mark && second == mark && third == mark && endsWord rest.head?
  | _ => false

/-- Whether the beginning or the end of a document comes next. -/
def atSeparator (cursor : Cursor) : Bool :=
  cursor.atMarks '-' || cursor.atMarks '.'

/-- Whether a mark comes next three times. -/
def atThree (mark : Char) (cursor : Cursor) : Bool :=
  cursor.rest.take 3 == [mark, mark, mark]

/-- The same place, after a look for marks of a document's beginning or end. -/
def lookForSeparator (cursor : Cursor) : Cursor :=
  cursor.lookAhead (if cursor.atThree '-' || cursor.atThree '.' then 3 else 2)

end Cursor

end SkillScan.Yaml
