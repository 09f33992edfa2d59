import SkillScan.Yaml.Cursor

/-!
# Plain scalars

A plain scalar stands without quotes. It ends before a colon that a gap follows, before a comment and, in
brackets, before the marks of the bracket. It may go on over several lines: one line end becomes a space,
and of several the first is dropped.
-/

namespace SkillScan.Yaml

/-- Whether a character separates or closes the items of brackets. -/
def isBracketMark (char : Char) : Bool :=
  [',', '[', ']', '\x7b', '\x7d'].contains char

/-- Whether a plain scalar ends before a character. -/
def endsPlain (inBrackets : Bool) (char : Char) (next : Option Char) : Bool :=
  endsWord (some char) || (inBrackets && (isBracketMark char || char == '?')) ||
    (char == ':' && (endsWord next || (inBrackets && next.any isBracketMark)))

/-- The characters up to the end of a plain scalar or to the next gap in it; `taken` holds those already
found, last one first. -/
def plainRun (inBrackets : Bool) : List Char → (taken : List Char) → List Char
  | [], taken => taken.reverse
  | char :: rest, taken =>
    if endsPlain inBrackets char rest.head? then taken.reverse
    else plainRun inBrackets rest (char :: taken)

/-- The gap between two parts of a plain scalar. -/
structure PlainGap where
  /-- What the gap stands for; nothing if the scalar ends here. -/
  text : List Char
  /-- The place after the gap. -/
  cursor : Cursor
  /-- Whether the gap holds a line end. -/
  crossesLine : Bool

/-- The line ends after the first one in a gap, last one first, up to a place where the scalar may go on.
There is no such place where a document begins or ends. The first argument is the text at the cursor. -/
def plainBreaks : List Char → Cursor → (found : List Char) → Option (List Char) × Cursor
  | [], cursor, found => (some found, cursor)
  | char :: rest, cursor, found =>
    if char == ' ' then plainBreaks rest cursor.advance found
    else if isBreak char then
      let line := cursor.advance.lookForSeparator
      if line.atSeparator then (none, line)
      else plainBreaks rest line (Cursor.breakValue char :: found)
    else (some found, cursor)

/-- What line ends stand for: a single newline for a space, and otherwise all but the first newline. -/
def foldedBreaks (first : Char) (others : List Char) : List Char :=
  if first != '\n' then first :: others
  else if others.isEmpty then [' ']
  else others

/-- The gap that begins at a cursor. -/
def plainGap (cursor : Cursor) : PlainGap :=
  let after := cursor.skipSpaces
  match after.nextBreak with
  | none => ⟨cursor.run (· == ' '), after, false⟩
  | some first =>
    let line := after.skipBreak.lookForSeparator
    if line.atSeparator then ⟨[], line, true⟩
    else
      match plainBreaks line.rest line [] with
      | (none, place) => ⟨[], place, true⟩
      | (some others, place) => ⟨foldedBreaks first others.reverse, place, true⟩

/-- A plain scalar that has been read. -/
structure PlainScalar where
  text : List Char
  /-- The place after the scalar and the gap behind it. -/
  cursor : Cursor
  /-- Whether the gap behind the scalar holds a line end. -/
  crossesLine : Bool

/-- The place after a part of a plain scalar. The character after a colon decides whether the part ends. -/
def afterPart (part : List Char) (cursor : Cursor) : Cursor :=
  let place := cursor.advanceBy part.length
  if place.next == some ':' then place.lookAhead 1 else place

/-- Reads a plain scalar on, whose parts so far are given last one first. Outside brackets a part must
stand at the column `floor` or behind it. The argument before the cursor bounds the characters ahead. -/
def plainParts (inBrackets : Bool) (floor : Nat) :
    (ahead : List Char) → Cursor → (parts : List (List Char)) → (crossesLine : Bool) → PlainScalar
  | [], cursor, parts, crossesLine => ⟨parts.tail.reverse.flatten, cursor, crossesLine⟩
  | _ :: ahead, cursor, parts, crossesLine =>
    let part := plainRun inBrackets cursor.rest []
    let place := afterPart part cursor
    if part.isEmpty then
      ⟨parts.tail.reverse.flatten, place, crossesLine⟩
    else
      let gap := plainGap place
      if gap.text.isEmpty || gap.cursor.next == some '#' ||
          (!inBrackets && gap.cursor.column < floor) then
        ⟨(part :: parts).reverse.flatten, gap.cursor, gap.crossesLine⟩
      else plainParts inBrackets floor ahead gap.cursor (gap.text :: part :: parts) gap.crossesLine

/-- Reads the plain scalar at a cursor. -/
def plainScalar (inBrackets : Bool) (floor : Nat) (cursor : Cursor) : PlainScalar :=
  plainParts inBrackets floor cursor.rest cursor [] false

end SkillScan.Yaml
