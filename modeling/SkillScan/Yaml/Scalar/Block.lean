import SkillScan.Yaml.Error
import SkillScan.Yaml.Scalar.Plain

/-!
# Block scalars

A block scalar consists of the lines behind its header that are indented far enough. A literal one keeps
the line ends; a folded one turns the single line end between two lines that begin with text into a space.
The header tells how the line ends behind the last line are treated.
-/

namespace SkillScan.Yaml

/-- What becomes of the line ends behind the last line of a block. -/
inductive Chomping where
  /-- All of them are dropped. -/
  | strip
  /-- The first one is kept. -/
  | clip
  /-- All of them are kept. -/
  | keep
  deriving DecidableEq

/-- The header of a block. -/
structure BlockHeader where
  chomping : Chomping
  /-- The indentation beyond that of the collection around the block, if it is given. -/
  indentation : Option Nat

/-- The chomping that a character asks for. -/
def chomping? (char : Option Char) : Option Chomping :=
  if char == some '+' then some .keep
  else if char == some '-' then some .strip
  else none

/-- The indentation that a character asks for. -/
def indentation? (char : Option Char) : Option Nat :=
  match char with
  | some char => if char.isDigit then some (char.toNat - 48) else none
  | none => none

/-- Reads an indentation, which must not be zero, if one is given. -/
def blockIndentation? (cursor : Cursor) : Except Error (Option Nat × Cursor) :=
  match indentation? cursor.next with
  | some 0 => cursor.malformed "an indentation of zero"
  | some indentation => .ok (some indentation, cursor.advance)
  | none => .ok (none, cursor)

/-- Reads the marks of a header, which come in either order. -/
def blockMarks (cursor : Cursor) : Except Error (BlockHeader × Cursor) :=
  match chomping? cursor.next with
  | some chomping => do
    let (indentation, place) ← blockIndentation? cursor.advance
    return (⟨chomping, indentation⟩, place)
  | none => do
    let (indentation, place) ← blockIndentation? cursor
    match indentation, chomping? place.next with
    | some indentation, some chomping => return (⟨chomping, some indentation⟩, place.advance)
    | indentation, _ => return (⟨.clip, indentation⟩, place)

/-- Passes over spaces, a comment and the line end, beyond which nothing may stand on the line. -/
def skipRestOfLine (cursor : Cursor) : Except Error Cursor :=
  let place := cursor.skipSpaces.skipComment
  if endsLine place.next then .ok place.skipBreak
  else place.malformed "unexpected text behind a header"

/-- Reads a header up to the beginning of the next line. -/
def blockHeader (cursor : Cursor) : Except Error (BlockHeader × Cursor) := do
  let (header, place) ← blockMarks cursor
  if endsWordOnly place.next then return (header, ← skipRestOfLine place)
  else place.malformed "unknown mark in a header"

/-- Passes over spaces and empty lines, and finds the greatest column reached. The line ends found are
given last one first; the first argument is the text at the cursor. -/
def blockIndentation : List Char → Cursor → (breaks : List Char) → (column : Nat) →
    List Char × Nat × Cursor
  | [], cursor, breaks, column => (breaks, column, cursor)
  | char :: rest, cursor, breaks, column =>
    if char == ' ' then
      blockIndentation rest cursor.advance breaks (max column cursor.advance.column)
    else if isBreak char then
      blockIndentation rest cursor.advance (Cursor.breakValue char :: breaks) column
    else (breaks, column, cursor)

/-- Passes over indentation and empty lines. The line ends found are given last one first; the first
argument is the text at the cursor. -/
def blockBreaks (indentation : Nat) : List Char → Cursor → (breaks : List Char) → List Char × Cursor
  | [], cursor, breaks => (breaks, cursor)
  | char :: rest, cursor, breaks =>
    if char == ' ' && cursor.column < indentation then
      blockBreaks indentation rest cursor.advance breaks
    else if isBreak char then
      blockBreaks indentation rest cursor.advance (Cursor.breakValue char :: breaks)
    else (breaks, cursor)

/-- The lines of a block that have been read. -/
structure BlockLines where
  /-- The text, last character first, without the line end of the last line. -/
  text : List Char
  /-- The line end of the last line. -/
  lastBreak : Option Char
  /-- The line ends behind the last line, last one first. -/
  breaks : List Char
  /-- The place behind the block. -/
  cursor : Cursor

/-- Whether a line of the block begins at a cursor. -/
def atBlockLine (indentation : Nat) (cursor : Cursor) : Bool :=
  cursor.column == indentation && cursor.next.isSome

/-- What stands between two lines of a block. -/
def betweenLines (folded : Bool) (lineBreak : Option Char) (first second : Cursor)
    (breaks : List Char) : List Char :=
  if folded && lineBreak == some '\n' && !first.next.any isSpace && !second.next.any isSpace then
    if breaks.isEmpty then [' '] else []
  else lineBreak.toList

/-- Reads lines of a block on; `lines.cursor` stands behind the indentation of a line. The argument before the
lines bounds the characters ahead. -/
def blockLines (folded : Bool) (indentation : Nat) :
    (ahead : List Char) → (lines : BlockLines) → BlockLines
  | [], lines => lines
  | _ :: ahead, lines =>
    if atBlockLine indentation lines.cursor then
      let text := (lines.cursor.run (!isBreak ·)).reverse ++ (lines.breaks ++ lines.text)
      let lineEnd := lines.cursor.skip (!isBreak ·)
      let lineBreak := lineEnd.nextBreak
      let after := lineEnd.skipBreak
      let (breaks, place) := blockBreaks indentation after.rest after []
      if atBlockLine indentation place then
        blockLines folded indentation ahead
          ⟨betweenLines folded lineBreak lines.cursor place breaks ++ text, lineBreak, breaks, place⟩
      else ⟨text, lineBreak, breaks, place⟩
    else lines

/-- The text of a block with the line ends that its header keeps. -/
def chomped (chomping : Chomping) (lines : BlockLines) : List Char :=
  match chomping with
  | .strip => lines.text.reverse
  | .clip => lines.text.reverse ++ lines.lastBreak.toList
  | .keep => lines.text.reverse ++ lines.lastBreak.toList ++ lines.breaks.reverse

/-- Reads the block whose first mark stands at a cursor. Its lines stand at the column `floor` or behind
it, and never at the beginning of a line. -/
def blockScalar (folded : Bool) (floor : Nat) (cursor : Cursor) : Except Error (List Char × Cursor) := do
  let (header, place) ← blockHeader cursor.advance
  let least := max floor 1
  let (indentation, breaks, place) :=
    match header.indentation with
    | some extra =>
      let indentation := least + extra - 1
      (indentation, blockBreaks indentation place.rest place [])
    | none =>
      let (breaks, column, place) := blockIndentation place.rest place [] 0
      (max least column, breaks, place)
  let lines := blockLines folded indentation place.rest ⟨[], none, breaks, place⟩
  return (chomped header.chomping lines, lines.cursor)

end SkillScan.Yaml
