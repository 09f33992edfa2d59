import SkillScan.Text.Utf8
import SkillScan.Yaml.Scalar.Block
import SkillScan.Yaml.Scalar.Quoted
import SkillScan.Yaml.Token

/-!
# Anchors, tags and directives

The properties that may stand before a node, aliases, which look like anchors, and directives. Tags are
written like web addresses: a percent sign begins the hexadecimal form of a byte.
-/

namespace SkillScan.Yaml

/-- Whether a character may stand in the name of an anchor, a handle or a directive. -/
def isNameChar (char : Char) : Bool :=
  char.isAlphanum || char == '-' || char == '_'

/-- Whether a character may follow the name of an anchor. -/
def followsAnchor (next : Option Char) : Bool :=
  endsWord next || next.any ['?', ':', ',', ']', '\x7d', '%', '@', '\x60'].contains

/-- Reads the name of an anchor or alias behind its mark. -/
def anchorName (cursor : Cursor) : Except Error (String × Cursor) :=
  let name := cursor.advance.run isNameChar
  let place := cursor.advance.skip isNameChar
  if name.isEmpty then place.malformed "anchor without a name"
  else if followsAnchor place.next then .ok (String.ofList name, place)
  else place.malformed "unexpected character behind an anchor"

/-- Whether a character may stand in a tag as it is. -/
def isTagChar (char : Char) : Bool :=
  char.isAlphanum ||
    ['-', ';', '/', '?', ':', '@', '&', '=', '+', '$', ',', '_', '.', '!', '~', '*', '\x27', '(', ')',
      '[', ']'].contains char

/-- Reads escaped bytes, last one first. The first argument bounds the characters ahead. -/
def escapedBytes :
    (ahead : List Char) → Cursor → (bytes : List UInt8) → Except Error (List UInt8 × Cursor)
  | [], cursor, bytes => .ok (bytes, cursor)
  | _ :: ahead, cursor, bytes =>
    if cursor.next == some '%' then
      let digits := (cursor.rest.tail.take 2).takeWhile Text.isHexDigit
      if digits.length < 2 then
        (cursor.advance.lookAhead digits.length).malformed "tag with an unfinished escape"
      else escapedBytes ahead (cursor.advanceBy 3) (UInt8.ofNat (Text.hexValue digits) :: bytes)
    else .ok (bytes, cursor)

/-- Reads the characters of a tag on; those so far are given last one first. The first argument bounds the
characters ahead. -/
def tagChars : (ahead : List Char) → Cursor → (text : List Char) → Except Error (List Char × Cursor)
  | [], cursor, text => .ok (text, cursor)
  | _ :: ahead, cursor, text =>
    match cursor.next with
    | none => .ok (text, cursor)
    | some char =>
      if isTagChar char then tagChars ahead cursor.advance (char :: text)
      else if char == '%' then do
        let (bytes, place) ← escapedBytes cursor.rest cursor []
        match Text.decodeStrict bytes.reverse with
        | .ok meant => tagChars ahead place (meant.reverse ++ text)
        | .error error => place.malformed error.message
      else .ok (text, cursor)

/-- Reads the characters of a tag. -/
def tagText (cursor : Cursor) : Except Error (String × Cursor) := do
  let (text, place) ← tagChars cursor.rest cursor []
  if place.index = cursor.index then place.malformed "tag without characters"
  else return (String.ofList text.reverse, place)

/-- Reads a handle: an exclamation mark, or a name between two of them. -/
def tagHandle (cursor : Cursor) : Except Error (String × Cursor) :=
  if cursor.next != some '!' then cursor.malformed "handle without an exclamation mark"
  else if cursor.second == some ' ' then .ok ("!", cursor.advance)
  else
    let name := cursor.advance.run isNameChar
    let place := cursor.advance.skip isNameChar
    if place.next == some '!' then
      .ok ("!" ++ String.ofList name ++ "!", place.advance)
    else place.malformed "handle without its second exclamation mark"

/-- The characters behind the first one of a word, up to an exclamation mark. -/
def beforeSecondMark (cursor : Cursor) : List Char :=
  cursor.advance.run fun char => !endsWordOnly (some char) && char != '!'

/-- Reads a tag with or without a handle, for which the whole word has to be looked at. -/
def shortTag (cursor : Cursor) : Except Error (Option String × String × Cursor) := do
  let before := (beforeSecondMark cursor).length
  let cursor := cursor.lookAhead (before + 1)
  if (cursor.rest.drop (before + 1)).head? == some '!' then
    let (handle, place) ← tagHandle cursor
    let (suffix, place) ← tagText place
    return (some handle, suffix, place)
  else
    let (suffix, place) ← tagText cursor.advance
    return (some "!", suffix, place)

/-- Reads a tag up to its end. -/
def tagParts (cursor : Cursor) : Except Error (Option String × String × Cursor) := do
  if cursor.second == some '<' then
    let (suffix, place) ← tagText cursor.advance.advance
    if place.next == some '>' then return (none, suffix, place.advance)
    else place.malformed "tag that is not closed"
  else if endsWord cursor.second then return (none, "!", cursor.advance)
  else shortTag cursor

/-- Reads the tag at a cursor. -/
def tagToken (cursor : Cursor) : Except Error (Token × Cursor) := do
  let (handle, suffix, place) ← tagParts cursor
  if endsWordOnly place.next then return (.tag handle suffix, place)
  else place.malformed "unexpected character behind a tag"

/-- Reads a number of a version. -/
def versionNumber (cursor : Cursor) : Except Error (Nat × Cursor) :=
  let digits := cursor.run Char.isDigit
  let place := cursor.skip Char.isDigit
  if digits.isEmpty then place.malformed "version without a number"
  else if digits.length > maxIntegerDigits then place.fail (.conversion (.tooManyDigits digits.length))
  else .ok (digits.foldl (fun value digit => 10 * value + (digit.toNat - 48)) 0, place)

/-- Reads the two numbers of a version. -/
def versionNumbers (cursor : Cursor) : Except Error (Directive × Cursor) := do
  let (major, place) ← versionNumber cursor.skipSpaces
  if place.next != some '.' then place.malformed "version without a dot"
  else
    let (minor, place) ← versionNumber place.advance
    if endsWordOnly place.next then return (.version major minor, place)
    else place.malformed "unexpected character behind a version"

/-- Reads a handle and its meaning. -/
def handleMeaning (cursor : Cursor) : Except Error (Directive × Cursor) := do
  let (name, place) ← tagHandle cursor.skipSpaces
  if place.next != some ' ' then place.malformed "handle without a meaning"
  else
    let (meaning, place) ← tagText place.skipSpaces
    if endsWordOnly place.next then return (.handle name meaning, place)
    else place.malformed "unexpected character behind a handle"

/-- Reads what follows the name of a directive. -/
def directiveValue (name : String) (cursor : Cursor) : Except Error (Directive × Cursor) :=
  if name = "YAML" then versionNumbers cursor
  else if name = "TAG" then handleMeaning cursor
  else .ok (.unknown, cursor.skip (!isBreak ·))

/-- Reads the directive at a cursor. -/
def directiveToken (cursor : Cursor) : Except Error (Token × Cursor) := do
  let name := cursor.advance.run isNameChar
  let place := cursor.advance.skip isNameChar
  if name.isEmpty || !endsWordOnly place.next then place.malformed "directive without a name"
  else
    let (directive, place) ← directiveValue (String.ofList name) place
    return (.directive directive, ← skipRestOfLine place)

end SkillScan.Yaml
