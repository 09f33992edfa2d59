import SkillScan.Text.Line
import SkillScan.Yaml.Error

/-!
# Sources

The bytes of a document are decoded in blocks, and the text is handed on in portions, as far as it is
needed. What follows a place that cannot be decoded, or a character that may not stand in a document, is
therefore out of reach from the beginning of the portion on in which the obstacle lies. Only when the
reading of the document comes to this portion does it fail.
-/

namespace SkillScan.Yaml

/-- Whether a character may stand in a document. -/
def isAllowed (char : Char) : Bool :=
  let code := char.toNat
  code == 9 || code == 10 || code == 13 || (0x20 ≤ code && code ≤ 0x7E) || code == 0x85 ||
    (0xA0 ≤ code && code ≤ 0xFFFD) || 0x10000 ≤ code

/-- What keeps a text from being read to its end. -/
structure Obstacle where
  /-- The number of characters that are within reach. -/
  place : Nat
  error : Error

/-- A text as far as it is within reach, and what it is cut short by. -/
structure Source where
  text : List Char
  obstacle : Option Obstacle

namespace Source

/-- The number of characters in a portion. -/
def portionSize : Nat := 4096

/-- The least number of bytes that are decoded at once. -/
def leastBlockSize : Nat := 8192

/-! ## Decoding -/

/-- What has been decoded so far. -/
structure Decoding where
  /-- The text with a newline for every line end, last character first. -/
  text : List Char
  /-- The number of characters of the text. -/
  count : Nat
  /-- Whether a carriage return has been found behind the text. -/
  atReturn : Bool
  /-- The bytes of a character that is not finished. -/
  unfinished : List UInt8
  /-- The number of bytes of the last block. -/
  blockBytes : Nat
  /-- The number of characters that the last block has added. -/
  blockChars : Nat

namespace Decoding

/-- Nothing has been decoded. -/
def start : Decoding := ⟨[], 0, false, [], 0, 0⟩

/-- The number of characters that the portion begun still needs. -/
def wanted (decoding : Decoding) : Nat :=
  portionSize - decoding.count % portionSize

/-- The number of bytes to decode next: as many as the last block suggests for the characters wanted. -/
def blockSize (decoding : Decoding) : Nat :=
  max leastBlockSize
    (decoding.wanted * max decoding.blockBytes decoding.blockChars / decoding.blockChars)

/-- Adds the characters of a block. A carriage return at its end waits for what comes next. -/
def add (decoding : Decoding) (bytes : Nat) (chars : List Char) (unfinished : List UInt8) : Decoding :=
  let found := if decoding.atReturn && !chars.isEmpty then '\r' :: chars else chars
  let endsInReturn := found.getLast? == some '\r'
  let text := Text.unifyNewlines (if endsInReturn then found.dropLast else found)
  { text := text.reverse ++ decoding.text
    count := decoding.count + text.length
    atReturn := endsInReturn || (decoding.atReturn && chars.isEmpty)
    unfinished := unfinished
    blockBytes := bytes
    blockChars := text.length }

/-- Nothing comes any more. -/
def finish (decoding : Decoding) : Except Text.Utf8Error Decoding := do
  let _ ← Text.decodeStrict decoding.unfinished
  return if decoding.atReturn then
      { decoding with text := '\n' :: decoding.text, count := decoding.count + 1, atReturn := false }
    else decoding

/-- Decodes bytes as far as possible, in at most a given number of blocks. -/
def run : (blocks : Nat) → List UInt8 → Decoding → Decoding × Option Text.Utf8Error
  | 0, _, decoding => (decoding, none)
  | blocks + 1, bytes, decoding =>
    if bytes.isEmpty then
      match decoding.finish with
      | .ok finished => (finished, none)
      | .error error => (decoding, some error)
    else
      let block := bytes.take decoding.blockSize
      match Text.decodeBlock (decoding.unfinished ++ block) with
      | .ok (chars, unfinished) =>
        run blocks (bytes.drop decoding.blockSize) (decoding.add block.length chars unfinished)
      | .error error => (decoding, some error)

end Decoding

/-! ## Obstacles -/

/-- The beginning of the portion in which a character stands. The first two portions are handed on at
once. -/
def portionStart (index : Nat) : Nat :=
  if index < 2 * portionSize then 0 else index / portionSize * portionSize

/-- The obstacle of the first character that may not stand in a document. -/
def characterObstacle? (text : List Char) : Option Obstacle :=
  (text.findIdx? (!isAllowed ·)).map fun index =>
    ⟨portionStart index, .malformed "a character that may not stand in a document"⟩

/-- The obstacle that is met first. In one portion, decoding comes first. -/
def firstObstacle? (decoding character : Option Obstacle) : Option Obstacle :=
  match decoding, character with
  | some first, some second => if second.place < first.place then some second else some first
  | some first, none => some first
  | none, second => second

/-- The text in some bytes. -/
def ofBytes (bytes : List UInt8) : Source :=
  let (decoding, error) := Decoding.run (bytes.length / leastBlockSize + 2) bytes .start
  let text := decoding.text.reverse
  let undecodable := error.map fun error => ⟨portionStart decoding.count, .undecodable error⟩
  match firstObstacle? undecodable (characterObstacle? text) with
  | some obstacle => ⟨text.take obstacle.place, some obstacle⟩
  | none => ⟨text, none⟩

end Source

end SkillScan.Yaml
