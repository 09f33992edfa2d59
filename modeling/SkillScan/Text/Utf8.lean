import SkillScan.Text.Numeral

/-!
# UTF-8

Bytes are read as UTF-8 by a machine that takes one byte at a time. It yields characters and malformed
runs: a run is a beginning of a character that the next byte does not continue, or one byte that begins
no character. Reading with replacement puts U+FFFD for every run; strict reading stops at the first.
-/

namespace SkillScan.Text

/-- Why a run of bytes is malformed. -/
inductive Utf8Fault where
  | invalidStart
  | invalidContinuation
  | unexpectedEnd

/-- The wording of a fault. -/
def Utf8Fault.reason : Utf8Fault → String
  | .invalidStart => "invalid start byte"
  | .invalidContinuation => "invalid continuation byte"
  | .unexpectedEnd => "unexpected end of data"

/-- A piece of the bytes read: a character, or a run of bytes that is none. -/
inductive Utf8Piece where
  | scalar (char : Char)
  | malformed (bytes : List UInt8) (fault : Utf8Fault)

/-- The beginning of a character: its bytes, last one first, and what must follow. -/
structure Utf8Partial where
  /-- The bytes so far, last one first. -/
  bytes : List UInt8
  /-- The bits that the bytes so far contribute. -/
  value : Nat
  /-- The number of bytes still missing. -/
  missing : Nat
  /-- The least byte that may come next. -/
  least : UInt8
  /-- The greatest byte that may come next. -/
  greatest : UInt8

/-- The bytes after a first byte, by that byte. -/
def Utf8Partial.start? (byte : UInt8) : Option Utf8Partial :=
  if 0xC2 ≤ byte && byte ≤ 0xDF then some ⟨[byte], byte.toNat - 0xC0, 1, 0x80, 0xBF⟩
  else if byte == 0xE0 then some ⟨[byte], 0, 2, 0xA0, 0xBF⟩
  else if byte == 0xED then some ⟨[byte], 13, 2, 0x80, 0x9F⟩
  else if 0xE1 ≤ byte && byte ≤ 0xEF then some ⟨[byte], byte.toNat - 0xE0, 2, 0x80, 0xBF⟩
  else if byte == 0xF0 then some ⟨[byte], 0, 3, 0x90, 0xBF⟩
  else if 0xF1 ≤ byte && byte ≤ 0xF3 then some ⟨[byte], byte.toNat - 0xF0, 3, 0x80, 0xBF⟩
  else if byte == 0xF4 then some ⟨[byte], 4, 3, 0x80, 0x8F⟩
  else none

/-- A reader of bytes: the pieces found, last one first, and the character begun but not finished. -/
structure Utf8Reader where
  pieces : List Utf8Piece
  pending : Option Utf8Partial

namespace Utf8Reader

/-- Takes a byte where no character has been begun. -/
def takeFirst (pieces : List Utf8Piece) (byte : UInt8) : Utf8Reader :=
  if byte < 0x80 then ⟨.scalar (Char.ofNat byte.toNat) :: pieces, none⟩
  else
    match Utf8Partial.start? byte with
    | some begun => ⟨pieces, some begun⟩
    | none => ⟨.malformed [byte] .invalidStart :: pieces, none⟩

/-- Takes a byte that continues the character begun. -/
def takeNext (pieces : List Utf8Piece) (begun : Utf8Partial) (byte : UInt8) : Utf8Reader :=
  let value := begun.value * 64 + (byte.toNat - 0x80)
  if begun.missing = 1 then ⟨.scalar (Char.ofNat value) :: pieces, none⟩
  else ⟨pieces, some ⟨byte :: begun.bytes, value, begun.missing - 1, 0x80, 0xBF⟩⟩

/-- Takes one byte. A byte that does not continue the character begun closes a malformed run and is then
looked at afresh. -/
def take (reader : Utf8Reader) (byte : UInt8) : Utf8Reader :=
  match reader.pending with
  | none => takeFirst reader.pieces byte
  | some begun =>
    if begun.least ≤ byte && byte ≤ begun.greatest then takeNext reader.pieces begun byte
    else
      takeFirst (.malformed begun.bytes.reverse .invalidContinuation :: reader.pieces) byte

/-- The pieces, last one first, when no more bytes come. -/
def finish (reader : Utf8Reader) : List Utf8Piece :=
  match reader.pending with
  | none => reader.pieces
  | some begun => .malformed begun.bytes.reverse .unexpectedEnd :: reader.pieces

end Utf8Reader

/-- The characters and malformed runs that bytes consist of. -/
def utf8Pieces (bytes : List UInt8) : List Utf8Piece :=
  (bytes.foldl Utf8Reader.take ⟨[], none⟩).finish.reverse

/-- The character that stands for a piece in a text that is to be read in any case. -/
def Utf8Piece.replaced : Utf8Piece → Char
  | .scalar char => char
  | .malformed _ _ => '\uFFFD'

/-- The text of some bytes, where U+FFFD stands for every malformed run. -/
def decodeReplacing (bytes : List UInt8) : List Char :=
  (utf8Pieces bytes).map Utf8Piece.replaced

/-- The first malformed run of some bytes that must be UTF-8 throughout. -/
structure Utf8Error where
  /-- The number of bytes before the run. -/
  position : Nat
  bytes : List UInt8
  fault : Utf8Fault

/-- The wording of the error, which shows a single byte and the extent of a longer run. -/
def Utf8Error.message (error : Utf8Error) : String :=
  let place :=
    match error.bytes with
    | [byte] => "byte 0x" ++ hexText 2 byte.toNat ++ " in position " ++ toString error.position
    | bytes =>
      "bytes in position " ++ toString error.position ++ "-" ++
        toString (error.position + bytes.length - 1)
  "'utf-8' codec can't decode " ++ place ++ ": " ++ error.fault.reason

/-- The characters of some pieces, which must not hold a malformed run. The first piece begins at byte
`start`, and `read` holds the characters before it, last one first. -/
def strictText (start : Nat) : List Utf8Piece → (read : List Char) → Except Utf8Error (List Char)
  | [], read => .ok read.reverse
  | .scalar char :: pieces, read => strictText (start + char.utf8Size) pieces (char :: read)
  | .malformed bytes fault :: _, _ => .error ⟨start, bytes, fault⟩

/-- The text of bytes that must be UTF-8 throughout. -/
def decodeStrict (bytes : List UInt8) : Except Utf8Error (List Char) :=
  strictText 0 (utf8Pieces bytes) []

/-- The text of bytes behind which others come, and the bytes of a character that they leave unfinished. -/
def decodeBlock (bytes : List UInt8) : Except Utf8Error (List Char × List UInt8) := do
  let reader := bytes.foldl Utf8Reader.take ⟨[], none⟩
  let text ← strictText 0 reader.pieces.reverse []
  return (text, (reader.pending.map (·.bytes.reverse)).getD [])

/-- The UTF-8 bytes of a text. -/
def encode (text : String) : List UInt8 :=
  text.toList.flatMap String.utf8EncodeChar

end SkillScan.Text
