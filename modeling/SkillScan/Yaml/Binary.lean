import SkillScan.Yaml.Error

/-!
# Binary data in YAML

Bytes are written in base 64: four characters stand for three bytes. Characters that are no digits are
passed over. Equals signs fill up the last group of four and end the data.
-/

namespace SkillScan.Yaml.Binary

/-- The value of a digit in base 64. -/
def digit? (char : Char) : Option Nat :=
  if char.isUpper then some (char.toNat - 65)
  else if char.isLower then some (char.toNat - 71)
  else if char.isDigit then some (char.toNat + 4)
  else if char == '+' then some 62
  else if char == '/' then some 63
  else none

/-- Data that has been read in part. -/
structure Partial where
  /-- The bytes found, last one first. -/
  bytes : List UInt8
  /-- The digits of the group begun. -/
  digits : Nat
  /-- The bits of the last digit that belong to the next byte. -/
  bits : Nat
  /-- The equals signs behind the last digit. -/
  fills : Nat

/-- Takes a digit into account. -/
def Partial.take (data : Partial) (digit : Nat) : Partial :=
  let put (bits : Nat) : List UInt8 := UInt8.ofNat bits :: data.bytes
  match data.digits with
  | 0 => ⟨data.bytes, 1, digit, 0⟩
  | 1 => ⟨put (data.bits * 4 + digit / 16), 2, digit % 16, 0⟩
  | 2 => ⟨put (data.bits * 16 + digit / 4), 3, digit % 4, 0⟩
  | _ => ⟨put (data.bits * 64 + digit), 0, 0, 0⟩

/-- The bytes of data that ends without having been filled up. -/
def Partial.finish (data : Partial) : Except Error (List UInt8) :=
  if data.digits = 0 then .ok data.bytes.reverse
  else .error (.malformed "binary data that breaks off")

/-- Reads data on. -/
def readFrom : List Char → (data : Partial) → Except Error (List UInt8)
  | [], data => data.finish
  | char :: rest, data =>
    if char == '=' then
      if 2 ≤ data.digits then
        if 4 ≤ data.digits + data.fills + 1 then .ok data.bytes.reverse
        else readFrom rest { data with fills := data.fills + 1 }
      else readFrom rest data
    else
      match digit? char with
      | some digit => readFrom rest (data.take digit)
      | none => readFrom rest data

/-- The bytes that a scalar stands for. -/
def ofText (text : String) : Except Error (List UInt8) :=
  if text.toList.all (·.toNat < 128) then readFrom text.toList ⟨[], 0, 0, 0⟩
  else .error (.malformed "binary data with a character that is not ASCII")

end SkillScan.Yaml.Binary
