import SkillScan.Text.Numeral

/-!
# Numbers of escaped characters

An escape gives a character by its number in hexadecimal digits, or by the two numbers of a pair of UTF-16 units.
-/

namespace SkillScan.Text

/-- Whether a character is a hexadecimal digit. -/
def isHexDigit (char : Char) : Bool :=
  char.isDigit || ('a' ≤ char && char ≤ 'f') || ('A' ≤ char && char ≤ 'F')

/-- The value of a hexadecimal digit. -/
def hexDigitValue (char : Char) : Nat :=
  if char.isDigit then char.toNat - 48 else char.toLower.toNat - 87

/-- The number that hexadecimal digits stand for. -/
def hexValue (digits : List Char) : Nat :=
  digits.foldl (fun value digit => 16 * value + hexDigitValue digit) 0

/-- Whether a code is that of the first half of a pair of UTF-16 units. -/
def isFirstHalf (code : Nat) : Bool :=
  0xD800 ≤ code && code < 0xDC00

/-- Whether a code is that of the second half of a pair of UTF-16 units. -/
def isSecondHalf (code : Nat) : Bool :=
  0xDC00 ≤ code && code < 0xE000

/-- The character that the two halves of a pair of UTF-16 units stand for. -/
def charOfHalves (first second : Nat) : Char :=
  Char.ofNat (0x10000 + (first - 0xD800) * 0x400 + (second - 0xDC00))

end SkillScan.Text
