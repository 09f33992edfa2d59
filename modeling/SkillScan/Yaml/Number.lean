import SkillScan.Text.Blank
import SkillScan.Text.Casing
import SkillScan.Text.DecimalDigit
import SkillScan.Yaml.Tag

/-!
# Numbers in YAML

Integers are written in decimal, binary, octal or hexadecimal digits or in base sixty, fractions in decimal
digits or in base sixty. Underscores do not matter. The digits may be those of any script.
-/

namespace SkillScan.Yaml

open Text

/-! ## Integers -/

/-- The ASCII character as which a character is read in a number. -/
def plainChar (char : Char) : Char :=
  if char.toNat < 127 then char
  else if isBlank char then ' '
  else
    match decimalValue? char with
    | some value => Char.ofNat (48 + value)
    | none => '?'

/-- Whether a character may stand before or behind a number. -/
def isNumberGap (char : Char) : Bool :=
  char == ' ' || (9 ≤ char.toNat && char.toNat ≤ 13)

/-- A number in ASCII characters, without gaps at either end. -/
def plainNumber (text : List Char) : List Char :=
  ((((text.map plainChar).dropWhile isNumberGap).reverse).dropWhile isNumberGap).reverse

/-- The value of a digit, where letters stand for ten and more. -/
def digitValue? (char : Char) : Option Nat :=
  if char.isLower then some (char.toNat - 87)
  else if char.isUpper then some (char.toNat - 55)
  else if char.isDigit then some (char.toNat - 48)
  else none

/-- The value of a character if it is a digit in a base. -/
def digitIn? (base : Nat) (char : Char) : Option Nat :=
  (digitValue? char).filter (· < base)

/-- The letter that may stand behind a zero before the digits in a base. -/
def baseLetter? (base : Nat) : Option Char :=
  if base = 2 then some 'b' else if base = 8 then some 'o' else if base = 16 then some 'x' else none

/-- Digits without the mark of their base. -/
def withoutBaseMark (base : Nat) (text : List Char) : List Char :=
  match text with
  | '0' :: letter :: rest => if some letter.toLower == baseLetter? base then rest else text
  | _ => text

/-- Whether a text begins with a minus sign. -/
def isNegative (text : List Char) : Bool :=
  text.head? == some '-'

/-- A number with a sign. -/
def signed (negative : Bool) (size : Nat) : Int :=
  if negative then -size else size

/-- Reads an integer in a base. -/
def readInteger (base : Nat) (text : List Char) : Except ConversionError Int :=
  let body := plainNumber text
  let digits := withoutBaseMark base (Tag.unsigned body)
  let values := (digits.map (digitIn? base)).takeWhile Option.isSome
  if base = 10 && values.length > maxIntegerDigits then .error (.tooManyDigits values.length)
  else if digits.isEmpty || values.length < digits.length then
    .error (.notInteger base (String.ofList text))
  else
    .ok (signed (isNegative body)
      (values.foldl (fun value digit => base * value + digit.getD 0) 0))

/-- Reads the places of a number in base sixty, the highest first. -/
def readSixtieths (places : List (List Char)) : Except ConversionError Int := do
  let values ← places.mapM (readInteger 10)
  return values.foldl (fun value place => 60 * value + place) 0

/-- Reads an unsigned integer, whose base is shown by its first characters or by a colon. -/
def readUnsigned (text : List Char) : Except ConversionError Int :=
  match text with
  | [] => .error .emptyNumber
  | ['0'] => .ok 0
  | '0' :: 'b' :: rest => readInteger 2 rest
  | '0' :: 'x' :: rest => readInteger 16 rest
  | '0' :: _ => readInteger 8 text
  | _ => if text.contains ':' then readSixtieths (splitAt ':' text) else readInteger 10 text

/-- The integer that a scalar stands for. -/
def integerOf (text : String) : Except ConversionError Int := do
  let body := text.toList.filter (· != '_')
  if body.isEmpty then .error .emptyNumber
  else
    let size ← readUnsigned (Tag.unsigned body)
    return if isNegative body then -size else size

/-! ## Fractions -/

/-- A decimal number as it is written: its digits, and the power of ten that they are multiplied by. -/
structure WrittenDecimal where
  digits : List Nat
  exponent : Int

namespace WrittenDecimal

/-- The greatest power of ten, and the least, that makes a difference to a floating-point number. -/
def exponentLimit : Int := 400

/-- The nearest floating-point number. -/
def nearest (written : WrittenDecimal) : Float :=
  let significand := written.digits.foldl (fun value digit => 10 * value + digit) 0
  let magnitude := written.exponent + (toString significand).length
  if significand = 0 || magnitude < -exponentLimit then 0.0
  else if exponentLimit < magnitude then 1.0 / 0.0
  else if written.exponent < 0 then
    Float.ofScientific significand true written.exponent.natAbs
  else Float.ofScientific significand false written.exponent.natAbs

/-- Reads the digits of an exponent. -/
def exponentDigits? (text : List Char) : Option Nat :=
  let values := text.map (digitIn? 10)
  if text.isEmpty || values.any Option.isNone then none
  else some (values.foldl (fun value digit => 10 * value + digit.getD 0) 0)

/-- Reads an exponent that ends a number, which may be left out. -/
def exponent? (text : List Char) : Option Int :=
  match text with
  | [] => some 0
  | mark :: rest =>
    if mark == 'e' || mark == 'E' then
      (exponentDigits? (Tag.unsigned rest)).map (signed (isNegative rest))
    else none

/-- The values of the digits at the beginning of a text. -/
def leadingDigits (text : List Char) : List Nat :=
  ((text.map (digitIn? 10)).takeWhile Option.isSome).map (·.getD 0)

/-- Reads an unsigned decimal number. -/
def ofText? (text : List Char) : Option WrittenDecimal :=
  let whole := leadingDigits text
  let rest := text.drop whole.length
  let fraction := if rest.head? = some '.' then leadingDigits rest.tail else []
  let ending := if rest.head? = some '.' then rest.tail.drop fraction.length else rest
  if whole.isEmpty && fraction.isEmpty then none
  else (exponent? ending).map fun exponent => ⟨whole ++ fraction, exponent - fraction.length⟩

end WrittenDecimal

/-- Infinity. -/
def infinity : Float := 1.0 / 0.0

/-- The value that is no number. -/
def notANumber : Float := 0.0 / 0.0

/-- The floating-point number that an unsigned text stands for. -/
def unsignedFloat? (text : List Char) : Option Float :=
  let word := String.ofList (text.map Char.toLower)
  if word = "inf" || word = "infinity" then some infinity
  else if word = "nan" then some notANumber
  else (WrittenDecimal.ofText? text).map (·.nearest)

/-- Reads a floating-point number. -/
def readFloat (text : List Char) : Except ConversionError Float :=
  let body := plainNumber text
  match unsignedFloat? (Tag.unsigned body) with
  | some size => .ok (if isNegative body then -size else size)
  | none => .error (.notFraction (String.ofList text))

/-- Adds the places of a number in base sixty to a sum, the lowest first. The unit of a place must not exceed
the floating-point numbers. -/
def addSixtieths : List Float → (unit : Nat) → (sum : Float) → Except ConversionError Float
  | [], _, sum => .ok sum
  | place :: rest, unit, sum =>
    if unit.log2 < 1024 then addSixtieths rest (60 * unit) (sum + place * Float.ofNat unit)
    else .error .placeTooHigh

/-- The floating-point number that a scalar stands for. -/
def floatOf (text : String) : Except ConversionError Float := do
  let body := (lowercase (String.ofList (text.toList.filter (· != '_')))).toList
  let unsigned := Tag.unsigned body
  let size ←
    if body.isEmpty then .error .emptyNumber
    else if unsigned = ".inf".toList then pure infinity
    else if unsigned = ".nan".toList then pure notANumber
    else if unsigned.contains ':' then do
      let places ← (splitAt ':' unsigned).mapM readFloat
      addSixtieths places.reverse 1 0.0
    else readFloat unsigned
  return if isNegative body then -size else size

end SkillScan.Yaml
