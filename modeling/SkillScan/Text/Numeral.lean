/-!
# Written numbers

The forms in which numbers enter a text: hexadecimal with a fixed number of digits, decimal with leading
zeros or in a right-aligned column, and decimal with a comma between groups of three digits.
-/

namespace SkillScan.Text

/-- The small hexadecimal digit of a number below sixteen. -/
def hexDigit (value : Nat) : Char :=
  if value < 10 then Char.ofNat (48 + value) else Char.ofNat (87 + value)

/-- The last `width` hexadecimal digits of a number. -/
def hexDigits : (width : Nat) → (value : Nat) → List Char
  | 0, _ => []
  | width + 1, value => hexDigits width (value / 16) ++ [hexDigit (value % 16)]

/-- The last `width` hexadecimal digits of a number, as a text. -/
def hexText (width value : Nat) : String :=
  String.ofList (hexDigits width value)

/-- A text preceded by as many fill characters as bring it to a length. -/
def padLeft (fill : Char) (width : Nat) (text : String) : String :=
  String.ofList (List.replicate (width - text.length) fill ++ text.toList)

/-- A text followed by as many spaces as bring it to a length. -/
def padRight (width : Nat) (text : String) : String :=
  String.ofList (text.toList ++ List.replicate (width - text.length) ' ')

/-- A natural number with at least `width` digits. -/
def zeroPadded (width value : Nat) : String :=
  padLeft '0' width (toString value)

/-- An integer with at least `width` characters, zeros standing between its sign and its digits. -/
def signedZeroPadded (width : Nat) (value : Int) : String :=
  if value < 0 then "-" ++ padLeft '0' (width - 1) (toString value.natAbs)
  else padLeft '0' width (toString value.natAbs)

/-- Digits, last one first, with a comma after every third one that another follows. -/
def groupedReversed : List Char → List Char
  | first :: second :: third :: next :: rest =>
    first :: second :: third :: ',' :: groupedReversed (next :: rest)
  | digits => digits

/-- An integer whose digits stand in groups of three. -/
def grouped (value : Int) : String :=
  let digits := (groupedReversed (toString value.natAbs).toList.reverse).reverse
  String.ofList (if value < 0 then '-' :: digits else digits)

end SkillScan.Text
