import Mathlib.Algebra.Group.Nat.Defs
import SkillScan.Text.Escape

/-!
# Reading written numbers

A written number holds digits only, a minus before them if it is negative, and commas if its digits stand in
groups. Reading the digits one after the other and passing over the commas gives the number back, so different
numbers are written differently. Hexadecimal digits give back as much of a number as they have room for.
-/

namespace SkillScan.Text

/-- The number that digits and commas stand for. -/
def numberIn (text : String) : Nat :=
  Nat.ofDigitChars 10 (text.toList.filter (· ≠ ',')) 0

theorem toList_toString (number : Nat) : (toString number).toList = Nat.toDigits 10 number :=
  Nat.toList_repr

theorem all_isDigit_toString (number : Nat) : (toString number).toList.all Char.isDigit = true := by
  rw [List.all_eq_true, toList_toString]
  intro char member
  exact Nat.isDigit_of_mem_toDigits (by decide) (by decide) member

theorem not_mem_toString {number : Nat} {char : Char} (noDigit : char.isDigit = false) :
    char ∉ (toString number).toList := by
  intro member
  rw [List.all_eq_true.mp (all_isDigit_toString number) char member] at noDigit
  contradiction

theorem filter_of_noComma {digits : List Char} (noComma : ',' ∉ digits) :
    digits.filter (· ≠ ',') = digits := by
  rw [List.filter_eq_self]
  intro char member
  simpa using ne_of_mem_of_not_mem member noComma

/-- Grouping only puts commas between the digits. -/
theorem filter_groupedReversed {digits : List Char} (noComma : ',' ∉ digits) :
    (groupedReversed digits).filter (· ≠ ',') = digits := by
  induction digits using groupedReversed.induct with
  | case1 first second third next rest ih =>
      simp only [List.mem_cons, not_or] at noComma
      rcases noComma with ⟨notFirst, notSecond, notThird, notNext, notRest⟩
      have later := ih (by simp [notNext, notRest])
      rw [groupedReversed, List.filter_cons_of_pos (by simpa using Ne.symm notFirst),
        List.filter_cons_of_pos (by simpa using Ne.symm notSecond),
        List.filter_cons_of_pos (by simpa using Ne.symm notThird),
        List.filter_cons_of_neg (by simp), later]
  | case2 digits short =>
      rw [groupedReversed.eq_2 digits short]
      exact filter_of_noComma noComma

theorem filter_grouped (number : Nat) :
    (grouped number).toList.filter (· ≠ ',') = (toString number).toList := by
  have noComma : ',' ∉ (toString number).toList.reverse := by
    rw [List.mem_reverse]
    exact not_mem_toString (by decide)
  have nonneg : ¬((number : Int) < 0) := by omega
  simp only [grouped, nonneg, if_false, Int.natAbs_natCast, String.toList_ofList, List.filter_reverse]
  rw [filter_groupedReversed noComma, List.reverse_reverse]

theorem not_mem_grouped {number : Nat} {char : Char} (noDigit : char.isDigit = false)
    (noComma : char ≠ ',') : char ∉ (grouped number).toList := by
  intro member
  have digit : char ∈ (toString number).toList := by
    rw [← filter_grouped, List.mem_filter]
    exact ⟨member, by simpa using noComma⟩
  exact not_mem_toString noDigit digit

/-! ## Reading back -/

theorem numberIn_of_digits {text : String} {number : Nat}
    (digits : text.toList.filter (· ≠ ',') = (toString number).toList) : numberIn text = number := by
  rw [numberIn, digits, toList_toString]
  exact Nat.ofDigitChars_ten_toDigits

theorem toString_inj {first second : Nat} (same : toString first = toString second) :
    first = second := by
  have read (number : Nat) : numberIn (toString number) = number :=
    numberIn_of_digits (filter_of_noComma (not_mem_toString (by decide)))
  rw [← read first, same, read second]

theorem grouped_inj {first second : Nat} (same : grouped first = grouped second) :
    first = second := by
  have read (number : Nat) : numberIn (grouped number) = number :=
    numberIn_of_digits (filter_grouped number)
  rw [← read first, same, read second]

/-! ## Integers -/

/-- Reads digits. -/
def natural? (chars : List Char) : Option Nat :=
  if chars.isEmpty || !chars.all Char.isDigit then none else some (Nat.ofDigitChars 10 chars 0)

/-- Reads digits, with or without a minus before them. -/
def integer? : List Char → Option Int
  | '-' :: chars => (natural? chars).map fun number => -(number : Int)
  | chars => (natural? chars).map Int.ofNat

theorem natural?_toString (number : Nat) : natural? (toString number).toList = some number := by
  have nonempty : (toString number).toList ≠ [] := by
    rw [toList_toString]
    exact Nat.toDigits_ne_nil
  have value : Nat.ofDigitChars 10 (toString number).toList 0 = number := by
    rw [toList_toString]
    exact Nat.ofDigitChars_ten_toDigits
  simp only [natural?, all_isDigit_toString, List.isEmpty_eq_false_iff.mpr nonempty, value]
  rfl

theorem integer?_of_digits {chars : List Char} (digits : chars.all Char.isDigit = true) :
    integer? chars = (natural? chars).map Int.ofNat := by
  cases chars with
  | nil => rfl
  | cons char chars =>
      have noMinus : char ≠ '-' := by
        rintro rfl
        simp at digits
      rw [integer?]
      simpa using noMinus

theorem toList_toString_ofNat (number : Nat) :
    (toString (Int.ofNat number)).toList = (toString number).toList := rfl

theorem toList_toString_negSucc (number : Nat) :
    (toString (Int.negSucc number)).toList = '-' :: (toString (number + 1)).toList :=
  String.toList_append

theorem integer?_toString (value : Int) : integer? (toString value).toList = some value := by
  cases value with
  | ofNat number =>
      rw [toList_toString_ofNat, integer?_of_digits (all_isDigit_toString number), natural?_toString]
      rfl
  | negSucc number =>
      rw [toList_toString_negSucc, integer?, natural?_toString]
      rfl

theorem not_mem_toString_int {value : Int} {char : Char} (noDigit : char.isDigit = false) (noMinus : char ≠ '-') :
    char ∉ (toString value).toList := by
  cases value with
  | ofNat number => exact not_mem_toString noDigit
  | negSucc number =>
      rw [toList_toString_negSucc, List.mem_cons, not_or]
      exact ⟨noMinus, not_mem_toString noDigit⟩

/-! ## Hexadecimal digits -/

theorem hexValue_hexDigits (width value : Nat) : hexValue (hexDigits width value) = value % 16 ^ width := by
  have digit : ∀ value < 16, hexDigitValue (hexDigit value) = value := by decide
  induction width generalizing value with
  | zero => rw [Nat.pow_zero, Nat.mod_one, hexDigits, hexValue, List.foldl_nil]
  | succ width ih =>
      have last := digit (value % 16) (Nat.mod_lt value (by decide))
      have first := ih (value / 16)
      rw [hexValue] at first
      rw [hexDigits, hexValue, List.foldl_append, first, List.foldl_cons, List.foldl_nil, last, Nat.pow_succ',
        Nat.mod_mul]
      exact Nat.add_comm _ _

end SkillScan.Text
