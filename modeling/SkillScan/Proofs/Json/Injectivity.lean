import SkillScan.Json
import SkillScan.Proofs.Text.Numeral
import SkillScan.Proofs.Text.Run

/-!
# Values told apart by their documents

Different values have different documents. The first character of a written value tells of what kind it is, and
nothing has to be known about what stands behind it to find its end: a text ends with a quote that no escape holds,
a list and an object with a bracket on a line of its own, and a number where no digit follows. An escape is read as
the character that it has been made from, whether it is a letter, four digits or two times four digits.
-/

namespace SkillScan.Json

open Text

/-! ## Texts -/

/-- Reads the UTF-16 unit that four digits write, and what stands behind it. -/
def unitIn? : List Char → Option (Nat × List Char)
  | '\\' :: 'u' :: first :: second :: third :: fourth :: rest =>
    some (hexValue [first, second, third, fourth], rest)
  | _ => none

/-- The characters that escapes of one letter stand for. -/
def letterEscapes : List (Char × Char) :=
  [('\x22', '\x22'), ('\\', '\\'), ('n', '\n'), ('r', '\r'), ('t', '\t'), ('b', '\x08'), ('f', '\x0C')]

/-- Reads the character of an escape of one letter or of no escape, and what stands behind it. -/
def plainCharIn? : List Char → Option (Char × List Char)
  | [] => none
  | '\\' :: letter :: rest => (letterEscapes.lookup letter).map fun char => (char, rest)
  | char :: rest => some (char, rest)

/-- Reads the first character of what stands between quotes, and what stands behind it. -/
def charIn? (text : List Char) : Option (Char × List Char) :=
  match unitIn? text with
  | none => plainCharIn? text
  | some (unit, rest) =>
    if isFirstHalf unit then (unitIn? rest).map fun (second, rest) => (charOfHalves unit second, rest)
    else some (Char.ofNat unit, rest)

theorem unitIn?_unitEscape {unit : Nat} (fits : unit < 0x10000) (rest : List Char) :
    unitIn? (unitEscape unit ++ rest) = some (unit, rest) := by
  have value : hexValue (hexDigits 4 unit) = unit := by
    rw [hexValue_hexDigits]
    exact Nat.mod_eq_of_lt fits
  have read : unitIn? (unitEscape unit ++ rest) = some (hexValue (hexDigits 4 unit), rest) := rfl
  rw [read, value]

section Chars

variable {char : Char}

theorem charIn?_unitEscape (isWhole : char.toNat < 0x10000) (rest : List Char) :
    charIn? (unitEscape char.toNat ++ rest) = some (char, rest) := by
  have notFirstHalf : isFirstHalf char.toNat = false := by
    have valid : char.toNat < 0xD800 ∨ 0xDFFF < char.toNat ∧ char.toNat < 0x110000 := char.valid
    simp only [isFirstHalf, Bool.and_eq_false_iff, decide_eq_false_iff_not]
    omega
  simp only [charIn?, unitIn?_unitEscape isWhole, notFirstHalf, Char.ofNat_toNat]
  rfl

theorem charIn?_pair (isPair : 0x10000 ≤ char.toNat) (rest : List Char) :
    charIn? (unitEscape (0xD800 + (char.toNat - 0x10000) / 0x400) ++
      unitEscape (0xDC00 + (char.toNat - 0x10000) % 0x400) ++ rest) = some (char, rest) := by
  have valid : char.toNat < 0xD800 ∨ 0xDFFF < char.toNat ∧ char.toNat < 0x110000 := char.valid
  generalize isFirst : 0xD800 + (char.toNat - 0x10000) / 0x400 = first
  generalize isSecond : 0xDC00 + (char.toNat - 0x10000) % 0x400 = second
  have firstHalf : isFirstHalf first = true := by
    simp only [isFirstHalf, Bool.and_eq_true, decide_eq_true_eq]
    omega
  have joined : charOfHalves first second = char := by
    have same : 0x10000 + (first - 0xD800) * 0x400 + (second - 0xDC00) = char.toNat := by omega
    rw [charOfHalves, same, Char.ofNat_toNat]
  have firstRead := unitIn?_unitEscape (show first < 0x10000 by omega)
  have secondRead := unitIn?_unitEscape (show second < 0x10000 by omega)
  simp only [charIn?, List.append_assoc, firstRead, firstHalf, if_true, secondRead, Option.map_some, joined]

theorem charIn?_self (unmarked : char ≠ '\\') (rest : List Char) :
    charIn? (char :: rest) = some (char, rest) := by
  have noUnit : unitIn? (char :: rest) = none := by
    unfold unitIn?
    split
    · next same => exact absurd (List.cons.inj same).1 unmarked
    · rfl
  have noEscape : plainCharIn? (char :: rest) = some (char, rest) := by
    apply plainCharIn?.eq_3
    intro letter more isMark
    exact absurd isMark unmarked
  simp only [charIn?, noUnit, noEscape]

/-- An escape is read as the character that it has been made from. -/
theorem charIn?_escapedChar (char : Char) (rest : List Char) :
    charIn? (escapedChar char ++ rest) = some (char, rest) := by
  have named {code : Nat} (isCode : (char.toNat == code) = true) : char = Char.ofNat code := by
    rw [← beq_iff_eq.mp isCode, Char.ofNat_toNat]
  simp only [escapedChar]
  split_ifs with marked newline carriageReturn tab backspace formFeed printable whole
  · simp only [Bool.or_eq_true, beq_iff_eq] at marked
    rcases marked with rfl | rfl
    · rfl
    · rfl
  · rw [beq_iff_eq.mp newline]
    rfl
  · rw [beq_iff_eq.mp carriageReturn]
    rfl
  · rw [beq_iff_eq.mp tab]
    rfl
  · rw [named backspace]
    rfl
  · rw [named formFeed]
    rfl
  · simp only [Bool.or_eq_true, beq_iff_eq, not_or] at marked
    exact charIn?_self marked.2 rest
  · exact charIn?_unitEscape whole rest
  · exact charIn?_pair (Nat.le_of_not_lt whole) rest

theorem escapedChar_append_inj {other : Char} {rest otherRest : List Char}
    (same : escapedChar char ++ rest = escapedChar other ++ otherRest) : char = other ∧ rest = otherRest := by
  have read := charIn?_escapedChar char rest
  rw [same, charIn?_escapedChar] at read
  simpa [eq_comm] using read

/-- No escape begins with a quote, that of the quote included. -/
theorem escapedChar_append_ne (char : Char) (rest more : List Char) :
    escapedChar char ++ rest ≠ '\x22' :: more := by
  intro same
  have read := charIn?_escapedChar char rest
  rw [same, charIn?_self (by decide), Option.some.injEq, Prod.mk.injEq] at read
  rw [← read.1] at same
  exact absurd (List.cons.inj same).1 (by decide)

end Chars

/-- By induction on the characters: a quote that no escape holds ends the text. -/
theorem escaped_append_inj {chars others rest otherRest : List Char}
    (same : chars.flatMap escapedChar ++ '\x22' :: rest = others.flatMap escapedChar ++ '\x22' :: otherRest) :
    chars = others ∧ rest = otherRest := by
  induction chars generalizing others with
  | nil =>
      cases others with
      | nil => exact ⟨rfl, (List.cons.inj same).2⟩
      | cons other others =>
          rw [List.flatMap_cons, List.append_assoc] at same
          exact absurd same.symm (escapedChar_append_ne other _ _)
  | cons char chars ih =>
      rw [List.flatMap_cons, List.append_assoc] at same
      cases others with
      | nil => exact absurd same (escapedChar_append_ne char _ _)
      | cons other others =>
          rw [List.flatMap_cons, List.append_assoc] at same
          rcases escapedChar_append_inj same with ⟨rfl, behind⟩
          rcases ih behind with ⟨rfl, sameRest⟩
          exact ⟨rfl, sameRest⟩

theorem writtenText_append_inj {text other : String} {rest otherRest : List Char}
    (same : writtenText text ++ rest = writtenText other ++ otherRest) : text = other ∧ rest = otherRest := by
  simp only [writtenText, List.cons_append, List.append_assoc, List.cons.injEq, true_and] at same
  rcases escaped_append_inj same with ⟨sameChars, sameRest⟩
  exact ⟨String.toList_inj.mp sameChars, sameRest⟩

/-! ## Numbers -/

/-- Whether a character may stand in a written number. -/
def isNumeral (char : Char) : Bool :=
  char.isDigit || char == '-'

theorem isNumeral_of_mem_toString {value : Int} {char : Char} (member : char ∈ (toString value).toList) :
    isNumeral char = true := by
  by_contra noNumeral
  simp only [isNumeral, Bool.or_eq_true, beq_iff_eq, not_or, Bool.not_eq_true] at noNumeral
  exact not_mem_toString_int noNumeral.1 noNumeral.2 member

theorem toString_append_inj {value other : Int} {rest otherRest : List Char}
    (ends : beginsIn isNumeral rest = false) (otherEnds : beginsIn isNumeral otherRest = false)
    (same : (toString value).toList ++ rest = (toString other).toList ++ otherRest) :
    value = other ∧ rest = otherRest := by
  have numerals := @isNumeral_of_mem_toString value
  have read := takeWhile_append_of_stops (fun _ => numerals) ends
  rw [same, takeWhile_append_of_stops (fun _ => isNumeral_of_mem_toString) otherEnds] at read
  rw [read] at same
  have sameValue := integer?_toString value
  rw [← read, integer?_toString] at sameValue
  exact ⟨(Option.some.inj sameValue).symm, List.append_cancel_left same⟩

/-! ## Values -/

/-- The kinds of values that the first character tells apart. -/
inductive Kind where
  | null
  | bool (value : Bool)
  | int
  | text
  | list
  | object

/-- The kind of a value. -/
def kind : Json → Kind
  | .null => .null
  | .bool value => .bool value
  | .int _ => .int
  | .text _ => .text
  | .list _ => .list
  | .object _ => .object

/-- The kind of the values that a character begins. -/
def kindAt (char : Char) : Kind :=
  if char = 'n' then .null
  else if char = 't' then .bool true
  else if char = 'f' then .bool false
  else if char = '\x22' then .text
  else if char = '[' then .list
  else if char = '\x7b' then .object
  else .int

theorem kindAt_of_isNumeral {char : Char} (numeral : isNumeral char = true) : kindAt char = .int := by
  have differ {letter : Char} (noNumeral : isNumeral letter = false) : char ≠ letter := by
    rintro rfl
    exact Bool.noConfusion (numeral.symm.trans noNumeral)
  simp only [kindAt, differ (show isNumeral 'n' = false by decide), differ (show isNumeral 't' = false by decide),
    differ (show isNumeral 'f' = false by decide), differ (show isNumeral '\x22' = false by decide),
    differ (show isNumeral '[' = false by decide), differ (show isNumeral '\x7b' = false by decide), if_false]

theorem head?_written (level : Nat) (value : Json) (rest : List Char) :
    ((written level value ++ rest).head?).map kindAt = some value.kind := by
  cases value with
  | null => rfl
  | bool value =>
      cases value with
      | false => rfl
      | true => rfl
  | int value =>
      have numerals := @isNumeral_of_mem_toString value
      rw [written]
      cases digits : (toString value).toList with
      | nil =>
          have read := integer?_toString value
          rw [digits] at read
          exact absurd read (by simp [integer?, natural?])
      | cons first more =>
          rw [digits] at numerals
          exact congrArg some (kindAt_of_isNumeral (numerals List.mem_cons_self))
  | text value => rfl
  | list items =>
      cases items with
      | nil => rw [written]; rfl
      | cons first more => rw [written]; rfl
  | object fields =>
      cases fields with
      | nil => rw [written]; rfl
      | cons first more => rw [written]; rfl

theorem kind_eq_of_written {level : Nat} {value other : Json} {rest otherRest : List Char}
    (same : written level value ++ rest = written level other ++ otherRest) : value.kind = other.kind := by
  have kinds := head?_written level value rest
  rw [same, head?_written] at kinds
  exact (Option.some.inj kinds).symm

section Members

variable {level : Nat} {rest otherRest : List Char}

/-- What stands behind the last member: the line of the bracket. -/
def closing (level : Nat) (bracket : Char) (rest : List Char) : List Char :=
  '\n' :: (List.replicate (2 * level) ' ' ++ bracket :: rest)

theorem closing_inj {bracket : Char} (same : closing level bracket rest = closing level bracket otherRest) :
    rest = otherRest := by
  simpa [closing] using same

theorem ends_writtenItems (items : List Json) {bracket : Char} :
    beginsIn isNumeral (writtenItems (level + 1) items ++ closing level bracket rest) = false := by
  cases items with
  | nil => rw [writtenItems]; rfl
  | cons item items => rw [writtenItems]; rfl

theorem ends_writtenFields (fields : List (String × Json)) {bracket : Char} :
    beginsIn isNumeral (writtenFields (level + 1) fields ++ closing level bracket rest) = false := by
  cases fields with
  | nil => rw [writtenFields]; rfl
  | cons field fields => rw [writtenFields]; rfl

/-- The first item is written like the others, with the bracket in the place of a comma. -/
theorem writtenItems_of_list {item other : Json} {items others : List Json}
    (same : written level (.list (item :: items)) ++ rest = written level (.list (other :: others)) ++ otherRest) :
    writtenItems (level + 1) (item :: items) ++ closing level ']' rest =
      writtenItems (level + 1) (other :: others) ++ closing level ']' otherRest := by
  simpa [written, writtenItems, newLine, closing] using same

theorem writtenFields_of_object {field other : String × Json} {fields others : List (String × Json)}
    (same : written level (.object (field :: fields)) ++ rest =
      written level (.object (other :: others)) ++ otherRest) :
    writtenFields (level + 1) (field :: fields) ++ closing level '\x7d' rest =
      writtenFields (level + 1) (other :: others) ++ closing level '\x7d' otherRest := by
  simpa [written, writtenFields, newLine, closing] using same

end Members

-- By induction on the values: what is written of a value ends where it ends, whatever stands behind it.
mutual

theorem written_append_inj (level : Nat) : (value other : Json) → {rest otherRest : List Char} →
    beginsIn isNumeral rest = false → beginsIn isNumeral otherRest = false →
    written level value ++ rest = written level other ++ otherRest → value = other ∧ rest = otherRest
  | value, other, rest, otherRest, ends, otherEnds, same => by
    have sameKind := kind_eq_of_written same
    cases value with
    | null =>
        cases other with
        | null => exact ⟨rfl, List.append_cancel_left same⟩
        | _ => cases sameKind
    | bool value =>
        cases other with
        | bool other =>
            cases sameKind
            exact ⟨rfl, List.append_cancel_left same⟩
        | _ => cases sameKind
    | int value =>
        cases other with
        | int other =>
            simp only [written] at same
            rcases toString_append_inj ends otherEnds same with ⟨rfl, sameRest⟩
            exact ⟨rfl, sameRest⟩
        | _ => cases sameKind
    | text value =>
        cases other with
        | text other =>
            simp only [written] at same
            rcases writtenText_append_inj same with ⟨rfl, sameRest⟩
            exact ⟨rfl, sameRest⟩
        | _ => cases sameKind
    | list items =>
        cases other with
        | list others =>
            cases items with
            | nil =>
                cases others with
                | nil => exact ⟨rfl, List.append_cancel_left same⟩
                | cons other others => simp [written, newLine] at same
            | cons item items =>
                cases others with
                | nil => simp [written, newLine] at same
                | cons other others =>
                    rcases writtenItems_append_inj level (item :: items) (other :: others)
                      (writtenItems_of_list same) with ⟨sameItems, sameRest⟩
                    exact ⟨congrArg list sameItems, sameRest⟩
        | _ => cases sameKind
    | object fields =>
        cases other with
        | object others =>
            cases fields with
            | nil =>
                cases others with
                | nil => exact ⟨rfl, List.append_cancel_left same⟩
                | cons other others => simp [written, newLine] at same
            | cons field fields =>
                cases others with
                | nil => simp [written, newLine] at same
                | cons other others =>
                    rcases writtenFields_append_inj level (field :: fields) (other :: others)
                      (writtenFields_of_object same) with ⟨sameFields, sameRest⟩
                    exact ⟨congrArg object sameFields, sameRest⟩
        | _ => cases sameKind

theorem writtenItems_append_inj (level : Nat) : (items others : List Json) → {rest otherRest : List Char} →
    writtenItems (level + 1) items ++ closing level ']' rest =
      writtenItems (level + 1) others ++ closing level ']' otherRest →
    items = others ∧ rest = otherRest
  | [], others, rest, otherRest, same => by
    cases others with
    | nil =>
        simp only [writtenItems, List.nil_append] at same
        exact ⟨rfl, closing_inj same⟩
    | cons other others => simp [writtenItems, closing] at same
  | item :: items, others, rest, otherRest, same => by
    cases others with
    | nil => simp [writtenItems, closing] at same
    | cons other others =>
        simp only [writtenItems, List.cons_append, List.append_assoc, List.cons.injEq, true_and,
          List.append_cancel_left_eq] at same
        rcases written_append_inj (level + 1) item other (ends_writtenItems items) (ends_writtenItems others)
          same with ⟨rfl, behind⟩
        rcases writtenItems_append_inj level items others behind with ⟨rfl, sameRest⟩
        exact ⟨rfl, sameRest⟩

theorem writtenFields_append_inj (level : Nat) :
    (fields others : List (String × Json)) → {rest otherRest : List Char} →
    writtenFields (level + 1) fields ++ closing level '\x7d' rest =
      writtenFields (level + 1) others ++ closing level '\x7d' otherRest →
    fields = others ∧ rest = otherRest
  | [], others, rest, otherRest, same => by
    cases others with
    | nil =>
        simp only [writtenFields, List.nil_append] at same
        exact ⟨rfl, closing_inj same⟩
    | cons other others => simp [writtenFields, closing] at same
  | (name, value) :: fields, others, rest, otherRest, same => by
    cases others with
    | nil => simp [writtenFields, closing] at same
    | cons other others =>
        simp only [writtenFields, List.cons_append, List.nil_append, List.append_assoc, List.cons.injEq, true_and,
          List.append_cancel_left_eq] at same
        rcases writtenText_append_inj same with ⟨rfl, sameValue⟩
        simp only [List.cons.injEq, true_and] at sameValue
        rcases written_append_inj (level + 1) value other.2 (ends_writtenFields fields) (ends_writtenFields others)
          sameValue with ⟨rfl, behind⟩
        rcases writtenFields_append_inj level fields others behind with ⟨rfl, sameRest⟩
        exact ⟨rfl, sameRest⟩

end

/-- Documents are equal only if their values are. -/
theorem document_injective : Function.Injective document := by
  intro value other same
  have chars : written 0 value ++ [] = written 0 other ++ [] := by
    rw [List.append_nil, List.append_nil]
    exact String.ofList_injective same
  exact (written_append_inj 0 value other rfl rfl chars).1

end SkillScan.Json
