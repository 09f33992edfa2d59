/-!
# Filling templates

A template is a text with slots, which are names between braces. It is filled from its beginning to its end: the
value of a name takes the place of its slot, and doubled braces stand for one brace. A value is not looked at
again, whatever braces are in it. Formats and conversions of values are left out.
-/

namespace SkillScan.Template

/-- Whether a character is a brace. -/
def isBrace (char : Char) : Bool :=
  char == '\x7b' || char == '\x7d'

/-- Whether a text is the name of a slot. -/
def isName (name : String) : Bool :=
  !name.toList.isEmpty && name.toList.all (!isBrace ·)

/-- The slot of a name. -/
def slot (name : String) : List Char :=
  '\x7b' :: (name.toList ++ ['\x7d'])

/-- Fills what is left of a template, outside of slots or behind the beginning of a name. There is no result if a
brace stands alone or a name has no value. -/
def fillFrom (values : List (String × String)) : Option (List Char) → List Char → Option (List Char)
  | none, [] => some []
  | some _, [] => none
  | none, '\x7b' :: '\x7b' :: rest => (fillFrom values none rest).map ('\x7b' :: ·)
  | none, '\x7d' :: '\x7d' :: rest => (fillFrom values none rest).map ('\x7d' :: ·)
  | none, char :: rest =>
    if char = '\x7b' then fillFrom values (some []) rest
    else if char = '\x7d' then none
    else (fillFrom values none rest).map (char :: ·)
  | some name, char :: rest =>
    if char = '\x7d' then do
      let value ← values.lookup (String.ofList name)
      (fillFrom values none rest).map (value.toList ++ ·)
    else if char = '\x7b' then none
    else fillFrom values (some (name ++ [char])) rest

/-- Fills a template with the values of names. -/
def fill? (values : List (String × String)) (template : String) : Option String :=
  (fillFrom values none template.toList).map String.ofList

section Filling

variable {values : List (String × String)} {name : String} {text rest : List Char}

theorem fillFrom_cons {char : Char} (noBrace : isBrace char = false) :
    fillFrom values none (char :: rest) = (fillFrom values none rest).map (char :: ·) := by
  simp only [isBrace, Bool.or_eq_false_iff, beq_eq_false_iff_ne, ne_eq] at noBrace
  rcases noBrace with ⟨notOpening, notClosing⟩
  rw [fillFrom, if_neg notOpening, if_neg notClosing]
  · rintro _ rfl
    exact absurd rfl notOpening
  · rintro _ rfl
    exact absurd rfl notClosing

/-- A text without braces stays as it is. -/
theorem fillFrom_append (noBrace : ∀ char ∈ text, isBrace char = false) :
    fillFrom values none (text ++ rest) = (fillFrom values none rest).map (text ++ ·) := by
  induction text with
  | nil => simp
  | cons char text ih =>
      rw [List.cons_append, fillFrom_cons (noBrace char (by simp)),
        ih fun other member => noBrace other (by simp [member]), Option.map_map]
      rfl

theorem fillFrom_name {before : List Char} (noBrace : ∀ char ∈ text, isBrace char = false) :
    fillFrom values (some before) (text ++ rest) = fillFrom values (some (before ++ text)) rest := by
  induction text generalizing before with
  | nil => simp
  | cons char text ih =>
      have different := noBrace char (by simp)
      simp only [isBrace, Bool.or_eq_false_iff, beq_eq_false_iff_ne, ne_eq] at different
      rw [List.cons_append, fillFrom, if_neg different.2, if_neg different.1,
        ih fun other member => noBrace other (by simp [member]), List.append_assoc, List.singleton_append]

/-- The value of a name takes the place of its slot. -/
theorem fillFrom_slot {value : String} (known : values.lookup name = some value) (isName : isName name = true) :
    fillFrom values none (slot name ++ rest) = (fillFrom values none rest).map (value.toList ++ ·) := by
  simp only [Template.isName, Bool.and_eq_true, Bool.not_eq_true', List.isEmpty_eq_false_iff, List.all_eq_true]
    at isName
  rcases isName with ⟨nonempty, noBrace⟩
  have closed : fillFrom values (some name.toList) ('\x7d' :: rest) =
      (fillFrom values none rest).map (value.toList ++ ·) := by
    simp [fillFrom, known]
  have opened : fillFrom values none ('\x7b' :: (name.toList ++ '\x7d' :: rest)) =
      fillFrom values (some []) (name.toList ++ '\x7d' :: rest) := by
    cases chars : name.toList with
    | nil => exact absurd chars nonempty
    | cons char chars =>
        have notOpening : char ≠ '\x7b' := by
          rintro rfl
          exact absurd (noBrace '\x7b' (by simp [chars])) (by decide)
        rw [List.cons_append, fillFrom, if_pos rfl]
        · intro _ _ same
          exact notOpening (List.cons.inj same).1
        · intro _ same
          exact absurd same (by decide)
  rw [slot, List.cons_append, List.append_assoc, List.singleton_append, opened, fillFrom_name noBrace,
    List.nil_append, closed]

end Filling

end SkillScan.Template
