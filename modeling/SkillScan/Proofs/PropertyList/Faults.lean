import SkillScan.PropertyList

/-!
# What keeps a value from being written

The faults of a value are the control characters in its texts and the integers that are out of range, in the order
in which a document would show them. Writing a value reports the first of them, and a value without faults is
written.
-/

namespace SkillScan.PropertyList

/-- What is wrong with a text. -/
def textFaults (text : String) : List PropertyListError :=
  if text.toList.any isControl then [.controlCharacter] else []

/-- What is wrong with an integer. -/
def integerFaults (value : Int) : List PropertyListError :=
  if leastInteger ≤ value && value < integerBound then [] else [.integerOutOfRange value]

mutual

/-- What is wrong with a value. -/
def faults : PropertyList → List PropertyListError
  | .text value => textFaults value
  | .integer value => integerFaults value
  | .array items => itemFaults items
  | .dictionary fields => fieldFaults fields

/-- What is wrong with the items of an array. -/
def itemFaults : List PropertyList → List PropertyListError
  | [] => []
  | item :: rest => faults item ++ itemFaults rest

/-- What is wrong with the fields of a dictionary. -/
def fieldFaults : List (String × PropertyList) → List PropertyListError
  | [] => []
  | (name, value) :: rest => textFaults name ++ (faults value ++ fieldFaults rest)

end

/-- The error that a computation ends with, if it does. -/
def errorOf? {Error Value : Type} : Except Error Value → Option Error
  | .ok _ => none
  | .error error => some error

section Faults

variable {Error Value Result : Type}

theorem errorOf?_eq_some_iff {computed : Except Error Value} {error : Error} :
    errorOf? computed = some error ↔ computed = .error error := by
  cases computed with
  | ok value => simp [errorOf?]
  | error other => simp [errorOf?]

theorem errorOf?_bind {first : Except Error Value} {next : Value → Except Error Result}
    {further : Option Error} (fails : ∀ value, errorOf? (next value) = further) :
    errorOf? (first >>= next) = (errorOf? first).or further := by
  cases first with
  | ok value => exact fails value
  | error error => rfl

theorem errorOf?_return (first : Except Error Value) (form : Value → Result) :
    errorOf? (do return form (← first)) = errorOf? first := by
  cases first <;> rfl

theorem errorOf?_escaped (text : String) : errorOf? (escaped text) = (textFaults text).head? := by
  rw [escaped, textFaults]
  split <;> rfl

theorem errorOf?_writtenInteger (value : Int) :
    errorOf? (writtenInteger value) = (integerFaults value).head? := by
  rw [writtenInteger, integerFaults]
  split <;> rfl

mutual

theorem errorOf?_lines (level : Nat) (value : PropertyList) :
    errorOf? (lines level value) = (faults value).head? := by
  cases value with
  | text value =>
      rw [lines, faults, errorOf?_return, errorOf?_escaped]
  | integer value =>
      rw [lines, faults, errorOf?_return, errorOf?_writtenInteger]
  | array items =>
      rw [lines, faults, errorOf?_return, errorOf?_itemLines]
  | dictionary fields =>
      rw [lines, faults, errorOf?_return, errorOf?_fieldLines]

theorem errorOf?_itemLines (level : Nat) (items : List PropertyList) :
    errorOf? (itemLines level items) = (itemFaults items).head? := by
  cases items with
  | nil => rfl
  | cons item rest =>
      rw [itemLines, itemFaults, List.head?_append, ← errorOf?_lines level item,
        ← errorOf?_itemLines level rest]
      refine errorOf?_bind ?_
      intro _
      rw [errorOf?_return]

theorem errorOf?_fieldLines (level : Nat) (fields : List (String × PropertyList)) :
    errorOf? (fieldLines level fields) = (fieldFaults fields).head? := by
  cases fields with
  | nil => rfl
  | cons field rest =>
      rcases field with ⟨name, value⟩
      rw [fieldLines, fieldFaults, List.head?_append, List.head?_append, ← errorOf?_escaped,
        ← errorOf?_lines level value, ← errorOf?_fieldLines level rest]
      refine errorOf?_bind ?_
      intro _
      refine errorOf?_bind ?_
      intro _
      rw [errorOf?_return]

end

/-- Writing a value reports the first of its faults. -/
theorem errorOf?_document (value : PropertyList) : errorOf? (document value) = (faults value).head? := by
  rw [document, errorOf?_return, errorOf?_lines]

theorem document_eq_error_iff {value : PropertyList} {fault : PropertyListError} :
    document value = .error fault ↔ (faults value).head? = some fault := by
  rw [← errorOf?_document, errorOf?_eq_some_iff]

end Faults

end SkillScan.PropertyList
