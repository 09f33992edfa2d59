import SkillScan.Proofs.PropertyList.Reading
import SkillScan.Proofs.Text.LineEnds

/-!
# The characters of documents

All that stands in the document of a value besides its texts may stand in a document, and so may the entities by
which characters are replaced. So whether the characters of a document may all stand in it is up to the texts of
the value. Control characters are not even written, but the two numbers at the end of the first plane are, although
no reader of XML takes them.
-/

namespace SkillScan.PropertyList

mutual

/-- The texts of a value, those of its keys included. -/
def texts : PropertyList → List String
  | .text value => [value]
  | .integer _ => []
  | .array items => itemTexts items
  | .dictionary fields => fieldTexts fields

/-- The texts of the items of an array. -/
def itemTexts : List PropertyList → List String
  | [] => []
  | item :: rest => texts item ++ itemTexts rest

/-- The texts of the fields of a dictionary. -/
def fieldTexts : List (String × PropertyList) → List String
  | [] => []
  | (name, value) :: rest => name :: (texts value ++ fieldTexts rest)

end

/-- Whether all characters of some texts may stand in a document. -/
def AllStand (texts : List String) : Prop :=
  ∀ text ∈ texts, text.toList.all mayStand = true

instance (texts : List String) : Decidable (AllStand texts) :=
  inferInstanceAs (Decidable (∀ text ∈ texts, text.toList.all mayStand = true))

section Texts

variable {name content : String} {texts others : List String} {level : Nat}

@[simp]
theorem allStand_nil : AllStand [] := by
  simp [AllStand]

@[simp]
theorem allStand_cons_iff : AllStand (content :: texts) ↔ content.toList.all mayStand = true ∧ AllStand texts :=
  List.forall_mem_cons

@[simp]
theorem allStand_append_iff : AllStand (texts ++ others) ↔ AllStand texts ∧ AllStand others :=
  List.forall_mem_append

/-- All of ASCII but its control characters may stand in a document. -/
theorem mayStand_of_printable {char : Char} (low : 0x20 ≤ char.toNat) (high : char.toNat < 0x7F) :
    mayStand char = true := by
  simp only [mayStand, Bool.or_eq_true, Bool.and_eq_true, decide_eq_true_eq, beq_iff_eq]
  omega

theorem mayStand_of_isAlpha {char : Char} (letter : char.isAlpha = true) : mayStand char = true := by
  have range : 65 ≤ char.toNat ∧ char.toNat ≤ 90 ∨ 97 ≤ char.toNat ∧ char.toNat ≤ 122 := by
    obtain upper | lower := (Bool.or_eq_true _ _).mp letter
    · have bounds : 'A'.val ≤ char.val ∧ char.val ≤ 'Z'.val := of_decide_eq_true upper
      exact .inl bounds
    · have bounds := (Bool.and_eq_true _ _).mp lower
      exact .inr ⟨of_decide_eq_true bounds.1, of_decide_eq_true bounds.2⟩
  exact mayStand_of_printable (by omega) (by omega)

theorem mayStand_of_isDigit {char : Char} (digit : char.isDigit = true) : mayStand char = true := by
  have range : 48 ≤ char.toNat ∧ char.toNat ≤ 57 := by
    have bounds := (Bool.and_eq_true _ _).mp digit
    exact ⟨of_decide_eq_true bounds.1, of_decide_eq_true bounds.2⟩
  exact mayStand_of_printable (by omega) (by omega)

theorem IsTagName.all_mayStand (isName : IsTagName name) : name.toList.all mayStand = true := by
  rw [List.all_eq_true]
  intro char member
  exact mayStand_of_isAlpha (isName.isAlpha member)

theorem all_mayStand_lineAt (level : Nat) (content : String) :
    (lineAt level content).toList.all mayStand = content.toList.all mayStand := by
  have tabs : (List.replicate level '\t').all mayStand = true := by
    rw [List.all_eq_true]
    intro char member
    rw [List.eq_of_mem_replicate member]
    decide
  rw [lineAt, String.toList_append, String.toList_ofList, List.all_append, tabs, Bool.true_and]

theorem all_mayStand_element (isName : IsTagName name) (level : Nat) (content : String) :
    (element level name content).toList.all mayStand = content.toList.all mayStand := by
  have opens : "<".toList.all mayStand = true := by decide
  have ends : ">".toList.all mayStand = true := by decide
  have closes : "</".toList.all mayStand = true := by decide
  simp only [element, all_mayStand_lineAt, String.toList_append, List.all_append, isName.all_mayStand, opens, ends,
    closes, Bool.and_true, Bool.true_and]

theorem allStand_enclosing_iff (isName : IsTagName name) (level : Nat) (inner : List String) :
    AllStand (enclosing level name inner) ↔ AllStand inner := by
  have opens : "<".toList.all mayStand = true := by decide
  have ends : ">".toList.all mayStand = true := by decide
  have empties : "/>".toList.all mayStand = true := by decide
  have closes : "</".toList.all mayStand = true := by decide
  rw [enclosing]
  split
  · next isEmpty =>
      rw [List.isEmpty_iff.mp isEmpty]
      simp only [allStand_cons_iff, all_mayStand_lineAt, String.toList_append, List.all_append,
        isName.all_mayStand, opens, empties, Bool.and_true, allStand_nil, and_self]
  · simp only [allStand_append_iff, allStand_cons_iff, all_mayStand_lineAt, String.toList_append,
      List.all_append, isName.all_mayStand, opens, ends, closes, Bool.and_true, allStand_nil, and_self, and_true,
      true_and]

/-- The newlines that take the place of carriage returns may stand in a document as these may. -/
theorem all_mayStand_unifyNewlines (chars : List Char) :
    (Text.unifyNewlines chars).all mayStand = chars.all mayStand := by
  have newline : mayStand '\n' = true := by decide
  have carriageReturn : mayStand '\r' = true := by decide
  have both : (chars.foldr Text.Unified.put ⟨[], []⟩).afterOther.all mayStand = chars.all mayStand ∧
      (chars.foldr Text.Unified.put ⟨[], []⟩).afterReturn.all mayStand = chars.all mayStand := by
    induction chars with
    | nil => exact ⟨rfl, rfl⟩
    | cons char chars ih =>
        rw [List.foldr_cons, Text.Unified.put]
        split
        · next isNewline => simp only [isNewline, List.all_cons, newline, Bool.true_and, ih, and_self]
        · split
          · next isReturn =>
              simp only [isReturn, List.all_cons, newline, carriageReturn, Bool.true_and, ih, and_self]
          · simp only [List.all_cons, ih, and_self]
  exact both.1

theorem all_mayStand_escapedChar (char : Char) : (escapedChar char).all mayStand = mayStand char := by
  rw [escapedChar]
  split
  · next isAmpersand =>
      rw [beq_iff_eq.mp isAmpersand]
      decide
  · split
    · next isLess =>
        rw [beq_iff_eq.mp isLess]
        decide
    · split
      · next isGreater =>
          rw [beq_iff_eq.mp isGreater]
          decide
      · simp

theorem all_mayStand_escaped {text : String} (written : escaped text = .ok content) :
    content.toList.all mayStand = text.toList.all mayStand := by
  rw [escaped] at written
  split at written
  · cases written
  · cases written
    rw [String.toList_ofList, List.all_flatMap]
    simp only [all_mayStand_escapedChar]
    exact all_mayStand_unifyNewlines text.toList

theorem all_mayStand_toString (value : Int) : (toString value).toList.all mayStand = true := by
  rw [List.all_eq_true]
  intro char member
  by_cases isMinus : char = '-'
  · rw [isMinus]
    decide
  · cases digit : char.isDigit with
    | true => exact mayStand_of_isDigit digit
    | false => exact absurd member (Text.not_mem_toString_int digit isMinus)

end Texts

/-! ## Whole values -/

theorem exists_of_bind {Error Value Result : Type} {first : Except Error Value}
    {next : Value → Except Error Result} {result : Result}
    (completed : first >>= next = .ok result) : ∃ value, first = .ok value ∧ next value = .ok result := by
  cases first with
  | ok value => exact ⟨value, rfl, completed⟩
  | error error => cases completed

mutual

/-- By induction on the value: its lines hold its texts and otherwise characters that may stand in a document. -/
theorem allStand_lines_iff (level : Nat) (value : PropertyList) {written : List String}
    (writes : lines level value = .ok written) : AllStand written ↔ AllStand (texts value) := by
  cases value with
  | text value =>
      rw [lines] at writes
      rcases exists_of_bind writes with ⟨content, contentWritten, same⟩
      cases same
      simp only [texts, allStand_cons_iff, allStand_nil, and_true]
      rw [all_mayStand_element (by decide), all_mayStand_escaped contentWritten]
  | integer value =>
      rw [lines, writtenInteger] at writes
      split at writes
      · cases writes
        simp only [texts, allStand_cons_iff, allStand_nil, and_true, iff_true]
        rw [all_mayStand_element (by decide), all_mayStand_toString]
      · cases writes
  | array items =>
      rw [lines] at writes
      rcases exists_of_bind writes with ⟨inner, innerWritten, same⟩
      cases same
      rw [allStand_enclosing_iff (by decide), texts, allStand_itemLines_iff (level + 1) items innerWritten]
  | dictionary fields =>
      rw [lines] at writes
      rcases exists_of_bind writes with ⟨inner, innerWritten, same⟩
      cases same
      rw [allStand_enclosing_iff (by decide), texts, allStand_fieldLines_iff (level + 1) fields innerWritten]

theorem allStand_itemLines_iff (level : Nat) (items : List PropertyList) {written : List String}
    (writes : itemLines level items = .ok written) : AllStand written ↔ AllStand (itemTexts items) := by
  cases items with
  | nil =>
      cases writes
      rw [itemTexts]
  | cons item rest =>
      rw [itemLines] at writes
      rcases exists_of_bind writes with ⟨first, firstWritten, restWrites⟩
      rcases exists_of_bind restWrites with ⟨further, furtherWritten, same⟩
      cases same
      rw [itemTexts, allStand_append_iff, allStand_append_iff, allStand_lines_iff level item firstWritten,
        allStand_itemLines_iff level rest furtherWritten]

theorem allStand_fieldLines_iff (level : Nat) (fields : List (String × PropertyList)) {written : List String}
    (writes : fieldLines level fields = .ok written) : AllStand written ↔ AllStand (fieldTexts fields) := by
  cases fields with
  | nil =>
      cases writes
      rw [fieldTexts]
  | cons field rest =>
      rcases field with ⟨name, value⟩
      rw [fieldLines] at writes
      rcases exists_of_bind writes with ⟨key, keyWritten, afterKey⟩
      rcases exists_of_bind afterKey with ⟨first, firstWritten, restWrites⟩
      rcases exists_of_bind restWrites with ⟨further, furtherWritten, same⟩
      cases same
      rw [fieldTexts, List.cons_append, allStand_cons_iff, allStand_cons_iff, allStand_append_iff,
        allStand_append_iff, all_mayStand_element (by decide), all_mayStand_escaped keyWritten,
        allStand_lines_iff level value firstWritten, allStand_fieldLines_iff level rest furtherWritten]

end

theorem all_mayStand_charsOf_iff (lines : List String) :
    (charsOf lines).all mayStand = true ↔ AllStand lines := by
  have newline : mayStand '\n' = true := by decide
  simp only [charsOf, AllStand, List.all_flatMap, List.all_append, List.all_cons, List.all_nil, newline,
    Bool.and_true, List.all_eq_true]

end SkillScan.PropertyList
