import SkillScan.Proofs.Pattern.Occurrence

/-!
# Languages of patterns

The patterns that are put together from others are read by one equivalence each, so the texts that a
signature fits can be written down without the search. An edge next to a text that begins or ends in a word
character asks only that there is no other word character on its far side.
-/

namespace SkillScan.Pattern

section Parts

variable {kind : Char → Bool} {before found behind : List Char}

@[simp]
theorem inOrder_singleton (pattern : Pattern) : inOrder [pattern] = pattern := rfl

theorem fits_inOrder_cons {first second : Pattern} {rest : List Pattern} :
    (inOrder (first :: second :: rest)).Fits before found behind ↔
      ∃ left right, found = left ++ right ∧ first.Fits before left (right ++ behind) ∧
        (inOrder (second :: rest)).Fits (before ++ left) right behind := Iff.rfl

theorem fits_oneOf_iff {patterns : List Pattern} :
    (oneOf patterns).Fits before found behind ↔
      ∃ pattern ∈ patterns, pattern.Fits before found behind := by
  induction patterns with
  | nil => simp [oneOf, never, Fits]
  | cons pattern patterns ih =>
      cases patterns with
      | nil => simp [oneOf]
      | cons next patterns =>
          rw [List.exists_mem_cons_iff, ← ih]
          rfl

theorem fits_many_iff :
    (many kind).Fits before found behind ↔ ∀ char ∈ found, kind char = true := Iff.rfl

theorem fits_lineEnd_iff :
    lineEnd.Fits before found behind ↔ found = [] ∧ (behind = [] ∨ behind = ['\n']) := Iff.rfl

theorem fits_optional_iff {pattern : Pattern} :
    pattern.optional.Fits before found behind ↔
      pattern.Fits before found behind ∨ found = [] := Iff.rfl

theorem fits_some_iff :
    (Pattern.some kind).Fits before found behind ↔ found ≠ [] ∧ ∀ char ∈ found, kind char = true := by
  constructor
  · rintro ⟨left, right, rfl, ⟨char, rfl, isKind⟩, areKind⟩
    refine ⟨by simp, ?_⟩
    intro other member
    rcases List.mem_cons.mp member with rfl | member
    · exact isKind
    · exact areKind other member
  · rintro ⟨nonempty, areKind⟩
    cases found with
    | nil => exact absurd rfl nonempty
    | cons char found =>
        refine ⟨[char], found, rfl, ⟨char, rfl, areKind char (by simp)⟩, ?_⟩
        intro other member
        exact areKind other (List.mem_cons_of_mem char member)

/-- Kinds of characters in order fit the texts whose characters are of these kinds. -/
theorem fits_inOrder_map_one_iff {α : Type} {items : List α} {kindOf : α → Char → Bool} :
    (inOrder (items.map fun item => .one (kindOf item))).Fits before found behind ↔
      List.Forall₂ (fun item char => kindOf item char = true) items found := by
  induction items generalizing before found with
  | nil => simp [inOrder, Fits]
  | cons item items ih =>
      cases items with
      | nil =>
          constructor
          · rintro ⟨char, rfl, isKind⟩
            exact .cons isKind .nil
          · intro ofKinds
            rcases List.forall₂_cons_left_iff.mp ofKinds with ⟨char, rest, isKind, restNil, rfl⟩
            rw [List.forall₂_nil_left_iff.mp restNil]
            exact ⟨char, rfl, isKind⟩
      | cons next items =>
          simp only [List.map_cons, fits_inOrder_cons] at ih ⊢
          constructor
          · rintro ⟨left, right, rfl, ⟨char, rfl, isKind⟩, others⟩
            exact .cons isKind (ih.mp others)
          · intro ofKinds
            rcases List.forall₂_cons_left_iff.mp ofKinds with ⟨char, rest, isKind, others, rfl⟩
            exact ⟨[char], rest, rfl, ⟨char, rfl, isKind⟩, ih.mpr others⟩

theorem fits_exactly_iff {count : Nat} :
    (exactly kind count).Fits before found behind ↔
      found.length = count ∧ ∀ char ∈ found, kind char = true := by
  have mapped : exactly kind count =
      inOrder ((List.replicate count ()).map fun _ => .one kind) := by
    rw [exactly, List.map_replicate]
  rw [mapped, @fits_inOrder_map_one_iff _ _ _ _ _ (fun _ => kind), List.forall₂_iff_get]
  constructor
  · rintro ⟨sameLength, areKind⟩
    rw [List.length_replicate] at sameLength
    refine ⟨sameLength.symm, ?_⟩
    intro char member
    rcases List.get_of_mem member with ⟨⟨place, inside⟩, rfl⟩
    exact areKind place (by rw [List.length_replicate, sameLength]; exact inside) inside
  · rintro ⟨sameLength, areKind⟩
    refine ⟨by rw [List.length_replicate, sameLength], ?_⟩
    intro place _ inside
    exact areKind _ (List.get_mem found ⟨place, inside⟩)

theorem fits_atLeast_iff {count : Nat} :
    (atLeast kind count).Fits before found behind ↔
      count ≤ found.length ∧ ∀ char ∈ found, kind char = true := by
  constructor
  · rintro ⟨left, right, rfl, leftFits, rightKind⟩
    rcases fits_exactly_iff.mp leftFits with ⟨sameLength, leftKind⟩
    refine ⟨by simp [sameLength], ?_⟩
    intro char member
    rcases List.mem_append.mp member with member | member
    · exact leftKind char member
    · exact rightKind char member
  · rintro ⟨enough, areKind⟩
    refine ⟨found.take count, found.drop count, (List.take_append_drop _ _).symm, ?_, ?_⟩
    · rw [fits_exactly_iff, List.length_take, Nat.min_eq_left enough]
      refine ⟨rfl, ?_⟩
      intro char member
      exact areKind char (List.mem_of_mem_take member)
    · intro char member
      exact areKind char (List.mem_of_mem_drop member)

theorem fits_wordEdge_iff_of_endsInWord (ends : Text.endsInWord before = true) :
    wordEdge.Fits before found behind ↔ found = [] ∧ Text.beginsInWord behind = false := by
  simp [Fits, ends]

theorem fits_wordEdge_iff_of_beginsInWord (begins : Text.beginsInWord behind = true) :
    wordEdge.Fits before found behind ↔ found = [] ∧ Text.endsInWord before = false := by
  simp [Fits, begins]

theorem fits_text_iff {wanted : String} :
    (text wanted).Fits before found behind ↔ found = wanted.toList := by
  rw [text, fits_inOrder_map_one_iff]
  have same : (fun item char : Char => (char == item) = true) = Eq := by
    funext item char
    rw [beq_iff_eq]
    exact propext eq_comm
  rw [same, List.forall₂_eq_eq_eq, eq_comm]

theorem fits_anyCase_iff {wanted : String} :
    (anyCase wanted).Fits before found behind ↔ Text.Spells wanted found :=
  fits_inOrder_map_one_iff

end Parts

/-- Where the text around a pattern plays no part, a line shows it if and only if it contains a text of its
language. -/
theorem isShownBy_iff_of_language {pattern : Pattern} {language : List Char → Prop}
    (fits : ∀ before found behind, pattern.Fits before found behind ↔ language found)
    {line : List Char} :
    pattern.isShownBy line = true ↔ ∃ found, found <:+: line ∧ language found := by
  rw [isShownBy_iff]
  constructor
  · rintro ⟨before, found, behind, rfl, isFound⟩
    exact ⟨found, List.infix_append before found behind, (fits _ _ _).mp isFound⟩
  · rintro ⟨found, ⟨before, behind, split⟩, isFound⟩
    exact ⟨before, found, behind, split.symm, (fits _ _ _).mpr isFound⟩

end SkillScan.Pattern
