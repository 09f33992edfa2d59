import SkillScan.Text.Line

/-!
# Pieces between separators

A text is cut at every place where a separator stands. No piece holds the separator, there is one piece
more than there are separators, and the pieces of two texts with a separator between them are the pieces
of the first followed by those of the second. Names of paths and lines of files are such pieces. What holds
no separator stands within a piece.
-/

namespace SkillScan.Text

theorem splitAt_nil (separator : Char) : splitAt separator [] = [[]] := rfl

theorem splitAt_cons (separator char : Char) (text : List Char) :
    splitAt separator (char :: text) = putBefore separator char (splitAt separator text) := rfl

/-- Cutting a text is the library's cutting of lists. -/
theorem splitAt_eq_splitOn (separator : Char) (text : List Char) :
    splitAt separator text = text.splitOn separator := by
  induction text with
  | nil => simp [splitAt_nil]
  | cons char text ih =>
      rw [splitAt_cons, ih, List.splitOn_cons_eq_if_modifyHead]
      simp only [putBefore, beq_iff_eq]
      split
      · rfl
      · cases pieces : text.splitOn separator with
        | nil => exact absurd pieces (List.splitOn_ne_nil separator text)
        | cons piece others => rfl

theorem splitAt_append_cons (separator : Char) (first second : List Char) :
    splitAt separator (first ++ separator :: second) =
      splitAt separator first ++ splitAt separator second := by
  simp only [splitAt_eq_splitOn]
  exact List.splitOn_append_cons_self first second

theorem splitAt_of_not_mem {separator : Char} {text : List Char} (absent : separator ∉ text) :
    splitAt separator text = [text] := by
  rw [splitAt_eq_splitOn]
  exact List.splitOn_eq_singleton absent

theorem splitAt_intercalate {separator : Char} {pieces : List (List Char)}
    (absent : ∀ piece ∈ pieces, separator ∉ piece) (nonempty : pieces ≠ []) :
    splitAt separator ([separator].intercalate pieces) = pieces := by
  rw [splitAt_eq_splitOn]
  exact List.splitOn_intercalate separator absent nonempty

theorem length_splitAt (separator : Char) (text : List Char) :
    (splitAt separator text).length = text.count separator + 1 := by
  induction text with
  | nil => rfl
  | cons char text ih =>
      rw [splitAt_cons]
      simp only [putBefore]
      split
      · next same => simp [same, ih]
      · next different =>
          simp only [List.length_cons, List.length_tail, ih,
            List.count_cons_of_ne different]
          omega

theorem not_mem_of_mem_splitAt {separator : Char} {text piece : List Char}
    (member : piece ∈ splitAt separator text) : separator ∉ piece := by
  induction text generalizing piece with
  | nil => simp_all [splitAt_nil]
  | cons char text ih =>
      rw [splitAt_cons] at member
      simp only [putBefore] at member
      split at member
      · rcases List.mem_cons.mp member with rfl | member
        · simp
        · exact ih member
      · next different =>
          rcases List.mem_cons.mp member with rfl | member
          · cases pieces : splitAt separator text with
            | nil => simp [Ne.symm different]
            | cons head others =>
                have headFree : separator ∉ head := ih (by simp [pieces])
                simp [Ne.symm different, headFree]
          · exact ih (List.mem_of_mem_tail member)

/-- Cutting a text leaves out separators only. -/
theorem mem_of_mem_splitAt {separator char : Char} {text piece : List Char}
    (member : piece ∈ splitAt separator text) (inPiece : char ∈ piece) : char ∈ text := by
  induction text generalizing piece with
  | nil => simp_all [splitAt_nil]
  | cons first text ih =>
      rw [splitAt_cons] at member
      simp only [putBefore] at member
      rw [List.mem_cons]
      split at member
      · rcases List.mem_cons.mp member with rfl | member
        · simp at inPiece
        · exact Or.inr (ih member inPiece)
      · rcases List.mem_cons.mp member with rfl | member
        · rcases List.mem_cons.mp inPiece with here | later
          · exact Or.inl here
          · cases pieces : splitAt separator text with
            | nil => simp [pieces] at later
            | cons head others =>
                rw [pieces] at later
                exact Or.inr (ih (by simp [pieces]) later)
        · exact Or.inr (ih (List.mem_of_mem_tail member) inPiece)

theorem occursIn_iff {part whole : List Char} : occursIn part whole = true ↔ part <:+: whole := by
  induction whole with
  | nil => rw [occursIn, List.isEmpty_iff, List.infix_nil]
  | cons char whole ih =>
      rw [occursIn, Bool.or_eq_true, List.isPrefixOf_iff_prefix, ih, List.infix_cons_iff]

/-- What ends in a separator ends before a text without the separator. -/
theorem exists_of_append_eq {separator : Char} {text more first second : List Char} (absent : separator ∉ more)
    (split : text ++ more = first ++ separator :: second) :
    ∃ rest, text = first ++ separator :: rest ∧ second = rest ++ more := by
  rcases List.append_eq_append_iff.mp split with ⟨reached, _, inside⟩ | ⟨reached, rfl, inside⟩
  · simp [inside] at absent
  · rcases List.cons_eq_append_iff.mp inside with ⟨_, rfl⟩ | ⟨rest, rfl, rfl⟩
    · simp at absent
    · exact ⟨rest, rfl, rfl⟩

theorem prefix_append_cons_iff {separator : Char} {part first second : List Char}
    (absent : separator ∉ part) : part <+: first ++ separator :: second ↔ part <+: first := by
  constructor
  · rintro ⟨rest, split⟩
    rcases List.append_eq_append_iff.mp split with ⟨behind, whole, _⟩ | ⟨reached, outside, inside⟩
    · exact ⟨behind, whole.symm⟩
    · rcases List.cons_eq_append_iff.mp inside with ⟨rfl, _⟩ | ⟨later, rfl, _⟩
      · exact ⟨[], by simpa using outside⟩
      · simp [outside] at absent
  · intro isPrefix
    exact isPrefix.trans (List.prefix_append first _)

/-- A part without the separator stands on one side of it. -/
theorem infix_append_cons_iff {separator : Char} {part first second : List Char}
    (absent : separator ∉ part) :
    part <:+: first ++ separator :: second ↔ part <:+: first ∨ part <:+: second := by
  constructor
  · rintro ⟨before, behind, split⟩
    rcases List.append_eq_append_iff.mp split with ⟨rest, rfl, _⟩ | ⟨reached, outside, inside⟩
    · exact Or.inl ⟨before, rest, rfl⟩
    · rcases List.cons_eq_append_iff.mp inside with ⟨rfl, _⟩ | ⟨later, rfl, rfl⟩
      · exact Or.inl ⟨before, [], by simpa using outside⟩
      · rcases List.append_eq_append_iff.mp outside with ⟨held, _, rfl⟩ | ⟨gap, _, inside⟩
        · simp at absent
        · rcases List.cons_eq_append_iff.mp inside with ⟨rfl, rfl⟩ | ⟨earlier, rfl, rfl⟩
          · simp at absent
          · exact Or.inr ⟨earlier, behind, rfl⟩
  · rintro (isInfix | isInfix)
    · exact isInfix.trans (List.prefix_append first _).isInfix
    · exact isInfix.trans ⟨first ++ [separator], [], by simp⟩

end SkillScan.Text
