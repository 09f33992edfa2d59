import SkillScan.Proofs.Pattern.Language
import SkillScan.Proofs.Text.Separation

/-!
# Patterns in a longer line

A pattern looks beyond the text that it fits in four ways only: at the edges of words, at both ends of the
line, and to see that another pattern does not follow. A pattern that does none of these fits a text
wherever the text stands. One that asks for edges, and bars only what cannot reach over a gap between
words, is found in a line with text around it whenever it is found in the line alone.
-/

namespace SkillScan.Pattern

/-- Whether a text that a pattern fits may hold a character. -/
def mayHold (char : Char) : Pattern → Bool
  | .one kind => kind char
  | .many kind => kind char
  | .seq first second => first.mayHold char || second.mayHold char
  | .either left right => left.mayHold char || right.mayHold char
  | .empty | .wordEdge | .lineStart | .lineEnd | .unless _ => false

/-- Whether a pattern never looks beyond the text that it fits. -/
def isFree : Pattern → Bool
  | .seq first second => first.isFree && second.isFree
  | .either left right => left.isFree && right.isFree
  | .empty | .one _ | .many _ => true
  | .wordEdge | .lineStart | .lineEnd | .unless _ => false

/-- Whether a pattern looks no further than to a gap. -/
def looksUpTo (gap : Char) : Pattern → Bool
  | .seq first second => first.looksUpTo gap && second.looksUpTo gap
  | .either left right => left.looksUpTo gap && right.looksUpTo gap
  | .unless barred => barred.looksUpTo gap && !barred.mayHold gap
  | .empty | .one _ | .many _ | .wordEdge => true
  | .lineStart | .lineEnd => false

section Context

variable {before found behind outer more line : List Char} {char gap : Char}

theorem mayHold_of_fits (pattern : Pattern) (fits : pattern.Fits before found behind)
    (member : char ∈ found) : pattern.mayHold char = true := by
  induction pattern generalizing before found behind with
  | one kind =>
      rcases fits with ⟨other, rfl, isKind⟩
      rw [List.mem_singleton.mp member]
      exact isKind
  | many kind => exact fits char member
  | seq first second first_ih second_ih =>
      rcases fits with ⟨left, right, rfl, leftFits, rightFits⟩
      rw [mayHold, Bool.or_eq_true]
      rcases List.mem_append.mp member with inLeft | inRight
      · exact Or.inl (first_ih leftFits inLeft)
      · exact Or.inr (second_ih rightFits inRight)
  | either left right left_ih right_ih =>
      rw [mayHold, Bool.or_eq_true]
      rcases fits with fits | fits
      · exact Or.inl (left_ih fits member)
      · exact Or.inr (right_ih fits member)
  | empty =>
      cases fits
      exact absurd member List.not_mem_nil
  | wordEdge | lineStart | lineEnd | «unless» =>
      cases fits.1
      exact absurd member List.not_mem_nil

theorem fits_iff_of_isFree (pattern : Pattern) (free : pattern.isFree = true)
    {before behind otherBefore otherBehind : List Char} :
    pattern.Fits before found behind ↔ pattern.Fits otherBefore found otherBehind := by
  induction pattern generalizing before found behind otherBefore otherBehind with
  | empty | one | many => exact Iff.rfl
  | seq first second first_ih second_ih =>
      rw [isFree, Bool.and_eq_true] at free
      simp only [Fits]
      apply exists_congr
      intro left
      apply exists_congr
      intro right
      apply and_congr_right
      intro _
      apply and_congr
      · exact first_ih free.1
      · exact second_ih free.2
  | either left right left_ih right_ih =>
      rw [isFree, Bool.and_eq_true] at free
      exact or_congr (left_ih free.1) (right_ih free.2)
  | wordEdge | lineStart | lineEnd | «unless» => simp [isFree] at free

/-- A gap behind a text is as good as the end of the line for everything that looks no further. -/
theorem fits_around_iff (pattern : Pattern) (looks : pattern.looksUpTo gap = true)
    (noWord : Text.isWord gap = false) (apart : Text.endsInWord outer = false)
    (gapped : ∀ char ∈ more.head?, char = gap) :
    pattern.Fits (outer ++ before) found (behind ++ more) ↔ pattern.Fits before found behind := by
  -- An equivalence, because what is barred must not fit in the longer line where it did not before.
  induction pattern generalizing before found behind with
  | empty | one | many => exact Iff.rfl
  | seq first second first_ih second_ih =>
      rw [looksUpTo, Bool.and_eq_true] at looks
      simp only [Fits]
      apply exists_congr
      intro left
      apply exists_congr
      intro right
      apply and_congr_right
      intro _
      apply and_congr
      · rw [← List.append_assoc]
        exact first_ih looks.1
      · rw [List.append_assoc]
        exact second_ih looks.2
  | either left right left_ih right_ih =>
      rw [looksUpTo, Bool.and_eq_true] at looks
      exact or_congr (left_ih looks.1) (right_ih looks.2)
  | wordEdge =>
      have sameLeft : Text.endsInWord (outer ++ before) = Text.endsInWord before := by
        cases before with
        | nil => simpa [Text.endsInWord] using apart
        | cons first before => exact Text.endsInWord_append (by simp) outer
      have sameRight : Text.beginsInWord (behind ++ more) = Text.beginsInWord behind := by
        cases behind with
        | cons first behind => rfl
        | nil =>
            cases more with
            | nil => rfl
            | cons first more =>
                rw [gapped first rfl]
                simpa [Text.beginsInWord] using noWord
      simp only [Fits, sameLeft, sameRight]
  | «unless» barred ih =>
      rw [looksUpTo, Bool.and_eq_true, Bool.not_eq_true'] at looks
      apply and_congr_right
      intro _
      apply not_congr
      constructor
      · rintro ⟨left, right, split, fits⟩
        rcases List.append_eq_append_iff.mp split with ⟨inside, rfl, rfl⟩ | ⟨extra, rfl, rfl⟩
        · cases inside with
          | nil =>
              refine ⟨behind, [], (List.append_nil _).symm, (ih looks.1).mp ?_⟩
              simpa using fits
          | cons first inside =>
              -- What is barred would have to hold the gap.
              have isGap : first = gap := gapped first rfl
              have member : gap ∈ behind ++ first :: inside := by simp [isGap]
              have held := mayHold_of_fits barred fits member
              rw [looks.2] at held
              exact Bool.noConfusion held
        · exact ⟨left, extra, rfl, (ih looks.1).mp fits⟩
      · rintro ⟨left, right, rfl, fits⟩
        refine ⟨left, right ++ more, List.append_assoc _ _ _, ?_⟩
        exact (ih looks.1).mpr fits
  | lineStart | lineEnd => simp [looksUpTo] at looks

/-- Text around a line hides nothing that looks up to a gap, if the text continues no word of the line. -/
theorem isShownBy_around {pattern : Pattern} (looks : pattern.looksUpTo gap = true)
    (noWord : Text.isWord gap = false) (apart : Text.endsInWord outer = false)
    (gapped : ∀ char ∈ more.head?, char = gap) (shown : pattern.isShownBy line = true) :
    pattern.isShownBy (outer ++ line ++ more) = true := by
  rw [isShownBy_iff] at shown ⊢
  rcases shown with ⟨before, found, behind, rfl, fits⟩
  refine ⟨outer ++ before, found, behind ++ more, by simp, ?_⟩
  exact (fits_around_iff pattern looks noWord apart gapped).mpr fits

theorem isShownBy_iff_of_isFree {pattern : Pattern} (free : pattern.isFree = true) :
    pattern.isShownBy line = true ↔ ∃ found, found <:+: line ∧ pattern.Fits [] found [] :=
  isShownBy_iff_of_language fun _ _ _ => fits_iff_of_isFree pattern free

theorem isShownBy_of_infix {pattern : Pattern} (free : pattern.isFree = true) {longer : List Char}
    (isInfix : line <:+: longer) (shown : pattern.isShownBy line = true) :
    pattern.isShownBy longer = true := by
  rw [isShownBy_iff_of_isFree free] at shown ⊢
  rcases shown with ⟨found, foundInfix, fits⟩
  exact ⟨found, foundInfix.trans isInfix, fits⟩

/-- A character that a pattern cannot hold keeps apart what stands on either side of it. -/
theorem isShownBy_append_cons_iff {pattern : Pattern} (free : pattern.isFree = true)
    (unheld : pattern.mayHold gap = false) {front back : List Char} :
    pattern.isShownBy (front ++ gap :: back) = true ↔
      pattern.isShownBy front = true ∨ pattern.isShownBy back = true := by
  constructor
  · intro shown
    rw [isShownBy_iff_of_isFree free] at shown
    rcases shown with ⟨found, isInfix, fits⟩
    have absent : gap ∉ found := by
      intro member
      have held := mayHold_of_fits pattern fits member
      rw [unheld] at held
      exact Bool.noConfusion held
    simp only [isShownBy_iff_of_isFree free]
    rcases (Text.infix_append_cons_iff absent).mp isInfix with inFront | inBack
    · exact Or.inl ⟨found, inFront, fits⟩
    · exact Or.inr ⟨found, inBack, fits⟩
  · rintro (shown | shown)
    · exact isShownBy_of_infix free (List.prefix_append front _).isInfix shown
    · exact isShownBy_of_infix free ⟨front ++ [gap], [], by simp⟩ shown

end Context

end SkillScan.Pattern
