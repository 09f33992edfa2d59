import SkillScan.Proofs.Text.Spelling
import SkillScan.Signature.Network

/-!
# Signatures that disregard case

A pattern that takes every capital letter of ASCII for the same as its small letter is shown by a line if and only
if it is shown by the line in small letters, and the marks are the same too. The signatures of decoded code, of
downloads that are run at once and of untrusted downloads are such patterns, down to what must not follow, so that
a line cannot slip past them by its capitals.
-/

namespace SkillScan

namespace Text

/-- Whether two lines differ in nothing but the case of ASCII letters. -/
def DifferInCase (first second : List Char) : Prop :=
  List.Forall₂ (fun char other => char = other ∨
    char.isAlpha = true ∧ other.isAlpha = true ∧ char.toLower = other.toLower) first second

instance (first second : List Char) : Decidable (DifferInCase first second) := by
  unfold DifferInCase
  infer_instance

theorem map_toLower_eq_of_differInCase {first second : List Char} (differ : DifferInCase first second) :
    first.map Char.toLower = second.map Char.toLower := by
  rw [← List.forall₂_eq_eq_eq, List.forall₂_map_left_iff, List.forall₂_map_right_iff]
  apply List.Forall₂.imp _ differ
  rintro char other (rfl | ⟨_, _, lowered⟩)
  · rfl
  · exact lowered

/-- What holds of the small letters in ASCII holds of all, for no other character has one of its own here. -/
theorem toLower_kept {α : Type} {kind : Char → α}
    (ascii : ∀ code < 128, kind (Char.ofNat code).toLower = kind (Char.ofNat code)) (char : Char) :
    kind char.toLower = kind char := by
  by_cases isAscii : char.toNat < 128
  · exact forall_ascii (fun char => kind char.toLower = kind char) ascii isAscii
  · rw [toLower_eq_of_beyond (Nat.le_of_not_lt isAscii)]

theorem isWord_toLower : ∀ char, isWord char.toLower = isWord char :=
  toLower_kept (by decide)

theorem isBlank_toLower : ∀ char, isBlank char.toLower = isBlank char :=
  toLower_kept (by decide)

/-- A letter from beyond ASCII that is the same as one of ASCII is left as it is. -/
theorem sameLetter_toLower (wanted : Char) : ∀ char, sameLetter wanted char.toLower = sameLetter wanted char := by
  have sameClass : ∀ char, caseClass char.toLower = caseClass char := toLower_kept (by decide)
  intro char
  rw [sameLetter, sameLetter, sameClass]

theorem toLower_beq_symbol (wanted : Char) (noLetter : wanted.isAlpha = false) (char : Char) :
    (char.toLower == wanted) = (char == wanted) := by
  have letters : (char.toLower == char || char.isAlpha && char.toLower.isAlpha) = true := by
    by_cases isAscii : char.toNat < 128
    · exact forall_ascii (fun char => (char.toLower == char || char.isAlpha && char.toLower.isAlpha) = true)
        (by decide) isAscii
    · rw [toLower_eq_of_beyond (Nat.le_of_not_lt isAscii), beq_self_eq_true, Bool.true_or]
  simp only [Bool.or_eq_true, beq_iff_eq, Bool.and_eq_true] at letters
  rcases letters with same | ⟨letter, lowered⟩
  · rw [same]
  · have other {letter : Char} (isLetter : letter.isAlpha = true) : (letter == wanted) = false := by
      rw [beq_eq_false_iff_ne]
      rintro rfl
      exact Bool.noConfusion (isLetter.symm.trans noLetter)
    rw [other letter, other lowered]

end Text

/-! ## Patterns -/

namespace Pattern

/-- Whether a pattern takes every capital letter of ASCII for the same as its small letter. -/
@[simp]
def DisregardsCase : Pattern → Prop
  | .one kind | .many kind => ∀ char, kind char.toLower = kind char
  | .seq first second => first.DisregardsCase ∧ second.DisregardsCase
  | .either left right => left.DisregardsCase ∧ right.DisregardsCase
  | .unless barred => barred.DisregardsCase
  | .empty | .wordEdge | .lineStart | .lineEnd => True

section Marks

variable {kind : Char → Bool} {line : List Char} {goal : Marks}

theorem beforeOne_map_toLower (kept : ∀ char, kind char.toLower = kind char) :
    beforeOne kind (line.map Char.toLower) goal = beforeOne kind line goal := by
  simp only [beforeOne, List.zipWith_map_left, kept]

theorem beforeMany_map_toLower (kept : ∀ char, kind char.toLower = kind char) :
    beforeMany kind (line.map Char.toLower) goal = beforeMany kind line goal := by
  simp only [beforeMany, List.zip_map_left, List.foldr_map, Prod.map_fst, Prod.map_snd, id_eq, kept]

theorem wordEdges_map_toLower : wordEdges (line.map Char.toLower) = wordEdges line := by
  have same : Text.isWord ∘ Char.toLower = Text.isWord := funext Text.isWord_toLower
  simp only [wordEdges, List.map_map, same]

theorem lineEnds_map_toLower : lineEnds (line.map Char.toLower) = lineEnds line := by
  have newline := Text.toLower_beq_symbol '\n' rfl
  simp only [lineEnds, List.getLast?_map, List.length_map]
  cases line.getLast? with
  | none => rfl
  | some last => simp only [Option.map_some, newline]

theorem everywhere_map_toLower : everywhere (line.map Char.toLower) = everywhere line := by
  rw [everywhere, List.length_map, everywhere]

/-- A pattern that is barred gets the same marks too, and so bars the same places. -/
theorem starts_map_toLower (pattern : Pattern) (disregards : pattern.DisregardsCase) :
    pattern.starts (line.map Char.toLower) goal = pattern.starts line goal := by
  induction pattern generalizing goal with
  | empty => rfl
  | one kind => exact beforeOne_map_toLower disregards
  | many kind => exact beforeMany_map_toLower disregards
  | seq first second first_ih second_ih =>
      rw [starts, second_ih disregards.2, first_ih disregards.1, starts]
  | either left right left_ih right_ih =>
      rw [starts, left_ih disregards.1, right_ih disregards.2, starts]
  | wordEdge => rw [starts, wordEdges_map_toLower, starts]
  | lineStart => rw [starts, List.length_map, starts]
  | lineEnd => rw [starts, lineEnds_map_toLower, starts]
  | «unless» barred ih => rw [starts, everywhere_map_toLower, ih disregards, starts]

end Marks

theorem isShownBy_eq_of_differInCase {pattern : Pattern} (disregards : pattern.DisregardsCase)
    {first second : List Char} (differ : Text.DifferInCase first second) :
    pattern.isShownBy first = pattern.isShownBy second := by
  have lowered (line : List Char) : pattern.isShownBy (line.map Char.toLower) = pattern.isShownBy line := by
    rw [isShownBy, everywhere_map_toLower, starts_map_toLower pattern disregards, isShownBy]
  rw [← lowered first, Text.map_toLower_eq_of_differInCase differ, lowered second]

/-! ## Parts of patterns -/

@[simp] theorem disregardsCase_inOrder {patterns : List Pattern} :
    (inOrder patterns).DisregardsCase ↔ ∀ pattern ∈ patterns, pattern.DisregardsCase := by
  induction patterns with
  | nil => simp [inOrder]
  | cons first rest ih =>
      cases rest with
      | nil => simp [inOrder]
      | cons second others =>
          rw [show inOrder (first :: second :: others) = .seq first (inOrder (second :: others)) from rfl,
            DisregardsCase, ih, List.forall_mem_cons (l := second :: others)]

@[simp] theorem disregardsCase_oneOf {patterns : List Pattern} :
    (oneOf patterns).DisregardsCase ↔ ∀ pattern ∈ patterns, pattern.DisregardsCase := by
  induction patterns with
  | nil => simp [oneOf, never]
  | cons first rest ih =>
      cases rest with
      | nil => simp [oneOf]
      | cons second others =>
          rw [show oneOf (first :: second :: others) = .either first (oneOf (second :: others)) from rfl,
            DisregardsCase, ih, List.forall_mem_cons (l := second :: others)]

@[simp] theorem disregardsCase_anyCase (wanted : String) : (anyCase wanted).DisregardsCase := by
  rw [anyCase, disregardsCase_inOrder, List.forall_mem_map]
  intro char _
  exact Text.sameLetter_toLower char

theorem disregardsCase_text {wanted : String} (noLetters : wanted.toList.all (!·.isAlpha) = true) :
    (text wanted).DisregardsCase := by
  rw [text, disregardsCase_inOrder, List.forall_mem_map]
  intro char member
  have noLetter : char.isAlpha = false := by simpa using List.all_eq_true.mp noLetters char member
  exact Text.toLower_beq_symbol char noLetter

end Pattern

/-! ## Rules -/

namespace Signature

open Pattern Text

theorem isOnLine_toLower (char : Char) : isOnLine char.toLower = isOnLine char := by
  have newline := toLower_beq_symbol '\n' rfl char
  simp only [isOnLine, bne, newline]

theorem isSolid_toLower (char : Char) : isSolid char.toLower = isSolid char := by
  rw [isSolid, isBlank_toLower, isSolid]

theorem disregardsCase_evaluatedDecoding : evaluatedDecoding.DisregardsCase := by
  simp [evaluatedDecoding, isBlank_toLower]

theorem disregardsCase_pipeToShell : pipeToShell.DisregardsCase := by
  have bar : (text "|").DisregardsCase := disregardsCase_text (by decide)
  simp [pipeToShell, Pattern.some, bar, isOnLine_toLower, isBlank_toLower]

theorem disregardsCase_untrustedDownload : untrustedDownload.DisregardsCase := by
  simp [untrustedDownload, Pattern.optional, Pattern.some, isSolid_toLower]

/-- Lines that differ in nothing but the case of ASCII letters are the same to the rules about decoded code, about
downloads that are run at once and about untrusted downloads. -/
theorem test_eq_of_differInCase {first second : String} (differ : DifferInCase first.toList second.toList) :
    ∀ rule ∈ [obfuscationRule, pipeToShellRule, downloadRule], rule.test first = rule.test second := by
  intro rule member
  have byPattern {name remediation : String} {severity : Severity} {pattern : Pattern}
      (disregards : pattern.DisregardsCase) :
      (Rule.ofPattern name severity remediation pattern).test first =
        (Rule.ofPattern name severity remediation pattern).test second :=
    isShownBy_eq_of_differInCase disregards differ
  simp only [List.mem_cons, List.not_mem_nil, or_false] at member
  rcases member with rfl | rfl | rfl
  · exact byPattern disregardsCase_evaluatedDecoding
  · exact byPattern disregardsCase_pipeToShell
  · exact byPattern disregardsCase_untrustedDownload

/-- Capitals neither hide a shell nor make a trusted host another one. -/
theorem test_eq_exampleLines :
    DifferInCase "curl https://GitHub.com/a.zip | ba\u017Fh".toList
        "CURL HTTPS://github.COM/A.ZIP | BA\u017FH".toList ∧
      pipeToShellRule.test "CURL HTTPS://github.COM/A.ZIP | BA\u017FH" = true ∧
      downloadRule.test "CURL HTTPS://github.COM/A.ZIP | BA\u017FH" = false := by
  have differ : DifferInCase "curl https://GitHub.com/a.zip | ba\u017Fh".toList
      "CURL HTTPS://github.COM/A.ZIP | BA\u017FH".toList := by decide
  have same := test_eq_of_differInCase differ
  refine ⟨differ, ?_, ?_⟩
  · rw [← same pipeToShellRule (by simp)]
    decide
  · rw [← same downloadRule (by simp)]
    decide +kernel

end Signature

end SkillScan
