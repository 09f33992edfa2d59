import SkillScan.Proofs.Pattern.Language
import SkillScan.Proofs.Text.Run
import SkillScan.Signature.Builtin

/-!
# Signatures on blank lines

A part of a pattern may ask for a character that is no blank. A pattern with such a part fits no text of blanks,
however many blanks its other parts take, and so a line of blanks does not show it. Each signature has such a part, a
mark or a word, and both forms of an import line begin with a word. No built-in rule therefore fires on a line of
blanks, of whichever kinds they are.
-/

namespace SkillScan

namespace Pattern

/-- Whether some part of a pattern asks for a character that is no blank, and cannot be passed by. -/
inductive NeedsSolid : Pattern → Prop
  | one {kind : Char → Bool} : (∀ char, kind char = true → Text.isBlank char = false) → NeedsSolid (.one kind)
  | inFirst {first second : Pattern} : NeedsSolid first → NeedsSolid (.seq first second)
  | inSecond {first second : Pattern} : NeedsSolid second → NeedsSolid (.seq first second)
  | inBoth {left right : Pattern} : NeedsSolid left → NeedsSolid right → NeedsSolid (.either left right)

theorem exists_solid_of_fits {pattern : Pattern} (needs : pattern.NeedsSolid)
    {before found behind : List Char} (fits : pattern.Fits before found behind) :
    ∃ char ∈ found, Text.isBlank char = false := by
  induction needs generalizing before found behind with
  | one solid =>
      rcases fits with ⟨char, rfl, isKind⟩
      exact ⟨char, List.mem_singleton_self char, solid char isKind⟩
  | inFirst _ ih =>
      rcases fits with ⟨left, right, rfl, leftFits, _⟩
      rcases ih leftFits with ⟨char, member, solid⟩
      exact ⟨char, List.mem_append_left right member, solid⟩
  | inSecond _ ih =>
      rcases fits with ⟨left, right, rfl, _, rightFits⟩
      rcases ih rightFits with ⟨char, member, solid⟩
      exact ⟨char, List.mem_append_right left member, solid⟩
  | inBoth _ _ left_ih right_ih =>
      rcases fits with fits | fits
      · exact left_ih fits
      · exact right_ih fits

theorem not_isShownBy_of_blank {pattern : Pattern} (needs : pattern.NeedsSolid) {line : List Char}
    (areBlank : ∀ char ∈ line, Text.isBlank char = true) : pattern.isShownBy line = false := by
  rw [← Bool.not_eq_true, isShownBy_iff]
  rintro ⟨before, found, behind, rfl, fits⟩
  rcases exists_solid_of_fits needs fits with ⟨char, member, solid⟩
  have blank := areBlank char (by simp [member])
  rw [solid] at blank
  exact Bool.noConfusion blank

/-! ## Parts of patterns -/

/-- One part is enough where the parts stand one after another. -/
theorem needsSolid_inOrder {patterns : List Pattern} (pattern : Pattern) (member : pattern ∈ patterns)
    (needs : pattern.NeedsSolid) : (inOrder patterns).NeedsSolid := by
  induction patterns with
  | nil => exact absurd member List.not_mem_nil
  | cons first rest ih =>
      cases rest with
      | nil =>
          rw [List.mem_singleton] at member
          rwa [inOrder_singleton, ← member]
      | cons second others =>
          rcases List.mem_cons.mp member with rfl | later
          · exact .inFirst needs
          · exact .inSecond (ih later)

theorem needsSolid_oneOf {patterns : List Pattern} (needs : ∀ pattern ∈ patterns, pattern.NeedsSolid) :
    (oneOf patterns).NeedsSolid := by
  induction patterns with
  | nil =>
      apply NeedsSolid.one
      intro char impossible
      exact Bool.noConfusion impossible
  | cons first rest ih =>
      rw [List.forall_mem_cons] at needs
      cases rest with
      | nil => exact needs.1
      | cons second others => exact .inBoth needs.1 (ih needs.2)

theorem needsSolid_text {wanted : String} (char : Char) (member : char ∈ wanted.toList)
    (solid : Text.isBlank char = false) : (text wanted).NeedsSolid := by
  rw [text]
  apply needsSolid_inOrder (.one (· == char)) (List.mem_map.mpr ⟨char, member, rfl⟩)
  apply NeedsSolid.one
  intro found same
  rwa [eq_of_beq same]

/-- No blank is the same as a visible character in another case. -/
theorem needsSolid_anyCase {wanted : String} (char : Char) (member : char ∈ wanted.toList)
    (visible : Text.isVisibleAscii char = true) : (anyCase wanted).NeedsSolid := by
  simp only [Text.isVisibleAscii, Bool.and_eq_true, decide_eq_true_eq, bne_iff_ne, Bool.not_eq_true'] at visible
  rcases visible with ⟨⟨ascii, noNul⟩, solid⟩
  rw [anyCase]
  apply needsSolid_inOrder (.one (Text.sameLetter char)) (List.mem_map.mpr ⟨char, member, rfl⟩)
  apply NeedsSolid.one
  intro found same
  exact Text.not_isBlank_of_sameLetter ascii noNul solid same

end Pattern

/-! ## Import lines -/

theorem ImportLine.importedModules_of_blank {line : List Char}
    (areBlank : ∀ char ∈ line, Text.isBlank char = true) : importedModules line = [] := by
  have nothing : line.dropWhile Text.isBlank = [] := List.dropWhile_eq_nil_iff.mpr areBlank
  have noFrom : fromModule? line = none := by
    rw [fromModule?, nothing]
    rfl
  have noList : listedModules? line = none := by
    rw [listedModules?, nothing]
    rfl
  rw [importedModules, noFrom, noList]
  rfl

namespace Signature

open Pattern Text

/-! ## Signatures -/

theorem needsSolid_telegramToken : telegramToken.NeedsSolid := by
  apply needsSolid_inOrder (text ":") (by simp)
  exact needsSolid_text ':' (by simp) rfl

theorem needsSolid_gitHubToken : gitHubToken.NeedsSolid := by
  apply needsSolid_inOrder (text "gh") (by simp)
  exact needsSolid_text 'g' (by simp) rfl

theorem needsSolid_openAIKey : openAIKey.NeedsSolid := by
  apply needsSolid_inOrder (text "sk-") (by simp)
  exact needsSolid_text 's' (by simp) rfl

theorem needsSolid_evaluatedDecoding : evaluatedDecoding.NeedsSolid := by
  apply needsSolid_inOrder (anyCase "(") (by simp)
  exact needsSolid_anyCase '(' (by simp) rfl

theorem needsSolid_maliciousPackage : maliciousPackage.NeedsSolid := by
  apply needsSolid_inOrder (text "openclaw-core") (by simp)
  exact needsSolid_text 'o' (by simp) rfl

theorem needsSolid_pipeToShell : pipeToShell.NeedsSolid := by
  apply needsSolid_inOrder (text "|") (by simp)
  exact needsSolid_text '|' (by simp) rfl

theorem needsSolid_untrustedDownload : untrustedDownload.NeedsSolid := by
  apply needsSolid_inOrder (anyCase "://") (by simp)
  exact needsSolid_anyCase ':' (by simp) rfl

theorem needsSolid_elevation : elevation.NeedsSolid := by
  have ofSudo : (text "sudo").NeedsSolid := needsSolid_text 's' (by simp) rfl
  have ofDoas : (text "doas").NeedsSolid := needsSolid_text 'd' (by simp) rfl
  apply needsSolid_inOrder (oneOf [text "sudo", text "doas"]) (by simp)
  apply needsSolid_oneOf
  simp [ofSudo, ofDoas]

theorem needsSolid_destruction : destruction.NeedsSolid := by
  apply needsSolid_inOrder (text "/") (by simp)
  exact needsSolid_text '/' (by simp) rfl

theorem needsSolid_call (name : Pattern) : (call name).NeedsSolid := by
  apply needsSolid_inOrder (text "(") (by simp)
  exact needsSolid_text '(' (by simp) rfl

theorem needsSolid_systemCommand : systemCommand.NeedsSolid := by
  have childProcess : (text "child_process").NeedsSolid := needsSolid_text 'c' (by simp) rfl
  have subprocess : (inOrder [wordEdge, text "subprocess", wordEdge]).NeedsSolid := by
    apply needsSolid_inOrder (text "subprocess") (by simp)
    exact needsSolid_text 's' (by simp) rfl
  apply needsSolid_oneOf
  simp [childProcess, subprocess, needsSolid_call]

theorem needsSolid_networkRequest : networkRequest.NeedsSolid := by
  have opening : (text "(").NeedsSolid := needsSolid_text '(' (by simp) rfl
  apply needsSolid_oneOf
  simp only [List.forall_mem_cons, List.not_mem_nil, false_implies, implies_true, and_true]
  refine ⟨?_, ?_, needsSolid_call _⟩
  · exact needsSolid_inOrder (text "(") (by simp) opening
  · exact needsSolid_inOrder (text "(") (by simp) opening

theorem needsSolid_fileDeletion : fileDeletion.NeedsSolid := by
  have fileSystem : (text "fs.").NeedsSolid := needsSolid_text 'f' (by simp) rfl
  apply needsSolid_oneOf
  simp only [List.forall_mem_cons, List.not_mem_nil, false_implies, implies_true, and_true]
  refine ⟨?_, needsSolid_call _, needsSolid_call _⟩
  exact needsSolid_inOrder (text "fs.") (by simp) fileSystem

theorem needsSolid_scriptImport : scriptImport.NeedsSolid := by
  have ofCall (name : String) : (importCall name).NeedsSolid := by
    apply needsSolid_inOrder (text "(") (by simp)
    exact needsSolid_text '(' (by simp) rfl
  have ofStatement : importStatement.NeedsSolid := by
    apply needsSolid_inOrder (text "import") (by simp)
    exact needsSolid_text 'i' (by simp) rfl
  apply needsSolid_oneOf
  simp [ofCall, ofStatement]

/-! ## Rules -/

section Rules

variable {rule : Rule} {line : String} (areBlank : ∀ char ∈ line.toList, isBlank char = true)
include areBlank

theorem dependencyRule_test_of_blank : dependencyRule.test line = false := by
  have noScript := not_isShownBy_of_blank needsSolid_scriptImport areBlank
  have noModules := ImportLine.importedModules_of_blank areBlank
  simp [dependencyRule, noScript, noModules]

theorem test_of_blank_of_mem_critical (member : rule ∈ criticalRules) : rule.test line = false := by
  simp only [criticalRules, credentialRules, List.cons_append, List.nil_append, List.mem_cons,
    List.not_mem_nil, or_false] at member
  rcases member with rfl | rfl | rfl | rfl | rfl | rfl
  · exact not_isShownBy_of_blank needsSolid_telegramToken areBlank
  · exact not_isShownBy_of_blank needsSolid_gitHubToken areBlank
  · exact not_isShownBy_of_blank needsSolid_openAIKey areBlank
  · exact not_isShownBy_of_blank needsSolid_evaluatedDecoding areBlank
  · exact not_isShownBy_of_blank needsSolid_maliciousPackage areBlank
  · exact not_isShownBy_of_blank needsSolid_pipeToShell areBlank

theorem test_of_blank_of_mem_high (member : rule ∈ highRules) : rule.test line = false := by
  simp only [highRules, commandRules, List.mem_cons, List.not_mem_nil, or_false] at member
  rcases member with rfl | rfl | rfl | rfl
  · exact not_isShownBy_of_blank needsSolid_untrustedDownload areBlank
  · exact not_isShownBy_of_blank needsSolid_elevation areBlank
  · exact not_isShownBy_of_blank needsSolid_destruction areBlank
  · exact not_isShownBy_of_blank needsSolid_systemCommand areBlank

theorem test_of_blank_of_mem_medium (member : rule ∈ mediumRules) : rule.test line = false := by
  simp only [mediumRules, List.mem_cons, List.not_mem_nil, or_false] at member
  rcases member with rfl | rfl | rfl
  · exact not_isShownBy_of_blank needsSolid_networkRequest areBlank
  · exact dependencyRule_test_of_blank areBlank
  · exact not_isShownBy_of_blank needsSolid_fileDeletion areBlank

/-- No built-in rule fires on a line of blanks. -/
theorem test_of_blank_of_mem_builtin (member : rule ∈ builtin.rules) : rule.test line = false := by
  rcases List.mem_append.mp member with inUpper | inMedium
  · rcases List.mem_append.mp inUpper with inCritical | inHigh
    · exact test_of_blank_of_mem_critical areBlank inCritical
    · exact test_of_blank_of_mem_high areBlank inHigh
  · exact test_of_blank_of_mem_medium areBlank inMedium

end Rules

end Signature

end SkillScan
