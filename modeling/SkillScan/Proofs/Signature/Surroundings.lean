import SkillScan.Proofs.Pattern.Context
import SkillScan.Proofs.Signature.SafeContext
import SkillScan.Signature.Builtin

/-!
# Signatures and safe contexts in a longer line

Text around a line takes away none of its signatures, if it is set off by blanks: apart from the download
that is piped to a shell, which asks for the end of the line, and from imports, which may ask for its
beginning, the built-in rules look no further than to the next blank. The suppressions that concern every
rule look even less far. Once a line shows what they look for they veto every finding, on it and on
each longer line in which it continues no word.
-/

namespace SkillScan.Signature

open Pattern Text

/-! ## Signatures -/

/-- Whether a rule looks for a pattern, and no further than to a gap. -/
def LooksUpTo (gap : Char) (rule : Rule) : Prop :=
  ∃ pattern : Pattern, (∀ line, rule.test line = pattern.isShownBy line.toList) ∧
    pattern.looksUpTo gap = true

section Signatures

variable {rule : Rule}

theorem looksUpTo_ofPattern {gap : Char} {pattern : Pattern} (looks : pattern.looksUpTo gap = true)
    (name : String) (severity : Severity) (remediation : String) :
    LooksUpTo gap (.ofPattern name severity remediation pattern) :=
  ⟨pattern, fun _ => rfl, looks⟩

theorem LooksUpTo.fires_around {gap : Char} (looks : LooksUpTo gap rule) (noWord : isWord gap = false)
    {before line behind : String} (apart : endsInWord before.toList = false)
    (gapped : ∀ char ∈ behind.toList.head?, char = gap) (fires : rule.test line = true) :
    rule.test (before ++ line ++ behind) = true := by
  rcases looks with ⟨pattern, isTest, looks⟩
  rw [isTest] at fires ⊢
  rw [String.toList_append, String.toList_append]
  exact isShownBy_around looks noWord apart gapped fires

theorem looksUpTo_blank_of_mem_critical (member : rule ∈ criticalRules) :
    rule = pipeToShellRule ∨ LooksUpTo ' ' rule := by
  simp only [criticalRules, credentialRules, List.cons_append, List.nil_append, List.mem_cons,
    List.not_mem_nil, or_false] at member
  rcases member with rfl | rfl | rfl | rfl | rfl | rfl
  · exact Or.inr (looksUpTo_ofPattern (by decide) _ _ _)
  · exact Or.inr (looksUpTo_ofPattern (by decide) _ _ _)
  · exact Or.inr (looksUpTo_ofPattern (by decide) _ _ _)
  · exact Or.inr (looksUpTo_ofPattern (by decide) _ _ _)
  · exact Or.inr (looksUpTo_ofPattern (by decide) _ _ _)
  · exact Or.inl rfl

theorem looksUpTo_blank_of_mem_high (member : rule ∈ highRules) : LooksUpTo ' ' rule := by
  simp only [highRules, commandRules, List.mem_cons, List.not_mem_nil, or_false] at member
  rcases member with rfl | rfl | rfl | rfl
  · exact looksUpTo_ofPattern (by decide) _ _ _
  · exact looksUpTo_ofPattern (by decide) _ _ _
  · exact looksUpTo_ofPattern (by decide) _ _ _
  · exact looksUpTo_ofPattern (by decide) _ _ _

theorem looksUpTo_blank_of_mem_medium (member : rule ∈ mediumRules) :
    rule = dependencyRule ∨ LooksUpTo ' ' rule := by
  simp only [mediumRules, List.mem_cons, List.not_mem_nil, or_false] at member
  rcases member with rfl | rfl | rfl
  · exact Or.inr (looksUpTo_ofPattern (by decide) _ _ _)
  · exact Or.inl rfl
  · exact Or.inr (looksUpTo_ofPattern (by decide) _ _ _)

theorem looksUpTo_blank_of_mem_builtin (member : rule ∈ builtin.rules)
    (noPipe : rule.name ≠ pipeToShellRule.name) (noImport : rule.name ≠ dependencyRule.name) :
    LooksUpTo ' ' rule := by
  rcases List.mem_append.mp member with inUpper | inMedium
  · rcases List.mem_append.mp inUpper with inCritical | inHigh
    · rcases looksUpTo_blank_of_mem_critical inCritical with rfl | looks
      · exact absurd rfl noPipe
      · exact looks
    · exact looksUpTo_blank_of_mem_high inHigh
  · rcases looksUpTo_blank_of_mem_medium inMedium with rfl | looks
    · exact absurd rfl noImport
    · exact looks

/-- Text before and behind a line, with a blank in between, takes no signature away. -/
theorem builtinRule_fires_around (rule : Rule) (member : rule ∈ builtin.rules)
    (noPipe : rule.name ≠ "Pipe to Shell Pattern") (noImport : rule.name ≠ "External Dependency")
    (before line behind : String) (fires : rule.test line = true) :
    rule.test (before ++ " " ++ line ++ " " ++ behind) = true := by
  have looks := looksUpTo_blank_of_mem_builtin member noPipe noImport
  have apart : endsInWord (before ++ " ").toList = false := by
    rw [String.toList_append, endsInWord_append (by simp)]
    decide
  have gapped : ∀ char ∈ (" " ++ behind).toList.head?, char = ' ' := by
    simp
  have around := looks.fires_around (by decide) apart gapped fires
  rwa [← String.append_assoc] at around

/-- An address that counts, between a trusted one and the name of a trusted host. -/
theorem builtinRule_fires_around_exampleLine :
    downloadRule.test "http://pip.io/git.exe" = true ∧
      downloadRule.test ("https://github.com/a.zip" ++ " " ++ "http://pip.io/git.exe" ++ " " ++ "github.com") =
        true := by
  have fires : downloadRule.test "http://pip.io/git.exe" = true := by decide
  have member : downloadRule ∈ builtin.rules := by simp [builtin, Catalog.rules, highRules]
  exact ⟨fires, builtinRule_fires_around downloadRule member (by decide) (by decide) _ _ _ fires⟩

end Signatures

/-! ## Safe contexts -/

section SafeContexts

variable {line outer more : List Char}

theorem endsInWord_around {before : List Char} (apart : endsInWord before = false)
    (outerApart : endsInWord outer = false) : endsInWord (outer ++ before) = false := by
  cases before with
  | nil => simpa using outerApart
  | cons char before => rwa [endsInWord_append (by simp)]

theorem importsRuntimeModule_around {moduleName : String} (apart : endsInWord outer = false)
    (imports : ImportsRuntimeModule moduleName line) :
    ImportsRuntimeModule moduleName (outer ++ line ++ more) := by
  rcases imports with ⟨before, opening, quote, scheme, endQuote, behind, rfl, opens, named⟩
  refine ⟨outer ++ before, opening, quote, scheme, endQuote, behind ++ more, by simp, ?_, named⟩
  -- Only the word `from` asks what stands before it.
  rcases opens with call | ⟨blanks, rfl, nonempty, areBlank, wordApart⟩
  · exact Or.inl call
  · exact Or.inr ⟨blanks, rfl, nonempty, areBlank, endsInWord_around wordApart apart⟩

theorem accepts_around {suppression : Suppression} (member : suppression ∈ builtinPolicy)
    (unscoped : suppression.scope = none) {before text behind : String}
    (apart : endsInWord before.toList = false) (accepted : suppression.accepts text = true) :
    suppression.accepts (before ++ text ++ behind) = true := by
  have within : text.toList <:+: (before ++ text ++ behind).toList := by
    rw [String.toList_append, String.toList_append]
    exact List.infix_append before.toList text.toList behind.toList
  simp only [builtinPolicy, List.mem_cons, List.not_mem_nil, or_false] at member
  rcases member with rfl | rfl | rfl | rfl | rfl | rfl
  · exact isShownBy_of_infix (by decide) within accepted
  · exact isShownBy_of_infix (by decide) within accepted
  · simp only [Suppression.onPattern, isShownBy_runtimeImport_iff, String.toList_append] at accepted ⊢
    exact importsRuntimeModule_around apart accepted
  · simp only [Suppression.onPattern, isShownBy_runtimeImport_iff, String.toList_append] at accepted ⊢
    exact importsRuntimeModule_around apart accepted
  · exact absurd unscoped (by simp)
  · exact absurd unscoped (by simp)

theorem suppresses_of_vetoes {policy : Policy} {suppression : Suppression} (member : suppression ∈ policy)
    {text : String} {rule : Rule} (vetoes : suppression.vetoes text rule = true) :
    policy.suppresses text rule = true := by
  by_contra unsuppressed
  rw [Bool.not_eq_true, Policy.not_suppresses_iff] at unsuppressed
  rw [unsuppressed suppression member] at vetoes
  exact Bool.noConfusion vetoes

theorem vetoes_of_unscoped {suppression : Suppression} (unscoped : suppression.scope = none) {text : String}
    (accepted : suppression.accepts text = true) (rule : Rule) :
    suppression.vetoes text rule = true := by
  simp [Suppression.vetoes, Suppression.covers, unscoped, accepted]

theorem findings_eq_nil_of_suppresses {policy : Policy} {line : NumberedLine} {catalog : Catalog}
    (suppressed : ∀ rule ∈ catalog.rules, policy.suppresses line.text rule = true) :
    line.findings catalog policy = [] := by
  rw [NumberedLine.findings, List.map_eq_nil_iff, List.filter_eq_nil_iff]
  intro rule member
  simp [suppressed rule (List.mem_of_mem_filter member)]

end SafeContexts

/-- What a suppression for all rules looks for silences each line in which it stands and continues no word,
whatever the rules are. -/
theorem unscopedSuppression_silences_line (suppression : Suppression) (member : suppression ∈ builtinPolicy)
    (unscoped : suppression.scope = none) (before text behind : String)
    (accepted : suppression.accepts text = true) (apart : endsInWord before.toList = false) :
    (∀ rule, builtinPolicy.suppresses (before ++ text ++ behind) rule = true) ∧
      ∀ (line : NumberedLine) (catalog : Catalog), line.text = before ++ text ++ behind →
        line.findings catalog builtinPolicy = [] := by
  have suppressed (rule : Rule) : builtinPolicy.suppresses (before ++ text ++ behind) rule = true := by
    have stillAccepted : suppression.accepts (before ++ text ++ behind) = true :=
      accepts_around member unscoped apart accepted
    exact suppresses_of_vetoes member (vetoes_of_unscoped unscoped stillAccepted rule)
  refine ⟨suppressed, ?_⟩
  intro line catalog isText
  apply findings_eq_nil_of_suppresses
  intro rule _
  rw [isText]
  exact suppressed rule

/-- An import of a module of the runtime hides code that is decoded and run on the same line. -/
theorem unscopedSuppression_silences_exampleLine :
    obfuscationRule.test ("f = " ++ "require('fs')" ++ ".on(eval(atob(s)))") = true ∧
      (NumberedLine.mk "index.js" 1 ("f = " ++ "require('fs')" ++ ".on(eval(atob(s)))")).findings builtin
        builtinPolicy = [] := by
  have member : .onPattern (runtimeImport "fs") "Standard file system module" ∈ builtinPolicy := by
    simp [builtinPolicy]
  have silenced := unscopedSuppression_silences_line _ member rfl "f = " "require('fs')" ".on(eval(atob(s)))"
    (by decide) (by decide)
  exact ⟨by decide, silenced.2 _ builtin rfl⟩

end SkillScan.Signature
