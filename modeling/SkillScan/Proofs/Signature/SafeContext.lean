import SkillScan.Proofs.Pattern.Language
import SkillScan.Proofs.Rule.Tiers
import SkillScan.Signature.Builtin
import SkillScan.Signature.SafeContext

/-!
# Lines that look safe to rules about secrets

Six suppressions make up the built-in policy, and for a rule about hardcoded secrets they come down to two
questions: whether the line mentions the environment at all, and whether it imports one of two modules of
the runtime. The narrower readings of the environment are mentions of it, and the suppression for content
of a well-known host concerns other rules. Under the name of a rule nothing is reported but what this rule
finds and the policy lets pass.
-/

namespace SkillScan.Signature

open Pattern Text

/-- The ways in which a script names its environment. -/
def environmentNames : List String :=
  ["process.env", "os.environ", "os.getenv"]

/-- Whether a line mentions the environment. -/
def MentionsEnvironment (line : List Char) : Prop :=
  ∃ name ∈ environmentNames, name.toList <:+: line

/-- Whether a text opens an import, standing behind another: `require` and a parenthesis, or the word `from`
and blanks. -/
def OpensImport (before opening : List Char) : Prop :=
  (∃ inner outer, opening = "require".toList ++ inner ++ '(' :: outer ∧
      (∀ char ∈ inner, isBlank char = true) ∧ ∀ char ∈ outer, isBlank char = true) ∨
    ∃ blanks, opening = "from".toList ++ blanks ∧ blanks ≠ [] ∧
      (∀ char ∈ blanks, isBlank char = true) ∧ endsInWord before = false

/-- Whether a line imports a module of the runtime, named in quotes with or without the `node:` in front. -/
def ImportsRuntimeModule (moduleName : String) (line : List Char) : Prop :=
  ∃ before opening quote scheme endQuote behind,
    line = before ++ opening ++ quote :: (scheme ++ moduleName.toList ++ endQuote :: behind) ∧
      OpensImport before opening ∧ isQuote quote = true ∧ (scheme = [] ∨ scheme = "node:".toList) ∧
        isQuote endQuote = true

/-- Whether a line looks as if it held no secret of its own. -/
def LooksFreeOfSecrets (line : List Char) : Prop :=
  MentionsEnvironment line ∨ ImportsRuntimeModule "fs" line ∨ ImportsRuntimeModule "path" line

/-! ## The patterns -/

section Fits

variable {before found behind : List Char} {line : List Char}

theorem isShownBy_environmentMention_iff :
    environmentMention.isShownBy line = true ↔ MentionsEnvironment line := by
  have named : environmentMention = oneOf (environmentNames.map text) := rfl
  have language : ∀ before found behind, environmentMention.Fits before found behind ↔
      ∃ name ∈ environmentNames, found = name.toList := by
    intro before found behind
    rw [named, fits_oneOf_iff]
    simp only [List.mem_map, exists_exists_and_eq_and, fits_text_iff]
  rw [isShownBy_iff_of_language language]
  constructor
  · rintro ⟨_, isInfix, name, member, rfl⟩
    exact ⟨name, member, isInfix⟩
  · rintro ⟨name, member, isInfix⟩
    exact ⟨name.toList, isInfix, name, member, rfl⟩

/-- A text that begins with the name of the environment mentions it wherever it stands. -/
theorem mentionsEnvironment_of_holds {name : String} (member : name ∈ environmentNames)
    (holds : name.toList <:+: found) (isInfix : found <:+: line) : MentionsEnvironment line :=
  ⟨name, member, holds.trans isInfix⟩

theorem mentionsEnvironment_of_scriptVariable (shown : scriptVariable.isShownBy line = true) :
    MentionsEnvironment line := by
  rw [isShownBy_iff] at shown
  rcases shown with ⟨before, _, behind, rfl, left, right, rfl, leftFits, _⟩
  rw [fits_text_iff] at leftFits
  subst leftFits
  have holds : "process.env".toList <:+: "process.env.".toList ++ right :=
    ⟨[], '.' :: right, rfl⟩
  exact mentionsEnvironment_of_holds (by decide) holds (List.infix_append _ _ _)

theorem mentionsEnvironment_of_environmentLookup (shown : environmentLookup.isShownBy line = true) :
    MentionsEnvironment line := by
  rw [isShownBy_iff] at shown
  rcases shown with ⟨before, found, behind, rfl, fits⟩
  rw [environmentLookup, fits_oneOf_iff] at fits
  simp only [List.exists_mem_cons_iff, List.not_mem_nil, false_and, exists_false, or_false,
    fits_inOrder_cons, fits_text_iff] at fits
  rcases fits with rfl | ⟨left, right, rfl, rfl, _⟩ | ⟨left, right, rfl, rfl, _⟩
  · have holds : "os.environ".toList <:+: "os.environ[".toList := ⟨[], ['['], rfl⟩
    exact mentionsEnvironment_of_holds (by decide) holds (List.infix_append _ _ _)
  · have holds : "os.environ".toList <:+: "os.environ.get".toList ++ right :=
      ⟨[], ".get".toList ++ right, rfl⟩
    exact mentionsEnvironment_of_holds (by decide) holds (List.infix_append _ _ _)
  · have holds : "os.getenv".toList <:+: "os.getenv".toList ++ right := ⟨[], right, rfl⟩
    exact mentionsEnvironment_of_holds (by decide) holds (List.infix_append _ _ _)

theorem fits_opening_iff :
    (oneOf [inOrder [text "require", many isBlank, text "(", many isBlank],
      inOrder [wordEdge, text "from", Pattern.some isBlank]]).Fits before found behind ↔
      OpensImport before found := by
  simp only [fits_oneOf_iff, List.exists_mem_cons_iff, List.not_mem_nil, false_and, exists_false,
    or_false, fits_inOrder_cons, inOrder_singleton, fits_text_iff, fits_many_iff, fits_some_iff]
  have parenthesis : "(".toList = ['('] := rfl
  apply or_congr
  · constructor
    · rintro ⟨_, _, rfl, rfl, inner, _, rfl, innerBlank, _, outer, rfl, rfl, outerBlank⟩
      exact ⟨inner, outer, by simp [parenthesis], innerBlank, outerBlank⟩
    · rintro ⟨inner, outer, rfl, innerBlank, outerBlank⟩
      exact ⟨_, inner ++ '(' :: outer, by simp, rfl, inner, '(' :: outer, rfl, innerBlank, ['('], outer,
        rfl, parenthesis.symm, outerBlank⟩
  · constructor
    · rintro ⟨_, _, rfl, edge, _, blanks, rfl, rfl, nonempty, areBlank⟩
      rw [fits_wordEdge_iff_of_beginsInWord (by rfl)] at edge
      rcases edge with ⟨rfl, apart⟩
      exact ⟨blanks, rfl, nonempty, areBlank, apart⟩
    · rintro ⟨blanks, rfl, nonempty, areBlank, apart⟩
      refine ⟨[], _, rfl, ?_, "from".toList, blanks, rfl, rfl, nonempty, areBlank⟩
      rw [fits_wordEdge_iff_of_beginsInWord (by rfl)]
      exact ⟨rfl, apart⟩

theorem fits_runtimeImport_iff {moduleName : String} :
    (runtimeImport moduleName).Fits before found behind ↔ ∃ opening quote scheme endQuote,
      found = opening ++ quote :: (scheme ++ moduleName.toList ++ [endQuote]) ∧
        OpensImport before opening ∧ isQuote quote = true ∧ (scheme = [] ∨ scheme = "node:".toList) ∧
          isQuote endQuote = true := by
  simp only [runtimeImport, fits_inOrder_cons, inOrder_singleton, fits_opening_iff,
    fits_optional_iff, fits_text_iff]
  constructor
  · rintro ⟨opening, _, rfl, opens, _, _, rfl, ⟨quote, rfl, isQuoted⟩, scheme, _, rfl, isScheme, _, _,
      rfl, rfl, endQuote, rfl, isEndQuoted⟩
    exact ⟨opening, quote, scheme, endQuote, by simp, opens, isQuoted, isScheme.symm, isEndQuoted⟩
  · rintro ⟨opening, quote, scheme, endQuote, rfl, opens, isQuoted, isScheme, isEndQuoted⟩
    exact ⟨opening, _, rfl, opens, [quote], scheme ++ moduleName.toList ++ [endQuote], rfl,
      ⟨quote, rfl, isQuoted⟩, scheme, moduleName.toList ++ [endQuote], by simp, isScheme.symm,
      moduleName.toList, [endQuote], rfl, rfl, endQuote, rfl, isEndQuoted⟩

theorem isShownBy_runtimeImport_iff {moduleName : String} :
    (runtimeImport moduleName).isShownBy line = true ↔ ImportsRuntimeModule moduleName line := by
  rw [isShownBy_iff]
  simp only [fits_runtimeImport_iff]
  constructor
  · rintro ⟨before, _, behind, rfl, opening, quote, scheme, endQuote, rfl, imports⟩
    exact ⟨before, opening, quote, scheme, endQuote, behind, by simp, imports⟩
  · rintro ⟨before, opening, quote, scheme, endQuote, behind, rfl, imports⟩
    exact ⟨before, _, behind, by simp, opening, quote, scheme, endQuote, rfl, imports⟩

end Fits

/-! ## The policy -/

/-- Whether a rule is about hardcoded secrets as far as the built-in policy can tell. -/
structure IsAboutSecrets (rule : Rule) : Prop where
  hardcoded : occursIn "Hardcoded".toList rule.name.toList = true
  noPipe : occursIn "Pipe to Shell".toList rule.name.toList = false

/-- The built-in policy passes over a rule about secrets if and only if the line looks free of them. -/
theorem suppresses_builtinPolicy_iff {rule : Rule} (aboutSecrets : IsAboutSecrets rule) (line : String) :
    builtinPolicy.suppresses line rule = true ↔ LooksFreeOfSecrets line.toList := by
  rw [← not_iff_not, Bool.not_eq_true, Policy.not_suppresses_iff]
  simp only [builtinPolicy, List.forall_mem_cons, Suppression.vetoes, Suppression.onPattern,
    Suppression.covers, aboutSecrets.hardcoded, aboutSecrets.noPipe, Bool.true_and, Bool.false_and,
    List.not_mem_nil, false_implies, implies_true, and_true, ← Bool.not_eq_true,
    Bool.false_eq_true, not_false_eq_true,
    isShownBy_environmentMention_iff, isShownBy_runtimeImport_iff]
  constructor
  · rintro ⟨_, _, noFs, noPath, noMention⟩
    rintro (mentions | importsFs | importsPath)
    · exact noMention mentions
    · exact noFs importsFs
    · exact noPath importsPath
  · intro looksUnsafe
    -- The first two suppressions accept no line that the fifth does not accept as well.
    refine ⟨?_, ?_, ?_, ?_, ?_⟩
    · intro shown
      exact looksUnsafe (Or.inl (mentionsEnvironment_of_scriptVariable shown))
    · intro shown
      exact looksUnsafe (Or.inl (mentionsEnvironment_of_environmentLookup shown))
    · intro importsFs
      exact looksUnsafe (Or.inr (Or.inl importsFs))
    · intro importsPath
      exact looksUnsafe (Or.inr (Or.inr importsPath))
    · intro mentions
      exact looksUnsafe (Or.inl mentions)

/-! ## Reports -/

/-- What the built-in catalog and policy report on a line under one name. -/
def reportsOf (ruleName : String) (line : NumberedLine) : List Finding :=
  (line.findings builtin builtinPolicy).filter (·.issue == ruleName)

/-- Where no other built-in rule has the name of a rule, what is reported under it depends on this rule
only. -/
theorem reportsOf_eq {ruleName : String} {rule : Rule}
    (alone : builtin.rules.filter (·.name == ruleName) = [rule]) (line : NumberedLine) :
    reportsOf ruleName line =
      ([rule].filter fun rule => rule.test line.text && !builtinPolicy.suppresses line.text rule).map
        line.finding := by
  rw [reportsOf, NumberedLine.findings, NumberedLine.matching, List.filter_map, ← alone]
  simp only [List.filter_filter]
  congr 2
  funext other
  rw [Bool.eq_iff_iff]
  simp [NumberedLine.finding, and_comm]

end SkillScan.Signature
