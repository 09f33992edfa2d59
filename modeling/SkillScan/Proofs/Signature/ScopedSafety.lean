import SkillScan.Proofs.ImportLine.Comment
import SkillScan.Proofs.Signature.PipeToShell
import SkillScan.Proofs.Signature.Surroundings
import SkillScan.Proofs.Suppression.Combination

/-!
# A comment that only one suppression recognises

A comment that mentions the environment looks safe to the suppression about hardcoded secrets and to no
other. Put behind a line it takes away nothing that is found under other names, except for a download that is
piped to a shell: this rule asks for the shell at the end of the line, which is no longer there. The comment
hides no signature because all others look no further than to the blank before it, and an import may have a
comment behind it; and it brings no other suppression about because each of them ends in a character that the
comment does not hold.
-/

namespace SkillScan.Signature

open Pattern Text

/-- A comment that mentions the environment without reading a variable. -/
def environmentComment : String := " # process.env"

/-! ## Rules -/

section Rules

variable {line : String} {rule : Rule}

theorem toList_environmentComment : environmentComment.toList = ' ' :: '#' :: " process.env".toList := rfl

theorem isShownBy_scriptImport_append {line : List Char} (more : List Char)
    (shown : scriptImport.isShownBy line = true) : scriptImport.isShownBy (line ++ more) = true := by
  rw [isShownBy_scriptImport_iff] at shown ⊢
  rcases shown with ⟨before, found, behind, rfl, imports⟩
  exact ⟨before, found, behind ++ more, by simp, imports⟩

theorem dependencyRule_fires_before_comment (oneLine : '\n' ∉ line.toList)
    (fires : dependencyRule.test line = true) :
    dependencyRule.test (line ++ environmentComment) = true := by
  have stillOneLine : '\n' ∉ line.toList ++ ([' '] ++ '#' :: " process.env".toList) := by
    rw [List.mem_append, not_or]
    exact ⟨oneLine, by decide⟩
  simp only [dependencyRule, Bool.or_eq_true, String.toList_append, toList_environmentComment] at fires ⊢
  rcases fires with shown | external
  · left
    exact isShownBy_scriptImport_append _ shown
  · right
    have imports : ImportLine.importedModules line.toList ≠ [] := by
      intro none
      simp [none] at external
    have same := ImportLine.importedModules_append_comment stillOneLine (isRun_of_all (by decide) rfl) imports
    exact (congrArg (List.any · ImportLine.isExternal) same).trans external

/-- The name of a rule tells which rule it is, if no other has this name. -/
theorem eq_of_alone {ruleName : String} {other : Rule}
    (alone : builtin.rules.filter (·.name == ruleName) = [other]) (member : rule ∈ builtin.rules)
    (named : rule.name = ruleName) : rule = other := by
  have found : rule ∈ builtin.rules.filter (·.name == ruleName) := by
    rw [List.mem_filter]
    exact ⟨member, beq_iff_eq.mpr named⟩
  rwa [alone, List.mem_singleton] at found

theorem builtinRule_fires_before_comment (member : rule ∈ builtin.rules)
    (noPipe : rule.name ≠ pipeToShellRule.name) (oneLine : '\n' ∉ line.toList)
    (fires : rule.test line = true) : rule.test (line ++ environmentComment) = true := by
  by_cases named : rule.name = dependencyRule.name
  · have alone : builtin.rules.filter (·.name == dependencyRule.name) = [dependencyRule] := rfl
    cases eq_of_alone alone member named
    exact dependencyRule_fires_before_comment oneLine fires
  · have looks := looksUpTo_blank_of_mem_builtin member noPipe named
    have gapped : ∀ char ∈ environmentComment.toList.head?, char = ' ' := by
      simp [toList_environmentComment]
    have around : rule.test ("" ++ line ++ environmentComment) = true :=
      looks.fires_around (by decide) (by decide) gapped fires
    rwa [String.empty_append] at around

theorem IsShell.getLast?_map_caseClass {shell : List Char} (isShell : IsShell shell) :
    shell.getLast?.map caseClass = Option.some 'h' := by
  have last {word : String} (spells : Spells word shell) :
      shell.getLast?.map caseClass = word.toList.getLast?.map caseClass := by
    rw [← List.getLast?_map, ← List.getLast?_map, spells_iff_map_caseClass.mp spells]
  rcases isShell with spells | spells | spells
  · exact last spells
  · exact last spells
  · exact last spells

/-- With the comment the line ends in a letter with which no shell ends. -/
theorem pipeToShellRule_silent_before_comment (oneLine : '\n' ∉ line.toList) :
    pipeToShellRule.test (line ++ environmentComment) = false := by
  have stillOneLine : '\n' ∉ (line ++ environmentComment).toList := by
    rw [String.toList_append, List.mem_append, not_or]
    exact ⟨oneLine, by decide⟩
  have ending : (line ++ environmentComment).toList.getLast? = Option.some 'v' := by
    rw [String.toList_append, List.getLast?_append_of_ne_nil _ (by decide)]
    rfl
  rw [← Bool.not_eq_true]
  intro fires
  rcases (isShownBy_pipeToShell_iff stillOneLine).mp fires with
    ⟨before, tool, between, middle, shell, blanks, split, _, _, ⟨isShell, _⟩, areBlank⟩
  have isLast : (shell ++ blanks).getLast? = Option.some 'v' := by
    have nonempty : shell ++ blanks ≠ [] := by
      intro none
      have begins := isShell.beginsInWord blanks
      rw [none] at begins
      exact absurd begins (by decide)
    have whole : (line ++ environmentComment).toList =
        before ++ (tool ++ (between ++ '|' :: middle)) ++ (shell ++ blanks) := by
      simp [split]
    rwa [whole, List.getLast?_append_of_ne_nil _ nonempty] at ending
  rcases List.eq_nil_or_concat blanks with rfl | ⟨others, last, rfl⟩
  · have classes := isShell.getLast?_map_caseClass
    rw [List.append_nil] at isLast
    rw [isLast] at classes
    exact absurd classes (by decide)
  · have same : last = 'v' := by simpa using isLast
    have blank := areBlank last (by simp)
    rw [same] at blank
    exact absurd blank (by decide)

end Rules

/-! ## Suppressions -/

section Suppressions

variable {line : List Char} {text : String}

theorem isShownBy_environmentLookup_of_append {more : List Char} (absent : '(' ∉ more ∧ '[' ∉ more)
    (shown : environmentLookup.isShownBy (line ++ more) = true) :
    environmentLookup.isShownBy line = true := by
  have ends {found : List Char} (fits : environmentLookup.Fits [] found []) :
      ∃ front mark, found = front ++ [mark] ∧ mark ∉ more := by
    rw [environmentLookup, fits_oneOf_iff] at fits
    simp only [List.exists_mem_cons_iff, List.not_mem_nil, false_and, exists_false, or_false,
      fits_inOrder_cons, inOrder_singleton, fits_text_iff] at fits
    rcases fits with rfl | ⟨left, _, rfl, _, blanks, _, rfl, _, rfl⟩ | ⟨left, _, rfl, _, blanks, _, rfl, _, rfl⟩
    · exact ⟨"os.environ".toList, '[', rfl, absent.2⟩
    · exact ⟨left ++ blanks, '(', by simp, absent.1⟩
    · exact ⟨left ++ blanks, '(', by simp, absent.1⟩
  rw [isShownBy_iff_of_isFree (by decide)] at shown ⊢
  rcases shown with ⟨found, ⟨before, behind, split⟩, fits⟩
  rcases ends fits with ⟨front, mark, rfl, markAbsent⟩
  have whole : line ++ more = before ++ front ++ mark :: behind := by
    rw [← split]
    simp
  rcases exists_of_append_eq markAbsent whole with ⟨rest, rfl, _⟩
  exact ⟨front ++ [mark], ⟨before, rest, by simp⟩, fits⟩

theorem importsRuntimeModule_of_append {moduleName : String} {more : List Char}
    (noQuote : ∀ char ∈ more, isQuote char = false)
    (imports : ImportsRuntimeModule moduleName (line ++ more)) : ImportsRuntimeModule moduleName line := by
  rcases imports with ⟨before, opening, quote, scheme, endQuote, behind, split, opens, isQuoted, isScheme,
    isEndQuoted⟩
  have absent : endQuote ∉ more := by
    intro member
    rw [noQuote endQuote member] at isEndQuoted
    exact Bool.noConfusion isEndQuoted
  have whole : line ++ more =
      before ++ opening ++ quote :: (scheme ++ moduleName.toList) ++ endQuote :: behind := by
    rw [split]
    simp
  rcases exists_of_append_eq absent whole with ⟨rest, rfl, _⟩
  exact ⟨before, opening, quote, scheme, endQuote, rest, by simp, opens, isQuoted, isScheme, isEndQuoted⟩

theorem accepts_of_comment {suppression : Suppression} (member : suppression ∈ builtinPolicy)
    (other : suppression.scope ≠ some "Hardcoded")
    (accepted : suppression.accepts (text ++ environmentComment) = true) :
    suppression.accepts text = true := by
  have noQuote : ∀ char ∈ environmentComment.toList, isQuote char = false := eq_false_of_all (by decide)
  simp only [builtinPolicy, List.mem_cons, List.not_mem_nil, or_false] at member
  rcases member with rfl | rfl | rfl | rfl | rfl | rfl
  · simp only [Suppression.onPattern, String.toList_append, toList_environmentComment] at accepted ⊢
    rw [isShownBy_append_cons_iff (by decide) (by decide)] at accepted
    exact accepted.resolve_right (by decide)
  · simp only [Suppression.onPattern, String.toList_append] at accepted ⊢
    exact isShownBy_environmentLookup_of_append (by decide) accepted
  · simp only [Suppression.onPattern, isShownBy_runtimeImport_iff, String.toList_append] at accepted ⊢
    exact importsRuntimeModule_of_append noQuote accepted
  · simp only [Suppression.onPattern, isShownBy_runtimeImport_iff, String.toList_append] at accepted ⊢
    exact importsRuntimeModule_of_append noQuote accepted
  · exact absurd rfl other
  · simp only [String.toList_append, toList_environmentComment] at accepted ⊢
    rw [occursIn_iff, infix_append_cons_iff (by decide), ← occursIn_iff, ← occursIn_iff] at accepted
    exact accepted.resolve_right (by decide)

theorem not_suppresses_before_comment {rule : Rule} (noSecret : ¬"Hardcoded".toList <:+: rule.name.toList)
    (unsuppressed : builtinPolicy.suppresses text rule = false) :
    builtinPolicy.suppresses (text ++ environmentComment) rule = false := by
  rw [Policy.not_suppresses_iff] at unsuppressed ⊢
  intro suppression member
  rw [← Bool.not_eq_true]
  intro vetoes
  rw [Suppression.vetoes, Bool.and_eq_true] at vetoes
  rcases vetoes with ⟨covered, accepted⟩
  have other : suppression.scope ≠ some "Hardcoded" := by
    intro isScoped
    rcases Suppression.covers_iff.mp covered with unscoped | ⟨part, isPart, named⟩
    · rw [isScoped] at unscoped
      cases unscoped
    · rw [isScoped] at isPart
      cases isPart
      exact noSecret named
  have vetoesAlone : suppression.vetoes text rule = true := by
    rw [Suppression.vetoes, covered, accepts_of_comment member other accepted]
    rfl
  rw [unsuppressed suppression member] at vetoesAlone
  exact Bool.noConfusion vetoesAlone

end Suppressions

/-! ## Findings -/

section Findings

variable {line : NumberedLine}

theorem exists_finding_before_comment (oneLine : '\n' ∉ line.text.toList) {finding : Finding}
    (found : finding ∈ line.findings builtin builtinPolicy)
    (noSecret : ¬"Hardcoded".toList <:+: finding.issue.toList)
    (noPipe : finding.issue ≠ pipeToShellRule.name) :
    ∃ later ∈ { line with text := line.text ++ environmentComment }.findings builtin builtinPolicy,
      later.issue = finding.issue := by
  rcases NumberedLine.mem_findings_iff.mp found with ⟨rule, member, fires, unsuppressed, rfl⟩
  have stillFires := builtinRule_fires_before_comment member noPipe oneLine fires
  have stillUnsuppressed := not_suppresses_before_comment noSecret unsuppressed
  exact ⟨_, NumberedLine.mem_findings_iff.mpr ⟨rule, member, stillFires, stillUnsuppressed, rfl⟩, rfl⟩

theorem issue_ne_pipeToShell_before_comment (oneLine : '\n' ∉ line.text.toList) {later : Finding}
    (found : later ∈ { line with text := line.text ++ environmentComment }.findings builtin builtinPolicy) :
    later.issue ≠ pipeToShellRule.name := by
  rcases NumberedLine.mem_findings_iff.mp found with ⟨rule, member, fires, _, rfl⟩
  intro named
  have alone : builtin.rules.filter (·.name == pipeToShellRule.name) = [pipeToShellRule] := rfl
  cases eq_of_alone alone member named
  rw [pipeToShellRule_silent_before_comment oneLine] at fires
  exact Bool.noConfusion fires

end Findings

/-- A comment that mentions the environment takes away nothing that is found on a line under a name without
`Hardcoded`, except for a download that is piped to a shell, which is never found before the comment. Of the
suppressions only the one for names with `Hardcoded` accepts the comment. -/
theorem environmentComment_keeps_findings (line : NumberedLine) (oneLine : '\n' ∉ line.text.toList) :
    (∀ finding ∈ line.findings builtin builtinPolicy, ¬"Hardcoded".toList <:+: finding.issue.toList →
        finding.issue ≠ "Pipe to Shell Pattern" →
          ∃ later ∈ { line with text := line.text ++ " # process.env" }.findings builtin builtinPolicy,
            later.issue = finding.issue) ∧
      (∀ later ∈ { line with text := line.text ++ " # process.env" }.findings builtin builtinPolicy,
        later.issue ≠ "Pipe to Shell Pattern") ∧
      ∀ suppression ∈ builtinPolicy,
        suppression.accepts " # process.env" = true ↔ suppression.scope = some "Hardcoded" := by
  refine ⟨?_, ?_, ?_⟩
  · intro finding found noSecret noPipe
    exact exists_finding_before_comment oneLine found noSecret noPipe
  · intro later found
    exact issue_ne_pipeToShell_before_comment oneLine found
  · decide

/-- A list of modules, which nothing but a comment may follow. -/
theorem environmentComment_keeps_exampleLine :
    ∃ finding ∈ (NumberedLine.mk "f.py" 1 "import os, numpy as np").findings builtin builtinPolicy,
      ¬"Hardcoded".toList <:+: finding.issue.toList ∧ finding.issue ≠ "Pipe to Shell Pattern" ∧
        ∃ later ∈ (NumberedLine.mk "f.py" 1 ("import os, numpy as np" ++ " # process.env")).findings builtin
            builtinPolicy, later.issue = finding.issue := by
  have kept := environmentComment_keeps_findings ⟨"f.py", 1, "import os, numpy as np"⟩ (by decide)
  have noSecret : ¬"Hardcoded".toList <:+: dependencyRule.name.toList := by
    rw [← occursIn_iff]
    decide
  have found : NumberedLine.finding ⟨"f.py", 1, "import os, numpy as np"⟩ dependencyRule ∈
      (NumberedLine.mk "f.py" 1 "import os, numpy as np").findings builtin builtinPolicy := by
    rw [NumberedLine.mem_findings_iff]
    exact ⟨dependencyRule, by simp [builtin, Catalog.rules, mediumRules], by decide, by decide,
      rfl⟩
  exact ⟨_, found, noSecret, by decide, kept.1 _ found noSecret (by decide)⟩

/-- A download that is piped to a shell is not found any more. -/
theorem environmentComment_hides_pipeToShell :
    '\n' ∉ "curl x | sh".toList ∧ ¬"Hardcoded".toList <:+: "Pipe to Shell Pattern".toList ∧
      (∃ finding ∈ (NumberedLine.mk "f.sh" 1 "curl x | sh").findings builtin builtinPolicy,
        finding.issue = "Pipe to Shell Pattern") ∧
      ¬∃ later ∈ (NumberedLine.mk "f.sh" 1 ("curl x | sh" ++ " # process.env")).findings builtin builtinPolicy,
        later.issue = "Pipe to Shell Pattern" := by
  have oneLine : '\n' ∉ "curl x | sh".toList := by decide
  refine ⟨oneLine, ?_, ?_, ?_⟩
  · rw [← occursIn_iff]
    decide
  · refine ⟨_, NumberedLine.mem_findings_iff.mpr ⟨pipeToShellRule, ?_, ?_, ?_, rfl⟩, rfl⟩
    · simp [builtin, Catalog.rules, criticalRules]
    · decide
    · decide
  · rintro ⟨later, found, named⟩
    have hidden : later.issue ≠ pipeToShellRule.name :=
      @issue_ne_pipeToShell_before_comment ⟨"f.sh", 1, "curl x | sh"⟩ oneLine later found
    exact hidden named

end SkillScan.Signature
