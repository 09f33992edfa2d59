import SkillScan.Proofs.Report.ReadingBack
import SkillScan.Proofs.Rule.Tiers
import SkillScan.Proofs.Signature.BlankLine
import SkillScan.Signature.SafeContext

/-!
# The code of a finding

A report leaves out the code of a finding if the excerpt of the line is empty. That never happens to a finding of a
built-in rule. The excerpt is the beginning of what the blanks at the ends of the line enclose, so it is empty only if
the line holds nothing but blanks, and on such a line no built-in rule fires. Each of these findings is shown in four
lines one after the other, the third of which has the code.
-/

namespace SkillScan

/-! ## Excerpts -/

theorem toList_excerpt (line : String) :
    (excerpt line).toList = (Text.trimmed line.toList).take excerptLimit := by
  rw [excerpt, String.toList_ofList]

theorem excerpt_prefix (line : String) : (excerpt line).toList <+: Text.trimmed line.toList := by
  rw [toList_excerpt]
  exact List.take_prefix excerptLimit _

theorem length_excerpt (line : String) :
    (excerpt line).length = min excerptLimit (Text.trimmed line.toList).length := by
  rw [← String.length_toList, toList_excerpt, List.length_take]

/-- An excerpt has room for at least one character. -/
theorem head?_excerpt (line : String) :
    (excerpt line).toList.head? = (Text.trimmed line.toList).head? := by
  rw [toList_excerpt, List.head?_take, if_neg (by decide)]

/-! ## Lines of a report -/

namespace Report

theorem findingLines_of_code {finding : Finding} {code : String} (shown : finding.code = some code)
    (nonempty : code ≠ "") :
    findingLines finding = ["[" ++ finding.severity.label ++ "] " ++ finding.issue,
      "  File: " ++ location finding, "  Code: " ++ code, "  Fix : " ++ finding.remediation] := by
  have codeLine : codeLines finding = ["  Code: " ++ code] := by
    rw [codeLines_eq, Finding.shownCode, shown, Option.getD_some, optionalLine, if_neg nonempty]
  rw [findingLines, codeLine]
  rfl

theorem findingLines_infix_findingsLines {finding : Finding} {findings : List Finding}
    (member : finding ∈ findings) : findingLines finding <:+: findingsLines findings := by
  have nonempty : findings.isEmpty = false := List.isEmpty_eq_false_iff_exists_mem.mpr ⟨finding, member⟩
  have within : findingLines finding ++ [""] <:+: findings.flatMap fun other => findingLines other ++ [""] :=
    List.infix_of_mem_flatten (List.mem_map.mpr ⟨finding, member, rfl⟩)
  have alone := (List.prefix_append (findingLines finding) [""]).isInfix.trans within
  rw [findingsLines, nonempty, if_neg Bool.false_ne_true]
  exact alone.trans (List.suffix_append _ _).isInfix

/-- A report shows the lines about a finding one after the other, whatever else it shows. -/
theorem findingLines_infix_lines {finding : Finding} {findings : List Finding} (member : finding ∈ findings)
    (statistics : Statistics) (target version title : String) :
    findingLines finding <:+: (ofFindings findings statistics target version).lines title := by
  have sortedMember : finding ∈ sorted findings := List.mem_mergeSort.mpr member
  rw [lines, ofFindings]
  exact (findingLines_infix_findingsLines sortedMember).trans (List.infix_append _ _ _)

end Report

/-! ## Findings -/

namespace NumberedLine

variable {line : NumberedLine} {policy : Policy}

theorem findings_of_blank (areBlank : ∀ char ∈ line.text.toList, Text.isBlank char = true) :
    line.findings Signature.builtin policy = [] := by
  rw [List.eq_nil_iff_forall_not_mem]
  intro finding member
  rcases mem_findings_iff.mp member with ⟨rule, ruleMem, fires, _⟩
  rw [Signature.test_of_blank_of_mem_builtin areBlank ruleMem] at fires
  exact Bool.noConfusion fires

theorem trimmed_ne_nil_of_finding {finding : Finding} (member : finding ∈ line.findings Signature.builtin policy) :
    Text.trimmed line.text.toList ≠ [] := by
  intro nothing
  have trims := Text.trimsTo_trimmed line.text.toList
  rw [nothing] at trims
  rw [findings_of_blank trims.isBlank_of_nil] at member
  exact List.not_mem_nil member

/-- Every finding of a built-in rule shows the beginning of what stands on the line between the blanks at its ends, at
most eighty characters of it. There is something to show, so each report with the finding has a line for it. A line
of blanks gives no finding at all. -/
theorem finding_shows_code (line : NumberedLine) (policy : Policy) :
    (∀ finding ∈ line.findings Signature.builtin policy, ∃ (core : List Char) (code : String),
      Text.TrimsTo line.text.toList core ∧
      finding.code = some code ∧
      code ≠ "" ∧
      code.toList <+: core ∧
      (∃ first ∈ code.toList.head?, Text.isBlank first = false) ∧
      code.length = min 80 core.length ∧
      Report.findingLines finding =
        ["[" ++ finding.severity.label ++ "] " ++ finding.issue, "  File: " ++ Report.location finding,
          "  Code: " ++ code, "  Fix : " ++ finding.remediation] ∧
      ∀ (findings : List Finding) (statistics : Statistics) (target version title : String), finding ∈ findings →
        Report.findingLines finding <:+: (Report.ofFindings findings statistics target version).lines title) ∧
    ((∀ char ∈ line.text.toList, Text.isBlank char = true) → line.findings Signature.builtin policy = []) := by
  constructor
  · intro finding member
    have shown : finding.code = some (excerpt line.text) := by
      rcases mem_findings_iff.mp member with ⟨rule, _, _, _, rfl⟩
      rfl
    have trims := Text.trimsTo_trimmed line.text.toList
    rcases List.exists_cons_of_ne_nil (trimmed_ne_nil_of_finding member) with ⟨first, rest, core⟩
    have begins : (excerpt line.text).toList.head? = some first := by
      rw [head?_excerpt, core, List.head?_cons]
    have nonempty : excerpt line.text ≠ "" := by
      intro empty
      simp [empty] at begins
    have solid : Text.isBlank first = false := by
      rcases trims with ⟨_, _, _, _, _, noBlank, _⟩
      exact noBlank first (by rw [core]; rfl)
    refine ⟨_, _, trims, shown, nonempty, excerpt_prefix line.text, ⟨first, begins, solid⟩,
      length_excerpt line.text, Report.findingLines_of_code shown nonempty, ?_⟩
    intro findings statistics target version title reported
    exact Report.findingLines_infix_lines reported statistics target version title
  · intro areBlank
    exact findings_of_blank areBlank

/-- The name of malware, between blanks from beyond ASCII. -/
def exampleMalwareLine : NumberedLine :=
  ⟨"package.json", 3, "\u3000\t'openclaw-core' \u00A0"⟩

theorem finding_shows_exampleCode :
    (∃ finding ∈ exampleMalwareLine.findings Signature.builtin Signature.builtinPolicy,
      finding.code = some "'openclaw-core'" ∧
        "  Code: 'openclaw-core'" ∈ (Report.ofFindings [finding] ⟨1, 1⟩ "" "1").lines "") ∧
      NumberedLine.findings ⟨"package.json", 4, "\u3000\t\u00A0"⟩ Signature.builtin Signature.builtinPolicy =
        [] := by
  constructor
  · have ruleMem : Signature.malwareRule ∈ Signature.builtin.rules := by
      simp [Signature.builtin, Catalog.rules, Signature.criticalRules]
    have member : exampleMalwareLine.finding Signature.malwareRule ∈
        exampleMalwareLine.findings Signature.builtin Signature.builtinPolicy :=
      mem_findings_iff.mpr ⟨_, ruleMem, by decide, by decide +kernel, rfl⟩
    have shown : (exampleMalwareLine.finding Signature.malwareRule).code = some "'openclaw-core'" := by
      decide
    rcases (finding_shows_code exampleMalwareLine Signature.builtinPolicy).1 _ member with
      ⟨core, code, _, isCode, _, _, _, _, fourLines, reported⟩
    cases isCode.symm.trans shown
    refine ⟨_, member, shown, ?_⟩
    apply (reported _ ⟨1, 1⟩ "" "1" "" (List.mem_singleton_self _)).subset
    rw [fourLines]
    simp
  · have areBlank : "\u3000\t\u00A0".toList.all Text.isBlank = true := by decide
    exact (finding_shows_code ⟨"package.json", 4, "\u3000\t\u00A0"⟩ Signature.builtinPolicy).2
      (List.all_eq_true.mp areBlank)

end NumberedLine

end SkillScan
