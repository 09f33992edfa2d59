import SkillScan.Proofs.Scan.VerdictJoin
import SkillScan.Proofs.Severity.StableSort

/-!
# Reports on sorted findings

A report sorts its findings, counts them and gives a verdict on them, each by a computation of its own. They
agree: the counts are those of the findings as they were given, and since the most serious finding stands first,
it alone decides the verdict. A report that is made again from the findings of a report is the same report.
-/

namespace SkillScan

/-! ## The finding that leads -/

theorem Verdict.rank_injective : Function.Injective Verdict.rank := by
  intro first second same
  cases first <;> cases second <;> simp_all [rank]

/-- A more serious finding never leads to a milder verdict. -/
theorem Severity.rank_verdict_le {first second : Severity} (le : first.rank ≤ second.rank) :
    second.verdict.rank ≤ first.verdict.rank := by
  cases first <;> cases second <;> simp_all [rank, verdict, Verdict.rank]

namespace Summary

/-- Where no finding is more serious than the first, the verdict is that of the first. -/
theorem verdict_of_leading {finding : Finding} {findings : List Finding}
    (leads : ∀ other ∈ findings, finding.severity.rank ≤ other.severity.rank) :
    (ofFindings (finding :: findings)).verdict = finding.severity.verdict := by
  apply Verdict.rank_injective
  apply Nat.le_antisymm
  · rw [rank_verdict_le_iff, List.forall_mem_cons]
    refine ⟨Nat.le_refl _, ?_⟩
    intro other member
    exact Severity.rank_verdict_le (leads other member)
  · exact rank_verdict_le_iff.mp (Nat.le_refl _) finding (by simp)

end Summary

namespace Report

section Sorted

variable (findings : List Finding)

theorem perm_sorted : (sorted findings).Perm findings :=
  List.mergeSort_perm _ _

theorem pairwise_sorted :
    (sorted findings).Pairwise fun first second => first.severity.rank ≤ second.severity.rank := by
  have ordered := List.pairwise_mergeSort (Severity.mayPrecede_trans Finding.severity)
    (Severity.mayPrecede_total Finding.severity) findings
  exact ordered.imp fun precedes => of_decide_eq_true precedes

theorem filter_sorted (severity : Severity) :
    (sorted findings).filter (·.severity = severity) = findings.filter (·.severity = severity) :=
  Severity.filter_mergeSort Finding.severity findings severity

/-- Sorted findings are not moved by sorting. -/
theorem sorted_sorted : sorted (sorted findings) = sorted findings := by
  apply List.mergeSort_of_pairwise
  exact (pairwise_sorted findings).imp fun precedes => decide_eq_true precedes

theorem verdict_sorted :
    (Summary.ofFindings (sorted findings)).verdict =
      match sorted findings with
      | [] => .clean
      | finding :: _ => finding.severity.verdict := by
  have ordered := pairwise_sorted findings
  cases order : sorted findings with
  | nil => rfl
  | cons finding others =>
      rw [order, List.pairwise_cons] at ordered
      exact Summary.verdict_of_leading ordered.1

/-- Sorting the findings does not change their counts. -/
theorem summary_sorted : Summary.ofFindings (sorted findings) = Summary.ofFindings findings :=
  Summary.ofFindings_of_perm (perm_sorted findings)

end Sorted

/-- The fields of a report agree with its findings, which are those given, in the stable order by severity; the
first of them decides the verdict, and making the report again from them changes nothing. -/
theorem fields_agree_with_findings (findings : List Finding) (statistics : Statistics)
    (target version : String) :
    let report := ofFindings findings statistics target version
    report.findings.Perm findings ∧
      report.findings.Pairwise (fun first second => first.severity.rank ≤ second.severity.rank) ∧
      (∀ severity, report.findings.filter (·.severity = severity) =
        findings.filter (·.severity = severity)) ∧
      report.summary.total = report.findings.length ∧
      (∀ severity, report.summary.count severity = findings.countP (·.severity = severity)) ∧
      (report.verdict =
        match report.findings with
        | [] => .clean
        | finding :: _ =>
          match finding.severity with
          | .critical => .blocked
          | .high => .highRisk
          | .medium | .warning => .reviewRecommended) ∧
      (report.passed = true ↔ report.exitCode = 0) ∧
      (report.exitCode = 0 ↔
        ∀ finding ∈ findings, finding.severity ≠ .critical ∧ finding.severity ≠ .high) ∧
      ofFindings report.findings report.statistics report.target report.catalogVersion = report ∧
      (ofFindings report.findings report.statistics report.target report.catalogVersion).text =
        report.text := by
  intro report
  have again : ofFindings report.findings report.statistics report.target report.catalogVersion =
      report := by
    simp only [report, ofFindings, sorted_sorted]
  have exits : report.exitCode = 0 ↔
      ∀ finding ∈ findings, finding.severity ≠ .critical ∧ finding.severity ≠ .high := by
    simp only [exitCode, report, verdict_ofFindings, Summary.exitCode_verdict]
    split
    · next dangerous =>
        rcases dangerous with ⟨finding, member, critical | high⟩
        · simpa using ⟨finding, member, fun noCritical => absurd critical noCritical⟩
        · simpa using ⟨finding, member, fun _ => high⟩
    · next harmless => simpa using harmless
  refine ⟨perm_sorted findings, pairwise_sorted findings, filter_sorted findings,
    Summary.total_ofFindings _, ?_, verdict_sorted findings, beq_iff_eq, exits, again,
    congrArg text again⟩
  intro severity
  simp only [report, ofFindings, summary_sorted, Summary.count_ofFindings]

end Report

end SkillScan
