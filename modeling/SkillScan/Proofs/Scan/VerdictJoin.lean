import Mathlib.Data.List.Perm.Subperm
import Mathlib.Order.Lattice
import SkillScan.Proofs.Scan.Verdict

/-!
# Verdicts as joins

The counters of a summary are filled one finding at a time, and the verdict is read off them only at the
end. Still every finding has a say of its own: one more finding raises the verdict to the one that the
finding alone would lead to, and never lowers it. So the verdict on some findings is the most severe of
their own verdicts. It does not depend on their order, more findings never make it milder, and the verdict
on two lists together is the more severe of the two.
-/

namespace SkillScan

/-- The verdict that a finding of the severity leads to if it stands alone. -/
def Severity.verdict : Severity → Verdict
  | .critical => .blocked
  | .high => .highRisk
  | .medium | .warning => .reviewRecommended

theorem Verdict.exitCode_le_of_rank_le {milder stricter : Verdict}
    (le : milder.rank ≤ stricter.rank) : milder.exitCode ≤ stricter.exitCode := by
  cases milder <;> cases stricter <;> simp_all [rank, exitCode]

namespace Summary

theorem rank_verdict (summary : Summary) :
    summary.verdict.rank =
      if 0 < summary.critical then 3
      else if 0 < summary.high then 2
      else if 0 < summary.medium + summary.warning then 1
      else 0 := by
  simp only [verdict, total, Verdict.rank]
  grind

theorem rank_verdict_increment (summary : Summary) (severity : Severity) :
    (summary.increment severity).verdict.rank =
      max summary.verdict.rank severity.verdict.rank := by
  -- the counters are compared one by one, so the join shows only after a case for each severity
  rw [rank_verdict, rank_verdict]
  cases severity <;> simp only [increment, Severity.verdict, Verdict.rank] <;> grind

theorem rank_verdict_foldl_le_iff {findings : List Finding} {summary : Summary} {bound : Nat} :
    (findings.foldl (fun summary finding => summary.increment finding.severity) summary).verdict.rank ≤
        bound ↔
      summary.verdict.rank ≤ bound ∧
        ∀ finding ∈ findings, finding.severity.verdict.rank ≤ bound := by
  induction findings generalizing summary with
  | nil => simp
  | cons finding findings ih =>
      rw [List.foldl_cons, ih, rank_verdict_increment, Nat.max_le, List.forall_mem_cons, and_assoc]

theorem rank_verdict_le_iff {findings : List Finding} {bound : Nat} :
    (ofFindings findings).verdict.rank ≤ bound ↔
      ∀ finding ∈ findings, finding.severity.verdict.rank ≤ bound := by
  rw [ofFindings, rank_verdict_foldl_le_iff]
  exact and_iff_right (Nat.zero_le bound)

theorem rank_verdict_append (findings others : List Finding) :
    (ofFindings (findings ++ others)).verdict.rank =
      max (ofFindings findings).verdict.rank (ofFindings others).verdict.rank := by
  apply eq_of_forall_ge_iff
  intro bound
  rw [Nat.max_le, rank_verdict_le_iff, rank_verdict_le_iff, rank_verdict_le_iff,
    List.forall_mem_append]

theorem rank_verdict_le_of_subset {findings others : List Finding} (included : findings ⊆ others) :
    (ofFindings findings).verdict.rank ≤ (ofFindings others).verdict.rank := by
  rw [rank_verdict_le_iff]
  intro finding member
  exact rank_verdict_le_iff.mp (Nat.le_refl _) finding (included member)

theorem count_append (findings others : List Finding) (severity : Severity) :
    (ofFindings (findings ++ others)).count severity =
      (ofFindings findings).count severity + (ofFindings others).count severity := by
  simp only [count_ofFindings, List.countP_append]

/-- Counts of findings add up and verdicts join, in any order; more findings never make the verdict
milder or let an installation go on that fewer had stopped. -/
theorem verdict_joins_findings :
    (∀ findings others : List Finding,
      (∀ severity, (ofFindings (findings ++ others)).count severity =
          (ofFindings findings).count severity + (ofFindings others).count severity) ∧
        (ofFindings (findings ++ others)).verdict.rank =
          max (ofFindings findings).verdict.rank (ofFindings others).verdict.rank) ∧
      (∀ findings others : List Finding, findings.Perm others →
        ofFindings findings = ofFindings others ∧
          (ofFindings findings).verdict = (ofFindings others).verdict) ∧
      ∀ findings others : List Finding, findings.Subperm others →
        (ofFindings findings).verdict.rank ≤ (ofFindings others).verdict.rank ∧
          (ofFindings findings).verdict.exitCode ≤ (ofFindings others).verdict.exitCode := by
  refine ⟨?_, ?_, ?_⟩
  · intro findings others
    exact ⟨count_append findings others, rank_verdict_append findings others⟩
  · intro findings others perm
    have same := ofFindings_of_perm perm
    exact ⟨same, congrArg verdict same⟩
  · intro findings others included
    have le := rank_verdict_le_of_subset included.subset
    exact ⟨le, Verdict.exitCode_le_of_rank_le le⟩

/-- Findings of three severities, the mildest first. -/
def exampleFindings : List Finding :=
  [⟨.warning, "a.js", 0, "Could not read file", "Check file permissions", none⟩,
    ⟨.medium, "b.js", 3, "Network Request", "Review the host", some "fetch(url)"⟩,
    ⟨.high, "b.js", 7, "Shell Command", "Review the command", some "exec(cmd)"⟩]

/-- Turned around, the findings count the same; without the last one they would let an installation
go on. -/
theorem verdict_exampleFindings :
    (ofFindings exampleFindings.reverse).verdict = .highRisk ∧
      (ofFindings exampleFindings.dropLast).verdict = .reviewRecommended ∧
      (ofFindings exampleFindings.dropLast).verdict.exitCode ≤
        (ofFindings exampleFindings).verdict.exitCode := by
  have turned := verdict_joins_findings.2.1 _ _ exampleFindings.reverse_perm
  have fewer := verdict_joins_findings.2.2 _ _ exampleFindings.dropLast_sublist.subperm
  exact ⟨turned.2.trans rfl, rfl, fewer.2⟩

end Summary

end SkillScan
