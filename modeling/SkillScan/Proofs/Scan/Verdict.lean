import Mathlib.Tactic.ByContra
import SkillScan.Report

/-!
# Verdicts

The summary of some findings counts the findings of each severity, and sorting does not change it. So the
verdict says which severities there are: whether there is a critical finding, else one of high severity,
else any at all.
-/

namespace SkillScan

namespace Summary

theorem count_increment (summary : Summary) (added severity : Severity) :
    (summary.increment added).count severity =
      summary.count severity + if added = severity then 1 else 0 := by
  cases added <;> cases severity <;> rfl

theorem count_foldl_increment (findings : List Finding) (summary : Summary) (severity : Severity) :
    (findings.foldl (fun summary finding => summary.increment finding.severity) summary).count severity =
      summary.count severity + findings.countP (·.severity = severity) := by
  induction findings generalizing summary with
  | nil => simp
  | cons finding findings ih =>
      rw [List.foldl_cons, ih, count_increment, List.countP_cons]
      simp only [decide_eq_true_eq]
      omega

theorem count_ofFindings (findings : List Finding) (severity : Severity) :
    (ofFindings findings).count severity = findings.countP (·.severity = severity) := by
  rw [ofFindings, count_foldl_increment]
  cases severity <;> simp [zero, count]

/-- A summary is its four counts. -/
theorem eq_of_count_eq {first second : Summary}
    (same : ∀ severity, first.count severity = second.count severity) : first = second := by
  have critical := same .critical
  have high := same .high
  have medium := same .medium
  have warning := same .warning
  rcases first with ⟨_, _, _, _⟩
  rcases second with ⟨_, _, _, _⟩
  simp_all [count]

theorem ofFindings_of_perm {findings others : List Finding} (perm : findings.Perm others) :
    ofFindings findings = ofFindings others := by
  apply eq_of_count_eq
  intro severity
  rw [count_ofFindings, count_ofFindings]
  exact perm.countP_eq _

theorem count_pos_iff {findings : List Finding} {severity : Severity} :
    0 < (ofFindings findings).count severity ↔ ∃ finding ∈ findings, finding.severity = severity := by
  simp [count_ofFindings, List.countP_pos_iff]

theorem total_foldl_increment (findings : List Finding) (summary : Summary) :
    (findings.foldl (fun summary finding => summary.increment finding.severity) summary).total =
      summary.total + findings.length := by
  induction findings generalizing summary with
  | nil => simp
  | cons finding findings ih =>
      have one : (summary.increment finding.severity).total = summary.total + 1 := by
        cases finding.severity <;> simp only [increment, total] <;> omega
      rw [List.foldl_cons, ih, one, List.length_cons]
      omega

theorem total_ofFindings (findings : List Finding) : (ofFindings findings).total = findings.length := by
  rw [ofFindings, total_foldl_increment]
  simp [total, zero]

section Verdict

variable {findings : List Finding}

theorem verdict_eq_clean_iff : (ofFindings findings).verdict = .clean ↔ findings = [] := by
  rw [← List.length_eq_zero_iff, ← total_ofFindings]
  simp only [verdict]
  split
  · next none => simp [none]
  · next some =>
      split
      · simp [some]
      · split <;> simp [some]

theorem verdict_eq_blocked_iff :
    (ofFindings findings).verdict = .blocked ↔
      ∃ finding ∈ findings, finding.severity = .critical := by
  rw [← count_pos_iff]
  simp only [verdict, count]
  split
  · next none =>
      simp only [total] at none
      simp
      omega
  · split
    · next critical => simpa using critical
    · next noCritical => split <;> simp <;> omega

theorem verdict_eq_highRisk_iff :
    (ofFindings findings).verdict = .highRisk ↔
      (¬∃ finding ∈ findings, finding.severity = .critical) ∧
        ∃ finding ∈ findings, finding.severity = .high := by
  rw [← count_pos_iff, ← count_pos_iff]
  simp only [verdict, count]
  split
  · next none =>
      simp only [total] at none
      simp
      omega
  · split
    · next critical =>
        simp
        omega
    · next noCritical => split <;> simp <;> omega

/-- An installer is told to stop exactly by findings of the two highest severities. -/
theorem exitCode_verdict :
    (ofFindings findings).verdict.exitCode =
      if ∃ finding ∈ findings, finding.severity = .critical ∨ finding.severity = .high then 1
      else 0 := by
  have blocked := @verdict_eq_blocked_iff findings
  have highRisk := @verdict_eq_highRisk_iff findings
  by_cases critical : ∃ finding ∈ findings, finding.severity = .critical
  · rcases critical with ⟨finding, member, severity⟩
    rw [blocked.mpr ⟨finding, member, severity⟩, if_pos ⟨finding, member, Or.inl severity⟩]
    rfl
  · by_cases high : ∃ finding ∈ findings, finding.severity = .high
    · rw [highRisk.mpr ⟨critical, high⟩]
      rcases high with ⟨finding, member, severity⟩
      rw [if_pos ⟨finding, member, Or.inr severity⟩]
      rfl
    · have neither : ¬∃ finding ∈ findings, finding.severity = .critical ∨ finding.severity = .high := by
        rintro ⟨finding, member, severity | severity⟩
        · exact critical ⟨finding, member, severity⟩
        · exact high ⟨finding, member, severity⟩
      rw [if_neg neither]
      cases verdict : (ofFindings findings).verdict with
      | clean => rfl
      | reviewRecommended => rfl
      | highRisk => exact absurd (highRisk.mp verdict).2 high
      | blocked => exact absurd (blocked.mp verdict) critical

section Severities

variable {exposed : Severity → Prop} {missed : Prop}
  (severities : ∀ severity, (∃ finding ∈ findings, finding.severity = severity) ↔
    exposed severity ∨ severity = .warning ∧ missed)
include severities

theorem eq_nil_iff_of_severities : findings = [] ↔ (∀ severity, ¬exposed severity) ∧ ¬missed := by
  constructor
  · rintro rfl
    have none : ∀ severity, ¬(exposed severity ∨ severity = .warning ∧ missed) := by
      intro severity some
      simpa using (severities severity).mpr some
    exact ⟨fun severity shown => none severity (Or.inl shown),
      fun part => none .warning (Or.inr ⟨rfl, part⟩)⟩
  · rintro ⟨unexposed, complete⟩
    rw [List.eq_nil_iff_forall_not_mem]
    intro finding member
    rcases (severities finding.severity).mp ⟨finding, member, rfl⟩ with shown | ⟨_, part⟩
    · exact unexposed _ shown
    · exact complete part

/-- Where it is known which severities there are besides warnings, so is the verdict. -/
theorem verdict_of_severities :
    ((ofFindings findings).verdict = .blocked ↔ exposed .critical) ∧
      ((ofFindings findings).verdict = .highRisk ↔ ¬exposed .critical ∧ exposed .high) ∧
      ((ofFindings findings).verdict = .clean ↔ (∀ severity, ¬exposed severity) ∧ ¬missed) ∧
      ((ofFindings findings).verdict = .reviewRecommended ↔
        ¬exposed .critical ∧ ¬exposed .high ∧ ((∃ severity, exposed severity) ∨ missed)) := by
  have blocked := @verdict_eq_blocked_iff findings
  have highRisk := @verdict_eq_highRisk_iff findings
  have clean := @verdict_eq_clean_iff findings
  simp only [severities, reduceCtorEq, false_and, or_false] at blocked highRisk
  rw [eq_nil_iff_of_severities severities] at clean
  refine ⟨blocked, highRisk, clean, ?_⟩
  cases verdict : (ofFindings findings).verdict with
  | clean =>
      rcases clean.mp verdict with ⟨unexposed, complete⟩
      simp [unexposed, complete]
  | blocked => simp [blocked.mp verdict]
  | highRisk => simp [(highRisk.mp verdict).2]
  | reviewRecommended =>
      simp only [verdict, reduceCtorEq, false_iff, true_iff] at blocked highRisk clean ⊢
      refine ⟨blocked, fun high => highRisk ⟨blocked, high⟩, ?_⟩
      by_contra neither
      rw [not_or, not_exists] at neither
      exact clean neither

theorem exitCode_of_severities :
    ((ofFindings findings).verdict.exitCode = 1 ↔ exposed .critical ∨ exposed .high) ∧
      ((ofFindings findings).verdict.exitCode = 0 ↔ ¬(exposed .critical ∨ exposed .high)) := by
  have dangerous : (∃ finding ∈ findings,
      finding.severity = .critical ∨ finding.severity = .high) ↔
        exposed .critical ∨ exposed .high := by
    have critical := severities .critical
    have high := severities .high
    simp only [reduceCtorEq, false_and, or_false] at critical high
    rw [← critical, ← high, ← exists_or]
    simp only [and_or_left]
  rw [exitCode_verdict]
  split
  · next found => simp [dangerous.mp found]
  · next absent => simp [mt dangerous.mpr absent]

end Severities

end Verdict

end Summary

namespace Report

variable {findings : List Finding} {statistics : Statistics} {target version : String}

/-- Sorting the findings does not change the verdict. -/
theorem verdict_ofFindings :
    (ofFindings findings statistics target version).verdict = (Summary.ofFindings findings).verdict := by
  have perm : (sorted findings).Perm findings := List.mergeSort_perm _ _
  simp only [ofFindings, Summary.ofFindings_of_perm perm]

end Report

end SkillScan
