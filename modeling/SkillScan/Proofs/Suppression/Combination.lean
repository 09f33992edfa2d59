import SkillScan.Proofs.Rule.Tiers
import SkillScan.Proofs.Text.Separation

/-!
# Policies put together

A policy gives the reason of its first suppression that vetoes a rule, so a policy that stands behind another
is asked only where the first has no reason. What is reported depends on less: a finding is kept if no
suppression vetoes its rule, in whatever order the suppressions stand and however often one is repeated. Of a
rule a suppression sees the name only, so what a further policy takes away can be read off the findings.
-/

namespace SkillScan

namespace Suppression

theorem covers_iff {suppression : Suppression} {rule : Rule} :
    suppression.covers rule = true ↔
      suppression.scope = none ∨
        ∃ part, suppression.scope = some part ∧ part.toList <:+: rule.name.toList := by
  cases scope : suppression.scope with
  | none => simp [covers, scope]
  | some part => simp [covers, scope, Text.occursIn_iff]

theorem vetoes_eq_of_name {first second : Rule} (sameName : first.name = second.name)
    (suppression : Suppression) (text : String) :
    suppression.vetoes text first = suppression.vetoes text second := by
  simp only [vetoes, covers, sameName]

end Suppression

namespace Policy

section Combination

variable {first second other : Policy} {text : String} {rule : Rule}

theorem reasonFor_singleton (suppression : Suppression) :
    reasonFor [suppression] text rule =
      if suppression.covers rule && suppression.accepts text then some suppression.reason else none := by
  rw [reasonFor, List.find?_singleton, Suppression.vetoes]
  split
  · rfl
  · rfl

theorem reasonFor_append :
    (first ++ second).reasonFor text rule =
      (first.reasonFor text rule).or (second.reasonFor text rule) := by
  rw [reasonFor, List.find?_append, Option.map_or]
  rfl

theorem suppresses_append :
    (first ++ second).suppresses text rule =
      (first.suppresses text rule || second.suppresses text rule) := by
  rw [suppresses, reasonFor_append, Option.isSome_or]
  rfl

theorem suppresses_eq_of_mem_iff
    (sameMembers : ∀ suppression, suppression ∈ other ↔ suppression ∈ first) :
    other.suppresses text rule = first.suppresses text rule := by
  rw [← Bool.not_inj_iff, Bool.eq_iff_iff]
  simp only [Bool.not_eq_true', not_suppresses_iff, sameMembers]

theorem suppresses_eq_of_name {otherRule : Rule} (sameName : otherRule.name = rule.name) :
    second.suppresses text otherRule = second.suppresses text rule := by
  simp only [suppresses, reasonFor, Suppression.vetoes_eq_of_name sameName]

end Combination

end Policy

namespace NumberedLine

variable {line : NumberedLine} {catalog : Catalog} {first second other : Policy}

theorem findings_append :
    line.findings catalog (first ++ second) =
      (line.findings catalog first).filter fun finding => ∀ rule ∈ catalog.rules,
        rule.name = finding.issue → second.suppresses line.text rule = false := by
  rw [findings, findings, List.filter_map, List.filter_filter]
  congr 1
  apply List.filter_congr
  intro rule matched
  have member : rule ∈ catalog.rules := (List.mem_filter.mp matched).1
  -- Rules of one name are vetoed alike, so the rule itself speaks for all of its name.
  have named : (∀ other ∈ catalog.rules, other.name = (line.finding rule).issue →
      second.suppresses line.text other = false) ↔ second.suppresses line.text rule = false := by
    constructor
    · intro all
      exact all rule member rfl
    · intro unsuppressed other _ sameName
      rw [Policy.suppresses_eq_of_name sameName]
      exact unsuppressed
  rw [Policy.suppresses_append, Function.comp_apply, Bool.eq_iff_iff, Bool.and_eq_true, decide_eq_true_iff,
    named]
  simp [and_comm]

theorem findings_eq_of_mem_iff
    (sameMembers : ∀ suppression, suppression ∈ other ↔ suppression ∈ first) :
    line.findings catalog other = line.findings catalog first := by
  simp only [findings, Policy.suppresses_eq_of_mem_iff sameMembers]

end NumberedLine

/-- Of two policies one behind the other the second takes away the findings of the rules that it suppresses, and
gives a reason where the first has none. Neither order nor repetition of suppressions changes the findings. -/
theorem Policy.combined_findings_and_reasons (catalog : Catalog) (line : NumberedLine)
    (first second : Policy) :
    line.findings catalog (first ++ second) =
        (line.findings catalog first).filter (fun finding => ∀ rule ∈ catalog.rules,
          rule.name = finding.issue → second.suppresses line.text rule = false) ∧
      (∀ other : Policy, (∀ suppression, suppression ∈ other ↔ suppression ∈ first) →
        line.findings catalog other = line.findings catalog first) ∧
      (∀ rule, (first ++ second).reasonFor line.text rule =
        (first.reasonFor line.text rule).or (second.reasonFor line.text rule)) ∧
      ∀ suppression rule,
        reasonFor [suppression] line.text rule =
            (if suppression.covers rule && suppression.accepts line.text then some suppression.reason
              else none) ∧
          (suppression.covers rule = true ↔ suppression.scope = none ∨
            ∃ part, suppression.scope = some part ∧ part.toList <:+: rule.name.toList) := by
  refine ⟨NumberedLine.findings_append, ?_, ?_, ?_⟩
  · intro other sameMembers
    exact NumberedLine.findings_eq_of_mem_iff sameMembers
  · intro rule
    exact reasonFor_append
  · intro suppression rule
    exact ⟨reasonFor_singleton suppression, Suppression.covers_iff⟩

/-- A suppression for every rule and one for rules with an empty text in their name, which are all rules. -/
def examplePolicy : Policy :=
  [⟨fun line => line == "a", "First", some "line"⟩, ⟨fun line => line == "b", "Second", some ""⟩]

theorem Policy.combined_examplePolicy :
    (∀ suppression, suppression ∈ examplePolicy.reverse ++ examplePolicy ↔ suppression ∈ examplePolicy) ∧
      (NumberedLine.mk "f" 1 "b").findings ⟨[], [], exampleRules.take 1, "1"⟩
          (examplePolicy.reverse ++ examplePolicy) =
        (NumberedLine.mk "f" 1 "b").findings ⟨[], [], exampleRules.take 1, "1"⟩ examplePolicy := by
  have sameMembers : ∀ suppression,
      suppression ∈ examplePolicy.reverse ++ examplePolicy ↔ suppression ∈ examplePolicy := by
    simp
  have combined := combined_findings_and_reasons ⟨[], [], exampleRules.take 1, "1"⟩
    (NumberedLine.mk "f" 1 "b") examplePolicy []
  exact ⟨sameMembers, combined.2.1 _ sameMembers⟩

end SkillScan
