import SkillScan.Proofs.Severity.StableSort
import SkillScan.Matching
import SkillScan.Report
import SkillScan.Signature.Builtin

/-!
# Tiers of a catalog

A catalog is filled rule by rule, each rule going to the end of its tier, and the rules are tried tier by
tier. This order is the stable sort of the given rules by severity: none is lost or doubled, and a
catalog made from the rules of a catalog is the same again. A line therefore gets one finding for every
rule that matches and is not vetoed, and these already stand in the order in which reports show them. A
rule of a severity without a tier is refused by its name, the first one if there are more.
-/

namespace SkillScan

namespace Catalog

/-! ## Filling the tiers -/

theorem add_of_tier {rule : Rule} (hasTier : rule.severity ≠ .warning) (catalog : Catalog) :
    catalog.add rule =
      .ok ⟨catalog.critical ++ [rule].filter (·.severity = .critical),
        catalog.high ++ [rule].filter (·.severity = .high),
        catalog.medium ++ [rule].filter (·.severity = .medium), catalog.version⟩ := by
  cases severity : rule.severity with
  | critical => simp [add, severity]
  | high => simp [add, severity]
  | medium => simp [add, severity]
  | warning => exact absurd severity hasTier

theorem foldlM_add_of_tiers {rules : List Rule} (haveTiers : ∀ rule ∈ rules, rule.severity ≠ .warning)
    (catalog : Catalog) :
    rules.foldlM add catalog =
      .ok ⟨catalog.critical ++ rules.filter (·.severity = .critical),
        catalog.high ++ rules.filter (·.severity = .high),
        catalog.medium ++ rules.filter (·.severity = .medium), catalog.version⟩ := by
  induction rules generalizing catalog with
  | nil => simp [pure, Except.pure]
  | cons rule rules ih =>
      have hasTier := haveTiers rule (by simp)
      have othersHaveTiers : ∀ other ∈ rules, other.severity ≠ .warning := by
        intro other member
        exact haveTiers other (by simp [member])
      rw [List.foldlM_cons, add_of_tier hasTier]
      simp only [bind, Except.bind, ih othersHaveTiers, List.append_assoc, ← List.filter_append,
        List.singleton_append]

theorem ofRules_of_tiers {rules : List Rule} (haveTiers : ∀ rule ∈ rules, rule.severity ≠ .warning)
    (version : String) :
    ofRules rules version =
      .ok ⟨rules.filter (·.severity = .critical), rules.filter (·.severity = .high),
        rules.filter (·.severity = .medium), version⟩ := by
  rw [ofRules, foldlM_add_of_tiers haveTiers]
  rfl

/-- The built-in rules make the built-in catalog. -/
theorem ofRules_builtin :
    ofRules (Signature.criticalRules ++ Signature.highRules ++ Signature.mediumRules)
      catalogVersion = .ok Signature.builtin := by
  have haveTiers : ∀ rule ∈ Signature.criticalRules ++ Signature.highRules ++ Signature.mediumRules,
      rule.severity ≠ .warning := by decide
  rw [ofRules_of_tiers haveTiers]
  rfl

/-- The first rule without a tier is refused, whatever comes behind it. -/
theorem ofRules_of_noTier {before : List Rule} {rule : Rule}
    (haveTiers : ∀ earlier ∈ before, earlier.severity ≠ .warning)
    (noTier : rule.severity = .warning) (behind : List Rule) (version : String) :
    ofRules (before ++ rule :: behind) version = .error (.noTier rule.name .warning) := by
  rw [ofRules, List.foldlM_append, foldlM_add_of_tiers haveTiers]
  simp [bind, Except.bind, add, noTier]

theorem message_noTier_warning (ruleName : String) :
    CatalogError.message (.noTier ruleName .warning) =
      "Rule " ++ Text.quoted ruleName ++ " has no catalog tier for severity WARNING" := by
  have ending : " has no catalog tier for severity " ++ "WARNING" =
      " has no catalog tier for severity WARNING" := by decide
  rw [CatalogError.message, Severity.label, String.append_assoc, ending]

/-! ## The order of the rules -/

section Rules

variable {rules : List Rule} {version : String} {catalog : Catalog}

theorem filter_warning_of_tiers (haveTiers : ∀ rule ∈ rules, rule.severity ≠ .warning) :
    rules.filter (·.severity = .warning) = [] := by
  rw [List.filter_eq_nil_iff]
  intro rule member
  simpa using haveTiers rule member

theorem rules_eq_tiered (haveTiers : ∀ rule ∈ rules, rule.severity ≠ .warning)
    (made : ofRules rules version = .ok catalog) :
    catalog.rules = Severity.tiered Rule.severity rules := by
  rw [ofRules_of_tiers haveTiers] at made
  cases made
  simp [Catalog.rules, Severity.tiered, Severity.all, filter_warning_of_tiers haveTiers]

theorem tier_of_ofRules (haveTiers : ∀ rule ∈ rules, rule.severity ≠ .warning)
    (made : ofRules rules version = .ok catalog) (severity : Severity) :
    catalog.tier severity = rules.filter (·.severity = severity) := by
  rw [ofRules_of_tiers haveTiers] at made
  cases made
  cases severity with
  | critical => rfl
  | high => rfl
  | medium => rfl
  | warning => exact (filter_warning_of_tiers haveTiers).symm

theorem perm_rules (haveTiers : ∀ rule ∈ rules, rule.severity ≠ .warning)
    (made : ofRules rules version = .ok catalog) : catalog.rules.Perm rules := by
  rw [rules_eq_tiered haveTiers made, ← Severity.mergeSort_eq_tiered]
  exact List.mergeSort_perm _ _

theorem pairwise_rules (haveTiers : ∀ rule ∈ rules, rule.severity ≠ .warning)
    (made : ofRules rules version = .ok catalog) :
    catalog.rules.Pairwise (Severity.mayPrecede Rule.severity · ·) := by
  rw [rules_eq_tiered haveTiers made, ← Severity.mergeSort_eq_tiered]
  exact List.pairwise_mergeSort (Severity.mayPrecede_trans _) (Severity.mayPrecede_total _) rules

theorem ofRules_rules (haveTiers : ∀ rule ∈ rules, rule.severity ≠ .warning)
    (made : ofRules rules version = .ok catalog) : ofRules catalog.rules version = .ok catalog := by
  have haveTiersAgain : ∀ rule ∈ catalog.rules, rule.severity ≠ .warning := by
    intro rule member
    exact haveTiers rule ((perm_rules haveTiers made).mem_iff.mp member)
  have sameTiers (severity : Severity) :
      catalog.rules.filter (·.severity = severity) = rules.filter (·.severity = severity) := by
    rw [rules_eq_tiered haveTiers made, ← Severity.mergeSort_eq_tiered, Severity.filter_mergeSort]
  rw [ofRules_of_tiers haveTiersAgain, ← made, ofRules_of_tiers haveTiers]
  simp only [sameTiers]

end Rules

end Catalog

/-! ## Findings on a line -/

theorem Policy.not_suppresses_iff {policy : Policy} {line : String} {rule : Rule} :
    policy.suppresses line rule = false ↔
      ∀ suppression ∈ policy, suppression.vetoes line rule = false := by
  simp [Policy.suppresses, Policy.reasonFor]

namespace NumberedLine

theorem mem_findings_iff {line : NumberedLine} {catalog : Catalog} {policy : Policy}
    {finding : Finding} :
    finding ∈ line.findings catalog policy ↔ ∃ rule ∈ catalog.rules, rule.test line.text = true ∧
      policy.suppresses line.text rule = false ∧ line.finding rule = finding := by
  simp only [findings, matching, List.mem_map, List.mem_filter, Bool.not_eq_true', and_assoc]

theorem findings_eq (line : NumberedLine) (catalog : Catalog) (policy : Policy) :
    line.findings catalog policy =
      (catalog.rules.filter fun rule => rule.test line.text ∧
        ∀ suppression ∈ policy, suppression.vetoes line.text rule = false).map line.finding := by
  rw [findings, matching, List.filter_filter]
  congr 2
  funext rule
  rw [Bool.eq_iff_iff]
  simp [Policy.not_suppresses_iff, and_comm]

theorem sorted_findings {catalog : Catalog}
    (ordered : catalog.rules.Pairwise (Severity.mayPrecede Rule.severity · ·)) (policy : Policy)
    (line : NumberedLine) :
    Report.sorted (line.findings catalog policy) = line.findings catalog policy := by
  apply List.mergeSort_of_pairwise
  rw [findings_eq, List.pairwise_map]
  exact ordered.filter _

end NumberedLine

/-- Whatever the rules, the catalog made from them tries them in the order of the stable sort by
severity, and what it finds on a line are the rules of this order that match and are not vetoed. The
first rule that no tier takes is refused by its name. -/
theorem Catalog.ofRules_sorts_stably (rules : List Rule) (version : String) :
    ((∀ rule ∈ rules, rule.severity ≠ .warning) →
      ∃ catalog, ofRules rules version = .ok catalog ∧
        catalog.version = version ∧
        catalog.rules =
          rules.mergeSort (fun first second => first.severity.rank ≤ second.severity.rank) ∧
        catalog.rules.Perm rules ∧
        catalog.size = rules.length ∧
        (∀ severity, catalog.tier severity = rules.filter (·.severity = severity)) ∧
        ofRules catalog.rules version = .ok catalog ∧
        ∀ (policy : Policy) (line : NumberedLine),
          line.findings catalog policy =
              ((catalog.rules.filter fun rule => rule.test line.text ∧
                ∀ suppression ∈ policy, suppression.vetoes line.text rule = false).map fun rule =>
                  ⟨rule.severity, line.file, line.number, rule.name, rule.remediation,
                    some (excerpt line.text)⟩) ∧
            Report.sorted (line.findings catalog policy) = line.findings catalog policy) ∧
      ∀ before rule behind, rules = before ++ rule :: behind →
        (∀ earlier ∈ before, earlier.severity ≠ .warning) → rule.severity = .warning →
          ∃ error, ofRules rules version = .error error ∧
            error.message = "Rule " ++ Text.quoted rule.name ++
              " has no catalog tier for severity WARNING" := by
  constructor
  · intro haveTiers
    have made := ofRules_of_tiers haveTiers version
    have perm := perm_rules haveTiers made
    refine ⟨_, made, rfl, ?_, perm, perm.length_eq, tier_of_ofRules haveTiers made,
      ofRules_rules haveTiers made, ?_⟩
    · rw [rules_eq_tiered haveTiers made]
      exact (Severity.mergeSort_eq_tiered Rule.severity rules).symm
    · intro policy line
      exact ⟨line.findings_eq _ policy, line.sorted_findings (pairwise_rules haveTiers made) policy⟩
  · rintro before rule behind rfl haveTiers noTier
    exact ⟨_, ofRules_of_noTier haveTiers noTier behind version, message_noTier_warning rule.name⟩

/-- A rule of the medium tier before one of the critical tier, and then one that has no tier. -/
def exampleRules : List Rule :=
  [⟨"Any line", .medium, "Look", fun _ => true⟩, ⟨"Any line", .critical, "Stop", fun _ => true⟩,
    ⟨"Notice", .warning, "Ignore", fun _ => false⟩]

theorem Catalog.ofRules_exampleRules :
    (∃ catalog, ofRules (exampleRules.take 2) "1" = .ok catalog ∧ catalog.size = 2 ∧
      ∀ line : NumberedLine,
        Report.sorted (line.findings catalog []) = line.findings catalog []) ∧
      ∃ error, ofRules exampleRules "1" = .error error ∧
        error.message = "Rule 'Notice' has no catalog tier for severity WARNING" := by
  have haveTiers : ∀ rule ∈ exampleRules.take 2, rule.severity ≠ .warning := by decide
  constructor
  · rcases (ofRules_sorts_stably (exampleRules.take 2) "1").1 haveTiers with
      ⟨catalog, made, _, _, _, size, _, _, findings⟩
    exact ⟨catalog, made, size, fun line => (findings [] line).2⟩
  · rcases (ofRules_sorts_stably exampleRules "1").2 _ _ [] rfl haveTiers rfl with
      ⟨error, refused, message⟩
    exact ⟨error, refused, message.trans (by decide)⟩

end SkillScan
