import SkillScan.Severity

/-!
# Sorting by severity

Things that have a severity are sorted with the most serious first, and those of equal severity stay in
the order in which they were given. There is only one such order: the things of each severity, one
severity after the other.
-/

namespace SkillScan.Severity

section Sorting

variable {α : Type} (severityOf : α → Severity)

/-- Whether the first thing may stand before the second. -/
def mayPrecede (first second : α) : Bool :=
  (severityOf first).rank ≤ (severityOf second).rank

/-- The things of each severity in their order, the most serious first. -/
def tiered (items : List α) : List α :=
  all.flatMap fun severity => items.filter (severityOf · = severity)

theorem mayPrecede_trans (first second third : α) (upper : mayPrecede severityOf first second)
    (lower : mayPrecede severityOf second third) : mayPrecede severityOf first third := by
  simp only [mayPrecede, decide_eq_true_eq] at *
  exact Nat.le_trans upper lower

theorem mayPrecede_total (first second : α) :
    (mayPrecede severityOf first second || mayPrecede severityOf second first) = true := by
  simp only [mayPrecede, Bool.or_eq_true, decide_eq_true_eq]
  exact Nat.le_total _ _

theorem eq_tiered_of_pairwise {items : List α}
    (sorted : items.Pairwise (mayPrecede severityOf · ·)) : items = tiered severityOf items := by
  induction items with
  | nil => rfl
  | cons item items ih =>
      rcases List.pairwise_cons.mp sorted with ⟨first, later⟩
      -- the tiers before that of the first thing are empty, so it comes first in the tiers as well
      have noneBefore (severity : Severity) (before : severity.rank < (severityOf item).rank) :
          items.filter (severityOf · = severity) = [] := by
        rw [List.filter_eq_nil_iff]
        intro other member
        have notBefore := first other member
        simp only [mayPrecede, decide_eq_true_eq] at *
        rintro rfl
        omega
      have inTiers := ih later
      simp only [tiered, all, List.flatMap_cons, List.flatMap_nil, List.append_nil] at inTiers ⊢
      cases kind : severityOf item with
      | critical => simpa [kind] using inTiers
      | high =>
          have noCritical := noneBefore .critical (by rw [kind]; decide)
          simpa [kind, noCritical] using inTiers
      | medium =>
          have noCritical := noneBefore .critical (by rw [kind]; decide)
          have noHigh := noneBefore .high (by rw [kind]; decide)
          simpa [kind, noCritical, noHigh] using inTiers
      | warning =>
          have noCritical := noneBefore .critical (by rw [kind]; decide)
          have noHigh := noneBefore .high (by rw [kind]; decide)
          have noMedium := noneBefore .medium (by rw [kind]; decide)
          simpa [kind, noCritical, noHigh, noMedium] using inTiers

theorem filter_mergeSort (items : List α) (severity : Severity) :
    (items.mergeSort (mayPrecede severityOf)).filter (severityOf · = severity) =
      items.filter (severityOf · = severity) := by
  have alike : (items.filter (severityOf · = severity)).Pairwise (mayPrecede severityOf · ·) := by
    apply List.pairwise_of_forall_mem_list
    intro first firstMember second secondMember
    simp_all [mayPrecede]
  -- things of one severity are a sorted part of the list, and sorting keeps sorted parts
  have kept : (items.filter (severityOf · = severity)).Sublist
      (items.mergeSort (mayPrecede severityOf)) :=
    List.sublist_mergeSort (mayPrecede_trans severityOf) (mayPrecede_total severityOf) alike
      List.filter_sublist
  have keptAlike := kept.filter (severityOf · = severity)
  simp only [List.filter_filter, Bool.and_self] at keptAlike
  have perm := (List.mergeSort_perm items (mayPrecede severityOf)).filter (severityOf · = severity)
  exact (keptAlike.eq_of_length perm.length_eq.symm).symm

theorem mergeSort_eq_tiered (items : List α) :
    items.mergeSort (mayPrecede severityOf) = tiered severityOf items := by
  have sorted := List.pairwise_mergeSort (mayPrecede_trans severityOf) (mayPrecede_total severityOf) items
  rw [eq_tiered_of_pairwise severityOf sorted]
  simp only [tiered, filter_mergeSort]

end Sorting

end SkillScan.Severity
