import Mathlib.Algebra.Ring.Int.Defs
import SkillScan.Proofs.Scan.Exactness
import SkillScan.Proofs.Scan.VerdictJoin

/-!
# Accounting for a scan

A tally is filled step by step: a file is counted, lines are counted, a finding is added, or a line is
matched against rules and its findings are added. Only counting a negative number of lines fails, and
then nothing happens to the tally. What every step adds is known from the step alone. So a tally is at
any time exactly what the steps so far account for, it never loses a finding or a count, and its verdict
never becomes milder. Scans are such runs.
-/

namespace SkillScan

namespace Tally

/-- What can happen to a tally. -/
inductive Step where
  | countFile
  | countLines (count : Int)
  | addFinding (finding : Finding)
  /-- Adds what is found on a line. -/
  | matchLine (line : NumberedLine)

section Run

variable (catalog : Catalog) (policy : Policy)

/-- A step, with the rules that lines are matched against. -/
def take : Step → EStateM TallyError Tally Unit
  | .countFile => modify addFile
  | .countLines count => countLines count
  | .addFinding finding => modify (addFindings · [finding])
  | .matchLine line => modify (addFindings · (line.findings catalog policy))

/-- The tally that a step leaves behind, whether it fails or not. -/
def after (tally : Tally) (step : Step) : Tally :=
  match take catalog policy step tally with
  | .ok _ later => later
  | .error _ later => later

/-- The tally after some steps. -/
def afterAll (tally : Tally) (steps : List Step) : Tally :=
  steps.foldl (after catalog policy) tally

/-! ## What steps account for -/

/-- Whether a step counts a file. -/
def Step.countsFile : Step → Bool
  | .countFile => true
  | _ => false

/-- The number of lines that a step counts, if it counts lines and does not fail. -/
def Step.linesCounted? : Step → Option Int
  | .countLines count => if count < 0 then none else some count
  | _ => none

/-- The findings that a step adds. -/
def Step.findings : Step → List Finding
  | .addFinding finding => [finding]
  | .matchLine line => line.findings catalog policy
  | _ => []

theorem countLines_of_negative {count : Int} (negative : count < 0) (tally : Tally) :
    countLines count tally = .error .negativeLineCount tally := by
  simp only [countLines, Statistics.addLines, negative, if_true]
  rfl

theorem countLines_of_nonneg {count : Int} (nonneg : ¬count < 0) (tally : Tally) :
    countLines count tally =
      .ok () ⟨⟨tally.statistics.files, tally.statistics.lines + count⟩, tally.findings⟩ := by
  simp only [countLines, Statistics.addLines, nonneg, if_false]
  rfl

theorem take_of_possible {step : Step} (possible : ¬∃ count < 0, step = .countLines count)
    (tally : Tally) :
    take catalog policy step tally =
      .ok () ⟨⟨tally.statistics.files + if step.countsFile then 1 else 0,
          tally.statistics.lines + step.linesCounted?.getD 0⟩,
        tally.findings ++ step.findings catalog policy⟩ := by
  cases step with
  | countLines count =>
      have nonneg : ¬count < 0 := fun negative => possible ⟨count, negative, rfl⟩
      rw [take, countLines_of_nonneg nonneg]
      simp [Step.countsFile, Step.linesCounted?, Step.findings, nonneg]
  | countFile =>
      have done : take catalog policy .countFile tally = .ok () tally.addFile := rfl
      simp [done, addFile, Statistics.addFile, Step.countsFile, Step.linesCounted?, Step.findings]
  | addFinding finding =>
      have done : take catalog policy (.addFinding finding) tally =
          .ok () (tally.addFindings [finding]) := rfl
      simp [done, addFindings, Step.countsFile, Step.linesCounted?, Step.findings]
  | matchLine line =>
      have done : take catalog policy (.matchLine line) tally =
          .ok () (tally.addFindings (line.findings catalog policy)) := rfl
      simp [done, addFindings, Step.countsFile, Step.linesCounted?, Step.findings]

theorem after_eq (tally : Tally) (step : Step) :
    tally.after catalog policy step =
      ⟨⟨tally.statistics.files + if step.countsFile then 1 else 0,
          tally.statistics.lines + step.linesCounted?.getD 0⟩,
        tally.findings ++ step.findings catalog policy⟩ := by
  by_cases possible : ∃ count < 0, step = .countLines count
  · rcases possible with ⟨count, negative, rfl⟩
    rw [after, take, countLines_of_negative negative]
    simp [Step.countsFile, Step.linesCounted?, Step.findings, negative]
  · rw [after, take_of_possible catalog policy possible]

theorem linesCounted?_nonneg {step : Step} : 0 ≤ step.linesCounted?.getD 0 := by
  cases step with
  | countLines count =>
      by_cases negative : count < 0
      · simp [Step.linesCounted?, negative]
      · simpa [Step.linesCounted?, negative] using Int.not_lt.mp negative
  | countFile => simp [Step.linesCounted?]
  | addFinding finding => simp [Step.linesCounted?]
  | matchLine line => simp [Step.linesCounted?]

theorem afterAll_eq (tally : Tally) (steps : List Step) :
    tally.afterAll catalog policy steps =
      ⟨⟨tally.statistics.files + steps.countP Step.countsFile,
          tally.statistics.lines + (steps.filterMap Step.linesCounted?).sum⟩,
        tally.findings ++ steps.flatMap (Step.findings catalog policy)⟩ := by
  induction steps generalizing tally with
  | nil => simp [afterAll]
  | cons step steps ih =>
      have counted : (step.linesCounted?.getD 0) + (steps.filterMap Step.linesCounted?).sum =
          ((step :: steps).filterMap Step.linesCounted?).sum := by
        cases lines : step.linesCounted? <;> simp [lines]
      rw [afterAll, List.foldl_cons, ← afterAll, ih, after_eq, List.countP_cons, ← counted]
      simp only [List.flatMap_cons, List.append_assoc, mk.injEq, Statistics.mk.injEq, and_true]
      constructor
      · push_cast
        split <;> omega
      · omega

theorem afterAll_append_singleton (tally : Tally) (steps : List Step) (step : Step) :
    tally.afterAll catalog policy (steps ++ [step]) =
      (tally.afterAll catalog policy steps).after catalog policy step := by
  simp [afterAll]

variable {catalog policy}

/-! ## What no step takes away -/

/-- Nothing that stood in the earlier tally is missing from the later one. -/
structure GrewFrom (later earlier : Tally) : Prop where
  files : earlier.statistics.files ≤ later.statistics.files
  lines : earlier.statistics.lines ≤ later.statistics.lines
  findings : earlier.findings <+: later.findings
  verdict : earlier.verdict.rank ≤ later.verdict.rank

theorem GrewFrom.refl (tally : Tally) : tally.GrewFrom tally :=
  ⟨Int.le_refl _, Int.le_refl _, List.prefix_refl _, Nat.le_refl _⟩

theorem GrewFrom.trans {last middle first : Tally} (upper : last.GrewFrom middle)
    (lower : middle.GrewFrom first) : last.GrewFrom first where
  files := Int.le_trans lower.files upper.files
  lines := Int.le_trans lower.lines upper.lines
  findings := lower.findings.trans upper.findings
  verdict := Nat.le_trans lower.verdict upper.verdict

theorem after_grewFrom (tally : Tally) (step : Step) :
    (tally.after catalog policy step).GrewFrom tally := by
  rw [after_eq]
  refine ⟨?_, ?_, List.prefix_append _ _, ?_⟩
  · dsimp only
    split <;> omega
  · have nonneg := @linesCounted?_nonneg step
    dsimp only
    omega
  · exact Summary.rank_verdict_le_of_subset (List.subset_append_left _ _)

theorem afterAll_grewFrom (tally : Tally) (steps : List Step) :
    (tally.afterAll catalog policy steps).GrewFrom tally := by
  induction steps generalizing tally with
  | nil => exact GrewFrom.refl tally
  | cons step steps ih => exact (ih (tally.after catalog policy step)).trans (after_grewFrom tally step)

/-- After every step of a run the counts are those that the steps account for, the summary counts the
findings held, nothing has been lost, and a step that fails has done nothing. -/
theorem accounts_after_every_step (catalog : Catalog) (policy : Policy) (steps : List Step)
    (step : Step) :
    let earlier := empty.afterAll catalog policy steps
    let later := empty.afterAll catalog policy (steps ++ [step])
    later.statistics.files = (steps ++ [step]).countP Step.countsFile ∧
      later.statistics.lines = ((steps ++ [step]).filterMap Step.linesCounted?).sum ∧
      (∀ severity, later.summary.count severity =
        later.findings.countP (·.severity = severity)) ∧
      later.summary.total = later.findings.length ∧
      later.findings = earlier.findings ++ step.findings catalog policy ∧
      earlier.statistics.files ≤ later.statistics.files ∧
      earlier.statistics.lines ≤ later.statistics.lines ∧
      earlier.verdict.rank ≤ later.verdict.rank ∧
      ((¬∃ count < 0, step = .countLines count) →
        take catalog policy step earlier = .ok () later) ∧
      ∀ count < 0, step = .countLines count →
        take catalog policy step earlier = .error .negativeLineCount later ∧ later = earlier := by
  intro earlier later
  have stepped : later = earlier.after catalog policy step :=
    afterAll_append_singleton catalog policy empty steps step
  have totals := afterAll_eq catalog policy empty (steps ++ [step])
  have grew : later.GrewFrom earlier := stepped ▸ after_grewFrom earlier step
  refine ⟨?_, ?_, ?_, ?_, ?_, grew.files, grew.lines, grew.verdict, ?_, ?_⟩
  · simpa [later, empty, Statistics.zero] using congrArg (·.statistics.files) totals
  · simpa [later, empty, Statistics.zero] using congrArg (·.statistics.lines) totals
  · exact Summary.count_ofFindings later.findings
  · exact Summary.total_ofFindings later.findings
  · rw [stepped, after_eq]
  · intro possible
    rw [stepped, after_eq]
    exact take_of_possible catalog policy possible earlier
  · rintro count negative rfl
    have failed : take catalog policy (.countLines count) earlier = .error .negativeLineCount earlier :=
      countLines_of_negative negative earlier
    have unchanged : later = earlier := by rw [stepped, after, failed]
    rw [unchanged]
    exact ⟨failed, rfl⟩

/-- After a file, three lines and a finding, counting minus one lines fails and changes nothing. -/
theorem accounts_exampleSteps :
    let earlier := empty.afterAll Signature.builtin Signature.builtinPolicy
      [.countFile, .countLines 3, .addFinding ⟨.high, "a.js", 2, "Shell Command", "Review", none⟩]
    earlier.statistics = ⟨1, 3⟩ ∧ earlier.verdict = .highRisk ∧
      take Signature.builtin Signature.builtinPolicy (.countLines (-1)) earlier =
        .error .negativeLineCount earlier := by
  have accounts := accounts_after_every_step Signature.builtin Signature.builtinPolicy
    [.countFile, .countLines 3, .addFinding ⟨.high, "a.js", 2, "Shell Command", "Review", none⟩]
    (.countLines (-1))
  rcases accounts with ⟨_, _, _, _, _, _, _, _, _, failed⟩
  rcases failed (-1) (by decide) rfl with ⟨failure, unchanged⟩
  exact ⟨rfl, rfl, failure.trans (congrArg _ unchanged)⟩

end Run

end Tally

/-! ## Scans as runs -/

namespace Scanner

/-- The steps that a visit of a scan consists of. -/
def steps (tree : FileTree) (root : Path) (rootIsFile : Bool) : Visit → List Tally.Step
  | .file path =>
    match tree.readText path with
    | .ok text =>
      let lines := linesOf text
      .countFile :: .countLines lines.length ::
        (numbered (shownPath root rootIsFile path) lines).map .matchLine
    | .error error =>
      [.countFile, .addFinding
        (notice (shownPath root rootIsFile path) ("Could not read file: " ++ error.message))]
  | .unlistable error =>
    [.addFinding (notice (shownPath root rootIsFile (faultyPath root error))
      ("Could not read directory: " ++ error.message))]

section Run

variable {scanner : Scanner} {tree : FileTree} {root : Path} {rootIsFile : Bool}

theorem findings_block (visit : Visit) :
    (scanner.block tree root rootIsFile visit).findings =
      (steps tree root rootIsFile visit).flatMap
        (Tally.Step.findings scanner.catalog scanner.policy) := by
  cases visit with
  | file path =>
      simp only [block, steps]
      cases tree.readText path with
      | error error => simp [unreadBlock, Tally.Step.findings]
      | ok text => simp [readBlock, Tally.Step.findings, List.flatMap_map]
  | unlistable error => simp [block, steps, unlistedBlock, Tally.Step.findings]

theorem statistics_block (visit : Visit) :
    (scanner.block tree root rootIsFile visit).statistics =
      ⟨(steps tree root rootIsFile visit).countP Tally.Step.countsFile,
        ((steps tree root rootIsFile visit).filterMap Tally.Step.linesCounted?).sum⟩ := by
  cases visit with
  | file path =>
      simp only [block, steps]
      cases tree.readText path with
      | error error => rfl
      | ok text =>
          have noFile (lines : List NumberedLine) :
              (lines.map Tally.Step.matchLine).countP Tally.Step.countsFile = 0 := by
            simp [List.countP_eq_zero, Tally.Step.countsFile]
          have noLines (lines : List NumberedLine) :
              (lines.map Tally.Step.matchLine).filterMap Tally.Step.linesCounted? = [] := by
            simp [List.filterMap_eq_nil_iff, Tally.Step.linesCounted?]
          simp only [Block.statistics, readBlock, List.countP_cons, List.filterMap_cons, noFile,
            noLines]
          have nonneg : ¬((linesOf text).length : Int) < 0 := by omega
          simp [Tally.Step.countsFile, Tally.Step.linesCounted?, numbered, nonneg]
  | unlistable error => rfl

theorem gather_eq_afterAll (visits : List Visit) :
    gather (visits.map (scanner.block tree root rootIsFile)) =
      Tally.empty.afterAll scanner.catalog scanner.policy
        (visits.flatMap (steps tree root rootIsFile)) := by
  rw [Tally.afterAll_eq]
  induction visits with
  | nil => rfl
  | cons visit visits ih =>
      have gathered :
          gather ((visit :: visits).map (scanner.block tree root rootIsFile)) =
            ⟨(scanner.block tree root rootIsFile visit).statistics.plus
                (gather (visits.map (scanner.block tree root rootIsFile))).statistics,
              (scanner.block tree root rootIsFile visit).findings ++
                (gather (visits.map (scanner.block tree root rootIsFile))).findings⟩ := rfl
      rw [gathered, ih, statistics_block, findings_block]
      simp [Tally.empty, Statistics.zero, Statistics.plus]

/-- A scan is the run of the steps of its visits, from the empty tally. -/
theorem scan_eq_run {location : Location} {node : Node} {visits : List Visit}
    (present : tree.lookup root.text = .ok (location, node))
    (walked : walk scanner.selection tree root = .ok visits) :
    scanner.scan tree root = .ok ⟨root, Tally.empty.afterAll scanner.catalog scanner.policy
      (visits.flatMap (steps tree root (!node.isDirectory)))⟩ := by
  rw [scan_of_walk present walked, gather_eq_afterAll]

end Run

end Scanner

end SkillScan
