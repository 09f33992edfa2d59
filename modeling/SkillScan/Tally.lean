import SkillScan.Finding

/-!
# Tallies

What a scan counts: the files and lines it read, and its findings by severity. The verdict follows from
the counts of the findings.
-/

namespace SkillScan

/-- Counts of files and lines. -/
structure Statistics where
  files : Int
  lines : Int
  deriving DecidableEq

/-- A count that cannot be added. -/
inductive TallyError where
  | negativeLineCount

/-- The wording of the error. -/
def TallyError.message : TallyError → String
  | .negativeLineCount => "line count must not be negative"

namespace Statistics

/-- Nothing counted yet. -/
def zero : Statistics := ⟨0, 0⟩

/-- One more file. -/
def addFile (statistics : Statistics) : Statistics :=
  { statistics with files := statistics.files + 1 }

/-- Counts more lines; their number must not be negative. A failure leaves counts behind as well. -/
def addLines (count : Int) : EStateM TallyError Statistics Unit := do
  if count < 0 then throw .negativeLineCount
  modify fun statistics => { statistics with lines := statistics.lines + count }

/-- Two counts together. -/
def plus (first second : Statistics) : Statistics :=
  ⟨first.files + second.files, first.lines + second.lines⟩

end Statistics

/-- Counts of findings by severity. -/
structure Summary where
  critical : Nat
  high : Nat
  medium : Nat
  warning : Nat
  deriving DecidableEq

namespace Summary

/-- No findings. -/
def zero : Summary := ⟨0, 0, 0, 0⟩

/-- One more finding of a severity. -/
def increment (summary : Summary) : Severity → Summary
  | .critical => { summary with critical := summary.critical + 1 }
  | .high => { summary with high := summary.high + 1 }
  | .medium => { summary with medium := summary.medium + 1 }
  | .warning => { summary with warning := summary.warning + 1 }

/-- The counts of some findings. -/
def ofFindings (findings : List Finding) : Summary :=
  findings.foldl (fun summary finding => summary.increment finding.severity) zero

/-- The number of findings of a severity. -/
def count (summary : Summary) : Severity → Nat
  | .critical => summary.critical
  | .high => summary.high
  | .medium => summary.medium
  | .warning => summary.warning

/-- The number of all findings. -/
def total (summary : Summary) : Nat :=
  summary.critical + summary.high + summary.medium + summary.warning

/-- The verdict that the counts lead to. -/
def verdict (summary : Summary) : Verdict :=
  if summary.total = 0 then .clean
  else if summary.critical > 0 then .blocked
  else if summary.high > 0 then .highRisk
  else .reviewRecommended

end Summary

/-- What a scan has gathered. -/
structure Tally where
  statistics : Statistics
  /-- The findings in the order of their discovery. -/
  findings : List Finding

namespace Tally

/-- Nothing gathered yet. -/
def empty : Tally := ⟨.zero, []⟩

/-- The counts of the findings. -/
def summary (tally : Tally) : Summary :=
  .ofFindings tally.findings

/-- The verdict on the findings. -/
def verdict (tally : Tally) : Verdict :=
  tally.summary.verdict

/-- One more file. -/
def addFile (tally : Tally) : Tally :=
  { tally with statistics := tally.statistics.addFile }

/-- Counts more lines. -/
def countLines (count : Int) : EStateM TallyError Tally Unit := fun tally =>
  match Statistics.addLines count tally.statistics with
  | .ok _ statistics => .ok () { tally with statistics }
  | .error error statistics => .error error { tally with statistics }

/-- The tally with more lines. -/
def addLines (tally : Tally) (count : Int) : Except TallyError Tally :=
  match countLines count tally with
  | .ok _ later => .ok later
  | .error error _ => .error error

/-- More findings. -/
def addFindings (tally : Tally) (findings : List Finding) : Tally :=
  { tally with findings := tally.findings ++ findings }

end Tally

end SkillScan
