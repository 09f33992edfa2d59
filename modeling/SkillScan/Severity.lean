import SkillScan.Text.Quoted

/-!
# Severities and verdicts

A finding has a severity. Rules have one of the first three; the last is for notices about the scan
itself, such as a file that cannot be read. A scan as a whole gets a verdict, and the verdict decides
whether an installation may go on.
-/

namespace SkillScan

/-- How serious a finding is, the most serious first. -/
inductive Severity where
  | critical
  | high
  | medium
  | warning
  deriving DecidableEq, Repr

namespace Severity

/-- All severities in the order in which they are reported. -/
def all : List Severity := [.critical, .high, .medium, .warning]

/-- The severities that rules may have. -/
def tiers : List Severity := [.critical, .high, .medium]

/-- The place in the order of reporting; smaller is reported first. -/
def rank : Severity → Nat
  | .critical => 0
  | .high => 1
  | .medium => 2
  | .warning => 3

/-- The name shown in reports. -/
def label : Severity → String
  | .critical => "CRITICAL"
  | .high => "HIGH"
  | .medium => "MEDIUM"
  | .warning => "WARNING"

/-- The severity with a given name. -/
def ofLabel? (label : String) : Option Severity :=
  all.find? (·.label == label)

end Severity

/-- The outcome of a scan, the mildest first. -/
inductive Verdict where
  | clean
  | reviewRecommended
  | highRisk
  | blocked
  deriving DecidableEq, Repr

namespace Verdict

/-- All verdicts from the mildest to the most severe. -/
def all : List Verdict := [.clean, .reviewRecommended, .highRisk, .blocked]

/-- The place in the order from the mildest to the most severe. -/
def rank : Verdict → Nat
  | .clean => 0
  | .reviewRecommended => 1
  | .highRisk => 2
  | .blocked => 3

/-- The name shown in reports. -/
def label : Verdict → String
  | .clean => "CLEAN"
  | .reviewRecommended => "REVIEW_RECOMMENDED"
  | .highRisk => "HIGH_RISK"
  | .blocked => "BLOCKED"

/-- The verdict with a given name. -/
def ofLabel? (label : String) : Option Verdict :=
  all.find? (·.label == label)

/-- The exit code that an installer sees: zero lets it go on. -/
def exitCode : Verdict → Nat
  | .clean | .reviewRecommended => 0
  | .highRisk | .blocked => 1

end Verdict

/-- A name that belongs to no member of a scale. -/
inductive LabelError where
  | notSeverity (label : String)
  | notVerdict (label : String)

/-- The wording of the error. -/
def LabelError.message : LabelError → String
  | .notSeverity label => Text.quoted label ++ " is not a valid Severity"
  | .notVerdict label => Text.quoted label ++ " is not a valid Verdict"

/-- The severity with a given name, or the error that there is none. -/
def Severity.ofLabel (label : String) : Except LabelError Severity :=
  match Severity.ofLabel? label with
  | some severity => .ok severity
  | none => .error (.notSeverity label)

/-- The verdict with a given name, or the error that there is none. -/
def Verdict.ofLabel (label : String) : Except LabelError Verdict :=
  match Verdict.ofLabel? label with
  | some verdict => .ok verdict
  | none => .error (.notVerdict label)

end SkillScan
