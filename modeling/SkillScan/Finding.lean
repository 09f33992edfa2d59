import SkillScan.Severity
import SkillScan.Text.Blank

/-!
# Findings

A finding is one issue at a place in a file. What it shows of the line is an excerpt: the line without
the blanks around it, cut after eighty characters.
-/

namespace SkillScan

/-- One issue at a place in a file. -/
structure Finding where
  severity : Severity
  file : String
  /-- The number of the line, or zero for an issue with the file as a whole. -/
  line : Int
  issue : String
  remediation : String
  /-- The excerpt of the line, if the finding is about a line. -/
  code : Option String
  deriving DecidableEq

/-- The most characters that an excerpt shows. -/
def excerptLimit : Nat := 80

/-- The part of a line that a finding shows. -/
def excerpt (line : String) : String :=
  String.ofList ((Text.trimmed line.toList).take excerptLimit)

end SkillScan
