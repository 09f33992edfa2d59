import SkillScan.Finding
import SkillScan.Suppression

/-!
# Matching lines against rules

Every rule of a catalog is tried on a line. A rule that matches gives one finding unless the policy has a
reason to suppress it; the reasons can be asked for separately, to be logged.
-/

namespace SkillScan

/-- A line of a file. -/
structure NumberedLine where
  file : String
  number : Int
  text : String

namespace NumberedLine

/-- The finding of a rule on a line. -/
def finding (line : NumberedLine) (rule : Rule) : Finding where
  severity := rule.severity
  file := line.file
  line := line.number
  issue := rule.name
  remediation := rule.remediation
  code := some (excerpt line.text)

/-- The rules that match a line, in the order of the catalog. -/
def matching (line : NumberedLine) (catalog : Catalog) : List Rule :=
  catalog.rules.filter (·.test line.text)

/-- The findings on a line: one for each rule that matches and is not suppressed. -/
def findings (line : NumberedLine) (catalog : Catalog) (policy : Policy) : List Finding :=
  ((line.matching catalog).filter (!policy.suppresses line.text ·)).map line.finding

/-- The rules that match a line but are suppressed, each with the reason. -/
def suppressed (line : NumberedLine) (catalog : Catalog) (policy : Policy) : List (Rule × String) :=
  (line.matching catalog).filterMap fun rule => (policy.reasonFor line.text rule).map (rule, ·)

end NumberedLine

end SkillScan
