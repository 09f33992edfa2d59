import SkillScan.Signature.Credential
import SkillScan.Signature.Deletion
import SkillScan.Signature.Dependency
import SkillScan.Signature.Execution
import SkillScan.Signature.Network

/-!
# The built-in catalog

The thirteen rules that a scan applies unless it is given others.
-/

namespace SkillScan.Signature

/-- The built-in rules of the critical tier. -/
def criticalRules : List Rule :=
  credentialRules ++ [obfuscationRule, malwareRule, pipeToShellRule]

/-- The built-in rules of the high tier. -/
def highRules : List Rule :=
  downloadRule :: commandRules

/-- The built-in rules of the medium tier. -/
def mediumRules : List Rule :=
  [requestRule, dependencyRule, deletionRule]

/-- The built-in rules in tiers. -/
def builtin : Catalog :=
  ⟨criticalRules, highRules, mediumRules, catalogVersion⟩

end SkillScan.Signature
