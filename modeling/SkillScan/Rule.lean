import SkillScan.Pattern
import SkillScan.Severity

/-!
# Rules and catalogs

A rule tests lines for one kind of risk. A catalog keeps rules in tiers, one for each severity that a
rule may have; within a tier the rules stay in the order in which they were given.
-/

namespace SkillScan

/-- A test for one kind of risk. -/
structure Rule where
  name : String
  severity : Severity
  /-- What to do about a match. -/
  remediation : String
  /-- Whether a line carries the risk. -/
  test : String → Bool

/-- A rule that looks for a pattern anywhere on the line. -/
def Rule.ofPattern (name : String) (severity : Severity) (remediation : String) (pattern : Pattern) :
    Rule where
  name := name
  severity := severity
  remediation := remediation
  test := fun line => pattern.isShownBy line.toList

/-- The version of the built-in rules. -/
def catalogVersion : String := "1.0.0"

/-- Rules in tiers. -/
structure Catalog where
  critical : List Rule
  high : List Rule
  medium : List Rule
  version : String

/-- Why rules do not make a catalog. -/
inductive CatalogError where
  /-- A rule has a severity that is no tier. -/
  | noTier (ruleName : String) (severity : Severity)

/-- The wording of the error. -/
def CatalogError.message : CatalogError → String
  | .noTier ruleName severity =>
    "Rule " ++ Text.quoted ruleName ++ " has no catalog tier for severity " ++ severity.label

namespace Catalog

/-- No rules yet. -/
def empty (version : String) : Catalog :=
  ⟨[], [], [], version⟩

/-- Puts a rule behind the others of its tier, if there is a tier for it. -/
def add (catalog : Catalog) (rule : Rule) : Except CatalogError Catalog :=
  match rule.severity with
  | .critical => .ok { catalog with critical := catalog.critical ++ [rule] }
  | .high => .ok { catalog with high := catalog.high ++ [rule] }
  | .medium => .ok { catalog with medium := catalog.medium ++ [rule] }
  | .warning => .error (.noTier rule.name rule.severity)

/-- Sorts rules into tiers, one after the other. The first rule without a tier is an error. -/
def ofRules (rules : List Rule) (version : String) : Except CatalogError Catalog :=
  rules.foldlM add (empty version)

/-- The rules of one tier; there are none of severity `warning`. -/
def tier (catalog : Catalog) : Severity → List Rule
  | .critical => catalog.critical
  | .high => catalog.high
  | .medium => catalog.medium
  | .warning => []

/-- Every rule, the critical tier first. -/
def rules (catalog : Catalog) : List Rule :=
  catalog.critical ++ catalog.high ++ catalog.medium

/-- The number of rules. -/
def size (catalog : Catalog) : Nat :=
  catalog.rules.length

end Catalog

end SkillScan
