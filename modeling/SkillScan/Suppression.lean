import SkillScan.Rule
import SkillScan.Text.Line

/-!
# Suppressions

A suppression vetoes findings on lines that look safe, for every rule or for rules with a certain text
in their name. A policy is a list of suppressions; the first one that vetoes a rule gives the reason. A
policy is a heuristic trade and no proof of safety: it also hides real problems on the same line.
-/

namespace SkillScan

/-- A reason to pass over matches on some lines. -/
structure Suppression where
  /-- Whether a line looks safe. -/
  accepts : String → Bool
  reason : String
  /-- The text that a rule's name must contain, if the suppression is not for all rules. -/
  scope : Option String

namespace Suppression

/-- Whether a suppression concerns a rule. -/
def covers (suppression : Suppression) (rule : Rule) : Bool :=
  match suppression.scope with
  | none => true
  | some part => Text.occursIn part.toList rule.name.toList

/-- Whether a suppression vetoes a rule on a line. -/
def vetoes (suppression : Suppression) (line : String) (rule : Rule) : Bool :=
  suppression.covers rule && suppression.accepts line

/-- A suppression of all rules on lines that show a pattern. -/
def onPattern (pattern : Pattern) (reason : String) : Suppression where
  accepts line := pattern.isShownBy line.toList
  reason := reason
  scope := none

end Suppression

/-- An ordered list of suppressions. -/
abbrev Policy := List Suppression

namespace Policy

/-- The reason of the first suppression that vetoes a rule on a line. -/
def reasonFor (policy : Policy) (line : String) (rule : Rule) : Option String :=
  (policy.find? (·.vetoes line rule)).map (·.reason)

/-- Whether some suppression vetoes a rule on a line. -/
def suppresses (policy : Policy) (line : String) (rule : Rule) : Bool :=
  (policy.reasonFor line rule).isSome

end Policy

end SkillScan
