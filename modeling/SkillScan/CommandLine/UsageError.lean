import SkillScan.Text.Quoted

/-!
# Wrong usage

What can be wrong with the arguments of the program.
-/

namespace SkillScan

/-- Why arguments cannot be made sense of. Options and operands are named as in the help. -/
inductive UsageError where
  /-- An abbreviation stands for several options. -/
  | ambiguous (argument : String) (candidates : List String)
  | valueMissing (option : String)
  /-- An option that takes no value has one attached to it. -/
  | valueUnwanted (option value : String)
  | invalidChoice (name value : String) (choices : List String)
  | operandMissing (name : String)
  /-- Arguments are left over. -/
  | unrecognized (arguments : List String)
  deriving DecidableEq

/-- The wording of the error. -/
def UsageError.message : UsageError → String
  | .ambiguous argument candidates =>
    "ambiguous option: " ++ argument ++ " could match " ++ ", ".intercalate candidates
  | .valueMissing option => "argument " ++ option ++ ": expected one argument"
  | .valueUnwanted option value =>
    "argument " ++ option ++ ": ignored explicit argument " ++ Text.quoted value
  | .invalidChoice name value choices =>
    "argument " ++ name ++ ": invalid choice: " ++ Text.quoted value ++ " (choose from " ++
      ", ".intercalate (choices.map Text.quoted) ++ ")"
  | .operandMissing name => "the following arguments are required: " ++ name
  | .unrecognized arguments => "unrecognized arguments: " ++ " ".intercalate arguments

end SkillScan
