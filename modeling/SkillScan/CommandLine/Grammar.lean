import SkillScan.CommandLine.UsageError
import SkillScan.Text.DecimalDigit
import SkillScan.Text.Line

/-!
# Grammars of arguments

A grammar says which options there are and which operands stand beside them. An option is written with
its name or, if the name has two dashes, with any beginning of the name that no other option has; a value
may be attached to it. Everything after `--` is plain, as is whatever does not begin with a dash, is a
negative number or contains a space without naming an option.
-/

namespace SkillScan

/-- What an option does to the settings. -/
inductive OptionEffect (Settings : Type) where
  | help
  /-- The option stands alone. -/
  | switch (apply : Settings → Settings)
  /-- The option takes a value; if there are choices, one of them. The settings are told if the value
  counts as none. -/
  | value (choices : List String) (apply : Option String → Settings → Settings)

/-- An option with its names and its effect. -/
structure OptionRule (Settings : Type) where
  names : List String
  effect : OptionEffect Settings

namespace OptionRule

/-- The option as errors name it. -/
def label {Settings : Type} (rule : OptionRule Settings) : String :=
  "/".intercalate rule.names

/-- Whether the option takes a value. -/
def takesValue {Settings : Type} (rule : OptionRule Settings) : Bool :=
  match rule.effect with
  | .value _ _ => true
  | .help | .switch _ => false

end OptionRule

/-- Which operands there are beside the options. -/
inductive OperandRule where
  | absent
  | single (name : String)
  /-- A command, and whatever follows it. -/
  | command (name : String) (choices : List String)

/-- The options and operands of a program or of one of its commands. -/
structure Grammar (Settings : Type) where
  options : List (OptionRule Settings)
  operand : OperandRule

/-- An argument, told apart by its form. -/
inductive Argument (Settings : Type) where
  | plain (text : String)
  /-- The two dashes after which everything is plain. -/
  | separator
  /-- An option, with the name meant and the value attached to it. -/
  | option (text : String) (rule : OptionRule Settings) (name : String) (attached : Option String)
  | unknownOption (text : String)

/-- The argument as written. -/
def Argument.text {Settings : Type} : Argument Settings → String
  | .plain text | .option text _ _ _ | .unknownOption text => text
  | .separator => "--"

namespace Grammar

variable {Settings : Type}

/-- The option of a given name. -/
def named? (grammar : Grammar Settings) (name : String) : Option (OptionRule Settings) :=
  grammar.options.find? (·.names.contains name)

/-- The options whose names begin in a given way, with these names. -/
def beginningWith (grammar : Grammar Settings) (beginning : String) :
    List (String × OptionRule Settings) :=
  grammar.options.flatMap fun rule =>
    (rule.names.filter (beginning.toList.isPrefixOf ·.toList)).map fun name => (name, rule)

/-- The text before the first equals sign and, if there is one, the text after it. -/
def splitAtEquals (text : String) : String × Option String :=
  let name := text.toList.takeWhile (· != '=')
  match text.toList.drop name.length with
  | [] => (text, none)
  | _ :: attached => (String.ofList name, some (String.ofList attached))

/-- Whether some characters are one or more decimal digits. -/
def isDigits (text : List Char) : Bool :=
  !text.isEmpty && text.all Text.isDecimalDigit

/-- Whether an argument is a negative number: a dash and digits, or a dash and a fraction whose whole part
may be missing. A line end at the end is passed over. -/
def isNegativeNumber (text : String) : Bool :=
  match text.toList with
  | '-' :: rest =>
    let number := if rest.getLast? = some '\n' then rest.dropLast else rest
    let whole := number.takeWhile Text.isDecimalDigit
    match number.drop whole.length with
    | [] => isDigits whole
    | point :: fraction => point == '.' && isDigits fraction
  | _ => false

/-- An argument that begins with two dashes: an option that its beginning names. -/
def longOption (grammar : Grammar Settings) (text : String) :
    Except UsageError (Option (Argument Settings)) :=
  let (beginning, attached) := splitAtEquals text
  match grammar.beginningWith beginning with
  | [] => .ok none
  | [(name, rule)] => .ok (some (.option text rule name attached))
  | candidates => .error (.ambiguous text (candidates.map (·.1)))

/-- An argument that begins with one dash: an option that its first letter names, with the rest attached
to it. -/
def shortOption (grammar : Grammar Settings) (text : String) : Option (Argument Settings) :=
  let name := String.ofList (text.toList.take 2)
  (grammar.named? name).map fun rule =>
    .option text rule name (some (String.ofList (text.toList.drop 2)))

/-- The option that an argument names in full, with or without a value attached to it. -/
def exactOption (grammar : Grammar Settings) (text : String) : Option (Argument Settings) :=
  match grammar.named? text with
  | some rule => some (.option text rule text none)
  | none =>
    match splitAtEquals text with
    | (name, some attached) =>
      (grammar.named? name).map fun rule => .option text rule name (some attached)
    | (_, none) => none

/-- An argument that begins with a dash but names no option. -/
def withoutOption (text : String) : Argument Settings :=
  if isNegativeNumber text || text.toList.contains ' ' then .plain text else .unknownOption text

/-- Tells the form of an argument that is not `--`. -/
def classify (grammar : Grammar Settings) (text : String) : Except UsageError (Argument Settings) :=
  match text.toList with
  | '-' :: second :: _ =>
    match grammar.exactOption text with
    | some argument => .ok argument
    | none =>
      if second = '-' then
        return (← grammar.longOption text).getD (withoutOption text)
      else .ok ((grammar.shortOption text).getD (withoutOption text))
  | _ => .ok (.plain text)

/-- Tells the forms of all arguments. -/
def classifyAll (grammar : Grammar Settings) :
    List String → Except UsageError (List (Argument Settings))
  | [] => .ok []
  | text :: rest =>
    if text = "--" then .ok (.separator :: rest.map .plain)
    else do
      let argument ← grammar.classify text
      return argument :: (← grammar.classifyAll rest)

end Grammar

end SkillScan
