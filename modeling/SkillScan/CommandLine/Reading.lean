import SkillScan.CommandLine.Grammar

/-!
# Reading arguments

Arguments are read from left to right. An option changes the settings, an operand is taken where one is
still wanted, and everything else is left over. Asking for help and wrong usage end the reading at once.
-/

namespace SkillScan

/-- What ends the reading of arguments early. -/
inductive ReadingHalt where
  | help
  | usage (error : UsageError)

/-- What arguments have been read as. -/
structure Reading (Settings : Type) where
  settings : Settings
  /-- The operands taken; none as long as they are still wanted. -/
  operands : List String
  /-- The arguments that nothing could be made of. -/
  leftOver : List String

namespace Reading

variable {Settings : Type}

/-- The reading with more arguments left over. -/
def leave (reading : Reading Settings) (texts : List String) : Reading Settings :=
  { reading with leftOver := reading.leftOver ++ texts }

end Reading

/-- The options that one argument names: letters after one dash may name several. -/
structure OptionCluster (Settings : Type) where
  /-- All options but the last, none of which takes a value. -/
  front : List (OptionRule Settings)
  last : OptionRule Settings
  /-- The value attached to the last option. -/
  attached : Option String

namespace OptionRule

variable {Settings : Type}

/-- Lets an option act. A value outside its choices is refused; one that counts as none is not looked
at. -/
def act (rule : OptionRule Settings) (value : Option String) (settings : Settings) :
    Except ReadingHalt Settings :=
  match rule.effect with
  | .help => .error .help
  | .switch apply => .ok (apply settings)
  | .value choices apply =>
    match value with
    | none => .ok (apply none settings)
    | some text =>
      if choices.isEmpty || choices.contains text then .ok (apply (some text) settings)
      else .error (.usage (.invalidChoice rule.label text choices))

end OptionRule

namespace Grammar

variable {Settings : Type}

/-- Whether the name of an option has one dash. -/
def isShortName (name : String) : Bool :=
  name.toList[1]? != some '-'

/-- The options of an argument with a text attached to it. After an option of one letter that takes no
value, the text goes on with the letter of another option. -/
def clusterOf (grammar : Grammar Settings) (rule : OptionRule Settings) (isShort : Bool) :
    (attached : List Char) → Except UsageError (OptionCluster Settings)
  | [] => if rule.takesValue then .ok ⟨[], rule, some ""⟩ else .error (.valueUnwanted rule.label "")
  | letter :: more =>
    let text := String.ofList (letter :: more)
    if rule.takesValue then .ok ⟨[], rule, some text⟩
    else
      match grammar.named? (String.ofList ['-', letter]), isShort with
      | some next, true =>
        if more.isEmpty then .ok ⟨[rule], next, none⟩
        else do
          let others ← grammar.clusterOf next true more
          return { others with front := rule :: others.front }
      | _, _ => .error (.valueUnwanted rule.label text)

/-- The options of an argument. -/
def cluster (grammar : Grammar Settings) (rule : OptionRule Settings) (name : String) :
    (attached : Option String) → Except UsageError (OptionCluster Settings)
  | none => .ok ⟨[], rule, none⟩
  | some text => grammar.clusterOf rule (isShortName name) text.toList

/-- The value that an attached text stands for. Two dashes count as none. -/
def attachedValue (text : String) : Option String :=
  if text = "--" then none else some text

/-- Lets the options of a cluster act, the last one with a value. -/
def act (cluster : OptionCluster Settings) (value : Option String) (reading : Reading Settings) :
    Except ReadingHalt (Reading Settings) := do
  let settings ← cluster.front.foldlM (fun settings rule => rule.act none settings) reading.settings
  return { reading with settings := ← cluster.last.act value settings }

/-- Takes a command with all that follows it. -/
def takeCommand (name : String) (choices texts : List String) (reading : Reading Settings) :
    Except ReadingHalt (Reading Settings) :=
  let command := texts.headD ""
  if choices.contains command then .ok { reading with operands := texts }
  else .error (.usage (.invalidChoice name command choices))

/-- Reads arguments whose forms have been told. -/
def readArguments (grammar : Grammar Settings) :
    List (Argument Settings) → Reading Settings → Except ReadingHalt (Reading Settings)
  | [], reading => .ok reading
  | .unknownOption text :: rest, reading => grammar.readArguments rest (reading.leave [text])
  | .option _ rule name attached :: rest, reading => do
    let cluster ← (grammar.cluster rule name attached).mapError .usage
    match cluster.attached with
    | some text => grammar.readArguments rest (← act cluster (attachedValue text) reading)
    | none =>
      if cluster.last.takesValue then
        match rest with
        | .plain text :: rest => grammar.readArguments rest (← act cluster (some text) reading)
        | _ => .error (.usage (.valueMissing cluster.last.label))
      else grammar.readArguments rest (← act cluster none reading)
  | .separator :: rest, reading =>
    match grammar.operand, reading.operands, rest with
    | .single _, [], .plain text :: rest =>
      grammar.readArguments rest { reading with operands := [text] }
    | .command name choices, [], .plain text :: rest =>
      takeCommand name choices ("--" :: text :: rest.map (·.text)) reading
    | _, _, rest => grammar.readArguments rest (reading.leave ["--"])
  | .plain text :: rest, reading =>
    match grammar.operand, reading.operands, rest with
    | .single _, [], .separator :: rest =>
      grammar.readArguments rest { reading with operands := [text] }
    | .single _, [], rest => grammar.readArguments rest { reading with operands := [text] }
    | .command name choices, [], rest =>
      takeCommand name choices (text :: rest.map (·.text)) reading
    | _, _, rest => grammar.readArguments rest (reading.leave [text])

/-- Reads arguments. Only a command may be missing among the operands. -/
def read (grammar : Grammar Settings) (initial : Settings) (texts : List String) :
    Except ReadingHalt (Reading Settings) := do
  let arguments ← (grammar.classifyAll texts).mapError .usage
  let reading ← grammar.readArguments arguments ⟨initial, [], []⟩
  match grammar.operand, reading.operands with
  | .single name, [] => throw (.usage (.operandMissing name))
  | _, _ => return reading

end Grammar

end SkillScan
