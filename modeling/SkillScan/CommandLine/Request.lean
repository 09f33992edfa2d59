import SkillScan.CommandLine.HelpPage
import SkillScan.CommandLine.Reading

/-!
# Requests

What the arguments ask the program for. The program and each of its commands have a grammar of their own;
the arguments after a command are read by the command's grammar.
-/

namespace SkillScan

/-- How the report of a scan is printed. -/
inductive ReportFormat where
  | text
  | json
  deriving DecidableEq

namespace ReportFormat

/-- The names of the formats. -/
def names : List String := ["text", "json"]

/-- The format of a given name; any other name stands for the form to be read. -/
def ofName (name : String) : ReportFormat :=
  if name = "json" then .json else .text

end ReportFormat

/-- A command of the program. -/
inductive Command where
  /-- Scans a target and, if an output file is given, writes the report to it. -/
  | scan (target : String) (format : ReportFormat) (output : Option String)
  | dailyCheck
  /-- Sets up the daily check in a directory. -/
  | setup (installDir : Option String)
  deriving DecidableEq

/-- What the program is asked for. -/
structure Request where
  /-- Whether a daily check is asked for by an option. -/
  dailyCheck : Bool
  /-- The configuration file. -/
  configuration : Option String
  /-- How often more records have been asked for. -/
  verbosity : Nat
  command : Option Command
  deriving DecidableEq

/-- Why there is nothing to be done but to show how the program is used. -/
inductive UsageStop where
  | help (page : HelpPage)
  | error (page : HelpPage) (error : UsageError)

/-- The end of a reading as part of a page. -/
def ReadingHalt.on (page : HelpPage) : ReadingHalt → UsageStop
  | .help => .help page
  | .usage error => .error page error

namespace Request

/-- A request for nothing. -/
def empty : Request := ⟨false, none, 0, none⟩

/-- The option that asks for help. -/
def helpOption {Settings : Type} : OptionRule Settings :=
  ⟨["-h", "--help"], .help⟩

/-- The name of the command that scans. -/
def scanName : String := "scan"

/-- The name of the command that checks all skills. -/
def dailyCheckName : String := "daily-check"

/-- The name of the command that sets up the daily check. -/
def setupName : String := "setup-daily-check"

/-- The grammar of the program. -/
def grammar : Grammar Request where
  options := [
    helpOption,
    ⟨["--daily-check"], .switch fun request => { request with dailyCheck := true }⟩,
    ⟨["--config"], .value [] fun path request => { request with configuration := path }⟩,
    ⟨["-v", "--verbose"],
      .switch fun request => { request with verbosity := request.verbosity + 1 }⟩]
  operand := .command "command" [scanName, dailyCheckName, setupName]

/-- The options of a scan. -/
structure ScanOptions where
  format : ReportFormat
  output : Option String

/-- The grammar of a scan. -/
def scanGrammar : Grammar ScanOptions where
  options := [
    helpOption,
    ⟨["--format"], .value ReportFormat.names fun name options =>
      { options with format := .ofName (name.getD "") }⟩,
    ⟨["--out", "--output"], .value [] fun path options => { options with output := path }⟩]
  operand := .single "path"

/-- The grammar of the daily check. -/
def dailyCheckGrammar : Grammar Unit where
  options := [helpOption]
  operand := .absent

/-- The grammar of the setup, with the directory that receives the script. -/
def setupGrammar : Grammar (Option String) where
  options := [helpOption, ⟨["--install-dir"], .value [] fun path _ => path⟩]
  operand := .absent

/-- A command with the arguments that it has no use for. -/
abbrev CommandReading := Command × List String

/-- Reads the arguments of a scan. -/
def readScan (arguments : List String) : Except UsageStop CommandReading := do
  let reading ← (scanGrammar.read ⟨.text, none⟩ arguments).mapError (·.on .scan)
  return (.scan (reading.operands.headD "") reading.settings.format reading.settings.output,
    reading.leftOver)

/-- Reads the arguments of the daily check. -/
def readDailyCheck (arguments : List String) : Except UsageStop CommandReading := do
  let reading ← (dailyCheckGrammar.read () arguments).mapError (·.on .dailyCheck)
  return (.dailyCheck, reading.leftOver)

/-- Reads the arguments of the setup. -/
def readSetup (arguments : List String) : Except UsageStop CommandReading := do
  let reading ← (setupGrammar.read (some ".") arguments).mapError (·.on .setup)
  return (.setup reading.settings, reading.leftOver)

/-- Reads a command and its arguments. -/
def readCommand (name : String) (arguments : List String) : Except UsageStop CommandReading :=
  if name = scanName then readScan arguments
  else if name = dailyCheckName then readDailyCheck arguments
  else readSetup arguments

/-- The request, provided that every argument was of use. -/
def checked (request : Request) (leftOver : List String) : Except UsageStop Request :=
  if leftOver.isEmpty then .ok request else .error (.error .program (.unrecognized leftOver))

/-- What arguments ask for. -/
def ofArguments (arguments : List String) : Except UsageStop Request := do
  let reading ← (grammar.read empty arguments).mapError (·.on .program)
  match reading.operands with
  | [] => checked reading.settings reading.leftOver
  | name :: rest =>
    let (command, leftOver) ← readCommand name rest
    checked { reading.settings with command := some command } (reading.leftOver ++ leftOver)

end Request

end SkillScan
