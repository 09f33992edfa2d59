import SkillScan.CommandLine.Request
import SkillScan.Configuration.Load
import SkillScan.DailyCheck
import SkillScan.Schedule.Setup
import SkillScan.Yaml.Document

/-!
# Runs of the program

What the program does with its arguments: it scans a target, checks all installed skills, sets up the
daily check or shows how it is used. A run turns a file tree into another one, prints texts, tells about
its work beside them and ends with an exit code, unless an error that nobody expects ends it.
-/

namespace SkillScan

/-- What a run finds around it besides the file tree. -/
structure Session where
  environment : Environment
  platform : Platform
  /-- The program that interprets the scanner. -/
  interpreter : String
  now : Timestamp

/-- Why a run cannot do what it is asked for. -/
inductive RunError where
  | load (error : LoadError)
  | scan (error : ScanError)
  | setup (error : SetupError)
  | file (error : FileError)
  | home (error : HomeError)
  /-- A path leads through a link that leads back to itself. -/
  | linkLoop (path : Path)
  /-- The directory that is to receive the script has been given no path. -/
  | noInstallDir

namespace RunError

/-- The wording of the error. -/
def message : RunError → String
  | .load error => error.message
  | .scan error => error.message
  | .setup error => error.message
  | .file error => error.message
  | .home error => error.message
  | .linkLoop path => "Symlink loop from " ++ Text.quoted path.text
  | .noInstallDir => (PathError.wrongKind "list").message

/-- Whether the error is one that the user is told about in a line. -/
def isExpected : RunError → Bool
  | .load (.configuration _) | .scan (.pathNotFound _) => true
  | _ => false

end RunError

/-- What a run tells beside its output. -/
inductive Notice where
  | record (entry : LogRecord)
  | remark (words : String)
  | failure (error : RunError)

/-- A notice in writing, where `time` is written before records. -/
def Notice.text (time : String) : Notice → String
  | .record entry => entry.line time
  | .remark words => words
  | .failure error => "ERROR: " ++ error.message

/-- What a run has done. -/
structure Run where
  tree : FileTree
  /-- The texts printed, each followed by a line end. -/
  shown : List String
  /-- The notices given, each followed by a line end. -/
  notices : List Notice
  /-- The exit code, or the error that ended the run. -/
  result : Except RunError Nat

namespace Run

/-- A run in which nothing has been done but to fail. -/
def failed (tree : FileTree) (error : RunError) : Run :=
  ⟨tree, [], [], .error error⟩

/-- The run after an expected error has been told. -/
def withErrorTold (run : Run) : Run :=
  match run.result with
  | .ok _ => run
  | .error error =>
    if error.isExpected then
      { run with notices := run.notices ++ [.failure error], result := .ok 1 }
    else run

/-- A run that shows a page. -/
def showing (tree : FileTree) (page : HelpPage) : Run :=
  ⟨tree, [page.text], [], .ok 0⟩

/-- A run that tells about wrong usage. The program's page is shown whichever part is concerned. -/
def ofUsageStop (tree : FileTree) : UsageStop → Run
  | .help page => showing tree page
  | .error page error =>
    { showing tree .program with
      notices := [.remark page.usage, .remark (page.name ++ ": error: " ++ error.message)] }

/-! ## Places -/

/-- The place that a path leads to once all links are followed. -/
def resolved (tree : FileTree) (text : String) : Except RunError Path := do
  if text.toList.contains '\x00' then throw (.file .nulInPath)
  let path := tree.canonical (.ofText text)
  match tree.lookup path.text with
  | .error (.system .linkLoop _) => throw (.linkLoop path)
  | _ => return path

/-! ## The three tasks -/

/-- The report of a scan as it is printed. -/
def printed (format : ReportFormat) (report : Report) : String :=
  match format with
  | .text => report.text
  | .json => report.payload

/-- Writes a report to a file, for which directories are made. -/
def writeReport (tree : FileTree) (output : String) (report : Report) : FileTree.Change :=
  (tree.ensureDirectories (Path.ofText output).parent).andThen fun tree =>
    .ofStep tree (tree.write (.ofText output) (Text.encode report.payload))

/-- The notice about a report that has been written. -/
def writtenNotice (output : String) : Notice :=
  .remark ("\nReport written to " ++ output)

/-- Shows a report and writes it to the output file, if there is one. -/
def ofReport (tree : FileTree) (format : ReportFormat) (output : Option String) (records : List LogRecord)
    (report : Report) : Run :=
  let shown := [printed format report]
  let notices := records.map Notice.record
  match output with
  | none | some "" => ⟨tree, shown, notices, .ok report.exitCode⟩
  | some output =>
    let change := writeReport tree output report
    match change.error with
    | some error => ⟨change.tree, shown, notices, .error (.file error)⟩
    | none => ⟨change.tree, shown, notices ++ [writtenNotice output], .ok report.exitCode⟩

/-- Scans a target. -/
def scan (tree : FileTree) (least : LogLevel) (target : String) (format : ReportFormat)
    (output : Option String) : Run :=
  let scanner := Scanner.builtin
  match resolved tree target with
  | .error error => failed tree error
  | .ok root =>
    match scanner.blocks tree root with
    | .error error => failed tree (.scan error)
    | .ok blocks =>
      let result : ScanResult := ⟨root, Scanner.gather blocks⟩
      ofReport tree format output (scanner.records least root blocks)
        (result.report scanner.catalog.version)

/-- Checks the installed skills. -/
def dailyCheck (tree : FileTree) (least : LogLevel) (configuration : Configuration) : Run :=
  let checked := DailyCheck.run .builtin tree least configuration.skillsRoot
  let result : Except RunError Nat :=
    match checked.error with
    | some error => .error (.scan error)
    | none => .ok 0
  ⟨tree, checked.shown, checked.records.map Notice.record, result⟩

/-- The setup of the daily check in a directory. -/
def setupIn (session : Session) (tree : FileTree) (configuration : Configuration)
    (installDir : Option String) : Except RunError Setup := do
  let some installDir := installDir | throw .noInstallDir
  let installDir ← resolved tree installDir
  let home ← session.environment.homeDirectory.mapError .home
  return ⟨configuration, installDir, home, session.platform, session.interpreter, session.now⟩

/-- Sets up the daily check. -/
def setup (session : Session) (tree : FileTree) (least : LogLevel) (configuration : Configuration)
    (installDir : Option String) : Run :=
  match setupIn session tree configuration installDir with
  | .error error => failed tree error
  | .ok setup =>
    let done := setup.run tree
    let records := done.records.filter (least.shows ·.level)
    let result : Except RunError Nat :=
      match done.error with
      | some error => .error (.setup error)
      | none => .ok 0
    ⟨done.tree, done.shown, records.map Notice.record, result⟩

/-- Does what the configuration is needed for. -/
def configured [Yaml.Reader] (session : Session) (tree : FileTree) (request : Request)
    (task : Configuration → Run) : Run :=
  match Configuration.load session.environment tree request.configuration with
  | .error error => failed tree (.load error)
  | .ok configuration => task configuration

/-- Does what is asked for, up to an error. -/
def ofRequest [Yaml.Reader] (session : Session) (tree : FileTree) (request : Request) : Run :=
  let least := LogLevel.ofVerbosity request.verbosity
  if request.dailyCheck then configured session tree request (dailyCheck tree least)
  else
    match request.command with
    | some .dailyCheck => configured session tree request (dailyCheck tree least)
    | some (.scan target format output) => scan tree least target format output
    | some (.setup installDir) =>
      configured session tree request fun configuration =>
        setup session tree least configuration installDir
    | none => showing tree .program

/-- Runs the program with some arguments. Without any it shows how it is used. -/
def ofArguments [Yaml.Reader] (session : Session) (tree : FileTree) (arguments : List String) : Run :=
  if arguments.isEmpty then showing tree .program
  else
    match Request.ofArguments arguments with
    | .error stop => ofUsageStop tree stop
    | .ok request => (ofRequest session tree request).withErrorTold

end Run

end SkillScan
