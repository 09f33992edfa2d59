import SkillScan.Configuration.Basic
import SkillScan.FileTree.Content
import SkillScan.Log
import SkillScan.Schedule.Crontab
import SkillScan.Schedule.LaunchAgent
import SkillScan.Schedule.Script

/-!
# Setting up the daily check

The setup makes the directory of the logs, writes the script of the daily check and, on macOS, the
document of its launch agent. It shows how the check is to be scheduled on the system at hand.
-/

namespace SkillScan

/-- The systems for which the schedule options differ. -/
inductive Platform where
  | macOS
  | linux
  | other
  deriving DecidableEq

/-- The system of a given name. -/
def Platform.ofName (name : String) : Platform :=
  if name = "darwin" then .macOS
  else if "linux".toList.isPrefixOf name.toList then .linux
  else .other

/-- What a setup is made from. -/
structure Setup where
  configuration : Configuration
  /-- The directory that receives the script. -/
  installDir : Path
  home : Path
  platform : Platform
  /-- The program that interprets the scanner. -/
  interpreter : String
  now : Timestamp

/-- Why a setup has stopped. -/
inductive SetupError where
  | file (error : FileError)
  | agent (error : PropertyListError)

/-- The wording of the error. -/
def SetupError.message : SetupError → String
  | .file error => error.message
  | .agent error => error.message

/-- What a setup has done, up to its end or to the error that stopped it. -/
structure SetupRun where
  tree : FileTree
  /-- The texts shown, each to be followed by a line end. -/
  shown : List String
  /-- The files written. -/
  written : List Path
  records : List LogRecord
  error : Option SetupError

namespace Setup

/-- The place of the script. -/
def scriptPath (setup : Setup) : Path :=
  setup.installDir.child DailyScript.fileName

/-- The script. -/
def script (setup : Setup) : DailyScript :=
  ⟨setup.configuration.logDir, setup.interpreter, setup.now⟩

/-- The launch agent. -/
def agent (setup : Setup) : LaunchAgent :=
  ⟨setup.scriptPath, setup.configuration.logDir, setup.configuration.hour, setup.configuration.minute⟩

/-- The place of the launch agent's document. -/
def agentPath (setup : Setup) : Path :=
  LaunchAgent.location setup.home

/-- The mode of a file that everybody may run. -/
def executableMode : Nat := 0o755

/-- Makes the directory of the logs and writes the script. -/
def writeScript (setup : Setup) (tree : FileTree) : FileTree.Change :=
  let directories := (tree.ensureDirectories setup.configuration.logDir).andThen fun tree =>
    tree.ensureDirectories setup.installDir
  let written := directories.andThen fun tree =>
    .ofStep tree (tree.write setup.scriptPath (Text.encode setup.script.text))
  written.andThen fun tree => .ofStep tree (tree.setMode setup.scriptPath executableMode)

/-- Writes the document of the launch agent, for which a directory has been made. -/
def writeAgent (setup : Setup) (tree : FileTree) : FileTree × Option SetupError :=
  match setup.agent.document with
  | .error error => (tree, some (.agent error))
  | .ok document =>
    match tree.write setup.agentPath (Text.encode document) with
    | .error error => (tree, some (.file error))
    | .ok tree => (tree, none)

/-- A record about a file that has been written. -/
def record (path : Path) : LogRecord :=
  ⟨.info, "hardhat.schedule", "Wrote " ++ path.text⟩

/-- The texts shown once the script has been written. -/
def opening (setup : Setup) : List String :=
  ["Created " ++ setup.scriptPath.text, "", "Schedule options:"]

/-- The texts shown at the end. -/
def closing (setup : Setup) : List String :=
  ["", "Logs will be saved to: " ++ setup.configuration.logDir.text,
    "To run a check now: " ++ setup.scriptPath.text]

/-- The crontab entry as it is shown. -/
def crontabLine (setup : Setup) : String :=
  "  " ++ Crontab.entry setup.scriptPath setup.configuration.hour setup.configuration.minute

/-- The schedule options on macOS. -/
def macOSOptions (setup : Setup) : List String := [
  "macOS (launchd): created " ++ setup.agentPath.text,
  "  Activate with: launchctl load " ++ setup.agentPath.text,
  "macOS (cron): add this line with `crontab -e`:",
  setup.crontabLine]

/-- The schedule options on Linux. -/
def linuxOptions (setup : Setup) : List String := [
  "Linux (cron): add this line with `crontab -e`:",
  setup.crontabLine]

/-- The time of the daily check in hours and minutes. -/
def clockText (setup : Setup) : String :=
  Text.signedZeroPadded 2 setup.configuration.hour ++ ":" ++
    Text.signedZeroPadded 2 setup.configuration.minute

/-- The schedule options on other systems. -/
def otherOptions (setup : Setup) : List String := [
  "Windows (Task Scheduler):",
  "  1. Open Task Scheduler and choose Create Basic Task",
  "  2. Name: \"OpenClaw Hard Hat Daily Check\"",
  "  3. Trigger: Daily at " ++ setup.clockText,
  "  4. Action: Start a program: " ++ setup.interpreter,
  "     Arguments: -m hardhat --daily-check"]

/-- Carries out the setup once the script has been written. -/
def schedule (setup : Setup) (tree : FileTree) : SetupRun :=
  match setup.platform with
  | .linux =>
    ⟨tree, setup.opening ++ setup.linuxOptions ++ setup.closing, [setup.scriptPath],
      [record setup.scriptPath], none⟩
  | .other =>
    ⟨tree, setup.opening ++ setup.otherOptions ++ setup.closing, [setup.scriptPath],
      [record setup.scriptPath], none⟩
  | .macOS =>
    let directory := tree.ensureDirectories setup.agentPath.parent
    match directory.error with
    | some error =>
      ⟨directory.tree, setup.opening, [setup.scriptPath], [record setup.scriptPath],
        some (.file error)⟩
    | none =>
      match setup.writeAgent directory.tree with
      | (tree, some error) =>
        ⟨tree, setup.opening, [setup.scriptPath], [record setup.scriptPath], some error⟩
      | (tree, none) =>
        ⟨tree, setup.opening ++ setup.macOSOptions ++ setup.closing,
          [setup.scriptPath, setup.agentPath], [record setup.scriptPath, record setup.agentPath],
          none⟩

/-- Carries out the setup. -/
def run (setup : Setup) (tree : FileTree) : SetupRun :=
  let change := setup.writeScript tree
  match change.error with
  | some error => ⟨change.tree, [], [], [], some (.file error)⟩
  | none => setup.schedule change.tree

end Setup

end SkillScan
