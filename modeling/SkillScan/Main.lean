import SkillScan.CommandLine.Run
import SkillScan.FileTree.Snapshot

/-!
# The program

The program takes a snapshot of what its arguments are about, runs on it, and then prints the texts and
carries out the changes of the run.
-/

namespace SkillScan

namespace Program

/-- The home directories of the accounts that a list of accounts names. -/
def homesOf (accounts : String) : List (String × String) :=
  (Text.lines accounts.toList).filterMap fun line =>
    match (Text.splitAt ':' line).map String.ofList with
    | name :: _ :: _ :: _ :: _ :: home :: _ => some (name, home)
    | _ => none

/-- What is known about the account that the program runs for. -/
def readEnvironment : IO Environment := do
  let home ← IO.getEnv "HOME"
  let accounts := (← (IO.FS.readFile "/etc/passwd").toBaseIO).toOption.getD ""
  return ⟨home, ← IO.getEnv "HARDHAT_CONFIG", home.getD "/", homesOf accounts⟩

/-- The system, told by a place that only this system has. -/
def readPlatform : IO Platform := do
  if ← (System.mkFilePath ["/System/Library/CoreServices"]).pathExists then return .macOS
  else if ← (System.mkFilePath ["/proc/version"]).pathExists then return .linux
  else return .other

/-- The time, which is when a new file has been changed. -/
def readClock : IO Timestamp := do
  let (_, path) ← IO.FS.createTempFile
  let changed := (← path.metadata).modified
  IO.FS.removeFile path
  return .sinceEpoch changed.sec.toNat (changed.nsec.toNat / 1000)

/-- What the program finds around it. -/
def readSession : IO Session := do
  return ⟨← readEnvironment, ← readPlatform, (← IO.appPath).toString, ← readClock⟩

/-- Takes in the skills under a root, links to them included. -/
def takeInSkills (root : Path) : Snapshot Unit := do
  Snapshot.takeInPath root
  let names := ((← get).entryNames root).toOption.getD []
  names.forM fun name => Snapshot.takeInPath (root.child name)

/-- Takes in what a setup writes to. -/
def takeInSetup (environment : Environment) (configuration : Configuration) (installDir : Path) :
    Snapshot Unit := do
  let home := environment.homeDirectory.toOption.getD (.ofText "/")
  [configuration.logDir, installDir.child DailyScript.fileName, LaunchAgent.location home].forM
    fun path => discard (Snapshot.visitPath path)

/-- Takes in what a request is about. -/
def takeInRequest (environment : Environment) (request : Request) : Snapshot Unit := do
  let file := (Configuration.requested? environment request.configuration).getD Configuration.fileName
  discard (Snapshot.visitPath (.ofText file))
  let configuration := (Configuration.load environment (← get) request.configuration).toOption
  match configuration, request.dailyCheck, request.command with
  | some configuration, true, _ | some configuration, _, some .dailyCheck =>
    takeInSkills configuration.skillsRoot
  | some configuration, _, some (.setup (some installDir)) =>
    takeInSetup environment configuration (.ofText installDir)
  | _, _, some (.scan target _ output) =>
    Snapshot.takeInPath (.ofText target)
    output.forM fun path => discard (Snapshot.visitPath (.ofText path))
  | _, _, _ => return

/-- The part of the disk that some arguments are about. -/
def readTree (environment : Environment) (arguments : List String) : IO FileTree := do
  let workingDirectory := FileTree.stepsOf (← IO.currentDir).toString
  let takeIn : Snapshot Unit := do
    discard (Snapshot.visit [] workingDirectory)
    if let .ok request := Request.ofArguments arguments then
      takeInRequest environment request
  let (_, tree) ← takeIn.run ⟨.emptyDirectory, workingDirectory⟩
  return tree

/-- Prints what a run has to say and carries out its changes. -/
def conclude (time : String) (before : FileTree) (run : Run) : IO UInt32 := do
  run.shown.forM fun text => IO.println text
  (before.stepsTo run.tree).forM Snapshot.carryOut
  run.notices.forM fun notice => IO.eprintln (notice.text time)
  match run.result with
  | .ok code => return UInt32.ofNat code
  | .error error =>
    IO.eprintln error.message
    return 1

end Program

end SkillScan

open SkillScan in
/-- Runs the program on the disk. -/
def main (arguments : List String) : IO UInt32 := do
  let session ← Program.readSession
  let tree ← Program.readTree session.environment arguments
  Program.conclude session.now.recordText tree (Run.ofArguments session tree arguments)
