import SkillScan.Scan

/-!
# The daily check

Every skill installed under a common root is scanned on its own. The check announces each skill, shows
its report and ends with the number of skills checked.
-/

namespace SkillScan

/-- The report on one installed skill. -/
structure SkillCheck where
  name : String
  path : Path
  report : Report

/-- What a daily check has done, up to its end or to the error that stopped it. -/
structure DailyRun where
  /-- The texts shown, each to be followed by a line end. -/
  shown : List String
  checks : List SkillCheck
  records : List LogRecord
  error : Option ScanError

namespace DailyCheck

/-- A record about a daily check. -/
def record (message : String) : LogRecord :=
  ⟨.info, "hardhat.daily", message⟩

/-- The directories among the entries of a path. -/
def subdirectories (tree : FileTree) (root : Path) :
    List String → Except FileError (List (String × Path))
  | [] => .ok []
  | name :: rest => do
    let path := root.child name
    let isDirectory ← tree.isDirectory path
    let others ← subdirectories tree root rest
    return if isDirectory && name.toList.head? != some '.' then (name, path) :: others else others

/-- The skills under a root: its subdirectories that are not hidden, in the order of their names. There
are none where the root is no directory. -/
def skills (tree : FileTree) (root : Path) : Except FileError (List (String × Path)) := do
  if ← tree.isDirectory root then
    let found ← subdirectories tree root (← tree.entryNames root)
    return found.mergeSort fun first second => first.1 ≤ second.1
  else return []

/-- The text that announces a skill. -/
def announcement (name : String) : String :=
  "\n--- Checking: " ++ name ++ " ---"

/-- The text that begins a daily check. -/
def opening : String := "Running daily security check..."

/-- The text that ends a daily check. -/
def closing (count : Nat) : String :=
  "\nSkills checked: " ++ toString count

/-- What one skill adds to a daily check. -/
def checkSkill (scanner : Scanner) (tree : FileTree) (least : LogLevel) (name : String) (path : Path) :
    DailyRun :=
  let announced := [record ("Daily check of " ++ path.text)].filter (least.shows ·.level)
  match scanner.blocks tree path with
  | .error error => ⟨[announcement name], [], announced, some error⟩
  | .ok blocks =>
    let result : ScanResult := ⟨path, Scanner.gather blocks⟩
    let report := result.report scanner.catalog.version
    ⟨[announcement name, report.text], [⟨name, path, report⟩],
      announced ++ scanner.records least path blocks, none⟩

/-- One run followed by another, which takes place only if the first was not stopped. -/
def followedBy (first : DailyRun) (next : Unit → DailyRun) : DailyRun :=
  match first.error with
  | some _ => first
  | none =>
    let next := next ()
    ⟨first.shown ++ next.shown, first.checks ++ next.checks, first.records ++ next.records, next.error⟩

/-- The checks of some skills, one after another. -/
def checkSkills (scanner : Scanner) (tree : FileTree) (least : LogLevel) :
    List (String × Path) → DailyRun
  | [] => ⟨[], [], [], none⟩
  | (name, path) :: rest =>
    followedBy (checkSkill scanner tree least name path) fun _ => checkSkills scanner tree least rest

/-- The records about the root itself. -/
def rootRecords (tree : FileTree) (least : LogLevel) (root : Path) : List LogRecord :=
  match tree.isDirectory root with
  | .ok false =>
    [record ("Skills root " ++ root.text ++ " not found; nothing to check")].filter
      (least.shows ·.level)
  | _ => []

/-- A daily check of the skills under a root. -/
def run (scanner : Scanner) (tree : FileTree) (least : LogLevel) (root : Path) : DailyRun :=
  match skills tree root with
  | .error error => ⟨[opening], [], [], some (.file error)⟩
  | .ok skills =>
    let checked := followedBy ⟨[opening], [], rootRecords tree least root, none⟩ fun _ =>
      checkSkills scanner tree least skills
    followedBy checked fun _ => ⟨[closing checked.checks.length], [], [], none⟩

end DailyCheck

end SkillScan
