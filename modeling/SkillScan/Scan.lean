import SkillScan.Log
import SkillScan.Matching
import SkillScan.Report
import SkillScan.Signature.Builtin
import SkillScan.Signature.SafeContext
import SkillScan.Walk

/-!
# Scans

A scan walks a target and matches every line of every wanted file. Each visit of the walk contributes a
block of findings: a file that can be read those of its lines, and a file or directory that cannot be
read one warning. The blocks stand in the order of the visits.
-/

namespace SkillScan

/-- Why a target cannot be scanned. -/
inductive ScanError where
  | pathNotFound (path : Path)
  | file (error : FileError)

/-- The wording of the error. -/
def ScanError.message : ScanError → String
  | .pathNotFound path => "Path not found: " ++ path.text
  | .file error => error.message

/-- What scans are made with. A scanner keeps nothing from one scan to the next. -/
structure Scanner where
  catalog : Catalog
  policy : Policy
  selection : Selection

/-- A finished scan. -/
structure ScanResult where
  target : Path
  tally : Tally

namespace ScanResult

/-- The report on a scan with rules of some version. -/
def report (result : ScanResult) (catalogVersion : String) : Report :=
  .ofFindings result.tally.findings result.tally.statistics result.target.text catalogVersion

end ScanResult

namespace Scanner

/-- The suffixes of files that are scanned by default. -/
def defaultExtensions : List String :=
  [".js", ".ts", ".py", ".sh", ".bash", ".json", ".md"]

/-- The names of directories that are passed over by default. -/
def defaultExcludedNames : List String := ["node_modules"]

/-- A scanner with given rules. A catalog without rules gives way to the built-in one, and suffixes are
compared in lower case. -/
def make (catalog : Catalog) (policy : Policy) (extensions excludedNames : List String) : Scanner where
  catalog := if catalog.size = 0 then Signature.builtin else catalog
  policy := policy
  selection := ⟨extensions.map Text.lowercase, excludedNames⟩

/-- The scanner with the built-in rules. -/
def builtin : Scanner :=
  make Signature.builtin Signature.builtinPolicy defaultExtensions defaultExcludedNames

/-- What findings advise about files that cannot be read. -/
def checkPermissions : String := "Check file permissions"

/-- How findings name a path: by the way from the target, or by its name if the target is a file. -/
def shownPath (root : Path) (rootIsFile : Bool) (path : Path) : String :=
  if rootIsFile then path.name
  else
    match path.relativeTo? root with
    | some relative => relative.text
    | none => path.text

/-- The lines of a text. -/
def linesOf (text : String) : List String :=
  (Text.lines text.toList).map String.ofList

/-- The lines of a file, numbered from one. -/
def numbered (file : String) (lines : List String) : List NumberedLine :=
  lines.mapIdx fun index text => ⟨file, index + 1, text⟩

/-- A notice about something that cannot be read. -/
def notice (file issue : String) : Finding :=
  ⟨.warning, file, 0, issue, checkPermissions, none⟩

/-- The path that an error is about, or the target if the error names none. -/
def faultyPath (root : Path) : FileError → Path
  | .system _ (some path) => if path = "" then root else .ofText path
  | _ => root

/-- What a visit contributes to a scan. -/
structure Block where
  /-- The lines read, unless reading failed or a directory was visited. -/
  lines : List NumberedLine
  /-- The number of files visited, one or none. -/
  files : Nat
  findings : List Finding
  /-- The records made before lines are matched. -/
  records : List LogRecord

/-- What a block adds to the counts. -/
def Block.statistics (block : Block) : Statistics :=
  ⟨block.files, block.lines.length⟩

/-- A record about a scan. -/
def record (level : LogLevel) (message : String) : LogRecord :=
  ⟨level, "hardhat.session", message⟩

/-- The block of a file whose lines have been read. -/
def readBlock (scanner : Scanner) (file : String) (lines : List String) : Block where
  lines := numbered file lines
  files := 1
  findings := (numbered file lines).flatMap fun line => line.findings scanner.catalog scanner.policy
  records := [record .debug
    ("Processing " ++ file ++ " (" ++ toString lines.length ++ " line(s))")]

/-- The block of a file that cannot be read. -/
def unreadBlock (path : Path) (file : String) (error : FileError) : Block where
  lines := []
  files := 1
  findings := [notice file ("Could not read file: " ++ error.message)]
  records := [record .warning ("Could not read " ++ path.text ++ ": " ++ error.message)]

/-- The block of a directory that cannot be listed. -/
def unlistedBlock (directory : Path) (file : String) (error : FileError) : Block where
  lines := []
  files := 0
  findings := [notice file ("Could not read directory: " ++ error.message)]
  records := [record .warning
    ("Could not read directory " ++ directory.text ++ ": " ++ error.message)]

/-- The block of a visit. -/
def block (scanner : Scanner) (tree : FileTree) (root : Path) (rootIsFile : Bool) : Visit → Block
  | .file path =>
    match tree.readText path with
    | .ok text => scanner.readBlock (shownPath root rootIsFile path) (linesOf text)
    | .error error => unreadBlock path (shownPath root rootIsFile path) error
  | .unlistable error =>
    unlistedBlock (faultyPath root error) (shownPath root rootIsFile (faultyPath root error)) error

/-- The blocks of a scan, in the order of the walk. -/
def blocks (scanner : Scanner) (tree : FileTree) (root : Path) : Except ScanError (List Block) := do
  let found ← (tree.exists root).mapError .file
  unless found do
    throw (.pathNotFound root)
  let rootIsFile ← (tree.isFile root).mapError .file
  let visits ← (walk scanner.selection tree root).mapError .file
  return visits.map (scanner.block tree root rootIsFile)

/-- What the blocks of a scan add up to. -/
def gather (blocks : List Block) : Tally where
  statistics := blocks.foldr (fun block others => block.statistics.plus others) .zero
  findings := blocks.flatMap (·.findings)

/-- Scans a target. -/
def scan (scanner : Scanner) (tree : FileTree) (root : Path) : Except ScanError ScanResult := do
  return ⟨root, gather (← scanner.blocks tree root)⟩

/-! ## Records -/

/-- The records about suppressed matches on a line. -/
def suppressionRecords (scanner : Scanner) (line : NumberedLine) : List LogRecord :=
  (line.suppressed scanner.catalog scanner.policy).map fun (rule, reason) =>
    ⟨.debug, "hardhat.matcher",
      "Suppressed " ++ rule.name ++ " at " ++ line.file ++ ":" ++ toString line.number ++
        " (" ++ reason ++ ")"⟩

/-- The records of a block, if only levels from `least` on are shown. -/
def blockRecords (scanner : Scanner) (least : LogLevel) (block : Block) : List LogRecord :=
  (block.records ++
    if least.shows .debug then block.lines.flatMap scanner.suppressionRecords else []).filter
      (least.shows ·.level)

/-- The record at the beginning of a scan. -/
def beginRecord (scanner : Scanner) (root : Path) : LogRecord :=
  record .info ("Scanning " ++ root.text ++ " (rule catalog " ++ scanner.catalog.version ++ ")")

/-- The record at the end of a scan. -/
def endRecord (root : Path) (tally : Tally) : LogRecord :=
  record .info
    ("Finished " ++ root.text ++ ": " ++ toString tally.statistics.files ++ " file(s), " ++
      toString tally.statistics.lines ++ " line(s), " ++ toString tally.findings.length ++
      " finding(s)")

/-- The records of a scan from its blocks. -/
def records (scanner : Scanner) (least : LogLevel) (root : Path) (blocks : List Block) :
    List LogRecord :=
  [scanner.beginRecord root].filter (least.shows ·.level) ++
    blocks.flatMap (scanner.blockRecords least) ++
    [endRecord root (gather blocks)].filter (least.shows ·.level)

end Scanner

end SkillScan
