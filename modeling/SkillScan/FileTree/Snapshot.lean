import SkillScan.FileTree.Difference

/-!
# Snapshots of the disk

A snapshot is a file tree that holds those parts of the disk that have been asked for. Taking one reads
the disk, and the steps from one tree to another can be carried out on the disk; both lie outside the
program proper, which turns trees into trees.
-/

namespace SkillScan

/-- Reads the disk into a tree. -/
abbrev Snapshot := StateT FileTree IO

namespace Snapshot

/-- The path to a location as it is handed to the system. -/
def pathText (location : Location) : String :=
  (FileTree.pathTo location).text

/-- The node of a file on the disk. A file that cannot be read is one whose reading is refused. -/
def fileNode (location : Location) : IO Node := do
  let .ok content ← (IO.FS.readBinFile (pathText location)).toBaseIO
    | return .file [] FileTree.newFileMode (.refused true)
  return .file content.toList FileTree.newFileMode .granted

/-- The node of a link on the disk. A link that leads nowhere leads to a name that no file can have. -/
def linkNode (location : Location) : IO Node := do
  let .ok target ← (IO.FS.realPath (pathText location)).toBaseIO | return .link "\x00"
  return .link target.toString

/-- The node of an entry on the disk, without the content of a directory. -/
def entryNode (location : Location) : IO Node := do
  let found ← (System.mkFilePath [pathText location]).symlinkMetadata
  match found.type with
  | .symlink => linkNode location
  | .dir => return .emptyDirectory
  | .file | .other => fileNode location

/-- What has been taken in at a location. -/
def taken? (location : Location) : Snapshot (Option Node) := do
  return (← get).root.find? location

/-- Takes in that a directory may not be searched. -/
def closeOff (location : Location) : Snapshot Unit := do
  if let some (.directory entries access) ← taken? location then
    modify (·.putAt location (.directory entries { access with searchable := false }))

/-- Takes in an entry unless it is there already. -/
def enter (location : Location) : Snapshot Unit := do
  if (← taken? location).isNone then
    match ← (entryNode location).toBaseIO with
    | .ok node => modify (·.putAt location node)
    | .error (.permissionDenied _ _ _) => closeOff location.dropLast
    | .error _ => return

/-- Takes in everything on the way of some steps, and tells where they lead. -/
partial def visit (here : Location) : List String → Snapshot (Option Location)
  | [] => return some here
  | "." :: rest | "" :: rest => visit here rest
  | ".." :: rest => visit here.dropLast rest
  | name :: rest => do
    enter (here ++ [name])
    match ← taken? (here ++ [name]), rest with
    | none, _ | some (.file _ _ _), _ :: _ => return none
    | some (.link target), rest => visit [] (FileTree.stepsOf target ++ rest)
    | some _, rest => visit (here ++ [name]) rest

/-- Takes in what a path leads to, but nothing that a directory holds. -/
def visitPath (path : Path) : Snapshot (Option Location) := do
  visit ((← get).origin path.text) (FileTree.stepsOf path.text)

/-- Takes in what a directory holds. Links are taken in together with what they lead to. -/
partial def takeIn (location : Location) : Snapshot Unit := do
  let .ok entries ← ((System.mkFilePath [pathText location]).readDir.toBaseIO : IO _)
    | modify (·.putAt location (.directory .empty ⟨.refused true, true⟩))
  for entry in entries do
    let inside := location ++ [entry.fileName]
    discard (visit location [entry.fileName])
    if (← taken? inside).any Node.isDirectory then takeIn inside

/-- Takes in what a path leads to, with everything in it if it is a directory. -/
def takeInPath (path : Path) : Snapshot Unit := do
  if let some place ← visitPath path then
    if (← taken? place).any Node.isDirectory then takeIn place

/-- The rights that a mode grants to one class of users. -/
def rightsOf (digit : Nat) : IO.AccessRight :=
  ⟨digit / 4 % 2 = 1, digit / 2 % 2 = 1, digit % 2 = 1⟩

/-- Takes a step on the disk. -/
def carryOut : TreeStep → IO Unit
  | .makeDirectory location => IO.FS.createDirAll (pathText location)
  | .writeFile location content => IO.FS.writeBinFile (pathText location) ⟨content.toArray⟩
  | .setMode location mode =>
    IO.setAccessRights (pathText location)
      ⟨rightsOf (mode / 64), rightsOf (mode / 8), rightsOf mode⟩

end Snapshot

end SkillScan
