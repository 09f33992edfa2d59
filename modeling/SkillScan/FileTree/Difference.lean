import SkillScan.FileTree.Content

/-!
# Differences of file trees

The steps that carry one tree over into another which has come from it by making directories, writing
files and changing their modes. Nothing is ever taken away, and links stay as they are.
-/

namespace SkillScan

/-- One step from a tree to another. -/
inductive TreeStep where
  | makeDirectory (location : Location)
  | writeFile (location : Location) (content : List UInt8)
  | setMode (location : Location) (mode : Nat)
  deriving DecidableEq

namespace TreeStep

/-- The steps for a file at a location, from what was there before. -/
def forFile (location : Location) (content : List UInt8) (mode : Nat) : Option Node → List TreeStep
  | some (.file oldContent oldMode _) =>
    (if content = oldContent then [] else [.writeFile location content]) ++
      if mode = oldMode then [] else [.setMode location mode]
  | _ =>
    .writeFile location content ::
      if mode = FileTree.newFileMode then [] else [.setMode location mode]

/-- The entries of a directory, if there is one. -/
def entriesOf : Option Node → Entries
  | some (.directory entries _) => entries
  | _ => .empty

/-- The step that makes a directory where there was none. -/
def forDirectory (location : Location) (before : Option Node) : List TreeStep :=
  if before.any Node.isDirectory then [] else [.makeDirectory location]

mutual

/-- The steps to a node at a location, from what was there before. -/
def toNode (location : Location) (before : Option Node) : Node → List TreeStep
  | .file content mode _ => forFile location content mode before
  | .directory entries _ =>
    forDirectory location before ++ toEntries location (entriesOf before) entries
  | .link _ => []

/-- The steps to the entries of a directory, from those that were there before. -/
def toEntries (location : Location) (before : Entries) : Entries → List TreeStep
  | .empty => []
  | .entry name node rest =>
    toNode (location ++ [name]) (before.find? name) node ++ toEntries location before rest

end

end TreeStep

/-- The steps from one tree to another, in an order in which they can be taken. -/
def FileTree.stepsTo (before after : FileTree) : List TreeStep :=
  TreeStep.toNode [] (some before.root) after.root

end SkillScan
