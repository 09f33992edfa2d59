import SkillScan.FileTree.Content
import SkillScan.Text.Casing

/-!
# Walking a directory

A walk visits the files below a directory whose lower-cased suffix is wanted. A directory's own files
come before those of its subdirectories, and names are taken in the order of their code points. Hidden
and excluded directories are passed over and links to directories are not entered. A directory that
cannot be listed is visited as an error at the point where it would have been entered.
-/

namespace SkillScan

/-- Which files a walk visits and which directories it passes over. -/
structure Selection where
  /-- Suffixes with their dot, in lower case. -/
  extensions : List String
  /-- Names of directories that are passed over wherever they stand. -/
  excludedNames : List String

namespace Selection

/-- Whether a directory of this name is passed over. -/
def excludes (selection : Selection) (name : String) : Bool :=
  selection.excludedNames.contains name || name.toList.head? == some '.'

/-- Whether the suffix of a path is wanted. -/
def wants (selection : Selection) (path : Path) : Bool :=
  selection.extensions.contains (Text.lowercase path.suffix)

end Selection

/-- What a walk comes upon. -/
inductive Visit where
  | file (path : Path)
  | unlistable (error : FileError)

/-- An entry of a directory, with what the walk finds in it. -/
structure WalkedEntry where
  name : String
  /-- Whether the entry is a directory or a link to one. -/
  isDirectory : Bool
  /-- The visits that the entry leads to. -/
  visits : List Visit

namespace Walk

/-- The text of a path that leads on by a name. -/
def extend (base name : String) : String :=
  if base.toList.getLast? = some '/' then base ++ name else base ++ "/" ++ name

/-- Entries in the order of their names. -/
def byName (entries : List WalkedEntry) : List WalkedEntry :=
  entries.mergeSort fun first second => first.name ≤ second.name

/-- The visits of a directory with some entries: its files and then what its subdirectories hold. -/
def visitsOf (entries : List WalkedEntry) : List Visit :=
  let sorted := byName entries
  (sorted.filter (!·.isDirectory)).flatMap (·.visits) ++
    (sorted.filter (·.isDirectory)).flatMap (·.visits)

/-- The visit of a file, if it is wanted. -/
def fileVisits (selection : Selection) (directory name : String) : List Visit :=
  let path := (Path.ofText directory).child name
  if selection.wants path then [.file path] else []

/-- The error with which a directory that is reached by a written path cannot be listed, if there is one.
The system follows the path from its beginning each time. -/
def listingError? (tree : FileTree) (directory : String) : Option FileError :=
  match tree.list directory with
  | .ok _ => none
  | .error error => some error

/-- An entry of a directory that is reached by a written path. Only a directory itself is entered, and
only then `inside` is asked for. -/
def entryOf (selection : Selection) (tree : FileTree) (directory name : String) (node : Node)
    (inside : Unit → List Visit) : WalkedEntry :=
  match node with
  | .file _ _ _ => ⟨name, false, fileVisits selection directory name⟩
  | .directory _ _ => ⟨name, true, if selection.excludes name then [] else inside ()⟩
  | .link _ =>
    match tree.lookup (extend directory name) with
    | .ok (_, .directory _ _) => ⟨name, true, []⟩
    | _ => ⟨name, false, fileVisits selection directory name⟩

mutual

/-- The visits inside a node that is reached by a written path. -/
def ofNode (selection : Selection) (tree : FileTree) (path : String) : Node → List Visit
  | .file _ _ _ | .link _ => []
  | .directory entries _ =>
    match listingError? tree path with
    | some error => [.unlistable error]
    | none => visitsOf (ofEntries selection tree path entries)

/-- The entries of a directory that is reached by a written path. -/
def ofEntries (selection : Selection) (tree : FileTree) (directory : String) :
    Entries → List WalkedEntry
  | .empty => []
  | .entry name node rest =>
    entryOf selection tree directory name node
        (fun _ => ofNode selection tree (extend directory name) node) ::
      ofEntries selection tree directory rest

end

end Walk

/-- The visits of a walk from a path. A path to a file leads to that file alone. -/
def walk (selection : Selection) (tree : FileTree) (root : Path) : Except FileError (List Visit) := do
  if ← tree.isFile root then
    return if selection.wants root then [.file root] else []
  else
    match tree.lookup root.text with
    | .ok (_, node) => return Walk.ofNode selection tree root.text node
    | .error .nulInPath => throw .nulInPath
    | .error error => return [.unlistable error]

end SkillScan
