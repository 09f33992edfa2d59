import SkillScan.FileTree.Resolve
import SkillScan.Text.Line

/-!
# Reading and changing a file tree

The operations that a scan and a setup need: reading files and listing directories, making directories
together with those they need, and writing files. A change that takes one step answers with the changed
tree or with an error; one that takes several tells how far it came.
-/

namespace SkillScan

namespace FileTree

/-- The error of reading what may not be read. -/
def refusal (text : String) (named : Bool) : FileError :=
  .system .denied (if named then some text else none)

/-- The bytes of a file, whether or not its access has been refused. -/
def content (tree : FileTree) (path : Path) : Except FileError (List UInt8) := do
  match ← tree.lookup path.text with
  | (_, .file content _ _) => .ok content
  | (_, _) => .error (.system .isDirectory (some path.text))

/-- The bytes of a file that may be read. -/
def read (tree : FileTree) (path : Path) : Except FileError (List UInt8) := do
  match ← tree.lookup path.text with
  | (_, .file content _ .granted) => .ok content
  | (_, .file _ _ (.refused named)) => .error (refusal path.text named)
  | (_, _) => .error (.system .isDirectory (some path.text))

/-- The text of a file's bytes, with one newline for every line end. -/
def textOf (content : List UInt8) : String :=
  String.ofList (Text.unifyNewlines (Text.decodeReplacing content))

/-- The text of a file that is being scanned. -/
def readText (tree : FileTree) (path : Path) : Except FileError String :=
  (tree.read path).map textOf

/-- The entries that a directory lists. -/
def list (tree : FileTree) (text : String) : Except FileError Entries := do
  match ← tree.lookup text with
  | (_, .directory entries access) =>
    match access.listing with
    | .granted => .ok entries
    | .refused named => .error (refusal text named)
  | (_, _) => .error (.system .notDirectory (some text))

/-- The names of the entries of a directory. -/
def entryNames (tree : FileTree) (path : Path) : Except FileError (List String) := do
  return (← tree.list path.text).toList.map (·.1)

/-- The tree with a node put at a location. -/
def putAt (tree : FileTree) (location : Location) (node : Node) : FileTree :=
  { tree with root := tree.root.put location node }

/-- The mode of a new file. -/
def newFileMode : Nat := 0o644

/-- The tree with a file that holds some bytes. A file that exists keeps its mode. -/
def write (tree : FileTree) (path : Path) (content : List UInt8) : Except FileError FileTree := do
  match ← tree.place .writing path.text with
  | .found location (.file _ mode access) => .ok (tree.putAt location (.file content mode access))
  | .found _ _ => .error (.system .isDirectory (some path.text))
  | .vacant parent name => .ok (tree.putAt (parent ++ [name]) (.file content newFileMode .granted))

/-- The tree with another mode for a file. -/
def setMode (tree : FileTree) (path : Path) (mode : Nat) : Except FileError FileTree := do
  match ← tree.lookup path.text with
  | (location, .file content _ access) => .ok (tree.putAt location (.file content mode access))
  | (_, _) => .ok tree

/-- The tree with one more directory. -/
def makeDirectory (tree : FileTree) (path : Path) : Except FileError FileTree := do
  match ← tree.place .entry path.text with
  | .found _ _ => .error (.system .entryExists (some path.text))
  | .vacant parent name => .ok (tree.putAt (parent ++ [name]) .emptyDirectory)

/-- Makes a directory where there is none. -/
def ensureDirectory (tree : FileTree) (path : Path) : Except FileError FileTree :=
  match tree.makeDirectory path with
  | .ok tree => .ok tree
  | .error error => do
    match error with
    | .system .noEntry _ | .nulInPath => .error error
    | _ => if ← tree.isDirectory path then .ok tree else .error error

/-- What several steps have led to: the tree as they leave it, and the error that stopped them. -/
structure Change where
  tree : FileTree
  error : Option FileError

/-- A change that takes one step. -/
def Change.ofStep (before : FileTree) : Except FileError FileTree → Change
  | .ok after => ⟨after, none⟩
  | .error error => ⟨before, some error⟩

/-- One change followed by another, which is made only if nothing has stopped the first. -/
def Change.andThen (change : Change) (next : FileTree → Change) : Change :=
  match change.error with
  | some _ => change
  | none => next change.tree

/-- Makes a directory where there is none, together with the directories on the way. The names of the
path are given last one first. -/
def ensureDirectoriesTo (tree : FileTree) (anchor : Anchor) : (reversedNames : List String) → Change
  | [] => .ofStep tree (tree.ensureDirectory ⟨anchor, []⟩)
  | name :: before =>
    let path : Path := ⟨anchor, (name :: before).reverse⟩
    match tree.ensureDirectory path with
    | .error (.system .noEntry _) =>
      (tree.ensureDirectoriesTo anchor before).andThen fun tree =>
        .ofStep tree (tree.ensureDirectory path)
    | step => .ofStep tree step

/-- Makes a directory where there is none, together with the directories on the way. -/
def ensureDirectories (tree : FileTree) (path : Path) : Change :=
  tree.ensureDirectoriesTo path.anchor path.names.reverse

/-- The tree without what is at a path. -/
def remove (tree : FileTree) (path : Path) : Except FileError FileTree := do
  match ← tree.place .entry path.text with
  | .found location _ => .ok { tree with root := tree.root.erase location }
  | .vacant _ _ => .error (.system .noEntry (some path.text))

/-- The tree with a link at a path. -/
def putLink (tree : FileTree) (path : Path) (target : String) : Except FileError FileTree := do
  match ← tree.place .entry path.text with
  | .found location _ => .ok (tree.putAt location (.link target))
  | .vacant parent name => .ok (tree.putAt (parent ++ [name]) (.link target))

/-- A node whose content may be read only as `access` says. -/
def restricted (access : Access) : Node → Node
  | .file content mode _ => .file content mode access
  | .directory entries current => .directory entries { current with listing := access }
  | .link target => .link target

/-- The tree with another access to what a path leads to, if it leads anywhere. -/
def restrict (tree : FileTree) (path : Path) (access : Access) : FileTree :=
  match tree.lookup path.text with
  | .ok (location, node) => tree.putAt location (restricted access node)
  | .error _ => tree

end FileTree

end SkillScan
