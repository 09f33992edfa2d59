import SkillScan.Text.Utf8

/-!
# File trees

A file tree as a value: files with their bytes, directories with their entries and symbolic links. A
location names a place in the tree by the names of the directories on the way, none of them a link.
-/

namespace SkillScan

/-- Whether the content of a file or the list of what a directory holds may be read. -/
inductive Access where
  | granted
  /-- Reading fails; `named` tells whether the error names the path. -/
  | refused (named : Bool)
  deriving DecidableEq

/-- What a directory may be used for. -/
structure DirectoryAccess where
  /-- Whether its entries may be listed. -/
  listing : Access
  /-- Whether paths may lead on from it to its entries. -/
  searchable : Bool
  deriving DecidableEq

/-- The access to a directory that may be used for everything. -/
def DirectoryAccess.granted : DirectoryAccess := ⟨.granted, true⟩

mutual

/-- A file, a directory or a symbolic link. -/
inductive Node where
  | file (content : List UInt8) (mode : Nat) (access : Access)
  | directory (entries : Entries) (access : DirectoryAccess)
  | link (target : String)

/-- The entries of a directory, in the order in which the directory lists them. -/
inductive Entries where
  | empty
  | entry (name : String) (node : Node) (rest : Entries)

end

/-- The names of the directories and the entry that lead to a place in a tree. -/
abbrev Location := List String

namespace Entries

/-- The entry of a given name. -/
def find? (name : String) : Entries → Option Node
  | .empty => none
  | .entry other node rest => if other = name then some node else rest.find? name

/-- The entries with one of them replaced, or added at the end if there is none of its name. -/
def put (name : String) (node : Node) : Entries → Entries
  | .empty => .entry name node .empty
  | .entry other old rest =>
    if other = name then .entry name node rest else .entry other old (rest.put name node)

/-- The entries without one of them. -/
def erase (name : String) : Entries → Entries
  | .empty => .empty
  | .entry other node rest => if other = name then rest else .entry other node (rest.erase name)

/-- The entries as a list. -/
def toList : Entries → List (String × Node)
  | .empty => []
  | .entry name node rest => (name, node) :: rest.toList

end Entries

namespace Node

/-- A directory without entries. -/
def emptyDirectory : Node := .directory .empty .granted

/-- Whether the node is a directory itself and no link to one. -/
def isDirectory : Node → Bool
  | .directory _ _ => true
  | _ => false

/-- The node at a location. -/
def find? : Node → Location → Option Node
  | node, [] => some node
  | .directory entries _, name :: rest => (entries.find? name).bind (·.find? rest)
  | .file _ _ _, _ :: _ | .link _, _ :: _ => none

/-- The tree with another node at a location. Nothing changes if the way there does not exist. -/
def put : Node → Location → (new : Node) → Node
  | _, [], new => new
  | .directory entries access, name :: rest, new =>
    match entries.find? name, rest with
    | some child, rest => .directory (entries.put name (child.put rest new)) access
    | none, [] => .directory (entries.put name new) access
    | none, _ :: _ => .directory entries access
  | .file content mode access, _ :: _, _ => .file content mode access
  | .link target, _ :: _, _ => .link target

/-- The tree without the node at a location. -/
def erase : Node → Location → Node
  | .directory entries access, [name] => .directory (entries.erase name) access
  | .directory entries access, name :: rest =>
    match entries.find? name with
    | some child => .directory (entries.put name (erase child rest)) access
    | none => .directory entries access
  | node, _ => node

mutual

/-- The number of links in a tree. -/
def linkCount : Node → Nat
  | .file _ _ _ => 0
  | .directory entries _ => linkCountIn entries
  | .link _ => 1

/-- The number of links in the entries of a directory. -/
def linkCountIn : Entries → Nat
  | .empty => 0
  | .entry _ node rest => linkCount node + linkCountIn rest

end

end Node

/-- A tree of files with a working directory in it. -/
structure FileTree where
  root : Node
  workingDirectory : Location

end SkillScan
