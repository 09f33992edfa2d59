import SkillScan.Text.Line

/-!
# Paths

A path names a place by the names to pass through, from the working directory or from the root. Empty
names and `.` are left out when a text is read as a path, while `..` is kept. Exactly two slashes at the
beginning are an anchor of their own; any other number of them is the root.
-/

namespace SkillScan

/-- Where a path begins. -/
inductive Anchor where
  | workingDirectory
  | root
  | doubleRoot
  deriving DecidableEq

/-- How an anchor is written. -/
def Anchor.text : Anchor → String
  | .workingDirectory => ""
  | .root => "/"
  | .doubleRoot => "//"

/-- A path: an anchor and the names to pass through. -/
structure Path where
  anchor : Anchor
  names : List String
  deriving DecidableEq

namespace Path

/-- The anchor of a text that is read as a path. -/
def anchorOf (text : List Char) : Anchor :=
  match (text.takeWhile (· == '/')).length with
  | 0 => .workingDirectory
  | 2 => .doubleRoot
  | _ => .root

/-- The names of a text that is read as a path. -/
def namesOf (text : List Char) : List String :=
  ((Text.splitAt '/' text).map String.ofList).filter fun name => name != "" && name != "."

/-- Reads a text as a path. -/
def ofText (text : String) : Path :=
  ⟨anchorOf text.toList, namesOf text.toList⟩

/-- The path in writing. -/
def text (path : Path) : String :=
  match path.anchor, path.names with
  | .workingDirectory, [] => "."
  | anchor, names => anchor.text ++ "/".intercalate names

/-- The path that leads on from one path by another. An anchored path does not depend on the first. -/
def join (path other : Path) : Path :=
  match other.anchor with
  | .workingDirectory => ⟨path.anchor, path.names ++ other.names⟩
  | _ => other

/-- The path that leads on to an entry of a directory. -/
def child (path : Path) (name : String) : Path :=
  path.join (ofText name)

/-- The last name, or nothing where there is none. -/
def name (path : Path) : String :=
  path.names.getLastD ""

/-- The path without its last name. -/
def parent (path : Path) : Path :=
  { path with names := path.names.dropLast }

/-- The end of a name from its last dot on. A dot at the beginning or at the end of the name does not
count. -/
def suffixOf (name : List Char) : List Char :=
  let ending := (name.reverse.takeWhile (· != '.')).reverse
  let beginning := name.take (name.length - ending.length - 1)
  if ending.isEmpty || beginning.isEmpty then [] else '.' :: ending

/-- The end of the last name from its last dot on. -/
def suffix (path : Path) : String :=
  String.ofList (suffixOf path.name.toList)

/-- The path that leads from `base` to `path`, if `path` passes through `base`. -/
def relativeTo? (path base : Path) : Option Path :=
  if path.anchor = base.anchor && base.names.isPrefixOf path.names then
    some ⟨.workingDirectory, path.names.drop base.names.length⟩
  else none

end Path

end SkillScan
