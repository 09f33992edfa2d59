import SkillScan.FileTree.Basic
import SkillScan.FileTree.Fault
import SkillScan.Path

/-!
# Following paths

A path is followed name by name. A link on the way is replaced by its target, at most forty times; a link
at the end is followed too unless the link itself is meant. No step is taken from a directory that may not
be searched. Two answers are possible besides errors: the place with its node, or the directory in which
only the last name is missing.

`canonical` follows the links of a path too, but never fails: it takes everything else as written. Where a
link leads back to itself it stops, and joins the link and what has remained of the texts on the way.
-/

namespace SkillScan

/-- Where a path leads. -/
inductive Place where
  | found (location : Location) (node : Node)
  /-- All but the last name exists. -/
  | vacant (parent : Location) (name : String)

/-- Whether a step may be taken from a directory. A slash at the end asks for nothing in it. -/
def DirectoryAccess.admits (access : DirectoryAccess) (step : String) : Bool :=
  access.searchable || step = ""

namespace FileTree

/-- The most links that are followed on the way of one path. -/
def maxLinks : Nat := 40

/-- The most bytes of one name. -/
def maxNameBytes : Nat := 255

/-- The most bytes of a path, the byte that closes it included. -/
def maxPathBytes : Nat := 4096

/-- What a place is looked for. -/
inductive Purpose where
  /-- What the path leads to, links followed. -/
  | content
  /-- The entry of the last name, which may be a link. -/
  | entry
  /-- A file to write to, which may be missing. -/
  | writing
  deriving DecidableEq

/-- The steps that a written path asks for. A slash at the end is a step without a name. -/
def stepsOf (text : String) : List String :=
  let names := ((Text.splitAt '/' text.toList).map String.ofList).filter (· != "")
  if text.toList.getLast? = some '/' then names ++ [""] else names

/-- Whether a step stays in the directory, which must be one. -/
def staysHere (step : String) : Bool :=
  step = "." || step = ""

/-- Whether a written path begins at the root. -/
def isAnchored (text : String) : Bool :=
  text.toList.head? = some '/'

/-- Follows steps from a directory up to the next link, which `viaLink` takes over with the steps that
lead on from its target. No file is written to by a name with a slash behind it. -/
def passAlong (root : Node) (purpose : Purpose)
    (viaLink : Location → List String → Except Fault Place) :
    Location → List String → Except Fault Place
  | here, [] =>
    match root.find? here with
    | some node => .ok (.found here node)
    | none => .error .noEntry
  | here, step :: rest =>
    match root.find? here with
    | some (.directory entries access) =>
      if !access.admits step then .error .denied
      else if staysHere step then passAlong root purpose viaLink here rest
      else if step = ".." then passAlong root purpose viaLink here.dropLast rest
      else if purpose = .writing && rest = [""] then .error .isDirectory
      else if step.utf8ByteSize > maxNameBytes then .error .nameTooLong
      else
        match entries.find? step with
        | none => if rest.isEmpty then .ok (.vacant here step) else .error .noEntry
        | some (.link target) =>
          if rest.isEmpty && purpose = .entry then .ok (.found (here ++ [step]) (.link target))
          else viaLink (if isAnchored target then [] else here) (stepsOf target ++ rest)
        | some _ => passAlong root purpose viaLink (here ++ [step]) rest
    | _ => .error .notDirectory

/-- Follows steps from a directory through a limited number of links. -/
def follow (root : Node) (purpose : Purpose) :
    (links : Nat) → Location → List String → Except Fault Place
  | 0 => passAlong root purpose fun _ _ => .error .linkLoop
  | links + 1 => passAlong root purpose (follow root purpose links)

/-- Where a written path begins. -/
def origin (tree : FileTree) (text : String) : Location :=
  if isAnchored text then [] else tree.workingDirectory

/-- Follows a written path. -/
def place (tree : FileTree) (purpose : Purpose) (text : String) : Except FileError Place :=
  if text.toList.contains '\x00' then .error .nulInPath
  else if text.utf8ByteSize ≥ maxPathBytes then .error (.system .nameTooLong (some text))
  else
    match follow tree.root purpose maxLinks (tree.origin text) (stepsOf text) with
    | .ok place => .ok place
    | .error fault => .error (.system fault (some text))

/-- The location and node that a written path leads to. -/
def lookup (tree : FileTree) (text : String) : Except FileError (Location × Node) := do
  match ← tree.place .content text with
  | .found location node => .ok (location, node)
  | .vacant _ _ => .error (.system .noEntry (some text))

/-- Whether a path leads to a node of some kind. Errors that mean that there is nothing count as no. -/
def leadsTo (tree : FileTree) (kind : Node → Bool) (path : Path) : Except FileError Bool :=
  match tree.lookup path.text with
  | .ok (_, node) => .ok (kind node)
  | .error error => if error.isAbsence then .ok false else .error error

/-- Whether there is anything at a path. -/
def «exists» (tree : FileTree) (path : Path) : Except FileError Bool :=
  tree.leadsTo (fun _ => true) path

/-- Whether a path leads to a file. -/
def isFile (tree : FileTree) (path : Path) : Except FileError Bool :=
  tree.leadsTo (fun node => !node.isDirectory) path

/-- Whether a path leads to a directory. -/
def isDirectory (tree : FileTree) (path : Path) : Except FileError Bool :=
  tree.leadsTo Node.isDirectory path

/-! ## Canonical paths -/

/-- The path to a location. -/
def pathTo (location : Location) : Path :=
  ⟨.root, location⟩

/-- The target of the link that a path leads to, if it leads to one. -/
def linkAt? (tree : FileTree) (path : Path) : Option String :=
  match tree.place .entry path.text with
  | .ok (.found _ (.link target)) => some target
  | _ => none

/-- The names between the slashes of a text, empty ones included. A slash at the beginning is left out. -/
def piecesOf (text : String) : List String :=
  let names := if isAnchored text then text.toList.tail else text.toList
  (Text.splitAt '/' names).map String.ofList

/-- The path that leads on by pieces of a text. Pieces that begin with a slash lead on from the root. -/
def joinPieces (path : Path) (pieces : List String) : Path :=
  path.join (.ofText ("/".intercalate pieces))

/-- The path to the directory around what a path without links leads to. -/
def stepUp (path : Path) : Path :=
  if path.anchor = .workingDirectory && path.names.all (· == "..") then
    { path with names := ".." :: path.names }
  else path.parent

/-- The path from the root on, where steps that lead upwards take back the step before. -/
def fromRoot (tree : FileTree) (path : Path) : Path :=
  let walk (names : List String) : List String :=
    path.names.foldl (fun names name => if name = ".." then names.dropLast else names ++ [name]) names
  match path.anchor with
  | .workingDirectory => pathTo (walk tree.workingDirectory)
  | anchor => ⟨anchor, walk []⟩

/-- A path whose links have been followed. -/
inductive Canonical where
  | reached (path : Path)
  /-- The path from a link that leads back to itself, with the steps that remained as written. -/
  | stuck (path : Path)

/-- The path itself. -/
def Canonical.path : Canonical → Path
  | .reached path | .stuck path => path

/-- The links that have been met, by the paths to them, and where they lead. A link whose target is still
being followed leads nowhere yet. -/
abbrev MetLinks := List (Path × Option Path)

/-- A way of following the target of a link that stands in the directory of a path. -/
abbrev LinkFollower := (here : Path) → MetLinks → (target : String) → Canonical × MetLinks

/-- Follows pieces from the directory of a path; `follower` follows the links that have not been met. -/
def resolveAlong (tree : FileTree) (follower : LinkFollower) :
    (here : Path) → MetLinks → List String → Canonical × MetLinks
  | here, met, [] => (.reached here, met)
  | here, met, step :: rest =>
    if staysHere step then resolveAlong tree follower here met rest
    else if step = ".." then resolveAlong tree follower (stepUp here) met rest
    else
      let there : Path := { here with names := here.names ++ [step] }
      match tree.linkAt? there, met.lookup there with
      | none, _ => resolveAlong tree follower there met rest
      | some _, some (some known) => resolveAlong tree follower known met rest
      | some _, some none => (.stuck (joinPieces there rest), met)
      | some target, none =>
        match follower here ((there, none) :: met) target with
        | (.reached known, met) => resolveAlong tree follower known ((there, some known) :: met) rest
        | (.stuck path, met) => (.stuck (joinPieces path rest), met)

/-- Follows pieces from the directory of a path, through a limited number of links within one another. -/
def resolveWithin (tree : FileTree) :
    (depth : Nat) → (here : Path) → MetLinks → List String → Canonical × MetLinks
  | 0 => resolveAlong tree fun here met _ => (.stuck here, met)
  | depth + 1 =>
    resolveAlong tree fun here met target =>
      resolveWithin tree depth (if isAnchored target then pathTo [] else here) met (piecesOf target)

/-- A bound on the number of links that stand within one another. A link may be met on its way from the root
and on ways from the working directory and the directories around it. -/
def linkDepth (tree : FileTree) : Nat :=
  tree.root.linkCount * (tree.workingDirectory.length + 2)

/-- The path to where a path leads once all links are followed. -/
def canonical (tree : FileTree) (path : Path) : Path :=
  let start : Path := if isAnchored path.text then pathTo [] else ⟨.workingDirectory, []⟩
  tree.fromRoot (resolveWithin tree tree.linkDepth start [] (piecesOf path.text)).1.path

end FileTree

end SkillScan
