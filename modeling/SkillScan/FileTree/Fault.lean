import SkillScan.Text.Quoted

/-!
# Failed file operations

What can go wrong when a path is followed or a file is read or written, with the numbers and wordings of
the system.
-/

namespace SkillScan

/-- Why the system refuses an operation. -/
inductive Fault where
  | noEntry
  | denied
  | entryExists
  | notDirectory
  | isDirectory
  | nameTooLong
  | linkLoop
  deriving DecidableEq, Repr

namespace Fault

/-- The system's number for the fault. -/
def number : Fault → Nat
  | .noEntry => 2
  | .denied => 13
  | .entryExists => 17
  | .notDirectory => 20
  | .isDirectory => 21
  | .nameTooLong => 36
  | .linkLoop => 40

/-- The system's wording of the fault. -/
def wording : Fault → String
  | .noEntry => "No such file or directory"
  | .denied => "Permission denied"
  | .entryExists => "File exists"
  | .notDirectory => "Not a directory"
  | .isDirectory => "Is a directory"
  | .nameTooLong => "File name too long"
  | .linkLoop => "Too many levels of symbolic links"

end Fault

/-- A failed file operation. -/
inductive FileError where
  /-- The system refuses; the path is left out where it is not known. -/
  | system (fault : Fault) (path : Option String)
  /-- The path holds a NUL character, which no path may. -/
  | nulInPath

namespace FileError

/-- The wording of the error. -/
def message : FileError → String
  | .system fault none => "[Errno " ++ toString fault.number ++ "] " ++ fault.wording
  | .system fault (some path) =>
    "[Errno " ++ toString fault.number ++ "] " ++ fault.wording ++ ": " ++ Text.quoted path
  | .nulInPath => "embedded null byte"

/-- Whether the error says that there is nothing to be found at a path. -/
def isAbsence : FileError → Bool
  | .system .noEntry _ | .system .notDirectory _ | .system .linkLoop _ | .nulInPath => true
  | _ => false

end FileError

end SkillScan
