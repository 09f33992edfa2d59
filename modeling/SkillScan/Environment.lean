import SkillScan.Path

/-!
# The environment

What the program knows about the account that it runs for: settings of the session and home directories.
A path that begins with a tilde leads to a home directory, either that of the account itself or, if a name
follows the tilde, that of the account of this name.
-/

namespace SkillScan

/-- What is known about the account. -/
structure Environment where
  /-- The home directory that the session's settings name. -/
  home : Option String
  /-- The configuration file that the session's settings name. -/
  configurationFile : Option String
  /-- The home directory that a tilde stands for. -/
  accountHome : String
  /-- The home directories of accounts, by their names. -/
  otherHomes : List (String × String)

/-- Why a home directory is not known. -/
inductive HomeError where
  /-- There is no account of this name. -/
  | unknown
  /-- The name of the account holds a NUL character, which no name may. -/
  | nulInName
  deriving DecidableEq

/-- The wording of the error. -/
def HomeError.message : HomeError → String
  | .unknown => "Could not determine home directory."
  | .nulInName => "embedded null byte"

namespace Environment

/-- A directory without the slashes at its end. The root is written as one slash, and so is nothing. -/
def withoutEndSlashes (directory : String) : String :=
  let kept := (directory.toList.reverse.dropWhile (· == '/')).reverse
  if kept.isEmpty then "/" else String.ofList kept

/-- The home directory of an account; without a name, that of the account itself. -/
def homeOf (environment : Environment) (name : String) : Except HomeError String :=
  if name = "" then .ok environment.accountHome
  else if name.toList.contains '\x00' then .error .nulInName
  else
    match environment.otherHomes.lookup name with
    | some home => .ok home
    | none => .error .unknown

/-- The path with a home directory in place of a tilde at its beginning. -/
def expand (environment : Environment) (path : Path) : Except HomeError Path :=
  match path.anchor, path.names with
  | .workingDirectory, first :: rest =>
    match first.toList with
    | '~' :: name => do
      let home := withoutEndSlashes (← environment.homeOf (String.ofList name))
      if home.toList.head? = some '~' then .error .unknown
      else
        let base := Path.ofText home
        return { base with names := base.names ++ rest }
    | _ => .ok path
  | _, _ => .ok path

/-- The home directory: the one that the session's settings name, or else that of the account. -/
def homeDirectory (environment : Environment) : Except HomeError Path :=
  match environment.home with
  | none | some "" => environment.expand (.ofText "~")
  | some home => .ok (.ofText home)

end Environment

end SkillScan
