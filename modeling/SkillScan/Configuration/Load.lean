import SkillScan.Configuration.Overlay
import SkillScan.FileTree.Content
import SkillScan.Yaml.Reader

/-!
# Configuration files

The configuration file is the one asked for, or the one that the session's settings name, or a file of a
fixed name in the working directory. Only the last one may be missing. Its document is left to a reader.
-/

namespace SkillScan

namespace Configuration

/-- The name of the configuration file in the working directory. -/
def fileName : String := ".hardhat.yaml"

/-- The value of the document in a file. A file that does not exist stands for nothing. -/
def readDocument [Yaml.Reader] (tree : FileTree) (path : Path) : Except DocumentError Yaml.Value := do
  if ← (tree.exists path).mapError .file then
    let content ← (tree.read path).mapError .file
    (Yaml.Reader.read content).mapError .document
  else return .null

/-- The file that is asked for in one way or the other. -/
def requested? (environment : Environment) (argument : Option String) : Option String :=
  match argument with
  | none | some "" => environment.configurationFile.filter (· != "")
  | some path => some path

/-- The error of a file whose document cannot be read. A conversion that fails is not the file's fault. -/
def documentFailure (path : Path) : DocumentError → LoadError
  | .document (.conversion error) => .conversion error
  | error => .configuration (.unreadable path error)

/-- The configuration that a value makes. -/
def ofValue (environment : Environment) (usual : Configuration) (source : Path) :
    Yaml.Value → Except LoadError Configuration
  | .null => .ok usual
  | .map entries =>
    match overlay environment usual source entries with
    | .ok configuration => .ok configuration
    | .error (.configuration error) => .error (.configuration error)
    | .error (.path error) => .error (.path error)
  | _ => .error (.configuration (.notMapping source))

/-- The configuration that holds in an environment. -/
def load [Yaml.Reader] (environment : Environment) (tree : FileTree) (argument : Option String) :
    Except LoadError Configuration := do
  let usual := standard (← environment.homeDirectory.mapError .home)
  let requested := requested? environment argument
  let path := Path.ofText (requested.getD fileName)
  if ← (tree.exists path).mapError .file then
    let value ← (readDocument tree path).mapError (documentFailure path)
    ofValue environment usual path value
  else if requested.isSome then throw (.configuration (.notFound path))
  else return usual

end Configuration

end SkillScan
