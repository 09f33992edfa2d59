import SkillScan.Environment
import SkillScan.FileTree.Fault
import SkillScan.Yaml.Error

/-!
# Errors of configurations

What can be wrong with a configuration file and with the values in it. Errors of the file itself are told
apart from values that cannot be turned into what they should be.
-/

namespace SkillScan

/-- Why a document cannot be read from a file. -/
inductive DocumentError where
  | file (error : FileError)
  | document (error : Yaml.Error)

/-- The wording of the error. -/
def DocumentError.message : DocumentError → String
  | .file error => error.message
  | .document error => error.message

/-- What is wrong with a configuration file. -/
inductive ConfigurationError where
  /-- A file that was asked for does not exist. -/
  | notFound (path : Path)
  /-- The file cannot be read or does not hold a document. -/
  | unreadable (path : Path) (error : DocumentError)
  | notMapping (path : Path)
  | scheduleNotMapping (path : Path)
  /-- The value of a key is no integer in a range. -/
  | notInRange (key : String) (path : Path) (least greatest : Int)

/-- The wording of the error. -/
def ConfigurationError.message : ConfigurationError → String
  | .notFound path => "Config file not found: " ++ path.text
  | .unreadable path error => "Failed to parse config " ++ path.text ++ ": " ++ error.message
  | .notMapping path => "Config at " ++ path.text ++ " is not a mapping"
  | .scheduleNotMapping path => "'schedule' in " ++ path.text ++ " must be a mapping"
  | .notInRange key path least greatest =>
    "'" ++ key ++ "' in " ++ path.text ++ " must be an integer between " ++ toString least ++ " and " ++
      toString greatest

/-- Why a value cannot be taken as a path. -/
inductive PathError where
  /-- The value is of a kind that no path is made from. -/
  | wrongKind (kind : String)
  /-- The value consists of bytes. -/
  | bytes
  | home (error : HomeError)

/-- The wording of the error. -/
def PathError.message : PathError → String
  | .wrongKind kind => "expected str, bytes or os.PathLike object, not " ++ kind
  | .bytes =>
    "argument should be a str object or an os.PathLike object returning str, not <class 'bytes'>"
  | .home error => error.message

/-- Why a mapping does not make a configuration. -/
inductive OverlayError where
  | configuration (error : ConfigurationError)
  | path (error : PathError)

/-- Why no configuration can be had. -/
inductive LoadError where
  /-- The file is to blame. -/
  | configuration (error : ConfigurationError)
  | path (error : PathError)
  /-- A scalar of the file does not fit its tag. -/
  | conversion (error : Yaml.ConversionError)
  | file (error : FileError)
  | home (error : HomeError)

/-- The wording of the error. -/
def LoadError.message : LoadError → String
  | .configuration error => error.message
  | .path error => error.message
  | .conversion error => error.message
  | .file error => error.message
  | .home error => error.message

end SkillScan
