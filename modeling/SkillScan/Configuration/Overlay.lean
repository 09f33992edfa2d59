import SkillScan.Configuration.Basic
import SkillScan.Configuration.Error
import SkillScan.Yaml.Value

/-!
# Configurations from mappings

A mapping may name the directories and the time of the daily check. What it does not name stays as it is.
The time must be in range; the directories may begin with a tilde. A directory that counts as not given,
such as an empty text, is passed over, but a time that is nothing is an error.
-/

namespace SkillScan

open Yaml (Value)

namespace Configuration

/-- The name of a kind of values. -/
def kindName : Value → String
  | .null => "NoneType"
  | .bool _ => "bool"
  | .int _ => "int"
  | .float _ => "float"
  | .text _ => "str"
  | .bytes _ => "bytes"
  | .date _ => "date"
  | .timestamp _ => "datetime"
  | .list _ => "list"
  | .map _ => "dict"
  | .set _ => "set"

/-- The path that a value names. -/
def pathOf (environment : Environment) (value : Value) : Except PathError Path :=
  match value with
  | .text text => (environment.expand (.ofText text)).mapError .home
  | .bytes _ => .error .bytes
  | value => .error (.wrongKind (kindName value))

/-- The path that a key names, or `usual` if none is given. -/
def pathField (environment : Environment) (name : String) (usual : Path)
    (entries : List (Value × Value)) : Except PathError Path :=
  match Value.field? name entries with
  | none => .ok usual
  | some value => if value.isGiven then pathOf environment value else .ok usual

/-- The integer that a key names, or `usual` if the key is missing. -/
def integerField (name label : String) (least greatest usual : Int) (source : Path)
    (entries : List (Value × Value)) : Except ConfigurationError Int :=
  match (Value.field? name entries).getD (.int usual) with
  | .int value =>
    if least ≤ value && value ≤ greatest then .ok value
    else .error (.notInRange label source least greatest)
  | _ => .error (.notInRange label source least greatest)

/-- The entries about the schedule. -/
def scheduleEntries (source : Path) (entries : List (Value × Value)) :
    Except ConfigurationError (List (Value × Value)) :=
  match Value.field? "schedule" entries with
  | none => .ok []
  | some (.map entries) => .ok entries
  | some value => if value.isGiven then .error (.scheduleNotMapping source) else .ok []

/-- The hour and the minute that a mapping asks for. -/
def scheduleOf (usual : Configuration) (source : Path) (entries : List (Value × Value)) :
    Except ConfigurationError (Int × Int) := do
  let schedule ← scheduleEntries source entries
  let hour ← integerField "hour" "schedule.hour" 0 23 usual.hour source schedule
  let minute ← integerField "minute" "schedule.minute" 0 59 usual.minute source schedule
  return (hour, minute)

/-- The configuration with what a mapping says in place of the usual. -/
def overlay (environment : Environment) (usual : Configuration) (source : Path)
    (entries : List (Value × Value)) : Except OverlayError Configuration := do
  let (hour, minute) ← (scheduleOf usual source entries).mapError .configuration
  let skillsRoot ← (pathField environment "skills_root" usual.skillsRoot entries).mapError .path
  let logDir ← (pathField environment "log_dir" usual.logDir entries).mapError .path
  return ⟨skillsRoot, logDir, hour, minute⟩

end Configuration

end SkillScan
