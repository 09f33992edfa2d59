import SkillScan.Timestamp

/-!
# Values of YAML documents

What a document stands for once its tags have been understood. The entries of a mapping stand in their
order; of several entries with one key the last one counts.
-/

namespace SkillScan.Yaml

/-- A value. -/
inductive Value where
  | null
  | bool (value : Bool)
  | int (value : Int)
  | float (value : Float)
  | text (value : String)
  | bytes (value : List UInt8)
  | date (value : Date)
  | timestamp (value : Timestamp)
  | list (items : List Value)
  | map (entries : List (Value × Value))
  | set (items : List Value)

namespace Value

/-- Whether a value counts as given: not nothing, not false, not zero and not empty. -/
def isGiven : Value → Bool
  | .null => false
  | .bool value => value
  | .int value => value != 0
  | .float value => value != 0.0
  | .text value => value != ""
  | .bytes value => !value.isEmpty
  | .date _ | .timestamp _ => true
  | .list items | .set items => !items.isEmpty
  | .map entries => !entries.isEmpty

/-- Whether a value is a given text. -/
def isText (wanted : String) : Value → Bool
  | .text found => found == wanted
  | _ => false

/-- The value of a key among the entries of a mapping. -/
def field? (name : String) (entries : List (Value × Value)) : Option Value :=
  (entries.reverse.find? fun entry => entry.1.isText name).map (·.2)

end Value

end SkillScan.Yaml
