import SkillScan.Yaml.Error
import SkillScan.Yaml.Value

/-!
# Readers of documents

The program leaves the reading of its configuration file to a reader of YAML documents. What it makes of the
value or the error that the reader ends with does not depend on which reader this is.
-/

namespace SkillScan.Yaml

/-- A reader of documents. -/
class Reader where
  /-- The value of the document in the bytes of a file. -/
  read : List UInt8 → Except Error Value

end SkillScan.Yaml
