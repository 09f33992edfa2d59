import SkillScan.Yaml.Binary
import SkillScan.Yaml.Number
import SkillScan.Yaml.Value

/-!
# From scalars to values

The value of a scalar is found from its text as its tag asks for.
-/

namespace SkillScan.Yaml

/-- The words for true and false in small letters. -/
def truthValues : List (String × Bool) := [
  ("yes", true), ("no", false), ("true", true), ("false", false), ("on", true), ("off", false)]

/-- The truth value that a text stands for. -/
def truthOf (text : String) : Except ConversionError Bool :=
  let word := Text.lowercase text
  match truthValues.lookup word with
  | some value => .ok value
  | none => .error (.unknownWord word)

/-- The day or moment that a text stands for. -/
def momentOf (text : String) : Except ConversionError Value :=
  match WrittenMoment.ofText? (Tag.withoutLastNewline text.toList) with
  | none => .error .notTimestamp
  | some written =>
    match written.time with
    | none => Value.date <$> written.date
    | some time => Value.timestamp <$> written.timestamp time

/-- A conversion that has to do with the form of the text only. -/
def orConversionError {α : Type} : Except ConversionError α → Except Error α
  | .ok value => .ok value
  | .error error => .error (.conversion error)

/-- The value of a scalar with a tag. -/
def scalarValue (tag : Tag) (text : String) : Except Error Value :=
  match tag with
  | .null => .ok .null
  | .bool => orConversionError (Value.bool <$> truthOf text)
  | .int => orConversionError (Value.int <$> integerOf text)
  | .float => orConversionError (Value.float <$> floatOf text)
  | .binary => Value.bytes <$> Binary.ofText text
  | .timestamp => orConversionError (momentOf text)
  | .str => .ok (.text text)
  | .seq | .map | .set | .omap | .pairs => .error (.malformed "a scalar in place of a collection")
  | .merge | .value | .other => .error (.malformed "a tag without a meaning")

end SkillScan.Yaml
