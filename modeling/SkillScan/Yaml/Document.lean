import SkillScan.Yaml.Graph.Construction
import SkillScan.Yaml.Node.OfTokens
import SkillScan.Yaml.Reader
import SkillScan.Yaml.Token.Lexer

/-!
# Documents

The value of the document in a text is that of the graph of its nodes. A text without a document stands for
nothing. This is the reader with which the program is run.
-/

namespace SkillScan.Yaml

/-- The value of the document in a text. -/
def read (source : Source) : Except Error Value := do
  match ← Node.ofTokens (Token.ofSource source) with
  | none => return .null
  | some node => (Graph.ofNode node).value

instance : Reader := ⟨fun content => read (.ofBytes content)⟩

end SkillScan.Yaml
