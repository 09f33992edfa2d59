import SkillScan.Yaml.Tag

/-!
# Nodes

A document is a tree of scalars, sequences and mappings. An anchor gives a node a name, and an alias stands
for the node of a name.
-/

namespace SkillScan.Yaml

/-- A node of a document. -/
inductive Node where
  | scalar (anchor : Option String) (tag : Tag) (text : String)
  | sequence (anchor : Option String) (tag : Tag) (items : List Node)
  | mapping (anchor : Option String) (tag : Tag) (entries : List (Node × Node))
  | alias (name : String)

namespace Node

/-- The node of a scalar that is left out. -/
def absent : Node := .scalar none .null ""

end Node

end SkillScan.Yaml
