import SkillScan.Yaml.Node

/-!
# Graphs of nodes

Where aliases are followed, the nodes of a document make up a graph: a node may stand in several
collections, and even in itself. The vertices are numbered in the order in which the nodes begin.
-/

namespace SkillScan.Yaml

/-- The key and the value of an entry, given by their numbers. -/
abbrev NumberedEntry := Nat × Nat

/-- What a vertex is made of. Other vertices are given by their numbers. -/
inductive Shape where
  | scalar (text : String)
  | sequence (items : List Nat)
  | mapping (entries : List NumberedEntry)

/-- A node without its anchor. -/
structure Vertex where
  tag : Tag
  shape : Shape

/-- The vertices of a document. -/
structure Graph where
  vertices : Array Vertex
  /-- The numbers of the vertices with anchors, by the anchors' names. -/
  anchors : List (String × Nat)

namespace Graph

/-- The graph without vertices. -/
def empty : Graph := ⟨#[], []⟩

/-- The number of vertices. -/
def size (graph : Graph) : Nat :=
  graph.vertices.size

/-- The vertex of a number. -/
def vertex (graph : Graph) (number : Nat) : Vertex :=
  graph.vertices.getD number ⟨.null, .scalar ""⟩

/-- The tag of a vertex. -/
def tag (graph : Graph) (number : Nat) : Tag :=
  (graph.vertex number).tag

/-- What a vertex is made of. -/
def shape (graph : Graph) (number : Nat) : Shape :=
  (graph.vertex number).shape

/-- The entries of a mapping. -/
def entries (graph : Graph) (number : Nat) : List NumberedEntry :=
  match graph.shape number with
  | .mapping entries => entries
  | .scalar _ | .sequence _ => []

/-- Gives a vertex another tag. -/
def retag (graph : Graph) (number : Nat) (tag : Tag) : Graph :=
  { graph with vertices := graph.vertices.setIfInBounds number ⟨tag, graph.shape number⟩ }

/-- Makes a vertex of something else. -/
def reshape (graph : Graph) (number : Nat) (shape : Shape) : Graph :=
  { graph with vertices := graph.vertices.setIfInBounds number ⟨graph.tag number, shape⟩ }

/-- Adds a vertex, whose number is that of the vertices before. -/
def add (graph : Graph) (anchor : Option String) (vertex : Vertex) : Graph where
  vertices := graph.vertices.push vertex
  anchors := (anchor.map fun name => (name, graph.size)).toList ++ graph.anchors

mutual

/-- Adds a tree of nodes; the answer begins with the number of its root. -/
def addNode (graph : Graph) : Node → Nat × Graph
  | .alias name => ((graph.anchors.lookup name).getD 0, graph)
  | .scalar anchor tag text => (graph.size, graph.add anchor ⟨tag, .scalar text⟩)
  | .sequence anchor tag items =>
    let (numbers, grown) := addItems (graph.add anchor ⟨tag, .sequence []⟩) items
    (graph.size, grown.reshape graph.size (.sequence numbers))
  | .mapping anchor tag entries =>
    let (numbers, grown) := addEntries (graph.add anchor ⟨tag, .mapping []⟩) entries
    (graph.size, grown.reshape graph.size (.mapping numbers))

/-- Adds the items of a sequence. -/
def addItems (graph : Graph) : List Node → List Nat × Graph
  | [] => ([], graph)
  | item :: rest =>
    let (first, graph) := addNode graph item
    let (others, graph) := addItems graph rest
    (first :: others, graph)

/-- Adds the keys and values of a mapping. -/
def addEntries (graph : Graph) : List (Node × Node) → List NumberedEntry × Graph
  | [] => ([], graph)
  | (key, value) :: rest =>
    let (key, graph) := addNode graph key
    let (value, graph) := addNode graph value
    let (others, graph) := addEntries graph rest
    ((key, value) :: others, graph)

end

/-- The graph of a tree of nodes. The root has the number zero. -/
def ofNode (node : Node) : Graph :=
  (empty.addNode node).2

end Graph

end SkillScan.Yaml
