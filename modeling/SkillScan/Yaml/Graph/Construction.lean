import SkillScan.Yaml.Conversion
import SkillScan.Yaml.Graph.Merge

/-!
# From graphs to values

A scalar has its value as soon as it is come across. A collection is only noted down at first, and its
contents are found when those of the collections noted down before it have been found. So of several faults
in a document, the one is reported that this order meets first.
-/

namespace SkillScan.Yaml

/-- What a vertex stands for. -/
inductive Meaning where
  | whole (value : Value)
  | list (items : List Nat)
  | map (entries : List NumberedEntry)
  | set (members : List Nat)
  | pairs (entries : List NumberedEntry)

namespace Meaning

/-- Whether a key may stand for this. -/
def isWhole : Meaning → Bool
  | .whole _ => true
  | .list _ | .map _ | .set _ | .pairs _ => false

/-- The value of a meaning, where the values of the vertices are given. -/
def value (known : Array Value) : Meaning → Value
  | .whole value => value
  | .list items => .list (items.map valueAt)
  | .map entries => .map (entries.map fun entry => (valueAt entry.1, valueAt entry.2))
  | .set members => .set (members.map valueAt)
  | .pairs entries => .list (entries.map fun entry => .list [valueAt entry.1, valueAt entry.2])
where
  /-- The value of a vertex. -/
  valueAt (number : Nat) : Value := known.getD number .null

end Meaning

namespace Graph

/-- The text of a scalar. A mapping that stands for a scalar has the text of its main value. The first
argument bounds the number of such mappings within one another. -/
def textOf : (depth : Nat) → (graph : Graph) → (number : Nat) → Except Error String
  | 0, _, _ => .error (.conversion .endless)
  | depth + 1, graph, number =>
    match graph.shape number with
    | .scalar text => .ok text
    | .sequence _ => .error (.malformed "a sequence in place of a scalar")
    | .mapping entries =>
      match entries.find? fun entry => graph.tag entry.1 == .value with
      | some (_, value) => textOf depth graph value
      | none => .error (.malformed "a mapping in place of a scalar")

/-- The value of a vertex with the tag of a scalar. -/
def scalarAt (graph : Graph) (number : Nat) : Except Error Value :=
  match graph.tag number with
  | .merge | .value | .other => .error (.malformed "a tag without a meaning")
  | tag => do
    let text ← graph.textOf (graph.size + 1) number
    match tag, graph.shape number with
    | .timestamp, .mapping _ => .error (.conversion .timestampOfMapping)
    | tag, _ => scalarValue tag text

end Graph

/-- A document whose value is being found. -/
structure Construction where
  graph : Graph
  /-- What is known about the vertices, by their numbers. -/
  meanings : Array (Option Meaning)
  /-- The collections whose contents are still to be found, last one first. -/
  pending : List Nat

namespace Construction

/-- Nothing is known about a graph. -/
def start (graph : Graph) : Construction :=
  ⟨graph, Array.replicate graph.size none, []⟩

/-- What a vertex stands for, if it is known. -/
def meaning? (construction : Construction) (number : Nat) : Option Meaning :=
  construction.meanings.getD number none

/-- Keeps what a vertex stands for. -/
def know (construction : Construction) (number : Nat) (meaning : Meaning) : Construction :=
  { construction with meanings := construction.meanings.setIfInBounds number (some meaning) }

/-- Notes a collection down. -/
def note (construction : Construction) (number : Nat) (bare : Meaning) : Construction :=
  { construction.know number bare with pending := number :: construction.pending }

/-- Comes across a vertex. -/
def meet (construction : Construction) (number : Nat) : Except Error Construction :=
  if (construction.meaning? number).isSome then .ok construction
  else
    match construction.graph.tag number with
    | .seq => .ok (construction.note number (.list []))
    | .map => .ok (construction.note number (.map []))
    | .set => .ok (construction.note number (.set []))
    | .omap | .pairs => .ok (construction.note number (.pairs []))
    | _ => do return construction.know number (.whole (← construction.graph.scalarAt number))

/-- Comes across the key and the value of an entry. The key must not be a collection. -/
def meetEntry (construction : Construction) (entry : NumberedEntry) : Except Error Construction := do
  let construction ← construction.meet entry.1
  if (construction.meaning? entry.1).any (·.isWhole) then construction.meet entry.2
  else .error (.malformed "a collection as a key")

/-- Comes across the pairs of a sequence, each of which is written as a mapping with one entry. -/
def meetPairs : List Nat → (found : List NumberedEntry) → Construction →
    Except Error (List NumberedEntry × Construction)
  | [], found, construction => .ok (found.reverse, construction)
  | item :: rest, found, construction =>
    match construction.graph.shape item with
    | .mapping [(key, value)] => do
      let construction ← construction.meet key
      let construction ← construction.meet value
      meetPairs rest ((key, value) :: found) construction
    | _ => .error (.malformed "a pair of more or less than two")

/-- Merges a mapping and comes across its entries. -/
def meetMapping (construction : Construction) (number : Nat) :
    Except Error (List NumberedEntry × Construction) := do
  let graph ← construction.graph.merge number
  let entries := graph.entries number
  return (entries, ← entries.foldlM meetEntry { construction with graph })

/-- Finds the contents of a collection. -/
def fill (construction : Construction) (number : Nat) : Except Error Construction :=
  match construction.graph.tag number, construction.graph.shape number with
  | .seq, .sequence items => do
    return (← items.foldlM meet construction).know number (.list items)
  | .map, .mapping _ => do
    let (entries, construction) ← construction.meetMapping number
    return construction.know number (.map entries)
  | .set, .mapping _ => do
    let (entries, construction) ← construction.meetMapping number
    return construction.know number (.set (entries.map (·.1)))
  | .omap, .sequence items | .pairs, .sequence items => do
    let (entries, construction) ← meetPairs items [] construction
    return construction.know number (.pairs entries)
  | _, _ => .error (.malformed "a tag that does not fit its collection")

/-- Finds the contents of the collections noted down and of those noted down on the way. The first argument
bounds the depth of the collections within one another. -/
def fillAll : (depth : Nat) → Construction → Except Error Construction
  | 0, construction => .ok construction
  | depth + 1, construction =>
    if construction.pending.isEmpty then .ok construction
    else do
      fillAll depth (← construction.pending.reverse.foldlM fill { construction with pending := [] })

/-- The values of the first vertices, found from those of the others, the last one first. -/
def valuesFrom (construction : Construction) : (count : Nat) → (known : Array Value) → Array Value
  | 0, known => known
  | count + 1, known =>
    let value := ((construction.meaning? count).map (·.value known)).getD .null
    valuesFrom construction count (known.setIfInBounds count value)

/-- The values of the vertices, found over and over. -/
def values (construction : Construction) : (rounds : Nat) → Array Value
  | 0 => Array.replicate construction.graph.size .null
  | rounds + 1 => construction.valuesFrom construction.graph.size (values construction rounds)

end Construction

/-- The value of the root. Only aliases lead to vertices with smaller numbers, so that one round more than
there are anchors is enough. A vertex that stands in itself is followed only so far. -/
def Graph.value (graph : Graph) : Except Error Value := do
  let construction ← (Construction.start graph).meet 0
  let construction ← construction.fillAll (graph.size + 1)
  return (construction.values (graph.anchors.length + 1)).getD 0 .null

end SkillScan.Yaml
