import SkillScan.Yaml.Graph

/-!
# Merging mappings

The value of a merge key is a mapping, or a sequence of mappings, whose entries come to stand before those of
the mapping around it. The earlier items of a sequence come last. What is merged has been merged itself
before, and the keys of main values, once looked at, are texts like any others.
-/

namespace SkillScan.Yaml

namespace Graph

/-- A way of merging the mapping of a number. -/
abbrev Merging := Nat → Graph → Except Error Graph

/-- The entries that a sequence of mappings contributes; `found` holds those of the items before. -/
def entriesOfItems (merge : Merging) : List Nat → (found : List NumberedEntry) → Graph →
    Except Error (List NumberedEntry × Graph)
  | [], found, graph => .ok (found, graph)
  | item :: rest, found, graph =>
    match graph.shape item with
    | .mapping _ => do
      let graph ← merge item graph
      entriesOfItems merge rest (graph.entries item ++ found) graph
    | .scalar _ | .sequence _ => .error (.malformed "an item that cannot be merged")

/-- The entries that the value of a merge key contributes. -/
def entriesOfMerged (merge : Merging) (number : Nat) (graph : Graph) :
    Except Error (List NumberedEntry × Graph) :=
  match graph.shape number with
  | .mapping _ => do
    let graph ← merge number graph
    return (graph.entries number, graph)
  | .sequence items => entriesOfItems merge items [] graph
  | .scalar _ => .error (.malformed "a value that cannot be merged")

/-- Merges the entries of a mapping one after another. Those that stay are given last one first, and `merged`
holds those that come to stand before them. A mapping that is merged into itself has been done with when that
merge is over. -/
def mergeEntries (merge : Merging) (number : Nat) :
    List NumberedEntry → (kept merged : List NumberedEntry) → Graph → Except Error Graph
  | [], kept, merged, graph => .ok (graph.reshape number (.mapping (merged ++ kept.reverse)))
  | (key, value) :: rest, kept, merged, graph =>
    match graph.tag key with
    | .merge => do
      let others := kept.reverse ++ rest
      let (found, graph) ← entriesOfMerged merge value (graph.reshape number (.mapping others))
      let present := graph.entries number
      if present = others then mergeEntries merge number rest kept (merged ++ found) graph
      else return graph.reshape number (.mapping (merged ++ found ++ present))
    | .value =>
      mergeEntries merge number rest ((key, value) :: kept) merged (graph.retag key .str)
    | _ => mergeEntries merge number rest ((key, value) :: kept) merged graph

/-- Merges a mapping. The first argument bounds the merges within one another. -/
def mergeWithin : (depth : Nat) → Merging
  | 0, _, graph => .ok graph
  | depth + 1, number, graph =>
    mergeEntries (mergeWithin depth) number (graph.entries number) [] [] graph

/-- Merges a mapping. No merge key stays for a merge within a merge, so there cannot be more of them than
vertices. -/
def merge (graph : Graph) (number : Nat) : Except Error Graph :=
  mergeWithin (graph.size + 1) number graph

end Graph

end SkillScan.Yaml
