import SkillScan.FileTree.Basic

/-!
# Well-formed file trees

A file tree as a value may hold more than a file system can: two entries of one name, or a name with a
slash in it. A well-formed tree holds nothing of that kind, and its working directory is one of its
directories. In such a tree the entries of a directory are a finite map from names to nodes, and the
order in which they are listed carries no information.

`Node.ind` is the induction on which proofs about whole trees rest: what holds of the nodes that a
directory has under its names holds of the directory.
-/

namespace SkillScan

/-- The names that an entry of a directory may have. -/
structure IsEntryName (name : String) : Prop where
  nonempty : name ≠ ""
  notHere : name ≠ "."
  notUp : name ≠ ".."
  noSlash : '/' ∉ name.toList
  noNul : '\x00' ∉ name.toList

instance (name : String) : Decidable (IsEntryName name) :=
  decidable_of_iff
    (name ≠ "" ∧ name ≠ "." ∧ name ≠ ".." ∧ '/' ∉ name.toList ∧ '\x00' ∉ name.toList)
    ⟨fun ⟨nonempty, notHere, notUp, noSlash, noNul⟩ => ⟨nonempty, notHere, notUp, noSlash, noNul⟩,
      fun ⟨nonempty, notHere, notUp, noSlash, noNul⟩ => ⟨nonempty, notHere, notUp, noSlash, noNul⟩⟩

mutual

/-- Whether the entries of all directories in a tree have names of their own that entries may have. -/
def Node.WellFormed : Node → Prop
  | .file _ _ _ | .link _ => True
  | .directory entries _ => entries.WellFormed

/-- Whether entries have names of their own that entries may have, and hold well-formed nodes. -/
def Entries.WellFormed : Entries → Prop
  | .empty => True
  | .entry name node rest =>
    IsEntryName name ∧ rest.find? name = none ∧ node.WellFormed ∧ rest.WellFormed

end

mutual

/-- Decides whether a node is well-formed. -/
def Node.decideWellFormed : (node : Node) → Decidable node.WellFormed
  | .file _ _ _ | .link _ => isTrue trivial
  | .directory entries _ => entries.decideWellFormed

/-- Decides whether entries are well-formed. -/
def Entries.decideWellFormed : (entries : Entries) → Decidable entries.WellFormed
  | .empty => isTrue trivial
  | .entry name node rest =>
    have := node.decideWellFormed
    have := rest.decideWellFormed
    inferInstanceAs
      (Decidable (IsEntryName name ∧ rest.find? name = none ∧ node.WellFormed ∧ rest.WellFormed))

end

instance (node : Node) : Decidable node.WellFormed := node.decideWellFormed

/-- A tree whose names can stand in a file system and whose working directory exists. -/
structure FileTree.WellFormed (tree : FileTree) : Prop where
  root : tree.root.WellFormed
  workingDirectory : (tree.root.find? tree.workingDirectory).any Node.isDirectory = true

instance (tree : FileTree) : Decidable tree.WellFormed :=
  decidable_of_iff
    (tree.root.WellFormed ∧
      (tree.root.find? tree.workingDirectory).any Node.isDirectory = true)
    ⟨fun ⟨root, workingDirectory⟩ => ⟨root, workingDirectory⟩,
      fun ⟨root, workingDirectory⟩ => ⟨root, workingDirectory⟩⟩

namespace Entries

/-- What holds of no entries and is kept by one more entry holds of all entries. -/
@[induction_eliminator]
theorem listInduction {property : Entries → Prop} (empty : property .empty)
    (entry : ∀ name node rest, property rest → property (.entry name node rest)) :
    ∀ entries, property entries
  | .empty => empty
  | .entry name node rest => entry name node rest (listInduction empty entry rest)

@[simp]
theorem find?_empty (name : String) : Entries.empty.find? name = none := rfl

theorem find?_entry (name other : String) (node : Node) (rest : Entries) :
    (Entries.entry other node rest).find? name =
      if other = name then some node else rest.find? name := rfl

theorem mem_toList_of_find? {entries : Entries} {name : String} {node : Node}
    (found : entries.find? name = some node) : (name, node) ∈ entries.toList := by
  induction entries with
  | empty => simp at found
  | entry other child rest ih =>
      rw [find?_entry] at found
      simp only [toList, List.mem_cons, Prod.mk.injEq]
      by_cases same : other = name
      · rw [if_pos same] at found
        exact Or.inl ⟨same.symm, (Option.some.inj found).symm⟩
      · rw [if_neg same] at found
        exact Or.inr (ih found)

theorem find?_eq_none_iff {entries : Entries} {name : String} :
    entries.find? name = none ↔ name ∉ entries.toList.map (·.1) := by
  induction entries with
  | empty => simp [toList]
  | entry other child rest ih =>
      rw [find?_entry]
      by_cases same : other = name
      · simp [toList, same]
      · simp [toList, same, ih, Ne.symm same]

theorem find?_of_mem_toList {entries : Entries} (wellFormed : entries.WellFormed) {name : String}
    {node : Node} (member : (name, node) ∈ entries.toList) : entries.find? name = some node := by
  induction entries with
  | empty => simp [toList] at member
  | entry other child rest ih =>
      rcases wellFormed with ⟨_, fresh, _, restWellFormed⟩
      rw [find?_entry]
      simp only [toList, List.mem_cons, Prod.mk.injEq] at member
      rcases member with ⟨rfl, rfl⟩ | member
      · rw [if_pos rfl]
      · have listed : name ∈ rest.toList.map (·.1) := List.mem_map_of_mem member
        have different : other ≠ name := by
          intro same
          subst same
          exact find?_eq_none_iff.mp fresh listed
        rw [if_neg different]
        exact ih restWellFormed member

theorem mem_toList_iff {entries : Entries} (wellFormed : entries.WellFormed) {name : String}
    {node : Node} : (name, node) ∈ entries.toList ↔ entries.find? name = some node :=
  ⟨find?_of_mem_toList wellFormed, mem_toList_of_find?⟩

theorem nodup_names {entries : Entries} (wellFormed : entries.WellFormed) :
    (entries.toList.map (·.1)).Nodup := by
  induction entries with
  | empty => simp [toList]
  | entry other child rest ih =>
      rcases wellFormed with ⟨_, fresh, _, restWellFormed⟩
      simp only [toList, List.map_cons, List.nodup_cons]
      exact ⟨find?_eq_none_iff.mp fresh, ih restWellFormed⟩

theorem isEntryName_of_find? {entries : Entries} (wellFormed : entries.WellFormed) {name : String}
    {node : Node} (found : entries.find? name = some node) : IsEntryName name := by
  induction entries with
  | empty => simp at found
  | entry other child rest ih =>
      rcases wellFormed with ⟨isName, _, _, restWellFormed⟩
      rw [find?_entry] at found
      by_cases same : other = name
      · exact same ▸ isName
      · rw [if_neg same] at found
        exact ih restWellFormed found

theorem wellFormed_of_find? {entries : Entries} (wellFormed : entries.WellFormed) {name : String}
    {node : Node} (found : entries.find? name = some node) : node.WellFormed := by
  induction entries with
  | empty => simp at found
  | entry other child rest ih =>
      rcases wellFormed with ⟨_, _, childWellFormed, restWellFormed⟩
      rw [find?_entry] at found
      by_cases same : other = name
      · rw [if_pos same] at found
        exact Option.some.inj found ▸ childWellFormed
      · rw [if_neg same] at found
        exact ih restWellFormed found

end Entries

mutual

/-- What holds of files and links, and of a directory if it holds of what the directory has under its
names, holds of all nodes. -/
@[elab_as_elim]
theorem Node.ind {property : Node → Prop}
    (file : ∀ content mode access, property (.file content mode access))
    (link : ∀ target, property (.link target))
    (directory : ∀ entries access,
      (∀ name child, entries.find? name = some child → property child) →
        property (.directory entries access)) :
    ∀ node, property node
  | .file content mode access => file content mode access
  | .link target => link target
  | .directory entries access =>
    directory entries access (Node.ind_entries file link directory entries)

theorem Node.ind_entries {property : Node → Prop}
    (file : ∀ content mode access, property (.file content mode access))
    (link : ∀ target, property (.link target))
    (directory : ∀ entries access,
      (∀ name child, entries.find? name = some child → property child) →
        property (.directory entries access)) :
    ∀ entries : Entries, ∀ name child, entries.find? name = some child → property child
  | .empty, _, _, found => by simp at found
  | .entry other node rest, name, child, found => by
      rw [Entries.find?_entry] at found
      by_cases same : other = name
      · rw [if_pos same] at found
        exact Option.some.inj found ▸ Node.ind file link directory node
      · rw [if_neg same] at found
        exact Node.ind_entries file link directory rest name child found

end

namespace Node

@[simp]
theorem find?_nil (node : Node) : node.find? [] = some node := by
  cases node <;> rfl

@[simp]
theorem find?_cons (entries : Entries) (access : DirectoryAccess) (name : String) (location : Location) :
    (Node.directory entries access).find? (name :: location) =
      (entries.find? name).bind (·.find? location) := rfl

theorem find?_append (node : Node) (first second : Location) :
    node.find? (first ++ second) = (node.find? first).bind (·.find? second) := by
  induction first generalizing node with
  | nil => simp
  | cons name first ih =>
      cases node with
      | file content mode access => simp [find?]
      | link target => simp [find?]
      | directory entries access =>
          simp only [List.cons_append, find?_cons]
          cases entries.find? name with
          | none => rfl
          | some child => simp [ih child]

theorem wellFormed_of_find? {node found : Node} (wellFormed : node.WellFormed) {location : Location}
    (present : node.find? location = some found) : found.WellFormed := by
  induction location generalizing node with
  | nil =>
      rw [find?_nil] at present
      exact Option.some.inj present ▸ wellFormed
  | cons name location ih =>
      cases node with
      | file content mode access => simp [find?] at present
      | link target => simp [find?] at present
      | directory entries access =>
          rw [find?_cons] at present
          rcases Option.bind_eq_some_iff.mp present with ⟨child, childFound, present⟩
          exact ih (Entries.wellFormed_of_find? wellFormed childFound) present

theorem isEntryName_of_find? {node found : Node} (wellFormed : node.WellFormed) {location : Location}
    (present : node.find? location = some found) : ∀ name ∈ location, IsEntryName name := by
  induction location generalizing node with
  | nil => simp
  | cons name location ih =>
      cases node with
      | file content mode access => simp [find?] at present
      | link target => simp [find?] at present
      | directory entries access =>
          rw [find?_cons] at present
          rcases Option.bind_eq_some_iff.mp present with ⟨child, childFound, present⟩
          intro other member
          rcases List.mem_cons.mp member with rfl | member
          · exact Entries.isEntryName_of_find? wellFormed childFound
          · exact ih (Entries.wellFormed_of_find? wellFormed childFound) present other member

end Node

end SkillScan
