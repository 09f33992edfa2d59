import SkillScan.FileTree.Content
import SkillScan.Proofs.FileTree.Relisting
import SkillScan.Proofs.FileTree.WellFormed

/-!
# Trees that grow

A change of a file tree puts one node at one location. Everything that does not lie there or below stays as it was,
up to the entries that directories gain. A tree has grown from another if it still has all that the other had:
directories are still directories, files are still files, and only files at some locations may hold something
else. Growing is reflexive and transitive, so that a run of changes is judged change by change.
-/

namespace SkillScan

/-! ## Putting nodes -/

theorem Entries.find?_put (entries : Entries) (name other : String) (node : Node) :
    (entries.put name node).find? other = if name = other then some node else entries.find? other := by
  induction entries with
  | empty => rw [put, find?_entry]
  | entry present child rest ih =>
      rw [put]
      split
      · next same =>
          subst same
          rw [find?_entry, find?_entry]
          split <;> rfl
      · next different =>
          rw [find?_entry, find?_entry, ih]
          split
          · next here =>
              rw [if_neg]
              rintro rfl
              exact different here
          · rfl

theorem Entries.put_of_find? {entries : Entries} {name : String} {node : Node}
    (found : entries.find? name = some node) : entries.put name node = entries := by
  induction entries with
  | empty => simp at found
  | entry other child rest ih =>
      rw [find?_entry] at found
      rw [put]
      split
      · next same =>
          rw [if_pos same] at found
          rw [same, Option.some.inj found]
      · next different =>
          rw [if_neg different] at found
          rw [ih found]

namespace Node

@[simp]
theorem put_nil (node new : Node) : node.put [] new = new := by
  cases node <;> rfl

theorem put_cons_of_find? {entries : Entries} {access : DirectoryAccess} {name : String} {child : Node}
    (found : entries.find? name = some child) (rest : Location) (new : Node) :
    (Node.directory entries access).put (name :: rest) new =
      .directory (entries.put name (child.put rest new)) access := by
  rw [put]
  exact found

theorem put_singleton (entries : Entries) (access : DirectoryAccess) (name : String) (new : Node) :
    (Node.directory entries access).put [name] new = .directory (entries.put name new) access := by
  cases found : entries.find? name with
  | none => simp only [put, found]
  | some child => rw [put_cons_of_find? found, put_nil]

/-- What stands at a location may be put there again. -/
theorem put_of_find? {node found : Node} {location : Location} (present : node.find? location = some found) :
    node.put location found = node := by
  induction location generalizing node with
  | nil =>
      rw [find?_nil] at present
      rw [put_nil, Option.some.inj present]
  | cons name location ih =>
      cases node with
      | file content mode access => simp [find?] at present
      | link target => simp [find?] at present
      | directory entries access =>
          rw [find?_cons] at present
          rcases Option.bind_eq_some_iff.mp present with ⟨child, childFound, childPresent⟩
          rw [put_cons_of_find? childFound, ih childPresent, Entries.put_of_find? childFound]

theorem exists_of_find?_cons {node found : Node} {name : String} {location : Location}
    (present : node.find? (name :: location) = some found) :
    ∃ entries access child, node = .directory entries access ∧ entries.find? name = some child ∧
      child.find? location = some found := by
  cases node with
  | file content mode access => simp [find?] at present
  | link target => simp [find?] at present
  | directory entries access =>
      rw [find?_cons] at present
      rcases Option.bind_eq_some_iff.mp present with ⟨child, childFound, childPresent⟩
      exact ⟨entries, access, child, rfl, childFound, childPresent⟩

section Put

variable {node : Node} {parent : Location} {entries : Entries} {access : DirectoryAccess}
  (present : node.find? parent = some (.directory entries access)) (name : String) (new : Node)
include present

theorem find?_put_parent :
    (node.put (parent ++ [name]) new).find? parent = some (.directory (entries.put name new) access) := by
  induction parent generalizing node with
  | nil =>
      rw [find?_nil] at present
      rw [Option.some.inj present, List.nil_append, put_singleton, find?_nil]
  | cons first parent ih =>
      rcases exists_of_find?_cons present with ⟨_, _, child, rfl, childFound, childPresent⟩
      rw [List.cons_append, put_cons_of_find? childFound, find?_cons, Entries.find?_put, if_pos rfl]
      exact ih childPresent

theorem find?_put_self (below : Location) :
    (node.put (parent ++ [name]) new).find? (parent ++ [name] ++ below) = new.find? below := by
  rw [List.append_assoc, find?_append, find?_put_parent present]
  simp [Entries.find?_put]

/-- What does not lie at the location or below is not changed, except that a directory gains an entry. -/
theorem shell_find?_put {other : Location} (apart : ¬parent ++ [name] <+: other) :
    ((node.put (parent ++ [name]) new).find? other).map shell = (node.find? other).map shell := by
  induction parent generalizing node other with
  | nil =>
      rw [find?_nil] at present
      rw [Option.some.inj present, List.nil_append, put_singleton]
      cases other with
      | nil => simp [shell]
      | cons first other =>
          have different : name ≠ first := by simpa using apart
          rw [find?_cons, find?_cons, Entries.find?_put, if_neg different]
  | cons first parent ih =>
      rcases exists_of_find?_cons present with ⟨_, _, child, rfl, childFound, childPresent⟩
      rw [List.cons_append, put_cons_of_find? childFound]
      cases other with
      | nil => simp [shell]
      | cons next other =>
          rw [find?_cons, find?_cons, Entries.find?_put]
          split
          · next same =>
              subst same
              have apartBelow : ¬parent ++ [name] <+: other := by
                simpa [List.cons_prefix_cons] using apart
              rw [childFound]
              exact ih childPresent apartBelow
          · rfl

end Put

/-- What a directory may be used for, where there is a directory. -/
def directoryAccess? : Node → Option DirectoryAccess
  | .directory _ access => some access
  | .file _ _ _ | .link _ => none

theorem directoryAccess?_shell (node : Node) : node.shell.directoryAccess? = node.directoryAccess? := by
  cases node <;> rfl

theorem exists_of_directoryAccess? {node : Node} {access : DirectoryAccess}
    (isDirectory : node.directoryAccess? = some access) : ∃ entries, node = .directory entries access := by
  cases node with
  | directory entries other => exact ⟨entries, by rw [Option.some.inj isDirectory]⟩
  | file content mode other => cases isDirectory
  | link target => cases isDirectory

/-- A node with nothing in it that is no link. -/
structure IsLeaf (node : Node) : Prop where
  nothingBelow : ∀ name rest, node.find? (name :: rest) = none
  noLink : ∀ target, node ≠ .link target

theorem isLeaf_file (content : List UInt8) (mode : Nat) (access : Access) :
    (Node.file content mode access).IsLeaf :=
  ⟨fun _ _ => rfl, fun _ => by simp⟩

theorem isLeaf_emptyDirectory : emptyDirectory.IsLeaf :=
  ⟨fun _ _ => rfl, fun _ => by simp [emptyDirectory]⟩

theorem IsLeaf.find?_eq_some_iff {node found : Node} (leaf : node.IsLeaf) {below : Location} :
    node.find? below = some found ↔ below = [] ∧ node = found := by
  cases below with
  | nil => simp
  | cons name rest => simp [leaf.nothingBelow]

end Node

namespace FileTree

/-! ## Trees without links -/

/-- Whether no location of a tree holds a link. -/
def LinkFree (tree : FileTree) : Prop :=
  ∀ location target, tree.root.find? location ≠ some (.link target)

theorem linkCount_of_find? {entries : Entries} {name : String} {child : Node}
    (none : Node.linkCountIn entries = 0) (found : entries.find? name = some child) :
    child.linkCount = 0 := by
  induction entries with
  | empty => simp at found
  | entry other first rest ih =>
      simp only [Node.linkCountIn, Nat.add_eq_zero_iff] at none
      rw [Entries.find?_entry] at found
      split at found
      · rw [← Option.some.inj found]
        exact none.1
      · exact ih none.2 found

theorem linkFree_of_linkCount {tree : FileTree} (none : tree.root.linkCount = 0) : tree.LinkFree := by
  intro location target
  rcases tree with ⟨root, workingDirectory⟩
  simp only at none ⊢
  induction location generalizing root with
  | nil =>
      rintro present
      rw [Node.find?_nil] at present
      rw [Option.some.inj present, Node.linkCount] at none
      exact absurd none (by decide)
  | cons name location ih =>
      intro present
      rcases Node.exists_of_find?_cons present with ⟨entries, _, child, rfl, childFound, childPresent⟩
      rw [Node.linkCount] at none
      exact ih child (linkCount_of_find? none childFound) childPresent

/-! ## Growing -/

/-- A tree has grown from another if it has all that the other had, and its directories may be used for the same.
Only files at some locations may have come to hold something else or to have another mode, and no link has been
added. -/
structure Grown (changed : Location → Prop) (before after : FileTree) : Prop where
  workingDirectory : after.workingDirectory = before.workingDirectory
  kind : ∀ {location node}, before.root.find? location = some node →
    ∃ later, after.root.find? location = some later ∧ later.directoryAccess? = node.directoryAccess?
  unchanged : ∀ {location node}, ¬changed location → before.root.find? location = some node →
    ∃ later, after.root.find? location = some later ∧ later.shell = node.shell
  noNewLink : ∀ {location target}, after.root.find? location = some (.link target) →
    before.root.find? location = some (.link target)

section Growing

variable {changed other : Location → Prop} {before between after tree : FileTree}

theorem Grown.refl (changed : Location → Prop) (tree : FileTree) : Grown changed tree tree where
  workingDirectory := rfl
  kind present := ⟨_, present, rfl⟩
  unchanged _ present := ⟨_, present, rfl⟩
  noNewLink present := present

theorem Grown.trans (first : Grown changed before between) (second : Grown changed between after) :
    Grown changed before after where
  workingDirectory := second.workingDirectory.trans first.workingDirectory
  kind present := by
    rcases first.kind present with ⟨middle, middlePresent, sameKind⟩
    rcases second.kind middlePresent with ⟨later, laterPresent, laterSameKind⟩
    exact ⟨later, laterPresent, laterSameKind.trans sameKind⟩
  unchanged untouched present := by
    rcases first.unchanged untouched present with ⟨middle, middlePresent, sameShell⟩
    rcases second.unchanged untouched middlePresent with ⟨later, laterPresent, laterSameShell⟩
    exact ⟨later, laterPresent, laterSameShell.trans sameShell⟩
  noNewLink present := first.noNewLink (second.noNewLink present)

theorem Grown.mono (grown : Grown changed before after)
    (included : ∀ location, changed location → other location) : Grown other before after where
  workingDirectory := grown.workingDirectory
  kind := grown.kind
  unchanged untouched := grown.unchanged fun isChanged => untouched (included _ isChanged)
  noNewLink := grown.noNewLink

theorem Grown.linkFree (grown : Grown changed before after) (linkFree : before.LinkFree) :
    after.LinkFree :=
  fun location target present => linkFree location target (grown.noNewLink present)

theorem Grown.file (grown : Grown changed before after) {location : Location} {content : List UInt8}
    {mode : Nat} {access : Access} (untouched : ¬changed location)
    (present : before.root.find? location = some (.file content mode access)) :
    after.root.find? location = some (.file content mode access) := by
  rcases grown.unchanged untouched present with ⟨later, laterPresent, sameShell⟩
  cases later with
  | file laterContent laterMode laterAccess => exact laterPresent.trans (congrArg some sameShell)
  | directory entries laterAccess => simp [Node.shell] at sameShell
  | link target => simp [Node.shell] at sameShell

theorem Grown.link (grown : Grown changed before after) {location : Location} {target : String}
    (untouched : ¬changed location) (present : before.root.find? location = some (.link target)) :
    after.root.find? location = some (.link target) := by
  rcases grown.unchanged untouched present with ⟨later, laterPresent, sameShell⟩
  cases later with
  | link laterTarget => exact laterPresent.trans (congrArg some sameShell)
  | file content mode access => simp [Node.shell] at sameShell
  | directory entries access => simp [Node.shell] at sameShell

theorem Grown.directory (grown : Grown changed before after) {location : Location} {entries : Entries}
    {access : DirectoryAccess} (present : before.root.find? location = some (.directory entries access)) :
    ∃ others, after.root.find? location = some (.directory others access) := by
  rcases grown.kind present with ⟨later, laterPresent, sameKind⟩
  rcases Node.exists_of_directoryAccess? sameKind with ⟨others, rfl⟩
  exact ⟨others, laterPresent⟩

section PutAt

variable {parent : Location} {entries : Entries} {access : DirectoryAccess} {name : String} {new : Node}
  (present : tree.root.find? parent = some (.directory entries access))
include present

theorem find?_putAt : (tree.putAt (parent ++ [name]) new).root.find? (parent ++ [name]) = some new := by
  simpa [putAt] using Node.find?_put_self present name new []

/-- Where a directory holds nothing with anything in it under a name, only that can be found there. -/
theorem eq_of_below {location : Location} {node : Node}
    (oldLeaf : ∀ old, entries.find? name = some old → old.IsLeaf)
    (isBelow : parent ++ [name] <+: location) (nodePresent : tree.root.find? location = some node) :
    location = parent ++ [name] ∧ entries.find? name = some node := by
  rcases isBelow with ⟨rest, rfl⟩
  have there : tree.root.find? (parent ++ [name]) = entries.find? name := by
    simp [Node.find?_append, present]
  rw [Node.find?_append, there] at nodePresent
  rcases Option.bind_eq_some_iff.mp nodePresent with ⟨old, found, restPresent⟩
  rcases (oldLeaf old found).find?_eq_some_iff.mp restPresent with ⟨rfl, rfl⟩
  exact ⟨List.append_nil _, found⟩

/-- Putting a file or an empty directory into a directory lets the tree grow, if nothing was there or a file that
may change. -/
theorem grown_putAt (leaf : new.IsLeaf)
    (replaces : ∀ old, entries.find? name = some old →
      old.IsLeaf ∧ old.directoryAccess? = new.directoryAccess? ∧ changed (parent ++ [name])) :
    Grown changed tree (tree.putAt (parent ++ [name]) new) := by
  have apart {location : Location} (isApart : ¬parent ++ [name] <+: location) :
      ((tree.putAt (parent ++ [name]) new).root.find? location).map Node.shell =
        (tree.root.find? location).map Node.shell :=
    Node.shell_find?_put present name new isApart
  have below {location : Location} {node : Node} := @eq_of_below tree parent entries access name present
    location node fun old found => (replaces old found).1
  refine ⟨rfl, ?_, ?_, ?_⟩
  · intro location node nodePresent
    by_cases isBelow : parent ++ [name] <+: location
    · rcases below isBelow nodePresent with ⟨rfl, found⟩
      exact ⟨new, find?_putAt present, (replaces node found).2.1.symm⟩
    · have same := apart isBelow
      rw [nodePresent, Option.map_some] at same
      rcases Option.map_eq_some_iff.mp same with ⟨later, laterPresent, sameShell⟩
      refine ⟨later, laterPresent, ?_⟩
      rw [← Node.directoryAccess?_shell, sameShell, Node.directoryAccess?_shell]
  · intro location node untouched nodePresent
    by_cases isBelow : parent ++ [name] <+: location
    · rcases below isBelow nodePresent with ⟨rfl, found⟩
      exact absurd (replaces node found).2.2 untouched
    · have same := apart isBelow
      rw [nodePresent, Option.map_some] at same
      exact Option.map_eq_some_iff.mp same
  · intro location target linkPresent
    by_cases isBelow : parent ++ [name] <+: location
    · rcases isBelow with ⟨rest, rfl⟩
      rw [putAt, Node.find?_put_self present, leaf.find?_eq_some_iff] at linkPresent
      exact absurd linkPresent.2 (leaf.noLink target)
    · have same := apart isBelow
      rw [linkPresent, Option.map_some] at same
      rcases Option.map_eq_some_iff.mp same.symm with ⟨node, nodePresent, sameShell⟩
      cases node <;> simp_all [Node.shell]

/-- Putting a file where there is nothing or a file lets the tree grow. -/
theorem grown_putAt_file
    (replaceable : ∀ node, tree.root.find? (parent ++ [name]) = some node → ∃ old oldMode oldAccess,
      node = .file old oldMode oldAccess) (content : List UInt8) (mode : Nat) (fileAccess : Access) :
    Grown (· = parent ++ [name]) tree (tree.putAt (parent ++ [name]) (.file content mode fileAccess)) := by
  apply grown_putAt present (Node.isLeaf_file content mode fileAccess)
  intro old found
  have oldPresent : tree.root.find? (parent ++ [name]) = some old := by
    simp [Node.find?_append, present, found]
  rcases replaceable old oldPresent with ⟨_, _, _, rfl⟩
  exact ⟨Node.isLeaf_file _ _ _, rfl, rfl⟩

end PutAt

end Growing

end FileTree

end SkillScan
