import SkillScan.FileTree.Resolve
import SkillScan.Proofs.FileTree.WellFormed

/-!
# Trees listed in another order

Two trees are relistings of each other if they hold the same at every location and differ at most in the
order in which their directories list their entries. Paths are followed by names alone, so they lead to
the same places in both trees.
-/

namespace SkillScan

namespace Node

/-- A node without what a directory has in it. -/
def shell : Node → Node
  | .file content mode access => .file content mode access
  | .directory _ access => .directory .empty access
  | .link target => .link target

/-- Two nodes hold the same at every location. -/
def Relisted (node other : Node) : Prop :=
  ∀ location, (node.find? location).map shell = (other.find? location).map shell

namespace Relisted

theorem refl (node : Node) : node.Relisted node := fun _ => rfl

theorem symm {node other : Node} (relisted : node.Relisted other) : other.Relisted node :=
  fun location => (relisted location).symm

theorem shell_eq {node other : Node} (relisted : node.Relisted other) : node.shell = other.shell := by
  simpa using relisted []

/-- What is at a location of one tree is at the same location of the other. -/
theorem find? {node other found : Node} (relisted : node.Relisted other) {location : Location}
    (present : node.find? location = some found) :
    ∃ otherFound, other.find? location = some otherFound ∧ found.Relisted otherFound := by
  have here := relisted location
  rw [present, Option.map_some] at here
  rcases Option.map_eq_some_iff.mp here.symm with ⟨otherFound, otherPresent, _⟩
  refine ⟨otherFound, otherPresent, ?_⟩
  intro deeper
  have below := relisted (location ++ deeper)
  simpa only [find?_append, present, otherPresent, Option.bind_some] using below

theorem find?_eq_none {node other : Node} (relisted : node.Relisted other) {location : Location}
    (absent : node.find? location = none) : other.find? location = none := by
  have here := relisted location
  rw [absent, Option.map_none] at here
  exact Option.map_eq_none_iff.mp here.symm

theorem eq_directory {entries : Entries} {access : DirectoryAccess} {other : Node}
    (relisted : (Node.directory entries access).Relisted other) :
    ∃ others, other = .directory others access := by
  have same := relisted.shell_eq
  cases other with
  | file content mode access => simp [shell] at same
  | link target => simp [shell] at same
  | directory others otherAccess =>
      simp only [shell, Node.directory.injEq, true_and] at same
      exact ⟨others, by rw [same]⟩

theorem eq_link {target : String} {other : Node} (relisted : (Node.link target).Relisted other) :
    other = .link target := by
  have same := relisted.shell_eq
  cases other <;> simp_all [shell]

theorem eq_file {content : List UInt8} {mode : Nat} {access : Access} {other : Node}
    (relisted : (Node.file content mode access).Relisted other) :
    other = .file content mode access := by
  have same := relisted.shell_eq
  cases other <;> simp_all [shell]

section Directory

variable {entries others : Entries} {access : DirectoryAccess}

theorem find?_entry (relisted : (Node.directory entries access).Relisted (.directory others access))
    {name : String} {child : Node} (found : entries.find? name = some child) :
    ∃ otherChild, others.find? name = some otherChild ∧ child.Relisted otherChild := by
  have present : (Node.directory entries access).find? [name] = some child := by simp [found]
  rcases relisted.find? present with ⟨otherChild, otherPresent, childRelisted⟩
  exact ⟨otherChild, by simpa using otherPresent, childRelisted⟩

theorem find?_entry_eq_none
    (relisted : (Node.directory entries access).Relisted (.directory others access))
    {name : String} (absent : entries.find? name = none) : others.find? name = none := by
  have missing : (Node.directory entries access).find? [name] = none := by simp [absent]
  simpa using relisted.find?_eq_none missing

/-- Directories with relisted entries under the same names are relisted. -/
theorem directory (same : ∀ name, Option.Rel Relisted (entries.find? name) (others.find? name)) :
    (Node.directory entries access).Relisted (.directory others access) := by
  intro location
  cases location with
  | nil => rfl
  | cons name location =>
      have child := same name
      simp only [find?_cons]
      generalize entries.find? name = left at child
      generalize others.find? name = right at child
      cases child with
      | none => rfl
      | some childRelisted => exact childRelisted location

/-- Listing the entries of a directory in another order relists it. -/
theorem of_perm (wellFormed : entries.WellFormed) (othersWellFormed : others.WellFormed)
    (perm : entries.toList.Perm others.toList) :
    (Node.directory entries access).Relisted (.directory others access) := by
  apply directory
  intro name
  have same : entries.find? name = others.find? name := by
    apply Option.ext
    intro child
    rw [← Entries.mem_toList_iff wellFormed, ← Entries.mem_toList_iff othersWellFormed]
    exact perm.mem_iff
  rw [same]
  cases others.find? name with
  | none => exact .none
  | some child => exact .some (refl child)

end Directory

end Relisted

end Node

/-- Two trees with one working directory that hold the same at every location. -/
structure FileTree.Relisted (tree other : FileTree) : Prop where
  root : tree.root.Relisted other.root
  workingDirectory : tree.workingDirectory = other.workingDirectory

/-- A step that names something is taken exactly from directories that may be searched. -/
theorem DirectoryAccess.admits_eq_searchable (access : DirectoryAccess) {step : String} (named : step ≠ "") :
    access.admits step = access.searchable := by
  simp [admits, named]

namespace FileTree

theorem Relisted.symm {tree other : FileTree} (relisted : tree.Relisted other) : other.Relisted tree :=
  ⟨relisted.root.symm, relisted.workingDirectory.symm⟩

/-! ## Following paths -/

/-- A place without what a directory has in it. -/
def Place.shell : Place → Place
  | .found location node => .found location node.shell
  | .vacant parent name => .vacant parent name

section Follow

variable {root other : Node} {purpose : Purpose}

theorem passAlong_shell (relisted : root.Relisted other)
    {viaLink otherViaLink : Location → List String → Except Fault Place}
    (links : ∀ here steps,
      (viaLink here steps).map Place.shell = (otherViaLink here steps).map Place.shell)
    (here : Location) (steps : List String) :
    (passAlong root purpose viaLink here steps).map Place.shell =
      (passAlong other purpose otherViaLink here steps).map Place.shell := by
  induction steps generalizing here with
  | nil =>
      simp only [passAlong]
      cases present : root.find? here with
      | none => simp [relisted.find?_eq_none present, Except.map]
      | some node =>
          rcases relisted.find? present with ⟨otherNode, otherPresent, nodeRelisted⟩
          simp [otherPresent, Except.map, Place.shell, nodeRelisted.shell_eq]
  | cons step rest ih =>
      simp only [passAlong]
      cases present : root.find? here with
      | none => simp [relisted.find?_eq_none present]
      | some node =>
          rcases relisted.find? present with ⟨otherNode, otherPresent, nodeRelisted⟩
          cases node with
          | file content mode access =>
              rw [nodeRelisted.eq_file] at otherPresent
              simp [otherPresent]
          | link target =>
              rw [nodeRelisted.eq_link] at otherPresent
              simp [otherPresent]
          | directory entries access =>
              rcases nodeRelisted.eq_directory with ⟨others, rfl⟩
              simp only [otherPresent]
              split
              · rfl
              · split
                · exact ih here
                · split
                  · exact ih here.dropLast
                  · split
                    · rfl
                    · split
                      · rfl
                      · cases found : entries.find? step with
                        | none => simp [nodeRelisted.find?_entry_eq_none found]
                        | some child =>
                            rcases nodeRelisted.find?_entry found with
                              ⟨otherChild, otherFound, childRelisted⟩
                            cases child with
                            | file content mode fileAccess =>
                                rw [childRelisted.eq_file] at otherFound
                                simpa only [otherFound] using ih (here ++ [step])
                            | directory inner innerAccess =>
                                rcases childRelisted.eq_directory with ⟨otherInner, rfl⟩
                                simpa only [otherFound] using ih (here ++ [step])
                            | link target =>
                                rw [childRelisted.eq_link] at otherFound
                                simp only [otherFound]
                                split
                                · rfl
                                · exact links _ _

theorem follow_shell (relisted : root.Relisted other) (links : Nat) (here : Location)
    (steps : List String) :
    (follow root purpose links here steps).map Place.shell =
      (follow other purpose links here steps).map Place.shell := by
  induction links generalizing here steps with
  | zero =>
      -- With no links left, both trees report a loop at the first one.
      exact passAlong_shell relisted (fun _ _ => rfl) here steps
  | succ links ih => exact passAlong_shell relisted ih here steps

/-- What a path is found to lead to stands at the location found. -/
theorem find?_of_passAlong {viaLink : Location → List String → Except Fault Place}
    (links : ∀ here steps location node,
      viaLink here steps = .ok (.found location node) → root.find? location = some node)
    {here location : Location} {steps : List String} {node : Node}
    (led : passAlong root purpose viaLink here steps = .ok (.found location node)) :
    root.find? location = some node := by
  induction steps generalizing here with
  | nil =>
      simp only [passAlong] at led
      split at led
      · next present =>
          simp only [Except.ok.injEq, Place.found.injEq] at led
          rcases led with ⟨rfl, rfl⟩
          exact present
      · simp at led
  | cons step rest ih =>
      simp only [passAlong] at led
      split at led
      · next entries access present =>
          split at led
          · simp at led
          · split at led
            · exact ih led
            · split at led
              · exact ih led
              · split at led
                · simp at led
                · split at led
                  · simp at led
                  · split at led
                    · split at led <;> simp at led
                    · next target found =>
                        split at led
                        · simp only [Except.ok.injEq, Place.found.injEq] at led
                          rcases led with ⟨rfl, rfl⟩
                          simp [Node.find?_append, present, found]
                        · exact links _ _ _ _ led
                    · exact ih led
      · simp at led

theorem find?_of_follow {links : Nat} {here location : Location} {steps : List String} {node : Node}
    (led : follow root purpose links here steps = .ok (.found location node)) :
    root.find? location = some node := by
  induction links generalizing here steps location node with
  | zero => exact find?_of_passAlong (by simp) led
  | succ links ih => exact find?_of_passAlong (fun _ _ _ _ => ih) led

end Follow

theorem place_shell {tree other : FileTree} (relisted : tree.Relisted other) (purpose : Purpose)
    (text : String) :
    (tree.place purpose text).map Place.shell = (other.place purpose text).map Place.shell := by
  have origins : tree.origin text = other.origin text := by
    simp only [origin, relisted.workingDirectory]
  have followed := @follow_shell _ _ purpose relisted.root maxLinks (other.origin text)
    (stepsOf text)
  simp only [place, origins]
  split
  · rfl
  · split
    · rfl
    · generalize follow tree.root purpose maxLinks (other.origin text) (stepsOf text) = led at followed
      generalize follow other.root purpose maxLinks (other.origin text) (stepsOf text) = otherLed
        at followed
      cases led <;> cases otherLed <;> simp_all [Except.map]

theorem follow_of_place {tree : FileTree} {purpose : Purpose} {text : String} {place : Place}
    (led : tree.place purpose text = .ok place) :
    follow tree.root purpose maxLinks (tree.origin text) (stepsOf text) = .ok place := by
  simp only [FileTree.place] at led
  split at led
  · simp at led
  · split at led
    · simp at led
    · split at led
      · next found followed => rw [followed, Except.ok.inj led]
      · simp at led

theorem lookup_eq_ok_iff {tree : FileTree} {text : String} {location : Location} {node : Node} :
    tree.lookup text = .ok (location, node) ↔
      tree.place .content text = .ok (.found location node) := by
  simp only [lookup]
  cases placed : tree.place .content text with
  | error error => simp [bind, Except.bind]
  | ok place => cases place <;> simp [bind, Except.bind]

theorem lookup_of_long {tree : FileTree} {text : String} (noNul : '\x00' ∉ text.toList)
    (long : maxPathBytes ≤ text.utf8ByteSize) :
    tree.lookup text = .error (.system .nameTooLong (some text)) := by
  simp [lookup, place, noNul, long, bind, Except.bind]

theorem find?_of_lookup {tree : FileTree} {text : String} {location : Location} {node : Node}
    (led : tree.lookup text = .ok (location, node)) : tree.root.find? location = some node :=
  find?_of_follow (follow_of_place (lookup_eq_ok_iff.mp led))

theorem wellFormed_of_lookup {tree : FileTree} (wellFormed : tree.WellFormed) {text : String} {location : Location}
    {node : Node} (led : tree.lookup text = .ok (location, node)) : node.WellFormed :=
  Node.wellFormed_of_find? wellFormed.root (find?_of_lookup led)

/-- A path leads to one location in both trees. -/
theorem lookup_of_relisted {tree other : FileTree} (relisted : tree.Relisted other) {text : String}
    {location : Location} {node : Node} (led : tree.lookup text = .ok (location, node)) :
    ∃ otherNode, other.lookup text = .ok (location, otherNode) ∧ node.Relisted otherNode := by
  have placed := place_shell relisted .content text
  rw [lookup_eq_ok_iff.mp led] at placed
  cases otherPlaced : other.place .content text with
  | error error => simp [otherPlaced, Except.map] at placed
  | ok place =>
      cases place with
      | vacant parent name => simp [otherPlaced, Except.map, Place.shell] at placed
      | found otherLocation otherNode =>
          simp only [otherPlaced, Except.map, Place.shell, Except.ok.injEq, Place.found.injEq]
            at placed
          rcases placed with ⟨rfl, _⟩
          have otherLed := lookup_eq_ok_iff.mpr otherPlaced
          rcases relisted.root.find? (find?_of_lookup led) with ⟨found, foundPresent, nodeRelisted⟩
          rw [find?_of_lookup otherLed] at foundPresent
          rw [← Option.some.inj foundPresent] at nodeRelisted
          exact ⟨otherNode, otherLed, nodeRelisted⟩

/-- A path that leads nowhere in one tree fails alike in the other. -/
theorem lookup_error_of_relisted {tree other : FileTree} (relisted : tree.Relisted other) {text : String}
    {error : FileError} (failed : tree.lookup text = .error error) : other.lookup text = .error error := by
  have placed := place_shell relisted .content text
  simp only [lookup] at failed ⊢
  cases here : tree.place .content text with
  | error fault =>
      cases there : other.place .content text <;> simp_all [Except.map, bind, Except.bind]
  | ok place =>
      cases place with
      | found location node => simp [here, bind, Except.bind] at failed
      | vacant parent name =>
          rw [here] at placed
          cases there : other.place .content text with
          | error fault => simp [there, Except.map] at placed
          | ok otherPlace =>
              cases otherPlace <;> simp_all [Except.map, Place.shell, bind, Except.bind]

end FileTree

end SkillScan
