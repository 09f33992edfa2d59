import Mathlib.Data.String.Basic
import SkillScan.Walk
import SkillScan.Proofs.FileTree.WellFormed

/-!
# The stops of a walk

What a walk has to visit is said here without walking. A directory is *reached* through listable
directories that are not passed over, never through a link. The *stops* of a walk are the wanted entries
of reached listable directories that are no directories themselves, and the reached directories that
cannot be listed. Stops are ordered by the first place where their routes part: a file stands before a
directory, and two of a kind stand in the order of their names.

The order is asymmetric, so a list of stops that follows it holds no stop twice and is determined by its
members.
-/

namespace SkillScan

/-- The names that lead on from the root of a walk. -/
abbrev Route := List String

/-- A place where a walk stops, by the way to it from the root of the walk. -/
inductive Stop where
  | file (directory : Route) (name : String)
  | unlistable (directory : Route) (error : FileError)

/-- A name on the way to a stop. -/
structure Component where
  name : String
  /-- Whether the name leads to a directory, which is so for all but the name of a file. -/
  isDirectory : Bool
  deriving DecidableEq

/-- Files come before directories, and two components of a kind in the order of their names. -/
def Component.Precedes (first second : Component) : Prop :=
  (first.isDirectory = false ∧ second.isDirectory = true) ∨
    (first.isDirectory = second.isDirectory ∧ first.name < second.name)

namespace Stop

/-- The names on the way to a stop. -/
def components : Stop → List Component
  | .file directory name => directory.map (⟨·, true⟩) ++ [⟨name, false⟩]
  | .unlistable directory _ => directory.map (⟨·, true⟩)

/-- One stop comes before another if it does so by the first component in which they differ. -/
def Precedes (first second : Stop) : Prop :=
  ∃ shared component other rest others,
    first.components = shared ++ component :: rest ∧
      second.components = shared ++ other :: others ∧
      component.name ≠ other.name ∧ component.Precedes other

/-- What a walk from a path visits at a stop. -/
def visit (root : Path) : Stop → Visit
  | .file directory name => .file ⟨root.anchor, root.names ++ directory ++ [name]⟩
  | .unlistable _ error => .unlistable error

/-- The stop as it is seen from the directory around. -/
def under (name : String) : Stop → Stop
  | .file directory last => .file (name :: directory) last
  | .unlistable directory error => .unlistable (name :: directory) error

end Stop

namespace Walk

/-- The text of the path to what a route leads to. -/
def written (root : String) (route : Route) : String :=
  route.foldl extend root

/-- Whether what a walk finds at a written path is a directory or a link to one. -/
def looksLikeDirectory (tree : FileTree) (path : String) : Node → Bool
  | .file _ _ _ => false
  | .directory _ _ => true
  | .link _ =>
    match tree.lookup path with
    | .ok (_, .directory _ _) => true
    | _ => false

/-- A directory is reached from another one, which has a written path, through directories that can be
listed. The directory itself and those on the way are not passed over, except for the first one. -/
inductive Reaches (selection : Selection) (tree : FileTree) :
    (path : String) → Node → Route → Entries → DirectoryAccess → Prop where
  | here {path : String} {entries : Entries} {access : DirectoryAccess} :
      Reaches selection tree path (.directory entries access) [] entries access
  | into {path name : String} {entries inside : Entries} {access insideAccess : DirectoryAccess}
      {child : Node} {route : Route}
      (listable : listingError? tree path = none)
      (present : entries.find? name = some child)
      (kept : selection.excludes name = false)
      (reached : Reaches selection tree (extend path name) child route inside insideAccess) :
      Reaches selection tree path (.directory entries access) (name :: route) inside insideAccess

/-- The stops of a walk from a node with a written path. -/
def StopsAt (selection : Selection) (tree : FileTree) (path : String) (top : Node) : Stop → Prop
  | .file directory name =>
    ∃ entries access node,
      Reaches selection tree path top directory entries access ∧
        listingError? tree (written path directory) = none ∧
        entries.find? name = some node ∧
        looksLikeDirectory tree (written path (directory ++ [name])) node = false ∧
        Text.lowercase (String.ofList (Path.suffixOf name.toList)) ∈ selection.extensions
  | .unlistable directory error =>
    ∃ entries access,
      Reaches selection tree path top directory entries access ∧
        listingError? tree (written path directory) = some error

/-- All stops of a walk from a node with a written path, in their order. -/
structure Itinerary (selection : Selection) (tree : FileTree) (path : String) (top : Node)
    (stops : List Stop) : Prop where
  members : ∀ stop, stop ∈ stops ↔ StopsAt selection tree path top stop
  ordered : stops.Pairwise Stop.Precedes

end Walk

/-! ## The order of stops -/

namespace Component

theorem Precedes.asymm {first second : Component} (forward : first.Precedes second) :
    ¬second.Precedes first := by
  intro backward
  rcases forward with ⟨firstFile, secondDirectory⟩ | ⟨same, less⟩
  · rcases backward with ⟨secondFile, _⟩ | ⟨same, _⟩
    · simp [secondDirectory] at secondFile
    · simp [firstFile, secondDirectory] at same
  · rcases backward with ⟨secondFile, firstDirectory⟩ | ⟨_, greater⟩
    · simp [secondFile, firstDirectory] at same
    · exact lt_asymm less greater

end Component

namespace Stop

/-- Two lists part at one place only. -/
theorem parting_unique {shared shared' rest rest' others others' : List Component}
    {component component' other other' : Component}
    (first : shared ++ component :: rest = shared' ++ component' :: rest')
    (second : shared ++ other :: others = shared' ++ other' :: others')
    (parted : component ≠ other) (parted' : component' ≠ other') :
    component = component' ∧ other = other' := by
  induction shared generalizing shared' with
  | nil =>
      cases shared' with
      | nil =>
          simp only [List.nil_append, List.cons.injEq] at first second
          exact ⟨first.1, second.1⟩
      | cons head shared' =>
          simp only [List.nil_append, List.cons_append, List.cons.injEq] at first second
          exact absurd (first.1.trans second.1.symm) parted
  | cons head shared ih =>
      cases shared' with
      | nil =>
          simp only [List.nil_append, List.cons_append, List.cons.injEq] at first second
          exact absurd (first.1.symm.trans second.1) parted'
      | cons head' shared' =>
          simp only [List.cons_append, List.cons.injEq] at first second
          exact ih first.2 second.2

theorem Precedes.asymm {first second : Stop} (forward : first.Precedes second) :
    ¬second.Precedes first := by
  rintro ⟨shared', other', component', others', rest', secondEq', firstEq', parted', backward⟩
  rcases forward with ⟨shared, component, other, rest, others, firstEq, secondEq, parted, forward⟩
  have partedPair : component ≠ other := fun same => parted (congrArg Component.name same)
  have partedPair' : component' ≠ other' := fun same => parted' (congrArg Component.name same).symm
  -- Both orders are decided where the stops part, and that is one place.
  rcases parting_unique (firstEq.symm.trans firstEq') (secondEq.symm.trans secondEq')
    partedPair partedPair' with ⟨rfl, rfl⟩
  exact forward.asymm backward

theorem Precedes.components_ne {first second : Stop} (precedes : first.Precedes second) :
    first.components ≠ second.components := by
  intro same
  rcases precedes with ⟨shared, component, other, rest, others, firstEq, secondEq, parted, _⟩
  rw [firstEq, secondEq, List.append_cancel_left_eq, List.cons.injEq] at same
  exact parted (congrArg Component.name same.1)

theorem nodup_components {stops : List Stop} (ordered : stops.Pairwise Precedes) :
    (stops.map components).Nodup :=
  List.pairwise_map.mpr (ordered.imp Precedes.components_ne)

theorem nodup_of_precedes {stops : List Stop} (ordered : stops.Pairwise Precedes) : stops.Nodup :=
  ordered.imp fun precedes same => precedes.components_ne (congrArg components same)

/-- Stops that follow their order are determined by which they are. -/
theorem eq_of_mem_iff {stops others : List Stop} (ordered : stops.Pairwise Precedes)
    (othersOrdered : others.Pairwise Precedes) (same : ∀ stop, stop ∈ stops ↔ stop ∈ others) :
    stops = others := by
  have perm : stops.Perm others :=
    (List.perm_ext_iff_of_nodup (nodup_of_precedes ordered)
      (nodup_of_precedes othersOrdered)).mpr same
  apply List.Perm.eq_of_pairwise _ ordered othersOrdered perm
  intro first second _ _ forward backward
  exact absurd backward forward.asymm

theorem precedes_of_heads {first second : Stop} {component other : Component}
    (firstHead : first.components.head? = some component)
    (secondHead : second.components.head? = some other)
    (parted : component.name ≠ other.name) (precedes : component.Precedes other) :
    first.Precedes second := by
  rcases List.head?_eq_some_iff.mp firstHead with ⟨rest, firstEq⟩
  rcases List.head?_eq_some_iff.mp secondHead with ⟨others, secondEq⟩
  exact ⟨[], component, other, rest, others, firstEq, secondEq, parted, precedes⟩

@[simp]
theorem components_under (name : String) (stop : Stop) :
    (stop.under name).components = ⟨name, true⟩ :: stop.components := by
  cases stop <;> rfl

theorem Precedes.under {first second : Stop} (precedes : first.Precedes second) (name : String) :
    (first.under name).Precedes (second.under name) := by
  rcases precedes with ⟨shared, component, other, rest, others, firstEq, secondEq, parted⟩
  refine ⟨⟨name, true⟩ :: shared, component, other, rest, others, ?_, ?_, parted⟩
  · simp [firstEq]
  · simp [secondEq]

end Stop

end SkillScan
