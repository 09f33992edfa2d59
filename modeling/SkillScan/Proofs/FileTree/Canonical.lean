import SkillScan.FileTree.Resolve
import SkillScan.Proofs.FileTree.Relisting
import SkillScan.Proofs.Path.NormalForm

/-!
# Canonical paths are in normal form

Resolving puts a path together from pieces of texts: of the path itself, of the targets of links and of
the working directory. No piece holds a slash, and empty pieces and dots are passed over, so every path on
the way is in normal form; what is kept is that the path so far and all links that have been met lead to
such paths.
-/

namespace SkillScan

namespace Path

/-- A step that may be a name if it does not stay in the directory. -/
def IsPiece (piece : String) : Prop :=
  '/' ∉ piece.toList

theorem isName_of_isPiece {piece : String} (isPiece : IsPiece piece)
    (leaves : FileTree.staysHere piece = false) : IsName piece := by
  simp only [FileTree.staysHere, Bool.or_eq_false_iff, decide_eq_false_iff_not] at leaves
  exact ⟨leaves.2, leaves.1, isPiece⟩

namespace Normal

variable {path other : Path}

theorem append {name : String} (normal : path.Normal) (isName : IsName name) :
    Normal ⟨path.anchor, path.names ++ [name]⟩ := by
  intro some member
  rcases List.mem_append.mp member with member | member
  · exact normal some member
  · exact List.mem_singleton.mp member ▸ isName

theorem parent (normal : path.Normal) : path.parent.Normal := by
  intro name member
  exact normal name (List.dropLast_subset _ member)

theorem join (normal : path.Normal) (otherNormal : other.Normal) : (path.join other).Normal := by
  simp only [Path.join]
  split
  · intro name member
    rcases List.mem_append.mp member with member | member
    · exact normal name member
    · exact otherNormal name member
  · exact otherNormal

theorem stepUp (normal : path.Normal) : (FileTree.stepUp path).Normal := by
  simp only [FileTree.stepUp]
  split
  · intro name member
    rcases List.mem_cons.mp member with rfl | member
    · exact ⟨by decide, by decide, by decide⟩
    · exact normal name member
  · exact normal.parent

end Normal

end Path

namespace FileTree

theorem isPiece_of_mem_piecesOf {text piece : String} (member : piece ∈ piecesOf text) :
    Path.IsPiece piece := by
  simp only [piecesOf, List.mem_map] at member
  rcases member with ⟨chars, charsMem, rfl⟩
  rw [Path.IsPiece, String.toList_ofList]
  exact Text.not_mem_of_mem_splitAt charsMem

theorem normal_joinPieces {path : Path} (normal : path.Normal) (pieces : List String) :
    (joinPieces path pieces).Normal :=
  normal.join (Path.normal_ofText _)

/-- All links that have been followed lead to paths in normal form. -/
def MetLinks.Normal (met : MetLinks) : Prop :=
  ∀ path known, (path, some known) ∈ met → known.Normal

/-- A resolved path and the links met on its way are in normal form. -/
def NormalResult (result : Canonical × MetLinks) : Prop :=
  result.1.path.Normal ∧ MetLinks.Normal result.2

theorem MetLinks.normal_nil : MetLinks.Normal [] := by
  intro path known member
  simp at member

theorem MetLinks.Normal.meet {met : MetLinks} (normal : met.Normal) (there : Path) :
    MetLinks.Normal ((there, none) :: met) := by
  intro path known member
  simp only [List.mem_cons, Prod.mk.injEq, reduceCtorEq, and_false, false_or] at member
  exact normal path known member

theorem MetLinks.Normal.learn {met : MetLinks} (normal : met.Normal) (there : Path) {leadsTo : Path}
    (leadsToNormal : leadsTo.Normal) : MetLinks.Normal ((there, some leadsTo) :: met) := by
  intro path known member
  simp only [List.mem_cons, Prod.mk.injEq, Option.some.injEq] at member
  rcases member with ⟨_, rfl⟩ | member
  · exact leadsToNormal
  · exact normal path known member

theorem MetLinks.Normal.lookup {met : MetLinks} (normal : met.Normal) {there known : Path}
    (found : met.lookup there = some (some known)) : known.Normal := by
  rcases List.lookup_eq_some_iff.mp found with ⟨before, behind, split, _⟩
  exact normal there known (by simp [split])

section Resolve

variable {tree : FileTree}

theorem normal_resolveAlong {follower : LinkFollower}
    (follows : ∀ (here : Path) (met : MetLinks) (target : String), here.Normal → met.Normal →
      NormalResult (follower here met target))
    {steps : List String} (pieces : ∀ step ∈ steps, Path.IsPiece step) {here : Path} {met : MetLinks}
    (normal : here.Normal) (metNormal : met.Normal) :
    NormalResult (resolveAlong tree follower here met steps) := by
  induction steps generalizing here met with
  | nil => exact ⟨normal, metNormal⟩
  | cons step rest ih =>
      have restPieces : ∀ later ∈ rest, Path.IsPiece later := by
        intro later member
        exact pieces later (List.mem_cons_of_mem step member)
      simp only [resolveAlong]
      split
      · exact ih restPieces normal metNormal
      · next leaves =>
          split
          · exact ih restPieces normal.stepUp metNormal
          · have isName : Path.IsName step :=
              Path.isName_of_isPiece (pieces step (by simp)) (by simpa using leaves)
            have thereNormal := normal.append isName
            split
            · exact ih restPieces thereNormal metNormal
            · next known found => exact ih restPieces (metNormal.lookup found) metNormal
            · exact ⟨normal_joinPieces thereNormal rest, metNormal⟩
            · next target _ _ =>
                have followed := follows here _ target normal
                  (metNormal.meet ⟨here.anchor, here.names ++ [step]⟩)
                split
                · next known later same =>
                    rw [same] at followed
                    exact ih restPieces followed.1 (followed.2.learn _ followed.1)
                · next path later same =>
                    rw [same] at followed
                    exact ⟨normal_joinPieces followed.1 rest, followed.2⟩

theorem normal_resolveWithin {depth : Nat} {steps : List String}
    (pieces : ∀ step ∈ steps, Path.IsPiece step) {here : Path} {met : MetLinks} (normal : here.Normal)
    (metNormal : met.Normal) : NormalResult (resolveWithin tree depth here met steps) := by
  induction depth generalizing steps here met with
  | zero =>
      -- No links are followed any more, and the path so far is kept.
      apply normal_resolveAlong _ pieces normal metNormal
      intro here met target normal metNormal
      exact ⟨normal, metNormal⟩
  | succ depth ih =>
      apply normal_resolveAlong _ pieces normal metNormal
      intro here met target normal metNormal
      have targetPieces : ∀ step ∈ piecesOf target, Path.IsPiece step := by
        intro step member
        exact isPiece_of_mem_piecesOf member
      apply ih targetPieces _ metNormal
      split
      · intro name member
        simp [pathTo] at member
      · exact normal

theorem isName_of_mem_workingDirectory (wellFormed : tree.WellFormed) :
    ∀ name ∈ tree.workingDirectory, Path.IsName name := by
  rcases Option.any_eq_true _ _ |>.mp wellFormed.workingDirectory with ⟨node, found, _⟩
  intro name member
  exact Path.isName_of_isEntryName (Node.isEntryName_of_find? wellFormed.root found name member)

/-- Taking steps back and forth leads through names only. -/
theorem isName_of_mem_foldl {names start : List String} (areNames : ∀ name ∈ names, Path.IsName name)
    (startNames : ∀ name ∈ start, Path.IsName name) :
    ∀ name ∈ names.foldl
      (fun names name => if name = ".." then names.dropLast else names ++ [name]) start,
      Path.IsName name := by
  induction names generalizing start with
  | nil => exact startNames
  | cons first names ih =>
      apply ih (fun name member => areNames name (List.mem_cons_of_mem first member))
      intro name member
      simp only at member
      split at member
      · exact startNames name (List.dropLast_subset _ member)
      · rcases List.mem_append.mp member with member | member
        · exact startNames name member
        · exact List.mem_singleton.mp member ▸ areNames first (by simp)

theorem normal_fromRoot (wellFormed : tree.WellFormed) {path : Path} (normal : path.Normal) :
    (tree.fromRoot path).Normal := by
  simp only [fromRoot]
  split
  · exact isName_of_mem_foldl normal (isName_of_mem_workingDirectory wellFormed)
  · exact isName_of_mem_foldl normal (by simp)

/-- A path whose links have been followed is in normal form. -/
theorem normal_canonical (wellFormed : tree.WellFormed) (path : Path) : (tree.canonical path).Normal := by
  simp only [canonical]
  apply normal_fromRoot wellFormed
  have pieces : ∀ step ∈ piecesOf path.text, Path.IsPiece step := by
    intro step member
    exact isPiece_of_mem_piecesOf member
  apply (normal_resolveWithin pieces _ MetLinks.normal_nil).1
  intro name member
  split at member <;> simp [pathTo] at member

end Resolve

/-! ## Files of the working directory -/

section Name

variable {name : String}

theorem not_isAnchored_of_isEntryName (isName : IsEntryName name) : isAnchored name = false := by
  simpa [isAnchored] using Path.head?_ne_slash (Path.isName_of_isEntryName isName)

theorem piecesOf_of_isEntryName (isName : IsEntryName name) : piecesOf name = [name] := by
  simp [piecesOf, not_isAnchored_of_isEntryName isName, Text.splitAt_of_not_mem isName.noSlash]

theorem stepsOf_of_isEntryName (isName : IsEntryName name) : stepsOf name = [name] := by
  have noSlashLast : name.toList.getLast? ≠ some '/' := by
    intro last
    exact isName.noSlash (List.mem_of_getLast? last)
  simp [stepsOf, Text.splitAt_of_not_mem isName.noSlash, noSlashLast, isName.nonempty]

theorem text_ofText_of_isEntryName (isName : IsEntryName name) : (Path.ofText name).text = name := by
  rw [Path.ofText_name (Path.isName_of_isEntryName isName), Path.text_name]

theorem not_staysHere_of_isEntryName (isName : IsEntryName name) : staysHere name = false := by
  simp [staysHere, isName.notHere, isName.nonempty]

theorem admits_of_isEntryName {access : DirectoryAccess} (isName : IsEntryName name)
    (searchable : access.searchable = true) : access.admits name = true := by
  rw [access.admits_eq_searchable isName.nonempty, searchable]

variable {tree : FileTree} {entries : Entries} {access : DirectoryAccess} {fileAccess : Access}
  {content : List UInt8} {mode : Nat}

/-- The name of a file in the working directory leads to the file. -/
theorem place_of_file (isName : IsEntryName name) (short : name.utf8ByteSize ≤ maxNameBytes)
    (here : tree.root.find? tree.workingDirectory = some (.directory entries access))
    (searchable : access.searchable = true)
    (found : entries.find? name = some (.file content mode fileAccess)) (purpose : Purpose) :
    tree.place purpose name =
      .ok (.found (tree.workingDirectory ++ [name]) (.file content mode fileAccess)) := by
  have notLong : ¬name.utf8ByteSize ≥ maxPathBytes := by
    simp only [maxNameBytes, maxPathBytes] at short ⊢
    omega
  have file : tree.root.find? (tree.workingDirectory ++ [name]) =
      some (.file content mode fileAccess) := by
    simp [Node.find?_append, here, found]
  have led : follow tree.root purpose maxLinks tree.workingDirectory [name] =
      .ok (.found (tree.workingDirectory ++ [name]) (.file content mode fileAccess)) := by
    have nameFits : ¬name.utf8ByteSize > maxNameBytes := by omega
    have admits := admits_of_isEntryName isName searchable
    simp [maxLinks, follow, passAlong, here, admits, not_staysHere_of_isEntryName isName, isName.notUp, nameFits,
      found, file]
  simp [place, isName.noNul, notLong, origin, not_isAnchored_of_isEntryName isName,
    stepsOf_of_isEntryName isName, led]

theorem canonical_of_file (isName : IsEntryName name) (short : name.utf8ByteSize ≤ maxNameBytes)
    (here : tree.root.find? tree.workingDirectory = some (.directory entries access))
    (searchable : access.searchable = true)
    (found : entries.find? name = some (.file content mode fileAccess)) :
    tree.canonical (.ofText name) = pathTo (tree.workingDirectory ++ [name]) := by
  have noLink : tree.linkAt? ⟨.workingDirectory, [name]⟩ = none := by
    simp [linkAt?, Path.text_name, place_of_file isName short here searchable found]
  have along (follower : LinkFollower) :
      resolveAlong tree follower ⟨.workingDirectory, []⟩ [] [name] =
        (.reached ⟨.workingDirectory, [name]⟩, []) := by
    simp [resolveAlong, not_staysHere_of_isEntryName isName, isName.notUp, noLink]
  have within (depth : Nat) : resolveWithin tree depth ⟨.workingDirectory, []⟩ [] [name] =
      (.reached ⟨.workingDirectory, [name]⟩, []) := by
    cases depth <;> simp only [resolveWithin, along]
  simp [canonical, text_ofText_of_isEntryName isName, not_isAnchored_of_isEntryName isName,
    piecesOf_of_isEntryName isName, within, Canonical.path, fromRoot, isName.notUp]

end Name

end FileTree

end SkillScan
