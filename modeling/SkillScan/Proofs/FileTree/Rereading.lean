import SkillScan.Proofs.FileTree.Way

/-!
# Reading what has been written

A file that has been written is read under its path again, whether or not links stand on the way. Writing changes
nothing that the path leads through: its directories are still there, and so are its links, with the same targets.
The same steps therefore lead to the same location, where the file now is.
-/

namespace SkillScan.FileTree

section Steps

variable {root : Node} {purpose : Purpose} {here : Location} {steps : List String} {place : Place} {links : Nat}
  {viaLink : Location → List String → Except Fault Place}

theorem isIn_of_passAlong
    (throughLinks : ∀ {here steps}, viaLink here steps = .ok place → place.IsIn root)
    (led : passAlong root purpose viaLink here steps = .ok place) : place.IsIn root := by
  induction steps generalizing here with
  | nil =>
      simp only [passAlong] at led
      split at led
      · next present =>
          cases led
          exact present
      · simp at led
  | cons step rest ih =>
      rcases exists_of_passAlong_cons led with
        ⟨entries, access, present, _, ⟨_, further⟩ | ⟨_, further⟩ | ⟨_, entry⟩⟩
      · exact ih further
      · exact ih further
      · rcases entry with ⟨absent, _, rfl⟩ | ⟨target, found, ⟨_, rfl⟩ | further⟩ | ⟨child, _, _, further⟩
        · exact ⟨entries, access, present, absent⟩
        · exact (find?_entry_of_find? present step).trans found
        · exact throughLinks further
        · exact ih further

/-- By induction on the links that may be followed. -/
theorem isIn_of_follow (led : follow root purpose links here steps = .ok place) : place.IsIn root := by
  induction links generalizing here steps with
  | zero => exact isIn_of_passAlong (by simp) led
  | succ links ih => exact isIn_of_passAlong ih led

end Steps

/-! ## The same steps -/

section Rewritten

variable {before after : FileTree} {here : Location} {steps : List String} {place : Place} {links : Nat}
  {viaLink laterViaLink : Location → List String → Except Fault Place} {content : List UInt8} {mode : Nat}
  {access : Access} (grown : Grown (· = place.location) before after)
  (there : after.root.find? place.location = some (.file content mode access))
  (noLink : ∀ target, before.root.find? place.location ≠ some (.link target))
include grown there noLink

theorem passAlong_rewritten
    (throughLinks : ∀ {here steps}, viaLink here steps = .ok place →
      laterViaLink here steps = .ok (.found place.location (.file content mode access)))
    (led : passAlong before.root .writing viaLink here steps = .ok place) :
    passAlong after.root .content laterViaLink here steps =
      .ok (.found place.location (.file content mode access)) := by
  induction steps generalizing here with
  | nil =>
      simp only [passAlong] at led
      split at led
      · cases led
        simp only [Place.location] at there
        simp only [passAlong, there, Place.location]
      · simp at led
  | cons step rest ih =>
      rcases exists_of_passAlong_cons led with
        ⟨entries, _, present, admits, ⟨stays, further⟩ | ⟨rfl, further⟩ | ⟨isEntry, entry⟩⟩
      · rcases grown.directory present with ⟨others, laterPresent⟩
        simp [passAlong, laterPresent, admits, stays, ih further]
      · rcases grown.directory present with ⟨others, laterPresent⟩
        have leaves : staysHere ".." = false := by decide
        simp [passAlong, laterPresent, admits, leaves, ih further]
      · rcases grown.directory present with ⟨others, laterPresent⟩
        have fits := Nat.not_lt.mpr isEntry.fits
        have laterFind := find?_entry_of_find? laterPresent step
        rcases entry with
          ⟨_, rfl, rfl⟩ | ⟨target, found, ⟨meant, _⟩ | further⟩ | ⟨child, found, childNoLink, further⟩
        · simp only [Place.location] at there
          have laterFound := laterFind.symm.trans there
          simp [passAlong, laterPresent, admits, isEntry.leaves, isEntry.notUp, fits, laterFound, there, Place.location]
        · simp at meant
        · have linkPresent := (find?_entry_of_find? present step).trans found
          have untouched : here ++ [step] ≠ place.location := by
            intro same
            exact noLink target (same ▸ linkPresent)
          have laterFound := laterFind.symm.trans (grown.link untouched linkPresent)
          simp [passAlong, laterPresent, admits, isEntry.leaves, isEntry.notUp, fits, laterFound, throughLinks further]
        · have childPresent := (find?_entry_of_find? present step).trans found
          rcases grown.kind childPresent with ⟨laterChild, laterChildPresent, _⟩
          have laterFound := laterFind.symm.trans laterChildPresent
          have followed := ih further
          cases laterChild with
          | link target =>
              have same := childPresent.symm.trans (grown.noNewLink laterChildPresent)
              exact absurd (Option.some.inj same) (childNoLink target)
          | file laterContent laterMode laterAccess =>
              simp [passAlong, laterPresent, admits, isEntry.leaves, isEntry.notUp, fits, laterFound, followed]
          | directory inside insideAccess =>
              simp [passAlong, laterPresent, admits, isEntry.leaves, isEntry.notUp, fits, laterFound, followed]

theorem follow_rewritten (led : follow before.root .writing links here steps = .ok place) :
    follow after.root .content links here steps =
      .ok (.found place.location (.file content mode access)) := by
  induction links generalizing here steps with
  | zero => exact passAlong_rewritten grown there noLink (by simp) led
  | succ links ih => exact passAlong_rewritten grown there noLink ih led

end Rewritten

/-! ## Files -/

section Written

variable {tree after : FileTree} {path : Path} {place : Place} {content : List UInt8} {mode : Nat}
  {access : Access}

/-- What is written is put where the path leads, in the place of a file or of nothing. -/
theorem exists_of_write (written : tree.write path content = .ok after) :
    ∃ place mode access, tree.place .writing path.text = .ok place ∧
      after = tree.putAt place.location (.file content mode access) ∧
      ∀ node, tree.root.find? place.location = some node → ∃ old oldMode oldAccess,
        node = .file old oldMode oldAccess := by
  simp only [write] at written
  cases placed : tree.place .writing path.text with
  | error error => simp [placed, bind, Except.bind] at written
  | ok place =>
      have isIn := isIn_of_follow (follow_of_place placed)
      rw [placed] at written
      cases place with
      | found location node =>
          cases node with
          | file old mode access =>
              cases written
              refine ⟨.found location (.file old mode access), mode, access, rfl, rfl, ?_⟩
              intro node found
              exact ⟨old, mode, access, Option.some.inj (found.symm.trans isIn)⟩
          | directory entries access => simp [bind, Except.bind] at written
          | link target => simp [bind, Except.bind] at written
      | vacant parent name =>
          cases written
          refine ⟨.vacant parent name, newFileMode, .granted, rfl, rfl, ?_⟩
          rcases isIn with ⟨entries, access, present, absent⟩
          intro node found
          have missing := (find?_entry_of_find? present name).trans absent
          exact absurd (found.symm.trans missing) (by simp)

/-- A path that asks for a step does not lead to the root as a file, for there would be no way. -/
theorem exists_parent_of_place (asks : stepsOf path.text ≠ [])
    (led : tree.place .writing path.text = .ok place)
    (replaceable : ∀ node, tree.root.find? place.location = some node → ∃ old oldMode oldAccess,
      node = .file old oldMode oldAccess) :
    ∃ parent name entries access, tree.root.find? parent = some (.directory entries access) ∧
      place.location = parent ++ [name] := by
  have followed := follow_of_place led
  have isIn := isIn_of_follow followed
  cases place with
  | vacant parent name =>
      rcases isIn with ⟨entries, access, present, _⟩
      exact ⟨parent, name, entries, access, present, rfl⟩
  | found location node =>
      rcases replaceable node isIn with ⟨old, oldMode, oldAccess, rfl⟩
      rcases List.eq_nil_or_concat location with rfl | ⟨parent, name, rfl⟩
      · rcases List.exists_cons_of_ne_nil asks with ⟨step, rest, steps⟩
        rw [steps, maxLinks, follow] at followed
        rcases exists_of_passAlong_cons followed with ⟨entries, access, present, _⟩
        have isRoot : tree.root = .file old oldMode oldAccess := by
          rw [Place.IsIn, Node.find?_nil] at isIn
          exact Option.some.inj isIn
        rw [isRoot] at present
        cases here : tree.origin path.text with
        | nil => simp [here, Node.find?_nil] at present
        | cons first more => simp [here, Node.find?] at present
      · rw [List.concat_eq_append] at isIn ⊢
        rw [Place.IsIn, Node.find?_append] at isIn
        rcases Option.bind_eq_some_iff.mp isIn with ⟨directory, present, inside⟩
        rcases Node.exists_of_find?_cons inside with ⟨entries, access, _, rfl, _, _⟩
        exact ⟨parent, name, entries, access, present, rfl⟩

/-- Every path asks for a step, be it to stay. -/
theorem stepsOf_text_ne_nil (normal : path.Normal) : stepsOf path.text ≠ [] := by
  by_cases named : path.names = []
  · rcases path with ⟨anchor, names⟩
    subst named
    cases anchor with
    | workingDirectory => decide
    | root => decide
    | doubleRoot => decide
  · rwa [stepsOf_text normal named]

/-- A file that has been written holds what has been written. -/
theorem content_of_write (normal : path.Normal) (written : tree.write path content = .ok after) :
    after.content path = .ok content := by
  rcases exists_of_write written with ⟨place, mode, access, led, rfl, replaceable⟩
  rcases exists_parent_of_place (stepsOf_text_ne_nil normal) led replaceable with
    ⟨parent, name, entries, _, present, atName⟩
  have there : (tree.putAt place.location (.file content mode access)).root.find? place.location =
      some (.file content mode access) := by
    rw [atName]
    exact find?_putAt present
  have grown : Grown (· = place.location) tree (tree.putAt place.location (.file content mode access)) := by
    rw [atName] at replaceable ⊢
    exact grown_putAt_file present replaceable content mode access
  have noLink : ∀ target, tree.root.find? place.location ≠ some (.link target) := by
    intro target linkPresent
    rcases replaceable _ linkPresent with ⟨_, _, _, isFile⟩
    cases isFile
  have followed := follow_rewritten grown there noLink (follow_of_place led)
  have placed : (tree.putAt place.location (.file content mode access)).place .content path.text =
      .ok (.found place.location (.file content mode access)) := by
    have fits := Nat.not_le.mpr (fits_of_place led)
    have sameOrigin : (tree.putAt place.location (.file content mode access)).origin path.text =
        tree.origin path.text := rfl
    simp [FileTree.place, noNul_of_place led, fits, sameOrigin, followed]
  simp [FileTree.content, lookup_eq_ok_iff.mpr placed, bind, Except.bind]

end Written

end SkillScan.FileTree
