import SkillScan.Proofs.FileTree.Way

/-!
# Making directories and writing files

In a tree without links, making directories and writing a file let the tree grow. A directory that has been made
and a file that has been written are found under their paths from then on, and to make or write them once more
changes nothing.
-/

namespace SkillScan

namespace FileTree

/-! ## Runs of changes -/

section Changes

variable {change : Change} {next : FileTree → Change}

theorem Change.andThen_of_finished (finished : change.error = none) :
    change.andThen next = next change.tree := by
  rw [andThen, finished]

theorem Change.finished_of_andThen (finished : (change.andThen next).error = none) : change.error = none := by
  cases stopped : change.error with
  | none => rfl
  | some error => simp [andThen, stopped] at finished

theorem Change.eq_ok_of_finished {before : FileTree} {step : Except FileError FileTree}
    (finished : (Change.ofStep before step).error = none) : step = .ok (Change.ofStep before step).tree := by
  cases step with
  | ok after => rfl
  | error error => simp [ofStep] at finished

end Changes

/-! ## Directories -/

section Directories

variable {tree before after : FileTree} {path : Path} {changed : Location → Prop}

theorem Leads.isDirectory {location : Location} {entries : Entries} {access : DirectoryAccess}
    (leads : tree.Leads path.text (.found location (.directory entries access))) (linkFree : tree.LinkFree) :
    tree.isDirectory path = .ok true :=
  isDirectory_of_lookup (leads.lookup linkFree)

theorem leads_of_isDirectory (linkFree : tree.LinkFree) (isDirectory : tree.isDirectory path = .ok true) :
    ∃ location entries access, tree.Leads path.text (.found location (.directory entries access)) := by
  rcases lookup_of_isDirectory isDirectory with ⟨location, entries, access, led⟩
  exact ⟨location, entries, access, leads_of_lookup linkFree led⟩

theorem Grown.isDirectory (grown : Grown changed before after) (linkFree : before.LinkFree)
    (isDirectory : before.isDirectory path = .ok true) : after.isDirectory path = .ok true := by
  rcases leads_of_isDirectory linkFree isDirectory with ⟨location, entries, access, leads⟩
  rcases grown.directory leads.way.isIn with ⟨others, there⟩
  exact (leads.grown grown there).isDirectory (grown.linkFree linkFree)

/-- What making a directory comes to: nothing that was there has changed, and the path leads to a directory. -/
structure MadeDirectory (path : Path) (before after : FileTree) : Prop where
  grown : Grown (fun _ => False) before after
  isDirectory : after.isDirectory path = .ok true

theorem madeDirectory_of_makeDirectory (linkFree : tree.LinkFree)
    (made : tree.makeDirectory path = .ok after) : MadeDirectory path tree after := by
  simp only [makeDirectory] at made
  cases placed : tree.place .entry path.text with
  | error error => simp [placed, bind, Except.bind] at made
  | ok place =>
      cases place with
      | found location node => simp [placed, bind, Except.bind] at made
      | vacant parent name =>
          simp only [placed, bind, Except.bind, Except.ok.injEq] at made
          subst made
          have leads := leads_of_place linkFree placed
          rcases leads.way.isIn with ⟨entries, access, present, absent⟩
          have grown : Grown (fun _ => False) tree (tree.putAt (parent ++ [name]) .emptyDirectory) := by
            apply grown_putAt present Node.isLeaf_emptyDirectory
            intro old found
            rw [absent] at found
            contradiction
          refine ⟨grown, ?_⟩
          exact (leads.grown grown (find?_putAt present)).isDirectory (grown.linkFree linkFree)

theorem madeDirectory_of_ensureDirectory (linkFree : tree.LinkFree)
    (ensured : tree.ensureDirectory path = .ok after) : MadeDirectory path tree after := by
  simp only [ensureDirectory] at ensured
  split at ensured
  · next made =>
      cases ensured
      exact madeDirectory_of_makeDirectory linkFree made
  · split at ensured
    · simp at ensured
    · simp at ensured
    · cases answer : tree.isDirectory path with
      | error error => simp [answer, bind, Except.bind] at ensured
      | ok isDirectory =>
          cases isDirectory with
          | false => simp [answer, bind, Except.bind] at ensured
          | true =>
              simp only [answer, bind, Except.bind, if_true, Except.ok.injEq] at ensured
              subst ensured
              exact ⟨.refl _ _, answer⟩

theorem MadeDirectory.of_ofStep (linkFree : tree.LinkFree)
    (finished : (Change.ofStep tree (tree.ensureDirectory path)).error = none) :
    MadeDirectory path tree (Change.ofStep tree (tree.ensureDirectory path)).tree :=
  madeDirectory_of_ensureDirectory linkFree (Change.eq_ok_of_finished finished)

/-- By induction on the names, the last one first: where a directory on the way is missing, it is made before. -/
theorem madeDirectory_of_ensureDirectoriesTo (linkFree : tree.LinkFree) {anchor : Anchor}
    {reversedNames : List String} (finished : (tree.ensureDirectoriesTo anchor reversedNames).error = none) :
    MadeDirectory ⟨anchor, reversedNames.reverse⟩ tree (tree.ensureDirectoriesTo anchor reversedNames).tree := by
  induction reversedNames with
  | nil => exact .of_ofStep linkFree finished
  | cons name names ih =>
      rw [ensureDirectoriesTo] at finished ⊢
      split at finished
      · next missing =>
          have before := Change.finished_of_andThen finished
          have onTheWay := ih before
          rw [Change.andThen_of_finished before] at finished ⊢
          have last := MadeDirectory.of_ofStep (onTheWay.grown.linkFree linkFree) finished
          exact ⟨onTheWay.grown.trans last.grown, last.isDirectory⟩
      · exact .of_ofStep linkFree finished

theorem madeDirectory_of_ensureDirectories (linkFree : tree.LinkFree)
    (finished : (tree.ensureDirectories path).error = none) :
    MadeDirectory path tree (tree.ensureDirectories path).tree := by
  have made := madeDirectory_of_ensureDirectoriesTo linkFree finished
  rwa [List.reverse_reverse] at made

theorem ensureDirectory_of_isDirectory (linkFree : tree.LinkFree)
    (isDirectory : tree.isDirectory path = .ok true) : tree.ensureDirectory path = .ok tree := by
  rcases leads_of_isDirectory linkFree isDirectory with ⟨location, entries, access, leads⟩
  have placed := leads.place_eq linkFree (show Purpose.entry = .writing → _ by simp)
  simp [ensureDirectory, makeDirectory, placed, isDirectory, bind, Except.bind]

theorem ensureDirectories_of_isDirectory (linkFree : tree.LinkFree)
    (isDirectory : tree.isDirectory path = .ok true) : tree.ensureDirectories path = ⟨tree, none⟩ := by
  rcases path with ⟨anchor, names⟩
  have ensured := ensureDirectory_of_isDirectory linkFree isDirectory
  rw [← names.reverse_reverse] at ensured
  rw [ensureDirectories]
  cases reversed : names.reverse with
  | nil =>
      rw [reversed] at ensured
      rw [ensureDirectoriesTo, show tree.ensureDirectory ⟨anchor, []⟩ = .ok tree from ensured, Change.ofStep]
  | cons name before =>
      rw [reversed] at ensured
      rw [ensureDirectoriesTo]
      simp only [ensured, Change.ofStep]

end Directories

/-! ## Files -/

/-- What writing a file comes to: nothing that was there has changed, the file itself apart, and the path leads to
the file. -/
structure WrittenFile (path : Path) (location : Location) (file : Node) (before after : FileTree) : Prop where
  grown : Grown (· = location) before after
  leads : after.Leads path.text (.found location file)

/-- A path whose last step asks for an entry of a directory. -/
def EndsIn (path : Path) (name : String) : Prop :=
  IsEntryStep name ∧ ∃ steps, stepsOf path.text = steps ++ [name]

section Files

variable {tree before after : FileTree} {path : Path} {place : Place} {location : Location} {name : String}
  {content : List UInt8} {mode : Nat} {access : Access} {changed : Location → Prop}

theorem Leads.grown_file (leads : before.Leads path.text (.found location (.file content mode access)))
    (grown : Grown changed before after) (untouched : ¬changed location) :
    after.Leads path.text (.found location (.file content mode access)) :=
  leads.grown grown (grown.file untouched leads.way.isIn)

theorem Leads.exists_parent (leads : tree.Leads path.text place) (ends : EndsIn path name) :
    ∃ parent entries access, tree.root.find? parent = some (.directory entries access) ∧
      place.location = parent ++ [name] := by
  rcases ends with ⟨isEntry, steps, split⟩
  have way := leads.way
  rw [split] at way
  exact way.exists_parent isEntry

theorem Leads.location_ne (leads : before.Leads path.text place) (ends : EndsIn path name)
    {otherPath : Path} {otherPlace : Place} {otherName : String}
    (otherLeads : after.Leads otherPath.text otherPlace) (otherEnds : EndsIn otherPath otherName)
    (different : name ≠ otherName) : place.location ≠ otherPlace.location := by
  rcases leads.exists_parent ends with ⟨parent, _, _, _, here⟩
  rcases otherLeads.exists_parent otherEnds with ⟨otherParent, _, _, _, there⟩
  rw [here, there]
  intro same
  apply different
  simpa using (List.append_inj' same rfl).2

theorem EndsIn.writes (ends : EndsIn path name) : (stepsOf path.text).getLast? ≠ some "" := by
  rcases ends with ⟨isEntry, steps, split⟩
  rw [split, List.getLast?_concat, ne_eq, Option.some.injEq]
  rintro rfl
  exact absurd isEntry.leaves (by decide)

/-- A file may be put where a path leads, if there is nothing or a file. -/
theorem writtenFile_putAt (leads : tree.Leads path.text place) (ends : EndsIn path name)
    (replaceable : ∀ node, tree.root.find? place.location = some node → ∃ old oldMode oldAccess,
      node = .file old oldMode oldAccess) :
    WrittenFile path place.location (.file content mode access) tree
      (tree.putAt place.location (.file content mode access)) := by
  rcases leads.exists_parent ends with ⟨parent, entries, parentAccess, present, same⟩
  rw [same] at replaceable
  have there : (tree.putAt place.location (.file content mode access)).root.find? place.location =
      some (.file content mode access) := by
    rw [same]
    exact find?_putAt present
  have grown : Grown (· = place.location) tree (tree.putAt place.location (.file content mode access)) := by
    rw [same]
    exact grown_putAt_file present replaceable content mode access
  exact ⟨grown, leads.grown grown there⟩

theorem writtenFile_of_write (linkFree : tree.LinkFree) (ends : EndsIn path name)
    (written : tree.write path content = .ok after) :
    ∃ location mode access, WrittenFile path location (.file content mode access) tree after := by
  simp only [write] at written
  cases placed : tree.place .writing path.text with
  | error error => simp [placed, bind, Except.bind] at written
  | ok place =>
      have leads := leads_of_place linkFree placed
      rw [placed] at written
      cases place with
      | found location node =>
          cases node with
          | file old mode access =>
              cases written
              refine ⟨location, mode, access, writtenFile_putAt leads ends ?_⟩
              intro node found
              have present : tree.root.find? location = some (.file old mode access) := leads.way.isIn
              exact ⟨old, mode, access, Option.some.inj (found.symm.trans present)⟩
          | directory entries access => simp [bind, Except.bind] at written
          | link target => simp [bind, Except.bind] at written
      | vacant parent name =>
          cases written
          refine ⟨parent ++ [name], newFileMode, .granted, writtenFile_putAt leads ends ?_⟩
          rcases leads.way.isIn with ⟨entries, access, present, absent⟩
          intro node found
          have missing := (find?_entry_of_find? present name).trans absent
          exact absurd (found.symm.trans missing) (by simp)

theorem setMode_of_leads (linkFree : tree.LinkFree)
    (leads : tree.Leads path.text (.found location (.file content mode access))) (newMode : Nat) :
    tree.setMode path newMode = .ok (tree.putAt location (.file content newMode access)) := by
  simp [setMode, leads.lookup linkFree, bind, Except.bind]

theorem writtenFile_setMode (ends : EndsIn path name)
    (leads : tree.Leads path.text (.found location (.file content mode access))) (newMode : Nat) :
    WrittenFile path location (.file content newMode access) tree
      (tree.putAt location (.file content newMode access)) := by
  apply writtenFile_putAt leads ends
  intro node found
  have present : tree.root.find? location = some (.file content mode access) := leads.way.isIn
  exact ⟨content, mode, access, Option.some.inj (found.symm.trans present)⟩

theorem putAt_of_leads (leads : tree.Leads path.text (.found location (.file content mode access))) :
    tree.putAt location (.file content mode access) = tree := by
  rw [putAt, Node.put_of_find? leads.way.isIn]

theorem setMode_of_held (linkFree : tree.LinkFree)
    (leads : tree.Leads path.text (.found location (.file content mode access))) :
    tree.setMode path mode = .ok tree := by
  rw [setMode_of_leads linkFree leads, putAt_of_leads leads]

theorem write_of_held (linkFree : tree.LinkFree) (ends : EndsIn path name)
    (leads : tree.Leads path.text (.found location (.file content mode access))) :
    tree.write path content = .ok tree := by
  have placed := leads.place_eq linkFree (show Purpose.writing = .writing → _ from fun _ => ends.writes)
  simp [write, placed, bind, Except.bind, putAt_of_leads leads]

end Files

/-! ## The last step of a path -/

theorem endsIn_child (path : Path) {name : String} (isName : IsEntryName name)
    (fits : name.utf8ByteSize ≤ maxNameBytes) : EndsIn (path.child name) name := by
  have alone : ((Text.splitAt '/' name.toList).map String.ofList).filter (· != "") = [name] := by
    simp [Text.splitAt_of_not_mem isName.noSlash, isName.nonempty]
  have nonempty : name.toList ≠ [] := by
    simpa using isName.nonempty
  have noSlashLast : name.toList.getLast? ≠ some '/' := by
    intro last
    exact isName.noSlash (List.mem_of_getLast? last)
  refine ⟨⟨not_staysHere_of_isEntryName isName, isName.notUp, fits⟩, ?_⟩
  rw [Path.text_child (Path.isName_of_isEntryName isName)]
  by_cases named : path.names = []
  · refine ⟨[], ?_⟩
    rw [named, List.nil_append, String.intercalate_singleton, stepsOf, String.toList_append,
      filter_splitAt_anchor, alone, List.getLast?_append_of_ne_nil _ nonempty, if_neg noSlashLast]
  · rw [Path.intercalate_append_singleton named]
    simp only [stepsOf, String.toList_append, ← List.append_assoc,
      List.getLast?_append_of_ne_nil _ nonempty, noSlashLast, if_false]
    have slash : "/".toList = ['/'] := rfl
    rw [slash, List.append_assoc _ ['/'], List.singleton_append, Text.splitAt_append_cons, List.map_append,
      List.filter_append, alone]
    exact ⟨_, rfl⟩

end FileTree

end SkillScan
