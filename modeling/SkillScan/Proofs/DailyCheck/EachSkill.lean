import SkillScan.DailyCheck
import SkillScan.Proofs.FileTree.Descent
import SkillScan.Proofs.Scan.Exactness

/-!
# A daily check of each skill

The skills are the entries of the root that are directories, or links to directories, and not hidden. Before
anything is scanned the check looks at the root, lists it and looks at every entry. If one of these paths is
barred, because it is too long or because a directory on its way may not be searched, or if the root may not be
listed, this is the end of it. Otherwise nothing stops it any more. Each skill gets the report of a scan of its
own, the skills come in the order of their names, and the texts that are shown follow the checks one by one.
-/

namespace SkillScan

namespace DailyCheck

/-- Whether an entry of a root is a skill. -/
def IsSkill (tree : FileTree) (root : Path) (name : String) : Prop :=
  ∃ location entries access node, tree.lookup root.text = .ok (location, .directory entries access) ∧
    entries.find? name = some node ∧ name.toList.head? ≠ some '.' ∧
      Walk.looksLikeDirectory tree (root.child name).text node = true

/-- Whether a daily check can look at all that it looks at before it scans. -/
structure Inspectable (tree : FileTree) (root : Path) : Prop where
  itself : tree.Passable root
  listable : ∀ location entries access, tree.lookup root.text = .ok (location, .directory entries access) →
    access.listing = .granted
  entries : ∀ location entries access name node,
    tree.lookup root.text = .ok (location, .directory entries access) →
      entries.find? name = some node → tree.Passable (root.child name)

/-- What can keep a daily check from scanning anything: that the root or an entry is barred, or that the root
may not be listed. -/
inductive Hindered (tree : FileTree) (root : Path) : FileError → Prop where
  | itself {fault : Fault} (barred : tree.Barred root fault) :
      Hindered tree root (.system fault (some root.text))
  | unlisted {named : Bool} {location : Location} {entries : Entries} {access : DirectoryAccess}
      (led : tree.lookup root.text = .ok (location, .directory entries access))
      (refused : access.listing = .refused named) :
      Hindered tree root (FileTree.refusal root.text named)
  | entry {fault : Fault} {names : List String} {name : String} (listed : tree.entryNames root = .ok names)
      (member : name ∈ names) (barred : tree.Barred (root.child name) fault) :
      Hindered tree root (.system fault (some (root.child name).text))

/-- Whether the report of a check is the report on a scan of its skill alone. -/
def HasOwnReport (scanner : Scanner) (tree : FileTree) (check : SkillCheck) : Prop :=
  ∃ result, scanner.scan tree check.path = .ok result ∧
    check.report = result.report scanner.catalog.version

/-! ## Finding the skills -/

section Skills

variable {tree : FileTree} {root : Path} {location : Location} {entries : Entries} {access : DirectoryAccess}
  {names : List String}

/-- Whether the path to a name leads to a directory and the name is not hidden. -/
def leadsToSkill (tree : FileTree) (root : Path) (name : String) : Bool :=
  (tree.isDirectory (root.child name)).toOption == some true && name.toList.head? != some '.'

theorem isDirectory_of_leadsToSkill {name : String} (leads : leadsToSkill tree root name = true) :
    tree.isDirectory (root.child name) = .ok true := by
  rw [leadsToSkill, Bool.and_eq_true, beq_iff_eq] at leads
  cases answered : tree.isDirectory (root.child name) with
  | ok answer =>
      rw [answered] at leads
      rw [Option.some.inj leads.1]
  | error error =>
      rw [answered] at leads
      exact absurd leads.1 (by simp [Except.toOption])

theorem subdirectories_of_passable (passable : ∀ name ∈ names, tree.Passable (root.child name)) :
    subdirectories tree root names =
      .ok ((names.filter (leadsToSkill tree root)).map fun name => (name, root.child name)) := by
  induction names with
  | nil => rfl
  | cons name names ih =>
      have others := ih fun later member => passable later (List.mem_cons_of_mem name member)
      obtain ⟨answer, answered⟩ : ∃ answer, tree.isDirectory (root.child name) = .ok answer :=
        FileTree.exists_leadsTo (passable name (by simp))
      have leads : leadsToSkill tree root name = (answer && name.toList.head? != some '.') := by
        simp [leadsToSkill, answered, Except.toOption]
      rw [subdirectories, answered, others, List.filter_cons, leads]
      simp only [bind, Except.bind, pure, Except.pure]
      split <;> rfl

/-- The first barred entry ends the search. -/
theorem subdirectories_of_barred {barredName : String} (member : barredName ∈ names) {barredBy : Fault}
    (barred : tree.Barred (root.child barredName) barredBy) :
    ∃ name ∈ names, ∃ fault, tree.Barred (root.child name) fault ∧
      subdirectories tree root names = .error (.system fault (some (root.child name).text)) := by
  induction names with
  | nil => simp at member
  | cons name names ih =>
      by_cases here : ∃ fault, tree.Barred (root.child name) fault
      · rcases here with ⟨fault, barredHere⟩
        refine ⟨name, by simp, fault, barredHere, ?_⟩
        have failed : tree.isDirectory (root.child name) = .error (.system fault (some (root.child name).text)) :=
          FileTree.leadsTo_of_barred barredHere
        simp [subdirectories, failed, bind, Except.bind]
      · have later : barredName ∈ names := by
          rcases List.mem_cons.mp member with rfl | later
          · exact absurd ⟨barredBy, barred⟩ here
          · exact later
        rcases ih later with ⟨other, otherMember, fault, otherBarred, failed⟩
        obtain ⟨answer, answered⟩ : ∃ answer, tree.isDirectory (root.child name) = .ok answer :=
          FileTree.exists_leadsTo fun fault barredHere => here ⟨fault, barredHere⟩
        refine ⟨other, List.mem_cons_of_mem name otherMember, fault, otherBarred, ?_⟩
        simp [subdirectories, answered, failed, bind, Except.bind]

theorem mem_entryNames {name : String} :
    name ∈ entries.toList.map (·.1) ↔ ∃ node, entries.find? name = some node := by
  rw [← not_iff_not, ← Entries.find?_eq_none_iff, ← Option.isSome_iff_exists]
  simp

theorem isSkill_iff (normal : root.Normal) (wellFormed : tree.WellFormed)
    (inspectable : Inspectable tree root)
    (led : tree.lookup root.text = .ok (location, .directory entries access)) {name : String} :
    IsSkill tree root name ↔
      name ∈ entries.toList.map (·.1) ∧ leadsToSkill tree root name = true := by
  have entriesWellFormed : entries.WellFormed := FileTree.wellFormed_of_lookup wellFormed led
  have answered {node : Node} (found : entries.find? name = some node) :
      tree.isDirectory (root.child name) =
        .ok (Walk.looksLikeDirectory tree (root.child name).text node) :=
    FileTree.isDirectory_child normal led (Entries.isEntryName_of_find? entriesWellFormed found) found
      (inspectable.entries _ _ _ name node led found)
  constructor
  · rintro ⟨there, others, otherAccess, node, otherLed, found, notHidden, isDirectory⟩
    rw [led] at otherLed
    cases otherLed
    refine ⟨mem_entryNames.mpr ⟨node, found⟩, ?_⟩
    simp [leadsToSkill, answered found, Except.toOption, isDirectory, notHidden]
  · rintro ⟨listed, leads⟩
    rcases mem_entryNames.mp listed with ⟨node, found⟩
    simp only [leadsToSkill, answered found, Except.toOption, Bool.and_eq_true, beq_iff_eq,
      Option.some.injEq, bne_iff_ne] at leads
    exact ⟨location, entries, access, node, led, found, leads.2, leads.1⟩

section Directory

variable (led : tree.lookup root.text = .ok (location, .directory entries access))
include led

theorem entryNames_of_granted (granted : access.listing = .granted) :
    tree.entryNames root = .ok (entries.toList.map (·.1)) := by
  simp only [FileTree.entryNames, FileTree.list_of_lookup led, granted]
  rfl

theorem skills_of_directory (granted : access.listing = .granted) :
    skills tree root = (subdirectories tree root (entries.toList.map (·.1))).map fun found =>
      found.mergeSort fun first second => first.1 ≤ second.1 := by
  simp only [skills, FileTree.isDirectory_of_lookup led, Node.isDirectory,
    entryNames_of_granted led granted, bind, Except.bind, if_true]
  cases subdirectories tree root (entries.toList.map (·.1)) <;> rfl

theorem skills_of_refused {named : Bool} (refused : access.listing = .refused named) :
    skills tree root = .error (FileTree.refusal root.text named) := by
  simp [skills, FileTree.isDirectory_of_lookup led, Node.isDirectory, FileTree.entryNames,
    FileTree.list_of_lookup led, refused, bind, Except.bind]

end Directory

/-- Where nothing hinders it, the skills are found, in the order of their names. -/
theorem skills_of_inspectable (normal : root.Normal) (wellFormed : tree.WellFormed)
    (inspectable : Inspectable tree root) :
    ∃ found, skills tree root = .ok found ∧ (found.map (·.1)).Pairwise (· < ·) ∧
      (∀ skill ∈ found, skill.2 = root.child skill.1 ∧ tree.isDirectory skill.2 = .ok true) ∧
      ∀ name, name ∈ found.map (·.1) ↔ IsSkill tree root name := by
  by_cases isDirectory : ∃ location entries access,
      tree.lookup root.text = .ok (location, .directory entries access)
  · rcases isDirectory with ⟨location, entries, access, led⟩
    have passable : ∀ name ∈ entries.toList.map (·.1), tree.Passable (root.child name) := by
      intro name listed
      rcases mem_entryNames.mp listed with ⟨node, found⟩
      exact inspectable.entries _ _ _ name node led found
    have entriesWellFormed : entries.WellFormed := FileTree.wellFormed_of_lookup wellFormed led
    have areSkills := skills_of_directory led (inspectable.listable _ _ _ led)
    rw [subdirectories_of_passable passable] at areSkills
    generalize paired : ((entries.toList.map (·.1)).filter (leadsToSkill tree root)).map
      (fun name => (name, root.child name)) = unsorted at areSkills
    have firsts : unsorted.map (·.1) = (entries.toList.map (·.1)).filter (leadsToSkill tree root) := by
      rw [← paired, List.map_map, Function.comp_def, List.map_id']
    refine ⟨_, areSkills, ?_, ?_, ?_⟩
    · rw [List.pairwise_map]
      apply Walk.pairwise_mergeSort_of_nodup
      rw [firsts]
      exact (Entries.nodup_names entriesWellFormed).filter _
    · intro skill member
      rw [List.mem_mergeSort, ← paired] at member
      rcases List.mem_map.mp member with ⟨name, kept, rfl⟩
      exact ⟨rfl, isDirectory_of_leadsToSkill (List.mem_filter.mp kept).2⟩
    · intro name
      rw [((List.mergeSort_perm _ _).map _).mem_iff, firsts, List.mem_filter]
      exact (isSkill_iff normal wellFormed inspectable led).symm
  · have noDirectory : tree.isDirectory root = .ok false := by
      apply FileTree.isDirectory_of_not_lookup inspectable.itself
      intro location entries access led
      exact isDirectory ⟨location, entries, access, led⟩
    refine ⟨[], by simp [skills, noDirectory, bind, Except.bind, pure, Except.pure], .nil, by simp, ?_⟩
    intro name
    constructor
    · simp
    · rintro ⟨location, entries, access, node, led, _⟩
      exact absurd ⟨location, entries, access, led⟩ isDirectory

/-- Where something hinders it, looking for the skills fails. -/
theorem skills_of_not_inspectable (uninspectable : ¬Inspectable tree root) :
    ∃ error, Hindered tree root error ∧ skills tree root = .error error := by
  by_cases itself : ∃ fault, tree.Barred root fault
  · rcases itself with ⟨fault, barred⟩
    refine ⟨_, .itself barred, ?_⟩
    have failed : tree.isDirectory root = .error (.system fault (some root.text)) :=
      FileTree.leadsTo_of_barred barred
    simp [skills, failed, bind, Except.bind]
  have passable : tree.Passable root := fun fault barred => itself ⟨fault, barred⟩
  by_cases unlisted : ∃ named location entries access,
      tree.lookup root.text = .ok (location, .directory entries access) ∧ access.listing = .refused named
  · rcases unlisted with ⟨named, location, entries, access, led, refused⟩
    exact ⟨_, .unlisted led refused, skills_of_refused led refused⟩
  have listable : ∀ location entries access,
      tree.lookup root.text = .ok (location, .directory entries access) → access.listing = .granted := by
    intro location entries access led
    cases listing : access.listing with
    | granted => rfl
    | refused named => exact absurd ⟨named, location, entries, access, led, listing⟩ unlisted
  -- As neither the root nor its listing hinders, an entry does.
  have entry : ∃ location entries access name node fault,
      tree.lookup root.text = .ok (location, .directory entries access) ∧
        entries.find? name = some node ∧ tree.Barred (root.child name) fault := by
    by_contra none
    apply uninspectable
    refine ⟨passable, listable, ?_⟩
    intro location entries access name node led found fault barred
    exact none ⟨location, entries, access, name, node, fault, led, found, barred⟩
  rcases entry with ⟨location, entries, access, name, node, fault, led, found, barred⟩
  have granted := listable _ _ _ led
  rcases subdirectories_of_barred (mem_entryNames.mpr ⟨node, found⟩) barred with
    ⟨other, member, otherFault, otherBarred, failed⟩
  refine ⟨_, .entry (entryNames_of_granted led granted) member otherBarred, ?_⟩
  rw [skills_of_directory led granted, failed]
  rfl

/-- A root that may be listed but not searched has no entry that the check could look at. -/
theorem not_inspectable_of_sealed (normal : root.Normal) (wellFormed : tree.WellFormed)
    (led : tree.lookup root.text = .ok (location, .directory entries access))
    (notSearchable : access.searchable = false) {name : String} {node : Node}
    (found : entries.find? name = some node) : ¬Inspectable tree root := by
  have entriesWellFormed : entries.WellFormed := FileTree.wellFormed_of_lookup wellFormed led
  have isName := Entries.isEntryName_of_find? entriesWellFormed found
  intro inspectable
  rcases FileTree.barred_child_of_sealed normal led isName notSearchable with ⟨fault, barred⟩
  exact inspectable.entries _ _ _ name node led found fault barred

end Skills

/-! ## Checking the skills -/

section Runs

variable {scanner : Scanner} {tree : FileTree} {least : LogLevel}

/-- What a finished run has done for some skills: each has a check with a report of its own, and what is
shown follows the checks. -/
structure ChecksEach (scanner : Scanner) (tree : FileTree) (skills : List (String × Path))
    (run : DailyRun) : Prop where
  finished : run.error = none
  skills : run.checks.map (fun check => (check.name, check.path)) = skills
  ownReports : ∀ check ∈ run.checks, HasOwnReport scanner tree check
  shown : run.shown =
    run.checks.flatMap fun check => [announcement check.name, check.report.text]

theorem ChecksEach.followedBy {skills others : List (String × Path)} {first : DailyRun}
    {next : Unit → DailyRun} (firstChecks : ChecksEach scanner tree skills first)
    (nextChecks : ChecksEach scanner tree others (next ())) :
    ChecksEach scanner tree (skills ++ others) (followedBy first next) := by
  rw [DailyCheck.followedBy, firstChecks.finished]
  refine ⟨nextChecks.finished, ?_, ?_, ?_⟩
  · rw [List.map_append, firstChecks.skills, nextChecks.skills]
  · intro check member
    rcases List.mem_append.mp member with member | member
    · exact firstChecks.ownReports check member
    · exact nextChecks.ownReports check member
  · rw [List.flatMap_append, ← firstChecks.shown, ← nextChecks.shown]

/-- Nothing stops the check of one skill. -/
theorem checksEach_checkSkill {name : String} {path : Path}
    (isDirectory : tree.isDirectory path = .ok true) :
    ChecksEach scanner tree [(name, path)] (checkSkill scanner tree least name path) := by
  rcases FileTree.lookup_of_isDirectory isDirectory with ⟨location, entries, access, led⟩
  have walked := @walk_eq_ofNode tree scanner.selection _ _ _ _ led
  have blocks := Scanner.blocks_of_walk led walked
  have scanned := Scanner.scan_of_walk led walked
  simp only [checkSkill, blocks]
  refine ⟨rfl, rfl, ?_, rfl⟩
  intro check member
  rw [List.mem_singleton.mp member]
  exact ⟨_, scanned, rfl⟩

theorem checksEach_checkSkills {skills : List (String × Path)}
    (directories : ∀ skill ∈ skills, tree.isDirectory skill.2 = .ok true) :
    ChecksEach scanner tree skills (checkSkills scanner tree least skills) := by
  induction skills with
  | nil => exact ⟨rfl, rfl, by simp [checkSkills], rfl⟩
  | cons skill skills ih =>
      rcases skill with ⟨name, path⟩
      have others := ih fun later member => directories later (List.mem_cons_of_mem _ member)
      exact (checksEach_checkSkill (directories (name, path) (by simp))).followedBy others

end Runs

/-! ## The whole run -/

/-- A daily check that has given every skill under a root a report of its own. -/
structure ChecksEverySkill (scanner : Scanner) (tree : FileTree) (root : Path) (run : DailyRun) :
    Prop where
  finished : run.error = none
  ordered : (run.checks.map (·.name)).Pairwise (· < ·)
  skills : ∀ name, name ∈ run.checks.map (·.name) ↔ IsSkill tree root name
  paths : ∀ check ∈ run.checks, check.path = root.child check.name
  ownReports : ∀ check ∈ run.checks, HasOwnReport scanner tree check
  shown : run.shown = opening ::
    (run.checks.flatMap fun check => [announcement check.name, check.report.text]) ++
      [closing run.checks.length]

/-- A daily check that has ended before it scanned anything. -/
structure EndsEarly (tree : FileTree) (root : Path) (run : DailyRun) : Prop where
  noChecks : run.checks = []
  shown : run.shown = [opening]
  failed : ∃ error, Hindered tree root error ∧ run.error = some (.file error)

theorem EndsEarly.not_checksEverySkill {scanner : Scanner} {tree : FileTree} {root : Path} {run : DailyRun}
    (ends : EndsEarly tree root run) : ¬ChecksEverySkill scanner tree root run := by
  intro checks
  rcases ends.failed with ⟨error, _, failed⟩
  rw [checks.finished] at failed
  cases failed

section Whole

variable {tree : FileTree} {root : Path}

theorem run_of_inspectable (normal : root.Normal) (wellFormed : tree.WellFormed)
    (inspectable : Inspectable tree root) (scanner : Scanner) (least : LogLevel) :
    ChecksEverySkill scanner tree root (run scanner tree least root) := by
  rcases skills_of_inspectable normal wellFormed inspectable with
    ⟨found, areSkills, ordered, directories, members⟩
  have each : ChecksEach scanner tree found (checkSkills scanner tree least found) :=
    checksEach_checkSkills fun skill member => (directories skill member).2
  generalize checkedAs : checkSkills scanner tree least found = checked at each
  -- The root adds a record at most, so all that is shown besides is the beginning and the end.
  have ran : (run scanner tree least root).error = none ∧
      (run scanner tree least root).checks = checked.checks ∧
      (run scanner tree least root).shown =
        opening :: checked.shown ++ [closing checked.checks.length] := by
    simp [run, areSkills, checkedAs, followedBy, each.finished]
  have names : checked.checks.map (·.name) = found.map (·.1) := by
    rw [← each.skills, List.map_map]
    rfl
  rcases ran with ⟨finished, checks, shown⟩
  constructor
  · exact finished
  · rw [checks, names]
    exact ordered
  · rw [checks, names]
    exact members
  · intro check member
    have isFound : (check.name, check.path) ∈ found := by
      rw [← each.skills]
      exact List.mem_map_of_mem (checks ▸ member)
    exact (directories _ isFound).1
  · rw [checks]
    exact each.ownReports
  · rw [shown, checks, each.shown]

theorem run_of_not_inspectable (uninspectable : ¬Inspectable tree root) (scanner : Scanner)
    (least : LogLevel) : EndsEarly tree root (run scanner tree least root) := by
  rcases skills_of_not_inspectable uninspectable with ⟨error, hindered, failed⟩
  rw [run, failed]
  exact ⟨rfl, rfl, error, hindered, rfl⟩

end Whole

/-- A daily check gives every skill a report of its own, in the order of the names, exactly if it can look at
the root and at all of its entries. Otherwise it ends before it has scanned anything, with the error of the root
or of an entry. That there is nothing at a path is never its error. -/
theorem run_checks_each_skill {tree : FileTree} (wellFormed : tree.WellFormed) (text : String)
    (scanner : Scanner) (least : LogLevel) :
    let root := Path.ofText text
    let run := run scanner tree least root
    (Inspectable tree root → ChecksEverySkill scanner tree root run) ∧
      (¬Inspectable tree root → EndsEarly tree root run) ∧
      ∀ path, run.error ≠ some (.pathNotFound path) := by
  intro root run
  have whenInspectable (inspectable : Inspectable tree root) : ChecksEverySkill scanner tree root run :=
    run_of_inspectable (Path.normal_ofText text) wellFormed inspectable scanner least
  have whenNot (uninspectable : ¬Inspectable tree root) : EndsEarly tree root run :=
    run_of_not_inspectable uninspectable scanner least
  refine ⟨whenInspectable, whenNot, ?_⟩
  intro path notFound
  by_cases inspectable : Inspectable tree root
  · rw [(whenInspectable inspectable).finished] at notFound
    cases notFound
  · rcases (whenNot inspectable).failed with ⟨_, _, failed⟩
    rw [failed] at notFound
    cases notFound

/-- A tree whose working directory holds some entries. -/
def treeWith (entries : Entries) : FileTree :=
  ⟨.directory entries .granted, []⟩

theorem lookup_treeWith (entries : Entries) :
    (treeWith entries).lookup (Path.ofText ".").text = .ok ([], .directory entries .granted) := rfl

/-- A skill, a link to it that comes before it, a hidden directory, a file and a link to nothing. -/
def exampleEntries : Entries :=
  .entry "zeta" (.directory (.entry "index.js" (.file [0x73, 0x75, 0x64, 0x6F, 0x20] 0o644 .granted)
      .empty) .granted)
    (.entry ".git" (.directory .empty .granted)
      (.entry "alpha" (.link "zeta")
        (.entry "notes.md" (.file [] 0o644 .granted) (.entry "gone" (.link "nowhere") .empty))))

theorem run_exampleEntries :
    (treeWith exampleEntries).WellFormed ∧ Inspectable (treeWith exampleEntries) (.ofText ".") ∧
      ChecksEverySkill .builtin (treeWith exampleEntries) (.ofText ".")
        (run .builtin (treeWith exampleEntries) .info (.ofText ".")) := by
  have wellFormed : (treeWith exampleEntries).WellFormed := by decide
  have answers : ∀ name ∈ exampleEntries.toList.map (·.1),
      ((treeWith exampleEntries).isDirectory ((Path.ofText ".").child name)).toBool = true := by
    decide
  have inspectable : Inspectable (treeWith exampleEntries) (.ofText ".") := by
    refine ⟨FileTree.passable_of_leadsTo (FileTree.isDirectory_of_lookup (lookup_treeWith _)), ?_, ?_⟩
    · intro location entries access led
      rw [lookup_treeWith] at led
      cases led
      rfl
    · intro location entries access name node led found
      rw [lookup_treeWith] at led
      cases led
      have answered := answers name (mem_entryNames.mpr ⟨node, found⟩)
      cases answer : (treeWith exampleEntries).isDirectory ((Path.ofText ".").child name) with
      | ok isDirectory => exact FileTree.passable_of_leadsTo answer
      | error error => simp [answer, Except.toBool] at answered
  exact ⟨wellFormed, inspectable, (run_checks_each_skill wellFormed "." .builtin .info).1 inspectable⟩

theorem isEntryName_replicate {count : Nat} (positive : 0 < count) :
    IsEntryName (String.ofList (List.replicate count 'x')) := by
  generalize named : String.ofList (List.replicate count 'x') = name
  have chars : name.toList = List.replicate count 'x' := by rw [← named, String.toList_ofList]
  have holds : 'x' ∈ name.toList := by
    rw [chars, List.mem_replicate]
    exact ⟨by omega, rfl⟩
  have only : ∀ char ∈ name.toList, char = 'x' := by
    intro char member
    rw [chars] at member
    exact List.eq_of_mem_replicate member
  constructor
  · rintro rfl
    simp at holds
  · rintro rfl
    exact absurd holds (by decide)
  · rintro rfl
    exact absurd holds (by decide)
  · intro slash
    exact absurd (only '/' slash) (by decide)
  · intro nul
    exact absurd (only '\x00' nul) (by decide)

/-- A link whose target no file can have as its name. -/
def overlongLink : Entries :=
  .entry "bad" (.link (String.ofList (List.replicate 256 'x'))) .empty

theorem barred_overlongLink :
    (treeWith overlongLink).Barred ((Path.ofText ".").child "bad") .nameTooLong := by
  have here : (treeWith overlongLink).root.find? [] = some (.directory overlongLink .granted) := rfl
  have isName : IsEntryName (String.ofList (List.replicate 256 'x')) :=
    isEntryName_replicate (Nat.succ_pos 255)
  have long : (String.ofList (List.replicate 256 'x')).utf8ByteSize > FileTree.maxNameBytes := by
    decide +kernel
  have followed : FileTree.follow (treeWith overlongLink).root .content FileTree.maxLinks [] ["bad"] =
      .error .nameTooLong := by
    rw [FileTree.maxLinks, FileTree.follow_link here (by decide) rfl rfl (by decide),
      FileTree.not_isAnchored_of_isEntryName isName, FileTree.stepsOf_of_isEntryName isName]
    exact FileTree.follow_long_name here isName rfl long
  have text : ((Path.ofText ".").child "bad").text = "bad" := rfl
  have steps : FileTree.stepsOf "bad" = ["bad"] := FileTree.stepsOf_of_isEntryName (by decide)
  have origin : (treeWith overlongLink).origin "bad" = [] := rfl
  refine ⟨Or.inr rfl, ?_⟩
  rw [text, FileTree.lookup, FileTree.place, if_neg (by decide), if_neg (by decide), origin, steps, followed]
  rfl

/-- A directory with one skill in it that may be listed but not searched. -/
def sealedEntries : Entries :=
  .entry "skills" (.directory (.entry "tool" .emptyDirectory .empty) ⟨.granted, false⟩) .empty

/-- The roots are directories and may be listed, and still the checks do not get to their ends. -/
theorem not_checked_barredEntries :
    ((treeWith overlongLink).isDirectory (.ofText ".") = .ok true ∧
      (treeWith overlongLink).entryNames (.ofText ".") = .ok ["bad"] ∧
      ¬ChecksEverySkill .builtin (treeWith overlongLink) (.ofText ".")
        (run .builtin (treeWith overlongLink) .info (.ofText "."))) ∧
    (treeWith sealedEntries).isDirectory (.ofText "skills") = .ok true ∧
      (treeWith sealedEntries).entryNames (.ofText "skills") = .ok ["tool"] ∧
      ¬ChecksEverySkill .builtin (treeWith sealedEntries) (.ofText "skills")
        (run .builtin (treeWith sealedEntries) .info (.ofText "skills")) := by
  have uninspectable : ¬Inspectable (treeWith overlongLink) (.ofText ".") := by
    intro inspectable
    exact inspectable.entries _ _ _ "bad" _ (lookup_treeWith overlongLink) rfl _ barred_overlongLink
  have sealedUninspectable : ¬Inspectable (treeWith sealedEntries) (.ofText "skills") := by
    have led : (treeWith sealedEntries).lookup (Path.ofText "skills").text =
        .ok (["skills"], .directory (.entry "tool" .emptyDirectory .empty) ⟨.granted, false⟩) := rfl
    have found : (Entries.entry "tool" .emptyDirectory .empty).find? "tool" = some .emptyDirectory := rfl
    exact not_inspectable_of_sealed (Path.normal_ofText "skills") (by decide) led rfl found
  refine ⟨⟨rfl, rfl, ?_⟩, rfl, rfl, ?_⟩
  · exact (run_of_not_inspectable uninspectable .builtin .info).not_checksEverySkill
  · exact (run_of_not_inspectable sealedUninspectable .builtin .info).not_checksEverySkill

end DailyCheck

end SkillScan
