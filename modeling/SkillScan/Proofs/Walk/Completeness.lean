import Mathlib.Data.List.Nodup
import Mathlib.Tactic.Choose
import SkillScan.Proofs.Path.NormalForm
import SkillScan.Proofs.Walk.Stops

/-!
# Completeness of walks

A walk from a directory visits its stops, each of them once and in their order. The proof is an induction
over the tree. The visits of one directory fall apart by the entries that they go through: what is visited
through an entry are the stops whose first component is that entry, and sorting the entries by name puts
these groups into the order of the stops.
-/

namespace SkillScan

namespace Walk

@[simp]
theorem written_nil (root : String) : written root [] = root := rfl

@[simp]
theorem written_cons (root name : String) (route : Route) :
    written root (name :: route) = written (extend root name) route := rfl

/-! ## Stops of one directory -/

section Directory

variable {selection : Selection} {tree : FileTree} {path : String} {entries : Entries}
  {access : DirectoryAccess}

theorem not_stopsAt_file {content : List UInt8} {mode : Nat} {fileAccess : Access} {stop : Stop} :
    ¬StopsAt selection tree path (.file content mode fileAccess) stop := by
  intro stopsAt
  cases stop with
  | file directory name =>
      rcases stopsAt with ⟨_, _, _, reached, _⟩
      cases reached
  | unlistable directory error =>
      rcases stopsAt with ⟨_, _, reached, _⟩
      cases reached

theorem not_stopsAt_link {target : String} {stop : Stop} :
    ¬StopsAt selection tree path (.link target) stop := by
  intro stopsAt
  cases stop with
  | file directory name =>
      rcases stopsAt with ⟨_, _, _, reached, _⟩
      cases reached
  | unlistable directory error =>
      rcases stopsAt with ⟨_, _, reached, _⟩
      cases reached

/-- A directory that cannot be listed is its only stop. -/
theorem stopsAt_iff_of_unlistable {error : FileError}
    (refused : listingError? tree path = some error) (stop : Stop) :
    StopsAt selection tree path (.directory entries access) stop ↔ stop = .unlistable [] error := by
  constructor
  · intro stopsAt
    cases stop with
    | file directory name =>
        rcases stopsAt with ⟨_, _, _, reached, found, _⟩
        cases reached with
        | here => simp [refused] at found
        | into listable => simp [refused] at listable
    | unlistable directory other =>
        rcases stopsAt with ⟨_, _, reached, found⟩
        cases reached with
        | here =>
            rw [written_nil, refused] at found
            rw [Option.some.inj found]
        | into listable => simp [refused] at listable
  · rintro rfl
    exact ⟨entries, access, .here, refused⟩

/-- A stop of a directory that can be listed is one of its files, or a stop of a directory in it. -/
theorem stopsAt_iff_of_listable (listable : listingError? tree path = none) (stop : Stop) :
    StopsAt selection tree path (.directory entries access) stop ↔
      (∃ name node, stop = .file [] name ∧ entries.find? name = some node ∧
        looksLikeDirectory tree (extend path name) node = false ∧
        Text.lowercase (String.ofList (Path.suffixOf name.toList)) ∈ selection.extensions) ∨
      ∃ name child deeper, stop = deeper.under name ∧ entries.find? name = some child ∧
        selection.excludes name = false ∧
        StopsAt selection tree (extend path name) child deeper := by
  constructor
  · intro stopsAt
    cases stop with
    | file directory name =>
        rcases stopsAt with ⟨inside, insideAccess, node, reached, insideListable, found, rest⟩
        cases reached with
        | here => exact Or.inl ⟨name, node, rfl, found, rest⟩
        | @into _ first _ _ _ _ child route _ present kept reached =>
            refine Or.inr ⟨first, child, .file route name, rfl, present, kept, ?_⟩
            exact ⟨inside, insideAccess, node, reached, insideListable, found, rest⟩
    | unlistable directory error =>
        rcases stopsAt with ⟨inside, insideAccess, reached, refused⟩
        cases reached with
        | here => simp [listable] at refused
        | @into _ first _ _ _ _ child route _ present kept reached =>
            refine Or.inr ⟨first, child, .unlistable route error, rfl, present, kept, ?_⟩
            exact ⟨inside, insideAccess, reached, refused⟩
  · rintro (⟨name, node, rfl, found, rest⟩ | ⟨name, child, deeper, rfl, present, kept, stopsAt⟩)
    · exact ⟨entries, access, node, .here, listable, found, rest⟩
    · cases deeper with
      | file directory file =>
          rcases stopsAt with ⟨inside, insideAccess, node, reached, rest⟩
          exact ⟨inside, insideAccess, node, .into listable present kept reached, rest⟩
      | unlistable directory error =>
          rcases stopsAt with ⟨inside, insideAccess, reached, refused⟩
          exact ⟨inside, insideAccess, .into listable present kept reached, refused⟩

end Directory

/-! ## What one entry leads to -/

/-- An entry leads to those of a directory's stops that go through it. -/
structure LeadsTo (root : Path) (isStop : Stop → Prop) (walked : WalkedEntry) (stops : List Stop) :
    Prop where
  visits : walked.visits = stops.map (Stop.visit root)
  members : ∀ stop, stop ∈ stops ↔
    isStop stop ∧ stop.components.head? = some ⟨walked.name, walked.isDirectory⟩
  ordered : stops.Pairwise Stop.Precedes

theorem wants_child {selection : Selection} {path : Path} {name : String}
    (isName : Path.IsName name) :
    selection.wants (path.child name) = true ↔
      Text.lowercase (String.ofList (Path.suffixOf name.toList)) ∈ selection.extensions := by
  rw [Path.child_eq isName]
  simp [Selection.wants, Path.suffix, Path.name]

theorem visit_under {path name : String} (nonempty : path ≠ "") (isName : Path.IsName name)
    (stop : Stop) :
    (stop.under name).visit (.ofText path) = stop.visit (.ofText (extend path name)) := by
  cases stop with
  | file directory last => simp [Stop.under, Stop.visit, Path.ofText_extend nonempty isName]
  | unlistable directory error => rfl

theorem entryOf_of_not_directory {selection : Selection} {tree : FileTree} {directory name : String}
    {node : Node} {inside : Unit → List Visit}
    (noDirectory : looksLikeDirectory tree (extend directory name) node = false) :
    entryOf selection tree directory name node inside =
      ⟨name, false, fileVisits selection directory name⟩ := by
  cases node with
  | file content mode access => rfl
  | directory entries access => simp [looksLikeDirectory] at noDirectory
  | link target =>
      simp only [looksLikeDirectory] at noDirectory
      simp only [entryOf]
      split
      · next entries access found => simp [found] at noDirectory
      · rfl

theorem entryOf_link_of_directory {selection : Selection} {tree : FileTree}
    {directory name target : String} {inside : Unit → List Visit}
    (isDirectory : looksLikeDirectory tree (extend directory name) (.link target) = true) :
    entryOf selection tree directory name (.link target) inside = ⟨name, true, []⟩ := by
  simp only [looksLikeDirectory] at isDirectory
  simp only [entryOf]
  split
  · rfl
  · next noDirectory =>
      split at isDirectory
      · next entries access found => exact absurd found (noDirectory _ _ _)
      · simp at isDirectory

section Entry

variable {selection : Selection} {tree : FileTree} {path : String} {entries : Entries}
  {access : DirectoryAccess} {name : String}

theorem leadsTo_of_not_directory (listable : listingError? tree path = none)
    (isName : Path.IsName name) {node : Node} (found : entries.find? name = some node)
    (noDirectory : looksLikeDirectory tree (extend path name) node = false)
    (inside : Unit → List Visit) :
    ∃ stops, LeadsTo (.ofText path) (StopsAt selection tree path (.directory entries access))
      (entryOf selection tree path name node inside) stops := by
  rw [entryOf_of_not_directory noDirectory]
  have onlyStop : ∀ stop : Stop,
      StopsAt selection tree path (.directory entries access) stop ∧
          stop.components.head? = some ⟨name, false⟩ ↔
        stop = .file [] name ∧
          Text.lowercase (String.ofList (Path.suffixOf name.toList)) ∈ selection.extensions := by
    intro stop
    rw [stopsAt_iff_of_listable listable]
    constructor
    · rintro ⟨⟨other, _, rfl, _, _, wanted⟩ | ⟨other, _, deeper, rfl, _⟩, head⟩
      · simp only [Stop.components, List.map_nil, List.nil_append, List.head?_cons,
          Option.some.injEq, Component.mk.injEq, and_true] at head
        subst head
        exact ⟨rfl, wanted⟩
      · simp at head
    · rintro ⟨rfl, wanted⟩
      exact ⟨Or.inl ⟨name, node, rfl, found, noDirectory, wanted⟩, rfl⟩
  by_cases wanted :
      Text.lowercase (String.ofList (Path.suffixOf name.toList)) ∈ selection.extensions
  · refine ⟨[.file [] name], ?_, ?_, by simp⟩
    · have wants : selection.wants ((Path.ofText path).child name) = true :=
        (wants_child isName).mpr wanted
      simp only [fileVisits, wants, if_true, List.map_cons, List.map_nil]
      simp [Stop.visit, Path.child_eq isName]
    · intro stop
      simp [onlyStop, wanted]
  · refine ⟨[], ?_, ?_, by simp⟩
    · simp [fileVisits, mt (wants_child isName).mp wanted]
    · intro stop
      simp [onlyStop, wanted]

theorem leadsTo_of_link (listable : listingError? tree path = none) {target : String}
    (found : entries.find? name = some (.link target))
    (isDirectory : looksLikeDirectory tree (extend path name) (.link target) = true)
    (inside : Unit → List Visit) :
    LeadsTo (.ofText path) (StopsAt selection tree path (.directory entries access))
      (entryOf selection tree path name (.link target) inside) [] := by
  rw [entryOf_link_of_directory isDirectory]
  refine ⟨rfl, ?_, by simp⟩
  intro stop
  simp only [List.not_mem_nil, false_iff]
  rintro ⟨stopsAt, head⟩
  rw [stopsAt_iff_of_listable listable] at stopsAt
  rcases stopsAt with ⟨other, _, rfl, _⟩ | ⟨other, child, deeper, rfl, present, _, stopsAt⟩
  · simp [Stop.components] at head
  · simp only [Stop.components_under, List.head?_cons, Option.some.injEq, Component.mk.injEq,
      and_true] at head
    subst head
    rw [found] at present
    rw [← Option.some.inj present] at stopsAt
    exact not_stopsAt_link stopsAt

theorem leadsTo_of_directory (listable : listingError? tree path = none) (nonempty : path ≠ "")
    (isName : Path.IsName name) {inner : Entries} {innerAccess : DirectoryAccess}
    (found : entries.find? name = some (.directory inner innerAccess)) {deeper : List Stop}
    {inside : Unit → List Visit}
    (visits : inside () = deeper.map (Stop.visit (.ofText (extend path name))))
    (members : ∀ stop, stop ∈ deeper ↔
      StopsAt selection tree (extend path name) (.directory inner innerAccess) stop)
    (ordered : deeper.Pairwise Stop.Precedes) :
    ∃ stops, LeadsTo (.ofText path) (StopsAt selection tree path (.directory entries access))
      (entryOf selection tree path name (.directory inner innerAccess) inside) stops := by
  have throughEntry : ∀ stop : Stop,
      StopsAt selection tree path (.directory entries access) stop ∧
          stop.components.head? = some ⟨name, true⟩ ↔
        selection.excludes name = false ∧ ∃ below ∈ deeper, below.under name = stop := by
    intro stop
    rw [stopsAt_iff_of_listable listable]
    constructor
    · rintro ⟨⟨other, _, rfl, _⟩ | ⟨other, child, below, rfl, present, kept, stopsAt⟩, head⟩
      · simp [Stop.components] at head
      · simp only [Stop.components_under, List.head?_cons, Option.some.injEq, Component.mk.injEq,
          and_true] at head
        subst head
        rw [found] at present
        rw [← Option.some.inj present] at stopsAt
        exact ⟨kept, below, (members below).mpr stopsAt, rfl⟩
    · rintro ⟨kept, below, belowMem, rfl⟩
      exact ⟨Or.inr ⟨name, _, below, rfl, found, kept, (members below).mp belowMem⟩, by simp⟩
  cases excluded : selection.excludes name with
  | true =>
      refine ⟨[], ?_, ?_, by simp⟩
      · simp [entryOf, excluded]
      · intro stop
        simp [entryOf, throughEntry, excluded]
  | false =>
      refine ⟨deeper.map (Stop.under name), ?_, ?_, ?_⟩
      · simp [entryOf, excluded, visits, Function.comp_def, visit_under nonempty isName]
      · intro stop
        simp [entryOf, throughEntry, excluded]
      · rw [List.pairwise_map]
        exact ordered.imp fun precedes => precedes.under name

end Entry

/-! ## Entries in order -/

/-- Sorting by names of which no two are the same puts them in a strict order. -/
theorem pairwise_mergeSort_of_nodup {α : Type} {nameOf : α → String} {items : List α}
    (names : (items.map nameOf).Nodup) :
    (items.mergeSort fun first second => nameOf first ≤ nameOf second).Pairwise
      (fun first second => nameOf first < nameOf second) := by
  generalize sortedAs : (items.mergeSort fun first second => nameOf first ≤ nameOf second) = sorted
  have byLe : sorted.Pairwise (fun first second => decide (nameOf first ≤ nameOf second) = true) := by
    rw [← sortedAs]
    apply List.pairwise_mergeSort
    · intro first second third
      simp only [decide_eq_true_eq]
      exact le_trans
    · intro first second
      simp only [Bool.or_eq_true, decide_eq_true_eq]
      exact le_total _ _
  have distinct : sorted.Pairwise (fun first second => nameOf first ≠ nameOf second) := by
    have perm : sorted.Perm items := sortedAs ▸ List.mergeSort_perm _ _
    exact List.pairwise_map.mp ((perm.map nameOf).nodup_iff.mpr names)
  apply byLe.imp₂ _ distinct
  intro first second le ne
  exact lt_of_le_of_ne (by simpa using le) ne

theorem pairwise_byName {walked : List WalkedEntry} (names : (walked.map (·.name)).Nodup) :
    (byName walked).Pairwise (fun first second => first.name < second.name) :=
  pairwise_mergeSort_of_nodup names

section Group

variable {root : Path} {isStop : Stop → Prop} {group : List WalkedEntry}
  {stopsOf : WalkedEntry → List Stop}

theorem flatMap_visits (leads : ∀ entry ∈ group, LeadsTo root isStop entry (stopsOf entry)) :
    group.flatMap (·.visits) = (group.flatMap stopsOf).map (Stop.visit root) := by
  rw [List.map_flatMap]
  apply List.flatMap_congr
  intro entry member
  exact (leads entry member).visits

/-- Entries of one kind that stand in the order of their names lead to stops in order. -/
theorem pairwise_precedes_flatMap {isDirectory : Bool}
    (leads : ∀ entry ∈ group, LeadsTo root isStop entry (stopsOf entry))
    (kind : ∀ entry ∈ group, entry.isDirectory = isDirectory)
    (increasing : group.Pairwise (fun first second => first.name < second.name)) :
    (group.flatMap stopsOf).Pairwise Stop.Precedes := by
  rw [List.pairwise_flatMap]
  refine ⟨fun entry member => (leads entry member).ordered, ?_⟩
  refine increasing.imp_of_mem ?_
  intro entry other entryMem otherMem less first firstMem second secondMem
  have firstHead := (((leads entry entryMem).members first).mp firstMem).2
  have secondHead := (((leads other otherMem).members second).mp secondMem).2
  apply Stop.precedes_of_heads firstHead secondHead (ne_of_lt less)
  exact Or.inr ⟨(kind entry entryMem).trans (kind other otherMem).symm, less⟩

end Group

/-- The visits of a directory are its stops in order, if what every entry leads to is known. -/
theorem visitsOf_eq_map_visit {root : Path} {isStop : Stop → Prop} {walked : List WalkedEntry}
    (names : (walked.map (·.name)).Nodup)
    (leadsTo : ∀ entry ∈ walked, ∃ stops, LeadsTo root isStop entry stops)
    (covered : ∀ stop, isStop stop →
      ∃ entry ∈ walked, stop.components.head? = some ⟨entry.name, entry.isDirectory⟩) :
    ∃ stops : List Stop, visitsOf walked = stops.map (Stop.visit root) ∧
      (∀ stop, stop ∈ stops ↔ isStop stop) ∧ stops.Pairwise Stop.Precedes := by
  have total : ∀ entry, ∃ stops, entry ∈ walked → LeadsTo root isStop entry stops := by
    intro entry
    by_cases member : entry ∈ walked
    · rcases leadsTo entry member with ⟨stops, leads⟩
      exact ⟨stops, fun _ => leads⟩
    · exact ⟨[], fun present => absurd present member⟩
  -- With the stops chosen for every entry, sorting the entries sorts the groups of stops along.
  choose stopsOf stopsOf_spec using total
  let files := (byName walked).filter (!·.isDirectory)
  let directories := (byName walked).filter (·.isDirectory)
  have mem_files : ∀ entry, entry ∈ files ↔ entry ∈ walked ∧ entry.isDirectory = false := by
    intro entry
    simp [files, byName]
  have mem_directories : ∀ entry, entry ∈ directories ↔ entry ∈ walked ∧ entry.isDirectory = true := by
    intro entry
    simp [directories, byName]
  have filesLead : ∀ entry ∈ files, LeadsTo root isStop entry (stopsOf entry) :=
    fun entry member => stopsOf_spec entry ((mem_files entry).mp member).1
  have directoriesLead : ∀ entry ∈ directories, LeadsTo root isStop entry (stopsOf entry) :=
    fun entry member => stopsOf_spec entry ((mem_directories entry).mp member).1
  refine ⟨files.flatMap stopsOf ++ directories.flatMap stopsOf, ?_, ?_, ?_⟩
  · rw [List.map_append, ← flatMap_visits filesLead, ← flatMap_visits directoriesLead]
    rfl
  · intro stop
    simp only [List.mem_append, List.mem_flatMap]
    constructor
    · rintro (⟨entry, member, stopMem⟩ | ⟨entry, member, stopMem⟩)
      · exact (((filesLead entry member).members stop).mp stopMem).1
      · exact (((directoriesLead entry member).members stop).mp stopMem).1
    · intro stops
      rcases covered stop stops with ⟨entry, member, head⟩
      have stopMem := ((stopsOf_spec entry member).members stop).mpr ⟨stops, head⟩
      cases kind : entry.isDirectory with
      | false => exact Or.inl ⟨entry, (mem_files entry).mpr ⟨member, kind⟩, stopMem⟩
      | true => exact Or.inr ⟨entry, (mem_directories entry).mpr ⟨member, kind⟩, stopMem⟩
  · have increasing := pairwise_byName names
    rw [List.pairwise_append]
    refine ⟨?_, ?_, ?_⟩
    · exact pairwise_precedes_flatMap filesLead (fun entry member => ((mem_files entry).mp member).2)
        (increasing.filter _)
    · exact pairwise_precedes_flatMap directoriesLead
        (fun entry member => ((mem_directories entry).mp member).2) (increasing.filter _)
    · intro first firstMem second secondMem
      rcases List.mem_flatMap.mp firstMem with ⟨entry, entryMem, firstMem⟩
      rcases List.mem_flatMap.mp secondMem with ⟨other, otherMem, secondMem⟩
      have firstHead := (((filesLead entry entryMem).members first).mp firstMem).2
      have secondHead := (((directoriesLead other otherMem).members second).mp secondMem).2
      rcases (mem_files entry).mp entryMem with ⟨entryWalked, entryFile⟩
      rcases (mem_directories other).mp otherMem with ⟨otherWalked, otherDirectory⟩
      -- Entries of one name are one entry, and that cannot be of both kinds.
      have parted : entry.name ≠ other.name := by
        intro same
        have equal := List.inj_on_of_nodup_map names entryWalked otherWalked same
        rw [equal, otherDirectory] at entryFile
        exact Bool.noConfusion entryFile
      exact Stop.precedes_of_heads firstHead secondHead parted (Or.inl ⟨entryFile, otherDirectory⟩)

/-! ## Whole walks -/

theorem ofEntries_eq_map (selection : Selection) (tree : FileTree) (directory : String)
    (entries : Entries) :
    ofEntries selection tree directory entries =
      entries.toList.map fun entry =>
        entryOf selection tree directory entry.1 entry.2 fun _ =>
          ofNode selection tree (extend directory entry.1) entry.2 := by
  induction entries with
  | empty => rfl
  | entry name node rest ih => simp [ofEntries, Entries.toList, ih]

@[simp]
theorem entryOf_name (selection : Selection) (tree : FileTree) (directory name : String)
    (node : Node) (inside : Unit → List Visit) :
    (entryOf selection tree directory name node inside).name = name := by
  cases node with
  | file content mode access => rfl
  | directory entries access => rfl
  | link target =>
      simp only [entryOf]
      split <;> rfl

theorem entryOf_isDirectory (selection : Selection) (tree : FileTree) (directory name : String)
    (node : Node) (inside : Unit → List Visit) :
    (entryOf selection tree directory name node inside).isDirectory =
      looksLikeDirectory tree (extend directory name) node := by
  cases node with
  | file content mode access => rfl
  | directory entries access => rfl
  | link target =>
      cases isDirectory : looksLikeDirectory tree (extend directory name) (.link target) with
      | false => rw [entryOf_of_not_directory isDirectory]
      | true => rw [entryOf_link_of_directory isDirectory]

/-- The walk from a node visits the stops of the node in their order. -/
theorem ofNode_eq_map_visit (selection : Selection) (tree : FileTree) {node : Node}
    (wellFormed : node.WellFormed) {path : String} (nonempty : path ≠ "") :
    ∃ stops : List Stop, ofNode selection tree path node = stops.map (Stop.visit (.ofText path)) ∧
      (∀ stop, stop ∈ stops ↔ StopsAt selection tree path node stop) ∧
      stops.Pairwise Stop.Precedes := by
  -- The path grows on the way down, so the stops below a directory are wanted for every path.
  induction node using Node.ind generalizing path with
  | file content mode access =>
      exact ⟨[], rfl, fun stop => by simp [not_stopsAt_file], by simp⟩
  | link target =>
      exact ⟨[], rfl, fun stop => by simp [not_stopsAt_link], by simp⟩
  | directory entries access ih =>
      cases listing : listingError? tree path with
      | some error =>
          refine ⟨[.unlistable [] error], ?_, ?_, by simp⟩
          · simp [ofNode, listing, Stop.visit]
          · intro stop
            simp [stopsAt_iff_of_unlistable listing]
      | none =>
          have visits : ofNode selection tree path (.directory entries access) =
              visitsOf (ofEntries selection tree path entries) := by
            simp [ofNode, listing]
          rw [visits, ofEntries_eq_map]
          apply visitsOf_eq_map_visit
          · have names := Entries.nodup_names wellFormed
            simpa [Function.comp_def] using names
          · intro walked member
            rcases List.mem_map.mp member with ⟨⟨name, child⟩, childMem, rfl⟩
            have found := (Entries.mem_toList_iff wellFormed).mp childMem
            have isName := Path.isName_of_isEntryName (Entries.isEntryName_of_find? wellFormed found)
            cases kind : looksLikeDirectory tree (extend path name) child with
            | false => exact leadsTo_of_not_directory listing isName found kind _
            | true =>
                cases child with
                | file content mode access => simp [looksLikeDirectory] at kind
                | link target => exact ⟨[], leadsTo_of_link listing found kind _⟩
                | directory inner innerAccess =>
                    rcases ih name _ found (Entries.wellFormed_of_find? wellFormed found)
                      (Path.extend_ne_empty nonempty) with ⟨deeper, visits, members, ordered⟩
                    exact leadsTo_of_directory listing nonempty isName found visits members ordered
          · intro stop stopsAt
            rcases (stopsAt_iff_of_listable listing stop).mp stopsAt with
              ⟨name, node, rfl, found, kind, _⟩ | ⟨name, child, deeper, rfl, found, _, stopsAt⟩
            · refine ⟨_, List.mem_map_of_mem (Entries.mem_toList_of_find? found), ?_⟩
              simp [Stop.components, entryOf_isDirectory, kind]
            · refine ⟨_, List.mem_map_of_mem (Entries.mem_toList_of_find? found), ?_⟩
              have kind : looksLikeDirectory tree (extend path name) child = true := by
                cases child with
                | file content mode access => exact absurd stopsAt not_stopsAt_file
                | link target => exact absurd stopsAt not_stopsAt_link
                | directory inner innerAccess => rfl
              simp [entryOf_isDirectory, kind]

end Walk

end SkillScan
