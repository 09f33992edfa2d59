import SkillScan.Proofs.Rule.Tiers
import SkillScan.Proofs.Scan.Exactness

/-!
# Where findings are

A finding names its file by the way from the target. The walk puts its paths together from texts, while the way is
taken from the paths that these texts are read as, so the two must agree however the target was written: from the
root or the working directory, with dots, with slashes at the end or with two at the beginning. They do. Joined with
the target, what a finding names is the path that was visited, so no two files are named alike, and a directory that
cannot be listed is named in the same way as long as its error says which one it is.
-/

namespace SkillScan

/-! ## Ways from a path -/

/-- A text names a path as it is seen from another one: it is relative, and the two joined are the path. -/
structure Path.Locates (root : Path) (shown : String) (path : Path) : Prop where
  relative : (Path.ofText shown).anchor = .workingDirectory
  joined : root.join (.ofText shown) = path

namespace Path

theorem Locates.unique {root path other : Path} {shown : String} (locates : root.Locates shown path)
    (otherLocates : root.Locates shown other) : path = other :=
  locates.joined.symm.trans otherLocates.joined

theorem locates_text (root : Path) {names : List String} (areNames : ∀ name ∈ names, IsName name) :
    root.Locates (Path.mk .workingDirectory names).text ⟨root.anchor, root.names ++ names⟩ := by
  have readBack : ofText (Path.mk .workingDirectory names).text = ⟨.workingDirectory, names⟩ :=
    ofText_text areNames
  constructor
  · rw [readBack]
  · rw [readBack]
    rfl

end Path

/-! ## What stops are called -/

/-- How the findings of a visit name what they are about. -/
def Visit.shown (root : Path) : Visit → String
  | .file path => Scanner.shownPath root false path
  | .unlistable error => Scanner.shownPath root false (Scanner.faultyPath root error)

theorem Walk.wellFormed_of_reaches {selection : Selection} {tree : FileTree} {path : String} {node : Node}
    {route : Route} {entries : Entries} {access : DirectoryAccess} (wellFormed : node.WellFormed)
    (reached : Reaches selection tree path node route entries access) : entries.WellFormed := by
  induction reached with
  | here => exact wellFormed
  | into listable present kept reached ih => exact ih (Entries.wellFormed_of_find? wellFormed present)

section Stops

variable {selection : Selection} {tree : FileTree} {root : Path} {top : Node} {stop : Stop}

theorem Stop.place_of_path? {directory : Route} {error : FileError} {named : String}
    (names : error.path? = some named) : (Stop.unlistable directory error).place = directory := by
  cases error with
  | nulInPath => simp [FileError.path?] at names
  | system fault path =>
      rw [FileError.path?] at names
      rw [names, place]

theorem Stop.place_of_no_path {directory : Route} {error : FileError} (noName : error.path? = none) :
    (Stop.unlistable directory error).place = [] := by
  cases error with
  | nulInPath => rfl
  | system fault path =>
      rw [FileError.path?] at noName
      rw [noName, place]
      simp

theorem Stop.place_here (error : FileError) : (Stop.unlistable [] error).place = [] := by
  cases named : error.path? with
  | none => exact place_of_no_path named
  | some path => exact place_of_path? named

theorem Stop.isName_of_mem_place (wellFormed : top.WellFormed) {path : String}
    (stopsAt : Walk.StopsAt selection tree path top stop) : ∀ name ∈ stop.place, Path.IsName name := by
  intro name member
  apply Path.isName_of_isEntryName
  cases stop with
  | file directory last =>
      rcases stopsAt with ⟨entries, access, node, reached, _, found, _⟩
      rcases List.mem_append.mp member with onTheWay | isLast
      · exact Walk.isEntryName_of_reaches wellFormed reached name onTheWay
      · rw [List.mem_singleton.mp isLast]
        exact Entries.isEntryName_of_find? (Walk.wellFormed_of_reaches wellFormed reached) found
  | unlistable directory error =>
      rcases stopsAt with ⟨entries, access, reached, _⟩
      cases named : error.path? with
      | none =>
          rw [place_of_no_path named] at member
          exact absurd member List.not_mem_nil
      | some path =>
          rw [place_of_path? named] at member
          exact Walk.isEntryName_of_reaches wellFormed reached name member

/-- The texts of the walk and the paths that are read from them lead to one name. -/
theorem Stop.shown_visit (wellFormed : top.WellFormed) (normal : root.Normal)
    (stopsAt : Walk.StopsAt selection tree root.text top stop) :
    (stop.visit root).shown root = stop.shown := by
  cases stop with
  | file directory name =>
      rw [Scanner.visit_file, Visit.shown, Scanner.shownPath_pathFrom]
  | unlistable directory error =>
      rcases stopsAt with ⟨entries, access, reached, refused⟩
      have areNames : ∀ name ∈ directory, Path.IsName name := by
        intro name member
        exact Path.isName_of_isEntryName (Walk.isEntryName_of_reaches wellFormed reached name member)
      rw [Stop.visit, Visit.shown, Scanner.faultyPath_of_listingError normal areNames refused,
        Scanner.shownPath_pathFrom]

theorem Stop.locates_shown (wellFormed : top.WellFormed) (normal : root.Normal)
    (stopsAt : Walk.StopsAt selection tree root.text top stop) :
    root.Locates ((stop.visit root).shown root) (stop.pathFrom root) := by
  rw [Stop.shown_visit wellFormed normal stopsAt]
  exact Path.locates_text root (Stop.isName_of_mem_place wellFormed stopsAt)

/-- The path that the error of a stop names is that of the directory, as the walk has written it. -/
theorem Stop.eq_written_of_path? {directory : Route} {error : FileError} {path named : String}
    (stopsAt : Walk.StopsAt selection tree path top (.unlistable directory error))
    (names : error.path? = some named) : named = Walk.written path directory := by
  rcases stopsAt with ⟨entries, access, _, refused⟩
  exact FileTree.eq_of_path?_list (Walk.list_of_listingError? refused) names

theorem Stop.ofText_path? (wellFormed : top.WellFormed) (normal : root.Normal) {directory : Route}
    {error : FileError} {named : String}
    (stopsAt : Walk.StopsAt selection tree root.text top (.unlistable directory error))
    (names : error.path? = some named) :
    Path.ofText named = ⟨root.anchor, root.names ++ directory⟩ := by
  have areNames := Stop.isName_of_mem_place wellFormed stopsAt
  rw [Stop.place_of_path? names] at areNames
  rw [Stop.eq_written_of_path? stopsAt names, Path.ofText_written (Path.text_ne_empty normal) areNames,
    Path.ofText_text normal]

end Stops

namespace Scanner

/-- All findings of a visit have the name of the visit. -/
theorem file_of_mem_findings_block {scanner : Scanner} {tree : FileTree} {root : Path} {visit : Visit}
    {finding : Finding} (member : finding ∈ (scanner.block tree root false visit).findings) :
    finding.file = visit.shown root := by
  cases visit with
  | unlistable error =>
      rw [List.mem_singleton.mp member]
      rfl
  | file path =>
      cases readable : tree.read path with
      | error error =>
          simp only [block_of_unread readable, unreadBlock, List.mem_singleton] at member
          rw [member]
          rfl
      | ok content =>
          simp only [block_of_read readable, readBlock, List.mem_flatMap] at member
          rcases member with ⟨line, lineMem, found⟩
          rcases NumberedLine.mem_findings_iff.mp found with ⟨rule, _, _, _, rfl⟩
          rcases List.mem_mapIdx.mp lineMem with ⟨index, _, rfl⟩
          rfl

/-- Joined with the target, what the findings of a scan name is the path that the walk has visited: a file, or the
directory that an error names. The target itself, and a directory of which the error has no name, are called by a
dot. No two files have one name. -/
theorem locations_identify_visits {tree : FileTree} {location : Location} {entries : Entries} {access : DirectoryAccess}
    (scanner : Scanner) (wellFormed : tree.WellFormed) (text : String)
    (isDirectory : tree.lookup (Path.ofText text).text = .ok (location, .directory entries access)) :
    let root := Path.ofText text
    ∃ visits, walk scanner.selection tree root = .ok visits ∧ tree.isFile root = .ok false ∧
      (∀ visit ∈ visits, ∀ finding ∈ (scanner.block tree root false visit).findings,
        finding.file = visit.shown root) ∧
      (∀ path, Visit.file path ∈ visits → root.Locates (shownPath root false path) path) ∧
      (∀ path other, Visit.file path ∈ visits → Visit.file other ∈ visits → path ≠ other →
        shownPath root false path ≠ shownPath root false other) ∧
      ∀ error, Visit.unlistable error ∈ visits → ∃ directory,
        Walk.StopsAt scanner.selection tree root.text (.directory entries access)
            (.unlistable directory error) ∧
          (∀ named, error.path? = some named →
            Path.ofText named = ⟨root.anchor, root.names ++ directory⟩ ∧
              root.Locates (shownPath root false (faultyPath root error)) (.ofText named)) ∧
          (error.path? = none ∨ directory = [] → shownPath root false (faultyPath root error) = ".") := by
  intro root
  have normal : root.Normal := Path.normal_ofText text
  have topWellFormed := FileTree.wellFormed_of_lookup wellFormed isDirectory
  have noFile : tree.isFile root = .ok false := by
    simp only [FileTree.isFile, FileTree.leadsTo]
    rw [isDirectory]
    rfl
  rcases @walk_eq_map_visit _ scanner.selection _ _ _ _ wellFormed normal isDirectory with
    ⟨stops, walked, itinerary⟩
  have locates (path : Path) (visited : Visit.file path ∈ stops.map (Stop.visit root)) :
      root.Locates (shownPath root false path) path := by
    rcases List.mem_map.mp visited with ⟨stop, member, same⟩
    have here := Stop.locates_shown topWellFormed normal ((itinerary.members stop).mp member)
    cases stop with
    | unlistable directory error => simp [Stop.visit] at same
    | file directory name =>
        rw [same] at here
        rw [visit_file] at same
        rwa [← Visit.file.inj same] at here ⊢
  refine ⟨_, walked, noFile, fun visit _ finding => file_of_mem_findings_block, locates, ?_, ?_⟩
  · intro path other visited otherVisited different same
    have otherLocates := locates other otherVisited
    rw [← same] at otherLocates
    exact different ((locates path visited).unique otherLocates)
  · intro error visited
    rcases List.mem_map.mp visited with ⟨stop, member, same⟩
    have stopsAt := (itinerary.members stop).mp member
    cases stop with
    | file directory name => simp [Stop.visit] at same
    | unlistable directory other =>
        cases Visit.unlistable.inj same
        refine ⟨directory, stopsAt, ?_, ?_⟩
        · intro named names
          have placed := Stop.ofText_path? topWellFormed normal stopsAt names
          have here := Stop.locates_shown topWellFormed normal stopsAt
          rw [Stop.pathFrom, Stop.place_of_path? names, ← placed] at here
          exact ⟨placed, here⟩
        · intro atTarget
          have noPlace : (Stop.unlistable directory error).place = [] := by
            rcases atTarget with noName | rfl
            · exact Stop.place_of_no_path noName
            · exact Stop.place_here error
          have shown := Stop.shown_visit topWellFormed normal stopsAt
          rw [Stop.shown, noPlace] at shown
          exact shown

/-- The package written with a dot, a way back and slashes at the end. -/
theorem locations_identify_exampleVisits :
    exampleTree.WellFormed ∧
      ∃ entries access,
        exampleTree.lookup (Path.ofText ".//package/src/..//").text =
            .ok (["package"], .directory entries access) ∧
          shownPath (.ofText ".//package/src/..//") false (.ofText "package/src/../src/run.py") =
            "src/run.py" ∧
          ∃ visits, walk builtin.selection exampleTree (.ofText ".//package/src/..//") = .ok visits ∧
            ∀ path, Visit.file path ∈ visits →
              (Path.ofText ".//package/src/..//").Locates
                (shownPath (.ofText ".//package/src/..//") false path) path := by
  have wellFormed : exampleTree.WellFormed := by decide
  rcases locations_identify_visits builtin wellFormed ".//package/src/..//" rfl with
    ⟨visits, walked, _, _, locates, _⟩
  exact ⟨wellFormed, _, _, rfl, by decide, visits, walked, locates⟩

end Scanner

end SkillScan
