import Mathlib.Algebra.GroupWithZero.Nat
import SkillScan.Proofs.Text.Separation
import SkillScan.Proofs.Walk.Listing
import SkillScan.Scan

/-!
# What a scan finds

A scan of a directory is determined stop by stop. A file that can be read contributes the findings of its
lines, numbered from one; a file that cannot be read and a directory that cannot be listed contribute one
warning each. The findings of the scan are these contributions in the order of the stops, and its counts
are the number of files and the sum of their lines.
-/

namespace SkillScan

/-! ## Paths of errors -/

/-- The path that an error names. -/
def FileError.path? : FileError → Option String
  | .system _ path => path
  | .nulInPath => none

namespace FileTree

variable {tree : FileTree} {text named : String} {error : FileError}

theorem eq_of_path?_place {purpose : Purpose} (failed : tree.place purpose text = .error error)
    (names : error.path? = some named) : named = text := by
  rw [place] at failed
  split at failed
  · cases failed
    simp [FileError.path?] at names
  · split at failed
    · cases failed
      exact (Option.some.inj names).symm
    · split at failed
      · simp at failed
      · cases failed
        exact (Option.some.inj names).symm

theorem eq_of_path?_lookup (failed : tree.lookup text = .error error)
    (names : error.path? = some named) : named = text := by
  rw [lookup] at failed
  cases placed : tree.place .content text with
  | error fault =>
      rw [placed] at failed
      cases failed
      exact eq_of_path?_place placed names
  | ok place =>
      rw [placed] at failed
      cases place with
      | found location node => simp [bind, Except.bind] at failed
      | vacant parent name =>
          cases failed
          exact (Option.some.inj names).symm

/-- An error of listing a directory names no other path than that of the directory. -/
theorem eq_of_path?_list (failed : tree.list text = .error error) (names : error.path? = some named) :
    named = text := by
  rw [list] at failed
  cases led : tree.lookup text with
  | error fault =>
      rw [led] at failed
      cases failed
      exact eq_of_path?_lookup led names
  | ok found =>
      rcases found with ⟨location, node⟩
      rw [led] at failed
      cases node with
      | file content mode access =>
          cases failed
          exact (Option.some.inj names).symm
      | link target =>
          cases failed
          exact (Option.some.inj names).symm
      | directory entries access =>
          cases permitted : access.listing with
          | granted => simp [permitted, bind, Except.bind] at failed
          | refused isNamed =>
              simp only [permitted, bind, Except.bind, refusal, Except.error.injEq] at failed
              subst failed
              cases isNamed with
              | true => exact (Option.some.inj names).symm
              | false => simp [FileError.path?] at names

end FileTree

theorem Walk.list_of_listingError? {tree : FileTree} {path : String} {error : FileError}
    (failed : listingError? tree path = some error) : tree.list path = .error error := by
  rw [listingError?] at failed
  split at failed
  · simp at failed
  · next other listed => rw [listed, Option.some.inj failed]

/-! ## Paths of stops -/

theorem Walk.isEntryName_of_reaches {selection : Selection} {tree : FileTree} {path : String} {node : Node}
    {route : Route} {entries : Entries} {access : DirectoryAccess} (wellFormed : node.WellFormed)
    (reached : Reaches selection tree path node route entries access) :
    ∀ name ∈ route, IsEntryName name := by
  induction reached with
  | here => simp
  | into listable present kept reached ih =>
      intro name member
      rcases List.mem_cons.mp member with rfl | member
      · exact Entries.isEntryName_of_find? wellFormed present
      · exact ih (Entries.wellFormed_of_find? wellFormed present) name member

namespace Path

theorem ofText_written {base : String} (nonempty : base ≠ "") {route : Route}
    (areNames : ∀ name ∈ route, IsName name) :
    ofText (Walk.written base route) = ⟨(ofText base).anchor, (ofText base).names ++ route⟩ := by
  induction route generalizing base with
  | nil => simp
  | cons name route ih =>
      have isName : IsName name := areNames name (by simp)
      have areLater : ∀ later ∈ route, IsName later := by
        intro later member
        exact areNames later (by simp [member])
      rw [Walk.written_cons, ih (extend_ne_empty nonempty) areLater, ofText_extend nonempty isName]
      simp

theorem written_ne_empty {base : String} (nonempty : base ≠ "") (route : Route) :
    Walk.written base route ≠ "" := by
  induction route generalizing base with
  | nil => exact nonempty
  | cons name route ih => exact ih (extend_ne_empty nonempty)

theorem relativeTo?_append (root : Path) (names : List String) :
    relativeTo? ⟨root.anchor, root.names ++ names⟩ root = some ⟨.workingDirectory, names⟩ := by
  simp [relativeTo?]

end Path

namespace FileTree

variable {tree : FileTree} {path : Path}

theorem readText_of_read {content : List UInt8} (readable : tree.read path = .ok content) :
    tree.readText path = .ok (textOf content) := by
  simp only [readText, readable, Except.map]

theorem readText_of_unread {error : FileError} (unreadable : tree.read path = .error error) :
    tree.readText path = .error error := by
  simp only [readText, unreadable, Except.map]

end FileTree

/-! ## Contributions -/

namespace Stop

/-- The names that lead from the target of a scan to what the findings of a stop are about. A directory
that cannot be listed stands for the target if the error does not name it. -/
def place : Stop → Route
  | .file directory name => directory ++ [name]
  | .unlistable directory (.system _ (some _)) => directory
  | .unlistable _ _ => []

/-- How the findings of a stop name what they are about. -/
def shown (stop : Stop) : String :=
  (Path.mk .workingDirectory stop.place).text

/-- The path of a file at a stop, or of the target. -/
def pathFrom (root : Path) (stop : Stop) : Path :=
  ⟨root.anchor, root.names ++ stop.place⟩

/-- Whether a stop is at a file. -/
def isFile : Stop → Bool
  | .file _ _ => true
  | .unlistable _ _ => false

/-- The findings that a stop contributes to a scan. -/
def contribution (catalog : Catalog) (policy : Policy) (tree : FileTree) (root : Path) (stop : Stop) :
    List Finding :=
  let warning (issue : String) : Finding :=
    ⟨.warning, stop.shown, 0, issue, Scanner.checkPermissions, none⟩
  match stop with
  | .file _ _ =>
    match tree.read (stop.pathFrom root) with
    | .ok content =>
      let text := Text.unifyNewlines (Text.decodeReplacing content)
      ((Text.splitAt '\n' text).zipIdx 1).flatMap fun (line, number) =>
        NumberedLine.findings ⟨stop.shown, number, String.ofList line⟩ catalog policy
    | .error error => [warning ("Could not read file: " ++ error.message)]
  | .unlistable _ error => [warning ("Could not read directory: " ++ error.message)]

/-- The number of lines that a stop contributes to a scan. -/
def linesRead (tree : FileTree) (root : Path) (stop : Stop) : Nat :=
  match stop with
  | .file _ _ =>
    match tree.read (stop.pathFrom root) with
    | .ok content => 1 + (Text.unifyNewlines (Text.decodeReplacing content)).count '\n'
    | .error _ => 0
  | .unlistable _ _ => 0

end Stop

namespace Scanner

theorem numbered_eq_zipIdx (file : String) (lines : List String) :
    numbered file lines = (lines.zipIdx 1).map fun (text, number) => ⟨file, number, text⟩ := by
  rw [numbered, List.mapIdx_eq_zipIdx_map, List.zipIdx_succ, List.map_map]
  apply List.map_congr_left
  rintro ⟨text, index⟩ _
  simp

theorem length_linesOf (content : List UInt8) :
    (linesOf (FileTree.textOf content)).length =
      1 + (Text.unifyNewlines (Text.decodeReplacing content)).count '\n' := by
  simp only [linesOf, FileTree.textOf, String.toList_ofList, Text.lines, List.length_map,
    Text.length_splitAt]
  omega

/-- The path that the error of listing a directory names. -/
theorem faultyPath_of_listingError {tree : FileTree} {root : Path} (normal : root.Normal)
    {directory : Route} (areNames : ∀ name ∈ directory, Path.IsName name) {error : FileError}
    (failed : Walk.listingError? tree (Walk.written root.text directory) = some error) :
    faultyPath root error = (Stop.unlistable directory error).pathFrom root := by
  have nonempty := Path.text_ne_empty normal
  have written : Path.ofText (Walk.written root.text directory) =
      ⟨root.anchor, root.names ++ directory⟩ := by
    rw [Path.ofText_written nonempty areNames, Path.ofText_text normal]
  have writtenNonempty := Path.written_ne_empty nonempty directory
  cases error with
  | nulInPath => simp [faultyPath, Stop.pathFrom, Stop.place]
  | system fault path =>
      cases path with
      | none => simp [faultyPath, Stop.pathFrom, Stop.place]
      | some named =>
          have here := FileTree.eq_of_path?_list (Walk.list_of_listingError? failed) rfl
          rw [here]
          simp [faultyPath, writtenNonempty, written, Stop.pathFrom, Stop.place]

theorem shownPath_pathFrom (root : Path) (stop : Stop) :
    shownPath root false (stop.pathFrom root) = stop.shown := by
  simp [shownPath, Stop.pathFrom, Path.relativeTo?_append, Stop.shown]

section Block

variable {scanner : Scanner} {tree : FileTree} {root : Path} {top : Node} {stop : Stop}

theorem block_of_read {path : Path} {rootIsFile : Bool} {content : List UInt8}
    (readable : tree.read path = .ok content) :
    scanner.block tree root rootIsFile (.file path) =
      scanner.readBlock (shownPath root rootIsFile path) (linesOf (FileTree.textOf content)) := by
  simp only [block, FileTree.readText_of_read readable]

theorem block_of_unread {path : Path} {rootIsFile : Bool} {error : FileError}
    (unreadable : tree.read path = .error error) :
    scanner.block tree root rootIsFile (.file path) =
      unreadBlock path (shownPath root rootIsFile path) error := by
  simp only [block, FileTree.readText_of_unread unreadable]

theorem visit_file (directory : Route) (name : String) :
    (Stop.file directory name).visit root = .file ((Stop.file directory name).pathFrom root) := by
  simp [Stop.visit, Stop.pathFrom, Stop.place]

/-- The block of a stop holds its contribution. -/
theorem findings_block_of_stopsAt (wellFormed : top.WellFormed) (normal : root.Normal)
    (stopsAt : Walk.StopsAt scanner.selection tree root.text top stop) :
    (scanner.block tree root false (stop.visit root)).findings =
      stop.contribution scanner.catalog scanner.policy tree root := by
  cases stop with
  | file directory name =>
      rw [visit_file]
      cases readable : tree.read ((Stop.file directory name).pathFrom root) with
      | error error =>
          simp only [block_of_unread readable, shownPath_pathFrom, Stop.contribution, readable]
          rfl
      | ok content =>
          simp only [block_of_read readable, shownPath_pathFrom, Stop.contribution, readable, readBlock,
            numbered_eq_zipIdx, linesOf, FileTree.textOf, String.toList_ofList, Text.lines,
            List.zipIdx_map, List.flatMap_map, Prod.map_fst, Prod.map_snd, id_eq]
  | unlistable directory error =>
      rcases stopsAt with ⟨entries, access, reached, refused⟩
      have areNames : ∀ name ∈ directory, Path.IsName name := by
        intro name member
        exact Path.isName_of_isEntryName (Walk.isEntryName_of_reaches wellFormed reached name member)
      have faulty := faultyPath_of_listingError normal areNames refused
      simp only [Stop.visit, block, faulty, shownPath_pathFrom, unlistedBlock, Stop.contribution,
        notice]

/-- The block of a stop counts a file and its lines. -/
theorem statistics_block_visit :
    (scanner.block tree root false (stop.visit root)).statistics =
      ⟨if stop.isFile then 1 else 0, stop.linesRead tree root⟩ := by
  cases stop with
  | file directory name =>
      rw [visit_file]
      cases readable : tree.read ((Stop.file directory name).pathFrom root) with
      | error error =>
          simp only [block_of_unread readable, Stop.linesRead, Stop.isFile, readable]
          rfl
      | ok content =>
          simp [block_of_read readable, Stop.linesRead, Stop.isFile, readable, Block.statistics,
            readBlock, numbered, length_linesOf]
  | unlistable directory error => rfl

end Block

/-! ## Whole scans -/

theorem statistics_gather_visits (scanner : Scanner) (tree : FileTree) (root : Path)
    (stops : List Stop) :
    (gather ((stops.map (Stop.visit root)).map (scanner.block tree root false))).statistics =
      ⟨stops.countP Stop.isFile, (stops.map (Stop.linesRead tree root)).sum⟩ := by
  induction stops with
  | nil => rfl
  | cons stop stops ih =>
      simp only [gather, List.map_cons, List.foldr_cons] at ih ⊢
      rw [ih, statistics_block_visit]
      cases kind : stop.isFile with
      | false => simp [Statistics.plus, kind]
      | true => simp [Statistics.plus, kind, Int.add_comm]

section Scan

variable {scanner : Scanner} {tree : FileTree} {root : Path} {location : Location}

/-- The blocks of a target that exists are those of the visits of its walk. -/
theorem blocks_of_walk {node : Node} {visits : List Visit}
    (present : tree.lookup root.text = .ok (location, node))
    (walked : walk scanner.selection tree root = .ok visits) :
    scanner.blocks tree root = .ok (visits.map (scanner.block tree root (!node.isDirectory))) := by
  simp [blocks, FileTree.exists, FileTree.isFile, FileTree.leadsTo, present, walked, bind, Except.bind,
    pure, Except.pure, Except.mapError]

theorem scan_of_walk {node : Node} {visits : List Visit}
    (present : tree.lookup root.text = .ok (location, node))
    (walked : walk scanner.selection tree root = .ok visits) :
    scanner.scan tree root =
      .ok ⟨root, gather (visits.map (scanner.block tree root (!node.isDirectory)))⟩ := by
  simp [scan, blocks_of_walk present walked, bind, Except.bind, pure, Except.pure]

theorem scan_of_itinerary {entries : Entries} {access : DirectoryAccess} (wellFormed : tree.WellFormed)
    (normal : root.Normal)
    (isDirectory : tree.lookup root.text = .ok (location, .directory entries access)) :
    ∃ stops : List Stop,
      Walk.Itinerary scanner.selection tree root.text (.directory entries access) stops ∧
        scanner.scan tree root = .ok ⟨root,
          ⟨⟨stops.countP Stop.isFile, (stops.map (Stop.linesRead tree root)).sum⟩,
            stops.flatMap (Stop.contribution scanner.catalog scanner.policy tree root)⟩⟩ := by
  have topWellFormed := FileTree.wellFormed_of_lookup wellFormed isDirectory
  rcases @walk_eq_map_visit _ scanner.selection _ _ _ _ wellFormed normal isDirectory with
    ⟨stops, walked, itinerary⟩
  refine ⟨stops, itinerary, ?_⟩
  rw [scan_of_walk isDirectory walked]
  have findings : (gather ((stops.map (Stop.visit root)).map (scanner.block tree root false))).findings =
      stops.flatMap (Stop.contribution scanner.catalog scanner.policy tree root) := by
    simp only [gather, List.flatMap_map]
    apply List.flatMap_congr
    intro stop member
    exact findings_block_of_stopsAt topWellFormed normal ((itinerary.members stop).mp member)
  have gathered : gather ((stops.map (Stop.visit root)).map (scanner.block tree root false)) =
      ⟨⟨stops.countP Stop.isFile, (stops.map (Stop.linesRead tree root)).sum⟩,
        stops.flatMap (Stop.contribution scanner.catalog scanner.policy tree root)⟩ := by
    rw [← findings, ← statistics_gather_visits scanner tree root stops]
  simp only [Node.isDirectory, Bool.not_true]
  rw [gathered]

/-- The findings of a scan with rules of its own are what the stops of the walk contribute, in their order.
Its counts are the number of files and the sum of the lines that could be read. -/
theorem scan_finds_contributions {entries : Entries} {access : DirectoryAccess}
    (wellFormed : tree.WellFormed) (text : String)
    (isDirectory :
      tree.lookup (Path.ofText text).text = .ok (location, .directory entries access))
    {catalog : Catalog} (hasRules : catalog.size ≠ 0) (policy : Policy)
    (extensions excludedNames : List String) :
    ∃ (stops : List Stop) (result : ScanResult),
      Walk.Itinerary ⟨extensions.map Text.lowercase, excludedNames⟩ tree (Path.ofText text).text
          (.directory entries access) stops ∧
        (make catalog policy extensions excludedNames).scan tree (.ofText text) = .ok result ∧
        result.target = .ofText text ∧
        result.tally.findings =
          stops.flatMap (Stop.contribution catalog policy tree (.ofText text)) ∧
        result.tally.statistics.files = stops.countP Stop.isFile ∧
        result.tally.statistics.lines = (stops.map (Stop.linesRead tree (.ofText text))).sum := by
  have ownRules : (make catalog policy extensions excludedNames).catalog = catalog := by
    simp [make, hasRules]
  have normal := Path.normal_ofText text
  rcases @scan_of_itinerary (make catalog policy extensions excludedNames) _ _ _ _ _ wellFormed normal
    isDirectory with ⟨stops, itinerary, scanned⟩
  rw [ownRules] at scanned
  exact ⟨stops, _, itinerary, scanned, rfl, rfl, rfl, rfl⟩

theorem scan_exampleTree :
    ∃ entries access,
      exampleTree.lookup (Path.ofText "package").text = .ok (["package"], .directory entries access) ∧
        ∃ (stops : List Stop) (result : ScanResult),
          Walk.Itinerary ⟨[".JS", ".py"].map Text.lowercase, []⟩ exampleTree
              (Path.ofText "package").text (.directory entries access) stops ∧
            (make ⟨[⟨"Any line", .critical, "Look", fun _ => true⟩], [], [], "1"⟩ [] [".JS", ".py"]
              []).scan exampleTree (.ofText "package") = .ok result ∧
            result.tally.statistics.files = stops.countP Stop.isFile := by
  have wellFormed : exampleTree.WellFormed := by decide
  have hasRules :
      Catalog.size ⟨[⟨"Any line", .critical, "Look", fun _ => true⟩], [], [], "1"⟩ ≠ 0 := by decide
  rcases scan_finds_contributions wellFormed "package" rfl hasRules [] [".JS", ".py"] [] with
    ⟨stops, result, itinerary, scanned, _, _, files, _⟩
  exact ⟨_, _, rfl, stops, result, itinerary, scanned, files⟩

end Scan

end Scanner

end SkillScan
