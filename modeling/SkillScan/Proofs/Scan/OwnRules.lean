import SkillScan.Proofs.Scan.Exposure
import SkillScan.Proofs.Scan.LineLocality

/-!
# Scans with given rules

What a scan reports comes from rules, but for the warnings about what could not be read. No rule has the
severity of these warnings, so the findings that come from rules can be told apart by their severity. If
a scanner is given rules, its findings are those of the given rules on the lines of every eligible file
that can be read, and all of them name given rules. If it is given a catalog without rules, then it scans
with the built-in rules instead of finding nothing.
-/

namespace SkillScan

/-- The findings that come from rules. -/
def Tally.fromRules (tally : Tally) : List Finding :=
  tally.findings.filter (·.severity ≠ .warning)

/-- What the rules of a catalog find on the lines of a file, if it can be read. -/
def Catalog.findingsIn (catalog : Catalog) (policy : Policy) (tree : FileTree) (shown : String)
    (path : Path) : List Finding :=
  match tree.readText path with
  | .ok text =>
    (Scanner.numbered shown (Scanner.linesOf text)).flatMap (·.findings catalog policy)
  | .error _ => []

section Catalog

variable {catalog : Catalog} {policy : Policy} {tree : FileTree} {shown : String} {path : Path}
  {finding : Finding}

theorem Catalog.exists_rule_of_findingsIn
    (found : finding ∈ catalog.findingsIn policy tree shown path) :
    ∃ rule ∈ catalog.rules, rule.name = finding.issue ∧ rule.severity = finding.severity := by
  cases readable : tree.readText path with
  | error error => simp [findingsIn, readable] at found
  | ok text =>
      simp only [findingsIn, readable, List.mem_flatMap] at found
      rcases found with ⟨line, _, found⟩
      rcases NumberedLine.mem_findings_iff.mp found with ⟨rule, member, _, _, rfl⟩
      exact ⟨rule, member, rfl, rfl⟩

end Catalog

/-! ## Files of a walk -/

/-- A walk visits no file twice. -/
theorem nodup_filePaths_of_walk {selection : Selection} {tree : FileTree} {root : Path}
    {location : Location} {top : Node} {visits : List Visit} (wellFormed : tree.WellFormed)
    (normal : root.Normal) (present : tree.lookup root.text = .ok (location, top))
    (walked : walk selection tree root = .ok visits) :
    (visits.filterMap Visit.filePath?).Nodup := by
  have nodupAlone (noDirectory : top.isDirectory = false) :
      (visits.filterMap Visit.filePath?).Nodup := by
    cases (walk_of_not_directory present noDirectory).symm.trans walked
    split <;> simp [Visit.filePath?]
  cases top with
  | directory entries access =>
      rcases @walk_eq_map_visit _ selection _ _ _ _ wellFormed normal present with
        ⟨stops, sameWalk, itinerary⟩
      cases sameWalk.symm.trans walked
      exact Stop.nodup_filePaths root (Stop.nodup_of_precedes itinerary.ordered)
  | file content mode access => exact nodupAlone rfl
  | link target => exact nodupAlone rfl

theorem mem_filePaths_iff {visits : List Visit} {path : Path} :
    path ∈ visits.filterMap Visit.filePath? ↔ Visit.file path ∈ visits := by
  simp only [List.mem_filterMap]
  constructor
  · rintro ⟨visit, member, isPath⟩
    cases visit with
    | file other => exact Option.some.inj isPath ▸ member
    | unlistable error => simp [Visit.filePath?] at isPath
  · intro member
    exact ⟨_, member, rfl⟩

namespace Scanner

section Visits

variable {scanner : Scanner} {tree : FileTree} {root : Path} {rootIsFile : Bool}

/-- The findings of a visit that come from rules are those in the file, if a file is visited. -/
theorem filter_findings_block (haveTiers : ∀ rule ∈ scanner.catalog.rules, rule.severity ≠ .warning)
    (visit : Visit) :
    (scanner.block tree root rootIsFile visit).findings.filter (·.severity ≠ .warning) =
      visit.filePath?.toList.flatMap fun path =>
        scanner.catalog.findingsIn scanner.policy tree (shownPath root rootIsFile path) path := by
  cases visit with
  | unlistable error => simp [block, unlistedBlock, notice, Visit.filePath?]
  | file path =>
      have fromRules : ∀ finding ∈ scanner.catalog.findingsIn scanner.policy tree
          (shownPath root rootIsFile path) path, finding.severity ≠ .warning := by
        intro finding found
        rcases Catalog.exists_rule_of_findingsIn found with ⟨rule, member, _, severity⟩
        exact severity ▸ haveTiers rule member
      simp only [Visit.filePath?, Option.toList_some, List.flatMap_singleton]
      cases readable : tree.readText path with
      | error error => simp [block, readable, unreadBlock, notice, Catalog.findingsIn]
      | ok text =>
          have whole : (scanner.block tree root rootIsFile (.file path)).findings =
              scanner.catalog.findingsIn scanner.policy tree (shownPath root rootIsFile path)
                path := by
            simp only [block, readable, readBlock, Catalog.findingsIn]
          rw [whole, List.filter_eq_self]
          simpa using fromRules

theorem fromRules_gather (haveTiers : ∀ rule ∈ scanner.catalog.rules, rule.severity ≠ .warning)
    (visits : List Visit) :
    (gather (visits.map (scanner.block tree root rootIsFile))).fromRules =
      (visits.filterMap Visit.filePath?).flatMap fun path =>
        scanner.catalog.findingsIn scanner.policy tree (shownPath root rootIsFile path) path := by
  simp only [Tally.fromRules, gather, List.flatMap_map, List.filter_flatMap,
    filter_findings_block haveTiers]
  rw [List.filterMap_eq_flatMap_toList, List.flatMap_assoc]

end Visits

section Make

variable {catalog : Catalog} {policy : Policy} {extensions excludedNames : List String}

theorem catalog_make (hasRules : catalog.size ≠ 0) :
    (make catalog policy extensions excludedNames).catalog = catalog := by
  simp [make, hasRules]

theorem make_of_noRules (noRules : catalog.size = 0) :
    make catalog policy extensions excludedNames =
      make Signature.builtin policy extensions excludedNames := by
  simp [make, noRules]

end Make

section Scan

variable {tree : FileTree} {location : Location} {top : Node}

theorem scan_finds_in_eligible {scanner : Scanner} {root : Path}
    (haveTiers : ∀ rule ∈ scanner.catalog.rules, rule.severity ≠ .warning)
    (wellFormed : tree.WellFormed) (normal : root.Normal)
    (present : tree.lookup root.text = .ok (location, top)) :
    ∃ (result : ScanResult) (paths : List Path),
      scanner.scan tree root = .ok result ∧ paths.Nodup ∧
        (∀ path, path ∈ paths ↔ scanner.Eligible tree root top path) ∧
        result.tally.fromRules = paths.flatMap fun path =>
          scanner.catalog.findingsIn scanner.policy tree (shownPath root (!top.isDirectory) path)
            path := by
  rcases @exists_visits scanner _ _ _ _ wellFormed normal present with ⟨visits, walked, files, _⟩
  refine ⟨_, visits.filterMap Visit.filePath?, scan_of_walk present walked,
    nodup_filePaths_of_walk wellFormed normal present walked, ?_, fromRules_gather haveTiers visits⟩
  intro path
  rw [mem_filePaths_iff, files]

/-- A scanner that is given rules reports what these find on the lines of every eligible file that can be
read, and nothing else comes from rules. A scanner that is given none scans with the built-in rules. -/
theorem scan_with_given_rules (wellFormed : tree.WellFormed) (text : String)
    (present : tree.lookup (Path.ofText text).text = .ok (location, top)) {rules : List Rule}
    (haveTiers : ∀ rule ∈ rules, rule.severity ≠ .warning) (version : String) (policy : Policy)
    (extensions excludedNames : List String) :
    ∃ (catalog : Catalog) (result : ScanResult),
      Catalog.ofRules rules version = .ok catalog ∧
        (make catalog policy extensions excludedNames).scan tree (.ofText text) = .ok result ∧
        (rules ≠ [] →
          (∃ paths : List Path, paths.Nodup ∧
            (∀ path, path ∈ paths ↔
              (make catalog policy extensions excludedNames).Eligible tree (.ofText text) top path) ∧
            result.tally.fromRules = paths.flatMap fun path =>
              catalog.findingsIn policy tree
                (shownPath (.ofText text) (!top.isDirectory) path) path) ∧
          ∀ finding ∈ result.tally.fromRules, ∃ rule ∈ rules, rule.name = finding.issue) ∧
        (rules = [] →
          (make Signature.builtin policy extensions excludedNames).scan tree (.ofText text) =
            .ok result) := by
  obtain ⟨catalog, made⟩ : ∃ catalog, Catalog.ofRules rules version = .ok catalog :=
    ⟨_, Catalog.ofRules_of_tiers haveTiers version⟩
  have perm := Catalog.perm_rules haveTiers made
  have normal := Path.normal_ofText text
  have size : catalog.size = rules.length := perm.length_eq
  by_cases given : rules = []
  · have noRules : catalog.size = 0 := by rw [size, given, List.length_nil]
    rcases exists_visits wellFormed normal present with ⟨visits, walked, _⟩
    refine ⟨catalog, _, made, scan_of_walk present walked, ?_, ?_⟩
    · intro others
      exact absurd given others
    · intro _
      rw [← make_of_noRules noRules, scan_of_walk present walked]
  · have hasRules : catalog.size ≠ 0 := by simpa [size] using given
    have kept := @catalog_make _ policy extensions excludedNames hasRules
    have catalogHasTiers : ∀ rule ∈ (make catalog policy extensions excludedNames).catalog.rules,
        rule.severity ≠ .warning := by
      intro rule member
      exact haveTiers rule (perm.mem_iff.mp (kept ▸ member))
    rcases scan_finds_in_eligible catalogHasTiers wellFormed normal present with
      ⟨result, paths, scanned, nodup, eligible, found⟩
    rw [kept] at found
    refine ⟨catalog, result, made, scanned, ?_, ?_⟩
    · intro _
      refine ⟨⟨paths, nodup, eligible, found⟩, ?_⟩
      intro finding member
      rw [found, List.mem_flatMap] at member
      rcases member with ⟨path, _, inFile⟩
      rcases Catalog.exists_rule_of_findingsIn inFile with ⟨rule, ofCatalog, name, _⟩
      exact ⟨rule, perm.mem_iff.mp ofCatalog, name⟩
    · intro none
      exact absurd none given

theorem scan_with_exampleRules :
    exampleTree.WellFormed ∧ (∀ rule ∈ exampleRules.take 2, rule.severity ≠ .warning) ∧
      ∃ entries access catalog result,
        exampleTree.lookup (Path.ofText "package").text = .ok (["package"], .directory entries access) ∧
          Catalog.ofRules (exampleRules.take 2) "1" = .ok catalog ∧
          (make catalog [] defaultExtensions []).scan exampleTree (.ofText "package") = .ok result ∧
          ∀ finding ∈ result.tally.fromRules,
            ∃ rule ∈ exampleRules.take 2, rule.name = finding.issue := by
  have wellFormed : exampleTree.WellFormed := by decide
  have haveTiers : ∀ rule ∈ exampleRules.take 2, rule.severity ≠ .warning := by decide
  rcases scan_with_given_rules wellFormed "package" rfl haveTiers "1" [] defaultExtensions [] with
    ⟨catalog, result, made, scanned, given, _⟩
  exact ⟨wellFormed, haveTiers, _, _, catalog, result, rfl, made, scanned, (given (by decide)).2⟩

/-- A scanner that is given no rules finds a built-in one on the line `eval(atob(x))`. -/
theorem scan_without_rules :
    ∃ (catalog : Catalog) (result : ScanResult),
      Catalog.ofRules [] catalogVersion = .ok catalog ∧
        (make catalog Signature.builtinPolicy defaultExtensions defaultExcludedNames).scan
            (exampleFileTree
              [0x65, 0x76, 0x61, 0x6C, 0x28, 0x61, 0x74, 0x6F, 0x62, 0x28, 0x78, 0x29, 0x29])
            (.ofText "x.js") = .ok result ∧
        result.tally.fromRules.map (·.issue) = ["Code Obfuscation (eval + decode)"] :=
  ⟨_, _, rfl, scan_of_read rfl, by decide +kernel⟩

end Scan

end Scanner

end SkillScan
