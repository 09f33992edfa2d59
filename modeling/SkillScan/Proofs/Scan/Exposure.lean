import SkillScan.Proofs.Rule.Tiers
import SkillScan.Proofs.Scan.Exactness

/-!
# What a target is exposed to

Which severities a scan reports can be said without its order and its places. A target is exposed to a
severity if a line of one of its files shows a rule of that severity and no suppression vetoes the rule
there. The findings of a scan have exactly the severities that the target is exposed to, besides the
warnings about what could not be read.
-/

namespace SkillScan

namespace Scanner

/-- The files that a scan of a target looks at: the target itself if it is no directory, and else the
files at the stops of the walk. -/
def Eligible (scanner : Scanner) (tree : FileTree) (root : Path) : (top : Node) → Path → Prop
  | .directory entries access, path =>
    ∃ directory name,
      Walk.StopsAt scanner.selection tree root.text (.directory entries access)
          (.file directory name) ∧
        path = ⟨root.anchor, root.names ++ directory ++ [name]⟩
  | .file _ _ _, path | .link _, path =>
    Text.lowercase root.suffix ∈ scanner.selection.extensions ∧ path = root

/-- A line of a file shows a rule that no suppression vetoes there. -/
def Detects (scanner : Scanner) (tree : FileTree) (path : Path) (rule : Rule) : Prop :=
  rule ∈ scanner.catalog.rules ∧
    ∃ text, tree.readText path = .ok text ∧
      ∃ line ∈ linesOf text, rule.test line = true ∧
        ∀ suppression ∈ scanner.policy, suppression.vetoes line rule = false

/-- A file of the target shows a rule of some severity. -/
def Exposes (scanner : Scanner) (tree : FileTree) (root : Path) (top : Node) (severity : Severity) :
    Prop :=
  ∃ path rule, scanner.Eligible tree root top path ∧ scanner.Detects tree path rule ∧
    rule.severity = severity

/-- A file of the target cannot be read, or a directory that the walk reaches cannot be listed. -/
def MissesPart (scanner : Scanner) (tree : FileTree) (root : Path) (top : Node) : Prop :=
  (∃ path error, scanner.Eligible tree root top path ∧ tree.read path = .error error) ∨
    ∃ directory error,
      Walk.StopsAt scanner.selection tree root.text top (.unlistable directory error)

/-! ## Findings of one line and of one file -/

/-- A severity is among collected findings if it is among those of one of the parts. -/
theorem exists_finding_flatMap_iff {part : Type} {parts : List part} {found : part → List Finding}
    {severity : Severity} :
    (∃ finding ∈ parts.flatMap found, finding.severity = severity) ↔
      ∃ piece ∈ parts, ∃ finding ∈ found piece, finding.severity = severity := by
  simp only [List.mem_flatMap]
  constructor
  · rintro ⟨finding, ⟨piece, pieceMem, member⟩, same⟩
    exact ⟨piece, pieceMem, finding, member, same⟩
  · rintro ⟨piece, pieceMem, finding, member, same⟩
    exact ⟨finding, ⟨piece, pieceMem, member⟩, same⟩

theorem exists_finding_line_iff {line : NumberedLine} {catalog : Catalog} {policy : Policy}
    {severity : Severity} :
    (∃ finding ∈ line.findings catalog policy, finding.severity = severity) ↔
      ∃ rule ∈ catalog.rules, rule.severity = severity ∧ rule.test line.text = true ∧
        ∀ suppression ∈ policy, suppression.vetoes line.text rule = false := by
  simp only [NumberedLine.mem_findings_iff, Policy.not_suppresses_iff]
  constructor
  · rintro ⟨_, ⟨rule, member, shown, unvetoed, rfl⟩, same⟩
    exact ⟨rule, member, same, shown, unvetoed⟩
  · rintro ⟨rule, member, same, shown, unvetoed⟩
    exact ⟨line.finding rule, ⟨rule, member, shown, unvetoed, rfl⟩, same⟩

theorem exists_finding_readBlock_iff {scanner : Scanner} {file : String} {lines : List String}
    {severity : Severity} :
    (∃ finding ∈ (scanner.readBlock file lines).findings, finding.severity = severity) ↔
      ∃ rule ∈ scanner.catalog.rules, rule.severity = severity ∧
        ∃ line ∈ lines, rule.test line = true ∧
          ∀ suppression ∈ scanner.policy, suppression.vetoes line rule = false := by
  have texts : (numbered file lines).map (·.text) = lines := by
    apply List.ext_getElem <;> simp [numbered]
  rw [readBlock, exists_finding_flatMap_iff]
  simp only [exists_finding_line_iff]
  constructor
  · rintro ⟨line, lineMem, rule, member, same, shown⟩
    exact ⟨rule, member, same, line.text, texts ▸ List.mem_map_of_mem lineMem, shown⟩
  · rintro ⟨rule, member, same, text, textMem, shown⟩
    rw [← texts] at textMem
    rcases List.mem_map.mp textMem with ⟨line, lineMem, rfl⟩
    exact ⟨line, lineMem, rule, member, same, shown⟩

section Block

variable {scanner : Scanner} {tree : FileTree} {root path : Path} {rootIsFile : Bool}
  {severity : Severity}

theorem exists_finding_file_iff :
    (∃ finding ∈ (scanner.block tree root rootIsFile (.file path)).findings,
        finding.severity = severity) ↔
      (∃ rule, scanner.Detects tree path rule ∧ rule.severity = severity) ∨
        severity = .warning ∧ ∃ error, tree.read path = .error error := by
  cases readable : tree.read path with
  | error error =>
      simp [block, FileTree.readText_of_unread readable, unreadBlock, notice, Detects]
      exact eq_comm
  | ok content =>
      simp only [block, FileTree.readText_of_read readable, exists_finding_readBlock_iff, Detects,
        Except.ok.injEq, exists_eq_left', reduceCtorEq, exists_false, and_false, or_false]
      constructor
      · rintro ⟨rule, member, same, shown⟩
        exact ⟨rule, ⟨member, shown⟩, same⟩
      · rintro ⟨rule, ⟨member, shown⟩, same⟩
        exact ⟨rule, member, same, shown⟩

theorem exists_finding_unlistable_iff {error : FileError} :
    (∃ finding ∈ (scanner.block tree root rootIsFile (.unlistable error)).findings,
      finding.severity = severity) ↔ severity = .warning := by
  simp [block, unlistedBlock, notice, eq_comm]

end Block

/-! ## Findings of a scan -/

section Scan

variable {scanner : Scanner} {tree : FileTree} {root : Path} {location : Location} {top : Node}

/-- What a walk visits are the eligible files and the directories that cannot be listed. -/
theorem exists_visits (wellFormed : tree.WellFormed) (normal : root.Normal)
    (present : tree.lookup root.text = .ok (location, top)) :
    ∃ visits, walk scanner.selection tree root = .ok visits ∧
      (∀ path, Visit.file path ∈ visits ↔ scanner.Eligible tree root top path) ∧
      ∀ error, Visit.unlistable error ∈ visits ↔
        ∃ directory,
          Walk.StopsAt scanner.selection tree root.text top (.unlistable directory error) := by
  cases top with
  | directory entries access =>
      rcases @walk_eq_map_visit _ scanner.selection _ _ _ _ wellFormed normal present with
        ⟨stops, walked, itinerary⟩
      refine ⟨_, walked, ?_, ?_⟩
      · intro path
        simp only [List.mem_map, Eligible, ← itinerary.members]
        constructor
        · rintro ⟨stop, member, visited⟩
          cases stop with
          | file directory name => exact ⟨directory, name, member, (Visit.file.inj visited).symm⟩
          | unlistable directory error => simp [Stop.visit] at visited
        · rintro ⟨directory, name, member, rfl⟩
          exact ⟨_, member, rfl⟩
      · intro error
        simp only [List.mem_map, ← itinerary.members]
        constructor
        · rintro ⟨stop, member, visited⟩
          cases stop with
          | file directory name => simp [Stop.visit] at visited
          | unlistable directory other => exact ⟨directory, Visit.unlistable.inj visited ▸ member⟩
        · rintro ⟨directory, member⟩
          exact ⟨_, member, rfl⟩
  | file content mode access =>
      refine ⟨_, walk_of_not_directory present rfl, ?_, ?_⟩
      · intro path
        simp [Eligible, Selection.wants]
      · intro error
        simp [Walk.not_stopsAt_file]
  | link target =>
      refine ⟨_, walk_of_not_directory present rfl, ?_, ?_⟩
      · intro path
        simp [Eligible, Selection.wants]
      · intro error
        simp [Walk.not_stopsAt_link]

/-- The severities of a scan are those that its target is exposed to, and that of warnings if a part of
the target is missed. -/
theorem exists_finding_scan_iff (wellFormed : tree.WellFormed) (normal : root.Normal)
    (present : tree.lookup root.text = .ok (location, top)) :
    ∃ blocks, scanner.blocks tree root = .ok blocks ∧
      ∀ severity, (∃ finding ∈ (gather blocks).findings, finding.severity = severity) ↔
        scanner.Exposes tree root top severity ∨
          severity = .warning ∧ scanner.MissesPart tree root top := by
  rcases @exists_visits scanner _ _ _ _ wellFormed normal present with
    ⟨visits, walked, files, unlistable⟩
  refine ⟨_, blocks_of_walk present walked, ?_⟩
  intro severity
  simp only [gather, List.flatMap_map]
  rw [exists_finding_flatMap_iff]
  constructor
  · rintro ⟨visit, visitMem, found⟩
    cases visit with
    | file path =>
        have eligible := (files path).mp visitMem
        rcases exists_finding_file_iff.mp found with ⟨rule, detected, same⟩ | ⟨same, error, refused⟩
        · exact Or.inl ⟨path, rule, eligible, detected, same⟩
        · exact Or.inr ⟨same, Or.inl ⟨path, error, eligible, refused⟩⟩
    | unlistable error =>
        rcases (unlistable error).mp visitMem with ⟨directory, stopsAt⟩
        exact Or.inr ⟨exists_finding_unlistable_iff.mp found, Or.inr ⟨directory, error, stopsAt⟩⟩
  · rintro (⟨path, rule, eligible, detected, same⟩ |
      ⟨same, ⟨path, error, eligible, refused⟩ | ⟨directory, error, stopsAt⟩⟩)
    · refine ⟨.file path, (files path).mpr eligible, ?_⟩
      exact exists_finding_file_iff.mpr (Or.inl ⟨rule, detected, same⟩)
    · refine ⟨.file path, (files path).mpr eligible, ?_⟩
      exact exists_finding_file_iff.mpr (Or.inr ⟨same, error, refused⟩)
    · refine ⟨.unlistable error, (unlistable error).mpr ⟨directory, stopsAt⟩, ?_⟩
      exact exists_finding_unlistable_iff.mpr same

end Scan

end Scanner

end SkillScan
