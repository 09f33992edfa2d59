import SkillScan.Proofs.Scan.Exactness
import SkillScan.Proofs.Text.Decoding
import SkillScan.Proofs.Text.LineEnds

/-!
# Locality of lines

What a scan finds on a line depends on that line alone. A newline byte therefore cuts the bytes of a file
into two that could as well be scanned on their own: the findings are those of the part before, followed
by those of the part behind with their line numbers moved on. Whatever the bytes before, well-formed or
not, they take nothing away from what is found behind. Only a carriage return right before the newline
would make one line end with it.
-/

namespace SkillScan

/-! ## Lines of two parts -/

/-- The finding as it is reported when more lines stand before it. -/
def Finding.shifted (lines : Int) (finding : Finding) : Finding :=
  { finding with line := finding.line + lines }

namespace NumberedLine

/-- The line as it is numbered when more lines stand before it. -/
def shifted (lines : Int) (line : NumberedLine) : NumberedLine :=
  { line with number := line.number + lines }

theorem findings_shifted (lines : Int) (line : NumberedLine) (catalog : Catalog) (policy : Policy) :
    (line.shifted lines).findings catalog policy =
      (line.findings catalog policy).map (Finding.shifted lines) := by
  simp only [findings, List.map_map]
  rfl

end NumberedLine

namespace Scanner

theorem linesOf_append_newline {first : List UInt8} (noReturn : first.getLast? ≠ some 0x0D)
    (second : List UInt8) :
    linesOf (FileTree.textOf (first ++ 0x0A :: second)) =
      linesOf (FileTree.textOf first) ++ linesOf (FileTree.textOf second) := by
  have decodedNoReturn : (Text.decodeReplacing first).getLast? ≠ some '\r' := by
    intro last
    have ascii : ¬Text.BeyondAscii '\r' := by
      simp only [Text.BeyondAscii]
      decide
    exact noReturn (Text.getLast?_of_decodeReplacing last ascii)
  simp only [linesOf, FileTree.textOf, String.toList_ofList, Text.lines, Text.decodeReplacing_append_newline,
    Text.unifyNewlines_append_newline decodedNoReturn, Text.splitAt_append_cons, List.map_append]

theorem numbered_append (file : String) (first second : List String) :
    numbered file (first ++ second) =
      numbered file first ++ (numbered file second).map (NumberedLine.shifted first.length) := by
  simp only [numbered, List.mapIdx_append, List.append_cancel_left_eq]
  apply List.ext_getElem
  · simp
  · intro index _ _
    simp only [List.getElem_mapIdx, List.getElem_map, NumberedLine.shifted, NumberedLine.mk.injEq,
      true_and, and_true]
    omega

theorem findings_readBlock_append (scanner : Scanner) (file : String) (first second : List String) :
    (scanner.readBlock file (first ++ second)).findings =
      (scanner.readBlock file first).findings ++
        (scanner.readBlock file second).findings.map (Finding.shifted first.length) := by
  simp only [readBlock, numbered_append, List.flatMap_append, List.flatMap_map, List.map_flatMap,
    NumberedLine.findings_shifted]

/-! ## Scans of one file -/

section File

variable {scanner : Scanner} {tree : FileTree} {path : Path} {content : List UInt8}

theorem lookup_of_read (readable : tree.read path = .ok content) :
    ∃ location mode, tree.lookup path.text = .ok (location, .file content mode .granted) := by
  simp only [FileTree.read, bind, Except.bind] at readable
  split at readable
  · simp at readable
  · next found present =>
      split at readable
      · next location other mode =>
          cases readable
          exact ⟨location, mode, present⟩
      · simp at readable
      · simp at readable

/-- A file is scanned by its lines if its suffix is wanted, and else not at all. -/
theorem scan_of_read (readable : tree.read path = .ok content) :
    scanner.scan tree path = .ok ⟨path, gather
      (if scanner.selection.wants path then
        [scanner.readBlock path.name (linesOf (FileTree.textOf content))]
      else [])⟩ := by
  rcases lookup_of_read readable with ⟨location, mode, present⟩
  rw [scan_of_walk present (walk_of_not_directory present rfl)]
  split <;> simp [block_of_read readable, shownPath, Node.isDirectory]

end File

/-- A newline byte that follows no carriage return cuts a file into two parts that are scanned as if each
stood alone, whether the file is the target or stands anywhere in it. -/
theorem scan_append_newline (scanner : Scanner) {first second : List UInt8}
    (noReturn : first.getLast? ≠ some 0x0D) {path : Path} {whole before behind : FileTree}
    (wholeRead : whole.read path = .ok (first ++ 0x0A :: second))
    (beforeRead : before.read path = .ok first) (behindRead : behind.read path = .ok second) :
    (∃ result upper lower : ScanResult,
      scanner.scan whole path = .ok result ∧ scanner.scan before path = .ok upper ∧
        scanner.scan behind path = .ok lower ∧
        result.tally.statistics.lines = upper.tally.statistics.lines + lower.tally.statistics.lines ∧
        result.tally.findings = upper.tally.findings ++
          lower.tally.findings.map (Finding.shifted upper.tally.statistics.lines)) ∧
      ∀ (root : Path) (rootIsFile : Bool),
        let blockIn (tree : FileTree) : Block := scanner.block tree root rootIsFile (.file path)
        (blockIn whole).statistics.lines =
            (blockIn before).statistics.lines + (blockIn behind).statistics.lines ∧
          (blockIn whole).findings = (blockIn before).findings ++
            (blockIn behind).findings.map (Finding.shifted (blockIn before).statistics.lines) := by
  let read (file : String) (content : List UInt8) : Block :=
    scanner.readBlock file (linesOf (FileTree.textOf content))
  have lines (file : String) :
      (read file (first ++ 0x0A :: second)).statistics.lines =
        (read file first).statistics.lines + (read file second).statistics.lines := by
    simp [read, linesOf_append_newline noReturn, Block.statistics, readBlock, numbered]
  have findings (file : String) :
      (read file (first ++ 0x0A :: second)).findings = (read file first).findings ++
        (read file second).findings.map (Finding.shifted (read file first).statistics.lines) := by
    simp only [read, linesOf_append_newline noReturn, findings_readBlock_append]
    simp [Block.statistics, readBlock, numbered]
  constructor
  · refine ⟨_, _, _, scan_of_read wholeRead, scan_of_read beforeRead, scan_of_read behindRead, ?_⟩
    split
    · simpa [gather, Statistics.plus, Statistics.zero] using ⟨lines path.name, findings path.name⟩
    · simp [gather, Statistics.zero]
  · intro root rootIsFile
    simp only [block_of_read wholeRead, block_of_read beforeRead, block_of_read behindRead]
    exact ⟨lines _, findings _⟩

/-- A tree with one file. -/
def exampleFileTree (content : List UInt8) : FileTree :=
  ⟨.directory (.entry "x.js" (.file content 0o644 .granted) .empty) .granted, []⟩

/-- The beginning of a character that never ends hides nothing on the next line. -/
theorem scan_exampleFileTree :
    ∃ result upper lower : ScanResult,
      builtin.scan (exampleFileTree [0xE2, 0x82, 0x0A, 0x65, 0x76, 0x61, 0x6C, 0x28]) (.ofText "x.js") =
          .ok result ∧
        builtin.scan (exampleFileTree [0xE2, 0x82]) (.ofText "x.js") = .ok upper ∧
        builtin.scan (exampleFileTree [0x65, 0x76, 0x61, 0x6C, 0x28]) (.ofText "x.js") = .ok lower ∧
        result.tally.statistics.lines = upper.tally.statistics.lines + lower.tally.statistics.lines ∧
        result.tally.findings = upper.tally.findings ++
          lower.tally.findings.map (Finding.shifted upper.tally.statistics.lines) :=
  (scan_append_newline builtin (by decide) rfl rfl rfl).1

end Scanner

end SkillScan
