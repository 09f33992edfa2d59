import SkillScan.Proofs.Rule.Tiers
import SkillScan.Proofs.Scan.FileText
import SkillScan.Proofs.Scan.LineLocality
import SkillScan.Proofs.Text.Run

/-!
# Styles of line ends

Some systems end a line with a carriage return and a newline, or with a carriage return alone. A file whose lines end
so has the same lines as one with newlines: the byte of a carriage return closes what was begun before it just as
that of a newline does, and both styles become newlines before the text is cut. A scan therefore finds the same on
the same lines, and never shows the character that ended one.
-/

namespace SkillScan

/-- A style of line ends other than the newline alone. -/
inductive LineEndStyle where
  /-- A carriage return and a newline. -/
  | returnNewline
  /-- A carriage return alone. -/
  | returnAlone

namespace LineEndStyle

/-- The bytes that end a line. -/
def bytes : LineEndStyle → List UInt8
  | .returnNewline => [0x0D, 0x0A]
  | .returnAlone => [0x0D]

/-- The content of a file with the line ends of a style in the place of newlines. -/
def rewritten (style : LineEndStyle) (content : List UInt8) : List UInt8 :=
  content.flatMap fun byte => if byte = 0x0A then style.bytes else [byte]

variable {style : LineEndStyle}

theorem rewritten_append (first second : List UInt8) :
    style.rewritten (first ++ second) = style.rewritten first ++ style.rewritten second :=
  List.flatMap_append

theorem rewritten_of_noNewline {line : List UInt8} (noNewline : 0x0A ∉ line) :
    style.rewritten line = line := by
  rw [rewritten]
  have kept : ∀ byte ∈ line, (if byte = 0x0A then style.bytes else [byte]) = [byte] := by
    intro byte member
    rw [if_neg]
    rintro rfl
    exact noNewline member
  rw [List.flatMap_congr kept, List.flatMap_singleton']

theorem rewritten_line {line : List UInt8} (noNewline : 0x0A ∉ line) (rest : List UInt8) :
    style.rewritten (line ++ 0x0A :: rest) = line ++ style.bytes ++ style.rewritten rest := by
  rw [rewritten_append, rewritten_of_noNewline noNewline, rewritten, List.flatMap_cons, if_pos rfl,
    List.append_assoc]
  rfl

theorem noNewline_rewritten_returnAlone (content : List UInt8) : 0x0A ∉ returnAlone.rewritten content := by
  rw [rewritten, List.mem_flatMap]
  rintro ⟨byte, _, member⟩
  split at member
  · simp [bytes] at member
  · next other => exact other (List.mem_singleton.mp member).symm

end LineEndStyle

/-! ## Reading the lines -/

namespace Text

/-- What holds of one line, and of more lines as soon as it holds of those behind the first, holds of all bytes. -/
theorem linewise {property : List UInt8 → Prop} (last : ∀ line, 0x0A ∉ line → property line)
    (line : ∀ line rest, 0x0A ∉ line → property rest → property (line ++ 0x0A :: rest))
    (content : List UInt8) : property content := by
  -- The bytes behind a line are fewer, though not by a fixed number.
  induction length : content.length using Nat.strong_induction_on generalizing content with
  | _ count ih =>
      by_cases newline : 0x0A ∈ content
      · rcases List.eq_append_cons_of_mem newline with ⟨first, rest, rfl, noNewline⟩
        apply line first rest noNewline
        apply ih rest.length _ rest rfl
        simp only [List.length_append, List.length_cons] at length
        omega
      · exact last content newline

theorem noNewline_decodeReplacing {bytes : List UInt8} (noNewline : 0x0A ∉ bytes) :
    '\n' ∉ decodeReplacing bytes := by
  rw [← List.count_eq_zero] at noNewline ⊢
  rw [← noNewline]
  exact count_decodeReplacing (show (0x0A : UInt8) < 0x80 by decide) bytes

theorem decodeReplacing_append_return (first second : List UInt8) :
    decodeReplacing (first ++ 0x0D :: second) = decodeReplacing first ++ '\r' :: decodeReplacing second :=
  decodeReplacing_append_cons (show (0x0D : UInt8) < 0x80 by decide) first second

/-- By induction on the lines: each style ends a line where a newline would have ended it. -/
theorem unifyNewlines_rewritten (style : LineEndStyle) {content : List UInt8} (noReturn : 0x0D ∉ content) :
    unifyNewlines (decodeReplacing (style.rewritten content)) = decodeReplacing content := by
  induction content using linewise with
  | last line noNewline =>
      rw [LineEndStyle.rewritten_of_noNewline noNewline, unifyNewlines_decodeReplacing noReturn]
  | line line rest noNewline ih =>
      simp only [List.mem_append, List.mem_cons, not_or] at noReturn
      have later := ih noReturn.2.2
      have here := unifyNewlines_decodeReplacing noReturn.1
      rw [LineEndStyle.rewritten_line noNewline, decodeReplacing_append_newline]
      cases style with
      | returnNewline =>
          have pair : decodeReplacing (0x0A :: LineEndStyle.returnNewline.rewritten rest) =
              '\n' :: decodeReplacing (LineEndStyle.returnNewline.rewritten rest) :=
            decodeReplacing_append_newline [] _
          simp only [LineEndStyle.bytes, List.append_assoc, List.cons_append, List.nil_append]
          rw [decodeReplacing_append_return, pair, unifyNewlines_append_return_newline, here, later]
      | returnAlone =>
          have noNewlineNext :
              (decodeReplacing (LineEndStyle.returnAlone.rewritten rest)).head? ≠ some '\n' := by
            intro head
            exact noNewline_decodeReplacing (LineEndStyle.noNewline_rewritten_returnAlone rest)
              (List.mem_of_head? head)
          simp only [LineEndStyle.bytes, List.append_assoc, List.cons_append, List.nil_append]
          rw [decodeReplacing_append_return, unifyNewlines_append_return noNewlineNext, here, later]

end Text

/-! ## Excerpts -/

theorem mem_of_mem_excerpt {line : String} {char : Char} (member : char ∈ (excerpt line).toList) :
    char ∈ line.toList := by
  rw [excerpt, String.toList_ofList] at member
  exact Text.mem_of_mem_trimmed (List.mem_of_mem_take member)

namespace Scanner

theorem linesOf_rewritten (style : LineEndStyle) {content : List UInt8} (noReturn : 0x0D ∉ content) :
    linesOf (FileTree.textOf (style.rewritten content)) = linesOf (FileTree.textOf content) := by
  rw [FileTree.textOf, FileTree.textOf, Text.unifyNewlines_rewritten style noReturn,
    Text.unifyNewlines_decodeReplacing noReturn]

/-- No line that a scan matches holds a character that ends lines. -/
theorem noLineEnd_of_mem_linesOf {content : List UInt8} {line : String}
    (member : line ∈ linesOf (FileTree.textOf content)) :
    '\r' ∉ line.toList ∧ '\n' ∉ line.toList := by
  rcases List.mem_map.mp member with ⟨piece, pieceMem, rfl⟩
  rw [FileTree.textOf, String.toList_ofList] at pieceMem
  rw [String.toList_ofList]
  constructor
  · intro inPiece
    exact Text.noReturn_unifyNewlines _ (Text.mem_of_mem_splitAt pieceMem inPiece)
  · exact Text.not_mem_of_mem_splitAt pieceMem

theorem noLineEnd_of_mem_readBlock {scanner : Scanner} {file : String} {content : List UInt8}
    {finding : Finding} {code : String}
    (member : finding ∈ (scanner.readBlock file (linesOf (FileTree.textOf content))).findings)
    (shown : finding.code = some code) : '\r' ∉ code.toList ∧ '\n' ∉ code.toList := by
  rw [readBlock, List.mem_flatMap] at member
  rcases member with ⟨line, lineMem, found⟩
  rcases NumberedLine.mem_findings_iff.mp found with ⟨rule, _, _, _, rfl⟩
  rcases List.mem_mapIdx.mp lineMem with ⟨index, inside, rfl⟩
  cases Option.some.inj shown
  have noLineEnd := noLineEnd_of_mem_linesOf (List.getElem_mem inside)
  exact ⟨fun isReturn => noLineEnd.1 (mem_of_mem_excerpt isReturn),
    fun newline => noLineEnd.2 (mem_of_mem_excerpt newline)⟩

theorem noLineEnd_of_mem_block {scanner : Scanner} {tree : FileTree} {root : Path} {rootIsFile : Bool}
    {visit : Visit} {finding : Finding} {code : String}
    (member : finding ∈ (scanner.block tree root rootIsFile visit).findings)
    (shown : finding.code = some code) : '\r' ∉ code.toList ∧ '\n' ∉ code.toList := by
  cases visit with
  | unlistable error =>
      rw [List.mem_singleton.mp member] at shown
      simp [notice] at shown
  | file path =>
      cases readable : tree.read path with
      | ok content =>
          rw [block_of_read readable] at member
          exact noLineEnd_of_mem_readBlock member shown
      | error error =>
          rw [block_of_unread readable] at member
          rw [List.mem_singleton.mp member] at shown
          simp [notice] at shown

theorem eq_map_block_of_blocks {scanner : Scanner} {tree : FileTree} {root : Path} {all : List Block}
    (made : scanner.blocks tree root = .ok all) :
    ∃ (rootIsFile : Bool) (visits : List Visit), all = visits.map (scanner.block tree root rootIsFile) := by
  simp only [blocks, bind, Except.bind] at made
  split at made
  · contradiction
  · split at made
    · split at made
      · contradiction
      · next rootIsFile _ =>
          split at made
          · contradiction
          · next visits _ => exact ⟨rootIsFile, visits, (Except.ok.inj made).symm⟩
    · contradiction

/-- What a scan finds stems from its visits. -/
theorem exists_visit_of_mem_findings {scanner : Scanner} {tree : FileTree} {root : Path} {result : ScanResult}
    (scanned : scanner.scan tree root = .ok result) {finding : Finding}
    (member : finding ∈ result.tally.findings) :
    ∃ rootIsFile visit, finding ∈ (scanner.block tree root rootIsFile visit).findings := by
  cases made : scanner.blocks tree root with
  | error error => simp [scan, made, bind, Except.bind] at scanned
  | ok all =>
      simp only [scan, made, bind, Except.bind, pure, Except.pure, Except.ok.injEq] at scanned
      subst scanned
      rcases eq_map_block_of_blocks made with ⟨rootIsFile, visits, rfl⟩
      rcases List.mem_flatMap.mp member with ⟨block, blockMem, inBlock⟩
      rcases List.mem_map.mp blockMem with ⟨visit, _, rfl⟩
      exact ⟨rootIsFile, visit, inBlock⟩

/-- Whichever style the lines of a file end in, a scan counts the same lines and finds the same on them if the file
is called the same. No finding of any scan shows a character that ends lines. -/
theorem scan_ignores_line_ends (scanner : Scanner) :
    (∀ (style : LineEndStyle) {content : List UInt8} {tree other : FileTree} {path otherPath : Path},
      0x0D ∉ content → tree.read path = .ok content → other.read otherPath = .ok (style.rewritten content) →
        (otherPath.name = path.name → ∃ result otherResult : ScanResult,
          scanner.scan tree path = .ok result ∧ scanner.scan other otherPath = .ok otherResult ∧
            otherResult.tally.statistics.lines = result.tally.statistics.lines ∧
            otherResult.tally.findings = result.tally.findings) ∧
        ∀ (root otherRoot : Path) (rootIsFile otherIsFile : Bool),
          let block := scanner.block tree root rootIsFile (.file path)
          let otherBlock := scanner.block other otherRoot otherIsFile (.file otherPath)
          shownPath otherRoot otherIsFile otherPath = shownPath root rootIsFile path →
            otherBlock.statistics.lines = block.statistics.lines ∧ otherBlock.findings = block.findings) ∧
      ∀ (tree : FileTree) (root : Path) (result : ScanResult), scanner.scan tree root = .ok result →
        ∀ finding ∈ result.tally.findings, ∀ code, finding.code = some code →
          '\r' ∉ code.toList ∧ '\n' ∉ code.toList := by
  constructor
  · intro style content tree other path otherPath noReturn readable otherReadable
    constructor
    · intro sameName
      have sameSuffix : scanner.selection.wants otherPath = scanner.selection.wants path := by
        simp only [Selection.wants, Path.suffix, sameName]
      refine ⟨_, _, scan_of_read readable, scan_of_read otherReadable, ?_⟩
      rw [sameSuffix, sameName, linesOf_rewritten style noReturn]
      exact ⟨rfl, rfl⟩
    · intro root otherRoot rootIsFile otherIsFile block otherBlock sameName
      have same : otherBlock = block := by
        simp only [otherBlock, block, block_of_read readable, block_of_read otherReadable, sameName,
          linesOf_rewritten style noReturn]
      rw [same]
      exact ⟨rfl, rfl⟩
  · intro tree root result scanned finding member code shown
    rcases exists_visit_of_mem_findings scanned member with ⟨rootIsFile, visit, inBlock⟩
    exact noLineEnd_of_mem_block inBlock shown

/-- A character cut short by the end of its line, an empty line and a command. -/
def exampleLines : List UInt8 :=
  [0xE2, 0x82, 0x0A, 0x0A, 0x73, 0x75, 0x64, 0x6F, 0x20, 0x78]

theorem scan_exampleLines :
    0x0D ∉ exampleLines ∧
      ∃ result otherResult : ScanResult,
        builtin.scan (exampleFileTree exampleLines) (.ofText "x.js") = .ok result ∧
          builtin.scan (exampleFileTree
            [0xE2, 0x82, 0x0D, 0x0A, 0x0D, 0x0A, 0x73, 0x75, 0x64, 0x6F, 0x20, 0x78]) (.ofText "x.js") =
              .ok otherResult ∧
          otherResult.tally.statistics.lines = result.tally.statistics.lines ∧
          otherResult.tally.findings = result.tally.findings ∧
          ∀ finding ∈ otherResult.tally.findings, ∀ code, finding.code = some code →
            '\r' ∉ code.toList ∧ '\n' ∉ code.toList := by
  have noReturn : (0x0D : UInt8) ∉ exampleLines := by decide
  have readable : (exampleFileTree exampleLines).read (.ofText "x.js") = .ok exampleLines := rfl
  have otherReadable :
      (exampleFileTree [0xE2, 0x82, 0x0D, 0x0A, 0x0D, 0x0A, 0x73, 0x75, 0x64, 0x6F, 0x20, 0x78]).read
        (.ofText "x.js") = .ok (LineEndStyle.returnNewline.rewritten exampleLines) := rfl
  rcases scan_ignores_line_ends builtin with ⟨sameLines, noLineEnd⟩
  rcases (sameLines .returnNewline noReturn readable otherReadable).1 rfl with
    ⟨result, otherResult, scanned, otherScanned, lines, findings⟩
  exact ⟨noReturn, result, otherResult, scanned, otherScanned, lines, findings,
    noLineEnd _ _ otherResult otherScanned⟩

end Scanner

end SkillScan
