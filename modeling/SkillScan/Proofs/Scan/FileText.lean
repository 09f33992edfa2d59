import SkillScan.Proofs.Text.Encoding
import SkillScan.Proofs.Text.LineEnds
import SkillScan.Scan

/-!
# The text of a file

A scan matches the lines of a text that it reads from the bytes of a file. Whatever the bytes are, there is such
a text, and its ASCII characters are the ASCII bytes of the file in their order. So no bytes before them, however
malformed, swallow the characters that rules look for or the newlines between lines, and none are made up. A file
that holds an encoded text has that text. Carriage returns, which become newlines, are left out of this.
-/

namespace SkillScan

namespace FileTree

theorem read_of_lookup {tree : FileTree} {path : Path} {location : Location} {content : List UInt8} {mode : Nat}
    (present : tree.lookup path.text = .ok (location, .file content mode .granted)) :
    tree.read path = .ok content := by
  simp [read, present, bind, Except.bind]

end FileTree

namespace Text

/-- Without carriage returns among the bytes there are no line ends to be unified. -/
theorem unifyNewlines_decodeReplacing {bytes : List UInt8} (noReturn : 0x0D ∉ bytes) :
    unifyNewlines (decodeReplacing bytes) = decodeReplacing bytes := by
  apply unifyNewlines_of_noReturn
  rw [← List.count_eq_zero] at noReturn ⊢
  rw [← noReturn]
  exact count_decodeReplacing (show (0x0D : UInt8) < 0x80 by decide) bytes

end Text

/-- A readable file without carriage returns always has a text. Its ASCII characters are the ASCII bytes of the
file, so it has as many newlines as there are newline bytes, and where the file holds an encoded text it is that
text. Its lines are those that a scan matches. -/
theorem FileTree.readText_keeps_ascii {tree : FileTree} {path : Path} {location : Location}
    {content : List UInt8} {mode : Nat}
    (present : tree.lookup path.text = .ok (location, .file content mode .granted))
    (noReturn : 0x0D ∉ content) :
    ∃ text, tree.readText path = .ok text ∧
      (text.toList.filter (·.toNat < 0x80)).map Char.toNat =
        (content.filter (· < 0x80)).map UInt8.toNat ∧
      text.toList.count '\n' = content.count 0x0A ∧
      (∀ written : String, content = Text.encode written → text = written) ∧
      ∀ (scanner : Scanner) (root : Path) (rootIsFile : Bool),
        scanner.block tree root rootIsFile (.file path) =
          scanner.readBlock (Scanner.shownPath root rootIsFile path)
            ((Text.lines text.toList).map String.ofList) := by
  have made : tree.readText path = .ok (String.ofList (Text.decodeReplacing content)) := by
    simp only [readText, read_of_lookup present, Except.map, textOf,
      Text.unifyNewlines_decodeReplacing noReturn]
  refine ⟨_, made, ?_, ?_, ?_, ?_⟩
  · have kept := Text.asciiOf_decodeReplacing content
    rw [Text.asciiOf] at kept
    rw [String.toList_ofList, kept, List.map_map]
    exact List.map_congr_left fun byte _ => Text.toNat_ofNat_byte byte
  · rw [String.toList_ofList]
    exact Text.count_decodeReplacing (show (0x0A : UInt8) < 0x80 by decide) content
  · rintro written rfl
    rw [Text.decodeReplacing_encode, String.ofList_toList]
  · intro scanner root rootIsFile
    simp only [Scanner.block, made, Scanner.linesOf]

/-- A file with a truncated character, an overlong one, a surrogate and a stray continuation byte before ASCII
bytes. -/
def exampleMalformedBytes : List UInt8 :=
  [0xE2, 0x82, 0x65, 0xC0, 0xAF, 0x76, 0x0A, 0xED, 0xA0, 0x80, 0x61, 0xBF, 0x6C]

/-- A tree with a file of those bytes. -/
def exampleMalformedTree : FileTree :=
  ⟨.directory (.entry "x.js" (.file exampleMalformedBytes 0o644 .granted) .empty) .granted, []⟩

/-- Of the malformed file the text keeps the letters and the newline. -/
theorem FileTree.readText_exampleMalformedTree :
    (0x0D ∉ exampleMalformedBytes) ∧
      ∃ text, exampleMalformedTree.readText (.ofText "x.js") = .ok text ∧
        (text.toList.filter (·.toNat < 0x80)).map Char.toNat = [0x65, 0x76, 0x0A, 0x61, 0x6C] ∧
        text.toList.count '\n' = 1 := by
  have noReturn : (0x0D : UInt8) ∉ exampleMalformedBytes := by decide
  have present : exampleMalformedTree.lookup (Path.ofText "x.js").text =
      .ok (["x.js"], .file exampleMalformedBytes 0o644 .granted) := rfl
  rcases readText_keeps_ascii present noReturn with ⟨text, made, ascii, newlines, _⟩
  exact ⟨noReturn, text, made, ascii, newlines⟩

end SkillScan
