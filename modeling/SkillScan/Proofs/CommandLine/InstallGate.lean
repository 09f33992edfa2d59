import SkillScan.CommandLine.Run
import SkillScan.Proofs.CommandLine.ScanRequest
import SkillScan.Proofs.FileTree.Canonical
import SkillScan.Proofs.Scan.Exposure
import SkillScan.Proofs.Scan.LineLocality
import SkillScan.Proofs.Scan.Verdict

/-!
# The install gate

An installer asks the program to scan a skill and looks at the exit code. The code is one exactly if the
skill is exposed to a critical or high severity, whatever the options of the scan, and the verdict that is
printed tells the severities apart. This puts together what is known about the arguments, the resolved
target, the findings of a scan and the verdict on them.

The program looks for the target again once its path is resolved. A path that can be followed may resolve
to one that is too long to be followed, and then the run ends with the error of the system.
-/

namespace SkillScan

/-- What the built-in scanner is made with. Its suffixes are in lower case already. -/
theorem Scanner.builtin_eq :
    Scanner.builtin = ⟨Signature.builtin, Signature.builtinPolicy,
      ⟨Scanner.defaultExtensions, Scanner.defaultExcludedNames⟩⟩ := by
  have hasRules : Signature.builtin.size ≠ 0 := by decide
  have lowered : Scanner.defaultExtensions.map Text.lowercase = Scanner.defaultExtensions := by
    decide
  simp only [Scanner.builtin, Scanner.make, hasRules, if_false, lowered]

namespace Run

/-- Whether a report can be written where it is to be written, if anywhere. -/
def Writable (tree : FileTree) (report : Report) : (output : Option String) → Prop
  | none | some "" => True
  | some output => (writeReport tree output report).error = none

section Report

variable {tree : FileTree} {format : ReportFormat} {output : Option String}
  {records : List LogRecord} {report : Report}

theorem shown_ofReport :
    (ofReport tree format output records report).shown = [printed format report] := by
  simp only [ofReport]
  split
  · rfl
  · rfl
  · split <;> rfl

theorem result_ofReport (writable : Writable tree report output) :
    (ofReport tree format output records report).result = .ok report.exitCode := by
  simp only [ofReport]
  split
  · rfl
  · rfl
  · next path notEmpty =>
      have written : (writeReport tree path report).error = none := by
        simpa only [Writable] using writable
      simp only [written]

end Report

section Errors

variable {run : Run}

theorem shown_withErrorTold : run.withErrorTold.shown = run.shown := by
  simp only [withErrorTold]
  split
  · rfl
  · split <;> rfl

theorem result_withErrorTold {code : Nat} (done : run.result = .ok code) :
    run.withErrorTold.result = .ok code := by
  simp only [withErrorTold, done]

end Errors

theorem normal_of_resolved {tree : FileTree} (wellFormed : tree.WellFormed) {target : String}
    {root : Path} (led : resolved tree target = .ok root) : root.Normal := by
  simp only [resolved, bind, Except.bind] at led
  split at led
  · simp [throw, throwThe, MonadExceptOf.throw] at led
  · split at led
    · simp [throw, throwThe, MonadExceptOf.throw] at led
    · cases led
      exact FileTree.normal_canonical wellFormed _

section Gate

variable {session : Session} {tree : FileTree} {before after : List WrittenOption} {target : String}

/-- Arguments that ask for a scan lead to that scan. -/
theorem ofArguments_scan [Yaml.Reader] (beforePlain : ∀ option ∈ before, option.Plain)
    (afterPlain : ∀ option ∈ after, option.Plain) (noDash : target.toList.head? ≠ some '-') :
    ofArguments session tree (Request.scanArguments before target after) =
      (scan tree (LogLevel.ofVerbosity 0) target (Request.settingsOf (before ++ after)).format
        (Request.settingsOf (before ++ after)).output).withErrorTold := by
  have request := Request.ofArguments_scan beforePlain afterPlain noDash
  have some : (Request.scanArguments before target after).isEmpty = false := rfl
  simp [ofArguments, some, request, ofRequest]

theorem scan_of_blocks {least : LogLevel} {format : ReportFormat} {output : Option String} {root : Path}
    {blocks : List Scanner.Block} (led : resolved tree target = .ok root)
    (scanned : Scanner.builtin.blocks tree root = .ok blocks) :
    scan tree least target format output =
      ofReport tree format output (Scanner.builtin.records least root blocks)
        (ScanResult.report ⟨root, Scanner.gather blocks⟩ Scanner.builtin.catalog.version) := by
  simp only [scan, led, scanned]

/-- The exit code of a scan is one exactly if a file of the target shows a critical or high rule that no
suppression vetoes, and zero otherwise. The verdict of the report that is printed tells what the target is
exposed to: it is clean only if nothing is found and nothing could not be read. -/
theorem scan_gates_install [Yaml.Reader] (wellFormed : tree.WellFormed)
    (beforePlain : ∀ option ∈ before, option.Plain) (afterPlain : ∀ option ∈ after, option.Plain)
    (noDash : target.toList.head? ≠ some '-') {root : Path} (led : resolved tree target = .ok root)
    {location : Location} {top : Node} (present : tree.lookup root.text = .ok (location, top)) :
    let run := ofArguments session tree (Request.scanArguments before target after)
    let options := Request.settingsOf (before ++ after)
    let gate : Scanner := ⟨Signature.builtin, Signature.builtinPolicy,
      ⟨Scanner.defaultExtensions, Scanner.defaultExcludedNames⟩⟩
    let exposed := gate.Exposes tree root top
    let missed := gate.MissesPart tree root top
    ∃ report : Report,
      run.shown = [printed options.format report] ∧
        (Writable tree report options.output →
          ∃ code, run.result = .ok code ∧ (code = 1 ↔ exposed .critical ∨ exposed .high) ∧
            (code = 0 ↔ ¬(exposed .critical ∨ exposed .high))) ∧
        (report.verdict = .blocked ↔ exposed .critical) ∧
        (report.verdict = .highRisk ↔ ¬exposed .critical ∧ exposed .high) ∧
        (report.verdict = .clean ↔ (∀ severity, ¬exposed severity) ∧ ¬missed) ∧
        (report.verdict = .reviewRecommended ↔
          ¬exposed .critical ∧ ¬exposed .high ∧ ((∃ severity, exposed severity) ∨ missed)) := by
  intro run options gate exposed missed
  have normal := normal_of_resolved wellFormed led
  have builtin : Scanner.builtin = gate := Scanner.builtin_eq
  rcases @Scanner.exists_finding_scan_iff Scanner.builtin _ _ _ _ wellFormed normal present with
    ⟨blocks, scanned, severities⟩
  have ran : run = (scan tree (LogLevel.ofVerbosity 0) target options.format
      options.output).withErrorTold := ofArguments_scan beforePlain afterPlain noDash
  rw [scan_of_blocks led scanned] at ran
  generalize reported :
    ScanResult.report ⟨root, Scanner.gather blocks⟩ Scanner.builtin.catalog.version = report at ran
  rw [builtin] at severities
  have verdict : report.verdict =
      (Summary.ofFindings (Scanner.gather blocks).findings).verdict := by
    rw [← reported]
    exact Report.verdict_ofFindings
  refine ⟨report, ?_, ?_, ?_⟩
  · rw [ran, shown_withErrorTold, shown_ofReport]
  · intro writable
    refine ⟨report.exitCode, ?_, ?_⟩
    · rw [ran]
      exact result_withErrorTold (result_ofReport writable)
    · rw [Report.exitCode, verdict]
      exact Summary.exitCode_of_severities severities
  · rw [verdict]
    exact Summary.verdict_of_severities severities

end Gate

/-- A session in which nothing is known about the account. -/
def exampleSession : Session where
  environment := ⟨none, none, "/", []⟩
  platform := .linux
  interpreter := "python3"
  now := ⟨⟨2024, 1, 2⟩, 3, 4, 5, 0, none⟩

/-- A file with one line that is scanned with the report in JSON. -/
theorem scan_gates_exampleFileTree :
    let tree := Scanner.exampleFileTree [0x65, 0x76, 0x61, 0x6C, 0x28]
    let run := ofArguments exampleSession tree ["scan", "--format=json", "x.js"]
    let gate : Scanner := ⟨Signature.builtin, Signature.builtinPolicy,
      ⟨Scanner.defaultExtensions, Scanner.defaultExcludedNames⟩⟩
    let file : Node := .file [0x65, 0x76, 0x61, 0x6C, 0x28] 0o644 .granted
    let exposed := gate.Exposes tree ⟨.root, ["x.js"]⟩ file
    ∃ report : Report, run.shown = [report.payload] ∧
      ∃ code, run.result = .ok code ∧ (code = 1 ↔ exposed .critical ∨ exposed .high) := by
  intro tree run gate file exposed
  have present : tree.lookup (⟨.root, ["x.js"]⟩ : Path).text = .ok (["x.js"], file) := rfl
  have canonical : tree.canonical (.ofText "x.js") = ⟨.root, ["x.js"]⟩ :=
    FileTree.canonical_of_file (by decide) (by decide) rfl rfl rfl
  have led : resolved tree "x.js" = .ok ⟨.root, ["x.js"]⟩ := by
    simp [resolved, canonical, present, pure, Except.pure]
  have beforePlain : ∀ option ∈ [WrittenOption.mk (.format .json) true], option.Plain := by
    intro option member
    rw [List.mem_singleton.mp member]
    simp [WrittenOption.Plain, ScanSetting.value, ReportFormat.name]
  rcases @scan_gates_install exampleSession tree _ [] "x.js" _ (by decide) beforePlain (by simp)
    (by decide) _ led _ _ present with ⟨report, shown, exit, _⟩
  rcases exit trivial with ⟨code, result, gated, _⟩
  exact ⟨report, shown, code, result, gated⟩

/-! ## Targets that resolve to paths that are too long -/

section Long

variable {session : Session} {tree : FileTree} {before after : List WrittenOption} {target : String}

/-- A target whose resolved path is too long is not scanned. The run ends with the error of the system. -/
theorem result_of_long_path [Yaml.Reader] (beforePlain : ∀ option ∈ before, option.Plain)
    (afterPlain : ∀ option ∈ after, option.Plain) (noDash : target.toList.head? ≠ some '-')
    (noNul : '\x00' ∉ target.toList) {root : Path} (canonical : tree.canonical (.ofText target) = root)
    (rootNoNul : '\x00' ∉ root.text.toList)
    (long : FileTree.maxPathBytes ≤ root.text.utf8ByteSize) :
    (ofArguments session tree (Request.scanArguments before target after)).result =
      .error (.scan (.file (.system .nameTooLong (some root.text)))) := by
  have missing := @FileTree.lookup_of_long tree _ rootNoNul long
  have led : resolved tree target = .ok root := by
    simp [resolved, noNul, canonical, missing, pure, Except.pure]
  have refused : Scanner.builtin.blocks tree root =
      .error (.file (.system .nameTooLong (some root.text))) := by
    simp [Scanner.blocks, FileTree.exists, FileTree.leadsTo, missing, FileError.isAbsence,
      Except.mapError, bind, Except.bind]
  rw [ofArguments_scan beforePlain afterPlain noDash]
  simp [scan, led, refused, failed, withErrorTold, RunError.isExpected]

end Long

/-- A node at a location, with nothing beside the way to it. -/
def nodeBelow : Location → Node → Node
  | [], node => node
  | name :: rest, node => .directory (.entry name (nodeBelow rest node) .empty) .granted

theorem find?_nodeBelow (location : Location) (node : Node) :
    (nodeBelow location node).find? location = some node := by
  induction location with
  | nil => exact Node.find?_nil node
  | cons name rest ih => simp [nodeBelow, Entries.find?_entry, ih]

theorem wellFormed_nodeBelow {location : Location} (names : ∀ name ∈ location, IsEntryName name)
    {node : Node} (wellFormed : node.WellFormed) : (nodeBelow location node).WellFormed := by
  induction location with
  | nil => exact wellFormed
  | cons name rest ih =>
      have restWellFormed := ih (fun later member => names later (List.mem_cons_of_mem name member))
      simp [nodeBelow, Node.WellFormed, Entries.WellFormed, names name (by simp), restWellFormed]

/-- A file so deep in the tree that no path from the root leads to it, in the working directory. -/
def deepTree : FileTree where
  root := nodeBelow (List.replicate 2048 "d")
    (.directory (.entry "x.js" (.file [] 0o644 .granted) .empty) .granted)
  workingDirectory := List.replicate 2048 "d"

theorem find?_deepTree : deepTree.root.find? deepTree.workingDirectory =
    some (.directory (.entry "x.js" (.file [] 0o644 .granted) .empty) .granted) :=
  find?_nodeBelow _ _

theorem wellFormed_deepTree : deepTree.WellFormed where
  root := by
    apply wellFormed_nodeBelow
    · intro name member
      rw [List.eq_of_mem_replicate member]
      decide
    · decide
  workingDirectory := by
    rw [find?_deepTree]
    rfl

theorem canonical_deepTree :
    deepTree.canonical (.ofText "x.js") = FileTree.pathTo (List.replicate 2048 "d" ++ ["x.js"]) :=
  FileTree.canonical_of_file (by decide) (by decide) find?_deepTree rfl rfl

/-- The target exists, but the program does not get to an exit code. -/
theorem not_scanned_deepTree :
    deepTree.WellFormed ∧ "x.js".toList.head? ≠ some '-' ∧
      deepTree.exists (.ofText "x.js") = .ok true ∧
      ¬∃ code, (ofArguments exampleSession deepTree ["scan", "x.js"]).result = .ok code := by
  have names : ∀ name ∈ List.replicate 2048 "d" ++ ["x.js"], IsEntryName name := by
    intro name member
    rcases List.mem_append.mp member with member | member
    · rw [List.eq_of_mem_replicate member]
      decide
    · rw [List.mem_singleton.mp member]
      decide
  refine ⟨wellFormed_deepTree, by decide, ?_, ?_⟩
  · have placed : deepTree.place .content "x.js" =
        .ok (.found (deepTree.workingDirectory ++ ["x.js"]) (.file [] 0o644 .granted)) :=
      FileTree.place_of_file (by decide) (by decide) find?_deepTree rfl rfl .content
    have written : (Path.ofText "x.js").text = "x.js" := rfl
    simp [FileTree.exists, FileTree.leadsTo, written, FileTree.lookup_eq_ok_iff.mpr placed]
  · have slash : "/".utf8ByteSize = 1 := by decide
    have written : (FileTree.pathTo (List.replicate 2048 "d" ++ ["x.js"])).text =
        "/" ++ "/".intercalate (List.replicate 2048 "d" ++ ["x.js"]) := rfl
    have noNul : '\x00' ∉ (FileTree.pathTo (List.replicate 2048 "d" ++ ["x.js"])).text.toList := by
      rw [written, String.toList_append, List.mem_append, not_or]
      refine ⟨by decide, Path.not_mem_intercalate (by decide) ?_⟩
      intro name member
      exact (names name member).noNul
    have long : FileTree.maxPathBytes ≤
        (FileTree.pathTo (List.replicate 2048 "d" ++ ["x.js"])).text.utf8ByteSize := by
      have bytes := Path.le_utf8ByteSize_intercalate (fun name member => (names name member).nonempty)
      rw [written, String.utf8ByteSize_append, slash]
      simp only [List.length_append, List.length_replicate, List.length_singleton] at bytes
      simp only [FileTree.maxPathBytes]
      omega
    have failed : (ofArguments exampleSession deepTree
        (Request.scanArguments [] "x.js" [])).result = _ :=
      result_of_long_path (by simp) (by simp) (by decide) (by decide) canonical_deepTree noNul long
    rintro ⟨code, done⟩
    cases failed.symm.trans done

end Run

end SkillScan
