import SkillScan.Proofs.CommandLine.InstallGate
import SkillScan.Proofs.FileTree.Rereading
import SkillScan.Proofs.FileTree.Writing
import SkillScan.Proofs.Json.Injectivity

/-!
# The report in JSON

The document of a report determines the report: no two reports have the same document, not even where a finding has
no code in one and an empty code in the other. The document that is written to the output file is the one that is
printed in the JSON format, whichever format is asked for, and it is read back from where it has been written.
-/

namespace SkillScan

theorem Severity.label_injective : Function.Injective Severity.label := by
  intro first second same
  cases first <;> cases second <;> first | rfl | exact absurd same (by decide)

theorem Verdict.label_injective : Function.Injective Verdict.label := by
  intro first second same
  cases first <;> cases second <;> first | rfl | exact absurd same (by decide)

namespace Report

/-! ## What the document tells -/

/-- A code that is absent is written without quotes, and so differs from every text. -/
theorem codeJson_injective :
    Function.Injective fun code : Option String => (code.map Json.text).getD .null := by
  intro code other same
  cases code with
  | none =>
      cases other with
      | none => rfl
      | some text => simp at same
  | some text =>
      cases other with
      | none => simp at same
      | some otherText => simpa using same

theorem findingJson_injective : Function.Injective findingJson := by
  intro finding other same
  simp only [findingJson, Json.object.injEq, List.cons.injEq, Prod.mk.injEq, Json.text.injEq, Json.int.injEq,
    true_and, and_true] at same
  rcases same with ⟨label, file, line, issue, remediation, code⟩
  have severity := Severity.label_injective label
  have sameCode := codeJson_injective code
  cases finding
  cases other
  simp only at severity file line issue remediation sameCode
  rw [severity, file, line, issue, remediation, sameCode]

theorem json_injective : Function.Injective json := by
  intro report other same
  simp only [json, statisticsJson, summaryJson, Json.object.injEq, List.cons.injEq, Prod.mk.injEq,
    Json.text.injEq, Json.int.injEq, Json.list.injEq, Int.natCast_inj, true_and, and_true] at same
  rcases same with ⟨target, version, ⟨files, lines⟩, ⟨critical, high, medium, warning⟩, label, _, _, findings⟩
  have verdict := Verdict.label_injective label
  have sameFindings := List.map_injective_iff.mpr findingJson_injective findings
  rcases report with ⟨_, ⟨_, _⟩, ⟨_, _, _, _⟩, _, _, _⟩
  rcases other with ⟨_, ⟨_, _⟩, ⟨_, _, _, _⟩, _, _, _⟩
  simp only at target version files lines critical high medium warning verdict sameFindings
  rw [target, version, files, lines, critical, high, medium, warning, verdict, sameFindings]

theorem payload_injective : Function.Injective payload :=
  Json.document_injective.comp json_injective

end Report

/-! ## Where the document is stored -/

namespace Run

section Output

variable {tree : FileTree} {format : ReportFormat} {output : String} {records : List LogRecord} {report : Report}

theorem content_of_writeReport (written : (writeReport tree output report).error = none) :
    (writeReport tree output report).tree.content (.ofText output) = .ok (Text.encode report.payload) := by
  have made := FileTree.Change.finished_of_andThen written
  rw [writeReport, FileTree.Change.andThen_of_finished made] at written ⊢
  exact FileTree.content_of_write (Path.normal_ofText output) (FileTree.Change.eq_ok_of_finished written)

theorem ofReport_of_result {code : Nat} (nonempty : output ≠ "")
    (done : (ofReport tree format (some output) records report).result = .ok code) :
    (writeReport tree output report).error = none ∧
      (ofReport tree format (some output) records report).tree = (writeReport tree output report).tree := by
  cases stopped : (writeReport tree output report).error with
  | some error => simp [ofReport, stopped] at done
  | none => simp [ofReport, stopped]

/-- Reports whose documents are equal tell the same of a scan, down to whether a finding has a code. The document
that is stored in the output file is the text that is printed in the JSON format. -/
theorem payload_is_lossless :
    (∀ (findings others : List Finding) (statistics otherStatistics : Statistics)
        (target otherTarget version otherVersion : String),
        let report := Report.ofFindings findings statistics target version
        let other := Report.ofFindings others otherStatistics otherTarget otherVersion
        report.payload = other.payload →
          target = otherTarget ∧ version = otherVersion ∧ statistics = otherStatistics ∧
            report.summary = other.summary ∧ report.verdict = other.verdict ∧
            report.findings = other.findings) ∧
      ∀ (tree : FileTree) (format : ReportFormat) (output : String) (records : List LogRecord)
        (report : Report) (code : Nat), output ≠ "" →
        let run := ofReport tree format (some output) records report
        run.result = .ok code →
          ∃ text, run.tree.content (.ofText output) = .ok (Text.encode text) ∧
            ∀ other otherOutput otherRecords,
              (ofReport other .json otherOutput otherRecords report).shown = [text] := by
  constructor
  · intro findings others statistics otherStatistics target otherTarget version otherVersion report other same
    have sameReport : report = other := Report.payload_injective same
    exact ⟨congrArg Report.target sameReport, congrArg Report.catalogVersion sameReport,
      congrArg Report.statistics sameReport, congrArg Report.summary sameReport,
      congrArg Report.verdict sameReport, congrArg Report.findings sameReport⟩
  · intro tree format output records report code nonempty run done
    rcases ofReport_of_result nonempty done with ⟨written, sameTree⟩
    refine ⟨report.payload, ?_, ?_⟩
    · rw [sameTree]
      exact content_of_writeReport written
    · intro other otherOutput otherRecords
      exact shown_ofReport

end Output

/-- A finding whose code holds a quote, a backslash and a character that is escaped as a pair. -/
def exampleFinding : Finding :=
  ⟨.critical, "a.js", 3, "Remote Code Execution", "Review",
    some (String.ofList ['\x22', '\\', Char.ofNat 0x1F600])⟩

/-- A finding without a code. -/
def exampleNotice : Finding :=
  ⟨.warning, "b.js", 0, "Unreadable File", "Check", none⟩

theorem sorted_exampleFindings :
    Report.sorted [exampleNotice, exampleFinding] = Report.sorted [exampleFinding, exampleNotice] := by
  have tiers (findings : List Finding) : Report.sorted findings = Severity.tiered Finding.severity findings :=
    Severity.mergeSort_eq_tiered Finding.severity findings
  rw [tiers, tiers]
  rfl

theorem writable_exampleFileTree (report : Report) :
    Writable (Scanner.exampleFileTree []) report (some "report.json") := by
  have made : (Scanner.exampleFileTree []).ensureDirectories (Path.ofText "report.json").parent =
      ⟨Scanner.exampleFileTree [], none⟩ := rfl
  have written (content : List UInt8) :
      ∃ after, (Scanner.exampleFileTree []).write (.ofText "report.json") content = .ok after := ⟨_, rfl⟩
  rcases written (Text.encode report.payload) with ⟨after, step⟩
  simp [Writable, writeReport, made, FileTree.Change.andThen, step, FileTree.Change.ofStep]

/-- Findings in another order, and a report that is shown as a text. -/
theorem payload_of_exampleFindings :
    let report := Report.ofFindings [exampleNotice, exampleFinding] ⟨1, 3⟩ "" "1"
    let other := Report.ofFindings [exampleFinding, exampleNotice] ⟨1, 3⟩ "" "1"
    let run := ofReport (Scanner.exampleFileTree []) .text (some "report.json") [] report
    (report.payload = other.payload ∧ report.findings = other.findings) ∧
      run.result = .ok report.exitCode ∧
      ∃ text, run.tree.content (.ofText "report.json") = .ok (Text.encode text) ∧
        (ofReport run.tree .json none [] report).shown = [text] := by
  intro report other run
  have same : report.payload = other.payload := by
    simp only [report, other, Report.ofFindings, sorted_exampleFindings]
  have done : run.result = .ok report.exitCode := result_ofReport (writable_exampleFileTree report)
  have determined := payload_is_lossless.1 _ _ _ _ _ _ _ _ same
  rcases payload_is_lossless.2 _ _ _ _ _ _ (by decide) done with ⟨text, stored, shown⟩
  exact ⟨⟨same, determined.2.2.2.2.2⟩, done, text, stored, shown _ _ _⟩

end Run

end SkillScan
