import Mathlib.Data.List.Forall2
import SkillScan.Proofs.Scan.Verdict
import SkillScan.Proofs.Text.Numeral
import SkillScan.Proofs.Text.Separation

/-!
# Reading a report back

The text of a report says everything that the report does. Nothing that a report shows of a scan holds a
newline, so the lines of the text are those that were written. Some of them may be missing, the target
and the code of a finding. But every line begins with a label, and the label of a line that may be
missing is as long as that of the line behind it and differs from it. So whatever stands behind the
labels, the lines can be told apart, one finding after the other.
-/

namespace SkillScan

/-- A text without a newline. -/
def Text.OneLine (text : String) : Prop := '\n' ∉ text.toList

theorem Text.oneLine_ofList {chars : List Char} (absent : '\n' ∉ chars) :
    OneLine (String.ofList chars) := by
  rwa [OneLine, String.toList_ofList]

theorem Text.oneLine_append {first second : String} :
    OneLine (first ++ second) ↔ OneLine first ∧ OneLine second := by
  simp [OneLine]

/-- Nothing that a report shows of a finding holds a newline. -/
structure Finding.OneLine (finding : Finding) : Prop where
  file : Text.OneLine finding.file
  issue : Text.OneLine finding.issue
  code : ∀ code ∈ finding.code, Text.OneLine code
  remediation : Text.OneLine finding.remediation

/-- The code that a report shows; it shows none if the code is empty. -/
def Finding.shownCode (finding : Finding) : String :=
  finding.code.getD ""

/-- Two findings that a report shows in the same way. -/
structure Finding.ReadsLike (first second : Finding) : Prop where
  severity : first.severity = second.severity
  issue : first.issue = second.issue
  location : Report.location first = Report.location second
  shownCode : first.shownCode = second.shownCode
  remediation : first.remediation = second.remediation

namespace Report

/-! ## Labels -/

/-- A line with a label, unless there is nothing to show. -/
def optionalLine (label value : String) : List String :=
  if value = "" then [] else [label ++ value]

theorem codeLines_eq (finding : Finding) :
    codeLines finding = optionalLine "  Code: " finding.shownCode := by
  cases code : finding.code with
  | none => simp [codeLines, optionalLine, Finding.shownCode, code]
  | some text =>
      by_cases empty : text = ""
      · simp [codeLines, optionalLine, Finding.shownCode, code, empty]
      · simp [codeLines, optionalLine, Finding.shownCode, code, empty]

theorem targetLines_eq (target : String) :
    targetLines target = optionalLine "Target        : " target := rfl

section Labels

variable {label next : String} (aligned : label.length = next.length) (differ : label ≠ next)
include aligned differ

theorem label_append_ne (value other : String) : label ++ value ≠ next ++ other := by
  intro same
  have chars := congrArg String.toList same
  rw [String.toList_append, String.toList_append] at chars
  exact differ (String.toList_inj.mp (List.append_inj_left chars aligned))

theorem optionalLine_append_inj {value other nextValue nextOther : String}
    {rest otherRest : List String}
    (same : optionalLine label value ++ (next ++ nextValue) :: rest =
      optionalLine label other ++ (next ++ nextOther) :: otherRest) :
    value = other ∧ nextValue = nextOther ∧ rest = otherRest := by
  -- whether a line is missing shows in the label of the line at its place
  have apart := label_append_ne aligned differ
  by_cases missing : value = "" <;> by_cases otherMissing : other = ""
  · simpa [optionalLine, missing, otherMissing] using same
  · simp only [optionalLine, missing, otherMissing, if_true, if_false, List.nil_append,
      List.cons_append, List.cons.injEq] at same
    exact absurd same.1.symm (apart other nextValue)
  · simp only [optionalLine, missing, otherMissing, if_true, if_false, List.nil_append,
      List.cons_append, List.cons.injEq] at same
    exact absurd same.1 (apart value nextOther)
  · simpa [optionalLine, missing, otherMissing] using same

end Labels

/-- The names of severities differ in their first letter. -/
theorem headline_inj {severity other : Severity} {issue otherIssue : String}
    (same : "[" ++ severity.label ++ "] " ++ issue = "[" ++ other.label ++ "] " ++ otherIssue) :
    severity = other ∧ issue = otherIssue := by
  have chars := congrArg String.toList same
  cases severity <;> cases other <;> simp [Severity.label, String.toList_inj] at chars ⊢ <;>
    exact chars

/-! ## Findings -/

theorem findingLines_append_inj {finding other : Finding} {rest otherRest : List String}
    (same : findingLines finding ++ rest = findingLines other ++ otherRest) :
    finding.ReadsLike other ∧ rest = otherRest := by
  simp only [findingLines, codeLines_eq, List.append_assoc, List.cons_append, List.nil_append,
    List.cons.injEq] at same
  rcases same with ⟨headline, place, behind⟩
  rcases headline_inj headline with ⟨severity, issue⟩
  have location : location finding = location other := (String.append_right_inj _).mp place
  have aligned : "  Code: ".length = "  Fix : ".length := by decide
  rcases optionalLine_append_inj aligned (by decide) behind with ⟨code, remediation, later⟩
  exact ⟨⟨severity, issue, location, code, remediation⟩, later⟩

theorem flatMap_findingLines_append_inj {findings others : List Finding}
    {rest otherRest : List String} (length : findings.length = others.length)
    (same : findings.flatMap (fun finding => findingLines finding ++ [""]) ++ rest =
      others.flatMap (fun finding => findingLines finding ++ [""]) ++ otherRest) :
    List.Forall₂ Finding.ReadsLike findings others := by
  induction findings generalizing others with
  | nil =>
      cases others with
      | nil => exact .nil
      | cons other others => contradiction
  | cons finding findings ih =>
      cases others with
      | nil => contradiction
      | cons other others =>
          simp only [List.flatMap_cons, List.append_assoc] at same
          rcases findingLines_append_inj same with ⟨alike, behind⟩
          rw [List.singleton_append, List.singleton_append, List.cons.injEq] at behind
          exact .cons alike (ih (Nat.succ.inj length) behind.2)

theorem findingsLines_append_inj {findings others : List Finding} {rest otherRest : List String}
    (length : findings.length = others.length)
    (same : findingsLines findings ++ rest = findingsLines others ++ otherRest) :
    List.Forall₂ Finding.ReadsLike findings others := by
  cases findings with
  | nil =>
      cases others with
      | nil => exact .nil
      | cons other others => contradiction
  | cons finding findings =>
      cases others with
      | nil => contradiction
      | cons other others =>
          simp only [findingsLines, List.isEmpty_cons, Bool.false_eq_true, if_false,
            List.cons_append, List.nil_append, List.cons.injEq, true_and] at same
          exact flatMap_findingLines_append_inj length same

theorem summary_of_readsLike {findings others : List Finding}
    (alike : List.Forall₂ Finding.ReadsLike findings others) :
    Summary.ofFindings findings = Summary.ofFindings others := by
  apply Summary.eq_of_count_eq
  intro severity
  rw [Summary.count_ofFindings, Summary.count_ofFindings]
  induction alike with
  | nil => rfl
  | cons first _ ih => simp only [List.countP_cons, ih, first.severity]

/-! ## Whole reports -/

theorem length_tableLines (summary : Summary) : (tableLines summary).length = 7 := rfl

/-- The lines of a report determine it, besides the version of the rules. -/
theorem fields_of_lines {findings others : List Finding} {files lines otherFiles otherLines : Nat}
    {target otherTarget version otherVersion title : String}
    (same : (ofFindings findings ⟨files, lines⟩ target version).lines title =
      (ofFindings others ⟨otherFiles, otherLines⟩ otherTarget otherVersion).lines title) :
    target = otherTarget ∧ files = otherFiles ∧ lines = otherLines ∧
      List.Forall₂ Finding.ReadsLike (sorted findings) (sorted others) := by
  simp only [Report.lines, ofFindings, targetLines_eq, List.append_assoc, List.cons_append,
    List.nil_append, List.cons.injEq, true_and] at same
  -- only the line about the target may be missing before the table, and the table has a fixed length
  have aligned : "Target        : ".length = "Files scanned : ".length := by decide
  rcases optionalLine_append_inj aligned (by decide) same with ⟨target, files, behind⟩
  rw [List.cons.injEq, List.cons.injEq] at behind
  rcases behind with ⟨lines, _, table⟩
  have tables := List.append_inj table (by rw [length_tableLines, length_tableLines])
  simp only [List.cons.injEq] at tables
  rcases tables with ⟨_, _, total, findingsBehind⟩
  -- the number of findings is written above them, so it is known how many blocks follow
  have length : (sorted findings).length = (sorted others).length := by
    rw [← Summary.total_ofFindings, ← Summary.total_ofFindings]
    exact Text.toString_inj ((String.append_right_inj _).mp total)
  exact ⟨target, Text.toString_inj files,
    Text.grouped_inj ((String.append_right_inj _).mp lines),
    findingsLines_append_inj length findingsBehind⟩

/-! ## Texts -/

section OneLine

theorem oneLine_number (number : Nat) : Text.OneLine (toString number) :=
  Text.not_mem_toString (by decide)

theorem oneLine_integer (number : Int) : Text.OneLine (toString number) := by
  cases number with
  | ofNat number => exact oneLine_number number
  | negSucc number =>
      have sign : Text.OneLine "-" := Text.oneLine_ofList (by decide)
      exact Text.oneLine_append.mpr ⟨sign, oneLine_number (number + 1)⟩

theorem oneLine_grouped (number : Nat) : Text.OneLine (Text.grouped number) :=
  Text.not_mem_grouped (by decide) (by decide)

theorem oneLine_ruler {mark : Char} (mark_ne : mark ≠ '\n') (length : Nat) :
    Text.OneLine (ruler mark length) := by
  apply Text.oneLine_ofList
  rw [List.mem_replicate]
  exact fun newline => mark_ne newline.2.symm

theorem oneLine_severityLabel (severity : Severity) : Text.OneLine severity.label := by
  cases severity <;> exact Text.oneLine_ofList (by decide)

theorem oneLine_verdictLabel (verdict : Verdict) : Text.OneLine verdict.label := by
  cases verdict <;> exact Text.oneLine_ofList (by decide)

theorem oneLine_optionalLine {label value : String} (labelOneLine : Text.OneLine label)
    (valueOneLine : Text.OneLine value) : ∀ line ∈ optionalLine label value, Text.OneLine line := by
  intro line member
  rw [optionalLine] at member
  split at member
  · contradiction
  · rw [List.mem_singleton] at member
    rw [member]
    exact Text.oneLine_append.mpr ⟨labelOneLine, valueOneLine⟩

theorem oneLine_location {finding : Finding} (oneLine : finding.OneLine) :
    Text.OneLine (location finding) := by
  rw [location]
  split
  · exact oneLine.file
  · have colon : Text.OneLine ":" := Text.oneLine_ofList (by decide)
    simp only [Text.oneLine_append]
    exact ⟨⟨oneLine.file, colon⟩, oneLine_integer finding.line⟩

theorem oneLine_shownCode {finding : Finding} (oneLine : finding.OneLine) :
    Text.OneLine finding.shownCode := by
  rw [Finding.shownCode]
  cases code : finding.code with
  | none => exact Text.oneLine_ofList (by decide)
  | some text => exact oneLine.code text code

theorem oneLine_findingLines {finding : Finding} (oneLine : finding.OneLine) :
    ∀ line ∈ findingLines finding, Text.OneLine line := by
  have opening : Text.OneLine "[" := Text.oneLine_ofList (by decide)
  have closing : Text.OneLine "] " := Text.oneLine_ofList (by decide)
  have fileLabel : Text.OneLine "  File: " := Text.oneLine_ofList (by decide)
  have codeLabel : Text.OneLine "  Code: " := Text.oneLine_ofList (by decide)
  have fixLabel : Text.OneLine "  Fix : " := Text.oneLine_ofList (by decide)
  simp only [findingLines, codeLines_eq, List.forall_mem_append, List.forall_mem_cons,
    List.not_mem_nil, false_implies, implies_true, and_true, Text.oneLine_append]
  refine ⟨⟨⟨?_, ?_⟩, ?_⟩, ?_⟩
  · exact ⟨⟨⟨opening, oneLine_severityLabel finding.severity⟩, closing⟩, oneLine.issue⟩
  · exact ⟨fileLabel, oneLine_location oneLine⟩
  · exact oneLine_optionalLine codeLabel (oneLine_shownCode oneLine)
  · exact ⟨fixLabel, oneLine.remediation⟩

theorem oneLine_findingsLines {findings : List Finding}
    (oneLine : ∀ finding ∈ findings, finding.OneLine) :
    ∀ line ∈ findingsLines findings, Text.OneLine line := by
  have empty : Text.OneLine "" := Text.oneLine_ofList (by decide)
  have heading : Text.OneLine "Security Findings" := Text.oneLine_ofList (by decide)
  intro line member
  rw [findingsLines] at member
  split at member
  · rw [List.mem_singleton] at member
    rwa [member]
  · simp only [List.mem_append, List.mem_cons, List.not_mem_nil, or_false, List.mem_flatMap] at member
    rcases member with (rfl | rfl | rfl) | ⟨finding, found, shown | rfl⟩
    · exact empty
    · exact heading
    · exact oneLine_ruler (by decide) 40
    · exact oneLine_findingLines (oneLine finding found) line shown
    · exact empty

theorem oneLine_row {left right : String} (leftOneLine : Text.OneLine left)
    (rightOneLine : Text.OneLine right) : Text.OneLine (row left right) := by
  have leftPadded : Text.OneLine (Text.padRight 10 left) := by
    simpa [Text.OneLine, Text.padRight, List.mem_replicate] using leftOneLine
  have rightPadded : Text.OneLine (Text.padLeft ' ' 5 right) := by
    simpa [Text.OneLine, Text.padLeft, List.mem_replicate] using rightOneLine
  have bar : Text.OneLine " | " := Text.oneLine_ofList (by decide)
  simp only [row, Text.oneLine_append]
  exact ⟨⟨leftPadded, bar⟩, rightPadded⟩

theorem oneLine_tableLines (summary : Summary) :
    ∀ line ∈ tableLines summary, Text.OneLine line := by
  have ruled : Text.OneLine (ruler '-' 18) := oneLine_ruler (by decide) 18
  have severityHead : Text.OneLine "Severity" := Text.oneLine_ofList (by decide)
  have countHead : Text.OneLine "Count" := Text.oneLine_ofList (by decide)
  intro line member
  simp only [tableLines, List.mem_append, List.mem_cons, List.mem_map, List.not_mem_nil,
    or_false] at member
  rcases member with ((rfl | rfl) | ⟨severity, _, rfl⟩) | rfl
  · exact oneLine_row severityHead countHead
  · exact ruled
  · exact oneLine_row (oneLine_severityLabel severity) (oneLine_number _)
  · exact ruled

theorem oneLine_guidance (verdict : Verdict) : ∀ line ∈ guidance verdict, Text.OneLine line := by
  intro line member
  cases verdict <;> simp only [guidance, List.mem_cons, List.not_mem_nil, or_false] at member
  · rcases member with rfl | rfl <;> exact Text.oneLine_ofList (by decide)
  · rcases member with rfl | rfl <;> exact Text.oneLine_ofList (by decide)
  · rcases member with rfl | rfl <;> exact Text.oneLine_ofList (by decide)
  · rcases member with rfl | rfl | rfl | rfl | rfl | rfl <;> exact Text.oneLine_ofList (by decide)

theorem oneLine_lines {findings : List Finding} {files lines : Nat} {target version : String}
    (findingsOneLine : ∀ finding ∈ findings, finding.OneLine) (targetOneLine : Text.OneLine target) :
    ∀ line ∈ (ofFindings findings ⟨files, lines⟩ target version).lines defaultTitle,
      Text.OneLine line := by
  have title : Text.OneLine defaultTitle := Text.oneLine_ofList (by decide)
  have targetLabel : Text.OneLine "Target        : " := Text.oneLine_ofList (by decide)
  have filesLabel : Text.OneLine "Files scanned : " := Text.oneLine_ofList (by decide)
  have linesLabel : Text.OneLine "Lines scanned : " := Text.oneLine_ofList (by decide)
  have empty : Text.OneLine "" := Text.oneLine_ofList (by decide)
  have verdictLabel : Text.OneLine "Verdict   : " := Text.oneLine_ofList (by decide)
  have findingsLabel : Text.OneLine "Findings  : " := Text.oneLine_ofList (by decide)
  have sortedOneLine : ∀ finding ∈ sorted findings, finding.OneLine := by
    intro finding member
    exact findingsOneLine finding (List.mem_mergeSort.mp member)
  simp only [Report.lines, ofFindings, List.forall_mem_append, List.forall_mem_cons,
    List.not_mem_nil, false_implies, implies_true, and_true, Text.oneLine_append]
  refine ⟨⟨⟨⟨⟨⟨⟨title, oneLine_ruler (by decide) 40⟩, ?_⟩, ?_⟩, ?_⟩, ?_⟩, ?_⟩, ?_⟩
  · exact oneLine_optionalLine targetLabel targetOneLine
  · exact ⟨⟨filesLabel, oneLine_number files⟩, ⟨linesLabel, oneLine_grouped lines⟩, empty⟩
  · exact oneLine_tableLines _
  · exact ⟨⟨verdictLabel, oneLine_verdictLabel _⟩, findingsLabel, oneLine_number _⟩
  · exact oneLine_findingsLines sortedOneLine
  · exact oneLine_guidance _

end OneLine

theorem lines_text {findings : List Finding} {files lines : Nat} {target version : String}
    (findingsOneLine : ∀ finding ∈ findings, finding.OneLine) (targetOneLine : Text.OneLine target) :
    Text.lines (ofFindings findings ⟨files, lines⟩ target version).text.toList =
      ((ofFindings findings ⟨files, lines⟩ target version).lines defaultTitle).map String.toList := by
  have newline : "\n".toList = ['\n'] := by decide
  have titled : defaultTitle ≠ "" := by decide
  rw [text, textUnder, if_neg titled, String.toList_intercalate, newline, Text.lines]
  apply Text.splitAt_intercalate
  · simp only [List.forall_mem_map]
    exact oneLine_lines findingsOneLine targetOneLine
  · simp [Report.lines]

/-- The text of a report loses nothing: reports with the same text agree in all that they say, from the
target to the single findings. -/
theorem text_determines_fields {findings others : List Finding}
    {files lines otherFiles otherLines : Nat} {target otherTarget version otherVersion : String}
    (findingsOneLine : ∀ finding ∈ findings, finding.OneLine)
    (othersOneLine : ∀ finding ∈ others, finding.OneLine)
    (targetOneLine : Text.OneLine target) (otherTargetOneLine : Text.OneLine otherTarget)
    (sameText : (ofFindings findings ⟨files, lines⟩ target version).text =
      (ofFindings others ⟨otherFiles, otherLines⟩ otherTarget otherVersion).text) :
    let report := ofFindings findings ⟨files, lines⟩ target version
    let other := ofFindings others ⟨otherFiles, otherLines⟩ otherTarget otherVersion
    report.target = other.target ∧
      report.statistics.files = other.statistics.files ∧
      report.statistics.lines = other.statistics.lines ∧
      report.summary = other.summary ∧
      report.verdict = other.verdict ∧
      report.findings.length = other.findings.length ∧
      List.Forall₂ Finding.ReadsLike report.findings other.findings := by
  have sameLines := congrArg (fun text : String => Text.lines text.toList) sameText
  simp only [lines_text findingsOneLine targetOneLine,
    lines_text othersOneLine otherTargetOneLine] at sameLines
  have written := (List.map_inj_right fun _ _ => String.toList_inj.mp).mp sameLines
  rcases fields_of_lines written with ⟨sameTarget, sameFiles, sameLineCount, alike⟩
  have sameSummary := summary_of_readsLike alike
  exact ⟨sameTarget, congrArg Int.ofNat sameFiles, congrArg Int.ofNat sameLineCount, sameSummary,
    congrArg Summary.verdict sameSummary, alike.length_eq, alike⟩

/-- A finding whose issue looks like the line of another one. -/
def exampleFinding (code : Option String) : Finding :=
  ⟨.high, "a.js", 7, "Shell] Command\tFile: b.js", "Review", code⟩

theorem oneLine_exampleFinding {code : Option String}
    (codeOneLine : ∀ text ∈ code, Text.OneLine text) : (exampleFinding code).OneLine where
  file := Text.oneLine_ofList (by decide)
  issue := Text.oneLine_ofList (by decide)
  code := codeOneLine
  remediation := Text.oneLine_ofList (by decide)

/-- A code that is absent reads like one that is empty, and the version of the rules does not show. -/
theorem text_exampleFinding :
    (ofFindings [exampleFinding none] ⟨1, 1200⟩ "" "1").text =
        (ofFindings [exampleFinding (some "")] ⟨1, 1200⟩ "" "2").text ∧
      List.Forall₂ Finding.ReadsLike (sorted [exampleFinding none])
        (sorted [exampleFinding (some "")]) := by
  have empty : Text.OneLine "" := Text.oneLine_ofList (by decide)
  have absentOneLine : ∀ finding ∈ [exampleFinding none], finding.OneLine := by
    simp only [List.mem_singleton, forall_eq]
    exact oneLine_exampleFinding (by simp)
  have emptyOneLine : ∀ finding ∈ [exampleFinding (some "")], finding.OneLine := by
    simp only [List.mem_singleton, forall_eq]
    exact oneLine_exampleFinding (by simpa using empty)
  have sortedSingle (finding : Finding) : sorted [finding] = [finding] :=
    List.mergeSort_singleton finding
  have sameText : (ofFindings [exampleFinding none] ⟨(1 : Nat), (1200 : Nat)⟩ "" "1").text =
      (ofFindings [exampleFinding (some "")] ⟨(1 : Nat), (1200 : Nat)⟩ "" "2").text := by
    simp only [text, textUnder, Report.lines, ofFindings, sortedSingle]
    rfl
  have fields := text_determines_fields absentOneLine emptyOneLine empty empty sameText
  exact ⟨sameText, fields.2.2.2.2.2.2⟩

end Report

end SkillScan
