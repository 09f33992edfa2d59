import SkillScan.Json
import SkillScan.Rule
import SkillScan.Tally

/-!
# Reports

A report shows the outcome of a scan: its findings, the most serious first and otherwise in the order of
their discovery, the counts and the verdict. It has a form to be read and a form in JSON.
-/

namespace SkillScan

/-- The outcome of a scan. -/
structure Report where
  /-- The findings, sorted by severity. -/
  findings : List Finding
  statistics : Statistics
  summary : Summary
  verdict : Verdict
  /-- What was scanned; empty if that is not to be shown. -/
  target : String
  catalogVersion : String

namespace Report

/-- The findings by severity; equal severities keep their order. -/
def sorted (findings : List Finding) : List Finding :=
  findings.mergeSort fun first second => first.severity.rank ≤ second.severity.rank

/-- The report on some findings. -/
def ofFindings (findings : List Finding) (statistics : Statistics) (target catalogVersion : String) :
    Report where
  findings := sorted findings
  statistics := statistics
  summary := .ofFindings (sorted findings)
  verdict := (Summary.ofFindings (sorted findings)).verdict
  target := target
  catalogVersion := catalogVersion

/-- The exit code that the verdict leads to. -/
def exitCode (report : Report) : Nat :=
  report.verdict.exitCode

/-- Whether an installation may go on. -/
def passed (report : Report) : Bool :=
  report.exitCode == 0

/-! ## The form to be read -/

/-- Advice for each verdict, in lines. -/
def guidance : Verdict → List String
  | .clean => [
      "No threats detected. This skill appears safe to install.",
      "Remember: no scanner is perfect. Always review code yourself."]
  | .blocked => [
      "INSTALLATION BLOCKED",
      "Critical threats detected. DO NOT install this skill.",
      "If you believe this is a false positive:",
      "  1. Review the code manually",
      "  2. Check with the community",
      "  3. Report it to the OpenClaw security team"]
  | .highRisk => ["HIGH RISK", "Review carefully before installing."]
  | .reviewRecommended => [
      "REVIEW RECOMMENDED", "Medium-risk findings. Understand before installing."]

/-- The title of a report that is given none. -/
def defaultTitle : String := "Hard Hat Scan Report"

/-- A line of one repeated character. -/
def ruler (mark : Char) (length : Nat) : String :=
  String.ofList (List.replicate length mark)

/-- A row of the table of counts. -/
def row (left right : String) : String :=
  Text.padRight 10 left ++ " | " ++ Text.padLeft ' ' 5 right

/-- The file of a finding, with the line unless the finding is about the whole file. -/
def location (finding : Finding) : String :=
  if finding.line = 0 then finding.file else finding.file ++ ":" ++ toString finding.line

/-- The lines about the excerpt, if there is one to show. -/
def codeLines (finding : Finding) : List String :=
  match finding.code with
  | none | some "" => []
  | some code => ["  Code: " ++ code]

/-- The lines about a finding. -/
def findingLines (finding : Finding) : List String :=
  ["[" ++ finding.severity.label ++ "] " ++ finding.issue, "  File: " ++ location finding] ++
    codeLines finding ++ ["  Fix : " ++ finding.remediation]

/-- The line about the target, if it is to be shown. -/
def targetLines (target : String) : List String :=
  if target = "" then [] else ["Target        : " ++ target]

/-- The lines of the table of counts. -/
def tableLines (summary : Summary) : List String :=
  [row "Severity" "Count", ruler '-' 18] ++
    Severity.all.map (fun severity => row severity.label (toString (summary.count severity))) ++
    [ruler '-' 18]

/-- The lines about all findings, with an empty line after each. -/
def findingsLines (findings : List Finding) : List String :=
  if findings.isEmpty then [""]
  else
    ["", "Security Findings", ruler '-' 40] ++
      findings.flatMap fun finding => findingLines finding ++ [""]

/-- The lines of the report under a title. -/
def lines (report : Report) (title : String) : List String :=
  [title, ruler '=' 40] ++ targetLines report.target ++
    ["Files scanned : " ++ toString report.statistics.files,
      "Lines scanned : " ++ Text.grouped report.statistics.lines, ""] ++
    tableLines report.summary ++
    ["Verdict   : " ++ report.verdict.label, "Findings  : " ++ toString report.summary.total] ++
    findingsLines report.findings ++ guidance report.verdict

/-- The report under a title, or under the usual one if the title is empty. -/
def textUnder (report : Report) (title : String) : String :=
  "\n".intercalate (report.lines (if title = "" then defaultTitle else title))

/-- The report as a text. -/
def text (report : Report) : String :=
  report.textUnder defaultTitle

/-! ## The form in JSON -/

/-- A finding in JSON. -/
def findingJson (finding : Finding) : Json :=
  .object [("severity", .text finding.severity.label), ("file", .text finding.file),
    ("line", .int finding.line), ("issue", .text finding.issue),
    ("remediation", .text finding.remediation), ("code", (finding.code.map Json.text).getD .null)]

/-- Counts of files and lines in JSON. -/
def statisticsJson (statistics : Statistics) : Json :=
  .object [("files_scanned", .int statistics.files), ("lines_scanned", .int statistics.lines)]

/-- Counts of findings in JSON. -/
def summaryJson (summary : Summary) : Json :=
  .object [("critical", .int summary.critical), ("high", .int summary.high),
    ("medium", .int summary.medium), ("warning", .int summary.warning)]

/-- The report in JSON. -/
def json (report : Report) : Json :=
  .object [("target", .text report.target), ("catalog_version", .text report.catalogVersion),
    ("statistics", statisticsJson report.statistics), ("summary", summaryJson report.summary),
    ("verdict", .text report.verdict.label), ("exit_code", .int report.exitCode),
    ("passed", .bool report.passed), ("findings", .list (report.findings.map findingJson))]

/-- The document that holds the report. -/
def payload (report : Report) : String :=
  report.json.document

end Report

end SkillScan
