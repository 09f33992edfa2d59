import SkillScan.CommandLine.Grammar
import SkillScan.CommandLine.HelpPage
import SkillScan.CommandLine.Reading
import SkillScan.CommandLine.Request
import SkillScan.CommandLine.Run
import SkillScan.CommandLine.UsageError
import SkillScan.Configuration.Basic
import SkillScan.Configuration.Error
import SkillScan.Configuration.Load
import SkillScan.Configuration.Overlay
import SkillScan.DailyCheck
import SkillScan.Environment
import SkillScan.FileTree.Basic
import SkillScan.FileTree.Content
import SkillScan.FileTree.Difference
import SkillScan.FileTree.Fault
import SkillScan.FileTree.Resolve
import SkillScan.FileTree.Snapshot
import SkillScan.Finding
import SkillScan.ImportLine
import SkillScan.Json
import SkillScan.Log
import SkillScan.Main
import SkillScan.Matching
import SkillScan.Path
import SkillScan.Pattern
import SkillScan.Proofs.CommandLine.InstallGate
import SkillScan.Proofs.CommandLine.ReportOutput
import SkillScan.Proofs.CommandLine.ScanRequest
import SkillScan.Proofs.Configuration.Loading
import SkillScan.Proofs.DailyCheck.EachSkill
import SkillScan.Proofs.FileTree.Canonical
import SkillScan.Proofs.FileTree.Growth
import SkillScan.Proofs.FileTree.Relisting
import SkillScan.Proofs.FileTree.Rereading
import SkillScan.Proofs.FileTree.Way
import SkillScan.Proofs.FileTree.WellFormed
import SkillScan.Proofs.FileTree.Writing
import SkillScan.Proofs.ImportLine.Comment
import SkillScan.Proofs.ImportLine.Reading
import SkillScan.Proofs.Json.Injectivity
import SkillScan.Proofs.Path.NormalForm
import SkillScan.Proofs.Pattern.Context
import SkillScan.Proofs.Pattern.Language
import SkillScan.Proofs.Pattern.Occurrence
import SkillScan.Proofs.PropertyList.RoundTrip
import SkillScan.Proofs.Report.Ordering
import SkillScan.Proofs.Report.ReadingBack
import SkillScan.Proofs.Report.ShownCode
import SkillScan.Proofs.Rule.Tiers
import SkillScan.Proofs.Scan.Accounting
import SkillScan.Proofs.Scan.Exactness
import SkillScan.Proofs.Scan.Exposure
import SkillScan.Proofs.Scan.FileText
import SkillScan.Proofs.Scan.LineEndStyle
import SkillScan.Proofs.Scan.LineLocality
import SkillScan.Proofs.Scan.Location
import SkillScan.Proofs.Scan.OwnRules
import SkillScan.Proofs.Scan.Verdict
import SkillScan.Proofs.Scan.VerdictJoin
import SkillScan.Proofs.Schedule.AgentReading
import SkillScan.Proofs.Schedule.CrontabJob
import SkillScan.Proofs.Schedule.Installation
import SkillScan.Proofs.Schedule.ScriptReading
import SkillScan.Proofs.Severity.StableSort
import SkillScan.Proofs.Signature.Authority
import SkillScan.Proofs.Signature.BlankLine
import SkillScan.Proofs.Signature.Credential
import SkillScan.Proofs.Signature.Dependency
import SkillScan.Proofs.Signature.Download
import SkillScan.Proofs.Signature.LetterCase
import SkillScan.Proofs.Signature.PipeToShell
import SkillScan.Proofs.Signature.SafeContext
import SkillScan.Proofs.Signature.ScopedSafety
import SkillScan.Proofs.Signature.Surroundings
import SkillScan.Proofs.Suppression.Combination
import SkillScan.Proofs.Text.Decoding
import SkillScan.Proofs.Text.Encoding
import SkillScan.Proofs.Text.LineEnds
import SkillScan.Proofs.Text.Numeral
import SkillScan.Proofs.Text.Run
import SkillScan.Proofs.Text.Separation
import SkillScan.Proofs.Text.Spelling
import SkillScan.Proofs.Walk.Completeness
import SkillScan.Proofs.Walk.Listing
import SkillScan.Proofs.Walk.Stops
import SkillScan.PropertyList
import SkillScan.Report
import SkillScan.Rule
import SkillScan.Scan
import SkillScan.Schedule.Crontab
import SkillScan.Schedule.LaunchAgent
import SkillScan.Schedule.Script
import SkillScan.Schedule.Setup
import SkillScan.Severity
import SkillScan.ShellWord
import SkillScan.Signature.Builtin
import SkillScan.Signature.CharKind
import SkillScan.Signature.Credential
import SkillScan.Signature.Deletion
import SkillScan.Signature.Dependency
import SkillScan.Signature.Execution
import SkillScan.Signature.Network
import SkillScan.Signature.SafeContext
import SkillScan.StandardModules
import SkillScan.Suppression
import SkillScan.Tally
import SkillScan.Text.Blank
import SkillScan.Text.Casing
import SkillScan.Text.CodeSet
import SkillScan.Text.DecimalDigit
import SkillScan.Text.Escape
import SkillScan.Text.Line
import SkillScan.Text.Numeral
import SkillScan.Text.Printable
import SkillScan.Text.Quoted
import SkillScan.Text.Utf8
import SkillScan.Text.WordChar
import SkillScan.Timestamp
import SkillScan.Walk
import SkillScan.Yaml.Binary
import SkillScan.Yaml.Conversion
import SkillScan.Yaml.Cursor
import SkillScan.Yaml.Document
import SkillScan.Yaml.Error
import SkillScan.Yaml.Graph
import SkillScan.Yaml.Graph.Construction
import SkillScan.Yaml.Graph.Merge
import SkillScan.Yaml.Moment
import SkillScan.Yaml.Node
import SkillScan.Yaml.Node.OfTokens
import SkillScan.Yaml.Number
import SkillScan.Yaml.Reader
import SkillScan.Yaml.Scalar.Block
import SkillScan.Yaml.Scalar.Plain
import SkillScan.Yaml.Scalar.Quoted
import SkillScan.Yaml.Source
import SkillScan.Yaml.Tag
import SkillScan.Yaml.Token
import SkillScan.Yaml.Token.Lexer
import SkillScan.Yaml.Token.Property
import SkillScan.Yaml.Value
