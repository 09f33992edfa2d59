import SkillScan.ImportLine
import SkillScan.Rule
import SkillScan.Signature.CharKind

/-!
# Dependencies

Packages that a line names or imports.
-/

namespace SkillScan.Signature

open Pattern Text

/-- The name of a package known to be malware, in quotes. -/
def maliciousPackage : Pattern :=
  inOrder [one isQuote, text "openclaw-core", one isQuote]

/-- A function for importing, applied to a string. -/
def importCall (name : String) : Pattern :=
  inOrder [wordEdge, text name, many isBlank, text "(", many isBlank, one isStringMark,
    Pattern.some isInString, one isStringMark, many isBlank, text ")"]

/-- An import statement of JavaScript, with or without a clause before the module's name. -/
def importStatement : Pattern :=
  inOrder [lineStart, many isBlank, text "import", Pattern.some isBlank,
    optional (inOrder [Pattern.some isClauseChar, Pattern.some isBlank, text "from",
      Pattern.some isBlank]),
    one isQuote, Pattern.some (!isQuote ·), one isQuote]

/-- An import in any of the forms of JavaScript. -/
def scriptImport : Pattern :=
  oneOf [importCall "require", importStatement, importCall "import"]

/-- The rule about malware. -/
def malwareRule : Rule :=
  .ofPattern "Known Malicious Dependency (openclaw-core)" .critical "DO NOT INSTALL - This is malware"
    maliciousPackage

/-- The rule about packages. Imports of JavaScript count whatever they name, imports of Python only if
they name a module outside the standard library. -/
def dependencyRule : Rule where
  name := "External Dependency"
  severity := .medium
  remediation := "Review the npm or PyPI package for security issues"
  test line :=
    scriptImport.isShownBy line.toList ||
      (ImportLine.importedModules line.toList).any ImportLine.isExternal

end SkillScan.Signature
