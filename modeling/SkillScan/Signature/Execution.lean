import SkillScan.Rule
import SkillScan.Signature.CharKind

/-!
# Execution of other code

Lines that run what they decode, pipe a download to a shell, raise their privileges, erase files by
absolute path or start other programs.
-/

namespace SkillScan.Signature

open Pattern Text

/-- A word, opened by an edge, and a parenthesis after optional blanks. -/
def call (name : Pattern) : Pattern :=
  inOrder [wordEdge, name, many isBlank, text "("]

/-- `eval` or `exec` applied to a decoder. -/
def evaluatedDecoding : Pattern :=
  inOrder [wordEdge, oneOf [anyCase "eval", anyCase "exec"], many isBlank, anyCase "(", many isBlank,
    oneOf [anyCase "atob", anyCase "Buffer.from", anyCase "decodeURIComponent",
      anyCase "base64.b64decode", anyCase "codecs.decode", anyCase "bytes.fromhex"]]

/-- A download tool, later a bar, and at the end of the line a shell. -/
def pipeToShell : Pattern :=
  inOrder [wordEdge, oneOf [anyCase "curl", anyCase "wget"], wordEdge, Pattern.some isOnLine, text "|",
    many isOnLine, wordEdge, oneOf [anyCase "bash", anyCase "sh", anyCase "zsh"], many isBlank, lineEnd]

/-- A command that raises privileges, followed by a blank. -/
def elevation : Pattern :=
  inOrder [wordEdge, oneOf [text "sudo", text "doas"], Pattern.some isBlank]

/-- A command that erases, applied to an absolute path that may be quoted. -/
def destruction : Pattern :=
  inOrder [
    oneOf [inOrder [wordEdge, text "rm", Pattern.some isBlank, text "-", oneOf [text "rf", text "fr"]],
      inOrder [wordEdge, text "del", Pattern.some isBlank, text "/f"],
      inOrder [wordEdge, text "format", many isBlank, text ":"]],
    Pattern.some isBlank, optional (one isQuote), text "/"]

/-- The names by which scripts start other programs. -/
def systemCommand : Pattern :=
  oneOf [text "child_process", call (text "exec"), call (text "spawn"),
    inOrder [wordEdge, text "subprocess", wordEdge], call (text "os.system"), call (text "os.popen")]

/-- The rule about decoded code. -/
def obfuscationRule : Rule :=
  .ofPattern "Code Obfuscation (eval + decode)" .critical
    "Remove obfuscation - code should be readable" evaluatedDecoding

/-- The rule about downloads that are run at once. -/
def pipeToShellRule : Rule :=
  .ofPattern "Pipe to Shell Pattern" .critical
    "Review script before executing. Download and inspect first." pipeToShell

/-- The rules about privileges, erasure and other programs. -/
def commandRules : List Rule := [
  .ofPattern "Requires Elevated Privileges" .high
    "Review why sudo is needed. Prefer user-level installs." elevation,
  .ofPattern "Destructive File Operation" .high
    "Verify paths are correct. Ensure backups exist." destruction,
  .ofPattern "System Command Execution" .high
    "Review all system calls. Ensure input sanitization." systemCommand
]

end SkillScan.Signature
