import SkillScan.Signature.CharKind
import SkillScan.Suppression

/-!
# The built-in policy

Lines that look safe: they read a value from the environment or import a module of the runtime itself.
The first four suppressions concern every rule, the last two only the rules they name.
-/

namespace SkillScan.Signature

open Pattern Text

/-- A variable of the environment in a script of Node. -/
def scriptVariable : Pattern :=
  inOrder [text "process.env.", Pattern.some isCapital]

/-- A look-up in the environment in a program of Python. -/
def environmentLookup : Pattern :=
  oneOf [text "os.environ[", inOrder [text "os.environ.get", many isBlank, text "("],
    inOrder [text "os.getenv", many isBlank, text "("]]

/-- An import of a module of the runtime, by its name with or without the `node:` in front. -/
def runtimeImport (moduleName : String) : Pattern :=
  inOrder [
    oneOf [inOrder [text "require", many isBlank, text "(", many isBlank],
      inOrder [wordEdge, text "from", Pattern.some isBlank]],
    one isQuote, optional (text "node:"), text moduleName, one isQuote]

/-- Any mention of the environment. -/
def environmentMention : Pattern :=
  oneOf [text "process.env", text "os.environ", text "os.getenv"]

/-- The built-in suppressions. -/
def builtinPolicy : Policy := [
  .onPattern scriptVariable "Environment variable usage",
  .onPattern environmentLookup "Environment variable usage",
  .onPattern (runtimeImport "fs") "Standard file system module",
  .onPattern (runtimeImport "path") "Standard path module",
  ⟨fun line => environmentMention.isShownBy line.toList,
    "Value is read from the environment, not hardcoded", some "Hardcoded"⟩,
  ⟨fun line => occursIn "githubusercontent".toList line.toList,
    "GitHub raw content is generally safe", some "Pipe to Shell"⟩
]

end SkillScan.Signature
