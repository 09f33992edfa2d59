import SkillScan.StandardModules
import SkillScan.Text.Blank
import SkillScan.Text.WordChar

/-!
# Import lines of Python sources

A line imports modules in one of two forms. `from M import ...` names one module. `import M, N as n`
names several, separated by commas, each with an optional alias, and nothing but a comment may follow.
A module name consists of word characters and dots. `importedModules` reads the names off a line in
order and answers with no names for any other line.
-/

namespace SkillScan.ImportLine

open Text

/-- Whether a character may stand in a module name. -/
def isNameChar (char : Char) : Bool :=
  isWord char || char == '.'

/-- What follows a word at the beginning of some characters. -/
def afterWord? (word : String) (chars : List Char) : Option (List Char) :=
  if word.toList.isPrefixOf chars then some (chars.drop word.length) else none

/-- What follows the blanks at the beginning of some characters, if there are any. -/
def afterBlanks? : List Char → Option (List Char)
  | [] => none
  | char :: rest => if isBlank char then some (rest.dropWhile isBlank) else none

/-- The longest run of characters of a kind at the beginning, if there is any, and what follows it. -/
def run? (kind : Char → Bool) (chars : List Char) : Option (List Char × List Char) :=
  if (chars.takeWhile kind).isEmpty then none else some (chars.takeWhile kind, chars.dropWhile kind)

/-- Whether no word character stands at the beginning. -/
def atWordEnd : List Char → Bool
  | [] => true
  | char :: _ => !isWord char

/-- The module of a line `from M import ...`. -/
def fromModule? (line : List Char) : Option (List Char) := do
  let rest ← afterWord? "from" (line.dropWhile isBlank)
  let rest ← afterBlanks? rest
  let (name, rest) ← run? isNameChar rest
  let rest ← afterBlanks? rest
  let rest ← afterWord? "import" rest
  if atWordEnd rest then some name else none

/-- What follows an alias `as A`, blanks before it included. -/
def afterAlias? (chars : List Char) : Option (List Char) := do
  let rest ← afterBlanks? chars
  let rest ← afterWord? "as" rest
  let rest ← afterBlanks? rest
  let (_, rest) ← run? isWord rest
  some rest

/-- Whether only a comment is left of a line. -/
def onlyComment : List Char → Bool
  | [] => true
  | '#' :: rest =>
    match rest.dropWhile (· != '\n') with
    | [] => true
    | _ :: later => later.isEmpty
  | _ => false

/-- The modules of a list `M, N as n`, read with at most `limit` items. -/
def moduleList? : (limit : Nat) → List Char → Option (List (List Char))
  | 0, _ => none
  | limit + 1, chars => do
    let (name, rest) ← run? isNameChar chars
    let rest := ((afterAlias? rest).getD rest).dropWhile isBlank
    match rest with
    | ',' :: later => (moduleList? limit (later.dropWhile isBlank)).map (name :: ·)
    | _ => if onlyComment rest then some [name] else none

/-- The modules of a line `import M, N as n`. -/
def listedModules? (line : List Char) : Option (List (List Char)) := do
  let rest ← afterWord? "import" (line.dropWhile isBlank)
  let rest ← afterBlanks? rest
  moduleList? (rest.length + 1) rest

/-- The modules that a line imports, in order. -/
def importedModules (line : List Char) : List String :=
  match fromModule? line with
  | some name => [String.ofList name]
  | none => ((listedModules? line).getD []).map String.ofList

/-- Whether a module belongs to an external package. The text before the first dot decides; the name of
a module beside the source has none and is not external. -/
def isExternal (moduleName : String) : Bool :=
  let topLevel := String.ofList (moduleName.toList.takeWhile (· != '.'))
  topLevel != "" && !standardModules.contains topLevel

end SkillScan.ImportLine
