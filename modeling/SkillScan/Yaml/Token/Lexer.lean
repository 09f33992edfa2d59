import SkillScan.Yaml.Token.Property

/-!
# From a text to tokens

Tokens are found one after another. Three things decide what a character means: the number of brackets
that are open, the columns of the collections that indentation has begun, and whether a key may begin here.
A node that may be a key is kept in mind as a candidate; the colon behind it makes it one, and then the
token that announces the key is put before it. A candidate is given up when its line is over or when it
becomes too long. Where the text cannot be read on, only those tokens count that no candidate for a key
holds back.
-/

namespace SkillScan.Yaml

/-- A node that may turn out to be a key. -/
structure KeyCandidate where
  /-- The number of brackets around the node. -/
  level : Nat
  /-- The number of tokens before the node. -/
  number : Nat
  /-- Whether nothing but a key can stand here. -/
  required : Bool
  index : Nat
  line : Nat
  column : Nat

/-- What has been found of a text and what matters for the rest. -/
structure Lexer where
  cursor : Cursor
  /-- The tokens found, last one first. -/
  tokens : List Token
  /-- The number of tokens found. -/
  count : Nat
  /-- The number of open brackets. -/
  level : Nat
  /-- The columns of the collections begun by indentation, the innermost first. -/
  columns : List Nat
  /-- Whether a key may begin at the cursor. -/
  keyAllowed : Bool
  /-- The candidates for keys, the one in the innermost brackets first. -/
  candidates : List KeyCandidate

namespace Lexer

/-- The most characters of a key that nothing announces. -/
def maxKeyLength : Nat := 1024

/-- The beginning of a text. -/
def start (source : Source) : Lexer :=
  ⟨.start source, [], 0, 0, [], true, []⟩

/-- Whether the cursor stands in brackets. -/
def inBrackets (lexer : Lexer) : Bool :=
  lexer.level != 0

/-- The first column behind that of the innermost collection begun by indentation. -/
def floor (lexer : Lexer) : Nat :=
  match lexer.columns with
  | [] => 0
  | column :: _ => column + 1

/-- Adds a token. -/
def push (lexer : Lexer) (token : Token) : Lexer :=
  { lexer with tokens := token :: lexer.tokens, count := lexer.count + 1 }

/-- Adds a token and moves on. -/
def pushTo (lexer : Lexer) (token : Token) (cursor : Cursor) : Lexer :=
  { lexer.push token with cursor := cursor }

/-- Puts a token at a place among the tokens found. -/
def insert (lexer : Lexer) (number : Nat) (token : Token) : Lexer :=
  { lexer with
    tokens := lexer.tokens.insertIdx (lexer.count - number) token, count := lexer.count + 1 }

/-- Whether a candidate can no longer become a key. -/
def isStale (cursor : Cursor) (candidate : KeyCandidate) : Bool :=
  candidate.line != cursor.line || cursor.index - candidate.index > maxKeyLength

/-- Gives up the candidates that can no longer become keys. -/
def dropStale (lexer : Lexer) : Except Error Lexer :=
  let (stale, fresh) := lexer.candidates.partition (isStale lexer.cursor)
  if stale.any (·.required) then lexer.cursor.malformed "key without a colon"
  else .ok { lexer with candidates := fresh }

/-- Gives up the candidate in the innermost brackets. -/
def dropCandidate (lexer : Lexer) : Except Error Lexer :=
  match lexer.candidates with
  | candidate :: rest =>
    if candidate.level = lexer.level then
      if candidate.required then lexer.cursor.malformed "key without a colon"
      else .ok { lexer with candidates := rest }
    else .ok lexer
  | [] => .ok lexer

/-- Keeps the node at the cursor in mind if it may be a key. -/
def addCandidate (lexer : Lexer) : Except Error Lexer :=
  if lexer.keyAllowed then do
    let lexer ← lexer.dropCandidate
    let required := !lexer.inBrackets && lexer.columns.head? == some lexer.cursor.column
    let candidate : KeyCandidate :=
      ⟨lexer.level, lexer.count, required, lexer.cursor.index, lexer.cursor.line, lexer.cursor.column⟩
    return { lexer with candidates := candidate :: lexer.candidates }
  else .ok lexer

/-- The number of collections that end where something stands at a column. -/
def endedCount (column : Nat) (columns : List Nat) : Nat :=
  (columns.takeWhile (column < ·)).length

/-- Ends some of the collections begun by indentation. -/
def endBlocks (lexer : Lexer) : (count : Nat) → Lexer
  | 0 => lexer
  | count + 1 =>
    endBlocks { lexer.push .blockEnd with columns := lexer.columns.tail } count

/-- Ends the collections that are indented further than the cursor. -/
def endDeeper (lexer : Lexer) : Lexer :=
  if lexer.inBrackets then lexer
  else lexer.endBlocks (endedCount lexer.cursor.column lexer.columns)

/-- Ends all collections begun by indentation. -/
def endAll (lexer : Lexer) : Lexer :=
  if lexer.inBrackets then lexer else lexer.endBlocks lexer.columns.length

/-- Whether a collection begins at a column because it is indented further than those around it. -/
def beginsAt (lexer : Lexer) (column : Nat) : Bool :=
  lexer.floor ≤ column

/-- Begins a collection at the cursor if it is indented further than those around it. -/
def beginBlock (lexer : Lexer) (token : Token) : Lexer :=
  if lexer.beginsAt lexer.cursor.column then
    { lexer.push token with columns := lexer.cursor.column :: lexer.columns }
  else lexer

/-- Passes over spaces, comments and line ends. The first argument bounds the characters ahead. -/
def skipGap : (ahead : List Char) → Lexer → Lexer
  | [], lexer => lexer
  | _ :: ahead, lexer =>
    let place := lexer.cursor.skipSpaces.skipComment
    if place.nextBreak.isSome then
      skipGap ahead
        { lexer with cursor := place.skipBreak, keyAllowed := lexer.keyAllowed || !lexer.inBrackets }
    else { lexer with cursor := place }

/-- Passes over everything up to the next token; a byte order mark may begin the text. -/
def toNext (lexer : Lexer) : Lexer :=
  let cursor := lexer.cursor
  let begun :=
    if cursor.index = 0 && cursor.next == some '\uFEFF' then { lexer with cursor := cursor.advance }
    else lexer
  skipGap begun.cursor.rest begun

/-! ## The tokens -/

/-- Reads a directive. -/
def readDirective (lexer : Lexer) : Except Error Lexer := do
  let lexer ← lexer.endAll.dropCandidate
  let (token, place) ← directiveToken lexer.cursor
  return { lexer.pushTo token place with keyAllowed := false }

/-- Reads the marks of a document's beginning or end. -/
def readSeparator (lexer : Lexer) (token : Token) : Except Error Lexer := do
  let lexer ← lexer.endAll.dropCandidate
  return { lexer.pushTo token (lexer.cursor.advanceBy 3) with keyAllowed := false }

/-- Reads an opening bracket. -/
def readOpening (lexer : Lexer) (token : Token) : Except Error Lexer := do
  let lexer ← lexer.addCandidate
  return { lexer.pushTo token lexer.cursor.advance with
    level := lexer.level + 1, keyAllowed := true }

/-- Reads a closing bracket. -/
def readClosing (lexer : Lexer) (token : Token) : Except Error Lexer := do
  let lexer ← lexer.dropCandidate
  let place := lexer.cursor.advance
  if lexer.inBrackets then
    return { lexer.pushTo token place with level := lexer.level - 1, keyAllowed := false }
  else place.malformed "closing bracket that nothing has opened"

/-- Reads a comma in brackets. -/
def readComma (lexer : Lexer) : Except Error Lexer := do
  let lexer ← lexer.dropCandidate
  return { lexer.pushTo .flowEntry lexer.cursor.advance with keyAllowed := true }

/-- Begins a collection of a kind at the cursor, where one may begin. -/
def readBlockMark (lexer : Lexer) (token : Token) : Except Error Lexer :=
  if lexer.inBrackets then .ok lexer
  else if lexer.keyAllowed then .ok (lexer.beginBlock token)
  else lexer.cursor.malformed "collection that may not begin here"

/-- Reads the dash before an item. -/
def readDash (lexer : Lexer) : Except Error Lexer := do
  let lexer ← lexer.readBlockMark .blockSequenceStart
  let lexer ← lexer.dropCandidate
  return { lexer.pushTo .blockEntry lexer.cursor.advance with keyAllowed := true }

/-- Reads the question mark before a key. -/
def readKeyMark (lexer : Lexer) : Except Error Lexer := do
  let lexer ← lexer.readBlockMark .blockMappingStart
  let lexer ← lexer.dropCandidate
  return { lexer.pushTo .key lexer.cursor.advance with keyAllowed := !lexer.inBrackets }

/-- Announces a key before the candidate that has become one, and its mapping if it is the first one. -/
def announceKey (lexer : Lexer) (candidate : KeyCandidate) : Lexer :=
  let announced := lexer.insert candidate.number .key
  if !lexer.inBrackets && lexer.beginsAt candidate.column then
    { announced.insert candidate.number .blockMappingStart with
      columns := candidate.column :: lexer.columns }
  else announced

/-- Reads the colon before a value that no candidate precedes. -/
def readLoneColon (lexer : Lexer) : Except Error Lexer := do
  let lexer ← lexer.readBlockMark .blockMappingStart
  return { lexer.pushTo .value lexer.cursor.advance with keyAllowed := !lexer.inBrackets }

/-- Reads the colon before a value. -/
def readColon (lexer : Lexer) : Except Error Lexer :=
  match lexer.candidates with
  | candidate :: rest =>
    if candidate.level = lexer.level then
      let announced := { lexer with candidates := rest }.announceKey candidate
      .ok { announced.pushTo .value lexer.cursor.advance with keyAllowed := false }
    else lexer.readLoneColon
  | [] => lexer.readLoneColon

/-- Reads an alias or an anchor. -/
def readAnchor (lexer : Lexer) (token : String → Token) : Except Error Lexer := do
  let lexer ← lexer.addCandidate
  let (name, place) ← anchorName lexer.cursor
  return { lexer.pushTo (token name) place with keyAllowed := false }

/-- Reads a tag. -/
def readTag (lexer : Lexer) : Except Error Lexer := do
  let lexer ← lexer.addCandidate
  let (token, place) ← tagToken lexer.cursor
  return { lexer.pushTo token place with keyAllowed := false }

/-- Reads a block scalar. -/
def readBlockScalar (lexer : Lexer) (folded : Bool) : Except Error Lexer := do
  let lexer ← lexer.dropCandidate
  let (text, place) ← blockScalar folded lexer.floor lexer.cursor
  return { lexer.pushTo (.scalar (String.ofList text) false) place with keyAllowed := true }

/-- Reads a quoted scalar. -/
def readQuoted (lexer : Lexer) (style : QuoteStyle) : Except Error Lexer := do
  let lexer ← lexer.addCandidate
  let (text, place) ← quotedScalar style lexer.cursor
  return { lexer.pushTo (.scalar (String.ofList text) false) place with keyAllowed := false }

/-- Reads a plain scalar. -/
def readPlain (lexer : Lexer) : Except Error Lexer := do
  let lexer ← lexer.addCandidate
  let scalar := plainScalar lexer.inBrackets lexer.floor lexer.cursor
  return { lexer.pushTo (.scalar (String.ofList scalar.text) true) scalar.cursor with
    keyAllowed := scalar.crossesLine }

/-- Whether a character has a meaning of its own at the beginning of a token. -/
def isIndicator (char : Char) : Bool :=
  ['-', '?', ':', ',', '[', ']', '\x7b', '\x7d', '#', '&', '*', '!', '|', '>', '\x27', '\x22', '%', '@',
    '\x60'].contains char

/-- Whether a plain scalar may begin with a character. -/
def beginsPlain (inBrackets : Bool) (char : Char) (second : Option Char) : Bool :=
  (!endsWord (some char) && !isIndicator char) ||
    (!endsWord second && (char == '-' || (!inBrackets && (char == '?' || char == ':'))))

/-- The cursor after the looks ahead that tell what a character means. Three marks at the beginning of a line
may separate documents, and a gap behind a mark makes it more than a part of a scalar. -/
def lookBehindMark (lexer : Lexer) (char : Char) : Cursor :=
  let cursor :=
    if lexer.cursor.column = 0 && (char == '-' || char == '.') then lexer.cursor.lookForSeparator
    else lexer.cursor
  if char == '-' || (!lexer.inBrackets && (char == '?' || char == ':')) then cursor.lookAhead 1
  else cursor

/-- Reads the token that begins with a character, where the cursor stands. -/
def readToken (lexer : Lexer) (char : Char) : Except Error Lexer :=
  let atLineStart := lexer.cursor.column == 0
  let markEnds := lexer.inBrackets || endsWord lexer.cursor.second
  if char == '%' && atLineStart then lexer.readDirective
  else if atLineStart && lexer.cursor.atMarks '-' then lexer.readSeparator .documentStart
  else if atLineStart && lexer.cursor.atMarks '.' then lexer.readSeparator .documentEnd
  else if char == '[' then lexer.readOpening .flowSequenceStart
  else if char == '\x7b' then lexer.readOpening .flowMappingStart
  else if char == ']' then lexer.readClosing .flowSequenceEnd
  else if char == '\x7d' then lexer.readClosing .flowMappingEnd
  else if char == ',' then lexer.readComma
  else if char == '-' && endsWord lexer.cursor.second then lexer.readDash
  else if char == '?' && markEnds then lexer.readKeyMark
  else if char == ':' && markEnds then lexer.readColon
  else if char == '*' then lexer.readAnchor .alias
  else if char == '&' then lexer.readAnchor .anchor
  else if char == '!' then lexer.readTag
  else if char == '|' && !lexer.inBrackets then lexer.readBlockScalar false
  else if char == '>' && !lexer.inBrackets then lexer.readBlockScalar true
  else if char == '\x27' then lexer.readQuoted .single
  else if char == '\x22' then lexer.readQuoted .double
  else if beginsPlain lexer.inBrackets char lexer.cursor.second then lexer.readPlain
  else (lexer.cursor.lookAhead 1).malformed "character that no token begins with"

/-! ## The whole text -/

/-- The lexer, unless an obstacle has been met on the way to its place. -/
def unobstructed (lexer : Lexer) : Except Error Lexer :=
  match lexer.cursor.metObstacle? with
  | some obstacle => .error obstacle.error
  | none => .ok lexer

/-- Ends the text. -/
def finish (lexer : Lexer) : Except Error Lexer := do
  let lexer ← lexer.endAll.dropCandidate
  return lexer.push .textEnd

/-- Reads the next token, and says whether it is the end of the text. -/
def step (lexer : Lexer) : Except Error (Lexer × Bool) := do
  let lexer ← lexer.toNext.unobstructed
  let lexer := (← lexer.dropStale).endDeeper
  match lexer.cursor.next with
  | none => return (← lexer.finish, true)
  | some char =>
    let read ← { lexer with cursor := lexer.lookBehindMark char }.readToken char
    return (← (← read.unobstructed).dropStale, false)

/-- The tokens, last one first, that a candidate for a key does not hold back. If it becomes a key, a token
is put before its own. -/
def settledTokens (lexer : Lexer) : List Token :=
  let settled := lexer.candidates.foldl (fun number candidate => min number candidate.number) lexer.count
  lexer.tokens.drop (lexer.count - settled)

/-- Reads all tokens, last one first. What cannot be read is marked by a last token that says why. -/
def run : (steps : Nat) → Lexer → List Token
  | 0, lexer => lexer.tokens
  | steps + 1, lexer =>
    match lexer.step with
    | .error error => .broken error :: lexer.settledTokens
    | .ok (read, true) => read.tokens
    | .ok (read, false) => run steps read

end Lexer

/-- The tokens of a text. -/
def Token.ofSource (source : Source) : List Token :=
  (Lexer.run (source.text.length + 2) (.start source)).reverse

end SkillScan.Yaml
