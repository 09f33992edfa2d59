import SkillScan.Yaml.Node
import SkillScan.Yaml.Token

/-!
# From tokens to nodes

The tokens of a document are read by descending into its collections. Where a node is left out, an absent
scalar stands in its place. Every anchor names one node only, and an alias must stand behind the beginning
of the node that it names. A text holds one document at most.
-/

namespace SkillScan.Yaml

/-- The tokens that remain and the anchors that have been passed. -/
structure TokenReader where
  tokens : List Token
  anchors : List String

namespace TokenReader

/-- The next token. -/
def next (reader : TokenReader) : Token :=
  reader.tokens.headD .textEnd

/-- The reader behind the next token. -/
def drop (reader : TokenReader) : TokenReader :=
  { reader with tokens := reader.tokens.tail }

/-- The reader, unless the text cannot be read on here. -/
def readable (reader : TokenReader) : Except Error TokenReader :=
  match reader.next with
  | .broken error => .error error
  | _ => .ok reader

/-- The error of a next token that does not belong here. -/
def unexpected {α : Type} (reader : TokenReader) (reason : String) : Except Error α := do
  let _ ← reader.readable
  .error (.malformed reason)

/-- Passes an anchor, whose name must be new. -/
def passAnchor (reader : TokenReader) (anchor : Option String) : Except Error TokenReader :=
  match anchor with
  | none => .ok reader
  | some name =>
    if reader.anchors.contains name then .error (.malformed "anchor used twice")
    else .ok { reader with anchors := name :: reader.anchors }

end TokenReader

/-- The handles of tags and their meanings. -/
abbrev Handles := List (String × String)

/-- The handles that need no directive. -/
def standardHandles : Handles := [("!", "!"), ("!!", Tag.namespaceText)]

/-- The anchor and the tag that stand before a node. -/
structure Properties where
  anchor : Option String
  /-- The text of the tag. -/
  tag : Option String

namespace Properties

/-- Whether the form of the node decides about its tag. -/
def leavesTagOpen (properties : Properties) : Bool :=
  properties.tag.all (· == "!")

/-- The tag of a scalar. Only a plain one without a tag, and one with the tag that leaves the choice open,
get their tag from their form. -/
def scalarTag (properties : Properties) (text : String) (plain : Bool) : Tag :=
  match properties.tag with
  | none => if plain then .ofForm text else .str
  | some "!" => .ofForm text
  | some tag => .ofText tag

/-- The tag of a collection. -/
def collectionTag (properties : Properties) (usual : Tag) : Tag :=
  if properties.leavesTagOpen then usual else .ofText (properties.tag.getD "")

end Properties

/-- The text of a tag whose handle must be known. -/
def tagText? (handles : Handles) (handle : Option String) (suffix : String) : Except Error String :=
  match handle with
  | none => .ok suffix
  | some name =>
    match handles.lookup name with
    | some meaning => .ok (meaning ++ suffix)
    | none => .error (.malformed "unknown handle of a tag")

/-- Reads the anchor and the tag of a node, which come in either order. The tag's handle is not looked up
before what follows the properties is known. -/
def readProperties (handles : Handles) (reader : TokenReader) :
    Except Error (Properties × TokenReader) := do
  match reader.tokens with
  | .anchor name :: .tag handle suffix :: rest | .tag handle suffix :: .anchor name :: rest =>
    return (⟨some name, some (← tagText? handles handle suffix)⟩, { reader with tokens := rest })
  | .anchor name :: rest => return (⟨some name, none⟩, { reader with tokens := rest })
  | .tag handle suffix :: rest =>
    let reader ← { reader with tokens := rest }.readable
    return (⟨none, some (← tagText? handles handle suffix)⟩, reader)
  | _ => return (⟨none, none⟩, reader)

/-- The places where a node may stand. They differ in the collections that may begin there. -/
inductive NodePlace where
  /-- In brackets. -/
  | inBrackets
  /-- In a collection begun by indentation. -/
  | indented
  /-- As a key or value, where a sequence need not be indented. -/
  | besideKey
  deriving DecidableEq

/-- What has been read, and the reader behind it. -/
abbrev Reading (α : Type) := α × TokenReader

/-- The error of a text whose collections cannot be followed to their end. -/
def tooDeep {α : Type} : Except Error α :=
  .error (.malformed "collections within one another without end")

mutual

/-- Reads a node. The first argument bounds the number of tokens ahead. -/
def readNode (handles : Handles) : (steps : Nat) → NodePlace → TokenReader → Except Error (Reading Node)
  | 0, _, _ => tooDeep
  | steps + 1, place, reader =>
    match reader.next with
    | .alias name =>
      if reader.anchors.contains name then .ok (.alias name, reader.drop)
      else .error (.malformed "alias of an unknown node")
    | _ => do
      let (properties, reader) ← readProperties handles reader
      let reader ← reader.readable
      match reader.next, place with
      | .scalar text plain, _ => do
        let reader ← reader.passAnchor properties.anchor
        return (.scalar properties.anchor (properties.scalarTag text plain) text, reader.drop)
      | .flowSequenceStart, _ => do
        let reader ← reader.passAnchor properties.anchor
        let (items, reader) ← readBracketItems handles steps true reader.drop []
        return (.sequence properties.anchor (properties.collectionTag .seq) items, reader)
      | .flowMappingStart, _ => do
        let reader ← reader.passAnchor properties.anchor
        let (entries, reader) ← readBracketEntries handles steps true reader.drop []
        return (.mapping properties.anchor (properties.collectionTag .map) entries, reader)
      | .blockEntry, .besideKey => do
        let reader ← reader.passAnchor properties.anchor
        let (items, reader) ← readDashes handles steps reader []
        return (.sequence properties.anchor (properties.collectionTag .seq) items, reader)
      | .blockSequenceStart, .indented | .blockSequenceStart, .besideKey => do
        let reader ← reader.passAnchor properties.anchor
        let (items, reader) ← readBlockItems handles steps reader.drop []
        return (.sequence properties.anchor (properties.collectionTag .seq) items, reader)
      | .blockMappingStart, .indented | .blockMappingStart, .besideKey => do
        let reader ← reader.passAnchor properties.anchor
        let (entries, reader) ← readBlockEntries handles steps reader.drop []
        return (.mapping properties.anchor (properties.collectionTag .map) entries, reader)
      | _, _ =>
        if properties.anchor.isSome || properties.tag.isSome then do
          let reader ← reader.passAnchor properties.anchor
          let tag := properties.scalarTag "" true
          return (.scalar properties.anchor tag "", reader)
        else reader.unexpected "a node is missing"

/-- Reads the items of an indented sequence; those so far are given last one first. -/
def readBlockItems (handles : Handles) :
    (steps : Nat) → TokenReader → (items : List Node) → Except Error (Reading (List Node))
  | 0, _, _ => tooDeep
  | steps + 1, reader, items =>
    match reader.next with
    | .blockEntry =>
      match reader.drop.next with
      | .blockEntry | .blockEnd => readBlockItems handles steps reader.drop (.absent :: items)
      | _ => do
        let (item, reader) ← readNode handles steps .indented reader.drop
        readBlockItems handles steps reader (item :: items)
    | .blockEnd => .ok (items.reverse, reader.drop)
    | _ => reader.unexpected "a sequence does not end here"

/-- Reads the items of a sequence that is not indented; those so far are given last one first. -/
def readDashes (handles : Handles) :
    (steps : Nat) → TokenReader → (items : List Node) → Except Error (Reading (List Node))
  | 0, _, _ => tooDeep
  | steps + 1, reader, items =>
    match reader.next with
    | .blockEntry =>
      match reader.drop.next with
      | .blockEntry | .key | .value | .blockEnd =>
        readDashes handles steps reader.drop (.absent :: items)
      | _ => do
        let (item, reader) ← readNode handles steps .indented reader.drop
        readDashes handles steps reader (item :: items)
    | _ => .ok (items.reverse, reader)

/-- Reads the entries of an indented mapping; those so far are given last one first. -/
def readBlockEntries (handles : Handles) :
    (steps : Nat) → TokenReader → (entries : List (Node × Node)) → Except Error (Reading (List (Node × Node)))
  | 0, _, _ => tooDeep
  | steps + 1, reader, entries =>
    match reader.next with
    | .key => do
      let (key, reader) ← readBesideKey handles steps reader.drop
      let (value, reader) ← readBlockValue handles steps reader
      readBlockEntries handles steps reader ((key, value) :: entries)
    | .blockEnd => .ok (entries.reverse, reader.drop)
    | _ => reader.unexpected "a mapping does not end here"

/-- Reads a key or value of an indented mapping, which may be left out. -/
def readBesideKey (handles : Handles) : (steps : Nat) → TokenReader → Except Error (Reading Node)
  | 0, _ => tooDeep
  | steps + 1, reader =>
    match reader.next with
    | .key | .value | .blockEnd => .ok (.absent, reader)
    | _ => readNode handles steps .besideKey reader

/-- Reads the value of an indented mapping's key. -/
def readBlockValue (handles : Handles) : (steps : Nat) → TokenReader → Except Error (Reading Node)
  | 0, _ => tooDeep
  | steps + 1, reader =>
    match reader.next with
    | .value => readBesideKey handles steps reader.drop
    | _ => .ok (.absent, reader)

/-- Reads the items of a sequence in brackets; those so far are given last one first. -/
def readBracketItems (handles : Handles) :
    (steps : Nat) → (isFirst : Bool) → TokenReader → (items : List Node) → Except Error (Reading (List Node))
  | 0, _, _, _ => tooDeep
  | steps + 1, isFirst, reader, items =>
    match isFirst, reader.next with
    | _, .flowSequenceEnd => .ok (items.reverse, reader.drop)
    | true, _ => readBracketItem handles steps reader items
    | false, .flowEntry =>
      match reader.drop.next with
      | .flowSequenceEnd => .ok (items.reverse, reader.drop.drop)
      | _ => readBracketItem handles steps reader.drop items
    | false, _ => reader.unexpected "a comma or a closing bracket is missing"

/-- Reads one item of a sequence in brackets and those behind it. A key makes the item a mapping with one
entry. -/
def readBracketItem (handles : Handles) :
    (steps : Nat) → TokenReader → (items : List Node) → Except Error (Reading (List Node))
  | 0, _, _ => tooDeep
  | steps + 1, reader, items =>
    match reader.next with
    | .key => do
      let (key, reader) ← readInBrackets handles steps reader.drop
      let (value, reader) ← readBracketValue handles steps reader
      readBracketItems handles steps false reader (.mapping none .map [(key, value)] :: items)
    | _ => do
      let (item, reader) ← readNode handles steps .inBrackets reader
      readBracketItems handles steps false reader (item :: items)

/-- Reads the entries of a mapping in brackets; those so far are given last one first. -/
def readBracketEntries (handles : Handles) :
    (steps : Nat) → (isFirst : Bool) → TokenReader → (entries : List (Node × Node)) →
      Except Error (Reading (List (Node × Node)))
  | 0, _, _, _ => tooDeep
  | steps + 1, isFirst, reader, entries =>
    match isFirst, reader.next with
    | _, .flowMappingEnd => .ok (entries.reverse, reader.drop)
    | true, _ => readBracketEntry handles steps reader entries
    | false, .flowEntry =>
      match reader.drop.next with
      | .flowMappingEnd => .ok (entries.reverse, reader.drop.drop)
      | _ => readBracketEntry handles steps reader.drop entries
    | false, _ => reader.unexpected "a comma or a closing bracket is missing"

/-- Reads one entry of a mapping in brackets and those behind it. Without a key, the value is absent. -/
def readBracketEntry (handles : Handles) :
    (steps : Nat) → TokenReader → (entries : List (Node × Node)) → Except Error (Reading (List (Node × Node)))
  | 0, _, _ => tooDeep
  | steps + 1, reader, entries =>
    match reader.next with
    | .key => do
      let (key, reader) ← readInBrackets handles steps reader.drop
      let (value, reader) ← readBracketValue handles steps reader
      readBracketEntries handles steps false reader ((key, value) :: entries)
    | _ => do
      let (key, reader) ← readNode handles steps .inBrackets reader
      readBracketEntries handles steps false reader ((key, .absent) :: entries)

/-- Reads a key or value in brackets, which may be left out. -/
def readInBrackets (handles : Handles) : (steps : Nat) → TokenReader → Except Error (Reading Node)
  | 0, _ => tooDeep
  | steps + 1, reader =>
    match reader.next with
    | .value | .flowEntry | .flowSequenceEnd | .flowMappingEnd => .ok (.absent, reader)
    | _ => readNode handles steps .inBrackets reader

/-- Reads the value of a key in brackets. -/
def readBracketValue (handles : Handles) : (steps : Nat) → TokenReader → Except Error (Reading Node)
  | 0, _ => tooDeep
  | steps + 1, reader =>
    match reader.next with
    | .value => readInBrackets handles steps reader.drop
    | _ => .ok (.absent, reader)

end

/-! ## Documents -/

/-- What the directives before a document have said so far. -/
structure Prologue where
  hasVersion : Bool
  handles : Handles

/-- Takes a directive into account. -/
def Prologue.take (prologue : Prologue) : Directive → Except Error Prologue
  | .version major _ =>
    if prologue.hasVersion then .error (.malformed "version given twice")
    else if major ≠ 1 then .error (.malformed "version that is not known")
    else .ok { prologue with hasVersion := true }
  | .handle name meaning =>
    if (prologue.handles.lookup name).isSome then .error (.malformed "handle given twice")
    else .ok { prologue with handles := (name, meaning) :: prologue.handles }
  | .unknown => .ok prologue

/-- Reads the directives before a document. -/
def readPrologue : List Token → Prologue → Except Error (Prologue × List Token)
  | .directive directive :: rest, prologue => do
    readPrologue rest (← prologue.take directive)
  | tokens, prologue => .ok (prologue, tokens)

/-- Whether nothing of a document comes next. -/
def isDocumentOver (reader : TokenReader) : Bool :=
  match reader.next with
  | .directive _ | .documentStart | .documentEnd | .textEnd => true
  | _ => false

/-- A bound on the number of steps that reading tokens takes. -/
def stepsFor (tokens : List Token) : Nat :=
  4 * tokens.length + 4

/-- Reads the content of a document that has been announced. -/
def readContent (handles : Handles) (tokens : List Token) : Except Error (Reading Node) :=
  let reader : TokenReader := ⟨tokens, []⟩
  if isDocumentOver reader then .ok (.absent, reader)
  else readNode handles (stepsFor tokens) .indented reader

/-- Reads a document, if there is one. -/
def readDocument (tokens : List Token) : Except Error (Option Node × TokenReader) :=
  match tokens.headD .textEnd with
  | .textEnd => .ok (none, ⟨tokens, []⟩)
  | .directive _ | .documentStart => do
    let (prologue, rest) ← readPrologue tokens ⟨false, []⟩
    match rest with
    | .documentStart :: rest => do
      let (node, reader) ← readContent (prologue.handles ++ standardHandles) rest
      return (some node, reader)
    | _ => TokenReader.unexpected ⟨rest, []⟩ "directives without a document"
  | _ => do
    let (node, reader) ← readNode standardHandles (stepsFor tokens) .indented ⟨tokens, []⟩
    return (some node, reader)

/-- Whether a token may stand behind a document without beginning another one. -/
def isTrailing : Token → Bool
  | .documentEnd => true
  | _ => false

/-- The error of a text that goes on behind its document, with the directives before what follows. -/
def goesOn {α : Type} (tokens : List Token) : Except Error α := do
  let (_, rest) ← readPrologue tokens ⟨false, []⟩
  TokenReader.unexpected ⟨rest, []⟩ "more than one document"

/-- The tree of the only document of a text, or nothing where there is none. -/
def Node.ofTokens (tokens : List Token) : Except Error (Option Node) := do
  let (node, reader) ← readDocument tokens
  let rest := reader.tokens.dropWhile isTrailing
  match rest with
  | [] | .textEnd :: _ => return node
  | rest => goesOn rest

end SkillScan.Yaml
