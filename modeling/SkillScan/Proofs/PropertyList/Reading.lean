import SkillScan.Proofs.Text.Numeral
import SkillScan.PropertyList
import SkillScan.Text.Utf8

/-!
# Reading property lists

A document is read one character at a time. The reader keeps the elements that are open, the innermost first, with
what they hold so far, and the text since the last tag. A text, a key or an integer is taken from that text once its
element is closed, with the line ends unified and the entities undone. Between other elements text is passed over.
A document is read only if all of its characters are such that may stand in one.

An escaped text is read as the text that it has been made from, a written integer as the integer, a tag as a whole,
and a line with an element in it as the element.
-/

namespace SkillScan.PropertyList

/-- The text that stands in an element, with its entities undone. -/
def unescape? : List Char → Option (List Char)
  | [] => some []
  | '&' :: 'a' :: 'm' :: 'p' :: ';' :: rest => (unescape? rest).map ('&' :: ·)
  | '&' :: 'l' :: 't' :: ';' :: rest => (unescape? rest).map ('<' :: ·)
  | '&' :: 'g' :: 't' :: ';' :: rest => (unescape? rest).map ('>' :: ·)
  | '&' :: 'q' :: 'u' :: 'o' :: 't' :: ';' :: rest => (unescape? rest).map ('\x22' :: ·)
  | '&' :: 'a' :: 'p' :: 'o' :: 's' :: ';' :: rest => (unescape? rest).map ('\x27' :: ·)
  | char :: rest => if char = '&' then none else (unescape? rest).map (char :: ·)

/-- An element that is open, with what it holds so far. -/
inductive OpenElement where
  /-- The document as a whole. -/
  | root (value : Option PropertyList)
  | plist (value : Option PropertyList)
  | array (items : List PropertyList)
  | dictionary (fields : List (String × PropertyList)) (key : Option String)
  /-- An element that holds nothing but text. -/
  | leaf (tag : String)

/-- The open elements with one more value in the innermost. -/
def put? (value : PropertyList) : List OpenElement → Option (List OpenElement)
  | .plist none :: outer => some (.plist (some value) :: outer)
  | .array items :: outer => some (.array (items ++ [value]) :: outer)
  | .dictionary fields (some key) :: outer => some (.dictionary (fields ++ [(key, value)]) none :: outer)
  | _ => none

/-- The open elements with a key for the next value of the innermost. -/
def putKey? (key : String) : List OpenElement → Option (List OpenElement)
  | .dictionary fields none :: outer => some (.dictionary fields (some key) :: outer)
  | _ => none

/-- The open elements with one more inside. -/
def begin? (tag : String) (elements : List OpenElement) : Option (List OpenElement) :=
  match tag, elements with
  | "plist", [.root none] => some [.plist none, .root none]
  | "array", _ => some (.array [] :: elements)
  | "dict", _ => some (.dictionary [] none :: elements)
  | "key", _ | "string", _ | "integer", _ => some (.leaf tag :: elements)
  | _, _ => none

/-- The open elements once the innermost is closed, from the text since the last tag. -/
def close? (tag : String) (text : List Char) : List OpenElement → Option (List OpenElement)
  | .leaf opened :: outer => do
    let chars ← unescape? (Text.unifyNewlines text)
    match opened, decide (opened = tag) with
    | "key", true => putKey? (String.ofList chars) outer
    | "string", true => put? (.text (String.ofList chars)) outer
    | "integer", true => put? (.integer (← Text.integer? chars)) outer
    | _, _ => none
  | .array items :: outer => if tag = "array" then put? (.array items) outer else none
  | .dictionary fields none :: outer => if tag = "dict" then put? (.dictionary fields) outer else none
  | [.plist (some value), .root none] => if tag = "plist" then some [.root (some value)] else none
  | _ => none

/-- The open elements after a tag, from the text before it. Behind the name of a tag everything else in it is
passed over. -/
def follow? (tag text : List Char) (elements : List OpenElement) : Option (List OpenElement) :=
  match tag, elements with
  | '?' :: _, [.root none] | '!' :: _, [.root none] => some elements
  | '/' :: name, _ => close? (String.ofList name) text elements
  | _, _ =>
    let name := String.ofList (tag.takeWhile fun char => char != '/' && !char.isWhitespace)
    if tag.getLast? = some '/' then (begin? name elements).bind (close? name []) else begin? name elements

/-- What has been read of a document. -/
structure Reader where
  elements : List OpenElement
  /-- The text since the last tag. -/
  text : List Char
  /-- The beginning of a tag, without its bracket. -/
  tag : Option (List Char)

/-- Reads one more character. -/
def Reader.next (reader : Reader) (char : Char) : Option Reader :=
  match reader.tag with
  | none =>
    some (if char = '<' then { reader with tag := some [] } else { reader with text := reader.text ++ [char] })
  | some tag =>
    if char = '>' then (follow? tag reader.text reader.elements).map (⟨·, [], none⟩)
    else some { reader with tag := some (tag ++ [char]) }

/-- Reads more characters. -/
def Reader.run (reader : Reader) (chars : List Char) : Option Reader :=
  chars.foldlM Reader.next reader

/-- Whether a character may stand in a document. XML leaves out the control characters except for tabs and line
ends, the halves of surrogate pairs and the last two numbers of the first plane. -/
def mayStand (char : Char) : Bool :=
  let code := char.toNat
  code == 0x9 || code == 0xA || code == 0xD || (0x20 ≤ code && code ≤ 0xD7FF) ||
    (0xE000 ≤ code && code ≤ 0xFFFD) || (0x10000 ≤ code && code ≤ 0x10FFFF)

/-- Reads a document. -/
def read? (bytes : List UInt8) : Option PropertyList :=
  match Text.decodeStrict bytes with
  | .error _ => none
  | .ok chars =>
    if chars.all mayStand then
      match Reader.run ⟨[.root none], [], none⟩ chars with
      | some ⟨[.root (some value)], _, none⟩ => some value
      | _ => none
    else none

/-! ## Texts and integers -/

section Texts

theorem unescape?_cons {char : Char} (noEntity : char ≠ '&') (rest : List Char) :
    unescape? (char :: rest) = (unescape? rest).map (char :: ·) := by
  rw [unescape?, if_neg noEntity] <;> simp_all

theorem unescape?_of_noEntity {chars : List Char} (noEntity : '&' ∉ chars) : unescape? chars = some chars := by
  induction chars with
  | nil => rfl
  | cons char chars ih =>
      simp only [List.mem_cons, not_or] at noEntity
      rw [unescape?_cons (Ne.symm noEntity.1), ih noEntity.2, Option.map_some]

theorem unescape?_flatMap (chars : List Char) : unescape? (chars.flatMap escapedChar) = some chars := by
  induction chars with
  | nil => rfl
  | cons char chars ih =>
      rw [List.flatMap_cons]
      by_cases ampersand : char = '&'
      · subst ampersand
        exact congrArg (Option.map _) ih
      by_cases less : char = '<'
      · subst less
        exact congrArg (Option.map _) ih
      by_cases greater : char = '>'
      · subst greater
        exact congrArg (Option.map _) ih
      have plain : escapedChar char = [char] := by simp [escapedChar, ampersand, less, greater]
      rw [plain, List.singleton_append, unescape?_cons ampersand, ih, Option.map_some]

theorem mem_escapedChar {char other : Char} (member : other ∈ escapedChar char) :
    other ≠ '<' ∧ (other = '\r' → char = '\r') := by
  have entities : ∀ entity ∈ ["&amp;", "&lt;", "&gt;"], '<' ∉ entity.toList ∧ '\r' ∉ entity.toList := by
    decide
  have inEntity {entity : String} (isEntity : entity ∈ ["&amp;", "&lt;", "&gt;"])
      (inText : other ∈ entity.toList) : other ≠ '<' ∧ (other = '\r' → char = '\r') := by
    rcases entities entity isEntity with ⟨noBracket, noReturn⟩
    refine ⟨ne_of_mem_of_not_mem inText noBracket, ?_⟩
    intro isReturn
    exact absurd isReturn (ne_of_mem_of_not_mem inText noReturn)
  simp only [escapedChar] at member
  split at member
  · exact inEntity (by simp) member
  · split at member
    · exact inEntity (by simp) member
    · split at member
      · exact inEntity (by simp) member
      · simp_all

end Texts

/-- The characters of lines, each with its line end. -/
def charsOf (lines : List String) : List Char :=
  lines.flatMap fun line => line.toList ++ ['\n']

section Runs

variable {elements : List OpenElement} {text tag chars : List Char}

theorem run_cons (reader : Reader) (char : Char) (rest : List Char) :
    reader.run (char :: rest) = (reader.next char).bind (·.run rest) := by
  exact List.foldlM_cons

theorem run_append (reader : Reader) (first second : List Char) :
    reader.run (first ++ second) = (reader.run first).bind (·.run second) := by
  exact List.foldlM_append

theorem run_text (noBracket : '<' ∉ chars) (rest : List Char) :
    Reader.run ⟨elements, text, none⟩ (chars ++ rest) = Reader.run ⟨elements, text ++ chars, none⟩ rest := by
  induction chars generalizing text with
  | nil => simp
  | cons char chars ih =>
      simp only [List.mem_cons, not_or] at noBracket
      have one : Reader.next ⟨elements, text, none⟩ char = some ⟨elements, text ++ [char], none⟩ := by
        simp [Reader.next, Ne.symm noBracket.1]
      rw [List.cons_append, run_cons, one, Option.bind_some, ih noBracket.2, List.append_assoc,
        List.singleton_append]

theorem run_inTag (noEnd : '>' ∉ chars) (rest : List Char) :
    Reader.run ⟨elements, text, some tag⟩ (chars ++ rest) =
      Reader.run ⟨elements, text, some (tag ++ chars)⟩ rest := by
  induction chars generalizing tag with
  | nil => simp
  | cons char chars ih =>
      simp only [List.mem_cons, not_or] at noEnd
      have one :
          Reader.next ⟨elements, text, some tag⟩ char = some ⟨elements, text, some (tag ++ [char])⟩ := by
        simp [Reader.next, Ne.symm noEnd.1]
      rw [List.cons_append, run_cons, one, Option.bind_some, ih noEnd.2, List.append_assoc,
        List.singleton_append]

/-- A tag is followed as a whole. -/
theorem run_tag (noEnd : '>' ∉ tag) (rest : List Char) :
    Reader.run ⟨elements, text, none⟩ ('<' :: (tag ++ '>' :: rest)) =
      (follow? tag text elements).bind fun next => Reader.run ⟨next, [], none⟩ rest := by
  have opened : Reader.run ⟨elements, text, none⟩ ('<' :: (tag ++ '>' :: rest)) =
      Reader.run ⟨elements, text, some []⟩ (tag ++ '>' :: rest) := rfl
  have closed :
      Reader.next ⟨elements, text, some tag⟩ '>' = (follow? tag text elements).map (⟨·, [], none⟩) := by
    simp [Reader.next]
  rw [opened, run_inTag noEnd, List.nil_append, run_cons, closed]
  cases follow? tag text elements <;> rfl

end Runs

/-! ## Tags and lines -/

/-- A name that a tag may have. -/
def IsTagName (name : String) : Prop :=
  name ≠ "" ∧ name.toList.all Char.isAlpha = true

instance (name : String) : Decidable (IsTagName name) :=
  inferInstanceAs (Decidable (name ≠ "" ∧ name.toList.all Char.isAlpha = true))

section Tags

variable {elements begun now : List OpenElement} {name : String} {text chars : List Char} {level : Nat}

theorem IsTagName.isAlpha (isName : IsTagName name) {char : Char} (member : char ∈ name.toList) :
    char.isAlpha = true :=
  List.all_eq_true.mp isName.2 char member

theorem IsTagName.not_mem (isName : IsTagName name) {char : Char} (noLetter : char.isAlpha = false) :
    char ∉ name.toList := by
  intro member
  rw [isName.isAlpha member] at noLetter
  contradiction

theorem IsTagName.takeWhile (isName : IsTagName name) {rest : List Char} (ends : rest = [] ∨ rest = ['/']) :
    (name.toList ++ rest).takeWhile (fun char => char != '/' && !char.isWhitespace) = name.toList := by
  have inName : ∀ char ∈ name.toList, (char != '/' && !char.isWhitespace) = true := by
    intro char member
    have different {other : Char} (noLetter : other.isAlpha = false) : char ≠ other := by
      rintro rfl
      exact isName.not_mem noLetter member
    have noSlash := different (show '/'.isAlpha = false by decide)
    have noSpace := different (show ' '.isAlpha = false by decide)
    have noTab := different (show '\t'.isAlpha = false by decide)
    have noReturn := different (show '\r'.isAlpha = false by decide)
    have noNewline := different (show '\n'.isAlpha = false by decide)
    simp [Char.isWhitespace, noSlash, noSpace, noTab, noReturn, noNewline]
  rw [List.takeWhile_append_of_pos inName]
  rcases ends with rfl | rfl
  · simp
  · simp

/-- A tag that begins with the name of an element begins the element. -/
theorem follow?_name (isName : IsTagName name) {rest : List Char} (ends : rest = [] ∨ rest = ['/']) :
    follow? (name.toList ++ rest) text elements =
      if rest = [] then begin? name elements else (begin? name elements).bind (close? name []) := by
  have first {other : Char} {more : List Char} (begins : name.toList ++ rest = other :: more) :
      other.isAlpha = true := by
    cases inName : name.toList with
    | nil => exact absurd (String.toList_eq_nil_iff.mp inName) isName.1
    | cons char chars =>
        rw [inName] at begins
        cases begins
        exact isName.isAlpha (by simp [inName])
  simp only [follow?]
  split
  · next begins => exact absurd (first begins) (by decide)
  · next begins => exact absurd (first begins) (by decide)
  · next begins => exact absurd (first begins) (by decide)
  · rw [isName.takeWhile ends, String.ofList_toList]
    rcases ends with rfl | rfl
    · have noSlash : name.toList.getLast? ≠ some '/' := by
        intro last
        exact isName.not_mem (by decide) (List.mem_of_getLast? last)
      simp [noSlash]
    · simp

theorem follow?_slash (name : String) :
    follow? ('/' :: name.toList) text elements = close? name text elements := by
  simp [follow?]

theorem run_begin (isName : IsTagName name) (rest : List Char) :
    Reader.run ⟨elements, text, none⟩ (("<" ++ name ++ ">").toList ++ rest) =
      (begin? name elements).bind fun next => Reader.run ⟨next, [], none⟩ rest := by
  have followed : follow? (name.toList ++ []) text elements = _ := follow?_name isName (Or.inl rfl)
  rw [List.append_nil, if_pos rfl] at followed
  rw [← followed, ← run_tag (isName.not_mem (by decide))]
  simp

theorem run_end (isName : IsTagName name) (rest : List Char) :
    Reader.run ⟨elements, text, none⟩ (("</" ++ name ++ ">").toList ++ rest) =
      (close? name text elements).bind fun next => Reader.run ⟨next, [], none⟩ rest := by
  have noEnd : '>' ∉ '/' :: name.toList := by
    simp [isName.not_mem (show '>'.isAlpha = false by decide)]
  rw [← follow?_slash, ← run_tag noEnd]
  simp

theorem run_empty (isName : IsTagName name) (rest : List Char) :
    Reader.run ⟨elements, text, none⟩ (("<" ++ name ++ "/>").toList ++ rest) =
      ((begin? name elements).bind (close? name [])).bind fun next => Reader.run ⟨next, [], none⟩ rest := by
  have followed : follow? (name.toList ++ ['/']) text elements = _ := follow?_name isName (Or.inr rfl)
  rw [if_neg (by simp)] at followed
  have noEnd : '>' ∉ name.toList ++ ['/'] := by
    simp [isName.not_mem (show '>'.isAlpha = false by decide)]
  rw [← followed, ← run_tag noEnd]
  simp

theorem charsOf_cons (line : String) (rest : List String) :
    charsOf (line :: rest) = charsOf [line] ++ charsOf rest := by
  simp [charsOf]

theorem charsOf_append (first second : List String) :
    charsOf (first ++ second) = charsOf first ++ charsOf second :=
  List.flatMap_append

theorem run_lineAt (level : Nat) (content : String) (rest : List Char) :
    Reader.run ⟨elements, text, none⟩ ((lineAt level content).toList ++ rest) =
      Reader.run ⟨elements, text ++ List.replicate level '\t', none⟩ (content.toList ++ rest) := by
  rw [lineAt, String.toList_append, String.toList_ofList, List.append_assoc, run_text]
  intro member
  exact absurd (List.eq_of_mem_replicate member) (by decide)

/-- A line with an element begins the element and closes it with what it holds. -/
theorem run_element (isName : IsTagName name) {content : String} (noBracket : '<' ∉ content.toList) :
    Reader.run ⟨elements, text, none⟩ (charsOf [element level name content]) =
      ((begin? name elements).bind (close? name content.toList)).map (⟨·, ['\n'], none⟩) := by
  have parts : charsOf [element level name content] =
      (lineAt level ("<" ++ name ++ ">" ++ (content ++ ("</" ++ name ++ ">")))).toList ++ ['\n'] := by
    simp only [charsOf, List.flatMap_singleton, element, String.append_assoc]
  rw [parts, run_lineAt, String.toList_append, List.append_assoc, run_begin isName]
  cases begin? name elements with
  | none => rfl
  | some begun =>
      rw [Option.bind_some, String.toList_append, List.append_assoc, run_text noBracket, List.nil_append,
        run_end isName, Option.bind_some]
      cases close? name content.toList begun <;> rfl

/-- A line that holds nothing but a tag. -/
theorem run_tagLine {line : String} (isTag : line.toList = '<' :: (line.toList.tail.dropLast ++ ['>']))
    (noEnd : '>' ∉ line.toList.tail.dropLast)
    (followed : follow? line.toList.tail.dropLast text elements = some now) :
    Reader.run ⟨elements, text, none⟩ (charsOf [line]) = some ⟨now, ['\n'], none⟩ := by
  have parts : charsOf [line] = '<' :: (line.toList.tail.dropLast ++ '>' :: ['\n']) := by
    rw [charsOf, List.flatMap_singleton, isTag]
    simp
  rw [parts, run_tag noEnd, followed]
  rfl

theorem run_opening :
    Reader.run ⟨[.root none], [], none⟩ (charsOf opening) =
      some ⟨[.plist none, .root none], ['\n'], none⟩ := by
  rw [opening, charsOf_cons, run_append, run_tagLine (by decide) (by decide) rfl, Option.bind_some,
    charsOf_cons, run_append, run_tagLine (by decide) (by decide) rfl, Option.bind_some,
    run_tagLine (by decide) (by decide) rfl]

/-- Lines inside an element change what it holds, and then it is closed. -/
theorem run_enclosing (isName : IsTagName name) {inner : List String}
    (begins : begin? name elements = some begun)
    (holds : ∀ before, ∃ later, Reader.run ⟨begun, before, none⟩ (charsOf inner) = some ⟨now, later, none⟩)
    (closes : ∀ text, close? name text now = close? name [] now) :
    Reader.run ⟨elements, text, none⟩ (charsOf (enclosing level name inner)) =
      (close? name [] now).map (⟨·, ['\n'], none⟩) := by
  rw [enclosing]
  split
  · next isEmpty =>
      rw [List.isEmpty_iff.mp isEmpty] at holds
      rcases holds [] with ⟨later, same⟩
      have unchanged : begun = now := by
        cases same
        rfl
      have parts : charsOf [lineAt level ("<" ++ name ++ "/>")] =
          (lineAt level ("<" ++ name ++ "/>")).toList ++ ['\n'] :=
        List.flatMap_singleton _ _
      rw [parts, run_lineAt, run_empty isName, begins, Option.bind_some, unchanged]
      cases close? name [] now <;> rfl
  · have parts : charsOf ([lineAt level ("<" ++ name ++ ">")] ++ inner ++ [lineAt level ("</" ++ name ++ ">")]) =
        (lineAt level ("<" ++ name ++ ">")).toList ++ ('\n' :: (charsOf inner ++
          ((lineAt level ("</" ++ name ++ ">")).toList ++ ['\n']))) := by
      simp [charsOf]
    rw [parts, run_lineAt, run_begin isName, begins, Option.bind_some]
    have newline (rest : List Char) :
        Reader.run ⟨begun, [], none⟩ ('\n' :: rest) = Reader.run ⟨begun, ['\n'], none⟩ rest := rfl
    rcases holds ['\n'] with ⟨later, inside⟩
    rw [newline, run_append, inside, Option.bind_some, run_lineAt, run_end isName, closes]
    cases close? name [] now <;> rfl

end Tags

end SkillScan.PropertyList
