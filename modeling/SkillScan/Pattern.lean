import SkillScan.Text.Casing
import SkillScan.Text.WordChar

/-!
# Patterns on a line

A pattern says what a line must show at one place and how far it reaches. Whether a line shows a pattern
is decided from the far end: given marks at the places where the rest of a search succeeds, `starts`
marks the places from which the pattern reaches one of them. A line of `n` characters has `n + 1` places,
and each part of a pattern visits each place once, so the time taken grows with the length of the line
only.
-/

namespace SkillScan

/-- What a line must show. -/
inductive Pattern where
  /-- Nothing at all. -/
  | empty
  /-- One character of a kind. -/
  | one (kind : Char → Bool)
  /-- Any number of characters of a kind. -/
  | many (kind : Char → Bool)
  /-- One pattern and right after it another. -/
  | seq (first second : Pattern)
  /-- One pattern or another. -/
  | either (left right : Pattern)
  /-- A place with a word character on one side only. -/
  | wordEdge
  /-- The beginning of the line. -/
  | lineStart
  /-- The end of the line, or the place before a newline that ends it. -/
  | lineEnd
  /-- A place from which a pattern does not reach anywhere. -/
  | unless (barred : Pattern)

namespace Pattern

/-- A mark for each place of a line. -/
abbrev Marks := List Bool

/-- Marks at the places before a character of a kind that has a mark behind it. -/
def beforeOne (kind : Char → Bool) (line : List Char) (goal : Marks) : Marks :=
  List.zipWith (fun char mark => kind char && mark) line goal.tail ++ [false]

/-- Marks at the places from which characters of a kind lead to a mark. -/
def beforeMany (kind : Char → Bool) (line : List Char) (goal : Marks) : Marks :=
  (line.zip goal).foldr
    (fun (char, mark) later => (mark || (kind char && later.headD false)) :: later)
    [goal.getLastD false]

/-- Marks at the edges of the words of a line. -/
def wordEdges (line : List Char) : Marks :=
  let inWord := line.map Text.isWord
  List.zipWith (· != ·) (false :: inWord) (inWord ++ [false])

/-- Marks at the end of a line and before a newline that ends it. -/
def lineEnds (line : List Char) : Marks :=
  match line.getLast? with
  | none => [true]
  | some last => List.replicate (line.length - 1) false ++ [last == '\n', true]

/-- Marks at every place of a line. -/
def everywhere (line : List Char) : Marks :=
  List.replicate (line.length + 1) true

/-- Marks the places of a line from which a pattern reaches a place marked in `goal`. -/
def starts (line : List Char) : Pattern → (goal : Marks) → Marks
  | .empty, goal => goal
  | .one kind, goal => beforeOne kind line goal
  | .many kind, goal => beforeMany kind line goal
  | .seq first second, goal => first.starts line (second.starts line goal)
  | .either left right, goal => List.zipWith (· || ·) (left.starts line goal) (right.starts line goal)
  | .wordEdge, goal => List.zipWith (· && ·) (wordEdges line) goal
  | .lineStart, goal => goal.headD false :: List.replicate line.length false
  | .lineEnd, goal => List.zipWith (· && ·) (lineEnds line) goal
  | .unless barred, goal =>
    List.zipWith (fun found mark => !found && mark) (barred.starts line (everywhere line)) goal

/-- Whether a line shows a pattern somewhere. -/
def isShownBy (pattern : Pattern) (line : List Char) : Bool :=
  (pattern.starts line (everywhere line)).any id

/-- Patterns one after another. -/
def inOrder : List Pattern → Pattern
  | [] => .empty
  | [last] => last
  | first :: rest => .seq first (inOrder rest)

/-- A pattern that is never shown. -/
def never : Pattern :=
  .one fun _ => false

/-- One of several patterns. -/
def oneOf : List Pattern → Pattern
  | [] => never
  | [last] => last
  | first :: rest => .either first (oneOf rest)

/-- A pattern or nothing. -/
def optional (pattern : Pattern) : Pattern :=
  .either pattern .empty

/-- At least one character of a kind. -/
def some (kind : Char → Bool) : Pattern :=
  .seq (.one kind) (.many kind)

/-- Exactly `count` characters of a kind. -/
def exactly (kind : Char → Bool) (count : Nat) : Pattern :=
  inOrder (List.replicate count (.one kind))

/-- `count` characters of a kind or more. -/
def atLeast (kind : Char → Bool) (count : Nat) : Pattern :=
  .seq (exactly kind count) (.many kind)

/-- A text, letter for letter. -/
def text (wanted : String) : Pattern :=
  inOrder (wanted.toList.map fun char => .one (· == char))

/-- A text in capital or small letters. -/
def anyCase (wanted : String) : Pattern :=
  inOrder (wanted.toList.map fun char => .one (Text.sameLetter char))

end Pattern

end SkillScan
