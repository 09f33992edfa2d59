import Mathlib.Tactic.SplitIfs
import SkillScan.ShellWord

/-!
# Reading the words of the shell

The shell reads a word character by character. Quotes and backslashes take the meaning from what they quote and
vanish; a word ends before a blank, a line end or an operator that is not quoted. What stands for something
else, such as a variable, is not read here: then the text alone does not tell which words the shell gets.

A quoted text is read back as it was, whatever it consists of. Reading removes characters but adds none, so a
text that is not quoted is read back only if nothing in it has a meaning to the shell.
-/

namespace SkillScan.ShellWord

/-- What a word is read for. -/
inductive Role where
  /-- A word of a command. -/
  | command
  /-- The value of an assignment. -/
  | assigned
  deriving DecidableEq

/-- Where a character of a script stands. -/
inductive Position where
  /-- Outside of words, where a word or a comment may begin. -/
  | between
  /-- Not quoted, where a tilde would stand for a home directory. -/
  | behindMark
  /-- Not quoted, within a word. -/
  | unquoted
  /-- Behind a backslash that is not quoted. -/
  | escaped
  /-- Between single quotes. -/
  | single
  /-- Between double quotes. -/
  | double
  /-- Behind a backslash between double quotes. -/
  | doubleEscaped
  /-- In a comment. -/
  | comment
  deriving DecidableEq

/-- Whether a character separates words. -/
def isBlank (char : Char) : Bool :=
  char == ' ' || char == '\t'

/-- Whether a word ends before a character that is not quoted. -/
def endsWord (char : Char) : Bool :=
  [' ', '\t', '\n', '|', '&', ';', '<', '>', '(', ')'].contains char

/-- Whether a character quotes others. -/
def isQuoting (char : Char) : Bool :=
  ['\x27', '\x22', '\\'].contains char

/-- Whether a character that is not quoted asks for something else in its place. -/
def isExpansion (char : Char) : Bool :=
  ['$', '\x60', '*', '?', '['].contains char

/-- Whether a character stands for itself within a word, also where it is not quoted. -/
def isOrdinary (char : Char) : Bool :=
  !(endsWord char || isQuoting char || isExpansion char || char == '\x00')

namespace Position

/-- The position behind a character that is not quoted. -/
def behindUnquoted (role : Role) (char : Char) : Position :=
  if char = '\x27' then .single
  else if char = '\x22' then .double
  else if char = '\\' then .escaped
  else if endsWord char then .between
  else if role = .assigned && char == ':' then .behindMark
  else .unquoted

/-- The position behind a character. Commands within words are not followed. -/
def next (role : Role) (char : Char) : Position → Position
  | .between => if char = '#' then .comment else behindUnquoted role char
  | .behindMark | .unquoted => behindUnquoted role char
  | .escaped => .unquoted
  | .single => if char = '\x27' then .unquoted else .single
  | .double => if char = '\x22' then .unquoted else if char = '\\' then .doubleEscaped else .double
  | .doubleEscaped => .double
  | .comment => if char = '\n' then .between else .comment

/-- Whether a word may end at a position. -/
def mayEnd : Position → Bool
  | .behindMark | .unquoted => true
  | _ => false

/-- Whether a character at a position is part of a word and asks for no expansion. A word that goes on behind an
escaped line end is left out, and so is the character that no script may hold. -/
def isRead (char : Char) : Position → Bool
  | .between => isOrdinary char && char != '~' && char != '#' || isQuoting char
  | .behindMark => isOrdinary char && char != '~' || isQuoting char
  | .unquoted => isOrdinary char || isQuoting char
  | .escaped => char != '\n' && char != '\x00'
  | .single | .doubleEscaped => char != '\x00'
  | .double => char != '$' && char != '\x60' && char != '\x00'
  | .comment => false

/-- What a character that is read adds to the word. -/
def kept (char : Char) : Position → List Char
  | .between | .behindMark | .unquoted => if isQuoting char then [] else [char]
  | .escaped => [char]
  | .single => if char = '\x27' then [] else [char]
  | .double => if char = '\x22' || char = '\\' then [] else [char]
  | .doubleEscaped =>
    if char = '\n' then []
    else if ['$', '\x60', '\x22', '\\'].contains char then [char] else ['\\', char]
  | .comment => []

end Position

/-- Where a word of a role begins. -/
def Role.start : Role → Position
  | .command => .between
  | .assigned => .behindMark

/-- Reads a word up to its end, and answers with the word and what stands behind it. -/
def read (role : Role) : Position → List Char → Option (List Char × List Char)
  | position, [] => if position.mayEnd then some ([], []) else none
  | position, char :: rest =>
    if position.mayEnd && endsWord char then some ([], char :: rest)
    else if position.isRead char then
      (read role (position.next role char) rest).map fun (word, behind) => (position.kept char ++ word, behind)
    else none

/-! ## Ordinary characters -/

section Characters

variable {char : Char}

theorem isOrdinary_iff : isOrdinary char = true ↔
    endsWord char = false ∧ isQuoting char = false ∧ isExpansion char = false ∧ char ≠ '\x00' := by
  simp only [isOrdinary, Bool.not_eq_true', Bool.or_eq_false_iff, beq_eq_false_iff_ne, ne_eq, and_assoc]

theorem contains_eq_false_of_isPlain (plain : isPlain char = true) {others : List Char}
    (notPlain : others.all (!isPlain ·) = true) : others.contains char = false := by
  cases held : others.contains char with
  | false => rfl
  | true =>
      have meaning := List.all_eq_true.mp notPlain char (List.contains_iff_mem.mp held)
      simp [plain] at meaning

theorem isOrdinary_of_isPlain (plain : isPlain char = true) : isOrdinary char = true := by
  rw [isOrdinary_iff]
  refine ⟨?_, ?_, ?_, ?_⟩
  · exact contains_eq_false_of_isPlain plain (by decide)
  · exact contains_eq_false_of_isPlain plain (by decide)
  · exact contains_eq_false_of_isPlain plain (by decide)
  · rintro rfl
    exact absurd plain (by decide)

theorem behindUnquoted_of_isOrdinary (ordinary : isOrdinary char = true) (role : Role) :
    Position.behindUnquoted role char =
      if role = .assigned && char == ':' then .behindMark else .unquoted := by
  rcases isOrdinary_iff.mp ordinary with ⟨endless, noQuote, _⟩
  simp only [isQuoting, List.contains_cons, List.contains_nil, Bool.or_false, Bool.or_eq_false_iff,
    beq_eq_false_iff_ne] at noQuote
  simp [Position.behindUnquoted, noQuote, endless]

end Characters

/-! ## Reading what stands for itself -/

section Ordinary

variable {role : Role} {position : Position} {word rest : List Char}

theorem read_of_end (mayEnd : position.mayEnd = true) (ends : ∀ char ∈ rest.head?, endsWord char = true) :
    read role position rest = some ([], rest) := by
  cases rest with
  | nil => simp [read, mayEnd]
  | cons char rest => simp [read, mayEnd, ends char rfl]

theorem read_cons_of_isOrdinary {char : Char} (isOpen : position.mayEnd = true ∨ position = .between)
    (ordinary : isOrdinary char = true)
    (quiet : char = '~' ∨ char = '#' → role = .command ∧ position = .unquoted) :
    read role position (char :: rest) =
      (read role (Position.behindUnquoted role char) rest).map fun (word, behind) => (char :: word, behind) := by
  rcases isOrdinary_iff.mp ordinary with ⟨endless, noQuote, _⟩
  have silent : position ≠ .unquoted → char ≠ '~' ∧ char ≠ '#' := by
    intro other
    constructor
    · rintro rfl
      exact other (quiet (Or.inl rfl)).2
    · rintro rfl
      exact other (quiet (Or.inr rfl)).2
  cases position with
  | between => simp [read, Position.mayEnd, Position.isRead, Position.next, Position.kept, ordinary, noQuote, silent]
  | behindMark =>
      simp [read, Position.mayEnd, Position.isRead, Position.next, Position.kept, endless, ordinary, noQuote, silent]
  | unquoted =>
      simp [read, Position.mayEnd, Position.isRead, Position.next, Position.kept, endless, ordinary, noQuote]
  | _ => simp [Position.mayEnd] at isOpen

/-- Ordinary characters are read as they are, if no tilde and no mark of a comment stands where it counts. -/
theorem read_of_isOrdinary (ends : ∀ char ∈ rest.head?, endsWord char = true)
    (isOpen : position.mayEnd = true ∨ position = .between ∧ word ≠ [])
    (ordinary : ∀ char ∈ word, isOrdinary char = true)
    (quiet : ∀ char ∈ word, char = '~' ∨ char = '#' → role = .command ∧ position = .unquoted) :
    read role position (word ++ rest) = some (word, rest) := by
  induction word generalizing position with
  | nil =>
      have mayEnd : position.mayEnd = true := by simpa using isOpen
      exact read_of_end mayEnd ends
  | cons char word ih =>
      have first := behindUnquoted_of_isOrdinary (ordinary char (by simp)) role
      have later : read role (Position.behindUnquoted role char) (word ++ rest) = some (word, rest) := by
        apply ih
        · rw [first]
          split <;> simp [Position.mayEnd]
        · intro other member
          exact ordinary other (by simp [member])
        · intro other member isMark
          rcases quiet other (by simp [member]) isMark with ⟨rfl, _⟩
          simp [first]
      rw [List.cons_append, read_cons_of_isOrdinary (isOpen.imp_right And.left)
        (ordinary char (by simp)) (quiet char (by simp)), later]
      rfl

end Ordinary

/-! ## Reading what is quoted -/

section Quoted

variable {role : Role} {text rest : List Char}

theorem read_inQuotes (noNul : '\x00' ∉ text) (ends : ∀ char ∈ rest.head?, endsWord char = true) :
    read role .single (text.flatMap inQuotes ++ '\x27' :: rest) = some (text, rest) := by
  induction text with
  | nil =>
      have closed := @read_of_end role .unquoted rest rfl ends
      simp [read, Position.mayEnd, Position.isRead, Position.next, Position.kept, closed]
  | cons char text ih =>
      simp only [List.mem_cons, not_or] at noNul
      have later := ih noNul.2
      by_cases quote : char = '\x27'
      · -- The quote is left, a quoted quote follows, and the next quote begins again.
        subst quote
        simp [inQuotes, innerQuote, read, Position.mayEnd, Position.isRead, Position.next, Position.kept,
          Position.behindUnquoted, isQuoting, isOrdinary, endsWord, isExpansion, later]
      · simp [inQuotes, quote, read, Position.mayEnd, Position.isRead, Position.next, Position.kept,
          Ne.symm noNul.1, later]

/-- A quoted text is read back as it was, in every role. -/
theorem read_quotedChars (noNul : '\x00' ∉ text) (ends : ∀ char ∈ rest.head?, endsWord char = true) :
    read role role.start (quotedChars text ++ rest) = some (text, rest) := by
  rw [quotedChars]
  split
  · next plain =>
      simp only [Bool.and_eq_true, Bool.not_eq_true', List.isEmpty_eq_false_iff, List.all_eq_true] at plain
      apply read_of_isOrdinary ends
      · cases role with
        | command => exact Or.inr ⟨rfl, plain.1⟩
        | assigned => exact Or.inl rfl
      · intro char member
        exact isOrdinary_of_isPlain (plain.2 char member)
      · intro char member isMark
        have isPlain := plain.2 char member
        rcases isMark with rfl | rfl
        · exact absurd isPlain (by decide)
        · exact absurd isPlain (by decide)
  · have inside := @read_inQuotes role _ _ noNul ends
    cases role with
    | command =>
        simp [Role.start, read, Position.mayEnd, Position.isRead, Position.next, Position.kept,
          Position.behindUnquoted, isQuoting, inside]
    | assigned =>
        simp [Role.start, read, Position.mayEnd, Position.isRead, Position.next, Position.kept,
          Position.behindUnquoted, isQuoting, endsWord, inside]

end Quoted

/-! ## Where a text leads -/

/-- The position behind a text. -/
def Position.behind (role : Role) (position : Position) (text : List Char) : Position :=
  text.foldl (fun position char => position.next role char) position

section Behind

variable {role : Role} {position : Position} {text rest : List Char}

theorem behind_append :
    position.behind role (text ++ rest) = (position.behind role text).behind role rest := by
  simp only [Position.behind, List.foldl_append]

theorem behind_comment (oneLine : '\n' ∉ text) : Position.comment.behind role text = .comment := by
  induction text with
  | nil => rfl
  | cons char text ih =>
      simp only [List.mem_cons, not_or] at oneLine
      have stays : Position.comment.next role char = .comment := by
        simp [Position.next, Ne.symm oneLine.1]
      rw [Position.behind, List.foldl_cons, stays]
      exact ih oneLine.2

theorem behind_inQuotes : Position.single.behind role (text.flatMap inQuotes) = .single := by
  induction text with
  | nil => rfl
  | cons char text ih =>
      have again : Position.single.behind role (inQuotes char) = .single := by
        by_cases quote : char = '\x27'
        · subst quote
          rfl
        · simp [inQuotes, quote, Position.behind, Position.next]
      rw [List.flatMap_cons, behind_append, again, ih]

theorem behind_of_isPlain (plain : ∀ char ∈ text, isPlain char = true) :
    Position.unquoted.behind .command text = .unquoted := by
  induction text with
  | nil => rfl
  | cons char text ih =>
      have stays : Position.unquoted.next .command char = .unquoted :=
        behindUnquoted_of_isOrdinary (isOrdinary_of_isPlain (plain char (by simp))) .command
      rw [Position.behind, List.foldl_cons, stays]
      exact ih fun other member => plain other (by simp [member])

/-- A quoted text leaves nothing open, where a word begins and within a word. -/
theorem behind_quotedChars (start : position = .between ∨ position = .unquoted) :
    position.behind .command (quotedChars text) = .unquoted := by
  have next_eq {char : Char} (noMark : char ≠ '#') :
      position.next .command char = Position.behindUnquoted .command char := by
    rcases start with rfl | rfl
    · simp [Position.next, noMark]
    · rfl
  rw [quotedChars]
  split
  · next plain =>
      cases text with
      | nil => simp at plain
      | cons char text =>
          have allPlain : ∀ other ∈ char :: text, isPlain other = true := by simpa using plain
          have noMark : char ≠ '#' := by
            rintro rfl
            exact absurd (allPlain '#' (by simp)) (by decide)
          have first : position.next .command char = .unquoted := by
            rw [next_eq noMark]
            exact behindUnquoted_of_isOrdinary (isOrdinary_of_isPlain (allPlain char (by simp))) .command
          rw [Position.behind, List.foldl_cons, first]
          exact behind_of_isPlain fun other member => allPlain other (by simp [member])
  · have opened : position.next .command '\x27' = .single := by
      rw [next_eq (by decide)]
      rfl
    rw [Position.behind, List.foldl_cons, opened]
    change Position.single.behind .command (text.flatMap inQuotes ++ ['\x27']) = .unquoted
    rw [behind_append, behind_inQuotes]
    rfl

end Behind

/-! ## What reading removes -/

/-- How many characters more than are read next the word may get: a backslash between double quotes that turns
out to quote nothing. -/
def Position.pending : Position → Nat
  | .doubleEscaped => 1
  | _ => 0

section Removal

variable {role : Role} {position : Position} {text word rest : List Char} {char : Char}

theorem Position.pending_behindUnquoted : (behindUnquoted role char).pending = 0 := by
  simp only [behindUnquoted]
  split_ifs <;> rfl

theorem Position.length_kept_le :
    (position.kept char).length + (position.next role char).pending ≤ position.pending + 1 := by
  cases position with
  | between =>
      by_cases isMark : char = '#'
      · simp [kept, next, isMark, isQuoting, pending]
      · simp only [kept, next, isMark, if_false, pending_behindUnquoted]
        split <;> simp
  | behindMark | unquoted =>
      simp only [kept, next, pending_behindUnquoted]
      split <;> simp
  | escaped => simp [kept, next, pending]
  | double =>
      by_cases quote : char = '\x22'
      · simp [kept, next, quote, pending]
      · by_cases backslash : char = '\\' <;> simp [kept, next, quote, backslash, pending]
  | single | doubleEscaped | comment =>
      simp only [kept, next]
      split_ifs <;> simp [pending]

theorem exists_read_cons (done : read role position (char :: text) = some (word, rest)) :
    (word = [] ∧ rest = char :: text) ∨
      position.isRead char = true ∧ ∃ later, read role (position.next role char) text = some (later, rest) ∧
        word = position.kept char ++ later := by
  rw [read] at done
  split at done
  · cases done
    exact Or.inl ⟨rfl, rfl⟩
  · split at done
    · next isRead =>
        rcases Option.map_eq_some_iff.mp done with ⟨⟨later, behind⟩, read, same⟩
        cases same
        exact Or.inr ⟨isRead, later, read, rfl⟩
    · cases done

theorem length_le_of_read (done : read role position text = some (word, rest)) :
    word.length + rest.length ≤ text.length + position.pending := by
  induction text generalizing position word with
  | nil =>
      rw [read] at done
      split at done
      · cases done
        simp
      · cases done
  | cons char text ih =>
      rcases exists_read_cons done with ⟨rfl, rfl⟩ | ⟨_, later, read, rfl⟩
      · simp
      · have keptLength := @Position.length_kept_le role position char
        have laterLength := ih read
        simp only [List.length_append, List.length_cons]
        omega

theorem next_of_open (isOpen : position.mayEnd = true ∨ position = .between)
    (isRead : position.isRead char = true) :
    position.next role char = Position.behindUnquoted role char ∧
      position.kept char = (if isQuoting char then [] else [char]) ∧
      (isOrdinary char = true ∨ isQuoting char = true) := by
  cases position with
  | between =>
      have noComment : char ≠ '#' := by
        rintro rfl
        exact absurd isRead (by decide)
      simp only [Position.isRead, Bool.or_eq_true, Bool.and_eq_true] at isRead
      exact ⟨by simp [Position.next, noComment], rfl, isRead.imp_left fun ordinary => ordinary.1.1⟩
  | behindMark =>
      simp only [Position.isRead, Bool.or_eq_true, Bool.and_eq_true] at isRead
      exact ⟨rfl, rfl, isRead.imp_left And.left⟩
  | unquoted =>
      simp only [Position.isRead, Bool.or_eq_true] at isRead
      exact ⟨rfl, rfl, isRead⟩
  | _ => simp [Position.mayEnd] at isOpen

/-- What is read without getting shorter consists of ordinary characters. -/
theorem isOrdinary_of_read (isOpen : position.mayEnd = true ∨ position = .between)
    (done : read role position text = some (word, rest))
    (whole : text.length ≤ word.length + rest.length) :
    text = word ++ rest ∧ ∀ char ∈ word, isOrdinary char = true := by
  induction text generalizing position word with
  | nil =>
      rw [read] at done
      split at done
      · cases done
        simp
      · cases done
  | cons char text ih =>
      rcases exists_read_cons done with ⟨rfl, rfl⟩ | ⟨isRead, later, read, rfl⟩
      · simp
      · rcases @next_of_open role _ _ isOpen isRead with ⟨next, kept, kind⟩
        rw [next] at read
        have laterLength := length_le_of_read read
        rw [Position.pending_behindUnquoted] at laterLength
        cases quoting : isQuoting char with
        | true =>
            -- A quote is lost, and nothing makes up for it.
            simp only [kept, quoting, if_true, List.nil_append, List.length_cons] at whole
            omega
        | false =>
            have ordinary : isOrdinary char = true := by simpa [quoting] using kind
            simp only [kept, quoting, Bool.false_eq_true, if_false, List.singleton_append,
              List.length_cons] at whole ⊢
            have stillOpen : (Position.behindUnquoted role char).mayEnd = true := by
              rw [behindUnquoted_of_isOrdinary ordinary]
              split <;> rfl
            rcases ih (Or.inl stillOpen) read (by omega) with ⟨same, others⟩
            exact ⟨by rw [same, List.cons_append], by simpa [ordinary] using others⟩

/-! ## Commands of one word -/

/-- The word that a command consists of, if it consists of one word. -/
def onlyWord? (command : List Char) : Option (List Char) :=
  match read .command .between (command.dropWhile isBlank) with
  | some (word, rest) => if rest.all isBlank then some word else none
  | none => none

/-- Ordinary characters behind a slash are one word. -/
theorem onlyWord?_of_isOrdinary (ordinary : ∀ char ∈ word, isOrdinary char = true) :
    onlyWord? ('/' :: word) = some ('/' :: word) := by
  have later : read .command .unquoted (word ++ []) = some (word, []) :=
    read_of_isOrdinary (by simp) (Or.inl rfl) ordinary fun _ _ _ => ⟨rfl, rfl⟩
  rw [List.append_nil] at later
  have first : read .command .between ('/' :: word) = some ('/' :: word, []) := by
    rw [read_cons_of_isOrdinary (Or.inr rfl) (by decide) (by decide)]
    simp [Position.behindUnquoted, endsWord, later]
  have noBlank : ('/' :: word).dropWhile isBlank = '/' :: word := rfl
  simp [onlyWord?, noBlank, first]

/-- A command that is not longer than its only word is that word, in ordinary characters. -/
theorem isOrdinary_of_onlyWord? (only : onlyWord? text = some word) (whole : text.length ≤ word.length) :
    text = word ∧ ∀ char ∈ word, isOrdinary char = true := by
  rw [onlyWord?] at only
  split at only
  · next other rest done =>
      split at only
      · cases only
        have removed := length_le_of_read done
        have dropped := (List.dropWhile_suffix isBlank (l := text)).length_le
        simp only [Position.pending] at removed
        have undropped : text.dropWhile isBlank = text :=
          (List.dropWhile_suffix isBlank).eq_of_length_le (by omega)
        rw [undropped] at done
        rcases isOrdinary_of_read (Or.inr rfl) done (by omega) with ⟨same, ordinary⟩
        have noRest : rest = [] := List.eq_nil_of_length_eq_zero (by omega)
        rw [noRest, List.append_nil] at same
        exact ⟨same, ordinary⟩
      · cases only
  · cases only

end Removal

end SkillScan.ShellWord
