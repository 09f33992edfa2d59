import SkillScan.ImportLine
import SkillScan.Proofs.Signature.Dependency
import SkillScan.Proofs.Text.Run
import SkillScan.Proofs.Text.Separation

/-!
# What an import line says

The two forms of an import line are described as texts put together from runs of blanks, names and words.
Each step of the reader finds the longest run there is, and no run may go on in the next, so the reader
finds the parts from which a line was put together and nothing else. Where only the list of modules is
known, cutting it at its commas and taking the first word of each piece gives the same names.
-/

namespace SkillScan.ImportLine

open Text

/-- Whether a line is `from M import`, with anything behind it that does not continue a word. -/
def ImportsFrom (name line : List Char) : Prop :=
  ∃ indent gap lastGap rest,
    line = indent ++ "from".toList ++ gap ++ name ++ lastGap ++ "import".toList ++ rest ∧
      (∀ char ∈ indent, isBlank char = true) ∧ IsRun isBlank gap ∧ IsRun isNameChar name ∧
        IsRun isBlank lastGap ∧ beginsIn isWord rest = false

/-- Whether a text is a name, or a name with an alias. -/
inductive IsItem (name : List Char) : List Char → Prop
  | plain : IsItem name name
  | renamed {gap lastGap other : List Char} : IsRun isBlank gap → IsRun isBlank lastGap →
      IsRun isWord other → IsItem name (name ++ (gap ++ "as".toList ++ lastGap ++ other))

/-- Whether a text is a list of modules with these names. -/
inductive ListsModules : List (List Char) → List Char → Prop
  | last {name item : List Char} : IsRun isNameChar name → IsItem name item → ListsModules [name] item
  | more {name item left right text : List Char} {names : List (List Char)} :
      IsRun isNameChar name → IsItem name item → (∀ char ∈ left, isBlank char = true) →
        (∀ char ∈ right, isBlank char = true) → ListsModules names text →
          ListsModules (name :: names) (item ++ (left ++ ',' :: (right ++ text)))

/-- Whether a text is a comment, or nothing. -/
def IsComment (text : List Char) : Prop :=
  ∀ char ∈ text.head?, char = '#'

/-- Whether a text is a list of modules, with nothing but blanks and a comment behind it. -/
def EndsInList (names : List (List Char)) (text chars : List Char) : Prop :=
  ∃ blanks comment, chars = text ++ (blanks ++ comment) ∧ ListsModules names text ∧
    (∀ char ∈ blanks, isBlank char = true) ∧ IsComment comment

/-- Whether a line is `import` and a list of modules up to its end. -/
def ImportsListed (names : List (List Char)) (text line : List Char) : Prop :=
  ∃ indent gap rest, line = indent ++ "import".toList ++ gap ++ rest ∧
    (∀ char ∈ indent, isBlank char = true) ∧ IsRun isBlank gap ∧ EndsInList names text rest

/-! ## Steps of the reader -/

section Steps

variable {chars rest name : List Char}

theorem not_isBlank_of_isNameChar {char : Char} (isName : isNameChar char = true) : isBlank char = false := by
  rw [isNameChar, Bool.or_eq_true, beq_iff_eq] at isName
  rcases isName with word | rfl
  · exact not_isBlank_of_isWord word
  · decide

theorem not_isNameChar_of_isBlank {char : Char} (blank : isBlank char = true) : isNameChar char = false := by
  by_contra isName
  rw [Bool.not_eq_false] at isName
  rw [not_isBlank_of_isNameChar isName] at blank
  exact Bool.noConfusion blank

theorem afterWord?_eq_some_iff {word : String} :
    afterWord? word chars = some rest ↔ chars = word.toList ++ rest := by
  rw [afterWord?, ← String.length_toList]
  split
  · next isPrefix =>
      rcases List.isPrefixOf_iff_prefix.mp isPrefix with ⟨behind, rfl⟩
      simp
  · next noPrefix =>
      constructor
      · intro impossible
        exact absurd impossible (by simp)
      · rintro rfl
        exact absurd (List.isPrefixOf_iff_prefix.mpr (List.prefix_append _ _)) noPrefix

theorem run?_eq_some_iff {kind : Char → Bool} :
    run? kind chars = some (name, rest) ↔
      chars = name ++ rest ∧ IsRun kind name ∧ beginsIn kind rest = false := by
  rw [run?]
  split
  · next empty =>
      constructor
      · intro impossible
        exact absurd impossible (by simp)
      · rintro ⟨rfl, run, stops⟩
        rw [takeWhile_append_of_stops run.ofKind stops, List.isEmpty_iff] at empty
        exact absurd empty run.nonempty
  · next nonempty =>
      rw [Option.some.injEq, Prod.mk.injEq]
      constructor
      · rintro ⟨rfl, rfl⟩
        refine ⟨List.takeWhile_append_dropWhile.symm, ⟨?_, ?_⟩, beginsIn_dropWhile kind chars⟩
        · rwa [List.isEmpty_iff] at nonempty
        · intro char member
          exact List.mem_takeWhile_imp member
      · rintro ⟨rfl, run, stops⟩
        exact ⟨takeWhile_append_of_stops run.ofKind stops, dropWhile_append_of_stops run.ofKind stops⟩

theorem afterBlanks?_eq_map (chars : List Char) : afterBlanks? chars = (run? isBlank chars).map (·.2) := by
  cases chars with
  | nil => rfl
  | cons char chars =>
      rw [afterBlanks?, run?]
      cases blank : isBlank char with
      | true => simp [blank]
      | false => simp [blank]

theorem afterBlanks?_eq_some_iff :
    afterBlanks? chars = some rest ↔
      ∃ gap, chars = gap ++ rest ∧ IsRun isBlank gap ∧ beginsIn isBlank rest = false := by
  rw [afterBlanks?_eq_map]
  simp only [Option.map_eq_some_iff, Prod.exists, run?_eq_some_iff, exists_eq_right]

theorem afterAlias?_eq_some_iff :
    afterAlias? chars = some rest ↔ ∃ gap lastGap other,
      chars = gap ++ "as".toList ++ lastGap ++ other ++ rest ∧ IsRun isBlank gap ∧ IsRun isBlank lastGap ∧
        IsRun isWord other ∧ beginsIn isWord rest = false := by
  simp only [afterAlias?, Option.bind_eq_bind, Option.bind_eq_some_iff, afterBlanks?_eq_some_iff,
    afterWord?_eq_some_iff, Prod.exists, run?_eq_some_iff, Option.some.injEq]
  constructor
  · rintro ⟨_, ⟨gap, rfl, isGap, _⟩, _, rfl, _, ⟨lastGap, rfl, isLastGap, _⟩, other, _, ⟨rfl, isOther, stops⟩,
      rfl⟩
    exact ⟨gap, lastGap, other, by simp, isGap, isLastGap, isOther, stops⟩
  · rintro ⟨gap, lastGap, other, rfl, isGap, isLastGap, isOther, stops⟩
    have noBlank : beginsIn isBlank (other ++ rest) = false :=
      isOther.not_beginsIn (fun _ => not_isBlank_of_isWord) rest
    exact ⟨"as".toList ++ (lastGap ++ (other ++ rest)), ⟨gap, by simp, isGap, rfl⟩, _, rfl, other ++ rest,
      ⟨lastGap, rfl, isLastGap, noBlank⟩, other, rest, ⟨rfl, isOther, stops⟩, rfl⟩

theorem atWordEnd_eq (chars : List Char) : atWordEnd chars = !beginsIn isWord chars := by
  cases chars with
  | nil => rfl
  | cons char chars => rfl

theorem fromModule?_eq_some_iff {line : List Char} : fromModule? line = some name ↔ ImportsFrom name line := by
  simp only [fromModule?, Option.bind_eq_bind, Option.bind_eq_some_iff, afterBlanks?_eq_some_iff,
    afterWord?_eq_some_iff, dropWhile_eq_iff, Prod.exists, run?_eq_some_iff, Option.ite_none_right_eq_some,
    Option.some.injEq, atWordEnd_eq, Bool.not_eq_true']
  constructor
  · rintro ⟨_, ⟨indent, rfl, indentBlank, _⟩, _, ⟨gap, rfl, isGap, _⟩, found, _, ⟨rfl, isName, _⟩, _,
      ⟨lastGap, rfl, isLastGap, _⟩, rest, rfl, atEnd, rfl⟩
    exact ⟨indent, gap, lastGap, rest, by simp, indentBlank, isGap, isName, isLastGap, atEnd⟩
  · rintro ⟨indent, gap, lastGap, rest, rfl, indentBlank, isGap, isName, isLastGap, atEnd⟩
    have nameStops : beginsIn isNameChar (lastGap ++ ("import".toList ++ rest)) = false :=
      isLastGap.not_beginsIn (fun _ => not_isNameChar_of_isBlank) _
    have gapStops : beginsIn isBlank (name ++ (lastGap ++ ("import".toList ++ rest))) = false :=
      isName.not_beginsIn (fun _ => not_isBlank_of_isNameChar) _
    exact ⟨gap ++ (name ++ (lastGap ++ ("import".toList ++ rest))), ⟨indent, by simp, indentBlank, rfl⟩, _,
      ⟨gap, rfl, isGap, gapStops⟩, name, _, ⟨rfl, isName, nameStops⟩, "import".toList ++ rest,
      ⟨lastGap, rfl, isLastGap, rfl⟩, rest, rfl, atEnd, rfl⟩

theorem onlyComment_iff (oneLine : '\n' ∉ chars) : onlyComment chars = true ↔ IsComment chars := by
  cases chars with
  | nil => simp [onlyComment, IsComment]
  | cons char chars =>
      by_cases hash : char = '#'
      · subst hash
        have noNewline : chars.dropWhile (· != '\n') = [] := by
          rw [List.dropWhile_eq_nil_iff]
          intro other member
          rw [bne_iff_ne]
          rintro rfl
          exact oneLine (List.mem_cons_of_mem '#' member)
        simp [onlyComment, IsComment, noNewline]
      · simp [onlyComment, IsComment, hash]

end Steps

/-! ## Items -/

section Items

variable {chars name item rest following : List Char}

/-- What follows the name of an item once its alias has been read. -/
def afterItem (following : List Char) : List Char :=
  (afterAlias? following).getD following

theorem exists_isItem (name following : List Char) :
    ∃ item, IsItem name item ∧ name ++ following = item ++ afterItem following := by
  cases found : afterAlias? following with
  | none => exact ⟨name, .plain, by simp [afterItem, found]⟩
  | some rest =>
      have after : afterItem following = rest := by rw [afterItem, found, Option.getD_some]
      rcases afterAlias?_eq_some_iff.mp found with ⟨gap, lastGap, other, rfl, isGap, isLastGap, isOther, _⟩
      exact ⟨_, .renamed isGap isLastGap isOther, by rw [after]; simp⟩

/-- What is read as one item: a name and what may follow it, and blanks. -/
theorem exists_item_of_run? (run : run? isNameChar chars = some (name, following)) :
    ∃ item blanks, chars = item ++ (blanks ++ (afterItem following).dropWhile isBlank) ∧
      IsRun isNameChar name ∧ IsItem name item ∧ ∀ char ∈ blanks, isBlank char = true := by
  rcases run?_eq_some_iff.mp run with ⟨rfl, isName, _⟩
  rcases exists_isItem name following with ⟨item, isItem, whole⟩
  rcases dropWhile_eq_iff.mp (rfl : (afterItem following).dropWhile isBlank = _) with
    ⟨blanks, after, areBlank, _⟩
  refine ⟨item, blanks, ?_, isName, isItem, areBlank⟩
  rw [whole, ← after]

/-- What may follow an item: a comma, a comment or the end of the line, with or without blanks before it. -/
def EndsItem (rest : List Char) : Prop :=
  ∃ gap later, rest = gap ++ later ∧ (∀ char ∈ gap, isBlank char = true) ∧
    ∀ char ∈ later.head?, char = ',' ∨ char = '#'

theorem EndsItem.not_beginsIn {kind : Char → Bool} (ends : EndsItem rest)
    (apart : ∀ char, isBlank char = true → kind char = false) (noComma : kind ',' = false)
    (noHash : kind '#' = false) : beginsIn kind rest = false := by
  rcases ends with ⟨gap, later, rfl, areBlank, marked⟩
  cases gap with
  | cons char gap => exact apart char (areBlank char (by simp))
  | nil =>
      cases later with
      | nil => rfl
      | cons char later =>
          rcases marked char rfl with rfl | rfl
          · exact noComma
          · exact noHash

theorem EndsItem.afterAlias?_eq_none (ends : EndsItem rest) : afterAlias? rest = none := by
  rw [Option.eq_none_iff_forall_ne_some]
  intro behind found
  rcases afterAlias?_eq_some_iff.mp found with ⟨gap, lastGap, other, split, isGap, _⟩
  rcases ends with ⟨blanks, later, rfl, areBlank, marked⟩
  have laterStops : beginsIn isBlank later = false := by
    cases later with
    | nil => rfl
    | cons char later =>
        rcases marked char rfl with rfl | rfl
        · rfl
        · rfl
  -- Behind the blanks stands the alias's first letter on the one side and a mark on the other.
  have sameLater : later = "as".toList ++ (lastGap ++ (other ++ behind)) := by
    rw [← dropWhile_append_of_stops areBlank laterStops, split]
    simp only [List.append_assoc]
    exact dropWhile_append_of_stops isGap.ofKind rfl
  subst sameLater
  exact absurd (marked 'a' rfl) (by decide)

theorem run?_item (isName : IsRun isNameChar name) (isItem : IsItem name item) (ends : EndsItem rest) :
    ∃ following, run? isNameChar (item ++ rest) = some (name, following) ∧ afterItem following = rest := by
  cases isItem with
  | plain =>
      have stops : beginsIn isNameChar rest = false :=
        ends.not_beginsIn (fun _ => not_isNameChar_of_isBlank) (by decide) (by decide)
      refine ⟨rest, run?_eq_some_iff.mpr ⟨rfl, isName, stops⟩, ?_⟩
      rw [afterItem, ends.afterAlias?_eq_none, Option.getD_none]
  | @renamed gap lastGap other isGap isLastGap isOther =>
      have wordStops : beginsIn isWord rest = false :=
        ends.not_beginsIn (fun _ => not_isWord_of_isBlank) (by decide) (by decide)
      have stops : beginsIn isNameChar (gap ++ ("as".toList ++ lastGap ++ other ++ rest)) = false :=
        isGap.not_beginsIn (fun _ => not_isNameChar_of_isBlank) _
      have renamed : afterAlias? (gap ++ ("as".toList ++ lastGap ++ other ++ rest)) = some rest :=
        afterAlias?_eq_some_iff.mpr ⟨gap, lastGap, other, by simp, isGap, isLastGap, isOther, wordStops⟩
      refine ⟨_, run?_eq_some_iff.mpr ⟨?_, isName, stops⟩, ?_⟩
      · simp only [List.append_assoc]
      · rw [afterItem, renamed, Option.getD_some]

end Items

/-! ## Lists -/

section Lists

variable {names : List (List Char)} {chars text : List Char}

theorem length_le_of_listsModules (lists : ListsModules names text) : names.length ≤ text.length := by
  have itemLength {name item : List Char} (isName : IsRun isNameChar name) (isItem : IsItem name item) :
      1 ≤ item.length := by
    have nonempty := List.length_pos_of_ne_nil isName.nonempty
    cases isItem with
    | plain => exact nonempty
    | renamed => simp only [List.length_append]; omega
  induction lists with
  | last isName isItem => exact itemLength isName isItem
  | more isName isItem _ _ _ ih =>
      have longEnough := itemLength isName isItem
      simp only [List.length_append, List.length_cons]
      omega

theorem ListsModules.not_beginsIn_isBlank (lists : ListsModules names text) (rest : List Char) :
    beginsIn isBlank (text ++ rest) = false := by
  have itemBegins {name item : List Char} (isName : IsRun isNameChar name) (isItem : IsItem name item)
      (rest : List Char) : beginsIn isBlank (item ++ rest) = false := by
    cases isItem with
    | plain => exact isName.not_beginsIn (fun _ => not_isBlank_of_isNameChar) rest
    | renamed =>
        rw [List.append_assoc]
        exact isName.not_beginsIn (fun _ => not_isBlank_of_isNameChar) _
  cases lists with
  | last isName isItem => exact itemBegins isName isItem rest
  | more isName isItem =>
      rw [List.append_assoc]
      exact itemBegins isName isItem _

theorem moduleList?_of_comma {name following later : List Char} (limit : Nat)
    (run : run? isNameChar chars = some (name, following))
    (comma : (afterItem following).dropWhile isBlank = ',' :: later) :
    moduleList? (limit + 1) chars = (moduleList? limit (later.dropWhile isBlank)).map (name :: ·) := by
  rw [afterItem] at comma
  simp only [moduleList?, run, Option.bind_eq_bind, Option.bind_some, comma]

theorem moduleList?_of_noComma {name following : List Char} (limit : Nat)
    (run : run? isNameChar chars = some (name, following))
    (noComma : ∀ later, (afterItem following).dropWhile isBlank ≠ ',' :: later) :
    moduleList? (limit + 1) chars =
      if onlyComment ((afterItem following).dropWhile isBlank) then some [name] else none := by
  simp only [moduleList?, run, Option.bind_eq_bind, Option.bind_some]
  split
  · next later comma => exact absurd comma (noComma later)
  · rfl

theorem moduleList?_sound {limit : Nat} (oneLine : '\n' ∉ chars)
    (found : moduleList? limit chars = some names) : ∃ text, EndsInList names text chars := by
  induction limit generalizing chars names with
  | zero => exact absurd found (by simp [moduleList?])
  | succ limit ih =>
      cases run : run? isNameChar chars with
      | none => simp [moduleList?, run] at found
      | some parts =>
          rcases exists_item_of_run? run with ⟨item, left, whole, isName, isItem, leftBlank⟩
          by_cases comma : ∃ later, (afterItem parts.2).dropWhile isBlank = ',' :: later
          · rcases comma with ⟨later, comma⟩
            rw [moduleList?_of_comma limit run comma, Option.map_eq_some_iff] at found
            rcases found with ⟨others, found, rfl⟩
            rcases dropWhile_eq_iff.mp (rfl : later.dropWhile isBlank = _) with ⟨right, inner, rightBlank, _⟩
            rw [comma, inner] at whole
            have othersOneLine : '\n' ∉ later.dropWhile isBlank := by
              intro newline
              exact oneLine (by simp [whole, newline])
            rcases ih othersOneLine found with ⟨text, blanks, comment, ending, lists, areBlank, isComment⟩
            refine ⟨_, blanks, comment, ?_, .more isName isItem leftBlank rightBlank lists, areBlank, isComment⟩
            rw [whole, ending]
            simp
          · rw [moduleList?_of_noComma limit run (not_exists.mp comma), Option.ite_none_right_eq_some] at found
            rcases found with ⟨isComment, found⟩
            have restOneLine : '\n' ∉ (afterItem parts.2).dropWhile isBlank := by
              intro newline
              exact oneLine (by rw [whole]; simp [newline])
            rw [onlyComment_iff restOneLine] at isComment
            cases found
            exact ⟨item, left, _, whole, .last isName isItem, leftBlank, isComment⟩

theorem IsComment.not_beginsIn_isBlank {comment : List Char} (isComment : IsComment comment) :
    beginsIn isBlank comment = false := by
  cases comment with
  | nil => rfl
  | cons char comment =>
      rw [isComment char rfl]
      rfl

theorem moduleList?_complete {limit : Nat} (oneLine : '\n' ∉ chars) (enough : names.length ≤ limit)
    (ends : EndsInList names text chars) : moduleList? limit chars = some names := by
  rcases ends with ⟨blanks, comment, rfl, lists, areBlank, isComment⟩
  induction lists generalizing limit with
  | @last name item isName isItem =>
      rcases Nat.exists_eq_add_of_le' enough with ⟨limit, rfl⟩
      have ends : EndsItem (blanks ++ comment) :=
        ⟨blanks, comment, rfl, areBlank, fun char member => Or.inr (isComment char member)⟩
      rcases run?_item isName isItem ends with ⟨following, run, after⟩
      have left : (afterItem following).dropWhile isBlank = comment := by
        rw [after]
        exact dropWhile_append_of_stops areBlank isComment.not_beginsIn_isBlank
      have noComma : ∀ later, (afterItem following).dropWhile isBlank ≠ ',' :: later := by
        intro later comma
        rw [left] at comma
        subst comma
        exact absurd (isComment ',' rfl) (by decide)
      have commentOneLine : '\n' ∉ comment := by
        intro newline
        exact oneLine (by simp [newline])
      rw [List.length_singleton, moduleList?_of_noComma limit run noComma, left,
        if_pos ((onlyComment_iff commentOneLine).mpr isComment)]
  | @more name item left right text names isName isItem leftBlank rightBlank lists ih =>
      have positive : 1 ≤ limit := Nat.le_trans (Nat.le_add_left 1 names.length) enough
      rcases Nat.exists_eq_add_of_le' positive with ⟨limit, rfl⟩
      have ends : EndsItem (left ++ ',' :: (right ++ (text ++ (blanks ++ comment)))) :=
        ⟨left, _, rfl, leftBlank, fun char member => Or.inl (Option.some.inj member).symm⟩
      rcases run?_item isName isItem ends with ⟨following, run, after⟩
      have comma :
          (afterItem following).dropWhile isBlank = ',' :: (right ++ (text ++ (blanks ++ comment))) := by
        rw [after]
        exact dropWhile_append_of_stops leftBlank rfl
      have inner : (right ++ (text ++ (blanks ++ comment))).dropWhile isBlank = text ++ (blanks ++ comment) :=
        dropWhile_append_of_stops rightBlank (lists.not_beginsIn_isBlank _)
      have othersOneLine : '\n' ∉ text ++ (blanks ++ comment) := by
        intro newline
        exact oneLine (by simp at newline ⊢; tauto)
      have others := ih (Nat.le_of_succ_le_succ enough) othersOneLine
      have whole : item ++ (left ++ ',' :: (right ++ text)) ++ (blanks ++ comment) =
          item ++ (left ++ ',' :: (right ++ (text ++ (blanks ++ comment)))) := by
        simp
      rw [whole, moduleList?_of_comma limit run comma, inner, others, Option.map_some]

theorem listedModules?_eq_some_iff {line : List Char} (oneLine : '\n' ∉ line) :
    listedModules? line = some names ↔ ∃ text, ImportsListed names text line := by
  simp only [listedModules?, Option.bind_eq_bind, Option.bind_eq_some_iff, afterBlanks?_eq_some_iff,
    afterWord?_eq_some_iff, dropWhile_eq_iff]
  constructor
  · rintro ⟨_, ⟨indent, rfl, indentBlank, _⟩, rest, ⟨gap, rfl, isGap, _⟩, found⟩
    have restOneLine : '\n' ∉ rest := by
      intro newline
      exact oneLine (by simp [newline])
    rcases moduleList?_sound restOneLine found with ⟨text, ends⟩
    exact ⟨text, indent, gap, rest, by simp, indentBlank, isGap, ends⟩
  · rintro ⟨text, indent, gap, rest, rfl, indentBlank, isGap, ends⟩
    have restOneLine : '\n' ∉ rest := by
      intro newline
      exact oneLine (by simp [newline])
    have parts := ends
    rcases parts with ⟨blanks, comment, rfl, lists, _⟩
    have enough : names.length ≤ (text ++ (blanks ++ comment)).length + 1 := by
      have shorter := length_le_of_listsModules lists
      rw [List.length_append]
      omega
    exact ⟨gap ++ (text ++ (blanks ++ comment)), ⟨indent, by simp, indentBlank, rfl⟩, _,
      ⟨gap, rfl, isGap, lists.not_beginsIn_isBlank _⟩, moduleList?_complete restOneLine enough ends⟩

end Lists

/-! ## Names from the text of a list -/

/-- The first word of a text, if it has any. -/
def firstWord? (text : List Char) : Option (List Char) :=
  (run? (!isBlank ·) (text.dropWhile isBlank)).map (·.1)

/-- The first word of each piece between commas, if none of them is without words. -/
def firstWords? (text : List Char) : Option (List (List Char)) :=
  (splitAt ',' text).mapM firstWord?

section FirstWords

variable {name item text : List Char} {names : List (List Char)}

theorem firstWord?_item {before after : List Char} (isName : IsRun isNameChar name) (isItem : IsItem name item)
    (beforeBlank : ∀ char ∈ before, isBlank char = true) (afterBlank : ∀ char ∈ after, isBlank char = true) :
    firstWord? (before ++ (item ++ after)) = some name := by
  have solid : IsRun (!isBlank ·) name := by
    refine ⟨isName.nonempty, ?_⟩
    intro char member
    rw [not_isBlank_of_isNameChar (isName.ofKind char member), Bool.not_false]
  have word {rest : List Char} (stops : beginsIn (!isBlank ·) rest = false) :
      firstWord? (before ++ (name ++ rest)) = some name := by
    have nameFirst := isName.not_beginsIn (fun _ => not_isBlank_of_isNameChar) rest
    rw [firstWord?, dropWhile_append_of_stops beforeBlank nameFirst, run?_eq_some_iff.mpr ⟨rfl, solid, stops⟩,
      Option.map_some]
  cases isItem with
  | plain =>
      apply word
      cases after with
      | nil => rfl
      | cons char after => simp [beginsIn, afterBlank char (by simp)]
  | @renamed gap lastGap other isGap _ _ =>
      rw [List.append_assoc name]
      apply word
      rw [List.append_assoc, List.append_assoc, List.append_assoc]
      exact isGap.not_beginsIn (fun char blank => by simp [blank]) _

theorem comma_not_mem_item (isName : IsRun isNameChar name) (isItem : IsItem name item) : ',' ∉ item := by
  have absent {kind : Char → Bool} {text : List Char} (run : IsRun kind text) (noComma : kind ',' = false) :
      ',' ∉ text := by
    intro member
    rw [run.ofKind ',' member] at noComma
    exact Bool.noConfusion noComma
  have noName := absent isName (by decide)
  cases isItem with
  | plain => exact noName
  | renamed isGap isLastGap isOther =>
      have noGap := absent isGap (by decide)
      have noLastGap := absent isLastGap (by decide)
      have noOther := absent isOther (by decide)
      simp [noName, noGap, noLastGap, noOther]

/-- No piece of a list is without words, and the first word of each is the name of its module. -/
theorem firstWords?_of_listsModules (lists : ListsModules names text) {before : List Char}
    (beforeBlank : ∀ char ∈ before, isBlank char = true) : firstWords? (before ++ text) = some names := by
  have noComma {blanks : List Char} (areBlank : ∀ char ∈ blanks, isBlank char = true) : ',' ∉ blanks := by
    intro member
    exact absurd (areBlank ',' member) (by decide)
  induction lists generalizing before with
  | @last name item isName isItem =>
      have oneItem : ',' ∉ before ++ item := by
        rw [List.mem_append, not_or]
        exact ⟨noComma beforeBlank, comma_not_mem_item isName isItem⟩
      have word : firstWord? (before ++ (item ++ [])) = some name :=
        firstWord?_item isName isItem beforeBlank (by simp)
      rw [List.append_nil] at word
      simp [firstWords?, splitAt_of_not_mem oneItem, word]
  | @more name item left right text names isName isItem leftBlank rightBlank lists ih =>
      have oneItem : ',' ∉ before ++ (item ++ left) := by
        rw [List.mem_append, List.mem_append, not_or, not_or]
        exact ⟨noComma beforeBlank, comma_not_mem_item isName isItem, noComma leftBlank⟩
      have whole : before ++ (item ++ (left ++ ',' :: (right ++ text))) =
          before ++ (item ++ left) ++ ',' :: (right ++ text) := by
        simp
      have word := firstWord?_item isName isItem beforeBlank leftBlank
      have others := ih rightBlank
      rw [firstWords?] at others
      rw [firstWords?, whole, splitAt_append_cons, splitAt_of_not_mem oneItem]
      simp [word, others]

end FirstWords

/-! ## Lines -/

/-- Whether a text is the name of a module up to its first dot. -/
def IsTopLevel (top moduleName : List Char) : Prop :=
  '.' ∉ top ∧ (moduleName = top ∨ ∃ rest, moduleName = top ++ '.' :: rest)

theorem isTopLevel_iff {top moduleName : List Char} :
    IsTopLevel top moduleName ↔ moduleName.takeWhile (· != '.') = top := by
  constructor
  · rintro ⟨noDot, parts⟩
    have plain : ∀ char ∈ top, (char != '.') = true := by
      intro char member
      rw [bne_iff_ne]
      rintro rfl
      exact noDot member
    rcases parts with rfl | ⟨rest, rfl⟩
    · exact List.takeWhile_eq_self_iff.mpr plain
    · exact takeWhile_append_of_stops plain rfl
  · rintro rfl
    refine ⟨?_, ?_⟩
    · intro dot
      exact absurd (List.mem_takeWhile_imp dot) (by decide)
    · have whole := List.takeWhile_append_dropWhile (p := (· != '.')) (l := moduleName)
      have stops := beginsIn_dropWhile (· != '.') moduleName
      cases rest : moduleName.dropWhile (· != '.') with
      | nil =>
          rw [rest, List.append_nil] at whole
          exact Or.inl whole.symm
      | cons char behind =>
          have isDot : char = '.' := by simpa [rest, beginsIn] using stops
          rw [rest, isDot] at whole
          exact Or.inr ⟨behind, whole.symm⟩

theorem isExternal_iff {moduleName : String} :
    isExternal moduleName = true ↔ ∃ top, IsTopLevel top moduleName.toList ∧ top ≠ [] ∧
      String.ofList top ∉ standardModules := by
  simp only [isTopLevel_iff, exists_eq_left']
  simp [isExternal]

/-- An import line is read as it was put together, the names of a list also by the first words of its pieces; a
line without quotes is reported as a dependency if and only if one of the modules is external. -/
theorem importedModules_reads_line (line : String) (oneLine : '\n' ∉ line.toList) :
    (∀ name, ImportsFrom name line.toList → importedModules line.toList = [String.ofList name]) ∧
      ((∀ name, ¬ImportsFrom name line.toList) →
        (∀ names text, ImportsListed names text line.toList →
          importedModules line.toList = names.map String.ofList ∧ firstWords? text = some names) ∧
        ((∀ names text, ¬ImportsListed names text line.toList) → importedModules line.toList = [])) ∧
      ((∀ char ∈ line.toList, Signature.isStringMark char = false) →
        (Signature.dependencyRule.test line = true ↔ ∃ moduleName ∈ importedModules line.toList,
          ∃ top, IsTopLevel top moduleName.toList ∧ top ≠ [] ∧ String.ofList top ∉ standardModules)) := by
  refine ⟨?_, ?_, ?_⟩
  · intro name imports
    rw [importedModules, fromModule?_eq_some_iff.mpr imports]
  · intro noFrom
    have none : fromModule? line.toList = none := by
      rw [Option.eq_none_iff_forall_ne_some]
      intro name found
      exact noFrom name (fromModule?_eq_some_iff.mp found)
    rw [importedModules, none]
    constructor
    · intro names text listed
      have found := (listedModules?_eq_some_iff oneLine).mpr ⟨text, listed⟩
      rcases listed with ⟨_, _, _, _, _, _, _, _, _, lists, _⟩
      refine ⟨by rw [found, Option.getD_some], ?_⟩
      have words : firstWords? ([] ++ text) = some names := firstWords?_of_listsModules lists (by simp)
      exact words
    · intro noList
      have noneListed : listedModules? line.toList = Option.none := by
        rw [Option.eq_none_iff_forall_ne_some]
        intro names found
        rcases (listedModules?_eq_some_iff oneLine).mp found with ⟨text, listed⟩
        exact noList names text listed
      rw [noneListed, Option.getD_none, List.map_nil]
  · intro unmarked
    simp only [Signature.dependencyRule, Signature.not_isShownBy_scriptImport unmarked, Bool.false_or,
      List.any_eq_true, isExternal_iff]

/-- A list with an alias, behind which a comment goes on with names. -/
theorem importedModules_exampleLine :
    importedModules "import os ,numpy as np # np, re".toList = ["os", "numpy"] ∧
      firstWords? "os ,numpy as np".toList = some ["os".toList, "numpy".toList] ∧
        Signature.dependencyRule.test "import os ,numpy as np # np, re" = true := by
  rcases importedModules_reads_line "import os ,numpy as np # np, re" (by decide) with ⟨_, reads, fires⟩
  have noFrom : ∀ name, ¬ImportsFrom name "import os ,numpy as np # np, re".toList := by
    have none : fromModule? "import os ,numpy as np # np, re".toList = Option.none := by decide
    intro name imports
    rw [← fromModule?_eq_some_iff, none] at imports
    cases imports
  have item : IsItem "numpy".toList ("numpy".toList ++ ([' '] ++ "as".toList ++ [' '] ++ "np".toList)) :=
    .renamed (isRun_of_all (by decide) rfl) (isRun_of_all (by decide) rfl) (isRun_of_all (by decide) rfl)
  have lists : ListsModules ["os".toList, "numpy".toList]
      ("os".toList ++ ([' '] ++ ',' :: ([] ++ "numpy as np".toList))) :=
    .more (isRun_of_all (by decide) rfl) .plain (List.all_eq_true.mp rfl) (by simp)
      (.last (isRun_of_all (by decide) rfl) item)
  have listed : ImportsListed ["os".toList, "numpy".toList] "os ,numpy as np".toList
      "import os ,numpy as np # np, re".toList :=
    ⟨[], [' '], "os ,numpy as np # np, re".toList, rfl, by simp, isRun_of_all (by decide) rfl, [' '],
      "# np, re".toList, rfl, lists, List.all_eq_true.mp rfl, by simp [IsComment]⟩
  rcases (reads noFrom).1 _ _ listed with ⟨modules, words⟩
  refine ⟨modules, words, (fires (eq_false_of_all rfl)).mpr ⟨"numpy", ?_, "numpy".toList, ?_⟩⟩
  · rw [modules]
    decide
  · refine ⟨⟨by decide, Or.inl rfl⟩, by decide, by decide⟩

end SkillScan.ImportLine
