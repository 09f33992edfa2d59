import SkillScan.Pattern
import SkillScan.Proofs.Text.Spelling

/-!
# Occurrences of patterns

A pattern is found where it fits a part of the line between what stands before and what stands behind.
Searching from the far end finds exactly these places: the marks before a pattern are the places from
which the pattern fits up to a place that was marked. A line therefore shows a pattern if and only if the
line falls into three parts of which the middle one fits.
-/

namespace SkillScan.Pattern

/-- Whether a pattern fits a text that stands between two others. -/
def Fits : Pattern → (before found behind : List Char) → Prop
  | .empty, _, found, _ => found = []
  | .one kind, _, found, _ => ∃ char, found = [char] ∧ kind char = true
  | .many kind, _, found, _ => ∀ char ∈ found, kind char = true
  | .seq first second, before, found, behind =>
    ∃ left right, found = left ++ right ∧ first.Fits before left (right ++ behind) ∧
      second.Fits (before ++ left) right behind
  | .either left right, before, found, behind =>
    left.Fits before found behind ∨ right.Fits before found behind
  | .wordEdge, before, found, behind => found = [] ∧ Text.endsInWord before ≠ Text.beginsInWord behind
  | .lineStart, before, found, _ => found = [] ∧ before = []
  | .lineEnd, _, found, behind => found = [] ∧ (behind = [] ∨ behind = ['\n'])
  | .unless barred, before, found, behind =>
    found = [] ∧ ¬∃ left right, behind = left ++ right ∧ barred.Fits before left right

/-! ## Marks -/

attribute [simp] starts

/-- Whether a place has a mark. -/
def Marked (marks : Marks) (place : Nat) : Prop :=
  marks[place]? = Option.some true

section Marks

variable {kind : Char → Bool} {line before behind : List Char} {goal : Marks}

theorem marked_zipWith_iff {α β : Type} {join : α → β → Bool} {left : List α} {right : List β}
    {place : Nat} :
    Marked (List.zipWith join left right) place ↔
      ∃ first second, left[place]? = Option.some first ∧ right[place]? = Option.some second ∧
        join first second = true := by
  rw [Marked, List.getElem?_zipWith]
  cases left[place]? with
  | none => simp
  | some first =>
      cases right[place]? with
      | none => simp
      | some second => simp

theorem getElem?_of_full {marks : Marks} (full : marks.length = line.length + 1) {place : Nat}
    (within : place ≤ line.length) : ∃ mark, marks[place]? = Option.some mark := by
  have inside : place < marks.length := by omega
  exact ⟨marks[place], List.getElem?_eq_getElem inside⟩

theorem beforeMany_cons (nonempty : goal ≠ []) (char : Char) (mark : Bool) :
    beforeMany kind (char :: line) (mark :: goal) =
      (mark || (kind char && (beforeMany kind line goal).headD false)) ::
        beforeMany kind line goal := by
  have sameLast : (mark :: goal).getLastD false = goal.getLastD false := by
    cases goal with
    | nil => exact absurd rfl nonempty
    | cons next goal => rfl
  simp only [beforeMany, List.zip_cons_cons, List.foldr_cons, sameLast]

theorem length_beforeMany (full : goal.length = line.length + 1) :
    (beforeMany kind line goal).length = line.length + 1 := by
  induction line generalizing goal with
  | nil => rfl
  | cons char line ih =>
      rcases List.exists_cons_of_length_eq_add_one full with ⟨mark, rest, rfl⟩
      have restFull : rest.length = line.length + 1 := by simpa using full
      have nonempty : rest ≠ [] := List.ne_nil_of_length_eq_add_one restFull
      rw [beforeMany_cons nonempty, List.length_cons, ih restFull, List.length_cons]

theorem marked_beforeMany_zero_iff (full : goal.length = behind.length + 1) :
    Marked (beforeMany kind behind goal) 0 ↔
      ∃ found rest, behind = found ++ rest ∧ (∀ char ∈ found, kind char = true) ∧
        Marked goal found.length := by
  induction behind generalizing goal with
  | nil =>
      rcases List.exists_cons_of_length_eq_add_one full with ⟨mark, rest, rfl⟩
      have alone : rest = [] := by simpa using full
      subst alone
      simp [beforeMany]
  | cons char behind ih =>
      rcases List.exists_cons_of_length_eq_add_one full with ⟨mark, later, rfl⟩
      have laterFull : later.length = behind.length + 1 := by simpa using full
      have nonempty : later ≠ [] := List.ne_nil_of_length_eq_add_one laterFull
      have head : (beforeMany kind behind later).headD false = true ↔
          Marked (beforeMany kind behind later) 0 := by
        rw [Marked, List.headD_eq_head?_getD, List.head?_eq_getElem?]
        cases (beforeMany kind behind later)[0]? <;> simp
      have here : Marked (beforeMany kind (char :: behind) (mark :: later)) 0 ↔
          mark = true ∨ kind char = true ∧ Marked (beforeMany kind behind later) 0 := by
        rw [beforeMany_cons nonempty, Marked, List.getElem?_cons_zero, Option.some.injEq,
          Bool.or_eq_true, Bool.and_eq_true, head]
      rw [here, ih laterFull]
      constructor
      · rintro (marked | ⟨isKind, found, rest, rfl, areKind, marked⟩)
        · exact ⟨[], char :: behind, rfl, by simp, by simpa [Marked] using marked⟩
        · refine ⟨char :: found, rest, rfl, ?_, by simpa [Marked] using marked⟩
          simpa [isKind] using areKind
      · rintro ⟨found, rest, parts, areKind, marked⟩
        cases found with
        | nil => exact Or.inl (by simpa [Marked] using marked)
        | cons first found =>
            rcases List.cons_eq_cons.mp parts with ⟨rfl, sameRest⟩
            refine Or.inr ⟨areKind char (by simp), found, rest, sameRest, ?_, ?_⟩
            · intro other member
              exact areKind other (by simp [member])
            · simpa [Marked] using marked

theorem marked_beforeMany_iff (full : goal.length = (before ++ behind).length + 1) :
    Marked (beforeMany kind (before ++ behind) goal) before.length ↔
      ∃ found rest, behind = found ++ rest ∧ (∀ char ∈ found, kind char = true) ∧
        Marked goal (before ++ found).length := by
  induction before generalizing goal with
  | nil => exact marked_beforeMany_zero_iff full
  | cons char before ih =>
      rcases List.exists_cons_of_length_eq_add_one full with ⟨mark, later, rfl⟩
      have laterFull : later.length = (before ++ behind).length + 1 := by simpa using full
      have nonempty : later ≠ [] := List.ne_nil_of_length_eq_add_one laterFull
      rw [List.cons_append, beforeMany_cons nonempty]
      simpa [Marked] using ih laterFull

theorem marked_beforeOne_iff (full : goal.length = (before ++ behind).length + 1) :
    Marked (beforeOne kind (before ++ behind) goal) before.length ↔
      ∃ char rest, behind = char :: rest ∧ kind char = true ∧ Marked goal (before.length + 1) := by
  cases behind with
  | nil => simp [Marked, beforeOne, full]
  | cons char rest =>
      have inside : before.length <
          (List.zipWith (fun char mark => kind char && mark) (before ++ char :: rest)
            goal.tail).length := by
        simp [full]
      rw [Marked, beforeOne, List.getElem?_append_left inside, ← Marked, marked_zipWith_iff]
      simp [Marked, List.getElem?_tail, and_comm]

theorem wordEdges_getElem? (before behind : List Char) :
    (wordEdges (before ++ behind))[before.length]? =
      Option.some (Text.endsInWord before != Text.beginsInWord behind) := by
  have left : (false :: (before ++ behind).map Text.isWord)[before.length]? =
      Option.some (Text.endsInWord before) := by
    rcases List.eq_nil_or_concat before with rfl | ⟨front, last, rfl⟩
    · rfl
    · simp [Text.endsInWord]
  have right : ((before ++ behind).map Text.isWord ++ [false])[before.length]? =
      Option.some (Text.beginsInWord behind) := by
    cases behind with
    | nil => simp [Text.beginsInWord]
    | cons char behind => simp [Text.beginsInWord]
  simp only [wordEdges, List.getElem?_zipWith, left, right]

theorem marked_lineEnds_iff (before behind : List Char) :
    Marked (lineEnds (before ++ behind)) before.length ↔ behind = [] ∨ behind = ['\n'] := by
  rcases List.eq_nil_or_concat behind with rfl | ⟨front, last, rfl⟩
  · rcases List.eq_nil_or_concat before with rfl | ⟨front, last, rfl⟩
    · simp [Marked, lineEnds]
    · simp [Marked, lineEnds]
  · cases front with
    | nil => simp [Marked, lineEnds]
    | cons char front =>
        have ends : (before ++ (char :: front).concat last).getLast? = Option.some last := by
          rw [List.concat_eq_append, ← List.append_assoc, List.getLast?_concat]
        simp only [Marked, lineEnds, ends]
        rw [List.getElem?_append_left (by simp)]
        simp

theorem marked_everywhere {place : Nat} (within : place ≤ line.length) :
    Marked (everywhere line) place := by
  rw [Marked, everywhere, List.getElem?_replicate, if_pos (by omega)]

theorem length_everywhere : (everywhere line).length = line.length + 1 := by
  rw [everywhere, List.length_replicate]

theorem length_starts (pattern : Pattern) (full : goal.length = line.length + 1) :
    (pattern.starts line goal).length = line.length + 1 := by
  induction pattern generalizing goal with
  | empty => exact full
  | one kind => simp [beforeOne, full]
  | many kind => exact length_beforeMany full
  | seq first second first_ih second_ih => exact first_ih (second_ih full)
  | either left right left_ih right_ih => simp [left_ih full, right_ih full]
  | wordEdge => simp [wordEdges, full]
  | lineStart => simp
  | lineEnd =>
      rcases List.eq_nil_or_concat line with rfl | ⟨front, last, rfl⟩
      · simp [lineEnds, full]
      · simp [lineEnds, full]
  | «unless» barred ih => simp [ih length_everywhere, full]

end Marks

/-! ## Where a pattern fits -/

theorem marked_starts_either_iff {left right : Pattern} {line : List Char} {goal : Marks} {place : Nat}
    (full : goal.length = line.length + 1) (within : place ≤ line.length) :
    Marked ((Pattern.either left right).starts line goal) place ↔
      Marked (left.starts line goal) place ∨ Marked (right.starts line goal) place := by
  rcases getElem?_of_full (length_starts left full) within with ⟨leftMark, leftMarked⟩
  rcases getElem?_of_full (length_starts right full) within with ⟨rightMark, rightMarked⟩
  rw [starts, marked_zipWith_iff, Marked, Marked, leftMarked, rightMarked]
  simp

section Conditions

/-! A pattern that fits nothing but an empty part is a condition on what stands before and behind it. The marks
before it are those of the goal where the condition holds. -/

variable {before behind : List Char} {goal : Marks}

theorem exists_emptyPart_iff {condition : List Char → Prop} :
    (∃ found rest, behind = found ++ rest ∧ (found = [] ∧ condition rest) ∧
      Marked goal (before ++ found).length) ↔ condition behind ∧ Marked goal before.length := by
  constructor
  · rintro ⟨found, rest, rfl, ⟨rfl, holds⟩, marked⟩
    exact ⟨holds, by simpa using marked⟩
  · rintro ⟨holds, marked⟩
    exact ⟨[], behind, rfl, ⟨rfl, holds⟩, by simpa using marked⟩

theorem marked_starts_wordEdge_iff :
    Marked (wordEdge.starts (before ++ behind) goal) before.length ↔
      Text.endsInWord before ≠ Text.beginsInWord behind ∧ Marked goal before.length := by
  rw [starts, marked_zipWith_iff]
  simp only [wordEdges_getElem?, Option.some.injEq, Bool.and_eq_true]
  constructor
  · rintro ⟨edge, mark, rfl, marked, isEdge, rfl⟩
    exact ⟨by simpa using isEdge, marked⟩
  · rintro ⟨isEdge, marked⟩
    exact ⟨_, true, rfl, marked, by simpa using isEdge, rfl⟩

theorem marked_starts_lineStart_iff (full : goal.length = (before ++ behind).length + 1) :
    Marked (lineStart.starts (before ++ behind) goal) before.length ↔
      before = [] ∧ Marked goal before.length := by
  rcases List.exists_cons_of_length_eq_add_one full with ⟨mark, later, rfl⟩
  cases before with
  | nil => simp [Marked]
  | cons char before =>
      simp only [Marked, starts, List.length_cons, List.getElem?_cons_succ, List.getElem?_replicate]
      split <;> simp

theorem marked_starts_lineEnd_iff :
    Marked (lineEnd.starts (before ++ behind) goal) before.length ↔
      (behind = [] ∨ behind = ['\n']) ∧ Marked goal before.length := by
  rw [starts, marked_zipWith_iff, ← marked_lineEnds_iff before behind]
  constructor
  · rintro ⟨ends, mark, isEnd, marked, both⟩
    rw [Bool.and_eq_true] at both
    rcases both with ⟨rfl, rfl⟩
    exact ⟨isEnd, marked⟩
  · rintro ⟨isEnd, marked⟩
    exact ⟨true, true, isEnd, marked, rfl⟩

theorem marked_starts_unless_iff {barred : Pattern} {line : List Char} {place : Nat}
    (full : goal.length = line.length + 1) (within : place ≤ line.length) :
    Marked ((Pattern.unless barred).starts line goal) place ↔
      ¬Marked (barred.starts line (everywhere line)) place ∧ Marked goal place := by
  rcases getElem?_of_full (length_starts barred length_everywhere) within with ⟨found, foundAt⟩
  rcases getElem?_of_full full within with ⟨mark, markAt⟩
  rw [starts, marked_zipWith_iff, Marked, Marked, foundAt, markAt]
  simp

end Conditions

/-- The marks before a pattern are the places from which it fits up to a marked place. -/
theorem marked_starts_iff (pattern : Pattern) {line before behind : List Char}
    (parts : line = before ++ behind) {goal : Marks} (full : goal.length = line.length + 1) :
    Marked (pattern.starts line goal) before.length ↔
      ∃ found rest, behind = found ++ rest ∧ pattern.Fits before found rest ∧
        Marked goal (before ++ found).length := by
  -- The goal is arbitrary because a sequence takes the marks before its second part as that of the first.
  induction pattern generalizing before behind goal with
  | empty =>
      constructor
      · intro marked
        exact ⟨[], behind, rfl, rfl, by simpa using marked⟩
      · rintro ⟨found, rest, _, rfl, marked⟩
        simpa using marked
  | one kind =>
      subst parts
      rw [starts, marked_beforeOne_iff full]
      constructor
      · rintro ⟨char, rest, rfl, isKind, marked⟩
        exact ⟨[char], rest, rfl, ⟨char, rfl, isKind⟩, by simpa using marked⟩
      · rintro ⟨found, rest, rfl, ⟨char, rfl, isKind⟩, marked⟩
        exact ⟨char, rest, rfl, isKind, by simpa using marked⟩
  | many kind =>
      subst parts
      exact marked_beforeMany_iff full
  | seq first second first_ih second_ih =>
      rw [starts, first_ih parts (length_starts second full)]
      constructor
      · rintro ⟨left, behindLeft, rfl, leftFits, marked⟩
        have leftParts : line = (before ++ left) ++ behindLeft := by simp [parts]
        rcases (second_ih leftParts full).mp marked with
          ⟨right, rest, rfl, rightFits, marked⟩
        refine ⟨left ++ right, rest, by simp, ⟨left, right, rfl, leftFits, rightFits⟩, ?_⟩
        simpa using marked
      · rintro ⟨found, rest, rfl, ⟨left, right, rfl, leftFits, rightFits⟩, marked⟩
        have leftParts : line = (before ++ left) ++ (right ++ rest) := by simp [parts]
        refine ⟨left, right ++ rest, by simp, leftFits, ?_⟩
        rw [second_ih leftParts full]
        exact ⟨right, rest, rfl, rightFits, by simpa using marked⟩
  | either left right left_ih right_ih =>
      have within : before.length ≤ line.length := by simp [parts]
      rw [marked_starts_either_iff full within, left_ih parts full, right_ih parts full]
      simp only [Fits, or_and_right, and_or_left, exists_or]
  | wordEdge =>
      subst parts
      simp only [Fits, exists_emptyPart_iff, marked_starts_wordEdge_iff]
  | lineStart =>
      subst parts
      simp only [Fits, exists_emptyPart_iff, marked_starts_lineStart_iff full]
  | lineEnd =>
      subst parts
      simp only [Fits, exists_emptyPart_iff, marked_starts_lineEnd_iff]
  | «unless» barred ih =>
      have barredIff : Marked (barred.starts line (everywhere line)) before.length ↔
          ∃ left right, behind = left ++ right ∧ barred.Fits before left right := by
        rw [ih parts length_everywhere]
        constructor
        · rintro ⟨left, right, rfl, fits, _⟩
          exact ⟨left, right, rfl, fits⟩
        · rintro ⟨left, right, rfl, fits⟩
          exact ⟨left, right, rfl, fits, marked_everywhere (by simp [parts])⟩
      have within : before.length ≤ line.length := by simp [parts]
      simp only [Fits, exists_emptyPart_iff, marked_starts_unless_iff full within, barredIff]

/-- A line shows a pattern if and only if the pattern fits some part of it. -/
theorem isShownBy_iff {pattern : Pattern} {line : List Char} :
    pattern.isShownBy line = true ↔
      ∃ before found behind, line = before ++ found ++ behind ∧ pattern.Fits before found behind := by
  have full : (pattern.starts line (everywhere line)).length = line.length + 1 :=
    length_starts pattern length_everywhere
  have shown : pattern.isShownBy line = true ↔
      ∃ place, Marked (pattern.starts line (everywhere line)) place := by
    rw [isShownBy, List.any_eq_true]
    constructor
    · rintro ⟨mark, member, rfl⟩
      exact List.mem_iff_getElem?.mp member
    · rintro ⟨place, marked⟩
      exact ⟨true, List.mem_of_getElem? marked, rfl⟩
  rw [shown]
  constructor
  · rintro ⟨place, marked⟩
    have within : place ≤ line.length := by
      rcases List.getElem?_eq_some_iff.mp marked with ⟨inside, _⟩
      omega
    have parts : line = line.take place ++ line.drop place := (List.take_append_drop _ _).symm
    have atPlace : place = (line.take place).length := by
      rw [List.length_take, Nat.min_eq_left within]
    rw [atPlace] at marked
    rcases (marked_starts_iff pattern parts length_everywhere).mp marked with
      ⟨found, behind, split, fits, _⟩
    refine ⟨line.take place, found, behind, ?_, fits⟩
    rw [List.append_assoc, ← split]
    exact parts
  · rintro ⟨before, found, behind, rfl, fits⟩
    refine ⟨before.length, ?_⟩
    rw [marked_starts_iff pattern (List.append_assoc before found behind) length_everywhere]
    exact ⟨found, behind, rfl, fits, marked_everywhere (by simp)⟩

end SkillScan.Pattern
