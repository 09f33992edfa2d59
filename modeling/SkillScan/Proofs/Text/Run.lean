import Mathlib.Data.List.TakeWhile
import SkillScan.Text.Blank
import SkillScan.Text.WordChar

/-!
# Runs of characters

A run is a text of characters of one kind, at least one of them. Where a text of one kind is followed by
something else, the library's cutting of lists finds the place where it ends. Blanks and word characters
have no character in common, so a run of the one never goes on in a run of the other. Cutting the blanks at
both ends leaves a text that has none there.
-/

namespace SkillScan.Text

/-- Whether a text begins with a character of a kind. -/
def beginsIn (kind : Char → Bool) (text : List Char) : Bool :=
  text.head?.any kind

/-- Whether a text has characters, and of one kind only. -/
structure IsRun (kind : Char → Bool) (text : List Char) : Prop where
  nonempty : text ≠ []
  ofKind : ∀ char ∈ text, kind char = true

section Runs

variable {kind : Char → Bool} {text rest : List Char}

theorem isRun_of_all (nonempty : text ≠ []) (all : text.all kind = true) : IsRun kind text :=
  ⟨nonempty, List.all_eq_true.mp all⟩

theorem eq_false_of_all (all : text.all (!kind ·) = true) : ∀ char ∈ text, kind char = false := by
  intro char member
  simpa using List.all_eq_true.mp all char member

theorem takeWhile_append_of_stops (ofKind : ∀ char ∈ text, kind char = true)
    (stops : beginsIn kind rest = false) : (text ++ rest).takeWhile kind = text := by
  rw [List.takeWhile_append_of_pos ofKind]
  cases rest with
  | nil => simp
  | cons char rest =>
      have different : kind char = false := by simpa [beginsIn] using stops
      simp [different]

theorem dropWhile_append_of_stops (ofKind : ∀ char ∈ text, kind char = true)
    (stops : beginsIn kind rest = false) : (text ++ rest).dropWhile kind = rest := by
  rw [List.dropWhile_append_of_pos ofKind]
  cases rest with
  | nil => rfl
  | cons char rest =>
      have different : kind char = false := by simpa [beginsIn] using stops
      simp [different]

theorem beginsIn_dropWhile (kind : Char → Bool) (text : List Char) :
    beginsIn kind (text.dropWhile kind) = false := by
  induction text with
  | nil => rfl
  | cons char text ih =>
      cases isKind : kind char with
      | true => simpa [isKind] using ih
      | false => simp [isKind, beginsIn]

theorem dropWhile_eq_iff :
    text.dropWhile kind = rest ↔
      ∃ front, text = front ++ rest ∧ (∀ char ∈ front, kind char = true) ∧ beginsIn kind rest = false := by
  constructor
  · rintro rfl
    refine ⟨text.takeWhile kind, List.takeWhile_append_dropWhile.symm, ?_, beginsIn_dropWhile kind text⟩
    intro char member
    exact List.mem_takeWhile_imp member
  · rintro ⟨front, rfl, ofKind, stops⟩
    exact dropWhile_append_of_stops ofKind stops

theorem IsRun.not_beginsIn (run : IsRun kind text) {other : Char → Bool}
    (apart : ∀ char, kind char = true → other char = false) (rest : List Char) :
    beginsIn other (text ++ rest) = false := by
  cases text with
  | nil => exact absurd rfl run.nonempty
  | cons char text => exact apart char (run.ofKind char (by simp))

/-- The first character of a kind stands at one place only. -/
theorem append_cons_inj {other otherRest : List Char} {mark otherMark : Char}
    (plain : ∀ char ∈ text, kind char = false) (otherPlain : ∀ char ∈ other, kind char = false)
    (isMark : kind mark = true) (isOtherMark : kind otherMark = true)
    (same : text ++ mark :: rest = other ++ otherMark :: otherRest) :
    text = other ∧ mark = otherMark ∧ rest = otherRest := by
  have before {text : List Char} (rest : List Char) {mark : Char} (plain : ∀ char ∈ text, kind char = false)
      (isMark : kind mark = true) : (text ++ mark :: rest).takeWhile (!kind ·) = text := by
    apply takeWhile_append_of_stops
    · intro char member
      rw [plain char member, Bool.not_false]
    · simp [beginsIn, isMark]
  have sameText : text = other := by
    rw [← before rest plain isMark, same, before otherRest otherPlain isOtherMark]
  subst sameText
  have sameRest := List.append_cancel_left same
  exact ⟨rfl, List.cons.inj sameRest⟩

end Runs

/-! ## Blanks and words -/

/-- Whether no flip of a set lies behind one code point and up to another. -/
def CodeSet.isSteady (set : CodeSet) (first last : Nat) : Bool :=
  set.flips.toList.all fun flip => flip ≤ first || last < flip

theorem CodeSet.climb_congr {flips : Array Nat} {code other : Nat}
    (same : ∀ flip ∈ flips, flip ≤ code ↔ flip ≤ other) (steps low : Nat) :
    climb flips code steps low = climb flips other steps low := by
  induction steps generalizing low with
  | zero => rfl
  | succ steps ih =>
      have step : ∃ next, ∀ code, climb flips code (steps + 1) low =
          climb flips code steps (if flips.getD (next - 1) (code + 1) ≤ code then next else low) :=
        ⟨low + 2 ^ steps, fun _ => rfl⟩
      rcases step with ⟨next, step⟩
      have sameStep : flips.getD (next - 1) (code + 1) ≤ code ↔ flips.getD (next - 1) (other + 1) ≤ other := by
        by_cases inside : next - 1 < flips.size
        · simpa [Array.getD, inside] using same _ (Array.getElem_mem inside)
        · simp only [Array.getD, inside, dite_false]
          omega
      rw [step, step]
      simp only [sameStep]
      exact ih _

/-- Between two flips membership does not change. -/
theorem CodeSet.contains_eq_of_isSteady {set : CodeSet} {char other : Char} {last : Nat}
    (steady : set.isSteady other.toNat last = true) (from_other : other.toNat ≤ char.toNat)
    (upToLast : char.toNat ≤ last) : set.contains char = set.contains other := by
  have same : ∀ flip ∈ set.flips, flip ≤ char.toNat ↔ flip ≤ other.toNat := by
    intro flip member
    have apart := List.all_eq_true.mp steady flip (Array.mem_toList_iff.mpr member)
    simp only [Bool.or_eq_true, decide_eq_true_eq] at apart
    omega
  simp only [contains, flipsUpTo, climb_congr same]

/-- Beyond ASCII the blanks lie in four stretches without a word character. -/
theorem not_isWord_of_isBlank {char : Char} (blank : isBlank char = true) : isWord char = false := by
  by_cases ascii : char.toNat < 128
  · have below : ∀ code < 128, isBlank (Char.ofNat code) = true → isWord (Char.ofNat code) = false := by
      decide
    have here := below char.toNat ascii
    rw [Char.ofNat_toNat] at here
    exact here blank
  · have stretch (first : Char) (last : Nat) (noWord : wordChars.contains first = false)
        (steady : wordChars.isSteady first.toNat last = true) (fromFirst : first.toNat ≤ char.toNat)
        (upToLast : char.toNat ≤ last) : isWord char = false := by
      rw [isWord, if_neg ascii, CodeSet.contains_eq_of_isSteady steady fromFirst upToLast]
      exact noWord
    have places : 0x85 ≤ char.toNat ∧ char.toNat ≤ 0xA0 ∨
        0x1680 ≤ char.toNat ∧ char.toNat ≤ 0x1680 ∨ 0x2000 ≤ char.toNat ∧ char.toNat ≤ 0x205F ∨
          0x3000 ≤ char.toNat ∧ char.toNat ≤ 0x3000 := by
      simp only [isBlank, Bool.or_eq_true, Bool.and_eq_true, decide_eq_true_eq, beq_iff_eq] at blank
      omega
    rcases places with ⟨low, high⟩ | ⟨low, high⟩ | ⟨low, high⟩ | ⟨low, high⟩
    · exact stretch '\u0085' 0xA0 (by decide +kernel) (by decide +kernel) low high
    · exact stretch '\u1680' 0x1680 (by decide +kernel) (by decide +kernel) low high
    · exact stretch '\u2000' 0x205F (by decide +kernel) (by decide +kernel) low high
    · exact stretch '\u3000' 0x3000 (by decide +kernel) (by decide +kernel) low high

theorem not_isBlank_of_isWord {char : Char} (word : isWord char = true) : isBlank char = false := by
  by_contra blank
  rw [Bool.not_eq_false] at blank
  rw [not_isWord_of_isBlank blank] at word
  exact Bool.noConfusion word

/-! ## Blanks at either end -/

/-- Whether a text is another one between blanks, where the other neither begins nor ends in a blank. -/
def TrimsTo (text core : List Char) : Prop :=
  ∃ front back, text = front ++ core ++ back ∧ (∀ char ∈ front, isBlank char = true) ∧
    (∀ char ∈ back, isBlank char = true) ∧ (∀ first ∈ core.head?, isBlank first = false) ∧
      ∀ last ∈ core.getLast?, isBlank last = false

section Trimming

variable {text core : List Char}

theorem trimsTo_trimmed (text : List Char) : TrimsTo text (trimmed text) := by
  rcases dropWhile_eq_iff.mp (rfl : text.dropWhile isBlank = _) with ⟨front, whole, frontBlank, frontStops⟩
  -- The blanks at the end are those in front of what is left, read backwards.
  rcases dropWhile_eq_iff.mp (rfl : (text.dropWhile isBlank).reverse.dropWhile isBlank = _) with
    ⟨back, rest, backBlank, backStops⟩
  have behind : text.dropWhile isBlank = trimmed text ++ back.reverse := by
    rw [trimmed, ← List.reverse_append, ← rest, List.reverse_reverse]
  refine ⟨front, back.reverse, ?_, frontBlank, ?_, ?_, ?_⟩
  · rw [List.append_assoc, ← behind]
    exact whole
  · intro char member
    exact backBlank char (List.mem_reverse.mp member)
  · intro first isFirst
    rw [behind, beginsIn, List.head?_append, Option.mem_def.mp isFirst] at frontStops
    simpa using frontStops
  · intro last isLast
    rw [trimmed, List.getLast?_reverse] at isLast
    rw [beginsIn, isLast] at backStops
    simpa using backStops

theorem mem_of_mem_trimmed {char : Char} (member : char ∈ trimmed text) : char ∈ text := by
  rcases trimsTo_trimmed text with ⟨front, back, whole, _⟩
  rw [whole]
  simp [member]

/-- Where nothing is left there was nothing but blanks. -/
theorem TrimsTo.isBlank_of_nil (trims : TrimsTo text []) : ∀ char ∈ text, isBlank char = true := by
  rcases trims with ⟨front, back, rfl, frontBlank, backBlank, _⟩
  rw [List.append_nil, List.forall_mem_append]
  exact ⟨frontBlank, backBlank⟩

end Trimming

end SkillScan.Text
