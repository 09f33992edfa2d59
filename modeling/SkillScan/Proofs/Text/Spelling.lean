import Mathlib.Data.List.Forall2
import SkillScan.Text.Blank
import SkillScan.Text.Casing
import SkillScan.Text.WordChar

/-!
# Spelling without regard to case

A word is spelled by a text if the two agree letter by letter but for the case. The ASCII letters have
few other forms: the capital, and four letters beyond ASCII whose small or capital form is an ASCII
letter. All of these are word characters and none is a blank, so a text that spells a word has an edge
wherever the word has one.
-/

namespace SkillScan.Text

/-- Whether a text ends in a word character. -/
def endsInWord (text : List Char) : Bool :=
  text.getLast?.any isWord

/-- Whether a text begins with a word character. -/
def beginsInWord (text : List Char) : Bool :=
  text.head?.any isWord

/-- Whether a text is a word but for the case of its letters. -/
def Spells (word : String) (text : List Char) : Prop :=
  List.Forall₂ (fun wanted found => sameLetter wanted found = true) word.toList text

theorem endsInWord_append {text : List Char} (nonempty : text ≠ []) (before : List Char) :
    endsInWord (before ++ text) = endsInWord text := by
  rcases List.eq_nil_or_concat text with rfl | ⟨front, last, rfl⟩
  · exact absurd rfl nonempty
  · simp [endsInWord, List.getLast?_append]

theorem beginsInWord_append {text : List Char} (nonempty : text ≠ []) (behind : List Char) :
    beginsInWord (text ++ behind) = beginsInWord text := by
  cases text with
  | nil => exact absurd rfl nonempty
  | cons char text => rfl

/-! ## Characters beyond ASCII with a form in ASCII -/

/-- The characters beyond ASCII that differ from an ASCII letter only in case: the capital with a dot and
the small letter without one, the long s and the sign for kelvin. -/
def asciiLookalikes : List Char := ['\u0130', '\u0131', '\u017F', '\u212A']

theorem toNat_ofNat_eq {code : Nat} (noNul : Char.ofNat code ≠ '\x00') :
    (Char.ofNat code).toNat = code := by
  by_cases valid : code.isValidChar
  · rw [Char.ofNat, dif_pos valid]
    rfl
  · rw [Char.ofNat, dif_neg valid] at noNul
    exact absurd rfl noNul

/-- Only runs of a single capital shift into ASCII, and no run leads to the dotless or the long letter. -/
theorem shift_of_mem_caseRuns : ∀ run ∈ caseRuns,
    (0 ≤ run.shift ∨ 128 ≤ run.first + run.shift ∨
      run.first = run.last ∧ (run.first = 0x130 ∨ run.first = 0x212A)) ∧
      run.holds (0x131 - run.shift).toNat = false ∧ run.holds (0x17F - run.shift).toNat = false := by
  decide +kernel

/-- No capitals but two have their small letter in ASCII. -/
theorem le_add_shift_of_mem_caseRuns {run : CaseRun} (member : run ∈ caseRuns) {code : Nat}
    (holds : run.holds code = true) (beyond : 128 ≤ code) :
    128 ≤ (code + run.shift).toNat ∨ code = 0x130 ∨ code = 0x212A := by
  simp only [CaseRun.holds, Bool.and_eq_true, decide_eq_true_eq] at holds
  rcases (shift_of_mem_caseRuns run member).1 with forward | far | ⟨single, special⟩
  · omega
  · omega
  · omega

theorem add_shift_ne_of_mem_caseRuns {run : CaseRun} (member : run ∈ caseRuns) {code : Nat}
    (holds : run.holds code = true) {small : Nat} (special : small = 0x131 ∨ small = 0x17F) :
    (code + run.shift).toNat ≠ small := by
  intro same
  have missed := (shift_of_mem_caseRuns run member).2
  have back : ((small : Int) - run.shift).toNat = code := by omega
  rcases special with rfl | rfl
  · have none := missed.1
    rw [← back] at holds
    exact Bool.noConfusion (holds.symm.trans none)
  · have none := missed.2
    rw [← back] at holds
    exact Bool.noConfusion (holds.symm.trans none)

section SmallLetter

variable {char : Char}

theorem smallLetter_of_beyond (beyond : 128 ≤ char.toNat) :
    smallLetter char = char ∨ ∃ run ∈ caseRuns, run.holds char.toNat = true ∧
      smallLetter char = Char.ofNat (char.toNat + run.shift).toNat := by
  have notAscii : ¬char.toNat < 128 := by omega
  simp only [smallLetter, notAscii, if_false]
  cases found : caseRuns.find? (·.holds char.toNat) with
  | none => exact Or.inl rfl
  | some run =>
      have holds : run.holds char.toNat = true := by simpa using List.find?_some found
      exact Or.inr ⟨run, List.mem_of_find?_eq_some found, holds, rfl⟩

theorem eq_of_smallLetter_ascii (beyond : 128 ≤ char.toNat) (ascii : (smallLetter char).toNat < 128)
    (noNul : smallLetter char ≠ '\x00') : char = '\u0130' ∨ char = '\u212A' := by
  rcases smallLetter_of_beyond beyond with same | ⟨run, member, holds, same⟩
  · rw [same] at ascii
    omega
  · rw [same] at ascii noNul
    rw [toNat_ofNat_eq noNul] at ascii
    rcases le_add_shift_of_mem_caseRuns member holds beyond with far | dotted | kelvin
    · omega
    · exact Or.inl (Char.toNat_inj.mp dotted)
    · exact Or.inr (Char.toNat_inj.mp kelvin)

theorem eq_of_smallLetter_special (beyond : 128 ≤ char.toNat)
    (special : (smallLetter char).toNat = 0x131 ∨ (smallLetter char).toNat = 0x17F) :
    char = '\u0131' ∨ char = '\u017F' := by
  rcases smallLetter_of_beyond beyond with same | ⟨run, member, holds, same⟩
  · rw [same] at special
    exact special.imp Char.toNat_inj.mp Char.toNat_inj.mp
  · have noNul : smallLetter char ≠ '\x00' := by
      intro nul
      simp [nul] at special
    rw [same] at special noNul
    rw [toNat_ofNat_eq noNul] at special
    exact absurd rfl (add_shift_ne_of_mem_caseRuns member holds special)

/-- Beyond ASCII only four characters have the class of an ASCII character. -/
theorem mem_asciiLookalikes_of_caseClass (beyond : 128 ≤ char.toNat)
    (ascii : (caseClass char).toNat < 128) (noNul : caseClass char ≠ '\x00') :
    char ∈ asciiLookalikes := by
  have notAscii : ¬char.toNat < 128 := by omega
  simp only [caseClass, notAscii, if_false] at ascii noNul
  cases found : sharedCapitals.lookup (smallLetter char).toNat with
  | none =>
      simp only [found] at ascii noNul
      rcases eq_of_smallLetter_ascii beyond ascii noNul with rfl | rfl
      · decide
      · decide
  | some code =>
      simp only [found] at ascii noNul
      rw [toNat_ofNat_eq noNul] at ascii
      rcases List.lookup_eq_some_iff.mp found with ⟨earlier, later, split, _⟩
      have listed : ((smallLetter char).toNat, code) ∈ sharedCapitals := by simp [split]
      have far : ∀ pair ∈ sharedCapitals, pair.1 = 0x131 ∨ pair.1 = 0x17F ∨ 128 ≤ pair.2 := by
        decide
      have special : (smallLetter char).toNat = 0x131 ∨ (smallLetter char).toNat = 0x17F := by
        rcases far _ listed with dotless | long | far
        · exact Or.inl dotless
        · exact Or.inr long
        · simp only at far
          omega
      rcases eq_of_smallLetter_special beyond special with rfl | rfl
      · decide
      · decide

end SmallLetter

/-! ## Letters of a word -/

section SameLetter

variable {wanted found : Char}

theorem forall_ascii (property : Char → Prop) (all : ∀ code < 128, property (Char.ofNat code))
    {char : Char} (ascii : char.toNat < 128) : property char := by
  have here := all char.toNat ascii
  rwa [Char.ofNat_toNat] at here

/-- What is the same as an ASCII character but for the case. -/
theorem toLower_eq_or_mem_of_sameLetter (ascii : wanted.toNat < 128) (noNul : wanted ≠ '\x00')
    (same : sameLetter wanted found = true) :
    found.toNat < 128 ∧ found.toLower = wanted.toLower ∨ found ∈ asciiLookalikes := by
  have lowered : wanted.toLower.toNat < 128 ∧ (wanted.toLower = '\x00' → wanted = '\x00') :=
    forall_ascii (fun char => char.toLower.toNat < 128 ∧ (char.toLower = '\x00' → char = '\x00'))
      (by decide) ascii
  have wantedClass : caseClass wanted = wanted.toLower := by
    rw [caseClass, if_pos ascii]
  rw [sameLetter, beq_iff_eq, wantedClass] at same
  by_cases foundAscii : found.toNat < 128
  · rw [caseClass, if_pos foundAscii] at same
    exact Or.inl ⟨foundAscii, same.symm⟩
  · right
    apply mem_asciiLookalikes_of_caseClass (by omega)
    · rw [← same]
      exact lowered.1
    · rw [← same]
      intro nul
      exact noNul (lowered.2 nul)

/-- The characters beyond ASCII stand for letters only. -/
theorem letter_of_mem_asciiLookalikes (lookalike : found ∈ asciiLookalikes) :
    isWord found = true ∧ (caseClass found).isAlpha = true := by
  have letters : asciiLookalikes.all (fun char => isWord char && (caseClass char).isAlpha) = true := by
    decide +kernel
  exact Bool.and_eq_true_iff.mp (List.all_eq_true.mp letters found lookalike)

theorem isWord_of_sameLetter (letter : wanted.isAlpha = true)
    (same : sameLetter wanted found = true) : isWord found = true := by
  have ascii : wanted.toNat < 128 := by
    have ranges : (decide ('A'.val ≤ wanted.val ∧ wanted.val ≤ 'Z'.val) ||
        ('a'.val ≤ wanted.val && wanted.val ≤ 'z'.val)) = true := letter
    simp only [Bool.or_eq_true, Bool.and_eq_true, decide_eq_true_eq, UInt32.le_iff_toNat_le] at ranges
    have upper : 'Z'.val.toNat = 90 := rfl
    have lower : 'z'.val.toNat = 122 := rfl
    rw [Char.toNat]
    omega
  have noNul : wanted ≠ '\x00' := by
    rintro rfl
    exact absurd letter (by decide)
  rcases toLower_eq_or_mem_of_sameLetter ascii noNul same with ⟨foundAscii, lowered⟩ | lookalike
  · have kept : wanted.isAlpha = true → wanted.toLower.isAlpha = true :=
      forall_ascii (fun char => char.isAlpha = true → char.toLower.isAlpha = true)
        (by decide) ascii
    have isWord : found.toLower.isAlpha = true → isWord found = true :=
      forall_ascii (fun char => char.toLower.isAlpha = true → Text.isWord char = true)
        (by decide) foundAscii
    exact isWord (lowered ▸ kept letter)
  · exact (letter_of_mem_asciiLookalikes lookalike).1

theorem not_isBlank_of_sameLetter (ascii : wanted.toNat < 128) (noNul : wanted ≠ '\x00')
    (noBlank : isBlank wanted = false) (same : sameLetter wanted found = true) :
    isBlank found = false := by
  have kept {char : Char} (ascii : char.toNat < 128) : isBlank char.toLower = isBlank char :=
    forall_ascii (fun char => isBlank char.toLower = isBlank char) (by decide) ascii
  have lookalikes : asciiLookalikes.all (!isBlank ·) = true := by decide
  rcases toLower_eq_or_mem_of_sameLetter ascii noNul same with ⟨foundAscii, lowered⟩ | lookalike
  · rw [← kept foundAscii, lowered, kept ascii, noBlank]
  · simpa using List.all_eq_true.mp lookalikes found lookalike

end SameLetter

/-- Whether a character is written in ASCII and is no letter. -/
def isAsciiSymbol (char : Char) : Bool :=
  char.toNat < 128 && char != '\x00' && !char.isAlpha

/-- Whether a character is written in ASCII and is no capital. -/
def isAsciiSmall (char : Char) : Bool :=
  char.toNat < 128 && char != '\x00' && char.toLower == char

section Plain

variable {wanted found : Char}

theorem eq_of_sameLetter_symbol (symbol : isAsciiSymbol wanted = true)
    (same : sameLetter wanted found = true) : found = wanted := by
  simp only [isAsciiSymbol, Bool.and_eq_true, decide_eq_true_eq, bne_iff_ne, Bool.not_eq_true'] at symbol
  rcases symbol with ⟨⟨ascii, noNul⟩, noLetter⟩
  have fixed : wanted.isAlpha = false → wanted.toLower = wanted :=
    forall_ascii (fun char => char.isAlpha = false → char.toLower = char) (by decide) ascii
  rcases toLower_eq_or_mem_of_sameLetter ascii noNul same with ⟨foundAscii, lowered⟩ | lookalike
  · have noCapital : found.toLower.isAlpha = false → found.toLower = found :=
      forall_ascii (fun char => char.toLower.isAlpha = false → char.toLower = char) (by decide) foundAscii
    rw [fixed noLetter] at lowered
    rw [← lowered, noCapital (lowered ▸ noLetter)]
  · have letter := (letter_of_mem_asciiLookalikes lookalike).2
    rw [sameLetter, beq_iff_eq, caseClass, if_pos ascii, fixed noLetter] at same
    rw [← same, noLetter] at letter
    exact Bool.noConfusion letter

theorem toLower_eq_of_beyond (beyond : 128 ≤ found.toNat) : found.toLower = found := by
  unfold Char.toLower
  split
  · next capital =>
      have last : 'Z'.val.toNat = 90 := rfl
      have upToLast := UInt32.le_iff_toNat_le.mp capital.2
      rw [Char.toNat] at beyond
      omega
  · rfl

theorem sameLetter_iff_toLower (small : isAsciiSmall wanted = true) (noLookalike : found ∉ asciiLookalikes) :
    sameLetter wanted found = true ↔ wanted = found.toLower := by
  simp only [isAsciiSmall, Bool.and_eq_true, decide_eq_true_eq, bne_iff_ne, beq_iff_eq] at small
  rcases small with ⟨⟨ascii, noNul⟩, fixed⟩
  constructor
  · intro same
    rcases toLower_eq_or_mem_of_sameLetter ascii noNul same with ⟨_, lowered⟩ | lookalike
    · rw [lowered, fixed]
    · exact absurd lookalike noLookalike
  · rintro rfl
    have foundAscii : found.toNat < 128 := by
      by_contra beyond
      rw [toLower_eq_of_beyond (Nat.le_of_not_lt beyond)] at ascii
      exact beyond ascii
    rw [sameLetter, beq_iff_eq, caseClass, caseClass, if_pos ascii, if_pos foundAscii, fixed]

end Plain

/-! ## Edges and blanks of a word -/

/-- Whether a character is written in ASCII and can be seen. -/
def isVisibleAscii (char : Char) : Bool :=
  char.toNat < 128 && char != '\x00' && !isBlank char

section Spells

variable {word : String} {text : List Char}

theorem spells_iff_map_caseClass :
    Spells word text ↔ word.toList.map caseClass = text.map caseClass := by
  simp only [Spells, sameLetter, beq_iff_eq]
  rw [← List.forall₂_eq_eq_eq, List.forall₂_map_left_iff, List.forall₂_map_right_iff]

theorem spells_append_iff {first second : String} :
    Spells (first ++ second) text ↔
      ∃ left right, text = left ++ right ∧ Spells first left ∧ Spells second right := by
  simp only [Spells, String.toList_append]
  constructor
  · intro spells
    refine ⟨text.take first.toList.length, text.drop first.toList.length,
      (List.take_append_drop _ _).symm, ?_, ?_⟩
    · simpa using List.forall₂_take first.toList.length spells
    · simpa using List.forall₂_drop first.toList.length spells
  · rintro ⟨left, right, rfl, leftSpells, rightSpells⟩
    exact List.rel_append leftSpells rightSpells

theorem beginsInWord_of_spells (beginning : word.toList.head?.any Char.isAlpha = true)
    (spells : Spells word text) (behind : List Char) : beginsInWord (text ++ behind) = true := by
  rw [Spells] at spells
  cases letters : word.toList with
  | nil => simp [letters] at beginning
  | cons first rest =>
      rw [letters] at spells beginning
      rcases List.forall₂_cons_left_iff.mp spells with ⟨found, others, same, _, rfl⟩
      exact isWord_of_sameLetter beginning same

theorem endsInWord_of_spells (ending : word.toList.getLast?.any Char.isAlpha = true)
    (spells : Spells word text) (before : List Char) : endsInWord (before ++ text) = true := by
  have backwards := List.forall₂_reverse_iff.mpr spells
  rw [← List.head?_reverse] at ending
  cases letters : word.toList.reverse with
  | nil => simp [letters] at ending
  | cons last rest =>
      rw [letters] at backwards ending
      rcases List.forall₂_cons_left_iff.mp backwards with ⟨found, others, same, _, reversed⟩
      have split : text = others.reverse ++ [found] := by
        rw [← List.reverse_cons, ← reversed, List.reverse_reverse]
      rw [split, ← List.append_assoc]
      simpa [endsInWord] using isWord_of_sameLetter ending same

/-- A text that spells a word of visible ASCII characters holds no blank. -/
theorem not_isBlank_of_spells (visible : word.toList.all isVisibleAscii = true)
    (spells : Spells word text) : ∀ char ∈ text, isBlank char = false := by
  intro found member
  rcases List.get_of_mem member with ⟨⟨place, inside⟩, rfl⟩
  have sameLength := spells.length_eq
  have insideWord : place < word.toList.length := by omega
  have isVisible := List.all_eq_true.mp visible _ (List.get_mem word.toList ⟨place, insideWord⟩)
  simp only [isVisibleAscii, Bool.and_eq_true, decide_eq_true_eq, bne_iff_ne, Bool.not_eq_true'] at isVisible
  rcases isVisible with ⟨⟨ascii, noNul⟩, noBlank⟩
  exact not_isBlank_of_sameLetter ascii noNul noBlank (spells.get insideWord inside)

/-! ## Words in ASCII -/

theorem spells_self (word : String) : Spells word word.toList := by
  rw [spells_iff_map_caseClass]

theorem spells_iff_of_letters {same : Char → Char → Prop}
    (letters : ∀ wanted ∈ word.toList, ∀ found ∈ text, sameLetter wanted found = true ↔ same wanted found) :
    Spells word text ↔ List.Forall₂ same word.toList text := by
  rw [Spells, List.forall₂_iff_get, List.forall₂_iff_get]
  apply and_congr_right
  intro _
  apply forall_congr'
  intro place
  apply forall_congr'
  intro insideWord
  apply forall_congr'
  intro insideText
  exact letters _ (List.get_mem _ _) _ (List.get_mem _ _)

/-- A word without letters is spelled by itself only. -/
theorem eq_of_spells_symbols (symbols : word.toList.all isAsciiSymbol = true) (spells : Spells word text) :
    text = word.toList := by
  have plain : ∀ wanted ∈ word.toList, ∀ found ∈ text,
      sameLetter wanted found = true ↔ wanted = found := by
    intro wanted member found _
    constructor
    · intro same
      exact (eq_of_sameLetter_symbol (List.all_eq_true.mp symbols wanted member) same).symm
    · rintro rfl
      exact beq_self_eq_true _
  rw [spells_iff_of_letters plain, List.forall₂_eq_eq_eq] at spells
  exact spells.symm

/-- Without the characters from beyond ASCII it is the case of ASCII letters alone that is disregarded. -/
theorem spells_iff_map_toLower (small : word.toList.all isAsciiSmall = true)
    (noLookalikes : ∀ char ∈ text, char ∉ asciiLookalikes) :
    Spells word text ↔ word.toList = text.map Char.toLower := by
  have plain : ∀ wanted ∈ word.toList, ∀ found ∈ text,
      sameLetter wanted found = true ↔ wanted = found.toLower := by
    intro wanted member found foundMember
    exact sameLetter_iff_toLower (List.all_eq_true.mp small wanted member) (noLookalikes found foundMember)
  rw [spells_iff_of_letters plain, ← List.forall₂_eq_eq_eq, List.forall₂_map_right_iff]

end Spells

end SkillScan.Text
