import Mathlib.Tactic.Ring
import SkillScan.Text.Utf8

/-!
# Decoding with replacement

The reader of UTF-8 takes one byte after the other, and what it holds back is at most one character that
has been begun. A begun character can be continued only by bytes that are not ASCII, and however it is
completed, its value is that of a character beyond ASCII. So an ASCII byte always stands for itself: it
closes what was begun before it, and the bytes after it are read as if they stood alone.
-/

namespace SkillScan.Text

/-! ## Characters that have been begun -/

namespace Utf8Partial

/-- A value that a begun character may come to have, by the next byte and the bits of the rest. -/
def Completes (begun : Utf8Partial) (value : Nat) : Prop :=
  ∃ (next : UInt8) (rest : Nat), begun.least ≤ next ∧ next ≤ begun.greatest ∧
    rest < 64 ^ (begun.missing - 1) ∧
    value = (begun.value * 64 + (next.toNat - 0x80)) * 64 ^ (begun.missing - 1) + rest

/-- Only bytes that are no ASCII continue the character, and they make it a character beyond ASCII. -/
structure Sound (begun : Utf8Partial) : Prop where
  missing : 0 < begun.missing
  least : 0x80 ≤ begun.least
  greatest : begun.greatest ≤ 0xBF
  completed : ∀ value, begun.Completes value → 0x80 ≤ value ∧ value.isValidChar

/-- Soundness says that the least and the greatest value are those of characters beyond ASCII, with no
surrogate between them. -/
theorem sound_of_bounds {bytes : List UInt8} {value missing : Nat} {least greatest : UInt8}
    (positive : 0 < missing) (leastBound : 0x80 ≤ least) (greatestBound : greatest ≤ 0xBF)
    (lowest : 0x80 ≤ (value * 64 + (least.toNat - 0x80)) * 64 ^ (missing - 1))
    (highest : (value * 64 + (greatest.toNat - 0x80) + 1) * 64 ^ (missing - 1) ≤ 0x110000)
    (noSurrogate :
      (value * 64 + (greatest.toNat - 0x80) + 1) * 64 ^ (missing - 1) ≤ 0xD800 ∨
        0xE000 ≤ (value * 64 + (least.toNat - 0x80)) * 64 ^ (missing - 1)) :
    Sound ⟨bytes, value, missing, least, greatest⟩ := by
  refine ⟨positive, leastBound, greatestBound, ?_⟩
  rintro _ ⟨next, rest, fromLeast, toGreatest, bound, rfl⟩
  simp only [UInt8.le_iff_toNat_le] at fromLeast toGreatest
  have above : (value * 64 + (least.toNat - 0x80)) * 64 ^ (missing - 1) ≤
      (value * 64 + (next.toNat - 0x80)) * 64 ^ (missing - 1) := by
    apply Nat.mul_le_mul_right
    omega
  have below : (value * 64 + (next.toNat - 0x80) + 1) * 64 ^ (missing - 1) ≤
      (value * 64 + (greatest.toNat - 0x80) + 1) * 64 ^ (missing - 1) := by
    apply Nat.mul_le_mul_right
    omega
  rw [Nat.succ_mul] at below
  simp only at bound
  simp only [Nat.isValidChar]
  omega

theorem sound_of_start? {byte : UInt8} {begun : Utf8Partial} (started : start? byte = some begun) :
    begun.Sound := by
  simp only [start?, Bool.and_eq_true, decide_eq_true_eq, beq_iff_eq, UInt8.le_iff_toNat_le]
    at started
  -- One case for every range of first bytes, with the bounds of its second byte.
  repeat' split at started
  all_goals
    cases started
    try
      apply sound_of_bounds (by decide) (by decide) (by decide)
  all_goals simp_all [← UInt8.toNat_inj]
  all_goals omega

theorem Sound.next {begun : Utf8Partial} (sound : begun.Sound) (unfinished : begun.missing ≠ 1)
    {byte : UInt8} (fromLeast : begun.least ≤ byte) (toGreatest : byte ≤ begun.greatest) :
    Sound ⟨byte :: begun.bytes, begun.value * 64 + (byte.toNat - 0x80), begun.missing - 1, 0x80, 0xBF⟩ := by
  have positive := sound.missing
  refine ⟨?_, UInt8.le_refl 0x80, UInt8.le_refl 0xBF, ?_⟩
  · show 0 < begun.missing - 1
    omega
  · rintro value ⟨next, rest, _, nextBound, bound, rfl⟩
    apply sound.completed
    have power : 64 ^ (begun.missing - 1) = 64 * 64 ^ (begun.missing - 1 - 1) := by
      rw [← Nat.pow_succ']
      congr 1
      omega
    refine ⟨byte, (next.toNat - 0x80) * 64 ^ (begun.missing - 1 - 1) + rest, fromLeast, toGreatest,
      ?_, ?_⟩
    · rw [power]
      have nextSmall : next.toNat - 0x80 ≤ 63 := by
        have nextNat : next.toNat ≤ 0xBF := UInt8.le_iff_toNat_le.mp nextBound
        omega
      have product := Nat.mul_le_mul_right (64 ^ (begun.missing - 1 - 1)) nextSmall
      simp only at bound
      omega
    · rw [power]
      ring

end Utf8Partial

/-! ## Readers -/

/-- A character that is no ASCII. -/
def BeyondAscii (char : Char) : Prop :=
  0x80 ≤ char.toNat

namespace Utf8Reader

/-- Whatever character the reader has begun is sound. -/
def Sound (reader : Utf8Reader) : Prop :=
  ∀ begun, reader.pending = some begun → begun.Sound

/-- The text of the bytes so far, as if no more came. -/
def text (reader : Utf8Reader) : List Char :=
  reader.finish.reverse.map Utf8Piece.replaced

/-- The reader with more pieces before its own. -/
def after (earlier : List Utf8Piece) (reader : Utf8Reader) : Utf8Reader :=
  ⟨reader.pieces ++ earlier, reader.pending⟩

theorem sound_takeFirst (pieces : List Utf8Piece) (byte : UInt8) : (takeFirst pieces byte).Sound := by
  intro begun pending
  simp only [takeFirst] at pending
  split at pending
  · simp at pending
  · cases started : Utf8Partial.start? byte with
    | none => simp [started] at pending
    | some other =>
        simp only [started, Option.some.injEq] at pending
        exact pending ▸ Utf8Partial.sound_of_start? started

theorem Sound.take {reader : Utf8Reader} (sound : reader.Sound) (byte : UInt8) :
    (reader.take byte).Sound := by
  simp only [Utf8Reader.take]
  cases pending : reader.pending with
  | none => exact sound_takeFirst _ _
  | some begun =>
      simp only [Bool.and_eq_true, decide_eq_true_eq]
      split
      · next continues =>
          intro later laterPending
          simp only [takeNext] at laterPending
          split at laterPending
          · simp at laterPending
          · next unfinished =>
              cases laterPending
              exact (sound begun pending).next unfinished continues.1 continues.2
      · exact sound_takeFirst _ _

theorem sound_foldl_take (bytes : List UInt8) {reader : Utf8Reader} (sound : reader.Sound) :
    (bytes.foldl Utf8Reader.take reader).Sound := by
  induction bytes generalizing reader with
  | nil => exact sound
  | cons byte bytes ih => exact ih (sound.take byte)

theorem sound_nothing : Sound ⟨[], none⟩ := by
  intro begun pending
  simp at pending

/-! ## One byte -/

theorem take_after (earlier : List Utf8Piece) (reader : Utf8Reader) (byte : UInt8) :
    (reader.after earlier).take byte = (reader.take byte).after earlier := by
  simp only [take, after]
  cases reader.pending with
  | none =>
      simp only [takeFirst]
      split
      · rfl
      · cases Utf8Partial.start? byte <;> rfl
  | some begun =>
      simp only
      split
      · simp only [takeNext]
        split <;> rfl
      · simp only [takeFirst]
        split
        · rfl
        · cases Utf8Partial.start? byte <;> rfl

theorem foldl_take_after (bytes : List UInt8) (earlier : List Utf8Piece) (reader : Utf8Reader) :
    bytes.foldl take (reader.after earlier) = (bytes.foldl take reader).after earlier := by
  induction bytes generalizing reader with
  | nil => rfl
  | cons byte bytes ih => rw [List.foldl_cons, take_after, ih, List.foldl_cons]

theorem text_after (earlier : List Utf8Piece) (reader : Utf8Reader) :
    (reader.after earlier).text = earlier.reverse.map Utf8Piece.replaced ++ reader.text := by
  rcases reader with ⟨pieces, pending⟩
  cases pending <;> simp [text, after, finish]

/-- A reader takes an ASCII byte for itself and holds nothing back then. -/
theorem take_ascii {reader : Utf8Reader} (sound : reader.Sound) {byte : UInt8} (ascii : byte < 0x80) :
    (reader.take byte).pending = none ∧
      (reader.take byte).text = reader.text ++ [Char.ofNat byte.toNat] := by
  simp only [take]
  cases pending : reader.pending with
  | none => simp [takeFirst, ascii, text, finish, pending, Utf8Piece.replaced]
  | some begun =>
      have below : ¬begun.least ≤ byte := by
        have least := (sound begun pending).least
        simp only [UInt8.le_iff_toNat_le, UInt8.lt_iff_toNat_lt] at *
        omega
      simp [below, takeFirst, ascii, text, finish, pending, Utf8Piece.replaced]

theorem beyondAscii_replacement : BeyondAscii '\uFFFD' := by
  simp only [BeyondAscii]
  decide

theorem text_takeFirst {byte : UInt8} (beyond : 0x80 ≤ byte) (pieces : List Utf8Piece) :
    (takeFirst pieces byte).text = pieces.reverse.map Utf8Piece.replaced ++ ['\uFFFD'] := by
  have notAscii : ¬byte < 0x80 := UInt8.not_lt.mpr beyond
  simp only [takeFirst, notAscii, if_false]
  cases Utf8Partial.start? byte <;> simp [text, finish, Utf8Piece.replaced]

theorem beyondAscii_of_completed {begun : Utf8Partial} (sound : begun.Sound) (last : begun.missing = 1)
    {byte : UInt8} (fromLeast : begun.least ≤ byte) (toGreatest : byte ≤ begun.greatest) :
    BeyondAscii (Char.ofNat (begun.value * 64 + (byte.toNat - 0x80))) := by
  have completes : begun.Completes (begun.value * 64 + (byte.toNat - 0x80)) :=
    ⟨byte, 0, fromLeast, toGreatest, by simp [last], by simp [last]⟩
  rcases sound.completed _ completes with ⟨beyond, valid⟩
  rw [BeyondAscii, Char.ofNat, dif_pos valid]
  exact beyond

/-- What another byte changes at the end of the text is all beyond ASCII. -/
theorem take_beyondAscii {reader : Utf8Reader} (sound : reader.Sound) {byte : UInt8}
    (beyond : 0x80 ≤ byte) :
    ∃ shared before later, reader.text = shared ++ before ∧
      (reader.take byte).text = shared ++ later ∧ later ≠ [] ∧
      (∀ char ∈ before, BeyondAscii char) ∧ ∀ char ∈ later, BeyondAscii char := by
  have replacement := beyondAscii_replacement
  refine ⟨reader.pieces.reverse.map Utf8Piece.replaced, ?_⟩
  simp only [take]
  cases pending : reader.pending with
  | none =>
      refine ⟨[], ['\uFFFD'], by simp [text, finish, pending], text_takeFirst beyond _, ?_⟩
      simp [replacement]
  | some begun =>
      have held : reader.text = reader.pieces.reverse.map Utf8Piece.replaced ++ ['\uFFFD'] := by
        simp [text, finish, pending, Utf8Piece.replaced]
      simp only [Bool.and_eq_true, decide_eq_true_eq]
      split
      · next continues =>
          simp only [takeNext]
          split
          · next last =>
              refine ⟨['\uFFFD'], [Char.ofNat (begun.value * 64 + (byte.toNat - 0x80))], held, ?_, ?_⟩
              · simp [text, finish, Utf8Piece.replaced]
              · simp [replacement, beyondAscii_of_completed (sound begun pending) last continues.1
                  continues.2]
          · refine ⟨['\uFFFD'], ['\uFFFD'], held, ?_, ?_⟩
            · simp [text, finish, Utf8Piece.replaced]
            · simp [replacement]
      · refine ⟨['\uFFFD'], ['\uFFFD', '\uFFFD'], held, ?_, ?_⟩
        · simp [text_takeFirst beyond, Utf8Piece.replaced]
        · simp [replacement]

end Utf8Reader

/-! ## Whole texts -/

theorem decodeReplacing_eq_text (bytes : List UInt8) :
    decodeReplacing bytes = (bytes.foldl Utf8Reader.take ⟨[], none⟩).text := rfl

/-- An ASCII byte cuts a text into two that are decoded on their own. -/
theorem decodeReplacing_append_cons {byte : UInt8} (ascii : byte < 0x80) (first second : List UInt8) :
    decodeReplacing (first ++ byte :: second) =
      decodeReplacing first ++ Char.ofNat byte.toNat :: decodeReplacing second := by
  have sound := Utf8Reader.sound_foldl_take first Utf8Reader.sound_nothing
  rcases Utf8Reader.take_ascii sound ascii with ⟨nothingHeld, taken⟩
  simp only [decodeReplacing_eq_text, List.foldl_append, List.foldl_cons]
  generalize (first.foldl Utf8Reader.take ⟨[], none⟩).take byte = reader at nothingHeld taken
  -- A reader that holds nothing back goes on as one that has just begun.
  have afresh : reader = Utf8Reader.after reader.pieces ⟨[], none⟩ := by
    rcases reader with ⟨pieces, pending⟩
    simp_all [Utf8Reader.after]
  have ended : reader.pieces.reverse.map Utf8Piece.replaced = reader.text := by
    simp [Utf8Reader.text, Utf8Reader.finish, nothingHeld]
  rw [afresh, Utf8Reader.foldl_take_after, Utf8Reader.text_after]
  simp only [ended, taken, List.append_assoc, List.singleton_append]

theorem decodeReplacing_append_newline (first second : List UInt8) :
    decodeReplacing (first ++ 0x0A :: second) = decodeReplacing first ++ '\n' :: decodeReplacing second :=
  decodeReplacing_append_cons (show (0x0A : UInt8) < 0x80 by decide) first second

theorem toNat_ofNat_byte (byte : UInt8) : (Char.ofNat byte.toNat).toNat = byte.toNat := by
  have small := byte.toNat_lt
  have valid : byte.toNat.isValidChar := Or.inl (by omega)
  rw [Char.ofNat, dif_pos valid]
  rfl

/-- A text ends in an ASCII character only if its bytes end in that character. -/
theorem getLast?_of_decodeReplacing {bytes : List UInt8} {char : Char}
    (last : (decodeReplacing bytes).getLast? = some char) (ascii : ¬BeyondAscii char) :
    bytes.getLast? = some (UInt8.ofNat char.toNat) := by
  rcases List.eq_nil_or_concat bytes with rfl | ⟨front, byte, rfl⟩
  · simp [decodeReplacing, utf8Pieces, Utf8Reader.finish] at last
  · have sound := Utf8Reader.sound_foldl_take front Utf8Reader.sound_nothing
    rw [List.concat_eq_append] at last ⊢
    rw [List.getLast?_concat]
    rw [decodeReplacing_eq_text, List.foldl_append, List.foldl_cons, List.foldl_nil] at last
    by_cases asciiByte : byte < 0x80
    · rw [(Utf8Reader.take_ascii sound asciiByte).2, List.getLast?_concat,
        Option.some.injEq] at last
      rw [← last, toNat_ofNat_byte, UInt8.ofNat_toNat]
    · have beyondByte : 0x80 ≤ byte := UInt8.not_lt.mp asciiByte
      rcases Utf8Reader.take_beyondAscii sound beyondByte with
        ⟨shared, before, later, _, taken, nonempty, _, beyond⟩
      rw [taken, List.getLast?_append, List.getLast?_eq_some_getLast nonempty, Option.some_or,
        Option.some.injEq] at last
      exact absurd (beyond char (last ▸ List.getLast_mem nonempty)) ascii

end SkillScan.Text
