import Mathlib.Data.List.Count
import SkillScan.Proofs.Text.Decoding

/-!
# Encoding and decoding

What has been encoded as UTF-8 is decoded again, character by character and without a malformed run. And
whatever the bytes of a text are, well-formed or not, its ASCII characters are the ASCII bytes in their order:
decoding takes none of them away and adds none, since all it puts in for other bytes is beyond ASCII.
-/

namespace SkillScan.Text

/-! ## One character -/

namespace Utf8Reader

/-- The byte that continues a character by six bits. -/
def continuation (bits : Nat) : UInt8 :=
  UInt8.ofNat (bits % 64 + 128)

theorem toNat_continuation (bits : Nat) : (continuation bits).toNat = bits % 64 + 128 := by
  rw [continuation, UInt8.toNat_ofNat']
  omega

section Continuation

variable {begun : Utf8Partial} {bits : Nat} (pieces : List Utf8Piece)
  (fromLeast : begun.least.toNat ≤ bits % 64 + 128) (toGreatest : bits % 64 + 128 ≤ begun.greatest.toNat)
include fromLeast toGreatest

theorem take_continuation :
    take ⟨pieces, some begun⟩ (continuation bits) = takeNext pieces begun (continuation bits) := by
  have inBounds : begun.least ≤ continuation bits ∧ continuation bits ≤ begun.greatest := by
    rw [UInt8.le_iff_toNat_le, UInt8.le_iff_toNat_le, toNat_continuation]
    exact ⟨fromLeast, toGreatest⟩
  simp [take, inBounds]

theorem take_last (last : begun.missing = 1) :
    take ⟨pieces, some begun⟩ (continuation bits) =
      ⟨.scalar (Char.ofNat (begun.value * 64 + bits % 64)) :: pieces, none⟩ := by
  rw [take_continuation pieces fromLeast toGreatest, takeNext, if_pos last, toNat_continuation,
    Nat.add_sub_cancel]

theorem take_inner (unfinished : begun.missing ≠ 1) :
    take ⟨pieces, some begun⟩ (continuation bits) =
      ⟨pieces, some ⟨continuation bits :: begun.bytes, begun.value * 64 + bits % 64, begun.missing - 1,
        0x80, 0xBF⟩⟩ := by
  rw [take_continuation pieces fromLeast toGreatest, takeNext, if_neg unfinished, toNat_continuation,
    Nat.add_sub_cancel]

end Continuation

theorem start?_of_ascii {byte : UInt8} (ascii : byte < 0x80) : Utf8Partial.start? byte = none := by
  simp only [UInt8.lt_iff_toNat_lt, UInt8.reduceToNat] at ascii
  simp only [Utf8Partial.start?, UInt8.le_iff_toNat_le, UInt8.reduceToNat, ← UInt8.toNat_inj,
    Bool.and_eq_true, decide_eq_true_eq, beq_iff_eq]
  grind

theorem take_start {byte : UInt8} {begun : Utf8Partial} (pieces : List Utf8Piece)
    (started : Utf8Partial.start? byte = some begun) : take ⟨pieces, none⟩ byte = ⟨pieces, some begun⟩ := by
  by_cases ascii : byte < 0x80
  · simp [start?_of_ascii ascii] at started
  · simp [take, takeFirst, ascii, started]

/-! ## Leading bytes -/

section Lead

variable {value : Nat} {byte : UInt8}

theorem start?_two (atLeast : 0x80 ≤ value) (atMost : value ≤ 0x7FF) (lead : byte.toNat = value / 64 + 0xC0) :
    Utf8Partial.start? byte = some ⟨[byte], value / 64, 1, 0x80, 0xBF⟩ := by
  have inRange : 0xC2 ≤ byte ∧ byte ≤ 0xDF := by
    simp only [UInt8.le_iff_toNat_le, UInt8.reduceToNat, lead]
    omega
  simp [Utf8Partial.start?, inRange, lead]

/-- The bounds of the second byte keep out what fewer bytes can encode, and surrogates. -/
theorem start?_three (atLeast : 0x800 ≤ value) (atMost : value ≤ 0xFFFF)
    (noSurrogate : value < 0xD800 ∨ 0xE000 ≤ value) (lead : byte.toNat = value / 4096 + 0xE0) :
    ∃ least greatest : UInt8,
      Utf8Partial.start? byte = some ⟨[byte], value / 4096, 2, least, greatest⟩ ∧
        least.toNat ≤ value / 64 % 64 + 128 ∧ value / 64 % 64 + 128 ≤ greatest.toNat := by
  have cases : byte = 0xE0 ∨ byte = 0xED ∨ 0xE1 ≤ byte ∧ byte ≤ 0xEF ∧ byte ≠ 0xED := by
    simp only [UInt8.le_iff_toNat_le, UInt8.reduceToNat, ← UInt8.toNat_inj, ne_eq, lead]
    omega
  rcases cases with rfl | rfl | ⟨low, high, notLast⟩
  · simp only [UInt8.reduceToNat] at lead
    have first : value / 4096 = 0 := by omega
    rw [first]
    refine ⟨0xA0, 0xBF, rfl, ?_⟩
    simp only [UInt8.reduceToNat]
    omega
  · simp only [UInt8.reduceToNat] at lead
    have last : value / 4096 = 13 := by omega
    rw [last]
    refine ⟨0x80, 0x9F, rfl, ?_⟩
    simp only [UInt8.reduceToNat]
    omega
  · refine ⟨0x80, 0xBF, ?_, ?_⟩
    · simp only [UInt8.le_iff_toNat_le, UInt8.reduceToNat, ← UInt8.toNat_inj, ne_eq] at low high notLast
      simp only [Utf8Partial.start?, UInt8.le_iff_toNat_le, UInt8.reduceToNat, ← UInt8.toNat_inj,
        Bool.and_eq_true, decide_eq_true_eq, beq_iff_eq]
      grind
    · simp only [UInt8.reduceToNat]
      omega

theorem start?_four (atLeast : 0x10000 ≤ value) (atMost : value < 0x110000)
    (lead : byte.toNat = value / 262144 + 0xF0) :
    ∃ least greatest : UInt8,
      Utf8Partial.start? byte = some ⟨[byte], value / 262144, 3, least, greatest⟩ ∧
        least.toNat ≤ value / 4096 % 64 + 128 ∧ value / 4096 % 64 + 128 ≤ greatest.toNat := by
  have cases : byte = 0xF0 ∨ byte = 0xF4 ∨ 0xF1 ≤ byte ∧ byte ≤ 0xF3 := by
    simp only [UInt8.le_iff_toNat_le, UInt8.reduceToNat, ← UInt8.toNat_inj, lead]
    omega
  rcases cases with rfl | rfl | ⟨low, high⟩
  · simp only [UInt8.reduceToNat] at lead
    have first : value / 262144 = 0 := by omega
    rw [first]
    refine ⟨0x90, 0xBF, rfl, ?_⟩
    simp only [UInt8.reduceToNat]
    omega
  · simp only [UInt8.reduceToNat] at lead
    have last : value / 262144 = 4 := by omega
    rw [last]
    refine ⟨0x80, 0x8F, rfl, ?_⟩
    simp only [UInt8.reduceToNat]
    omega
  · refine ⟨0x80, 0xBF, ?_, ?_⟩
    · simp only [UInt8.le_iff_toNat_le, UInt8.reduceToNat] at low high
      simp only [Utf8Partial.start?, UInt8.le_iff_toNat_le, UInt8.reduceToNat, ← UInt8.toNat_inj,
        Bool.and_eq_true, decide_eq_true_eq, beq_iff_eq]
      grind
    · simp only [UInt8.reduceToNat]
      omega

end Lead

/-! ## Encoded characters -/

/-- A character by the bytes that encode it, first by how many they are. -/
theorem foldl_take_utf8EncodeChar (char : Char) (pieces : List Utf8Piece) :
    (String.utf8EncodeChar char).foldl take ⟨pieces, none⟩ = ⟨.scalar char :: pieces, none⟩ := by
  have value : Char.ofNat char.toNat = char := Char.ofNat_toNat char
  have valid : char.toNat < 0xD800 ∨ 0xDFFF < char.toNat ∧ char.toNat < 0x110000 := char.valid
  have encoded : String.utf8EncodeChar char =
      if char.toNat ≤ 0x7F then [UInt8.ofNat char.toNat]
      else if char.toNat ≤ 0x7FF then
        [UInt8.ofNat (char.toNat / 64 % 32 + 192), continuation char.toNat]
      else if char.toNat ≤ 0xFFFF then
        [UInt8.ofNat (char.toNat / 4096 % 16 + 224), continuation (char.toNat / 64),
          continuation char.toNat]
      else
        [UInt8.ofNat (char.toNat / 262144 % 8 + 240), continuation (char.toNat / 4096),
          continuation (char.toNat / 64), continuation char.toNat] := rfl
  rw [encoded]
  generalize char.toNat = code at *
  split
  · next one =>
      have ascii : (UInt8.ofNat code).toNat = code := by
        rw [UInt8.toNat_ofNat']
        omega
      have small : UInt8.ofNat code < 0x80 := by
        rw [UInt8.lt_iff_toNat_lt, ascii]
        exact Nat.lt_succ_of_le one
      simp [take, takeFirst, small, ascii, value]
  · split
    · next notOne two =>
        have lead : (UInt8.ofNat (code / 64 % 32 + 192)).toNat = code / 64 + 0xC0 := by
          rw [UInt8.toNat_ofNat']
          omega
        have whole : code / 64 * 64 + code % 64 = code := by omega
        rw [List.foldl_cons, take_start pieces (start?_two (by omega) two lead), List.foldl_cons,
          take_last pieces (by simp) (by simp; omega) rfl, whole, value]
        rfl
    · split
      · next notTwo three =>
          have lead : (UInt8.ofNat (code / 4096 % 16 + 224)).toNat = code / 4096 + 0xE0 := by
            rw [UInt8.toNat_ofNat']
            omega
          rcases start?_three (by omega) three (by omega) lead with
            ⟨least, greatest, started, fromLeast, toGreatest⟩
          have whole : (code / 4096 * 64 + code / 64 % 64) * 64 + code % 64 = code := by omega
          rw [List.foldl_cons, take_start pieces started, List.foldl_cons,
            take_inner pieces fromLeast toGreatest (by simp), List.foldl_cons,
            take_last pieces (by simp) (by simp; omega) rfl, whole, value]
          rfl
      · next notThree =>
          have lead : (UInt8.ofNat (code / 262144 % 8 + 240)).toNat = code / 262144 + 0xF0 := by
            rw [UInt8.toNat_ofNat']
            omega
          rcases start?_four (by omega) (by omega) lead with
            ⟨least, greatest, started, fromLeast, toGreatest⟩
          have whole : ((code / 262144 * 64 + code / 4096 % 64) * 64 + code / 64 % 64) * 64 + code % 64 =
              code := by omega
          rw [List.foldl_cons, take_start pieces started, List.foldl_cons,
            take_inner pieces fromLeast toGreatest (by simp), List.foldl_cons,
            take_inner pieces (by simp) (by simp; omega) (by simp), List.foldl_cons,
            take_last pieces (by simp) (by simp; omega) rfl, whole, value]
          rfl

end Utf8Reader

/-! ## Encoded texts -/

theorem utf8Pieces_encode (text : String) : utf8Pieces (encode text) = text.toList.map .scalar := by
  have taken (chars : List Char) (pieces : List Utf8Piece) :
      (chars.flatMap String.utf8EncodeChar).foldl Utf8Reader.take ⟨pieces, none⟩ =
        ⟨(chars.map Utf8Piece.scalar).reverse ++ pieces, none⟩ := by
    induction chars generalizing pieces with
    | nil => rfl
    | cons char chars ih =>
        rw [List.flatMap_cons, List.foldl_append, Utf8Reader.foldl_take_utf8EncodeChar, ih]
        simp
  rw [utf8Pieces, encode, taken]
  simp [Utf8Reader.finish]

/-- Decoding with replacement gives an encoded text back. -/
theorem decodeReplacing_encode (text : String) : decodeReplacing (encode text) = text.toList := by
  rw [decodeReplacing, utf8Pieces_encode, List.map_map]
  exact List.map_id _

theorem strictText_scalars (start : Nat) (chars read : List Char) :
    strictText start (chars.map .scalar) read = .ok (read.reverse ++ chars) := by
  induction chars generalizing start read with
  | nil => simp [strictText]
  | cons char chars ih => simp [strictText, ih]

/-- An encoded text is well-formed, and decoding gives it back. -/
theorem decodeStrict_encode (text : String) : decodeStrict (encode text) = .ok text.toList := by
  rw [decodeStrict, utf8Pieces_encode, strictText_scalars]
  rfl

/-! ## ASCII -/

/-- The ASCII characters of a text, in their order. -/
def asciiOf (text : List Char) : List Char :=
  text.filter (·.toNat < 0x80)

theorem asciiOf_append (first second : List Char) :
    asciiOf (first ++ second) = asciiOf first ++ asciiOf second :=
  List.filter_append first second

theorem asciiOf_of_beyond {text : List Char} (beyond : ∀ char ∈ text, BeyondAscii char) :
    asciiOf text = [] := by
  rw [asciiOf, List.filter_eq_nil_iff]
  intro char member
  rw [decide_eq_true_eq, Nat.not_lt]
  exact beyond char member

/-- One more byte adds itself to the ASCII characters, or nothing. -/
theorem asciiOf_take {reader : Utf8Reader} (sound : reader.Sound) (byte : UInt8) :
    asciiOf (reader.take byte).text =
      asciiOf reader.text ++ ([byte].filter (· < 0x80)).map fun byte => Char.ofNat byte.toNat := by
  by_cases ascii : byte < 0x80
  · have small : (Char.ofNat byte.toNat).toNat < 0x80 := by
      rw [toNat_ofNat_byte]
      exact UInt8.lt_iff_toNat_lt.mp ascii
    rw [(Utf8Reader.take_ascii sound ascii).2, asciiOf_append]
    simp [asciiOf, ascii, small]
  · rcases Utf8Reader.take_beyondAscii sound (UInt8.not_lt.mp ascii) with
      ⟨shared, before, later, held, taken, _, beforeBeyond, laterBeyond⟩
    rw [held, taken, asciiOf_append, asciiOf_append, asciiOf_of_beyond beforeBeyond,
      asciiOf_of_beyond laterBeyond]
    simp [ascii]

/-- Decoding keeps the ASCII bytes as they are and adds no other ASCII character. -/
theorem asciiOf_decodeReplacing (bytes : List UInt8) :
    asciiOf (decodeReplacing bytes) =
      (bytes.filter (· < 0x80)).map fun byte => Char.ofNat byte.toNat := by
  have held (reader : Utf8Reader) (sound : reader.Sound) :
      asciiOf (bytes.foldl Utf8Reader.take reader).text =
        asciiOf reader.text ++ (bytes.filter (· < 0x80)).map fun byte => Char.ofNat byte.toNat := by
    induction bytes generalizing reader with
    | nil => simp
    | cons byte bytes ih =>
        rw [List.foldl_cons, ih _ (sound.take byte), asciiOf_take sound, List.append_assoc,
          ← List.map_append, ← List.filter_append, List.singleton_append]
  rw [decodeReplacing_eq_text, held _ Utf8Reader.sound_nothing]
  rfl

theorem charOf_injective : Function.Injective fun byte : UInt8 => Char.ofNat byte.toNat := by
  intro first second same
  have sameCode := congrArg Char.toNat same
  rw [toNat_ofNat_byte, toNat_ofNat_byte] at sameCode
  exact UInt8.toNat_inj.mp sameCode

/-- An ASCII character stands in a decoded text as often as its byte among the bytes. -/
theorem count_decodeReplacing {byte : UInt8} (ascii : byte < 0x80) (bytes : List UInt8) :
    (decodeReplacing bytes).count (Char.ofNat byte.toNat) = bytes.count byte := by
  have small : decide ((Char.ofNat byte.toNat).toNat < 0x80) = true := by
    rw [toNat_ofNat_byte, decide_eq_true_eq]
    exact UInt8.lt_iff_toNat_lt.mp ascii
  rw [← List.count_filter (p := fun char : Char => decide (char.toNat < 0x80)) small, ← asciiOf,
    asciiOf_decodeReplacing, List.count_map_of_injective _ _ charOf_injective,
    List.count_filter (by simpa using ascii)]

end SkillScan.Text
