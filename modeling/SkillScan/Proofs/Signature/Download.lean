import Mathlib.Data.List.TakeWhile
import SkillScan.Proofs.Pattern.Language
import SkillScan.Signature.Network

/-!
# Lines that download from untrusted hosts

The rule about downloads looks at every web address of a line. An address counts if it does not begin
with a trusted host and if, up to the next blank, some dot behind its first character opens the extension
of a payload with which a word ends. Which other addresses stand on the line plays no part: an address
that counts still counts when any text is put before the line, or behind it so that no word is continued.
-/

namespace SkillScan.Signature

open Pattern Text

/-- What stands behind the slashes of a web address does not begin with a trusted host. -/
def Untrusted (address : List Char) : Prop :=
  ∀ host ∈ trustedHosts, ∀ beginning, beginning <+: address → ¬Spells host beginning

/-- What stands behind the slashes of a web address that counts as a download. -/
structure Downloads (address : List Char) : Prop where
  untrusted : Untrusted address
  payload : ∃ front written rest, ∃ extension ∈ payloadExtensions,
    address.takeWhile isSolid = front ++ '.' :: written ++ rest ∧ front ≠ [] ∧
      Spells extension written ∧ beginsInWord (rest ++ address.dropWhile isSolid) = false

/-! ## Addresses -/

section Address

variable {address front written behind : List Char} {extension : String}

theorem isSolid_of_spells (member : extension ∈ payloadExtensions) (spells : Spells extension written) :
    ∀ char ∈ written, isSolid char = true := by
  have visible : payloadExtensions.all (·.toList.all isVisibleAscii) = true := by decide
  intro char charMember
  rw [isSolid,
    not_isBlank_of_spells (List.all_eq_true.mp visible extension member) spells char charMember]
  rfl

/-- A payload may be looked for without the run of characters in which it stands. -/
theorem downloads_iff :
    Downloads address ↔ Untrusted address ∧ ∃ front written behind, ∃ extension ∈ payloadExtensions,
      address = front ++ '.' :: written ++ behind ∧ front ≠ [] ∧
        (∀ char ∈ front, isSolid char = true) ∧ Spells extension written ∧
          beginsInWord behind = false := by
  constructor
  · rintro ⟨untrusted, front, written, rest, extension, member, run, nonempty, spells, ended⟩
    refine ⟨untrusted, front, written, rest ++ address.dropWhile isSolid, extension, member, ?_,
      nonempty, ?_, spells, ended⟩
    · rw [← List.append_assoc, ← run, List.takeWhile_append_dropWhile]
    · intro char charMember
      apply List.mem_takeWhile_imp (l := address)
      rw [run]
      simp [charMember]
  · rintro ⟨untrusted, front, written, behind, extension, member, rfl, nonempty, solid, spells, ended⟩
    -- The run of solid characters does not end before the extension does.
    have allSolid : ∀ char ∈ front ++ '.' :: written, isSolid char = true := by
      intro char charMember
      rcases List.mem_append.mp charMember with inFront | inRest
      · exact solid char inFront
      · rcases List.mem_cons.mp inRest with rfl | inWritten
        · decide
        · exact isSolid_of_spells member spells char inWritten
    refine ⟨untrusted, front, written, behind.takeWhile isSolid, extension, member, ?_, nonempty,
      spells, ?_⟩
    · rw [List.takeWhile_append_of_pos allSolid]
    · rw [List.dropWhile_append_of_pos allSolid, List.takeWhile_append_dropWhile]
      exact ended

/-- No trusted host holds the extension of a payload, so text behind one does not make a host trusted. -/
theorem untrusted_append (untrusted : Untrusted (front ++ '.' :: written ++ behind))
    (member : extension ∈ payloadExtensions) (spells : Spells extension written) (more : List Char) :
    Untrusted (front ++ '.' :: written ++ behind ++ more) := by
  have apart : ∀ host ∈ trustedHosts, ∀ extension ∈ payloadExtensions,
      ¬('.' :: extension.toList).map caseClass <:+: host.toList.map caseClass := by
    decide +kernel
  intro host hostMember beginning isPrefix hostSpells
  rcases isPrefix with ⟨later, split⟩
  rcases List.append_eq_append_iff.mp split with ⟨left, inside, _⟩ | ⟨right, rfl, _⟩
  · exact untrusted host hostMember beginning ⟨left, inside.symm⟩ hostSpells
  · -- A host that ends only in the text behind runs over the dot and the extension.
    apply apart host hostMember extension member
    rw [spells_iff_map_caseClass.mp hostSpells, List.map_cons, spells_iff_map_caseClass.mp spells]
    refine ⟨front.map caseClass, (behind ++ right).map caseClass, ?_⟩
    simp

theorem downloads_append (downloads : Downloads address) {more : List Char}
    (ended : beginsInWord more = false) : Downloads (address ++ more) := by
  rcases downloads_iff.mp downloads with
    ⟨untrusted, front, written, behind, extension, member, rfl, nonempty, solid, spells, wordEnded⟩
  rw [downloads_iff]
  refine ⟨untrusted_append untrusted member spells more, front, written, behind ++ more, extension, member,
    by simp, nonempty, solid, spells, ?_⟩
  cases behind with
  | nil => exact ended
  | cons char behind => exact wordEnded

end Address

/-! ## The pattern -/

section Fits

variable {before found behind : List Char}

theorem spells_scheme_iff :
    (∃ left middle right, found = left ++ (middle ++ right) ∧ Spells "http" left ∧
        (Spells "s" middle ∨ middle = []) ∧ Spells "://" right) ↔
      Spells "http://" found ∨ Spells "https://" found := by
  have plain : "http://" = "http" ++ "://" := by decide
  have secure : "https://" = "http" ++ ("s" ++ "://") := by decide
  rw [plain, secure]
  simp only [spells_append_iff]
  constructor
  · rintro ⟨left, middle, right, rfl, http, secured | rfl, slashes⟩
    · exact Or.inr ⟨left, middle ++ right, rfl, http, middle, right, rfl, secured, slashes⟩
    · exact Or.inl ⟨left, right, rfl, http, slashes⟩
  · rintro (⟨left, right, rfl, http, slashes⟩ | ⟨left, _, rfl, http, middle, right, rfl, secured, slashes⟩)
    · exact ⟨left, [], right, rfl, http, Or.inr rfl, slashes⟩
    · exact ⟨left, middle, right, rfl, http, Or.inl secured, slashes⟩

theorem fits_unless_trusted_iff :
    (Pattern.unless (oneOf (trustedHosts.map anyCase))).Fits before found behind ↔
      found = [] ∧ Untrusted behind := by
  simp only [Pattern.Fits, fits_oneOf_iff, List.mem_map, exists_exists_and_eq_and, fits_anyCase_iff,
    and_congr_right_iff]
  intro _
  constructor
  · rintro none host member beginning ⟨rest, split⟩ spells
    exact none ⟨beginning, rest, split.symm, host, member, spells⟩
  · rintro untrusted ⟨left, right, rfl, host, member, spells⟩
    exact untrusted host member left (List.prefix_append left right) spells

theorem fits_untrustedDownload_iff :
    untrustedDownload.Fits before found behind ↔
      ∃ scheme front written, ∃ extension ∈ payloadExtensions,
        found = scheme ++ (front ++ '.' :: written) ∧
          (Spells "http://" scheme ∨ Spells "https://" scheme) ∧
          Untrusted (front ++ '.' :: written ++ behind) ∧ front ≠ [] ∧
          (∀ char ∈ front, isSolid char = true) ∧ Spells extension written ∧
          beginsInWord behind = false := by
  have ends : ∀ extension ∈ payloadExtensions, extension.toList.getLast?.any Char.isAlpha = true := by
    decide
  simp only [untrustedDownload, fits_inOrder_cons, inOrder_singleton, fits_anyCase_iff,
    fits_optional_iff, fits_oneOf_iff, fits_some_iff, fits_unless_trusted_iff, List.mem_map,
    exists_exists_and_eq_and]
  constructor
  · rintro ⟨http, _, rfl, httpSpelled, secured, _, rfl, securedSpelled, slashes, _, rfl, slashesSpelled,
      _, _, rfl, ⟨rfl, untrusted⟩, front, _, rfl, ⟨nonempty, solid⟩, dot, _, rfl, dotSpelled, written, _,
      rfl, ⟨extension, member, spells⟩, edge⟩
    rw [fits_wordEdge_iff_of_endsInWord (endsInWord_of_spells (ends extension member) spells _)] at edge
    rcases edge with ⟨rfl, ended⟩
    have isDot : dot = ['.'] := eq_of_spells_symbols (by decide) dotSpelled
    subst isDot
    refine ⟨http ++ (secured ++ slashes), front, written, extension, member, by simp, ?_, ?_, nonempty,
      solid, spells, ended⟩
    · exact spells_scheme_iff.mp ⟨http, secured, slashes, rfl, httpSpelled, securedSpelled, slashesSpelled⟩
    · simpa using untrusted
  · rintro ⟨scheme, front, written, extension, member, rfl, schemeSpelled, untrusted, nonempty, solid,
      spells, ended⟩
    rcases spells_scheme_iff.mpr schemeSpelled with
      ⟨http, secured, slashes, rfl, httpSpelled, securedSpelled, slashesSpelled⟩
    have edge : wordEdge.Fits (before ++ http ++ secured ++ slashes ++ [] ++ front ++ ['.'] ++ written) []
        behind := by
      rw [fits_wordEdge_iff_of_endsInWord (endsInWord_of_spells (ends extension member) spells _)]
      exact ⟨rfl, ended⟩
    have dot : Spells "." ['.'] := .cons (by decide) .nil
    refine ⟨http, _, List.append_assoc _ _ _, httpSpelled, secured, _, List.append_assoc _ _ _,
      securedSpelled, slashes, _, rfl, slashesSpelled, [], _, rfl, ⟨rfl, by simpa using untrusted⟩, front,
      _, rfl, ⟨nonempty, solid⟩, ['.'], written, rfl, dot, written, [], by simp,
      ⟨extension, member, spells⟩, edge⟩

end Fits

/-- A line fires the rule about downloads if and only if it holds a web address that counts, whatever
stands around that address. -/
theorem downloadRule_fires_iff (line : String) :
    (downloadRule.test line = true ↔ ∃ before scheme address,
      line.toList = before ++ scheme ++ address ∧
        (Spells "http://" scheme ∨ Spells "https://" scheme) ∧ Downloads address) ∧
      ∀ before behind : String, beginsInWord behind.toList = false →
        downloadRule.test line = true → downloadRule.test (before ++ line ++ behind) = true := by
  have language (line : String) : downloadRule.test line = true ↔ ∃ before scheme address,
      line.toList = before ++ scheme ++ address ∧
        (Spells "http://" scheme ∨ Spells "https://" scheme) ∧ Downloads address := by
    rw [downloadRule, Rule.ofPattern, isShownBy_iff]
    simp only [fits_untrustedDownload_iff, downloads_iff]
    constructor
    · rintro ⟨before, _, behind, split, scheme, front, written, extension, member, rfl, spells, untrusted,
        rest⟩
      refine ⟨before, scheme, front ++ '.' :: written ++ behind, ?_, spells, untrusted, front, written,
        behind, extension, member, rfl, rest⟩
      simp [split]
    · rintro ⟨before, scheme, _, split, spells, untrusted, front, written, behind, extension, member, rfl,
        rest⟩
      refine ⟨before, scheme ++ (front ++ '.' :: written), behind, ?_, scheme, front, written, extension,
        member, rfl, spells, untrusted, rest⟩
      simp [split]
  refine ⟨language line, ?_⟩
  intro before behind ended fires
  rcases (language line).mp fires with ⟨earlier, scheme, address, split, spells, downloads⟩
  rw [language]
  refine ⟨before.toList ++ earlier, scheme, address ++ behind.toList, ?_, spells,
    downloads_append downloads ended⟩
  simp [split]

/-- A download fires behind a trusted one, whatever the case of its letters. -/
theorem downloadRule_fires_exampleLine :
    downloadRule.test "HTTPS://example.org/tool.Tar.GZ" = true ∧
      downloadRule.test ("https://github.com/a.zip " ++ "HTTPS://example.org/tool.Tar.GZ" ++ "?v=1") =
        true := by
  have fires : downloadRule.test "HTTPS://example.org/tool.Tar.GZ" = true := by decide
  have ended : beginsInWord "?v=1".toList = false := by decide
  exact ⟨fires, (downloadRule_fires_iff "HTTPS://example.org/tool.Tar.GZ").2 _ _ ended fires⟩

end SkillScan.Signature
