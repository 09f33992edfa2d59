import SkillScan.Proofs.Signature.Download
import SkillScan.Proofs.Text.Run
import SkillScan.Proofs.Text.Separation

/-!
# What makes an address trusted

The rule about downloads compares trusted hosts with the text right behind the slashes of an address. This is
the host only where the address names no user: a user before an `@` is taken for the host, and the host itself
is not looked at. Whatever does not begin there with a trusted host is reported, on every line on which the
address ends before a blank; whatever does is passed over, unless a second address stands inside the first.
The comparison knows four letters beyond ASCII as forms of ASCII letters, and without these it is that of ASCII
letters regardless of case.
-/

namespace SkillScan.Signature

open Pattern Text

/-- A character of a user or host in an address. -/
def isAuthorityChar (char : Char) : Bool :=
  isSolid char && !(['/', '@', '?', '#'].contains char)

/-- The address of an archive, with or without a user before the host. -/
structure ArchiveAddress where
  user : Option (List Char)
  host : List Char
  path : List Char
  userPlain : ∀ name ∈ user, ∀ char ∈ name, isAuthorityChar char = true
  hostPlain : ∀ char ∈ host, isAuthorityChar char = true
  hostNonempty : host ≠ []
  pathSolid : ∀ char ∈ path, isSolid char = true

namespace ArchiveAddress

/-- What stands right behind the slashes: the user if there is one, and else the host. -/
def lead (address : ArchiveAddress) : List Char :=
  address.user.getD address.host

/-- User and host. -/
def authority (address : ArchiveAddress) : List Char :=
  match address.user with
  | none => address.host
  | Option.some name => name ++ '@' :: address.host

/-- The address without its scheme and its extension. -/
def stem (address : ArchiveAddress) : List Char :=
  address.authority ++ '/' :: address.path

/-- The address as it is written. -/
def text (address : ArchiveAddress) : String :=
  "https://" ++ String.ofList (address.stem ++ ".zip".toList)

section Parts

variable {address : ArchiveAddress}

theorem stem_ne_nil : address.stem ≠ [] := by
  simp [stem]

theorem isSolid_of_isAuthorityChar {char : Char} (plain : isAuthorityChar char = true) :
    isSolid char = true := by
  rw [isAuthorityChar, Bool.and_eq_true] at plain
  exact plain.1

theorem isSolid_of_mem_authority : ∀ char ∈ address.authority, isSolid char = true := by
  intro char member
  rw [authority] at member
  cases named : address.user with
  | none =>
      simp only [named] at member
      exact isSolid_of_isAuthorityChar (address.hostPlain char member)
  | some name =>
      simp only [named] at member
      rcases List.mem_append.mp member with inName | inRest
      · exact isSolid_of_isAuthorityChar (address.userPlain name named char inName)
      · rcases List.mem_cons.mp inRest with rfl | inHost
        · decide
        · exact isSolid_of_isAuthorityChar (address.hostPlain char inHost)

theorem isSolid_of_mem_stem : ∀ char ∈ address.stem, isSolid char = true := by
  intro char member
  rcases List.mem_append.mp member with inAuthority | inRest
  · exact isSolid_of_mem_authority char inAuthority
  · rcases List.mem_cons.mp inRest with rfl | inPath
    · decide
    · exact address.pathSolid char inPath

/-- Behind the lead stands a character that no host holds. -/
theorem exists_stem_eq :
    ∃ mark rest, (mark = '/' ∨ mark = '@') ∧ address.stem = address.lead ++ mark :: rest := by
  rw [stem, authority, lead]
  cases address.user with
  | none => exact ⟨'/', address.path, Or.inl rfl, rfl⟩
  | some name => exact ⟨'@', address.host ++ '/' :: address.path, Or.inr rfl, by simp⟩

end Parts

end ArchiveAddress

/-! ## Trust -/

section Trust

variable {lead rest : List Char}

/-- No trusted host reaches over a slash or the sign behind a user. -/
theorem untrusted_append_cons_iff {mark : Char} (isMark : mark = '/' ∨ mark = '@') :
    Untrusted (lead ++ mark :: rest) ↔ Untrusted lead := by
  have unheld : ∀ host ∈ trustedHosts, caseClass '/' ∉ host.toList.map caseClass ∧
      caseClass '@' ∉ host.toList.map caseClass := by
    decide
  have absent {host : String} (member : host ∈ trustedHosts) {beginning : List Char}
      (spells : Spells host beginning) : mark ∉ beginning := by
    intro held
    have same := unheld host member
    rw [spells_iff_map_caseClass.mp spells] at same
    rcases isMark with rfl | rfl
    · exact same.1 (List.mem_map_of_mem held)
    · exact same.2 (List.mem_map_of_mem held)
  constructor
  · intro untrusted host member beginning isPrefix
    exact untrusted host member beginning (isPrefix.trans (List.prefix_append lead _))
  · intro untrusted host member beginning isPrefix spells
    exact untrusted host member beginning ((prefix_append_cons_iff (absent member spells)).mp isPrefix) spells

theorem untrusted_iff_of_noLookalikes (noLookalikes : ∀ char ∈ lead, char ∉ asciiLookalikes) :
    Untrusted lead ↔ ∀ host ∈ trustedHosts, ¬host.toList <+: lead.map Char.toLower := by
  have small : ∀ host ∈ trustedHosts, host.toList.all isAsciiSmall = true := by decide
  apply forall_congr'
  intro host
  apply forall_congr'
  intro member
  have spells_iff {beginning : List Char} (isPrefix : beginning <+: lead) :
      Spells host beginning ↔ host.toList = beginning.map Char.toLower := by
    apply spells_iff_map_toLower (small host member)
    intro char inBeginning
    exact noLookalikes char (isPrefix.subset inBeginning)
  constructor
  · intro untrusted isPrefix
    rcases List.prefix_map_iff.mp isPrefix with ⟨beginning, beginningPrefix, same⟩
    exact untrusted beginning beginningPrefix ((spells_iff beginningPrefix).mpr same)
  · intro noPrefix beginning beginningPrefix spells
    apply noPrefix
    rw [(spells_iff beginningPrefix).mp spells]
    exact beginningPrefix.map Char.toLower

end Trust

/-! ## Addresses on a line -/

section Lines

variable {before behind front : List Char}

/-- An untrusted address of an archive is shown wherever it stands, if no word goes on behind it. -/
theorem isShownBy_untrustedDownload (nonempty : front ≠ []) (solid : ∀ char ∈ front, isSolid char = true)
    (untrusted : Untrusted (front ++ ".zip".toList ++ behind)) (ended : beginsInWord behind = false) :
    untrustedDownload.isShownBy
      (before ++ ("https://".toList ++ (front ++ ".zip".toList)) ++ behind) = true := by
  rw [isShownBy_iff]
  refine ⟨before, _, behind, rfl, ?_⟩
  rw [fits_untrustedDownload_iff]
  exact ⟨"https://".toList, front, "zip".toList, "zip", by decide, rfl, Or.inr (spells_self _), untrusted,
    nonempty, solid, spells_self _, ended⟩

/-- What is shown stands behind a colon and two slashes. -/
theorem exists_untrusted_of_shown {line : List Char} (shown : untrustedDownload.isShownBy line = true) :
    ∃ earlier address, line = earlier ++ ("://".toList ++ address) ∧ Untrusted address := by
  rw [isShownBy_iff] at shown
  rcases shown with ⟨before, _, behind, rfl, fits⟩
  rw [fits_untrustedDownload_iff] at fits
  rcases fits with ⟨scheme, front, written, extension, _, rfl, spelled, untrusted, _⟩
  have split : ∃ name, scheme = name ++ "://".toList := by
    have plain : "http://" = "http" ++ "://" := by decide
    have secure : "https://" = "https" ++ "://" := by decide
    rw [plain, secure, spells_append_iff, spells_append_iff] at spelled
    rcases spelled with ⟨name, slashes, rfl, _, slashesSpelled⟩ | ⟨name, slashes, rfl, _, slashesSpelled⟩
    · exact ⟨name, by rw [eq_of_spells_symbols (by decide) slashesSpelled]⟩
    · exact ⟨name, by rw [eq_of_spells_symbols (by decide) slashesSpelled]⟩
  rcases split with ⟨name, rfl⟩
  exact ⟨before ++ name, front ++ '.' :: written ++ behind, by simp, untrusted⟩

/-- A colon and two slashes behind a scheme are the scheme's own, or they stand in the rest. -/
theorem eq_or_infix_of_scheme {rest earlier address : List Char}
    (split : "https://".toList ++ rest = earlier ++ ("://".toList ++ address)) :
    address = rest ∨ "://".toList <:+: rest := by
  have isColon : (':' == ':') = true := rfl
  have plain {text : List Char} (noColon : ':' ∉ text) : ∀ char ∈ text, (char == ':') = false := by
    intro char member
    rw [beq_eq_false_iff_ne]
    rintro rfl
    exact noColon member
  have scheme : ∀ char ∈ "https".toList, (char == ':') = false := plain (by decide)
  by_cases colon : ':' ∈ earlier
  · right
    rcases List.eq_append_cons_of_mem colon with ⟨front, back, rfl, noColon⟩
    have whole : "https".toList ++ ':' :: ('/' :: '/' :: rest) =
        front ++ ':' :: (back ++ ("://".toList ++ address)) := by
      simpa using split
    rcases append_cons_inj scheme (plain noColon) isColon isColon whole with ⟨_, _, inner⟩
    have within : "://".toList <:+: '/' :: '/' :: rest := by
      rw [inner]
      exact ⟨back, address, by simp⟩
    simpa [List.infix_cons_iff] using within
  · left
    have whole : "https".toList ++ ':' :: ('/' :: '/' :: rest) =
        earlier ++ ':' :: ('/' :: '/' :: address) := split
    rcases append_cons_inj scheme (plain colon) isColon isColon whole with ⟨_, _, inner⟩
    simpa using inner.symm

end Lines

section Address

variable {address : ArchiveAddress}

theorem toList_text : address.text.toList = "https://".toList ++ (address.stem ++ ".zip".toList) := by
  rw [ArchiveAddress.text, String.toList_append]
  simp only [String.toList_ofList]

theorem test_downloadRule (line : String) :
    downloadRule.test line = untrustedDownload.isShownBy line.toList := rfl

theorem untrusted_behind_stem_iff {behind : List Char} :
    Untrusted (address.stem ++ behind) ↔ Untrusted address.lead := by
  rcases address.exists_stem_eq with ⟨mark, rest, isMark, stem⟩
  rw [stem, List.append_assoc, List.cons_append]
  exact untrusted_append_cons_iff isMark

theorem downloadRule_fires_of_untrusted (untrusted : Untrusted address.lead) {before behind : String}
    (ended : ∀ char ∈ behind.toList.head?, isBlank char = true) :
    downloadRule.test (before ++ address.text ++ behind) = true := by
  have noWord : beginsInWord behind.toList = false := by
    rw [beginsInWord]
    cases first : behind.toList.head? with
    | none => rfl
    | some char => simpa using not_isWord_of_isBlank (ended char first)
  have reaches : Untrusted (address.stem ++ ".zip".toList ++ behind.toList) := by
    rw [List.append_assoc]
    exact untrusted_behind_stem_iff.mpr untrusted
  rw [test_downloadRule, String.toList_append, String.toList_append, toList_text]
  exact isShownBy_untrustedDownload address.stem_ne_nil address.isSolid_of_mem_stem reaches noWord

theorem downloadRule_silent_of_trusted (trusted : ¬Untrusted address.lead)
    (single : ¬"://".toList <:+: address.stem) : downloadRule.test address.text = false := by
  rw [← Bool.not_eq_true]
  intro fires
  rw [test_downloadRule, toList_text] at fires
  rcases exists_untrusted_of_shown fires with ⟨earlier, inner, split, untrusted⟩
  rcases eq_or_infix_of_scheme split with rfl | within
  · exact trusted (untrusted_behind_stem_iff.mp untrusted)
  · have extension : ".zip".toList = '.' :: "zip".toList := rfl
    rw [extension, infix_append_cons_iff (by decide)] at within
    rcases within with inStem | inExtension
    · exact single inStem
    · exact absurd inExtension (by decide)

end Address

/-- Whether the address of an archive is reported depends on what stands right behind its slashes. If this does
not begin with a trusted host the address is reported wherever it stands, and else it is passed over. -/
theorem downloadRule_judges_lead (address : ArchiveAddress) :
    (Untrusted address.lead → ∀ before behind : String,
        (∀ char ∈ behind.toList.head?, isBlank char = true) →
          downloadRule.test (before ++ address.text ++ behind) = true) ∧
      (¬Untrusted address.lead → ¬"://".toList <:+: address.stem →
        downloadRule.test address.text = false) ∧
      ((∀ char ∈ address.lead, char ∉ asciiLookalikes) →
        (Untrusted address.lead ↔
          ∀ host ∈ trustedHosts, ¬host.toList <+: address.lead.map Char.toLower)) := by
  refine ⟨?_, ?_, ?_⟩
  · intro untrusted before behind ended
    exact downloadRule_fires_of_untrusted untrusted ended
  · intro trusted single
    exact downloadRule_silent_of_trusted trusted single
  · intro noLookalikes
    exact untrusted_iff_of_noLookalikes noLookalikes

/-- A user before the name of a trusted host. -/
def exampleAddress : ArchiveAddress where
  user := Option.some "me".toList
  host := "github.com".toList
  path := "a/b".toList
  userPlain := by
    rintro _ ⟨⟩
    exact List.all_eq_true.mp (by decide)
  hostPlain := List.all_eq_true.mp (by decide)
  hostNonempty := by decide
  pathSolid := List.all_eq_true.mp (by decide)

theorem downloadRule_judges_exampleAddress :
    Untrusted exampleAddress.lead ∧
      downloadRule.test ("get " ++ exampleAddress.text ++ " now") = true := by
  rcases downloadRule_judges_lead exampleAddress with ⟨reported, _, untrusted_iff⟩
  have noLookalikes : exampleAddress.lead.all (· ∉ asciiLookalikes) = true := by decide
  have untrusted : Untrusted exampleAddress.lead := by
    refine (untrusted_iff ?_).mpr (by decide)
    intro char member
    exact of_decide_eq_true (List.all_eq_true.mp noLookalikes char member)
  have ended : ∀ char ∈ " now".toList.head?, isBlank char = true := by
    rintro _ ⟨⟩
    rfl
  exact ⟨untrusted, reported untrusted "get " " now" ended⟩

/-- The name of a trusted host as that of a user, before a host of another name. -/
def disguisedAddress : ArchiveAddress where
  user := Option.some "github.com".toList
  host := "evil.example".toList
  path := "x".toList
  userPlain := by
    rintro _ ⟨⟩
    exact List.all_eq_true.mp (by decide)
  hostPlain := List.all_eq_true.mp (by decide)
  hostNonempty := by decide
  pathSolid := List.all_eq_true.mp (by decide)

/-- The address of a host that is not trusted is passed over for its user, and one for a letter that is no ASCII
letter in any case. -/
theorem downloadRule_misses_disguisedAddress :
    (∀ host ∈ trustedHosts, ¬host.toList <+: disguisedAddress.host.map Char.toLower) ∧
      downloadRule.test disguisedAddress.text = false ∧
      (∀ host ∈ trustedHosts, ¬host.toList <+: "nodej\u017F.example".toList.map Char.toLower) ∧
      downloadRule.test "https://nodej\u017F.example/x.zip" = false := by
  decide +kernel

end SkillScan.Signature
