import SkillScan.Proofs.Signature.SafeContext
import SkillScan.Signature.Builtin

/-!
# Lines that hold a credential

The three rules about credentials look for a token of one service in quotes: so many digits, letters or
other characters and no fewer, and for some of them no more. The quotes need not be of the same kind. Of the
lines that fire such a rule, those that look free of secrets are passed over; on each of the others the rule
is reported once.
-/

namespace SkillScan.Signature

open Pattern Text

/-- Nine or ten digits, a colon and at least 34 token characters, in quotes. -/
def IsTelegramToken (text : List Char) : Prop :=
  ∃ quote digits key endQuote, text = quote :: (digits ++ ':' :: (key ++ [endQuote])) ∧
    isQuote quote = true ∧ (digits.length = 9 ∨ digits.length = 10) ∧
      (∀ char ∈ digits, isDecimalDigit char = true) ∧ 34 ≤ key.length ∧
        (∀ char ∈ key, isTokenChar char = true) ∧ isQuote endQuote = true

/-- `gh`, the letter of a kind of token, an underscore and at least 36 letters and digits, in quotes. -/
def IsGitHubToken (text : List Char) : Prop :=
  ∃ quote kind key endQuote, text = quote :: 'g' :: 'h' :: kind :: '_' :: (key ++ [endQuote]) ∧
    isQuote quote = true ∧ kind ∈ ['p', 'o', 'u', 's', 'r'] ∧ 36 ≤ key.length ∧
      (∀ char ∈ key, isLetterOrDigit char = true) ∧ isQuote endQuote = true

/-- `sk-` and 48 letters and digits, in quotes. -/
def IsOpenAIKey (text : List Char) : Prop :=
  ∃ quote key endQuote, text = quote :: 's' :: 'k' :: '-' :: (key ++ [endQuote]) ∧
    isQuote quote = true ∧ key.length = 48 ∧ (∀ char ∈ key, isLetterOrDigit char = true) ∧
      isQuote endQuote = true

/-! ## The patterns -/

section Fits

variable {before found behind : List Char}

theorem fits_nineOrTen_iff {kind : Char → Bool} {rest : List Pattern} {next : Pattern} :
    (inOrder (exactly kind 9 :: optional (one kind) :: next :: rest)).Fits before found behind ↔
      ∃ digits others, found = digits ++ others ∧ (digits.length = 9 ∨ digits.length = 10) ∧
        (∀ char ∈ digits, kind char = true) ∧
          (inOrder (next :: rest)).Fits (before ++ digits) others behind := by
  simp only [fits_inOrder_cons, fits_exactly_iff, fits_optional_iff]
  constructor
  · rintro ⟨nine, _, rfl, ⟨length, areKind⟩, last, others, rfl, ⟨char, rfl, isKind⟩ | rfl, fits⟩
    · refine ⟨nine ++ [char], others, by simp, by simp [length], ?_, by simpa using fits⟩
      intro other member
      rcases List.mem_append.mp member with member | member
      · exact areKind other member
      · rw [List.mem_singleton.mp member]
        exact isKind
    · exact ⟨nine, others, rfl, Or.inl length, areKind, by simpa using fits⟩
  · rintro ⟨digits, others, rfl, length | length, areKind, fits⟩
    · exact ⟨digits, others, rfl, ⟨length, areKind⟩, [], others, rfl, Or.inr rfl, by simpa using fits⟩
    · -- Of ten digits the last one is the digit that may be missing.
      rcases List.eq_nil_or_concat digits with rfl | ⟨nine, char, rfl⟩
      · exact absurd length (by decide)
      · refine ⟨nine, char :: others, by simp, ⟨by simpa using length, ?_⟩, [char], others, rfl,
          Or.inl ⟨char, rfl, areKind char (by simp)⟩, by simpa using fits⟩
        intro other member
        exact areKind other (by simp [member])

theorem fits_telegramToken_iff :
    telegramToken.Fits before found behind ↔ IsTelegramToken found := by
  have colon : ":".toList = [':'] := rfl
  rw [telegramToken, fits_inOrder_cons]
  simp only [fits_nineOrTen_iff]
  simp only [fits_inOrder_cons, inOrder_singleton, fits_text_iff, fits_atLeast_iff, colon]
  constructor
  · rintro ⟨_, _, rfl, ⟨quote, rfl, isQuoted⟩, digits, _, rfl, length, areDigits, _, _, rfl, rfl, key, _,
      rfl, ⟨enough, areKey⟩, endQuote, rfl, isEndQuoted⟩
    exact ⟨quote, digits, key, endQuote, rfl, isQuoted, length, areDigits, enough, areKey, isEndQuoted⟩
  · rintro ⟨quote, digits, key, endQuote, rfl, isQuoted, length, areDigits, enough, areKey, isEndQuoted⟩
    exact ⟨[quote], _, rfl, ⟨quote, rfl, isQuoted⟩, digits, _, rfl, length, areDigits, [':'], _, rfl, rfl,
      key, _, rfl, ⟨enough, areKey⟩, endQuote, rfl, isEndQuoted⟩

theorem fits_gitHubToken_iff :
    gitHubToken.Fits before found behind ↔ IsGitHubToken found := by
  have letters : "gh".toList = ['g', 'h'] := rfl
  have underscore : "_".toList = ['_'] := rfl
  have kinds (char : Char) : "pousr".contains char = true ↔ char ∈ ['p', 'o', 'u', 's', 'r'] := by
    simp
  simp only [gitHubToken, fits_inOrder_cons, inOrder_singleton, fits_text_iff, fits_atLeast_iff, letters,
    underscore]
  constructor
  · rintro ⟨_, _, rfl, ⟨quote, rfl, isQuoted⟩, _, _, rfl, rfl, _, _, rfl, ⟨kind, rfl, isKind⟩, _, _, rfl,
      rfl, key, _, rfl, ⟨enough, areKey⟩, endQuote, rfl, isEndQuoted⟩
    exact ⟨quote, kind, key, endQuote, rfl, isQuoted, (kinds kind).mp isKind, enough, areKey, isEndQuoted⟩
  · rintro ⟨quote, kind, key, endQuote, rfl, isQuoted, isKind, enough, areKey, isEndQuoted⟩
    exact ⟨[quote], _, rfl, ⟨quote, rfl, isQuoted⟩, ['g', 'h'], _, rfl, rfl, [kind], _, rfl,
      ⟨kind, rfl, (kinds kind).mpr isKind⟩, ['_'], _, rfl, rfl, key, _, rfl, ⟨enough, areKey⟩, endQuote,
      rfl, isEndQuoted⟩

theorem fits_openAIKey_iff :
    openAIKey.Fits before found behind ↔ IsOpenAIKey found := by
  have letters : "sk-".toList = ['s', 'k', '-'] := rfl
  simp only [openAIKey, fits_inOrder_cons, inOrder_singleton, fits_text_iff, fits_exactly_iff, letters]
  constructor
  · rintro ⟨_, _, rfl, ⟨quote, rfl, isQuoted⟩, _, _, rfl, rfl, key, _, rfl, ⟨length, areKey⟩, endQuote,
      rfl, isEndQuoted⟩
    exact ⟨quote, key, endQuote, rfl, isQuoted, length, areKey, isEndQuoted⟩
  · rintro ⟨quote, key, endQuote, rfl, isQuoted, length, areKey, isEndQuoted⟩
    exact ⟨[quote], _, rfl, ⟨quote, rfl, isQuoted⟩, ['s', 'k', '-'], _, rfl, rfl, key, _, rfl,
      ⟨length, areKey⟩, endQuote, rfl, isEndQuoted⟩

end Fits

/-! ## Rules and findings -/

/-- How one rule about credentials deals with lines: it fires on those that hold a secret, and of these it is
reported once on each that does not look free of secrets. -/
structure Detects (ruleName : String) (IsSecret : List Char → Prop) (rule : Rule) : Prop where
  catalogued : rule ∈ builtin.rules
  named : rule.name = ruleName
  fires : ∀ line : String, rule.test line = true ↔ ∃ found, found <:+: line.toList ∧ IsSecret found
  reported : ∀ line : NumberedLine, rule.test line.text = true → ¬LooksFreeOfSecrets line.text.toList →
    reportsOf ruleName line = [line.finding rule]
  passedOver : ∀ line : NumberedLine, rule.test line.text = false ∨ LooksFreeOfSecrets line.text.toList →
    reportsOf ruleName line = []

section Rules

variable {ruleName remediation : String} {severity : Severity} {pattern : Pattern}

theorem detects_of_language {IsSecret : List Char → Prop}
    (alone : builtin.rules.filter (·.name == ruleName) =
      [.ofPattern ruleName severity remediation pattern])
    (aboutSecrets : IsAboutSecrets (.ofPattern ruleName severity remediation pattern))
    (language : ∀ before found behind, pattern.Fits before found behind ↔ IsSecret found) :
    Detects ruleName IsSecret (.ofPattern ruleName severity remediation pattern) where
  catalogued := by
    have member : .ofPattern ruleName severity remediation pattern ∈
        builtin.rules.filter (·.name == ruleName) := by simp [alone]
    exact List.mem_of_mem_filter member
  named := rfl
  fires := fun _ => isShownBy_iff_of_language language
  reported := by
    intro line fires looksUnsafe
    rw [← suppresses_builtinPolicy_iff aboutSecrets, Bool.not_eq_true] at looksUnsafe
    simp [reportsOf_eq alone, fires, looksUnsafe]
  passedOver := by
    rintro line (quiet | looksSafe)
    · simp [reportsOf_eq alone, quiet]
    · rw [← suppresses_builtinPolicy_iff aboutSecrets] at looksSafe
      simp [reportsOf_eq alone, looksSafe]

end Rules

/-- The three rules about credentials, each with the secrets that it detects. -/
theorem credentialRules_detect_secrets :
    ∃ telegram gitHub openAI, credentialRules = [telegram, gitHub, openAI] ∧
      Detects "Hardcoded Telegram Bot Token" IsTelegramToken telegram ∧
      Detects "Hardcoded GitHub Token" IsGitHubToken gitHub ∧
      Detects "Hardcoded OpenAI API Key" IsOpenAIKey openAI := by
  refine ⟨_, _, _, rfl, ?_, ?_, ?_⟩
  · exact detects_of_language rfl ⟨by decide, by decide⟩ fun _ _ _ => fits_telegramToken_iff
  · exact detects_of_language rfl ⟨by decide, by decide⟩ fun _ _ _ => fits_gitHubToken_iff
  · exact detects_of_language rfl ⟨by decide, by decide⟩ fun _ _ _ => fits_openAIKey_iff

-- The quotes around a key need not match, but with one letter more it is none.
example :
    openAIKey.isShownBy ('\x27' :: "sk-".toList ++ List.replicate 48 'a' ++ ['\x22']) = true ∧
      openAIKey.isShownBy ('\x27' :: "sk-".toList ++ List.replicate 49 'a' ++ ['\x27']) = false := by
  decide +kernel

end SkillScan.Signature
