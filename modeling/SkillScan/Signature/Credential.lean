import SkillScan.Rule
import SkillScan.Signature.CharKind

/-!
# Hardcoded credentials

Access tokens of known services, written as a quoted string on the line.
-/

namespace SkillScan.Signature

open Pattern

/-- The advice for a secret in the source. -/
def moveToEnvironment : String :=
  "Move the secret to a .env file and read it from the environment at runtime"

/-- Nine or ten digits, a colon and at least 34 token characters, in quotes. -/
def telegramToken : Pattern :=
  inOrder [one isQuote, exactly Text.isDecimalDigit 9, optional (one Text.isDecimalDigit), text ":",
    atLeast isTokenChar 34, one isQuote]

/-- `gh`, a letter for the kind of token, an underscore and at least 36 letters and digits, in quotes. -/
def gitHubToken : Pattern :=
  inOrder [one isQuote, text "gh", one ("pousr".contains ·), text "_", atLeast isLetterOrDigit 36,
    one isQuote]

/-- `sk-` and exactly 48 letters and digits, in quotes. -/
def openAIKey : Pattern :=
  inOrder [one isQuote, text "sk-", exactly isLetterOrDigit 48, one isQuote]

/-- The rules about credentials. -/
def credentialRules : List Rule := [
  .ofPattern "Hardcoded Telegram Bot Token" .critical
    "Move token to .env file, use process.env.TELEGRAM_BOT_TOKEN" telegramToken,
  .ofPattern "Hardcoded GitHub Token" .critical moveToEnvironment gitHubToken,
  .ofPattern "Hardcoded OpenAI API Key" .critical moveToEnvironment openAIKey
]

end SkillScan.Signature
