/-!
# Help pages

What the program shows about its usage: one page for the program and one for each of its commands. The
usage alone precedes an error about the arguments.
-/

namespace SkillScan

/-- The program or a command, as the help tells about it. -/
inductive HelpPage where
  | program
  | scan
  | dailyCheck
  | setup
  deriving DecidableEq

namespace HelpPage

/-- What is called to get what the page tells about. -/
def name : HelpPage → String
  | .program => "hardhat-scan"
  | .scan => "hardhat-scan scan"
  | .dailyCheck => "hardhat-scan daily-check"
  | .setup => "hardhat-scan setup-daily-check"

/-- The usage, in lines. -/
def usageLines : HelpPage → List String
  | .program => [
      "usage: hardhat-scan [-h] [--daily-check] [--config CONFIG] [-v]",
      "                    \x7bscan,daily-check,setup-daily-check\x7d ..."]
  | .scan => ["usage: hardhat-scan scan [-h] [--format \x7btext,json\x7d] [--out OUTPUT_PATH] path"]
  | .dailyCheck => ["usage: hardhat-scan daily-check [-h]"]
  | .setup => ["usage: hardhat-scan setup-daily-check [-h] [--install-dir INSTALL_DIR]"]

/-- What the page tells beyond the usage, in lines. -/
def detailLines : HelpPage → List String
  | .program => [
      "",
      "Safety scanner for OpenClaw skills. Run it before installing a skill.",
      "",
      "positional arguments:",
      "  \x7bscan,daily-check,setup-daily-check\x7d",
      "    scan                Scan a skill directory or file.",
      "    daily-check         Scan every installed skill under the skills root.",
      "    setup-daily-check   Write the daily check script and scheduler",
      "                        configuration.",
      "",
      "options:",
      "  -h, --help            show this help message and exit",
      "  --daily-check         Scan every installed skill (same as the daily-check",
      "                        command).",
      "  --config CONFIG       YAML file overriding the skills root, log directory",
      "                        and schedule.",
      "  -v, --verbose         Increase log output (repeatable).",
      "",
      "Exit codes:",
      "  0 - no critical/high threats (clean or review recommended)",
      "  1 - critical/high threats detected, or the scan could not run",
      "",
      "Always review code manually even if the scan passes."]
  | .scan => [
      "",
      "positional arguments:",
      "  path                  Path to the skill to scan.",
      "",
      "options:",
      "  -h, --help            show this help message and exit",
      "  --format \x7btext,json\x7d  Console report format (defaults to text).",
      "  --out OUTPUT_PATH, --output OUTPUT_PATH",
      "                        Path to write the structured JSON report (e.g.,",
      "                        artifacts/scan.json)."]
  | .dailyCheck => [
      "",
      "options:",
      "  -h, --help  show this help message and exit"]
  | .setup => [
      "",
      "options:",
      "  -h, --help            show this help message and exit",
      "  --install-dir INSTALL_DIR",
      "                        Directory that receives daily-check.sh (defaults to",
      "                        the working directory)."]

/-- The usage. -/
def usage (page : HelpPage) : String :=
  "\n".intercalate page.usageLines

/-- The whole page. -/
def text (page : HelpPage) : String :=
  "\n".intercalate (page.usageLines ++ page.detailLines)

end HelpPage

end SkillScan
