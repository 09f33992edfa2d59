import SkillScan.Path

/-!
# Configurations

Where the installed skills and the logs of the daily check are, and the time of the daily check.
-/

namespace SkillScan

/-- The places and the schedule of the daily check. -/
structure Configuration where
  /-- The directory of the installed skills. -/
  skillsRoot : Path
  /-- The directory of the logs. -/
  logDir : Path
  hour : Int
  minute : Int
  deriving DecidableEq

namespace Configuration

/-- The place of the installed skills under a home directory. -/
def skillsPlace : Path := .ofText ".openclaw/workspace/.agent/skills"

/-- The place of the logs under a home directory. -/
def logPlace : Path := .ofText ".openclaw/hardhat/logs"

/-- The configuration that holds where no other is given. -/
def standard (home : Path) : Configuration where
  skillsRoot := home.join skillsPlace
  logDir := home.join logPlace
  hour := 9
  minute := 0

end Configuration

end SkillScan
