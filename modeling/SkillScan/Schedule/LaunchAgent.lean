import SkillScan.Path
import SkillScan.PropertyList

/-!
# The launch agent of the daily check

On macOS the daily check is started by an agent, which a property list under the home directory describes.
-/

namespace SkillScan

/-- An agent that runs a script every day. -/
structure LaunchAgent where
  script : Path
  /-- The directory of the files that receive what the script shows. -/
  logDir : Path
  hour : Int
  minute : Int

namespace LaunchAgent

/-- The name under which the agent is known to the system. -/
def label : String := "com.openclaw.hardhat.dailycheck"

/-- The description of the agent. The fields stand in the order of their names. -/
def description (agent : LaunchAgent) : PropertyList :=
  .dictionary [
    ("Label", .text label),
    ("ProgramArguments", .array [.text agent.script.text]),
    ("StandardErrorPath", .text (agent.logDir.child "launchd-err.log").text),
    ("StandardOutPath", .text (agent.logDir.child "launchd-out.log").text),
    ("StartCalendarInterval",
      .dictionary [("Hour", .integer agent.hour), ("Minute", .integer agent.minute)])]

/-- The document that describes the agent. -/
def document (agent : LaunchAgent) : Except PropertyListError String :=
  agent.description.document

/-- The place of the document under a home directory. -/
def location (home : Path) : Path :=
  ((home.child "Library").child "LaunchAgents").child (label ++ ".plist")

end LaunchAgent

end SkillScan
