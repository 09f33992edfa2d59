import SkillScan.Path

/-!
# The crontab entry of the daily check

A crontab entry names minute, hour, day of the month, month and day of the week, and then a command. A
star stands for every day and month.
-/

namespace SkillScan.Crontab

/-- The entry that runs a script every day. -/
def entry (script : Path) (hour minute : Int) : String :=
  toString minute ++ " " ++ toString hour ++ " * * * " ++ script.text

end SkillScan.Crontab
