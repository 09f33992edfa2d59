import SkillScan.Path
import SkillScan.ShellWord
import SkillScan.Timestamp

/-!
# The script of the daily check

A shell script that runs the daily check, appends what it shows to a log file of the day and removes logs
that have become old. The directory of the logs and the interpreter enter the script as quoted words.
-/

namespace SkillScan

/-- What the script of the daily check is made from. -/
structure DailyScript where
  /-- The directory of the log files. -/
  logDir : Path
  /-- The program that interprets the scanner. -/
  interpreter : String
  /-- When the script was made. -/
  generated : Timestamp

namespace DailyScript

/-- The name of the script. -/
def fileName : String := "daily-check.sh"

/-- The days for which logs are kept. -/
def retentionDays : Nat := 30

/-- The line that separates the logs of two runs. -/
def separatorEcho : String :=
  "echo \"========================================\" >> \"$LOG_FILE\"\n"

/-- The line that logs an empty line. -/
def emptyEcho : String :=
  "echo \"\" >> \"$LOG_FILE\"\n"

/-- The script up to the time at which it was made. -/
def beforeGenerated : String :=
  "#!/bin/bash\n" ++
  "# OpenClaw Hard Hat - Daily Security Check\n" ++
  "# Generated: "

/-- The script between the time and the directory of the logs. -/
def beforeLogDir : String :=
  "\n\nLOG_DIR="

/-- The script between the directory of the logs and the interpreter. -/
def beforeInterpreter : String :=
  "\nDATE=$(date +%Y-%m-%d)\n" ++
  "LOG_FILE=\"$LOG_DIR/daily-check-$DATE.log\"\n" ++
  "\n" ++
  "mkdir -p \"$LOG_DIR\"\n" ++
  separatorEcho ++
  "echo \"Daily Security Check - $DATE\" >> \"$LOG_FILE\"\n" ++
  separatorEcho ++
  emptyEcho ++
  "\n"

/-- The script after the interpreter. -/
def afterInterpreter : String :=
  " -m hardhat --daily-check >> \"$LOG_FILE\" 2>&1\n" ++
  "\n" ++
  emptyEcho ++
  "echo \"Completed: $(date)\" >> \"$LOG_FILE\"\n" ++
  emptyEcho ++
  "\n" ++
  "# Keep only the last " ++ toString retentionDays ++ " days of logs\n" ++
  "find \"$LOG_DIR\" -name \"daily-check-*.log\" -mtime +" ++ toString retentionDays ++ " -delete\n"

/-- The script. -/
def text (script : DailyScript) : String :=
  beforeGenerated ++ script.generated.text ++ beforeLogDir ++ ShellWord.quoted script.logDir.text ++
    beforeInterpreter ++ ShellWord.quoted script.interpreter ++ afterInterpreter

end DailyScript

end SkillScan
