/-!
# Log records

What the program tells about its work beside its output. A record has a level, the name of the part that
speaks and a message; the verbosity asked for decides which records are shown.
-/

namespace SkillScan

/-- How much a record matters. -/
inductive LogLevel where
  | debug
  | info
  | warning
  deriving DecidableEq

namespace LogLevel

/-- The name shown in a record. -/
def label : LogLevel → String
  | .debug => "DEBUG"
  | .info => "INFO"
  | .warning => "WARNING"

/-- The place in the order of importance. -/
def rank : LogLevel → Nat
  | .debug => 0
  | .info => 1
  | .warning => 2

/-- The least level that is shown at a verbosity. -/
def ofVerbosity (verbosity : Int) : LogLevel :=
  if verbosity ≥ 2 then .debug else if verbosity = 1 then .info else .warning

/-- Whether records of a level are shown where `least` is the least level shown. -/
def shows (least level : LogLevel) : Bool :=
  least.rank ≤ level.rank

end LogLevel

/-- One message about the program's work. -/
structure LogRecord where
  level : LogLevel
  /-- The part of the program that speaks. -/
  source : String
  message : String

/-- A record in writing, after the time at which it was made. -/
def LogRecord.line (record : LogRecord) (time : String) : String :=
  time ++ " [" ++ record.level.label ++ "] " ++ record.source ++ " - " ++ record.message

/-- The receiver of all records. -/
structure Logger where
  name : String
  level : LogLevel
  handlers : Nat
  deriving DecidableEq

namespace Logger

/-- The receiver before anything has been set up. -/
def initial : Logger := ⟨"hardhat", .warning, 0⟩

/-- Sets the least level from the verbosity. A handler is added only where there is none yet. -/
def configure (logger : Logger) (verbosity : Int) : Logger where
  name := logger.name
  level := .ofVerbosity verbosity
  handlers := if logger.handlers = 0 then 1 else logger.handlers

end Logger

end SkillScan
