/-!
# Log records

What the program reports while it works is returned as records. Which of them are shown, and where,
is decided later.
-/

set_option autoImplicit false

namespace BooleanRetrieval

/-- A level of importance; higher is more important. -/
abbrev LogLevel : Type := Int

namespace LogLevel

/-- Details for finding faults. -/
def debug : LogLevel := 10

/-- Progress. -/
def info : LogLevel := 20

/-- Something unexpected that does not stop the work. -/
def warning : LogLevel := 30

/-- Something that could not be done. -/
def error : LogLevel := 40

/-- Something that ends the work. -/
def critical : LogLevel := 50

/-- The name of a level. -/
def name (level : LogLevel) : String :=
  if level = 0 then "NOTSET"
  else if level = debug then "DEBUG"
  else if level = info then "INFO"
  else if level = warning then "WARNING"
  else if level = error then "ERROR"
  else if level = critical then "CRITICAL"
  else "Level " ++ toString level

end LogLevel

/-- A record: its level, the part of the program that made it, and its text. -/
structure LogRecord where
  level : LogLevel
  logger : String
  message : String
  deriving DecidableEq, Repr

/-- The text of a record with its level. -/
def LogRecord.summary (record : LogRecord) : String :=
  LogLevel.name record.level ++ " " ++ record.message

end BooleanRetrieval
