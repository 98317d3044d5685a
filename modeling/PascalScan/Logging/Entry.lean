/-!
# Log entries

An entry is what a part of the program wants to have logged: the name of a logger, a level, and a
message. Whether it shows, and how often, is for the registry of loggers to say.
-/

namespace PascalScan.Logging

/-- Levels are numbers; a higher one is more urgent. -/
abbrev Level := Int

namespace Level

def notSet : Level := 0
def debug : Level := 10
def info : Level := 20
def warning : Level := 30
def error : Level := 40
def critical : Level := 50

/-- The names by which a level can be asked for, in upper case; two levels have two. -/
def names : List (String × Level) :=
  [("CRITICAL", critical), ("FATAL", critical), ("ERROR", error), ("WARN", warning),
    ("WARNING", warning), ("INFO", info), ("DEBUG", debug), ("NOTSET", notSet)]

def ofName? (name : String) : Option Level := names.lookup name

/-- How a level is written in a line. -/
def label (n : Level) : String :=
  if n = critical then "CRITICAL"
  else if n = error then "ERROR"
  else if n = warning then "WARNING"
  else if n = info then "INFO"
  else if n = debug then "DEBUG"
  else if n = notSet then "NOTSET"
  else "Level " ++ toString n

end Level

structure Entry where
  logger : String
  level : Level
  message : String
  deriving DecidableEq, Repr

/-- The line of an entry, with the time at which it was written. -/
def Entry.line (e : Entry) (time : String) : String :=
  time ++ " [" ++ e.level.label ++ "] " ++ e.logger ++ ": " ++ e.message ++ "\n"

/-- The name of the scanning service's logger. -/
def lexerService : String := "lexer-svc"

/-- The name of the gateway's logger. -/
def gateway : String := "gateway"

end PascalScan.Logging
