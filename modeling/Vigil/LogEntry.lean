/-!
# Log entries

What the watch reports about itself: how grave it is, the part that reports it,
a message, and named details.
-/

namespace Vigil

/-- How grave a log entry is. -/
inductive Severity where
  | debug
  | info
  | warning
  | error
deriving DecidableEq, Repr

/-- The name of a severity. -/
def Severity.name : Severity → String
  | debug => "DEBUG"
  | info => "INFO"
  | warning => "WARN"
  | error => "ERROR"

/-- One entry of the log. -/
structure LogEntry where
  severity : Severity
  /-- The part that reports. -/
  place : String
  message : String
  details : List (String × String)
deriving DecidableEq, Repr

namespace LogEntry

/-- The alert that an entry is about, as the entry names it. -/
def alert? (entry : LogEntry) : Option String :=
  (entry.details.find? fun detail => detail.1 = "alert").map (·.2)

end LogEntry

end Vigil
