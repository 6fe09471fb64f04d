import Vigil.Handler.Basic

/-!
# The log handler

Writes a line for each notification, as grave as its level.
-/

namespace Vigil.LogHandler

/-- The name of the log handler. -/
def name : String := "log"

/-- The part of the program that writes the lines. -/
def place : String := "handlers::log"

/-- How grave a level is. -/
def severity : Level → Severity
  | .normal => .info
  | .warning => .warning
  | .critical | .noData => .error

/-- The line of a notification. -/
def entry (messagePrefix : String) (event : Event) : LogEntry :=
  ⟨severity event.level, place, event.shortMessage messagePrefix, [("alert", event.alert.name)]⟩

/-- The log handler of the options. -/
def make (options : Options) : Handler where
  name := name
  notify event := ⟨[entry options.messagePrefix event], false, some 0, .ok ()⟩

end Vigil.LogHandler
