import Vigil.LogEntry
import Vigil.Notification

/-!
# Handlers

A handler takes notifications. What it does with one is a reply: the entries that
it writes to the log at once, how long it takes to answer, and its answer.
-/

namespace Vigil

/-- Why a handler could not be made. -/
inductive SetupFault where
  | addressMissing
  | method (word : String)
  | limit (seconds : Double)
  | unknown (name : String)
  | other (text : String)
deriving DecidableEq

/-- The wording of a fault. -/
def SetupFault.reason : SetupFault → String
  | addressMissing => "http: URL is not defined"
  | method word => "http: invalid method " ++ Text.quoted word
  | limit seconds => "http: invalid request_timeout " ++ String.ofList seconds.text
  | unknown name => "unknown handler " ++ Text.quoted name
  | other text => text

/-- Why a handler failed. -/
inductive HandlerFault where
  | setup (fault : SetupFault)
  | http (detail : String)
  | status (code : Nat)
  | timeout (limit : Duration)
deriving DecidableEq

/-- The message of a failed handler. -/
def HandlerFault.message : HandlerFault → String
  | setup fault => "Handler init error: " ++ fault.reason
  | http detail => "HTTP error: " ++ detail
  | status code => "Endpoint returned status " ++ String.ofList (Decimal.numeral code)
  | timeout limit => "Delivery timed out after " ++ String.ofList limit.text

/-- What a handler does with a notification. -/
structure Reply where
  /-- Written before the answer. -/
  log : List LogEntry
  /-- Whether the handler keeps the notification. -/
  kept : Bool
  /-- Milliseconds until the answer; a handler without one never answers. -/
  delay : Option Nat
  answer : Except HandlerFault Unit

/-- A handler by its name. -/
structure Handler where
  name : String
  notify : Event → Reply

/-- Makes a handler from the options. -/
abbrev HandlerFactory := Options → Except SetupFault Handler

end Vigil
