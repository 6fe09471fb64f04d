import Vigil.Handler.Basic
import Vigil.Transport

/-!
# The HTTP handler

Forwards the fields of a notification to an address. Fields of the configuration
win over those of the notification.
-/

namespace Vigil

/-- A handler that forwards notifications. -/
structure HttpHandler where
  url : String
  method : String
  params : List (String × String)
  messagePrefix : String
  timeout : Duration
deriving DecidableEq

namespace HttpHandler

/-- The name of the HTTP handler. -/
def name : String := "http"

/-- The settings with an address that is not blank. -/
def config? (options : Options) : Option HttpConfig :=
  options.http.filter fun http => !(Text.trim http.url.toList).isEmpty

/-- The HTTP handler of the options; the address is checked first, then the method, then the limit. -/
def ofOptions (options : Options) : Except SetupFault HttpHandler :=
  match config? options with
  | none => .error .addressMissing
  | some http =>
      match Method.read? http.method with
      | none => .error (.method http.method)
      | some method =>
          match Duration.positive? options.requestTimeout with
          | none => .error (.limit options.requestTimeout)
          | some timeout => .ok ⟨http.url, method, http.params, options.messagePrefix, timeout⟩

/-- The fields of a notification that do not come from the configuration. -/
def eventFields (handler : HttpHandler) (event : Event) : List (String × String) :=
  let graph := event.kind = .source ∧ event.alert.source = Alert.graphSource
  let value := match event.value with
    | .number x => if graph then [("value", ValueFormat.plain x)] else []
    | _ => []
  [("alert", event.alert.name), ("desc", event.shortMessage handler.messagePrefix),
    ("level", event.level.name), ("target", event.target)]
    ++ ((event.rule.map fun rule => ("rule", rule.raw)).toList)
    ++ (if graph then (event.graphUrl?.map fun url => ("graph_url", url)).toList else [])
    ++ value

/-- The fields that are sent for a notification. -/
def payload (handler : HttpHandler) (event : Event) : List (String × String) :=
  (handler.eventFields event).filter (fun field => (handler.params.all fun p => p.1 != field.1))
    ++ handler.params

/-- What the answer of the address means. -/
def outcome : FetchResult → Except HandlerFault Unit
  | .error fault => .error (.http ("Failed to send notification: " ++ fault.message))
  | .ok response => if response.isSuccess then .ok () else .error (.status response.status)

/-- The handler while no server can be reached. -/
def handler (_ : HttpHandler) : Handler where
  name := name
  notify _ := ⟨[], false, some 0, outcome .unreachable⟩

/-- The HTTP handler of the options. -/
def make (options : Options) : Except SetupFault Handler := (ofOptions options).map handler

end HttpHandler

end Vigil
