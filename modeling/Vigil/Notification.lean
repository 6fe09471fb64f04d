import Vigil.Alert.Basic

/-!
# Notifications

A notification reports that a target of an alert has come to another level. It is
about a series of the source, or about the state of the watch itself.
-/

namespace Vigil

/-- What a notification reports. -/
inductive EventValue where
  | number (x : Double)
  | noData
  | message (text : String)
deriving DecidableEq

/-- Whether the target is a series of the source or belongs to the watch itself. -/
inductive EventKind where
  | source
  | common
deriving DecidableEq, Repr

/-- A change of level of one target. -/
structure Event where
  level : Level
  alert : Alert
  value : EventValue
  target : String
  kind : EventKind
  rule : Option Rule

namespace Event

/-- The value in the format of the alert. -/
def valueText (event : Event) : String :=
  match event.value with
  | .number x => event.alert.format.render x
  | .noData => "no data"
  | .message text => text

/-- The source of the target, or `common`. -/
def kindName (event : Event) : String :=
  match event.kind with
  | .source => event.alert.source
  | .common => "common"

/-- The address of the graph of the target. -/
def graphUrl? (event : Event) : Option String :=
  match event.kind with
  | .source => event.alert.graphUrl? event.target
  | .common => none

/-- The event as it is shown. -/
def text (event : Event) : String :=
  event.level.title ++ " [" ++ event.alert.name ++ "] " ++ event.target ++ ": " ++ event.valueText

/-- The source whose targets are addresses. -/
def probeSource : String := "url"

/-- The line that handlers send, with a text in front of it. -/
def shortMessage (messagePrefix : String) (event : Event) : String :=
  let head := messagePrefix ++ " " ++ event.level.title ++ " <" ++ event.alert.name ++ "> "
  match event.kind with
  | .common => head ++ event.valueText
  | .source =>
      if event.alert.source = probeSource then
        head ++ event.target ++ " returned " ++ event.valueText
      else
        head ++ event.target ++ ": " ++ event.valueText
          ++ (event.rule.map fun rule => " (rule: " ++ rule.raw ++ ")").getD ""

end Event

end Vigil
