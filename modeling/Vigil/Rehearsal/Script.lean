import Vigil.Transport

/-!
# Scripts

In a rehearsal the answers to requests are given in advance. Each request takes the
next answer of its script, and the last answer is given for ever.
-/

namespace Vigil.Rehearsal

/-- An answer, and the milliseconds that it takes. -/
structure ScriptedAnswer where
  delay : Nat
  result : FetchResult

/-- Answers in the order of the requests. -/
abbrev Script := List ScriptedAnswer

/-- The answer of an empty script: an empty response at once. -/
def ScriptedAnswer.empty : ScriptedAnswer := ⟨0, .ok ⟨200, ""⟩⟩

/-- The next answer of a script, and the script after it. -/
def Script.next : Script → ScriptedAnswer × Script
  | [] => (ScriptedAnswer.empty, [])
  | [last] => (last, [last])
  | answer :: rest => (answer, rest)

/-- The result of a request, and when it arrives. -/
structure Arrival where
  time : Nat
  result : FetchResult

/-- The connection of one alert: its script, and the result that is to arrive. -/
structure Wire where
  script : Script
  arrival : Option Arrival

namespace Wire

/-- A connection without a request. -/
def ofScript (script : Script) : Wire := ⟨script, none⟩

/-- Makes a request at a time. -/
def send (wire : Wire) (now : Nat) : Wire :=
  let (answer, rest) := wire.script.next
  ⟨rest, some ⟨now + answer.delay, answer.result⟩⟩

/-- The connection after its result was taken. -/
def taken (wire : Wire) : Wire := { wire with arrival := none }

end Wire

end Vigil.Rehearsal
