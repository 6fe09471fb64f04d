import Vigil.Rehearsal.Journal
import Vigil.Rehearsal.Script
import Vigil.Source.Basic

/-!
# Rehearsing a source

A source is loaded some times in a row; each load waits for its answer.
-/

namespace Vigil.Rehearsal

/-- The loads of a source with a script, which begins at a time: the requests, and the samples of
each load or its fault. -/
def loads (source : Source) (alert : String) :
    Nat → Script → Nat → List (Dated Sent) × List (Except SourceFault (List Sample))
  | 0, _, _ => ([], [])
  | count + 1, script, now =>
      let (answer, rest) := script.next
      let (requests, results) := loads source alert count rest (now + answer.delay)
      (⟨now, ⟨alert, source.request⟩⟩ :: requests, source.samples answer.result :: results)

end Vigil.Rehearsal
