import Vigil.Proofs.Monitor.Run
import Vigil.Proofs.Url.Reading

/-!
# The query of a request

Whatever text the target is, the query of an address of the render service ends in the fields of the
request, each of them once, and what stands before them comes from the base. So a graph and the samples
behind it have the same window.
-/

namespace Vigil.Graphite

/-- The fields of a request as they are read back. -/
def sent (target : String) (window lag : Interval) (raw : Bool) :
    List (Option String × Option String) :=
  [(some "target", some target), (some "from", some ("-" ++ (window + lag).wire)),
      (some "until", some ("-" ++ lag.wire))] ++
    if raw then [(some "format", some "raw")] else []

end Vigil.Graphite
