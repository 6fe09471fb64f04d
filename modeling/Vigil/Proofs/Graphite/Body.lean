import Vigil.Proofs.Traversal
import Vigil.Source.Basic

/-!
# Bodies of the render service

What the answer to a request is worth to a graphite source. Four causes make it worthless:
the request failed, the status is not one of success, a line that is not blank is not a
record, or there is no such line. In every other case it brings one sample for each line.
-/

namespace Vigil.Graphite

/-- The lines of a body that are not blank. -/
def bodyLines (body : String) : List (List Char) :=
  (Text.lines body.toList).filter fun line => !(Text.trim line).isEmpty

/-- The results of requests that bring no samples, by their cause. -/
inductive Unusable (policy : GapPolicy) : FetchResult → Prop where
  | failed (fault : TransportFault) : Unusable policy (.error fault)
  | refused {response : FetchResponse}
      (status : ¬(200 ≤ response.status ∧ response.status < 300)) :
      Unusable policy (.ok response)
  | malformed {response : FetchResponse} {line : List Char} {fault : RecordFault}
      (listed : line ∈ bodyLines response.body) (wrong : Record.read policy line = .error fault) :
      Unusable policy (.ok response)
  | empty {response : FetchResponse} (nothing : bodyLines response.body = []) :
      Unusable policy (.ok response)

/-- The samples of records, in their order. -/
def samplesOf (reduction : Reduction) (records : List Record) : List Sample :=
  records.map fun record => ⟨reduction.apply record.values, record.target⟩

/-- A body is decoded line by line. -/
theorem readAll_eq_ok_iff (policy : GapPolicy) (body : String) (records : List Record) :
    Record.readAll policy body.toList = .ok records ↔
      (bodyLines body).map (Record.read policy) = records.map .ok :=
  mapM_eq_ok_iff (Record.read policy) (bodyLines body) records

/-- A body is refused for any line that is not a record. -/
theorem readAll_eq_error_iff (policy : GapPolicy) (body : String) :
    (∃ fault, Record.readAll policy body.toList = .error fault) ↔
      ∃ line ∈ bodyLines body, ∃ fault, Record.read policy line = .error fault :=
  mapM_eq_error_iff (Record.read policy) (bodyLines body)

/-- An answer is one of success exactly when its status is. -/
theorem isSuccess_iff (response : FetchResponse) :
    response.isSuccess = true ↔ 200 ≤ response.status ∧ response.status < 300 := by
  simp [FetchResponse.isSuccess]

end Vigil.Graphite
