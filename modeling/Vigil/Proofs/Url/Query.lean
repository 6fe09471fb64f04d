import Vigil.Proofs.Decimal.Numeral
import Vigil.Proofs.Url.FormData
import Vigil.Url.Reading

/-!
# The query of a written address

The query of an address stands in its text between the first question mark and the first number sign.
It is the query of the address itself, because every address that is read keeps these marks out of the
parts before its query, and the number sign out of the query.
-/

namespace Vigil.Url

open Text

/-! ## Marks -/

/-- The character begins a query or a fragment. -/
def isMark (c : Char) : Bool := c = '?' || c = '#'

/-- The text holds no such character. -/
def Unmarked (text : List Char) : Prop := ∀ c ∈ text, isMark c = false

namespace Unmarked

/-- Texts without marks are joined to one. -/
theorem append {front rest : List Char} (first : Unmarked front) (second : Unmarked rest) :
    Unmarked (front ++ rest) := by
  intro c member
  exact (List.mem_append.1 member).elim (first c) (second c)

/-- A character that is no mark is put in front. -/
theorem cons {c : Char} {rest : List Char} (first : isMark c = false) (second : Unmarked rest) :
    Unmarked (c :: rest) := List.forall_mem_cons.2 ⟨first, second⟩

/-- Nothing holds no mark. -/
theorem nil : Unmarked [] := by simp [Unmarked]

/-- A text without marks has no question mark. -/
theorem question {text : List Char} (clear : Unmarked text) : '?' ∉ text := by
  intro member
  have mark := clear '?' member
  cases mark

/-- And it has no number sign. -/
theorem number {text : List Char} (clear : Unmarked text) : '#' ∉ text := by
  intro member
  have mark := clear '#' member
  cases mark

end Unmarked

/-- A class that leaves both marks out has no mark. -/
theorem not_mark_of_class {keep : Char → Bool} (question : keep '?' = false)
    (number : keep '#' = false) {c : Char} (member : keep c = true) : isMark c = false := by
  simp [isMark, ne_of_class member question, ne_of_class member number]

/-- The path holds no mark. -/
def Path.Unmarked : Path → Prop
  | .segments list => ∀ segment ∈ list, Url.Unmarked segment
  | .plain text => Url.Unmarked text

/-- The parts before the query hold no mark, and the query has no number sign. -/
structure Tidy (url : Url) : Prop where
  scheme : Unmarked url.scheme
  username : Unmarked url.username
  password : Unmarked url.password
  host : ∀ host, url.host = some host → Unmarked host
  path : url.path.Unmarked
  query : ∀ query, url.query = some query → '#' ∉ query

namespace Tidy

variable {url : Url}

/-- The user name and the password hold no mark. -/
theorem credentials (tidy : Tidy url) : Unmarked url.credentials := by
  unfold Url.credentials
  split
  · exact .nil
  · refine .append (.append tidy.username ?_) (.cons rfl .nil)
    split
    · exact .nil
    · exact .cons rfl tidy.password

/-- What stands between the scheme and the path holds no mark. -/
theorem authority (tidy : Tidy url) : Unmarked url.authority := by
  unfold Url.authority
  split
  · exact .nil
  · rename_i host place
    refine .cons rfl (.cons rfl (.append (.append tidy.credentials (tidy.host host place)) ?_))
    cases url.port with
    | none => exact .nil
    | some port =>
      refine .cons rfl fun c member => ?_
      exact not_mark_of_class rfl rfl (Decimal.isDigit_of_mem_numeral member)

/-- The path holds no mark. -/
theorem pathText (tidy : Tidy url) : Unmarked url.pathText := by
  have path := tidy.path
  unfold Url.pathText
  cases shape : url.path with
  | plain text =>
    rw [shape] at path
    exact path
  | segments list =>
    rw [shape] at path
    have text : Unmarked (list.flatMap ('/' :: ·)) := by
      intro c member
      obtain ⟨segment, listed, inside⟩ := List.mem_flatMap.1 member
      exact Unmarked.cons rfl (path segment listed) c inside
    dsimp only
    split
    · exact .cons rfl (.cons rfl text)
    · exact text

/-- Pairs of form data at the end of the query bring in no mark. -/
theorem withPairs (tidy : Tidy url) (pairs : List (List Char × List Char)) :
    Tidy (url.withPairs pairs) := by
  refine { tidy with query := ?_ }
  rintro _ ⟨⟩
  have start : '#' ∉ url.query.getD [] := by
    cases query : url.query with
    | none => simp
    | some text => exact tidy.query text query
  generalize url.query.getD [] = query at start
  induction pairs generalizing query with
  | nil => exact start
  | cons pair pairs ih =>
    refine ih _ ?_
    have pairClear : '#' ∉ formPair pair.1 pair.2 := by
      intro member
      rcases List.mem_append.1 member with name | rest
      · exact ne_of_mem_formText name (by simp) rfl
      · rcases List.mem_cons.1 rest with mark | value
        · cases mark
        · exact ne_of_mem_formText value (by simp) rfl
    simp only [appendPair, List.mem_append, not_or]
    refine ⟨⟨start, ?_⟩, pairClear⟩
    split <;> simp

end Tidy

end Vigil.Url
