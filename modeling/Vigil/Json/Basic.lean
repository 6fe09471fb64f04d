import Vigil.Double.Basic

/-!
# Configuration values

The values that configuration files hold: null, booleans, numbers, texts, lists
and objects. The fields of an object are kept in the order of their keys, and a
key has one value: a later one takes the place of an earlier one.
-/

namespace Vigil

/-- A number of a configuration: an integer of 64 bits with or without sign, or a finite number. -/
inductive Json.Number where
  | integer (value : Int)
  | real (value : Double)
deriving DecidableEq

/-- A configuration value. -/
inductive Json where
  | null
  | bool (value : Bool)
  | number (value : Json.Number)
  | text (value : String)
  | list (items : List Json)
  | object (fields : List (String × Json))
deriving Inhabited

namespace Json

/-- The number as binary64. -/
def Number.toDouble : Number → Double
  | integer value => Double.ofInt value
  | real value => value

/-- The fields of an object. -/
abbrev Fields := List (String × Json)

namespace Fields

/-- The value of a key. -/
def get? (fields : Fields) (key : String) : Option Json :=
  (fields.find? fun field => field.1 = key).map (·.2)

/-- Gives a key its value and keeps the order of the keys. -/
def insert (fields : Fields) (key : String) (value : Json) : Fields :=
  match fields with
  | [] => [(key, value)]
  | field :: rest =>
      if key < field.1 then (key, value) :: field :: rest
      else if key = field.1 then (key, value) :: rest
      else field :: insert rest key value

/-- The fields without a key. -/
def erase (fields : Fields) (key : String) : Fields :=
  fields.filter fun field => field.1 ≠ key

/-- Fields in the order of their keys; of two values for a key the later one stays. -/
def ofList (fields : List (String × Json)) : Fields :=
  fields.foldl (fun done field => insert done field.1 field.2) []

/-- The inserted value is found, and no other key is touched. -/
theorem get?_insert (fields : Fields) (key other : String) (value : Json) :
    get? (insert fields key value) other = if other = key then some value else get? fields other := by
  induction fields with
  | nil => simp [insert, get?, eq_comm]
  | cons field rest ih =>
    obtain ⟨name, held⟩ := field
    unfold insert
    split
    · by_cases same : other = key
      · simp [get?, same]
      · simp [get?, same, Ne.symm same]
    · split
      · rename_i same
        subst same
        by_cases other_eq : other = key
        · simp [get?, other_eq]
        · simp [get?, other_eq, Ne.symm other_eq]
      · rename_i differs
        unfold get? at ih ⊢
        by_cases here : name = other
        · have : other ≠ key := fun eq => differs (by simp [← eq, here])
          simp [here, this]
        · simpa [here] using ih

/-- An erased key has no value, and no other key is touched. -/
theorem get?_erase (fields : Fields) (key other : String) :
    get? (erase fields key) other = if other = key then none else get? fields other := by
  induction fields with
  | nil => simp [erase, get?]
  | cons field rest ih =>
    obtain ⟨name, held⟩ := field
    unfold get? erase at ih ⊢
    by_cases gone : name = key
    · subst gone
      by_cases same : other = name
      · simp_all
      · simp_all [Ne.symm same]
    · by_cases here : name = other
      · subst here
        simp [gone]
      · simp_all

end Fields

end Json

end Vigil
