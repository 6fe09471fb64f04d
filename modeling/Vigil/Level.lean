import Vigil.Text.Quoted

/-!
# Levels

The four levels of a notification and their order of severity.
-/

namespace Vigil

/-- The level of a target. -/
inductive Level where
  | critical
  | warning
  | normal
  | noData
deriving DecidableEq, Repr

namespace Level

/-- All levels from the most severe on. -/
def all : List Level := [critical, warning, normal, noData]

/-- The place of a level in the order of severity; the most severe comes first. -/
def rank : Level → Nat
  | critical => 0
  | warning => 10
  | normal => 20
  | noData => 30

/-- The name of a level in configurations and messages. -/
def name : Level → String
  | critical => "critical"
  | warning => "warning"
  | normal => "normal"
  | noData => "no_data"

/-- The name of a level in capitals, as notifications show it. -/
def title : Level → String
  | critical => "CRITICAL"
  | warning => "WARNING"
  | normal => "NORMAL"
  | noData => "NO_DATA"

/-- The level of a name. -/
def ofName? (text : String) : Option Level := all.find? fun level => text = level.name

/-- The refusal of a name that no level has. -/
def unknownName (text : String) : String := "unknown level " ++ Text.quoted text

/-- A level is found by its name. -/
theorem ofName?_name (level : Level) : ofName? level.name = some level := by
  cases level <;> decide

/-- Different levels have different ranks. -/
theorem rank_injective {a b : Level} (same : a.rank = b.rank) : a = b := by
  cases a <;> cases b <;> simp_all [rank]

end Level

end Vigil
