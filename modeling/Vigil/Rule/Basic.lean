import Vigil.Level
import Vigil.Rule.Token

/-!
# Rules

A rule gives a level to the values for which a chain of comparisons holds. A
chain has a first comparison and then connectives, each with one comparison more,
so there is always one connective fewer than there are comparisons.
-/

namespace Vigil

/-- What a value is compared with: a number, or the mean of a full history. -/
inductive Threshold where
  | value (x : Double)
  | historical
deriving DecidableEq

/-- A change of a threshold before the comparison. -/
inductive Modifier where
  | unchanged
  | arithmetic (op : Arithmetic) (operand : Double)
deriving DecidableEq

/-- The changed threshold. -/
def Modifier.apply : Modifier → Double → Double
  | unchanged, threshold => threshold
  | arithmetic op operand, threshold => op.apply threshold operand

/-- One comparison of a rule. -/
structure Comparison where
  comparator : Comparator
  threshold : Threshold
  modifier : Modifier
deriving DecidableEq

/-- What joins two comparisons. -/
inductive Connective where
  | both
  | either
deriving DecidableEq, Repr

/-- The truth of two joined comparisons. -/
def Connective.join : Connective → Bool → Bool → Bool
  | both, a, b => a && b
  | either, a, b => a || b

/-- The keyword of a connective. -/
def Connective.keyword : Connective → String
  | both => "AND"
  | either => "OR"

/-- The connective of a keyword. -/
def Connective.ofKeyword? (word : String) : Option Connective :=
  [both, either].find? fun c => word = c.keyword

/-- A rule, with the text it was read from. -/
structure Rule where
  level : Level
  head : Comparison
  chain : List (Connective × Comparison)
  raw : String
deriving DecidableEq

namespace Rule

/-- The comparisons of a rule, from the left. -/
def comparisons (rule : Rule) : List Comparison := rule.head :: rule.chain.map (·.2)

/-- The connectives of a rule, from the left. -/
def connectives (rule : Rule) : List Connective := rule.chain.map (·.1)

/-- There is one comparison more than there are connectives. -/
theorem length_comparisons (rule : Rule) :
    rule.comparisons.length = rule.connectives.length + 1 := by
  simp [comparisons, connectives]

/-- The rules from the most severe level on; rules of one level keep their order. -/
def sortBySeverity (rules : List Rule) : List Rule :=
  rules.mergeSort fun a b => a.level.rank ≤ b.level.rank

end Rule

end Vigil
