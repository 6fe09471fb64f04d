import Vigil.History
import Vigil.Rule.Basic

/-!
# Evaluating rules

A comparison that uses the history is false until the history is full. The
comparisons of a rule are joined from the left without precedence, and the first
rule that holds decides.
-/

namespace Vigil

namespace Comparison

/-- The threshold of a comparison after its change, if its history allows one. -/
def resolve (comparison : Comparison) (history : Option History) : Option Double :=
  let base := match comparison.threshold with
    | .value x => some x
    | .historical => (history.filter History.isFull).bind History.mean
  base.map comparison.modifier.apply

/-- Whether a value passes a comparison. -/
def holds (comparison : Comparison) (value : Double) (history : Option History) : Bool :=
  match comparison.resolve history with
  | some threshold => comparison.comparator.holds value threshold
  | none => false

end Comparison

namespace Rule

/-- Whether a rule holds for a value. -/
def holds (rule : Rule) (value : Double) (history : Option History) : Bool :=
  rule.chain.foldl (fun truth link => link.1.join truth (link.2.holds value history))
    (rule.head.holds value history)

/-- The first of the rules that holds for a value. -/
def firstMatch (rules : List Rule) (value : Double) (history : Option History) : Option Rule :=
  rules.find? fun rule => rule.holds value history

/-- The level of a decision; without a rule it is normal. -/
def levelOf (rule : Option Rule) : Level := (rule.map (·.level)).getD .normal

end Rule

end Vigil
