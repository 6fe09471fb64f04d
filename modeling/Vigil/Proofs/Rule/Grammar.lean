import Vigil.Rule.Reading

/-!
# The grammar of rules

A derivation of a rule is a phrase: a tree with a part for each part of the grammar. It has
the tokens that it derives, and a meaning, the level with the comparisons and connectives.

```
rule       = level ":" comparison (("AND" | "OR") comparison)*
level      = "critical" | "warning" | "normal"
comparison = comparator threshold [operation signed]
threshold  = "historical" | signed [unit]
signed     = ["-"] number
```

A unit is a word of the table of magnitudes that is no connective. The grammar is
unambiguous: phrases with the same tokens are the same. A phrase that may go on is told from
a shorter one by the token after it, so each part is separated from what may follow it.
-/

namespace Vigil

namespace Connective

/-- A connective is found by its keyword. -/
@[simp] theorem ofKeyword?_keyword (connective : Connective) :
    ofKeyword? connective.keyword = some connective := by
  cases connective <;> decide

/-- Only the keyword of a connective is read as that connective. -/
theorem eq_keyword_of_ofKeyword? {word : String} {connective : Connective}
    (found : ofKeyword? word = some connective) : word = connective.keyword := by
  simpa using List.find?_some found

end Connective

namespace Rule

open Connective

/-- A number with an optional minus sign. -/
structure SignedNumber where
  negative : Bool
  size : Double

/-- A word for a unit, with how much one of it is. -/
structure UnitWord where
  name : String
  factor : Double
  known : ValueFormat.factor? name = some factor
  free : ∀ connective : Connective, name ≠ connective.keyword

/-- A number with an optional unit. -/
structure Magnitude where
  number : SignedNumber
  unit : Option UnitWord

/-- The right side of a comparison before its change. -/
inductive ThresholdPhrase where
  | historical
  | magnitude (size : Magnitude)

/-- A comparison with an optional change of its threshold. -/
structure ComparisonPhrase where
  comparator : Comparator
  threshold : ThresholdPhrase
  change : Option (Arithmetic × SignedNumber)

/-- A whole rule; missing data is no level that a rule may give. -/
structure Phrase where
  level : Level
  reported : level ≠ .noData
  head : ComparisonPhrase
  chain : List (Connective × ComparisonPhrase)

/-! ## Tokens -/

/-- The tokens of a signed number. -/
def SignedNumber.tokens (number : SignedNumber) : List Token :=
  if number.negative then [.arithmetic .subtract, .number number.size] else [.number number.size]

/-- The token of a unit, if there is one. -/
def unitTokens : Option UnitWord → List Token
  | none => []
  | some unit => [.word unit.name]

/-- The tokens of a magnitude. -/
def Magnitude.tokens (size : Magnitude) : List Token := size.number.tokens ++ unitTokens size.unit

/-- The tokens of a threshold. -/
def ThresholdPhrase.tokens : ThresholdPhrase → List Token
  | historical => [.word historicalWord]
  | magnitude size => size.tokens

/-- The tokens of a change, if there is one. -/
def changeTokens : Option (Arithmetic × SignedNumber) → List Token
  | none => []
  | some (op, operand) => .arithmetic op :: operand.tokens

/-- The tokens of a comparison. -/
def ComparisonPhrase.tokens (phrase : ComparisonPhrase) : List Token :=
  .comparator phrase.comparator :: (phrase.threshold.tokens ++ changeTokens phrase.change)

/-- The tokens of connectives with their comparisons. -/
def chainTokens : List (Connective × ComparisonPhrase) → List Token
  | [] => []
  | (connective, phrase) :: rest =>
      .word connective.keyword :: (phrase.tokens ++ chainTokens rest)

/-- The tokens of a rule. -/
def Phrase.tokens (phrase : Phrase) : List Token :=
  .word phrase.level.name :: .colon :: (phrase.head.tokens ++ chainTokens phrase.chain)

/-! ## Meaning -/

/-- The number that is written. -/
def SignedNumber.value (number : SignedNumber) : Double :=
  if number.negative then -number.size else number.size

/-- The magnitude in ones: the sign comes first, and then the unit. -/
def Magnitude.value (size : Magnitude) : Double :=
  match size.unit with
  | none => size.number.value
  | some unit => size.number.value * unit.factor

/-- The threshold that is written. -/
def ThresholdPhrase.threshold : ThresholdPhrase → Threshold
  | historical => .historical
  | magnitude size => .value size.value

/-- The change that is written; without one the threshold stays as it is. -/
def modifierOf : Option (Arithmetic × SignedNumber) → Modifier
  | none => .unchanged
  | some (op, operand) => .arithmetic op operand.value

/-- The comparison that is written. -/
def ComparisonPhrase.comparison (phrase : ComparisonPhrase) : Comparison :=
  ⟨phrase.comparator, phrase.threshold.threshold, modifierOf phrase.change⟩

/-- The comparisons of a rule, from the left. -/
def Phrase.comparisons (phrase : Phrase) : List Comparison :=
  phrase.head.comparison :: phrase.chain.map fun link => link.2.comparison

/-- The connectives of a rule, from the left. -/
def Phrase.connectives (phrase : Phrase) : List Connective := phrase.chain.map fun link => link.1

/-! ## What may follow -/

/-- The tokens do not go on with a unit: a word at their front is a connective. -/
def NoUnit (tokens : List Token) : Prop :=
  ∀ word rest, tokens = .word word :: rest → (ofKeyword? word).isSome

/-- The tokens do not go on with a comparison: they are at their end or at a connective. -/
def AtConnective (tokens : List Token) : Prop :=
  tokens = [] ∨ ∃ (connective : Connective) (rest : List Token),
    tokens = .word connective.keyword :: rest

/-- The phrases of a kind are told apart by their tokens, whatever of the admitted follows
them. -/
def Separated {P : Type} (tokens : P → List Token) (follows : List Token → Prop) : Prop :=
  ∀ (p q : P) (r s : List Token), follows r → follows s → tokens p ++ r = tokens q ++ s →
    p = q ∧ r = s

/-- A connective is no unit. -/
theorem noUnit_of_atConnective {tokens : List Token} (ends : AtConnective tokens) :
    NoUnit tokens := by
  intro word rest same
  rcases ends with rfl | ⟨connective, more, rfl⟩
  · cases same
  · cases same
    simp

/-- Neither a connective nor a change is a unit. -/
theorem noUnit_changeTokens (change : Option (Arithmetic × SignedNumber)) {rest : List Token}
    (ends : AtConnective rest) : NoUnit (changeTokens change ++ rest) := by
  cases change with
  | none => exact noUnit_of_atConnective ends
  | some change =>
    intro word more same
    cases same

/-- The links of a chain begin with connectives. -/
theorem atConnective_chainTokens (chain : List (Connective × ComparisonPhrase)) :
    AtConnective (chainTokens chain) := by
  cases chain with
  | nil => exact .inl rfl
  | cons link rest => exact .inr ⟨link.1, _, rfl⟩

/-! ## Unambiguity -/

/-- A unit is known by its name. -/
theorem UnitWord.eq_of_name {unit other : UnitWord} (same : unit.name = other.name) :
    unit = other := by
  obtain ⟨name, factor, known, free⟩ := unit
  obtain ⟨otherName, otherFactor, otherKnown, otherFree⟩ := other
  obtain rfl : name = otherName := same
  obtain rfl : factor = otherFactor := by
    rw [known] at otherKnown
    exact Option.some.inj otherKnown
  rfl

/-- A word that goes on as a unit is not where no unit may follow. -/
theorem UnitWord.not_noUnit (unit : UnitWord) (rest : List Token) :
    ¬NoUnit (.word unit.name :: rest) := by
  intro none
  obtain ⟨connective, found⟩ := Option.isSome_iff_exists.1 (none unit.name rest rfl)
  exact unit.free connective (eq_keyword_of_ofKeyword? found)

/-- Signed numbers are separated from anything. -/
theorem separated_signed : Separated SignedNumber.tokens fun _ => True := by
  rintro ⟨negative, size⟩ ⟨otherNegative, otherSize⟩ r s - - same
  cases negative <;> cases otherNegative <;> simp [SignedNumber.tokens] at same ⊢ <;> exact same

/-- An optional unit is separated from what is no unit. -/
theorem separated_unit : Separated unitTokens NoUnit := by
  intro unit other r s unitEnds otherEnds same
  cases unit with
  | none =>
    cases other with
    | none => exact ⟨rfl, same⟩
    | some other =>
      obtain rfl : r = .word other.name :: s := same
      exact absurd unitEnds (other.not_noUnit s)
  | some unit =>
    cases other with
    | none =>
      obtain rfl : .word unit.name :: r = s := same
      exact absurd otherEnds (unit.not_noUnit r)
    | some other =>
      obtain ⟨name, rest⟩ := List.cons.inj same
      exact ⟨congrArg some (UnitWord.eq_of_name (Token.word.inj name)), rest⟩

/-- Magnitudes are separated from what is no unit. -/
theorem separated_magnitude : Separated Magnitude.tokens NoUnit := by
  rintro ⟨number, unit⟩ ⟨otherNumber, otherUnit⟩ r s unitEnds otherEnds same
  simp only [Magnitude.tokens, List.append_assoc] at same
  obtain ⟨rfl, units⟩ := separated_signed _ _ _ _ trivial trivial same
  obtain ⟨rfl, rest⟩ := separated_unit _ _ _ _ unitEnds otherEnds units
  exact ⟨rfl, rest⟩

/-- A magnitude does not begin with a word. -/
theorem Magnitude.tokens_ne_word (size : Magnitude) (word : String) (r s : List Token) :
    size.tokens ++ r ≠ .word word :: s := by
  obtain ⟨⟨negative, number⟩, unit⟩ := size
  cases negative <;> simp [Magnitude.tokens, SignedNumber.tokens]

/-- Thresholds are separated from what is no unit. -/
theorem separated_threshold : Separated ThresholdPhrase.tokens NoUnit := by
  intro phrase other r s ends otherEnds same
  cases phrase with
  | historical =>
    cases other with
    | historical => exact ⟨rfl, (List.cons.inj same).2⟩
    | magnitude size => exact absurd same.symm (size.tokens_ne_word historicalWord s r)
  | magnitude size =>
    cases other with
    | historical => exact absurd same (size.tokens_ne_word historicalWord r s)
    | magnitude otherSize =>
      obtain ⟨rfl, rest⟩ := separated_magnitude _ _ _ _ ends otherEnds same
      exact ⟨rfl, rest⟩

/-- A change does not begin where a connective stands. -/
theorem not_atConnective_arithmetic (op : Arithmetic) (rest : List Token) :
    ¬AtConnective (.arithmetic op :: rest) := by
  rintro (same | ⟨connective, more, same⟩) <;> cases same

/-- An optional change is separated from a connective. -/
theorem separated_change : Separated changeTokens AtConnective := by
  intro change other r s ends otherEnds same
  cases change with
  | none =>
    cases other with
    | none => exact ⟨rfl, same⟩
    | some other =>
      obtain rfl : r = .arithmetic other.1 :: (other.2.tokens ++ s) := same
      exact absurd ends (not_atConnective_arithmetic _ _)
  | some change =>
    cases other with
    | none =>
      obtain rfl : .arithmetic change.1 :: (change.2.tokens ++ r) = s := same
      exact absurd otherEnds (not_atConnective_arithmetic _ _)
    | some other =>
      obtain ⟨op, operand⟩ := change
      obtain ⟨otherOp, otherOperand⟩ := other
      obtain ⟨ops, operands⟩ := List.cons.inj same
      obtain rfl := Token.arithmetic.inj ops
      obtain ⟨rfl, rest⟩ := separated_signed _ _ _ _ trivial trivial operands
      exact ⟨rfl, rest⟩

/-- Comparisons are separated from a connective. -/
theorem separated_comparison : Separated ComparisonPhrase.tokens AtConnective := by
  rintro ⟨comparator, threshold, change⟩ ⟨otherComparator, otherThreshold, otherChange⟩ r s ends
    otherEnds same
  simp only [ComparisonPhrase.tokens, List.cons_append, List.append_assoc, List.cons.injEq,
    Token.comparator.injEq] at same
  obtain ⟨rfl, thresholds⟩ := same
  obtain ⟨rfl, changes⟩ := separated_threshold _ _ _ _ (noUnit_changeTokens change ends)
    (noUnit_changeTokens otherChange otherEnds) thresholds
  obtain ⟨rfl, rest⟩ := separated_change _ _ _ _ ends otherEnds changes
  exact ⟨rfl, rest⟩

/-- Chains are told apart by their tokens. -/
theorem chainTokens_injective : Function.Injective chainTokens := by
  intro chain other same
  induction chain generalizing other with
  | nil => cases other with
    | nil => rfl
    | cons link rest => cases same
  | cons link rest ih => cases other with
    | nil => cases same
    | cons otherLink otherRest =>
      obtain ⟨connective, phrase⟩ := link
      obtain ⟨otherConnective, otherPhrase⟩ := otherLink
      obtain ⟨keyword, body⟩ := List.cons.inj same
      obtain rfl : connective = otherConnective := by
        have found := ofKeyword?_keyword connective
        rw [Token.word.inj keyword, ofKeyword?_keyword] at found
        exact (Option.some.inj found).symm
      obtain ⟨rfl, later⟩ := separated_comparison _ _ _ _ (atConnective_chainTokens rest)
        (atConnective_chainTokens otherRest) body
      rw [ih later]

/-- Every list of tokens has one derivation at most. -/
theorem tokens_injective : Function.Injective Phrase.tokens := by
  rintro ⟨level, reported, head, chain⟩ ⟨otherLevel, otherReported, otherHead, otherChain⟩ same
  obtain ⟨names, body⟩ := List.cons.inj same
  obtain rfl : level = otherLevel := by
    have found := Level.ofName?_name level
    rw [Token.word.inj names, Level.ofName?_name] at found
    exact (Option.some.inj found).symm
  obtain ⟨rfl, chains⟩ := separated_comparison _ _ _ _ (atConnective_chainTokens chain)
    (atConnective_chainTokens otherChain) (List.cons.inj body).2
  obtain rfl := chainTokens_injective chains
  rfl

end Rule

end Vigil
