import Vigil.Rule.Basic
import Vigil.ValueFormat

/-!
# Reading rules

The grammar of rules over tokens. Each reader takes its part from the front of
the tokens and returns the tokens after it; the readers fail at the first token
that does not fit.

```
rule       = level ":" comparison (("AND" | "OR") comparison)*
comparison = comparator threshold [operation signed]
threshold  = "historical" | signed [unit]
signed     = ["-"] number
```
-/

namespace Vigil

/-- Why a text is not a rule. -/
inductive RuleFault where
  | token (fault : TokenFault)
  | unknownLevel (word : String)
  | levelMissing
  | colonMissing
  | connectiveExpected (found : Token)
  | comparatorExpected (found : Option Token)
  | numberExpected (found : Option Token)
  | unknownUnit (word : String)
deriving DecidableEq

/-- The wording of a fault. -/
def RuleFault.reason : RuleFault → String
  | token fault => fault.reason
  | unknownLevel word => Level.unknownName word
  | levelMissing => "rule must start with a level"
  | colonMissing => "expected ':' after the level"
  | connectiveExpected found => "expected AND or OR, found " ++ found.text
  | comparatorExpected found => "expected a comparator, found " ++ Token.textOfOption found
  | numberExpected found => "expected a number, found " ++ Token.textOfOption found
  | unknownUnit word => "unknown unit " ++ Text.quoted word

/-- A refused rule: its text and why it is none. -/
structure InvalidRule where
  raw : String
  fault : RuleFault
deriving DecidableEq

/-- The message of a refused rule. -/
def InvalidRule.message (e : InvalidRule) : String :=
  "Invalid rule " ++ Text.quoted e.raw ++ ": " ++ e.fault.reason

namespace Rule

/-- The word for the mean of the history. -/
def historicalWord : String := "historical"

/-- The level of a word; rules have no level for missing data. -/
def ruleLevel? (word : String) : Option Level :=
  [Level.critical, Level.warning, Level.normal].find? fun level => word = level.name

/-- Reads a number with an optional minus sign. -/
def readSigned : List Token → Except RuleFault (Double × List Token)
  | .number x :: rest => .ok (x, rest)
  | .arithmetic .subtract :: .number x :: rest => .ok (-x, rest)
  | .arithmetic .subtract :: rest => .error (.numberExpected rest.head?)
  | tokens => .error (.numberExpected tokens.head?)

/-- Reads a signed number with an optional unit; a connective is no unit. -/
def readMagnitude (tokens : List Token) : Except RuleFault (Double × List Token) :=
  match readSigned tokens with
  | .error fault => .error fault
  | .ok (x, .word unit :: rest) =>
      if (Connective.ofKeyword? unit).isSome then .ok (x, .word unit :: rest)
      else match ValueFormat.scale? x unit with
        | some scaled => .ok (scaled, rest)
        | none => .error (.unknownUnit unit)
  | .ok (x, rest) => .ok (x, rest)

/-- Reads a threshold. -/
def readThreshold (tokens : List Token) : Except RuleFault (Threshold × List Token) :=
  if tokens.head? = some (.word historicalWord) then .ok (.historical, tokens.tail)
  else match readMagnitude tokens with
    | .ok (x, rest) => .ok (.value x, rest)
    | .error fault => .error fault

/-- Reads an optional change of the threshold. -/
def readModifier : List Token → Except RuleFault (Modifier × List Token)
  | .arithmetic op :: rest =>
      match readSigned rest with
      | .ok (x, more) => .ok (.arithmetic op x, more)
      | .error fault => .error fault
  | tokens => .ok (.unchanged, tokens)

/-- Reads one comparison. -/
def readComparison : List Token → Except RuleFault (Comparison × List Token)
  | .comparator comparator :: rest =>
      match readThreshold rest with
      | .error fault => .error fault
      | .ok (threshold, more) =>
          match readModifier more with
          | .error fault => .error fault
          | .ok (modifier, last) => .ok (⟨comparator, threshold, modifier⟩, last)
  | tokens => .error (.comparatorExpected tokens.head?)

/-- A signed number takes one token at least. -/
theorem length_readSigned {tokens rest : List Token} {x : Double}
    (reads : readSigned tokens = .ok (x, rest)) : rest.length < tokens.length := by
  unfold readSigned at reads
  split at reads <;> cases reads <;> simp only [List.length_cons] <;> omega

/-- A magnitude takes one token at least. -/
theorem length_readMagnitude {tokens rest : List Token} {x : Double}
    (reads : readMagnitude tokens = .ok (x, rest)) : rest.length < tokens.length := by
  unfold readMagnitude at reads
  split at reads
  · cases reads
  · have signed := length_readSigned (by assumption)
    split at reads
    · cases reads; exact signed
    · split at reads <;> cases reads
      exact Nat.lt_of_succ_lt signed
  · cases reads
    exact length_readSigned (by assumption)

/-- A threshold never gives tokens back. -/
theorem length_readThreshold {tokens rest : List Token} {threshold : Threshold}
    (reads : readThreshold tokens = .ok (threshold, rest)) : rest.length ≤ tokens.length := by
  unfold readThreshold at reads
  split at reads
  · cases reads; simp
  · split at reads <;> cases reads
    exact Nat.le_of_lt (length_readMagnitude (by assumption))

/-- A modifier never gives tokens back. -/
theorem length_readModifier {tokens rest : List Token} {modifier : Modifier}
    (reads : readModifier tokens = .ok (modifier, rest)) : rest.length ≤ tokens.length := by
  unfold readModifier at reads
  split at reads
  · split at reads <;> cases reads
    exact Nat.le_of_lt (Nat.lt_of_lt_of_le (length_readSigned (by assumption)) (by simp))
  · cases reads; exact Nat.le_refl _

/-- A comparison takes one token at least. -/
theorem length_readComparison {tokens rest : List Token} {comparison : Comparison}
    (reads : readComparison tokens = .ok (comparison, rest)) : rest.length < tokens.length := by
  unfold readComparison at reads
  split at reads
  · split at reads
    · cases reads
    · split at reads <;> cases reads
      have first := length_readThreshold (by assumption)
      have second := length_readModifier (by assumption)
      simp only [List.length_cons]
      omega
  · cases reads

/-- Reads connectives with their comparisons up to the end of the tokens. -/
def readChain (tokens : List Token) : Except RuleFault (List (Connective × Comparison)) :=
  match tokens with
  | [] => .ok []
  | token :: rest =>
      let connective? := match token with
        | .word word => Connective.ofKeyword? word
        | _ => none
      match connective? with
      | none => .error (.connectiveExpected token)
      | some connective =>
          match reads : readComparison rest with
          | .error fault => .error fault
          | .ok (comparison, more) =>
              have : more.length < rest.length := length_readComparison reads
              match readChain more with
              | .error fault => .error fault
              | .ok chain => .ok ((connective, comparison) :: chain)
termination_by tokens.length
decreasing_by
  simp only [List.length_cons]
  omega

/-- Reads the tokens of a rule whose text is `raw`. -/
def ofTokens (raw : String) : List Token → Except RuleFault Rule
  | .word word :: rest =>
      match ruleLevel? word with
      | none => .error (.unknownLevel word)
      | some level =>
          match rest with
          | .colon :: body =>
              match readComparison body with
              | .error fault => .error fault
              | .ok (head, more) =>
                  match readChain more with
                  | .error fault => .error fault
                  | .ok chain => .ok ⟨level, head, chain, raw⟩
          | _ => .error .colonMissing
  | _ => .error .levelMissing

/-- Reads a rule. -/
def read (raw : String) : Except InvalidRule Rule :=
  match Token.scan raw with
  | .error fault => .error ⟨raw, .token fault⟩
  | .ok tokens => (ofTokens raw tokens).mapError fun fault => ⟨raw, fault⟩

end Rule

end Vigil
