import Vigil.Proofs.Rule.Grammar

/-!
# Reading rules is deriving them

The reader of rules accepts exactly the texts whose tokens the grammar derives, with the
meaning of the derivation. Each part of the reader is told to be exact for its part of the
grammar: it reads the tokens of a phrase, before what may follow it, as the meaning of the
phrase, and whatever it reads are the tokens of a phrase.
-/

namespace Vigil

namespace Rule

open Connective

/-- A reader is exact for the phrases of a kind. -/
structure Reads {P α : Type} (tokens : P → List Token) (meaning : P → α)
    (follows : List Token → Prop) (read : List Token → Except RuleFault (α × List Token)) :
    Prop where
  complete : ∀ phrase rest, follows rest →
    read (tokens phrase ++ rest) = .ok (meaning phrase, rest)
  sound : ∀ {text value rest}, read text = .ok (value, rest) →
    ∃ phrase, text = tokens phrase ++ rest ∧ value = meaning phrase

/-- Signed numbers are read exactly. -/
theorem reads_signed : Reads SignedNumber.tokens SignedNumber.value (fun _ => True) readSigned where
  complete := by
    rintro ⟨negative, size⟩ rest -
    cases negative <;> simp [SignedNumber.tokens, SignedNumber.value, readSigned]
  sound := by
    intro text value rest reads
    unfold readSigned at reads
    split at reads <;> cases reads
    · exact ⟨⟨false, _⟩, rfl, rfl⟩
    · exact ⟨⟨true, _⟩, rfl, rfl⟩

/-- A unit after a number scales it. -/
theorem readMagnitude_of_unit {text rest : List Token} {x : Double} {unit : UnitWord}
    (reads : readSigned text = .ok (x, .word unit.name :: rest)) :
    readMagnitude text = .ok (x * unit.factor, rest) := by
  have free : ofKeyword? unit.name = none := by
    cases found : ofKeyword? unit.name with
    | none => rfl
    | some connective => exact absurd (eq_keyword_of_ofKeyword? found) (unit.free connective)
  simp [readMagnitude, reads, free, ValueFormat.scale?, unit.known]

/-- A number that no unit follows is read as it is. -/
theorem readMagnitude_of_noUnit {text rest : List Token} {x : Double}
    (reads : readSigned text = .ok (x, rest)) (ends : NoUnit rest) :
    readMagnitude text = .ok (x, rest) := by
  unfold readMagnitude
  rw [reads]
  cases rest with
  | nil => rfl
  | cons token more =>
    cases token with
    | word word => simp [ends word more rfl]
    | _ => rfl

/-- Magnitudes are read exactly. -/
theorem reads_magnitude : Reads Magnitude.tokens Magnitude.value NoUnit readMagnitude where
  complete := by
    rintro ⟨number, unit⟩ rest ends
    have signed := reads_signed.complete number (unitTokens unit ++ rest) trivial
    rw [Magnitude.tokens, List.append_assoc]
    cases unit with
    | none => exact readMagnitude_of_noUnit signed ends
    | some unit => exact readMagnitude_of_unit signed
  sound := by
    intro text value rest reads
    unfold readMagnitude at reads
    split at reads
    · cases reads
    · rename_i x word more signed
      obtain ⟨number, rfl, rfl⟩ := reads_signed.sound signed
      split at reads
      · cases reads
        exact ⟨⟨number, none⟩, by simp [Magnitude.tokens, unitTokens], rfl⟩
      · rename_i free
        simp only [ValueFormat.scale?] at reads
        cases known : ValueFormat.factor? word with
        | none => simp [known] at reads
        | some factor =>
          obtain ⟨rfl, rfl⟩ : number.value * factor = value ∧ more = rest := by
            simpa [known] using reads
          have other : ∀ connective : Connective, word ≠ connective.keyword := by
            rintro connective rfl
            simp at free
          exact ⟨⟨number, some ⟨word, factor, known, other⟩⟩,
            by simp [Magnitude.tokens, unitTokens], rfl⟩
    · rename_i x more bare signed
      cases reads
      obtain ⟨number, rfl, rfl⟩ := reads_signed.sound signed
      exact ⟨⟨number, none⟩, by simp [Magnitude.tokens, unitTokens], rfl⟩

/-- Thresholds are read exactly. -/
theorem reads_threshold :
    Reads ThresholdPhrase.tokens ThresholdPhrase.threshold NoUnit readThreshold where
  complete := by
    intro phrase rest ends
    cases phrase with
    | historical => rfl
    | magnitude size =>
      have notMean : (size.tokens ++ rest).head? ≠ some (.word historicalWord) := by
        intro mean
        obtain ⟨more, same⟩ := List.head?_eq_some_iff.1 mean
        exact size.tokens_ne_word historicalWord rest more same
      rw [ThresholdPhrase.tokens, readThreshold, if_neg notMean,
        reads_magnitude.complete size rest ends]
      rfl
  sound := by
    intro text value rest reads
    unfold readThreshold at reads
    split at reads
    · rename_i mean
      cases reads
      obtain ⟨more, rfl⟩ := List.head?_eq_some_iff.1 mean
      exact ⟨.historical, rfl, rfl⟩
    · split at reads
      · rename_i magnitude
        cases reads
        obtain ⟨size, rfl, rfl⟩ := reads_magnitude.sound magnitude
        exact ⟨.magnitude size, rfl, rfl⟩
      · cases reads

/-- Changes are read exactly. -/
theorem reads_change : Reads changeTokens modifierOf AtConnective readModifier where
  complete := by
    intro change rest ends
    cases change with
    | none => rcases ends with rfl | ⟨connective, more, rfl⟩ <;> rfl
    | some change =>
      obtain ⟨op, operand⟩ := change
      simp [changeTokens, readModifier, reads_signed.complete operand rest trivial, modifierOf]
  sound := by
    intro text value rest reads
    unfold readModifier at reads
    split at reads
    · rename_i op more
      split at reads
      · rename_i signed
        cases reads
        obtain ⟨operand, rfl, rfl⟩ := reads_signed.sound signed
        exact ⟨some (op, operand), rfl, rfl⟩
      · cases reads
    · cases reads
      exact ⟨none, rfl, rfl⟩

/-- Comparisons are read exactly. -/
theorem reads_comparison :
    Reads ComparisonPhrase.tokens ComparisonPhrase.comparison AtConnective readComparison where
  complete := by
    rintro ⟨comparator, threshold, change⟩ rest ends
    have thresholds := reads_threshold.complete threshold (changeTokens change ++ rest)
      (noUnit_changeTokens change ends)
    have changes := reads_change.complete change rest ends
    simp [ComparisonPhrase.tokens, ComparisonPhrase.comparison, readComparison, thresholds, changes]
  sound := by
    intro text value rest reads
    unfold readComparison at reads
    split at reads
    · rename_i comparator more
      split at reads
      · cases reads
      · rename_i thresholds
        split at reads
        · cases reads
        · rename_i changes
          cases reads
          obtain ⟨threshold, rfl, rfl⟩ := reads_threshold.sound thresholds
          obtain ⟨change, rfl, rfl⟩ := reads_change.sound changes
          exact ⟨⟨comparator, threshold, change⟩, by simp [ComparisonPhrase.tokens], rfl⟩
    · cases reads

/-- The connectives and comparisons that are written. -/
def chainOf (chain : List (Connective × ComparisonPhrase)) : List (Connective × Comparison) :=
  chain.map fun link => (link.1, link.2.comparison)

/-- A chain is read from its tokens. -/
theorem readChain_chainTokens (chain : List (Connective × ComparisonPhrase)) :
    readChain (chainTokens chain) = .ok (chainOf chain) := by
  induction chain with
  | nil => simp [chainTokens, readChain, chainOf]
  | cons link rest ih =>
    obtain ⟨connective, phrase⟩ := link
    have first := reads_comparison.complete phrase (chainTokens rest)
      (atConnective_chainTokens rest)
    rw [chainTokens, readChain]
    simp only [ofKeyword?_keyword]
    split
    · rename_i fault refused
      rw [first] at refused
      cases refused
    · rename_i comparison more reads
      rw [first] at reads
      cases reads
      simp [ih, chainOf]

/-- What is read as a chain are the tokens of one. -/
theorem exists_of_readChain {text : List Token} {links : List (Connective × Comparison)}
    (reads : readChain text = .ok links) :
    ∃ chain, text = chainTokens chain ∧ links = chainOf chain := by
  fun_induction readChain text generalizing links with
  | case1 =>
    cases reads
    exact ⟨[], rfl, rfl⟩
  | case2 => cases reads
  | case3 => cases reads
  | case4 => cases reads
  | case5 token rest =>
    rename_i connective joins comparison more first _ _ _ ih
    cases reads
    obtain ⟨phrase, rfl, rfl⟩ := reads_comparison.sound first
    obtain ⟨chain, rfl, rfl⟩ := ih (by assumption)
    cases token with
    | word word =>
      obtain rfl := eq_keyword_of_ofKeyword? joins
      exact ⟨(connective, phrase) :: chain, rfl, rfl⟩
    | _ =>
      have unjoined : none = some connective := joins
      cases unjoined

/-- The rule that is written, with its text. -/
def Phrase.rule (phrase : Phrase) (raw : String) : Rule :=
  ⟨phrase.level, phrase.head.comparison, chainOf phrase.chain, raw⟩

/-- A level is found by its name, except that of missing data. -/
theorem ruleLevel?_eq_some_iff {word : String} {level : Level} :
    ruleLevel? word = some level ↔ word = level.name ∧ level ≠ .noData := by
  constructor
  · intro found
    have listed := List.mem_of_find?_eq_some found
    refine ⟨by simpa using List.find?_some found, ?_⟩
    rintro rfl
    simp at listed
  · rintro ⟨rfl, reported⟩
    cases level with
    | noData => exact absurd rfl reported
    | _ => decide

/-- Tokens are read as a rule exactly when they are those of a phrase, and then as its rule. -/
theorem ofTokens_eq_ok_iff (raw : String) (tokens : List Token) (rule : Rule) :
    ofTokens raw tokens = .ok rule ↔
      ∃ phrase : Phrase, tokens = phrase.tokens ∧ rule = phrase.rule raw := by
  constructor
  · intro reads
    unfold ofTokens at reads
    split at reads
    · split at reads
      · cases reads
      · rename_i level named
        split at reads
        · split at reads
          · cases reads
          · rename_i first
            split at reads
            · cases reads
            · rename_i chained
              cases reads
              obtain ⟨rfl, reported⟩ := ruleLevel?_eq_some_iff.1 named
              obtain ⟨head, rfl, rfl⟩ := reads_comparison.sound first
              obtain ⟨chain, rfl, rfl⟩ := exists_of_readChain chained
              exact ⟨⟨level, reported, head, chain⟩, rfl, rfl⟩
        · cases reads
    · cases reads
  · rintro ⟨⟨level, reported, head, chain⟩, rfl, rfl⟩
    have named : ruleLevel? level.name = some level := ruleLevel?_eq_some_iff.2 ⟨rfl, reported⟩
    have heads := reads_comparison.complete head (chainTokens chain)
      (atConnective_chainTokens chain)
    simp [ofTokens, Phrase.tokens, Phrase.rule, named, heads, readChain_chainTokens]

/-- A text is read as a rule exactly when its tokens are those of a phrase, and then as its
rule. -/
theorem read_eq_ok_iff (raw : String) (rule : Rule) :
    read raw = .ok rule ↔
      ∃ phrase : Phrase, Token.scan raw = .ok phrase.tokens ∧ rule = phrase.rule raw := by
  unfold read
  cases scanned : Token.scan raw with
  | error fault => simp
  | ok tokens =>
    have reads := ofTokens_eq_ok_iff raw tokens rule
    cases made : ofTokens raw tokens with
    | error fault =>
      rw [made] at reads
      dsimp only
      rw [made]
      change Except.error _ = Except.ok rule ↔ _
      simpa using reads
    | ok found =>
      rw [made] at reads
      dsimp only
      rw [made]
      change Except.ok found = Except.ok rule ↔ _
      simpa using reads

/-- The words that the grammar itself uses. -/
def keywords : List String :=
  [Level.critical.name, Level.warning.name, Level.normal.name, historicalWord,
    Connective.both.keyword, Connective.either.keyword]

/-- Whether a token is spelled as in the grammar: a word is a keyword or a known unit to the
letter. -/
def isSpelled : Token → Bool
  | .word word => keywords.contains word || (ValueFormat.factor? word).isSome
  | _ => true

/-- A signed number has no words. -/
theorem isSpelled_signed (number : SignedNumber) : number.tokens.all isSpelled = true := by
  obtain ⟨negative, size⟩ := number
  cases negative <;> rfl

/-- The words of a comparison are spelled as in the grammar. -/
theorem isSpelled_comparison (phrase : ComparisonPhrase) : phrase.tokens.all isSpelled = true := by
  obtain ⟨comparator, threshold, change⟩ := phrase
  have thresholds : threshold.tokens.all isSpelled = true := by
    cases threshold with
    | historical => decide
    | magnitude size =>
      obtain ⟨number, unit⟩ := size
      have signed := isSpelled_signed number
      cases unit with
      | none => simpa [ThresholdPhrase.tokens, Magnitude.tokens, unitTokens] using signed
      | some unit =>
        have spelled : isSpelled (.word unit.name) = true := by simp [isSpelled, unit.known]
        simp [ThresholdPhrase.tokens, Magnitude.tokens, unitTokens, List.all_append, signed,
          spelled]
  have changes : (changeTokens change).all isSpelled = true := by
    cases change with
    | none => rfl
    | some change => simpa [changeTokens, isSpelled] using isSpelled_signed change.2
  simp only [ComparisonPhrase.tokens, List.all_cons, List.all_append, thresholds, changes,
    isSpelled, Bool.and_self]

/-- The words of a chain are spelled as in the grammar. -/
theorem isSpelled_chain (chain : List (Connective × ComparisonPhrase)) :
    (chainTokens chain).all isSpelled = true := by
  induction chain with
  | nil => rfl
  | cons link rest ih =>
    have keyword : isSpelled (.word link.1.keyword) = true := by
      cases link.1 <;> decide
    simp only [chainTokens, List.all_cons, List.all_append, keyword, isSpelled_comparison, ih,
      Bool.and_self]

/-- The words of a rule are spelled as in the grammar. -/
theorem isSpelled_tokens (phrase : Phrase) : phrase.tokens.all isSpelled = true := by
  obtain ⟨level, reported, head, chain⟩ := phrase
  have named : isSpelled (.word level.name) = true := by
    cases level with
    | noData => exact absurd rfl reported
    | _ => decide
  simp only [Phrase.tokens, List.all_cons, List.all_append, named, isSpelled_comparison,
    isSpelled_chain, Bool.and_true]
  rfl

/-- A text is read as a rule with a level, comparisons and connectives exactly when the grammar
derives its tokens with these. No tokens have two derivations; in each the words are spelled to the
letter, and there is one connective fewer than there are comparisons. -/
theorem read_iff_derived (raw : String) :
    (∀ level comparisons connectives,
      (∃ rule, read raw = .ok rule ∧ rule.level = level ∧ rule.comparisons = comparisons ∧
          rule.connectives = connectives) ↔
        ∃ phrase : Phrase, Token.scan raw = .ok phrase.tokens ∧ phrase.level = level ∧
          phrase.comparisons = comparisons ∧ phrase.connectives = connectives) ∧
      Function.Injective Phrase.tokens ∧
      ∀ phrase : Phrase, phrase.tokens.all isSpelled = true ∧
        phrase.comparisons.length = phrase.connectives.length + 1 := by
  refine ⟨fun level comparisons connectives => ?_, tokens_injective, fun phrase => ?_⟩
  · have views : ∀ phrase : Phrase, (phrase.rule raw).comparisons = phrase.comparisons ∧
        (phrase.rule raw).connectives = phrase.connectives := by
      intro phrase
      simp [Phrase.rule, Rule.comparisons, Rule.connectives, Phrase.comparisons,
        Phrase.connectives, chainOf]
    constructor
    · rintro ⟨rule, reads, rfl, rfl, rfl⟩
      obtain ⟨phrase, scanned, rfl⟩ := (read_eq_ok_iff raw rule).1 reads
      exact ⟨phrase, scanned, rfl, (views phrase).1.symm, (views phrase).2.symm⟩
    · rintro ⟨phrase, scanned, rfl, rfl, rfl⟩
      have reads := (read_eq_ok_iff raw (phrase.rule raw)).2 ⟨phrase, scanned, rfl⟩
      exact ⟨phrase.rule raw, reads, rfl, (views phrase).1, (views phrase).2⟩
  · exact ⟨isSpelled_tokens phrase, by simp [Phrase.comparisons, Phrase.connectives]⟩

-- The sign comes before the unit, and a connective after a number is no unit.
example : (read "warning: > -5m AND < historical * 1.2").toOption.map comparisons =
    some [⟨.greater, .value (-300), .unchanged⟩,
      ⟨.less, .historical, .arithmetic .multiply (.ofDecimal false ⟨12, -1⟩)⟩] := by
  decide +kernel

end Rule

end Vigil
