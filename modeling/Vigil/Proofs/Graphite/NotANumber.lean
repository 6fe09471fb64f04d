import Vigil.Proofs.Double.Order
import Vigil.Proofs.Graphite.Line
import Vigil.Rule.Token

/-!
# Values that are not numbers

A token of a line is left out unless it reads as a number, and so is one that the policy takes for
a gap. But the name of not-a-number is read as well, in any case and with any sign, and no policy
takes what it names for a gap. So a record holds not-a-number exactly when a token spells it, and
then the sum and the average of the record are not-a-number too.
-/

namespace Vigil

namespace Double

/-- The texts that spell not-a-number: its name in any case, with an optional sign. -/
def SpellsNaN (text : List Char) : Prop :=
  ∃ sign word, text = sign ++ word ∧ sign ∈ [[], ['+'], ['-']] ∧
    word.map Char.toLower = "nan".toList

/-- No decimal is not-a-number. -/
theorem ofDecimal_ne_nan (negative : Bool) (d : Decimal) : ofDecimal negative d ≠ nan := by
  unfold ofDecimal
  split
  · exact fun same => by cases same
  split
  · exact fun same => by cases same
  split
  · exact fun same => by cases same
  exact ofRatio_ne_nan negative _ _

/-- No numeral is not-a-number. Every way to a number ends in a decimal. -/
theorem readUnsigned_ne_nan (negative : Bool) (text : List Char) :
    readUnsigned negative text ≠ some nan := by
  intro reads
  simp only [readUnsigned] at reads
  repeat' split at reads
  all_goals first
    | cases reads
    | exact ofDecimal_ne_nan negative _ (Option.some.inj reads)

/-- A numeral begins with a digit or a point. -/
theorem readUnsigned_eq_none (negative : Bool) {c : Char} (rest : List Char)
    (noDigit : c.isDigit = false) (noPoint : c ≠ '.') :
    readUnsigned negative (c :: rest) = none := by
  simp [readUnsigned, noDigit, noPoint]

/-- A letter of the name is neither a digit nor a point nor a sign. -/
theorem not_sign_of_toLower {c : Char} (letter : c.toLower = 'n') :
    c.isDigit = false ∧ c ≠ '.' ∧ c ≠ '+' ∧ c ≠ '-' := by
  have other : ∀ d : Char, d.toLower ≠ 'n' → c ≠ d := by
    rintro d different rfl
    exact different letter
  refine ⟨?_, other '.' (by decide), other '+' (by decide), other '-' (by decide)⟩
  cases digit : c.isDigit with
  | false => rfl
  | true =>
    have low : c.toLower = c := by
      simp only [Char.isDigit, Bool.and_eq_true, decide_eq_true_eq, ge_iff_le,
        UInt32.le_iff_toNat_le] at digit
      have bound : c.val.toNat ≤ 57 := digit.2
      refine dif_neg ?_
      rintro ⟨capital, -⟩
      have least : 65 ≤ c.val.toNat := UInt32.le_iff_toNat_le.1 capital
      omega
    rw [low] at letter
    rw [letter] at digit
    exact absurd digit (by decide)

/-- Not-a-number is read from exactly the texts that spell it. -/
theorem read_eq_nan_iff (text : List Char) : read text = some nan ↔ SpellsNaN text := by
  constructor
  · intro reads
    unfold read at reads
    split at reads
    rename_i negative body signed
    have name : body.map Char.toLower = "nan".toList := by
      split at reads
      · rename_i unsigned
        exact absurd (unsigned.trans reads) (readUnsigned_ne_nan negative body)
      · dsimp only at reads
        split at reads
        · assumption
        · split at reads <;> cases reads
    split at signed
    · cases signed
      exact ⟨['-'], body, rfl, by simp, name⟩
    · cases signed
      exact ⟨['+'], body, rfl, by simp, name⟩
    · cases signed
      exact ⟨[], text, rfl, by simp, name⟩
  · rintro ⟨sign, word, rfl, signs, name⟩
    obtain ⟨c, rest, rfl⟩ : ∃ c rest, word = c :: rest := by
      cases word with
      | nil => cases name
      | cons c rest => exact ⟨c, rest, rfl⟩
    have letter : c.toLower = 'n' := (List.cons.inj name).1
    obtain ⟨noDigit, noPoint, noPlus, noMinus⟩ := not_sign_of_toLower letter
    have unread := fun negative => readUnsigned_eq_none negative rest noDigit noPoint
    simp only [List.mem_cons, List.not_mem_nil, or_false] at signs
    rcases signs with rfl | rfl | rfl
    · simp [read, noPlus, noMinus, unread, name]
    · simp [read, unread, name]
    · simp [read, unread, name]

/-- Not-a-number added to a number is not-a-number. -/
theorem nan_add (x : Double) : add nan x = nan := by
  cases x <;> rfl

/-- A number added to not-a-number is not-a-number. -/
theorem add_nan (x : Double) : add x nan = nan := by
  cases x <;> rfl

/-- Not-a-number among some numbers makes their sum not-a-number. -/
theorem sum_eq_nan {values : List Double} (member : nan ∈ values) : sum values = nan := by
  have absorbed : ∀ rest : List Double, rest.foldl add nan = nan := by
    intro rest
    induction rest with
    | nil => rfl
    | cons x rest ih => rw [List.foldl_cons, nan_add, ih]
  obtain ⟨before, after, rfl⟩ := List.append_of_mem member
  rw [sum, List.foldl_append, List.foldl_cons, add_nan, absorbed]

end Double

/-- Not-a-number only differs from a threshold. -/
theorem Comparator.holds_nan (relation : Comparator) (threshold : Double) :
    relation.holds .nan threshold = decide (relation = .notEqual) := by
  have unordered : Double.nan.compare? threshold = none ∧ threshold.compare? .nan = none := by
    cases threshold <;> exact ⟨rfl, rfl⟩
  cases relation <;>
    simp [Comparator.holds, Double.lt, Double.le, Double.same, unordered.1, unordered.2]

namespace Graphite

/-- The tokens behind the first bar of a line, between commas. -/
def dataTokens (line : List Char) : List (List Char) :=
  match Text.splitFirst '|' line with
  | none => []
  | some (_, data) => Text.splitAt ',' data

variable {policy : GapPolicy} {line : List Char} {record : Record}

/-- The values of a record are those of the tokens that are neither gaps nor unreadable. -/
theorem values_of_read (accepted : Record.read policy line = .ok record) :
    record.values = (dataTokens line).filterMap (valueOf? policy) := by
  obtain ⟨head, data, cut, parts⟩ :=
    (written_iff policy line record).1 ((read_eq_ok_iff policy line record).1 accepted)
  obtain ⟨target, start, stop, step, first, last, pace, -, -, -, -, rfl⟩ :=
    (ofParts?_eq_some_iff policy head data record).1 parts
  obtain ⟨tokens, rfl, nonempty, separated⟩ := Text.exists_pieces ',' data
  rw [readValues_intercalate policy nonempty separated, dataTokens, cut]
  dsimp only
  rw [Text.splitAt_intercalate separated nonempty]

/-- No policy takes not-a-number for a gap. -/
theorem valueOf?_eq_nan_iff (policy : GapPolicy) (token : List Char) :
    valueOf? policy token = some .nan ↔ Double.SpellsNaN (Text.trim token) := by
  rw [← Double.read_eq_nan_iff, valueOf?_eq_filter, Option.filter_eq_some_iff]
  have unlike : Double.nan.same policy.gapValue = false := rfl
  have kept : policy.keeps .nan = true := by
    rw [GapPolicy.keeps, unlike, Bool.and_false, Bool.not_false]
  constructor
  · exact And.left
  · exact fun reads => ⟨reads, kept⟩

/-- A record holds the values of its tokens but for those that do not read as numbers, however they
are spelled, and for gaps. It holds not-a-number exactly when a token spells that, under every
policy, and then its sum and its average are not-a-number. -/
theorem nan_mem_values_iff (accepted : Record.read policy line = .ok record) :
    record.values = (dataTokens line).filterMap (valueOf? policy) ∧
      (.nan ∈ record.values ↔
        ∃ token ∈ dataTokens line, Double.SpellsNaN (Text.trim token)) ∧
      (.nan ∈ record.values → Reduction.sum.apply record.values = some .nan ∧
        Reduction.average.apply record.values = some .nan) := by
  have values := values_of_read accepted
  refine ⟨values, ?_, fun member => ?_⟩
  · rw [values, List.mem_filterMap]
    simp only [valueOf?_eq_nan_iff]
  · have nonempty : record.values.isEmpty = false := by
      cases found : record.values with
      | nil =>
        rw [found] at member
        cases member
      | cons => rfl
    simp only [Reduction.apply, nonempty, Double.sum_eq_nan member]
    exact ⟨rfl, rfl⟩

/-- A line with a gap in words, not-a-number with a sign and in capitals, and a number. -/
theorem nan_mem_values_of_mixed_line :
    let line := "a,1,2,60|None, -NAN ,120".toList
    Record.read ⟨0, true⟩ line = .ok ⟨"a", 1, 2, 60, [.nan, 120]⟩ ∧
      (∃ token ∈ dataTokens line, Double.SpellsNaN (Text.trim token)) ∧
      Reduction.average.apply [.nan, 120] = some .nan := by
  intro line
  have accepted : Record.read ⟨0, true⟩ line = .ok ⟨"a", 1, 2, 60, [.nan, 120]⟩ := by
    decide +kernel
  obtain ⟨-, spelled, spoiled⟩ := nan_mem_values_iff accepted
  have member : Double.nan ∈ [Double.nan, 120] := List.mem_cons_self
  exact ⟨accepted, spelled.1 member, (spoiled member).2⟩

/-- A token for not-a-number is not left out: it is among the values and spoils their average, and
then every comparison is false but the one for a difference, whatever the threshold. -/
theorem nan_token_is_kept :
    let line := "a,1,2,60|nan,120".toList
    let record : Record := ⟨"a", 1, 2, 60, [.nan, 120]⟩
    Record.read ⟨0, false⟩ line = .ok record ∧ .nan ∈ record.values ∧
      Reduction.average.apply record.values = some .nan ∧
      ∀ (relation : Comparator) (threshold : Double),
        relation.holds .nan threshold = decide (relation = .notEqual) := by
  refine ⟨by decide +kernel, List.mem_cons_self, by decide +kernel, ?_⟩
  exact fun relation threshold => relation.holds_nan threshold

end Graphite

end Vigil
