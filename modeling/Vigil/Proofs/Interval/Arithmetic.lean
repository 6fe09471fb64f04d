import Vigil.Proofs.Double.Overflow
import Vigil.Proofs.Double.Sign
import Vigil.Proofs.Interval.Length

/-!
# Intervals that can be made

Intervals are read from texts, made of numbers, seconds and durations, added and subtracted. None of
these steps yields a length below zero. A length is finite as long as no step leaves the range, and
the steps that can leave it are sums and differences of lengths that are too large, and reading,
which takes a decimal of any size. As long as no length is not-a-number, intervals are ordered in a
line, and subtraction refuses exactly what the order says.
-/

namespace Vigil

attribute [local irreducible] Grid.quantumBits

namespace Double

variable {x y : Double}

/-- A difference is finite only if both numbers are. -/
theorem isFinite_of_sub (finite : (x - y).isFinite = true) :
    x.isFinite = true ∧ y.isFinite = true := by
  obtain ⟨first, second⟩ := isFinite_of_add (x := x) (y := -y) finite
  exact ⟨first, by rwa [isFinite_neg] at second⟩

/-- A product with a positive number is finite only if the other factor is. -/
theorem isFinite_of_mul {m : Magnitude} (pos : 0 < m.count)
    (finite : (x * .finite false m).isFinite = true) : x.isFinite = true := by
  cases x with
  | nan => cases finite
  | infinite negative =>
    rw [infinite_mul negative pos] at finite
    cases finite
  | finite negative n => rfl

/-- The sum of two finite numbers without signs is rounded once. -/
theorem rounds_add (a b : Magnitude) :
    Rounds (a.value + b.value) (.finite false a + .finite false b) := by
  refine ⟨a.count + b.count, 1, Nat.one_pos, ?_, ?_⟩
  · rw [Magnitude.value, Magnitude.value, ← add_div]
    push_cast
    rw [one_mul]
  · have total : signed false a + signed false b = ((a.count + b.count : ℕ) : ℤ) := by
      simp [signed]
    change ofQuanta (false && false) (signed false a + signed false b) = _
    rw [total, ofQuanta]
    split
    · rename_i none
      have zero := ofRatio_of_fits false Grid.fits_zero Grid.bound_pos Nat.one_pos
      rw [Int.natCast_eq_zero.1 none]
      exact zero.symm
    · rw [decide_eq_false (by omega), Int.natAbs_natCast]

/-- A magnitude is not below zero. -/
theorem finite_not_below (m : Magnitude) : (finite false m).lt 0 = false := by
  rw [lt_zero_eq_false_iff]
  rintro _ ⟨⟩
  exact Int.natCast_nonneg m.count

/-- A sign does not decide whether the number of a decimal is finite. -/
theorem isFinite_ofDecimal_iff (negative : Bool) (d : Decimal) :
    (ofDecimal negative d).isFinite = true ↔ d.value < overflow := by
  rw [← (rounds_ofDecimal d).isFinite_iff, ofDecimal_eq_ofRatio, ofDecimal_eq_ofRatio]
  unfold ofRatio
  split <;> exact Iff.rfl

end Double

namespace TimeUnit

/-- The length of a unit as a magnitude is one or more. -/
theorem exists_width_ge (unit : TimeUnit) :
    ∃ m : Magnitude, unit.width = .finite false m ∧ Grid.one ≤ m.count := by
  have held := unit.held_millis
  exact ⟨⟨_, held.fits, held.below⟩, Double.whole_of_held false held,
    Nat.le_mul_of_pos_left _ unit.millis_pos⟩

end TimeUnit

namespace Interval

/-! ## Single steps -/

variable {i j k : Interval}

/-- The length of an interval that is not below zero is not below zero. -/
theorem millis_not_below (above : i.value.lt 0 = false) : i.millis.lt 0 = false := by
  obtain ⟨width, same, unit⟩ := i.unit.exists_width_ge
  rw [millis, same]
  exact Double.mul_not_below above (Nat.lt_of_lt_of_le Grid.one_pos unit)

/-- An interval with a finite length is finite. -/
theorem isFinite_of_millis (finite : i.millis.isFinite = true) : i.value.isFinite = true := by
  obtain ⟨width, same, unit⟩ := i.unit.exists_width_ge
  rw [millis, same] at finite
  exact Double.isFinite_of_mul (Nat.lt_of_lt_of_le Grid.one_pos unit) finite

/-- A length in milliseconds that is not below zero is not below zero in another unit, and finite
there when it is finite. -/
theorem div_width {x : Double} (above : x.lt 0 = false) (unit : TimeUnit) :
    (x / unit.width).lt 0 = false ∧ ((x / unit.width).isFinite = true ↔ x.isFinite = true) := by
  obtain ⟨width, same, one⟩ := unit.exists_width_ge
  rw [same]
  exact ⟨Double.div_not_below above (Nat.lt_of_lt_of_le Grid.one_pos one),
    Double.isFinite_div_iff (by simp [Double.isUnitOrMore, one])⟩

/-- A sum is not below zero where its parts are not, and finite when the sum of their lengths is. -/
theorem value_add (first : i.value.lt 0 = false) (second : j.value.lt 0 = false) :
    (i + j).value.lt 0 = false ∧
      ((i + j).value.isFinite = true ↔ (i.millis + j.millis).isFinite = true) :=
  div_width (Double.add_not_below (millis_not_below first) (millis_not_below second)) i.unit

/-- A difference that is not refused is not below zero, and finite when the difference of the lengths
is. -/
theorem value_sub (made : i.sub? j = some k) :
    k.value.lt 0 = false ∧ (k.value.isFinite = true ↔ (i.millis - j.millis).isFinite = true) := by
  unfold sub? at made
  dsimp only at made
  split at made
  · cases made
  · rename_i above
    cases made
    exact div_width (Bool.not_eq_true _ ▸ above) i.unit

/-- A difference is refused exactly when the first length is the smaller one. -/
theorem sub?_eq_none_iff : i.sub? j = none ↔ i.millis.lt j.millis = true := by
  rw [← Double.sub_lt_zero_iff]
  unfold sub?
  dsimp only
  split <;> simp_all

/-- An interval that is read is the spelled one, and it is not below zero. -/
theorem value_of_read {text : String} (made : read text = .ok i) :
    i.value.lt 0 = false ∧ (i.value.isFinite = true ↔
      ∃ s : Spelling, s.Spells text ∧ s.decimal.value < Double.overflow) := by
  obtain ⟨s, proper, trimmed, rfl⟩ := exists_spelling (mapError_eq_ok_iff.1 made)
  have accepted := mapError_eq_ok_iff.1 made
  rw [readChars_of_proper proper trimmed] at accepted
  refine ⟨?_, ?_⟩
  · split at accepted
    · cases accepted
    · exact Bool.eq_false_iff.2 ‹_›
  · rw [Spelling.value, Double.isFinite_ofDecimal_iff]
    constructor
    · exact fun small => ⟨s, ⟨proper, trimmed⟩, small⟩
    · rintro ⟨other, spells, small⟩
      have same := congrArg Interval.value (eq_of_spells made spells)
      rw [← Double.isFinite_ofDecimal_iff s.negative, show Double.ofDecimal s.negative s.decimal =
        Double.ofDecimal other.negative other.decimal from same, Double.isFinite_ofDecimal_iff]
      exact small

/-- An interval that is made of a number is finite and not below zero. -/
theorem value_of_make {value : Double} {unit : TimeUnit} (made : make value unit = .ok i) :
    i.value.lt 0 = false ∧ i.value.isFinite = true := by
  unfold make at made
  dsimp only at made
  split at made
  · cases made
  · rename_i finite
    split at made
    · cases made
    · rename_i above
      cases made
      exact ⟨Bool.eq_false_iff.2 above, by simpa using finite⟩

/-- An interval of a duration is finite and not below zero. -/
theorem value_ofDuration {d : Duration} (short : d.seconds < 2 ^ 64) :
    (ofDuration d).value.lt 0 = false ∧ (ofDuration d).value.isFinite = true := by
  have fraction : d.fraction < 1000000000 := Nat.mod_lt _ (by decide)
  obtain ⟨top, word⟩ := Magnitude.exists_value_eq_mul (n := 1) (k := 64) (by decide) (by decide)
  obtain ⟨more, double⟩ := Magnitude.exists_value_eq_mul (n := 1) (k := 65) (by decide) (by decide)
  have few : (d.seconds : ℚ) ≤ 2 ^ 64 := by exact_mod_cast Nat.le_of_lt short
  obtain ⟨a, seconds, le⟩ := (Double.rounds_whole d.seconds).exists_le top
    (by rw [word]; push_cast; linarith)
  obtain ⟨b, parts, part⟩ := Double.exists_whole (Grid.held_of_le (n := d.fraction) (by omega))
  obtain ⟨c, billion, whole⟩ := Double.exists_whole (Grid.held_of_le (n := 1000000000) (by decide))
  have divisor : 0 < c.value := by rw [whole]; norm_num
  have less : b.value / c.value ≤ 1 / 2 ^ 0 := by
    rw [div_le_iff₀ divisor, part, whole, pow_zero, div_one, one_mul]
    exact_mod_cast Nat.le_of_lt fraction
  obtain ⟨rest, quotient, unit⟩ := (Double.rounds_div b divisor).exists_le_tiny (by decide) less
  obtain ⟨m, sum, -⟩ := (Double.rounds_add a rest).exists_le more (by
    rw [word] at le
    rw [double]
    push_cast at le ⊢
    norm_num at le unit ⊢
    linarith)
  have value : (ofDuration d).value = .finite false m := by
    change Double.ofNat d.seconds + Double.ofNat d.fraction / 1000000000 = _
    rw [Double.literal_eq_whole 1000000000, Double.ofNat_eq_whole, Double.ofNat_eq_whole, seconds,
      parts, billion, quotient, sum]
  rw [value]
  exact ⟨Double.finite_not_below m, rfl⟩

/-! ## Combinations -/

/-- A way to make an interval. -/
inductive Expression where
  | read (text : String)
  | make (value : Double) (unit : TimeUnit)
  | ofSeconds (seconds : Double)
  | ofDuration (d : Duration) (short : d.seconds < 2 ^ 64)
  | add (first second : Expression)
  | sub (first second : Expression)

namespace Expression

/-- The interval that is made, if no step refuses. -/
def eval : Expression → Option Interval
  | read text => (Interval.read text).toOption
  | make value unit => (Interval.make value unit).toOption
  | ofSeconds seconds => (Interval.ofSeconds seconds).toOption
  | ofDuration d _ => some (Interval.ofDuration d)
  | add first second => do
      let i ← first.eval
      let j ← second.eval
      return i + j
  | sub first second => do
      let i ← first.eval
      let j ← second.eval
      i.sub? j

/-- No step leaves the range: the decimal of a text is below the least number that is rounded out of
the range, and sums and differences of lengths in milliseconds are finite. -/
def InRange : Expression → Prop
  | read text => ∃ s : Spelling, s.Spells text ∧ s.decimal.value < Double.overflow
  | make _ _ => True
  | ofSeconds _ => True
  | ofDuration _ _ => True
  | add first second => first.InRange ∧ second.InRange ∧
      ∀ i ∈ first.eval, ∀ j ∈ second.eval, (i.millis + j.millis).isFinite = true
  | sub first second => first.InRange ∧ second.InRange ∧
      ∀ i ∈ first.eval, ∀ j ∈ second.eval, (i.millis - j.millis).isFinite = true

/-- An interval that is made is not below zero, and it is finite exactly when no step left the
range. -/
theorem value_of_eval {e : Expression} (made : e.eval = some i) :
    i.value.lt 0 = false ∧ (i.value.isFinite = true ↔ e.InRange) := by
  induction e generalizing i with
  | read text => exact value_of_read (toOption_eq_some_iff.1 made)
  | make value unit =>
    obtain ⟨above, finite⟩ := value_of_make (toOption_eq_some_iff.1 made)
    exact ⟨above, iff_of_true finite trivial⟩
  | ofSeconds seconds =>
    obtain ⟨above, finite⟩ := value_of_make (toOption_eq_some_iff.1 made)
    exact ⟨above, iff_of_true finite trivial⟩
  | ofDuration d short =>
    obtain ⟨above, finite⟩ := value_ofDuration short
    cases made
    exact ⟨above, iff_of_true finite trivial⟩
  | add first second ih ih' =>
    obtain ⟨a, left, made⟩ := Option.bind_eq_some_iff.1 made
    obtain ⟨b, right, made⟩ := Option.bind_eq_some_iff.1 made
    cases made
    obtain ⟨above, finite⟩ := ih left
    obtain ⟨above', finite'⟩ := ih' right
    obtain ⟨above, total⟩ := value_add above above'
    refine ⟨above, total.trans ⟨fun sum => ?_, fun inRange => inRange.2.2 a left b right⟩⟩
    obtain ⟨length, length'⟩ := Double.isFinite_of_add sum
    refine ⟨finite.1 (isFinite_of_millis length), finite'.1 (isFinite_of_millis length'), ?_⟩
    rintro _ left' _ right'
    cases left.symm.trans left'
    cases right.symm.trans right'
    exact sum
  | sub first second ih ih' =>
    obtain ⟨a, left, made⟩ := Option.bind_eq_some_iff.1 made
    obtain ⟨b, right, made⟩ := Option.bind_eq_some_iff.1 made
    obtain ⟨above, total⟩ := value_sub made
    refine ⟨above, total.trans ⟨fun rest => ?_, fun inRange => inRange.2.2 a left b right⟩⟩
    obtain ⟨length, length'⟩ := Double.isFinite_of_sub rest
    refine ⟨(ih left).2.1 (isFinite_of_millis length), (ih' right).2.1 (isFinite_of_millis length'),
      ?_⟩
    rintro _ left' _ right'
    cases left.symm.trans left'
    cases right.symm.trans right'
    exact rest

end Expression

/-- The place of the length of an interval; not-a-number gets none of its own. -/
def rank (i : Interval) : ℤ := i.millis.place.getD 0

/-- The length of an interval that is a number has a place. -/
theorem place_millis (number : i.value ≠ .nan) : i.millis.place = some i.rank := by
  have placed : i.millis ≠ .nan := by
    obtain ⟨width, same, unit⟩ := i.unit.exists_width_ge
    have pos : width.count ≠ 0 := Nat.ne_of_gt (Nat.lt_of_lt_of_le Grid.one_pos unit)
    rw [millis, same]
    change Double.mul _ _ ≠ _
    cases value : i.value with
    | nan => exact absurd value number
    | infinite negative => simp [Double.mul, pos]
    | finite negative m => exact Double.ofRatio_ne_nan _ _ _
  cases place : i.millis.place with
  | none => exact absurd (Double.place_eq_none_iff.1 place) placed
  | some a => rw [rank, place, Option.getD_some]

/-- Intervals that can be made, of texts, numbers, seconds and durations by any number of sums and
differences, are not below zero, and each is finite exactly when no step that makes it leaves the
range. A difference is refused exactly when the first interval is the smaller one, and intervals that
are numbers are compared as their ranks, which are whole numbers. -/
theorem order_of_expressions {first second : Expression} (made : first.eval = some i)
    (made' : second.eval = some j) :
    (i.value.lt 0 = false ∧ j.value.lt 0 = false) ∧
      ((i.value.isFinite = true ↔ first.InRange) ∧ (j.value.isFinite = true ↔ second.InRange)) ∧
      (i.sub? j = none ↔ i.compare? j = some .lt) ∧
      (i.value ≠ .nan → j.value ≠ .nan →
        i.compare? j = some (compare i.rank j.rank) ∧ (i.same j = true ↔ i.rank = j.rank)) := by
  obtain ⟨above, finite⟩ := Expression.value_of_eval made
  obtain ⟨above', finite'⟩ := Expression.value_of_eval made'
  refine ⟨⟨above, above'⟩, ⟨finite, finite'⟩, ?_, fun number number' => ?_⟩
  · rw [sub?_eq_none_iff, Double.lt, beq_iff_eq, compare?]
  · have place := place_millis number
    have place' := place_millis number'
    refine ⟨Double.compare?_eq_of_place place place', ?_⟩
    rw [same, Double.same_iff, place, place']
    constructor
    · rintro ⟨_, ⟨⟩, same⟩
      exact (Option.some.inj same).symm
    · intro same
      exact ⟨_, rfl, by rw [same]⟩

/-- A day and a half, less a minute, as a text, a duration and a number of minutes give it. -/
def sampleExpression : Expression :=
  .sub (.add (.read "1day") (.ofDuration (.ofWholeSeconds 43200) (by decide))) (.make 1 .minute)

/-- It is made within the range, so it is finite, and it cannot be taken from a minute, which ranks
lower. -/
theorem order_of_sampleExpression :
    ∃ i j, sampleExpression.eval = some i ∧ (Expression.make 1 .minute).eval = some j ∧
      i.value.lt 0 = false ∧ sampleExpression.InRange ∧ j.sub? i = none ∧
      compare j.rank i.rank = .lt := by
  have evaluates : sampleExpression.eval.map (fun i =>
      (i.value.isFinite, (⟨1, .minute⟩ : Interval).compare? i)) = some (true, some .lt) := by
    decide +kernel
  have minute : (Expression.make 1 .minute).eval = some ⟨1, .minute⟩ := by decide +kernel
  obtain ⟨i, value, results⟩ := Option.map_eq_some_iff.1 evaluates
  obtain ⟨finite, less⟩ := Prod.ext_iff.1 results
  obtain ⟨⟨-, above⟩, ⟨-, inRange⟩, refused, ranked⟩ := order_of_expressions minute value
  have number : i.value ≠ .nan := by
    intro none
    rw [none] at finite
    cases finite
  obtain ⟨compared, -⟩ := ranked (by decide +kernel) number
  exact ⟨i, _, value, minute, above, inRange.1 finite, refused.2 less,
    Option.some.inj (compared.symm.trans less)⟩

/-- A number of seconds with three hundred and ten digits. -/
def hugeText : List Char := '1' :: List.replicate 309 '0' ++ ['s']

/-- It is read as infinity, and taken from itself it leaves not-a-number. -/
theorem hugeText_is_infinite :
    read (String.ofList hugeText) = .ok ⟨.infinite false, .second⟩ ∧
      sub? ⟨.infinite false, .second⟩ ⟨.infinite false, .second⟩ = some ⟨.nan, .second⟩ := by
  constructor
  · have reads : readChars hugeText = .ok ⟨.infinite false, .second⟩ := by decide +kernel
    rw [read, String.toList_ofList, reads]
    rfl
  · decide +kernel

end Interval

end Vigil
