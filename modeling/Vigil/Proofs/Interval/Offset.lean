import Vigil.Proofs.Double.Halves
import Vigil.Proofs.Interval.Length

/-!
# Offsets

The offset of an interval is decided by its whole seconds alone. The length in milliseconds is
divided, rounded, multiplied and divided again, but below `2 ^ 53` milliseconds no step leaves the
whole numbers that are meant: the seconds are those nearest to the exact length, and a unit is seen
to divide them exactly when it does. So the offset names the longest unit of the render service that
divides the seconds, and it is read back as the same seconds.
-/

namespace Vigil

namespace TimeUnit

/-- The length of a unit in whole seconds. -/
def seconds (unit : TimeUnit) : Nat := unit.millis / 1000

/-- A unit that the render service knows has a length in whole seconds. -/
theorem millis_eq_mul_seconds {unit : TimeUnit} {suffix : String}
    (known : unit.wireSuffix = some suffix) : unit.millis = unit.seconds * 1000 := by
  cases unit with
  | millisecond => cases known
  | second | minute | hour | day | week | month | year => rfl

/-- Such a unit is not empty. -/
theorem seconds_pos {unit : TimeUnit} {suffix : String} (known : unit.wireSuffix = some suffix) :
    0 < unit.seconds := by
  have whole := millis_eq_mul_seconds known
  have pos := unit.millis_pos
  omega

/-- No unit is longer than a short number of seconds. -/
theorem seconds_le (unit : TimeUnit) : unit.seconds ≤ 2 ^ 53 := by
  cases unit <;> decide

/-- Every unit is one of the listed ones. -/
theorem mem_descending (unit : TimeUnit) : unit ∈ descending := by
  cases unit <;> decide

/-- The units are listed from the longest to the shortest. -/
theorem pairwise_descending : descending.Pairwise fun longer shorter =>
    shorter.millis < longer.millis := by decide

/-- A suffix belongs to one unit. -/
theorem find?_wireSuffix {unit : TimeUnit} {suffix : String}
    (known : unit.wireSuffix = some suffix) :
    descending.find? (fun other => other.wireSuffix = some suffix) = some unit := by
  cases unit with
  | millisecond => cases known
  | second | minute | hour | day | week | month | year =>
    cases known
    decide

/-- A suffix does not begin with a digit. -/
theorem takeWhile_wireSuffix {unit : TimeUnit} {suffix : String}
    (known : unit.wireSuffix = some suffix) : suffix.toList.takeWhile Char.isDigit = [] := by
  cases unit with
  | millisecond => cases known
  | second | minute | hour | day | week | month | year =>
    cases known
    decide

end TimeUnit

namespace Interval

/-! ## Offsets as seconds -/

/-- The number with a sign. -/
def signedNumber (negative : Bool) (n : Nat) : Int := if negative then -(n : Int) else n

/-- Reads an offset without a sign as seconds: digits, followed by the suffix of a unit. -/
def unsignedSeconds? (text : List Char) : Option Nat :=
  let digits := text.takeWhile Char.isDigit
  let suffix := String.ofList (text.dropWhile Char.isDigit)
  if digits.isEmpty then none
  else
    (TimeUnit.descending.find? fun unit => unit.wireSuffix = some suffix).map fun unit =>
      Decimal.ofDigits digits * unit.seconds

/-- Reads an offset as seconds, with an optional minus sign in front. -/
def offsetSeconds? (offset : String) : Option Int :=
  match offset.toList with
  | '-' :: rest => (unsignedSeconds? rest).map (signedNumber true)
  | text => (unsignedSeconds? text).map (signedNumber false)

/-- A numeral and a suffix are read as that many units. -/
theorem unsignedSeconds?_numeral {unit : TimeUnit} {suffix : String}
    (known : unit.wireSuffix = some suffix) (n : Nat) :
    unsignedSeconds? (Decimal.numeral n ++ suffix.toList) = some (n * unit.seconds) := by
  have digits : ∀ c ∈ Decimal.numeral n, c.isDigit = true := fun c member =>
    Decimal.isDigit_of_mem_numeral member
  have ends := TimeUnit.takeWhile_wireSuffix known
  simp only [unsignedSeconds?, takeWhile_append_of_all digits ends,
    dropWhile_append_of_all digits ends, List.isEmpty_iff, Decimal.numeral_ne_nil, if_false,
    String.ofList_toList, TimeUnit.find?_wireSuffix known, Decimal.ofDigits_numeral,
    Option.map_some]

/-- An integer and a suffix are read as that many units. -/
theorem offsetSeconds?_integer {unit : TimeUnit} {suffix : String}
    (known : unit.wireSuffix = some suffix) (quotient : Int) :
    offsetSeconds? (String.ofList (Decimal.integer quotient) ++ suffix) =
      some (quotient * unit.seconds) := by
  have text : (String.ofList (Decimal.integer quotient) ++ suffix).toList =
      (if quotient < 0 then ['-'] else []) ++ (Decimal.numeral quotient.natAbs ++ suffix.toList) := by
    simp [Decimal.integer]
  have units := unsignedSeconds?_numeral known quotient.natAbs
  unfold offsetSeconds?
  rw [text]
  by_cases below : quotient < 0
  · have value : quotient = -(quotient.natAbs : Int) := by omega
    simp only [if_pos below, List.cons_append, List.nil_append, units, Option.map_some,
      signedNumber, if_true]
    conv_rhs => rw [value]
    push_cast
    ring_nf
  · have value : quotient = (quotient.natAbs : Int) := by omega
    rw [if_neg below, List.nil_append]
    split
    · rename_i rest signed
      obtain ⟨c, more, first⟩ := List.exists_cons_of_ne_nil (Decimal.numeral_ne_nil quotient.natAbs)
      have digit : c.isDigit = true :=
        Decimal.isDigit_of_mem_numeral (n := quotient.natAbs) (by rw [first]; exact List.mem_cons_self)
      rw [first] at signed
      rw [(List.cons.inj signed).1] at digit
      exact absurd digit (by decide)
    · simp only [units, Option.map_some, signedNumber, Bool.false_eq_true, if_false]
      conv_rhs => rw [value]
      push_cast
      rfl

/-- The sign does not matter for what divides a number. -/
theorem dvd_signedNumber_iff (negative : Bool) (d n : Nat) :
    (d : Int) ∣ signedNumber negative n ↔ d ∣ n := by
  cases negative with
  | false => exact Int.natCast_dvd_natCast
  | true => exact Int.dvd_neg.trans Int.natCast_dvd_natCast

/-- A multiple with a sign, divided by its factor. -/
theorem signedNumber_mul_div (negative : Bool) {d : Nat} (pos : 0 < d) (quotient : Nat) :
    signedNumber negative (d * quotient) / (d : Int) = signedNumber negative quotient := by
  have nonzero : (d : Int) ≠ 0 := by omega
  cases negative with
  | false =>
    simp only [signedNumber, Bool.false_eq_true, if_false]
    push_cast
    exact Int.mul_ediv_cancel_left _ nonzero
  | true =>
    simp only [signedNumber, if_true]
    push_cast
    rw [← Int.mul_neg, Int.mul_ediv_cancel_left _ nonzero]

/-- The offset of some seconds in a unit, if the unit has a suffix and divides them. -/
def offsetIn? (seconds : Int) (unit : TimeUnit) : Option String :=
  unit.wireSuffix.bind fun suffix =>
    if (unit.seconds : Int) ∣ seconds then
      some (String.ofList (Decimal.integer (seconds / unit.seconds)) ++ suffix)
    else none

/-! ## The whole seconds of an interval -/

-- The number of quanta in one is far too large to be written out.
attribute [local irreducible] Grid.quantumBits

/-- The whole number of seconds that is nearest to the exact length of an interval, ties to even. -/
def wholeSeconds (i : Interval) : Int :=
  match i.millis with
  | .finite negative m => signedNumber negative (roundDiv m.count (1000 * Grid.one))
  | _ => 0

/-- Below `2 ^ 53` milliseconds, division and rounding yield the whole seconds, and these are few
enough to be held in milliseconds. -/
theorem roundEven_of_short {i : Interval} (short : i.millis.abs.lt (.ofNat (2 ^ 53)) = true) :
    ∃ negative n, n * 125 ≤ 2 ^ 53 ∧ i.wholeSeconds = signedNumber negative n ∧
      (i.millis / 1000).roundEven = .whole negative n := by
  have thousand : Grid.Held 1000 := Grid.held_of_le (by decide)
  obtain ⟨negative, m, finite, less⟩ :=
    Double.exists_of_abs_lt (Grid.held_of_le (Nat.le_refl _)) short
  have divided : i.millis / 1000 = .ofRatio negative m.count 1000 := by
    rw [finite, Double.literal_eq_whole 1000,
      Double.finite_div_whole negative false m thousand (by decide), Bool.bne_false]
  have reduced : Grid.nearest m.count 1000 < Grid.bound :=
    Nat.lt_of_le_of_lt
      (Grid.nearest_le m.fits (by decide) (Nat.le_mul_of_pos_left _ (by decide))) m.below
  have rounded := Grid.roundDiv_nearest 500 m.fits less (by decide)
  rw [show 2 * 500 = 1000 from rfl] at rounded
  refine ⟨negative, roundDiv m.count (1000 * Grid.one), ?_, ?_, ?_⟩
  · have few : roundDiv m.count (1000 * Grid.one) ≤ 9007199254741 := by
      apply Grid.roundDiv_le_of_le_mul (Nat.mul_pos (by decide) Grid.one_pos)
      calc
        m.count ≤ 2 ^ 53 * Grid.one := Nat.le_of_lt less
        _ ≤ 1000 * 9007199254741 * Grid.one := Nat.mul_le_mul_right _ (by decide)
        _ = 1000 * Grid.one * 9007199254741 := by ring
    omega
  · rw [wholeSeconds, finite]
  · rw [divided, Double.ofRatio, dif_pos reduced, Double.roundEven_finite, rounded]

/-- The milliseconds that are searched for a unit are the whole seconds, a thousand times. -/
theorem wireMillis_of_rounded {i : Interval} {negative : Bool} {n : Nat} (few : n * 125 ≤ 2 ^ 53)
    (rounded : (i.millis / 1000).roundEven = .whole negative n) :
    i.wireMillis = .whole negative (n * 1000) := by
  rw [wireMillis, rounded, Double.literal_eq_whole 1000,
    Double.whole_mul_whole negative false (Grid.held_of_le (by omega))
      (Grid.held_of_le (by decide)), Bool.bne_false]

/-- Whole seconds in a unit are the ratio of whole numbers of seconds. -/
theorem whole_div_width {unit : TimeUnit} {suffix : String} {n : Nat} (negative : Bool)
    (few : n * 125 ≤ 2 ^ 53) (known : unit.wireSuffix = some suffix) :
    .whole negative (n * 1000) / unit.width = .ofRatio negative (n * Grid.one) unit.seconds := by
  have whole := TimeUnit.millis_eq_mul_seconds known
  have pos := unit.millis_pos
  rw [TimeUnit.width, Double.ofNat_eq_whole, Double.whole_div_whole negative false
    (Grid.held_mul_thousand few) unit.held_millis pos, Bool.bne_false, whole]
  have factored : n * 1000 * Grid.one = 1000 * (n * Grid.one) := by ring
  rw [factored, Nat.mul_comm unit.seconds]
  exact Double.ofRatio_mul_mul_left (by decide) negative _ _

/-- What the search for a unit tries with each of them. -/
def searched (i : Interval) (unit : TimeUnit) : Option String :=
  unit.wireSuffix.bind fun suffix =>
    if (i.wireMillis / unit.width).isWhole then some (offset (i.wireMillis / unit.width) suffix)
    else none

/-- The offset is the first one that the search finds, but for no time at all. -/
theorem wire_eq (i : Interval) :
    i.wire = if i.wireMillis.same 0 then "0" ++ zeroSuffix i.unit
      else (TimeUnit.descending.findSome? i.searched).getD (offset (i.wireMillis / 1000) "s") := rfl

/-- A unit is taken exactly when it divides the whole seconds. -/
theorem searched_of_rounded {i : Interval} {negative : Bool} {n : Nat} (few : n * 125 ≤ 2 ^ 53)
    (rounded : (i.millis / 1000).roundEven = .whole negative n) (unit : TimeUnit) :
    i.searched unit = offsetIn? (signedNumber negative n) unit := by
  unfold searched offsetIn?
  cases known : unit.wireSuffix with
  | none => rfl
  | some suffix =>
    have pos := TimeUnit.seconds_pos known
    have value : i.wireMillis / unit.width = .ofRatio negative (n * Grid.one) unit.seconds := by
      rw [wireMillis_of_rounded few rounded]
      exact whole_div_width negative few known
    have whole : (i.wireMillis / unit.width).isWhole = true ↔ unit.seconds ∣ n := by
      rw [value]
      exact Double.isWhole_ofRatio_iff negative (by omega) pos unit.seconds_le
    simp only [Option.bind_some]
    by_cases divides : unit.seconds ∣ n
    · rw [if_pos (whole.2 divides), if_pos ((dvd_signedNumber_iff negative _ _).2 divides), value]
      obtain ⟨quotient, rfl⟩ := divides
      have smaller : quotient ≤ 2 ^ 53 := by
        have le : quotient ≤ unit.seconds * quotient := Nat.le_mul_of_pos_left _ pos
        omega
      rw [Double.ofRatio_mul negative pos, offset, Double.toInt64_whole negative smaller,
        signedNumber_mul_div negative pos]
      rfl
    · rw [if_neg fun found => divides (whole.1 found),
        if_neg fun found => divides ((dvd_signedNumber_iff negative _ _).1 found)]

/-- A unit divides some seconds, and no longer unit of the render service does. -/
structure IsLongest (seconds : Int) (unit : TimeUnit) : Prop where
  divides : (unit.seconds : Int) ∣ seconds
  longest : ∀ longer : TimeUnit, longer.wireSuffix.isSome = true → unit.millis < longer.millis →
    ¬ (longer.seconds : Int) ∣ seconds

/-- A search for the first unit that divides some seconds finds the longest one. The units behind
the one that is taken are shorter. -/
theorem findSome?_offsetIn? (seconds : Int) : ∃ (unit : TimeUnit) (suffix : String),
    unit.wireSuffix = some suffix ∧ IsLongest seconds unit ∧
      TimeUnit.descending.findSome? (offsetIn? seconds) =
        some (String.ofList (Decimal.integer (seconds / unit.seconds)) ++ suffix) := by
  have last : (offsetIn? seconds .second).isSome = true := by
    have one : ((TimeUnit.second.seconds : Nat) : Int) ∣ seconds := Int.one_dvd seconds
    simp [offsetIn?, TimeUnit.wireSuffix, if_pos one]
  obtain ⟨found, search⟩ : ∃ found, TimeUnit.descending.findSome? (offsetIn? seconds) = some found :=
    Option.isSome_iff_exists.1
      (List.findSome?_isSome_iff.2 ⟨.second, TimeUnit.mem_descending .second, last⟩)
  obtain ⟨before, unit, after, list, taken, refused⟩ := List.findSome?_eq_some_iff.1 search
  cases known : unit.wireSuffix with
  | none => simp [offsetIn?, known] at taken
  | some suffix =>
    simp only [offsetIn?, known, Option.bind_some] at taken
    split at taken
    · rename_i divides
      cases taken
      refine ⟨unit, suffix, known, ⟨divides, ?_⟩, search⟩
      intro longer other more divided
      have ordered := TimeUnit.pairwise_descending
      have member := TimeUnit.mem_descending longer
      rw [list] at ordered member
      have earlier : longer ∈ before := by
        rcases List.mem_append.1 member with inFront | behind
        · exact inFront
        · rcases List.mem_cons.1 behind with rfl | later
          · exact absurd more (Nat.lt_irrefl _)
          · have shorter := (List.pairwise_cons.1 (List.pairwise_append.1 ordered).2.1).1 longer later
            omega
      obtain ⟨name, called⟩ := Option.isSome_iff_exists.1 other
      have none := refused longer earlier
      simp [offsetIn?, called, if_pos divided] at none
    · cases taken

/-- The suffix of no time at all is that of some unit. -/
theorem exists_zeroSuffix (unit : TimeUnit) :
    ∃ other : TimeUnit, other.wireSuffix = some (zeroSuffix unit) := by
  cases known : unit.wireSuffix with
  | none => exact ⟨.second, by rw [zeroSuffix, known]; rfl⟩
  | some suffix => exact ⟨unit, by rw [zeroSuffix, known]; rfl⟩

/-- Without a whole second, the offset is no time at all. -/
theorem wire_of_zero {i : Interval} (short : i.millis.abs.lt (.ofNat (2 ^ 53)) = true)
    (zero : i.wholeSeconds = 0) : i.wire = "0" ++ zeroSuffix i.unit := by
  obtain ⟨negative, n, few, value, rounded⟩ := roundEven_of_short short
  have none : n = 0 := by
    rw [value] at zero
    cases negative <;> simpa [signedNumber] using zero
  have same : i.wireMillis.same 0 = true := by
    rw [wireMillis_of_rounded few rounded, none]
    exact (Double.same_zero_whole negative (Grid.held_of_le (Nat.zero_le _))).2 rfl
  rw [wire_eq, if_pos same]

/-- With a whole second, the offset is the one that the search for a unit finds, and it finds one. -/
theorem findSome?_of_nonzero {i : Interval} (short : i.millis.abs.lt (.ofNat (2 ^ 53)) = true)
    (nonzero : i.wholeSeconds ≠ 0) :
    TimeUnit.descending.findSome? (offsetIn? i.wholeSeconds) = some i.wire := by
  obtain ⟨negative, n, few, value, rounded⟩ := roundEven_of_short short
  have positive : n * 1000 ≠ 0 := by
    intro zero
    have none : n = 0 := by omega
    rw [value, none] at nonzero
    exact nonzero (by cases negative <;> rfl)
  have different : ¬ i.wireMillis.same 0 = true := by
    rw [wireMillis_of_rounded few rounded]
    exact fun same =>
      positive ((Double.same_zero_whole negative (Grid.held_mul_thousand few)).1 same)
  have search : i.searched = offsetIn? i.wholeSeconds := by
    funext unit
    rw [value]
    exact searched_of_rounded few rounded unit
  obtain ⟨unit, suffix, -, -, found⟩ := findSome?_offsetIn? i.wholeSeconds
  rw [wire_eq, if_neg different, search, found]
  rfl

/-- Below `2 ^ 53` milliseconds, the offset of an interval is read back as its whole seconds, which
are those nearest to its exact length and those that division yields. No time at all keeps the unit
of the interval, in seconds for milliseconds. Otherwise the search succeeds, and the offset is a
whole number of the longest unit of the render service that divides the seconds, so that it depends
on the seconds alone. -/
theorem wire_of_short (i : Interval) (short : i.millis.abs.lt (.ofNat (2 ^ 53)) = true) :
    (i.millis / 1000).roundEven.toInt64 = i.wholeSeconds ∧
    offsetSeconds? i.wire = some i.wholeSeconds ∧
    (i.wholeSeconds = 0 → i.wire = "0" ++ i.unit.wireSuffix.getD "s") ∧
    (i.wholeSeconds ≠ 0 →
      (∃ (unit : TimeUnit) (suffix : String) (quotient : Int),
        unit.wireSuffix = some suffix ∧ (i.wireMillis / unit.width).isWhole = true ∧
        i.wire = String.ofList (Decimal.integer quotient) ++ suffix ∧
        quotient * unit.seconds = i.wholeSeconds ∧ IsLongest i.wholeSeconds unit) ∧
      ∀ j : Interval, j.millis.abs.lt (.ofNat (2 ^ 53)) = true →
        j.wholeSeconds = i.wholeSeconds → j.wire = i.wire) := by
  obtain ⟨negative, n, few, value, rounded⟩ := roundEven_of_short short
  refine ⟨?_, ?_, wire_of_zero short, fun nonzero => ⟨?_, fun j shortJ same => ?_⟩⟩
  · rw [rounded, value]
    exact Double.toInt64_whole negative (by omega)
  · by_cases zero : i.wholeSeconds = 0
    · obtain ⟨unit, known⟩ := exists_zeroSuffix i.unit
      have read := offsetSeconds?_integer known 0
      have numeral : String.ofList (Decimal.integer 0) = "0" := by decide
      rw [Int.zero_mul, numeral] at read
      rw [wire_of_zero short zero, zero]
      exact read
    · obtain ⟨unit, suffix, known, longest, found⟩ := findSome?_offsetIn? i.wholeSeconds
      rw [findSome?_of_nonzero short zero, Option.some.injEq] at found
      rw [found, offsetSeconds?_integer known, Int.ediv_mul_cancel longest.divides]
  · obtain ⟨unit, suffix, known, longest, found⟩ := findSome?_offsetIn? i.wholeSeconds
    rw [findSome?_of_nonzero short nonzero, Option.some.injEq] at found
    have divides : unit.seconds ∣ n := by
      have held := longest.divides
      rwa [value, dvd_signedNumber_iff] at held
    have whole : (i.wireMillis / unit.width).isWhole = true := by
      rw [wireMillis_of_rounded few rounded, whole_div_width negative few known]
      exact (Double.isWhole_ofRatio_iff negative (by omega) (TimeUnit.seconds_pos known)
        unit.seconds_le).2 divides
    exact ⟨unit, suffix, i.wholeSeconds / unit.seconds, known, whole, found,
      Int.ediv_mul_cancel longest.divides, longest⟩
  · have own := findSome?_of_nonzero short nonzero
    have other := findSome?_of_nonzero shortJ (same ▸ nonzero)
    rw [same, own, Option.some.injEq] at other
    exact other.symm

/-- Half a second beyond a day and a half is rounded to the even second. No unit above hours divides
it, and minutes give the same offset. -/
theorem wire_of_day_and_a_half :
    let i : Interval := ⟨129600500, .millisecond⟩
    let j : Interval := ⟨2160, .minute⟩
    i.millis.abs.lt (.ofNat (2 ^ 53)) = true ∧ j.millis.abs.lt (.ofNat (2 ^ 53)) = true ∧
      i.wholeSeconds = 129600 ∧ j.wholeSeconds = 129600 ∧
      i.wire = "36h" ∧ offsetSeconds? "36h" = some 129600 ∧ j.wire = "36h" := by
  intro i j
  have short : i.millis.abs.lt (.ofNat (2 ^ 53)) = true := by decide +kernel
  have shortJ : j.millis.abs.lt (.ofNat (2 ^ 53)) = true := by decide +kernel
  have seconds : i.wholeSeconds = 129600 := by decide +kernel
  have secondsJ : j.wholeSeconds = 129600 := by decide +kernel
  have wire : i.wire = "36h" := by decide +kernel
  obtain ⟨-, read, -, nonzero⟩ := wire_of_short i short
  have same := (nonzero (by rw [seconds]; decide)).2 j shortJ (secondsJ.trans seconds.symm)
  rw [wire, seconds] at read
  exact ⟨short, shortJ, seconds, secondsJ, wire, read, same.trans wire⟩

end Interval

end Vigil
