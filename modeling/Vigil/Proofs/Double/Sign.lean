import Vigil.Proofs.Double.Order
import Vigil.Proofs.Double.Rounding

/-!
# Signs

Whether a number is below zero is decided by its sign, except for zero itself, and sums, products and
quotients of numbers that are not below zero are not below zero. A difference is below zero exactly
when the first number is the smaller one: a difference of finite numbers is never rounded to zero.
-/

namespace Vigil

attribute [local irreducible] Grid.quantumBits

namespace Double

variable {x y : Double}

/-- A number is not below zero when its place is not; not-a-number has none. -/
theorem lt_zero_eq_false_iff : x.lt 0 = false ↔ ∀ a, x.place = some a → 0 ≤ a := by
  rw [← Bool.not_eq_true, lt_iff, place_zero]
  constructor
  · intro above a placed
    exact Int.not_lt.1 fun below => above ⟨a, 0, placed, rfl, below⟩
  · rintro above ⟨a, b, placed, origin, order⟩
    cases origin
    have := above a placed
    omega

/-- The place of a ratio with a sign is that of its nearest point, or that of infinity. -/
theorem place_ofRatio (negative : Bool) (num den : Nat) :
    (ofRatio negative num den).place =
      some (if negative then -((Min.min (Grid.nearest num den) Grid.bound : Nat) : Int)
        else (Min.min (Grid.nearest num den) Grid.bound : Nat)) := by
  unfold ofRatio
  split
  · rename_i below
    rw [Nat.min_eq_left (Nat.le_of_lt below)]
    rfl
  · rename_i above
    rw [Nat.min_eq_right (Nat.not_lt.1 above)]
    rfl

/-- A ratio without a sign is not below zero. -/
theorem ofRatio_not_below (num den : Nat) : (ofRatio false num den).lt 0 = false := by
  rw [lt_zero_eq_false_iff, place_ofRatio]
  rintro _ ⟨⟩
  exact Int.natCast_nonneg _

/-- Nothing is not below zero, with either sign. -/
theorem ofRatio_zero_not_below (negative : Bool) {den : Nat} (pos : 0 < den) :
    (ofRatio negative 0 den).lt 0 = false := by
  have zero := ofRatio_of_fits negative Grid.fits_zero Grid.bound_pos pos
  rw [Nat.mul_zero] at zero
  rw [lt_zero_eq_false_iff, zero]
  rintro _ ⟨⟩
  cases negative <;> exact Int.le_refl 0

/-- A ratio is below zero exactly when it has a minus sign and is not rounded to zero. -/
theorem ofRatio_lt_zero_iff (negative : Bool) (num den : Nat) :
    (ofRatio negative num den).lt 0 = true ↔
      negative = true ∧ (ofRatio negative num den).same 0 = false := by
  obtain ⟨n, placed⟩ : ∃ n : Nat, (ofRatio negative num den).place =
      some (if negative then -(n : Int) else n) := ⟨_, place_ofRatio negative num den⟩
  have same : (ofRatio negative num den).same 0 = true ↔ n = 0 := by
    rw [same_iff, placed, place_zero]
    constructor
    · rintro ⟨a, number, origin⟩
      cases origin
      have reached := Option.some.inj number
      split at reached <;> omega
    · rintro rfl
      exact ⟨0, by cases negative <;> rfl, rfl⟩
  rw [lt_iff_of_place placed place_zero, ← Bool.not_eq_true, same]
  cases negative with
  | true => simp; omega
  | false => simp

/-- A number with a minus sign that is not below zero is zero. -/
theorem count_eq_zero_of_not_below {m : Magnitude} (above : (finite true m).lt 0 = false) :
    m.count = 0 := by
  have nonneg := lt_zero_eq_false_iff.1 above _ rfl
  unfold signed at nonneg
  rw [if_pos rfl] at nonneg
  omega

/-- An infinity that is not below zero has no sign. -/
theorem eq_false_of_not_below {negative : Bool} (above : (infinite negative).lt 0 = false) :
    negative = false := by
  have nonneg := lt_zero_eq_false_iff.1 above _ rfl
  have bound := Grid.bound_pos
  cases negative with
  | false => rfl
  | true =>
    rw [if_pos rfl] at nonneg
    omega

/-- An infinite number times a positive one is infinite. -/
theorem infinite_mul (negative : Bool) {m : Magnitude} (pos : 0 < m.count) :
    infinite negative * .finite false m = infinite negative := by
  change mul _ _ = _
  simp only [mul, if_neg (Nat.ne_of_gt pos), Bool.bne_false]

/-- So is its quotient by a number without a sign. -/
theorem infinite_div (negative : Bool) (m : Magnitude) :
    infinite negative / .finite false m = infinite negative := by
  change div _ _ = _
  simp only [div, Bool.bne_false]

/-- A product with a positive number is not below zero where the other factor is not. -/
theorem mul_not_below {m : Magnitude} (above : x.lt 0 = false) (pos : 0 < m.count) :
    (x * .finite false m).lt 0 = false := by
  cases x with
  | nan => rfl
  | infinite negative =>
    obtain rfl := eq_false_of_not_below above
    rw [infinite_mul false pos]
    exact above
  | finite negative n =>
    change (ofRatio (negative != false) _ _).lt 0 = false
    cases negative with
    | false => exact ofRatio_not_below _ _
    | true =>
      rw [count_eq_zero_of_not_below above, Nat.zero_mul]
      exact ofRatio_zero_not_below _ Grid.one_pos

/-- So is a quotient by a positive number. -/
theorem div_not_below {m : Magnitude} (above : x.lt 0 = false) (pos : 0 < m.count) :
    (x / .finite false m).lt 0 = false := by
  cases x with
  | nan => rfl
  | infinite negative =>
    obtain rfl := eq_false_of_not_below above
    rw [infinite_div]
    exact above
  | finite negative n =>
    change (div _ _).lt 0 = false
    simp only [div, if_neg (Nat.ne_of_gt pos)]
    cases negative with
    | false => exact ofRatio_not_below _ _
    | true =>
      rw [count_eq_zero_of_not_below above, Nat.zero_mul]
      exact ofRatio_zero_not_below _ pos

/-- A sum of quanta that is not below zero is rounded to a number that is not. -/
theorem ofQuanta_not_below {zeroSign : Bool} {quanta : Int} (above : 0 ≤ quanta) :
    (ofQuanta zeroSign quanta).lt 0 = false := by
  unfold ofQuanta
  split
  · rw [lt_zero_eq_false_iff]
    rintro _ ⟨⟩
    cases zeroSign <;> exact Int.le_refl 0
  · have unsigned : decide (quanta < 0) = false := decide_eq_false (by omega)
    rw [unsigned]
    exact ofRatio_not_below _ _

/-- And one that is below zero is rounded to a number that is: one quantum is not lost. -/
theorem ofQuanta_below {zeroSign : Bool} {quanta : Int} (below : quanta < 0) :
    (ofQuanta zeroSign quanta).lt 0 = true := by
  have fits : Grid.Fits 1 := by decide
  have some : 1 ≤ Grid.nearest quanta.natAbs 1 := Grid.le_nearest fits Nat.one_pos (by omega)
  have bound := Grid.bound_pos
  have sign : decide (quanta < 0) = true := decide_eq_true below
  rw [ofQuanta, if_neg (by omega), sign, ofRatio]
  split
  · rw [lt_iff_of_place rfl place_zero]
    simp only [signed, if_true]
    omega
  · rw [lt_iff_of_place rfl place_zero]
    simp only [if_true]
    omega

/-- A sum of numbers that are not below zero is not below zero. -/
theorem add_not_below (first : x.lt 0 = false) (second : y.lt 0 = false) :
    (x + y).lt 0 = false := by
  change (add x y).lt 0 = false
  cases x with
  | nan => cases y <;> rfl
  | infinite negative =>
    obtain rfl := eq_false_of_not_below first
    cases y with
    | nan => rfl
    | infinite negative =>
      obtain rfl := eq_false_of_not_below second
      exact first
    | finite negative n => exact first
  | finite negative m =>
    cases y with
    | nan => rfl
    | infinite sign =>
      rw [show add (finite negative m) (infinite sign) = infinite sign from rfl]
      exact second
    | finite sign n =>
      have left := lt_zero_eq_false_iff.1 first _ rfl
      have right := lt_zero_eq_false_iff.1 second _ rfl
      exact ofQuanta_not_below (by omega)

/-- The place of a finite number lies between those of the infinities. -/
theorem signed_bounds (negative : Bool) (m : Magnitude) :
    -(Grid.bound : Int) < signed negative m ∧ signed negative m < Grid.bound := by
  have below := m.below
  unfold signed
  split <;> omega

/-- An infinity is below zero when it has a sign. -/
theorem lt_zero_infinite (negative : Bool) : (infinite negative).lt 0 = negative := by
  cases negative <;> decide +kernel

/-- A difference is below zero exactly when the first number is the smaller one. -/
theorem sub_lt_zero_iff : (x - y).lt 0 = true ↔ x.lt y = true := by
  change (add x (neg y)).lt 0 = true ↔ _
  cases x with
  | nan => cases y <;> exact Iff.rfl
  | infinite negative =>
    cases y with
    | nan => exact Iff.rfl
    | infinite sign => cases negative <;> cases sign <;> decide +kernel
    | finite sign n =>
      rw [show add (infinite negative) (neg (finite sign n)) = infinite negative from rfl,
        lt_zero_infinite, lt_iff_of_place rfl rfl]
      obtain ⟨low, high⟩ := signed_bounds sign n
      cases negative with
      | false => simp only [Bool.false_eq_true, if_false, false_iff]; omega
      | true => simp only [if_true, true_iff]; exact low
  | finite negative m =>
    obtain ⟨low, high⟩ := signed_bounds negative m
    cases y with
    | nan => exact Iff.rfl
    | infinite sign =>
      rw [show add (finite negative m) (neg (infinite sign)) = infinite (!sign) from rfl,
        lt_zero_infinite, lt_iff_of_place rfl rfl]
      cases sign with
      | false => simp only [Bool.not_false, Bool.false_eq_true, if_false, true_iff]; exact high
      | true => simp only [Bool.not_true, Bool.false_eq_true, if_true, false_iff]; omega
    | finite sign n =>
      have opposite : signed (!sign) n = -signed sign n := by
        cases sign <;> simp [signed]
      have ordered : (finite negative m).lt (finite sign n) = true ↔
          signed negative m < signed sign n := lt_iff_of_place rfl rfl
      rw [show add (finite negative m) (neg (finite sign n)) =
        ofQuanta (negative && !sign) (signed negative m + signed (!sign) n) from rfl, opposite,
        ordered]
      constructor
      · intro less
        refine Int.not_le.1 fun above => ?_
        rw [ofQuanta_not_below (by omega)] at less
        cases less
      · intro less
        exact ofQuanta_below (by omega)

end Double

end Vigil
