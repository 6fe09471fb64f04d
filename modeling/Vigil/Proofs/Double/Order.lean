import Vigil.Double.Basic

/-!
# The order of numbers

Every number but not-a-number has a place on the line, and comparisons are those of the places: so
the numbers with a place are ordered in a line, where the two zeros share one place.
-/

namespace Vigil

namespace Double

variable {x y z : Double}

/-- Numbers compare as their places do. -/
theorem compare?_eq_of_place {a b : Int} (first : x.place = some a) (second : y.place = some b) :
    x.compare? y = some (compare a b) := by
  simp only [compare?, first, second]

/-- Not-a-number alone has no place. -/
theorem place_eq_none_iff : x.place = none ↔ x = .nan := by
  cases x with
  | nan => exact iff_of_true rfl rfl
  | infinite negative => exact iff_of_false (Option.some_ne_none _) nofun
  | finite negative m => exact iff_of_false (Option.some_ne_none _) nofun

/-- A ratio is never rounded to not-a-number. -/
theorem ofRatio_ne_nan (negative : Bool) (num den : Nat) : ofRatio negative num den ≠ nan := by
  unfold ofRatio
  split <;> exact fun same => by cases same

/-- Only with not-a-number there is no comparison. -/
theorem exists_place_of_compare? {order : Ordering} (compared : x.compare? y = some order) :
    ∃ a b, x.place = some a ∧ y.place = some b ∧ compare a b = order := by
  unfold compare? at compared
  split at compared
  · rename_i a b first second
    exact ⟨a, b, first, second, by simpa using compared⟩
  · cases compared

/-- A number is smaller than another one when its place is. -/
theorem lt_iff : x.lt y = true ↔ ∃ a b, x.place = some a ∧ y.place = some b ∧ a < b := by
  simp only [lt, beq_iff_eq]
  constructor
  · intro compared
    obtain ⟨a, b, first, second, order⟩ := exists_place_of_compare? compared
    exact ⟨a, b, first, second, Int.compare_eq_lt.1 order⟩
  · rintro ⟨a, b, first, second, order⟩
    rw [compare?_eq_of_place first second, Int.compare_eq_lt.2 order]

/-- Numbers are equal when their places are. -/
theorem same_iff : x.same y = true ↔ ∃ a, x.place = some a ∧ y.place = some a := by
  simp only [same, beq_iff_eq]
  constructor
  · intro compared
    obtain ⟨a, b, first, second, order⟩ := exists_place_of_compare? compared
    rw [Int.compare_eq_eq] at order
    exact ⟨a, first, order ▸ second⟩
  · rintro ⟨a, first, second⟩
    rw [compare?_eq_of_place first second, Int.compare_eq_eq.2 rfl]

/-- A number is smaller than another one or equal to it when its place is. -/
theorem le_iff : x.le y = true ↔ ∃ a b, x.place = some a ∧ y.place = some b ∧ a ≤ b := by
  have either : x.le y = true ↔ x.lt y = true ∨ x.same y = true := by
    simp only [le, same, Bool.or_eq_true]
  rw [either, lt_iff, same_iff]
  constructor
  · rintro (⟨a, b, first, second, order⟩ | ⟨a, first, second⟩)
    · exact ⟨a, b, first, second, Int.le_of_lt order⟩
    · exact ⟨a, a, first, second, Int.le_refl a⟩
  · rintro ⟨a, b, first, second, order⟩
    rcases Int.lt_or_eq_of_le order with less | rfl
    · exact .inl ⟨a, b, first, second, less⟩
    · exact .inr ⟨a, first, second⟩

/-- Two numbers with places are in the strict order of their places. -/
theorem lt_iff_of_place {a b : Int} (first : x.place = some a) (second : y.place = some b) :
    x.lt y = true ↔ a < b := by
  rw [lt_iff, first, second]
  constructor
  · rintro ⟨_, _, ⟨⟩, ⟨⟩, order⟩
    exact order
  · exact fun order => ⟨a, b, rfl, rfl, order⟩

/-- Two numbers with places are in the order of their places. -/
theorem le_iff_of_place {a b : Int} (first : x.place = some a) (second : y.place = some b) :
    x.le y = true ↔ a ≤ b := by
  rw [le_iff, first, second]
  constructor
  · rintro ⟨_, _, ⟨⟩, ⟨⟩, order⟩
    exact order
  · exact fun order => ⟨a, b, rfl, rfl, order⟩

/-- Two numbers with places are equal when they share one place. -/
theorem same_iff_of_place {a b : Int} (first : x.place = some a) (second : y.place = some b) :
    x.same y = true ↔ a = b := by
  rw [same_iff, first, second]
  constructor
  · rintro ⟨_, ⟨⟩, ⟨⟩⟩
    rfl
  · rintro rfl
    exact ⟨a, rfl, rfl⟩

/-- A number that is greater is not smaller or equal. -/
theorem le_eq_false_of_lt (greater : y.lt x = true) : x.le y = false := by
  obtain ⟨b, a, second, first, order⟩ := lt_iff.1 greater
  rw [← Bool.not_eq_true, le_iff_of_place first second]
  omega

/-- A number that has a place is smaller than itself or equal to it. -/
theorem le_self (number : x ≠ .nan) : x.le x = true := by
  obtain ⟨a, placed⟩ := Option.ne_none_iff_exists'.1 (mt place_eq_none_iff.1 number)
  exact (le_iff_of_place placed placed).2 (Int.le_refl a)

/-- The order of numbers is transitive. -/
protected theorem le_trans (first : x.le y = true) (second : y.le z = true) : x.le z = true := by
  obtain ⟨a, b, low, middle, le⟩ := le_iff.1 first
  obtain ⟨b', c, middle', high, le'⟩ := le_iff.1 second
  obtain rfl := Option.some.inj (middle.symm.trans middle')
  exact (le_iff_of_place low high).2 (Int.le_trans le le')

/-- Numbers that are ordered both ways are equal. -/
theorem same_of_le_of_le (first : x.le y = true) (second : y.le x = true) : x.same y = true := by
  obtain ⟨a, b, low, high, le⟩ := le_iff.1 first
  have le' := (le_iff_of_place high low).1 second
  exact same_iff.2 ⟨a, low, by rw [high, Int.le_antisymm le le']⟩

/-- A number that compares is a number. -/
theorem ne_nan_of_le (compared : x.le y = true) : x ≠ .nan ∧ y ≠ .nan := by
  obtain ⟨a, b, first, second, -⟩ := le_iff.1 compared
  constructor <;> rintro rfl <;> cases ‹Double.nan.place = _›

/-- The place of the opposite number is the opposite place. -/
theorem place_neg {a : Int} (placed : x.place = some a) : (-x).place = some (-a) := by
  cases x with
  | nan => cases placed
  | infinite negative =>
    cases placed
    cases negative with
    | false => rfl
    | true => exact congrArg some (Int.neg_neg _).symm
  | finite negative m =>
    cases placed
    cases negative with
    | false => rfl
    | true => exact congrArg some (Int.neg_neg _).symm

/-- The opposite of the opposite number is the number. -/
@[simp] protected theorem neg_neg (x : Double) : - -x = x := by
  cases x with
  | nan => rfl
  | infinite negative => exact congrArg infinite (Bool.not_not negative)
  | finite negative m => exact congrArg (finite · m) (Bool.not_not negative)

/-- Opposite numbers are ordered the other way round. -/
protected theorem neg_le_neg (le : x.le y = true) : (-y).le (-x) = true := by
  obtain ⟨a, b, first, second, order⟩ := le_iff.1 le
  exact (le_iff_of_place (place_neg second) (place_neg first)).2 (Int.neg_le_neg order)

/-- Zero has its place at the origin. -/
theorem place_zero : (0 : Double).place = some 0 := by decide +kernel

end Double

end Vigil
