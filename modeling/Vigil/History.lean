import Vigil.Double.Basic

/-!
# Histories

A history keeps the last samples of one target, oldest first, up to its capacity.
It has a mean from its first sample on, and rules use the mean once it is full.
-/

namespace Vigil

/-- The last samples of a target, oldest first. -/
structure History where
  capacity : Nat
  samples : List Double
  positive : 0 < capacity
  bounded : samples.length ≤ capacity

namespace History

/-- An empty history; it has room for one sample at least. The program reserves all of the room when
it begins a history; the limit on what can be allocated at once is left out here. -/
def empty (capacity : Nat) : History where
  capacity := max capacity 1
  samples := []
  positive := by omega
  bounded := by simp

/-- The last `n` samples of a run. -/
def latest (n : Nat) (samples : List Double) : List Double :=
  samples.drop (samples.length - n)

/-- Appends a sample and forgets the oldest one when there is no room. -/
def push (h : History) (value : Double) : History where
  capacity := h.capacity
  samples := latest h.capacity (h.samples ++ [value])
  positive := h.positive
  bounded := by simp only [latest, List.length_drop]; omega

/-- Whether the history holds as many samples as it has room for. -/
def isFull (h : History) : Bool := h.capacity ≤ h.samples.length

/-- The sum of the samples from the oldest on, divided once by their number. -/
def mean (h : History) : Option Double :=
  if h.samples.isEmpty then none
  else some (Double.sum h.samples / Double.ofNat h.samples.length)

/-- The capacity that covers a window with samples at an interval, at least one. -/
def capacityFor (window interval : Double) : Nat :=
  if interval.le 0 then 1 else max (window / interval).ceilWord 1

/-- An empty history holds nothing. -/
@[simp] theorem samples_empty (capacity : Nat) : (empty capacity).samples = [] := rfl

/-- The last samples of a run are as many as asked for, or all of them. -/
theorem length_latest (n : Nat) (samples : List Double) :
    (latest n samples).length = min n samples.length := by
  simp only [latest, List.length_drop]
  omega

/-- Samples that were forgotten before a new one came would have been forgotten after it. -/
theorem latest_latest_append {n : Nat} (room : 0 < n) (samples : List Double) (value : Double) :
    latest n (latest n samples ++ [value]) = latest n (samples ++ [value]) := by
  simp only [latest]
  rw [← List.drop_append_of_le_length (by omega), List.drop_drop]
  congr 1
  simp only [List.length_drop, List.length_append, List.length_cons, List.length_nil]
  omega

/-- A history is full when its samples take all of its room. -/
theorem isFull_iff (h : History) : h.isFull = true ↔ h.samples.length = h.capacity := by
  have := h.bounded
  simp only [isFull, decide_eq_true_eq]
  omega

/-- Pushing keeps the last samples of the longer run. -/
theorem samples_push (h : History) (value : Double) :
    (h.push value).samples = latest h.capacity (h.samples ++ [value]) := rfl

end History

end Vigil
