/-!
# Punycode

The ASCII form of a host label with other characters: its ASCII characters, and
then the positions and code points of the others as numbers of variable length.
-/

namespace Vigil.Url.Punycode

/-- The number of digits. -/
def base : Nat := 36

/-- The digit of a number below the base: letters first, then the ten digits. -/
def digit (n : Nat) : Char := if n < 26 then Char.ofNat (97 + n) else Char.ofNat (22 + n)

/-- The threshold of a place, between one and twenty-six. -/
def threshold (place bias : Nat) : Nat := min 26 (max 1 (place - bias))

/-- The digits of a number, where a digit below its threshold is the last one. -/
def digits (bias place n : Nat) : List Char :=
  if _stop : n < threshold place bias then [digit n]
  else
    let t := threshold place bias
    digit (t + (n - t) % (base - t)) :: digits bias (place + base) ((n - t) / (base - t))
termination_by n
decreasing_by
  have bounds : 1 ≤ t ∧ t ≤ 26 := by simp only [t, threshold]; omega
  have _large : t ≤ n := Nat.le_of_not_lt ‹_›
  calc (n - t) / (base - t) ≤ n - t := Nat.div_le_self _ _
    _ < n := by omega

/-- Halves a number until it is small, and counts the places that it took. -/
def settle (place delta : Nat) : Nat :=
  if _large : 455 < delta then settle (place + base) (delta / 35)
  else place + base * delta / (delta + 38)
termination_by delta

/-- The bias after a number has been written. -/
def adapt (delta written : Nat) (first : Bool) : Nat :=
  let damped := if first then delta / 700 else delta / 2
  settle 0 (damped + damped / written)

/-- The state of the writer: the numbers written, the bias and the distance to the next position. -/
structure Writer where
  out : List Char
  bias : Nat
  delta : Nat
  handled : Nat

/-- Passes over one character of the label while the code point `next` is being placed. -/
def place (basic next : Nat) (w : Writer) (c : Char) : Writer :=
  if c.toNat < next then { w with delta := w.delta + 1 }
  else if c.toNat = next then
    { out := w.out ++ digits w.bias base w.delta
      bias := adapt w.delta (w.handled + 1) (w.handled == basic)
      delta := 0
      handled := w.handled + 1 }
  else w

/-- Places the code points that are not ASCII, in ascending order. -/
def placeAll (label : List Char) (basic : Nat) : Nat → List Nat → Writer → Writer
  | _, [], w => w
  | reached, next :: more, w =>
      let ready := { w with delta := w.delta + (next - reached) * (w.handled + 1) }
      let done := label.foldl (place basic next) ready
      placeAll label basic (next + 1) more { done with delta := done.delta + 1 }

/-- Adds a number to an ascending list without repetition. -/
def addOnce (n : Nat) : List Nat → List Nat
  | [] => [n]
  | m :: rest => if n < m then n :: m :: rest else if n = m then m :: rest else m :: addOnce n rest

/-- The ASCII form of a label. -/
def encode (label : List Char) : List Char :=
  let ascii := label.filter fun c => c.toNat < 128
  let others := (label.filter fun c => 128 ≤ c.toNat).foldl (fun done c => addOnce c.toNat done) []
  let start : Writer := ⟨ascii ++ (if ascii.isEmpty then [] else ['-']), 72, 0, ascii.length⟩
  (placeAll label ascii.length 128 others start).out

end Vigil.Url.Punycode
