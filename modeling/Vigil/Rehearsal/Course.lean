/-!
# Courses of events

Something that goes on by itself has a time at which it acts next, and its acts may
take their time. Letting it go on means taking one act after the other as long as a
condition holds. Acts at one instant are bounded, so that going on comes to an end.
-/

namespace Vigil.Rehearsal

/-- How something goes on by itself. -/
structure Course (σ : Type) where
  /-- The time of the next act. -/
  due? : σ → Option Nat
  /-- The next act, at its time. -/
  act : Nat → σ → σ

namespace Course

/-- Takes acts as long as they may be taken, at most as many as `bound`. -/
def goOn (course : Course σ) (may : σ → Nat → Bool) : Nat → σ → σ
  | 0, s => s
  | bound + 1, s =>
      match course.due? s with
      | some time => if may s time then course.goOn may bound (course.act time s) else s
      | none => s

/-- The most acts in a millisecond. -/
def density : Nat := 4294967296

/-- Takes all acts that are due by a time. -/
def untilTime (course : Course σ) (limit : Nat) (s : σ) : σ :=
  course.goOn (fun _ time => time ≤ limit) ((limit + 1) * density) s

/-- The longest time, in milliseconds, that is waited for something to be done. -/
def patience : Nat := 18446744073709551616 * 1000

/-- Takes acts until something is done. -/
def untilDone (course : Course σ) (done : σ → Bool) (s : σ) : σ :=
  course.goOn (fun s _ => !done s) (patience * density) s

end Course

end Vigil.Rehearsal
