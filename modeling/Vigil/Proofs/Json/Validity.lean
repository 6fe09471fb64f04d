import Vigil.Json.Reading
import Vigil.Proofs.Double.Rounding
import Vigil.Proofs.Json.Fields

/-!
# Valid values

The numbers of a configuration value are integers of 64 bits or finite, and the fields of its
objects are in the order of their keys. Every value that is read from a JSON text is valid: numerals
that are too large are refused, and the machine that puts values together inserts each field in its
place.
-/

namespace Vigil.Json

/-- An integer of 64 bits, with or without sign, or a finite number. -/
def Number.Valid : Number → Prop
  | integer n => -9223372036854775808 ≤ n ∧ n < 18446744073709551616
  | real x => x.isFinite = true

/-- All numbers are valid, and all objects have their fields in order. -/
inductive Valid : Json → Prop
  | null : Valid .null
  | bool (value : Bool) : Valid (.bool value)
  | number {n : Number} (valid : n.Valid) : Valid (.number n)
  | text (value : String) : Valid (.text value)
  | list {items : List Json} (each : ∀ item ∈ items, Valid item) : Valid (.list items)
  | object {fields : Fields} (ordered : fields.Ordered) (each : ∀ field ∈ fields, Valid field.2) :
      Valid (.object fields)

/-- Fields in order with valid values. -/
structure Fields.Valid (fields : Fields) : Prop where
  ordered : fields.Ordered
  each : ∀ field ∈ fields, field.2.Valid

/-- A valid number is finite. -/
theorem Number.isFinite_toDouble {n : Number} (valid : n.Valid) : n.toDouble.isFinite = true := by
  cases n with
  | integer n =>
    obtain ⟨low, high⟩ := valid
    exact Double.isFinite_ofInt (by omega)
  | real x => exact valid

/-- A field that is inserted with a valid value leaves the fields valid. -/
theorem Fields.valid_insert {fields : Fields} (valid : fields.Valid) (key : String) {value : Json}
    (new : value.Valid) : (fields.insert key value).Valid := by
  refine ⟨ordered_insert valid.ordered key value, fun field among => ?_⟩
  rcases mem_of_mem_insert among with rfl | there
  · exact new
  · exact valid.each field there

/-- The object of fields that are put in order is valid if their values are. -/
theorem valid_ofList {entries : List (String × Json)} (each : ∀ entry ∈ entries, entry.2.Valid) :
    (Json.object (Fields.ofList entries)).Valid := by
  refine .object (Fields.ordered_ofList entries) fun field among => ?_
  rcases Fields.mem_of_mem_overwrite [] among with none | there
  · cases none
  · exact each field there

/-! ## Numerals -/

namespace Number

/-- A significand keeps below its bound whatever digits are taken. -/
theorem significand_take {s : Scaled} (step skip : Int) (digits : List Char)
    (below : s.significand < wordBound) :
    (Scaled.take step skip s digits).1.significand < wordBound := by
  induction digits generalizing s with
  | nil => exact below
  | cons c rest ih =>
    simp only [Scaled.take]
    split
    · exact ih (by assumption)
    · exact below

/-- A number that is scaled up is finite. -/
theorem isFinite_scaleUp {x y : Double} {power : Nat} (scaled : scaleUp x power = some y) :
    y.isFinite = true := by
  unfold scaleUp at scaled
  split at scaled
  · split at scaled
    · rename_i zero
      cases scaled
      exact Double.isFinite_of_same_zero zero
    · cases scaled
  · dsimp only at scaled
    split at scaled
    · rename_i finite
      cases scaled
      exact finite
    · cases scaled

/-- A finite number that is scaled down stays finite. -/
theorem isFinite_scaleDown {x : Double} (power : Nat) (finite : x.isFinite = true) :
    (scaleDown x power).isFinite = true := by
  fun_induction scaleDown x power with
  | case1 x power small => exact Double.isFinite_div finite (Double.isUnitOrMore_power power)
  | case2 x power large zero => exact finite
  | case3 x power large other ih =>
    exact ih (Double.isFinite_div finite (Double.isUnitOrMore_power largestPower))

/-- The number of a significand within its bound is finite. -/
theorem isFinite_toDouble? {s : Scaled} {negative : Bool} {x : Double}
    (below : s.significand < wordBound) (scaled : s.toDouble? negative = some x) :
    x.isFinite = true := by
  have significand : (Double.ofNat s.significand).isFinite = true :=
    Double.isFinite_ofNat (Nat.le_of_lt below)
  unfold Scaled.toDouble? at scaled
  obtain ⟨size, found, rfl⟩ := Option.map_eq_some_iff.1 scaled
  have finite : size.isFinite = true := by
    split at found
    · exact isFinite_scaleUp found
    · cases found
      exact isFinite_scaleDown _ significand
  split
  · rwa [Double.isFinite_neg]
  · exact finite

/-- So it is with an exponent. -/
theorem isFinite_withExponent {s : Scaled} {negative down : Bool} {digits : List Char} {x : Double}
    (below : s.significand < wordBound) (scaled : s.withExponent negative down digits = some x) :
    x.isFinite = true := by
  unfold Scaled.withExponent at scaled
  dsimp only at scaled
  split at scaled
  · refine isFinite_toDouble? ?_ scaled
    exact below
  · split at scaled
    · cases scaled
    · cases scaled
      rfl

/-- A numeral without a point and an exponent is valid. -/
theorem valid_ofWhole {negative : Bool} {digits : List Char} {n : Number}
    (whole : ofWhole negative digits = some n) : n.Valid := by
  have below : (Scaled.take 0 1 ⟨0, 0⟩ digits).1.significand < wordBound :=
    significand_take 0 1 digits (by decide)
  unfold ofWhole at whole
  generalize Scaled.take 0 1 ⟨0, 0⟩ digits = taken at below whole
  obtain ⟨s, complete⟩ := taken
  have bound : s.significand < 18446744073709551616 := below
  dsimp only at whole
  split at whole
  · obtain ⟨x, scaled, rfl⟩ := Option.map_eq_some_iff.1 whole
    exact isFinite_toDouble? below scaled
  · split at whole
    · cases whole
      exact ⟨by omega, by omega⟩
    · split at whole
      · cases whole
        simp only [Valid, Double.isFinite_neg]
        exact Double.isFinite_ofNat (Nat.le_of_lt below)
      · cases whole
        exact ⟨by omega, by omega⟩

/-- A scaled number without an exponent is valid. -/
theorem valid_of_toDouble {s : Scaled} {negative : Bool} {n : Number} {after rest : List Char}
    (below : s.significand < wordBound)
    (reads : ((s.toDouble? negative).bind fun x => some (real x, after)) = some (n, rest)) :
    n.Valid := by
  obtain ⟨x, scaled, made⟩ := Option.bind_eq_some_iff.1 reads
  cases made
  exact isFinite_toDouble? below scaled

/-- So is one with an exponent. -/
theorem valid_of_withExponent {s : Scaled} {negative : Bool} {n : Number} {text rest : List Char}
    (below : s.significand < wordBound)
    (reads : ((exponent? text).bind fun parts =>
      (s.withExponent negative parts.1 parts.2.1).bind fun x => some (real x, parts.2.2)) =
        some (n, rest)) :
    n.Valid := by
  obtain ⟨parts, -, reads⟩ := Option.bind_eq_some_iff.1 reads
  obtain ⟨x, scaled, made⟩ := Option.bind_eq_some_iff.1 reads
  cases made
  exact isFinite_withExponent below scaled

/-- A numeral is valid, whatever parts it has. Digits after the point go into the same significand,
and are dropped when it is full. -/
theorem valid_readUnsigned {negative : Bool} {text rest : List Char} {n : Number}
    (reads : readUnsigned negative text = some (n, rest)) : n.Valid := by
  unfold readUnsigned at reads
  obtain ⟨⟨whole, after⟩, -, reads⟩ := Option.bind_eq_some_iff.1 reads
  have below : (Scaled.take 0 1 ⟨0, 0⟩ whole).1.significand < wordBound :=
    significand_take 0 1 whole (by decide)
  have longer (places : List Char) := significand_take (-1) 0 places below
  dsimp only at reads
  split at reads
  · split at reads
    · cases reads
    · split at reads
      · split at reads
        · exact valid_of_withExponent (longer _) reads
        · exact valid_of_toDouble (longer _) reads
      · exact valid_of_toDouble (longer _) reads
  · split at reads
    · exact valid_of_withExponent below reads
    · obtain ⟨number, made, same⟩ := Option.bind_eq_some_iff.1 reads
      cases same
      exact valid_ofWhole made
  · obtain ⟨number, made, same⟩ := Option.bind_eq_some_iff.1 reads
    cases same
    exact valid_ofWhole made

/-- Numerals are read as valid numbers. -/
theorem valid_read {text rest : List Char} {n : Number} (reads : read text = some (n, rest)) :
    n.Valid := by
  unfold read at reads
  split at reads <;> exact valid_readUnsigned reads

end Number

/-! ## Lexemes -/

/-- The value that a lexeme stands for, if there is one, is valid. -/
def Lexeme.Valid : Lexeme → Prop
  | .scalar value => value.Valid
  | _ => True

namespace Lexeme

/-- The lexeme that a character opens is valid. -/
theorem valid_first {c : Char} {text rest : List Char} {lexeme : Lexeme}
    (opens : first c text = some (lexeme, rest)) : lexeme.Valid := by
  unfold first at opens
  split at opens
  case h_11 =>
    obtain ⟨⟨n, more⟩, reads, made⟩ := Option.map_eq_some_iff.1 opens
    cases made
    exact .number (Number.valid_read reads)
  case h_8 | h_9 | h_10 =>
    obtain ⟨more, -, made⟩ := Option.map_eq_some_iff.1 opens
    cases made
    constructor
  case h_7 =>
    obtain ⟨parts, -, made⟩ := Option.map_eq_some_iff.1 opens
    cases made
    trivial
  all_goals
    cases opens
    trivial

/-- The lexemes of a text are valid. -/
theorem valid_scanWithin {fuel : Nat} {text : List Char} {lexemes : List Lexeme}
    (scans : scanWithin fuel text = some lexemes) : ∀ lexeme ∈ lexemes, lexeme.Valid := by
  fun_induction scanWithin fuel text generalizing lexemes with
  | case1 => cases scans
  | case2 =>
    cases scans
    intro lexeme none
    cases none
  | case3 fuel c rest space ih => exact ih scans
  | case4 fuel c rest other ih =>
    obtain ⟨⟨lexeme, more⟩, opens, scans⟩ := Option.bind_eq_some_iff.1 scans
    obtain ⟨others, later, made⟩ := Option.bind_eq_some_iff.1 scans
    cases made
    exact List.forall_mem_cons.2 ⟨valid_first opens, ih more later⟩

end Lexeme

/-! ## Putting values together -/

/-- What an unfinished list or object holds is valid. -/
def Frame.Valid : Frame → Prop
  | .items done => ∀ item ∈ done, item.Valid
  | .fields done => done.Valid
  | .member done _ => done.Valid

/-- The value that was finished last is valid. -/
def Wait.Valid : Wait → Prop
  | .next finished => finished.Valid
  | _ => True

/-- No fields are valid fields. -/
theorem Fields.valid_nil : Fields.Valid [] := ⟨List.Pairwise.nil, by simp⟩

namespace Machine

/-- All that a machine holds is valid. -/
structure Valid (m : Machine) : Prop where
  stack : ∀ frame ∈ m.stack, frame.Valid
  wait : m.wait.Valid

variable {m next : Machine} {lexeme : Lexeme} {frame : Frame} {wait : Wait}

/-- A machine with a valid frame more is valid. -/
theorem valid_push (valid : m.Valid) (opened : frame.Valid) (waits : wait.Valid)
    (pushed : m.push frame wait = some next) : next.Valid := by
  unfold push at pushed
  split at pushed
  · cases pushed
    exact ⟨List.forall_mem_cons.2 ⟨opened, valid.stack⟩, waits⟩
  · cases pushed

/-- A value that begins leaves what is held valid. -/
theorem valid_beginValue (valid : m.Valid) (known : lexeme.Valid)
    (begins : m.beginValue lexeme = some next) : next.Valid := by
  unfold beginValue at begins
  split at begins
  · have opened : (Frame.items []).Valid := by
      intro item none
      cases none
    have waits : Wait.firstItem.Valid := trivial
    exact valid_push valid opened waits begins
  · have opened : (Frame.fields []).Valid := Fields.valid_nil
    have waits : Wait.firstKey.Valid := trivial
    exact valid_push valid opened waits begins
  · cases begins
    exact ⟨valid.stack, known⟩
  · cases begins
    exact ⟨valid.stack, .text _⟩
  · cases begins

/-- A value that is finished takes its place. -/
theorem valid_finishValue {value : Json} {stack : List Frame}
    (frames : ∀ frame ∈ stack, frame.Valid) (finished : value.Valid)
    (goes : finishValue value stack lexeme = some next) : next.Valid := by
  unfold finishValue at goes
  split at goes <;> cases goes <;> obtain ⟨here, below⟩ := List.forall_mem_cons.1 frames
  · have items : (Frame.items (value :: _)).Valid := List.forall_mem_cons.2 ⟨finished, here⟩
    exact ⟨List.forall_mem_cons.2 ⟨items, below⟩, trivial⟩
  · refine ⟨below, .list fun item among => ?_⟩
    exact List.forall_mem_cons.2 ⟨finished, here⟩ item (List.mem_reverse.1 among)
  · rename_i fields key _
    have inserted : (Frame.fields (fields.insert key value)).Valid :=
      Fields.valid_insert here key finished
    exact ⟨List.forall_mem_cons.2 ⟨inserted, below⟩, trivial⟩
  · rename_i fields key _
    have inserted : Fields.Valid (fields.insert key value) := Fields.valid_insert here key finished
    exact ⟨below, .object inserted.ordered inserted.each⟩

/-- Every lexeme leaves what is held valid. -/
theorem valid_step (valid : m.Valid) (known : lexeme.Valid) (steps : m.step lexeme = some next) :
    next.Valid := by
  obtain ⟨frames, waits⟩ := valid
  unfold step at steps
  split at steps
  case h_1 | h_3 => exact valid_beginValue ⟨frames, waits⟩ known steps
  case h_2 stacked =>
    cases steps
    rw [stacked] at frames
    exact ⟨(List.forall_mem_cons.1 frames).2, .list (by simp)⟩
  case h_4 stacked =>
    cases steps
    rw [stacked] at frames
    exact ⟨(List.forall_mem_cons.1 frames).2, .object List.Pairwise.nil (by simp)⟩
  case h_5 stacked | h_6 stacked =>
    cases steps
    rw [stacked] at frames
    obtain ⟨here, below⟩ := List.forall_mem_cons.1 frames
    have keyed (key : String) : (Frame.member _ key).Valid := here
    exact ⟨List.forall_mem_cons.2 ⟨keyed _, below⟩, trivial⟩
  case h_7 =>
    cases steps
    exact ⟨frames, trivial⟩
  case h_8 finished =>
    rw [finished] at waits
    exact valid_finishValue frames waits steps
  case h_9 => cases steps

/-- So do lexemes one after the other. -/
theorem valid_steps (valid : m.Valid) {lexemes : List Lexeme}
    (known : ∀ lexeme ∈ lexemes, lexeme.Valid) (steps : lexemes.foldlM step m = some next) :
    next.Valid := by
  induction lexemes generalizing m with
  | nil =>
    cases steps
    exact valid
  | cons lexeme rest ih =>
    obtain ⟨first, later⟩ := List.forall_mem_cons.1 known
    obtain ⟨middle, step, steps⟩ := Option.bind_eq_some_iff.1 steps
    exact ih (valid_step valid first step) later steps

end Machine

/-- Values are put together as valid ones. -/
theorem valid_ofLexemes {lexemes : List Lexeme} {value : Json}
    (known : ∀ lexeme ∈ lexemes, lexeme.Valid) (made : ofLexemes lexemes = some value) :
    value.Valid := by
  obtain ⟨last, steps, made⟩ := Option.bind_eq_some_iff.1 made
  have start : Machine.Valid ⟨[], .value⟩ := ⟨by simp, trivial⟩
  have ended := (Machine.valid_steps start known steps).wait
  split at made
  · cases made
    exact ended
  · cases made

/-- Every value that is read from a text is valid. -/
theorem valid_of_read {text : List Char} {value : Json} (reads : read text = some value) :
    value.Valid := by
  obtain ⟨lexemes, scanned, made⟩ := Option.bind_eq_some_iff.1 reads
  exact valid_ofLexemes (Lexeme.valid_scanWithin scanned) made

end Vigil.Json
