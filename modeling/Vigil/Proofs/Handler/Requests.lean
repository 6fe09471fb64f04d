import Mathlib.Data.List.Induction
import Vigil.Handler.Registry

/-!
# Requests for handlers

A registry is asked to register factories, to forget the handlers that were made, and for handlers
by their names. What it answers can be told from these calls alone: the first request for a name
since the last clearing that bears fruit makes its handler, and every later one gets the same.
Until then each request tries the factory that was registered last, and one that fails leaves
nothing behind.

A factory that does not make the same of the same options every time is one that is registered anew
in between.
-/

namespace Vigil.HandlerRegistry

/-! ## One request -/

section Request

variable {registry : HandlerRegistry} {name other : String} {options : Options} {handler : Handler}

/-- What comes of trying the factory of a name. -/
def make (registry : HandlerRegistry) (name : String) (options : Options) :
    Except HandlerFault Handler :=
  match registry.factories.get? name with
  | none => .error (.setup (.unknown name))
  | some factory => (factory options).mapError .setup

/-- The registry that keeps a handler that was made for a name. -/
def keep (registry : HandlerRegistry) (name : String) (handler : Handler) : HandlerRegistry :=
  { registry with
    loaded := registry.loaded.set name ⟨registry.made, handler⟩
    made := registry.made + 1 }

/-- Where no handler is kept, the factory is tried, and a handler that it makes is kept. -/
theorem get_of_absent (absent : registry.loaded.get? name = none) (options : Options) :
    registry.get name options =
      match registry.make name options with
      | .error fault => (registry, .error fault)
      | .ok handler => (registry.keep name handler, .ok ⟨registry.made, handler⟩) := by
  unfold get make
  rw [absent]
  cases registry.factories.get? name with
  | none => rfl
  | some factory =>
    dsimp only
    cases factory options <;> rfl

/-- A handler that cannot be made is reported. -/
theorem get_of_refused {fault : HandlerFault} (absent : registry.loaded.get? name = none)
    (refused : registry.make name options = .error fault) :
    registry.get name options = (registry, .error fault) := by
  rw [get_of_absent absent, refused]

/-- A handler that is made is kept. -/
theorem get_of_made (absent : registry.loaded.get? name = none)
    (made : registry.make name options = .ok handler) :
    registry.get name options = (registry.keep name handler, .ok ⟨registry.made, handler⟩) := by
  rw [get_of_absent absent, made]

/-- A request finds a handler, or tries its factory in vain, or makes a handler. -/
theorem get_cases (registry : HandlerRegistry) (name : String) (options : Options) :
    (∃ made, registry.loaded.get? name = some made ∧
      registry.get name options = (registry, .ok made)) ∨
    (∃ fault, registry.loaded.get? name = none ∧ registry.make name options = .error fault ∧
      registry.get name options = (registry, .error fault)) ∨
    ∃ handler, registry.loaded.get? name = none ∧ registry.make name options = .ok handler ∧
      registry.get name options = (registry.keep name handler, .ok ⟨registry.made, handler⟩) := by
  cases loaded : registry.loaded.get? name with
  | some made => exact .inl ⟨made, rfl, get_of_loaded loaded options⟩
  | none =>
    cases tried : registry.make name options with
    | error fault => exact .inr (.inl ⟨fault, rfl, rfl, get_of_refused loaded tried⟩)
    | ok handler => exact .inr (.inr ⟨handler, rfl, rfl, get_of_made loaded tried⟩)

/-- A handler that is kept is found, and no other one is touched. -/
theorem loaded_keep (registry : HandlerRegistry) (name other : String) (handler : Handler) :
    (registry.keep name handler).loaded.get? other =
      if other = name then some ⟨registry.made, handler⟩ else registry.loaded.get? other :=
  registry.loaded.get?_set name other _

/-- A request leaves the factories alone. -/
theorem factories_get (registry : HandlerRegistry) (name : String) (options : Options) :
    (registry.get name options).1.factories = registry.factories := by
  rcases get_cases registry name options with ⟨_, -, got⟩ | ⟨_, -, -, got⟩ | ⟨_, -, -, got⟩ <;>
    rw [got]
  rfl

/-- A handler that was made stays so in requests. -/
theorem loaded_get_of_loaded {made : HandlerInstance}
    (loaded : registry.loaded.get? name = some made) (other : String) (options : Options) :
    (registry.get other options).1.loaded.get? name = some made := by
  rcases get_cases registry other options with
    ⟨_, -, got⟩ | ⟨_, -, -, got⟩ | ⟨_, absent, -, got⟩ <;> rw [got]
  · exact loaded
  · exact loaded
  · have differs : name ≠ other := by
      rintro rfl
      rw [absent] at loaded
      cases loaded
    rw [loaded_keep, if_neg differs, loaded]

/-- A request for another name makes no handler for this one. -/
theorem loaded_get_of_ne (differs : name ≠ other) (options : Options) :
    (registry.get other options).1.loaded.get? name = registry.loaded.get? name := by
  rcases get_cases registry other options with ⟨_, -, got⟩ | ⟨_, -, -, got⟩ | ⟨_, -, -, got⟩ <;>
    rw [got]
  rw [loaded_keep, if_neg differs]

end Request

/-! ## The numbers of the handlers -/

/-- The handlers that are kept have different numbers from `least` on, and all of them were given
out. -/
structure Numbered (registry : HandlerRegistry) (least : Nat) : Prop where
  least_le : least ≤ registry.made
  bounds : ∀ name made, registry.loaded.get? name = some made →
    least ≤ made.number ∧ made.number < registry.made
  distinct : ∀ name other first second, registry.loaded.get? name = some first →
    registry.loaded.get? other = some second → first.number = second.number → name = other

section Numbers

variable {registry : HandlerRegistry} {least : Nat}

/-- After a clearing no number is in use. -/
theorem numbered_clear (registry : HandlerRegistry) : registry.clear.Numbered registry.made where
  least_le := Nat.le_refl _
  bounds := by simp
  distinct := by simp

/-- A handler that is kept gets a number of its own. -/
theorem numbered_keep (numbered : registry.Numbered least) (name : String) (handler : Handler) :
    (registry.keep name handler).Numbered least := by
  obtain ⟨least_le, bounds, distinct⟩ := numbered
  refine ⟨Nat.le_succ_of_le least_le, fun one made kept => ?_,
    fun one other first second kept also => ?_⟩
  · rw [loaded_keep] at kept
    split at kept
    · cases kept
      exact ⟨least_le, Nat.lt_succ_self _⟩
    · exact ⟨(bounds one made kept).1, Nat.lt_succ_of_lt (bounds one made kept).2⟩
  · intro same
    rw [loaded_keep] at kept also
    split at kept <;> split at also
    · rename_i here there
      rw [here, there]
    · cases kept
      exact absurd same (Nat.ne_of_gt (bounds other second also).2)
    · cases also
      exact absurd same (Nat.ne_of_lt (bounds one first kept).2)
    · exact distinct one other first second kept also same

/-- Requests keep the numbers in order. -/
theorem numbered_get (numbered : registry.Numbered least) (name : String) (options : Options) :
    (registry.get name options).1.Numbered least := by
  rcases get_cases registry name options with
    ⟨_, -, got⟩ | ⟨_, -, -, got⟩ | ⟨handler, -, -, got⟩ <;> rw [got]
  · exact numbered
  · exact numbered
  · exact numbered_keep numbered name handler

end Numbers

/-! ## The account of the calls -/

/-- What a registry may be asked. -/
inductive Call where
  | register (name : String) (factory : HandlerFactory)
  | clear
  | get (name : String) (options : Options)

/-- The registry after a call. -/
def take (registry : HandlerRegistry) : Call → HandlerRegistry
  | .register name factory => registry.register name factory
  | .clear => registry.clear
  | .get name options => (registry.get name options).1

/-- A registry that began empty, after some calls. -/
def after (calls : List Call) : HandlerRegistry := calls.foldl take empty

/-- Calls are made one after the other. -/
theorem after_concat (calls : List Call) (call : Call) :
    after (calls ++ [call]) = (after calls).take call := by
  simp [after]

/-- The factory that a call registers for a name. -/
def Call.factory? (name : String) : Call → Option HandlerFactory
  | .register other factory => if other = name then some factory else none
  | _ => none

/-- What comes of a request for a name for which no handler is kept: the factory that was registered
last is tried. -/
def attempt (calls : List Call) (name : String) (options : Options) : Except HandlerFault Handler :=
  match (calls.filterMap (Call.factory? name)).getLast? with
  | none => .error (.setup (.unknown name))
  | some factory => (factory options).mapError .setup

/-- A name was requested after `earlier`, with these options, and no clearing came since. -/
def Requested (calls : List Call) (name : String) (earlier : List Call) (options : Options) :
    Prop :=
  ∃ later, calls = earlier ++ .get name options :: later ∧ .clear ∉ later

/-- No request for a name since the last clearing bore fruit. -/
def Barren (calls : List Call) (name : String) : Prop :=
  ∀ earlier options, Requested calls name earlier options →
    ∀ handler, attempt earlier name options ≠ .ok handler

/-- The first request for a name since the last clearing that bore fruit came after `earlier`, had
these options, and made this handler. -/
structure MadeBy (calls : List Call) (name : String) (earlier : List Call) (options : Options)
    (handler : Handler) : Prop where
  requested : Requested calls name earlier options
  makes : attempt earlier name options = .ok handler
  first : Barren earlier name

variable {calls earlier : List Call} {call : Call} {name : String} {options : Options}
  {handler : Handler}

/-- Nothing was requested before the first call. -/
theorem not_requested_nil : ¬ Requested [] name earlier options := by
  rintro ⟨later, parts, -⟩
  simp at parts

/-- A request since the last clearing is the last call, or came before it if that is no clearing. -/
theorem requested_concat : Requested (calls ++ [call]) name earlier options ↔
    call ≠ .clear ∧ Requested calls name earlier options ∨
      earlier = calls ∧ call = .get name options := by
  constructor
  · rintro ⟨later, parts, kept⟩
    rcases later.eq_nil_or_concat with rfl | ⟨between, last, rfl⟩
    · obtain ⟨same, made⟩ := List.append_inj' parts rfl
      exact .inr ⟨same.symm, List.singleton_inj.1 made⟩
    · rw [List.concat_eq_append, ← List.cons_append, ← List.append_assoc] at parts
      obtain ⟨same, made⟩ := List.append_inj' parts rfl
      obtain rfl := List.singleton_inj.1 made
      rw [List.concat_eq_append, List.mem_append, List.mem_singleton, not_or] at kept
      exact .inl ⟨Ne.symm kept.2, between, same, kept.1⟩
  · rintro (⟨other, later, parts, kept⟩ | ⟨rfl, rfl⟩)
    · refine ⟨later ++ [call], by simp [parts], ?_⟩
      simp [kept, Ne.symm other]
    · exact ⟨[], rfl, List.not_mem_nil⟩

/-- A name stays barren unless its request bears fruit, and is barren after a clearing. -/
theorem barren_concat : Barren (calls ++ [call]) name ↔
    call = .clear ∨ Barren calls name ∧
      ∀ options, call = .get name options →
        ∀ handler, attempt calls name options ≠ .ok handler := by
  simp only [Barren, requested_concat]
  constructor
  · intro barren
    by_cases clearing : call = .clear
    · exact .inl clearing
    · refine .inr ⟨fun earlier options requested => ?_, fun options request => ?_⟩
      · exact barren earlier options (.inl ⟨clearing, requested⟩)
      · exact barren calls options (.inr ⟨rfl, request⟩)
  · rintro (rfl | ⟨before, now⟩) earlier options (⟨other, requested⟩ | ⟨rfl, request⟩)
    · exact absurd rfl other
    · cases request
    · exact before earlier options requested
    · exact now options request

/-- A handler was made before the last call, if that is no clearing, or is made by it. -/
theorem madeBy_concat : MadeBy (calls ++ [call]) name earlier options handler ↔
    call ≠ .clear ∧ MadeBy calls name earlier options handler ∨
      earlier = calls ∧ call = .get name options ∧ Barren calls name ∧
        attempt calls name options = .ok handler := by
  constructor
  · rintro ⟨requested, makes, first⟩
    rcases requested_concat.1 requested with ⟨other, before⟩ | ⟨rfl, request⟩
    · exact .inl ⟨other, before, makes, first⟩
    · exact .inr ⟨rfl, request, first, makes⟩
  · rintro (⟨other, requested, makes, first⟩ | ⟨rfl, request, first, makes⟩)
    · exact ⟨requested_concat.2 (.inl ⟨other, requested⟩), makes, first⟩
    · exact ⟨requested_concat.2 (.inr ⟨rfl, request⟩), makes, first⟩

/-- Either no request for a name bore fruit since the last clearing, or one was the first. -/
theorem barren_or_madeBy (calls : List Call) (name : String) :
    Barren calls name ∨ ∃ earlier options handler, MadeBy calls name earlier options handler := by
  induction calls using List.reverseRecOn with
  | nil => exact .inl fun earlier options requested => absurd requested not_requested_nil
  | append_singleton calls call ih =>
    by_cases clearing : call = .clear
    · exact .inl (barren_concat.2 (.inl clearing))
    · rcases ih with barren | ⟨earlier, options, handler, made⟩
      · by_cases fruit : ∃ options handler, call = .get name options ∧
            attempt calls name options = .ok handler
        · obtain ⟨options, handler, request, makes⟩ := fruit
          exact .inr ⟨calls, options, handler, madeBy_concat.2 (.inr ⟨rfl, request, barren, makes⟩)⟩
        · refine .inl (barren_concat.2 (.inr ⟨barren, fun options request handler makes => ?_⟩))
          exact fruit ⟨options, handler, request, makes⟩
      · exact .inr ⟨earlier, options, handler, madeBy_concat.2 (.inl ⟨clearing, made⟩)⟩

/-! ## What the calls leave -/

/-- The factories are those that were registered last. -/
theorem factories_after (calls : List Call) (name : String) :
    (after calls).factories.get? name = (calls.filterMap (Call.factory? name)).getLast? := by
  induction calls using List.reverseRecOn with
  | nil => rfl
  | append_singleton calls call ih =>
    rw [after_concat, List.filterMap_append]
    cases call with
    | register other factory =>
      by_cases same : other = name
      · simp [take, register, Table.get?_set, Call.factory?, same]
      · simp [take, register, Table.get?_set, Call.factory?, same, Ne.symm same, ih]
    | clear => simpa [take, clear, Call.factory?] using ih
    | get other options => simpa [take, factories_get, Call.factory?] using ih

/-- So a request for which no handler is kept comes to what the calls say. -/
theorem make_after (calls : List Call) (name : String) (options : Options) :
    (after calls).make name options = attempt calls name options := by
  rw [make, attempt, factories_after]

/-- No handler is kept for a barren name, and for any other one the handler of the first request
that bore fruit. -/
theorem loaded_after (calls : List Call) (name : String) :
    (Barren calls name → (after calls).loaded.get? name = none) ∧
      ∀ earlier options handler, MadeBy calls name earlier options handler →
        (after calls).loaded.get? name = some ⟨(after earlier).made, handler⟩ := by
  induction calls using List.reverseRecOn with
  | nil =>
    refine ⟨fun _ => rfl, fun earlier options handler made => ?_⟩
    exact absurd made.requested not_requested_nil
  | append_singleton calls call ih =>
    obtain ⟨absent, present⟩ := ih
    rw [after_concat]
    refine ⟨fun barren => ?_, fun earlier options handler made => ?_⟩
    · rcases barren_concat.1 barren with rfl | ⟨before, now⟩
      · rfl
      · cases call with
        | register other factory => exact absent before
        | clear => rfl
        | get other options =>
          by_cases same : name = other
          · subst same
            cases tried : (after calls).make name options with
            | error fault =>
              rw [take, get_of_refused (absent before) tried]
              exact absent before
            | ok handler =>
              rw [make_after] at tried
              exact absurd tried (now options rfl handler)
          · rw [take, loaded_get_of_ne same]
            exact absent before
    · rcases madeBy_concat.1 made with ⟨other, before⟩ | ⟨rfl, rfl, before, makes⟩
      · have kept := present earlier options handler before
        cases call with
        | register name factory => exact kept
        | clear => exact absurd rfl other
        | get name options => exact loaded_get_of_loaded kept name options
      · rw [← make_after] at makes
        rw [take, get_of_made (absent before) makes, loaded_keep, if_pos rfl]

/-- Calls make no handler that was not counted. -/
theorem made_le_take (registry : HandlerRegistry) (call : Call) :
    registry.made ≤ (registry.take call).made := by
  cases call with
  | register name factory => exact Nat.le_refl _
  | clear => exact Nat.le_refl _
  | get name options =>
    rcases get_cases registry name options with ⟨_, -, got⟩ | ⟨_, -, -, got⟩ | ⟨_, -, -, got⟩
    · exact Nat.le_of_eq (congrArg (·.1.made) got).symm
    · exact Nat.le_of_eq (congrArg (·.1.made) got).symm
    · have counted : (registry.get name options).1.made = registry.made + 1 :=
        congrArg (·.1.made) got
      exact Nat.le_trans (Nat.le_succ _) (Nat.le_of_eq counted.symm)

/-- The number of handlers that were made only grows. -/
theorem made_le_after (earlier later : List Call) :
    (after earlier).made ≤ (after (earlier ++ later)).made := by
  induction later using List.reverseRecOn with
  | nil => simp
  | append_singleton later call ih =>
    rw [← List.append_assoc, after_concat]
    exact Nat.le_trans ih (made_le_take _ call)

/-- Whatever is called, the numbers are in order. -/
theorem numbered_after (calls : List Call) : (after calls).Numbered 0 := by
  induction calls using List.reverseRecOn with
  | nil => exact numbered_clear empty
  | append_singleton calls call ih =>
    rw [after_concat]
    cases call with
    | register name factory => exact ⟨ih.least_le, ih.bounds, ih.distinct⟩
    | clear => exact ⟨Nat.zero_le _, by simp [take], by simp [take]⟩
    | get name options => exact numbered_get ih name options

/-- A handler that was given out has a smaller number than any that is made later. -/
theorem number_lt_of_get {earlier later : List Call} {name : String} {options : Options}
    {made : HandlerInstance} (got : ((after earlier).get name options).2 = .ok made) :
    made.number < (after (earlier ++ .get name options :: later)).made := by
  have kept : (after (earlier ++ [.get name options])).loaded.get? name = some made := by
    rw [after_concat]
    exact loaded_get got
  have below := ((numbered_after (earlier ++ [.get name options])).bounds name made kept).2
  have grows := made_le_after (earlier ++ [.get name options]) later
  rw [List.append_assoc, List.singleton_append] at grows
  exact Nat.lt_of_lt_of_le below grows

/-- As long as no request bears fruit, the factory that was registered last is tried, and a handler
that it makes counts as one more. -/
theorem get_of_barren (barren : Barren calls name) (options : Options) :
    ((after calls).get name options).2 =
        (attempt calls name options).map (HandlerInstance.mk (after calls).made) ∧
      ((after calls).get name options).1.made =
        (after calls).made + if (attempt calls name options).isOk then 1 else 0 := by
  have absent := (loaded_after calls name).1 barren
  rw [← make_after]
  cases tried : (after calls).make name options with
  | error fault =>
    rw [get_of_refused absent tried]
    exact ⟨rfl, rfl⟩
  | ok handler =>
    rw [get_of_made absent tried]
    exact ⟨rfl, rfl⟩

/-- The first request that bears fruit gets the handler that it makes. -/
theorem get_first (made : MadeBy calls name earlier options handler) :
    ((after earlier).get name options).2 = .ok ⟨(after earlier).made, handler⟩ := by
  rw [(get_of_barren made.first options).1, made.makes]
  rfl

/-- Every later one gets the same, whatever its options and the factories are by then. -/
theorem get_again (made : MadeBy calls name earlier options handler) (later : Options) :
    (after calls).get name later = (after calls, .ok ⟨(after earlier).made, handler⟩) :=
  get_of_loaded ((loaded_after calls name).2 earlier options handler made) later

/-- What a request answers after some calls. -/
structure Answers (calls : List Call) (name : String) (options : Options) : Prop where
  /-- Either no request since the last clearing bore fruit, or one was the first. -/
  situation : Barren calls name ∨
    ∃ earlier passed handler, MadeBy calls name earlier passed handler
  /-- If none did, the factory that was registered last is tried. A handler that it makes counts as
  one more. -/
  tries : Barren calls name →
    ((after calls).get name options).2 =
        (attempt calls name options).map (HandlerInstance.mk (after calls).made) ∧
      ((after calls).get name options).1.made =
        (after calls).made + if (attempt calls name options).isOk then 1 else 0
  /-- A request that fails leaves nothing behind. -/
  fails : ∀ fault, ((after calls).get name options).2 = .error fault →
    ((after calls).get name options).1 = after calls
  /-- After the first request that bore fruit, every one gets what that one got, and makes
  nothing. -/
  remembers : ∀ earlier passed handler, MadeBy calls name earlier passed handler →
    ((after earlier).get name passed).2 = .ok ⟨(after earlier).made, handler⟩ ∧
      (after calls).get name options = (after calls, .ok ⟨(after earlier).made, handler⟩)
  /-- Whatever was given out before has a smaller number than a handler that is made now. -/
  older : ∀ earlier other passed later made, calls = earlier ++ .get other passed :: later →
    ((after earlier).get other passed).2 = .ok made → made.number < (after calls).made

end Vigil.HandlerRegistry
