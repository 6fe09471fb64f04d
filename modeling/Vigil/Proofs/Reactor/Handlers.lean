import Vigil.Proofs.Handler.Requests
import Vigil.Proofs.Reactor.Monitors

/-!
# The handlers of options

A reload forgets the handlers of earlier options and requests those of each level by their names.
No factory is registered in between, so a name has one handler or none for all levels: the one that
its factory makes of the new options. The table of handlers lists them in the order of the names.
-/

namespace Vigil

namespace HandlerRegistry

variable {registry next last : HandlerRegistry} {options : Options} {name : String}

/-- Every handler that is kept is what its factory makes of these options. -/
def Faithful (registry : HandlerRegistry) (options : Options) : Prop :=
  ∀ name made, registry.loaded.get? name = some made →
    registry.make name options = .ok made.handler

/-- The handler of a name is decided: it is kept, or its factory fails. -/
def Decided (registry : HandlerRegistry) (options : Options) (name : String) : Prop :=
  (registry.loaded.get? name).map (·.handler) = (registry.make name options).toOption

/-- A registry that grows keeps its factories and handlers, and what it adds is made of these
options and numbered on. -/
structure Grows (registry next : HandlerRegistry) (options : Options) : Prop where
  factories : next.factories = registry.factories
  kept : ∀ name made, registry.loaded.get? name = some made → next.loaded.get? name = some made
  faithful : registry.Faithful options → next.Faithful options
  numbered : ∀ least, registry.Numbered least → next.Numbered least

/-- A registry grows by nothing. -/
theorem Grows.refl (registry : HandlerRegistry) (options : Options) :
    registry.Grows registry options :=
  ⟨rfl, fun _ _ => id, id, fun _ => id⟩

/-- A registry grows step by step. -/
theorem Grows.trans (first : registry.Grows next options) (second : next.Grows last options) :
    registry.Grows last options where
  factories := second.factories.trans first.factories
  kept name made here := second.kept name made (first.kept name made here)
  faithful here := second.faithful (first.faithful here)
  numbered least here := second.numbered least (first.numbered least here)

/-- The same factories make the same. -/
theorem make_of_factories (same : next.factories = registry.factories) (name : String)
    (options : Options) : next.make name options = registry.make name options := by
  rw [make, make, same]

/-- A request lets a registry grow. -/
theorem grows_get (registry : HandlerRegistry) (name : String) (options : Options) :
    registry.Grows (registry.get name options).1 options where
  factories := factories_get registry name options
  kept other made here := loaded_get_of_loaded here name options
  faithful faithful other made here := by
    rw [make_of_factories (factories_get registry name options)]
    rcases get_cases registry name options with
      ⟨_, -, got⟩ | ⟨_, -, -, got⟩ | ⟨handler, -, makes, got⟩
    · rw [got] at here
      exact faithful other made here
    · rw [got] at here
      exact faithful other made here
    · rw [got, loaded_keep] at here
      split at here
      · rename_i same
        cases here
        rw [same, makes]
      · exact faithful other made here
  numbered least numbered := numbered_get numbered name options

/-- A name that was requested is decided. -/
theorem decided_get (faithful : registry.Faithful options) (name : String) :
    (registry.get name options).1.Decided options name := by
  rw [Decided, make_of_factories (factories_get registry name options)]
  rcases get_cases registry name options with
    ⟨made, loaded, got⟩ | ⟨fault, absent, tried, got⟩ | ⟨handler, -, makes, got⟩
  · rw [got, loaded, faithful name made loaded]
    rfl
  · rw [got, absent, tried]
    rfl
  · rw [got, loaded_keep, if_pos rfl, makes]
    rfl

/-- What a request answers is what is kept after it. -/
theorem toOption_get (registry : HandlerRegistry) (name : String) (options : Options) :
    (registry.get name options).2.toOption = (registry.get name options).1.loaded.get? name := by
  rcases get_cases registry name options with
    ⟨made, loaded, got⟩ | ⟨fault, absent, tried, got⟩ | ⟨handler, -, makes, got⟩
  · rw [got, loaded]
    rfl
  · rw [got, absent]
    rfl
  · rw [got, loaded_keep, if_pos rfl]
    rfl

/-- Where the handler of a name is decided, it stays so. -/
theorem loaded_of_decided (decided : registry.Decided options name)
    (faithful : registry.Faithful options) (grows : registry.Grows last options) :
    last.loaded.get? name = registry.loaded.get? name := by
  cases here : registry.loaded.get? name with
  | some made => exact grows.kept name made here
  | none =>
    cases later : last.loaded.get? name with
    | none => rfl
    | some made =>
      have makes := grows.faithful faithful name made later
      rw [make_of_factories grows.factories] at makes
      rw [Decided, here, makes] at decided
      cases decided

/-- Where the handler of a name is decided, it stays decided. -/
theorem Decided.of_grows (decided : registry.Decided options name)
    (faithful : registry.Faithful options) (grows : registry.Grows last options) :
    last.Decided options name := by
  rw [Decided, loaded_of_decided decided faithful grows, make_of_factories grows.factories]
  exact decided

/-- The first name is requested first, and its handler comes first. -/
theorem getAll_cons (registry : HandlerRegistry) (options : Options) (level : Level) (name : String)
    (rest : List String) :
    let next := (registry.get name options).1
    (registry.getAll options level (name :: rest)).1 = (next.getAll options level rest).1 ∧
      (registry.getAll options level (name :: rest)).2.1 =
        (registry.get name options).2.toOption.toList ++ (next.getAll options level rest).2.1 := by
  simp only [getAll]
  split
  · rename_i refused
    rw [refused]
    exact ⟨rfl, rfl⟩
  · rename_i made
    rw [made]
    exact ⟨rfl, rfl⟩

/-- All names that are requested are decided, and the handlers that they have are listed in the
order of the names. -/
theorem getAll_of_faithful (faithful : registry.Faithful options) (level : Level)
    (names : List String) :
    let got := registry.getAll options level names
    registry.Grows got.1 options ∧ (∀ name ∈ names, got.1.Decided options name) ∧
      got.2.1 = names.filterMap got.1.loaded.get? := by
  induction names generalizing registry with
  | nil => exact ⟨.refl registry options, by simp, rfl⟩
  | cons name rest ih =>
    have grows := grows_get registry name options
    have still := grows.faithful faithful
    have decided := decided_get faithful name
    obtain ⟨later, others, listed⟩ := ih still
    obtain ⟨last, handlers⟩ := getAll_cons registry options level name rest
    dsimp only
    rw [last, handlers]
    refine ⟨grows.trans later, List.forall_mem_cons.2 ⟨decided.of_grows still later, others⟩, ?_⟩
    rw [listed, toOption_get, ← loaded_of_decided decided still later, List.filterMap_cons]
    split <;> simp [*]

/-- The handlers of all levels are listed so, whichever level requested them first. -/
theorem getLevels_of_faithful (faithful : registry.Faithful options) (levels : List Level) :
    let got := registry.getLevels options levels
    registry.Grows got.1 options ∧
      ∀ level ∈ levels, (∀ name ∈ options.handlersFor level, got.1.Decided options name) ∧
        got.2.1.get? level = some ((options.handlersFor level).filterMap got.1.loaded.get?) := by
  induction levels generalizing registry with
  | nil => exact ⟨.refl registry options, by simp⟩
  | cons first rest ih =>
    obtain ⟨grows, decided, listed⟩ :=
      getAll_of_faithful faithful first (options.handlersFor first)
    have still := grows.faithful faithful
    obtain ⟨later, others⟩ := ih still
    have stays : ∀ name ∈ options.handlersFor first, _ := fun name among =>
      loaded_of_decided (decided name among) still later
    simp only [getLevels]
    refine ⟨grows.trans later, fun level among => ?_⟩
    rw [Table.get?_set]
    by_cases same : level = first
    · subst same
      refine ⟨fun name among => (decided name among).of_grows still later, ?_⟩
      rw [if_pos rfl, listed, List.filterMap_congr stays]
    · rw [if_neg same]
      exact others level (List.mem_of_ne_of_mem same among)

/-- After a clearing, a request gets what the factory of its name makes. -/
theorem get_clear (registry : HandlerRegistry) (name : String) (options : Options) :
    (registry.clear.get name options).2.toOption.map (·.handler) =
      (registry.make name options).toOption := by
  have same : registry.clear.make name options = registry.make name options := rfl
  cases tried : registry.make name options with
  | error fault => rw [get_of_refused rfl (same.trans tried)]; rfl
  | ok handler => rw [get_of_made rfl (same.trans tried)]; rfl

end HandlerRegistry

namespace Reactor

variable {reactor : Reactor} {now : Moment} {options : Options} {count : Nat}

/-- What a reload that is applied makes of the handlers. -/
structure Furnished (before : HandlerRegistry) (options : Options) (after : Reactor) : Prop where
  /-- The handlers of a level are those of its names, in the order of the names, and a name has the
  same one for all levels. Names without a handler are left out. -/
  listed : ∀ level, after.handlers.handlers level =
    (options.handlersFor level).filterMap after.registry.loaded.get?
  /-- A name has the handler that a request for it with these options gets when all handlers are
  forgotten, and none if that fails. -/
  made : ∀ level, ∀ name ∈ options.handlersFor level,
    (after.registry.loaded.get? name).map (·.handler) =
      (before.clear.get name options).2.toOption.map (·.handler)
  /-- Handlers of different names have different numbers, which go on from those of before. -/
  numbered : after.registry.Numbered before.made

/-- A reload that is applied furnishes the handlers of its options. -/
theorem furnished_of_applied (applied : (reactor.reinit now options).2.2 = .ok count) :
    Furnished reactor.registry options (reactor.reinit now options).1 := by
  obtain ⟨period, limit, -, adopted, -⟩ := adopted_of_applied applied
  have nothing : reactor.registry.clear.Faithful options := by
    intro name made loaded
    cases loaded
  obtain ⟨grows, furnished⟩ := HandlerRegistry.getLevels_of_faithful nothing Level.all
  have listed (level : Level) := (furnished level (by cases level <;> decide)).2
  have decided (level : Level) := (furnished level (by cases level <;> decide)).1
  rw [adopted]
  refine ⟨fun level => ?_, fun level name among => ?_, ?_⟩
  · exact congrArg (·.getD []) (listed level)
  · rw [HandlerRegistry.get_clear]
    refine (decided level name among).trans (congrArg Except.toOption ?_)
    exact HandlerRegistry.make_of_factories grows.factories name options
  · exact grows.numbered _ (HandlerRegistry.numbered_clear reactor.registry)

/-- A registry answers from the calls alone: since the last clearing, a name has one handler, made
once, by the factory and of the options of the first request that bore fruit, and requests that fail
leave nothing behind. So a reload that is applied gives each level the handlers of its names,
without the names whose requests fail, all of them made of the new options and one for each
name. -/
theorem handlers_of_requests :
    (∀ (calls : List HandlerRegistry.Call) (name : String) (options : Options),
      HandlerRegistry.Answers calls name options) ∧
    ∀ (reactor : Reactor) (now : Moment) (options : Options) (count : Nat),
      (reactor.reinit now options).2.2 = .ok count →
        Furnished reactor.registry options (reactor.reinit now options).1 := by
  refine ⟨fun calls name options => ?_, fun reactor now options count => furnished_of_applied⟩
  refine ⟨HandlerRegistry.barren_or_madeBy calls name, ?_, ?_, ?_, ?_⟩
  · exact fun barren => HandlerRegistry.get_of_barren barren options
  · exact fun fault failed => HandlerRegistry.get_of_error failed
  · exact fun earlier passed handler made =>
      ⟨HandlerRegistry.get_first made, HandlerRegistry.get_again made options⟩
  · rintro earlier other passed later made rfl got
    exact HandlerRegistry.number_lt_of_get got

/-- Requests for a handler whose factory fails at first and is replaced later, for examples. -/
def pagerCalls : List HandlerRegistry.Call :=
  [.register "pager" fun _ => .error (.other "out of order"), .get "pager" .default,
    .register "pager" fun options => .ok ⟨"first", (LogHandler.make options).notify⟩,
    .get "pager" restlessOptions,
    .register "pager" fun options => .ok ⟨"second", (LogHandler.make options).notify⟩]

/-- Options that name handlers twice and one that cannot be made, for examples. -/
def crowdedOptions : Options :=
  { cpuOptions with
    criticalHandlers := ["log", "http", "log"]
    warningHandlers := ["http"]
    messagePrefix := "[CROWD]" }

/-- The factory that failed and the one that came too late are passed over, and a reload leaves out
the handler that has no address. -/
theorem handlers_of_requests_for_pager :
    let handler : Handler := ⟨"first", (LogHandler.make restlessOptions).notify⟩
    let reload := cpuReactor.reinit ⟨10, 10⟩ crowdedOptions
    HandlerRegistry.MadeBy pagerCalls "pager" (pagerCalls.take 3) restlessOptions handler ∧
      (HandlerRegistry.after pagerCalls).get "pager" .default =
        (HandlerRegistry.after pagerCalls, .ok ⟨0, handler⟩) ∧
      reload.2.2 = .ok 1 ∧ Furnished cpuReactor.registry crowdedOptions reload.1 ∧
      (Level.all.map fun level => (reload.1.handlers.handlers level).map fun made =>
        (made.number, made.handler.name)) =
          [[(1, "log"), (1, "log")], [], [(1, "log")], [(1, "log")]] := by
  have unfruitful : HandlerRegistry.Barren (pagerCalls.take 3) "pager" := by
    rintro earlier options ⟨later, parts, -⟩
    simp only [pagerCalls, List.take_succ_cons, List.take_zero, List.cons_eq_append_iff,
      List.cons.injEq, reduceCtorEq, false_and, and_false, HandlerRegistry.Call.get.injEq, true_and,
      List.nil_eq, List.append_eq_nil_iff, exists_const, or_self, or_false, ↓existsAndEq,
      false_or] at parts
    obtain ⟨rfl, rfl, -⟩ := parts
    rintro handler ⟨⟩
  have made : HandlerRegistry.MadeBy pagerCalls "pager" (pagerCalls.take 3) restlessOptions
      ⟨"first", (LogHandler.make restlessOptions).notify⟩ :=
    ⟨⟨pagerCalls.drop 4, rfl, by simp [pagerCalls]⟩, rfl, unfruitful⟩
  have applied : (cpuReactor.reinit ⟨10, 10⟩ crowdedOptions).2.2 = .ok 1 := by decide +kernel
  obtain ⟨answers, furnished⟩ := handlers_of_requests
  have again := ((answers pagerCalls "pager" .default).remembers _ _ _ made).2
  exact ⟨made, again, applied, furnished _ _ _ _ applied, by decide +kernel⟩

end Reactor

end Vigil
