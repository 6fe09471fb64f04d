import Vigil.Proofs.Reactor.LifeCycle

/-!
# Nothing is lost on the way

Notifications are emitted into the queue and handed over from its front, one at a time, to the
delivery of the dispatcher. A ledger keeps what was emitted, handed over and delivered since the
reactor was made. Whatever is called and happens, the queue holds exactly what was emitted and not
handed over, in this order, and the delivery under way is all that was handed over and has not
ended.

A dispatcher that is asked to end learns of it between two deliveries, perhaps while notifications
are queued, and ends only when the queue is empty. So a stop does not end before everything was
delivered that was emitted until then.
-/

namespace Vigil.Reactor

section Parts

variable {reactor : Reactor}

/-- The notification that the dispatcher delivers. -/
def underWay (reactor : Reactor) : Option Event :=
  (reactor.dispatcher.bind (·.delivery)).map (·.event)

/-- A dispatcher that waits takes the front of the queue. -/
theorem dispatch_of_waiting {stopping : Bool} {event : Event} {rest : List Event}
    (waits : reactor.dispatcher = some ⟨none, stopping⟩) (queue : reactor.queue = event :: rest)
    (now : Nat) :
    (reactor.dispatch now).1.queue = rest ∧
      ∃ delivery, delivery.event = event ∧
        (reactor.dispatch now).1.dispatcher = some ⟨some delivery, stopping⟩ := by
  unfold dispatch
  rw [waits, queue]
  exact ⟨rfl, (reactor.handlers.deliver now event).1, rfl, rfl⟩

/-- A dispatcher that delivers takes nothing. -/
theorem dispatch_of_underWay (busy : reactor.underWay.isSome = true) (now : Nat) :
    (reactor.dispatch now).1 = reactor := by
  unfold dispatch
  split
  · rename_i waits _
    simp [underWay, waits] at busy
  · rfl

/-- Nothing is taken from an empty queue, nor where there is no dispatcher. -/
theorem dispatch_of_idle (idle : reactor.dispatcher = none ∨ reactor.queue = []) (now : Nat) :
    (reactor.dispatch now).1 = reactor := by
  unfold dispatch
  split
  · rename_i waits queue
    simp [waits, queue] at idle
  · rfl

/-- The end of a delivery leaves the queue alone, and no delivery is under way after it. -/
theorem finishDispatch_frees (reactor : Reactor) :
    reactor.finishDispatch.1.queue = reactor.queue ∧
      reactor.finishDispatch.1.dispatcher =
        reactor.dispatcher.map fun d => { d with delivery := none } := by
  unfold finishDispatch
  split
  · rename_i busy
    exact ⟨rfl, by simp [finishDelivery, busy]⟩
  · rename_i idle
    refine ⟨rfl, ?_⟩
    rcases dispatcher : reactor.dispatcher with - | ⟨- | delivery, stopping⟩
    · rfl
    · rfl
    · exact absurd dispatcher (idle delivery stopping)

/-- What a reactor holds goes on: what is emitted joins the queue at its end, what is handed over
leaves it at its front, and what is delivered was under way. -/
structure Passes (before after : Reactor) (emitted : List Event) (handed delivered : Option Event) :
    Prop where
  queue : before.queue ++ emitted = handed.toList ++ after.queue
  underWay : before.underWay.toList ++ handed.toList = delivered.toList ++ after.underWay.toList

/-- A reactor that keeps its queue and its delivery passes nothing on. -/
theorem passes_of_same {after : Reactor} (queue : after.queue = reactor.queue)
    (underWay : after.underWay = reactor.underWay) : Passes reactor after [] none none := by
  refine ⟨?_, ?_⟩
  · simp [queue]
  · simp [underWay]

/-- So it is in a reload. -/
theorem passes_reinit (reactor : Reactor) (now : Moment) (options : Options) :
    Passes reactor (reactor.reinit now options).1 [] none none := by
  have same := engine_reinit reactor now options
  simp only [engine, Engine.mk.injEq] at same
  obtain ⟨queue, dispatcher, -, -⟩ := same
  exact passes_of_same queue (by rw [underWay, dispatcher, underWay])

/-- So it is in a start: a dispatcher that is there keeps its delivery, and a new one has none. -/
theorem passes_start (reactor : Reactor) (host : Host) (now : Moment) :
    Passes reactor (reactor.start host now).1 [] none none := by
  have launched : Passes reactor (reactor.launch now) [] none none := by
    refine passes_of_same rfl ?_
    cases dispatcher : reactor.dispatcher <;> simp [underWay, launch, dispatcher, Dispatcher.idle]
  have unchanged : Passes reactor reactor [] none none := passes_of_same rfl rfl
  unfold start
  split
  · exact unchanged
  · split
    · exact unchanged
    · exact launched

/-- So it is in a request to stop, which leaves the dispatcher its delivery. -/
theorem passes_requestStop (reactor : Reactor) :
    Passes reactor reactor.requestStop.1 [] none none := by
  cases running : reactor.running with
  | false =>
    rw [requestStop_of_resting running]
    exact passes_of_same rfl rfl
  | true =>
    rw [requestStop_of_running running]
    refine passes_of_same rfl ?_
    cases dispatcher : reactor.dispatcher <;> simp [underWay, dispatcher]

/-- When a reactor is drained, nothing is queued and nothing is under way. -/
theorem empty_of_isDrained (drained : reactor.isDrained = true) :
    reactor.queue = [] ∧ reactor.underWay = none := by
  simp only [isDrained, Bool.and_eq_true, List.isEmpty_iff] at drained
  obtain ⟨queue, waits⟩ := drained
  refine ⟨queue, ?_⟩
  cases dispatcher : reactor.dispatcher with
  | none => simp [underWay, dispatcher]
  | some d =>
    have free : d.delivery = none := by simp_all
    simp [underWay, dispatcher, free]

/-- So it is when a drained dispatcher ends. -/
theorem passes_endDispatcher (drained : reactor.isDrained = true) :
    Passes reactor reactor.endDispatcher.1 [] none none := by
  have empty := empty_of_isDrained drained
  exact passes_of_same rfl (by rw [empty.2]; rfl)

/-- What a monitor notifies is emitted. -/
theorem passes_settle (reactor : Reactor) (key : AlertKey) (m : Monitor) (effects : Effects) :
    Passes reactor (reactor.settle key m effects).1 effects.events none none :=
  ⟨rfl, by simp [settle, emit, underWay]⟩

/-- The dispatcher hands the front of the queue over to its delivery. -/
theorem passes_dispatch (reactor : Reactor) (now : Nat) :
    Passes reactor (reactor.dispatch now).1 []
      (if reactor.underWay.isSome then none else (reactor.dispatch now).1.underWay) none := by
  cases busy : reactor.underWay.isSome with
  | true =>
    rw [dispatch_of_underWay busy]
    exact passes_of_same rfl rfl
  | false =>
    have free : reactor.underWay = none := by simpa using busy
    have idles (idle : reactor.dispatcher = none ∨ reactor.queue = []) :
        Passes reactor (reactor.dispatch now).1 [] (reactor.dispatch now).1.underWay none := by
      rw [dispatch_of_idle idle, free]
      exact passes_of_same rfl rfl
    rcases dispatcher : reactor.dispatcher with - | ⟨delivery, stopping⟩
    · exact idles (.inl dispatcher)
    · have waits : reactor.dispatcher = some ⟨none, stopping⟩ := by
        simpa [underWay, dispatcher] using free
      cases queue : reactor.queue with
      | nil => exact idles (.inr queue)
      | cons event rest =>
        obtain ⟨left, delivery, rfl, taken⟩ := dispatch_of_waiting waits queue now
        have handed : (reactor.dispatch now).1.underWay = some delivery.event := by
          simp [underWay, taken]
        refine ⟨?_, ?_⟩
        · simp [queue, left, handed]
        · simp [free, handed]

/-- A delivery that ends was under way. -/
theorem passes_finishDispatch (reactor : Reactor) :
    Passes reactor reactor.finishDispatch.1 [] none reactor.underWay := by
  obtain ⟨queue, dispatcher⟩ := finishDispatch_frees reactor
  have free : reactor.finishDispatch.1.underWay = none := by
    cases before : reactor.dispatcher <;> simp [underWay, dispatcher, before]
  refine ⟨?_, ?_⟩
  · simp [queue]
  · simp [free]

end Parts

namespace Scene

/-- The notifications that are emitted on an occasion. -/
def emits (scene : Scene) : Occasion → List Event
  | .emit events => events
  | .fire key =>
      match scene.reactor.monitor? key with
      | none => []
      | some m => m.advanceTimer.beginLoad.2.1.events
  | .arrival key result =>
      match scene.reactor.monitor? key with
      | none => []
      | some m => if m.loading then (m.finishLoad result).2.events else []
  | _ => []

/-- The notification whose delivery by the dispatcher begins on an occasion. -/
def hands (scene : Scene) : Occasion → Option Event
  | .dispatch now =>
      if scene.reactor.underWay.isSome then none else (scene.reactor.dispatch now).1.underWay
  | _ => none

/-- The notification whose delivery by the dispatcher ends on an occasion. -/
def delivers (scene : Scene) : Occasion → Option Event
  | .finishDispatch => scene.reactor.underWay
  | _ => none

/-- Whatever happens, nothing is lost, doubled or moved. -/
theorem passes_take (scene : Scene) (occasion : Occasion) :
    Passes scene.reactor (scene.take occasion).reactor (scene.emits occasion)
      (scene.hands occasion) (scene.delivers occasion) := by
  cases occasion with
  | reinit now options => exact passes_reinit scene.reactor now options
  | start now => exact passes_start scene.reactor scene.host now
  | requestStop => exact passes_requestStop scene.reactor
  | endStop =>
    simp only [take]
    split
    · rename_i drained
      exact passes_endDispatcher drained
    · exact passes_of_same rfl rfl
  | resetAll => exact passes_of_same rfl rfl
  | repeatNow =>
    simp only [take]
    split <;> exact passes_of_same rfl rfl
  | notify now event => exact passes_of_same rfl rfl
  | notified place =>
    simp only [take]
    split <;> exact passes_of_same rfl rfl
  | emit events => exact ⟨rfl, by simp [hands, delivers, take, become, Reactor.emit, underWay]⟩
  | dispatch now => exact passes_dispatch scene.reactor now
  | finishDispatch => exact passes_finishDispatch scene.reactor
  | fire key =>
    simp only [take, become, fire, emits, hands, delivers]
    cases scene.reactor.monitor? key with
    | none => exact passes_of_same rfl rfl
    | some m => exact passes_settle scene.reactor key _ _
  | arrival key result =>
    simp only [take, become, finishLoad, emits, hands, delivers]
    cases scene.reactor.monitor? key with
    | none => exact passes_of_same rfl rfl
    | some m =>
      cases loads : m.loading with
      | false => simpa [loads] using passes_of_same rfl rfl
      | true => simpa [loads] using passes_settle scene.reactor key _ _

end Scene

/-- What may happen when it takes the dispatcher time to learn that it is to end. -/
inductive Turn where
  | occasion (occasion : Occasion)
  /-- The dispatcher, which waits for a notification, learns that it is to end. -/
  | signal

/-- A session with the notifications that were emitted in it, handed over, and delivered. -/
structure Ledger where
  session : Session
  emitted : List Event
  handed : List Event
  delivered : List Event
  /-- While a stop is under way: what had been emitted when the dispatcher learned of it. -/
  known : Option (List Event)

namespace Ledger

/-- The ledger of a reactor that was just made. -/
def opening (reactor : Reactor) (host : Host) : Ledger :=
  ⟨Session.opening reactor host, [], [], [], none⟩

/-- The reactor of a ledger. -/
abbrev reactor (ledger : Ledger) : Reactor := ledger.session.reactor

/-- Whether the dispatcher may learn that it is to end, which happens once. -/
def listens (ledger : Ledger) : Bool :=
  ledger.known.isNone && ledger.reactor.dispatcher.any fun d => d.stopping && d.delivery.isNone

/-- Enters an occasion. -/
def enter (ledger : Ledger) (occasion : Occasion) : Ledger :=
  let next := ledger.session.take occasion
  { session := next
    emitted := ledger.emitted ++ ledger.session.scene.emits occasion
    handed := ledger.handed ++ (ledger.session.scene.hands occasion).toList
    delivered := ledger.delivered ++ (ledger.session.scene.delivers occasion).toList
    known := if next.stopping then ledger.known else none }

/-- Takes a turn. The dispatcher does not end before it has learned that it is to. -/
def take (ledger : Ledger) : Turn → Ledger
  | .signal => if ledger.listens then { ledger with known := some ledger.emitted } else ledger
  | .occasion .endStop => if ledger.known.isSome then ledger.enter .endStop else ledger
  | .occasion occasion => ledger.enter occasion

/-- Takes turns in their order. -/
def run (ledger : Ledger) (turns : List Turn) : Ledger := turns.foldl take ledger

variable {ledger : Ledger}

/-- What was emitted was handed over or is queued, in this order, and of what was handed over all
but the last was delivered. A dispatcher that has learned that it is to end is being stopped, and
knows of what was emitted first. -/
structure Balanced (ledger : Ledger) : Prop where
  emitted : ledger.emitted = ledger.handed ++ ledger.reactor.queue
  handed : ledger.handed = ledger.delivered ++ ledger.reactor.underWay.toList
  known : ∀ known ∈ ledger.known, ledger.session.stopping = true ∧ known <+: ledger.emitted
  phase : ∃ phase, ledger.session.InPhase phase

/-- A call that has to wait emits nothing, and hands and delivers nothing. -/
theorem passes_session (session : Session) (occasion : Occasion) :
    Passes session.reactor (session.take occasion).reactor (session.scene.emits occasion)
      (session.scene.hands occasion) (session.scene.delivers occasion) := by
  rcases session.take_eq_or occasion with taken | ⟨same, call⟩
  · rw [Session.reactor, Session.reactor, taken]
    exact session.scene.passes_take occasion
  · rw [same]
    cases occasion with
    | reinit _ _ | start _ | requestStop | resetAll => exact passes_of_same rfl rfl
    | _ => cases call

/-- What is entered keeps the balance. -/
theorem balanced_enter (balanced : Balanced ledger) (occasion : Occasion) :
    Balanced (ledger.enter occasion) := by
  obtain ⟨queue, underWay⟩ := passes_session ledger.session occasion
  refine ⟨?_, ?_, ?_, Session.inPhase_take _ occasion balanced.phase⟩
  · calc ledger.emitted ++ ledger.session.scene.emits occasion
        = ledger.handed ++ (ledger.reactor.queue ++ ledger.session.scene.emits occasion) := by
          rw [balanced.emitted, List.append_assoc]
      _ = ledger.handed ++ (ledger.session.scene.hands occasion).toList ++
            (ledger.session.take occasion).reactor.queue := by rw [queue, List.append_assoc]
  · calc ledger.handed ++ (ledger.session.scene.hands occasion).toList
        = ledger.delivered ++ (ledger.reactor.underWay.toList ++
            (ledger.session.scene.hands occasion).toList) := by
          rw [balanced.handed, List.append_assoc]
      _ = ledger.delivered ++ (ledger.session.scene.delivers occasion).toList ++
            (ledger.session.take occasion).reactor.underWay.toList := by
          rw [underWay, List.append_assoc]
  · intro known among
    cases stopping : (ledger.session.take occasion).stopping with
    | false => simp [enter, stopping] at among
    | true =>
      have before : known ∈ ledger.known := by simpa [enter, stopping] using among
      exact ⟨stopping, (balanced.known known before).2.trans (List.prefix_append _ _)⟩

/-- The dispatcher learns that it is to end while a stop is under way. -/
theorem stopping_of_listens (balanced : Balanced ledger) (listens : ledger.listens = true) :
    ledger.session.stopping = true := by
  obtain ⟨phase, fits⟩ := balanced.phase
  obtain rfl := Session.phase_of_ending fits (Bool.and_eq_true_iff.1 listens).2
  exact fits.stopping

/-- Every turn keeps the balance. -/
theorem balanced_take (balanced : Balanced ledger) (turn : Turn) : Balanced (ledger.take turn) := by
  cases turn with
  | signal =>
    simp only [take]
    split
    · rename_i listens
      have stopping := stopping_of_listens balanced listens
      refine ⟨balanced.emitted, balanced.handed, ?_, balanced.phase⟩
      intro known among
      obtain rfl := Option.mem_some_iff.1 among
      exact ⟨stopping, List.prefix_refl _⟩
    · exact balanced
  | occasion occasion =>
    cases occasion with
    | endStop =>
      simp only [take]
      split
      · exact balanced_enter balanced .endStop
      · exact balanced
    | _ => exact balanced_enter balanced _

/-- What every turn keeps is kept by every run. -/
theorem run_invariant (kept : Ledger → Prop)
    (keeps : ∀ ledger turn, kept ledger → kept (ledger.take turn)) (turns : List Turn)
    (start : kept ledger) : kept (ledger.run turns) :=
  List.foldlRecOn turns take start fun ledger before turn _ => keeps ledger turn before

/-- Nothing is queued or under way in a reactor that was just made. -/
theorem balanced_opening {options : Options} {sources : SourceRegistry}
    {registry : HandlerRegistry} {now : Moment} {reactor : Reactor}
    (made : (make options sources registry now).2 = .ok reactor) (host : Host) :
    Balanced (opening reactor host) := by
  have fits := Session.inPhase_opening made host
  have dispatcher : reactor.dispatcher = none := (Session.atRest_of_inPhase fits).dispatcher
  have queue : reactor.queue = [] := by
    obtain ⟨period, count, -, -, rfl⟩ := make_eq_ok_iff.1 made
    exact congrArg Engine.queue (engine_reinit (blank options sources registry period) now options)
  refine ⟨?_, ?_, ?_, .rest, fits⟩
  · change [] = [] ++ reactor.queue
    rw [queue]
    rfl
  · change [] = [] ++ reactor.underWay.toList
    simp [underWay, dispatcher]
  · simp [opening]

/-- A dispatcher that has learned that it is to end does so when the reactor is drained. -/
theorem stopping_take_endStop (known : ledger.known.isSome = true) :
    (ledger.take (.occasion .endStop)).session.stopping =
      (ledger.session.stopping && !ledger.reactor.isDrained) := by
  rw [take, if_pos known, enter, Session.take_of_not_call _ rfl]
  rfl

/-- A stop that ends has delivered everything. -/
theorem delivered_of_ended (balanced : Balanced ledger) (stopping : ledger.session.stopping = true)
    (ended : (ledger.take (.occasion .endStop)).session.stopping = false) :
    ∃ known, ledger.known = some known ∧ known <+: (ledger.take (.occasion .endStop)).delivered ∧
      (ledger.take (.occasion .endStop)).delivered =
        (ledger.take (.occasion .endStop)).emitted := by
  cases learned : ledger.known with
  | none => simp [take, learned, stopping] at ended
  | some known =>
    have learns : ledger.known.isSome = true := by simp [learned]
    have drained : ledger.reactor.isDrained = true := by
      rw [stopping_take_endStop learns, stopping] at ended
      simpa using ended
    have empty := empty_of_isDrained drained
    have everything : ledger.delivered = ledger.emitted := by
      rw [balanced.emitted, balanced.handed, empty.1, empty.2]
      simp
    have entered : (ledger.take (.occasion .endStop)).delivered = ledger.delivered ∧
        (ledger.take (.occasion .endStop)).emitted = ledger.emitted := by
      simp [take, learned, enter, Scene.emits, Scene.delivers]
    refine ⟨known, rfl, ?_, ?_⟩
    · rw [entered.1, everything]
      exact (balanced.known known learned).2
    · rw [entered.1, entered.2, everything]

/-- While a stop is under way, whatever neither is a call nor ends it leaves it under way, and the
dispatcher with what it knows. -/
theorem enter_of_stopping (stopping : ledger.session.stopping = true) (occasion : Occasion)
    (other : occasion.isCall = false) (goes : occasion.isSwitch = false) :
    (ledger.enter occasion).reactor = (ledger.session.scene.take occasion).reactor ∧
      (ledger.enter occasion).session.stopping = true ∧
      (ledger.enter occasion).known = ledger.known := by
  have stays : (ledger.session.take occasion).stopping = true := by
    rw [Session.take_of_not_call _ other]
    cases occasion with
    | requestStop => cases other
    | endStop => cases goes
    | _ => exact stopping
  refine ⟨?_, stays, if_pos stays⟩
  change (ledger.session.take occasion).reactor = _
  rw [Session.take_of_not_call _ other]

/-- A dispatcher that has learned of a stop and waits can work through the queue, and the stop
ends. -/
theorem exists_ended_of_waiting (stopping : ledger.session.stopping = true)
    (learned : ledger.known.isSome = true)
    (waits : ledger.reactor.dispatcher = some ⟨none, true⟩) :
    ∃ turns, (ledger.run turns).session.stopping = false := by
  induction queue : ledger.reactor.queue generalizing ledger with
  | nil =>
    have drained : ledger.reactor.isDrained = true := by simp [isDrained, queue, waits]
    refine ⟨[.occasion .endStop], ?_⟩
    change (ledger.take (.occasion .endStop)).session.stopping = false
    rw [stopping_take_endStop learned, drained]
    simp
  | cons event rest ih =>
    let busy := ledger.enter (.dispatch 0)
    obtain ⟨dispatched, going, knows⟩ := enter_of_stopping stopping (.dispatch 0) rfl rfl
    obtain ⟨finished, goes, still⟩ := enter_of_stopping going .finishDispatch rfl rfl
    obtain ⟨left, delivery, -, taken⟩ := dispatch_of_waiting waits queue 0
    obtain ⟨kept, freed⟩ := finishDispatch_frees busy.reactor
    have remaining : (busy.enter .finishDispatch).reactor.queue = rest :=
      (congrArg Reactor.queue finished).trans
        (kept.trans ((congrArg Reactor.queue dispatched).trans left))
    have waiting : (busy.enter .finishDispatch).reactor.dispatcher = some ⟨none, true⟩ := by
      have busyWith : busy.reactor.dispatcher = some ⟨some delivery, true⟩ :=
        (congrArg Reactor.dispatcher dispatched).trans taken
      rw [busyWith] at freed
      exact (congrArg Reactor.dispatcher finished).trans freed
    have learns : (busy.enter .finishDispatch).known.isSome = true := by
      rw [still, knows, learned]
    obtain ⟨turns, ended⟩ := ih goes learns waiting remaining
    exact ⟨.occasion (.dispatch 0) :: .occasion .finishDispatch :: turns, ended⟩

/-- A stop that is under way can end: its dispatcher ends the delivery under way, learns of the stop
if it has not yet, and works through the queue. -/
theorem exists_ended (balanced : Balanced ledger) (stopping : ledger.session.stopping = true) :
    ∃ turns, (ledger.run turns).session.stopping = false := by
  let free := ledger.enter .finishDispatch
  obtain ⟨phase, fits⟩ := balanced.phase
  obtain rfl := Session.phase_of_stopping fits stopping
  obtain ⟨d, present, ending⟩ : ∃ d, ledger.reactor.dispatcher = some d ∧ d.stopping = true := by
    have same : ledger.reactor.dispatcher.map (·.stopping) = some true :=
      congrArg Switches.dispatcher fits.switches
    exact Option.map_eq_some_iff.1 same
  obtain ⟨finished, going, -⟩ := enter_of_stopping stopping .finishDispatch rfl rfl
  have waits : free.reactor.dispatcher = some ⟨none, true⟩ := by
    have freed := (finishDispatch_frees ledger.reactor).2
    rw [present, Option.map_some, ending] at freed
    exact (congrArg Reactor.dispatcher finished).trans freed
  cases learned : free.known.isSome with
  | true =>
    obtain ⟨turns, ended⟩ := exists_ended_of_waiting going learned waits
    exact ⟨.occasion .finishDispatch :: turns, ended⟩
  | false =>
    have listens : free.listens = true := by simpa [Ledger.listens, waits] using learned
    let informed : Ledger := { free with known := some free.emitted }
    have learns : free.take .signal = informed := if_pos listens
    have still : informed.session.stopping = true := going
    have knows : informed.known.isSome = true := rfl
    obtain ⟨turns, ended⟩ := exists_ended_of_waiting still knows waits
    refine ⟨.occasion .finishDispatch :: .signal :: turns, ?_⟩
    change ((free.take .signal).run turns).session.stopping = false
    rw [learns]
    exact ended

/-- Whatever was called and happened since a reactor was made: the notifications that were handed
over to deliveries are the first ones that were emitted, and the queue holds the others. A stop that
is under way can end, and when it does, everything was delivered that was emitted until then, and so
before the dispatcher learned of it. -/
theorem conservation_of_run {options : Options} {sources : SourceRegistry}
    {registry : HandlerRegistry} {now : Moment} {reactor : Reactor}
    (made : (make options sources registry now).2 = .ok reactor) (host : Host)
    (turns : List Turn) :
    let ledger := (opening reactor host).run turns
    let ended := ledger.take (.occasion .endStop)
    ledger.emitted = ledger.handed ++ ledger.reactor.queue ∧
      ledger.handed = ledger.delivered ++ ledger.reactor.underWay.toList ∧
      (∀ known ∈ ledger.known, ledger.session.stopping = true ∧ known <+: ledger.emitted) ∧
      (ledger.session.stopping = true →
        (∃ more, (ledger.run more).session.stopping = false) ∧
          (ended.session.stopping = false → ∃ known, ledger.known = some known ∧
            known <+: ended.delivered ∧ ended.delivered = ended.emitted)) := by
  intro ledger ended
  have balanced : Balanced ledger :=
    run_invariant Balanced (fun _ turn before => balanced_take before turn) turns
      (balanced_opening made host)
  refine ⟨balanced.emitted, balanced.handed, balanced.known, fun stopping => ?_⟩
  exact ⟨exists_ended balanced stopping, delivered_of_ended balanced stopping⟩

/-- A reactor is stopped, started again, and stopped while its first notification of two is
delivered, for examples. -/
def busyStop : List Turn :=
  [.occasion (.start ⟨0, 0⟩), .occasion .requestStop, .signal, .occasion .endStop,
    .occasion (.start ⟨10, 10⟩), .occasion (.fire ("cpu", "graphite")),
    .occasion (.arrival ("cpu", "graphite") (.ok ⟨200, "a,1,2,60|120\nb,1,2,60|130\n"⟩)),
    .occasion (.dispatch 20), .occasion .requestStop, .occasion .finishDispatch, .signal,
    .occasion (.dispatch 30), .occasion .finishDispatch]

/-- The second stop ends after both notifications were delivered. -/
theorem conservation_of_busyStop :
    (make cpuOptions .standard .standard ⟨0, 0⟩).2 = .ok cpuReactor ∧
      ((opening cpuReactor bareHost).run busyStop).session.stopping = true ∧
      ∃ ended, ended = ((opening cpuReactor bareHost).run busyStop).take (.occasion .endStop) ∧
        ended.session.stopping = false ∧ ended.delivered.map (·.target) = ["a", "b"] ∧
        ∃ known, ((opening cpuReactor bareHost).run busyStop).known = some known ∧
          known <+: ended.delivered ∧ ended.delivered = ended.emitted := by
  have stopping : ((opening cpuReactor bareHost).run busyStop).session.stopping = true := by
    decide +kernel
  have stops := (conservation_of_run make_cpuReactor bareHost busyStop).2.2.2 stopping
  refine ⟨make_cpuReactor, stopping, _, rfl, ?_⟩
  have returned : (((opening cpuReactor bareHost).run busyStop).take
      (.occasion .endStop)).session.stopping = false := by decide +kernel
  exact ⟨returned, by decide +kernel, stops.2 returned⟩

end Ledger

end Vigil.Reactor
