import Mathlib.Algebra.GroupWithZero.Nat
import Mathlib.Data.List.Perm.Basic
import Vigil.Proofs.Handler.Delivery
import Vigil.Proofs.Reactor.Conservation

/-!
# Deliveries are counted once

Deliveries begin and end: by the dispatcher, one at a time, and past the queue, any number of them
at once. Between a beginning and an end, options may be reloaded and handlers may change. A delivery
that began with some handlers goes on with those.

A tally keeps which deliveries began and which ended. Whatever begins ends once or is under way, and
the statistics of the reactor are the counts of the tally.
-/

namespace Vigil.Reactor

/-- The delivery of the dispatcher. -/
def current (reactor : Reactor) : Option Delivery := reactor.dispatcher.bind (·.delivery)

/-- The parts of a reactor that deliveries touch, apart from the queue. -/
structure Traffic where
  current : Option Delivery
  stats : DeliveryStats

/-- The deliveries of a reactor. -/
def traffic (reactor : Reactor) : Traffic := ⟨reactor.current, reactor.stats⟩

section Traffic

variable {reactor : Reactor}

/-- A reload leaves the delivery under way alone, whatever its end. -/
@[simp] theorem traffic_reinit (reactor : Reactor) (now : Moment) (options : Options) :
    (reactor.reinit now options).1.traffic = reactor.traffic :=
  reinit_invariant (fun after => after.traffic = reactor.traffic) rfl (fun _ => rfl) fun _ _ _ =>
    rfl

@[simp] theorem traffic_start (reactor : Reactor) (host : Host) (now : Moment) :
    (reactor.start host now).1.traffic = reactor.traffic := by
  have launched : (reactor.launch now).traffic = reactor.traffic := by
    cases dispatcher : reactor.dispatcher <;>
      simp [traffic, current, launch, dispatcher, Dispatcher.idle]
  unfold start
  split
  · rfl
  · split
    · rfl
    · exact launched

@[simp] theorem traffic_requestStop (reactor : Reactor) :
    reactor.requestStop.1.traffic = reactor.traffic := by
  unfold requestStop
  split
  · cases dispatcher : reactor.dispatcher <;> simp [traffic, current, dispatcher]
  · rfl

/-- A dispatcher that ends has no delivery. -/
theorem traffic_endDispatcher (drained : reactor.isDrained = true) :
    reactor.endDispatcher.1.traffic = reactor.traffic := by
  have free : reactor.current = none := Option.map_eq_none_iff.1 (empty_of_isDrained drained).2
  change (⟨none, reactor.stats⟩ : Traffic) = ⟨reactor.current, reactor.stats⟩
  rw [free]

@[simp] theorem traffic_fire (reactor : Reactor) (key : AlertKey) :
    (reactor.fire key).1.traffic = reactor.traffic := by
  unfold fire
  split <;> rfl

@[simp] theorem traffic_finishLoad (reactor : Reactor) (key : AlertKey) (result : FetchResult) :
    (reactor.finishLoad key result).1.traffic = reactor.traffic := by
  unfold finishLoad
  split <;> rfl

end Traffic

/-- A notification that is given to the handlers of a table. -/
structure Sending where
  table : HandlerTable
  now : Nat
  event : Event

namespace Sending

/-- The handlers that are given the notification. -/
def entries (sending : Sending) : List HandlerInstance :=
  sending.table.handlers sending.event.level

/-- The delivery that begins. -/
def delivery (sending : Sending) : Delivery := (sending.table.deliver sending.now sending.event).1

/-- What the handlers keep. -/
def receipts (sending : Sending) : List Receipt :=
  (sending.table.keepers sending.event).map fun made => ⟨made.handler.name, sending.event⟩

/-- A delivery has an attempt for each entry. -/
theorem length_attempts (sending : Sending) :
    sending.delivery.attempts.length = sending.entries.length :=
  (sending.table.notified_deliver sending.now sending.event).length_eq.symm

end Sending

/-- A delivery past the queue begins with the handlers of the reactor. -/
theorem beginDelivery_eq (reactor : Reactor) (now : Nat) (event : Event) :
    let sending : Sending := ⟨reactor.handlers, now, event⟩
    reactor.beginDelivery now event =
      ({ reactor with stats := reactor.stats.begin }, sending.delivery,
        ⟨(reactor.handlers.deliver now event).2.1, [], sending.receipts⟩) := by
  intro sending
  have kept : sending.receipts = (reactor.handlers.deliver now event).2.2 :=
    (reactor.handlers.receipts_deliver now event).symm
  rw [kept]
  rfl

/-- So does the delivery of the dispatcher, which takes the front of the queue. -/
theorem dispatch_of_front {reactor : Reactor} {stopping : Bool} {event : Event} {rest : List Event}
    (waits : reactor.dispatcher = some ⟨none, stopping⟩) (queue : reactor.queue = event :: rest)
    (now : Nat) :
    let sending : Sending := ⟨reactor.handlers, now, event⟩
    reactor.dispatch now =
      ({ reactor with
          queue := rest
          stats := reactor.stats.begin
          dispatcher := some ⟨some sending.delivery, stopping⟩ },
        ⟨(reactor.handlers.deliver now event).2.1, [], sending.receipts⟩) := by
  intro sending
  unfold dispatch
  rw [waits, queue]
  simp only
  rw [beginDelivery_eq]

namespace Scene

/-- The deliveries that began and did not end: the one of the dispatcher, and those past the
queue. -/
def underWay (scene : Scene) : List Delivery := scene.reactor.current.toList ++ scene.deliveries

/-- The number of attempts that are under way. -/
def pending (scene : Scene) : Nat := (scene.underWay.map (·.attempts.length)).sum

/-- The notification that handlers are given on an occasion, with the table at that time. -/
def begins (scene : Scene) : Occasion → Option Sending
  | .notify now event => some ⟨scene.reactor.handlers, now, event⟩
  | .dispatch now =>
      (scene.hands (.dispatch now)).map fun event => ⟨scene.reactor.handlers, now, event⟩
  | _ => none

/-- The delivery that ends on an occasion. -/
def ends (scene : Scene) : Occasion → Option Delivery
  | .notified place => scene.deliveries[place]?
  | .finishDispatch => scene.reactor.current
  | _ => none

/-- What handlers keep on an occasion. -/
def receipts (scene : Scene) : Occasion → List Receipt
  | .notify now event => (scene.reactor.beginDelivery now event).2.2.receipts
  | .dispatch now => (scene.reactor.dispatch now).2.receipts
  | .fire key => (scene.reactor.fire key).2.receipts
  | _ => []

/-- What was under way goes on, with what begins and without what ends, and both are counted. -/
structure Carries (before after : Scene) (begun : Option Sending) (ended : Option Delivery)
    (receipts : List Receipt) : Prop where
  stats : after.reactor.stats =
    before.reactor.stats.add begun.toList.length (ended.toList.flatMap (·.attempts))
  underWay : (before.underWay ++ begun.toList.map (·.delivery)).Perm
    (ended.toList ++ after.underWay)
  receipts : receipts = begun.toList.flatMap (·.receipts)

variable {scene : Scene}

/-- Nothing begins or ends where the deliveries stay as they are. -/
theorem carries_of_same {after : Scene} (traffic : after.reactor.traffic = scene.reactor.traffic)
    (deliveries : after.deliveries = scene.deliveries) : Carries scene after none none [] := by
  simp only [Reactor.traffic, Traffic.mk.injEq] at traffic
  obtain ⟨current, stats⟩ := traffic
  refine ⟨by simpa using stats, ?_, rfl⟩
  simp [underWay, current, deliveries]

/-- A delivery past the queue joins those that are under way. -/
theorem carries_notify (scene : Scene) (now : Nat) (event : Event) :
    Carries scene (scene.take (.notify now event)) (scene.begins (.notify now event)) none
      (scene.receipts (.notify now event)) := by
  simp only [take, begins, receipts, beginDelivery_eq]
  refine ⟨DeliveryStats.begin_eq_add _, ?_, by simp⟩
  simp [underWay, current]

/-- A delivery past the queue that ends was under way. -/
theorem carries_notified (scene : Scene) (place : Nat) :
    Carries scene (scene.take (.notified place)) none (scene.ends (.notified place)) [] := by
  simp only [take, ends]
  cases found : scene.deliveries[place]? with
  | none => exact carries_of_same rfl rfl
  | some delivery =>
    obtain ⟨inside, rfl⟩ := List.getElem?_eq_some_iff.1 found
    refine ⟨by simpa [finishDelivery] using DeliveryStats.countAll_eq_add _ _, ?_, rfl⟩
    have taken := (List.getElem_cons_eraseIdx_perm inside).symm
    have joined := (taken.append_left scene.reactor.current.toList).trans List.perm_middle
    simpa [underWay, current, finishDelivery] using joined

/-- The dispatcher begins a delivery if it has none and a notification is queued. -/
theorem carries_dispatch (scene : Scene) (now : Nat) :
    Carries scene (scene.take (.dispatch now)) (scene.begins (.dispatch now)) none
      (scene.receipts (.dispatch now)) := by
  have idles (same : scene.reactor.dispatch now = (scene.reactor, .none))
      (hands : scene.hands (.dispatch now) = none) :
      Carries scene (scene.take (.dispatch now)) (scene.begins (.dispatch now)) none
        (scene.receipts (.dispatch now)) := by
    simp only [take, begins, receipts, hands, same]
    exact carries_of_same rfl rfl
  rcases dispatcher : scene.reactor.dispatcher with - | ⟨- | delivery, stopping⟩
  · exact idles (by simp [dispatch, dispatcher])
      (by simp [hands, dispatch, dispatcher, Reactor.underWay])
  · cases queue : scene.reactor.queue with
    | nil =>
      exact idles (by simp [dispatch, dispatcher, queue])
        (by simp [hands, dispatch, dispatcher, queue, Reactor.underWay])
    | cons event rest =>
      have front := dispatch_of_front dispatcher queue now
      have hands : scene.hands (.dispatch now) = some event := by
        simp [hands, Reactor.underWay, dispatcher, front, Sending.delivery, HandlerTable.deliver]
      simp only [take, become, begins, receipts, hands, front]
      refine ⟨DeliveryStats.begin_eq_add _, ?_, by simp⟩
      simp [underWay, current, dispatcher]
  · exact idles (by simp [dispatch, dispatcher]) (by simp [hands, dispatcher, Reactor.underWay])

/-- The delivery of the dispatcher that ends was under way. -/
theorem carries_finishDispatch (scene : Scene) :
    Carries scene (scene.take .finishDispatch) none (scene.ends .finishDispatch) [] := by
  simp only [take, become, ends]
  rcases dispatcher : scene.reactor.dispatcher with - | ⟨- | delivery, stopping⟩
  · simpa [finishDispatch, current, dispatcher] using carries_of_same rfl rfl
  · simpa [finishDispatch, current, dispatcher] using carries_of_same rfl rfl
  · refine ⟨?_, ?_, rfl⟩
    · simpa [finishDispatch, finishDelivery, current, dispatcher] using
        DeliveryStats.countAll_eq_add _ _
    · simp [underWay, finishDispatch, finishDelivery, current, dispatcher]

/-- Whatever happens, deliveries are carried on and counted once. -/
theorem carries_take (scene : Scene) (occasion : Occasion) :
    Carries scene (scene.take occasion) (scene.begins occasion) (scene.ends occasion)
      (scene.receipts occasion) := by
  cases occasion with
  | reinit now options => exact carries_of_same (traffic_reinit scene.reactor now options) rfl
  | start now => exact carries_of_same (traffic_start scene.reactor scene.host now) rfl
  | requestStop => exact carries_of_same (traffic_requestStop scene.reactor) rfl
  | endStop =>
    simp only [take]
    split
    · rename_i drained
      exact carries_of_same (traffic_endDispatcher drained) rfl
    · exact carries_of_same rfl rfl
  | resetAll => exact carries_of_same rfl rfl
  | repeatNow =>
    simp only [take]
    split <;> exact carries_of_same rfl rfl
  | notify now event => exact carries_notify scene now event
  | notified place => exact carries_notified scene place
  | emit events => exact carries_of_same rfl rfl
  | dispatch now => exact carries_dispatch scene now
  | finishDispatch => exact carries_finishDispatch scene
  | fire key =>
    have nothing : scene.receipts (.fire key) = [] := by
      simp only [receipts, fire]
      split <;> rfl
    rw [nothing]
    exact carries_of_same (traffic_fire scene.reactor key) rfl
  | arrival key result =>
    simp only [take]
    split
    · exact carries_of_same (traffic_finishLoad scene.reactor key result) rfl
    · exact carries_of_same rfl rfl

end Scene

/-- What may happen when handlers do not always reply alike: a handler that replies to a
notification in another way than before is another handler. -/
inductive Incident where
  | occasion (occasion : Occasion)
  /-- The handlers are others from now on. -/
  | swap (table : HandlerTable)

/-- A scene with the notifications that were given to handlers in it, the deliveries that ended, and
what handlers kept. -/
structure Tally where
  scene : Scene
  begun : List Sending
  ended : List Delivery
  receipts : List Receipt

namespace Tally

/-- The tally of a scene from which on deliveries are counted. -/
def opening (scene : Scene) : Tally := ⟨scene, [], [], []⟩

/-- Takes an incident. -/
def take (tally : Tally) : Incident → Tally
  | .swap table =>
      { tally with scene := tally.scene.become { tally.scene.reactor with handlers := table } }
  | .occasion occasion =>
      { scene := tally.scene.take occasion
        begun := tally.begun ++ (tally.scene.begins occasion).toList
        ended := tally.ended ++ (tally.scene.ends occasion).toList
        receipts := tally.receipts ++ tally.scene.receipts occasion }

/-- Takes incidents in their order. -/
def run (tally : Tally) (incidents : List Incident) : Tally := incidents.foldl take tally

/-- The statistics of the reactor. -/
abbrev stats (tally : Tally) : DeliveryStats := tally.scene.reactor.stats

/-- Since the start, what was under way or began has ended or is under way, and was counted. -/
structure Agrees (start : Scene) (tally : Tally) : Prop where
  stats : tally.stats =
    start.reactor.stats.add tally.begun.length (tally.ended.flatMap (·.attempts))
  underWay : (start.underWay ++ tally.begun.map (·.delivery)).Perm
    (tally.ended ++ tally.scene.underWay)
  receipts : tally.receipts = tally.begun.flatMap (·.receipts)

variable {start : Scene} {tally : Tally}

/-- Each incident is entered as it is. -/
theorem agrees_take (agrees : Agrees start tally) (incident : Incident) :
    Agrees start (tally.take incident) := by
  cases incident with
  | swap table => exact ⟨agrees.stats, agrees.underWay, agrees.receipts⟩
  | occasion occasion =>
    have carries := tally.scene.carries_take occasion
    refine ⟨?_, ?_, ?_⟩
    · simp only [stats, take, carries.stats]
      rw [show tally.scene.reactor.stats = _ from agrees.stats, DeliveryStats.add_add]
      simp
    · have before := agrees.underWay.append_right
        ((tally.scene.begins occasion).toList.map (·.delivery))
      have after := carries.underWay.append_left tally.ended
      simp only [List.append_assoc] at before
      simpa only [take, List.map_append, List.append_assoc] using before.trans after
    · simp only [take, agrees.receipts, carries.receipts, List.flatMap_append]

/-- So every run is. -/
theorem agrees_run (start : Scene) (incidents : List Incident) :
    Agrees start ((opening start).run incidents) := by
  have nothing : Agrees start (opening start) := ⟨rfl, by simp [opening], rfl⟩
  exact List.foldlRecOn incidents take nothing fun _ before incident _ =>
    agrees_take before incident

/-- Every entry that was given a notification is counted as a success, as a failure, or is under
way. -/
theorem sum_of_agrees (agrees : Agrees start tally) :
    tally.stats.delivered + tally.stats.failed + tally.scene.pending =
      start.reactor.stats.delivered + start.reactor.stats.failed + start.pending +
        (tally.begun.map (·.entries.length)).sum := by
  have lengths : tally.begun.map (·.delivery.attempts.length) =
      tally.begun.map (·.entries.length) :=
    List.map_congr_left fun sending _ => sending.length_attempts
  have carried : start.pending + (tally.begun.map (·.entries.length)).sum =
      (tally.ended.map (·.attempts.length)).sum + tally.scene.pending := by
    have sums := (agrees.underWay.map (·.attempts.length)).sum_nat
    simpa only [Scene.pending, List.map_append, List.map_map, Function.comp_def, lengths,
      List.sum_append] using sums
  have counted := DeliveryStats.add_sum start.reactor.stats tally.begun.length
    (tally.ended.flatMap (·.attempts))
  rw [← agrees.stats, List.length_flatMap] at counted
  omega

/-- Whatever happens, whichever handlers there are and however they reply: a notification that is
delivered is given once to each entry of the list that its level has at that time, and to no other
handler, and what becomes of an entry is decided by its own reply. Each delivery that began ends
once or is under way. The statistics count the notifications whose deliveries began, and the
successes and failures of those that ended; where none is under way, these are as many as the
entries of all lists that were notified. -/
theorem deliveries_of_run (start : Scene) (incidents : List Incident) :
    let tally := (opening start).run incidents
    let outcomes := tally.ended.flatMap (·.attempts)
    (∀ sending ∈ tally.begun,
        List.Forall₂ (Notified sending.table.limit sending.now sending.event) sending.entries
          sending.delivery.attempts) ∧
      tally.receipts = tally.begun.flatMap (·.receipts) ∧
      (start.underWay ++ tally.begun.map (·.delivery)).Perm
        (tally.ended ++ tally.scene.underWay) ∧
      tally.stats.events = start.reactor.stats.events + tally.begun.length ∧
      tally.stats.delivered =
        start.reactor.stats.delivered + outcomes.countP (·.succeeded) ∧
      tally.stats.failed =
        start.reactor.stats.failed + outcomes.countP (fun attempt => !attempt.succeeded) ∧
      tally.stats.delivered + tally.stats.failed + tally.scene.pending =
        start.reactor.stats.delivered + start.reactor.stats.failed + start.pending +
          (tally.begun.map (·.entries.length)).sum := by
  intro tally outcomes
  have agrees : Agrees start tally := agrees_run start incidents
  refine ⟨fun sending _ => sending.table.notified_deliver sending.now sending.event,
    agrees.receipts, agrees.underWay, congrArg DeliveryStats.events agrees.stats,
    congrArg DeliveryStats.delivered agrees.stats, congrArg DeliveryStats.failed agrees.stats,
    sum_of_agrees agrees⟩

/-- Handlers of which one takes a notification, one fails and one never answers, for examples. -/
def mixedHandlers : HandlerTable where
  byLevel := Table.empty.set .critical
    [⟨0, ⟨"taker", fun _ => ⟨[], true, some 0, .ok ()⟩⟩⟩,
      ⟨1, ⟨"failer", fun _ => ⟨[], false, some 7, .error (.status 500)⟩⟩⟩,
      ⟨2, ⟨"sleeper", fun _ => ⟨[], true, none, .ok ()⟩⟩⟩]
  limit := ⟨5000000000⟩

/-- Options are reloaded during the first of two deliveries, for examples. -/
def reloadedDelivery : List Incident :=
  [.occasion (.start ⟨0, 0⟩), .occasion (.fire ("cpu", "graphite")),
    .occasion (.arrival ("cpu", "graphite") (.ok ⟨200, "a,1,2,60|120\nb,1,2,60|130\n"⟩)),
    .swap mixedHandlers, .occasion (.dispatch 20), .occasion (.reinit ⟨30, 30⟩ cpuOptions),
    .occasion .finishDispatch, .occasion (.dispatch 6000), .occasion .finishDispatch]

/-- The first delivery has its three handlers, each with an attempt of its own, and the second one
has the handler of the options. -/
theorem deliveries_of_reloadedDelivery :
    ∃ tally, tally = (opening (.opening cpuReactor bareHost)).run reloadedDelivery ∧
      (∃ sending ∈ tally.begun,
        sending.entries.map (·.handler.name) = ["taker", "failer", "sleeper"] ∧
        sending.delivery.attempts.map (·.succeeded) = [true, false, false] ∧
        List.Forall₂ (Notified sending.table.limit sending.now sending.event) sending.entries
          sending.delivery.attempts) ∧
      tally.begun.map (·.entries.length) = [3, 1] ∧
      tally.receipts.map (·.handler) = ["taker", "sleeper"] ∧
      tally.stats = ⟨2, 2, 2⟩ ∧ tally.scene.pending = 0 ∧
      tally.stats.delivered + tally.stats.failed = (tally.begun.map (·.entries.length)).sum := by
  have first : ((opening (.opening cpuReactor bareHost)).run reloadedDelivery).begun.head?.map
      (fun sending => (sending.entries.map (·.handler.name),
        sending.delivery.attempts.map (·.succeeded))) =
        some (["taker", "failer", "sleeper"], [true, false, false]) := by decide +kernel
  have settled :
      ((opening (.opening cpuReactor bareHost)).run reloadedDelivery).scene.pending = 0 := by
    decide +kernel
  have fresh : (Scene.opening cpuReactor bareHost).reactor.stats = .zero ∧
      (Scene.opening cpuReactor bareHost).pending = 0 := by decide +kernel
  obtain ⟨notified, -, -, -, -, -, counts⟩ :=
    deliveries_of_run (.opening cpuReactor bareHost) reloadedDelivery
  rw [settled, fresh.1, fresh.2] at counts
  refine ⟨_, rfl, ?_, by decide +kernel, by decide +kernel, by decide +kernel, settled, ?_⟩
  · obtain ⟨sending, isFirst, parts⟩ := Option.map_eq_some_iff.1 first
    obtain ⟨names, outcomes⟩ := Prod.mk.inj parts
    have among := List.mem_of_mem_head? isFirst
    exact ⟨sending, among, names, outcomes, notified sending among⟩
  · simpa only [DeliveryStats.zero, Nat.add_zero, Nat.zero_add] using counts

end Tally

end Vigil.Reactor
