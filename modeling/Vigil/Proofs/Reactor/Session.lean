import Vigil.Proofs.Reactor.Run

/-!
# One call after the other

Options are applied, and the reactor is started, stopped and reset, by calls that are made one
after the other: while a stop is under way, no other call is made. Between the calls, and while a
stop waits for its dispatcher, everything else may happen.
-/

namespace Vigil.Reactor

section Calls

variable {reactor : Reactor} {host : Host}

/-- A start of a reactor that runs does nothing. -/
theorem start_of_running (running : reactor.running = true) (host : Host) (now : Moment) :
    reactor.start host now = (reactor, host, [], .ok ()) := by
  simp [start, running]

/-- A start whose pidfile cannot be written does nothing but to fail. -/
theorem start_of_unwritten {fault : ReactorFault} (resting : reactor.running = false)
    (unwritten : reactor.writePidfile host = .error fault) (now : Moment) :
    reactor.start host now = (reactor, host, [], .error fault) := by
  simp [start, resting, unwritten]

/-- Any other start launches the reactor. -/
theorem start_of_written {written : Host} (resting : reactor.running = false)
    (wrote : reactor.writePidfile host = .ok written) (now : Moment) :
    reactor.start host now =
      (reactor.launch now, written, [info "Reactor starting" [countDetail "alerts" reactor.size]],
        .ok ()) := by
  simp [start, resting, wrote]

/-- A reactor that does not run is asked to stop for nothing. -/
theorem requestStop_of_resting (resting : reactor.running = false) :
    reactor.requestStop = (reactor, []) := by
  simp [requestStop, resting]

/-- A reactor that runs is stopped but for its dispatcher, which is asked to end. -/
theorem requestStop_of_running (running : reactor.running = true) :
    reactor.requestStop.1 =
      { reactor with
        monitors := stopMonitors reactor.monitors
        dispatcher := reactor.dispatcher.map fun d => { d with stopping := true }
        repeater := none
        running := false } := by
  simp [requestStop, running]

end Calls

/-- An occasion that is a call, which is not made while a stop is under way. -/
def Occasion.isCall : Occasion → Bool
  | .reinit _ _ | .start _ | .requestStop | .resetAll => true
  | _ => false

/-- A scene in which calls are made one after the other. -/
structure Session where
  scene : Scene
  /-- A stop is under way. -/
  stopping : Bool

namespace Session

/-- A reactor that was just made. -/
def opening (reactor : Reactor) (host : Host) : Session := ⟨Scene.opening reactor host, false⟩

/-- The reactor of a session. -/
abbrev reactor (session : Session) : Reactor := session.scene.reactor

/-- Whether a stop is under way after an occasion. A reactor that does not run is stopped at once,
and any other one when its dispatcher has ended. -/
def stopsAfter (session : Session) : Occasion → Bool
  | .requestStop => session.reactor.running
  | .endStop => session.stopping && !session.reactor.isDrained
  | _ => session.stopping

/-- Takes an occasion, unless it is a call while a stop is under way. -/
def take (session : Session) (occasion : Occasion) : Session :=
  if session.stopping && occasion.isCall then session
  else ⟨session.scene.take occasion, session.stopsAfter occasion⟩

/-- Takes occasions in their order. -/
def run (session : Session) (occasions : List Occasion) : Session := occasions.foldl take session

/-- Calls are made when no stop is under way. -/
theorem take_of_idle {session : Session} (idle : session.stopping = false) (occasion : Occasion) :
    session.take occasion = ⟨session.scene.take occasion, session.stopsAfter occasion⟩ := by
  simp [take, idle]

/-- Everything but a call may happen at any time. -/
theorem take_of_not_call (session : Session) {occasion : Occasion}
    (other : occasion.isCall = false) :
    session.take occasion = ⟨session.scene.take occasion, session.stopsAfter occasion⟩ := by
  simp [take, other]

/-- An occasion is taken as in a scene, or not at all. -/
theorem take_eq_or (session : Session) (occasion : Occasion) :
    (session.take occasion).scene = session.scene.take occasion ∨
      session.take occasion = session ∧ occasion.isCall = true := by
  by_cases waits : (session.stopping && occasion.isCall) = true
  · right
    refine ⟨by rw [take, if_pos waits], ?_⟩
    exact (Bool.and_eq_true_iff.1 waits).2
  · left
    rw [take, if_neg waits]

/-- A start that changes nothing leaves the session as it is. -/
theorem take_start_of_unchanged {session : Session} {now : Moment} {log : List LogEntry}
    {result : Except ReactorFault Unit} (idle : session.stopping = false)
    (unchanged : session.reactor.start session.scene.host now =
      (session.reactor, session.scene.host, log, result)) :
    session.take (.start now) = session := by
  simp [take_of_idle idle, Scene.take, unchanged, stopsAfter]

/-- So does a request to stop a reactor that does not run. -/
theorem take_requestStop_of_resting {session : Session} (idle : session.stopping = false)
    (resting : session.reactor.running = false) : session.take .requestStop = session := by
  obtain ⟨scene, stopping⟩ := session
  subst idle
  simp only [take_of_idle, Scene.take, requestStop_of_resting resting, stopsAfter, resting]
  rfl

/-- Occasions may be taken in parts. -/
theorem run_concat (session : Session) (occasions : List Occasion) (last : Occasion) :
    session.run (occasions ++ [last]) = (session.run occasions).take last := by
  simp [run]

/-- What every occasion keeps is kept by every run. -/
theorem run_invariant (kept : Session → Prop)
    (keeps : ∀ session occasion, kept session → kept (session.take occasion)) {session : Session}
    (occasions : List Occasion) (start : kept session) : kept (session.run occasions) :=
  List.foldlRecOn occasions take start fun session before occasion _ => keeps session occasion before

end Session

end Vigil.Reactor
