import Vigil.Proofs.Files
import Vigil.Proofs.Reactor.LifeCycle

/-!
# The pidfile

A start writes the pidfile that the options name, and a stop that ends removes the one that the
options name then. Nothing else touches the files. As long as the options name the same pidfile at
the end of a stop as at the start before it, a reactor at rest has left nothing behind: every
pidfile that a start wrote is gone, and all other files are as they were.
-/

namespace Vigil.Reactor

/-- The text of a pidfile: the number of the process. -/
def pidfileText (host : Host) : List UInt8 :=
  (String.ofList (Decimal.numeral host.processId)).toUTF8.toList

variable {reactor : Reactor} {first host next : Host} {written : List String}
  {held : Option String}

/-- The files after starts and stops: of the pidfiles that were written the one that is held has the
number of the process, all others are gone, and no other file has changed. -/
structure Accounted (first host : Host) (written : List String) (held : Option String) :
    Prop where
  directory : host.directory = first.directory
  processId : host.processId = first.processId
  own : ∀ path ∈ held, path ∈ written ∧
    host.files.resolve first.directory path = some (Files.target first.directory path)
  there : ∀ path ∈ held,
    host.files.contents.get? (Files.target first.directory path) = some (pidfileText first)
  gone : ∀ path ∈ written,
    (∀ other ∈ held, Files.target first.directory other ≠ Files.target first.directory path) →
      host.files.contents.get? (Files.target first.directory path) = none
  others : ∀ place, (∀ path ∈ written, Files.target first.directory path ≠ place) →
    host.files.contents.get? place = first.files.contents.get? place

/-- In the beginning no pidfile was written. -/
theorem accounted_refl (host : Host) : Accounted host host [] none := by
  refine ⟨rfl, rfl, ?_, ?_, ?_, fun _ _ => rfl⟩ <;> simp

/-- A start that writes its pidfile holds it. -/
theorem accounted_writePidfile (before : Accounted first host written none)
    (wrote : reactor.writePidfile host = .ok next) :
    Accounted first next (written ++ reactor.options.pidfile.toList) reactor.options.pidfile := by
  unfold writePidfile at wrote
  cases named : reactor.options.pidfile with
  | none =>
    rw [named] at wrote
    cases wrote
    simpa using before
  | some path =>
    rw [named] at wrote
    dsimp only at wrote
    split at wrote
    · rename_i files success
      cases wrote
      rw [before.directory, before.processId] at success
      obtain ⟨leads, contents⟩ := Files.write?_eq_some success
      refine ⟨before.directory, before.processId, ?_, ?_, ?_, ?_⟩
      · intro own here
        obtain rfl := Option.mem_some_iff.1 here
        exact ⟨by simp, leads⟩
      · intro own here
        obtain rfl := Option.mem_some_iff.1 here
        rw [contents, if_pos rfl]
        rfl
      · intro past among elsewhere
        have other := elsewhere path rfl
        have earlier : past ∈ written := by
          rcases List.mem_append.1 among with earlier | last
          · exact earlier
          · exact absurd (congrArg _ (List.mem_singleton.1 last)).symm other
        rw [contents, if_neg other.symm]
        exact before.gone past earlier nofun
      · intro place elsewhere
        have other := elsewhere path (List.mem_append_right _ (List.mem_singleton_self path))
        rw [contents, if_neg other.symm]
        exact before.others place fun past among =>
          elsewhere past (List.mem_append_left _ among)
    · cases wrote

/-- A stop that ends removes the pidfile that is held, if the options name it still. -/
theorem accounted_removePidfile (before : Accounted first host written held)
    (named : reactor.options.pidfile = held) :
    Accounted first (reactor.removePidfile host).1 written none := by
  unfold removePidfile
  rw [named]
  cases held with
  | none => exact before
  | some path =>
    have leads := (before.own path rfl).2
    have there : host.files.contents.contains (Files.target first.directory path) = true := by
      rw [Table.contains, before.there path rfl]
      rfl
    obtain ⟨files, success, contents⟩ := Files.exists_remove? leads there
    dsimp only
    rw [before.directory, success]
    refine ⟨rfl, before.processId, by rintro _ ⟨⟩, by rintro _ ⟨⟩, ?_, ?_⟩
    · intro past among _
      rw [contents]
      split
      · rfl
      · rename_i elsewhere
        refine before.gone past among fun other here => ?_
        obtain rfl := Option.mem_some_iff.1 here
        exact Ne.symm elsewhere
    · intro place elsewhere
      have other := elsewhere path (before.own path rfl).1
      rw [contents, if_neg other.symm]
      exact before.others place elsewhere

/-- Only starts and the ends of stops touch the files. -/
theorem Scene.host_take (scene : Scene) {occasion : Occasion}
    (other : occasion.isSwitch = false) : (scene.take occasion).host = scene.host := by
  cases occasion with
  | start now => cases other
  | requestStop => cases other
  | endStop => cases other
  | repeatNow | notified place | arrival key result =>
    simp only [take]
    split <;> rfl
  | _ => rfl

namespace Session

variable {session : Session}

/-- The reactor runs, or a stop is under way. -/
def busy (session : Session) : Bool := session.reactor.running || session.stopping

/-- Whatever happens but a start or the end of a stop, the reactor stays busy or at rest, and the
files stay as they are. -/
theorem busy_take {occasion : Occasion} (starts : ∀ now, occasion ≠ .start now)
    (ends : occasion ≠ .endStop) :
    (session.take occasion).busy = session.busy ∧
      (session.take occasion).scene.host = session.scene.host := by
  by_cases waits : (session.stopping && occasion.isCall) = true
  · rw [take, if_pos waits]
    exact ⟨rfl, rfl⟩
  · rw [take, if_neg waits]
    cases switch : occasion.isSwitch with
    | false =>
      have running : (session.scene.take occasion).reactor.running = session.reactor.running :=
        congrArg Switches.running (Scene.switches_take session.scene switch)
      have stopping : session.stopsAfter occasion = session.stopping := by
        cases occasion with
        | requestStop | endStop => cases switch
        | _ => rfl
      refine ⟨?_, Scene.host_take session.scene switch⟩
      simp only [busy, reactor, running, stopping]
    | true =>
      cases occasion with
      | start now => exact absurd rfl (starts now)
      | endStop => exact absurd rfl ends
      | requestStop =>
        have idle : session.stopping = false := by simpa [Occasion.isCall] using waits
        refine ⟨?_, rfl⟩
        cases running : session.reactor.running with
        | false =>
          simp only [busy, Scene.take, Scene.become, requestStop_of_resting running, stopsAfter,
            running, idle]
          exact congrArg (· || false) running
        | true => simp [busy, stopsAfter, running]
      | _ => cases switch

/-- A start changes nothing, or launches a reactor at rest that has written its pidfile. -/
theorem take_start_eq_or (session : Session) (now : Moment) :
    session.take (.start now) = session ∨
      session.busy = false ∧ (session.take (.start now)).busy = true ∧
        session.reactor.writePidfile session.scene.host =
          .ok (session.take (.start now)).scene.host := by
  cases stopping : session.stopping with
  | true => exact .inl (by simp [take, stopping, Occasion.isCall])
  | false =>
    cases running : session.reactor.running with
    | true => exact .inl (take_start_of_unchanged stopping (start_of_running running _ now))
    | false =>
      cases wrote : session.reactor.writePidfile session.scene.host with
      | error fault =>
        exact .inl (take_start_of_unchanged stopping (start_of_unwritten running wrote now))
      | ok written =>
        right
        rw [take_of_idle stopping]
        simp [busy, running, stopping, Scene.take, start_of_written running wrote, launch]

/-- The end of a stop changes nothing, or brings the reactor to rest and removes the pidfile. -/
theorem take_endStop_eq_or {phase : Phase} (fits : session.InPhase phase) :
    session.take .endStop = session ∨
      session.busy = true ∧ (session.take .endStop).busy = false ∧
        (session.take .endStop).scene.host =
          (session.reactor.removePidfile session.scene.host).1 := by
  rw [take_of_not_call session rfl]
  cases drained : session.reactor.isDrained with
  | false => exact .inl (by simp [Scene.take, stopsAfter, drained])
  | true =>
    right
    obtain rfl := phase_of_isDrained fits drained
    have running : session.reactor.running = false := running_of_inPhase fits
    have stopping : session.stopping = true := fits.stopping
    simp [busy, stopping, Scene.take, drained, stopsAfter, endDispatcher, running]

end Session

/-- A session with the pidfiles that starts wrote in it. -/
structure Custody where
  session : Session
  /-- The pidfiles that starts wrote, one after the other. -/
  written : List String
  /-- The pidfile that was written by the start of the reactor that is busy. -/
  held : Option String

namespace Custody

/-- The custody of a reactor that was just made. -/
def opening (reactor : Reactor) (host : Host) : Custody := ⟨Session.opening reactor host, [], none⟩

/-- Enters an occasion. A reactor that becomes busy has written the pidfile of its options, and one
that comes to rest holds none. -/
def enter (custody : Custody) (occasion : Occasion) : Custody :=
  let next := custody.session.take occasion
  let named := custody.session.reactor.options.pidfile
  match custody.session.busy, next.busy with
  | false, true => ⟨next, custody.written ++ named.toList, named⟩
  | true, false => ⟨next, custody.written, none⟩
  | _, _ => ⟨next, custody.written, custody.held⟩

/-- Enters occasions in their order. -/
def run (custody : Custody) (occasions : List Occasion) : Custody := occasions.foldl enter custody

/-- Whenever the reactor comes to rest, its options name the pidfile that its start wrote. -/
def Steady (custody : Custody) : List Occasion → Prop
  | [] => True
  | occasion :: rest =>
      (custody.session.busy = true → (custody.session.take occasion).busy = false →
        custody.session.reactor.options.pidfile = custody.held) ∧
      (custody.enter occasion).Steady rest

/-- Whether occasions are steady can be found out. -/
instance decidableSteady : (custody : Custody) → (occasions : List Occasion) →
    Decidable (custody.Steady occasions)
  | _, [] => isTrue trivial
  | custody, occasion :: rest =>
      have := decidableSteady (custody.enter occasion) rest
      inferInstanceAs (Decidable (_ ∧ _))

variable {custody : Custody} {occasions : List Occasion}

/-- The files are accounted for, and a reactor at rest holds no pidfile. -/
structure Kept (first : Host) (custody : Custody) : Prop where
  phase : ∃ phase, custody.session.InPhase phase
  rest : custody.session.busy = false → custody.held = none
  files : Accounted first custody.session.scene.host custody.written custody.held

/-- The session goes on as it would without its custody. -/
theorem session_enter (custody : Custody) (occasion : Occasion) :
    (custody.enter occasion).session = custody.session.take occasion := by
  unfold enter
  dsimp only
  split <;> rfl

/-- So it is in a run. -/
theorem session_run (custody : Custody) (occasions : List Occasion) :
    (custody.run occasions).session = custody.session.run occasions := by
  induction occasions generalizing custody with
  | nil => rfl
  | cons occasion rest ih => exact (ih (custody.enter occasion)).trans (by rw [session_enter]; rfl)

/-- While the reactor stays busy or at rest, nothing is written or given back. -/
theorem enter_of_same {occasion : Occasion}
    (same : (custody.session.take occasion).busy = custody.session.busy) :
    custody.enter occasion =
      ⟨custody.session.take occasion, custody.written, custody.held⟩ := by
  unfold enter
  dsimp only
  split
  · rename_i before after
    rw [before, after] at same
    cases same
  · rename_i before after
    rw [before, after] at same
    cases same
  · rfl

/-- An occasion that leaves the session as it is leaves the custody as it is. -/
theorem enter_of_unchanged {occasion : Occasion}
    (unchanged : custody.session.take occasion = custody.session) :
    custody.enter occasion = custody := by
  rw [enter_of_same (by rw [unchanged]), unchanged]

/-- Every occasion keeps the files accounted for, if the pidfile that is held is still named when
the reactor comes to rest. Only a start and the end of a stop may touch the files. -/
theorem kept_enter (kept : Kept first custody) (occasion : Occasion)
    (steady : custody.session.busy = true → (custody.session.take occasion).busy = false →
      custody.session.reactor.options.pidfile = custody.held) :
    Kept first (custody.enter occasion) := by
  obtain ⟨phase, fits⟩ := kept.phase
  have next := Session.inPhase_take _ occasion kept.phase
  by_cases starts : ∃ now, occasion = .start now
  · obtain ⟨now, rfl⟩ := starts
    rcases custody.session.take_start_eq_or now with unchanged | ⟨resting, launched, wrote⟩
    · rwa [enter_of_unchanged unchanged]
    · have unheld : Accounted first custody.session.scene.host custody.written none :=
        kept.rest resting ▸ kept.files
      have entered : custody.enter (.start now) = ⟨custody.session.take (.start now),
          custody.written ++ custody.session.reactor.options.pidfile.toList,
          custody.session.reactor.options.pidfile⟩ := by
        simp only [enter, resting, launched]
      rw [entered]
      refine ⟨next, ?_, accounted_writePidfile unheld wrote⟩
      intro rest
      rw [launched] at rest
      cases rest
  · by_cases ends : occasion = .endStop
    · subst ends
      rcases Session.take_endStop_eq_or fits with unchanged | ⟨busy, rested, removed⟩
      · rwa [enter_of_unchanged unchanged]
      · have entered : custody.enter .endStop =
            ⟨custody.session.take .endStop, custody.written, none⟩ := by
          simp only [enter, busy, rested]
        rw [entered]
        refine ⟨next, fun _ => rfl, ?_⟩
        rw [removed]
        exact accounted_removePidfile kept.files (steady busy rested)
    · obtain ⟨same, untouched⟩ := Session.busy_take (fun now here => starts ⟨now, here⟩) ends
      rw [enter_of_same same]
      refine ⟨next, fun rest => kept.rest (same ▸ rest), ?_⟩
      rw [untouched]
      exact kept.files

/-- So it is in a run. -/
theorem kept_run (kept : Kept first custody) (steady : custody.Steady occasions) :
    Kept first (custody.run occasions) := by
  induction occasions generalizing custody with
  | nil => exact kept
  | cons occasion rest ih => exact ih (kept_enter kept occasion steady.1) steady.2

/-- Whatever was called and happened since a reactor was made, and as long as the options named the
same pidfile at the end of each stop as at the start before it: the reactor that is busy has its
pidfile, every other pidfile that a start wrote is gone, and all other files are as they were. A
reactor at rest holds no pidfile, so that all of them are gone. -/
theorem pidfile_of_run {options : Options} {sources : SourceRegistry}
    {registry : HandlerRegistry} {now : Moment} {reactor : Reactor}
    (made : (make options sources registry now).2 = .ok reactor) (host : Host)
    (occasions : List Occasion) (steady : (opening reactor host).Steady occasions) :
    let custody := (opening reactor host).run occasions
    let files := custody.session.scene.host.files
    custody.session = (Session.opening reactor host).run occasions ∧
      (custody.session.busy = false → custody.held = none) ∧
      (∀ path ∈ custody.held, path ∈ custody.written ∧
        files.read? host.directory path = some (pidfileText host)) ∧
      (∀ path ∈ custody.written,
        (∀ own ∈ custody.held, Files.target host.directory own ≠ Files.target host.directory path) →
          files.read? host.directory path = none) ∧
      ∀ place, (∀ path ∈ custody.written, Files.target host.directory path ≠ place) →
        files.contents.get? place = host.files.contents.get? place := by
  intro custody files
  have start : Kept host (opening reactor host) :=
    ⟨⟨.rest, Session.inPhase_opening made host⟩, fun _ => rfl, accounted_refl host⟩
  obtain ⟨-, rest, kept⟩ := kept_run start steady
  refine ⟨session_run _ occasions, rest, ?_, ?_, kept.others⟩
  · intro path held
    obtain ⟨among, leads⟩ := kept.own path held
    refine ⟨among, ?_⟩
    rw [Files.read?, leads]
    exact kept.there path held
  · intro path among elsewhere
    exact Files.read?_eq_none (kept.gone path among elsewhere)

/-- The options of the reactor with one alert, and a pidfile, for examples. -/
def pidfileOptions (path : String) : Options := { cpuOptions with pidfile := some path }

/-- A reactor is started with a pidfile, reloaded, stopped, and started with another one. -/
def handover : List Occasion :=
  [.reinit ⟨0, 0⟩ (pidfileOptions "a.pid"), .start ⟨0, 0⟩,
    .reinit ⟨10, 10⟩ (pidfileOptions "a.pid"), .requestStop, .endStop,
    .reinit ⟨20, 20⟩ (pidfileOptions "./b.pid"), .start ⟨20, 20⟩]

/-- Of two pidfiles, the second one is there after the second start. -/
theorem pidfile_of_handover :
    (make cpuOptions .standard .standard ⟨0, 0⟩).2 = .ok cpuReactor ∧
      (opening cpuReactor bareHost).Steady handover ∧
      let files := ((Session.opening cpuReactor bareHost).run handover).scene.host.files
      files.read? [] "./b.pid" = some (pidfileText bareHost) ∧ files.read? [] "a.pid" = none := by
  have steady : (opening cpuReactor bareHost).Steady handover := by decide +kernel
  obtain ⟨same, -, held, gone, -⟩ := pidfile_of_run make_cpuReactor bareHost handover steady
  have own : ((opening cpuReactor bareHost).run handover).held = some "./b.pid" := by
    decide +kernel
  have past : "a.pid" ∈ ((opening cpuReactor bareHost).run handover).written := by decide +kernel
  rw [same] at held gone
  refine ⟨make_cpuReactor, steady, (held _ own).2, gone "a.pid" past fun other here => ?_⟩
  rw [own] at here
  obtain rfl := Option.mem_some_iff.1 here
  decide +kernel

/-- A host with a file of its own, for examples. -/
def otherHost : Host :=
  ⟨(Files.withDirectory []).place [] "c.pid" "kept".toUTF8.toList, [], 1⟩

/-- A stop removes the pidfile that the options name when it ends. After a reload of a running
reactor this may be a file that no start wrote, and the pidfile that its start wrote stays. -/
theorem stop_removes_other_pidfile :
    (make cpuOptions .standard .standard ⟨0, 0⟩).2 = .ok cpuReactor ∧
      let custody := (opening cpuReactor otherHost).run
        [.reinit ⟨0, 0⟩ (pidfileOptions "b.pid"), .start ⟨0, 0⟩,
          .reinit ⟨10, 10⟩ (pidfileOptions "c.pid"), .requestStop, .endStop]
      let files := custody.session.scene.host.files
      custody.session.busy = false ∧ custody.written = ["b.pid"] ∧
        files.read? [] "b.pid" = some (pidfileText otherHost) ∧
        otherHost.files.read? [] "c.pid" = some "kept".toUTF8.toList ∧
        files.read? [] "c.pid" = none := by
  exact ⟨make_cpuReactor, by decide +kernel⟩

end Custody

end Vigil.Reactor
