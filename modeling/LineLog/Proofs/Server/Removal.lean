import LineLog.Proofs.Server.Entries

/-!
# Removing the log of a server

The log is removed when nobody is left to use it.  A worker is registered as long
as it runs, workers are registered only until all of them have been joined, and
the ticker runs only until it has been joined; the log is removed after that.  So
no append and no copy of the server finds the log closed.
-/

namespace LineLog.Server

variable {server after : Server} {event : ServerEvent}

/-! ## Who runs -/

/-- Every task that runs is known to the main thread, which has not joined it. -/
structure Tended (server : Server) : Prop where
  registered : ∀ number, (server.clients.get number).isServed → number ∈ server.registered
  workers : server.registered ≠ [] → server.phase.hasWorkers
  ticker : server.tickerRuns → server.phase.hasTicker

theorem tended_initial {settings : Settings} {path : Path} {log : Log} :
    (initial settings path log).Tended where
  registered number hserved := by cases hserved
  workers hsome := absurd rfl hsome
  ticker hruns := by cases hruns

namespace Tended

/-- A step around one client starts no task. -/
theorem set_client {number : Nat} {client : Client} {log : Log} {entries : List Entry}
    (htended : server.Tended)
    (hserved : client.isServed → (server.clients.get number).isServed) :
    Tended { server with clients := server.clients.set number client, log, entries } where
  registered other hother := by
    by_cases hsame : other = number
    · subst hsame
      exact htended.registered other (hserved (by simpa using hother))
    · exact htended.registered other (by simpa [Threads.get_set_of_ne _ _ hsame] using hother)
  workers := htended.workers
  ticker := htended.ticker

/-- A task that has ended may be struck off. -/
theorem strike {number : Nat} {registered : List Nat} {phase : ServerPhase}
    (htended : server.Tended) (hended : (server.clients.get number).isServed = false)
    (hothers : ∀ other ∈ server.registered, other ≠ number → other ∈ registered)
    (hworkers : phase.hasWorkers) (hticker : server.tickerRuns → phase.hasTicker) :
    Tended { server with registered, phase } where
  registered other hserved := by
    refine hothers other (htended.registered other hserved) ?_
    rintro rfl
    rw [hended] at hserved
    cases hserved
  workers _ := hworkers
  ticker := hticker

theorem set_ticker {phase : TickerPhase} {log : Log} {entries : List Entry}
    (htended : server.Tended) (hruns : server.tickerRuns) :
    Tended { server with ticker := some phase, log, entries } where
  registered := htended.registered
  workers := htended.workers
  ticker _ := htended.ticker hruns

/-- Nobody runs where no workers are left to be joined. -/
theorem hasWorkers_of_busy (htended : server.Tended) (hbusy : server.Busy) :
    server.phase.hasWorkers := by
  rcases hbusy with hruns | ⟨number, hserved⟩
  · exact ServerPhase.hasWorkers_of_hasTicker (htended.ticker hruns)
  · exact htended.workers (List.ne_nil_of_mem (htended.registered number hserved))

/-- Once the workers have been joined none is registered. -/
theorem registered_eq_nil (htended : server.Tended)
    (hidle : server.phase.hasWorkers = false) : server.registered = [] := by
  cases hregistered : server.registered with
  | nil => rfl
  | cons number registered =>
      rw [htended.workers (by rw [hregistered]; exact List.cons_ne_nil _ _)] at hidle
      cases hidle

/-- Once the ticker has been joined it does not run. -/
theorem tickerRuns_eq_false (htended : server.Tended)
    (hidle : server.phase.hasTicker = false) : server.tickerRuns = false := by
  cases hruns : server.tickerRuns with
  | false => rfl
  | true =>
      rw [htended.ticker hruns] at hidle
      cases hidle

/-- Where no workers are left to be joined and the ticker has stopped, the main thread may
go on to any phase. -/
theorem set_phase {phase : ServerPhase} {log : Log} {deletions : List (Option Os.Error)}
    (htended : server.Tended) (hregistered : server.registered = [])
    (hstopped : server.tickerRuns = false) :
    Tended { server with phase, log, deletions } where
  registered := htended.registered
  workers hsome := absurd hregistered hsome
  ticker hruns := by
    rw [show server.tickerRuns from hruns] at hstopped
    cases hstopped

/-- Nobody starts or ends without the main thread knowing. -/
theorem next (htended : server.Tended) (hnext : server.next event = some after) :
    after.Tended := by
  cases stepped_of_next hnext with
  | arrived number bytes => exact htended.set_client id
  | finished number => exact htended.set_client id
  | triggered => exact ⟨htended.registered, htended.workers, htended.ticker⟩
  | began fault phase ticker hbefore hphase hticker =>
      have hidle := ServerPhase.hasWorkers_of_isStarting hbefore
      have hregistered := htended.registered_eq_nil hidle
      have hstopped := htended.tickerRuns_eq_false (ServerPhase.hasTicker_of_hasWorkers hidle)
      rcases hticker with rfl | rfl | ⟨rfl, rfl⟩
      · exact htended.set_phase hregistered hstopped
      · exact ⟨htended.registered, fun hsome => absurd hregistered hsome, nofun⟩
      · exact ⟨htended.registered, fun hsome => absurd hregistered hsome, fun _ => rfl⟩
  | stopped => exact ⟨htended.registered, fun _ => rfl, fun _ => rfl⟩
  | joinedTicker fault accepted panicked hphase hticker =>
      refine ⟨htended.registered, fun _ => rfl, ?_⟩
      rcases hticker with ⟨hticker, -⟩ | ⟨ending, hticker, -⟩ <;>
        simp [tickerRuns, hticker]
  | joinedWorker fault accepted report number registered ending hphase hregistered hended =>
      have hstopped := htended.tickerRuns_eq_false (by rw [hphase]; rfl)
      have hserved : (server.clients.get number).isServed = false :=
        Client.isServed_of_ending (by rw [hended]; rfl)
      apply htended.strike hserved _ rfl
      · intro hruns
        rw [hstopped] at hruns
        cases hruns
      · rw [hregistered]
        intro other hmem hother
        exact (List.mem_cons.mp hmem).resolve_left hother
  | joinedAll fault accepted report hphase hregistered =>
      exact htended.set_phase hregistered (htended.tickerRuns_eq_false (by rw [hphase]; rfl))
  | removed fault result hphase =>
      have hidle : server.phase.hasWorkers = false := by
        rcases hphase with ⟨accepted, report, hphase, -⟩ | ⟨error, hphase, -⟩
        · rw [hphase]
          rfl
        · rw [hphase]
          rfl
      have hstopped := htended.tickerRuns_eq_false (ServerPhase.hasTicker_of_hasWorkers hidle)
      exact htended.set_phase (htended.registered_eq_nil hidle) hstopped
  | accepted number hphase =>
      have htaken : Tended { server with
          clients :=
            server.clients.set number { server.clients.get number with accepted := true } } :=
        htended.set_client id
      exact ⟨htaken.registered, fun _ => rfl, fun _ => rfl⟩
  | started number hphase =>
      -- the only step that starts a worker registers it as well
      refine ⟨?_, fun _ => rfl, fun _ => rfl⟩
      intro other hother
      rw [List.mem_append, List.mem_singleton]
      by_cases hsame : other = number
      · exact .inr hsame
      · left
        apply htended.registered other
        simpa only [Threads.get_set_of_ne _ _ hsame] using hother
  | turned step before following phase hphase _ _ _ _ hafter =>
      rcases hafter with ⟨rfl, -⟩ | ⟨accepted, -, rfl⟩
      · exact ⟨htended.registered, fun _ => rfl, fun _ => rfl⟩
      · exact ⟨htended.registered, fun _ => rfl, fun _ => rfl⟩
  | reaped number hphase hregistered hended =>
      apply htended.strike (Client.isServed_of_ending hended) _ (by rw [hphase]; rfl)
        htended.ticker
      intro other hmem hother
      exact (List.mem_erase_of_ne hother).mpr hmem
  | served number step client hact =>
      exact htended.set_client fun _ => Client.isServed_of_act hact
  | appended number obstacles message client hmessage =>
      exact htended.set_client fun _ => Client.isServed_of_message hmessage
  | ticked step before phase hticker hticks =>
      exact htended.set_ticker (tickerRuns_of_next hticker hticks)
  | tickerAppended obstacles instant offset phase before hticker hticks =>
      exact htended.set_ticker (tickerRuns_of_next hticker hticks)

end Tended

/-- On every run the main thread knows every task that runs. -/
theorem tended_of_run {settings : Settings} {path : Path} {log : Log}
    {events : List ServerEvent} (hrun : (initial settings path log).run events = some server) :
    server.Tended :=
  foldlM_induction (fun _ => Tended) tended_initial
    (fun _ _ _ _ _ htended hnext => htended.next hnext) hrun

/-- A server that has ended stays so, with nobody running and the log closed. -/
theorem refuses_of_run {settings : Settings} {path : Path} {log : Log} {events : List ServerEvent}
    (hrun : (initial settings path log).run events = some server)
    (hended : server.phase.hasEnded) :
    ¬ server.Busy ∧ server.log.file = none ∧
      ∀ obstacles record, (server.log.append obstacles record).2 = .error .closed := by
  have hclosed : server.log.file = none := (recorded_of_run hrun).closed hended
  refine ⟨?_, hclosed, fun obstacles record => ?_⟩
  · intro hbusy
    have hworkers := (tended_of_run hrun).hasWorkers_of_busy hbusy
    rw [ServerPhase.hasEnded_of_hasWorkers hworkers] at hended
    cases hended
  · exact (Log.append_eq_closed_iff obstacles record server.log).mpr hclosed

/-- As long as a task runs the log is as open as at the beginning, and it holds all
records. -/
theorem open_of_busy {settings : Settings} {path : Path} {log : Log} {events : List ServerEvent}
    (hrun : (initial settings path log).run events = some server) (hbusy : server.Busy) :
    server.log.file.isSome = log.file.isSome ∧
      server.log.bytes = log.bytes ++ server.records := by
  have hworkers := (tended_of_run hrun).hasWorkers_of_busy hbusy
  have hrunning := ServerPhase.hasEnded_of_hasWorkers hworkers
  have hrecorded := recorded_of_run hrun
  exact ⟨hrecorded.isSome_file hrunning, hrecorded.bytes_eq hrunning⟩

/-- If the log is open at the beginning, the server closes it only when no task is left
that runs.  No append of a task finds the log closed, every copy is of an open log with
all its records, and when the server has ended, nobody runs and every append is refused,
whatever happens afterwards. -/
theorem removed_after_tasks {settings : Settings} {path : Path} {log : Log}
    {events : List ServerEvent} (hopen : log.file.isSome)
    (hrun : (initial settings path log).run events = some server) :
    (∀ before event earlier later,
      (initial settings path log).TakesStep events before event earlier later →
        earlier.log.file.isSome → later.log.file = none →
          ¬ earlier.Busy ∧ later.log.bytes = []) ∧
    (∀ before event earlier later entry obstacles,
      (initial settings path log).TakesStep events before event earlier later →
        earlier.attempt? event = some (entry, obstacles) →
          (earlier.log.append obstacles entry.record).2 ≠ .error .closed) ∧
    (∀ before number earlier later,
      (initial settings path log).TakesStep events before (.serve number .copy) earlier later →
        earlier.log.file.isSome ∧ earlier.log.bytes = log.bytes ++ earlier.records) ∧
    (server.result?.isSome → ∀ more final, server.run more = some final →
      ¬ final.Busy ∧ final.log.file = none ∧
        ∀ obstacles record, (final.log.append obstacles record).2 = .error .closed) := by
  refine ⟨?_, ?_, ?_, ?_⟩
  · rintro before event earlier later ⟨-, hbefore, hstep⟩ hfile hclosed
    -- neither an append nor any step but the removal closes an open log
    cases logged_of_next hstep with
    | kept _ hlog =>
        rw [hlog] at hclosed
        rw [hclosed] at hfile
        cases hfile
    | attempted entry obstacles _ hlog =>
        rw [← Log.isSome_file_append obstacles entry.record, ← hlog, hclosed] at hfile
        cases hfile
    | removed _ hlog _ hidle =>
        refine ⟨fun hbusy => ?_, ?_⟩
        · rw [(tended_of_run hbefore).hasWorkers_of_busy hbusy] at hidle
          cases hidle
        · rw [hlog, Log.bytes_close _ hfile]
  · rintro before event earlier later entry obstacles ⟨-, hbefore, hstep⟩ hattempt
    have hfile := (open_of_busy hbefore (busy_of_attempt hstep hattempt)).1
    rw [Ne, Log.append_eq_closed_iff]
    exact Option.isSome_iff_ne_none.mp (hfile.trans hopen)
  · rintro before number earlier later ⟨-, hbefore, hstep⟩
    obtain ⟨hfile, hbytes⟩ := open_of_busy hbefore (busy_of_serve hstep)
    exact ⟨hfile.trans hopen, hbytes⟩
  · intro hresult more final hmore
    have hended : server.phase.hasEnded := by
      unfold result? at hresult
      split at hresult
      · next hphase => rw [hphase]; rfl
      · cases hresult
    have hfinal : (initial settings path log).run (events ++ more) = some final :=
      foldlM_append_eq_some_iff.mpr ⟨server, hrun, hmore⟩
    exact refuses_of_run hfinal (hasEnded_of_run hmore hended)

section Example

def tickingSettings : Settings where
  listen := .v4 .unspecified 9000
  backlog := 128
  pollInterval := .ofMillis 100
  dataFile := [slash, 100]
  timestampInterval := some (.ofSeconds 10)
  daemon := false
  logLevel := "info"
  logFile := none

/-- The steps that start the server and a worker for each of `clients`. -/
def startEvents (clients : List Nat) : List ServerEvent :=
  List.replicate 5 (.main none) ++ [.accept (.look false), .accept (.poll .ready)] ++
    clients.flatMap fun number =>
      [.accept (.look false), .accept (.accept (.connection number)), .accept (.start .started)]

/-- Shutdown is requested and the accept loop has ended while a worker waits for its
message and the ticker for its deadline.  A record is added and a reply is sent before
both are joined. -/
private def drainedEvents : List ServerEvent :=
  startEvents [0] ++
    [.trigger, .accept (.look true), .accept .sweep, .accept (.look true), .main none,
      .arrive 0 [104, 105, 10], .tick .schedule, .serve 0 (.take 3), .serve 0 (.append .none),
      .tick .look, .main none, .serve 0 .copy, .serve 0 (.send (.accepted 3)), .serve 0 .flush,
      .serve 0 .leave, .serve 0 .close, .main none, .main none, .main none]

/-- A drain that begins while a worker and the ticker are at work joins both before it removes the
log. -/
theorem removed_after_tasks_of_drainedEvents :
    ∃ server, Log.empty.file.isSome ∧
      (initial tickingSettings [slash, 100] .empty).run drainedEvents = some server ∧
      server.records = [104, 105, 10] ∧ server.result?.isSome ∧ ¬ server.Busy ∧
      server.log.file = none := by
  have hresult : ((initial tickingSettings [slash, 100] .empty).run drainedEvents).map
      (fun server => (server.records, server.result?.isSome)) = some ([104, 105, 10], true) := by
    rfl
  obtain ⟨server, hrun, hfields⟩ := Option.map_eq_some_iff.mp hresult
  obtain ⟨hrecords, hended⟩ := Prod.mk.inj hfields
  obtain ⟨-, -, -, hrefuses⟩ := removed_after_tasks rfl hrun
  obtain ⟨hidle, hclosed, -⟩ := hrefuses hended [] server rfl
  exact ⟨server, rfl, hrun, hrecords, hended, hidle, hclosed⟩

end Example

end LineLog.Server
