import LineLog.Proofs.Server.Removal

/-!
# Going on

As long as shutdown is not requested, the accept loop needs nobody to go on, and neither
does the ticker.  From anywhere in the loop its own steps lead to a worker for a new client,
and from anywhere in the course of the ticker its own steps lead to a record.
-/

namespace LineLog.Server

variable {server after : Server} {client : Nat} {instant : Instant} {offset : Int}

/-- Steps of the accept loop alone lead from here to a worker for a client. -/
def CanAccept (server : Server) (client : Nat) : Prop :=
  ∃ (steps : List (AcceptStep Nat)) (final : Server),
    server.run (steps.map .accept) = some final ∧ client ∈ final.registered

def CanTick (server : Server) (instant : Instant) (offset : Int) : Prop :=
  ∃ (steps : List TickStep) (final : Server),
    server.run (steps.map .tick) = some final ∧
    ⟨.ticker, Timestamp.recordBytes instant offset⟩ ∈ final.entries

/-- A step of the accept loop that does not end it. -/
theorem acceptStep_eq {step : AcceptStep Nat} {phase following : AcceptPhase Nat}
    (hphase : server.phase = .accepting phase) (hpermits : server.permits step)
    (hnext : phase.next step = some following) (hgoing : ∀ result, following ≠ .stopped result) :
    server.acceptStep step =
      some { server.register phase step with phase := .accepting following } := by
  unfold acceptStep
  rw [hphase]
  dsimp only
  rw [if_pos hpermits, hnext, Option.map_some]
  cases following with
  | stopped result => exact absurd rfl (hgoing result)
  | _ => rfl

namespace CanAccept

/-- If a step of the loop leads to where it can accept, it can accept from here. -/
theorem of_acceptStep {step : AcceptStep Nat} (haccept : server.acceptStep step = some after)
    (hafter : after.CanAccept client) : server.CanAccept client := by
  obtain ⟨steps, final, hrun, hmem⟩ := hafter
  exact ⟨step :: steps, final, Option.bind_eq_some_iff.mpr ⟨after, haccept, hrun⟩, hmem⟩

theorem of_starting (hphase : server.phase = .accepting (.starting client)) :
    server.CanAccept client := by
  have haccept : server.acceptStep (.start .started) = _ := acceptStep_eq hphase rfl rfl nofun
  exact of_acceptStep haccept
    ⟨[], _, rfl, List.mem_append_right _ (List.mem_singleton_self client)⟩

theorem of_accepting (hfresh : (server.clients.get client).accepted = false)
    (hphase : server.phase = .accepting .accepting) : server.CanAccept client := by
  have haccept : server.acceptStep (.accept (.connection client)) = _ :=
    acceptStep_eq hphase (by simp [permits, hfresh]) rfl nofun
  exact of_acceptStep haccept (of_starting rfl)

theorem of_beforeAccept (hfresh : (server.clients.get client).accepted = false)
    (hstopping : server.stopping = false) (hphase : server.phase = .accepting .beforeAccept) :
    server.CanAccept client := by
  have haccept : server.acceptStep (.look false) = _ :=
    acceptStep_eq hphase (by simp [permits, hstopping]) rfl nofun
  exact of_acceptStep haccept (of_accepting hfresh rfl)

/-- While shutdown is not requested a poll may return at any time. -/
theorem of_polling (hfresh : (server.clients.get client).accepted = false)
    (hstopping : server.stopping = false) (hphase : server.phase = .accepting .polling) :
    server.CanAccept client := by
  have haccept : server.acceptStep (.poll .ready) = _ := acceptStep_eq hphase rfl rfl nofun
  exact of_acceptStep haccept (of_beforeAccept hfresh hstopping rfl)

theorem of_beforePoll (hfresh : (server.clients.get client).accepted = false)
    (hstopping : server.stopping = false) (hphase : server.phase = .accepting .beforePoll) :
    server.CanAccept client := by
  have haccept : server.acceptStep (.look false) = _ :=
    acceptStep_eq hphase (by simp [permits, hstopping]) rfl nofun
  exact of_acceptStep haccept (of_polling hfresh hstopping rfl)

/-- Wherever the loop is, a new client can be accepted next. -/
theorem of_phase {phase : AcceptPhase Nat}
    (hfresh : (server.clients.get client).accepted = false) (hstopping : server.stopping = false)
    (hphase : server.phase = .accepting phase) (hgoing : ∀ result, phase ≠ .stopped result) :
    server.CanAccept client := by
  cases phase with
  | beforePoll => exact of_beforePoll hfresh hstopping hphase
  | polling => exact of_polling hfresh hstopping hphase
  | beforeAccept => exact of_beforeAccept hfresh hstopping hphase
  | accepting => exact of_accepting hfresh hphase
  | starting number =>
      have haccept : server.acceptStep (.start .started) = _ := acceptStep_eq hphase rfl rfl nofun
      refine of_acceptStep haccept (of_beforeAccept ?_ hstopping rfl)
      change ((server.clients.set number _).get client).accepted = false
      by_cases hsame : client = number
      · subst hsame
        rw [Threads.get_set_self]
        exact hfresh
      · rw [Threads.get_set_of_ne _ _ hsame]
        exact hfresh
  | sweeping =>
      have haccept : server.acceptStep .sweep = _ := acceptStep_eq hphase rfl rfl nofun
      exact of_acceptStep haccept (of_beforePoll hfresh hstopping rfl)
  | stopped result => exact absurd rfl (hgoing result)

end CanAccept

namespace CanTick

/-- If a step of the ticker leads to where it can tick, it can tick from here. -/
theorem of_tick {step : TickStep} (htick : server.tick step = some after)
    (hafter : after.CanTick instant offset) : server.CanTick instant offset := by
  obtain ⟨steps, final, hrun, hmem⟩ := hafter
  exact ⟨step :: steps, final, Option.bind_eq_some_iff.mpr ⟨after, htick, hrun⟩, hmem⟩

/-- While the log is open nothing need keep the record of an instant from being appended. -/
theorem of_appending (hopen : server.log.file.isSome) (hticker : server.ticker = some .appending) :
    server.CanTick instant offset := by
  have htick : ∃ after, server.tick (.append .none instant offset) = some after ∧
      ⟨.ticker, Timestamp.recordBytes instant offset⟩ ∈ after.entries := by
    unfold tick
    rw [hticker]
    refine ⟨_, rfl, ?_⟩
    dsimp only
    rw [Log.append_none _ hopen]
    exact List.mem_append_right _ (List.mem_singleton_self _)
  obtain ⟨after, htick, hmem⟩ := htick
  exact of_tick htick ⟨[], after, rfl, hmem⟩

theorem of_waiting (hopen : server.log.file.isSome) (hstopping : server.stopping = false)
    (hticker : server.ticker = some .waiting) : server.CanTick instant offset := by
  have htick : server.tick .look = some { server with ticker := some .appending } := by
    unfold tick
    rw [hticker, hstopping]
    rfl
  exact of_tick htick (of_appending hopen rfl)

theorem of_scheduling (hopen : server.log.file.isSome) (hstopping : server.stopping = false)
    (hticker : server.ticker = some .scheduling) : server.CanTick instant offset := by
  have htick : server.tick .schedule = some { server with ticker := some .waiting } := by
    unfold tick
    rw [hticker]
    rfl
  exact of_tick htick (of_waiting hopen hstopping rfl)

/-- Wherever a ticker is that runs, a record can be appended next. -/
theorem of_tickerRuns (hopen : server.log.file.isSome) (hstopping : server.stopping = false)
    (hruns : server.tickerRuns) : server.CanTick instant offset := by
  unfold tickerRuns at hruns
  split at hruns
  · cases hruns
  · cases hruns
  · next phase hended hticker =>
    cases phase with
    | scheduling => exact of_scheduling hopen hstopping hticker
    | waiting => exact of_waiting hopen hstopping hticker
    | appending => exact of_appending hopen hticker
    | ended ending => exact absurd rfl (hended ending)

end CanTick

/-- A loop that has ended is left at once. -/
theorem going_of_run {settings : Settings} {path : Path} {log : Log} {events : List ServerEvent}
    (hrun : (initial settings path log).run events = some server) :
    ∀ result, server.phase ≠ .accepting (.stopped result) := by
  refine foldlM_induction (fun _ state => ∀ result, state.phase ≠ .accepting (.stopped result))
    (by nofun) ?_ hrun
  intro _ state event following _ hgoing hnext
  cases stepped_of_next hnext with
  | arrived | finished | triggered | reaped | served | appended | ticked | tickerAppended =>
      exact hgoing
  | began _ phase _ _ hphase =>
      rintro result rfl
      rcases hphase with hstarting | hbegun | ⟨error, hdiscarding⟩
      · cases hstarting
      · cases hbegun
      · cases hdiscarding
  | stopped | joinedTicker | joinedWorker | joinedAll | removed | accepted | started => nofun
  | turned _ _ _ phase _ _ _ _ _ hafter =>
      rintro result rfl
      obtain ⟨hsame, hgoing⟩ | ⟨accepted, -, htriggering⟩ := hafter
      · exact hgoing result (ServerPhase.accepting.inj hsame).symm
      · cases htriggering

end LineLog.Server
