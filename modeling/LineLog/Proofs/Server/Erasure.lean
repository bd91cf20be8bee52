import LineLog.Proofs.Log.Alike
import LineLog.Proofs.Server.Entries

/-!
# A run without one of its connections

The steps of a connection are those of its client and of its worker, those that the accept
loop takes for it, and the one that joins its worker.  For which connection the accept loop
looks at the flag shows only in its next step, so whether a step is one of the connection
may depend on what follows.
-/

namespace LineLog

def nextAccept? : List ServerEvent → Option (AcceptStep Nat)
  | [] => none
  | .accept step :: _ => some step
  | _ :: events => nextAccept? events

namespace Server

/-- Whether a step, after which the accept loop takes the step `upcoming`, is one of a
connection. -/
def belongs (number : Nat) (upcoming : Option (AcceptStep Nat)) (server : Server) :
    ServerEvent → Bool
  | .arrive client _ | .finish client | .reap client | .serve client _
  | .accept (.accept (.connection client)) => client = number
  | .accept (.look false) =>
      match server.phase with
      | .accepting .beforeAccept => upcoming = some (.accept (.connection number))
      | _ => false
  | .accept (.start _) =>
      match server.phase with
      | .accepting (.starting client) => client = number
      | _ => false
  | .main _ =>
      match server.phase with
      | .joiningWorkers _ _ => server.registered.head? = some number
      | _ => false
  | _ => false

/-- The steps `events` of a run that goes on with `following`, without those of a
connection. -/
def erase (number : Nat) (following : List ServerEvent) (server : Server) :
    List ServerEvent → List ServerEvent
  | [] => []
  | event :: events =>
      let others :=
        match server.next event with
        | some after => after.erase number following events
        | none => []
      if server.belongs number (nextAccept? (events ++ following)) event then others
      else event :: others

variable {server after : Server} {number : Nat} {events following : List ServerEvent}
  {event : ServerEvent}

/-- The steps that the accept loop takes for a connection. -/
theorem accept_of_belongs {upcoming : Option (AcceptStep Nat)} {step : AcceptStep Nat}
    (hbelongs : server.belongs number upcoming (.accept step)) :
    step = .accept (.connection number) ∨
      (step = .look false ∧ server.phase = .accepting .beforeAccept ∧
        upcoming = some (.accept (.connection number))) ∨
      ∃ result, step = .start result ∧ server.phase = .accepting (.starting number) := by
  cases step with
  | look stopping =>
      cases stopping with
      | true => cases hbelongs
      | false =>
          unfold belongs at hbelongs
          dsimp only at hbelongs
          split at hbelongs
          · next hphase => exact .inr (.inl ⟨rfl, hphase, of_decide_eq_true hbelongs⟩)
          · cases hbelongs
  | accept result =>
      cases result with
      | connection client =>
          obtain rfl : client = number := of_decide_eq_true hbelongs
          exact .inl rfl
      | _ => cases hbelongs
  | start result =>
      unfold belongs at hbelongs
      dsimp only at hbelongs
      split at hbelongs
      · next client hphase =>
        obtain rfl : client = number := of_decide_eq_true hbelongs
        exact .inr (.inr ⟨result, rfl, hphase⟩)
      · cases hbelongs
  | poll | sweep => cases hbelongs

/-- The main thread joins the worker of a connection next. -/
theorem joining_of_belongs {upcoming : Option (AcceptStep Nat)} {fault : Option Os.Error}
    (hbelongs : server.belongs number upcoming (.main fault)) :
    (∃ accepted report, server.phase = .joiningWorkers accepted report) ∧
      server.registered.head? = some number := by
  unfold belongs at hbelongs
  dsimp only at hbelongs
  split at hbelongs
  · next accepted report hphase => exact ⟨⟨accepted, report, hphase⟩, of_decide_eq_true hbelongs⟩
  · cases hbelongs

/-- Erasing a connection takes steps away and adds none. -/
theorem erase_sublist (number : Nat) (following : List ServerEvent) (server : Server)
    (events : List ServerEvent) : (server.erase number following events).Sublist events := by
  induction events generalizing server with
  | nil => exact List.Sublist.refl []
  | cons event events ih =>
      have hothers : (match server.next event with
          | some after => after.erase number following events
          | none => []).Sublist events := by
        split
        · exact ih _
        · exact List.nil_sublist events
      unfold erase
      dsimp only
      split
      · exact hothers.cons event
      · exact hothers.cons_cons event

/-- Erasing goes along with the run. -/
theorem erase_append {before : List ServerEvent} (hrun : server.run before = some after)
    (following events : List ServerEvent) :
    server.erase number following (before ++ events) =
      server.erase number (events ++ following) before ++ after.erase number following events := by
  induction before generalizing server with
  | nil =>
      obtain rfl : server = after := by simpa [run] using hrun
      rfl
  | cons event before ih =>
      obtain ⟨reached, hnext, hrest⟩ := Option.bind_eq_some_iff.mp hrun
      have hothers := ih hrest
      simp only [List.cons_append, erase, hnext, hothers, List.append_assoc]
      split
      · rfl
      · rfl

/-- The last step is erased exactly if it belongs to the connection. -/
theorem erase_snoc (hrun : server.run events = some after) (event : ServerEvent)
    (following : List ServerEvent) :
    server.erase number following (events ++ [event]) =
      server.erase number (event :: following) events ++
        if after.belongs number (nextAccept? following) event then [] else [event] := by
  rw [erase_append hrun]
  simp only [erase, List.nil_append, List.singleton_append]
  cases after.next event <;> rfl

end Server

end LineLog
