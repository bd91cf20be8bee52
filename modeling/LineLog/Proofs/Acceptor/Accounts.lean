import LineLog.Acceptor.Basic
import LineLog.Proofs.Acceptor.Phase
import LineLog.Proofs.Registry.Holds

/-!
# The accounts of the accept loop

The connections whose sockets could be set up are numbered in the order in which they were
accepted.  Every worker that was started is registered once, and is in the registry until a
sweep finds that it has ended.  Whatever fails for one connection is of no consequence for the
others, and only a poll that fails ends the loop with an error.
-/

namespace LineLog

def StartResult.isSetUp : StartResult → Bool
  | .notSetUp _ => false
  | .notStarted _ | .started => true

namespace AcceptInput

def peer? : AcceptInput → Option SocketAddress
  | .step (.accept (.connection peer)) => some peer
  | _ => none

def start? : AcceptInput → Option StartResult
  | .step (.start result) => some result
  | _ => none

def isFinish : AcceptInput → Bool
  | .finish _ _ => true
  | .step _ => false

end AcceptInput

namespace Acceptor

variable {acceptor after : Acceptor} {inputs : List AcceptInput} {input : AcceptInput}

/-! ## The books -/

/-- The connections that were accepted, in order, each with how starting its worker went. -/
def connections (inputs : List AcceptInput) : List (SocketAddress × StartResult) :=
  (inputs.filterMap (·.peer?)).zip (inputs.filterMap (·.start?))

/-- The connections whose sockets could be set up, with their numbers. -/
def numbered (inputs : List AcceptInput) : List ((SocketAddress × StartResult) × Nat) :=
  ((connections inputs).filter (·.2.isSetUp)).zipIdx

/-- The worker of a connection that has a number, if its thread could be started. -/
def worker? (connection : (SocketAddress × StartResult) × Nat) : Option Worker :=
  if connection.1.2 = .started then some ⟨connection.2, connection.1.1, none⟩ else none

def started (inputs : List AcceptInput) : List Worker :=
  (numbered inputs).filterMap worker?

def Reaps (worker : Worker) (acceptor : Acceptor) (input : AcceptInput) : Prop :=
  input = .step .sweep ∧ acceptor.registry.HoldsDone worker

def Reaped (inputs : List AcceptInput) (worker : Worker) : Prop :=
  Meets Acceptor.next initial inputs (Reaps worker)

theorem id_lt_of_mem_started {worker : Worker} (hworker : worker ∈ started inputs) :
    worker.id < (numbered inputs).length := by
  obtain ⟨⟨connection, id⟩, hmem, hworker⟩ := List.mem_filterMap.mp hworker
  obtain ⟨-, hafter⟩ := Option.ite_none_right_eq_some.mp hworker
  obtain rfl := Option.some.inj hafter
  rw [numbered, List.length_zipIdx]
  exact List.snd_lt_of_mem_zipIdx hmem

/-! ## What a step does -/

inductive Stepped (acceptor : Acceptor) : AcceptInput → Acceptor → Prop where
  | finished (key : Nat) (ending : Ending) :
      Stepped acceptor (.finish key ending)
        { acceptor with registry := acceptor.registry.finish key ending }
  | notSetUp (peer : SocketAddress) (error : Os.Error) (hphase : acceptor.phase = .starting peer) :
      Stepped acceptor (.step (.start (.notSetUp error)))
        { acceptor with phase := .beforeAccept }
  | notStarted (peer : SocketAddress) (error : Os.Error)
      (hphase : acceptor.phase = .starting peer) :
      Stepped acceptor (.step (.start (.notStarted error)))
        { acceptor with phase := .beforeAccept, nextId := acceptor.nextId + 1 }
  | started (peer : SocketAddress) (hphase : acceptor.phase = .starting peer) :
      Stepped acceptor (.step (.start .started))
        { phase := .beforeAccept
          nextId := acceptor.nextId + 1
          registry := (acceptor.registry.insert ⟨acceptor.nextId, peer, none⟩).1 }
  | swept (hphase : acceptor.phase = .sweeping) :
      Stepped acceptor (.step .sweep)
        { acceptor with phase := .beforePoll, registry := acceptor.registry.reap.1 }
  | accepted (peer : SocketAddress) (hphase : acceptor.phase = .accepting) :
      Stepped acceptor (.step (.accept (.connection peer)))
        { acceptor with phase := .starting peer }
  | moved (step : AcceptStep SocketAddress) (phase : AcceptPhase SocketAddress)
      (hnext : acceptor.phase.next step = some phase)
      (hpeer : (AcceptInput.step step).peer? = none)
      (hstart : (AcceptInput.step step).start? = none) (hsweep : step ≠ .sweep)
      (hwaiting : ∀ peer, acceptor.phase ≠ .starting peer ∧ phase ≠ .starting peer) :
      Stepped acceptor (.step step) { acceptor with phase }

/-- Only starting a worker and sweeping are entered into the accounts. -/
theorem account_of_quiet {step : AcceptStep SocketAddress}
    (hstart : (AcceptInput.step step).start? = none) (hsweep : step ≠ .sweep) :
    acceptor.account step = acceptor := by
  unfold account
  split
  · cases hstart
  · cases hstart
  · exact absurd rfl hsweep
  · rfl

theorem stepped_of_quiet {step : AcceptStep SocketAddress} {phase : AcceptPhase SocketAddress}
    (hpeer : (AcceptInput.step step).peer? = none)
    (hstart : (AcceptInput.step step).start? = none) (hsweep : step ≠ .sweep)
    (hnext : acceptor.phase.next step = some phase) :
    Stepped acceptor (.step step) { acceptor.account step with phase } := by
  rw [account_of_quiet hstart hsweep]
  refine .moved step phase hnext hpeer hstart hsweep fun peer => ⟨fun hphase => ?_, ?_⟩
  · rw [hphase] at hnext
    obtain ⟨result, rfl⟩ := AcceptPhase.exists_start_of_next hnext
    cases hstart
  · rintro rfl
    obtain rfl := AcceptPhase.eq_of_next_starting hnext
    cases hpeer

theorem stepped_of_next (hnext : acceptor.next input = some after) :
    Stepped acceptor input after := by
  cases input with
  | finish key ending =>
      obtain rfl := Option.some.inj hnext
      exact .finished key ending
  | step step =>
      obtain ⟨phase, hphase, rfl⟩ := Option.map_eq_some_iff.mp hnext
      cases step with
      | look | poll => exact stepped_of_quiet rfl rfl nofun hphase
      | accept result =>
          cases result with
          | connection peer =>
              obtain ⟨haccepting, rfl⟩ := AcceptPhase.eq_of_next_connection hphase
              have hquiet : acceptor.account (.accept (.connection peer)) = acceptor :=
                account_of_quiet rfl nofun
              rw [hquiet]
              exact .accepted peer haccepting
          | _ => exact stepped_of_quiet rfl rfl nofun hphase
      | start result =>
          obtain ⟨peer, hstarting, rfl⟩ := AcceptPhase.eq_of_next_start hphase
          obtain ⟨_, nextId, registry⟩ := acceptor
          subst hstarting
          cases result with
          | notSetUp error => exact .notSetUp peer error rfl
          | notStarted error => exact .notStarted peer error rfl
          | started => exact .started peer rfl
      | sweep =>
          obtain ⟨hsweeping, rfl⟩ := AcceptPhase.eq_of_next_sweep hphase
          obtain ⟨_, nextId, registry⟩ := acceptor
          subst hsweeping
          exact .swept rfl

/-! ## Entering the steps -/

/-- The client of the connection whose worker is to be started. -/
def waiting : AcceptPhase SocketAddress → List SocketAddress
  | .starting peer => [peer]
  | _ => []

theorem waiting_eq_nil {phase : AcceptPhase SocketAddress}
    (hphase : ∀ peer, phase ≠ .starting peer) : waiting phase = [] := by
  cases phase with
  | starting peer => exact absurd rfl (hphase peer)
  | _ => rfl

theorem connections_eq {entries : List (SocketAddress × StartResult)} {more : List SocketAddress}
    (hpeers : inputs.filterMap (·.peer?) = entries.map (·.1) ++ more)
    (hstarts : inputs.filterMap (·.start?) = entries.map (·.2)) : connections inputs = entries := by
  have hzip : entries = (entries.map (·.1)).zip (entries.map (·.2)) := List.zip_of_prod rfl rfl
  have happend := @List.zip_append _ _ (entries.map (·.1)) more (entries.map (·.2)) [] (by simp)
  rw [List.append_nil, List.zip_nil_right, List.append_nil] at happend
  rw [connections, hpeers, hstarts, happend]
  exact hzip.symm

/-- Every connection that was accepted is in the books, or its worker is to be started. -/
structure Booked (inputs : List AcceptInput) (phase : AcceptPhase SocketAddress) : Prop where
  peers_eq : inputs.filterMap (·.peer?) = (connections inputs).map (·.1) ++ waiting phase
  starts_eq : inputs.filterMap (·.start?) = (connections inputs).map (·.2)

namespace Booked

variable {phase following : AcceptPhase SocketAddress}

theorem of_eq {entries : List (SocketAddress × StartResult)}
    (hpeers : inputs.filterMap (·.peer?) = entries.map (·.1) ++ waiting phase)
    (hstarts : inputs.filterMap (·.start?) = entries.map (·.2)) :
    Booked inputs phase ∧ connections inputs = entries := by
  obtain rfl := connections_eq hpeers hstarts
  exact ⟨⟨hpeers, hstarts⟩, rfl⟩

/-- What is not about a connection is not entered. -/
theorem other (hbooked : Booked inputs phase) (hpeer : input.peer? = none)
    (hstart : input.start? = none) (hwaiting : waiting following = waiting phase) :
    Booked (inputs ++ [input]) following ∧
      connections (inputs ++ [input]) = connections inputs := by
  refine of_eq ?_ ?_
  · rw [List.filterMap_append, hbooked.peers_eq, hwaiting, List.filterMap_cons_none hpeer]
    exact List.append_nil _
  · rw [List.filterMap_append, hbooked.starts_eq, List.filterMap_cons_none hstart]
    exact List.append_nil _

theorem accepted (hbooked : Booked inputs phase) (hwaiting : waiting phase = [])
    (peer : SocketAddress) :
    Booked (inputs ++ [.step (.accept (.connection peer))]) (.starting peer) ∧
      connections (inputs ++ [.step (.accept (.connection peer))]) = connections inputs := by
  refine of_eq ?_ ?_
  · rw [List.filterMap_append, hbooked.peers_eq, hwaiting, List.append_nil]
    rfl
  · rw [List.filterMap_append, hbooked.starts_eq]
    exact List.append_nil _

/-- However it goes, the start of a worker is entered with the client that was accepted
last. -/
theorem start {peer : SocketAddress} (hbooked : Booked inputs (.starting peer))
    (result : StartResult) :
    Booked (inputs ++ [.step (.start result)]) .beforeAccept ∧
      connections (inputs ++ [.step (.start result)]) = connections inputs ++ [(peer, result)] := by
  refine of_eq ?_ ?_
  · have hnone : waiting .beforeAccept = [] := rfl
    rw [List.filterMap_append, hbooked.peers_eq, List.map_append, hnone, List.append_nil]
    exact List.append_nil _
  · rw [List.filterMap_append, hbooked.starts_eq, List.map_append]
    rfl

end Booked

theorem numbered_snoc_setUp {peer : SocketAddress} {result : StartResult}
    (hconnections : connections (inputs ++ [input]) = connections inputs ++ [(peer, result)])
    (hsetUp : result.isSetUp = true) :
    numbered (inputs ++ [input]) =
      numbered inputs ++ [((peer, result), (numbered inputs).length)] := by
  have hkept : [(peer, result)].filter (·.2.isSetUp) = [(peer, result)] :=
    List.filter_cons_of_pos hsetUp
  rw [numbered, hconnections, List.filter_append, hkept, List.zipIdx_append, numbered,
    List.length_zipIdx, Nat.zero_add]
  rfl

theorem numbered_snoc_notSetUp {peer : SocketAddress} {result : StartResult}
    (hconnections : connections (inputs ++ [input]) = connections inputs ++ [(peer, result)])
    (hsetUp : result.isSetUp = false) : numbered (inputs ++ [input]) = numbered inputs := by
  have hdropped : [(peer, result)].filter (·.2.isSetUp) = [] :=
    List.filter_cons_of_neg (Bool.eq_false_iff.mp hsetUp)
  rw [numbered, hconnections, List.filter_append, hdropped, List.append_nil]
  rfl

theorem numbered_snoc_other (hconnections : connections (inputs ++ [input]) = connections inputs) :
    numbered (inputs ++ [input]) = numbered inputs := by
  rw [numbered, hconnections]
  rfl

/-! ## The accounts agree -/

structure Tallied (inputs : List AcceptInput) (acceptor : Acceptor) : Prop where
  booked : Booked inputs acceptor.phase
  nextId_eq : acceptor.nextId = (numbered inputs).length
  tidy : acceptor.registry.Tidy
  distinct : acceptor.registry.Distinct
  held : ∀ worker, acceptor.registry.Holds worker ↔
    worker ∈ started inputs ∧ ¬ Reaped inputs worker
  reaped : ∀ worker, Reaped inputs worker → worker ∈ started inputs

theorem tallied_initial : Tallied [] initial where
  booked := ⟨rfl, rfl⟩
  nextId_eq := rfl
  tidy := Registry.tidy_empty
  distinct := nofun
  held _ := iff_of_false nofun nofun
  reaped _ hreaped := absurd hreaped not_meets_nil

/-- Nothing is reaped but by a sweep. -/
theorem reaped_snoc_other (hrun : initial.run inputs = some acceptor)
    (hnext : acceptor.next input = some after) (hsweep : input ≠ .step .sweep) (worker : Worker) :
    Reaped (inputs ++ [input]) worker ↔ Reaped inputs worker := by
  rw [Reaped, meets_snoc_iff hrun hnext]
  exact or_iff_left fun hreaps => hsweep hreaps.1

namespace Tallied

/-- A step that changes nothing about who is in the registry. -/
theorem quiet (htallied : Tallied inputs acceptor) (hrun : initial.run inputs = some acceptor)
    (hnext : acceptor.next input = some after) (hsweep : input ≠ .step .sweep)
    (hbooked : Booked (inputs ++ [input]) after.phase)
    (hstarted : started (inputs ++ [input]) = started inputs)
    (hnextId : after.nextId = (numbered (inputs ++ [input])).length)
    (htidy : after.registry.Tidy)
    (hregistry : ∀ key, after.registry.handleAt? key = acceptor.registry.handleAt? key) :
    Tallied (inputs ++ [input]) after where
  booked := hbooked
  nextId_eq := hnextId
  tidy := htidy
  distinct := by
    simp only [Registry.Distinct, hregistry]
    exact htallied.distinct
  held worker := by
    rw [reaped_snoc_other hrun hnext hsweep, hstarted]
    simp only [Registry.Holds, hregistry]
    exact htallied.held worker
  reaped worker := by
    rw [reaped_snoc_other hrun hnext hsweep, hstarted]
    exact htallied.reaped worker

/-- A step that is not about a connection that has a number. -/
theorem unnumbered (htallied : Tallied inputs acceptor) (hrun : initial.run inputs = some acceptor)
    (hnext : acceptor.next input = some after) (hsweep : input ≠ .step .sweep)
    (hbooked : Booked (inputs ++ [input]) after.phase)
    (hnumbered : numbered (inputs ++ [input]) = numbered inputs)
    (hnextId : after.nextId = acceptor.nextId) (htidy : after.registry.Tidy)
    (hregistry : ∀ key, after.registry.handleAt? key = acceptor.registry.handleAt? key) :
    Tallied (inputs ++ [input]) after := by
  refine htallied.quiet hrun hnext hsweep hbooked ?_ ?_ htidy hregistry
  · exact congrArg (List.filterMap worker?) hnumbered
  · rw [hnextId, htallied.nextId_eq, hnumbered]

/-- A worker that was started gets the next number, which nobody else has. -/
theorem start (htallied : Tallied inputs acceptor) (hrun : initial.run inputs = some acceptor)
    {peer : SocketAddress} (hphase : acceptor.phase = .starting peer)
    (hnext : acceptor.next (.step (.start .started)) = some
      { phase := .beforeAccept
        nextId := acceptor.nextId + 1
        registry := (acceptor.registry.insert ⟨acceptor.nextId, peer, none⟩).1 }) :
    Tallied (inputs ++ [.step (.start .started)])
      { phase := .beforeAccept
        nextId := acceptor.nextId + 1
        registry := (acceptor.registry.insert ⟨acceptor.nextId, peer, none⟩).1 } := by
  have hbooked := htallied.booked
  rw [hphase] at hbooked
  obtain ⟨hafter, hconnections⟩ := hbooked.start .started
  have hnumbered := numbered_snoc_setUp hconnections rfl
  have hstarted : started (inputs ++ [.step (.start .started)]) =
      started inputs ++ [⟨acceptor.nextId, peer, none⟩] := by
    rw [started, hnumbered, List.filterMap_append, htallied.nextId_eq]
    rfl
  have hfresh (worker : Worker) (hworker : worker ∈ started inputs) :
      worker.id ≠ acceptor.nextId := by
    rw [htallied.nextId_eq]
    exact Nat.ne_of_lt (id_lt_of_mem_started hworker)
  have hreaped := reaped_snoc_other hrun hnext nofun
  refine ⟨hafter, ?_, htallied.tidy.insert _, ?_, fun worker => ?_, fun worker hworker => ?_⟩
  · rw [hnumbered, List.length_append, htallied.nextId_eq]
    rfl
  · refine htallied.tidy.distinct_insert htallied.distinct fun other hother => ?_
    exact hfresh other ((htallied.held other).mp hother).1
  · rw [htallied.tidy.holds_insert, htallied.held, hstarted, List.mem_append,
      List.mem_singleton, hreaped]
    constructor
    · rintro (⟨hworker, hrunning⟩ | rfl)
      · exact ⟨.inl hworker, hrunning⟩
      · exact ⟨.inr rfl, fun hgone => hfresh _ (htallied.reaped _ hgone) rfl⟩
    · rintro ⟨hworker | rfl, hrunning⟩
      · exact .inl ⟨hworker, hrunning⟩
      · exact .inr rfl
  · rw [hstarted]
    exact List.mem_append_left _ (htallied.reaped worker ((hreaped worker).mp hworker))

/-- A sweep removes those whose tasks have ended. -/
theorem sweep (htallied : Tallied inputs acceptor) (hrun : initial.run inputs = some acceptor)
    (hphase : acceptor.phase = .sweeping)
    (hnext : acceptor.next (.step .sweep) =
      some { acceptor with phase := .beforePoll, registry := acceptor.registry.reap.1 }) :
    Tallied (inputs ++ [.step .sweep])
      { acceptor with phase := .beforePoll, registry := acceptor.registry.reap.1 } := by
  obtain ⟨hafter, hconnections⟩ := @Booked.other inputs (.step .sweep) acceptor.phase .beforePoll
    htallied.booked rfl rfl (by rw [hphase]; rfl)
  have hnumbered := numbered_snoc_other hconnections
  have hstarted := congrArg (List.filterMap worker?) hnumbered
  have hreaped (worker : Worker) : Reaped (inputs ++ [.step .sweep]) worker ↔
      Reaped inputs worker ∨ acceptor.registry.HoldsDone worker := by
    rw [Reaped, meets_snoc_iff hrun hnext]
    exact or_congr_right (and_iff_right rfl)
  refine ⟨hafter, ?_, htallied.tidy.reap, htallied.distinct.reap, fun worker => ?_,
    fun worker hworker => ?_⟩
  · rw [hnumbered, htallied.nextId_eq]
  · rw [htallied.distinct.holds_reap, htallied.held, hreaped, not_or, ← and_assoc, started,
      started, hstarted]
  · rw [started, hstarted]
    rcases (hreaped worker).mp hworker with hgone | ⟨key, hkey, -⟩
    · exact htallied.reaped worker hgone
    · exact ((htallied.held worker).mp ⟨key, hkey⟩).1

theorem next (htallied : Tallied inputs acceptor) (hrun : initial.run inputs = some acceptor)
    (hnext : acceptor.next input = some after) : Tallied (inputs ++ [input]) after := by
  cases stepped_of_next hnext with
  | finished key ending =>
      obtain ⟨hbooked, hconnections⟩ := @Booked.other inputs (.finish key ending) _ acceptor.phase
        htallied.booked rfl rfl rfl
      exact htallied.unnumbered hrun hnext nofun hbooked (numbered_snoc_other hconnections) rfl
        (htallied.tidy.finish key ending) (Registry.handleAt?_finish _ key ending)
  | notSetUp peer error hphase =>
      have hwaiting := htallied.booked
      rw [hphase] at hwaiting
      obtain ⟨hbooked, hconnections⟩ := hwaiting.start (.notSetUp error)
      exact htallied.unnumbered hrun hnext nofun hbooked (numbered_snoc_notSetUp hconnections rfl)
        rfl htallied.tidy fun _ => rfl
  | notStarted peer error hphase =>
      have hwaiting := htallied.booked
      rw [hphase] at hwaiting
      obtain ⟨hbooked, hconnections⟩ := hwaiting.start (.notStarted error)
      have hnumbered := numbered_snoc_setUp hconnections rfl
      refine htallied.quiet hrun hnext nofun hbooked ?_ ?_ htallied.tidy fun _ => rfl
      · rw [started, hnumbered, List.filterMap_append]
        exact List.append_nil _
      · rw [hnumbered, List.length_append, htallied.nextId_eq]
        rfl
  | started peer hphase => exact htallied.start hrun hphase hnext
  | swept hphase => exact htallied.sweep hrun hphase hnext
  | accepted peer hphase =>
      obtain ⟨hbooked, hconnections⟩ := htallied.booked.accepted (by rw [hphase]; rfl) peer
      exact htallied.unnumbered hrun hnext nofun hbooked (numbered_snoc_other hconnections) rfl
        htallied.tidy fun _ => rfl
  | moved step phase hmoves hpeer hstart hsweep hwaiting =>
      have hsame : waiting phase = waiting acceptor.phase := by
        rw [waiting_eq_nil fun peer => (hwaiting peer).1,
          waiting_eq_nil fun peer => (hwaiting peer).2]
      obtain ⟨hbooked, hconnections⟩ := htallied.booked.other hpeer hstart hsame
      exact htallied.unnumbered hrun hnext (fun heq => hsweep (AcceptInput.step.inj heq)) hbooked
        (numbered_snoc_other hconnections) rfl htallied.tidy fun _ => rfl

theorem of_run (hrun : initial.run inputs = some acceptor) : Tallied inputs acceptor :=
  foldlM_induction Tallied tallied_initial
    (fun _ _ _ _ hrun htallied hnext => htallied.next hrun hnext) hrun

end Tallied

/-! ## How the loop ends -/

inductive Stops : AcceptStep SocketAddress → Except ServerError Unit → Prop where
  | flag : Stops (.look true) (.ok ())
  | poll (cause : Os.Error) : Stops (.poll (.failed cause)) (.error (.poll cause))

theorem stops_of_next {phase : AcceptPhase SocketAddress} {step : AcceptStep SocketAddress}
    {result : Except ServerError Unit} (hnext : phase.next step = some (.stopped result)) :
    Stops step result := by
  unfold AcceptPhase.next at hnext
  split at hnext <;> cases hnext
  · exact .flag
  · exact .poll _

/-- The loop has been ended by its last step, after which only tasks have ended. -/
def Ended (inputs : List AcceptInput) (result : Except ServerError Unit) : Prop :=
  ∃ before step following, inputs = before ++ .step step :: following ∧ Stops step result ∧
    ∀ input ∈ following, input.isFinish = true

theorem ended_of_run (hrun : initial.run inputs = some acceptor) :
    ∀ result, acceptor.phase = .stopped result → Ended inputs result := by
  refine foldlM_induction (fun inputs (acceptor : Acceptor) => ∀ result,
    acceptor.phase = .stopped result → Ended inputs result)
    (fun _ hphase => by cases hphase) ?_ hrun
  intro inputs acceptor input after _ ih hnext result hphase
  cases input with
  | finish key ending =>
      obtain rfl := Option.some.inj hnext
      obtain ⟨before, step, following, rfl, hstops, hfinishes⟩ := ih result hphase
      refine ⟨before, step, following ++ [.finish key ending], ?_, hstops, ?_⟩
      · rw [List.append_assoc, List.cons_append]
      · exact List.forall_mem_append.mpr ⟨hfinishes, by simp [AcceptInput.isFinish]⟩
  | step step =>
      obtain ⟨phase, hmoves, rfl⟩ := Option.map_eq_some_iff.mp hnext
      obtain rfl : phase = .stopped result := hphase
      exact ⟨inputs, step, [], rfl, stops_of_next hmoves, nofun⟩

/-- A poll that fails ends the loop. -/
theorem stopped_iff_of_run (hrun : initial.run inputs = some acceptor) (cause : Os.Error) :
    acceptor.phase = .stopped (.error (.poll cause)) ↔ .step (.poll (.failed cause)) ∈ inputs := by
  constructor
  · intro hphase
    obtain ⟨before, step, following, rfl, hstops, -⟩ := ended_of_run hrun _ hphase
    cases hstops
    exact List.mem_append_right _ List.mem_cons_self
  · refine foldlM_induction (fun inputs (acceptor : Acceptor) =>
      .step (.poll (.failed cause)) ∈ inputs → acceptor.phase = .stopped (.error (.poll cause)))
      nofun ?_ hrun
    intro inputs acceptor input after _ ih hnext hmem
    rcases List.mem_append.mp hmem with hmem | hmem
    · have hphase := ih hmem
      cases input with
      | finish key ending =>
          obtain rfl := Option.some.inj hnext
          exact hphase
      | step step =>
          -- a loop that has ended takes no step
          obtain ⟨phase, hmoves, -⟩ := Option.map_eq_some_iff.mp hnext
          rw [hphase] at hmoves
          cases hmoves
    · obtain rfl := List.mem_singleton.mp hmem
      obtain ⟨phase, hmoves, rfl⟩ := Option.map_eq_some_iff.mp hnext
      exact AcceptPhase.eq_stopped_of_next hmoves

/-! ## Connections that fail -/

/-- The end of a task does not depend on what the loop is doing. -/
theorem exists_run_finishes (finishes : List AcceptInput)
    (hfinishes : ∀ input ∈ finishes, input.isFinish = true) (acceptor : Acceptor) :
    ∃ registry, ∀ phase, Acceptor.run { acceptor with phase } finishes =
      some { acceptor with phase, registry } := by
  induction finishes generalizing acceptor with
  | nil => exact ⟨acceptor.registry, fun _ => rfl⟩
  | cons input finishes ih =>
      obtain ⟨hinput, hrest⟩ := List.forall_mem_cons.mp hfinishes
      cases input with
      | step => cases hinput
      | finish key ending =>
          obtain ⟨registry, hregistry⟩ :=
            ih hrest { acceptor with registry := acceptor.registry.finish key ending }
          exact ⟨registry, hregistry⟩

/-- A connection whose socket cannot be set up leaves the accounts as if nobody had been
there. -/
theorem run_without_notSetUp {before finishes following : List AcceptInput}
    {peer : SocketAddress} {error : Os.Error}
    (hfinishes : ∀ input ∈ finishes, input.isFinish = true)
    (hrun : initial.run (before ++ .step (.accept (.connection peer)) :: finishes ++
      .step (.start (.notSetUp error)) :: following) = some acceptor) :
    initial.run (before ++ .step (.accept .interrupted) :: finishes ++ following) =
      some acceptor := by
  obtain ⟨failed, hfailed, hfollowing⟩ := foldlM_append_eq_some_iff.mp hrun
  obtain ⟨earlier, hbefore, hrest⟩ := foldlM_append_eq_some_iff.mp hfailed
  obtain ⟨accepted, haccept, hbetween⟩ := Option.bind_eq_some_iff.mp hrest
  obtain ⟨later, hstart, hafter⟩ := Option.bind_eq_some_iff.mp hfollowing
  obtain ⟨registry, hregistry⟩ := exists_run_finishes finishes hfinishes earlier
  cases stepped_of_next haccept with
  | moved _ _ _ hpeer => cases hpeer
  | accepted _ hphase =>
      obtain rfl := Option.some.inj ((hregistry (.starting peer)).symm.trans hbetween)
      obtain rfl := Option.some.inj hstart
      have hinterrupted : earlier.next (.step (.accept .interrupted)) =
          some { earlier with phase := .beforeAccept } := by
        obtain ⟨_, nextId, _⟩ := earlier
        subst hphase
        rfl
      refine foldlM_append_eq_some_iff.mpr ⟨_, ?_, hafter⟩
      refine foldlM_append_eq_some_iff.mpr ⟨earlier, hbefore, ?_⟩
      exact Option.bind_eq_some_iff.mpr ⟨_, hinterrupted, hregistry .beforeAccept⟩

/-! ## The accounts of a run -/

/-- What starting the worker of a client comes to.  A worker that was started is registered
under a key that nobody has. -/
inductive Starts (peer : SocketAddress) (earlier : Acceptor) : StartResult → Acceptor → Prop where
  | notSetUp (error : Os.Error) :
      Starts peer earlier (.notSetUp error) { earlier with phase := .beforeAccept }
  | notStarted (error : Os.Error) :
      Starts peer earlier (.notStarted error)
        { earlier with phase := .beforeAccept, nextId := earlier.nextId + 1 }
  | started (key : Nat) (registry : Registry) (hvacant : earlier.registry.get? key = none)
      (hregistry : ∀ other, registry.get? other =
        if other = key then some ⟨earlier.nextId, peer, none⟩ else earlier.registry.get? other) :
      Starts peer earlier .started
        { phase := .beforeAccept, nextId := earlier.nextId + 1, registry }

theorem starts_of_next {result : StartResult} (htidy : acceptor.registry.Tidy)
    {peer : SocketAddress} (hphase : acceptor.phase = .starting peer)
    (hnext : acceptor.next (.step (.start result)) = some after) :
    Starts peer acceptor result after := by
  cases stepped_of_next hnext with
  | notSetUp _ error => exact .notSetUp error
  | notStarted _ error => exact .notStarted error
  | started other hother =>
      cases hphase.symm.trans hother
      exact .started _ _ (htidy.get?_key _) (htidy.get?_insert _)
  | moved _ _ _ _ hstart => cases hstart

/-- Nobody is registered but when a worker is started. -/
theorem holds_of_next (hnext : acceptor.next input = some after) (hstart : input.start? = none) :
    after.nextId = acceptor.nextId ∧
      ∀ worker, after.registry.Holds worker → acceptor.registry.Holds worker := by
  cases stepped_of_next hnext with
  | notSetUp | notStarted | started => cases hstart
  | accepted | moved => exact ⟨rfl, fun _ => id⟩
  | finished key ending =>
      refine ⟨rfl, fun worker ⟨other, hother⟩ => ⟨other, ?_⟩⟩
      rwa [Registry.handleAt?_finish] at hother
  | swept =>
      refine ⟨rfl, fun worker ⟨other, hother⟩ => ⟨other, ?_⟩⟩
      rw [Registry.handleAt?_reap] at hother
      exact (Option.ite_none_left_eq_some.mp hother).2

structure Accounts (inputs : List AcceptInput) (acceptor : Acceptor) : Prop where
  /-- The connections are those that were accepted, each with the outcome of its own start;
  the start of the last one may still be to come. -/
  booked : Booked inputs acceptor.phase
  /-- A connection gets the next number if its socket can be set up, and its worker is
  registered if its thread can be started; nothing else changes. -/
  starts : ∀ before result earlier later,
    TakesStep Acceptor.next initial inputs before (.step (.start result)) earlier later →
      ∃ peer, connections (before ++ [.step (.start result)]) =
          connections before ++ [(peer, result)] ∧
        earlier.nextId = (numbered before).length ∧ Starts peer earlier result later
  nextId_eq : acceptor.nextId = (numbered inputs).length
  /-- No other step registers anybody or uses a number. -/
  others : ∀ before input earlier later,
    TakesStep Acceptor.next initial inputs before input earlier later → input.start? = none →
      later.nextId = earlier.nextId ∧
        ∀ worker, later.registry.Holds worker → earlier.registry.Holds worker
  /-- The registry holds those who were started and not reaped, each once. -/
  held : ∀ worker, acceptor.registry.Holds worker ↔
    worker ∈ started inputs ∧ ¬ Reaped inputs worker
  distinct : (acceptor.registry.entries.map (·.2.id)).Nodup
  /-- A connection whose socket cannot be set up is dropped alone. -/
  dropped : ∀ before finishes following peer error,
    (∀ input ∈ finishes, input.isFinish = true) →
      inputs = before ++ .step (.accept (.connection peer)) :: finishes ++
        .step (.start (.notSetUp error)) :: following →
      initial.run (before ++ .step (.accept .interrupted) :: finishes ++ following) = some acceptor
  /-- Nothing ends the loop but the flag and a poll that fails. -/
  ended : ∀ result, acceptor.phase = .stopped result → Ended inputs result
  failed_iff : ∀ cause, acceptor.phase = .stopped (.error (.poll cause)) ↔
    .step (.poll (.failed cause)) ∈ inputs
  going : (∀ result, acceptor.phase ≠ .stopped result) →
    ∃ step after, acceptor.next (.step step) = some after

/-- The accounts agree after every run of the loop.  The connections whose sockets could be
set up are numbered from zero in the order in which they were accepted, whatever failed for
others, and the registry holds the workers that were started and that no sweep has reaped.
The loop ends with an error exactly if a poll fails, and else when it finds the flag set. -/
theorem accounts_of_run (hrun : initial.run inputs = some acceptor) :
    Accounts inputs acceptor where
  booked := (Tallied.of_run hrun).booked
  starts before result earlier later hstep := by
    have htallied := Tallied.of_run hstep.run_before
    have hbooked := htallied.booked
    obtain ⟨phase, hmoves, -⟩ := Option.map_eq_some_iff.mp hstep.next_eq
    obtain ⟨peer, hphase, -⟩ := AcceptPhase.eq_of_next_start hmoves
    rw [hphase] at hbooked
    exact ⟨peer, (hbooked.start result).2, htallied.nextId_eq,
      starts_of_next htallied.tidy hphase hstep.next_eq⟩
  nextId_eq := (Tallied.of_run hrun).nextId_eq
  others _ _ _ _ hstep hstart := holds_of_next hstep.next_eq hstart
  held := (Tallied.of_run hrun).held
  distinct := by
    refine List.Nodup.map_on (fun first hfirst second hsecond hid => ?_)
      acceptor.registry.nodup_entries
    have hhandle (entry : Nat × Worker) (hentry : entry ∈ acceptor.registry.entries) :
        acceptor.registry.handleAt? entry.1 = some entry.2.bare :=
      congrArg (Option.map Worker.bare) (Registry.mem_entries.mp hentry)
    have hkey := (Tallied.of_run hrun).distinct _ _ _ _ (hhandle first hfirst)
      (hhandle second hsecond) hid
    have hworker := Registry.mem_entries.mp hsecond
    rw [← hkey, Registry.mem_entries.mp hfirst] at hworker
    exact Prod.ext hkey (Option.some.inj hworker)
  dropped before finishes following peer error hfinishes hinputs := by
    subst hinputs
    exact run_without_notSetUp hfinishes hrun
  ended := ended_of_run hrun
  failed_iff := stopped_iff_of_run hrun
  going hgoing := by
    obtain ⟨step, -, hnext⟩ := AcceptPhase.exists_next (fun _ => true) ⟨true, rfl⟩
      ⟨.wouldBlock, rfl⟩ rfl rfl rfl hgoing
    obtain ⟨phase, hphase⟩ := Option.isSome_iff_exists.mp hnext
    exact ⟨step, _, congrArg (Option.map _) hphase⟩

section Example

/-- Of the four clients that come in the first pass, one has a socket that cannot be set up and
one a worker that cannot be started; the worker of another one panics.  The next client takes
its slot, and then shutdown is requested. -/
private def troubledInputs : List AcceptInput :=
  let peer (port : UInt16) : SocketAddress := .v4 .unspecified port
  let serve (port : UInt16) (result : StartResult) : List AcceptInput :=
    [.step (.look false), .step (.accept (.connection (peer port))), .step (.start result)]
  [.step (.look false), .step (.poll .interrupted), .step (.look false), .step (.poll .ready)] ++
    serve 4001 .started ++ serve 4002 (.notSetUp Os.Error.invalidArgument) ++
    [.step (.look false), .step (.accept .interrupted), .finish 0 .panicked] ++
    serve 4003 (.notStarted Os.Error.noSpace) ++ serve 4004 .started ++
    [.step (.look false), .step (.accept (.failed Os.Error.noSpace)), .step .sweep,
      .step (.look false), .step (.poll .ready)] ++
    serve 4005 .started ++ [.step (.look true), .step .sweep, .step (.look true)]

/-- Two of the clients get no worker, one worker panics, and the accounts still balance. -/
theorem accounts_of_troubledInputs :
    ∃ acceptor, initial.run troubledInputs = some acceptor ∧
      acceptor.phase = .stopped (.ok ()) ∧ acceptor.nextId = 4 ∧
      acceptor.registry.entries.map (fun entry => (entry.1, entry.2.id)) = [(0, 3), (1, 2)] ∧
      (started troubledInputs).map (·.id) = [0, 2, 3] ∧ Accounts troubledInputs acceptor :=
  ⟨_, rfl, rfl, rfl, rfl, rfl, accounts_of_run rfl⟩

end Example

end Acceptor

end LineLog
