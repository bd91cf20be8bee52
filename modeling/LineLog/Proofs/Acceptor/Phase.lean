import LineLog.Acceptor.Phase

/-!
# What a step of the accept loop does

Each phase of the loop is entered in one way, or in few: which step leads there and where it
is taken from is said here once, together with how the loop ends.  Until then there is always
a step for it to take, whatever the system permits of each kind.
-/

namespace LineLog.AcceptPhase

variable {Client : Type} {phase following : AcceptPhase Client} {step : AcceptStep Client}

/-- A poll that returns leads to an attempt to accept. -/
theorem eq_of_next_returned (hnext : phase.next (.poll .ready) = some following) :
    phase = .polling ∧ following = .beforeAccept := by
  cases phase with
  | polling => exact ⟨rfl, (Option.some.inj hnext).symm⟩
  | _ => cases hnext

/-- The flag is looked at before an attempt to accept. -/
theorem eq_of_next_accepting (hnext : phase.next step = some .accepting) :
    phase = .beforeAccept ∧ step = .look false := by
  unfold next at hnext
  split at hnext <;> cases hnext
  exact ⟨rfl, rfl⟩

/-- A connection is accepted only by an attempt to accept one, and started next. -/
theorem eq_of_next_connection {client : Client}
    (hnext : phase.next (.accept (.connection client)) = some following) :
    phase = .accepting ∧ following = .starting client := by
  cases phase with
  | accepting => exact ⟨rfl, (Option.some.inj hnext).symm⟩
  | _ => cases hnext

/-- A worker is started only for a connection that has just been accepted. -/
theorem eq_of_next_starting {client : Client}
    (hnext : phase.next step = some (.starting client)) : step = .accept (.connection client) := by
  unfold next at hnext
  split at hnext <;> cases hnext
  rfl

/-- While a worker is to be started, nothing else is done. -/
theorem exists_start_of_next {client : Client}
    (hnext : (starting client).next step = some following) : ∃ result, step = .start result := by
  cases step with
  | start result => exact ⟨result, rfl⟩
  | _ => cases hnext

/-- However the start of a worker goes, the next connection is tried to be accepted. -/
theorem eq_of_next_start {result : StartResult}
    (hnext : phase.next (.start result) = some following) :
    ∃ client, phase = .starting client ∧ following = .beforeAccept := by
  cases phase with
  | starting client => exact ⟨client, rfl, (Option.some.inj hnext).symm⟩
  | _ => cases hnext

theorem eq_of_next_sweep (hnext : phase.next .sweep = some following) :
    phase = .sweeping ∧ following = .beforePoll := by
  cases phase with
  | sweeping => exact ⟨rfl, (Option.some.inj hnext).symm⟩
  | _ => cases hnext

/-- The loop ends without an error, unless it is by a poll that fails. -/
theorem of_next_stopped {accepted : Except ServerError Unit}
    (hnext : phase.next step = some (.stopped accepted)) :
    accepted = .ok () ∧ (∀ cause, step ≠ .poll (.failed cause)) ∨
      ∃ cause, accepted = .error (.poll cause) ∧ step = .poll (.failed cause) := by
  unfold next at hnext
  split at hnext <;> cases hnext
  · exact .inl ⟨rfl, nofun⟩
  · exact .inr ⟨_, rfl, rfl⟩

/-- A poll that fails ends the loop. -/
theorem eq_stopped_of_next {cause : Os.Error}
    (hnext : phase.next (.poll (.failed cause)) = some following) :
    following = .stopped (.error (.poll cause)) := by
  cases phase with
  | polling => exact (Option.some.inj hnext).symm
  | _ => cases hnext

/-- Unless it has stopped, the loop can go on if it finds the flag in some state, a poll
returns, an attempt to accept comes to something, and workers start and are swept. -/
theorem exists_next (permits : AcceptStep Client → Bool)
    (hlook : ∃ stopping, permits (.look stopping)) (haccept : ∃ result, permits (.accept result))
    (hpoll : permits (.poll .ready)) (hstart : permits (.start .started))
    (hsweep : permits .sweep) (hgoing : ∀ result, phase ≠ .stopped result) :
    ∃ step, permits step ∧ (phase.next step).isSome := by
  obtain ⟨stopping, hlook⟩ := hlook
  obtain ⟨result, haccept⟩ := haccept
  cases phase with
  | beforePoll | beforeAccept => exact ⟨_, hlook, by cases stopping <;> rfl⟩
  | polling => exact ⟨_, hpoll, rfl⟩
  | accepting => exact ⟨_, haccept, by cases result <;> rfl⟩
  | starting client => exact ⟨_, hstart, rfl⟩
  | sweeping => exact ⟨_, hsweep, rfl⟩
  | stopped result => exact absurd rfl (hgoing result)

end LineLog.AcceptPhase
