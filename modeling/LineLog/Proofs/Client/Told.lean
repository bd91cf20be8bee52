import LineLog.Proofs.Client.Stages
import LineLog.Proofs.Line

/-!
# What the task of a client has done so far

The stage of a connection tells what the run so far has seen: whether a newline was
read, whether the message was appended, and whether the log was copied after that.
Others may do anything to the log in between.
-/

namespace LineLog

def ClientEvent.isAppend : ClientEvent → Bool
  | .act _ (.append _) => true
  | _ => false

/-- Whether what a connection finds is neither the end of its message nor the answer to
an append. -/
def ConnectionInput.isSilent : ConnectionInput → Bool
  | .append _ => false
  | .read (.chunk bytes) => newline ∉ bytes
  | _ => true

namespace Client

/-- A client whose task has just been started and that has not sent anything. -/
def started : Client :=
  { Client.initial with connection := some .initial }

section Definitions

variable (path : Path) (origin : Client × Log) (events : List ClientEvent)

/-- On the run over `events` a read has brought a newline, so that the message is
complete. -/
def HasReadLine : Prop :=
  ∃ before stopping count earlier later,
    TakesStep (next path) origin events before (.act stopping (.take count)) earlier later ∧
      newline ∈ earlier.1.unread.take count

/-- On the run over `events` the message was appended with `result`. -/
def HasTried (message : Bytes) (result : Except AppendFailure Unit) : Prop :=
  ∃ before stopping obstacles earlier later,
    TakesStep (next path) origin events before (.act stopping (.append obstacles)) earlier later ∧
      earlier.1.message? = some message ∧ (earlier.2.append obstacles message).2 = result

/-- On the run over `events` the log was copied after the message had been appended to
it. -/
def HasCopied (message reply : Bytes) : Prop :=
  ∃ before stopping earlier later,
    TakesStep (next path) origin events before (.act stopping .copy) earlier later ∧
      HasTried path origin before message (.ok ()) ∧ reply = earlier.2.bytes

/-- No message was received and none was appended. -/
def Silent : Prop :=
  (∀ event ∈ events, event.isAppend = false) ∧ ¬ HasReadLine path origin events

def Ended (sent : Bytes) : Except ConnectionError Outcome → Prop
  | .ok (.replied message reply) =>
      ∃ words, HasCopied path origin events words sent ∧
        message = words.length ∧ reply = sent.length
  | .ok (.disconnected _) | .ok (.abandoned _) | .error (.receive _) =>
      sent = [] ∧ Silent path origin events
  | .error (.append cause) =>
      sent = [] ∧ ∃ message failure, HasTried path origin events message (.error failure) ∧
        cause = .ofAppend path failure
  | .error (.send _) =>
      ∃ message reply, HasCopied path origin events message reply ∧ sent <+: reply ∧ sent ≠ reply

def Tells (sent : Bytes) : Stage → Prop
  | .receiving _ => sent = [] ∧ Silent path origin events
  | .appending _ => sent = [] ∧ HasReadLine path origin events
  | .copying message => sent = [] ∧ HasTried path origin events message (.ok ())
  | .sending message reply rest => sent ++ rest = reply ∧ HasCopied path origin events message reply
  | .lingering outcome => Ended path origin events sent (.ok outcome)
  | .closing result | .ended result => Ended path origin events sent result
  | .panicked =>
      sent = [] ∨ ∃ message reply, HasCopied path origin events message reply ∧ sent <+: reply

end Definitions

variable {path : Path} {origin state following earlier later : Client × Log}
  {events before : List ClientEvent} {event : ClientEvent} {message reply : Bytes} {log : Log}

/-! ## Runs with one more event -/

theorem HasReadLine.extend (hread : HasReadLine path origin events) (more : List ClientEvent) :
    HasReadLine path origin (events ++ more) := by
  obtain ⟨before, stopping, count, earlier, later, hstep, hnewline⟩ := hread
  exact ⟨before, stopping, count, earlier, later, hstep.extend more, hnewline⟩

theorem HasTried.extend {result : Except AppendFailure Unit}
    (htried : HasTried path origin events message result) (more : List ClientEvent) :
    HasTried path origin (events ++ more) message result := by
  obtain ⟨before, stopping, obstacles, earlier, later, hstep, hmessage, hresult⟩ := htried
  exact ⟨before, stopping, obstacles, earlier, later, hstep.extend more, hmessage, hresult⟩

theorem HasCopied.extend (hcopied : HasCopied path origin events message reply)
    (more : List ClientEvent) : HasCopied path origin (events ++ more) message reply := by
  obtain ⟨before, stopping, earlier, later, hstep, htried, hreply⟩ := hcopied
  exact ⟨before, stopping, earlier, later, hstep.extend more, htried, hreply⟩

theorem HasCopied.hasTried (hcopied : HasCopied path origin events message reply) :
    HasTried path origin events message (.ok ()) := by
  obtain ⟨before, stopping, earlier, later, hstep, htried, -⟩ := hcopied
  obtain ⟨following, rfl⟩ := hstep.split
  exact htried.extend _

/-- An event is silent if it is not an append and reads no newline. -/
theorem Silent.snoc (hsilent : Silent path origin events)
    (hrun : run path origin events = some state)
    (happend : event.isAppend = false)
    (hread : ∀ stopping count, event = .act stopping (.take count) →
      newline ∉ state.1.unread.take count) : Silent path origin (events ++ [event]) := by
  refine ⟨?_, ?_⟩
  · intro other hother
    rcases List.mem_append.mp hother with hother | hother
    · exact hsilent.1 other hother
    · rw [List.mem_singleton.mp hother]
      exact happend
  · rintro ⟨before, stopping, count, earlier, later, hstep, hnewline⟩
    rcases hstep.of_snoc with hstep | ⟨rfl, rfl⟩
    · exact hsilent.2 ⟨before, stopping, count, earlier, later, hstep, hnewline⟩
    · obtain rfl := Option.some.inj (hrun.symm.trans hstep.run_before)
      exact hread stopping count rfl hnewline

theorem Ended.extend {sent : Bytes} {result : Except ConnectionError Outcome}
    (hended : Ended path origin events sent result) (more : List ClientEvent)
    (hsilent : Silent path origin events → Silent path origin (events ++ more)) :
    Ended path origin (events ++ more) sent result := by
  rcases result with (cause | cause | cause) | (⟨words, reply⟩ | discarded | discarded)
  · exact ⟨hended.1, hsilent hended.2⟩
  · obtain ⟨hsent, message, failure, htried, hcause⟩ := hended
    exact ⟨hsent, message, failure, htried.extend more, hcause⟩
  · obtain ⟨message, reply, hcopied, hsent⟩ := hended
    exact ⟨message, reply, hcopied.extend more, hsent⟩
  · obtain ⟨message, hcopied, hlengths⟩ := hended
    exact ⟨message, hcopied.extend more, hlengths⟩
  · exact ⟨hended.1, hsilent hended.2⟩
  · exact ⟨hended.1, hsilent hended.2⟩

theorem Tells.extend {sent : Bytes} {stage : Stage} (htells : Tells path origin events sent stage)
    (more : List ClientEvent)
    (hsilent : Silent path origin events → Silent path origin (events ++ more)) :
    Tells path origin (events ++ more) sent stage := by
  cases stage with
  | receiving state => exact ⟨htells.1, hsilent htells.2⟩
  | appending message => exact ⟨htells.1, htells.2.extend more⟩
  | copying message => exact ⟨htells.1, htells.2.extend more⟩
  | sending message reply rest => exact ⟨htells.1, htells.2.extend more⟩
  | lingering outcome => exact Ended.extend htells more hsilent
  | closing result | ended result => exact Ended.extend htells more hsilent
  | panicked =>
      rcases htells with hsent | ⟨message, reply, hcopied, hsent⟩
      · exact .inl hsent
      · exact .inr ⟨message, reply, hcopied.extend more, hsent⟩

/-! ## Steps of the connection -/

/-- What was sent is a front of the copy, at every stage. -/
theorem Tells.sent {sent : Bytes} {stage : Stage} (htells : Tells path origin events sent stage) :
    sent = [] ∨ ∃ message reply, HasCopied path origin events message reply ∧ sent <+: reply := by
  have hended {result : Except ConnectionError Outcome}
      (hended : Ended path origin events sent result) :
      sent = [] ∨ ∃ message reply, HasCopied path origin events message reply ∧ sent <+: reply := by
    rcases result with (cause | cause | cause) | (⟨words, length⟩ | discarded | discarded)
    · exact .inl hended.1
    · exact .inl hended.1
    · obtain ⟨message, reply, hcopied, hfront, -⟩ := hended
      exact .inr ⟨message, reply, hcopied, hfront⟩
    · obtain ⟨message, hcopied, -⟩ := hended
      exact .inr ⟨message, sent, hcopied, List.prefix_rfl⟩
    · exact .inl hended.1
    · exact .inl hended.1
  cases stage with
  | receiving | appending | copying => exact .inl htells.1
  | sending message reply rest => exact .inr ⟨message, reply, htells.2, ⟨rest, htells.1⟩⟩
  | lingering | closing | ended => exact hended htells
  | panicked => exact htells

/-- A read ends receiving in silence, unless it brings a newline. -/
theorem Tells.ofReceiving {state : Receiving}
    (hread : ∀ message, state = .ended (.ok (.message message)) → HasReadLine path origin events)
    (hsilent : (∀ message, state ≠ .ended (.ok (.message message))) → Silent path origin events) :
    Tells path origin events [] (.ofReceiving state) := by
  unfold Stage.ofReceiving
  split
  · next message => exact ⟨rfl, hread message rfl⟩
  · exact ⟨rfl, hsilent nofun⟩
  · exact ⟨rfl, hsilent nofun⟩
  · exact ⟨rfl, hsilent nofun⟩
  · next hmessage _ _ _ => exact ⟨rfl, hsilent hmessage⟩

theorem Tells.next {connection moved : Connection} {input : ConnectionInput}
    (htells : Tells path origin events connection.sent connection.stage)
    (hnext : connection.next input = some moved) (more : List ClientEvent)
    (hsilent : input.isSilent → Silent path origin events → Silent path origin (events ++ more))
    (hread : ∀ chunk, input = .read (.chunk chunk) → newline ∈ chunk →
      HasReadLine path origin (events ++ more))
    (htried : ∀ message result, connection.stage = .appending message → input = .append result →
      ∃ outcome, result = outcome.mapError (.ofAppend path) ∧
        HasTried path origin (events ++ more) message outcome)
    (hcopied : ∀ message log, input = .copy log → HasTried path origin events message (.ok ()) →
      HasCopied path origin (events ++ more) message log) :
    Tells path origin (events ++ more) moved.sent moved.stage := by
  have hkept (hinput : input.isSilent) := htells.extend more (hsilent hinput)
  cases Connection.moved_of_next hnext with
  | read bytes result hstage =>
      rw [hstage] at htells
      obtain ⟨hsent, hquiet⟩ := htells
      rw [hsent]
      apply ofReceiving
      · intro message hmessage
        cases result with
        | chunk chunk =>
            refine hread chunk rfl ?_
            by_contra hchunk
            simp [Receiving.read, Bytes.line?_eq_none_iff.mpr hchunk] at hmessage
        | endOfStream | timedOut | interrupted | failed => cases hmessage
      · intro hmessage
        refine hsilent ?_ hquiet
        cases result with
        | chunk chunk =>
            refine decide_eq_true fun hchunk => ?_
            obtain ⟨line, hline⟩ := Option.ne_none_iff_exists'.mp
              (mt Bytes.line?_eq_none_iff.mp (not_not.mpr hchunk))
            exact hmessage (bytes ++ line) (by simp [Receiving.read, hline])
        | endOfStream | timedOut | interrupted | failed => rfl
  | looked bytes stopping hstage =>
      rw [hstage] at htells
      obtain ⟨hsent, hquiet⟩ := htells
      rw [hsent]
      apply ofReceiving
      · intro message hmessage
        cases stopping <;> cases hmessage
      · intro _
        exact hsilent rfl hquiet
  | appended message hstage =>
      rw [hstage] at htells
      obtain ⟨outcome, hok, hdone⟩ := htried message _ hstage rfl
      cases outcome with
      | ok => exact ⟨htells.1, hdone⟩
      | error failure => cases hok
  | refused message cause hstage =>
      rw [hstage] at htells
      obtain ⟨outcome, hfailed, hdone⟩ := htried message _ hstage rfl
      cases outcome with
      | ok => cases hfailed
      | error failure => exact ⟨htells.1, message, failure, hdone, Except.error.inj hfailed⟩
  | copied message log hstage =>
      rw [hstage] at htells
      exact ⟨by rw [htells.1, List.nil_append], hcopied message log rfl htells.2⟩
  | sent message reply rest answer hstage hrest =>
      have hsending := hkept rfl
      rw [hstage] at hsending
      obtain ⟨hreply, hcopy⟩ := hsending
      -- whatever is left of the reply has not been sent
      have hbroken : connection.sent <+: reply ∧ connection.sent ≠ reply := by
        refine ⟨⟨rest, hreply⟩, fun hwhole => hrest ?_⟩
        rwa [← hwhole, List.append_right_eq_self] at hreply
      unfold Connection.send
      split
      · exact ⟨message, reply, hcopy, hbroken⟩
      · exact ⟨by rw [List.append_assoc, List.take_append_drop, hreply], hcopy⟩
      · rw [hstage]
        exact ⟨hreply, hcopy⟩
      · exact ⟨message, reply, hcopy, hbroken⟩
  | flushed message reply hstage =>
      have hsending := hkept rfl
      rw [hstage] at hsending
      obtain ⟨hreply, hcopy⟩ := hsending
      rw [List.append_nil] at hreply
      exact ⟨message, hreply ▸ hcopy, rfl, congrArg List.length hreply.symm⟩
  | left outcome hstage | closed result hstage =>
      have hended := hkept rfl
      rw [hstage] at hended
      exact hended
  | panicked => exact (hkept rfl).sent

/-! ## Steps of the run -/

/-- A step of the task that is not an append leaves the log alone. -/
theorem log_eq_of_next {stopping : Bool} {step : ClientStep}
    (hnext : next path earlier (.act stopping step) = some later)
    (hquiet : ∀ obstacles, step ≠ .append obstacles) : later.2 = earlier.2 :=
  log_eq_of_act hnext hquiet

def Told (path : Path) (origin : Client × Log) (events : List ClientEvent) (client : Client) :
    Prop :=
  ∀ connection, client.connection = some connection →
    Tells path origin events connection.sent connection.stage

namespace Told

variable {client after : Client}

theorem extend (htold : Told path origin events client) (more : List ClientEvent)
    (hsilent : Silent path origin events → Silent path origin (events ++ more)) :
    Told path origin (events ++ more) client :=
  fun connection hconnection => (htold connection hconnection).extend more hsilent

theorem enter {input : ConnectionInput} (htold : Told path origin events client)
    (henter : client.enter input = some after) (more : List ClientEvent)
    (hsilent : input.isSilent → Silent path origin events → Silent path origin (events ++ more))
    (hread : ∀ chunk, input = .read (.chunk chunk) → newline ∈ chunk →
      HasReadLine path origin (events ++ more))
    (htried : ∀ message result, client.message? = some message → input = .append result →
      ∃ outcome, result = outcome.mapError (.ofAppend path) ∧
        HasTried path origin (events ++ more) message outcome)
    (hcopied : ∀ message log, input = .copy log → HasTried path origin events message (.ok ()) →
      HasCopied path origin (events ++ more) message log) :
    Told path origin (events ++ more) after := by
  obtain ⟨connection, moved, hconnection, hnext, rfl⟩ := exists_of_enter henter
  intro moved' hmoved
  obtain rfl := Option.some.inj hmoved
  refine (htold connection hconnection).next hnext more hsilent hread ?_ hcopied
  intro message result hstage
  refine htried message result ?_
  obtain ⟨stage, sent⟩ := connection
  obtain rfl : stage = .appending message := hstage
  rw [Client.message?, hconnection]

/-- A step of the task does what it tells. -/
theorem act {stopping : Bool} {step : ClientStep} (htold : Told path origin events state.1)
    (hrun : run path origin events = some state)
    (hnext : Client.next path state (.act stopping step) = some following) :
    Told path origin (events ++ [.act stopping step]) following.1 := by
  obtain ⟨client, log⟩ := following
  have hlast := TakesStep.last hrun hnext
  have hsilent (happend : ClientEvent.isAppend (.act stopping step) = false)
      (htake : ∀ count, step = .take count → newline ∉ state.1.unread.take count)
      (hsilent : Silent path origin events) :
      Silent path origin (events ++ [.act stopping step]) := by
    refine hsilent.snoc hrun happend ?_
    intro stopping count hevent
    exact htake count (ClientEvent.act.inj hevent).2
  cases acted_of_next hnext with
  | took count _ hoffers henter =>
      have hrest : Told path origin events
          { state.1 with unread := state.1.unread.drop count } := htold
      refine hrest.enter henter _ ?_ ?_ nofun nofun
      · intro hquiet
        refine hsilent rfl ?_
        intro count' hsame
        obtain rfl := ClientStep.take.inj hsame
        exact of_decide_eq_true hquiet
      · intro chunk hchunk hnewline
        obtain rfl : state.1.unread.take count = chunk :=
          Read.chunk.inj (ConnectionInput.read.inj hchunk)
        exact ⟨events, stopping, count, state, _, hlast, hnewline⟩
  | appended obstacles message _ hmessage henter =>
      refine htold.enter henter _ nofun nofun ?_ nofun
      intro message' result hsame hinput
      obtain rfl := Option.some.inj (hmessage.symm.trans hsame)
      exact ⟨_, (ConnectionInput.append.inj hinput).symm,
        events, stopping, obstacles, state, _, hlast, hmessage, rfl⟩
  | discarded count outcome sent hconnection => exact htold.extend _ (hsilent rfl nofun)
  | entered _ input _ hinput _ _ henter =>
      refine htold.enter henter _ ?_ ?_ ?_ ?_
      · intro _
        refine hsilent ?_ ?_
        · cases step <;> first | rfl | cases hinput
        · rintro count rfl
          cases hinput
      · rintro chunk rfl
        cases step <;> cases hinput
      · rintro message result - rfl
        cases step <;> cases hinput
      · -- the append was before the state in which this step begins
        rintro message copy rfl htried
        have hcopy : step = .copy ∧ copy = state.2.bytes := by
          cases step <;> cases hinput
          exact ⟨rfl, rfl⟩
        obtain ⟨rfl, rfl⟩ := hcopy
        exact ⟨events, stopping, state, _, hlast, htried, rfl⟩

theorem next (htold : Told path origin events state.1) (hrun : run path origin events = some state)
    (hnext : Client.next path state event = some following) :
    Told path origin (events ++ [event]) following.1 := by
  have hsame (happend : event.isAppend = false) (hact : ∀ stopping step, event ≠ .act stopping step)
      (hconnection : following.1.connection = state.1.connection) :
      Told path origin (events ++ [event]) following.1 := by
    intro connection hfollowing
    rw [hconnection] at hfollowing
    refine (htold connection hfollowing).extend _ fun hsilent => hsilent.snoc hrun happend ?_
    intro stopping count hevent
    exact absurd hevent (hact stopping _)
  cases event with
  | act stopping step => exact htold.act hrun hnext
  | arrive bytes =>
      obtain ⟨-, hsome⟩ := Option.ite_none_left_eq_some.mp hnext
      refine hsame rfl nofun ?_
      rw [← Option.some.inj hsome]
      rfl
  | finish | others =>
      refine hsame rfl nofun ?_
      rw [← Option.some.inj hnext]

end Told

theorem told_of_run (hrun : run path (started, log) events = some state) :
    Told path (started, log) events state.1 := by
  refine foldlM_induction (fun events state => Told path (started, log) events state.1) ?_ ?_ hrun
  · intro connection hconnection
    obtain rfl := Option.some.inj hconnection
    refine ⟨rfl, List.forall_mem_nil _, ?_⟩
    rintro ⟨before, stopping, count, earlier, later, hstep, -⟩
    obtain ⟨following, hsplit⟩ := hstep.split
    simp at hsplit
  · intro events state event after hevents htold hnext
    exact htold.next hevents hnext

end Client

end LineLog
