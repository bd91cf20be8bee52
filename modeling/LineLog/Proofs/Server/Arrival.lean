import LineLog.Proofs.Server.CanReply
import LineLog.Proofs.Server.Reply

/-!
# Messages that have arrived

A worker looks at the shutdown flag only after a read that timed out, and a read times
out only when nothing is queued.  So a worker that gives up has read everything that
its client had sent by then, and there was no newline in it.  A message whose newline
has arrived by then is appended and replied to, however early shutdown was requested,
unless an error comes in between.
-/

namespace LineLog

/-- Whether a step of the task is an error: a read fails, the log refuses the message, or
the reply cannot be sent. -/
def Client.Fails (client : Client) (log : Log) : ClientStep → Prop
  | .fail _ | .send (.refused _) | .send (.accepted 0) => True
  | .append obstacles =>
      ∃ message, client.message? = some message ∧ (log.append obstacles message).2 ≠ .ok ()
  | _ => False

def Stage.HasFailed : Stage → Prop
  | .closing (.error _) | .ended (.error _) | .panicked => True
  | _ => False

namespace Client

def HasFailed (client : Client) : Prop :=
  ∃ connection, client.connection = some connection ∧ connection.stage.HasFailed

variable {path : Path} {stopping : Bool} {client after : Client} {log final : Log}

/-- An error ends the work of the task at once. -/
theorem Fails.hasFailed {step : ClientStep} (hfails : client.Fails log step)
    (hact : client.act path stopping step log = some (after, final)) : after.HasFailed := by
  cases acted_of_act hact with
  | took | discarded => cases hfails
  | appended obstacles message _ hmessage henter =>
      obtain ⟨connection, moved, -, hmoved, rfl⟩ := exists_of_enter henter
      refine ⟨moved, rfl, ?_⟩
      obtain ⟨other, hother, hrefused⟩ := hfails
      obtain rfl := Option.some.inj (hmessage.symm.trans hother)
      cases hresult : (log.append obstacles message).2 with
      | ok => exact absurd hresult hrefused
      | error failure =>
          rw [hresult] at hmoved
          cases Connection.moved_of_next hmoved
          trivial
  | entered _ input _ hinput _ _ henter =>
      obtain ⟨connection, moved, -, hmoved, rfl⟩ := exists_of_enter henter
      refine ⟨moved, rfl, ?_⟩
      cases step with
      | fail error =>
          obtain rfl := Option.some.inj hinput
          cases Connection.moved_of_next hmoved
          trivial
      | send answer =>
          obtain rfl := Option.some.inj hinput
          cases Connection.moved_of_next hmoved
          cases answer with
          | accepted count =>
              cases count with
              | zero => trivial
              | succ count => cases hfails
          | interrupted => cases hfails
          | refused cause => trivial
      | append obstacles => cases hinput
      | _ => cases hfails

/-- There is no way back from an error. -/
theorem HasFailed.act {step : ClientStep} (hfailed : client.HasFailed)
    (hact : client.act path stopping step log = some (after, final)) : after.HasFailed := by
  obtain ⟨connection, hconnection, hstage⟩ := hfailed
  have henter {unread : Bytes} {input : ConnectionInput}
      (henter : { client with unread }.enter input = some after) : after.HasFailed := by
    obtain ⟨other, moved, hother, hmoved, rfl⟩ := exists_of_enter henter
    obtain rfl := Option.some.inj (hconnection.symm.trans hother)
    refine ⟨moved, rfl, ?_⟩
    cases Connection.moved_of_next hmoved with
    | closed result hclosing =>
        rw [hclosing] at hstage
        cases result with
        | error cause => trivial
        | ok => exact hstage
    | panicked => trivial
    | read _ _ hother | looked _ _ hother | appended _ hother | refused _ _ hother
    | copied _ _ hother | sent _ _ _ _ hother | flushed _ _ hother | left _ hother =>
        rw [hother] at hstage
        cases hstage
  cases acted_of_act hact with
  | took _ _ _ hentered | appended _ _ _ _ hentered | entered _ _ _ _ _ _ hentered =>
      exact henter hentered
  | discarded => exact ⟨connection, hconnection, hstage⟩

end Client

namespace Server

section Definitions

variable (origin : Server) (events : List ServerEvent) (number : Nat)

def Fails : Prop :=
  ∃ before step earlier later, origin.TakesStep events before (.serve number step) earlier later ∧
    (earlier.clients.get number).Fails earlier.log step

def Quiet : Prop :=
  ∀ obstacles, .serve number (.append obstacles) ∉ events

/-- The latest step of the worker was a read that timed out in the state `atTimeOut`. -/
def TimedOut (atTimeOut : Server) : Prop :=
  ∃ before middle timedOut, events = before ++ .serve number .timeOut :: middle ∧
    origin.TakesStep events before (.serve number .timeOut) atTimeOut timedOut ∧
    ∀ step, .serve number step ∉ middle

/-- A read of the worker times out in the state `atTimeOut`, and in its next step, in the
state `atLook`, the worker finds the shutdown flag set. -/
def GivesUp (atTimeOut atLook : Server) : Prop :=
  ∃ before looked, origin.TakesStep events before (.serve number .look) atLook looked ∧
    origin.TimedOut before number atTimeOut ∧ atLook.stopping

end Definitions

def Unfinished (server : Server) (number : Nat) (bytes : Bytes) : Prop :=
  (server.clients.get number).unread = [] ∧ (server.clients.get number).arrived = bytes ∧
    newline ∉ bytes

def IsReply (client : Client) (sent : Bytes) (outcome : Outcome) : Prop :=
  ∃ message, client.arrived.line? = some message ∧ outcome = .replied message.length sent.length

/-- What has led to the result of a worker. -/
def Concluded (origin : Server) (events : List ServerEvent) (number : Nat) (client : Client)
    (sent : Bytes) : Except ConnectionError Outcome → Prop
  | .ok (.replied words length) => IsReply client sent (.replied words length)
  | .ok (.disconnected _) => client.finished ∧ newline ∉ client.arrived
  | .ok (.abandoned discarded) =>
      sent = [] ∧ Quiet events number ∧ ∃ atTimeOut atLook bytes,
        origin.GivesUp events number atTimeOut atLook ∧ atTimeOut.Unfinished number bytes ∧
        bytes.length = discarded
  | .error _ => origin.Fails events number

def Led (origin : Server) (events : List ServerEvent) (number : Nat) (client : Client)
    (sent : Bytes) : Stage → Prop
  | .receiving (.silent bytes) =>
      sent = [] ∧ Quiet events number ∧
        ∃ atTimeOut, origin.TimedOut events number atTimeOut ∧ atTimeOut.Unfinished number bytes
  | .receiving _ => sent = [] ∧ Quiet events number
  | .lingering outcome => IsReply client sent outcome
  | .closing result | .ended result => origin.Concluded events number client sent result
  | .appending _ | .copying _ | .sending _ _ _ | .panicked => True

variable {origin server after : Server} {events : List ServerEvent} {event : ServerEvent}
  {number : Nat}

/-! ## Runs with one more event -/

/-- An error that was met stays one that was met. -/
theorem Fails.extend (hfails : origin.Fails events number) (more : List ServerEvent) :
    origin.Fails (events ++ more) number := by
  obtain ⟨before, step, earlier, later, hstep, hfailure⟩ := hfails
  exact ⟨before, step, earlier, later, hstep.extend more, hfailure⟩

theorem GivesUp.extend {atTimeOut atLook : Server}
    (hgives : origin.GivesUp events number atTimeOut atLook) (more : List ServerEvent) :
    origin.GivesUp (events ++ more) number atTimeOut atLook := by
  obtain ⟨before, looked, hlook, htimedOut, hstopping⟩ := hgives
  exact ⟨before, looked, hlook.extend more, htimedOut, hstopping⟩

theorem Quiet.snoc (hquiet : Quiet events number)
    (hevent : ∀ obstacles, event ≠ .serve number (.append obstacles)) :
    Quiet (events ++ [event]) number := by
  intro obstacles hmem
  rcases List.mem_append.mp hmem with hold | hnew
  · exact hquiet obstacles hold
  · exact hevent obstacles (List.mem_singleton.mp hnew).symm

theorem TimedOut.snoc {atTimeOut : Server} (htimedOut : origin.TimedOut events number atTimeOut)
    (hevent : ∀ step, event ≠ .serve number step) :
    origin.TimedOut (events ++ [event]) number atTimeOut := by
  obtain ⟨before, middle, timedOut, rfl, hstep, hmiddle⟩ := htimedOut
  refine ⟨before, middle ++ [event], timedOut, by simp, hstep.extend [event], ?_⟩
  intro step hmem
  rcases List.mem_append.mp hmem with hold | hnew
  · exact hmiddle step hold
  · exact hevent step (List.mem_singleton.mp hnew).symm

/-- A reply fits its message, whatever else its client sends. -/
theorem IsReply.mono {client following : Client} {sent : Bytes} {outcome : Outcome}
    (hreply : IsReply client sent outcome) (harrived : client.arrived <+: following.arrived) :
    IsReply following sent outcome := by
  obtain ⟨message, hmessage, houtcome⟩ := hreply
  obtain ⟨more, hmore⟩ := harrived
  exact ⟨message, hmore ▸ Bytes.line?_append hmessage more, houtcome⟩

/-- What has led to a result stays so, whatever else the client sends. -/
theorem Concluded.snoc {client following : Client} {sent : Bytes}
    {result : Except ConnectionError Outcome}
    (hconcluded : origin.Concluded events number client sent result)
    (harrived : client.arrived <+: following.arrived)
    (hfinished : client.finished → following.finished ∧ following.arrived = client.arrived)
    (hevent : ∀ obstacles, event ≠ .serve number (.append obstacles)) :
    origin.Concluded (events ++ [event]) number following sent result := by
  rcases result with cause | (⟨message, reply⟩ | discarded | discarded)
  · exact Fails.extend hconcluded [event]
  · exact IsReply.mono hconcluded harrived
  · obtain ⟨hclosed, hnewline⟩ := hconcluded
    obtain ⟨hstays, hsame⟩ := hfinished hclosed
    exact ⟨hstays, hsame ▸ hnewline⟩
  · obtain ⟨hsent, hquiet, atTimeOut, atLook, bytes, hgives, hunfinished⟩ := hconcluded
    exact ⟨hsent, hquiet.snoc hevent, atTimeOut, atLook, bytes, hgives.extend [event], hunfinished⟩

/-- What has led to a stage stays so while others take steps. -/
theorem Led.snoc {client following : Client} {sent : Bytes} {stage : Stage}
    (hled : origin.Led events number client sent stage)
    (harrived : client.arrived <+: following.arrived)
    (hfinished : client.finished → following.finished ∧ following.arrived = client.arrived)
    (hevent : ∀ step, event ≠ .serve number step) :
    origin.Led (events ++ [event]) number following sent stage := by
  have happend (obstacles : Obstacles) := hevent (.append obstacles)
  cases stage with
  | receiving state =>
      cases state with
      | silent bytes =>
          obtain ⟨hsent, hquiet, atTimeOut, htimedOut, hunfinished⟩ := hled
          exact ⟨hsent, hquiet.snoc happend, atTimeOut, htimedOut.snoc hevent, hunfinished⟩
      | waiting | ended => exact ⟨hled.1, hled.2.snoc happend⟩
  | lingering outcome => exact IsReply.mono hled harrived
  | closing result | ended result => exact Concluded.snoc hled harrived hfinished happend
  | appending | copying | sending | panicked => trivial

/-! ## Steps of the run -/

/-- A client that sends nothing more has sent what it has sent. -/
theorem finished_of_next (hnext : server.next event = some after)
    (hfinished : (server.clients.get number).finished) :
    (after.clients.get number).finished ∧
      (after.clients.get number).arrived = (server.clients.get number).arrived := by
  have hset {other : Nat} {client : Client}
      (hsame : number = other → client.finished ∧
        client.arrived = (server.clients.get number).arrived) :
      ((server.clients.set other client).get number).finished ∧
        ((server.clients.set other client).get number).arrived =
          (server.clients.get number).arrived := by
    by_cases hnumber : number = other
    · subst hnumber
      rw [Threads.get_set_self]
      exact hsame rfl
    · rw [Threads.get_set_of_ne _ _ hnumber]
      exact ⟨hfinished, rfl⟩
  cases stepped_of_next hnext with
  | triggered | began | stopped | joinedTicker | joinedWorker | joinedAll | removed | turned
  | reaped | ticked | tickerAppended => exact ⟨hfinished, rfl⟩
  | arrived other bytes hunfinished =>
      refine hset ?_
      rintro rfl
      rw [hfinished] at hunfinished
      cases hunfinished
  | finished other =>
      refine hset ?_
      rintro rfl
      exact ⟨rfl, rfl⟩
  | accepted other | started other =>
      refine hset ?_
      rintro rfl
      exact ⟨hfinished, rfl⟩
  | served other step client hact =>
      refine hset ?_
      rintro rfl
      obtain ⟨harrived, hkept, -⟩ := Client.frame_of_act hact
      exact ⟨hkept ▸ hfinished, harrived⟩
  | appended other obstacles message client hmessage henter =>
      refine hset ?_
      rintro rfl
      obtain ⟨connection, moved, -, -, rfl⟩ := Client.exists_of_enter henter
      exact ⟨hfinished, rfl⟩

/-- A step of a worker is a step of its task alone, against the log and the flag of the server. -/
theorem act_of_next {step : ClientStep} (hnext : server.next (.serve number step) = some after) :
    (server.clients.get number).act server.path server.stopping step server.log =
      some (after.clients.get number, after.log) := by
  obtain ⟨⟨client, log⟩, hact, hafter⟩ := Option.bind_eq_some_iff.mp hnext
  obtain rfl := Option.some.inj hafter
  rw [hact, Threads.get_set_self]

/-! ## Steps of the worker -/

/-- What a read leads to: its message, the end of the stream, a time-out or an error. -/
theorem Led.read {client : Client} {sent bytes : Bytes} {result : Read} (hsent : sent = [])
    (hquiet : Quiet events number)
    (hclosed : result = .endOfStream → client.finished ∧ newline ∉ client.arrived)
    (htimedOut : result = .timedOut →
      ∃ atTimeOut, origin.TimedOut events number atTimeOut ∧ atTimeOut.Unfinished number bytes)
    (hfailed : ∀ error, result = .failed error → origin.Fails events number) :
    origin.Led events number client sent
      (.ofReceiving ((Receiving.waiting bytes).read result)) := by
  cases result with
  | chunk chunk =>
      simp only [Receiving.read]
      cases chunk.line? with
      | some line => trivial
      | none => exact ⟨hsent, hquiet⟩
  | endOfStream => exact hclosed rfl
  | timedOut => exact ⟨hsent, hquiet, htimedOut rfl⟩
  | interrupted => exact ⟨hsent, hquiet⟩
  | failed error => exact hfailed error rfl

/-- A worker that finds the flag set gives up. -/
theorem Led.look {client following : Client} {sent bytes : Bytes}
    (hled : origin.Led events number client sent (.receiving (.silent bytes)))
    (hlast : origin.TakesStep (events ++ [.serve number .look]) events (.serve number .look)
      server after) :
    origin.Led (events ++ [.serve number .look]) number following sent
      (.ofReceiving ((Receiving.silent bytes).look server.stopping)) := by
  obtain ⟨hsent, hquiet, atTimeOut, htimedOut, hunfinished⟩ := hled
  have hquiet : Quiet (events ++ [.serve number .look]) number := hquiet.snoc nofun
  cases hstopping : server.stopping with
  | false => exact ⟨hsent, hquiet⟩
  | true =>
      have hgives : origin.GivesUp (events ++ [.serve number .look]) number atTimeOut server :=
        ⟨events, after, hlast, htimedOut, hstopping⟩
      exact ⟨hsent, hquiet, atTimeOut, server, bytes, hgives, hunfinished, rfl⟩

theorem Led.send {following : Client} {connection : Connection} {message reply rest : Bytes}
    {answer : WriteAnswer} (hstage : connection.stage = .sending message reply rest)
    (hlast : origin.TakesStep (events ++ [.serve number (.send answer)]) events
      (.serve number (.send answer)) server after) :
    origin.Led (events ++ [.serve number (.send answer)]) number following
      (connection.send message reply rest answer).sent
      (connection.send message reply rest answer).stage := by
  unfold Connection.send
  split
  · exact ⟨events, _, server, after, hlast, trivial⟩
  · trivial
  · rw [hstage]
    trivial
  · exact ⟨events, _, server, after, hlast, trivial⟩

structure Traced (origin : Server) (events : List ServerEvent) (number : Nat)
    (client : Client) : Prop where
  quiet : client.connection = none → Quiet events number
  led : ∀ connection, client.connection = some connection →
    origin.Led events number client connection.sent connection.stage

namespace Traced

theorem of_connection {client : Client} {connection : Connection}
    (hconnection : client.connection = some connection)
    (hled : origin.Led events number client connection.sent connection.stage) :
    origin.Traced events number client where
  quiet hnone := by
    rw [hconnection] at hnone
    cases hnone
  led other hother := by
    obtain rfl := Option.some.inj (hconnection.symm.trans hother)
    exact hled

/-- A read finds the end of what the client sends, or nothing at the moment, only after the
worker has read all that was sent. -/
theorem unfinished {connection : Connection} {bytes : Bytes}
    (hheard : (server.clients.get number).Heard)
    (hconnection : (server.clients.get number).connection = some connection)
    (hstage : connection.stage = .receiving (.waiting bytes))
    (hunread : (server.clients.get number).unread = []) : server.Unfinished number bytes := by
  have hhears := hheard.hears hconnection
  rw [hstage] at hhears
  obtain ⟨harrived, hnewline⟩ := hhears
  rw [hunread, List.append_nil] at harrived
  exact ⟨hunread, harrived, hnewline⟩

/-- The worker appends its message, or the log refuses it. -/
theorem append {obstacles : Obstacles} {message : Bytes} {following : Client}
    (hrun : origin.run events = some server)
    (hnext : server.next (.serve number (.append obstacles)) = some after)
    (hmessage : (server.clients.get number).message? = some message)
    (henter : (server.clients.get number).enter (.append
      ((server.log.append obstacles message).2.mapError (.ofAppend server.path))) =
        some following) :
    origin.Traced (events ++ [.serve number (.append obstacles)]) number following := by
  obtain ⟨connection, moved, hconnection, hmoved, rfl⟩ := Client.exists_of_enter henter
  apply of_connection rfl
  cases hresult : (server.log.append obstacles message).2 with
  | ok =>
      rw [hresult] at hmoved
      cases Connection.moved_of_next hmoved
      trivial
  | error failure =>
      rw [hresult] at hmoved
      cases Connection.moved_of_next hmoved
      exact ⟨events, .append obstacles, server, after, .last hrun hnext, message, hmessage,
        by rw [hresult]; exact nofun⟩

/-- The connection takes a step that needs no more than the flag and a copy of the log. -/
theorem enter {step : ClientStep} {input : ConnectionInput} {following : Client}
    (htraced : origin.Traced events number (server.clients.get number))
    (htold : origin.Told events number (server.clients.get number))
    (hheard : (server.clients.get number).Heard) (hrun : origin.run events = some server)
    (hnext : server.next (.serve number step) = some after)
    (hinput : step.input? server.stopping server.log = some input)
    (hend : step = .endOfStream →
      (server.clients.get number).finished ∧ (server.clients.get number).unread = [])
    (htime : step = .timeOut → (server.clients.get number).unread = [])
    (henter : (server.clients.get number).enter input = some following) :
    origin.Traced (events ++ [.serve number step]) number following := by
  have hlast := TakesStep.last hrun hnext
  obtain ⟨connection, moved, hconnection, hmoved, rfl⟩ := Client.exists_of_enter henter
  apply of_connection rfl
  have hled := htraced.led connection hconnection
  cases Connection.moved_of_next hmoved with
  | read bytes result hstage =>
      rw [hstage] at hled
      have hquiet : Quiet (events ++ [.serve number step]) number :=
        hled.2.snoc fun obstacles hsame => by
          obtain ⟨-, rfl⟩ := ServerEvent.serve.inj hsame
          cases hinput
      refine Led.read hled.1 hquiet ?_ ?_ ?_
      · rintro rfl
        obtain rfl : step = .endOfStream := by cases step <;> cases hinput; rfl
        obtain ⟨hfinished, hunread⟩ := hend rfl
        obtain ⟨-, harrived, hnewline⟩ := unfinished hheard hconnection hstage hunread
        exact ⟨hfinished, by rwa [← harrived] at hnewline⟩
      · rintro rfl
        obtain rfl : step = .timeOut := by cases step <;> cases hinput; rfl
        have hunfinished := unfinished hheard hconnection hstage (htime rfl)
        exact ⟨server, ⟨events, [], after, rfl, hlast, nofun⟩, hunfinished⟩
      · rintro error rfl
        obtain rfl : step = .fail error := by cases step <;> cases hinput; rfl
        exact ⟨events, .fail error, server, after, hlast, trivial⟩
  | looked bytes stopping hstage =>
      rw [hstage] at hled
      obtain ⟨rfl, rfl⟩ : step = .look ∧ server.stopping = stopping := by
        cases step <;> cases hinput
        exact ⟨rfl, rfl⟩
      exact Led.look hled hlast
  | appended | refused => cases step <;> cases hinput
  | copied => trivial
  | sent message reply rest answer hstage =>
      obtain rfl : step = .send answer := by cases step <;> cases hinput; rfl
      exact Led.send hstage hlast
  | flushed message reply hstage =>
      have htells := htold connection hconnection
      rw [hstage] at htells
      obtain rfl : reply = connection.sent := htells.1.trans (List.append_nil _)
      have hhears := hheard.hears hconnection
      rw [hstage] at hhears
      exact ⟨message, hhears, rfl⟩
  | left outcome hstage =>
      rw [hstage] at hled
      obtain ⟨message, hmessage, rfl⟩ := hled
      exact ⟨message, hmessage, rfl⟩
  | closed result hstage =>
      rw [hstage] at hled
      refine Concluded.snoc hled (List.prefix_refl _) (fun hfinished => ⟨hfinished, rfl⟩) ?_
      intro obstacles hsame
      obtain ⟨-, rfl⟩ := ServerEvent.serve.inj hsame
      cases hinput
  | panicked => trivial

/-- A step of the worker leads to the next stage. -/
theorem serve {step : ClientStep}
    (htraced : origin.Traced events number (server.clients.get number))
    (htold : origin.Told events number (server.clients.get number))
    (hheard : (server.clients.get number).Heard) (hrun : origin.run events = some server)
    (hnext : server.next (.serve number step) = some after) {following : Client} {final : Log}
    (hact : (server.clients.get number).act server.path server.stopping step server.log =
      some (following, final)) :
    origin.Traced (events ++ [.serve number step]) number following := by
  cases Client.acted_of_act hact with
  | took count _ hoffers henter =>
      obtain ⟨connection, moved, hconnection, hmoved, rfl⟩ := Client.exists_of_enter henter
      apply of_connection rfl
      have hled := htraced.led connection hconnection
      cases Connection.moved_of_next hmoved with
      | read bytes result hstage =>
          rw [hstage] at hled
          exact Led.read hled.1 (hled.2.snoc nofun) nofun nofun nofun
  | appended obstacles message _ hmessage henter => exact append hrun hnext hmessage henter
  | discarded count outcome sent hconnection =>
      exact of_connection hconnection (htraced.led _ hconnection)
  | entered _ input _ hinput hend htime henter =>
      exact htraced.enter htold hheard hrun hnext hinput hend htime henter

end Traced

/-- On every run, what has led to the stage of a worker is on the run. -/
theorem traced_of_run {settings : Settings} {path : Path} {log : Log}
    (hrun : (initial settings path log).run events = some server) (number : Nat) :
    (initial settings path log).Traced events number (server.clients.get number) := by
  refine foldlM_induction (fun events state =>
    (initial settings path log).Traced events number (state.clients.get number)) ?_ ?_ hrun
  · exact ⟨fun _ => nofun, nofun⟩
  · intro events state event following hevents htraced hnext
    by_cases hserve : ∃ step, event = .serve number step
    · obtain ⟨step, rfl⟩ := hserve
      exact htraced.serve (told_of_run hevents number) ((attentive_of_run hevents).heard number)
        hevents hnext (act_of_next hnext)
    · have hevent : ∀ step, event ≠ .serve number step := not_exists.mp hserve
      have hquiet (hnone : (state.clients.get number).connection = none) :
          Quiet (events ++ [event]) number :=
        (htraced.quiet hnone).snoc fun obstacles => hevent _
      have hothers (hconnection : (following.clients.get number).connection =
          (state.clients.get number).connection) :
          (initial settings path log).Traced (events ++ [event]) number
            (following.clients.get number) := by
        refine ⟨fun hnone => hquiet (hconnection ▸ hnone), fun connection hsame => ?_⟩
        exact (htraced.led connection (hconnection ▸ hsame)).snoc
          (arrived_prefix_of_next hnext number) (finished_of_next hnext) hevent
      cases clientStepped_of_next hnext number with
      | kept hconnection => exact hothers hconnection
      | arrived bytes _ hclient => exact hothers (by rw [hclient]; rfl)
      | started hphase hafter hclient =>
          rw [hclient]
          refine Traced.of_connection rfl ⟨rfl, hquiet ?_⟩
          exact ((attentive_of_run hevents).admitted.fresh number hphase).1
      | served step hsame => exact absurd hsame (hevent step)

/-! ## The end of the worker -/

/-- A worker that has met an error does not come back from it. -/
theorem hasFailed_of_run {settings : Settings} {path : Path} {log : Log}
    (hrun : (initial settings path log).run events = some server) {more : List ServerEvent}
    (hmore : server.run more = some after) (hfailed : (server.clients.get number).HasFailed) :
    (after.clients.get number).HasFailed := by
  refine (foldlM_induction (fun more state => (initial settings path log).run (events ++ more) =
    some state ∧ (state.clients.get number).HasFailed) ⟨?_, hfailed⟩ ?_ hmore).2
  · rwa [List.append_nil]
  · rintro more state event following - ⟨hreached, hstate⟩ hnext
    have hreaches : (initial settings path log).run (events ++ (more ++ [event])) =
        some following := by
      rw [← List.append_assoc]
      exact foldlM_snoc_eq_some_iff.mpr ⟨state, hreached, hnext⟩
    refine ⟨hreaches, ?_⟩
    cases clientStepped_of_next hnext number with
    | kept hconnection => rwa [Client.HasFailed, hconnection]
    | arrived bytes _ hclient =>
        rw [hclient]
        exact hstate
    | started hphase =>
        obtain ⟨connection, hconnection, -⟩ := hstate
        rw [((attentive_of_run hreached).admitted.fresh number hphase).1] at hconnection
        cases hconnection
    | served step _ hact => exact hstate.act hact

/-- A worker that has met an error does not get past it. -/
theorem Fails.hasFailed {settings : Settings} {path : Path} {log : Log}
    (hfails : (initial settings path log).Fails events number)
    (hrun : (initial settings path log).run events = some server) :
    (server.clients.get number).HasFailed := by
  obtain ⟨before, step, earlier, later, hstep, hfailure⟩ := hfails
  obtain ⟨following, -, hfollowing⟩ := hstep.run_following hrun
  have hlater : (initial settings path log).run (before ++ [.serve number step]) = some later :=
    foldlM_snoc_eq_some_iff.mpr ⟨earlier, hstep.run_before, hstep.next⟩
  exact hasFailed_of_run hlater hfollowing (hfailure.hasFailed (act_of_next hstep.next))

/-- Before it appends, a worker leaves the log alone. -/
theorem Quiet.kept_of_takesStep {before : List ServerEvent} {step : ClientStep}
    {earlier later : Server} (hquiet : Quiet events number)
    (hstep : origin.TakesStep events before (.serve number step) earlier later) :
    later.log = earlier.log ∧ later.entries = earlier.entries := by
  cases stepped_of_next hstep.next with
  | served => exact ⟨rfl, rfl⟩
  | appended _ obstacles =>
      obtain ⟨following, rfl⟩ := hstep.split
      exact absurd (by simp) (hquiet obstacles)

/-- A newline of the client has arrived, and it had when the read timed out after which the
worker found the flag set, if there is such a read.  The worker has met no error. -/
structure InTime (origin : Server) (events : List ServerEvent) (server : Server)
    (number : Nat) : Prop where
  arrived : newline ∈ (server.clients.get number).arrived
  in_time : ∀ atTimeOut atLook, origin.GivesUp events number atTimeOut atLook →
    newline ∈ (atTimeOut.clients.get number).arrived
  unharmed : ¬ origin.Fails events number

/-- A worker whose message is in time and which has ended has replied with a copy of the log. -/
theorem InTime.replied {settings : Settings} {path : Path} {log : Log}
    {result : Except ConnectionError Outcome} {sent : Bytes}
    (hrun : (initial settings path log).run events = some server)
    (hinTime : (initial settings path log).InTime events server number)
    (hended : (server.clients.get number).connection = some ⟨.ended result, sent⟩) :
    ∃ message before atAppend appended beforeCopy atCopy,
      (server.clients.get number).arrived.line? = some message ∧
      result = .ok (.replied message.length sent.length) ∧
      (initial settings path log).Answered events number message sent before atAppend
        appended beforeCopy atCopy ∧
      ⟨.client number, message⟩ ∈ server.entries := by
  have hconcluded := (traced_of_run hrun number).led _ hended
  rcases result with cause | (⟨words, length⟩ | discarded | discarded)
  · exact absurd hconcluded hinTime.unharmed
  · obtain ⟨message, hmessage, houtcome⟩ := hconcluded
    obtain ⟨line, before, atAppend, appended, beforeCopy, atCopy, hanswered⟩ :=
      told_of_run hrun number _ hended
    have hentry : ⟨.client number, line⟩ ∈ server.entries := by
      obtain ⟨copied, hcopy⟩ := hanswered.copy
      obtain ⟨following, hsplit⟩ := hcopy.split
      have hown := hanswered.own.extend (.serve number .copy :: following)
      rw [← hsplit] at hown
      exact (hown.prefix_entries hrun).subset (by simp)
    -- a client has one first line, so what was appended is what the outcome speaks of
    obtain rfl : message = line := by
      have hline := isWhole_of_run hrun _ hentry
      exact Option.some.inj (hmessage.symm.trans hline)
    exact ⟨message, before, atAppend, appended, beforeCopy, atCopy, hmessage,
      congrArg _ houtcome, hanswered, hentry⟩
  · exact absurd hinTime.arrived hconcluded.2
  · obtain ⟨-, -, atTimeOut, atLook, bytes, hgiven, ⟨-, rfl, hnothing⟩, -⟩ := hconcluded
    exact absurd (hinTime.in_time atTimeOut atLook hgiven) hnothing

/-! ## Going on to the end -/

/-- A worker to which the newline came in time can go on to its reply, unless its read has just
timed out and it is going to find the flag set. -/
theorem InTime.canReply {settings : Settings} {path : Path} {log : Log}
    (hrun : (initial settings path log).run events = some server) (hopen : log.file.isSome)
    (hinTime : (initial settings path log).InTime events server number)
    (hserved : (server.clients.get number).isServed)
    (hawake : server.stopping →
      ∀ atTimeOut, ¬ (initial settings path log).TimedOut events number atTimeOut) :
    server.CanReply number := by
  have hfile : server.log.file.isSome := (open_of_busy hrun (.inr ⟨number, hserved⟩)).1.trans hopen
  obtain ⟨connection, hconnection⟩ :=
    Option.isSome_iff_exists.mp (Client.isSome_connection_of_isServed hserved)
  have hled := (traced_of_run hrun number).led connection hconnection
  have hhears := ((attentive_of_run hrun).heard number).hears hconnection
  have hrunning : connection.stage.ending = none := by
    simpa [Client.isServed, hconnection] using hserved
  have hqueued {bytes : Bytes}
      (hread : (server.clients.get number).arrived = bytes ++ (server.clients.get number).unread ∧
        newline ∉ bytes) : newline ∈ (server.clients.get number).unread := by
    have harrived := hinTime.arrived
    rw [hread.1] at harrived
    exact (List.mem_append.mp harrived).resolve_left hread.2
  obtain ⟨stage, sent⟩ := connection
  cases stage with
  | receiving state =>
      cases state with
      | waiting bytes => exact .of_waiting hfile (hqueued hhears) hconnection
      | silent bytes =>
          obtain ⟨-, -, atTimeOut, htimedOut, -⟩ := hled
          have hgoing : server.stopping = false := by
            rw [← Bool.not_eq_true]
            exact fun hstopping => hawake hstopping atTimeOut htimedOut
          refine .of_next .look ?_ hconnection
            (by rfl : Connection.next _ (.look false) = some _) ?_
          · simp only [Client.act, hgoing]
          · intro after hclient hlog
            refine .of_waiting (hlog ▸ hfile) ?_ (by rw [hclient]; rfl)
            rw [hclient]
            exact hqueued hhears
      | ended => exact hhears.elim
  | appending message => exact .of_appending hfile hconnection
  | copying message => exact .of_copying hconnection
  | sending message reply rest => exact .of_sending hconnection
  | lingering outcome =>
      obtain ⟨message, -, houtcome⟩ := hled
      exact .of_lingering (houtcome ▸ hconnection)
  | closing result =>
      rcases result with cause | (⟨words, length⟩ | discarded | discarded)
      · exact absurd hled hinTime.unharmed
      · exact .of_closing hconnection
      · exact absurd hinTime.arrived hled.2
      · obtain ⟨-, -, atTimeOut, atLook, bytes, hgiven, ⟨-, rfl, hnothing⟩, -⟩ := hled
        exact absurd (hinTime.in_time atTimeOut atLook hgiven) hnothing
  | ended | panicked => cases hrunning

/-- If the newline of a message has arrived when the read times out after which the worker
finds the flag set, or if there is no such read, and if the worker meets no error, then it
ends with a reply: the message was appended, and a copy of the log was sent in full.  Until
then its own steps can bring it there, whatever the others do.  A worker that has given up
had read everything that was there when its read timed out, there was no newline in it, and
the worker has neither changed the log nor sent anything. -/
theorem replied_of_arrived {settings : Settings} {path : Path} {log : Log} (number : Nat)
    (hrun : (initial settings path log).run events = some server) :
    (∀ result sent, (initial settings path log).InTime events server number →
      (server.clients.get number).connection = some ⟨.ended result, sent⟩ →
      ∃ message before atAppend appended beforeCopy atCopy,
        (server.clients.get number).arrived.line? = some message ∧
        result = .ok (.replied message.length sent.length) ∧
        (initial settings path log).Answered events number message sent before atAppend
          appended beforeCopy atCopy ∧
        ⟨.client number, message⟩ ∈ server.entries) ∧
    (log.file.isSome → (initial settings path log).InTime events server number →
      (server.clients.get number).isServed →
      (server.stopping →
        ∀ atTimeOut, ¬ (initial settings path log).TimedOut events number atTimeOut) →
      server.CanReply number) ∧
    (∀ discarded sent,
      (server.clients.get number).connection =
        some ⟨.ended (.ok (.abandoned discarded)), sent⟩ →
      (∃ atTimeOut atLook,
        (initial settings path log).GivesUp events number atTimeOut atLook ∧
        (atTimeOut.clients.get number).unread = [] ∧
        newline ∉ (atTimeOut.clients.get number).arrived ∧
        (atTimeOut.clients.get number).arrived.length = discarded) ∧
      sent = [] ∧
      ∀ before step earlier later,
        (initial settings path log).TakesStep events before (.serve number step) earlier later →
          later.log = earlier.log ∧ later.entries = earlier.entries) := by
  refine ⟨?_, ?_, ?_⟩
  · intro result sent hinTime hended
    exact hinTime.replied hrun hended
  · intro hopen hinTime hserved hawake
    exact hinTime.canReply hrun hopen hserved hawake
  · intro discarded sent hended
    obtain ⟨hsent, hquiet, atTimeOut, atLook, bytes, hgives, ⟨hunread, rfl, hnewline⟩, hlength⟩ :=
      (traced_of_run hrun number).led _ hended
    exact ⟨⟨atTimeOut, atLook, hgives, hunread, hnewline, hlength⟩, hsent,
      fun before step earlier later hstep => hquiet.kept_of_takesStep hstep⟩

section Example

/-- Shutdown is requested before anything has arrived; the message comes in three pieces, the
last of them while the main thread waits for the worker. -/
private def lateMessageEvents : List ServerEvent :=
  startEvents [0] ++
    [.trigger, .arrive 0 [104], .serve 0 (.take 1), .accept (.look true), .accept .sweep,
      .accept (.look true), .main none, .serve 0 .interrupt, .arrive 0 [105], .serve 0 (.take 1),
      .tick .schedule, .tick .look, .main none, .arrive 0 [10, 33], .serve 0 (.take 2),
      .serve 0 (.append .none), .serve 0 .copy, .serve 0 (.send (.accepted 2)),
      .serve 0 (.send (.accepted 1)), .serve 0 .flush, .serve 0 .leave, .serve 0 .close]

/-- A message that comes after the request for shutdown, but before the read times out, is
answered. -/
theorem replied_of_lateMessageEvents :
    ∃ server sent,
      (initial tickingSettings [slash, 100] .empty).run lateMessageEvents = some server ∧
      (server.clients.get 0).connection = some ⟨.ended (.ok (.replied 3 3)), sent⟩ ∧
      (initial tickingSettings [slash, 100] .empty).InTime lateMessageEvents server 0 ∧
      ⟨.client 0, [104, 105, 10]⟩ ∈ server.entries ∧ server.stopping := by
  have hresult : ((initial tickingSettings [slash, 100] .empty).run lateMessageEvents).map
      (fun server => ((server.clients.get 0).arrived, server.stopping,
        (server.clients.get 0).connection)) =
      some ([104, 105, 10, 33], true,
        some ⟨.ended (.ok (.replied 3 3)), [104, 105, 10]⟩) := by
    rfl
  obtain ⟨server, hrun, hfields⟩ := Option.map_eq_some_iff.mp hresult
  simp only [Prod.mk.injEq] at hfields
  obtain ⟨harrived, hstopping, hended⟩ := hfields
  have hinTime : (initial tickingSettings [slash, 100] .empty).InTime lateMessageEvents
      server 0 := by
    refine ⟨by rw [harrived]; decide, ?_, ?_⟩
    · -- the worker never looks at the flag
      rintro atTimeOut atLook ⟨before, looked, ⟨⟨following, hsplit⟩, -, -⟩, -⟩
      have hlook : .serve 0 .look ∈ lateMessageEvents := by rw [hsplit]; simp
      simp [lateMessageEvents, startEvents] at hlook
    · intro hfails
      obtain ⟨connection, hconnection, hfailed⟩ := hfails.hasFailed hrun
      obtain rfl := Option.some.inj (hended.symm.trans hconnection)
      exact hfailed
  obtain ⟨hreplied, -⟩ := replied_of_arrived 0 hrun
  obtain ⟨message, -, -, -, -, -, hmessage, -, -, hentry⟩ := hreplied _ _ hinTime hended
  have hline : message = [104, 105, 10] := by
    rw [harrived] at hmessage
    exact (Option.some.inj hmessage).symm
  exact ⟨server, _, hrun, hended, hinTime, hline ▸ hentry, hstopping⟩

end Example

end Server

end LineLog
