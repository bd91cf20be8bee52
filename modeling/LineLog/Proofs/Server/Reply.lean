import LineLog.Proofs.Server.Clients
import LineLog.Proofs.Server.Removal
import Mathlib.Data.List.Infix

/-!
# The replies of a server

A worker first appends the message of its client and later copies the log, and
others append in between.  So a reply that was sent in full is the log of one
moment, which is after the append and before the removal; and since the log only
grows until then, all replies are fronts of one another.
-/

namespace LineLog

theorem ok_of_mapError {Error Other Value : Type} {change : Error → Other}
    {result : Except Error Value} {value : Value} (hok : result.mapError change = .ok value) :
    result = .ok value := by
  cases result with
  | error cause => cases hok
  | ok => exact congrArg _ (Except.ok.inj hok)

def Client.reply? (client : Client) : Option Bytes :=
  match client.connection with
  | some ⟨.sending _ _ [], sent⟩ | some ⟨.lingering _, sent⟩
  | some ⟨.closing (.ok (.replied _ _)), sent⟩ | some ⟨.ended (.ok (.replied _ _)), sent⟩ =>
      some sent
  | _ => none

namespace Server

variable {origin server after : Server} {events before : List ServerEvent} {event : ServerEvent}

/-- On the run over `events`, after the steps `before`, an append of an entry succeeds. -/
def AppendsAfter (origin : Server) (events before : List ServerEvent) (entry : Entry)
    (earlier later : Server) : Prop :=
  ∃ event obstacles, origin.TakesStep events before event earlier later ∧
    earlier.attempt? event = some (entry, obstacles) ∧
    (earlier.log.append obstacles entry.record).2 = .ok ()

/-- At some moment of the run over `events` all of the reply to a client has been sent. -/
def Replied (origin : Server) (events : List ServerEvent) (number : Nat) (reply : Bytes) : Prop :=
  ∃ before following server, events = before ++ following ∧ origin.run before = some server ∧
    (server.clients.get number).reply? = some reply

/-- A worker appends the message of its client in the state `atAppend` and copies the log in
the state `atCopy`; the copy is the reply. -/
structure Answered (origin : Server) (events : List ServerEvent) (number : Nat)
    (message reply : Bytes) (before : List ServerEvent) (atAppend appended : Server)
    (beforeCopy : List ServerEvent) (atCopy : Server) : Prop where
  own : origin.AppendsAfter beforeCopy before ⟨.client number, message⟩ atAppend appended
  copy : ∃ copied, origin.TakesStep events beforeCopy (.serve number .copy) atCopy copied
  reply_eq : reply = atCopy.log.bytes

/-! ## What a worker has sent -/

def HasAppended (origin : Server) (events : List ServerEvent) (number : Nat)
    (message : Bytes) : Prop :=
  ∃ before atAppend appended,
    origin.AppendsAfter events before ⟨.client number, message⟩ atAppend appended

def HasAnswered (origin : Server) (events : List ServerEvent) (number : Nat)
    (reply : Bytes) : Prop :=
  ∃ message before atAppend appended beforeCopy atCopy,
    origin.Answered events number message reply before atAppend appended beforeCopy atCopy

theorem AppendsAfter.extend {entry : Entry} {earlier later : Server}
    (happends : origin.AppendsAfter events before entry earlier later)
    (more : List ServerEvent) :
    origin.AppendsAfter (events ++ more) before entry earlier later := by
  obtain ⟨event, obstacles, hstep, hattempt, hok⟩ := happends
  exact ⟨event, obstacles, hstep.extend more, hattempt, hok⟩

theorem HasAppended.extend {number : Nat} {message : Bytes}
    (happended : origin.HasAppended events number message) (more : List ServerEvent) :
    origin.HasAppended (events ++ more) number message := by
  obtain ⟨before, atAppend, appended, happends⟩ := happended
  exact ⟨before, atAppend, appended, happends.extend more⟩

theorem HasAnswered.extend {number : Nat} {reply : Bytes}
    (hanswered : origin.HasAnswered events number reply) (more : List ServerEvent) :
    origin.HasAnswered (events ++ more) number reply := by
  obtain ⟨message, before, atAppend, appended, beforeCopy, atCopy, hown, ⟨copied, hcopy⟩, hreply⟩ :=
    hanswered
  exact ⟨message, before, atAppend, appended, beforeCopy, atCopy, hown,
    ⟨copied, hcopy.extend more⟩, hreply⟩

def Tells (origin : Server) (events : List ServerEvent) (number : Nat) (sent : Bytes) :
    Stage → Prop
  | .receiving _ | .appending _ => sent = []
  | .copying message => sent = [] ∧ origin.HasAppended events number message
  | .sending _ reply rest => reply = sent ++ rest ∧ origin.HasAnswered events number reply
  | .lingering _ | .closing (.ok (.replied _ _)) | .ended (.ok (.replied _ _)) =>
      origin.HasAnswered events number sent
  | .closing _ | .ended _ | .panicked => True

namespace Tells

variable {number : Nat} {sent : Bytes} {stage : Stage}

/-- While the message is being received nothing has been sent. -/
theorem ofReceiving (state : Receiving) :
    origin.Tells events number [] (Stage.ofReceiving state) := by
  unfold Stage.ofReceiving
  split
  · rfl
  · trivial
  · trivial
  · trivial
  · rfl

theorem extend (htells : origin.Tells events number sent stage) (more : List ServerEvent) :
    origin.Tells (events ++ more) number sent stage := by
  cases stage with
  | receiving | appending => exact htells
  | copying message => exact ⟨htells.1, htells.2.extend more⟩
  | sending message reply rest => exact ⟨htells.1, htells.2.extend more⟩
  | lingering outcome => exact HasAnswered.extend htells more
  | closing result | ended result =>
      cases result with
      | error cause => trivial
      | ok outcome =>
          cases outcome with
          | replied => exact HasAnswered.extend htells more
          | disconnected | abandoned => trivial
  | panicked => trivial

/-- A step of a connection keeps what it tells, if an append that succeeds is the run's and
a copy is that of the run's log. -/
theorem next {connection moved : Connection} {input : ConnectionInput}
    (htells : origin.Tells events number connection.sent connection.stage)
    (hnext : connection.next input = some moved) (more : List ServerEvent)
    (happended : ∀ message, connection.stage = .appending message → input = .append (.ok ()) →
      origin.HasAppended (events ++ more) number message)
    (hcopied : ∀ message log, input = .copy log → origin.HasAppended events number message →
      origin.HasAnswered (events ++ more) number log) :
    origin.Tells (events ++ more) number moved.sent moved.stage := by
  have hextended := htells.extend more
  cases Connection.moved_of_next hnext with
  | read bytes result hstage =>
      rw [hstage] at htells
      have hsent : connection.sent = [] := htells
      rw [hsent]
      exact ofReceiving _
  | looked bytes stopping hstage =>
      rw [hstage] at htells
      have hsent : connection.sent = [] := htells
      rw [hsent]
      exact ofReceiving _
  | appended message hstage =>
      rw [hstage] at htells
      exact ⟨htells, happended message hstage rfl⟩
  | copied message log hstage =>
      rw [hstage] at htells
      exact ⟨by rw [htells.1, List.nil_append], hcopied message log rfl htells.2⟩
  | sent message reply rest answer hstage =>
      rw [hstage] at hextended
      obtain ⟨hreply, hanswered⟩ := hextended
      unfold Connection.send
      split
      · trivial
      · refine ⟨?_, hanswered⟩
        rw [hreply, List.append_assoc, List.take_append_drop]
      · rw [hstage]
        exact ⟨hreply, hanswered⟩
      · trivial
  | flushed message reply hstage =>
      rw [hstage] at hextended
      obtain ⟨hreply, hanswered⟩ := hextended
      rw [List.append_nil] at hreply
      exact hreply ▸ hanswered
  | left outcome hstage =>
      rw [hstage] at hextended
      cases outcome with
      | replied => exact hextended
      | disconnected | abandoned => trivial
  | closed result hstage =>
      rw [hstage] at hextended
      cases result with
      | error cause => trivial
      | ok outcome => cases outcome <;> exact hextended
  | refused | panicked => trivial

end Tells

def Told (origin : Server) (events : List ServerEvent) (number : Nat) (client : Client) : Prop :=
  ∀ connection, client.connection = some connection →
    origin.Tells events number connection.sent connection.stage

namespace Told

variable {number : Nat} {client following : Client}

theorem extend (htold : origin.Told events number client) (more : List ServerEvent) :
    origin.Told (events ++ more) number client :=
  fun connection hconnection => (htold connection hconnection).extend more

theorem enter {input : ConnectionInput} (htold : origin.Told events number client)
    (henter : client.enter input = some following) (more : List ServerEvent)
    (happended : ∀ message, client.message? = some message → input = .append (.ok ()) →
      origin.HasAppended (events ++ more) number message)
    (hcopied : ∀ message log, input = .copy log → origin.HasAppended events number message →
      origin.HasAnswered (events ++ more) number log) :
    origin.Told (events ++ more) number following := by
  obtain ⟨connection, moved, hconnection, hnext, rfl⟩ := Client.exists_of_enter henter
  intro moved' hmoved
  obtain rfl := Option.some.inj hmoved
  refine (htold connection hconnection).next hnext more ?_ hcopied
  intro message hstage
  refine happended message ?_
  obtain ⟨stage, sent⟩ := connection
  obtain rfl : stage = .appending message := hstage
  rw [Client.message?, hconnection]

/-- A step of the worker is a step of the run. -/
theorem serve {step : ClientStep}
    (htold : origin.Told events number (server.clients.get number))
    (hrun : origin.run events = some server)
    (hnext : server.next (.serve number step) = some after)
    (hact : (server.clients.get number).act server.path server.stopping step server.log =
      some (following, after.log)) :
    origin.Told (events ++ [.serve number step]) number following := by
  have hlast := TakesStep.last hrun hnext
  generalize after.log = final at hact
  cases Client.acted_of_act hact with
  | took count _ hoffers henter =>
      have hrest : origin.Told events number { server.clients.get number with
          unread := (server.clients.get number).unread.drop count } := htold
      exact hrest.enter henter _ nofun nofun
  | appended obstacles message _ hmessage henter =>
      refine htold.enter henter _ ?_ nofun
      intro message' hsame hinput
      obtain rfl := Option.some.inj (hmessage.symm.trans hsame)
      refine ⟨events, server, after, _, obstacles, hlast, ?_, ?_⟩
      · simp only [attempt?, hmessage, Option.map_some]
      · exact ok_of_mapError (ConnectionInput.append.inj hinput)
  | discarded count outcome sent hconnection => exact htold.extend _
  | entered _ input _ hinput _ _ henter =>
      refine htold.enter henter _ ?_ ?_
      · rintro message - rfl
        cases step <;> cases hinput
      · -- the append was before the state in which this step begins
        rintro message log rfl ⟨before, atAppend, appended, hown⟩
        have hcopy : step = .copy ∧ log = server.log.bytes := by
          cases step <;> cases hinput
          exact ⟨rfl, rfl⟩
        obtain ⟨rfl, rfl⟩ := hcopy
        exact ⟨message, before, atAppend, appended, events, server, hown, ⟨after, hlast⟩, rfl⟩

end Told

/-- On every run, what was sent to a client is a part of its reply. -/
theorem told_of_run {settings : Settings} {path : Path} {log : Log}
    (hrun : (initial settings path log).run events = some server) (number : Nat) :
    (initial settings path log).Told events number (server.clients.get number) := by
  refine foldlM_induction (fun events state =>
    (initial settings path log).Told events number (state.clients.get number)) ?_ ?_ hrun
  · intro connection hconnection
    cases hconnection
  · intro events state event following hevents htold hnext
    cases clientStepped_of_next hnext number with
    | kept hconnection =>
        intro connection hsame
        rw [hconnection] at hsame
        exact htold.extend [event] connection hsame
    | arrived bytes _ hclient =>
        rw [hclient]
        exact htold.extend [event]
    | started _ _ hclient =>
        rw [hclient]
        intro connection hinitial
        obtain rfl := Option.some.inj hinitial
        rfl
    | served step hevent hact =>
        subst hevent
        exact htold.serve hevents hnext hact

/-- A reply that was sent in full is a copy that was made during the run. -/
theorem Told.answered {number : Nat} {client : Client} {reply : Bytes}
    (htold : origin.Told events number client) (hreply : client.reply? = some reply) :
    origin.HasAnswered events number reply := by
  unfold Client.reply? at hreply
  split at hreply
  · next message copy sent hconnection =>
    obtain rfl := Option.some.inj hreply
    obtain ⟨hcopy, hanswered⟩ := htold _ hconnection
    obtain rfl : copy = sent := hcopy.trans (List.append_nil sent)
    exact hanswered
  · next outcome sent hconnection =>
    obtain rfl := Option.some.inj hreply
    exact htold _ hconnection
  · next message copy sent hconnection =>
    obtain rfl := Option.some.inj hreply
    exact htold _ hconnection
  · next message copy sent hconnection =>
    obtain rfl := Option.some.inj hreply
    exact htold _ hconnection
  · cases hreply

/-- A client that has got its reply had its message appended and then the log copied. -/
theorem Replied.answered {settings : Settings} {path : Path} {log : Log} {number : Nat}
    {reply : Bytes} (hreplied : (initial settings path log).Replied events number reply) :
    (initial settings path log).HasAnswered events number reply := by
  obtain ⟨before, following, server, rfl, hbefore, hreply⟩ := hreplied
  exact ((told_of_run hbefore number).answered hreply).extend following

/-! ## The log at the copy -/

/-- The append adds its own entry, behind the others. -/
theorem AppendsAfter.entries_eq {entry : Entry} {earlier later : Server}
    (happends : origin.AppendsAfter events before entry earlier later) :
    later.entries = earlier.entries ++ [entry] := by
  obtain ⟨event, obstacles, hstep, hattempt, hok⟩ := happends
  cases logged_of_next hstep.next with
  | kept hquiet | removed hquiet =>
      rw [hquiet] at hattempt
      cases hattempt
  | attempted entry' obstacles' hattempt' _ hentries =>
      obtain ⟨rfl, rfl⟩ := Prod.mk.inj (Option.some.inj (hattempt.symm.trans hattempt'))
      rw [hentries, hok]
      rfl

/-- What was appended stays in its place. -/
theorem AppendsAfter.prefix_entries {entry : Entry} {earlier later final : Server}
    (happends : origin.AppendsAfter events before entry earlier later)
    (hrun : origin.run events = some final) : earlier.entries ++ [entry] <+: final.entries := by
  rw [← happends.entries_eq]
  obtain ⟨event, obstacles, hstep, -, -⟩ := happends
  obtain ⟨following, -, hfollowing⟩ := hstep.run_following hrun
  exact entries_prefix_of_run hfollowing

theorem prefix_records {first second : Server} (hentries : first.entries <+: second.entries) :
    first.records <+: second.records :=
  List.IsPrefix.flatMap hentries _

namespace Answered

variable {settings : Settings} {path : Path} {log : Log} {number : Nat} {message reply : Bytes}
  {beforeCopy : List ServerEvent} {atAppend appended atCopy : Server}

/-- The worker copies the log while it is open, and the copy holds all records. -/
theorem log_open (hanswered : (initial settings path log).Answered events number message reply
      before atAppend appended beforeCopy atCopy) :
    atCopy.log.file.isSome ∧ reply = log.bytes ++ atCopy.records := by
  obtain ⟨copied, hcopy⟩ := hanswered.copy
  obtain ⟨event, obstacles, hstep, hattempt, hok⟩ := hanswered.own
  have hopen := (open_of_busy hstep.run_before (busy_of_attempt hstep.next hattempt)).1
  have hcopied := open_of_busy hcopy.run_before (busy_of_serve hcopy.next)
  refine ⟨?_, hanswered.reply_eq.trans hcopied.2⟩
  rw [hcopied.1, ← hopen]
  exact Log.isSome_file_of_append_ok _ _ _ hok

/-- The copy is made behind the own entry. -/
theorem prefix_own (hanswered : origin.Answered events number message reply before atAppend
      appended beforeCopy atCopy) :
    atAppend.entries ++ [⟨.client number, message⟩] <+: atCopy.entries := by
  obtain ⟨copied, hcopy⟩ := hanswered.copy
  exact hanswered.own.prefix_entries hcopy.run_before

end Answered

variable {settings : Settings} {path : Path} {log : Log}

/-- A reply that was copied earlier is a front of one that was copied later. -/
theorem Answered.prefix_of_copied {first second : Nat} {message words reply other : Bytes}
    {before past firstCopy secondCopy : List ServerEvent}
    {atAppend appended atFirst atWords worded atSecond : Server}
    (hreply : (initial settings path log).Answered events first message reply before atAppend
      appended firstCopy atFirst)
    (hother : (initial settings path log).Answered events second words other past atWords
      worded secondCopy atSecond)
    (hearlier : firstCopy <+: secondCopy) : reply <+: other := by
  obtain ⟨_, hfirst⟩ := hreply.copy
  obtain ⟨_, hsecond⟩ := hother.copy
  obtain ⟨more, hmore⟩ := exists_foldlM_of_prefix hearlier hfirst.run_before hsecond.run_before
  rw [hreply.log_open.2, hother.log_open.2, List.prefix_append_right_inj]
  exact prefix_records (entries_prefix_of_run hmore)

/-- Of any two replies one is a prefix of the other. -/
theorem prefix_or_prefix_of_replied {first second : Nat} {reply other : Bytes}
    (hfirst : (initial settings path log).Replied events first reply)
    (hsecond : (initial settings path log).Replied events second other) :
    reply <+: other ∨ other <+: reply := by
  obtain ⟨_, _, _, _, firstCopy, _, hreply⟩ := hfirst.answered
  obtain ⟨_, _, _, _, secondCopy, _, hother⟩ := hsecond.answered
  obtain ⟨_, hfirstStep⟩ := hreply.copy
  obtain ⟨_, hsecondStep⟩ := hother.copy
  have horder : firstCopy <+: secondCopy ∨ secondCopy <+: firstCopy :=
    List.prefix_or_prefix_of_prefix hfirstStep.prefix_before hsecondStep.prefix_before
  rcases horder with hearlier | hlater
  · exact .inl (hreply.prefix_of_copied hother hearlier)
  · exact .inr (hother.prefix_of_copied hreply hlater)

/-- A worker appends a line of its client. -/
theorem AppendsAfter.line?_eq {number : Nat} {message : Bytes} {atAppend appended : Server}
    (happends : (initial settings path log).AppendsAfter events before
      ⟨.client number, message⟩ atAppend appended) :
    (atAppend.clients.get number).arrived.line? = some message := by
  obtain ⟨event, obstacles, hstep, hattempt, -⟩ := happends
  exact (attentive_of_run hstep.run_before).isWhole_of_attempt hattempt

/-- A worker whose client has not sent anything has not appended its message. -/
theorem AppendsAfter.prefix_of_silent {earlier : List ServerEvent} {number : Nat}
    {message : Bytes} {atAppend appended : Server}
    (happends : (initial settings path log).AppendsAfter events before
      ⟨.client number, message⟩ atAppend appended)
    (hearlier : earlier <+: events) (hrun : (initial settings path log).run earlier = some server)
    (hsilent : (server.clients.get number).arrived = []) : earlier <+: before := by
  have hline := happends.line?_eq
  obtain ⟨event, obstacles, hstep, -, -⟩ := happends
  have horder : earlier <+: before ∨ before <+: earlier :=
    List.prefix_or_prefix_of_prefix hearlier hstep.prefix_before
  rcases horder with hfront | hfront
  · exact hfront
  · -- otherwise the client had sent its line by then
    obtain ⟨more, hmore⟩ := exists_foldlM_of_prefix hfront hstep.run_before hrun
    have harrived := arrived_prefix_of_run hmore number
    rw [hsilent, List.prefix_nil] at harrived
    exact absurd harrived (Bytes.ne_nil_of_line? hline).1

/-- If the records of a reply were there when another worker appended its message, then its
reply holds these and at least one more. -/
theorem Answered.shorter {first second : Nat} {message words reply other : Bytes}
    {past firstEvents secondEvents firstCopy secondCopy : List ServerEvent}
    {atAppend appended atFirst atWords worded atSecond : Server}
    (hreply : (initial settings path log).Answered firstEvents first message reply before
      atAppend appended firstCopy atFirst)
    (hother : (initial settings path log).Answered secondEvents second words other past atWords
      worded secondCopy atSecond)
    (hentries : atFirst.entries <+: atWords.entries) : reply <+: other ∧ reply ≠ other := by
  obtain ⟨between, hbetween⟩ := hentries
  obtain ⟨others, hothers⟩ := hother.prefix_own
  have hrecords : atSecond.records =
      atFirst.records ++ (between.flatMap (·.record) ++ words ++ others.flatMap (·.record)) := by
    simp [records, ← hothers, ← hbetween]
  have hwords : words ≠ [] := (Bytes.ne_nil_of_line? hother.own.line?_eq).2
  rw [hreply.log_open.2, hother.log_open.2, hrecords, ← List.append_assoc]
  constructor
  · exact List.prefix_append _ _
  · intro hsame
    have hnothing := List.append_right_eq_self.mp hsame.symm
    simp only [List.append_eq_nil_iff] at hnothing
    exact hwords hnothing.1.2

/-- A reply that is complete before another client has sent anything is shorter than the
reply to that client. -/
theorem prefix_of_replied_before {earlier later : List ServerEvent} {first second : Nat}
    {reply other : Bytes} (hrun : (initial settings path log).run earlier = some server)
    (hfirst : (initial settings path log).Replied earlier first reply)
    (hsilent : (server.clients.get second).arrived = [])
    (hsecond : (initial settings path log).Replied (earlier ++ later) second other) :
    reply <+: other ∧ reply ≠ other := by
  obtain ⟨_, _, _, _, firstCopy, atFirst, hreply⟩ := hfirst.answered
  obtain ⟨message, before, atAppend, appended, secondCopy, atSecond, hother⟩ := hsecond.answered
  obtain ⟨_, hfirstStep⟩ := hreply.copy
  obtain ⟨_, hsecondStep⟩ := hother.copy
  obtain ⟨following, hsplit⟩ := hsecondStep.split
  -- `earlier` may end on either side of the second copy, so the whole run is looked at
  have hown := hother.own.extend (.serve second .copy :: following)
  rw [← hsplit] at hown
  have hafter : earlier <+: before := hown.prefix_of_silent ⟨later, rfl⟩ hrun hsilent
  obtain ⟨event, obstacles, hstep, -, -⟩ := hown
  obtain ⟨more, hmore⟩ :=
    exists_foldlM_of_prefix hfirstStep.prefix_before hfirstStep.run_before hrun
  obtain ⟨others, hothers⟩ := exists_foldlM_of_prefix hafter hrun hstep.run_before
  exact hreply.shorter hother ((entries_prefix_of_run hmore).trans (entries_prefix_of_run hothers))

/-- A reply that was sent in full is the log of one moment, after the append of the client's
own message and before the removal.  It consists of whole records, the client's own among
them and every record that was appended before that.  Of two replies one is a front of the
other, and if one was complete before the other client had sent anything, it is the
shorter one. -/
theorem replies_are_copies (settings : Settings) (path : Path) (log : Log)
    (events : List ServerEvent) :
    (∀ number reply, (initial settings path log).Replied events number reply →
      ∃ message before atAppend appended beforeCopy atCopy,
        (initial settings path log).Answered events number message reply before atAppend
          appended beforeCopy atCopy ∧
        atCopy.log.file.isSome ∧
        reply = log.bytes ++ atCopy.records ∧
        (∀ entry ∈ atCopy.entries, atCopy.IsWhole entry) ∧
        (∃ others, atCopy.entries = atAppend.entries ++ ⟨.client number, message⟩ :: others) ∧
        ∀ past entry earlier later,
          (initial settings path log).AppendsAfter before past entry earlier later →
            entry ∈ atAppend.entries) ∧
    (∀ first second reply other,
      (initial settings path log).Replied events first reply →
        (initial settings path log).Replied events second other →
          reply <+: other ∨ other <+: reply) ∧
    (∀ earlier later server first second reply other, events = earlier ++ later →
      (initial settings path log).run earlier = some server →
        (initial settings path log).Replied earlier first reply →
          (server.clients.get second).arrived = [] →
            (initial settings path log).Replied events second other →
              reply <+: other ∧ reply ≠ other) := by
  refine ⟨?_, ?_, ?_⟩
  · intro number reply hreplied
    obtain ⟨message, before, atAppend, appended, beforeCopy, atCopy, hanswered⟩ :=
      hreplied.answered
    obtain ⟨hopen, hreply⟩ := hanswered.log_open
    obtain ⟨copied, hcopy⟩ := hanswered.copy
    refine ⟨message, before, atAppend, appended, beforeCopy, atCopy, hanswered, hopen, hreply,
      isWhole_of_run hcopy.run_before, ?_, ?_⟩
    · obtain ⟨others, hothers⟩ := hanswered.prefix_own
      exact ⟨others, by rw [← hothers, List.append_assoc, List.singleton_append]⟩
    · intro past entry earlier later happends
      obtain ⟨event, obstacles, hstep, -⟩ := hanswered.own
      exact (happends.prefix_entries hstep.run_before).subset (by simp)
  · intro first second reply other hfirst hsecond
    exact prefix_or_prefix_of_replied hfirst hsecond
  · rintro earlier later server first second reply other rfl hrun hfirst hsilent hsecond
    exact prefix_of_replied_before hrun hfirst hsilent hsecond

section Example

/-- Two clients send a line each, and both lines are appended before the first worker copies
the log and sends its reply. -/
private def overlappingEvents : List ServerEvent :=
  startEvents [0, 1, 2] ++
    [.arrive 0 [97, 10], .arrive 1 [98, 10, 120], .serve 0 (.take 1), .serve 1 (.take 3),
      .serve 1 (.append .none), .serve 0 (.take 1), .serve 0 (.append .none), .serve 0 .copy,
      .serve 0 (.send (.accepted 3)), .serve 0 (.send .interrupted),
      .serve 0 (.send (.accepted 1))]

/-- Then a third client sends its line and gets a reply while shutdown is requested, and the
second worker copies the log last. -/
private def followingEvents : List ServerEvent :=
  [.arrive 2 [99, 10], .serve 2 (.take 2), .serve 2 (.append .none), .serve 2 .copy, .trigger,
    .serve 1 .copy, .serve 2 (.send (.accepted 6)), .serve 1 (.send (.accepted 6)),
    .serve 1 .flush, .serve 1 .leave, .serve 1 .close]

private def quietServer : Server :=
  initial tickingSettings [slash, 100] .empty

/-- Two appends overlap, both replies hold both lines, and a later client gets more. -/
theorem replies_are_copies_of_overlappingEvents :
    ∃ server, quietServer.run overlappingEvents = some server ∧
      quietServer.Replied overlappingEvents 0 [98, 10, 97, 10] ∧
      (server.clients.get 2).arrived = [] ∧
      quietServer.Replied (overlappingEvents ++ followingEvents) 2 [98, 10, 97, 10, 99, 10] ∧
      ([98, 10, 97, 10] : Bytes) <+: [98, 10, 97, 10, 99, 10] := by
  have hearlier : (quietServer.run overlappingEvents).map (fun server =>
      ((server.clients.get 0).reply?, (server.clients.get 2).arrived)) =
        some (some [98, 10, 97, 10], []) := by
    rfl
  have hlater : (quietServer.run (overlappingEvents ++ followingEvents)).map (fun server =>
      (server.clients.get 2).reply?) = some (some [98, 10, 97, 10, 99, 10]) := by
    rfl
  obtain ⟨server, hrun, hfields⟩ := Option.map_eq_some_iff.mp hearlier
  obtain ⟨hreply, hsilent⟩ := Prod.mk.inj hfields
  obtain ⟨final, hfinal, hthird⟩ := Option.map_eq_some_iff.mp hlater
  have hfirst : quietServer.Replied overlappingEvents 0 [98, 10, 97, 10] :=
    ⟨_, [], server, (List.append_nil _).symm, hrun, hreply⟩
  have hsecond :
      quietServer.Replied (overlappingEvents ++ followingEvents) 2 [98, 10, 97, 10, 99, 10] :=
    ⟨_, [], final, (List.append_nil _).symm, hfinal, hthird⟩
  obtain ⟨-, -, hbefore⟩ := replies_are_copies tickingSettings [slash, 100] .empty
    (overlappingEvents ++ followingEvents)
  have hshorter := hbefore overlappingEvents followingEvents server 0 2 _ _ rfl hrun hfirst
    hsilent hsecond
  exact ⟨server, hrun, hfirst, hsilent, hsecond, hshorter.1⟩

end Example

end Server

end LineLog
