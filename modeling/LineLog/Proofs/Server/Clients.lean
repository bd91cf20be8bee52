import LineLog.Proofs.Heard
import LineLog.Proofs.Server.Entries

/-!
# The clients of a server

A step of the server does one thing to a client at most: it brings bytes, it starts
the worker, or it is a step of the worker.  Since a connection is accepted once and
its worker is started once, every worker reads from the beginning what its client
sends, and every record in the log is the first line of a client or a timestamp.
-/

namespace LineLog.Server

variable {server after : Server} {event : ServerEvent}

inductive ClientStepped (server : Server) (event : ServerEvent) (after : Server)
    (number : Nat) : Prop where
  | kept
      (hconnection : (after.clients.get number).connection =
        (server.clients.get number).connection)
      (harrived : (after.clients.get number).arrived = (server.clients.get number).arrived)
      (hunread : (after.clients.get number).unread = (server.clients.get number).unread)
      (haccepted : (server.clients.get number).accepted → (after.clients.get number).accepted)
  | arrived (bytes : Bytes) (hevent : event = .arrive number bytes)
      (hclient : after.clients.get number = (server.clients.get number).arrive bytes)
  | started (hphase : server.phase = .accepting (.starting number))
      (hafter : after.phase = .accepting .beforeAccept)
      (hclient : after.clients.get number =
        { server.clients.get number with connection := some .initial })
  | served (step : ClientStep) (hevent : event = .serve number step)
      (hact : (server.clients.get number).act server.path server.stopping step server.log =
        some (after.clients.get number, after.log))

/-- A step that changes one client changes no other. -/
private theorem clientStepped_set {other : Nat} {client : Client}
    (hclients : after.clients = server.clients.set other client) (number : Nat)
    (hsame : number = other → ClientStepped server event after number) :
    ClientStepped server event after number := by
  by_cases hnumber : number = other
  · exact hsame hnumber
  · have hkept : after.clients.get number = server.clients.get number := by
      rw [hclients, Threads.get_set_of_ne _ _ hnumber]
    exact .kept (by rw [hkept]) (by rw [hkept]) (by rw [hkept]) (by rw [hkept]; exact id)

/-- A step of the server concerns a single client at most, and in one of the ways listed. -/
theorem clientStepped_of_next (hnext : server.next event = some after) (number : Nat) :
    ClientStepped server event after number := by
  cases stepped_of_next hnext with
  | triggered | began | stopped | joinedTicker | joinedWorker | joinedAll | removed | turned
  | reaped | ticked | tickerAppended => exact .kept rfl rfl rfl id
  | arrived other bytes =>
      refine clientStepped_set rfl number ?_
      rintro rfl
      exact .arrived bytes rfl (Threads.get_set_self ..)
  | finished other =>
      refine clientStepped_set rfl number ?_
      rintro rfl
      exact .kept (by simp) (by simp) (by simp) (by simp)
  | accepted other =>
      refine clientStepped_set rfl number ?_
      rintro rfl
      exact .kept (by simp) (by simp) (by simp) (by simp)
  | started other hphase =>
      refine clientStepped_set rfl number ?_
      rintro rfl
      exact .started hphase rfl (Threads.get_set_self ..)
  | served other step client hact =>
      refine clientStepped_set rfl number ?_
      rintro rfl
      refine .served step rfl ?_
      rw [Threads.get_set_self]
      exact hact
  | appended other obstacles message client hmessage henter =>
      refine clientStepped_set rfl number ?_
      rintro rfl
      refine .served (.append obstacles) rfl ?_
      rw [Threads.get_set_self]
      exact Client.act_append hmessage henter

/-! ## Starting workers -/

/-- A connection that is served was accepted, and the worker that is started next is the
first of its connection. -/
structure Admitted (server : Server) : Prop where
  accepted : ∀ number, (server.clients.get number).connection.isSome →
    (server.clients.get number).accepted
  fresh : ∀ number, server.phase = .accepting (.starting number) →
    (server.clients.get number).connection = none ∧ (server.clients.get number).accepted

theorem admitted_initial (settings : Settings) (path : Path) (log : Log) :
    (initial settings path log).Admitted where
  accepted number hserved := by cases hserved
  fresh number hphase := by cases hphase

/-- What is started next was accepted just now or before. -/
theorem fresh_or_starting_of_next {number : Nat} (hnext : server.next event = some after)
    (hphase : after.phase = .accepting (.starting number)) :
    server.phase = .accepting (.starting number) ∨
      ((server.clients.get number).accepted = false ∧
        (after.clients.get number).connection = (server.clients.get number).connection ∧
        (after.clients.get number).accepted) := by
  cases stepped_of_next hnext with
  | accepted other _ hfresh =>
      obtain rfl := AcceptPhase.starting.inj (ServerPhase.accepting.inj hphase)
      refine .inr ⟨hfresh, ?_, ?_⟩ <;> rw [Threads.get_set_self]
  | turned step before following phase _ _ hturn hconnection _ hafter =>
      rcases hafter with ⟨rfl, -⟩ | ⟨accepted, -, rfl⟩
      · obtain rfl := ServerPhase.accepting.inj hphase
        exact absurd (AcceptPhase.eq_of_next_starting hturn) (hconnection number)
      · cases hphase
  | began fault phase ticker _ hstarted =>
      rcases hstarted with hstarting | rfl | ⟨error, rfl⟩
      · rw [show phase = _ from hphase] at hstarting
        cases hstarting
      · cases hphase
      · cases hphase
  | stopped | joinedTicker | joinedWorker | joinedAll | removed | started => cases hphase
  | arrived | finished | triggered | reaped | served | appended | ticked | tickerAppended =>
      exact .inl hphase

/-- The order of accepting, starting and serving is kept in every step. -/
theorem Admitted.next (hadmitted : server.Admitted) (hnext : server.next event = some after) :
    after.Admitted where
  accepted number hserved := by
    cases clientStepped_of_next hnext number with
    | kept hconnection _ _ haccepted =>
        rw [hconnection] at hserved
        exact haccepted (hadmitted.accepted number hserved)
    | arrived bytes _ hclient =>
        rw [hclient] at hserved ⊢
        exact hadmitted.accepted number hserved
    | started hphase _ hclient =>
        rw [hclient]
        exact (hadmitted.fresh number hphase).2
    | served step _ hact =>
        rw [(Client.frame_of_act hact).2.2]
        have hserves := Client.isServed_of_act hact
        exact hadmitted.accepted number (Client.isSome_connection_of_isServed hserves)
  fresh number hphase := by
    rcases fresh_or_starting_of_next hnext hphase with hstarting | ⟨hfresh, hsame, haccepted⟩
    · -- nobody touches the connection between its acceptance and the start of its worker
      obtain ⟨hnone, haccepted⟩ := hadmitted.fresh number hstarting
      cases clientStepped_of_next hnext number with
      | kept hconnection _ _ hkept => exact ⟨hconnection.trans hnone, hkept haccepted⟩
      | arrived bytes _ hclient =>
          rw [hclient]
          exact ⟨hnone, haccepted⟩
      | started _ hafter =>
          rw [hafter] at hphase
          cases hphase
      | served step _ hact =>
          have hsome := Client.isSome_connection_of_isServed (Client.isServed_of_act hact)
          rw [hnone] at hsome
          cases hsome
    · -- a connection that is served was accepted, so this one is not
      refine ⟨?_, haccepted⟩
      rw [hsame]
      cases hconnection : (server.clients.get number).connection with
      | none => rfl
      | some connection =>
          rw [hadmitted.accepted number (by rw [hconnection]; rfl)] at hfresh
          cases hfresh

/-! ## What the workers hear -/

structure Attentive (server : Server) : Prop where
  admitted : server.Admitted
  heard : ∀ number, (server.clients.get number).Heard

theorem Attentive.next (hattentive : server.Attentive)
    (hnext : server.next event = some after) : after.Attentive where
  admitted := hattentive.admitted.next hnext
  heard number := by
    have hheard := hattentive.heard number
    cases clientStepped_of_next hnext number with
    | kept hconnection harrived hunread =>
        unfold Client.Heard
        rw [hconnection, harrived, hunread]
        exact hheard
    | arrived bytes _ hclient =>
        rw [hclient]
        exact hheard.arrive bytes
    | started hphase _ hclient =>
        rw [hclient]
        exact hheard.start (hattentive.admitted.fresh number hphase).1
    | served step _ hact => exact hheard.act hact

/-- No worker misses anything of what its client has sent. -/
theorem attentive_of_run {settings : Settings} {path : Path} {log : Log}
    {events : List ServerEvent} (hrun : (initial settings path log).run events = some server) :
    server.Attentive := by
  refine foldlM_induction (fun _ => Attentive) ⟨admitted_initial settings path log, ?_⟩ ?_ hrun
  · exact fun _ => rfl
  · exact fun _ _ _ _ _ hattentive hnext => hattentive.next hnext

/-- What a client has sent is never taken back. -/
theorem arrived_prefix_of_next (hnext : server.next event = some after) (number : Nat) :
    (server.clients.get number).arrived <+: (after.clients.get number).arrived := by
  cases clientStepped_of_next hnext number with
  | kept _ harrived => exact harrived ▸ List.prefix_refl _
  | arrived bytes _ hclient => exact hclient ▸ List.prefix_append _ bytes
  | started _ _ hclient => exact hclient ▸ List.prefix_refl _
  | served _ _ hact => exact (Client.frame_of_act hact).1 ▸ List.prefix_refl _

/-- What has arrived from a client stays and is only added to. -/
theorem arrived_prefix_of_run {events : List ServerEvent}
    (hrun : server.run events = some after) (number : Nat) :
    (server.clients.get number).arrived <+: (after.clients.get number).arrived :=
  foldlM_induction
    (fun _ state => (server.clients.get number).arrived <+: (state.clients.get number).arrived)
    (List.prefix_refl _)
    (fun _ _ _ _ _ hfront hnext => hfront.trans (arrived_prefix_of_next hnext number)) hrun

/-! ## Whole records -/

/-- The record is the first line that its client has sent, or that of an instant. -/
def IsWhole (server : Server) (entry : Entry) : Prop :=
  match entry.author with
  | .client number => (server.clients.get number).arrived.line? = some entry.record
  | .ticker => ∃ instant offset, entry.record = Timestamp.recordBytes instant offset

theorem IsWhole.next {entry : Entry} (hwhole : server.IsWhole entry)
    (hnext : server.next event = some after) : after.IsWhole entry := by
  obtain ⟨author, record⟩ := entry
  cases author with
  | client number =>
      obtain ⟨more, hmore⟩ := arrived_prefix_of_next hnext number
      simp only [IsWhole, ← hmore]
      exact Bytes.line?_append hwhole more
  | ticker => exact hwhole

/-- An append is made of a whole record. -/
theorem Attentive.isWhole_of_attempt {entry : Entry} {obstacles : Obstacles}
    (hattentive : server.Attentive) (hattempt : server.attempt? event = some (entry, obstacles)) :
    server.IsWhole entry := by
  unfold attempt? at hattempt
  split at hattempt
  · next number _ =>
    obtain ⟨message, hmessage, hentry⟩ := Option.map_eq_some_iff.mp hattempt
    obtain ⟨rfl, -⟩ := Prod.mk.inj hentry
    exact (hattentive.heard number).line?_eq hmessage
  · next instant offset =>
    obtain ⟨rfl, -⟩ := Prod.mk.inj (Option.some.inj hattempt)
    exact ⟨instant, offset, rfl⟩
  · cases hattempt

/-- Every record in the log is a whole line of a client or of an instant. -/
theorem isWhole_of_run {settings : Settings} {path : Path} {log : Log}
    {events : List ServerEvent} (hrun : (initial settings path log).run events = some server) :
    ∀ entry ∈ server.entries, server.IsWhole entry := by
  refine foldlM_induction (fun _ state => ∀ entry ∈ state.entries, state.IsWhole entry) nofun ?_
    hrun
  intro events state event after hevents hwhole hnext entry hentry
  refine IsWhole.next ?_ hnext
  cases logged_of_next hnext with
  | kept _ _ hentries | removed _ _ hentries => exact hwhole entry (hentries ▸ hentry)
  | attempted new obstacles hattempt _ hentries =>
      rw [hentries] at hentry
      rcases mem_enter hentry with hold | rfl
      · exact hwhole entry hold
      · exact (attentive_of_run hevents).isWhole_of_attempt hattempt

end LineLog.Server
