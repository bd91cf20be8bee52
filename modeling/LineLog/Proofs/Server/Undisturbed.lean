import LineLog.Proofs.Log.Restored
import LineLog.Proofs.Server.Continuing
import LineLog.Proofs.Server.Without

/-!
# Connections that disturb nobody

A connection that commits no record leaves no trace with others.  Whatever happens to it,
and whatever happens meanwhile, the run without its steps is possible too, and on it the
records and all that other clients are sent are the same at every moment.  The file of the
log is the same as well, unless an append of the connection left something behind that it
could not cut off, or cut off what another append had left behind.
-/

namespace LineLog.Server

variable {server after other : Server} {number : Nat} {events following : List ServerEvent}
  {event : ServerEvent}

/-! ## The file -/

/-- The file of the log has no empty extents, so what is cut off it can be told exactly. -/
theorem compact_of_run {settings : Settings} {path : Path}
    (hrun : (initial settings path .empty).run events = some server) : server.log.Compact := by
  refine foldlM_induction (fun _ state => state.log.Compact) Log.compact_empty ?_ hrun
  intro _ state event following _ hcompact hnext
  cases logged_of_next hnext with
  | kept _ hlog => exact hlog ▸ hcompact
  | attempted entry obstacles _ hlog => exact hlog ▸ hcompact.append obstacles entry.record
  | removed _ hlog => exact hlog ▸ Log.compact_close state.log

/-- An append of the connection fails, and the file may not be what it was before: it is not
cut back, or it did not hold exactly what is in memory. -/
def LeavesTrace (number : Nat) (server : Server) (event : ServerEvent) : Prop :=
  ∃ obstacles message failure, event = .serve number (.append obstacles) ∧
    (server.clients.get number).message? = some message ∧
    (server.log.append obstacles message).2 = .error failure ∧
    ¬ (failure.isUndone ∧ server.log.InStep)

/-- A step of the connection that commits nothing and leaves no trace. -/
theorem log_eq_of_belongs {upcoming : Option (AcceptStep Nat)} (hcompact : server.log.Compact)
    (hnext : server.next event = some after) (hbelongs : server.belongs number upcoming event)
    (hnever : ∀ entry ∈ after.entries, entry.author ≠ .client number)
    (htrace : ¬ server.LeavesTrace number event) : after.log = server.log := by
  cases stepped_of_next hnext with
  | removed _ _ hphase =>
      obtain ⟨⟨accepted, report, hjoining⟩, -⟩ := joining_of_belongs hbelongs
      rcases hphase with ⟨_, _, hremoving, -⟩ | ⟨_, hremoving, -⟩ <;>
        rw [hjoining] at hremoving <;> cases hremoving
  | appended client obstacles message state hmessage =>
      obtain rfl : client = number := of_decide_eq_true hbelongs
      cases hresult : (server.log.append obstacles message).2 with
      | ok =>
          rw [hresult] at hnever
          exact absurd rfl (hnever ⟨.client client, message⟩
            (List.mem_append_right _ (List.mem_singleton_self _)))
      | error failure =>
          have hkept : failure.isUndone ∧ server.log.InStep := by
            by_contra hleft
            exact htrace ⟨obstacles, message, failure, rfl, hmessage, hresult, hleft⟩
          exact hcompact.append_eq hkept.2 hresult hkept.1
  | tickerAppended => cases hbelongs
  | _ => rfl

/-! ## The run without the connection -/

/-- The run without the connection goes along. -/
theorem without_of_run {settings : Settings} {path : Path}
    (hrun : (initial settings path .empty).run events = some server)
    (hnever : ∀ entry ∈ server.entries, entry.author ≠ .client number)
    (following : List ServerEvent) :
    ∃ other,
      (initial settings path .empty).run
        ((initial settings path .empty).erase number following events) = some other ∧
      Without number (nextAccept? following) server other ∧
      (¬ Meets Server.next (initial settings path .empty) events (LeavesTrace number) →
        other.log = server.log) := by
  let origin := initial settings path .empty
  -- for every continuation, because the steps before a step of the loop are erased with it
  refine foldlM_induction (fun events state =>
    (∀ entry ∈ state.entries, entry.author ≠ .client number) → ∀ following, ∃ other,
      origin.run (origin.erase number following events) = some other ∧
      Without number (nextAccept? following) state other ∧
      (¬ Meets Server.next origin events (LeavesTrace number) → other.log = state.log))
    ?_ ?_ hrun hnever following
  · intro _ following
    exact ⟨origin, rfl, without_initial settings path .empty number _, fun _ => rfl⟩
  · intro events state event after hrun ih hnext hnever following
    have hearlier : ∀ entry ∈ state.entries, entry.author ≠ .client number := fun entry hentry =>
      hnever entry ((entries_prefix_of_next hnext).subset hentry)
    obtain ⟨other, hother, hwithout, hlog⟩ := ih hearlier (event :: following)
    rw [erase_snoc hrun]
    cases hbelongs : state.belongs number (nextAccept? following) event with
    | true =>
        refine ⟨other, ?_, hwithout.stay hnext hbelongs hnever, fun htrace => ?_⟩
        · rw [if_pos rfl, List.append_nil]
          exact hother
        · rw [meets_snoc_iff hrun hnext, not_or] at htrace
          rw [hlog htrace.1]
          exact (log_eq_of_belongs (compact_of_run hrun) hnext hbelongs hnever htrace.2).symm
    | false =>
        obtain ⟨moved, hmoved, hfollowing, hsame⟩ := hwithout.next hnext hbelongs
        refine ⟨moved, ?_, hfollowing, fun htrace => ?_⟩
        · exact foldlM_snoc_eq_some_iff.mpr ⟨other, hother, hmoved⟩
        · rw [meets_snoc_iff hrun hnext, not_or] at htrace
          exact hsame (hlog htrace.1)

/-! ## Going on after a failure -/

/-- A step has left the accept loop and the ticker alone, and both can go on. -/
structure GoesOn (earlier later : Server) : Prop where
  stopping_eq : later.stopping = earlier.stopping
  ticker_eq : later.ticker = earlier.ticker
  accepting : ∀ phase, earlier.phase = .accepting phase →
    ∃ following, later.phase = .accepting following
  accepts : ∀ phase, later.phase = .accepting phase → later.stopping = false →
    ∀ client, (later.clients.get client).accepted = false → later.CanAccept client
  ticks : later.tickerRuns → later.stopping = false →
    ∀ instant offset, later.CanTick instant offset

/-- A step of a connection leaves the flag and the ticker alone and does not end the accept loop. -/
theorem frame_of_belongs {upcoming : Option (AcceptStep Nat)}
    (hnext : server.next event = some after) (hbelongs : server.belongs number upcoming event) :
    after.stopping = server.stopping ∧ after.ticker = server.ticker ∧
      ∀ phase, server.phase = .accepting phase →
        ∃ following, after.phase = .accepting following := by
  cases stepped_of_next hnext with
  | arrived | finished | reaped | served | appended =>
      exact ⟨rfl, rfl, fun phase hphase => ⟨phase, hphase⟩⟩
  | accepted | started => exact ⟨rfl, rfl, fun _ _ => ⟨_, rfl⟩⟩
  | turned step before following phase hphase _ hturn hconnection _ hafter =>
      refine ⟨rfl, rfl, fun _ _ => ?_⟩
      obtain ⟨rfl, -⟩ | ⟨accepted, rfl, -⟩ := hafter
      · exact ⟨following, rfl⟩
      · obtain rfl | ⟨rfl, -, -⟩ | ⟨result, rfl, -⟩ := accept_of_belongs hbelongs <;>
          cases before <;> cases hturn
  | triggered | ticked | tickerAppended => cases hbelongs
  | joinedWorker _ _ _ _ _ _ hphase =>
      refine ⟨rfl, rfl, fun phase haccepting => ?_⟩
      rw [hphase] at haccepting
      cases haccepting
  | joinedAll _ _ _ _ hregistered =>
      obtain ⟨-, hhead⟩ := joining_of_belongs hbelongs
      rw [hregistered] at hhead
      cases hhead
  | began _ _ _ hphase =>
      obtain ⟨⟨accepted, report, hjoining⟩, -⟩ := joining_of_belongs hbelongs
      rw [hjoining] at hphase
      cases hphase
  | stopped _ _ hphase | joinedTicker _ _ _ hphase =>
      obtain ⟨⟨accepted, report, hjoining⟩, -⟩ := joining_of_belongs hbelongs
      rw [hjoining] at hphase
      cases hphase
  | removed _ _ hphase =>
      obtain ⟨⟨accepted, report, hjoining⟩, -⟩ := joining_of_belongs hbelongs
      rcases hphase with ⟨_, _, hremoving, -⟩ | ⟨_, hremoving, -⟩ <;>
        rw [hjoining] at hremoving <;> cases hremoving

/-- After a step of a connection the loop can still accept anybody, and the ticker can still tick.
-/
theorem goesOn_of_belongs {settings : Settings} {path : Path} {upcoming : Option (AcceptStep Nat)}
    (hrun : (initial settings path .empty).run events = some server)
    (hnext : server.next event = some after) (hbelongs : server.belongs number upcoming event) :
    GoesOn server after := by
  have hafter : (initial settings path .empty).run (events ++ [event]) = some after :=
    foldlM_snoc_eq_some_iff.mpr ⟨server, hrun, hnext⟩
  obtain ⟨hstopping, hticker, haccepting⟩ := frame_of_belongs hnext hbelongs
  refine ⟨hstopping, hticker, haccepting, ?_, ?_⟩
  · intro phase hphase hgoing client hfresh
    refine CanAccept.of_phase hfresh hgoing hphase ?_
    rintro result rfl
    exact going_of_run hafter result hphase
  · intro hruns hgoing instant offset
    exact CanTick.of_tickerRuns ((open_of_busy hafter (.inl hruns)).1.trans rfl) hgoing hruns

/-- A connection that commits no record disturbs nobody.  The run without its steps is
possible too, and at every moment it has led to the same server, apart from the connection
and from what is in the file.  The file is the same as well as long as no append of the
connection leaves a trace.  After every step of the connection the accept loop and the ticker
go on. -/
theorem undisturbed_of_run (settings : Settings) (path : Path)
    (hrun : (initial settings path .empty).run events = some server)
    (hnever : ∀ entry ∈ server.entries, entry.author ≠ .client number) :
    ((initial settings path .empty).erase number [] events).Sublist events ∧
    (∀ before following state, events = before ++ following →
      (initial settings path .empty).run before = some state →
      ∃ other,
        (initial settings path .empty).erase number [] events =
          (initial settings path .empty).erase number following before ++
            state.erase number [] following ∧
        (initial settings path .empty).run
          ((initial settings path .empty).erase number following before) = some other ∧
        Without number (nextAccept? following) state other ∧
        (¬ Meets next (initial settings path .empty) before (LeavesTrace number) →
          other.log = state.log)) ∧
    ∀ before event following earlier later, events = before ++ event :: following →
      (initial settings path .empty).run before = some earlier →
      earlier.next event = some later → earlier.belongs number (nextAccept? following) event →
        GoesOn earlier later := by
  refine ⟨erase_sublist number [] _ events, ?_, ?_⟩
  · rintro before following state rfl hbefore
    obtain ⟨reached, hreached, hrest⟩ := foldlM_append_eq_some_iff.mp hrun
    obtain rfl := Option.some.inj (hbefore.symm.trans hreached)
    have hearlier : ∀ entry ∈ state.entries, entry.author ≠ .client number := fun entry hentry =>
      hnever entry ((entries_prefix_of_run hrest).subset hentry)
    obtain ⟨other, hother, hwithout, hlog⟩ := without_of_run hbefore hearlier following
    refine ⟨other, ?_, hother, hwithout, hlog⟩
    rw [erase_append hbefore, List.append_nil]
  · intro before event following earlier later _ hbefore hnext hbelongs
    exact goesOn_of_belongs hbefore hnext hbelongs

section Example

/-- A disk that is full after `count` bytes; the file can be cut back. -/
private def fullAfter (count : Nat) : Obstacles where
  answers := [.accepted count, .refused Os.Error.noSpace]
  truncate _ := ⟨none, none⟩

/-- Both clients have sent their messages, and the append of the second one comes next. -/
private def waitingEvents : List ServerEvent :=
  startEvents [0, 1] ++
    [.arrive 1 [98, 99, 10], .arrive 0 [97, 10], .serve 1 (.take 3), .serve 0 (.take 2)]

/-- The second client is refused between the message of the first and its reply. -/
private def answeredEvents : List ServerEvent :=
  [.serve 0 (.append .none), .serve 1 .close, .serve 0 .copy, .serve 0 (.send (.accepted 2))]

/-- A refused client in the middle of another one's exchange makes no difference. -/
theorem undisturbed_of_answeredEvents :
    ∃ server other,
      (initial tickingSettings [slash, 100] .empty).run
        (waitingEvents ++ [.serve 1 (.append (fullAfter 1))] ++ answeredEvents) = some server ∧
      (∀ entry ∈ server.entries, entry.author ≠ .client 1) ∧
      (initial tickingSettings [slash, 100] .empty).run
        ((initial tickingSettings [slash, 100] .empty).erase 1 []
          (waitingEvents ++ [.serve 1 (.append (fullAfter 1))] ++ answeredEvents)) = some other ∧
      other.log = server.log ∧ server.log.bytes = [97, 10] ∧
      (other.clients.get 0).received = [97, 10] := by
  have hfinal : ((initial tickingSettings [slash, 100] .empty).run
      (waitingEvents ++ [.serve 1 (.append (fullAfter 1))] ++ answeredEvents)).map
      (fun server => (server.entries, server.log.bytes, (server.clients.get 0).received)) =
      some ([⟨.client 0, [97, 10]⟩], [97, 10], [97, 10]) := by
    rfl
  have hwaiting : ((initial tickingSettings [slash, 100] .empty).run waitingEvents).map
      (fun server => ((server.clients.get 1).message?, server.log)) =
      some (some [98, 99, 10], .empty) := by
    rfl
  obtain ⟨server, hrun, hfields⟩ := Option.map_eq_some_iff.mp hfinal
  obtain ⟨hentries, hbytes, hreceived⟩ : server.entries = [⟨.client 0, [97, 10]⟩] ∧
      server.log.bytes = [97, 10] ∧ (server.clients.get 0).received = [97, 10] := by
    simpa using hfields
  obtain ⟨waiting, hrunning, hstate⟩ := Option.map_eq_some_iff.mp hwaiting
  obtain ⟨hmessage, hlog⟩ := Prod.mk.inj hstate
  have hnever : ∀ entry ∈ server.entries, entry.author ≠ .client 1 := by
    simp [hentries]
  obtain ⟨refused, hrefused, -⟩ := foldlM_append_eq_some_iff.mp hrun
  obtain ⟨reached, hreached, hnext⟩ := foldlM_snoc_eq_some_iff.mp hrefused
  obtain rfl := Option.some.inj (hrunning.symm.trans hreached)
  -- the only append of the second client fails and is cut off
  have hkept : ¬ LeavesTrace 1 waiting (.serve 1 (.append (fullAfter 1))) := by
    rintro ⟨obstacles, message, failure, hevent, hown, hfailed, htrace⟩
    cases hevent
    obtain rfl := Option.some.inj (hmessage.symm.trans hown)
    have hresult : (Log.empty.append (fullAfter 1) [98, 99, 10]).2 =
        .error (.write Os.Error.noSpace none) := by
      rfl
    rw [hlog, hresult] at hfailed
    rw [hlog] at htrace
    obtain rfl := Except.error.inj hfailed
    exact htrace ⟨rfl, by rintro file ⟨⟩; exact .empty⟩
  have hsilent : ∀ events : List ServerEvent,
      (∀ event ∈ events, ∀ obstacles, event ≠ .serve 1 (.append obstacles)) → ∀ origin,
      ¬ Meets next origin events (LeavesTrace 1) := by
    intro events hevents origin
    refine not_meets_of_forall fun event hmem state => ?_
    rintro ⟨obstacles, -, -, rfl, -⟩
    exact hevents _ hmem obstacles rfl
  have htrace : ¬ Meets next (initial tickingSettings [slash, 100] .empty)
      (waitingEvents ++ [.serve 1 (.append (fullAfter 1))] ++ answeredEvents) (LeavesTrace 1) := by
    refine not_meets_append hrefused (not_meets_append hrunning (hsilent _ ?_ _) ?_)
      (hsilent _ ?_ _)
    · simp [waitingEvents, startEvents]
    · exact fun hmeets => ((meets_snoc_iff rfl hnext).mp hmeets).elim not_meets_nil hkept
    · simp [answeredEvents]
  obtain ⟨-, hsplits, -⟩ := undisturbed_of_run tickingSettings [slash, 100] hrun hnever
  obtain ⟨other, -, hother, hwithout, hsame⟩ := hsplits _ [] server (List.append_nil _).symm hrun
  refine ⟨server, other, hrun, hnever, hother, hsame htrace, hbytes, ?_⟩
  rw [hwithout.others 0 (by decide), hreceived]

/-- The append of the first client fails after one byte that cannot be cut off. -/
private def residueEvents : List ServerEvent :=
  waitingEvents ++
    [.serve 0 (.append { fullAfter 1 with truncate := fun _ => ⟨some Os.Error.noSpace, none⟩ })]

/-- An append that fails and is undone takes away what another append has left behind, so
the file is not what it would be without it. -/
theorem file_differs_of_residueEvents :
    ∃ earlier server other,
      (initial tickingSettings [slash, 100] .empty).run residueEvents = some earlier ∧
      (earlier.log.append (fullAfter 1) [98, 99, 10]).2 = .error (.write Os.Error.noSpace none) ∧
      (initial tickingSettings [slash, 100] .empty).run
        (residueEvents ++ [.serve 1 (.append (fullAfter 1))]) = some server ∧
      (∀ entry ∈ server.entries, entry.author ≠ .client 1) ∧
      (initial tickingSettings [slash, 100] .empty).run
        ((initial tickingSettings [slash, 100] .empty).erase 1 []
          (residueEvents ++ [.serve 1 (.append (fullAfter 1))])) = some other ∧
      server.log.file.map (·.toBytes) = some [] ∧ other.log.file.map (·.toBytes) = some [97] := by
  have hearlier : ((initial tickingSettings [slash, 100] .empty).run residueEvents).map
      (fun server => (server.log.append (fullAfter 1) [98, 99, 10]).2) =
      some (.error (.write Os.Error.noSpace none)) := by
    rfl
  have hserver : ((initial tickingSettings [slash, 100] .empty).run
      (residueEvents ++ [.serve 1 (.append (fullAfter 1))])).map
      (fun server => (server.entries, server.log.file.map (·.toBytes))) = some ([], some []) := by
    rfl
  have hother : ((initial tickingSettings [slash, 100] .empty).run
      ((initial tickingSettings [slash, 100] .empty).erase 1 []
        (residueEvents ++ [.serve 1 (.append (fullAfter 1))]))).map
      (fun server => server.log.file.map (·.toBytes)) = some (some [97]) := by
    rfl
  obtain ⟨earlier, hrunning, hrefused⟩ := Option.map_eq_some_iff.mp hearlier
  obtain ⟨server, hrun, hfields⟩ := Option.map_eq_some_iff.mp hserver
  obtain ⟨hentries, hfile⟩ := Prod.mk.inj hfields
  obtain ⟨other, herased, hresidue⟩ := Option.map_eq_some_iff.mp hother
  exact ⟨earlier, server, other, hrunning, hrefused, hrun, by simp [hentries], herased, hfile,
    hresidue⟩

end Example

end LineLog.Server
