import LineLog.Proofs.Host
import LineLog.Proofs.Server.Removal
import LineLog.Server.Hosted

/-!
# What a step of a server does to its host

A step of a server on its host is a change of the host by others, the removal of the store,
or a step that leaves the store as open as it was.  Who runs does not depend on the log, so
on its host as well every task that runs is known to the main thread.
-/

namespace LineLog.HostedServer

variable {hosted after : HostedServer} {event : HostedEvent}

inductive Stepped (hosted : HostedServer) : HostedEvent → HostedServer → Prop where
  | changed (change : Host → Host) :
      Stepped hosted (.change change) (ofServer hosted.store (change hosted.host) hosted.server)
  | removed (fault : Option Os.Error) (server : Server) (hphase : hosted.server.phase.isRemoving)
      (hnext : hosted.server.next
        (.main (fault? (hosted.store.remove hosted.host).2)) = some server) :
      Stepped hosted (.server (.main fault))
        (ofServer (hosted.store.remove hosted.host).1.2 (hosted.store.remove hosted.host).1.1
          server)
  | moved (event : ServerEvent) (server : Server) (store : Store) (host : Host)
      (hphase : hosted.server.phase.isRemoving → ∀ fault, event ≠ .main fault)
      (hnext : hosted.server.next event = some server) (hremains : hosted.store.Remains store) :
      Stepped hosted (.server event) (ofServer store host server)

theorem stepped_put {event : ServerEvent} {server : Server}
    (hevent : ∀ fault, event ≠ .main fault) (hnext : hosted.server.next event = some server) :
    Stepped hosted (.server event) (hosted.put server) := by
  unfold put
  split
  · exact .moved event server _ _ (fun _ => hevent) hnext (.refl _)
  · next handle hopen =>
    exact .moved event server _ _ (fun _ => hevent) hnext (Store.remains_putLog hopen _ _)

/-- Every step of a server on its host is one of those listed. -/
theorem stepped_of_next (hnext : hosted.next event = some after) :
    Stepped hosted event after := by
  have hput {event : ServerEvent} (hevent : ∀ fault, event ≠ .main fault)
      (hnext : (hosted.server.next event).map hosted.put = some after) :
      Stepped hosted (.server event) after := by
    obtain ⟨server, hserver, rfl⟩ := Option.map_eq_some_iff.mp hnext
    exact stepped_put hevent hserver
  cases event with
  | change change =>
      obtain rfl := Option.some.inj hnext
      exact .changed change
  | server event =>
      cases event with
      | main fault =>
          have hproceed : hosted.proceed fault = some after := hnext
          unfold proceed at hproceed
          split at hproceed
          · next hphase =>
            obtain ⟨server, hserver, rfl⟩ := Option.map_eq_some_iff.mp hproceed
            exact .removed fault server hphase hserver
          · next hphase =>
            obtain ⟨server, hserver, rfl⟩ := Option.map_eq_some_iff.mp hproceed
            exact .moved _ server _ _ (fun hremoving => absurd hremoving hphase) hserver (.refl _)
      | arrive | finish | trigger | accept | reap | serve | tick => exact hput nofun hnext

/-- On the host as well every task that runs is known to the main thread. -/
theorem tended_of_run {settings : Settings} {store : Store} {host : Host}
    {events : List HostedEvent} (hrun : (initial settings store host).run events = some hosted) :
    hosted.server.Tended := by
  refine foldlM_induction (fun _ state => state.server.Tended) ?_ ?_ hrun
  · have hinitial : (Server.initial settings store.path (store.log host)).Tended :=
      Server.tended_initial
    exact ⟨hinitial.registered, hinitial.workers, hinitial.ticker⟩
  · intro events state event following _ htended hnext
    cases stepped_of_next hnext with
    | changed => exact ⟨htended.registered, htended.workers, htended.ticker⟩
    | removed fault server _ hserver =>
        have hafter := htended.next hserver
        exact ⟨hafter.registered, hafter.workers, hafter.ticker⟩
    | moved event server store host _ hserver =>
        have hafter := htended.next hserver
        exact ⟨hafter.registered, hafter.workers, hafter.ticker⟩

end LineLog.HostedServer
