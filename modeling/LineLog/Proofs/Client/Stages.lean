import LineLog.Proofs.Client
import LineLog.Proofs.Run

/-!
# The order of the stages

The stages of a connection follow one another and never come back.  So a step that
leaves a stage for good is taken at most once in a run: a task appends at most once
and copies the log at most once.
-/

namespace LineLog

/-- The place of a stage in the order in which a connection goes through them. -/
def Stage.rank : Stage → Nat
  | .receiving _ => 0
  | .appending _ => 1
  | .copying _ => 2
  | .sending _ _ _ => 3
  | .lingering _ => 4
  | .closing _ => 5
  | .ended _ => 6
  | .panicked => 7

namespace Connection

variable {connection after : Connection} {input : ConnectionInput}

theorem rank_send (message reply rest : Bytes) (connection : Connection) (answer : WriteAnswer)
    (hstage : connection.stage = .sending message reply rest) :
    3 ≤ (connection.send message reply rest answer).stage.rank := by
  unfold send
  split
  · simp [Stage.rank]
  · simp [Stage.rank]
  · simp [hstage, Stage.rank]
  · simp [Stage.rank]

theorem rank_le_of_next (hnext : connection.next input = some after) :
    connection.stage.rank ≤ after.stage.rank := by
  cases moved_of_next hnext with
  | read bytes result hstage => simp [hstage, Stage.rank]
  | looked bytes stopping hstage => simp [hstage, Stage.rank]
  | appended message hstage => simp [hstage, Stage.rank]
  | refused message cause hstage => simp [hstage, Stage.rank]
  | copied message log hstage => simp [hstage, Stage.rank]
  | sent message reply rest answer hstage =>
      rw [hstage]
      exact rank_send message reply rest connection answer hstage
  | flushed message reply hstage => simp [hstage, Stage.rank]
  | left outcome hstage => simp [hstage, Stage.rank]
  | closed result hstage => simp [hstage, Stage.rank]
  | panicked =>
      cases connection.stage <;> simp [Stage.rank]

theorem rank_of_next_append {result : Except StoreError Unit}
    (hnext : connection.next (.append result) = some after) :
    connection.stage.rank = 1 ∧ 1 < after.stage.rank := by
  cases moved_of_next hnext with
  | appended message hstage => simp [hstage, Stage.rank]
  | refused message cause hstage => simp [hstage, Stage.rank]

theorem rank_of_next_copy {log : Bytes} (hnext : connection.next (.copy log) = some after) :
    connection.stage.rank = 2 ∧ 2 < after.stage.rank := by
  cases moved_of_next hnext with
  | copied message log hstage => simp [hstage, Stage.rank]

end Connection

namespace Client

variable {path : Path} {state following : Client × Log} {events : List ClientEvent}

def rank (client : Client) : Nat :=
  (client.connection.map (·.stage.rank)).getD 0

theorem rank_of_connection {client : Client} {connection : Connection}
    (hconnection : client.connection = some connection) : client.rank = connection.stage.rank := by
  rw [rank, hconnection]
  rfl

theorem rank_le_of_enter {client after : Client} {input : ConnectionInput}
    (henter : client.enter input = some after) : client.rank ≤ after.rank := by
  obtain ⟨connection, moved, hconnection, hnext, rfl⟩ := exists_of_enter henter
  rw [rank_of_connection hconnection]
  exact Connection.rank_le_of_next hnext

/-- A step of the task in a run is one of its kinds of steps. -/
theorem acted_of_next {stopping : Bool} {step : ClientStep}
    (hnext : next path state (.act stopping step) = some following) :
    Acted path stopping state.1 state.2 step following.1 following.2 :=
  acted_of_act hnext

theorem rank_le_of_next {event : ClientEvent} (hnext : next path state event = some following) :
    state.1.rank ≤ following.1.rank := by
  obtain ⟨client, log⟩ := following
  cases event with
  | arrive bytes =>
      obtain ⟨-, hsome⟩ := Option.ite_none_left_eq_some.mp hnext
      obtain ⟨rfl, rfl⟩ := Prod.mk.inj (Option.some.inj hsome)
      exact Nat.le_refl _
  | finish | others =>
      obtain ⟨rfl, rfl⟩ := Prod.mk.inj (Option.some.inj hnext)
      exact Nat.le_refl _
  | act stopping step =>
      cases acted_of_next hnext with
      | took count after hoffers henter =>
          have hentered := rank_le_of_enter henter
          exact hentered
      | appended obstacles message after hmessage henter => exact rank_le_of_enter henter
      | discarded => exact Nat.le_refl _
      | entered step input after hinput hend htime henter => exact rank_le_of_enter henter

theorem rank_le_of_run (hrun : run path state events = some following) :
    state.1.rank ≤ following.1.rank := by
  refine foldlM_induction (fun _ reached => state.1.rank ≤ reached.1.rank) (Nat.le_refl _) ?_ hrun
  intro events reached event after _ hrank hnext
  exact Nat.le_trans hrank (rank_le_of_next hnext)

variable {origin earlier later reached final : Client × Log} {before past : List ClientEvent}
  {event other : ClientEvent}

/-- A step that leaves a stage for good is taken only once. -/
theorem length_eq_of_rank (hfirst : TakesStep (next path) origin events before event earlier later)
    (hsecond : TakesStep (next path) origin events past other reached final)
    (hrank : earlier.1.rank = reached.1.rank) (hleft : earlier.1.rank < later.1.rank)
    (hgone : reached.1.rank < final.1.rank) : before.length = past.length := by
  rcases Nat.lt_trichotomy before.length past.length with hshorter | hsame | hlonger
  · obtain ⟨more, hmore⟩ := hfirst.exists_between hsecond hshorter
    have hlater := rank_le_of_run hmore
    omega
  · exact hsame
  · obtain ⟨more, hmore⟩ := hsecond.exists_between hfirst hlonger
    have hlater := rank_le_of_run hmore
    omega

theorem rank_of_append {stopping : Bool} {obstacles : Obstacles}
    (hnext : next path earlier (.act stopping (.append obstacles)) = some later) :
    earlier.1.rank = 1 ∧ 1 < later.1.rank := by
  obtain ⟨client, log⟩ := later
  cases acted_of_next hnext with
  | appended _ message _ hmessage henter =>
      obtain ⟨connection, moved, hconnection, hmoved, rfl⟩ := exists_of_enter henter
      rw [rank_of_connection hconnection]
      exact Connection.rank_of_next_append hmoved
  | entered _ input _ hinput => cases hinput

theorem rank_of_copy {stopping : Bool}
    (hnext : next path earlier (.act stopping .copy) = some later) :
    earlier.1.rank = 2 ∧ 2 < later.1.rank := by
  obtain ⟨client, log⟩ := later
  cases acted_of_next hnext with
  | entered _ input _ hinput hend htime henter =>
      obtain rfl := Option.some.inj hinput
      obtain ⟨connection, moved, hconnection, hmoved, rfl⟩ := exists_of_enter henter
      rw [rank_of_connection hconnection]
      exact Connection.rank_of_next_copy hmoved

end Client

end LineLog
