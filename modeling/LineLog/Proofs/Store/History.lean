import LineLog.Store.History

/-!
# Facts about the life of a store

A store is called again and again while others change the host.  What holds at the
beginning and is kept by every call and by every change holds before and after each of the
calls; the property may speak of the calls that were made so far.
-/

namespace LineLog

def StoreStep.ofCall (call : StoreCall) (state : Host × Store) : StoreStep where
  call
  before := state
  reply := (state.2.call call state.1).2
  after := (state.2.call call state.1).1

namespace Store

theorem history_eq_cons (call : StoreCall) (events : List StoreEvent) (state : Host × Store) :
    (history (.call call :: events) state).1 =
      .ofCall call state :: (history events (state.2.call call state.1).1).1 := rfl

/-- Nothing opens a store again, and a removal closes it. -/
theorem open_of_call {call : StoreCall} {store : Store} {host : Host}
    (hopen : (store.call call host).1.2.handle.isSome) :
    store.handle.isSome ∧ call ≠ .remove := by
  cases hhandle : store.handle with
  | none =>
      -- every call leaves a closed store as it is
      have hsame : (store.call call host).1.2 = store := by
        cases call <;> simp only [call, appendAgainst, remove, hhandle]
      rw [hsame, hhandle] at hopen
      cases hopen
  | some handle =>
      refine ⟨rfl, ?_⟩
      rintro rfl
      simp only [call, remove, hhandle] at hopen
      split at hopen <;> cases hopen

/-- What holds at the beginning and is kept by every event holds around every call. -/
theorem history_induction (Holds : List StoreStep → Host × Store → Prop)
    {events : List StoreEvent}
    (hchange : ∀ past state change, .change change ∈ events → Holds past state →
      Holds past (change state.1, state.2))
    (hcall : ∀ past state call, .call call ∈ events → Holds past state →
      Holds (past ++ [.ofCall call state]) (state.2.call call state.1).1)
    {earlier past future : List StoreStep} {state : Host × Store} {step : StoreStep}
    (hstart : Holds earlier state) (hsteps : (history events state).1 = past ++ step :: future) :
    step = .ofCall step.call step.before ∧ Holds (earlier ++ past) step.before ∧
      Holds (earlier ++ past ++ [step]) step.after := by
  induction events generalizing earlier past state with
  | nil => simp [history] at hsteps
  | cons event events ih =>
      have hothers (past : List StoreStep) (state : Host × Store) (change : Host → Host)
          (hmem : .change change ∈ events) :
          Holds past state → Holds past (change state.1, state.2) :=
        hchange past state change (List.mem_cons_of_mem _ hmem)
      have hcalls (past : List StoreStep) (state : Host × Store) (call : StoreCall)
          (hmem : .call call ∈ events) :
          Holds past state → Holds (past ++ [.ofCall call state]) (state.2.call call state.1).1 :=
        hcall past state call (List.mem_cons_of_mem _ hmem)
      cases event with
      | change change =>
          have hafter := hchange earlier state change (List.mem_cons_self ..) hstart
          exact ih hothers hcalls hafter hsteps
      | call call =>
          have hafter := hcall earlier state call (List.mem_cons_self ..) hstart
          rw [history_eq_cons] at hsteps
          cases past with
          | nil =>
              obtain ⟨rfl, -⟩ := List.cons.inj hsteps
              rw [List.append_nil]
              exact ⟨rfl, hstart, hafter⟩
          | cons first past =>
              obtain ⟨rfl, hrest⟩ := List.cons.inj hsteps
              have hlater := ih hothers hcalls hafter hrest
              rwa [List.append_assoc earlier, List.singleton_append] at hlater

/-- So does what holds in the end. -/
theorem history_final (Holds : List StoreStep → Host × Store → Prop) {events : List StoreEvent}
    (hchange : ∀ past (state : Host × Store) (change : Host → Host), Holds past state →
      Holds past (change state.1, state.2))
    (hcall : ∀ past (state : Host × Store) (call : StoreCall), Holds past state →
      Holds (past ++ [.ofCall call state]) (state.2.call call state.1).1)
    {earlier : List StoreStep} {state : Host × Store} (hstart : Holds earlier state) :
    Holds (earlier ++ (history events state).1) (history events state).2 := by
  induction events generalizing earlier state with
  | nil => rwa [history, List.append_nil]
  | cons event events ih =>
      cases event with
      | change change => exact ih (hchange earlier state change hstart)
      | call call =>
          have hrest := ih (hcall earlier state call hstart)
          rwa [List.append_assoc, List.singleton_append] at hrest

end Store

end LineLog
