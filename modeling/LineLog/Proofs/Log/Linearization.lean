import LineLog.Proofs.Log.Sequential
import LineLog.Proofs.Run

/-!
# Calls on a shared log

The calls on a log behind a lock are as good as calls made one at a time, in the
order in which they ended.  A call works on the log only while it holds the lock,
so at every moment the calls that have ended explain what the log holds, up to
the effect of the call that is under way.
-/

namespace LineLog

/-- When the call of a thread began, if it is in one. -/
def CallPhase.since? : CallPhase → Option Nat
  | .idle => none
  | .waiting _ since | .holding _ since _ => some since

namespace SharedLog

variable {shared after : SharedLog}

/-! ## What a step does -/

inductive Stepped (thread : Nat) (shared : SharedLog) : CallStep → SharedLog → Prop where
  | called (call : LogCall) (hphase : shared.threads.get thread = .idle) :
      Stepped thread shared (.call call)
        { shared with threads := shared.threads.set thread (.waiting call shared.moment) }
  | acquired (call : LogCall) (since : Nat)
      (hphase : shared.threads.get thread = .waiting call since)
      (hfree : shared.holder = none) :
      Stepped thread shared .acquire
        { shared with
          holder := some thread
          threads := shared.threads.set thread (.holding call since .entered) }
  | released (call : LogCall) (since : Nat) (reply : LogReply)
      (hphase : shared.threads.get thread = .holding call since (.answering reply)) :
      Stepped thread shared .release (shared.answer thread call since reply)
  | panicked (call : LogCall) (since : Nat) (progress : CallProgress)
      (hphase : shared.threads.get thread = .holding call since progress)
      (hcall : call ≠ .remove) :
      Stepped thread shared .panic (shared.answer thread call since .panicked)
  | worked (call : LogCall) (since : Nat) (progress following : CallProgress) (log : Log)
      (step : CallStep) (hphase : shared.threads.get thread = .holding call since progress)
      (hwork : work call progress step shared.log = some (log, following)) :
      Stepped thread shared step
        { shared with
          log
          threads := shared.threads.set thread (.holding call since following) }

theorem stepped_of_step {thread : Nat} {step : CallStep}
    (hstep : shared.step thread step = some after) : Stepped thread shared step after := by
  unfold SharedLog.step at hstep
  split at hstep
  · next call hphase =>
    obtain rfl := Option.some.inj hstep
    exact .called call hphase
  · next call since hphase =>
    split at hstep
    · next hfree =>
      obtain rfl := Option.some.inj hstep
      exact .acquired call since hphase hfree
    · cases hstep
  · next call since reply hphase =>
    obtain rfl := Option.some.inj hstep
    exact .released call since reply hphase
  · next call since progress hphase =>
    split at hstep
    · cases hstep
    · next hcall =>
      obtain rfl := Option.some.inj hstep
      exact .panicked call since progress hphase hcall
  · next call since progress hphase _ _ =>
    obtain ⟨⟨log, following⟩, hwork, rfl⟩ := Option.map_eq_some_iff.mp hstep
    exact .worked call since progress following log _ hphase hwork
  · cases hstep

/-- An event is a step of its thread, and the moment passes with it. -/
theorem stepped_of_next {event : Nat × CallStep} (hnext : shared.next event = some after) :
    ∃ reached, Stepped event.1 shared event.2 reached ∧
      after = { reached with moment := shared.moment + 1 } := by
  obtain ⟨reached, hstep, rfl⟩ := Option.map_eq_some_iff.mp hnext
  exact ⟨reached, stepped_of_step hstep, rfl⟩

/-! ## The order of the calls in time -/

/-- The calls are listed in the order of their ends, every call under way began
after the calls of its thread had ended, and all that is past. -/
structure Timed (shared : SharedLog) : Prop where
  past : ∀ entry ∈ shared.calls, entry.began ≤ entry.ended ∧ entry.ended < shared.moment
  apart : shared.calls.Pairwise fun first second =>
    first.ended < second.ended ∧ (first.thread = second.thread → first.ended < second.began)
  begun : ∀ thread since, (shared.threads.get thread).since? = some since →
    since < shared.moment ∧ ∀ entry ∈ shared.calls, entry.thread = thread → entry.ended < since

theorem timed_initial : initial.Timed where
  past := by simp [initial]
  apart := .nil
  begun := by simp [initial, CallPhase.since?]

/-- A step within a call does not change when the calls began and ended. -/
theorem Timed.set_phase {thread : Nat} {phase : CallPhase} {log : Log} {holder : Option Nat}
    (htimed : shared.Timed)
    (hsince : phase.since? = (shared.threads.get thread).since? ∨
      phase.since? = some shared.moment) :
    Timed { shared with
      log, holder, threads := shared.threads.set thread phase, moment := shared.moment + 1 } where
  past entry hentry :=
    have ⟨hbegan, hended⟩ := htimed.past entry hentry
    ⟨hbegan, Nat.lt_succ_of_lt hended⟩
  apart := htimed.apart
  begun other since hphase := by
    have hbefore (hold : (shared.threads.get other).since? = some since) :=
      htimed.begun other since hold
    dsimp only at hphase
    by_cases hother : other = thread
    · subst hother
      rw [Threads.get_set_self] at hphase
      rcases hsince with hsince | hsince
      · obtain ⟨hlt, hcalls⟩ := hbefore (hsince ▸ hphase)
        exact ⟨Nat.lt_succ_of_lt hlt, hcalls⟩
      · obtain rfl : shared.moment = since := Option.some.inj (hsince ▸ hphase)
        exact ⟨Nat.lt_succ_self _, fun entry hentry _ => (htimed.past entry hentry).2⟩
    · rw [Threads.get_set_of_ne _ _ hother] at hphase
      obtain ⟨hlt, hcalls⟩ := hbefore hphase
      exact ⟨Nat.lt_succ_of_lt hlt, hcalls⟩

/-- The end of a call comes after all that has ended before. -/
theorem Timed.answer {thread since : Nat} {call : LogCall} {progress : CallProgress}
    (htimed : shared.Timed) (hphase : shared.threads.get thread = .holding call since progress)
    (reply : LogReply) :
    Timed { shared.answer thread call since reply with moment := shared.moment + 1 } := by
  obtain ⟨hsince, hown⟩ := htimed.begun thread since (by rw [hphase]; rfl)
  have hnew (entry : CallRecord)
      (hentry : entry ∈ (shared.answer thread call since reply).calls) :
      entry ∈ shared.calls ∨ entry = ⟨thread, call, reply, since, shared.moment⟩ := by
    simpa [SharedLog.answer] using hentry
  refine ⟨?_, ?_, ?_⟩
  · intro entry hentry
    rcases hnew entry hentry with hentry | rfl
    · obtain ⟨hbegan, hended⟩ := htimed.past entry hentry
      exact ⟨hbegan, Nat.lt_succ_of_lt hended⟩
    · exact ⟨Nat.le_of_lt hsince, Nat.lt_succ_self _⟩
  · refine List.pairwise_append.mpr ⟨htimed.apart, List.pairwise_singleton _ _, ?_⟩
    intro first hfirst second hsecond
    obtain rfl := List.mem_singleton.mp hsecond
    exact ⟨(htimed.past first hfirst).2, fun hthread => hown first hfirst hthread⟩
  · intro other since' hother
    by_cases hsame : other = thread
    · subst hsame
      simp [SharedLog.answer, CallPhase.since?] at hother
    · simp only [SharedLog.answer, Threads.get_set_of_ne _ _ hsame] at hother
      obtain ⟨hlt, hcalls⟩ := htimed.begun other since' hother
      refine ⟨Nat.lt_succ_of_lt hlt, ?_⟩
      intro entry hentry hthread
      rcases hnew entry hentry with hentry | rfl
      · exact hcalls entry hentry hthread
      · exact absurd hthread.symm hsame

theorem Timed.next {event : Nat × CallStep} (htimed : shared.Timed)
    (hnext : shared.next event = some after) : after.Timed := by
  obtain ⟨thread, step⟩ := event
  obtain ⟨reached, hstepped, rfl⟩ := stepped_of_next hnext
  cases hstepped with
  | called call => exact htimed.set_phase (.inr rfl)
  | acquired call since hphase => exact htimed.set_phase (.inl (by rw [hphase]; rfl))
  | released call since reply hphase => exact htimed.answer hphase reply
  | panicked call since progress hphase => exact htimed.answer hphase .panicked
  | worked call since progress following log step hphase =>
      exact htimed.set_phase (.inl (by rw [hphase]; rfl))

end SharedLog

/-! ## What the log holds -/

def Log.Tidy (log : Log) : Prop :=
  log.view.getD [] = log.bytes

/-- What the call that holds the lock has made of the log so far: `before` is what
the calls before it have left. -/
def CallProgress.Fits (call : LogCall) (before after : LogView) : CallProgress → Prop
  | .entered => after = before
  | .writing _ | .cutting _ | .seeking _ =>
      after = before ∧ before.isSome ∧ ∃ record, call = .append record
  | .deleting => call = .remove ∧ before.isSome ∧ after = none
  | .answering reply => call.Yields reply before after ∧ reply ≠ .panicked

/-- The record that a call has added and not yet answered for. -/
def CallProgress.unanswered (call : LogCall) : CallProgress → Bytes
  | .answering .appended => call.record
  | _ => []

namespace CallProgress.Fits

variable {call : LogCall} {before after : LogView} {progress : CallProgress}

/-- A call whose caller panics has had its effect or none. -/
theorem panicked (hfits : progress.Fits call before after) (hcall : call ≠ .remove) :
    call.Yields .panicked before after := by
  cases progress with
  | entered =>
      obtain rfl : after = before := hfits
      exact .absent call after hcall
  | writing rest | cutting cause | seeking cause =>
      obtain ⟨rfl, -⟩ := hfits
      exact .absent call after hcall
  | deleting => exact absurd hfits.1 hcall
  | answering reply => exact hfits.1.panicked hcall

/-- As long as a call has not ended, the log is as it was before the call, or as the
call leaves it. -/
theorem eq_or_yields (hfits : progress.Fits call before after) :
    after = before ∨ ∃ reply, call.Yields reply before after := by
  cases progress with
  | entered => exact .inl hfits
  | writing rest | cutting cause | seeking cause => exact .inl hfits.1
  | deleting =>
      obtain ⟨rfl, hopen, rfl⟩ := hfits
      obtain ⟨bytes, rfl⟩ := Option.isSome_iff_exists.mp hopen
      exact .inr ⟨_, .removed bytes none⟩
  | answering reply => exact .inr ⟨reply, hfits.1⟩

/-- A log that is open holds what the calls before have left and the record that the
call under way has added. -/
theorem eq_append {bytes : Bytes} (hfits : progress.Fits call before (some bytes)) :
    ∃ kept, before = some kept ∧ bytes = kept ++ progress.unanswered call := by
  cases progress with
  | entered => exact ⟨bytes, Eq.symm hfits, (List.append_nil bytes).symm⟩
  | writing rest | cutting cause | seeking cause =>
      exact ⟨bytes, hfits.1.symm, (List.append_nil bytes).symm⟩
  | deleting => cases hfits.2.2
  | answering reply =>
      obtain ⟨hyields, hreply⟩ := hfits
      cases hyields with
      | appended record kept => exact ⟨kept, rfl, rfl⟩
      | refused | snapshot | length => exact ⟨bytes, rfl, (List.append_nil bytes).symm⟩
      | absent | executed => exact absurd rfl hreply

/-- Entering the log decides at once for every call but an append and a removal. -/
theorem enter (call : LogCall) {log : Log} (htidy : log.Tidy) :
    (SharedLog.enter call log).2.Fits call log.view (SharedLog.enter call log).1.view ∧
      (SharedLog.enter call log).1.Tidy := by
  obtain ⟨bytes, file⟩ := log
  cases call with
  | append record =>
      cases file with
      | none => exact ⟨⟨.closed record, nofun⟩, htidy⟩
      | some file => exact ⟨⟨rfl, rfl, record, rfl⟩, htidy⟩
  | snapshot =>
      have hcopy := LogCall.Yields.snapshot (Log.view ⟨bytes, file⟩)
      rw [htidy] at hcopy
      exact ⟨⟨hcopy, nofun⟩, htidy⟩
  | length =>
      have hcount := LogCall.Yields.length (Log.view ⟨bytes, file⟩)
      rw [htidy] at hcount
      exact ⟨⟨hcount, nofun⟩, htidy⟩
  | remove =>
      cases file with
      | none => exact ⟨⟨.removedBefore, nofun⟩, htidy⟩
      | some file => exact ⟨⟨rfl, rfl, rfl⟩, rfl⟩

/-- An append whose record could not be written leaves the log as it was. -/
theorem refused (hkept : after = before ∧ before.isSome ∧ ∃ record, call = .append record)
    (cause : Os.Error) : (answering (.refused cause)).Fits call before after := by
  obtain ⟨rfl, hopen, record, rfl⟩ := hkept
  obtain ⟨bytes, rfl⟩ := Option.isSome_iff_exists.mp hopen
  exact ⟨.refused record bytes cause, nofun⟩

/-- Work of a call on the log goes on from what the calls before it have left. -/
theorem work {step : CallStep} {log following : Log} {next : CallProgress}
    (hfits : progress.Fits call before log.view) (htidy : log.Tidy)
    (hwork : SharedLog.work call progress step log = some (following, next)) :
    next.Fits call before following.view ∧ following.Tidy := by
  obtain ⟨bytes, file⟩ := log
  unfold SharedLog.work at hwork
  split at hwork
  · obtain rfl : Log.view ⟨bytes, file⟩ = before := hfits
    obtain ⟨rfl, rfl⟩ := Prod.mk.inj (Option.some.inj hwork)
    exact enter call htidy
  · -- the whole record is written: this is where the append takes effect
    obtain ⟨rfl, hopen, -⟩ := hfits
    split at hwork
    · next record =>
      obtain ⟨rfl, rfl⟩ := Prod.mk.inj (Option.some.inj hwork)
      cases file with
      | none => cases hopen
      | some file => exact ⟨⟨.appended record bytes, nofun⟩, rfl⟩
    · cases hwork
  -- as long as the record is not written the log is what it was before the call
  · obtain ⟨rfl, rfl⟩ := Prod.mk.inj (Option.some.inj hwork)
    exact ⟨hfits, htidy⟩
  · obtain ⟨rfl, rfl⟩ := Prod.mk.inj (Option.some.inj hwork)
    exact ⟨hfits, htidy⟩
  · obtain ⟨rfl, rfl⟩ := Prod.mk.inj (Option.some.inj hwork)
    exact ⟨hfits, htidy⟩
  · next byte rest count written _ hopen =>
    obtain rfl : file = some written := hopen
    obtain ⟨rfl, rfl⟩ := Prod.mk.inj (Option.some.inj hwork)
    exact ⟨hfits, htidy⟩
  · next cause cut hopen =>
    obtain rfl : file = some cut := hopen
    obtain ⟨rfl, rfl⟩ := Prod.mk.inj (Option.some.inj hwork)
    exact ⟨hfits, htidy⟩
  -- cutting the file back does not touch the memory, whether it succeeds or not
  · obtain ⟨rfl, rfl⟩ := Prod.mk.inj (Option.some.inj hwork)
    exact ⟨refused hfits _, htidy⟩
  · next cause cut hopen =>
    obtain rfl : file = some cut := hopen
    obtain ⟨rfl, rfl⟩ := Prod.mk.inj (Option.some.inj hwork)
    exact ⟨refused hfits cause, htidy⟩
  · obtain ⟨rfl, rfl⟩ := Prod.mk.inj (Option.some.inj hwork)
    exact ⟨refused hfits _, htidy⟩
  · next fault =>
    obtain ⟨rfl, rfl⟩ := Prod.mk.inj (Option.some.inj hwork)
    obtain ⟨rfl, hopen, hclosed⟩ := hfits
    obtain ⟨records, rfl⟩ := Option.isSome_iff_exists.mp hopen
    rw [hclosed]
    exact ⟨⟨.removed records fault, nofun⟩, htidy⟩
  · cases hwork

end CallProgress.Fits

namespace SharedLog

variable {shared after : SharedLog}

/-- The calls that have ended have left `view`, and nobody works on that but the
call that holds the lock. -/
def Explains (view : LogView) (shared : SharedLog) : Prop :=
  (shared.holder = none ∧ shared.log.view = view) ∨
    ∃ thread call since progress, shared.holder = some thread ∧
      shared.threads.get thread = .holding call since progress ∧
      progress.Fits call view shared.log.view

/-- The lock keeps the calls apart: only its holder works, and the calls that have
ended are calls made one at a time in the order of their ends. -/
structure Locked (shared : SharedLog) : Prop where
  tidy : shared.log.Tidy
  exclusive : ∀ thread call since progress,
    shared.threads.get thread = .holding call since progress → shared.holder = some thread
  explained : ∃ view, CallRecord.Sequential shared.calls (some []) view ∧ shared.Explains view

theorem locked_initial : initial.Locked where
  tidy := rfl
  exclusive := by simp [initial]
  explained := ⟨some [], .nil _, .inl ⟨rfl, rfl⟩⟩

/-- What the call of a thread that holds the lock has made of the log. -/
theorem Locked.fits {thread since : Nat} {call : LogCall} {progress : CallProgress}
    (hlocked : shared.Locked) (hphase : shared.threads.get thread = .holding call since progress) :
    ∃ view, CallRecord.Sequential shared.calls (some []) view ∧
      progress.Fits call view shared.log.view := by
  obtain ⟨view, hcalls, hexplains⟩ := hlocked.explained
  have hholder := hlocked.exclusive thread call since progress hphase
  refine ⟨view, hcalls, ?_⟩
  rcases hexplains with ⟨hfree, -⟩ | ⟨other, _, _, _, hother, hothers, hfits⟩
  · rw [hholder] at hfree
    cases hfree
  · obtain rfl : thread = other := Option.some.inj (hholder ▸ hother)
    rw [hphase] at hothers
    cases hothers
    exact hfits

/-- A call that ends leaves the log to whoever takes the lock next. -/
theorem Locked.answer {thread since : Nat} {call : LogCall} {progress : CallProgress}
    {reply : LogReply} (hlocked : shared.Locked)
    (hphase : shared.threads.get thread = .holding call since progress)
    (hyields : ∀ view, progress.Fits call view shared.log.view →
      call.Yields reply view shared.log.view) :
    (shared.answer thread call since reply).Locked where
  tidy := hlocked.tidy
  exclusive other _ _ _ hother := by
    by_cases hsame : other = thread
    · subst hsame
      simp [SharedLog.answer] at hother
    · simp only [SharedLog.answer, Threads.get_set_of_ne _ _ hsame] at hother
      have hholder := hlocked.exclusive thread call since progress hphase
      rw [hlocked.exclusive other _ _ _ hother] at hholder
      exact absurd (Option.some.inj hholder) hsame
  explained := by
    obtain ⟨view, hcalls, hfits⟩ := hlocked.fits hphase
    exact ⟨shared.log.view, hcalls.snoc (hyields view hfits), .inl ⟨rfl, rfl⟩⟩

theorem Locked.stepped {thread : Nat} {step : CallStep} (hlocked : shared.Locked)
    (hstepped : Stepped thread shared step after) : after.Locked := by
  cases hstepped with
  | called call hphase =>
      have hothers (other : Nat) {now : LogCall} {since : Nat} {progress : CallProgress}
          (hother : shared.threads.get other = .holding now since progress) : other ≠ thread := by
        rintro rfl
        rw [hphase] at hother
        cases hother
      refine ⟨hlocked.tidy, ?_, ?_⟩
      · intro other now since progress hother
        by_cases hsame : other = thread
        · subst hsame
          simp at hother
        · rw [Threads.get_set_of_ne _ _ hsame] at hother
          exact hlocked.exclusive other now since progress hother
      · obtain ⟨view, hcalls, hfree | ⟨other, now, since, progress, hholder, hother, hfits⟩⟩ :=
          hlocked.explained
        · exact ⟨view, hcalls, .inl hfree⟩
        · refine ⟨view, hcalls, .inr ⟨other, now, since, progress, hholder, ?_, hfits⟩⟩
          rwa [Threads.get_set_of_ne _ _ (hothers other hother)]
  | acquired call since hphase hfree =>
      have hnobody (other : Nat) {now : LogCall} {since : Nat} {progress : CallProgress} :
          shared.threads.get other ≠ .holding now since progress := by
        intro hother
        rw [hlocked.exclusive other now since progress hother] at hfree
        cases hfree
      refine ⟨hlocked.tidy, ?_, ?_⟩
      · -- the lock was free, so nobody else holds it now
        intro other now since progress hother
        by_cases hsame : other = thread
        · rw [hsame]
        · rw [Threads.get_set_of_ne _ _ hsame] at hother
          exact absurd hother (hnobody other)
      · obtain ⟨view, hcalls, ⟨-, hview⟩ | ⟨other, _, _, _, -, hother, -⟩⟩ := hlocked.explained
        · exact ⟨view, hcalls, .inr ⟨thread, call, since, .entered, rfl,
            Threads.get_set_self _ _ _, hview⟩⟩
        · exact absurd hother (hnobody other)
  | released call since reply hphase => exact hlocked.answer hphase fun _ hfits => hfits.1
  | panicked call since progress hphase hcall =>
      have hanswered := hlocked.answer hphase fun _ hfits => hfits.panicked hcall
      exact ⟨hanswered.tidy, hanswered.exclusive, hanswered.explained⟩
  | worked call since progress following log step hphase hwork =>
      have hholder := hlocked.exclusive thread call since progress hphase
      obtain ⟨view, hcalls, hfits⟩ := hlocked.fits hphase
      obtain ⟨hfollowing, htidy⟩ := hfits.work hlocked.tidy hwork
      refine ⟨htidy, ?_, view, hcalls, .inr ⟨thread, call, since, following, hholder,
        Threads.get_set_self _ _ _, hfollowing⟩⟩
      intro other now since progress hother
      by_cases hsame : other = thread
      · rwa [hsame]
      · rw [Threads.get_set_of_ne _ _ hsame] at hother
        exact hlocked.exclusive other now since progress hother

/-- What holds of every state that a run can reach. -/
theorem timed_and_locked_of_run {events : List (Nat × CallStep)}
    (hrun : initial.run events = some shared) : shared.Timed ∧ shared.Locked := by
  refine foldlM_induction (fun _ state => state.Timed ∧ state.Locked)
    ⟨timed_initial, locked_initial⟩ ?_ hrun
  rintro events state event after - ⟨htimed, hlocked⟩ hnext
  refine ⟨htimed.next hnext, ?_⟩
  obtain ⟨reached, hstepped, rfl⟩ := stepped_of_next hnext
  have hreached := hlocked.stepped hstepped
  exact ⟨hreached.tidy, hreached.exclusive, hreached.explained⟩

def unanswered (shared : SharedLog) : Bytes :=
  match shared.holder.map shared.threads.get with
  | some (.holding call _ progress) => progress.unanswered call
  | _ => []

/-- The calls that have ended are as good as calls made one at a time, in the order
in which they ended. -/
structure Linearized (shared : SharedLog) : Prop where
  /-- No call comes before one that had ended when it began. -/
  in_time : CallRecord.InTime shared.calls
  /-- The calls of a thread come in the order in which it makes them. -/
  in_order : shared.calls.Pairwise fun first second =>
    first.thread = second.thread → first.ended < second.began
  /-- The calls one at a time have the same replies and leave the log as it is, except
  for the effect of a call that has not been answered yet. -/
  sequential : ∃ view, CallRecord.Sequential shared.calls (some []) view ∧
    (shared.log.view = view ∨
      ∃ thread call since progress reply, shared.holder = some thread ∧
        shared.threads.get thread = .holding call since progress ∧
        call.Yields reply view shared.log.view)
  /-- An append is told that the log is closed exactly if a removal comes before it. -/
  closed_iff : ∀ earlier entry later record, shared.calls = earlier ++ entry :: later →
    entry.call = .append record → entry.reply ≠ .panicked →
      (entry.reply = .closed ↔ ∃ removal ∈ earlier, removal.call = .remove)
  /-- Before the removal the log holds the records of all appends that succeeded, and of
  some whose callers panicked, whole, once each and in the order of the calls. -/
  merged : ∀ bytes, shared.log.view = some bytes → ∃ taken : List CallRecord,
    (shared.calls.filter CallRecord.hasAppended).Sublist taken ∧
      taken.Sublist (shared.calls.filter CallRecord.mayHaveAppended) ∧
      bytes = taken.flatMap (·.call.record) ++ shared.unanswered
  /-- Of two copies made before the removal, the earlier is a front of the later. -/
  copies : ∀ before earlier between later after copy other,
    shared.calls = before ++ earlier :: (between ++ later :: after) →
      earlier.reply = .bytes copy → later.reply = .bytes other →
        (∀ entry ∈ before ++ earlier :: between, entry.call ≠ .remove) → copy <+: other

/-- Whatever the threads call and however their steps are interleaved, with writes
that fail and callers that panic, their calls are linearized. -/
theorem linearized_of_run {events : List (Nat × CallStep)}
    (hrun : initial.run events = some shared) : shared.Linearized := by
  obtain ⟨htimed, hlocked⟩ := timed_and_locked_of_run hrun
  obtain ⟨view, hcalls, hexplains⟩ := hlocked.explained
  refine ⟨?_, htimed.apart.imp And.right, ⟨view, hcalls, ?_⟩, ?_, ?_, ?_⟩
  · refine htimed.apart.imp_of_mem ?_
    intro first second hfirst _ hapart
    have hbegan := (htimed.past first hfirst).1
    omega
  · rcases hexplains with ⟨-, hview⟩ | ⟨thread, call, since, progress, hholder, hphase, hfits⟩
    · exact .inl hview
    · rcases hfits.eq_or_yields with hview | ⟨reply, hyields⟩
      · exact .inl hview
      · exact .inr ⟨thread, call, since, progress, reply, hholder, hphase, hyields⟩
  · intro earlier entry later record hsplit hcall hreply
    rw [hsplit] at hcalls
    exact hcalls.reply_closed_iff hcall hreply
  · intro bytes hopen
    have hkept : ∃ kept, view = some kept ∧ bytes = kept ++ shared.unanswered := by
      rcases hexplains with ⟨hfree, hview⟩ | ⟨thread, call, since, progress, hholder, hphase, hfits⟩
      · refine ⟨bytes, hview.symm.trans hopen, ?_⟩
        simp [unanswered, hfree]
      · rw [hopen] at hfits
        simpa [unanswered, hholder, hphase] using hfits.eq_append
    obtain ⟨kept, rfl, hbytes⟩ := hkept
    obtain ⟨taken, hall, honly, rfl⟩ := hcalls.exists_taken
    exact ⟨taken, hall, honly, hbytes⟩
  · intro before earlier between later after copy other hsplit hcopy hother hbefore
    rw [hsplit] at hcalls
    exact hcalls.copy_prefix_copy hcopy hother hbefore

/-- One append goes through in two writes, one caller panics after a write, one append
is refused after a write, and one comes after the removal. -/
private def contendedEvents : List (Nat × CallStep) :=
  [(0, .call (.append [97, 10])), (1, .call .snapshot), (0, .acquire),
    (2, .call (.append [98, 10])), (0, .enter), (0, .write (.accepted 1)),
    (0, .write .interrupted), (0, .write (.accepted 1)), (0, .extend), (0, .release),
    (2, .acquire), (2, .enter), (2, .write (.accepted 1)), (2, .panic),
    (0, .call (.append [99, 10])), (1, .acquire), (1, .enter), (1, .release),
    (0, .acquire), (0, .enter), (0, .write (.accepted 1)),
    (0, .write (.refused Os.Error.noSpace)), (0, .cut none), (0, .seek none), (0, .release),
    (1, .call .remove), (3, .call (.append [100, 10])), (1, .acquire), (1, .enter),
    (1, .delete none), (1, .release), (3, .acquire), (3, .enter), (3, .release)]

/-- Four threads use the log at once, and one of them panics under the lock. -/
theorem linearized_of_contendedEvents :
    ∃ shared, initial.run contendedEvents = some shared ∧
      shared.calls.map (·.reply) =
        [.appended, .panicked, .bytes [97, 10], .refused Os.Error.noSpace, .removed none,
          .closed] ∧
      shared.Linearized := by
  have hreplies : (initial.run contendedEvents).map (fun shared => shared.calls.map (·.reply)) =
      some [.appended, .panicked, .bytes [97, 10], .refused Os.Error.noSpace, .removed none,
        .closed] := by
    rfl
  obtain ⟨shared, hrun, hcalls⟩ := Option.map_eq_some_iff.mp hreplies
  exact ⟨shared, hrun, hcalls, linearized_of_run hrun⟩

end SharedLog

end LineLog
