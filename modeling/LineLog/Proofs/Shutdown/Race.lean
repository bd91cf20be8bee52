import LineLog.Proofs.Run
import LineLog.Proofs.Shutdown.Step
import Mathlib.Data.List.Count

/-!
# The race for the flag

Of all requests only one flips the flag, and only that one wakes the sleepers and the
poller.  A wait that goes to sleep has seen the flag unset and holds the lock until
it sleeps, so the flag is not flipped in between: whoever sleeps although the flag is
set is going to be woken by the request that has set it, which has not returned yet.
-/

namespace LineLog

namespace FlagWait

variable {wait : FlagWait} {requested poisoned : Bool} {now : Nanoseconds}

/-- A wait that began when the flag was set has not slept. -/
def IsPrompt (requested : Bool) (wait : FlagWait) : Prop :=
  wait.late = true → requested = true ∧ wait.slept = false

theorem IsPrompt.of_early (hearly : wait.late = false) : wait.IsPrompt requested :=
  fun hlate => absurd (hearly.symm.trans hlate) Bool.false_ne_true

inductive IsOver (requested poisoned : Bool) (now : Nanoseconds) (wait : FlagWait) : Prop where
  | requested (hwhole : wait.broken = false) (hflag : requested = true)
  | expired (hwhole : wait.broken = false) (helapsed : wait.timeout < now - wait.since.getD now)
  | broken (hbroken : wait.broken = true) (hslept : wait.slept = true)
      (hpoisoned : poisoned = true)

namespace IsOver

/-- What is over stays over while time passes. -/
theorem pass (hover : wait.IsOver requested poisoned now) (time : Nanoseconds) :
    wait.IsOver requested poisoned (now + time) := by
  cases hover with
  | requested hwhole hflag => exact .requested hwhole hflag
  | broken hbroken hslept hpoisoned => exact .broken hbroken hslept hpoisoned
  | expired hwhole helapsed =>
      refine .expired hwhole ?_
      cases hsince : wait.since with
      | none => simp [hsince] at helapsed
      | some since =>
          rw [hsince] at helapsed
          exact Nat.lt_of_lt_of_le helapsed (Nat.sub_le_sub_right (Nat.le_add_right now time) since)

theorem flip (hover : wait.IsOver requested poisoned now) : wait.IsOver true poisoned now := by
  cases hover with
  | requested hwhole _ | expired hwhole _ => exact .requested hwhole rfl
  | broken hbroken hslept hpoisoned => exact .broken hbroken hslept hpoisoned

theorem poison (hover : wait.IsOver requested poisoned now) : wait.IsOver requested true now := by
  cases hover with
  | requested hwhole hflag => exact .requested hwhole hflag
  | expired hwhole helapsed => exact .expired hwhole helapsed
  | broken hbroken hslept _ => exact .broken hbroken hslept rfl

end IsOver

end FlagWait

namespace FlagPhase

variable {phase : FlagPhase} {requested poisoned : Bool} {now : Nanoseconds}

def isWinning : FlagPhase → Bool
  | .flipped true | .notifying | .waking | .requested true => true
  | _ => false

def isNotifying : FlagPhase → Bool
  | .flipped true | .notifying => true
  | _ => false

def isSleeping : FlagPhase → Bool
  | .asleep _ false => true
  | _ => false

def isAsking : FlagPhase → Bool
  | .requesting | .flipping => true
  | _ => false

def wakes : FlagPhase → Nat
  | .requested true => 1
  | _ => 0

theorem isSleeping_notified : phase.notified.isSleeping = false := by
  cases phase <;> rfl

/-- Only the request that has flipped the flag wakes anybody. -/
theorem isWinning_of_isNotifying (hnotifies : phase.isNotifying = true) :
    phase.isWinning = true := by
  cases phase with
  | flipped won => cases won <;> exact hnotifies
  | notifying => rfl
  | _ => cases hnotifies

theorem wakes_eq_zero (hlost : phase.isWinning = false) : phase.wakes = 0 := by
  unfold wakes
  split
  · cases hlost
  · rfl

theorem wakes_le_one (phase : FlagPhase) : phase.wakes ≤ 1 := by
  unfold wakes
  split <;> decide

/-- What a thread in this phase can rely on about the flag, the lock and the clock. -/
def Fits (requested poisoned : Bool) (now : Nanoseconds) : FlagPhase → Prop
  | .idle | .requesting | .flipping => True
  | .flipped _ | .notifying | .waking | .requested _ => requested = true
  | .entering wait | .checking wait => wait.broken = false ∧ wait.IsPrompt requested
  | .timing wait | .dozing wait => wait.broken = false ∧ wait.late = false ∧ requested = false
  | .asleep wait _ => wait.broken = false ∧ wait.late = false ∧ wait.slept = true
  | .finishing wait | .leaving wait =>
      wait.IsOver requested poisoned now ∧ wait.IsPrompt requested

namespace Fits

theorem pass (hfits : phase.Fits requested poisoned now) (time : Nanoseconds) :
    phase.Fits requested poisoned (now + time) := by
  cases phase with
  | finishing wait | leaving wait => exact ⟨hfits.1.pass time, hfits.2⟩
  | _ => exact hfits

/-- Only a thread under the lock relies on the flag being unset. -/
theorem flip (hfits : phase.Fits requested poisoned now) (hfree : phase.isHolding = false) :
    phase.Fits true poisoned now := by
  cases phase with
  | entering wait | checking wait => exact ⟨hfits.1, fun hlate => ⟨rfl, (hfits.2 hlate).2⟩⟩
  | timing wait | dozing wait => cases hfree
  | finishing wait | leaving wait =>
      exact ⟨hfits.1.flip, fun hlate => ⟨rfl, (hfits.2 hlate).2⟩⟩
  | flipped | notifying | waking | requested => rfl
  | idle | requesting | flipping | asleep => exact hfits

/-- Nobody relies on the lock not being poisoned. -/
theorem poison (hfits : phase.Fits requested poisoned now) : phase.Fits requested true now := by
  cases phase with
  | finishing wait | leaving wait => exact ⟨hfits.1.poison, hfits.2⟩
  | _ => exact hfits

theorem notified (hfits : phase.Fits requested poisoned now) :
    phase.notified.Fits requested poisoned now := by
  cases phase <;> exact hfits

end Fits

end FlagPhase

def FlagEvent.isRequest : FlagEvent → Bool
  | .request _ => true
  | _ => false

namespace SharedShutdown

variable {shared after : SharedShutdown} {events : List FlagEvent} {event : FlagEvent}
  {threads : Threads FlagPhase} {thread : Nat} {phase : FlagPhase}

/-! ## What the threads rely on -/

def Informed (requested poisoned : Bool) (now : Nanoseconds) (threads : Threads FlagPhase) :
    Prop :=
  ∀ thread, (threads.get thread).Fits requested poisoned now

/-- A thread that goes on knows what its new phase relies on, and the others know what they did. -/
theorem Informed.set {requested poisoned : Bool} {now : Nanoseconds}
    (hinformed : Informed requested poisoned now threads)
    (hphase : phase.Fits requested poisoned now) :
    Informed requested poisoned now (threads.set thread phase) :=
  Threads.forall_get_set (fun _ => FlagPhase.Fits requested poisoned now) hphase
    fun other _ => hinformed other

/-- What the threads rely on about the flag, the lock and the clock stays true in every step. -/
theorem informed_next (hlocked : Locked shared.holder shared.threads)
    (hinformed : Informed shared.requested shared.poisoned shared.now shared.threads)
    (hnext : shared.next event = some after) :
    Informed after.requested after.poisoned after.now after.threads := by
  have hown (thread : Nat) {phase : FlagPhase} (hphase : shared.threads.get thread = phase) :
      phase.Fits shared.requested shared.poisoned shared.now := hphase ▸ hinformed thread
  cases stepped_of_next hnext with
  | passed time => exact fun other => (hinformed other).pass time
  | poisoned => exact fun other => (hinformed other).poison
  | requested | looked | locked | answered | left => exact hinformed.set trivial
  | waited => exact hinformed.set ⟨rfl, fun hlate => ⟨hlate, rfl⟩⟩
  | flipped thread hphase =>
      -- whoever has seen the flag unset holds the lock, and that is this request
      refine Threads.forall_get_set
        (fun _ => FlagPhase.Fits true shared.poisoned shared.now) rfl ?_
      intro other hother
      refine (hinformed other).flip (Bool.eq_false_iff.mpr fun hholds => hother ?_)
      exact hlocked.eq_of_isHolding (by rw [hphase]; rfl) hholds
  | won thread hphase | lost thread hphase | woke thread hphase =>
      have hset := hown thread hphase
      exact hinformed.set hset
  | notified thread hphase =>
      have hnotified :
          Informed shared.requested shared.poisoned shared.now (notifyAll shared.threads) :=
        fun other => (hinformed other).notified
      have hset := hown thread hphase
      exact hnotified.set hset
  | entered thread wait hphase | remained thread wait hphase
  | finished thread wait hphase =>
      have hfits := hown thread hphase
      exact hinformed.set hfits
  | broke thread wait hphase hfree hslept hpoisoned =>
      exact hinformed.set ⟨.broken rfl hslept hpoisoned, (hown thread hphase).2⟩
  | found thread wait hphase hflag =>
      obtain ⟨hwhole, hprompt⟩ := hown thread hphase
      exact hinformed.set ⟨.requested hwhole hflag, hprompt⟩
  | missed thread wait hphase hflag =>
      obtain ⟨hwhole, hprompt⟩ := hown thread hphase
      refine hinformed.set ⟨hwhole, Bool.eq_false_iff.mpr fun hlate => ?_, hflag⟩
      exact Bool.eq_false_iff.mp hflag (hprompt hlate).1
  | expired thread wait hphase helapsed =>
      obtain ⟨hwhole, hearly, -⟩ := hown thread hphase
      exact hinformed.set ⟨.expired hwhole helapsed, .of_early hearly⟩
  | slept thread wait hphase =>
      obtain ⟨hwhole, hearly, -⟩ := hown thread hphase
      exact hinformed.set ⟨hwhole, hearly, rfl⟩
  | woken thread wait notified hphase =>
      obtain ⟨hwhole, hearly, -⟩ := hown thread hphase
      exact hinformed.set ⟨hwhole, .of_early hearly⟩

/-! ## Who wins -/

/-- How the race for the flag stands: nobody has flipped it, or one request has, which
may have returned by now. -/
inductive Race (requested : Bool) (wakes : Nat) (answers : List FlagAnswer)
    (threads : Threads FlagPhase) : Prop where
  | undecided (hflag : requested = false)
      (hnobody : ∀ thread, (threads.get thread).isWinning = false)
      (hanswers : answers.count (.requested true) = 0) (hwakes : wakes = 0)
  | won (winner : Nat) (hflag : requested = true)
      (hwinner : (threads.get winner).isWinning = true)
      (honly : ∀ other, (threads.get other).isWinning = true → other = winner)
      (hanswers : answers.count (.requested true) = 0)
      (hwakes : wakes = (threads.get winner).wakes)
  | decided (hflag : requested = true)
      (hnobody : ∀ thread, (threads.get thread).isWinning = false)
      (hanswers : answers.count (.requested true) = 1) (hwakes : wakes = 1)

namespace Race

variable {requested : Bool} {wakes : Nat} {answers : List FlagAnswer}

/-- A step that changes neither who wins nor how often the winner has woken the poller. -/
theorem congr {following : Threads FlagPhase} (hrace : Race requested wakes answers threads)
    (hsame : ∀ thread, (following.get thread).isWinning = (threads.get thread).isWinning ∧
      (following.get thread).wakes = (threads.get thread).wakes) :
    Race requested wakes answers following := by
  have hwinning (other : Nat) := (hsame other).1
  cases hrace with
  | undecided hflag hnobody hanswers hwakes =>
      exact .undecided hflag (fun other => (hwinning other).trans (hnobody other)) hanswers hwakes
  | won winner hflag hwinner honly hanswers hwakes =>
      refine .won winner hflag ((hwinning winner).trans hwinner) ?_ hanswers ?_
      · exact fun other hother => honly other ((hwinning other).symm.trans hother)
      · exact hwakes.trans (hsame winner).2.symm
  | decided hflag hnobody hanswers hwakes =>
      exact .decided hflag (fun other => (hwinning other).trans (hnobody other)) hanswers hwakes

/-- A thread that has not won goes on without having won. -/
theorem set (hrace : Race requested wakes answers threads)
    (hbefore : (threads.get thread).isWinning = false) (hphase : phase.isWinning = false) :
    Race requested wakes answers (threads.set thread phase) := by
  refine hrace.congr fun other => ?_
  by_cases hother : other = thread
  · rw [hother, Threads.get_set_self, hphase, hbefore, FlagPhase.wakes_eq_zero hphase,
      FlagPhase.wakes_eq_zero hbefore]
    exact ⟨rfl, rfl⟩
  · rw [Threads.get_set_of_ne _ _ hother]
    exact ⟨rfl, rfl⟩

/-- Waking the sleepers does not touch the race. -/
theorem notifyAll (hrace : Race requested wakes answers threads) :
    Race requested wakes answers (SharedShutdown.notifyAll threads) := by
  refine hrace.congr fun other => ?_
  rw [get_notifyAll]
  cases threads.get other <;> exact ⟨rfl, rfl⟩

/-- The first request that comes to the flag wins. -/
theorem flip (hrace : Race false wakes answers threads) :
    Race true wakes answers (threads.set thread (.flipped true)) := by
  cases hrace with
  | won _ hflag | decided hflag => cases hflag
  | undecided _ hnobody hanswers hwakes =>
      refine .won thread rfl (by simp [FlagPhase.isWinning]) ?_ hanswers
        (by simpa [FlagPhase.wakes])
      intro other hother
      by_contra hne
      rw [Threads.get_set_of_ne _ _ hne, hnobody other] at hother
      cases hother

/-- The request that has won goes on. -/
theorem advance {before : FlagPhase} {following : Nat}
    (hrace : Race requested wakes answers threads) (hbefore : threads.get thread = before)
    (hwins : before.isWinning = true) (hphase : phase.isWinning = true)
    (hwakes : following + before.wakes = wakes + phase.wakes) :
    Race requested following answers (threads.set thread phase) := by
  subst hbefore
  cases hrace with
  | undecided _ hnobody | decided _ hnobody =>
      exact absurd ((hnobody thread).symm.trans hwins) Bool.false_ne_true
  | won winner hflag hwinner honly hanswers hcount =>
      obtain rfl := honly thread hwins
      refine .won thread hflag (by simpa using hphase) ?_ hanswers ?_
      · intro other hother
        by_contra hne
        rw [Threads.get_set_of_ne _ _ hne] at hother
        exact hne (honly other hother)
      · rw [Threads.get_set_self]
        omega

/-- The request that has won returns. -/
theorem finish (hrace : Race requested wakes answers threads)
    (hbefore : threads.get thread = .requested true) :
    Race requested wakes (answers ++ [.requested true]) (threads.set thread .idle) := by
  have hwins : (threads.get thread).isWinning = true := by
    rw [hbefore]
    rfl
  cases hrace with
  | undecided _ hnobody | decided _ hnobody =>
      exact absurd ((hnobody thread).symm.trans hwins) Bool.false_ne_true
  | won winner hflag hwinner honly hanswers hwakes =>
      obtain rfl := honly thread hwins
      refine .decided hflag ?_ (by simp [hanswers]) (by rw [hwakes, hbefore]; rfl)
      intro other
      by_cases hother : other = thread
      · rw [hother, Threads.get_set_self]
        rfl
      · rw [Threads.get_set_of_ne _ _ hother]
        exact Bool.eq_false_iff.mpr fun hwinning => hother (honly other hwinning)

/-- Another call returns. -/
theorem answer (hrace : Race requested wakes answers threads) {answer : FlagAnswer}
    (hanswer : answer ≠ .requested true) : Race requested wakes (answers ++ [answer]) threads := by
  have hcount :
      (answers ++ [answer]).count (.requested true) = answers.count (.requested true) := by
    simp [List.count_append, hanswer]
  cases hrace with
  | undecided hflag hnobody hanswers hwakes =>
      exact .undecided hflag hnobody (hcount.trans hanswers) hwakes
  | won winner hflag hwinner honly hanswers hwakes =>
      exact .won winner hflag hwinner honly (hcount.trans hanswers) hwakes
  | decided hflag hnobody hanswers hwakes =>
      exact .decided hflag hnobody (hcount.trans hanswers) hwakes

end Race

/-- The flag is flipped by one request only, whatever the order of the steps. -/
theorem race_next (hrace : Race shared.requested shared.wakes shared.answers shared.threads)
    (hnext : shared.next event = some after) :
    Race after.requested after.wakes after.answers after.threads := by
  cases stepped_of_next hnext with
  | passed | poisoned => exact hrace
  | looked thread hphase | left thread wait hphase =>
      exact (hrace.set (by rw [hphase]; rfl) rfl).answer nofun
  | flipped thread hphase =>
      cases hflag : shared.requested with
      | false =>
          rw [hflag] at hrace
          exact hrace.flip
      | true =>
          rw [hflag] at hrace
          exact hrace.set (by rw [hphase]; rfl) rfl
  | won thread hphase => exact hrace.advance hphase rfl rfl rfl
  | notified thread hphase =>
      have hbefore : (notifyAll shared.threads).get thread = .notifying := by
        rw [get_notifyAll, hphase]
        rfl
      exact hrace.notifyAll.advance hbefore rfl rfl rfl
  | woke thread hphase => exact hrace.advance hphase rfl rfl rfl
  | answered thread won hphase =>
      cases won with
      | true => exact hrace.finish hphase
      | false => exact (hrace.set (by rw [hphase]; rfl) rfl).answer nofun
  | requested thread hphase | waited thread timeout hphase | locked thread hphase
  | lost thread hphase | broke thread wait hphase | entered thread wait hphase
  | found thread wait hphase | missed thread wait hphase | expired thread wait hphase
  | remained thread wait hphase | slept thread wait hphase
  | woken thread wait notified hphase | finished thread wait hphase =>
      exact hrace.set (by rw [hphase]; rfl) rfl

/-! ## Who is woken -/

/-- If the flag is set and somebody still sleeps who has not been woken, the sleepers
are going to be woken. -/
def Attended (requested : Bool) (threads : Threads FlagPhase) : Prop :=
  requested = true → ∀ thread, (threads.get thread).isSleeping = true →
    ∃ other, (threads.get other).isNotifying = true

namespace Attended

variable {requested : Bool}

theorem of_isNotifying (hphase : phase.isNotifying = true) :
    Attended requested (threads.set thread phase) :=
  fun _ _ _ => ⟨thread, by rwa [Threads.get_set_self]⟩

theorem set (hattended : Attended requested threads)
    (hbefore : (threads.get thread).isNotifying = false)
    (hphase : phase.isSleeping = false) :
    Attended requested (threads.set thread phase) := by
  intro hflag other hasleep
  have hother : other ≠ thread := by
    rintro rfl
    rw [Threads.get_set_self] at hasleep
    exact absurd (hphase.symm.trans hasleep) Bool.false_ne_true
  rw [Threads.get_set_of_ne _ _ hother] at hasleep
  obtain ⟨notifier, hnotifies⟩ := hattended hflag other hasleep
  have hne : notifier ≠ thread := by
    rintro rfl
    exact absurd (hbefore.symm.trans hnotifies) Bool.false_ne_true
  exact ⟨notifier, by rwa [Threads.get_set_of_ne _ _ hne]⟩

/-- Nobody sleeps on when all sleepers have been woken. -/
theorem notifyAll (hphase : phase.isSleeping = false) :
    Attended requested ((SharedShutdown.notifyAll threads).set thread phase) := by
  intro _ other hasleep
  by_cases hother : other = thread
  · rw [hother, Threads.get_set_self] at hasleep
    exact absurd (hphase.symm.trans hasleep) Bool.false_ne_true
  · rw [Threads.get_set_of_ne _ _ hother, get_notifyAll] at hasleep
    exact absurd (FlagPhase.isSleeping_notified.symm.trans hasleep) Bool.false_ne_true

end Attended

/-- No step leaves a sleeper behind that nobody is going to wake. -/
theorem attended_next
    (hinformed : Informed shared.requested shared.poisoned shared.now shared.threads)
    (hattended : Attended shared.requested shared.threads)
    (hnext : shared.next event = some after) : Attended after.requested after.threads := by
  cases stepped_of_next hnext with
  | passed | poisoned => exact hattended
  | flipped thread hphase =>
      cases hflag : shared.requested with
      | false => exact .of_isNotifying rfl
      | true =>
          rw [hflag] at hattended
          exact hattended.set (by rw [hphase]; rfl) rfl
  | won thread hphase => exact .of_isNotifying rfl
  | notified thread hphase => exact .notifyAll rfl
  | slept thread wait hphase =>
      -- the flag was unset when the lock was taken, and is so until it is given back
      have hfits := hinformed thread
      rw [hphase] at hfits
      intro hflag
      exact absurd (hfits.2.2.symm.trans hflag) Bool.false_ne_true
  | requested thread hphase | waited thread timeout hphase | looked thread hphase
  | locked thread hphase | lost thread hphase | woke thread hphase
  | answered thread won hphase | broke thread wait hphase | entered thread wait hphase
  | found thread wait hphase | missed thread wait hphase | expired thread wait hphase
  | remained thread wait hphase | woken thread wait notified hphase
  | finished thread wait hphase | left thread wait hphase =>
      exact hattended.set (by rw [hphase]; rfl) rfl

/-! ## Who has asked -/

/-- If shutdown was requested the flag is set, unless a request has not come to it. -/
def Asked (events : List FlagEvent) (requested : Bool) (threads : Threads FlagPhase) : Prop :=
  events.any FlagEvent.isRequest = true →
    requested = true ∨ ∃ thread, (threads.get thread).isAsking = true

namespace Asked

variable {requested : Bool}

theorem snoc (hasked : Asked events requested threads) (hevent : event.isRequest = false) :
    Asked (events ++ [event]) requested threads := by
  intro hrequest
  rw [List.any_append, Bool.or_eq_true] at hrequest
  rcases hrequest with hrequest | hrequest
  · exact hasked hrequest
  · rw [List.any_cons, hevent] at hrequest
    cases hrequest

theorem set (hasked : Asked events requested threads)
    (hkept : (threads.get thread).isAsking = true → phase.isAsking = true) :
    Asked events requested (threads.set thread phase) := by
  refine fun hrequest => (hasked hrequest).imp_right ?_
  rintro ⟨other, hasking⟩
  refine ⟨other, ?_⟩
  by_cases hother : other = thread
  · subst hother
    rw [Threads.get_set_self]
    exact hkept hasking
  · rwa [Threads.get_set_of_ne _ _ hother]

theorem notifyAll (hasked : Asked events requested threads) :
    Asked events requested (SharedShutdown.notifyAll threads) := by
  refine fun hrequest => (hasked hrequest).imp_right ?_
  rintro ⟨other, hasking⟩
  refine ⟨other, ?_⟩
  rw [get_notifyAll]
  cases hphase : threads.get other <;> rw [hphase] at hasking <;> exact hasking

end Asked

/-- A request that was made is on its way to the flag, or the flag is set. -/
theorem asked_next (hasked : Asked events shared.requested shared.threads)
    (hnext : shared.next event = some after) :
    Asked (events ++ [event]) after.requested after.threads := by
  cases stepped_of_next hnext with
  | passed | poisoned => exact hasked.snoc rfl
  | requested thread hphase => exact fun _ => .inr ⟨thread, by simp [put, FlagPhase.isAsking]⟩
  | locked thread hphase => exact (hasked.set fun _ => rfl).snoc rfl
  | flipped thread hphase => exact fun _ => .inl rfl
  | notified thread hphase =>
      refine (hasked.notifyAll.set fun hasking => ?_).snoc rfl
      rw [get_notifyAll, hphase] at hasking
      cases hasking
  | waited thread timeout hphase | looked thread hphase | won thread hphase
  | lost thread hphase | woke thread hphase | answered thread won hphase
  | broke thread wait hphase | entered thread wait hphase | found thread wait hphase
  | missed thread wait hphase | expired thread wait hphase | remained thread wait hphase
  | slept thread wait hphase | woken thread wait notified hphase
  | finished thread wait hphase | left thread wait hphase =>
      refine (hasked.set fun hasking => ?_).snoc rfl
      rw [hphase] at hasking
      cases hasking

/-! ## Along a run -/

structure Orderly (events : List FlagEvent) (shared : SharedShutdown) : Prop where
  locked : Locked shared.holder shared.threads
  informed : Informed shared.requested shared.poisoned shared.now shared.threads
  race : Race shared.requested shared.wakes shared.answers shared.threads
  attended : Attended shared.requested shared.threads
  asked : Asked events shared.requested shared.threads

theorem orderly_initial : Orderly [] initial where
  locked thread := by simp [AgreesOn, initial, FlagPhase.isHolding]
  informed thread := trivial
  race := .undecided rfl (fun _ => rfl) rfl rfl
  attended := nofun
  asked := nofun

theorem Orderly.next (horderly : Orderly events shared) (hnext : shared.next event = some after) :
    Orderly (events ++ [event]) after where
  locked := locked_next horderly.locked hnext
  informed := informed_next horderly.locked horderly.informed hnext
  race := race_next horderly.race hnext
  attended := attended_next horderly.informed horderly.attended hnext
  asked := asked_next horderly.asked hnext

/-- On every run the flag, its winner and the sleepers are in order. -/
theorem orderly_of_run (hrun : initial.run events = some shared) : Orderly events shared :=
  foldlM_induction Orderly orderly_initial
    (fun _ _ _ _ _ horderly hnext => horderly.next hnext) hrun

end SharedShutdown

end LineLog
