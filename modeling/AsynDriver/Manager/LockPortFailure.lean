import AsynDriver.Manager.LockPortSafety

/-!
# What a failing `queueLockPort` leaves locked

The callers of `queueLockPort` do not call `queueUnlockPort` when it has failed.

* `Remembered` — how the locks of a thread in the middle of a call compare with those before it.
* `locksAsBefore_iff` — after a failure the locks are as before, unless it is
  `pasynLockPortNotify->lock` that has failed: this error is returned with the port locked.
-/

namespace AsynDriver
namespace Manager
namespace LockPort

open Library

/-- What `before` says of the locks that the thread has now. -/
def Remembered (t : ThreadId) (v : LockView) : Prop :=
  match v.thread.pc with
  | .idle =>
      ∀ exit, v.thread.returned = some (.queueLockPort exit) → exit.status ≠ .asynSuccess →
        (v.holdings t = v.thread.before ↔
          ∀ status, v.thread.notifyStatus = some status → status = .asynSuccess)
  | .lockStart =>
      v.thread.returned = none ∧ v.thread.notifyStatus = none ∧ v.holdings t = v.thread.before
  | .lockQueue =>
      v.thread.returned = none ∧ v.thread.notifyStatus = none ∧
        v.thread.before = ⟨0, false, v.synchronous, false⟩
  | .lockWait =>
      v.thread.returned = none ∧ v.thread.notifyStatus = none ∧
        v.thread.before = ⟨0, false, v.synchronous, false⟩
  | .lockNotify =>
      v.thread.returned = none ∧
        (v.thread.before.count + 1 = v.thread.queueLockPortCount ∨
          v.thread.before.synchronous + 1 = v.synchronous)
  | .unlockRelease _ => v.thread.returned = none
  | .unlockWait _ => v.thread.returned = none

theorem EnvironmentStep.memory {v v' : LockView} (henv : EnvironmentStep v v') :
    v'.thread.before = v.thread.before ∧ v'.thread.notifyStatus = v.thread.notifyStatus ∧
      v'.synchronous = v.synchronous := by
  cases henv <;> exact ⟨rfl, rfl, rfl⟩

theorem Remembered.environment {p : PortAttributes} {t : ThreadId} {v v' : LockView}
    (hremembered : Remembered t v) (hprotocol : Protocol p t v) (henv : EnvironmentStep v v') :
    Remembered t v' := by
  obtain ⟨hbefore, hnotify, hsynchronous⟩ := henv.memory
  obtain ⟨-, -, hreturned⟩ := henv.counts
  have hstill : v' = v → Remembered t v' := fun h => h ▸ hremembered
  have hpc := henv.pc
  unfold Protocol at hprotocol
  cases hcase : v.thread.pc with
  | idle =>
      rw [hcase] at hprotocol
      exact hstill (hprotocol.eq_of_environment henv)
  | lockStart =>
      rw [hcase] at hprotocol
      exact hstill (hprotocol.eq_of_environment henv)
  | lockQueue =>
      rw [hcase] at hprotocol
      exact hstill (hprotocol.eq_of_environment henv)
  | lockNotify =>
      rw [hcase] at hprotocol
      exact hstill (hprotocol.1.eq_of_environment henv)
  | unlockRelease status =>
      rw [hcase] at hprotocol
      exact hstill (hprotocol.eq_of_environment henv)
  | lockWait =>
      rw [hcase] at hpc
      simp only [Remembered, hcase] at hremembered
      simp only [Remembered, hpc, hreturned, hbefore, hnotify, hsynchronous]
      exact hremembered
  | unlockWait status =>
      rw [hcase] at hpc
      simp only [Remembered, hcase] at hremembered
      simp only [Remembered, hpc, hreturned]
      exact hremembered

/-- The locks of a thread that has given back the mutex. -/
theorem holdings_of_released {t : ThreadId} {v : LockView}
    (hcount : v.thread.queueLockPortCount = 0) (hmutex : v.thread.queueLockPortMutex = none)
    (hpark : v.park = .away) : v.holdings t = ⟨0, false, v.synchronous, false⟩ := by
  simp [LockView.holdings, hcount, hmutex, hpark]

theorem Remembered.own {p : PortAttributes} {ok : Prop} {t : ThreadId} {v v' : LockView}
    (hremembered : Remembered t v) (hprotocol : Protocol p t v) (hown : OwnStep p ok t v v') :
    Remembered t v' := by
  unfold Protocol at hprotocol
  unfold Remembered at hremembered
  cases hown with
  | refused hpc =>
      simp only [Remembered, hpc]
      rintro exit - -
      exact ⟨fun _ status h => (by cases h), fun _ => rfl⟩
  | called hpc => exact ⟨rfl, rfl, rfl⟩
  | nested hpc hblock hcount =>
      intro exit hreturned hstatus
      cases hreturned
      exact absurd rfl hstatus
  | mutexTaken hpc hblock hcount hmutex =>
      rw [hpc] at hprotocol hremembered
      obtain ⟨hreturned, hnotify, hsame⟩ := hremembered
      refine ⟨hreturned, hnotify, ?_⟩
      -- nothing was held before the mutex was taken, so what is remembered is what is held now
      rw [holdings_of_released hcount hmutex (hprotocol.free hcount).1] at hsame
      exact hsame.symm
  | synchronousLocked hpc hblock =>
      rw [hpc] at hremembered
      obtain ⟨hreturned, -, hsame⟩ := hremembered
      refine ⟨hreturned, Or.inr ?_⟩
      show v.thread.before.synchronous + 1 = v.synchronous + 1
      rw [← hsame]
      rfl
  | notQueued status hpc hnot =>
      rw [hpc] at hprotocol hremembered
      obtain ⟨hreturned, hnotify, hbefore⟩ := hremembered
      intro exit _ _
      refine ⟨fun _ status h => ?_, fun _ => ?_⟩
      · exact absurd (hnotify.symm.trans h) (Option.some_ne_none _).symm
      -- the mutex is released again on the way out
      · refine Eq.trans (holdings_of_released ?_ rfl ?_) hbefore.symm
        · exact hprotocol.count
        · exact hprotocol.park
  | queued hpc =>
      rw [hpc] at hremembered
      exact hremembered
  | timedOut hpc hevent haux =>
      rw [hpc] at hprotocol hremembered
      obtain ⟨hcount, hmutex, hawaited⟩ := hprotocol
      obtain ⟨hreturned, hnotify, hbefore⟩ := hremembered
      -- the thread of the port has not begun, or `aux` would say so
      have hpark : v.park = .away := by
        cases hawaited with
        | queued _ _ h _ _ => exact h
        | timingOut _ _ h _ _ => exact h
        | begun _ _ _ _ h => exact absurd h haux
        | timedOut _ _ h _ _ => exact h
      intro exit _ _
      refine ⟨fun _ status h => ?_, fun _ => ?_⟩
      · exact absurd (hnotify.symm.trans h) (Option.some_ne_none _).symm
      · refine Eq.trans (holdings_of_released ?_ rfl ?_) hbefore.symm
        · exact hcount
        · exact hpark
  | begun hpc hevent haux =>
      rw [hpc] at hprotocol hremembered
      obtain ⟨hreturned, -, hbefore⟩ := hremembered
      refine ⟨hreturned, Or.inl ?_⟩
      show v.thread.before.count + 1 = v.thread.queueLockPortCount + 1
      rw [hbefore, hprotocol.1]
  | notified status hpc hnotify hok =>
      rw [hpc] at hremembered
      intro exit hreturned hstatus
      cases hreturned
      have hcalled : p.notify = true := by
        cases h : p.notify with
        | true => rfl
        | false => exact absurd (hnotify h) hstatus
      constructor
      · -- the count, or the depth of `synchronousLock`, is one more than before
        intro hsame
        rcases hremembered.2 with hcount | hdepth
        · have h : v.thread.queueLockPortCount = v.thread.before.count :=
            congrArg Holdings.count hsame
          omega
        · have h : v.synchronous = v.thread.before.synchronous :=
            congrArg Holdings.synchronous hsame
          omega
      · intro hall
        simp only [hcalled, if_true] at hall
        exact absurd (hall status rfl) hstatus
  | unlockCalled status hpc hok => exact rfl
  | notLocked status hpc hblock hcount =>
      intro exit hreturned _
      cases hreturned
  | unnested status hpc hblock hcount =>
      intro exit hreturned _
      cases hreturned
  | mutexDropped status hpc hblock hcount =>
      rw [hpc] at hremembered
      exact hremembered
  | synchronousUnlocked status hpc hblock =>
      intro exit hreturned _
      cases hreturned
  | ended status hpc hevent =>
      intro exit hreturned _
      cases hreturned
  | synchronousTaken hpc =>
      simp only [Remembered, hpc]
      rintro exit hreturned
      cases hreturned
  | synchronousDropped hpc =>
      simp only [Remembered, hpc]
      rintro exit hreturned
      cases hreturned

theorem remembered_of_reachable {p : PortAttributes} {guard : State → Action → Prop} {s : State}
    (hreach : (machine p).Reachable guard s) (t : ThreadId) : Remembered t (s.view t) := by
  refine (view_invariant (I := fun t v => Protocol p t v ∧ Remembered t v)
    (fun t => ⟨protocol_start p t, fun exit h => by cases h⟩) ?_ hreach t).2
  rintro s a t v' - hview ⟨hprotocol, hremembered⟩
  rcases hview with henv | hown
  · exact ⟨hprotocol.environment henv, hremembered.environment hprotocol henv⟩
  · exact ⟨hprotocol.own hown, hremembered.own hprotocol hown⟩

/-- When a `queueLockPort` has failed, its caller has the locks it had before the call, exactly if
`pasynLockPortNotify->lock` is not what failed. -/
theorem locksAsBefore_iff {p : PortAttributes} {s : State}
    (hreach : (machine p).Reachable Machine.Unguarded s) (t : ThreadId) (exit : LockExit)
    (hreturned : (s.thread t).returned = some (.queueLockPort exit))
    (hfailed : exit.status ≠ .asynSuccess) :
    s.holdings t = (s.thread t).before ↔
      ∀ status, (s.thread t).notifyStatus = some status → status = .asynSuccess := by
  have hremembered := remembered_of_reachable hreach t
  have hreturned' : (s.view t).thread.returned = some (.queueLockPort exit) := hreturned
  unfold Remembered at hremembered
  cases hcase : (s.view t).thread.pc with
  | idle =>
      rw [hcase] at hremembered
      exact hremembered exit hreturned hfailed
  | lockStart =>
      rw [hcase] at hremembered
      exact absurd (hreturned'.symm.trans hremembered.1) (Option.some_ne_none _)
  | lockQueue =>
      rw [hcase] at hremembered
      exact absurd (hreturned'.symm.trans hremembered.1) (Option.some_ne_none _)
  | lockWait =>
      rw [hcase] at hremembered
      exact absurd (hreturned'.symm.trans hremembered.1) (Option.some_ne_none _)
  | lockNotify =>
      rw [hcase] at hremembered
      exact absurd (hreturned'.symm.trans hremembered.1) (Option.some_ne_none _)
  | unlockRelease status =>
      rw [hcase] at hremembered
      exact absurd (hreturned'.symm.trans hremembered) (Option.some_ne_none _)
  | unlockWait status =>
      rw [hcase] at hremembered
      exact absurd (hreturned'.symm.trans hremembered) (Option.some_ne_none _)

/-- One thread has the port.  A second one waits for it until its request times out; a third one finds
the port disconnected when it has the mutex. -/
def twoFailures : List Action :=
  lockRun 0 ++ [.notifyLock 0 .asynSuccess, .callLock 1, .enterLock 1, .queueLock 1,
    .timerExpire (.lock 1), .timerStep, .timerStep, .awakeLock 1, .callLock 2, .enterLock 2,
    .connect false, .queueLock 2]

/-- Both have let the mutex go. -/
theorem locksAsBefore_twoFailures :
    ∃ s : State,
      ((s.thread 1).returned = some (.queueLockPort .timedOut) ∧
        (s.thread 2).returned = some (.queueLockPort (.queueRequest .asynDisconnected))) ∧
      s.holdings 1 = (s.thread 1).before ∧ s.holdings 2 = (s.thread 2).before := by
  obtain ⟨s, hreach, hvalue⟩ := Machine.exists_reachable_of_exec (M := machine ⟨true, true⟩)
    (fun s => ((s.thread 1).returned, (s.thread 2).returned, (s.thread 1).notifyStatus,
      (s.thread 2).notifyStatus))
    twoFailures
    (b := (some (.queueLockPort .timedOut), some (.queueLockPort (.queueRequest .asynDisconnected)),
      none, none))
    (initial_start _) (by decide)
  simp only [Prod.mk.injEq] at hvalue
  obtain ⟨htimedOut, hrefused, hnotify, hnotify'⟩ := hvalue
  refine ⟨s, ⟨htimedOut, hrefused⟩, ?_, ?_⟩
  · refine (locksAsBefore_iff hreach 1 .timedOut htimedOut (by decide)).mpr ?_
    intro status hstatus
    exact absurd (hnotify.symm.trans hstatus) (Option.some_ne_none _).symm
  · refine (locksAsBefore_iff hreach 2 _ hrefused (by decide)).mpr ?_
    intro status hstatus
    exact absurd (hnotify'.symm.trans hstatus) (Option.some_ne_none _).symm

/-- `pasynLockPortNotify->lock` fails: the port thread stays in `queueLockPortCallback`, and the
mutex stays taken. -/
theorem not_locksAsBefore_notify :
    ¬∀ s, (machine ⟨true, true⟩).Reachable Machine.Unguarded s → ∀ t exit,
      (s.thread t).returned = some (.queueLockPort exit) → exit.status ≠ .asynSuccess →
        s.holdings t = (s.thread t).before := by
  intro hall
  obtain ⟨s, hreach, hvalue⟩ := Machine.exists_reachable_of_exec (M := machine ⟨true, true⟩)
    (fun s => ((s.thread 0).returned, s.holdings 0, (s.thread 0).before))
    (lockRun 0 ++ [Action.notifyLock 0 .asynError])
    (b := (some (.queueLockPort (.locked .asynError)), ⟨1, true, 0, true⟩, ⟨0, false, 0, false⟩))
    (initial_start _) (by decide)
  simp only [Prod.mk.injEq] at hvalue
  have hsame := hall s hreach 0 _ hvalue.1 (by decide)
  rw [hvalue.2.1, hvalue.2.2] at hsame
  cases hsame

end LockPort
end Manager
end AsynDriver
