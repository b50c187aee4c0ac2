import AsynDriver.Manager.LockPortView

/-!
# What a locked port keeps

* `Protocol` — the event, the mutex, the recursion count and the port thread for each position of a
  thread: one event stands for four different notifications, and at most one of them is on its way.
* `LockSafe` — while a thread has the port locked the port thread waits in its
  `queueLockPortCallback`, nobody else gets the lock, and no stale event is left afterwards.
* `lockSafe_of_reachable` — this holds in every run.
-/

namespace AsynDriver
namespace Manager
namespace LockPort

open Library

/-! ## The invariant -/

/-- The lock between two calls: free, or held with the port thread waiting for the mutex. -/
structure Resting (t : ThreadId) (v : LockView) : Prop where
  pending : v.pending = 0
  timingOut : v.timingOut = 0
  event : v.thread.queueLockPortEvent = false
  free : v.thread.queueLockPortCount = 0 → v.park = .away ∧ v.thread.queueLockPortMutex = none
  held : 0 < v.thread.queueLockPortCount →
    v.park = .waiting ∧ v.thread.queueLockPortMutex = some (.thread t)

/-- The mutex is taken and the request not yet queued. -/
structure Taken (t : ThreadId) (v : LockView) : Prop where
  count : v.thread.queueLockPortCount = 0
  mutex : v.thread.queueLockPortMutex = some (.thread t)
  pending : v.pending = 0
  timingOut : v.timingOut = 0
  event : v.thread.queueLockPortEvent = false
  aux : v.thread.auxStatus = .asynSuccess
  park : v.park = .away

/-- The event of a queued request: on its way, signalled by `queueLockPortCallback`, or signalled by
`queueLockPortTimeoutCallback`. -/
inductive Awaited (v : LockView) : Prop
  | queued (hpending : v.pending = 1) (htiming : v.timingOut = 0) (hpark : v.park = .away)
      (hevent : v.thread.queueLockPortEvent = false) (haux : v.thread.auxStatus = .asynSuccess)
  | timingOut (hpending : v.pending = 0) (htiming : v.timingOut = 1) (hpark : v.park = .away)
      (hevent : v.thread.queueLockPortEvent = false) (haux : v.thread.auxStatus ≠ .asynSuccess)
  | begun (hpending : v.pending = 0) (htiming : v.timingOut = 0) (hpark : v.park = .waiting)
      (hevent : v.thread.queueLockPortEvent = true) (haux : v.thread.auxStatus = .asynSuccess)
  | timedOut (hpending : v.pending = 0) (htiming : v.timingOut = 0) (hpark : v.park = .away)
      (hevent : v.thread.queueLockPortEvent = true) (haux : v.thread.auxStatus ≠ .asynSuccess)

/-- The end event after the mutex has been released. -/
inductive Leaving (v : LockView) : Prop
  | inCallback (hpark : v.park ≠ .away) (hevent : v.thread.queueLockPortEvent = false)
      (hmutex : v.park ≠ .holding → v.thread.queueLockPortMutex = none)
      (howner : v.park = .holding → v.thread.queueLockPortMutex = some .portThread)
  | ended (hpark : v.park = .away) (hevent : v.thread.queueLockPortEvent = true)
      (hmutex : v.thread.queueLockPortMutex = none)

def Protocol (p : PortAttributes) (t : ThreadId) (v : LockView) : Prop :=
  match v.thread.pc with
  | .idle => Resting t v
  | .lockStart => Resting t v
  | .lockQueue => Taken t v
  | .lockWait =>
      v.thread.queueLockPortCount = 0 ∧ v.thread.queueLockPortMutex = some (.thread t) ∧ Awaited v
  | .lockNotify => Resting t v ∧ (p.canBlock = true → v.thread.queueLockPortCount = 1)
  | .unlockRelease _ => Resting t v
  | .unlockWait _ => v.thread.queueLockPortCount = 1 ∧ v.pending = 0 ∧ v.timingOut = 0 ∧ Leaving v

/-- Nothing is on its way to the thread, and the port thread cannot get on. -/
theorem EnvironmentStep.eq_of_still {v v' : LockView} (henv : EnvironmentStep v v')
    (hpending : v.pending = 0) (htiming : v.timingOut = 0)
    (hpark : v.park = .away ∨ v.park = .waiting ∧ v.thread.queueLockPortMutex ≠ none) : v' = v := by
  cases henv with
  | same => rfl
  | beginEvent n h => omega
  | setTimeout n h => omega
  | timeoutEvent n h => omega
  | takeMutex hwait hmutex =>
      rcases hpark with h | ⟨-, h⟩
      · rw [h] at hwait
        cases hwait
      · exact absurd hmutex h
  | dropMutex hhold =>
      rcases hpark with h | ⟨h, -⟩ <;> rw [h] at hhold <;> cases hhold
  | endEvent hleave =>
      rcases hpark with h | ⟨h, -⟩ <;> rw [h] at hleave <;> cases hleave

theorem Resting.eq_of_environment {t : ThreadId} {v v' : LockView} (hrest : Resting t v)
    (henv : EnvironmentStep v v') : v' = v := by
  refine henv.eq_of_still hrest.pending hrest.timingOut ?_
  rcases Nat.eq_zero_or_pos v.thread.queueLockPortCount with hzero | hpos
  · exact Or.inl (hrest.free hzero).1
  · obtain ⟨hpark, hmutex⟩ := hrest.held hpos
    exact Or.inr ⟨hpark, by rw [hmutex]; exact Option.some_ne_none _⟩

theorem Taken.eq_of_environment {t : ThreadId} {v v' : LockView} (htaken : Taken t v)
    (henv : EnvironmentStep v v') : v' = v :=
  henv.eq_of_still htaken.pending htaken.timingOut (Or.inl htaken.park)

theorem EnvironmentStep.pc {v v' : LockView} (henv : EnvironmentStep v v') :
    v'.thread.pc = v.thread.pc := by
  cases henv <;> rfl

theorem Awaited.environment {v v' : LockView} (hawaited : Awaited v)
    (hmutex : v.thread.queueLockPortMutex ≠ none) (henv : EnvironmentStep v v') : Awaited v' := by
  cases hawaited with
  | queued hpending htiming hpark hevent haux =>
      cases henv with
      | same => exact .queued hpending htiming hpark hevent haux
      | beginEvent n h =>
          have hn : n = 0 := by omega
          exact .begun hn htiming rfl rfl haux
      | setTimeout n h =>
          have hn : n = 0 := by omega
          exact .timingOut hn (by simp [htiming]) hpark hevent (by simp)
      | timeoutEvent n h => omega
      | takeMutex h _ => rw [h] at hpark; cases hpark
      | dropMutex h => rw [h] at hpark; cases hpark
      | endEvent h => rw [h] at hpark; cases hpark
  | timingOut hpending htiming hpark hevent haux =>
      cases henv with
      | same => exact .timingOut hpending htiming hpark hevent haux
      | beginEvent n h => omega
      | setTimeout n h => omega
      | timeoutEvent n h =>
          have hn : n = 0 := by omega
          exact .timedOut hpending hn hpark rfl haux
      | takeMutex h _ => rw [h] at hpark; cases hpark
      | dropMutex h => rw [h] at hpark; cases hpark
      | endEvent h => rw [h] at hpark; cases hpark
  | begun hpending htiming hpark hevent haux =>
      rw [henv.eq_of_still hpending htiming (Or.inr ⟨hpark, hmutex⟩)]
      exact .begun hpending htiming hpark hevent haux
  | timedOut hpending htiming hpark hevent haux =>
      rw [henv.eq_of_still hpending htiming (Or.inl hpark)]
      exact .timedOut hpending htiming hpark hevent haux

theorem Leaving.environment {v v' : LockView} (hleaving : Leaving v) (hpending : v.pending = 0)
    (htiming : v.timingOut = 0) (henv : EnvironmentStep v v') : Leaving v' := by
  cases hleaving with
  | inCallback hpark hevent hmutex howner =>
      cases henv with
      | same => exact .inCallback hpark hevent hmutex howner
      | beginEvent n h => omega
      | setTimeout n h => omega
      | timeoutEvent n h => omega
      | takeMutex h _ => exact .inCallback (by simp) hevent (fun h => absurd rfl h) fun _ => rfl
      | dropMutex h => exact .inCallback (by simp) hevent (fun _ => rfl) fun h => by cases h
      | endEvent h =>
          refine .ended rfl rfl (hmutex ?_)
          rw [h]
          simp
  | ended hpark hevent hmutex =>
      rw [henv.eq_of_still hpending htiming (Or.inl hpark)]
      exact .ended hpark hevent hmutex

theorem Protocol.environment {p : PortAttributes} {t : ThreadId} {v v' : LockView}
    (hprotocol : Protocol p t v) (henv : EnvironmentStep v v') : Protocol p t v' := by
  have hpc := henv.pc
  unfold Protocol at hprotocol ⊢
  rw [hpc]
  cases hcase : v.thread.pc with
  | idle =>
      rw [hcase] at hprotocol
      rw [hprotocol.eq_of_environment henv]
      exact hprotocol
  | lockStart =>
      rw [hcase] at hprotocol
      rw [hprotocol.eq_of_environment henv]
      exact hprotocol
  | lockQueue =>
      rw [hcase] at hprotocol
      rw [hprotocol.eq_of_environment henv]
      exact hprotocol
  | lockWait =>
      rw [hcase] at hprotocol
      obtain ⟨hcount, hmutex, hawaited⟩ := hprotocol
      have hsome : v.thread.queueLockPortMutex ≠ none := by
        rw [hmutex]
        exact Option.some_ne_none _
      refine ⟨?_, ?_, hawaited.environment hsome henv⟩
      · cases henv <;> exact hcount
      · cases henv with
        | takeMutex _ h => exact absurd h hsome
        | dropMutex h => cases hawaited <;> rename_i hpark _ _ <;> rw [h] at hpark <;> cases hpark
        | _ => exact hmutex
  | lockNotify =>
      rw [hcase] at hprotocol
      rw [hprotocol.1.eq_of_environment henv]
      exact hprotocol
  | unlockRelease status =>
      rw [hcase] at hprotocol
      rw [hprotocol.eq_of_environment henv]
      exact hprotocol
  | unlockWait status =>
      rw [hcase] at hprotocol
      obtain ⟨hcount, hpending, htiming, hleaving⟩ := hprotocol
      refine ⟨?_, ?_, ?_, hleaving.environment hpending htiming henv⟩
      · cases henv <;> exact hcount
      · cases henv <;> first | exact hpending | omega
      · cases henv <;> first | exact htiming | omega

/-- A step between two calls that leaves the lock alone. -/
theorem Resting.congr {t : ThreadId} {v v' : LockView} (hrest : Resting t v)
    (hpending : v'.pending = v.pending) (htiming : v'.timingOut = v.timingOut)
    (hpark : v'.park = v.park)
    (hevent : v'.thread.queueLockPortEvent = v.thread.queueLockPortEvent)
    (hmutex : v'.thread.queueLockPortMutex = v.thread.queueLockPortMutex)
    (hcount : v'.thread.queueLockPortCount = v.thread.queueLockPortCount) : Resting t v' := by
  refine ⟨hpending.trans hrest.pending, htiming.trans hrest.timingOut, hevent.trans hrest.event,
    ?_, ?_⟩
  · rw [hcount, hpark, hmutex]
    exact hrest.free
  · rw [hcount, hpark, hmutex]
    exact hrest.held

/-- A nested call counts up or down. -/
theorem Resting.recount {t : ThreadId} {v v' : LockView} (hrest : Resting t v)
    (hpos : 0 < v.thread.queueLockPortCount) (hpos' : 0 < v'.thread.queueLockPortCount)
    (hpending : v'.pending = v.pending) (htiming : v'.timingOut = v.timingOut)
    (hpark : v'.park = v.park)
    (hevent : v'.thread.queueLockPortEvent = v.thread.queueLockPortEvent)
    (hmutex : v'.thread.queueLockPortMutex = v.thread.queueLockPortMutex) : Resting t v' := by
  refine ⟨hpending.trans hrest.pending, htiming.trans hrest.timingOut, hevent.trans hrest.event,
    ?_, ?_⟩
  · intro hzero
    omega
  · intro _
    rw [hpark, hmutex]
    exact hrest.held hpos

theorem Protocol.own {p : PortAttributes} {ok : Prop} {t : ThreadId} {v v' : LockView}
    (hprotocol : Protocol p t v) (hown : OwnStep p ok t v v') : Protocol p t v' := by
  unfold Protocol at hprotocol
  cases hown with
  | refused hpc =>
      rw [hpc] at hprotocol
      simp only [Protocol, hpc]
      exact hprotocol.congr rfl rfl rfl rfl rfl rfl
  | called hpc =>
      rw [hpc] at hprotocol
      exact hprotocol.congr rfl rfl rfl rfl rfl rfl
  | nested hpc hblock hcount =>
      rw [hpc] at hprotocol
      exact hprotocol.recount hcount (Nat.succ_pos _) rfl rfl rfl rfl rfl
  | mutexTaken hpc hblock hcount hmutex =>
      rw [hpc] at hprotocol
      exact ⟨hcount, rfl, hprotocol.pending, hprotocol.timingOut, hprotocol.event, rfl,
        (hprotocol.free hcount).1⟩
  | synchronousLocked hpc hblock =>
      rw [hpc] at hprotocol
      refine ⟨hprotocol.congr rfl rfl rfl rfl rfl rfl, ?_⟩
      intro h
      rw [hblock] at h
      cases h
  | notQueued status hpc hstatus =>
      rw [hpc] at hprotocol
      refine ⟨hprotocol.pending, hprotocol.timingOut, hprotocol.event, fun _ => ⟨hprotocol.park, rfl⟩,
        fun hpos => ?_⟩
      have hcount := hprotocol.count
      simp only at hpos
      omega
  | queued hpc =>
      rw [hpc] at hprotocol
      refine ⟨hprotocol.count, hprotocol.mutex, .queued ?_ hprotocol.timingOut hprotocol.park
        hprotocol.event hprotocol.aux⟩
      simp [hprotocol.pending]
  | timedOut hpc hevent haux =>
      rw [hpc] at hprotocol
      obtain ⟨hcount, hmutex, hawaited⟩ := hprotocol
      -- the event is signalled: the request is neither queued nor timing out, and `aux` tells the rest apart
      cases hawaited with
      | queued _ _ _ h _ => rw [h] at hevent; cases hevent
      | timingOut _ _ _ h _ => rw [h] at hevent; cases hevent
      | begun _ _ _ _ h => exact absurd h haux
      | timedOut hpending htiming hpark _ _ =>
          refine ⟨hpending, htiming, rfl, fun _ => ⟨hpark, rfl⟩, fun hpos => ?_⟩
          simp only at hpos
          omega
  | begun hpc hevent haux =>
      rw [hpc] at hprotocol
      obtain ⟨hcount, hmutex, hawaited⟩ := hprotocol
      cases hawaited with
      | queued _ _ _ h _ => rw [h] at hevent; cases hevent
      | timingOut _ _ _ h _ => rw [h] at hevent; cases hevent
      | begun hpending htiming hpark _ _ =>
          refine ⟨⟨hpending, htiming, rfl, fun hzero => ?_, fun _ => ⟨hpark, hmutex⟩⟩, fun _ => ?_⟩
          · simp only at hzero
            omega
          · simp [hcount]
      | timedOut _ _ _ _ h => exact absurd haux h
  | notified status hpc hnotify hok =>
      rw [hpc] at hprotocol
      exact hprotocol.1.congr rfl rfl rfl rfl rfl rfl
  | unlockCalled status hpc hok =>
      rw [hpc] at hprotocol
      exact hprotocol.congr rfl rfl rfl rfl rfl rfl
  | notLocked status hpc hblock hcount =>
      rw [hpc] at hprotocol
      exact hprotocol.congr rfl rfl rfl rfl rfl rfl
  | unnested status hpc hblock hcount =>
      rw [hpc] at hprotocol
      refine hprotocol.recount (by omega) ?_ rfl rfl rfl rfl rfl
      simp only
      omega
  | mutexDropped status hpc hblock hcount =>
      rw [hpc] at hprotocol
      obtain ⟨hpark, -⟩ := hprotocol.held (by omega)
      refine ⟨hcount, hprotocol.pending, hprotocol.timingOut, .inCallback ?_ hprotocol.event
        (fun _ => rfl) ?_⟩
      · rw [hpark]
        simp
      · intro h
        rw [hpark] at h
        cases h
  | synchronousUnlocked status hpc hblock =>
      rw [hpc] at hprotocol
      exact hprotocol.congr rfl rfl rfl rfl rfl rfl
  | ended status hpc hevent =>
      rw [hpc] at hprotocol
      obtain ⟨hcount, hpending, htiming, hleaving⟩ := hprotocol
      -- the event says that the callback has ended
      cases hleaving with
      | inCallback _ h _ _ => rw [h] at hevent; cases hevent
      | ended hpark _ hmutex =>
          refine ⟨hpending, htiming, rfl, fun _ => ⟨hpark, hmutex⟩, fun hpos => ?_⟩
          simp only at hpos
          omega
  | synchronousTaken hpc =>
      rw [hpc] at hprotocol
      simp only [Protocol, hpc]
      exact hprotocol.congr rfl rfl rfl rfl rfl rfl
  | synchronousDropped hpc =>
      rw [hpc] at hprotocol
      simp only [Protocol, hpc]
      exact hprotocol.congr rfl rfl rfl rfl rfl rfl

theorem initial_view {s : State} (hinit : Initial s) (t : ThreadId) :
    s.view t = ⟨.start, 0, 0, 0, .away⟩ := by
  obtain ⟨hqueue, hlock, hthread, hport, htimer⟩ := hinit
  simp [State.view, State.synchronousDepth, hqueue, hlock, hthread, hport, htimer, PortPc.pending,
    TimerPc.pending, PortPc.timingOut, TimerPc.timingOut, PortPc.park]

/-- A property of the views that the initial view has and every step keeps holds in every run. -/
theorem view_invariant {p : PortAttributes} {guard : State → Action → Prop}
    {I : ThreadId → LockView → Prop} (hinit : ∀ t, I t ⟨.start, 0, 0, 0, .away⟩)
    (hkeep : ∀ s a t v', guard s a → ViewStep p (WellNested s a) t (s.view t) v' →
      I t (s.view t) → I t v')
    {s : State} (hreach : (machine p).Reachable guard s) (t : ThreadId) : I t (s.view t) := by
  refine Machine.Reachable.invariant (I := fun s => ∀ t, I t (s.view t)) ?_ ?_ hreach t
  · intro s hstart t
    rw [initial_view hstart]
    exact hinit t
  · intro s a s' hok hall hstep t
    exact hkeep s a t _ hok (step_view hstep t) (hall t)

theorem protocol_start (p : PortAttributes) (t : ThreadId) :
    Protocol p t ⟨.start, 0, 0, 0, .away⟩ :=
  ⟨rfl, rfl, rfl, fun _ => ⟨rfl, rfl⟩, fun hpos => absurd hpos (Nat.lt_irrefl 0)⟩

theorem protocol_of_reachable {p : PortAttributes} {guard : State → Action → Prop} {s : State}
    (hreach : (machine p).Reachable guard s) (t : ThreadId) : Protocol p t (s.view t) := by
  refine view_invariant (I := fun t v => Protocol p t v) (protocol_start p) ?_ hreach t
  intro s a t v' _ hview hprotocol
  rcases hview with henv | hown
  · exact hprotocol.environment henv
  · exact hprotocol.own hown

/-! ## Sections -/

/-- In a well-nested run the recursion counter is the number of locks the caller has to give back. -/
def Matched (v : LockView) : Prop :=
  match v.thread.pc with
  | .lockNotify => v.thread.depth + 1 = v.thread.queueLockPortCount
  | .unlockRelease _ => v.thread.depth = v.thread.queueLockPortCount ∧ 0 < v.thread.depth
  | _ => v.thread.depth = v.thread.queueLockPortCount

theorem EnvironmentStep.counts {v v' : LockView} (henv : EnvironmentStep v v') :
    v'.thread.depth = v.thread.depth ∧
      v'.thread.queueLockPortCount = v.thread.queueLockPortCount ∧
      v'.thread.returned = v.thread.returned := by
  cases henv <;> exact ⟨rfl, rfl, rfl⟩

theorem Matched.environment {v v' : LockView} (hmatched : Matched v) (henv : EnvironmentStep v v') :
    Matched v' := by
  obtain ⟨hdepth, hcount, -⟩ := henv.counts
  unfold Matched at hmatched ⊢
  rw [henv.pc, hdepth, hcount]
  exact hmatched

theorem Matched.own {p : PortAttributes} {t : ThreadId} {v v' : LockView}
    (hblock : p.canBlock = true) (hmatched : Matched v) (hown : OwnStep p True t v v') :
    Matched v' := by
  unfold Matched at hmatched
  cases hown with
  | refused hpc =>
      rw [hpc] at hmatched
      simp only [Matched, hpc]
      exact hmatched
  | called hpc =>
      rw [hpc] at hmatched
      exact hmatched
  | nested hpc _ hcount =>
      rw [hpc] at hmatched
      exact congrArg (· + 1) hmatched
  | mutexTaken hpc _ hcount hmutex =>
      rw [hpc] at hmatched
      exact hmatched
  | synchronousLocked hpc hnot =>
      rw [hblock] at hnot
      cases hnot
  | notQueued status hpc hstatus =>
      rw [hpc] at hmatched
      exact hmatched
  | queued hpc =>
      rw [hpc] at hmatched
      exact hmatched
  | timedOut hpc hevent haux =>
      rw [hpc] at hmatched
      exact hmatched
  | begun hpc hevent haux =>
      rw [hpc] at hmatched
      exact congrArg (· + 1) hmatched
  | notified status hpc hnotify hok =>
      rw [hpc] at hmatched
      simp only [Matched, if_pos (hok trivial)]
      exact hmatched
  | unlockCalled status hpc hok =>
      rw [hpc] at hmatched
      exact ⟨hmatched, hok trivial⟩
  | notLocked status hpc _ hcount =>
      rw [hpc] at hmatched
      omega
  | unnested status hpc _ hcount =>
      rw [hpc] at hmatched
      exact congrArg (· - 1) hmatched.1
  | mutexDropped status hpc _ hcount =>
      rw [hpc] at hmatched
      exact hmatched.1
  | synchronousUnlocked status hpc hnot =>
      rw [hblock] at hnot
      cases hnot
  | ended status hpc hevent =>
      rw [hpc] at hmatched
      exact congrArg (· - 1) hmatched
  | synchronousTaken hpc =>
      rw [hpc] at hmatched
      simp only [Matched, hpc]
      exact hmatched
  | synchronousDropped hpc =>
      rw [hpc] at hmatched
      simp only [Matched, hpc]
      exact hmatched

theorem matched_of_reachable {p : PortAttributes} (hblock : p.canBlock = true) {s : State}
    (hreach : (machine p).Reachable WellNested s) (t : ThreadId) : Matched (s.view t) := by
  refine (view_invariant (I := fun t v => Protocol p t v ∧ Matched v)
    (fun t => ⟨protocol_start p t, rfl⟩) ?_ hreach t).2
  rintro s a t v' hok hview ⟨hprotocol, hmatched⟩
  have htrue : WellNested s a = True := eq_true hok
  rw [htrue] at hview
  rcases hview with henv | hown
  · exact ⟨hprotocol.environment henv, hmatched.environment henv⟩
  · exact ⟨hprotocol.own hown, hmatched.own hblock hown⟩

/-- From the return of a successful outermost `queueLockPort` until the matching `queueUnlockPort`
releases the mutex. -/
def InSection (s : State) (t : ThreadId) : Prop :=
  0 < (s.thread t).depth ∧ ∀ status, (s.thread t).pc ≠ .unlockWait status

/-- In this step a `queueLockPort` of the thread returns `asynSuccess`. -/
def ReturnsLocked (s s' : State) (t : ThreadId) : Prop :=
  (s.thread t).pc ≠ .idle ∧ (s'.thread t).pc = .idle ∧
    ∃ exit, (s'.thread t).returned = some (.queueLockPort exit) ∧ exit.status = .asynSuccess

/-- What a locked port promises. -/
structure LockSafe (p : PortAttributes) (s : State) : Prop where
  parked : ∀ t, InSection s t → s.portThread = .busy (.lock t) .waitMutex
  noCallback : ∀ t a s', InSection s t → step p s a = some s' → s'.portThread = s.portThread
  exclusive : ∀ t u a s', InSection s t → step p s a = some s' → ReturnsLocked s s' u → u = t
  /-- When an outermost `queueUnlockPort` has returned, the port thread is not in the callback. -/
  left : ∀ t, (s.thread t).pc = .idle → (s.thread t).depth = 0 → s.portThread.park t = .away
  noStale : ∀ t, (s.thread t).pc ≠ .lockWait → (∀ status, (s.thread t).pc ≠ .unlockWait status) →
    (s.thread t).queueLockPortEvent = false
  /-- An event that releases `queueLockPort` comes from the callback of its own request. -/
  released : ∀ t, (s.thread t).pc = .lockWait → (s.thread t).queueLockPortEvent = true →
    .lock t ∉ s.queue ∧ (s.view t).pending = 0 ∧ (s.view t).timingOut = 0

theorem portThread_of_park {s : State} {t : ThreadId} (hpark : s.portThread.park t = .waiting) :
    s.portThread = .busy (.lock t) .waitMutex := by
  unfold PortPc.park at hpark
  split at hpark
  · cases hpark
  · next r stage heq =>
    split at hpark
    · next hr =>
      rw [heq, hr]
      cases stage <;> first | rfl | cases hpark
    · cases hpark

theorem holds_of_inSection {p : PortAttributes} {s : State} {t : ThreadId}
    (hprotocol : Protocol p t (s.view t)) (hmatched : Matched (s.view t)) (hsection : InSection s t) :
    s.portThread = .busy (.lock t) .waitMutex ∧
      (s.thread t).queueLockPortMutex = some (.thread t) := by
  obtain ⟨hdepth, hpc⟩ := hsection
  have hdepth' : 0 < (s.view t).thread.depth := hdepth
  have hpc' : ∀ status, (s.view t).thread.pc ≠ .unlockWait status := hpc
  have hheld : Resting t (s.view t) → 0 < (s.view t).thread.queueLockPortCount →
      s.portThread = .busy (.lock t) .waitMutex ∧
        (s.thread t).queueLockPortMutex = some (.thread t) := by
    intro hrest hpos
    obtain ⟨hpark, hmutex⟩ := hrest.held hpos
    exact ⟨portThread_of_park hpark, hmutex⟩
  unfold Protocol at hprotocol
  unfold Matched at hmatched
  cases hcase : (s.view t).thread.pc with
  | idle =>
      rw [hcase] at hprotocol hmatched
      exact hheld hprotocol (by omega)
  | lockStart =>
      rw [hcase] at hprotocol hmatched
      exact hheld hprotocol (by omega)
  | lockQueue =>
      rw [hcase] at hprotocol hmatched
      have hcount := hprotocol.count
      omega
  | lockWait =>
      rw [hcase] at hprotocol hmatched
      have hcount := hprotocol.1
      omega
  | lockNotify =>
      rw [hcase] at hprotocol hmatched
      exact hheld hprotocol.1 (by omega)
  | unlockRelease status =>
      rw [hcase] at hprotocol hmatched
      exact hheld hprotocol (by omega)
  | unlockWait status => exact absurd hcase (hpc' status)

theorem modThread_portThread (s : State) (t : ThreadId) (f : LockThread → LockThread) :
    (s.modThread t f).portThread = s.portThread := rfl

/-- Only the port thread moves the port thread. -/
theorem step_portThread {p : PortAttributes} {s s' : State} {a : Action}
    (hstep : step p s a = some s') :
    s'.portThread = s.portThread ∨ s.portThread = .idle ∨ portStep s = some s' := by
  cases a with
  | callLock t =>
      simp only [step, callLock] at hstep
      split at hstep
      · split at hstep <;> cases hstep <;> exact Or.inl rfl
      · cases hstep
  | enterLock t =>
      simp only [step, enterLock] at hstep
      split at hstep
      · split at hstep
        · split at hstep
          · cases hstep
            exact Or.inl rfl
          · split at hstep <;> cases hstep
            exact Or.inl rfl
        · obtain ⟨s₁, htake, rfl⟩ := Option.map_eq_some_iff.mp hstep
          exact Or.inl ((modThread_portThread _ _ _).trans (takeSynchronous_portThread htake))
      · cases hstep
  | queueLock t =>
      simp only [step, queueLock] at hstep
      split at hstep
      · split at hstep
        · cases hstep
          exact Or.inl rfl
        · split at hstep <;> cases hstep <;> exact Or.inl rfl
      · cases hstep
  | awakeLock t =>
      simp only [step, awakeLock] at hstep
      split at hstep
      · split at hstep <;> cases hstep <;> exact Or.inl rfl
      · cases hstep
  | notifyLock t status =>
      simp only [step, notifyLock] at hstep
      split at hstep <;> cases hstep
      exact Or.inl rfl
  | callUnlock t status =>
      simp only [step, callUnlock] at hstep
      split at hstep <;> cases hstep
      exact Or.inl rfl
  | release t =>
      simp only [step, release] at hstep
      split at hstep
      · split at hstep
        · split at hstep
          · cases hstep
            exact Or.inl rfl
          · split at hstep <;> cases hstep <;> exact Or.inl rfl
        · obtain ⟨s₁, hdrop, rfl⟩ := Option.map_eq_some_iff.mp hstep
          exact Or.inl ((modThread_portThread _ _ _).trans (dropSynchronous_portThread hdrop))
      · cases hstep
  | awakeUnlock t =>
      simp only [step, awakeUnlock] at hstep
      split at hstep
      · split at hstep <;> cases hstep
        exact Or.inl rfl
      · cases hstep
  | takeSynchronous t =>
      simp only [step] at hstep
      split at hstep
      · obtain ⟨s₁, htake, rfl⟩ := Option.map_eq_some_iff.mp hstep
        exact Or.inl ((modThread_portThread _ _ _).trans (takeSynchronous_portThread htake))
      · cases hstep
  | dropSynchronous t =>
      simp only [step] at hstep
      split at hstep
      · obtain ⟨s₁, hdrop, rfl⟩ := Option.map_eq_some_iff.mp hstep
        exact Or.inl ((modThread_portThread _ _ _).trans (dropSynchronous_portThread hdrop))
      · cases hstep
  | portTake r c =>
      simp only [step, portTake] at hstep
      split at hstep
      · next hguard => exact Or.inr (Or.inl hguard.1)
      · cases hstep
  | portStep => exact Or.inr (Or.inr hstep)
  | timerExpire r =>
      simp only [step, timerExpire] at hstep
      split at hstep <;> cases hstep
      exact Or.inl rfl
  | timerStep =>
      simp only [step, timerStep] at hstep
      split at hstep <;> cases hstep <;> exact Or.inl rfl
  | queueRequest v =>
      simp only [step] at hstep
      split at hstep <;> cases hstep
      exact Or.inl rfl
  | cancelRequest v =>
      simp only [step] at hstep
      split at hstep <;> cases hstep
      exact Or.inl rfl
  | enable yesNo =>
      cases hstep
      exact Or.inl rfl
  | connect yesNo =>
      cases hstep
      exact Or.inl rfl

/-- The port thread waits as long as the mutex is taken. -/
theorem portThread_waits {p : PortAttributes} {s s' : State} {a : Action} {t : ThreadId}
    (hpc : s.portThread = .busy (.lock t) .waitMutex)
    (hmutex : (s.thread t).queueLockPortMutex ≠ none) (hstep : step p s a = some s') :
    s'.portThread = s.portThread := by
  rcases step_portThread hstep with hsame | hidle | hport
  · exact hsame
  · rw [hpc] at hidle
    cases hidle
  · simp only [portStep, hpc, if_neg hmutex] at hport
    cases hport

/-- A `queueLockPort` that returns `asynSuccess` has counted up. -/
theorem count_of_returnsLocked {p : PortAttributes} {ok : Prop} {t : ThreadId} {v v' : LockView}
    (hblock : p.canBlock = true) (hprotocol : Protocol p t v)
    (hview : ViewStep p ok t v v') (hpc : v.thread.pc ≠ .idle) (hpc' : v'.thread.pc = .idle)
    {exit : LockExit} (hreturned : v'.thread.returned = some (.queueLockPort exit))
    (hstatus : exit.status = .asynSuccess) : 0 < v'.thread.queueLockPortCount := by
  rcases hview with henv | hown
  · rw [henv.pc] at hpc'
    exact absurd hpc' hpc
  · cases hown with
    | nested => exact Nat.succ_pos _
    | notQueued status _ hnot =>
        cases hreturned
        exact absurd hstatus hnot
    | timedOut =>
        cases hreturned
        cases hstatus
    | notified status h =>
        simp only [Protocol, h] at hprotocol
        have hcount := hprotocol.2 hblock
        simp only
        omega
    | refused h => exact absurd h hpc
    | called => cases hpc'
    | mutexTaken => cases hpc'
    | synchronousLocked => cases hpc'
    | queued => cases hpc'
    | begun => cases hpc'
    | unlockCalled => cases hpc'
    | notLocked => cases hreturned
    | unnested => cases hreturned
    | mutexDropped => cases hpc'
    | synchronousUnlocked => cases hreturned
    | ended => cases hreturned
    | synchronousTaken h => exact absurd h hpc
    | synchronousDropped h => exact absurd h hpc

theorem event_of_protocol {p : PortAttributes} {t : ThreadId} {v : LockView}
    (hprotocol : Protocol p t v) (hwait : v.thread.pc ≠ .lockWait)
    (hunlock : ∀ status, v.thread.pc ≠ .unlockWait status) :
    v.thread.queueLockPortEvent = false := by
  unfold Protocol at hprotocol
  cases hcase : v.thread.pc with
  | idle =>
      rw [hcase] at hprotocol
      exact hprotocol.event
  | lockStart =>
      rw [hcase] at hprotocol
      exact hprotocol.event
  | lockQueue =>
      rw [hcase] at hprotocol
      exact hprotocol.event
  | lockWait => exact absurd hcase hwait
  | lockNotify =>
      rw [hcase] at hprotocol
      exact hprotocol.1.event
  | unlockRelease status =>
      rw [hcase] at hprotocol
      exact hprotocol.event
  | unlockWait status => exact absurd hcase (hunlock status)

/-- In every run of a port that can block, however the calls of the threads, the port thread and the
timer are interleaved. -/
theorem lockSafe_of_reachable (p : PortAttributes) (hblock : p.canBlock = true) {s : State}
    (hreach : (machine p).Reachable WellNested s) : LockSafe p s := by
  have hprotocol := fun t => protocol_of_reachable hreach t
  have hmatched := fun t => matched_of_reachable hblock hreach t
  have hholds := fun t (hsection : InSection s t) =>
    holds_of_inSection (hprotocol t) (hmatched t) hsection
  have hwaits : ∀ t a s', InSection s t → step p s a = some s' → s'.portThread = s.portThread := by
    intro t a s' hsection hstep
    obtain ⟨hpc, hmutex⟩ := hholds t hsection
    exact portThread_waits hpc (by rw [hmutex]; exact Option.some_ne_none _) hstep
  refine ⟨fun t hsection => (hholds t hsection).1, hwaits, ?_, ?_, ?_, ?_⟩
  · rintro t u a s' hsection hstep ⟨hpc, hpc', exit, hreturned, hstatus⟩
    have hview := step_view hstep u
    have hcount := count_of_returnsLocked hblock (hprotocol u) hview hpc hpc' hreturned hstatus
    have hprotocol' : Protocol p u (s'.view u) := by
      rcases hview with henv | hown
      · exact (hprotocol u).environment henv
      · exact (hprotocol u).own hown
    have hidle : (s'.view u).thread.pc = .idle := hpc'
    simp only [Protocol, hidle] at hprotocol'
    -- the port thread waits for both threads
    have hbusy := portThread_of_park (hprotocol'.held hcount).1
    rw [hwaits t a s' hsection hstep, (hholds t hsection).1] at hbusy
    cases hbusy
    rfl
  · intro t hpc hdepth
    have hidle : (s.view t).thread.pc = .idle := hpc
    have hrest := hprotocol t
    have hmatch := hmatched t
    simp only [Protocol, hidle] at hrest
    simp only [Matched, hidle] at hmatch
    exact (hrest.free (hmatch.symm.trans hdepth)).1
  · intro t hwait hunlock
    exact event_of_protocol (hprotocol t) hwait hunlock
  · intro t hpc hevent
    have hwait : (s.view t).thread.pc = .lockWait := hpc
    have hrest := hprotocol t
    simp only [Protocol, hwait] at hrest
    obtain ⟨-, -, hawaited⟩ := hrest
    have hnone : (s.view t).pending = 0 ∧ (s.view t).timingOut = 0 := by
      cases hawaited with
      | queued _ _ _ h _ => exact absurd (h.symm.trans hevent) Bool.false_ne_true
      | timingOut _ _ _ h _ => exact absurd (h.symm.trans hevent) Bool.false_ne_true
      | begun hpending htiming _ _ _ => exact ⟨hpending, htiming⟩
      | timedOut hpending htiming _ _ _ => exact ⟨hpending, htiming⟩
    refine ⟨?_, hnone⟩
    intro hmem
    have hpos := List.count_pos_iff.mpr hmem
    have hzero : s.queue.count (.lock t) + s.portThread.pending t + s.timerThread.pending t = 0 :=
      hnone.1
    omega

/-! ## Runs -/

instance (s : State) (a : Action) : Decidable (WellNested s a) :=
  match a with
  | .notifyLock _ status => inferInstanceAs (Decidable (status = .asynSuccess))
  | .callUnlock t _ => inferInstanceAs (Decidable (0 < (s.thread t).depth))
  | .callLock _ | .enterLock _ | .queueLock _ | .awakeLock _ | .release _ | .awakeUnlock _
  | .takeSynchronous _ | .dropSynchronous _ | .portTake _ _ | .portStep | .timerExpire _
  | .timerStep | .queueRequest _ | .cancelRequest _ | .enable _ | .connect _ =>
      inferInstanceAs (Decidable True)

theorem decide_wellNested (s : State) (a : Action) (hcheck : decide (WellNested s a) = true) :
    WellNested s a :=
  of_decide_eq_true hcheck

/-- Up to `pasynLockPortNotify->lock` of a `queueLockPort`. -/
def lockRun (t : ThreadId) : List Action :=
  [.callLock t, .enterLock t, .queueLock t, .portTake (.lock t) false, .portStep, .portStep,
    .awakeLock t]

/-- A second thread has queued its request and times out while the first one has the port. -/
theorem lockSafe_while_locked :
    ∃ s, (InSection s 0 ∧ (s.thread 1).returned = some (.queueLockPort .timedOut)) ∧
      LockSafe ⟨true, true⟩ s := by
  obtain ⟨s, hreach, hvalue⟩ := Machine.exists_reachable_of_execGuarded
    (M := machine ⟨true, true⟩)
    (fun s => ((s.thread 0).depth, (s.thread 0).pc, (s.thread 1).returned))
    decide_wellNested
    (lockRun 0 ++ [Action.notifyLock 0 .asynSuccess, .callLock 1, .enterLock 1, .queueLock 1,
      .timerExpire (.lock 1), .timerStep, .timerStep, .awakeLock 1])
    (b := (1, .idle, some (.queueLockPort .timedOut))) (initial_start _) (by decide)
  simp only [Prod.mk.injEq] at hvalue
  refine ⟨s, ⟨⟨?_, ?_⟩, hvalue.2.2⟩, lockSafe_of_reachable ⟨true, true⟩ rfl hreach⟩
  · rw [hvalue.1]
    exact Nat.one_pos
  · intro status h
    rw [hvalue.2.1] at h
    cases h

end LockPort
end Manager
end AsynDriver
