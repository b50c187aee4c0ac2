import AsynDriver.Manager.QueueLockPort

/-!
# The lock of one thread

What a step of the machine can mean for one thread.

* `LockView` — the thread, its share of `synchronousLock`, and where its request is: how many callbacks
  are still to come for it, and how far the port thread is in its `queueLockPortCallback`.
* `EnvironmentStep` — what the port thread and the timer thread can do to it.
* `OwnStep` — what the thread itself can do.
* `step_view` — every step of the machine is one of these for every thread.
-/

namespace AsynDriver
namespace Manager
namespace LockPort

open Library

/-- `pending`: callbacks of the thread's request that have not signalled its event or set its
`auxStatus`; `timingOut`: callbacks that have set it and not signalled. -/
@[ext]
structure LockView where
  thread : LockThread
  synchronous : Nat
  pending : Nat
  timingOut : Nat
  park : Park

def PortStage.pending : PortStage → Nat
  | .taken _ => 1
  | .callback _ => 1
  | _ => 0

def PortStage.timingOut : PortStage → Nat
  | .signalTimeout => 1
  | _ => 0

def PortPc.pending (pc : PortPc) (t : ThreadId) : Nat :=
  match pc with
  | .idle => 0
  | .busy r stage => if r = .lock t then stage.pending else 0

def PortPc.timingOut (pc : PortPc) (t : ThreadId) : Nat :=
  match pc with
  | .idle => 0
  | .busy r stage => if r = .lock t then stage.timingOut else 0

def TimerPc.pending (pc : TimerPc) (t : ThreadId) : Nat :=
  match pc with
  | .idle => 0
  | .busy r signal => if r = .lock t ∧ signal = false then 1 else 0

def TimerPc.timingOut (pc : TimerPc) (t : ThreadId) : Nat :=
  match pc with
  | .idle => 0
  | .busy r signal => if r = .lock t ∧ signal = true then 1 else 0

def State.view (s : State) (t : ThreadId) : LockView where
  thread := s.thread t
  synchronous := s.synchronousDepth t
  pending := s.queue.count (.lock t) + s.portThread.pending t + s.timerThread.pending t
  timingOut := s.portThread.timingOut t + s.timerThread.timingOut t
  park := s.portThread.park t

def LockView.holdings (v : LockView) (t : ThreadId) : Holdings where
  count := v.thread.queueLockPortCount
  mutex := v.thread.queueLockPortMutex = some (.thread t)
  synchronous := v.synchronous
  parked := v.park ≠ .away

/-- What the port thread and the timer thread do to the lock of a thread. -/
inductive EnvironmentStep (v : LockView) : LockView → Prop
  | same : EnvironmentStep v v
  /-- `queueLockPortCallback` signals the begin event. -/
  | beginEvent (n : Nat) (hpending : v.pending = n + 1) :
      EnvironmentStep v
        { v with
          thread := { v.thread with queueLockPortEvent := true }
          pending := n
          park := .waiting }
  /-- `queueLockPortTimeoutCallback` sets `auxStatus`. -/
  | setTimeout (n : Nat) (hpending : v.pending = n + 1) :
      EnvironmentStep v
        { v with
          thread := { v.thread with auxStatus := .asynTimeout }
          pending := n
          timingOut := v.timingOut + 1 }
  | timeoutEvent (n : Nat) (htiming : v.timingOut = n + 1) :
      EnvironmentStep v
        { v with thread := { v.thread with queueLockPortEvent := true }, timingOut := n }
  | takeMutex (hpark : v.park = .waiting) (hmutex : v.thread.queueLockPortMutex = none) :
      EnvironmentStep v
        { v with
          thread := { v.thread with queueLockPortMutex := some .portThread }
          park := .holding }
  | dropMutex (hpark : v.park = .holding) :
      EnvironmentStep v
        { v with thread := { v.thread with queueLockPortMutex := none }, park := .leaving }
  | endEvent (hpark : v.park = .leaving) :
      EnvironmentStep v
        { v with thread := { v.thread with queueLockPortEvent := true }, park := .away }

/-- Runs in which each thread unlocks only what it has locked,
and `pasynLockPortNotify->lock` succeeds: a call fails before it has a lock. -/
def WellNested (s : State) : Action → Prop
  | .notifyLock _ status => status = .asynSuccess
  | .callUnlock t _ => 0 < (s.thread t).depth
  | _ => True

/-- What the thread itself does; `ok` says that the step is well nested. -/
inductive OwnStep (p : PortAttributes) (ok : Prop) (t : ThreadId) (v : LockView) : LockView → Prop
  | refused (hpc : v.thread.pc = .idle) :
      OwnStep p ok t v
        { v with
          thread := { v.thread with
            before := v.holdings t
            returned := some (.queueLockPort .disabled)
            notifyStatus := none } }
  | called (hpc : v.thread.pc = .idle) :
      OwnStep p ok t v
        { v with
          thread := { v.thread with
            pc := .lockStart
            before := v.holdings t
            returned := none
            notifyStatus := none } }
  | nested (hpc : v.thread.pc = .lockStart) (hblock : p.canBlock = true)
      (hcount : 0 < v.thread.queueLockPortCount) :
      OwnStep p ok t v
        { v with
          thread := { v.thread with
            pc := .idle
            queueLockPortCount := v.thread.queueLockPortCount + 1
            depth := v.thread.depth + 1
            returned := some (.queueLockPort .nested)
            calls := v.thread.calls ++ [⟨.lock, []⟩] } }
  | mutexTaken (hpc : v.thread.pc = .lockStart) (hblock : p.canBlock = true)
      (hcount : v.thread.queueLockPortCount = 0) (hmutex : v.thread.queueLockPortMutex = none) :
      OwnStep p ok t v
        { v with
          thread := { v.thread with
            pc := .lockQueue
            queueLockPortMutex := some (.thread t)
            auxStatus := .asynSuccess } }
  | synchronousLocked (hpc : v.thread.pc = .lockStart) (hblock : p.canBlock = false) :
      OwnStep p ok t v
        { v with
          thread := { v.thread with pc := .lockNotify }
          synchronous := v.synchronous + 1 }
  | notQueued (status : AsynStatus) (hpc : v.thread.pc = .lockQueue)
      (hstatus : status ≠ .asynSuccess) :
      OwnStep p ok t v
        { v with
          thread := { v.thread with
            pc := .idle
            queueLockPortMutex := none
            returned := some (.queueLockPort (.queueRequest status)) } }
  | queued (hpc : v.thread.pc = .lockQueue) :
      OwnStep p ok t v
        { v with thread := { v.thread with pc := .lockWait }, pending := v.pending + 1 }
  | timedOut (hpc : v.thread.pc = .lockWait) (hevent : v.thread.queueLockPortEvent = true)
      (haux : v.thread.auxStatus ≠ .asynSuccess) :
      OwnStep p ok t v
        { v with
          thread := { v.thread with
            pc := .idle
            queueLockPortEvent := false
            queueLockPortMutex := none
            returned := some (.queueLockPort .timedOut) } }
  | begun (hpc : v.thread.pc = .lockWait) (hevent : v.thread.queueLockPortEvent = true)
      (haux : v.thread.auxStatus = .asynSuccess) :
      OwnStep p ok t v
        { v with
          thread := { v.thread with
            pc := .lockNotify
            queueLockPortEvent := false
            queueLockPortCount := v.thread.queueLockPortCount + 1 } }
  | notified (status : AsynStatus) (hpc : v.thread.pc = .lockNotify)
      (hnotify : p.notify = false → status = .asynSuccess) (hok : ok → status = .asynSuccess) :
      OwnStep p ok t v
        { v with
          thread := { v.thread with
            pc := .idle
            depth := if status = .asynSuccess then v.thread.depth + 1 else v.thread.depth
            returned := some (.queueLockPort (.locked status))
            notifyStatus := if p.notify then some status else none
            calls := v.thread.calls ++ [⟨.lock, if p.notify then [.lock] else []⟩] } }
  | unlockCalled (status : AsynStatus) (hpc : v.thread.pc = .idle)
      (hok : ok → 0 < v.thread.depth) :
      OwnStep p ok t v
        { v with thread := { v.thread with pc := .unlockRelease status, returned := none } }
  | notLocked (status : AsynStatus) (hpc : v.thread.pc = .unlockRelease status)
      (hblock : p.canBlock = true) (hcount : v.thread.queueLockPortCount = 0) :
      OwnStep p ok t v { v with thread := v.thread.unlocked p .asynError }
  | unnested (status : AsynStatus) (hpc : v.thread.pc = .unlockRelease status)
      (hblock : p.canBlock = true) (hcount : 1 < v.thread.queueLockPortCount) :
      OwnStep p ok t v
        { v with
          thread := { v.thread.unlocked p status with
            queueLockPortCount := v.thread.queueLockPortCount - 1 } }
  | mutexDropped (status : AsynStatus) (hpc : v.thread.pc = .unlockRelease status)
      (hblock : p.canBlock = true) (hcount : v.thread.queueLockPortCount = 1) :
      OwnStep p ok t v
        { v with thread := { v.thread with pc := .unlockWait status, queueLockPortMutex := none } }
  | synchronousUnlocked (status : AsynStatus) (hpc : v.thread.pc = .unlockRelease status)
      (hblock : p.canBlock = false) :
      OwnStep p ok t v
        { v with thread := v.thread.unlocked p status, synchronous := v.synchronous - 1 }
  | ended (status : AsynStatus) (hpc : v.thread.pc = .unlockWait status)
      (hevent : v.thread.queueLockPortEvent = true) :
      OwnStep p ok t v
        { v with
          thread := { v.thread.unlocked p status with
            queueLockPortEvent := false
            queueLockPortCount := v.thread.queueLockPortCount - 1 } }
  | synchronousTaken (hpc : v.thread.pc = .idle) :
      OwnStep p ok t v
        { v with
          thread := { v.thread with returned := none }
          synchronous := v.synchronous + 1 }
  | synchronousDropped (hpc : v.thread.pc = .idle) :
      OwnStep p ok t v
        { v with
          thread := { v.thread with returned := none }
          synchronous := v.synchronous - 1 }

/-! ## Frame lemmas -/

theorem view_modThread_self (s : State) (t : ThreadId) (f : LockThread → LockThread) :
    (s.modThread t f).view t = { s.view t with thread := f (s.thread t) } := by
  simp [State.view, State.modThread, State.synchronousDepth]

theorem view_modThread_of_ne (s : State) {t u : ThreadId} (f : LockThread → LockThread)
    (hne : u ≠ t) : (s.modThread t f).view u = s.view u := by
  simp [State.view, State.modThread, State.synchronousDepth, Function.update_of_ne hne]

theorem takeSynchronous_view {s s' : State} {o : Owner} (htake : s.takeSynchronous o = some s')
    (u : ThreadId) :
    s'.view u = { s.view u with
      synchronous := if o = .thread u then (s.view u).synchronous + 1 else (s.view u).synchronous } := by
  unfold State.takeSynchronous at htake
  split at htake
  · next hnone =>
    cases htake
    by_cases ho : o = .thread u <;>
      simp [State.view, State.synchronousDepth, hnone, ho]
  · next o' n hsome =>
    split at htake
    · next heq =>
      cases htake
      by_cases ho : o = .thread u <;>
        simp [State.view, State.synchronousDepth, hsome, heq, ho]
    · cases htake

theorem dropSynchronous_view {s s' : State} {o : Owner} (hdrop : s.dropSynchronous o = some s')
    (u : ThreadId) :
    s'.view u = { s.view u with
      synchronous := if o = .thread u then (s.view u).synchronous - 1 else (s.view u).synchronous } := by
  unfold State.dropSynchronous at hdrop
  split at hdrop
  · cases hdrop
  · next o' n hsome =>
    split at hdrop
    · next heq =>
      cases hdrop
      by_cases hn : n ≤ 1
      · by_cases ho : o = .thread u <;>
          simp [State.view, State.synchronousDepth, hsome, heq, ho, hn]
      · by_cases ho : o = .thread u <;>
          simp [State.view, State.synchronousDepth, hsome, heq, ho, hn]
    · cases hdrop

/-! ## Every step -/

def ViewStep (p : PortAttributes) (ok : Prop) (t : ThreadId) (v v' : LockView) : Prop :=
  EnvironmentStep v v' ∨ OwnStep p ok t v v'

theorem viewStep_of_eq {p : PortAttributes} {ok : Prop} {t : ThreadId} {v v' : LockView} (heq : v' = v) :
    ViewStep p ok t v v' := by
  rw [heq]
  exact Or.inl .same

/-- A step of the thread `t` that changes only its own record. -/
theorem viewStep_modThread {p : PortAttributes} {ok : Prop} {s : State} {t : ThreadId}
    {f : LockThread → LockThread}
    (hown : OwnStep p ok t (s.view t) { s.view t with thread := f (s.thread t) }) (u : ThreadId) :
    ViewStep p ok u (s.view u) ((s.modThread t f).view u) := by
  by_cases hu : u = t
  · subst hu
    rw [view_modThread_self]
    exact Or.inr hown
  · exact viewStep_of_eq (view_modThread_of_ne s f hu)

/-- A step of the thread `t` that also takes `synchronousLock`. -/
theorem viewStep_takeSynchronous {p : PortAttributes} {ok : Prop} {s s' : State} {t : ThreadId}
    {f : LockThread → LockThread} (htake : s.takeSynchronous (.thread t) = some s')
    (hown : OwnStep p ok t (s.view t)
      { s.view t with thread := f (s.thread t), synchronous := (s.view t).synchronous + 1 })
    (u : ThreadId) : ViewStep p ok u (s.view u) ((s'.modThread t f).view u) := by
  have hview := takeSynchronous_view htake u
  by_cases hu : u = t
  · subst hu
    have hthread : s'.thread u = s.thread u := congrArg LockView.thread hview
    rw [view_modThread_self, hview, hthread, if_pos rfl]
    exact Or.inr hown
  · have hne : Owner.thread t ≠ .thread u := fun h => hu (Owner.thread.inj h).symm
    rw [view_modThread_of_ne s' f hu, hview, if_neg hne]
    exact Or.inl .same

theorem viewStep_dropSynchronous {p : PortAttributes} {ok : Prop} {s s' : State} {t : ThreadId}
    {f : LockThread → LockThread} (hdrop : s.dropSynchronous (.thread t) = some s')
    (hown : OwnStep p ok t (s.view t)
      { s.view t with thread := f (s.thread t), synchronous := (s.view t).synchronous - 1 })
    (u : ThreadId) : ViewStep p ok u (s.view u) ((s'.modThread t f).view u) := by
  have hview := dropSynchronous_view hdrop u
  by_cases hu : u = t
  · subst hu
    have hthread : s'.thread u = s.thread u := congrArg LockView.thread hview
    rw [view_modThread_self, hview, hthread, if_pos rfl]
    exact Or.inr hown
  · have hne : Owner.thread t ≠ .thread u := fun h => hu (Owner.thread.inj h).symm
    rw [view_modThread_of_ne s' f hu, hview, if_neg hne]
    exact Or.inl .same

/-- A step of a callback for the thread `t`; `s₁` is the state with the callback's new position. -/
theorem viewStep_callback {p : PortAttributes} {ok : Prop} (s s₁ : State) {t : ThreadId}
    {f : LockThread → LockThread} (hthread : s₁.thread = s.thread)
    (hother : ∀ u, u ≠ t → s₁.view u = s.view u)
    (henv : EnvironmentStep (s.view t) { s₁.view t with thread := f (s.thread t) }) (u : ThreadId) :
    ViewStep p ok u (s.view u) ((s₁.modThread t f).view u) := by
  by_cases hu : u = t
  · subst hu
    rw [view_modThread_self, hthread]
    exact Or.inl henv
  · rw [view_modThread_of_ne s₁ f hu]
    exact viewStep_of_eq (hother u hu)

theorem portThread_view_of_ne {s : State} {t u : ThreadId} {stage : PortStage} (stage' : PortStage)
    (hpc : s.portThread = .busy (.lock t) stage) (hne : u ≠ t) :
    { s with portThread := .busy (.lock t) stage' }.view u = s.view u := by
  have hreq : Request.lock t ≠ .lock u := fun h => hne (Request.lock.inj h).symm
  simp [State.view, State.synchronousDepth, hpc, PortPc.pending, PortPc.timingOut, PortPc.park, hreq]

/-- The view of the thread whose request the port thread has. -/
theorem portThread_view_self (s : State) (t : ThreadId) (stage : PortStage) :
    { s with portThread := .busy (Request.lock t) stage }.view t =
      { s.view t with
        pending := s.queue.count (.lock t) + stage.pending + s.timerThread.pending t
        timingOut := stage.timingOut + s.timerThread.timingOut t
        park := stage.park } := by
  simp [State.view, State.synchronousDepth, PortPc.pending, PortPc.timingOut, PortPc.park]

theorem view_of_portThread {s : State} {t : ThreadId} {stage : PortStage}
    (hpc : s.portThread = .busy (.lock t) stage) :
    (s.view t).pending = s.queue.count (.lock t) + stage.pending + s.timerThread.pending t ∧
      (s.view t).timingOut = stage.timingOut + s.timerThread.timingOut t ∧
      (s.view t).park = stage.park := by
  simp [State.view, hpc, PortPc.pending, PortPc.timingOut, PortPc.park]

theorem timerThread_view_of_ne {s : State} {t u : ThreadId} {signal : Bool} {pc : TimerPc}
    (hpc : s.timerThread = .busy (.lock t) signal)
    (hpc' : pc = .idle ∨ ∃ signal', pc = .busy (.lock t) signal') (hne : u ≠ t) :
    { s with timerThread := pc }.view u = s.view u := by
  have hreq : Request.lock t ≠ .lock u := fun h => hne (Request.lock.inj h).symm
  rcases hpc' with rfl | ⟨signal', rfl⟩
  · simp [State.view, State.synchronousDepth, hpc, TimerPc.pending, TimerPc.timingOut, hreq]
  · simp [State.view, State.synchronousDepth, hpc, TimerPc.pending, TimerPc.timingOut, hreq]

/-- A step of the port thread's callback for the thread `t`. -/
theorem viewStep_portCallback {p : PortAttributes} {ok : Prop} {s : State} {t : ThreadId} {stage : PortStage}
    (stage' : PortStage) {f : LockThread → LockThread}
    (hpc : s.portThread = .busy (.lock t) stage)
    (henv : EnvironmentStep (s.view t)
      { s.view t with
        thread := f (s.thread t)
        pending := s.queue.count (.lock t) + stage'.pending + s.timerThread.pending t
        timingOut := stage'.timingOut + s.timerThread.timingOut t
        park := stage'.park }) (u : ThreadId) :
    ViewStep p ok u (s.view u)
      (({ s with portThread := .busy (.lock t) stage' }.modThread t f).view u) := by
  refine viewStep_callback s { s with portThread := .busy (.lock t) stage' } rfl ?_ ?_ u
  · intro w hw
    exact portThread_view_of_ne stage' hpc hw
  · rw [portThread_view_self]
    exact henv

theorem takeSynchronous_portThread {s s' : State} {o : Owner} (htake : s.takeSynchronous o = some s') :
    s'.portThread = s.portThread := by
  unfold State.takeSynchronous at htake
  split at htake
  · cases htake
    rfl
  · split at htake
    · cases htake
      rfl
    · cases htake

theorem dropSynchronous_portThread {s s' : State} {o : Owner} (hdrop : s.dropSynchronous o = some s') :
    s'.portThread = s.portThread := by
  unfold State.dropSynchronous at hdrop
  split at hdrop
  · cases hdrop
  · split at hdrop
    · cases hdrop
      rfl
    · cases hdrop

/-- A position of the port thread before or after its work for a request, which differs from the old
one in no count. -/
theorem portThread_view {s : State} {pc : PortPc} {u : ThreadId}
    (hpending : pc.pending u = s.portThread.pending u)
    (htiming : pc.timingOut u = s.portThread.timingOut u) (hpark : pc.park u = s.portThread.park u) :
    { s with portThread := pc }.view u = s.view u := by
  simp [State.view, State.synchronousDepth, hpending, htiming, hpark]

theorem portStep_view {p : PortAttributes} {ok : Prop} {s s' : State} (hstep : portStep s = some s')
    (u : ThreadId) : ViewStep p ok u (s.view u) (s'.view u) := by
  have hnotThread : Owner.portThread ≠ .thread u := fun h => by cases h
  unfold portStep at hstep
  split at hstep
  · cases hstep
  · next r c hpc =>
    obtain ⟨s₁, htake, rfl⟩ := Option.map_eq_some_iff.mp hstep
    have hview := takeSynchronous_view htake u
    have hpc₁ := takeSynchronous_portThread htake
    simp only [if_neg hnotThread] at hview
    rw [hpc] at hpc₁
    apply viewStep_of_eq
    rw [portThread_view, hview]
    · rw [hpc₁]
      rfl
    · rw [hpc₁]
      rfl
    · rw [hpc₁]
      rfl
  · next v c hpc =>
    cases hstep
    apply viewStep_of_eq
    apply portThread_view
    · simp [hpc, PortPc.pending]
    · simp [hpc, PortPc.timingOut]
    · simp [hpc, PortPc.park]
  · next t hpc =>
    cases hstep
    obtain ⟨hpending, htiming, hpark⟩ := view_of_portThread hpc
    refine viewStep_portCallback .waitMutex hpc ?_ u
    simp only [PortStage.pending, PortStage.timingOut, Nat.add_zero] at hpending htiming ⊢
    rw [← htiming]
    exact .beginEvent _ (by omega)
  · next t hpc =>
    cases hstep
    obtain ⟨hpending, htiming, hpark⟩ := view_of_portThread hpc
    refine viewStep_portCallback .signalTimeout hpc ?_ u
    simp only [PortStage.pending, PortStage.timingOut, Nat.add_zero, Nat.zero_add] at hpending htiming ⊢
    have hsame : PortStage.park .signalTimeout = (s.view t).park := hpark.symm
    rw [← htiming, Nat.add_comm 1, hsame]
    exact .setTimeout _ (by omega)
  · next t hpc =>
    cases hstep
    obtain ⟨hpending, htiming, hpark⟩ := view_of_portThread hpc
    refine viewStep_portCallback .finish hpc ?_ u
    simp only [PortStage.pending, PortStage.timingOut, Nat.add_zero, Nat.zero_add] at hpending htiming ⊢
    have hsame : PortStage.park .finish = (s.view t).park := hpark.symm
    rw [← hpending, hsame]
    exact .timeoutEvent _ (by omega)
  · next t hpc =>
    split at hstep
    · next hmutex =>
      cases hstep
      obtain ⟨hpending, htiming, hpark⟩ := view_of_portThread hpc
      refine viewStep_portCallback .holdMutex hpc ?_ u
      simp only [PortStage.pending, PortStage.timingOut, Nat.add_zero, Nat.zero_add] at hpending htiming ⊢
      rw [← hpending, ← htiming]
      exact .takeMutex hpark hmutex
    · cases hstep
  · next t hpc =>
    cases hstep
    obtain ⟨hpending, htiming, hpark⟩ := view_of_portThread hpc
    refine viewStep_portCallback .signalEnd hpc ?_ u
    simp only [PortStage.pending, PortStage.timingOut, Nat.add_zero, Nat.zero_add] at hpending htiming ⊢
    rw [← hpending, ← htiming]
    exact .dropMutex hpark
  · next t hpc =>
    cases hstep
    obtain ⟨hpending, htiming, hpark⟩ := view_of_portThread hpc
    refine viewStep_portCallback .finish hpc ?_ u
    simp only [PortStage.pending, PortStage.timingOut, Nat.add_zero, Nat.zero_add] at hpending htiming ⊢
    rw [← hpending, ← htiming]
    exact .endEvent hpark
  · next r hpc =>
    obtain ⟨s₁, hdrop, rfl⟩ := Option.map_eq_some_iff.mp hstep
    have hview := dropSynchronous_view hdrop u
    have hpc₁ := dropSynchronous_portThread hdrop
    simp only [if_neg hnotThread] at hview
    rw [hpc] at hpc₁
    apply viewStep_of_eq
    rw [portThread_view, hview]
    · simp [hpc₁, PortPc.pending, PortStage.pending]
    · simp [hpc₁, PortPc.timingOut, PortStage.timingOut]
    · simp [hpc₁, PortPc.park, PortStage.park]
  · cases hstep

theorem timerStep_view {p : PortAttributes} {ok : Prop} {s s' : State} (hstep : timerStep s = some s')
    (u : ThreadId) : ViewStep p ok u (s.view u) (s'.view u) := by
  unfold timerStep at hstep
  split at hstep
  · cases hstep
  · next v signal hpc =>
    cases hstep
    apply viewStep_of_eq
    simp [State.view, State.synchronousDepth, hpc, TimerPc.pending, TimerPc.timingOut]
  · next t hpc =>
    cases hstep
    refine viewStep_callback s { s with timerThread := .busy (.lock t) true } rfl ?_ ?_ u
    · intro w hw
      exact timerThread_view_of_ne hpc (Or.inr ⟨true, rfl⟩) hw
    · have hview : { s with timerThread := .busy (Request.lock t) true }.view t =
          { s.view t with
            pending := s.queue.count (.lock t) + s.portThread.pending t
            timingOut := (s.view t).timingOut + 1 } := by
        simp [State.view, State.synchronousDepth, hpc, TimerPc.pending, TimerPc.timingOut]
      rw [hview]
      refine .setTimeout _ ?_
      simp [State.view, hpc, TimerPc.pending]
  · next t hpc =>
    cases hstep
    refine viewStep_callback s { s with timerThread := .idle } rfl ?_ ?_ u
    · intro w hw
      exact timerThread_view_of_ne hpc (Or.inl rfl) hw
    · have hview : { s with timerThread := .idle }.view t =
          { s.view t with timingOut := s.portThread.timingOut t } := by
        simp [State.view, State.synchronousDepth, hpc, TimerPc.pending, TimerPc.timingOut]
      rw [hview]
      refine .timeoutEvent _ ?_
      simp [State.view, hpc, TimerPc.timingOut]

theorem count_erase_of_mem {l : List Request} {r : Request} (hmem : r ∈ l) (t : ThreadId) :
    (l.erase r).count (.lock t) + (if r = .lock t then 1 else 0) = l.count (.lock t) := by
  by_cases hr : r = .lock t
  · subst hr
    have hpos := List.count_pos_iff.mpr hmem
    rw [List.count_erase_self, if_pos rfl]
    omega
  · rw [List.count_erase_of_ne (Ne.symm hr), if_neg hr, Nat.add_zero]

theorem portTake_view {p : PortAttributes} {ok : Prop} {s s' : State} {r : Request} {c : Bool}
    (hstep : portTake s r c = some s') (u : ThreadId) : ViewStep p ok u (s.view u) (s'.view u) := by
  unfold portTake at hstep
  split at hstep
  · next hguard =>
    obtain ⟨hpc, hmem⟩ := hguard
    cases hstep
    have hcount := count_erase_of_mem hmem u
    apply viewStep_of_eq
    by_cases hr : r = .lock u
    · simp [State.view, State.synchronousDepth, hpc, PortPc.pending, PortPc.timingOut, PortPc.park,
        PortStage.pending, PortStage.timingOut, PortStage.park, hr] at hcount ⊢
      omega
    · simp [State.view, State.synchronousDepth, hpc, PortPc.pending, PortPc.timingOut, PortPc.park, hr]
        at hcount ⊢
      omega
  · cases hstep

theorem timerExpire_view {p : PortAttributes} {ok : Prop} {s s' : State} {r : Request}
    (hstep : timerExpire s r = some s') (u : ThreadId) : ViewStep p ok u (s.view u) (s'.view u) := by
  unfold timerExpire at hstep
  split at hstep
  · next hguard =>
    obtain ⟨hpc, hmem⟩ := hguard
    cases hstep
    have hcount := count_erase_of_mem hmem u
    apply viewStep_of_eq
    by_cases hr : r = .lock u
    · simp [State.view, State.synchronousDepth, hpc, TimerPc.pending, TimerPc.timingOut, hr]
        at hcount ⊢
      omega
    · simp [State.view, State.synchronousDepth, hpc, TimerPc.pending, TimerPc.timingOut, hr]
        at hcount ⊢
      omega
  · cases hstep

theorem queueLock_view {p : PortAttributes} {ok : Prop} {s s' : State} {t : ThreadId}
    (hstep : queueLock s t = some s') (u : ThreadId) : ViewStep p ok u (s.view u) (s'.view u) := by
  unfold queueLock at hstep
  split at hstep
  · next hpc =>
    split at hstep
    · cases hstep
      exact viewStep_modThread (.notQueued _ hpc (by simp)) u
    · split at hstep
      · cases hstep
        exact viewStep_modThread (.notQueued _ hpc (by simp)) u
      · cases hstep
        by_cases hu : u = t
        · subst hu
          have hview : { s with queue := s.queue ++ [Request.lock u] }.view u =
              { s.view u with pending := (s.view u).pending + 1 } := by
            simp [State.view, State.synchronousDepth]
            omega
          rw [view_modThread_self, hview]
          exact Or.inr (.queued hpc)
        · have hreq : Request.lock t ≠ .lock u := fun h => hu (Request.lock.inj h).symm
          rw [view_modThread_of_ne _ _ hu]
          apply viewStep_of_eq
          simp [State.view, State.synchronousDepth, hreq]
  · cases hstep

theorem enterLock_view {p : PortAttributes} {ok : Prop} {s s' : State} {t : ThreadId}
    (hstep : enterLock p s t = some s') (u : ThreadId) : ViewStep p ok u (s.view u) (s'.view u) := by
  unfold enterLock at hstep
  split at hstep
  · next hpc =>
    split at hstep
    · next hblock =>
      split at hstep
      · next hcount =>
        cases hstep
        exact viewStep_modThread (.nested hpc hblock hcount) u
      · next hcount =>
        split at hstep
        · next hmutex =>
          cases hstep
          exact viewStep_modThread (.mutexTaken hpc hblock (Nat.eq_zero_of_not_pos hcount) hmutex) u
        · cases hstep
    · next hblock =>
      obtain ⟨s₁, htake, rfl⟩ := Option.map_eq_some_iff.mp hstep
      exact viewStep_takeSynchronous htake
        (.synchronousLocked hpc (by simpa using hblock)) u
  · cases hstep

theorem release_view {p : PortAttributes} {ok : Prop} {s s' : State} {t : ThreadId}
    (hstep : release p s t = some s') (u : ThreadId) : ViewStep p ok u (s.view u) (s'.view u) := by
  unfold release at hstep
  split at hstep
  · next status hpc =>
    split at hstep
    · next hblock =>
      split at hstep
      · next hcount =>
        cases hstep
        exact viewStep_modThread (.notLocked status hpc hblock hcount) u
      · next hcount =>
        split at hstep
        · next hmore =>
          cases hstep
          exact viewStep_modThread (.unnested status hpc hblock hmore) u
        · next hmore =>
          cases hstep
          have hone : (s.thread t).queueLockPortCount = 1 := by omega
          exact viewStep_modThread (.mutexDropped status hpc hblock hone) u
    · next hblock =>
      obtain ⟨s₁, hdrop, rfl⟩ := Option.map_eq_some_iff.mp hstep
      exact viewStep_dropSynchronous hdrop
        (.synchronousUnlocked status hpc (by simpa using hblock)) u
  · cases hstep

/-- For every thread, a step of the machine is a step of its view. -/
theorem step_view {p : PortAttributes} {s s' : State} {a : Action} (hstep : step p s a = some s')
    (u : ThreadId) : ViewStep p (WellNested s a) u (s.view u) (s'.view u) := by
  cases a with
  | callLock t =>
      simp only [step, callLock] at hstep
      split at hstep
      · next hpc =>
        split at hstep
        · cases hstep
          exact viewStep_modThread (.called hpc) u
        · cases hstep
          exact viewStep_modThread (.refused hpc) u
      · cases hstep
  | enterLock t => exact enterLock_view hstep u
  | queueLock t => exact queueLock_view hstep u
  | awakeLock t =>
      simp only [step, awakeLock] at hstep
      split at hstep
      · next hguard =>
        split at hstep
        · next haux =>
          cases hstep
          exact viewStep_modThread (.timedOut hguard.1 hguard.2 haux) u
        · next haux =>
          cases hstep
          exact viewStep_modThread (.begun hguard.1 hguard.2 (not_not.mp haux)) u
      · cases hstep
  | notifyLock t status =>
      simp only [step, notifyLock] at hstep
      split at hstep
      · next hpc =>
        cases hstep
        refine viewStep_modThread (.notified _ hpc ?_ ?_) u
        · intro hnotify
          rw [hnotify, if_neg Bool.false_ne_true]
        · intro hok
          have hsuccess : status = .asynSuccess := hok
          rw [hsuccess, ite_self]
      · cases hstep
  | callUnlock t status =>
      simp only [step, callUnlock] at hstep
      split at hstep
      · next hpc =>
        cases hstep
        refine viewStep_modThread (.unlockCalled _ hpc ?_) u
        intro hok
        exact hok
      · cases hstep
  | release t => exact release_view hstep u
  | awakeUnlock t =>
      simp only [step, awakeUnlock] at hstep
      split at hstep
      · next status hpc =>
        split at hstep
        · next hevent =>
          cases hstep
          exact viewStep_modThread (.ended status hpc hevent) u
        · cases hstep
      · cases hstep
  | takeSynchronous t =>
      simp only [step] at hstep
      split at hstep
      · next hpc =>
        obtain ⟨s₁, htake, rfl⟩ := Option.map_eq_some_iff.mp hstep
        exact viewStep_takeSynchronous htake (.synchronousTaken hpc) u
      · cases hstep
  | dropSynchronous t =>
      simp only [step] at hstep
      split at hstep
      · next hpc =>
        obtain ⟨s₁, hdrop, rfl⟩ := Option.map_eq_some_iff.mp hstep
        exact viewStep_dropSynchronous hdrop (.synchronousDropped hpc) u
      · cases hstep
  | portTake r c => exact portTake_view hstep u
  | portStep => exact portStep_view hstep u
  | timerExpire r => exact timerExpire_view hstep u
  | timerStep => exact timerStep_view hstep u
  | queueRequest v =>
      simp only [step] at hstep
      split at hstep
      · cases hstep
        apply viewStep_of_eq
        simp [State.view, State.synchronousDepth]
      · cases hstep
  | cancelRequest v =>
      simp only [step] at hstep
      split at hstep
      · cases hstep
        apply viewStep_of_eq
        simp [State.view, State.synchronousDepth]
      · cases hstep
  | enable yesNo =>
      cases hstep
      exact viewStep_of_eq rfl
  | connect yesNo =>
      cases hstep
      exact viewStep_of_eq rfl

end LockPort
end Manager
end AsynDriver
