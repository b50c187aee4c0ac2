import AsynDriver.Manager.QueueSections

/-!
# Every list node is in one place

The methods read `puserPvt->pport` before they take the lock of that port.  A `disconnect` or
`freeAsynUser` that clears the pointer in between makes them work on the lists of a port to which
the user no longer belongs, so `QueueInv` is an invariant of the runs in which this does not happen:

* `ClientPc.heldPort` — the calls that have read `pport` and have not used it yet;
* `Undisturbed` — the guard: `pport` changes only while no call and no expired timer holds a copy;
* `QueueInv.reachable` — the invariant holds in every state of every guarded run, one lemma for
  each thread's step;
* `nodesConsistent_of_undisturbed` — hence the flags and the queues agree, and
  `not_nodesConsistent_stale_timeout` is a run in which a stale pointer breaks this.
-/

namespace AsynDriver
namespace Manager
namespace Queue

open Library
open Library.LinkedList

variable {config : PortId → PortConfig}

/-! ## The guard -/

/-- A step changes `puserPvt->pport` of an `asynUser` only while no call and no expired timer holds
a copy of it, and `connectDevice` finds it still null. -/
def Undisturbed (s : State) : Action → Prop
  | .call _ (.freeAsynUser u) => (s.userPvt u).pport = none → NoCopy s u
  | .client t =>
      match s.client t with
      | .connectDevice u _ _ => (s.userPvt u).pport = none
      | .disconnect u _ => disconnectRefused (s.userPvt u) = false → NoCopy s u
      | .freeDisconnect u _ => disconnectRefused (s.userPvt u) = false → NoCopy s u
      | _ => True
  | _ => True

/-! ## Every step keeps the invariant -/

section Steps

variable {s s' : State}

theorem callAllowed_idle {t : ThreadId} {c : Call} (hallowed : callAllowed s t c = true) :
    s.client t = .idle := by
  unfold callAllowed at hallowed
  simp only [Bool.and_eq_true, decide_eq_true_eq] at hallowed
  exact hallowed.1

theorem callAllowed_alive {t : ThreadId} {c : Call} {u : UserId}
    (hallowed : callAllowed s t c = true) (huser : c.user = some u) :
    (s.phase u).alive = true := by
  unfold callAllowed at hallowed
  simp only [Bool.and_eq_true, decide_eq_true_eq] at hallowed
  cases c <;> simp_all [Call.user, Phase.alive]

theorem startCall_inv (hinv : QueueInv config s) {t : ThreadId} {c : Call}
    (hallowed : callAllowed s t c = true) (hguard : Undisturbed s (.call t c)) :
    QueueInv config (startCall config s t c) := by
  cases c with
  | createAsynUser process timeout => exact hinv.createAsynUser t process timeout
  | freeAsynUser u =>
      have hphase : s.phase u = .live := by
        unfold callAllowed at hallowed
        simp only [Bool.and_eq_true, decide_eq_true_eq] at hallowed
        exact hallowed.2
      have hmem := hinv.node.not_free_of_phase (u := u) (by simp [hphase])
      have hdeferred := hinv.node.not_deferred_of_phase (u := u) (by simp [hphase])
      have hfresh := hinv.node.lt_allocated (u := u) (by simp [hphase])
      have hothers := hinv.frees_ne (u := u) (by simp [hphase]) (by simp [hphase])
      unfold startCall
      simp only
      split
      · next hnone =>
        have hcopy : NoCopy s u := hguard hnone
        have hretired := hinv.setPhase .retired (fun _ => hnone) hmem hdeferred hfresh
          (fun t' q addr hconnect => absurd (congrArg ClientPc.heldPort hconnect) (hcopy.1 t'))
          hothers
        refine hretired.setClient t _ (by simp [ClientOk]) fun v hv t' _ => ?_
        obtain rfl : u = v := by simpa [ClientPc.frees] using hv
        exact hothers t'
      · have hfreeing := hinv.setPhase .freeing (by simp [Phase.alive]) hmem hdeferred
          hfresh (fun _ _ _ _ => rfl) hothers
        refine hfreeing.setClient t _ (by simp [ClientOk]) fun v hv t' _ => ?_
        obtain rfl : u = v := by simpa [ClientPc.frees] using hv
        exact hothers t'
  | connectDevice u p addr =>
      have halive := callAllowed_alive (u := u) hallowed rfl
      unfold startCall
      simp only
      split
      · exact hinv.goto t trivial rfl
      · exact hinv.goto t halive rfl
  | queueRequest u priority timeout =>
      unfold startCall
      simp only
      split
      · next p dp hport hfind =>
        split
        · exact hinv.goto t hport rfl
        · exact hinv.goto t trivial rfl
      · exact hinv.goto t trivial rfl
  | disconnect u =>
      unfold startCall
      simp only
      split
      · exact hinv.goto t trivial rfl
      · exact hinv.goto t trivial rfl
  | cancelRequest u =>
      unfold startCall
      simp only
      split
      · exact hinv.goto t trivial rfl
      · next p hport => exact hinv.goto t hport rfl
  | blockProcessCallback u allDevices =>
      unfold startCall
      simp only
      split
      · exact hinv.goto t trivial rfl
      · next p hport =>
        split
        · exact hinv.goto t hport rfl
        · exact hinv.goto t trivial rfl
  | unblockProcessCallback u allDevices =>
      unfold startCall
      simp only
      split
      · exact hinv.goto t trivial rfl
      · split
        · exact hinv.goto t trivial rfl
        · exact hinv.goto t trivial rfl
  | exceptionConnect u | exceptionDisconnect u =>
      unfold startCall
      simp only
      split
      · exact hinv.goto t trivial rfl
      · split
        · exact hinv.goto t trivial rfl
        · exact hinv.goto t trivial rfl
  | enable u yesNo | autoConnect u yesNo =>
      unfold startCall
      simp only
      split
      · exact hinv.goto t trivial rfl
      · exact hinv.goto t trivial rfl

/-- While `pport` is null only `connectDevice` has a copy of it. -/
theorem QueueInv.copies_of_none (hinv : QueueInv config s) {u : UserId}
    (hnone : (s.userPvt u).pport = none) :
    (∀ t, (s.client t).heldPort = some u → ∃ q addr, s.client t = .connectDevice u q addr) ∧
      ∀ p, s.timerThread ≠ .fired u p := by
  constructor
  · intro t hheld
    have hok := hinv.client t
    cases hpc : s.client t with
    | connectDevice v q addr =>
        rw [hpc] at hheld
        obtain rfl : v = u := by simpa [ClientPc.heldPort] using hheld
        exact ⟨q, addr, rfl⟩
    | _ => simp_all [ClientPc.heldPort, ClientOk]
  · intro p hfired
    have hok := hinv.timer
    simp [hfired, TimerOk, hnone] at hok

theorem clientStep_inv (hinv : QueueInv config s) {t : ThreadId}
    (hguard : Undisturbed s (.client t)) (hstep : clientStep config s t = some s') :
    QueueInv config s' := by
  have hok := hinv.client t
  unfold clientStep at hstep
  unfold Undisturbed at hguard
  cases hpc : s.client t with
  | idle => simp [hpc] at hstep
  | ret c result =>
      simp only [hpc, Option.some.injEq] at hstep
      subst hstep
      exact hinv.goto t trivial rfl
  | signal c p result =>
      simp only [hpc, Option.some.injEq] at hstep
      subst hstep
      exact (hinv.modPort p (fun q => { q with notifyPortThread := true }) (fun _ => rfl)
        (fun _ => id)).goto t trivial rfl
  | announce c p =>
      simp only [hpc, Option.ite_none_right_eq_some, Option.some.injEq] at hstep
      obtain ⟨-, rfl⟩ := hstep
      have hchanged := hinv.modPort p (fun q => { q with queueStateChange := true })
        (fun _ => rfl) (fun _ _ => rfl)
      split
      · exact hchanged.goto t trivial rfl
      · exact hchanged.goto t trivial rfl
  | connectDevice u p addr =>
      simp only [hpc, Option.ite_none_right_eq_some, Option.some.injEq] at hstep hguard hok
      obtain ⟨-, rfl⟩ := hstep
      obtain ⟨hcopy, htimer⟩ := hinv.copies_of_none hguard
      exact connectDeviceLocked_inv hinv t addr hguard hok hcopy htimer
  | disconnect u p =>
      simp only [hpc, Option.ite_none_right_eq_some, Option.some.injEq] at hstep hguard
      obtain ⟨-, rfl⟩ := hstep
      exact disconnectLocked_inv hinv t hguard
  | freeDisconnect u p =>
      simp only [hpc, Option.ite_none_right_eq_some, Option.some.injEq] at hstep hguard
      obtain ⟨-, rfl⟩ := hstep
      exact freeDisconnectLocked_inv hinv hpc hguard
  | freeList u =>
      simp only [hpc, Option.some.injEq] at hstep
      subst hstep
      exact freeListLocked_inv hinv hpc
  | queueRequest u priority timeout p dp check =>
      simp only [hpc, Option.ite_none_right_eq_some, Option.some.injEq] at hstep hok
      obtain ⟨hlock, rfl⟩ := hstep
      exact queueRequestLocked_inv hinv t priority timeout dp check hok hlock
  | syncAttempt u priority timeout dp tried =>
      simp only [hpc, Option.some.injEq] at hstep
      subst hstep
      exact queueRequestSyncEnd_inv t priority timeout dp
        ((autoConnectResume_frame s dp tried).queueInv hinv)
  | syncRunning u priority timeout =>
      simp only [hpc, Option.some.injEq] at hstep
      subst hstep
      exact hinv.goto t trivial rfl
  | cancelRequest u p =>
      simp only [hpc, Option.ite_none_right_eq_some, Option.some.injEq] at hstep hok
      obtain ⟨hlock, rfl⟩ := hstep
      exact cancelRequestLocked_inv hinv t hok hlock
  | cancelWait u =>
      simp only [hpc, Option.ite_none_right_eq_some, Option.some.injEq] at hstep
      obtain ⟨-, rfl⟩ := hstep
      exact (hinv.modUser u _ rfl rfl rfl Or.inl).goto t trivial rfl
  | cancelTimer u p timeout =>
      simp only [hpc] at hstep
      split at hstep
      · cases hstep
        exact hinv.goto t trivial rfl
      · split at hstep
        · cases hstep
        · cases hstep
          exact (hinv.modUser u _ rfl rfl rfl Or.inl).goto t trivial rfl
  | blockProcessCallback u allDevices p =>
      simp only [hpc, Option.ite_none_right_eq_some, Option.some.injEq] at hstep
      obtain ⟨-, rfl⟩ := hstep
      exact blockProcessCallbackLocked_inv hinv t allDevices
  | unblockProcessCallback u allDevices p =>
      simp only [hpc, Option.ite_none_right_eq_some, Option.some.injEq] at hstep
      obtain ⟨-, rfl⟩ := hstep
      exact unblockProcessCallbackLocked_inv hinv t allDevices
  | exceptionConnect u dp | exceptionDisconnect u dp | autoConnect u yesNo dp =>
      simp only [hpc, Option.some.injEq] at hstep
      subst hstep
      exact (hinv.modDp dp _).goto t trivial rfl
  | enable u yesNo dp =>
      simp only [hpc, Option.ite_none_right_eq_some] at hstep
      obtain ⟨-, hstep⟩ := hstep
      split at hstep
      · cases hstep
        exact hinv.goto t trivial rfl
      · cases hstep
        exact (hinv.modDp dp _).goto t trivial rfl

theorem timerStep_inv (hinv : QueueInv config s) (hstep : timerStep s = some s') :
    QueueInv config s' := by
  have hok := hinv.timer
  unfold timerStep at hstep
  cases hpc : s.timerThread with
  | idle => simp [hpc] at hstep
  | crashed => simp [hpc] at hstep
  | fired u p =>
      simp only [hpc, Option.ite_none_right_eq_some, Option.some.injEq] at hstep
      obtain ⟨hlock, rfl⟩ := hstep
      have hport : (s.userPvt u).pport = some p := by simpa [hpc, TimerOk] using hok
      unfold queueTimeoutLocked
      split
      · exact hinv.setTimerThread trivial
      · next hqueued =>
        obtain ⟨i, hlocate, hmem⟩ := locateQueue_of_queued hinv hport (by simpa using hqueued)
        have hdequeued := hinv.dequeue_stateChanged hmem hlock
        rw [hlocate]
        simp only
        split
        · exact (hdequeued.modUser u _ rfl rfl rfl Or.inl).setTimerThread trivial
        · exact hdequeued.setTimerThread trivial
  | running u p =>
      simp only [hpc, Option.some.injEq] at hstep
      subst hstep
      exact hinv.setTimerThread trivial
  | returned u p =>
      simp only [hpc, Option.ite_none_right_eq_some, Option.some.injEq] at hstep
      obtain ⟨-, rfl⟩ := hstep
      exact hinv.finishCallback.setTimerThread trivial
  | signal u p =>
      simp only [hpc, Option.some.injEq] at hstep
      subst hstep
      exact (hinv.modPort p (fun q => { q with notifyPortThread := true }) (fun _ => rfl)
        (fun _ => id)).setTimerThread trivial

theorem scanLists_ok {p : PortId} {q : Port} (hq : (s.port p).queueList = q.queueList)
    (flag : Bool) {lists : List AsynQueuePriority} (hconnect : .connect ∉ lists) :
    PortOk config s p (scanLists q flag lists) := by
  induction lists with
  | nil => trivial
  | cons i rest ih =>
      simp only [List.mem_cons, not_or] at hconnect
      unfold scanLists
      split
      · next v tail hlist =>
        refine ⟨fun h => hconnect.1 h.symm, ?_⟩
        rw [hq, hlist]
        exact List.mem_cons_self
      · split
        · trivial
        · exact ih hconnect.2

theorem scanNext_ok {p : PortId} {i : AsynQueuePriority} (hi : i ≠ .connect) (u : UserId)
    (flag : Bool) : PortOk config s p (scanNext (s.port p) i u flag) := by
  unfold scanNext
  split
  · next v hnext => exact ⟨hi, mem_of_nextAfter hnext⟩
  · split
    · trivial
    · exact scanLists_ok rfl flag (by cases i <;> simp [lowerPriorities])

/-- `portThread` after `autoConnectDevice`. -/
theorem portResume_inv {p : PortId} {k : AutoConnectCont} {r : State × AutoConnectResult}
    (hinv : QueueInv config r.1) (hattempt : ∀ tried, PortOk config r.1 p (.attempt k tried)) :
    QueueInv config (portResume p k r) := by
  obtain ⟨s', tried | connected⟩ := r
  · exact hinv.setPortThread p (hattempt tried)
  · unfold portResume
    cases k with
    | connectLoop =>
        cases connected
        · exact hinv.setPortThread p trivial
        · exact hinv.setPortThread p trivial
    | entry i u dp flag =>
        obtain ⟨hi, hok⟩ := hattempt dp
        simp only
        split
        · exact hinv.setPortThread p trivial
        · next hchange =>
          rcases hok with hset | hentry
          · exact absurd hset hchange
          · exact hinv.setPortThread p ⟨hi, hentry⟩

theorem State.cancelTimer_inv {u : UserId} {timeout : Int} (hinv : QueueInv config s)
    (hcancel : s.cancelTimer u timeout = some s') : QueueInv config s' := by
  unfold State.cancelTimer at hcancel
  split at hcancel
  · cases hcancel
    exact hinv
  · split at hcancel
    · cases hcancel
    · cases hcancel
      exact hinv.modUser u _ rfl rfl rfl Or.inl

theorem portFinish_inv (hinv : QueueInv config s) (p : PortId) (u : UserId) (dp : DpRef) :
    QueueInv config (portFinish s p u dp) := by
  have hport : QueueInv config (if 0 < (s.userPvt u).blockPortCount then
      s.modPort p fun q => { q with pblockProcessHolder := some u } else s) := by
    split
    · exact hinv.modPort p (fun q => { q with pblockProcessHolder := some u }) (fun _ => rfl)
        (fun _ => id)
    · exact hinv
  have hpc : ∀ s', PortOk config s' p
      (if (s.port p).queueStateChange then .waiting else .scanTop) := by
    intro s'
    split <;> trivial
  unfold portFinish
  simp only
  refine QueueInv.setPortThread (QueueInv.finishCallback ?_) p (hpc _)
  split
  · exact hport.modDp dp _
  · exact hport

theorem QueueInv.clearStateChange (hinv : QueueInv config s) {p : PortId}
    (hpc : s.portThread p = .scanTop) :
    QueueInv config (s.modPort p fun q => { q with queueStateChange := false }) := by
  have hlist : ∀ p', ((s.modPort p fun q => { q with queueStateChange := false }).port
      p').queueList = (s.port p').queueList := by
    intro p'
    by_cases hp : p' = p
    · subst hp
      simp
    · simp [hp]
  exact {
    node := { hinv.node with
      nodup := fun p' => by rw [hlist]; exact hinv.node.nodup p'
      mem_iff := fun p' u => by rw [hlist]; exact hinv.node.mem_iff p' u }
    client := fun t => (hinv.client t).congr (fun _ _ => rfl) (fun _ _ => rfl) (fun _ _ => rfl)
    frees_unique := hinv.frees_unique
    timer := hinv.timer.congr fun _ => rfl
    port := by
      intro p'
      by_cases hp : p' = p
      · subst hp
        show PortOk config _ p' (s.portThread p')
        rw [hpc]
        trivial
      · exact (hinv.port p').congr (hlist p') (by simp [hp]) fun _ _ _ => rfl
    noLogicError := hinv.noLogicError }

theorem portThreadStep_inv (hinv : QueueInv config s) {p : PortId}
    (hstep : portThreadStep config s p = some s') : QueueInv config s' := by
  have hok := hinv.port p
  unfold portThreadStep at hstep
  split at hstep
  · cases hstep
  cases hpc : s.portThread p with
  | waiting =>
      simp only [hpc, Option.ite_none_right_eq_some, Option.some.injEq] at hstep
      obtain ⟨-, rfl⟩ := hstep
      exact (hinv.modPort p (fun q => { q with notifyPortThread := false }) (fun _ => rfl)
        (fun _ => id)).setPortThread p trivial
  | woken =>
      simp only [hpc, Option.some.injEq] at hstep
      subst hstep
      exact hinv.setPortThread p (by split <;> trivial)
  | connectLoop =>
      simp only [hpc] at hstep
      split at hstep
      · next u rest hlist =>
        cases hstep
        exact hinv.startService (by rw [hlist]; exact List.mem_cons_self) fun _ => trivial
      · split at hstep
        · cases hstep
          exact hinv.setPortThread p trivial
        · cases hstep
          exact portResume_inv ((autoConnectDevice_frame s _).queueInv hinv) fun _ => trivial
  | connectDispatch u timeout | dispatch u dp flag timeout =>
      simp only [hpc, Option.map_eq_some_iff] at hstep
      obtain ⟨s₁, hcancel, rfl⟩ := hstep
      exact (State.cancelTimer_inv hinv hcancel).setPortThread p trivial
  | connectRunning u | running u dp flag =>
      simp only [hpc, Option.some.injEq] at hstep
      subst hstep
      exact hinv.setPortThread p trivial
  | connectReturned u =>
      simp only [hpc, Option.some.injEq] at hstep
      subst hstep
      exact hinv.finishCallback.setPortThread p trivial
  | attempt k tried =>
      simp only [hpc, Option.some.injEq] at hstep
      subst hstep
      have hframe := autoConnectResume_frame s (k.dpRef p) tried
      have hinv' := hframe.queueInv hinv
      rw [hpc] at hok
      refine portResume_inv hinv' fun tried' => ?_
      cases k with
      | connectLoop => trivial
      | entry i u dp flag =>
          simpa only [PortOk, hframe.port, hframe.userPvt] using hok
  | scanTop =>
      simp only [hpc, Option.some.injEq] at hstep
      subst hstep
      -- the flag is cleared by the thread that holds the lock, so it stands at no entry
      exact (hinv.clearStateChange (by rw [hpc])).setPortThread p
        (scanLists_ok rfl false (by simp))
  | visit i u flag =>
      rw [hpc] at hok
      obtain ⟨hi, hmem⟩ := hok
      simp only [hpc] at hstep
      split at hstep
      · cases hstep
      · next dp hfind =>
        split at hstep
        · cases hstep
          exact hinv.setPortThread p (scanNext_ok hi u flag)
        · split at hstep
          · cases hstep
            have hframe := autoConnectDevice_frame s dp
            refine portResume_inv (hframe.queueInv hinv) fun tried => ⟨hi, Or.inr ?_⟩
            rw [hframe.port, hframe.userPvt]
            exact ⟨hmem, hfind⟩
          · cases hstep
            exact hinv.setPortThread p ⟨hi, hmem, hfind⟩
  | tested i u dp flag =>
      rw [hpc] at hok
      obtain ⟨hi, hmem, hfind⟩ := hok
      simp only [hpc, Option.some.injEq] at hstep
      subst hstep
      unfold portTest
      simp only
      split
      · exact hinv.startService hmem fun _ => trivial
      · exact hinv.setPortThread p (scanNext_ok hi u _)
  | returned u dp =>
      simp only [hpc, Option.some.injEq] at hstep
      subst hstep
      exact portFinish_inv hinv p u dp

theorem step_inv (hinv : QueueInv config s) {a : Action} (hguard : Undisturbed s a)
    (hstep : step config s a = some s') : QueueInv config s' := by
  cases a with
  | call t c =>
      simp only [step, Option.ite_none_right_eq_some, Option.some.injEq] at hstep
      obtain ⟨hallowed, rfl⟩ := hstep
      exact startCall_inv hinv hallowed hguard
  | client t => exact clientStep_inv hinv hguard hstep
  | timerExpire u =>
      simp only [step, timerExpire, Option.ite_none_right_eq_some, Option.some.injEq] at hstep
      obtain ⟨-, rfl⟩ := hstep
      refine (hinv.modUser u _ rfl rfl rfl Or.inl).setTimerThread ?_
      split
      · trivial
      · next p hport => simpa [TimerOk] using hport
  | timerThread => exact timerStep_inv hinv hstep
  | portThread p => exact portThreadStep_inv hinv hstep
  | tick =>
      simp only [step, Option.some.injEq] at hstep
      subst hstep
      exact hinv.congr (SameNodes.of_fields rfl rfl rfl rfl rfl rfl) rfl rfl rfl
  | setReason u b | setExceptionUser u b =>
      simp only [step, Option.ite_none_right_eq_some, Option.some.injEq] at hstep
      obtain ⟨-, rfl⟩ := hstep
      exact hinv.modUser u _ rfl rfl rfl Or.inl

end Steps

theorem QueueInv.initial (now : Nat) : QueueInv config (State.initial config now) where
  node := {
    nodup := by simp [State.initial, Port.registered, allQueued]
    mem_iff := by simp [State.initial, Port.registered, UserPvt.zero, allQueued]
    queued_port := by simp [State.initial, UserPvt.zero]
    retired_port := by simp [State.initial, UserPvt.zero]
    free_nodup := by simp [State.initial]
    free_phase := by simp [State.initial]
    deferred_phase := by simp [State.initial, UserPvt.zero]
    fresh_phase := by simp [State.initial] }
  client := fun _ => trivial
  frees_unique := by simp [State.initial, ClientPc.frees]
  timer := trivial
  port := fun _ => trivial
  noLogicError := rfl

/-- In every run whose steps are undisturbed, every node is where its `userPvt` says. -/
theorem QueueInv.reachable {s : State} (hreach : (machine config).Reachable Undisturbed s) :
    QueueInv config s := by
  refine hreach.invariant ?_ fun _ _ _ hguard hinv hstep => step_inv hinv hguard hstep
  rintro s ⟨now, rfl⟩
  exact QueueInv.initial now

/-! ## What the flag `isQueued` means -/

/-- The node of `u` is on one of the four queues of the port it is connected to, once, and on no
other queue of any port. -/
def OnOneQueue (s : State) (u : UserId) : Prop :=
  ∃ p i, (s.userPvt u).pport = some p ∧ ((s.port p).queueList i).count u = 1 ∧
    ∀ q j, u ∈ (s.port q).queueList j → q = p ∧ j = i

/-- `isQueued` says whether the node is on a queue, free `asynUser`s are on none, and no
`LOGIC ERROR` has been printed. -/
structure NodesConsistent (s : State) : Prop where
  isQueued_iff : ∀ u, (s.userPvt u).isQueued = true ↔ OnOneQueue s u
  free_not_queued : ∀ u ∈ s.asynUserFreeList, ∀ p i, u ∉ (s.port p).queueList i
  noLogicError : s.logicError = false

theorem NodeInv.onOneQueue {s : State} (hnode : NodeInv s) {u : UserId}
    (hqueued : (s.userPvt u).isQueued = true) : OnOneQueue s u := by
  obtain ⟨p, hport⟩ := hnode.queued_port u hqueued
  obtain ⟨i, hmem⟩ := mem_allQueued.mp ((hnode.mem_iff p u).mpr ⟨hqueued, hport⟩)
  refine ⟨p, i, hport, List.count_eq_one_of_mem (queueList_nodup (hnode.nodup p) i) hmem, ?_⟩
  intro q j hother
  have hq : q = p := by
    have hportq := (hnode.queued_of_mem hother).2
    rw [hport] at hportq
    exact (Option.some.inj hportq).symm
  subst hq
  exact ⟨rfl, allQueued_unique (hnode.nodup q) hother hmem⟩

/-- While no `pport` changes under a copy of it, the queues and the flags agree in every reachable
state. -/
theorem nodesConsistent_of_undisturbed {s : State}
    (hreach : (machine config).Reachable Undisturbed s) : NodesConsistent s := by
  have hinv := QueueInv.reachable hreach
  refine ⟨fun u => ⟨hinv.node.onOneQueue, ?_⟩, ?_, hinv.noLogicError⟩
  · rintro ⟨p, i, -, hcount, -⟩
    have hmem : u ∈ (s.port p).queueList i := List.count_pos_iff.mp (by rw [hcount]; exact Nat.one_pos)
    exact (hinv.node.queued_of_mem hmem).1
  · intro u hfree p i hmem
    have hretired : (s.phase u).alive = false := by
      simp [hinv.node.free_phase u hfree, Phase.alive]
    have hidle := hinv.node.not_queued_of_retired hretired
    simp [(hinv.node.queued_of_mem hmem).1] at hidle

/-- One port that can block, without devices. -/
def simplePort : PortConfig where
  multiDevice := false
  canBlock := true
  autoConnect := false

/-- A client queues a Connect request with a timeout on port 0.  The port thread has taken it off
the queue when its timer expires; before `queueTimeoutCallback` gets the lock of port 0 the client
disconnects and queues the `asynUser` on port 1. -/
def staleTimeoutRun : List Action :=
  [.call 0 (.createAsynUser true true), .client 0,
    .call 0 (.connectDevice 0 0 0), .client 0, .client 0,
    .call 0 (.queueRequest 0 .connect 1), .client 0, .client 0, .client 0,
    .portThread 0, .portThread 0, .portThread 0,
    .timerExpire 0,
    .call 0 (.disconnect 0), .client 0, .client 0,
    .call 0 (.connectDevice 0 1 0), .client 0, .client 0,
    .call 0 (.queueRequest 0 .connect 1), .client 0,
    .timerThread]

/-- Without the guard `queueTimeoutCallback` prints `LOGIC ERROR`. -/
theorem not_nodesConsistent_stale_timeout :
    ¬ ∀ (config : PortId → PortConfig) (s : State),
      (machine config).Reachable Machine.Unguarded s → NodesConsistent s := by
  intro hclaim
  obtain ⟨s, hreach, hlogic⟩ := Machine.exists_reachable_of_exec
    (M := machine fun _ => simplePort) (b := true) State.logicError staleTimeoutRun ⟨0, rfl⟩
    (by decide +kernel)
  have hconsistent := hclaim _ s hreach
  simp [hconsistent.noLogicError] at hlogic

/-- `Undisturbed`, as a test that refuses every `disconnect`. -/
def undisturbedCheck (s : State) : Action → Bool
  | .call _ (.freeAsynUser _) => false
  | .client t =>
      match s.client t with
      | .connectDevice u _ _ => decide ((s.userPvt u).pport = none)
      | .disconnect _ _ => false
      | .freeDisconnect _ _ => false
      | _ => true
  | _ => true

theorem undisturbed_of_check (s : State) (a : Action) (hcheck : undisturbedCheck s a = true) :
    Undisturbed s a := by
  unfold undisturbedCheck at hcheck
  unfold Undisturbed
  split at hcheck
  · cases hcheck
  · next t =>
    split at hcheck
    · next hpc => simpa [hpc] using hcheck
    · cases hcheck
    · cases hcheck
    · trivial
  · trivial

theorem nodesConsistent_queued_request : ∃ s : State,
    s.asynUserFreeList = [] ∧ (s.port 0).queueList .connect = [0] ∧ NodesConsistent s := by
  obtain ⟨s, hreach, hvalue⟩ := Machine.exists_reachable_of_execGuarded
    (M := machine fun _ => simplePort) (b := ([], [0]))
    (fun s => (s.asynUserFreeList, (s.port 0).queueList .connect)) undisturbed_of_check
    (staleTimeoutRun.take 7) ⟨0, rfl⟩ (by decide +kernel)
  exact ⟨s, congrArg Prod.fst hvalue, congrArg Prod.snd hvalue, nodesConsistent_of_undisturbed hreach⟩

end Queue
end Manager
end AsynDriver
