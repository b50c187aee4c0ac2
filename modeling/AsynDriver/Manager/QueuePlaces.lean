import AsynDriver.Manager.QueueSteps

/-!
# Where an `asynUser` is connected and what is held

An `asynUser` moves only when `connectDevice` or `disconnect` writes its `pport` and `pdevice`, and
never while it is queued.  A holder pointer is written at the end of a callback and cleared by
`unblockProcessCallback`, and by nothing else.

* `BlockFrame` — a change that touches none of this; most writes of the methods are of that kind.
* `BlockStep` — the writes that do, one constructor each.
* `PlaceInv` — the devices that `asynUser`s are connected to exist, and a port thread serves requests
  for its own port only.
* `HolderStep` — what a step does to the holder pointers.
-/

namespace AsynDriver
namespace Manager
namespace Queue

open Library
open Library.LinkedList

variable {config : PortId → PortConfig} {s s' : State}

/-! ## Frames -/

/-- The request of the High, Medium or Low queue that the port thread serves, with the `dpCommon`
that it computed for it. -/
def PortPc.inService : PortPc → Option (UserId × DpRef)
  | .dispatch u dp _ _ => some (u, dp)
  | .running u dp _ => some (u, dp)
  | .returned u dp => some (u, dp)
  | _ => none

theorem PortPc.inService_of_serves {pc : PortPc} (hserves : pc.serves = none) :
    pc.inService = none := by
  cases pc <;> first | rfl | simp [PortPc.serves] at hserves

theorem unblocked_iff {p : PortId} {dp : DpRef} {u : UserId} :
    unblocked s p dp u = true ↔
      ((s.port p).pblockProcessHolder = none ∨ (s.port p).pblockProcessHolder = some u) ∧
        ((s.dpCommon dp).pblockProcessHolder = none ∨
          (s.dpCommon dp).pblockProcessHolder = some u) := by
  simp [unblocked]

/-- What one holder in the way of a request means. -/
theorem eq_of_unblocked_port {p : PortId} {dp : DpRef} {u v : UserId}
    (hunblocked : unblocked s p dp v = true) (hholder : (s.port p).pblockProcessHolder = some u) :
    v = u := by
  rcases (unblocked_iff.mp hunblocked).1 with h | h
  · simp [hholder] at h
  · rw [hholder] at h
    exact (Option.some.inj h).symm

theorem eq_of_unblocked_device {p : PortId} {dp : DpRef} {u v : UserId}
    (hunblocked : unblocked s p dp v = true)
    (hholder : (s.dpCommon dp).pblockProcessHolder = some u) : v = u := by
  rcases (unblocked_iff.mp hunblocked).2 with h | h
  · simp [hholder] at h
  · rw [hholder] at h
    exact (Option.some.inj h).symm

/-- The fields of a `userPvt` that blocking reads. -/
structure SameBlocking (v w : UserPvt) : Prop where
  pport : w.pport = v.pport
  pdevice : w.pdevice = v.pdevice
  blockPortCount : w.blockPortCount = v.blockPortCount
  blockDeviceCount : w.blockDeviceCount = v.blockDeviceCount

theorem SameBlocking.refl (v : UserPvt) : SameBlocking v v :=
  ⟨rfl, rfl, rfl, rfl⟩

theorem SameBlocking.of_eq {v w : UserPvt} (heq : w = v) : SameBlocking v w := by
  subst heq
  exact .refl w

theorem SameBlocking.trans {v w x : UserPvt} (hfirst : SameBlocking v w)
    (hsecond : SameBlocking w x) : SameBlocking v x :=
  ⟨hsecond.pport.trans hfirst.pport, hsecond.pdevice.trans hfirst.pdevice,
    hsecond.blockPortCount.trans hfirst.blockPortCount,
    hsecond.blockDeviceCount.trans hfirst.blockDeviceCount⟩

theorem SameBlocking.findDpCommon {v w : UserPvt} (hsame : SameBlocking v w) :
    findDpCommon config w = findDpCommon config v :=
  findDpCommon_congr hsame.pport hsame.pdevice

/-- The shared state is the same for blocking. -/
structure BlockFrame (s s₁ : State) : Prop where
  user : ∀ u, SameBlocking (s.userPvt u) (s₁.userPvt u)
  deviceList : ∀ p, (s₁.port p).deviceList = (s.port p).deviceList
  portHolder : ∀ p, (s₁.port p).pblockProcessHolder = (s.port p).pblockProcessHolder
  dpHolder : ∀ dp, (s₁.dpCommon dp).pblockProcessHolder = (s.dpCommon dp).pblockProcessHolder

theorem BlockFrame.of_fields {s₁ : State} (huser : s₁.userPvt = s.userPvt)
    (hport : s₁.port = s.port) (hdp : s₁.dpCommon = s.dpCommon) : BlockFrame s s₁ :=
  ⟨fun _ => .of_eq (by rw [huser]), fun _ => by rw [hport], fun _ => by rw [hport],
    fun _ => by rw [hdp]⟩

theorem BlockFrame.refl (s : State) : BlockFrame s s :=
  .of_fields rfl rfl rfl

theorem BlockFrame.trans {s₁ s₂ : State} (hfirst : BlockFrame s s₁) (hsecond : BlockFrame s₁ s₂) :
    BlockFrame s s₂ where
  user u := (hfirst.user u).trans (hsecond.user u)
  deviceList p := (hsecond.deviceList p).trans (hfirst.deviceList p)
  portHolder p := (hsecond.portHolder p).trans (hfirst.portHolder p)
  dpHolder dp := (hsecond.dpHolder dp).trans (hfirst.dpHolder dp)

theorem QuietFrame.blocking {s₁ : State} (hframe : QuietFrame s s₁) : BlockFrame s s₁ :=
  ⟨fun u => .of_eq (by rw [hframe.userPvt]), hframe.deviceList, hframe.portHolder,
    hframe.dpHolder⟩

theorem BlockFrame.modUser (s : State) (u : UserId) (f : UserPvt → UserPvt)
    (hsame : SameBlocking (s.userPvt u) (f (s.userPvt u))) : BlockFrame s (s.modUser u f) := by
  refine ⟨fun v => ?_, fun _ => rfl, fun _ => rfl, fun _ => rfl⟩
  by_cases hv : v = u
  · subst hv
    simpa using hsame
  · exact .of_eq (by simp [hv])

theorem BlockFrame.setQueue (s : State) (p : PortId) (i : AsynQueuePriority) (l : List UserId) :
    BlockFrame s (s.setQueue p i l) := by
  refine ⟨fun _ => .refl _, fun q => ?_, fun q => ?_, fun _ => rfl⟩
  · by_cases hq : q = p
    · subst hq
      simp [State.setQueue]
    · simp [State.setQueue, hq]
  · by_cases hq : q = p
    · subst hq
      simp [State.setQueue]
    · simp [State.setQueue, hq]

theorem BlockFrame.dequeue (s : State) (p : PortId) (i : AsynQueuePriority) (u : UserId) :
    BlockFrame s (s.dequeue p i u) :=
  (BlockFrame.setQueue s p i _).trans (.modUser _ u _ ⟨rfl, rfl, rfl, rfl⟩)

theorem BlockFrame.dequeue_stateChanged (s : State) (p : PortId) (i : AsynQueuePriority)
    (u : UserId) : BlockFrame s ((s.dequeue p i u).stateChanged p) :=
  (BlockFrame.dequeue s p i u).trans (QuietFrame.stateChanged _ p).blocking

theorem BlockFrame.startService (s : State) (p : PortId) (i : AsynQueuePriority) (u : UserId) :
    BlockFrame s (s.startService p i u) :=
  (BlockFrame.dequeue s p i u).trans (.modUser _ u _ ⟨rfl, rfl, rfl, rfl⟩)

theorem BlockFrame.clearStateChange (s : State) (p : PortId) :
    BlockFrame s (s.modPort p fun q => { q with queueStateChange := false }) := by
  refine ⟨fun _ => .refl _, fun q => ?_, fun q => ?_, fun _ => rfl⟩
  · by_cases hq : q = p
    · subst hq
      simp
    · simp [hq]
  · by_cases hq : q = p
    · subst hq
      simp
    · simp [hq]

theorem BlockFrame.enable (s : State) (dp : DpRef) (yesNo : Bool) :
    BlockFrame s (s.modDp dp fun d => { d with enabled := yesNo }) := by
  refine ⟨fun _ => .refl _, fun _ => rfl, fun _ => rfl, fun dp' => ?_⟩
  by_cases hdp : dp' = dp
  · subst hdp
    simp
  · simp [hdp]

theorem BlockFrame.cancelTimer {s₁ : State} {u : UserId} {timeout : Int}
    (hcancel : s.cancelTimer u timeout = some s₁) :
    BlockFrame s s₁ ∧ s₁.client = s.client ∧ s₁.portThread = s.portThread := by
  rcases State.cancelTimer_cases hcancel with rfl | rfl
  · exact ⟨.refl _, rfl, rfl⟩
  · exact ⟨.modUser s u _ ⟨rfl, rfl, rfl, rfl⟩, rfl, rfl⟩

theorem BlockFrame.enqueue (s : State) (p : PortId) (i : AsynQueuePriority) (u : UserId)
    (front : Bool) (timeout : Int) : BlockFrame s (s.enqueue p i u front timeout) :=
  ((BlockFrame.setQueue s p i _).trans (QuietFrame.stateChanged _ p).blocking).trans
    (BlockFrame.modUser _ u (fun v =>
      { v with
        isQueued := true
        timeout := if timeout ≤ 0 then 0 else timeout
        timer := if timeout ≤ 0 then v.timer else true }) ⟨rfl, rfl, rfl, rfl⟩)

theorem BlockFrame.finishCallback (s : State) (u : UserId) :
    BlockFrame s (s.finishCallback u) := by
  refine ⟨fun v => ?_, fun q => ?_, fun q => ?_, fun dp => ?_⟩
  · by_cases hv : v = u
    · subst hv
      rw [finishCallback_userPvt_self]
      exact ⟨rfl, rfl, rfl, rfl⟩
    · exact .of_eq (finishCallback_userPvt_of_ne s hv)
  · rw [finishCallback_port]
  · rw [finishCallback_port]
  · rw [finishCallback_dpCommon]

/-! ## Counts and holders -/

theorem blockCountIncrement_pointers (allDevices : Bool) (v : UserPvt) :
    (blockCountIncrement allDevices v).pport = v.pport ∧
      (blockCountIncrement allDevices v).pdevice = v.pdevice := by
  cases allDevices <;> exact ⟨rfl, rfl⟩

theorem blockCountDecrement_pointers (allDevices : Bool) (v : UserPvt) :
    (blockCountDecrement allDevices v).pport = v.pport ∧
      (blockCountDecrement allDevices v).pdevice = v.pdevice := by
  cases allDevices <;> exact ⟨rfl, rfl⟩

theorem portFinish_port (s : State) (p : PortId) (u : UserId) (dp : DpRef) (q : PortId) :
    (portFinish s p u dp).port q =
      { s.port q with pblockProcessHolder :=
          if q = p ∧ 0 < (s.userPvt u).blockPortCount then some u
          else (s.port q).pblockProcessHolder } := by
  obtain ⟨pc, heq, -⟩ := portFinish_eq s p u dp
  rw [heq, State.setPortThread_port, finishCallback_port, holdersSet_port]

theorem portFinish_dpCommon (s : State) (p : PortId) (u : UserId) (dp dp' : DpRef) :
    (portFinish s p u dp).dpCommon dp' =
      { s.dpCommon dp' with pblockProcessHolder :=
          if dp' = dp ∧ 0 < (s.userPvt u).blockDeviceCount then some u
          else (s.dpCommon dp').pblockProcessHolder } := by
  obtain ⟨pc, heq, -⟩ := portFinish_eq s p u dp
  rw [heq, State.setPortThread_dpCommon, finishCallback_dpCommon, holdersSet_dpCommon]

theorem portFinish_sameBlocking (s : State) (p : PortId) (u : UserId) (dp : DpRef) (v : UserId) :
    SameBlocking (s.userPvt v) ((portFinish s p u dp).userPvt v) := by
  obtain ⟨pc, heq, -⟩ := portFinish_eq s p u dp
  have hframe := (BlockFrame.finishCallback (holdersSet s p u dp) u).user v
  rw [holdersSet_userPvt] at hframe
  rw [heq]
  exact hframe

/-! ## Steps that connect, count, hold or release -/

/-- What a step does to what `asynUser`s are connected to, to the counts and to the holders: nothing,
or one of the writes of `connectDevice`, `disconnect`, `blockProcessCallback`,
`unblockProcessCallback` and `portThread`. -/
inductive BlockStep (config : PortId → PortConfig) (s : State) (a : Action) (s' : State) : Prop
  | same (hframe : BlockFrame s s')
  | connect (u : UserId) (p : PortId) (pdevice : Option Nat) (hnone : (s.userPvt u).pport = none)
      (hdevice : pdevice = none ∨ pdevice = (s.userPvt u).pdevice ∨
        ∃ a ∈ (s.port p).deviceList, pdevice = some a)
      (huser : s'.userPvt = Function.update s.userPvt u
        { s.userPvt u with pport := some p, pdevice := pdevice })
      (hport : s'.port = s.port) (hdp : s'.dpCommon = s.dpCommon)
  | connectNew (u : UserId) (p : PortId) (addr : Nat) (hnone : (s.userPvt u).pport = none)
      (hnew : addr ∉ (s.port p).deviceList)
      (huser : s'.userPvt = Function.update s.userPvt u
        { s.userPvt u with pport := some p, pdevice := some addr })
      (hport : s'.port = Function.update s.port p
        { s.port p with deviceList := (s.port p).deviceList ++ [addr] })
      (hdp : s'.dpCommon = Function.update s.dpCommon (.device p addr)
        (dpCommonInit (s.dpCommon (.port p)).autoConnect))
  | disconnect (u : UserId) (hrefused : disconnectRefused (s.userPvt u) = false)
      (huser : s'.userPvt = Function.update s.userPvt u
        { s.userPvt u with pport := none, pdevice := none })
      (hport : s'.port = s.port) (hdp : s'.dpCommon = s.dpCommon)
  | count (u : UserId) (v : UserPvt)
      (hpointers : v.pport = (s.userPvt u).pport ∧ v.pdevice = (s.userPvt u).pdevice)
      (huser : s'.userPvt = Function.update s.userPvt u v)
      (hport : s'.port = s.port) (hdp : s'.dpCommon = s.dpCommon)
  | releasePort (t : ThreadId) (u : UserId) (p : PortId) (ha : a = .client t)
      (hpc : s.client t = .unblockProcessCallback u true p)
      (hqueued : (s.userPvt u).isQueued = false)
      (hlast : (s.userPvt u).blockPortCount - 1 = 0)
      (hholder : (s.port p).pblockProcessHolder = some u)
      (huser : s'.userPvt = Function.update s.userPvt u (blockCountDecrement true (s.userPvt u)))
      (hport : s'.port = Function.update s.port p { s.port p with pblockProcessHolder := none })
      (hdp : s'.dpCommon = s.dpCommon)
  | releaseDevice (t : ThreadId) (u : UserId) (p : PortId) (dp : DpRef) (ha : a = .client t)
      (hpc : s.client t = .unblockProcessCallback u false p)
      (hqueued : (s.userPvt u).isQueued = false)
      (hlast : (s.userPvt u).blockDeviceCount - 1 = 0)
      (hfind : dp = (findDpCommon config (s.userPvt u)).getD (.port p))
      (hholder : (s.dpCommon dp).pblockProcessHolder = some u)
      (huser : s'.userPvt = Function.update s.userPvt u (blockCountDecrement false (s.userPvt u)))
      (hport : s'.port = s.port)
      (hdp : s'.dpCommon = Function.update s.dpCommon dp
        { s.dpCommon dp with pblockProcessHolder := none })
  | finish (p : PortId) (u : UserId) (dp : DpRef) (ha : a = .portThread p)
      (hpc : s.portThread p = .returned u dp) (heq : s' = portFinish s p u dp)

theorem BlockFrame.step {s₁ : State} {a : Action} (hframe : BlockFrame s s₁)
    (huser : s'.userPvt = s₁.userPvt) (hport : s'.port = s₁.port)
    (hdp : s'.dpCommon = s₁.dpCommon) : BlockStep config s a s' :=
  .same (hframe.trans (.of_fields huser hport hdp))

/-- A write to fields that have to do with other things. -/
theorem BlockStep.write {a : Action} (u : UserId) (w : UserPvt)
    (huser : s'.userPvt = Function.update s.userPvt u w) (hport : s'.port = s.port)
    (hdp : s'.dpCommon = s.dpCommon) (hsame : SameBlocking (s.userPvt u) w) :
    BlockStep config s a s' :=
  (BlockFrame.modUser s u (fun _ => w) hsame).step huser hport hdp

theorem ClientStep.blockStep {t : ThreadId} (hstep : ClientStep config s t s')
    (hguard : Undisturbed s (.client t)) : BlockStep config s (.client t) s' := by
  cases hstep with
  | quiet s₁ pc hframe hmove => exact hframe.blocking.step rfl rfl rfl
  | syncStart s₁ u priority timeout hstarts hframe => exact hframe.blocking.step rfl rfl rfl
  | enable u yesNo dp hpc hlock => exact (BlockFrame.enable s dp yesNo).step rfl rfl rfl
  | connect u p addr pdevice hpc hdevice =>
      have hnone : (s.userPvt u).pport = none := by simpa [Undisturbed, hpc] using hguard
      exact .connect u p pdevice hnone hdevice rfl rfl rfl
  | connectNew u p addr a hpc hnew =>
      have hnone : (s.userPvt u).pport = none := by simpa [Undisturbed, hpc] using hguard
      exact .connectNew u p a hnone hnew rfl rfl rfl
  | disconnect u p hpc hrefused => exact .disconnect u hrefused rfl rfl rfl
  | freeDisconnect u p hpc hrefused => exact .disconnect u hrefused rfl rfl rfl
  | freeRefused u p hpc | freeList u hpc hidle => exact (BlockFrame.refl s).step rfl rfl rfl
  | freeLater u hpc hbusy =>
      exact .write u _ rfl rfl rfl ⟨rfl, rfl, rfl, rfl⟩
  | enqueue u priority timeout p dp check hpc hlock hblock hrefused hqueued htimeout =>
      exact (BlockFrame.enqueue s p priority u _ timeout).step rfl rfl rfl
  | cancelActive u p hpc hqueued hactive =>
      exact .write u _ rfl rfl rfl ⟨rfl, rfl, rfl, rfl⟩
  | cancelIdle u p hpc hqueued hactive => exact (BlockFrame.refl s).step rfl rfl rfl
  | cancelQueued u p i hpc hlock hmem =>
      exact (BlockFrame.dequeue_stateChanged s p i u).step rfl rfl rfl
  | cancelDone u hpc hdone =>
      exact .write u _ rfl rfl rfl ⟨rfl, rfl, rfl, rfl⟩
  | cancelTimer u p timeout hpc =>
      exact .write u _ rfl rfl rfl ⟨rfl, rfl, rfl, rfl⟩
  | block u allDevices p hpc hqueued =>
      exact .count u _ (blockCountIncrement_pointers allDevices _) rfl rfl rfl
  | unblock u allDevices p hpc hcount hkeep =>
      exact .count u _ (blockCountDecrement_pointers allDevices _) rfl rfl rfl
  | unblockPort u p hpc hqueued hcount hlast hholder =>
      exact .releasePort t u p rfl hpc hqueued hlast hholder rfl rfl rfl
  | unblockDevice u p dp hpc hqueued hcount hlast hdp hholder =>
      exact .releaseDevice t u p dp rfl hpc hqueued hlast hdp hholder rfl rfl rfl

theorem CallStep.blockStep {t : ThreadId} {a : Action} (hstep : CallStep s t s') :
    BlockStep config s a s' := by
  cases hstep with
  | create s₁ u process timeout hframe hphase =>
      have hfields := BlockFrame.modUser s₁ u (fun v =>
        { v with
          processUser := process
          timeoutUser := timeout
          timeout := 0
          state := .callbackIdle
          isQueued := false
          queueEvenIfNotConnected := false }) ⟨rfl, rfl, rfl, rfl⟩
      exact (hframe.blocking.trans hfields).step rfl rfl rfl
  | _ => exact (BlockFrame.refl s).step rfl rfl rfl

theorem TimerStep.blockStep {a : Action} (hstep : TimerStep s s') : BlockStep config s a s' := by
  cases hstep with
  | drop u p i hpc hlock hmem => exact (BlockFrame.dequeue_stateChanged s p i u).step rfl rfl rfl
  | start u p i hpc hlock hmem htimeout =>
      exact ((BlockFrame.dequeue_stateChanged s p i u).trans (.modUser _ u
        (fun v => { v with state := .callbackActive }) ⟨rfl, rfl, rfl, rfl⟩)).step rfl rfl rfl
  | finish u p hpc => exact (BlockFrame.finishCallback s u).step rfl rfl rfl
  | signal u p hpc => exact (QuietFrame.notify s p true).blocking.step rfl rfl rfl
  | stale u p hpc hqueued | returns u p hpc => exact (BlockFrame.refl s).step rfl rfl rfl

theorem PortStep.blockStep {p : PortId} (hstep : PortStep config s p s') :
    BlockStep config s (.portThread p) s' := by
  cases hstep with
  | quiet s₁ pc hframe hold hnew => exact hframe.blocking.step rfl rfl rfl
  | scan pc hpc hnew => exact (BlockFrame.clearStateChange s p).step rfl rfl rfl
  | serveConnect u hpc hhead => exact (BlockFrame.startService s p .connect u).step rfl rfl rfl
  | serve i u dp flag flag' hpc hunblocked hflag =>
      exact (BlockFrame.startService s p i u).step rfl rfl rfl
  | startConnect s₁ u timeout hpc hcancel => exact (BlockFrame.cancelTimer hcancel).1.step rfl rfl rfl
  | start s₁ u dp flag timeout hpc hcancel =>
      exact (BlockFrame.cancelTimer hcancel).1.step rfl rfl rfl
  | finishConnect u hpc => exact (BlockFrame.finishCallback s u).step rfl rfl rfl
  | finish u dp hpc => exact .finish p u dp rfl hpc rfl
  | returnsConnect u hpc | returns u dp flag hpc => exact (BlockFrame.refl s).step rfl rfl rfl

theorem step_blockStep (hqueue : QueueInv config s) {a : Action} (hguard : Undisturbed s a)
    (hstep : step config s a = some s') : BlockStep config s a s' := by
  cases a with
  | call t c =>
      simp only [step, Option.ite_none_right_eq_some, Option.some.injEq] at hstep
      obtain ⟨hallowed, rfl⟩ := hstep
      exact (startCall_cases hqueue hallowed).blockStep
  | client t => exact (clientStep_cases hqueue hstep).blockStep hguard
  | timerExpire u =>
      simp only [step, timerExpire, Option.ite_none_right_eq_some, Option.some.injEq] at hstep
      obtain ⟨-, rfl⟩ := hstep
      exact .write u _ rfl rfl rfl ⟨rfl, rfl, rfl, rfl⟩
  | timerThread => exact (timerStep_cases hqueue hstep).blockStep
  | portThread p => exact (portThreadStep_cases hstep).blockStep
  | tick =>
      simp only [step, Option.some.injEq] at hstep
      subst hstep
      exact (BlockFrame.refl s).step rfl rfl rfl
  | setReason u b | setExceptionUser u b =>
      simp only [step, Option.ite_none_right_eq_some, Option.some.injEq] at hstep
      obtain ⟨-, rfl⟩ := hstep
      exact .write u _ rfl rfl rfl ⟨rfl, rfl, rfl, rfl⟩

/-- A queued `asynUser` stays connected to what it is connected to. -/
theorem BlockStep.findDpCommon_of_queued {a : Action} {u : UserId}
    (hstep : BlockStep config s a s') (hnode : NodeInv s) (hqueued : (s.userPvt u).isQueued = true) :
    findDpCommon config (s'.userPvt u) = findDpCommon config (s.userPvt u) := by
  obtain ⟨p, hport⟩ := hnode.queued_port u hqueued
  -- the user that a step changes is either unchanged here or not queued
  have hother : ∀ v w, (v = u → findDpCommon config w = findDpCommon config (s.userPvt u)) →
      s'.userPvt = Function.update s.userPvt v w →
      findDpCommon config (s'.userPvt u) = findDpCommon config (s.userPvt u) := by
    intro v w hself huser
    rw [huser]
    by_cases hv : v = u
    · subst hv
      simpa using hself rfl
    · simp [Ne.symm hv]
  cases hstep with
  | same hframe => exact (hframe.user u).findDpCommon
  | connect v q pdevice hnone hdevice huser _ _ =>
      refine hother v _ (fun hv => ?_) huser
      subst hv
      simp [hport] at hnone
  | connectNew v q addr hnone hnew huser _ _ =>
      refine hother v _ (fun hv => ?_) huser
      subst hv
      simp [hport] at hnone
  | disconnect v hrefused huser _ _ =>
      refine hother v _ (fun hv => ?_) huser
      subst hv
      simp [disconnectRefused, hqueued] at hrefused
  | count v w hpointers huser _ _ =>
      refine hother v _ (fun hv => ?_) huser
      subst hv
      exact findDpCommon_congr hpointers.1 hpointers.2
  | releasePort t v q _ _ _ _ _ huser _ _ =>
      refine hother v _ (fun hv => ?_) huser
      subst hv
      exact findDpCommon_congr (blockCountDecrement_pointers true _).1
        (blockCountDecrement_pointers true _).2
  | releaseDevice t v q dp _ _ _ _ _ _ huser _ _ =>
      refine hother v _ (fun hv => ?_) huser
      subst hv
      exact findDpCommon_congr (blockCountDecrement_pointers false _).1
        (blockCountDecrement_pointers false _).2
  | finish q v dp _ _ heq =>
      rw [heq]
      exact (portFinish_sameBlocking s q v dp u).findDpCommon

/-! ## Devices exist, and a port thread serves its own port -/

/-- The device of an `asynUser` is on the list of its port, and the `dpCommon` that a port thread
has computed lies in its port. -/
structure PlaceInv (s : State) : Prop where
  located : ∀ u p a, (s.userPvt u).pport = some p → (s.userPvt u).pdevice = some a →
    a ∈ (s.port p).deviceList
  device_none : ∀ u, (s.userPvt u).pport = none → (s.userPvt u).pdevice = none
  service_port : ∀ p u dp, (s.portThread p).inService = some (u, dp) → dp.pport = p

/-- A request comes into service at the second test of its entry. -/
theorem PortStep.inService {p : PortId} (hstep : PortStep config s p s') {x : UserId × DpRef}
    (hservice : (s'.portThread p).inService = some x) :
    (s.portThread p).inService = some x ∨
      ∃ i flag, s.portThread p = .tested i x.1 x.2 flag := by
  have hnone : ∀ {pc : PortPc}, pc.serves = none → pc.inService ≠ some x := by
    intro pc hpc
    rw [PortPc.inService_of_serves hpc]
    exact fun h => by cases h
  cases hstep with
  | quiet s₁ pc hframe hold hnew => exact absurd (by simpa using hservice) (hnone hnew)
  | scan pc hpc hnew => exact absurd (by simpa using hservice) (hnone hnew)
  | serveConnect u hpc hhead => simp [PortPc.inService] at hservice
  | serve i u dp flag flag' hpc hunblocked hflag =>
      obtain rfl : (u, dp) = x := by simpa [PortPc.inService] using hservice
      exact Or.inr ⟨i, flag, hpc⟩
  | startConnect s₁ u timeout hpc hcancel => simp [PortPc.inService] at hservice
  | start s₁ u dp flag timeout hpc hcancel =>
      left
      rw [hpc]
      simpa [PortPc.inService] using hservice
  | returnsConnect u hpc => simp [PortPc.inService] at hservice
  | returns u dp flag hpc =>
      left
      rw [hpc]
      simpa [PortPc.inService] using hservice
  | finishConnect u hpc => simp [PortPc.inService] at hservice
  | finish u dp hpc =>
      obtain ⟨pc, heq, hnew⟩ := portFinish_eq s p u dp
      rw [heq] at hservice
      exact absurd (by simpa using hservice) (hnone hnew)

theorem BlockStep.located {a : Action} (hstep : BlockStep config s a s') (hinv : PlaceInv s) :
    (∀ u p addr, (s'.userPvt u).pport = some p → (s'.userPvt u).pdevice = some addr →
      addr ∈ (s'.port p).deviceList) ∧
    ∀ u, (s'.userPvt u).pport = none → (s'.userPvt u).pdevice = none := by
  -- a user whose pointers are the same keeps its device, as no device list shrinks
  have hkeep : (∀ p addr, addr ∈ (s.port p).deviceList → addr ∈ (s'.port p).deviceList) →
      ∀ u, (s'.userPvt u).pport = (s.userPvt u).pport →
        (s'.userPvt u).pdevice = (s.userPvt u).pdevice →
        (∀ p addr, (s'.userPvt u).pport = some p → (s'.userPvt u).pdevice = some addr →
          addr ∈ (s'.port p).deviceList) ∧
        ((s'.userPvt u).pport = none → (s'.userPvt u).pdevice = none) := by
    intro hlist u hpport hpdevice
    rw [hpport, hpdevice]
    exact ⟨fun p addr hp ha => hlist p addr (hinv.located u p addr hp ha), hinv.device_none u⟩
  suffices h : ∀ u, (∀ p addr, (s'.userPvt u).pport = some p →
      (s'.userPvt u).pdevice = some addr → addr ∈ (s'.port p).deviceList) ∧
      ((s'.userPvt u).pport = none → (s'.userPvt u).pdevice = none) from
    ⟨fun u => (h u).1, fun u => (h u).2⟩
  intro u
  have hsame : ∀ v w, w.pport = (s.userPvt v).pport ∧ w.pdevice = (s.userPvt v).pdevice →
      s'.userPvt = Function.update s.userPvt v w →
      (s'.userPvt u).pport = (s.userPvt u).pport ∧ (s'.userPvt u).pdevice = (s.userPvt u).pdevice := by
    intro v w hpointers huser
    by_cases hv : u = v
    · subst hv
      simpa [huser] using hpointers
    · simp [huser, hv]
  cases hstep with
  | same hframe =>
      refine hkeep (fun p addr h => ?_) u (hframe.user u).pport (hframe.user u).pdevice
      rwa [hframe.deviceList]
  | connect v p pdevice hnone hdevice huser hport _ =>
      by_cases hv : u = v
      · subst hv
        rw [huser, hport]
        simp only [Function.update_self, Option.some.injEq, reduceCtorEq, false_imp_iff, and_true]
        rintro q addr rfl rfl
        rcases hdevice with hnull | hsame | ⟨a', hmem, heq⟩
        · cases hnull
        · rw [hinv.device_none u hnone] at hsame
          cases hsame
        · cases heq
          exact hmem
      · exact hkeep (by simp [hport]) u (by simp [huser, hv]) (by simp [huser, hv])
  | connectNew v p addr hnone hnew huser hport _ =>
      by_cases hv : u = v
      · subst hv
        rw [huser, hport]
        simp only [Function.update_self, Option.some.injEq, reduceCtorEq, false_imp_iff, and_true]
        rintro q a rfl rfl
        simp
      · refine hkeep (fun q a h => ?_) u (by simp [huser, hv]) (by simp [huser, hv])
        rw [hport]
        by_cases hq : q = p
        · subst hq
          simp [h]
        · simpa [hq] using h
  | disconnect v hrefused huser hport _ =>
      by_cases hv : u = v
      · subst hv
        simp [huser]
      · exact hkeep (by simp [hport]) u (by simp [huser, hv]) (by simp [huser, hv])
  | count v w hpointers huser hport _ =>
      obtain ⟨hpport, hpdevice⟩ := hsame v w hpointers huser
      exact hkeep (by simp [hport]) u hpport hpdevice
  | releasePort t v p _ _ _ _ _ huser hport _ =>
      obtain ⟨hpport, hpdevice⟩ := hsame v _ (blockCountDecrement_pointers true _) huser
      refine hkeep (fun q a h => ?_) u hpport hpdevice
      rw [hport]
      by_cases hq : q = p
      · subst hq
        simpa using h
      · simpa [hq] using h
  | releaseDevice t v p dp _ _ _ _ _ _ huser hport _ =>
      obtain ⟨hpport, hpdevice⟩ := hsame v _ (blockCountDecrement_pointers false _) huser
      exact hkeep (by simp [hport]) u hpport hpdevice
  | finish p v dp _ _ heq =>
      subst heq
      refine hkeep (fun q a h => ?_) u (portFinish_sameBlocking s p v dp u).pport
        (portFinish_sameBlocking s p v dp u).pdevice
      rwa [portFinish_port]

theorem step_placeInv (hqueue : QueueInv config s) (hinv : PlaceInv s) {a : Action}
    (hguard : Undisturbed s a) (hstep : step config s a = some s') : PlaceInv s' := by
  obtain ⟨hlocated, hnone⟩ := (step_blockStep hqueue hguard hstep).located hinv
  refine ⟨hlocated, hnone, fun p u dp hservice => ?_⟩
  by_cases ha : a = .portThread p
  · subst ha
    rcases (portThreadStep_cases hstep).inService hservice with hold | ⟨i, flag, hpc⟩
    · exact hinv.service_port p u dp hold
    · have hok := hqueue.port p
      rw [hpc] at hok
      obtain ⟨-, hmem, hfind⟩ := hok
      have hport := (hqueue.node.queued_of_mem hmem).2
      rw [findDpCommon_pport hfind] at hport
      exact Option.some.inj hport
  · rw [step_portThread_of_ne hqueue ha hstep] at hservice
    exact hinv.service_port p u dp hservice

theorem PlaceInv.initial (now : Nat) : PlaceInv (State.initial config now) where
  located := by simp [State.initial, UserPvt.zero]
  device_none := by simp [State.initial, UserPvt.zero]
  service_port := by simp [State.initial, PortPc.inService]

theorem placeInv_reachable (hreach : (machine config).Reachable Undisturbed s) : PlaceInv s := by
  refine Machine.Reachable.invariant_of_reachable (M := machine config) (I := PlaceInv) ?_ ?_ hreach
  · rintro s ⟨now, rfl⟩
    exact PlaceInv.initial now
  · intro s a s' hs hguard hinv hstep
    exact step_placeInv (QueueInv.reachable hs) hinv hguard hstep

/-! ## What a step does to the holders -/

/-- The object that contains the `dpCommon` has been made. -/
def DpExists (s : State) (dp : DpRef) : Prop :=
  ∀ addr, dp.pdevice = some addr → addr ∈ (s.port dp.pport).deviceList

theorem PlaceInv.dpExists (hinv : PlaceInv s) {u : UserId} {dp : DpRef}
    (hfind : findDpCommon config (s.userPvt u) = some dp) : DpExists s dp := by
  intro addr hdevice
  cases dp with
  | port p => cases hdevice
  | device p addr' =>
      obtain rfl : addr' = addr := Option.some.inj hdevice
      exact hinv.located u p addr' (findDpCommon_pport hfind) (findDpCommon_device hfind)

/-- What a step does to the holders: nothing, the release by an `unblockProcessCallback` that brings
the count to zero, or the end of a callback. -/
inductive HolderStep (config : PortId → PortConfig) (s : State) (a : Action) (s' : State) : Prop
  | same (hport : ∀ p, (s'.port p).pblockProcessHolder = (s.port p).pblockProcessHolder)
      (hdp : ∀ dp, DpExists s dp →
        (s'.dpCommon dp).pblockProcessHolder = (s.dpCommon dp).pblockProcessHolder)
  | releasePort (t : ThreadId) (u : UserId) (p : PortId) (ha : a = .client t)
      (hpc : s.client t = .unblockProcessCallback u true p)
      (hqueued : (s.userPvt u).isQueued = false)
      (hlast : (s.userPvt u).blockPortCount - 1 = 0)
      (hholder : (s.port p).pblockProcessHolder = some u)
      (hcount : (s'.userPvt u).blockPortCount = 0)
      (hport : ∀ q, q ≠ p → (s'.port q).pblockProcessHolder = (s.port q).pblockProcessHolder)
      (hdp : ∀ dp, (s'.dpCommon dp).pblockProcessHolder = (s.dpCommon dp).pblockProcessHolder)
  | releaseDevice (t : ThreadId) (u : UserId) (p : PortId) (dp : DpRef) (ha : a = .client t)
      (hpc : s.client t = .unblockProcessCallback u false p)
      (hqueued : (s.userPvt u).isQueued = false)
      (hlast : (s.userPvt u).blockDeviceCount - 1 = 0)
      (hfind : dp = (findDpCommon config (s.userPvt u)).getD (.port p))
      (hholder : (s.dpCommon dp).pblockProcessHolder = some u)
      (hcount : (s'.userPvt u).blockDeviceCount = 0)
      (hport : ∀ q, (s'.port q).pblockProcessHolder = (s.port q).pblockProcessHolder)
      (hdp : ∀ dp', dp' ≠ dp →
        (s'.dpCommon dp').pblockProcessHolder = (s.dpCommon dp').pblockProcessHolder)
  | finish (p : PortId) (u : UserId) (dp : DpRef) (ha : a = .portThread p)
      (hpc : s.portThread p = .returned u dp)
      (hport : ∀ q, (s'.port q).pblockProcessHolder =
        if q = p ∧ 0 < (s.userPvt u).blockPortCount then some u
        else (s.port q).pblockProcessHolder)
      (hdp : ∀ dp', (s'.dpCommon dp').pblockProcessHolder =
        if dp' = dp ∧ 0 < (s.userPvt u).blockDeviceCount then some u
        else (s.dpCommon dp').pblockProcessHolder)

theorem BlockStep.holders {a : Action} (hstep : BlockStep config s a s') :
    HolderStep config s a s' := by
  have hsame : s'.port = s.port → s'.dpCommon = s.dpCommon → HolderStep config s a s' :=
    fun hport hdp => .same (by simp [hport]) (by simp [hdp])
  cases hstep with
  | same hframe => exact .same hframe.portHolder fun dp _ => hframe.dpHolder dp
  | connect u p pdevice hnone hdevice huser hport hdp => exact hsame hport hdp
  | connectNew u p addr hnone hnew huser hport hdp =>
      refine .same (fun q => ?_) fun dp hexists => ?_
      · by_cases hq : q = p
        · subst hq
          simp [hport]
        · simp [hport, hq]
      · have hne : dp ≠ .device p addr := by
          rintro rfl
          exact hnew (hexists addr rfl)
        simp [hdp, hne]
  | disconnect u hrefused huser hport hdp => exact hsame hport hdp
  | count u v hpointers huser hport hdp => exact hsame hport hdp
  | releasePort t u p ha hpc hqueued hlast hholder huser hport hdp =>
      refine .releasePort t u p ha hpc hqueued hlast hholder ?_ (fun q hq => by simp [hport, hq])
        (by simp [hdp])
      simpa [huser, blockCountDecrement] using hlast
  | releaseDevice t u p dp ha hpc hqueued hlast hfind hholder huser hport hdp =>
      refine .releaseDevice t u p dp ha hpc hqueued hlast hfind hholder ?_ (by simp [hport])
        (fun dp' hdp' => by simp [hdp, hdp'])
      simpa [huser, blockCountDecrement] using hlast
  | finish p u dp ha hpc heq =>
      subst heq
      refine .finish p u dp ha hpc (fun q => ?_) (fun dp' => ?_)
      · rw [portFinish_port]
      · rw [portFinish_dpCommon]

end Queue
end Manager
end AsynDriver
