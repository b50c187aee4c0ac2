import AsynDriver.Manager.QueueOwnership

/-!
# What a step can do

The invariants of the following files are about the callbacks, the blocking and the order of the
queues.  Most steps touch none of that: they move one thread, raise `queueStateChange`, wake a port
thread or change a connection flag.  This file lists the steps that do more, once for each kind of
thread, so that an invariant is checked against this list and not against the code.

* `QuietFrame` — the writes that no later invariant reads.
* `CallStep`, `ClientStep` — the calls and the clients' critical sections; `startCall_cases` and
  `clientStep_cases` say that there are no others.
* `TimerStep`, `PortStep` — the same for the timer thread and for a port thread, whose scan of the
  queues is one quiet move after the other.
-/

namespace AsynDriver
namespace Manager
namespace Queue

open Library
open Library.LinkedList

variable {config : PortId → PortConfig} {s s' : State}

/-! ## Quiet changes -/

/-- The shared state is the same but for connection flags, events and a raised
`queueStateChange`. -/
structure QuietFrame (s s₁ : State) : Prop where
  userPvt : s₁.userPvt = s.userPvt
  enabled : ∀ dp, (s₁.dpCommon dp).enabled = (s.dpCommon dp).enabled
  dpHolder : ∀ dp, (s₁.dpCommon dp).pblockProcessHolder = (s.dpCommon dp).pblockProcessHolder
  deviceList : ∀ p, (s₁.port p).deviceList = (s.port p).deviceList
  queueList : ∀ p, (s₁.port p).queueList = (s.port p).queueList
  stateChange : ∀ p, (s.port p).queueStateChange = true → (s₁.port p).queueStateChange = true
  portHolder : ∀ p, (s₁.port p).pblockProcessHolder = (s.port p).pblockProcessHolder
  phase : s₁.phase = s.phase
  portThread : s₁.portThread = s.portThread
  timerThread : s₁.timerThread = s.timerThread
  client : s₁.client = s.client

theorem QuietFrame.refl (s : State) : QuietFrame s s := by
  constructor <;> simp

theorem AttemptFrame.quiet (hframe : AttemptFrame s s') : QuietFrame s s' := by
  have henabled := hframe.enabled
  have hholder := hframe.holder
  obtain ⟨f, rfl⟩ := hframe.rest
  exact ⟨rfl, henabled, hholder, fun _ => rfl, fun _ => rfl, fun _ => id, fun _ => rfl, rfl, rfl,
    rfl, rfl⟩

theorem QuietFrame.modDp (s : State) (dp : DpRef) (f : DpCommon → DpCommon)
    (henabled : ∀ d, (f d).enabled = d.enabled)
    (hholder : ∀ d, (f d).pblockProcessHolder = d.pblockProcessHolder) :
    QuietFrame s (s.modDp dp f) := by
  constructor
  case enabled | dpHolder =>
    intro dp'
    by_cases hdp : dp' = dp
    · subst hdp
      simp [henabled, hholder]
    · simp [hdp]
  all_goals simp [State.modDp]

theorem QuietFrame.stateChanged (s : State) (p : PortId) : QuietFrame s (s.stateChanged p) := by
  constructor
  case deviceList | queueList | portHolder | stateChange =>
    intro q
    by_cases hq : q = p
    · subst hq
      simp [State.stateChanged]
    · simp [State.stateChanged, hq]
  all_goals first | rfl | exact fun _ => rfl

theorem QuietFrame.notify (s : State) (p : PortId) (b : Bool) :
    QuietFrame s (s.modPort p fun q => { q with notifyPortThread := b }) := by
  constructor
  case deviceList | queueList | portHolder | stateChange =>
    intro q
    by_cases hq : q = p
    · subst hq
      simp
    · simp [hq]
  all_goals first | rfl | exact fun _ => rfl

/-! ## Client threads -/

/-- The `asynUser` whose cancellation a client has carried out and is about to report. -/
def cancelReturn : Call → Result → Option UserId
  | .cancelRequest u, .cancelled .asynSuccess _ => some u
  | _, _ => none

/-- The `asynUser` whose cancellation is between its critical section and its return. -/
def ClientPc.cancels : ClientPc → Option UserId
  | .cancelWait u => some u
  | .cancelTimer u _ _ => some u
  | .signal c _ result => cancelReturn c result
  | .ret c result => cancelReturn c result
  | _ => none

/-- The `asynUser` whose `callbackDone` a canceller waits for. -/
def ClientPc.waits : ClientPc → Option UserId
  | .cancelWait u => some u
  | _ => none

/-- The `asynUser` whose `processUser` a client executes, on a port that cannot block. -/
def ClientPc.executes : ClientPc → Option UserId
  | .syncRunning u _ _ => some u
  | _ => none

/-- The `asynUser` whose `pport` an `unblockProcessCallback` has read. -/
def ClientPc.unblocks : ClientPc → Option UserId
  | .unblockProcessCallback u _ _ => some u
  | _ => none

/-- The client leaves no wait; its new place is in no callback, no cancellation but the one it was
in, and before no critical section of `unblockProcessCallback`. -/
structure QuietMove (old new : ClientPc) : Prop where
  old_waits : old.waits = none
  waits : new.waits = none
  executes : new.executes = none
  unblocks : new.unblocks = none
  cancels : new.cancels = none ∨ new.cancels = old.cancels

theorem QuietMove.of_none {old new : ClientPc} (hold : old.waits = none)
    (hwaits : new.waits = none) (hexecutes : new.executes = none)
    (hunblocks : new.unblocks = none) (hcancels : new.cancels = none) : QuietMove old new :=
  ⟨hold, hwaits, hexecutes, hunblocks, Or.inl hcancels⟩

/-- `queueRequest` on a port that cannot block gets through to `processUser` at once. -/
def syncAccepts (config : PortId → PortConfig) (s : State) (u : UserId)
    (priority : AsynQueuePriority) (p : PortId) : Bool :=
  let v := s.userPvt u
  let dp := (findDpCommon config v).getD (.port p)
  if v.pdevice.isSome && !(s.dpCommon dp).enabled then false
  else if (!(s.dpCommon (.port p)).connected || !(s.dpCommon dp).connected)
      && !v.queueEvenIfNotConnected && decide (priority ≠ .connect) then
    match (autoConnectDevice s dp).2 with
    | .attempt _ => false
    | .done connected => connected
  else true

/-- The `asynUser` whose `processUser` the client's next step starts. -/
def syncStarts (config : PortId → PortConfig) (s : State) : ClientPc → Option UserId
  | .queueRequest u priority _ p _ check =>
      if queueRequestRefused s p check = none ∧ (config p).canBlock = false ∧
          syncAccepts config s u priority p = true then some u
      else none
  | .syncAttempt u _ _ dp tried =>
      match (autoConnectResume s dp tried).2 with
      | .done true => some u
      | _ => none
  | _ => none

/-- `blockPortCount--` or `blockDeviceCount--`. -/
def blockCountDecrement (allDevices : Bool) (v : UserPvt) : UserPvt :=
  if allDevices then { v with blockPortCount := v.blockPortCount - 1 }
  else { v with blockDeviceCount := v.blockDeviceCount - 1 }

/-- The steps of a client inside a call. -/
inductive ClientStep (config : PortId → PortConfig) (s : State) (t : ThreadId) : State → Prop
  | quiet (s₁ : State) (pc : ClientPc) (hframe : QuietFrame s s₁)
      (hmove : QuietMove (s.client t) pc) : ClientStep config s t (s₁.setClient t pc)
  | enable (u : UserId) (yesNo : Bool) (dp : DpRef) (hpc : s.client t = .enable u yesNo dp)
      (hlock : s.lockFree dp.pport = true) :
      ClientStep config s t ((s.modDp dp fun d => { d with enabled := yesNo }).setClient t
        (.announce (.enable u yesNo) dp.pport))
  | connect (u : UserId) (p : PortId) (addr : Int) (pdevice : Option Nat)
      (hpc : s.client t = .connectDevice u p addr)
      (hdevice : pdevice = none ∨ pdevice = (s.userPvt u).pdevice ∨
        ∃ a ∈ (s.port p).deviceList, pdevice = some a) :
      ClientStep config s t ((s.modUser u fun v =>
        { v with pport := some p, pdevice := pdevice }).ret t (.connectDevice u p addr) .asynSuccess)
  | connectNew (u : UserId) (p : PortId) (addr : Int) (a : Nat)
      (hpc : s.client t = .connectDevice u p addr) (hnew : a ∉ (s.port p).deviceList) :
      ClientStep config s t ((((s.modPort p fun q =>
        { q with deviceList := q.deviceList ++ [a] }).modDp (.device p a)
          fun _ => dpCommonInit (s.dpCommon (.port p)).autoConnect).modUser u fun v =>
        { v with pport := some p, pdevice := some a }).ret t (.connectDevice u p addr) .asynSuccess)
  | disconnect (u : UserId) (p : PortId) (hpc : s.client t = .disconnect u p)
      (hrefused : disconnectRefused (s.userPvt u) = false) :
      ClientStep config s t ((s.disconnectUser u).ret t (.disconnect u) .asynSuccess)
  | freeRefused (u : UserId) (p : PortId) (hpc : s.client t = .freeDisconnect u p) :
      ClientStep config s t ((s.setPhase u .live).ret t (.freeAsynUser u) .asynError)
  | freeDisconnect (u : UserId) (p : PortId) (hpc : s.client t = .freeDisconnect u p)
      (hrefused : disconnectRefused (s.userPvt u) = false) :
      ClientStep config s t
        (((s.disconnectUser u).setPhase u .retired).setClient t (.freeList u))
  | freeList (u : UserId) (hpc : s.client t = .freeList u)
      (hidle : (s.userPvt u).state = .callbackIdle) :
      ClientStep config s t { (s.setPhase u .free).ret t (.freeAsynUser u) .asynSuccess with
        asynUserFreeList := s.asynUserFreeList ++ [u] }
  | freeLater (u : UserId) (hpc : s.client t = .freeList u)
      (hbusy : (s.userPvt u).state ≠ .callbackIdle) :
      ClientStep config s t (((s.modUser u fun v =>
        { v with freeAfterCallback := true }).setPhase u .deferred).ret t (.freeAsynUser u)
          .asynSuccess)
  | enqueue (u : UserId) (priority : AsynQueuePriority) (timeout : Int) (p : PortId) (dp : DpRef)
      (check : Bool) (hpc : s.client t = .queueRequest u priority timeout p dp check)
      (hlock : s.lockFree p = true) (hblock : (config p).canBlock = true)
      (hrefused : queueRequestRefused s p check = none)
      (hqueued : (s.userPvt u).isQueued = false)
      (htimeout : ¬(0 < timeout ∧ (s.userPvt u).timeoutUser = false)) :
      ClientStep config s t ((s.enqueue p priority u (addToFront s u p dp) timeout).setClient t
        (.signal (.queueRequest u priority timeout) p (.status .asynSuccess)))
  | syncStart (s₁ : State) (u : UserId) (priority : AsynQueuePriority) (timeout : Int)
      (hstarts : syncStarts config s (s.client t) = some u) (hframe : QuietFrame s s₁) :
      ClientStep config s t (s₁.setClient t (.syncRunning u priority timeout))
  | cancelActive (u : UserId) (p : PortId) (hpc : s.client t = .cancelRequest u p)
      (hqueued : (s.userPvt u).isQueued = false)
      (hactive : (s.userPvt u).state = .callbackActive) :
      ClientStep config s t ((s.modUser u fun v =>
        { v with state := .callbackCanceled }).setClient t (.cancelWait u))
  | cancelIdle (u : UserId) (p : PortId) (hpc : s.client t = .cancelRequest u p)
      (hqueued : (s.userPvt u).isQueued = false)
      (hactive : (s.userPvt u).state ≠ .callbackActive) :
      ClientStep config s t
        (s.setClient t (.ret (.cancelRequest u) (.cancelled .asynSuccess false)))
  | cancelQueued (u : UserId) (p : PortId) (i : AsynQueuePriority)
      (hpc : s.client t = .cancelRequest u p) (hlock : s.lockFree p = true)
      (hmem : u ∈ (s.port p).queueList i) :
      ClientStep config s t (((s.dequeue p i u).stateChanged p).setClient t
        (.cancelTimer u p (s.userPvt u).timeout))
  | cancelDone (u : UserId) (hpc : s.client t = .cancelWait u)
      (hdone : (s.userPvt u).callbackDone = true) :
      ClientStep config s t ((s.modUser u fun v => { v with callbackDone := false }).setClient t
        (.ret (.cancelRequest u) (.cancelled .asynSuccess false)))
  | cancelTimer (u : UserId) (p : PortId) (timeout : Int)
      (hpc : s.client t = .cancelTimer u p timeout) :
      ClientStep config s t ((s.modUser u fun v => { v with timer := false }).setClient t
        (.signal (.cancelRequest u) p (.cancelled .asynSuccess true)))
  | block (u : UserId) (allDevices : Bool) (p : PortId)
      (hpc : s.client t = .blockProcessCallback u allDevices p)
      (hqueued : (s.userPvt u).isQueued = false) :
      ClientStep config s t ((s.modUser u (blockCountIncrement allDevices)).ret t
        (.blockProcessCallback u allDevices) .asynSuccess)
  | unblock (u : UserId) (allDevices : Bool) (p : PortId)
      (hpc : s.client t = .unblockProcessCallback u allDevices p)
      (hcount : blockCount allDevices (s.userPvt u) ≠ 0)
      (hkeep : if allDevices then
          ¬((s.userPvt u).blockPortCount - 1 = 0 ∧ (s.port p).pblockProcessHolder = some u)
        else
          ¬((s.userPvt u).blockDeviceCount - 1 = 0 ∧
            (s.dpCommon ((findDpCommon config (s.userPvt u)).getD (.port p))).pblockProcessHolder =
              some u)) :
      ClientStep config s t ((s.modUser u (blockCountDecrement allDevices)).ret t
        (.unblockProcessCallback u allDevices) .asynSuccess)
  | unblockPort (u : UserId) (p : PortId)
      (hpc : s.client t = .unblockProcessCallback u true p)
      (hqueued : (s.userPvt u).isQueued = false)
      (hcount : blockCount true (s.userPvt u) ≠ 0)
      (hlast : (s.userPvt u).blockPortCount - 1 = 0)
      (hholder : (s.port p).pblockProcessHolder = some u) :
      ClientStep config s t (((s.modUser u (blockCountDecrement true)).modPort p fun q =>
        { q with pblockProcessHolder := none }).setClient t
          (.signal (.unblockProcessCallback u true) p (.status .asynSuccess)))
  | unblockDevice (u : UserId) (p : PortId) (dp : DpRef)
      (hpc : s.client t = .unblockProcessCallback u false p)
      (hqueued : (s.userPvt u).isQueued = false)
      (hcount : blockCount false (s.userPvt u) ≠ 0)
      (hlast : (s.userPvt u).blockDeviceCount - 1 = 0)
      (hdp : dp = (findDpCommon config (s.userPvt u)).getD (.port p))
      (hholder : (s.dpCommon dp).pblockProcessHolder = some u) :
      ClientStep config s t (((s.modUser u (blockCountDecrement false)).modDp dp fun d =>
        { d with pblockProcessHolder := none }).setClient t
          (.signal (.unblockProcessCallback u false) p (.status .asynSuccess)))

theorem ClientStep.still {t : ThreadId} {pc : ClientPc} (hmove : QuietMove (s.client t) pc) :
    ClientStep config s t (s.setClient t pc) :=
  .quiet s pc (.refl s) hmove

theorem ClientStep.refused {t : ThreadId} {c : Call} {st : AsynStatus}
    (hwaits : (s.client t).waits = none) : ClientStep config s t (s.ret t c st) :=
  .still (.of_none hwaits rfl rfl rfl (by cases c <;> rfl))

/-- The synchronous branch ends in an attempt, a refusal, or the start of `processUser`. -/
theorem queueRequestSyncEnd_cases {t : ThreadId} {u : UserId} {priority : AsynQueuePriority}
    {timeout : Int} {dp : DpRef} {r : State × AutoConnectResult} (hframe : AttemptFrame s r.1)
    (hwaits : (s.client t).waits = none)
    (hstarts : (r.2 = .done true) → syncStarts config s (s.client t) = some u) :
    ClientStep config s t (queueRequestSyncEnd t u priority timeout dp r) := by
  obtain ⟨s₁, _ | _ | _⟩ := r
  · exact .quiet s₁ _ hframe.quiet (.of_none hwaits rfl rfl rfl rfl)
  · exact .quiet s₁ _ hframe.quiet (.of_none hwaits rfl rfl rfl rfl)
  · exact .syncStart s₁ u priority timeout (hstarts rfl) hframe.quiet

theorem queueRequestLocked_cases {t : ThreadId} {u : UserId} {priority : AsynQueuePriority}
    {timeout : Int} {p : PortId} {dp : DpRef} {check : Bool}
    (hpc : s.client t = .queueRequest u priority timeout p dp check)
    (hlock : s.lockFree p = true) :
    ClientStep config s t (queueRequestLocked config s t u priority timeout p dp check) := by
  have hwaits : (s.client t).waits = none := by rw [hpc]; rfl
  unfold queueRequestLocked
  split
  · exact .refused hwaits
  · next hrefused =>
    split
    · next hblock =>
      unfold queueRequestBlocking
      simp only
      split
      · exact .refused hwaits
      · next hqueued =>
        split
        · exact .refused hwaits
        · next htimeout =>
          exact .enqueue u priority timeout p dp check hpc hlock hblock hrefused
            (by simpa using hqueued) htimeout
    · next hblock =>
      -- A port that cannot block calls `processUser` from here, when all the tests are passed.
      have hstarts : syncAccepts config s u priority p = true →
          syncStarts config s (s.client t) = some u := by
        intro haccepts
        rw [hpc]
        simp [syncStarts, hrefused, haccepts, hblock]
      unfold syncAccepts at hstarts
      unfold queueRequestSync
      simp only at hstarts ⊢
      split
      · exact .refused hwaits
      · next hdisabled =>
        split
        · next hconnected =>
          refine queueRequestSyncEnd_cases (autoConnectDevice_frame s _) hwaits fun hdone => hstarts ?_
          rw [if_neg hdisabled, if_pos hconnected, hdone]
        · next hconnected =>
          refine .syncStart s u priority timeout (hstarts ?_) (.refl s)
          rw [if_neg hdisabled, if_neg hconnected]

theorem locateDevice_cases (config : PortId → PortConfig) (s : State) (p : PortId) (a : Nat) :
    locateDevice config s p a = (s, none) ∨
      (a ∈ (s.port p).deviceList ∧ locateDevice config s p a = (s, some a)) ∨
      (a ∉ (s.port p).deviceList ∧ locateDevice config s p a =
        ((s.modPort p fun q => { q with deviceList := q.deviceList ++ [a] }).modDp (.device p a)
          fun _ => dpCommonInit (s.dpCommon (.port p)).autoConnect, some a)) := by
  unfold locateDevice
  split
  · exact Or.inl rfl
  · split
    · next hmem => exact Or.inr (Or.inl ⟨hmem, rfl⟩)
    · next hnew => exact Or.inr (Or.inr ⟨hnew, rfl⟩)

theorem connectDeviceLocked_cases {t : ThreadId} {u : UserId} {p : PortId} {addr : Int}
    (hpc : s.client t = .connectDevice u p addr) :
    ClientStep config s t (connectDeviceLocked config s t u p addr) := by
  unfold connectDeviceLocked
  split
  · rcases locateDevice_cases config s p addr.toNat with hlocate | ⟨hmem, hlocate⟩ |
      ⟨hnew, hlocate⟩
    · simp only [hlocate]
      exact .connect u p addr none hpc (Or.inl rfl)
    · simp only [hlocate]
      exact .connect u p addr _ hpc (Or.inr (Or.inr ⟨_, hmem, rfl⟩))
    · simp only [hlocate]
      exact .connectNew u p addr _ hpc hnew
  · exact .connect u p addr (s.userPvt u).pdevice hpc (Or.inr (Or.inl rfl))

theorem unblockProcessCallbackLocked_cases {t : ThreadId} {u : UserId} {allDevices : Bool}
    {p : PortId} (hpc : s.client t = .unblockProcessCallback u allDevices p) :
    ClientStep config s t (unblockProcessCallbackLocked config s t u allDevices p) := by
  have hwaits : (s.client t).waits = none := by rw [hpc]; rfl
  unfold unblockProcessCallbackLocked
  simp only
  split
  · exact .refused hwaits
  · next hnot =>
    have hqueued : (s.userPvt u).isQueued = false := by simpa using hnot
    split
    · exact .refused hwaits
    · next hcount =>
      cases allDevices with
      | true =>
          unfold unblockPort
          simp only [if_true]
          split
          · next hlast =>
            simp only [State.modUser_userPvt, Function.update_self] at hlast
            exact .unblockPort u p hpc hqueued hcount hlast.1 hlast.2
          · next hkeep =>
            simp only [State.modUser_userPvt, Function.update_self] at hkeep
            exact .unblock u true p hpc hcount (by simpa using hkeep)
      | false =>
          have hfind : findDpCommon config ((s.modUser u fun v =>
              { v with blockDeviceCount := v.blockDeviceCount - 1 }).userPvt u) =
                findDpCommon config (s.userPvt u) :=
            findDpCommon_congr (by simp) (by simp)
          unfold unblockDevice
          simp only [hfind]
          simp only [Bool.false_eq_true, if_false]
          split
          · next hlast =>
            simp only [State.modUser_userPvt, Function.update_self] at hlast
            exact .unblockDevice u p _ hpc hqueued hcount hlast.1 rfl hlast.2
          · next hkeep =>
            simp only [State.modUser_userPvt, Function.update_self] at hkeep
            exact .unblock u false p hpc hcount (by simpa using hkeep)

theorem cancelRequestLocked_cases (hinv : QueueInv config s) {t : ThreadId} {u : UserId}
    {p : PortId} (hpc : s.client t = .cancelRequest u p) (hlock : s.lockFree p = true) :
    ClientStep config s t (cancelRequestLocked s t u p) := by
  unfold cancelRequestLocked
  simp only
  split
  · next hqueued =>
    have hqueued' : (s.userPvt u).isQueued = false := by simpa using hqueued
    split
    · next hactive => exact .cancelActive u p hpc hqueued' hactive
    · next hactive => exact .cancelIdle u p hpc hqueued' hactive
  · next hqueued =>
    have hport : (s.userPvt u).pport = some p := by simpa [hpc, ClientOk] using hinv.client t
    -- A request that `isQueued` is on one of the queues, so that the search finds it.
    obtain ⟨i, hlocate, hmem⟩ := locateQueue_of_queued hinv hport (by simpa using hqueued)
    rw [hlocate]
    exact .cancelQueued u p i hpc hlock hmem

/-- Every step of a client inside a call is on the list. -/
theorem clientStep_cases (hinv : QueueInv config s) {t : ThreadId}
    (hstep : clientStep config s t = some s') : ClientStep config s t s' := by
  unfold clientStep at hstep
  cases hpc : s.client t with
  | idle => simp [hpc] at hstep
  | ret c result =>
      have hwaits : (s.client t).waits = none := by rw [hpc]; rfl
      simp only [hpc, Option.some.injEq] at hstep
      subst hstep
      exact .still (.of_none hwaits rfl rfl rfl rfl)
  | signal c p result =>
      have hwaits : (s.client t).waits = none := by rw [hpc]; rfl
      simp only [hpc, Option.some.injEq] at hstep
      subst hstep
      -- Only `epicsEventSignal` is left of the call, and its result is known already.
      exact .quiet _ _ (.notify s p true) ⟨hwaits, rfl, rfl, rfl, Or.inr (by rw [hpc]; rfl)⟩
  | announce c p =>
      have hwaits : (s.client t).waits = none := by rw [hpc]; rfl
      simp only [hpc, Option.ite_none_right_eq_some, Option.some.injEq] at hstep
      obtain ⟨-, rfl⟩ := hstep
      split
      · exact .quiet _ _ (.stateChanged s p) (.of_none hwaits rfl rfl rfl (by cases c <;> rfl))
      · exact .quiet _ _ (.stateChanged s p) (.of_none hwaits rfl rfl rfl (by cases c <;> rfl))
  | connectDevice u p addr =>
      simp only [hpc, Option.ite_none_right_eq_some, Option.some.injEq] at hstep
      obtain ⟨-, rfl⟩ := hstep
      exact connectDeviceLocked_cases hpc
  | disconnect u p =>
      have hwaits : (s.client t).waits = none := by rw [hpc]; rfl
      simp only [hpc, Option.ite_none_right_eq_some, Option.some.injEq] at hstep
      obtain ⟨-, rfl⟩ := hstep
      unfold disconnectLocked
      split
      · exact .refused hwaits
      · next hrefused => exact .disconnect u p hpc (by simpa using hrefused)
  | freeDisconnect u p =>
      simp only [hpc, Option.ite_none_right_eq_some, Option.some.injEq] at hstep
      obtain ⟨-, rfl⟩ := hstep
      unfold freeDisconnectLocked
      split
      · exact .freeRefused u p hpc
      · next hrefused => exact .freeDisconnect u p hpc (by simpa using hrefused)
  | freeList u =>
      simp only [hpc, Option.some.injEq] at hstep
      subst hstep
      unfold freeListLocked
      split
      · next hidle => exact .freeList u hpc hidle
      · next hbusy => exact .freeLater u hpc hbusy
  | queueRequest u priority timeout p dp check =>
      simp only [hpc, Option.ite_none_right_eq_some, Option.some.injEq] at hstep
      obtain ⟨hlock, rfl⟩ := hstep
      exact queueRequestLocked_cases hpc hlock
  | syncAttempt u priority timeout dp tried =>
      simp only [hpc, Option.some.injEq] at hstep
      subst hstep
      refine queueRequestSyncEnd_cases (autoConnectResume_frame s dp tried) (by rw [hpc]; rfl) fun hdone => ?_
      rw [hpc]
      simp [syncStarts, hdone]
  | syncRunning u priority timeout =>
      have hwaits : (s.client t).waits = none := by rw [hpc]; rfl
      simp only [hpc, Option.some.injEq] at hstep
      subst hstep
      exact .refused hwaits
  | cancelRequest u p =>
      simp only [hpc, Option.ite_none_right_eq_some, Option.some.injEq] at hstep
      obtain ⟨hlock, rfl⟩ := hstep
      exact cancelRequestLocked_cases hinv hpc hlock
  | cancelWait u =>
      simp only [hpc, Option.ite_none_right_eq_some, Option.some.injEq] at hstep
      obtain ⟨hdone, rfl⟩ := hstep
      exact .cancelDone u hpc hdone
  | cancelTimer u p timeout =>
      have hwaits : (s.client t).waits = none := by rw [hpc]; rfl
      simp only [hpc] at hstep
      split at hstep
      · cases hstep
        exact .still ⟨hwaits, rfl, rfl, rfl, Or.inr (by rw [hpc]; rfl)⟩
      · split at hstep
        · cases hstep
        · cases hstep
          exact .cancelTimer u p timeout hpc
  | blockProcessCallback u allDevices p =>
      have hwaits : (s.client t).waits = none := by rw [hpc]; rfl
      simp only [hpc, Option.ite_none_right_eq_some, Option.some.injEq] at hstep
      obtain ⟨-, rfl⟩ := hstep
      unfold blockProcessCallbackLocked
      simp only
      split
      · exact .refused hwaits
      · next hqueued => exact .block u allDevices p hpc (by simpa using hqueued)
  | unblockProcessCallback u allDevices p =>
      simp only [hpc, Option.ite_none_right_eq_some, Option.some.injEq] at hstep
      obtain ⟨-, rfl⟩ := hstep
      exact unblockProcessCallbackLocked_cases hpc
  | exceptionConnect u dp | exceptionDisconnect u dp | autoConnect u yesNo dp =>
      have hwaits : (s.client t).waits = none := by rw [hpc]; rfl
      simp only [hpc, Option.some.injEq] at hstep
      subst hstep
      exact .quiet _ _ (.modDp s dp _ (fun _ => rfl) (fun _ => rfl)) (.of_none hwaits rfl rfl rfl rfl)
  | enable u yesNo dp =>
      have hwaits : (s.client t).waits = none := by rw [hpc]; rfl
      simp only [hpc, Option.ite_none_right_eq_some] at hstep
      obtain ⟨hlock, hstep⟩ := hstep
      split at hstep
      · cases hstep
        exact .refused hwaits
      · cases hstep
        exact .enable u yesNo dp hpc hlock

/-- The start of a call. -/
inductive CallStep (s : State) (t : ThreadId) : State → Prop
  | create (s₁ : State) (u : UserId) (process timeout : Bool) (hframe : QuietFrame s s₁)
      (hphase : s.phase u = .free ∨ s.phase u = .unallocated) :
      CallStep s t (((s₁.modUser u fun v =>
        { v with
          processUser := process
          timeoutUser := timeout
          timeout := 0
          state := .callbackIdle
          isQueued := false
          queueEvenIfNotConnected := false }).setPhase u .live).setClient t
        (.ret (.createAsynUser process timeout) (.user u)))
  | freeRetire (u : UserId) (hphase : s.phase u = .live) (hport : (s.userPvt u).pport = none) :
      CallStep s t ((s.setPhase u .retired).setClient t (.freeList u))
  | freeStart (u : UserId) (p : PortId) (hphase : s.phase u = .live) :
      CallStep s t ((s.setPhase u .freeing).setClient t (.freeDisconnect u p))
  | unblock (u : UserId) (allDevices : Bool) (p : PortId)
      (hport : (s.userPvt u).pport = some p) :
      CallStep s t (s.setClient t (.unblockProcessCallback u allDevices p))
  | move (pc : ClientPc) (hmove : QuietMove .idle pc) (hcancels : pc.cancels = none) :
      CallStep s t (s.setClient t pc)

theorem CallStep.refused {t : ThreadId} {c : Call} {st : AsynStatus} :
    CallStep s t (s.ret t c st) :=
  .move _ (.of_none rfl rfl rfl rfl (by cases c <;> rfl)) (by cases c <;> rfl)

theorem CallStep.go {t : ThreadId} {pc : ClientPc} (hwaits : pc.waits = none)
    (hexecutes : pc.executes = none) (hunblocks : pc.unblocks = none)
    (hcancels : pc.cancels = none) : CallStep s t (s.setClient t pc) :=
  .move pc (.of_none rfl hwaits hexecutes hunblocks hcancels) hcancels

theorem startCall_cases (hinv : QueueInv config s) {t : ThreadId} {c : Call}
    (hallowed : callAllowed s t c = true) : CallStep s t (startCall config s t c) := by
  cases c with
  | createAsynUser process timeout =>
      unfold startCall createAsynUser
      simp only
      split
      · exact .create { s with allocated := s.allocated + 1 } s.allocated process timeout
          (by constructor <;> simp) (Or.inr (hinv.node.fresh_phase _ le_rfl))
      · next u rest hlist =>
        exact .create { s with asynUserFreeList := rest } u process timeout
          (by constructor <;> simp) (Or.inl (hinv.node.free_phase u (by simp [hlist])))
  | freeAsynUser u =>
      have hphase : s.phase u = .live := by
        unfold callAllowed at hallowed
        simp only [Bool.and_eq_true, decide_eq_true_eq] at hallowed
        exact hallowed.2
      unfold startCall
      simp only
      split
      · next hnone => exact .freeRetire u hphase hnone
      · next p _ => exact .freeStart u p hphase
  | unblockProcessCallback u allDevices =>
      unfold startCall
      simp only
      split
      · exact .refused
      · next p hport =>
        split
        · exact .refused
        · exact .unblock u allDevices p hport
  | connectDevice u p addr =>
      unfold startCall
      simp only
      split
      · exact .refused
      · exact .go rfl rfl rfl rfl
  | queueRequest u priority timeout =>
      unfold startCall
      simp only
      split
      · split
        · exact .go rfl rfl rfl rfl
        · exact .refused
      · exact .refused
  | cancelRequest u =>
      unfold startCall
      simp only
      split
      · exact .go rfl rfl rfl rfl
      · exact .go rfl rfl rfl rfl
  | disconnect u | enable u yesNo | autoConnect u yesNo =>
      unfold startCall
      simp only
      split
      · exact .refused
      · exact .go rfl rfl rfl rfl
  | blockProcessCallback u allDevices | exceptionConnect u | exceptionDisconnect u =>
      unfold startCall
      simp only
      split
      · exact .refused
      · split
        · first
          | exact .refused
          | exact .go rfl rfl rfl rfl
        · first
          | exact .refused
          | exact .go rfl rfl rfl rfl

/-! ## The timer thread -/

/-- The `asynUser` whose `timeoutUser` the timer thread has started and not finished. -/
def TimerPc.serves : TimerPc → Option UserId
  | .running u _ => some u
  | .returned u _ => some u
  | _ => none

/-- The `asynUser` whose `timeoutUser` the timer thread executes. -/
def TimerPc.executes : TimerPc → Option UserId
  | .running u _ => some u
  | _ => none

/-- The steps of `queueTimeoutCallback`. -/
inductive TimerStep (s : State) : State → Prop
  | stale (u : UserId) (p : PortId) (hpc : s.timerThread = .fired u p)
      (hqueued : (s.userPvt u).isQueued = false) : TimerStep s (s.setTimerThread .idle)
  | drop (u : UserId) (p : PortId) (i : AsynQueuePriority) (hpc : s.timerThread = .fired u p)
      (hlock : s.lockFree p = true) (hmem : u ∈ (s.port p).queueList i) :
      TimerStep s (((s.dequeue p i u).stateChanged p).setTimerThread (.signal u p))
  | start (u : UserId) (p : PortId) (i : AsynQueuePriority) (hpc : s.timerThread = .fired u p)
      (hlock : s.lockFree p = true) (hmem : u ∈ (s.port p).queueList i)
      (htimeout : (s.userPvt u).timeoutUser = true) :
      TimerStep s ((((s.dequeue p i u).stateChanged p).modUser u fun v =>
        { v with state := .callbackActive }).setTimerThread (.running u p))
  | returns (u : UserId) (p : PortId) (hpc : s.timerThread = .running u p) :
      TimerStep s (s.setTimerThread (.returned u p))
  | finish (u : UserId) (p : PortId) (hpc : s.timerThread = .returned u p) :
      TimerStep s ((s.finishCallback u).setTimerThread (.signal u p))
  | signal (u : UserId) (p : PortId) (hpc : s.timerThread = .signal u p) :
      TimerStep s ((s.notify p).setTimerThread .idle)

theorem timerStep_cases (hinv : QueueInv config s) (hstep : timerStep s = some s') :
    TimerStep s s' := by
  unfold timerStep at hstep
  cases hpc : s.timerThread with
  | idle => simp [hpc] at hstep
  | crashed => simp [hpc] at hstep
  | fired u p =>
      simp only [hpc, Option.ite_none_right_eq_some, Option.some.injEq] at hstep
      obtain ⟨hlock, rfl⟩ := hstep
      have hport : (s.userPvt u).pport = some p := by simpa [hpc, TimerOk] using hinv.timer
      unfold queueTimeoutLocked
      split
      · next hqueued => exact .stale u p hpc (by simpa using hqueued)
      · next hqueued =>
        -- Still queued: the timer is ahead of the port thread.
        obtain ⟨i, hlocate, hmem⟩ := locateQueue_of_queued hinv hport (by simpa using hqueued)
        rw [hlocate]
        simp only
        split
        · next htimeout => exact .start u p i hpc hlock hmem htimeout
        · exact .drop u p i hpc hlock hmem
  | running u p =>
      simp only [hpc, Option.some.injEq] at hstep
      subst hstep
      exact .returns u p hpc
  | returned u p =>
      simp only [hpc, Option.ite_none_right_eq_some, Option.some.injEq] at hstep
      obtain ⟨-, rfl⟩ := hstep
      exact .finish u p hpc
  | signal u p =>
      simp only [hpc, Option.some.injEq] at hstep
      subst hstep
      exact .signal u p hpc

/-! ## A port thread -/

/-- The `asynUser` whose request the port thread has taken off a queue and not finished. -/
def PortPc.serves : PortPc → Option UserId
  | .connectDispatch u _ => some u
  | .connectRunning u => some u
  | .connectReturned u => some u
  | .dispatch u _ _ _ => some u
  | .running u _ _ => some u
  | .returned u _ => some u
  | _ => none

/-- The `asynUser` whose callback the port thread executes. -/
def PortPc.executes : PortPc → Option UserId
  | .connectRunning u => some u
  | .running u _ _ => some u
  | _ => none

/-- The steps of a port thread, its walk along the queues being quiet. -/
inductive PortStep (config : PortId → PortConfig) (s : State) (p : PortId) : State → Prop
  | quiet (s₁ : State) (pc : PortPc) (hframe : QuietFrame s s₁)
      (hold : (s.portThread p).serves = none) (hnew : pc.serves = none) :
      PortStep config s p (s₁.setPortThread p pc)
  | scan (pc : PortPc) (hpc : s.portThread p = .scanTop) (hnew : pc.serves = none) :
      PortStep config s p
        ((s.modPort p fun q => { q with queueStateChange := false }).setPortThread p pc)
  | serveConnect (u : UserId) (hpc : s.portThread p = .connectLoop)
      (hhead : ((s.port p).queueList .connect).head? = some u) :
      PortStep config s p ((s.startService p .connect u).setPortThread p
        (.connectDispatch u (s.userPvt u).timeout))
  | serve (i : AsynQueuePriority) (u : UserId) (dp : DpRef) (flag flag' : Bool)
      (hpc : s.portThread p = .tested i u dp flag) (hunblocked : unblocked s p dp u = true)
      (hflag : flag' = (flag || (!(s.dpCommon dp).connected && (s.userPvt u).timeoutUser))) :
      PortStep config s p ((s.startService p i u).setPortThread p
        (.dispatch u dp flag' (s.userPvt u).timeout))
  | startConnect (s₁ : State) (u : UserId) (timeout : Int)
      (hpc : s.portThread p = .connectDispatch u timeout)
      (hcancel : s.cancelTimer u timeout = some s₁) :
      PortStep config s p (s₁.setPortThread p (.connectRunning u))
  | start (s₁ : State) (u : UserId) (dp : DpRef) (flag : Bool) (timeout : Int)
      (hpc : s.portThread p = .dispatch u dp flag timeout)
      (hcancel : s.cancelTimer u timeout = some s₁) :
      PortStep config s p (s₁.setPortThread p (.running u dp flag))
  | returnsConnect (u : UserId) (hpc : s.portThread p = .connectRunning u) :
      PortStep config s p (s.setPortThread p (.connectReturned u))
  | returns (u : UserId) (dp : DpRef) (flag : Bool) (hpc : s.portThread p = .running u dp flag) :
      PortStep config s p (s.setPortThread p (.returned u dp))
  | finishConnect (u : UserId) (hpc : s.portThread p = .connectReturned u) :
      PortStep config s p ((s.finishCallback u).setPortThread p .connectLoop)
  | finish (u : UserId) (dp : DpRef) (hpc : s.portThread p = .returned u dp) :
      PortStep config s p (portFinish s p u dp)

/-- A cancelled timer is disarmed, and nothing else. -/
theorem State.cancelTimer_cases {u : UserId} {timeout : Int} {s₁ : State}
    (hcancel : s.cancelTimer u timeout = some s₁) :
    s₁ = s ∨ s₁ = s.modUser u fun v => { v with timer := false } := by
  unfold State.cancelTimer at hcancel
  split at hcancel
  · cases hcancel
    exact Or.inl rfl
  · split at hcancel
    · cases hcancel
    · cases hcancel
      exact Or.inr rfl

theorem scanLists_serves (q : Port) (flag : Bool) (lists : List AsynQueuePriority) :
    (scanLists q flag lists).serves = none := by
  induction lists with
  | nil => rfl
  | cons i rest ih =>
      unfold scanLists
      split
      · rfl
      · split
        · rfl
        · exact ih

theorem scanNext_serves (q : Port) (i : AsynQueuePriority) (u : UserId) (flag : Bool) :
    (scanNext q i u flag).serves = none := by
  unfold scanNext
  split
  · rfl
  · split
    · rfl
    · exact scanLists_serves q flag _

/-- After `autoConnectDevice` the port thread has still taken nothing off a queue. -/
theorem portResume_cases {p : PortId} {k : AutoConnectCont} {r : State × AutoConnectResult}
    (hframe : AttemptFrame s r.1) (hold : (s.portThread p).serves = none) :
    PortStep config s p (portResume p k r) := by
  obtain ⟨s₁, tried | connected⟩ := r
  · exact .quiet s₁ _ hframe.quiet hold rfl
  · unfold portResume
    cases k with
    | connectLoop =>
        cases connected
        · exact .quiet s₁ _ hframe.quiet hold rfl
        · exact .quiet s₁ _ hframe.quiet hold rfl
    | entry i u dp flag =>
        simp only
        split
        · exact .quiet s₁ _ hframe.quiet hold rfl
        · exact .quiet s₁ _ hframe.quiet hold rfl

theorem portThreadStep_cases {p : PortId} (hstep : portThreadStep config s p = some s') :
    PortStep config s p s' := by
  -- Most places of a port thread lead to another one, and change nothing else.
  have hstill : ∀ pc, (s.portThread p).serves = none → pc.serves = none →
      PortStep config s p (s.setPortThread p pc) :=
    fun pc hold hnew => .quiet s pc (.refl s) hold hnew
  unfold portThreadStep at hstep
  split at hstep
  · cases hstep
  cases hpc : s.portThread p with
  | waiting =>
      simp only [hpc, Option.ite_none_right_eq_some, Option.some.injEq] at hstep
      obtain ⟨-, rfl⟩ := hstep
      exact .quiet _ _ (.notify s p false) (by rw [hpc]; rfl) rfl
  | woken =>
      simp only [hpc, Option.some.injEq] at hstep
      subst hstep
      exact hstill _ (by rw [hpc]; rfl) (by split <;> rfl)
  | connectLoop =>
      simp only [hpc] at hstep
      split at hstep
      · next u rest hlist =>
        cases hstep
        exact .serveConnect u hpc (by rw [hlist]; rfl)
      · split at hstep
        · cases hstep
          exact hstill _ (by rw [hpc]; rfl) rfl
        · cases hstep
          exact portResume_cases (autoConnectDevice_frame s _) (by rw [hpc]; rfl)
  | connectDispatch u timeout =>
      simp only [hpc, Option.map_eq_some_iff] at hstep
      obtain ⟨s₁, hcancel, rfl⟩ := hstep
      exact .startConnect s₁ u timeout hpc hcancel
  | dispatch u dp flag timeout =>
      simp only [hpc, Option.map_eq_some_iff] at hstep
      obtain ⟨s₁, hcancel, rfl⟩ := hstep
      exact .start s₁ u dp flag timeout hpc hcancel
  | connectRunning u =>
      simp only [hpc, Option.some.injEq] at hstep
      subst hstep
      exact .returnsConnect u hpc
  | running u dp flag =>
      simp only [hpc, Option.some.injEq] at hstep
      subst hstep
      exact .returns u dp flag hpc
  | connectReturned u =>
      simp only [hpc, Option.some.injEq] at hstep
      subst hstep
      exact .finishConnect u hpc
  | attempt k tried =>
      simp only [hpc, Option.some.injEq] at hstep
      subst hstep
      exact portResume_cases (autoConnectResume_frame s _ tried) (by rw [hpc]; rfl)
  | scanTop =>
      simp only [hpc, Option.some.injEq] at hstep
      subst hstep
      exact .scan _ hpc (scanLists_serves _ _ _)
  | visit i u flag =>
      simp only [hpc] at hstep
      split at hstep
      · cases hstep
      · split at hstep
        · cases hstep
          exact hstill _ (by rw [hpc]; rfl) (scanNext_serves _ _ _ _)
        · split at hstep
          · cases hstep
            exact portResume_cases (autoConnectDevice_frame s _) (by rw [hpc]; rfl)
          · cases hstep
            exact hstill _ (by rw [hpc]; rfl) rfl
  | tested i u dp flag =>
      simp only [hpc, Option.some.injEq] at hstep
      subst hstep
      unfold portTest
      simp only
      split
      · next hunblocked => exact .serve i u dp flag _ hpc hunblocked rfl
      · exact hstill _ (by rw [hpc]; rfl) (scanNext_serves _ _ _ _)
  | returned u dp =>
      simp only [hpc, Option.some.injEq] at hstep
      subst hstep
      exact .finish u dp hpc

/-! ## Which threads a step moves -/

theorem finishCallback_portThread (s : State) (u : UserId) :
    (s.finishCallback u).portThread = s.portThread := by
  unfold State.finishCallback
  simp only
  split
  · rfl
  · rfl

theorem finishCallback_port (s : State) (u : UserId) : (s.finishCallback u).port = s.port := by
  unfold State.finishCallback
  simp only
  split
  · rfl
  · rfl

theorem finishCallback_dpCommon (s : State) (u : UserId) :
    (s.finishCallback u).dpCommon = s.dpCommon := by
  unfold State.finishCallback
  simp only
  split
  · rfl
  · rfl

theorem finishCallback_userPvt_of_ne (s : State) {u v : UserId} (hv : v ≠ u) :
    (s.finishCallback u).userPvt v = s.userPvt v := by
  unfold State.finishCallback
  simp only
  split
  · simp [hv]
  · simp [hv]

theorem finishCallback_userPvt_self (s : State) (u : UserId) :
    (s.finishCallback u).userPvt u = { s.userPvt u with
      callbackDone :=
        if (s.userPvt u).state = .callbackCanceled then true else (s.userPvt u).callbackDone
      state := .callbackIdle
      freeAfterCallback := false } := by
  unfold State.finishCallback
  simp only
  split
  · simp
  · simp

theorem finishCallback_phase_of_ne (s : State) {u v : UserId} (hv : v ≠ u) :
    (s.finishCallback u).phase v = s.phase v := by
  unfold State.finishCallback
  simp only
  split
  · simp [hv]
  · simp

theorem finishCallback_client (s : State) (u : UserId) :
    (s.finishCallback u).client = s.client := by
  unfold State.finishCallback
  simp only
  split
  · rfl
  · rfl

theorem finishCallback_timerThread (s : State) (u : UserId) :
    (s.finishCallback u).timerThread = s.timerThread := by
  unfold State.finishCallback
  simp only
  split
  · rfl
  · rfl

/-- A client moves no port thread and not the timer thread. -/
theorem ClientStep.threads {t : ThreadId} (hstep : ClientStep config s t s') :
    s'.portThread = s.portThread ∧ s'.timerThread = s.timerThread ∧
      ∀ t', t' ≠ t → s'.client t' = s.client t' := by
  cases hstep with
  | quiet s₁ pc hframe _ =>
      exact ⟨hframe.portThread, hframe.timerThread, fun t' ht => by simp [ht, hframe.client]⟩
  | syncStart s₁ u priority timeout _ hframe =>
      exact ⟨hframe.portThread, hframe.timerThread, fun t' ht => by simp [ht, hframe.client]⟩
  | _ => exact ⟨rfl, rfl, fun t' ht => by simp [ht, State.ret] <;> rfl⟩

theorem CallStep.threads {t : ThreadId} (hstep : CallStep s t s') :
    s'.portThread = s.portThread ∧ s'.timerThread = s.timerThread ∧
      ∀ t', t' ≠ t → s'.client t' = s.client t' := by
  cases hstep with
  | create s₁ u process timeout hframe _ =>
      exact ⟨hframe.portThread, hframe.timerThread, fun t' ht => by simp [ht, hframe.client]⟩
  | _ => exact ⟨rfl, rfl, fun t' ht => by simp [ht]⟩

theorem TimerStep.threads (hstep : TimerStep s s') :
    s'.portThread = s.portThread ∧ s'.client = s.client := by
  cases hstep with
  | finish u p _ => exact ⟨finishCallback_portThread s u, finishCallback_client s u⟩
  | _ => exact ⟨rfl, rfl⟩

/-- The state in which `portFinish` has set the holders and not yet finished the callback. -/
def holdersSet (s : State) (p : PortId) (u : UserId) (dp : DpRef) : State :=
  let v := s.userPvt u
  let s₁ :=
    if 0 < v.blockPortCount then s.modPort p fun q => { q with pblockProcessHolder := some u }
    else s
  if 0 < v.blockDeviceCount then s₁.modDp dp fun d => { d with pblockProcessHolder := some u }
  else s₁

theorem portFinish_eq (s : State) (p : PortId) (u : UserId) (dp : DpRef) :
    ∃ pc : PortPc, portFinish s p u dp = ((holdersSet s p u dp).finishCallback u).setPortThread p pc ∧
      pc.serves = none :=
  ⟨_, rfl, by split <;> rfl⟩

section HoldersSet

variable (s : State) (p : PortId) (u : UserId) (dp : DpRef)

theorem holdersSet_threads : (holdersSet s p u dp).portThread = s.portThread ∧
    (holdersSet s p u dp).client = s.client ∧
    (holdersSet s p u dp).timerThread = s.timerThread := by
  unfold holdersSet
  simp only
  split
  · split <;> exact ⟨rfl, rfl, rfl⟩
  · split <;> exact ⟨rfl, rfl, rfl⟩

theorem holdersSet_userPvt : (holdersSet s p u dp).userPvt = s.userPvt := by
  unfold holdersSet
  simp only
  split
  · split <;> rfl
  · split <;> rfl

theorem holdersSet_phase : (holdersSet s p u dp).phase = s.phase := by
  unfold holdersSet
  simp only
  split
  · split <;> rfl
  · split <;> rfl

/-- Of a port only the holder can be different. -/
theorem holdersSet_port (q : PortId) : (holdersSet s p u dp).port q =
    { s.port q with pblockProcessHolder :=
        if q = p ∧ 0 < (s.userPvt u).blockPortCount then some u
        else (s.port q).pblockProcessHolder } := by
  unfold holdersSet
  simp only
  by_cases hcount : 0 < (s.userPvt u).blockPortCount
  · by_cases hq : q = p
    · subst hq
      split <;> simp [hcount]
    · split <;> simp [hcount, hq]
  · split <;> simp [hcount]

theorem holdersSet_dpCommon (dp' : DpRef) : (holdersSet s p u dp).dpCommon dp' =
    { s.dpCommon dp' with pblockProcessHolder :=
        if dp' = dp ∧ 0 < (s.userPvt u).blockDeviceCount then some u
        else (s.dpCommon dp').pblockProcessHolder } := by
  unfold holdersSet
  simp only
  by_cases hcount : 0 < (s.userPvt u).blockDeviceCount
  · by_cases hdp : dp' = dp
    · subst hdp
      by_cases hport : 0 < (s.userPvt u).blockPortCount <;> simp [hcount, hport]
    · by_cases hport : 0 < (s.userPvt u).blockPortCount <;> simp [hcount, hport, hdp]
  · by_cases hport : 0 < (s.userPvt u).blockPortCount <;> simp [hcount, hport]

end HoldersSet

theorem PortStep.threads {p : PortId} (hstep : PortStep config s p s') :
    s'.client = s.client ∧ s'.timerThread = s.timerThread ∧
      ∀ p', p' ≠ p → s'.portThread p' = s.portThread p' := by
  cases hstep with
  | quiet s₁ pc hframe _ _ =>
      exact ⟨hframe.client, hframe.timerThread, fun p' hp => by simp [hp, hframe.portThread]⟩
  | startConnect s₁ u timeout _ hcancel | start s₁ u dp flag timeout _ hcancel =>
      rcases State.cancelTimer_cases hcancel with rfl | rfl
      · exact ⟨rfl, rfl, fun p' hp => by simp [hp]⟩
      · exact ⟨rfl, rfl, fun p' hp => by simp [hp]⟩
  | finishConnect u _ =>
      refine ⟨finishCallback_client s u, finishCallback_timerThread s u, fun p' hp => ?_⟩
      simp [hp, finishCallback_portThread]
  | finish u dp _ =>
      obtain ⟨pc, heq, -⟩ := portFinish_eq s p u dp
      obtain ⟨hport, hclient, htimer⟩ := holdersSet_threads s p u dp
      rw [heq]
      refine ⟨(finishCallback_client _ u).trans hclient,
        (finishCallback_timerThread _ u).trans htimer, fun p' hp => ?_⟩
      simp [hp, finishCallback_portThread, hport]
  | serveConnect u _ _ | serve i u dp flag flag' _ _ _ =>
      exact ⟨rfl, rfl, fun p' hp => by simp [hp]; rfl⟩
  | _ => exact ⟨rfl, rfl, fun p' hp => by simp [hp]⟩

/-- A port thread takes a request off the High, Medium or Low queue only at its second test of the
entry, when the entry is not blocked. -/
theorem PortStep.removes {p : PortId} (hstep : PortStep config s p s') {i : AsynQueuePriority}
    {u : UserId} (hi : i ≠ .connect) (hmem : u ∈ (s.port p).queueList i)
    (hgone : u ∉ (s'.port p).queueList i) :
    ∃ dp flag flag', s.portThread p = .tested i u dp flag ∧ unblocked s p dp u = true ∧
      flag' = (flag || (!(s.dpCommon dp).connected && (s.userPvt u).timeoutUser)) ∧
      s'.portThread p = .dispatch u dp flag' (s.userPvt u).timeout := by
  cases hstep with
  | quiet s₁ pc hframe _ _ =>
      refine absurd hmem ?_
      rw [← hframe.queueList p]
      exact hgone
  | scan pc _ _ => simp [hmem] at hgone
  | serveConnect v _ _ =>
      have hlist : ((s.startService p .connect v).port p).queueList i = (s.port p).queueList i := by
        simp [State.startService, dequeue_queueList, hi]
      exact absurd hmem (hlist ▸ hgone)
  | serve j v dp flag flag' hpc hunblocked hflag =>
      have hlist : ((s.startService p j v).port p).queueList =
          Function.update (s.port p).queueList j (((s.port p).queueList j).erase v) :=
        dequeue_queueList
      have hgone' : u ∉ Function.update (s.port p).queueList j (((s.port p).queueList j).erase v) i :=
        hlist ▸ hgone
      -- Only this step takes an entry off these queues, and only its own.
      by_cases hij : i = j
      · subst hij
        by_cases huv : u = v
        · subst huv
          exact ⟨dp, flag, flag', hpc, hunblocked, hflag, by simp⟩
        · simp [List.mem_erase_of_ne huv, hmem] at hgone'
      · simp [hij, hmem] at hgone'
  | startConnect s₁ v timeout _ hcancel | start s₁ v dp flag timeout _ hcancel =>
      rcases State.cancelTimer_cases hcancel with rfl | rfl
      · exact absurd hmem hgone
      · exact absurd hmem hgone
  | returnsConnect v _ | returns v dp flag _ => exact absurd hmem hgone
  | finishConnect v _ =>
      have hport : ((s.finishCallback v).setPortThread p .connectLoop).port = s.port :=
        finishCallback_port s v
      exact absurd hmem (hport ▸ hgone)
  | finish v dp _ =>
      obtain ⟨pc, heq, -⟩ := portFinish_eq s p v dp
      rw [heq] at hgone
      have hport : ((((holdersSet s p v dp).finishCallback v).setPortThread p pc).port p).queueList =
          (s.port p).queueList := by
        rw [State.setPortThread_port, finishCallback_port, holdersSet_port]
      exact absurd hmem (hport ▸ hgone)

/-- A step of any other thread leaves the port thread where it is. -/
theorem step_portThread_of_ne (hinv : QueueInv config s) {a : Action} {p : PortId}
    (ha : a ≠ .portThread p) (hstep : step config s a = some s') :
    s'.portThread p = s.portThread p := by
  cases a with
  | call t c =>
      simp only [step, Option.ite_none_right_eq_some, Option.some.injEq] at hstep
      obtain ⟨hallowed, rfl⟩ := hstep
      rw [(startCall_cases hinv hallowed).threads.1]
  | client t => rw [(clientStep_cases hinv hstep).threads.1]
  | timerExpire u =>
      simp only [step, timerExpire, Option.ite_none_right_eq_some, Option.some.injEq] at hstep
      obtain ⟨-, rfl⟩ := hstep
      rfl
  | timerThread => rw [(timerStep_cases hinv hstep).threads.1]
  | portThread q =>
      have hq : p ≠ q := fun h => ha (h ▸ rfl)
      exact (portThreadStep_cases hstep).threads.2.2 p hq
  | tick =>
      simp only [step, Option.some.injEq] at hstep
      subst hstep
      rfl
  | setReason u b | setExceptionUser u b =>
      simp only [step, Option.ite_none_right_eq_some, Option.some.injEq] at hstep
      obtain ⟨-, rfl⟩ := hstep
      rfl

/-- A step of any other thread leaves the client where it is. -/
theorem step_client_of_ne (hinv : QueueInv config s) {a : Action} {t : ThreadId}
    (hcall : ∀ c, a ≠ .call t c) (hclient : a ≠ .client t)
    (hstep : step config s a = some s') : s'.client t = s.client t := by
  cases a with
  | call t' c =>
      have ht : t ≠ t' := fun h => hcall c (h ▸ rfl)
      simp only [step, Option.ite_none_right_eq_some, Option.some.injEq] at hstep
      obtain ⟨hallowed, rfl⟩ := hstep
      exact (startCall_cases hinv hallowed).threads.2.2 t ht
  | client t' =>
      have ht : t ≠ t' := fun h => hclient (h ▸ rfl)
      exact (clientStep_cases hinv hstep).threads.2.2 t ht
  | timerExpire u =>
      simp only [step, timerExpire, Option.ite_none_right_eq_some, Option.some.injEq] at hstep
      obtain ⟨-, rfl⟩ := hstep
      rfl
  | timerThread => rw [(timerStep_cases hinv hstep).threads.2]
  | portThread q => rw [(portThreadStep_cases hstep).threads.1]
  | tick =>
      simp only [step, Option.some.injEq] at hstep
      subst hstep
      rfl
  | setReason u b | setExceptionUser u b =>
      simp only [step, Option.ite_none_right_eq_some, Option.some.injEq] at hstep
      obtain ⟨-, rfl⟩ := hstep
      rfl

end Queue
end Manager
end AsynDriver
