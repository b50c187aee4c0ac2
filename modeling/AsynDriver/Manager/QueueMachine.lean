import AsynDriver.Library.Machine
import AsynDriver.Manager.QueueState

/-!
# The queueing machine

The atomic steps of `createAsynUser`, `freeAsynUser`, `connectDevice`, `disconnect`,
`queueRequest`, `cancelRequest`, `blockProcessCallback`, `unblockProcessCallback`,
`exceptionConnect`, `exceptionDisconnect`, `enable`, `autoConnectAsyn`, `queueTimeoutCallback`,
`autoConnectDevice` and `portThread`, over `Queue.State`.

* `startCall` — what a method does before it takes the lock: it reads `pport`, `pdevice` and
  `findDpCommon(puserPvt)` into local variables.
* `clientStep` — the rest of the call, one critical section (or one unlocked statement) a step.
* `timerExpire`, `timerStep` — `queueTimeoutCallback`.
* `portThreadStep` — `portThread`.
* `machine` — all of them, for any attributes of the ports.

The driver's `connect`, which `connectAttempt` calls with the lock dropped, is whatever the other
threads do before the port thread's next step; so is the code inside a callback.
`exceptionCallbackAdd` and `exceptionCallbackRemove` appear only through the pointer they leave in
`pexceptionUser` (`Action.setExceptionUser`).
-/

namespace AsynDriver
namespace Manager
namespace Queue

open Library
open Library.LinkedList

variable (config : PortId → PortConfig)

/-! ## Effects shared by several methods -/

/-- The node of `u` is taken off `queueList[i]` and `isQueued` is cleared. -/
def State.dequeue (s : State) (p : PortId) (i : AsynQueuePriority) (u : UserId) : State :=
  (s.setQueue p i (((s.port p).queueList i).erase u)).modUser u fun v => { v with isQueued := false }

/-- The end of `queueRequest` on a port that can block: the node goes to the front or to the end of
the list, and the timer is started for a positive timeout. -/
def State.enqueue (s : State) (p : PortId) (i : AsynQueuePriority) (u : UserId) (addToFront : Bool)
    (timeout : Int) : State :=
  let l := (s.port p).queueList i
  ((s.setQueue p i (if addToFront then u :: l else l ++ [u])).stateChanged p).modUser u fun v =>
    { v with
      isQueued := true
      timeout := if timeout ≤ 0 then 0 else timeout
      timer := if timeout ≤ 0 then v.timer else true }

/-- After a callback, under the lock: wake the canceller, become idle, and carry out a
`freeAsynUser` that waited for the callback. -/
def State.finishCallback (s : State) (u : UserId) : State :=
  let v := s.userPvt u
  let s' := s.modUser u fun v =>
    { v with
      callbackDone := if v.state = .callbackCanceled then true else v.callbackDone
      state := .callbackIdle
      freeAfterCallback := false }
  if v.freeAfterCallback then
    { s'.setPhase u .free with asynUserFreeList := s'.asynUserFreeList ++ [u] }
  else s'

/-- The list on which `queueTimeoutCallback` and `cancelRequest` find a node. -/
def locateQueue (q : Port) (u : UserId) : Option AsynQueuePriority :=
  if u ∈ q.queueList .connect then some .connect
  else if u ∈ q.queueList .high then some .high
  else if u ∈ q.queueList .medium then some .medium
  else if u ∈ q.queueList .low then some .low
  else none

/-- `autoConnectDevice` up to its next `connectAttempt`, or to its end. -/
inductive AutoConnectResult
  | attempt (tried : DpRef)
  | done (connected : Bool)

/-- The 2.0 seconds within which a connection is not tried again. -/
def reconnectDelay : Nat := 2000

/-- `autoConnectDevice` from its second `if` on. -/
def autoConnectDeviceTail (s : State) (dp : DpRef) : State × AutoConnectResult :=
  if !(s.dpCommon (.port dp.pport)).connected then (s, .done false)
  else
    match dp with
    | .port _ => (s, .done true)
    | .device _ _ =>
        let dpc := s.dpCommon dp
        if !dpc.connected && dpc.autoConnect && !dpc.autoConnectActive then
          if s.now - dpc.lastConnectDisconnect < reconnectDelay then (s, .done false)
          else (s.modDp dp fun d => { d with autoConnectActive := true }, .attempt dp)
        else (s, .done dpc.connected)

/-- `autoConnectDevice(dp->pport, dp->pdevice)`. -/
def autoConnectDevice (s : State) (dp : DpRef) : State × AutoConnectResult :=
  let dpc := s.dpCommon (.port dp.pport)
  if !dpc.connected && dpc.autoConnect && !dpc.autoConnectActive then
    if s.now - dpc.lastConnectDisconnect < reconnectDelay then (s, .done false)
    else
      (s.modDp (.port dp.pport) fun d => { d with autoConnectActive := true },
        .attempt (.port dp.pport))
  else autoConnectDeviceTail s dp

/-- `autoConnectDevice(dp->pport, dp->pdevice)` after `connectAttempt(tried)` has returned and the
lock is held again. -/
def autoConnectResume (s : State) (dp tried : DpRef) : State × AutoConnectResult :=
  let s' := s.modDp tried fun d =>
    { d with lastConnectDisconnect := s.now, autoConnectActive := false }
  match tried with
  | .port _ => autoConnectDeviceTail s' dp
  | .device _ _ => (s', .done (s'.dpCommon tried).connected)

/-! ## `createAsynUser` and `connectDevice` -/

/-- `createAsynUser`: a `userPvt` from the free list, or a new one. -/
def createAsynUser (s : State) (t : ThreadId) (process timeout : Bool) : State :=
  let init (s : State) (u : UserId) : State :=
    ((s.modUser u fun v =>
      { v with
        processUser := process
        timeoutUser := timeout
        timeout := 0
        state := .callbackIdle
        isQueued := false
        queueEvenIfNotConnected := false }).setPhase u .live).setClient t
      (.ret (.createAsynUser process timeout) (.user u))
  match s.asynUserFreeList with
  | [] => init { s with allocated := s.allocated + 1 } s.allocated
  | u :: rest => init { s with asynUserFreeList := rest } u

/-- `locateDevice(pport, addr, TRUE)`: the device's address, and the state in which it exists. -/
def locateDevice (s : State) (p : PortId) (addr : Nat) : State × Option Nat :=
  if !(config p).multiDevice then (s, none)
  else if addr ∈ (s.port p).deviceList then (s, some addr)
  else
    ((s.modPort p fun q => { q with deviceList := q.deviceList ++ [addr] }).modDp (.device p addr)
        fun _ => dpCommonInit (s.dpCommon (.port p)).autoConnect,
      some addr)

/-- `connectDevice`, its critical section. -/
def connectDeviceLocked (s : State) (t : ThreadId) (u : UserId) (p : PortId) (addr : Int) : State :=
  let s' :=
    if 0 ≤ addr then
      let (located, pdevice) := locateDevice config s p addr.toNat
      located.modUser u fun v => { v with pport := some p, pdevice := pdevice }
    else s.modUser u fun v => { v with pport := some p }
  s'.ret t (.connectDevice u p addr) .asynSuccess

/-! ## `disconnect` and `freeAsynUser` -/

/-- The three conditions under which `disconnect` refuses. -/
def disconnectRefused (v : UserPvt) : Bool :=
  v.isQueued || (decide (0 < v.blockPortCount) || decide (0 < v.blockDeviceCount)) ||
    v.pexceptionUser

/-- `puserPvt->pport = 0; puserPvt->pdevice = 0`. -/
def State.disconnectUser (s : State) (u : UserId) : State :=
  s.modUser u fun v => { v with pport := none, pdevice := none }

/-- `disconnect`, its critical section. -/
def disconnectLocked (s : State) (t : ThreadId) (u : UserId) : State :=
  if disconnectRefused (s.userPvt u) then s.ret t (.disconnect u) .asynError
  else (s.disconnectUser u).ret t (.disconnect u) .asynSuccess

/-- The same section inside `freeAsynUser`. -/
def freeDisconnectLocked (s : State) (t : ThreadId) (u : UserId) : State :=
  if disconnectRefused (s.userPvt u) then
    (s.setPhase u .live).ret t (.freeAsynUser u) .asynError
  else ((s.disconnectUser u).setPhase u .retired).setClient t (.freeList u)

/-- The end of `freeAsynUser`, under `pasynBase->lock`. -/
def freeListLocked (s : State) (t : ThreadId) (u : UserId) : State :=
  if (s.userPvt u).state = .callbackIdle then
    { (s.setPhase u .free).ret t (.freeAsynUser u) .asynSuccess with
      asynUserFreeList := s.asynUserFreeList ++ [u] }
  else
    ((s.modUser u fun v => { v with freeAfterCallback := true }).setPhase u .deferred).ret t
      (.freeAsynUser u) .asynSuccess

/-! ## `queueRequest` -/

/-- `checkPortConnect` in `queueRequest`, where `addr == -1` says that `pdevice` is null. -/
def checkPortConnect (v : UserPvt) (priority : AsynQueuePriority) : Bool :=
  !(priority == .connect && (v.pdevice.isNone || v.queueEvenIfNotConnected))

/-- The call is answered from the head of `queueRequest`'s critical section. -/
def queueRequestRefused (s : State) (p : PortId) (checkPortConnect : Bool) : Option AsynStatus :=
  if !(s.dpCommon (.port p)).enabled then some .asynDisabled
  else if checkPortConnect && !(s.dpCommon (.port p)).connected then some .asynDisconnected
  else none

/-- `addToFront`: the caller blocks the port, or the `dpCommon` it was connected to. -/
def addToFront (s : State) (u : UserId) (p : PortId) (dp : DpRef) : Bool :=
  let v := s.userPvt u
  (decide (0 < v.blockPortCount) || decide (0 < v.blockDeviceCount)) &&
    ((s.port p).pblockProcessHolder == some u || (s.dpCommon dp).pblockProcessHolder == some u)

/-- `queueRequest` on a port that can block, from `if(puserPvt->isQueued)` on. -/
def queueRequestBlocking (s : State) (t : ThreadId) (u : UserId) (priority : AsynQueuePriority)
    (timeout : Int) (p : PortId) (dp : DpRef) : State :=
  let c := Call.queueRequest u priority timeout
  if (s.userPvt u).isQueued then s.ret t c .asynError
  else if 0 < timeout ∧ (s.userPvt u).timeoutUser = false then s.ret t c .asynError
  else
    (s.enqueue p priority u (addToFront s u p dp) timeout).setClient t
      (.signal c p (.status .asynSuccess))

/-- The end of the synchronous branch, once it is known whether the device is connected. -/
def queueRequestSyncEnd (t : ThreadId) (u : UserId) (priority : AsynQueuePriority)
    (timeout : Int) (dp : DpRef) : State × AutoConnectResult → State
  | (s, .attempt tried) => s.setClient t (.syncAttempt u priority timeout dp tried)
  | (s, .done false) => s.ret t (.queueRequest u priority timeout) .asynDisconnected
  | (s, .done true) => s.setClient t (.syncRunning u priority timeout)

/-- `queueRequest` on a port that cannot block. -/
def queueRequestSync (s : State) (t : ThreadId) (u : UserId) (priority : AsynQueuePriority)
    (timeout : Int) (p : PortId) : State :=
  let v := s.userPvt u
  let dp := (findDpCommon config v).getD (.port p)
  if v.pdevice.isSome && !(s.dpCommon dp).enabled then
    s.ret t (.queueRequest u priority timeout) .asynDisabled
  else if (!(s.dpCommon (.port p)).connected || !(s.dpCommon dp).connected)
      && !v.queueEvenIfNotConnected && decide (priority ≠ .connect) then
    queueRequestSyncEnd t u priority timeout dp (autoConnectDevice s dp)
  else s.setClient t (.syncRunning u priority timeout)

/-- `queueRequest`, its critical section. -/
def queueRequestLocked (s : State) (t : ThreadId) (u : UserId) (priority : AsynQueuePriority)
    (timeout : Int) (p : PortId) (dp : DpRef) (checkPortConnect : Bool) : State :=
  match queueRequestRefused s p checkPortConnect with
  | some st => s.ret t (.queueRequest u priority timeout) st
  | none =>
      if (config p).canBlock then queueRequestBlocking s t u priority timeout p dp
      else queueRequestSync config s t u priority timeout p

/-! ## `cancelRequest` -/

/-- `cancelRequest`, its critical section. -/
def cancelRequestLocked (s : State) (t : ThreadId) (u : UserId) (p : PortId) : State :=
  let v := s.userPvt u
  if !v.isQueued then
    if v.state = .callbackActive then
      (s.modUser u fun v => { v with state := .callbackCanceled }).setClient t (.cancelWait u)
    else s.setClient t (.ret (.cancelRequest u) (.cancelled .asynSuccess false))
  else
    match locateQueue (s.port p) u with
    | none =>
        { s.setClient t (.ret (.cancelRequest u) (.cancelled .asynError false)) with
          logicError := true }
    | some i =>
        ((s.dequeue p i u).stateChanged p).setClient t (.cancelTimer u p v.timeout)

/-! ## Blocking -/

/-- `blockPortCount++` or `blockDeviceCount++`. -/
def blockCountIncrement (allDevices : Bool) (v : UserPvt) : UserPvt :=
  if allDevices then { v with blockPortCount := (v.blockPortCount + 1) % unsignedIntRange }
  else { v with blockDeviceCount := (v.blockDeviceCount + 1) % unsignedIntRange }

/-- `blockProcessCallback`, its critical section. -/
def blockProcessCallbackLocked (s : State) (t : ThreadId) (u : UserId) (allDevices : Bool) :
    State :=
  let c := Call.blockProcessCallback u allDevices
  if (s.userPvt u).isQueued then s.ret t c .asynError
  else (s.modUser u (blockCountIncrement allDevices)).ret t c .asynSuccess

/-- The count that `unblockProcessCallback` lowers. -/
def blockCount (allDevices : Bool) (v : UserPvt) : Nat :=
  if allDevices then v.blockPortCount else v.blockDeviceCount

/-- `unblockProcessCallback(allDevices)` after its tests. -/
def unblockPort (s : State) (t : ThreadId) (u : UserId) (p : PortId) : State :=
  let c := Call.unblockProcessCallback u true
  let s' := s.modUser u fun v => { v with blockPortCount := v.blockPortCount - 1 }
  if (s'.userPvt u).blockPortCount = 0 ∧ (s'.port p).pblockProcessHolder = some u then
    (s'.modPort p fun q => { q with pblockProcessHolder := none }).setClient t
      (.signal c p (.status .asynSuccess))
  else s'.ret t c .asynSuccess

/-- `unblockProcessCallback(!allDevices)` after its tests; the `dpCommon` is looked up here. -/
def unblockDevice (s : State) (t : ThreadId) (u : UserId) (p : PortId) : State :=
  let c := Call.unblockProcessCallback u false
  let s' := s.modUser u fun v => { v with blockDeviceCount := v.blockDeviceCount - 1 }
  let dp := (findDpCommon config (s'.userPvt u)).getD (.port p)
  if (s'.userPvt u).blockDeviceCount = 0 ∧ (s'.dpCommon dp).pblockProcessHolder = some u then
    (s'.modDp dp fun d => { d with pblockProcessHolder := none }).setClient t
      (.signal c p (.status .asynSuccess))
  else s'.ret t c .asynSuccess

/-- `unblockProcessCallback`, its critical section. -/
def unblockProcessCallbackLocked (s : State) (t : ThreadId) (u : UserId) (allDevices : Bool)
    (p : PortId) : State :=
  let c := Call.unblockProcessCallback u allDevices
  if (s.userPvt u).isQueued then s.ret t c .asynError
  else if blockCount allDevices (s.userPvt u) = 0 then s.ret t c .asynError
  else if allDevices then unblockPort s t u p
  else unblockDevice config s t u p

/-! ## The client threads -/

/-- A method up to the point where it takes the lock. -/
def startCall (s : State) (t : ThreadId) (c : Call) : State :=
  match c with
  | .createAsynUser process timeout => createAsynUser s t process timeout
  | .freeAsynUser u =>
      match (s.userPvt u).pport with
      | none => (s.setPhase u .retired).setClient t (.freeList u)
      | some p => (s.setPhase u .freeing).setClient t (.freeDisconnect u p)
  | .connectDevice u p addr =>
      if (s.userPvt u).pport.isSome then s.ret t c .asynError
      else s.setClient t (.connectDevice u p addr)
  | .disconnect u =>
      match (s.userPvt u).pport with
      | none => s.ret t c .asynError
      | some p => s.setClient t (.disconnect u p)
  | .queueRequest u priority timeout =>
      match (s.userPvt u).pport, findDpCommon config (s.userPvt u) with
      | some p, some dp =>
          if (s.userPvt u).processUser then
            s.setClient t
              (.queueRequest u priority timeout p dp (checkPortConnect (s.userPvt u) priority))
          else s.ret t c .asynError
      | _, _ => s.ret t c .asynError
  | .cancelRequest u =>
      match (s.userPvt u).pport with
      | none => s.setClient t (.ret c (.cancelled .asynError false))
      | some p => s.setClient t (.cancelRequest u p)
  | .blockProcessCallback u allDevices =>
      match (s.userPvt u).pport with
      | none => s.ret t c .asynError
      | some p =>
          if (config p).canBlock then s.setClient t (.blockProcessCallback u allDevices p)
          else s.ret t c .asynError
  | .unblockProcessCallback u allDevices =>
      match (s.userPvt u).pport with
      | none => s.ret t c .asynError
      | some p =>
          if blockCount allDevices (s.userPvt u) = 0 then s.ret t c .asynError
          else s.setClient t (.unblockProcessCallback u allDevices p)
  | .exceptionConnect u =>
      match findDpCommon config (s.userPvt u) with
      | none => s.ret t c .asynError
      | some dp =>
          if (s.dpCommon dp).connected then s.ret t c .asynError
          else s.setClient t (.exceptionConnect u dp)
  | .exceptionDisconnect u =>
      match findDpCommon config (s.userPvt u) with
      | none => s.ret t c .asynError
      | some dp =>
          if (s.dpCommon dp).connected then s.setClient t (.exceptionDisconnect u dp)
          else s.ret t c .asynError
  | .enable u yesNo =>
      match findDpCommon config (s.userPvt u) with
      | none => s.ret t c .asynError
      | some dp => s.setClient t (.enable u yesNo dp)
  | .autoConnect u yesNo =>
      match findDpCommon config (s.userPvt u) with
      | none => s.ret t c .asynError
      | some dp => s.setClient t (.autoConnect u yesNo dp)

/-- The next step of the call that thread `t` is in. -/
def clientStep (s : State) (t : ThreadId) : Option State :=
  match s.client t with
  | .idle => none
  | .ret _ _ => some (s.setClient t .idle)
  | .signal c p result => some ((s.notify p).setClient t (.ret c result))
  | .announce c p =>
      if s.lockFree p then
        some ((s.stateChanged p).setClient t
          (if (config p).canBlock then .signal c p (.status .asynSuccess)
            else .ret c (.status .asynSuccess)))
      else none
  | .connectDevice u p addr =>
      if s.lockFree p then some (connectDeviceLocked config s t u p addr) else none
  | .disconnect u p => if s.lockFree p then some (disconnectLocked s t u) else none
  | .freeDisconnect u p => if s.lockFree p then some (freeDisconnectLocked s t u) else none
  | .freeList u => some (freeListLocked s t u)
  | .queueRequest u priority timeout p dp check =>
      if s.lockFree p then some (queueRequestLocked config s t u priority timeout p dp check)
      else none
  | .syncAttempt u priority timeout dp tried =>
      some (queueRequestSyncEnd t u priority timeout dp (autoConnectResume s dp tried))
  | .syncRunning u priority timeout =>
      some (s.ret t (.queueRequest u priority timeout) .asynSuccess)
  | .cancelRequest u p => if s.lockFree p then some (cancelRequestLocked s t u p) else none
  | .cancelWait u =>
      if (s.userPvt u).callbackDone then
        some ((s.modUser u fun v => { v with callbackDone := false }).setClient t
          (.ret (.cancelRequest u) (.cancelled .asynSuccess false)))
      else none
  | .cancelTimer u p timeout =>
      if timeout ≤ 0 then
        some (s.setClient t (.signal (.cancelRequest u) p (.cancelled .asynSuccess true)))
      else if s.timerBusy u then none
      else
        some ((s.modUser u fun v => { v with timer := false }).setClient t
          (.signal (.cancelRequest u) p (.cancelled .asynSuccess true)))
  | .blockProcessCallback u allDevices p =>
      if s.lockFree p then some (blockProcessCallbackLocked s t u allDevices) else none
  | .unblockProcessCallback u allDevices p =>
      if s.lockFree p then some (unblockProcessCallbackLocked config s t u allDevices p) else none
  | .exceptionConnect u dp =>
      some ((s.modDp dp fun d =>
        { d with connected := true, numberConnects := d.numberConnects + 1 }).setClient t
          (.announce (.exceptionConnect u) dp.pport))
  | .exceptionDisconnect u dp =>
      some ((s.modDp dp fun d =>
        { d with connected := false, lastConnectDisconnect := s.now }).setClient t
          (.announce (.exceptionDisconnect u) dp.pport))
  | .enable u yesNo dp =>
      if s.lockFree dp.pport then
        if (s.dpCommon dp).defunct then some (s.ret t (.enable u yesNo) .asynDisabled)
        else
          some ((s.modDp dp fun d => { d with enabled := yesNo }).setClient t
            (.announce (.enable u yesNo) dp.pport))
      else none
  | .autoConnect u yesNo dp =>
      some ((s.modDp dp fun d => { d with autoConnect := yesNo }).setClient t
        (.announce (.autoConnect u yesNo) dp.pport))

/-! ## The timer thread -/

/-- The timer of `u` expires: `queueTimeoutCallback` is entered and reads `puserPvt->pport`. -/
def timerExpire (s : State) (u : UserId) : Option State :=
  if (s.userPvt u).timer = true ∧ s.timerThread = .idle then
    some ((s.modUser u fun v => { v with timer := false }).setTimerThread
      (match (s.userPvt u).pport with
        | none => .crashed
        | some p => .fired u p))
  else none

/-- `queueTimeoutCallback`, its first critical section. -/
def queueTimeoutLocked (s : State) (u : UserId) (p : PortId) : State :=
  if !(s.userPvt u).isQueued then s.setTimerThread .idle
  else
    match locateQueue (s.port p) u with
    | none => { s.setTimerThread .idle with logicError := true }
    | some i =>
        let s' := (s.dequeue p i u).stateChanged p
        if (s.userPvt u).timeoutUser then
          (s'.modUser u fun v => { v with state := .callbackActive }).setTimerThread (.running u p)
        else s'.setTimerThread (.signal u p)

def timerStep (s : State) : Option State :=
  match s.timerThread with
  | .idle => none
  | .crashed => none
  | .fired u p => if s.lockFree p then some (queueTimeoutLocked s u p) else none
  | .running u p => some (s.setTimerThread (.returned u p))
  | .returned u p =>
      if s.lockFree p then some ((s.finishCallback u).setTimerThread (.signal u p)) else none
  | .signal _ p => some ((s.notify p).setTimerThread .idle)

/-! ## The port thread -/

/-- The rest of the `for` loop once `queueList[i]` is exhausted: the first entry of the lists that
are still to be searched. -/
def scanLists (q : Port) (callTimeoutUser : Bool) : List AsynQueuePriority → PortPc
  | [] => .waiting
  | i :: rest =>
      match q.queueList i with
      | u :: _ => .visit i u callTimeoutUser
      | [] => if q.queueStateChange then .waiting else scanLists q callTimeoutUser rest

/-- The priorities that the `for` loop visits after a given one. -/
def lowerPriorities : AsynQueuePriority → List AsynQueuePriority
  | .connect => [.high, .medium, .low]
  | .high => [.medium, .low]
  | .medium => [.low]
  | .low => []

/-- `puserPvt = ellNext(&puserPvt->node)` and what follows it. -/
def scanNext (q : Port) (i : AsynQueuePriority) (u : UserId) (callTimeoutUser : Bool) : PortPc :=
  match nextAfter (q.queueList i) u with
  | some v => .visit i v callTimeoutUser
  | none =>
      if q.queueStateChange then .waiting else scanLists q callTimeoutUser (lowerPriorities i)

/-- Where the port thread goes on after `autoConnectDevice`. -/
def portResume (p : PortId) (k : AutoConnectCont) : State × AutoConnectResult → State
  | (s, .attempt tried) => s.setPortThread p (.attempt k tried)
  | (s, .done connected) =>
      match k with
      | .connectLoop => s.setPortThread p (if connected then .scanTop else .waiting)
      | .entry i u dp callTimeoutUser =>
          s.setPortThread p
            (if (s.port p).queueStateChange then .waiting else .tested i u dp callTimeoutUser)

/-- The `dpCommon` that `autoConnectDevice` was called for. -/
def AutoConnectCont.dpRef (p : PortId) : AutoConnectCont → DpRef
  | .connectLoop => .port p
  | .entry _ _ dp _ => dp

/-- Neither the port nor the device is blocked by another `asynUser`. -/
def unblocked (s : State) (p : PortId) (dp : DpRef) (u : UserId) : Bool :=
  ((s.port p).pblockProcessHolder == none || (s.port p).pblockProcessHolder == some u) &&
    ((s.dpCommon dp).pblockProcessHolder == none || (s.dpCommon dp).pblockProcessHolder == some u)

/-- `epicsTimerCancel` if the request was queued with a timeout; it waits for a running expire
callback. -/
def State.cancelTimer (s : State) (u : UserId) (timeout : Int) : Option State :=
  if timeout ≤ 0 then some s
  else if s.timerBusy u then none
  else some (s.modUser u fun v => { v with timer := false })

/-- The start of the service of a request taken off a queue. -/
def State.startService (s : State) (p : PortId) (i : AsynQueuePriority) (u : UserId) : State :=
  (s.dequeue p i u).modUser u fun v => { v with state := .callbackActive }

/-- The second test of `connected` for an entry, and the test whether it is blocked. -/
def portTest (s : State) (p : PortId) (i : AsynQueuePriority) (u : UserId) (dp : DpRef)
    (callTimeoutUser : Bool) : State :=
  let flag := callTimeoutUser || (!(s.dpCommon dp).connected && (s.userPvt u).timeoutUser)
  if unblocked s p dp u then
    (s.startService p i u).setPortThread p (.dispatch u dp flag (s.userPvt u).timeout)
  else s.setPortThread p (scanNext (s.port p) i u flag)

/-- After the callback of a request from the High, Medium or Low queue, under the lock. -/
def portFinish (s : State) (p : PortId) (u : UserId) (dp : DpRef) : State :=
  let v := s.userPvt u
  let s₁ :=
    if 0 < v.blockPortCount then s.modPort p fun q => { q with pblockProcessHolder := some u }
    else s
  let s₂ :=
    if 0 < v.blockDeviceCount then s₁.modDp dp fun d => { d with pblockProcessHolder := some u }
    else s₁
  (s₂.finishCallback u).setPortThread p
    (if (s.port p).queueStateChange then .waiting else .scanTop)

/-- The next step of the port thread; a port that cannot block has none. -/
def portThreadStep (s : State) (p : PortId) : Option State :=
  if !(config p).canBlock then none
  else
    match s.portThread p with
    | .waiting =>
        if (s.port p).notifyPortThread then
          some ((s.modPort p fun q => { q with notifyPortThread := false }).setPortThread p .woken)
        else none
    | .woken =>
        some (s.setPortThread p
          (if (s.dpCommon (.port p)).enabled then .connectLoop else .waiting))
    | .connectLoop =>
        match (s.port p).queueList .connect with
        | u :: _ =>
            some ((s.startService p .connect u).setPortThread p
              (.connectDispatch u (s.userPvt u).timeout))
        | [] =>
            if (s.dpCommon (.port p)).connected then some (s.setPortThread p .scanTop)
            else some (portResume p .connectLoop (autoConnectDevice s (.port p)))
    | .connectDispatch u timeout =>
        (s.cancelTimer u timeout).map fun s' => s'.setPortThread p (.connectRunning u)
    | .connectRunning u => some (s.setPortThread p (.connectReturned u))
    | .connectReturned u => some ((s.finishCallback u).setPortThread p .connectLoop)
    | .attempt k tried => some (portResume p k (autoConnectResume s (k.dpRef p) tried))
    | .scanTop =>
        let s' := s.modPort p fun q => { q with queueStateChange := false }
        some (s'.setPortThread p (scanLists (s'.port p) false [.high, .medium, .low]))
    | .visit i u callTimeoutUser =>
        match findDpCommon config (s.userPvt u) with
        | none => none
        | some dp =>
            if !(s.dpCommon dp).enabled then
              some (s.setPortThread p (scanNext (s.port p) i u callTimeoutUser))
            else if !(s.dpCommon dp).connected then
              some (portResume p (.entry i u dp callTimeoutUser) (autoConnectDevice s dp))
            else some (s.setPortThread p (.tested i u dp callTimeoutUser))
    | .tested i u dp callTimeoutUser => some (portTest s p i u dp callTimeoutUser)
    | .dispatch u dp callTimeoutUser timeout =>
        (s.cancelTimer u timeout).map fun s' => s'.setPortThread p (.running u dp callTimeoutUser)
    | .running u dp _ => some (s.setPortThread p (.returned u dp))
    | .returned u dp => some (portFinish s p u dp)

/-! ## The machine -/

/-- Whose step it is. -/
inductive Action
  | call (t : ThreadId) (c : Call)
  | client (t : ThreadId)
  | timerExpire (u : UserId)
  | timerThread
  | portThread (p : PortId)
  | tick
  /-- the owner writes `pasynUser->reason` -/
  | setReason (u : UserId) (queueEvenIfNotConnected : Bool)
  /-- `exceptionCallbackAdd` or `exceptionCallbackRemove` has changed `pexceptionUser` -/
  | setExceptionUser (u : UserId) (onList : Bool)
  deriving DecidableEq, Repr

/-- A thread may start a call: it is in no other call, and it has the `asynUser`. -/
def callAllowed (s : State) (t : ThreadId) (c : Call) : Bool :=
  decide (s.client t = .idle) &&
    match c with
    | .createAsynUser _ _ => true
    | .freeAsynUser u => decide (s.phase u = .live)
    | c => match c.user with
        | none => true
        | some u => (s.phase u).alive

def step (s : State) : Action → Option State
  | .call t c => if callAllowed s t c then some (startCall config s t c) else none
  | .client t => clientStep config s t
  | .timerExpire u => timerExpire s u
  | .timerThread => timerStep s
  | .portThread p => portThreadStep config s p
  | .tick => some { s with now := s.now + 1 }
  | .setReason u b =>
      if (s.phase u).alive then some (s.modUser u fun v => { v with queueEvenIfNotConnected := b })
      else none
  | .setExceptionUser u b =>
      if (s.phase u).alive then some (s.modUser u fun v => { v with pexceptionUser := b })
      else none

/-- The manager's queueing, over ports with the given attributes. -/
def machine : Machine State Action where
  init := fun s => ∃ now, s = State.initial config now
  step := step config

end Queue
end Manager
end AsynDriver
