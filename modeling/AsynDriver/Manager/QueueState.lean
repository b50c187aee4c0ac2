import AsynDriver.Library.LinkedList
import AsynDriver.Manager.Types

/-!
# The state of the queueing machine

`asynManager.c` serves requests with three kinds of threads: the port thread of every port
(`portThread`), the one thread of `pasynBase->timerQueue` that runs `queueTimeoutCallback`, and any
number of client threads that call the manager's methods; a call made from inside a callback is a
call of one more client thread.  A thread that does not hold `asynManagerLock` can be overtaken
between any two statements, so its position is a *program counter* that keeps the local variables
it has already read: `ClientPc`, `TimerPc`, `PortPc`.

Every critical section of a client or of the timer thread is one step.  The port thread keeps
`asynManagerLock` from one entry of its scan to the next, and only `connected` can change under it
(`exceptionConnect` and `exceptionDisconnect` write it without the lock), so its program counters
say whether it holds the lock (`PortPc.locked`) and each entry it visits is a step of its own.

Two fields are ghosts.  `phase` records who may use a `userPvt`: a client calls the manager only
with an `asynUser` it got from `createAsynUser` and has not freed, and frees it once.
`logicError` records that one of the two branches that print `LOGIC ERROR` was taken.
-/

namespace AsynDriver
namespace Manager
namespace Queue

/-- The life of a `userPvt`: not allocated; in the hands of a client; in `freeAsynUser` before its
`disconnect` succeeds; after that and not yet on a list; waiting for its callback to end
(`freeAfterCallback`); on `asynUserFreeList`. -/
inductive Phase
  | unallocated
  | live
  | freeing
  | retired
  | deferred
  | free
  deriving DecidableEq, Repr

/-- A client may call the manager with the `asynUser`. -/
def Phase.alive : Phase → Bool
  | .live => true
  | .freeing => true
  | _ => false

/-- The manager's methods that this machine covers, with their arguments. -/
inductive Call
  | createAsynUser (process timeout : Bool)
  | freeAsynUser (u : UserId)
  | connectDevice (u : UserId) (p : PortId) (addr : Int)
  | disconnect (u : UserId)
  | queueRequest (u : UserId) (priority : AsynQueuePriority) (timeout : Int)
  | cancelRequest (u : UserId)
  | blockProcessCallback (u : UserId) (allDevices : Bool)
  | unblockProcessCallback (u : UserId) (allDevices : Bool)
  | exceptionConnect (u : UserId)
  | exceptionDisconnect (u : UserId)
  | enable (u : UserId) (yesNo : Bool)
  | autoConnect (u : UserId) (yesNo : Bool)
  deriving DecidableEq, Repr

/-- The `asynUser` a method is called with. -/
def Call.user : Call → Option UserId
  | .createAsynUser _ _ => none
  | .freeAsynUser u => some u
  | .connectDevice u _ _ => some u
  | .disconnect u => some u
  | .queueRequest u _ _ => some u
  | .cancelRequest u => some u
  | .blockProcessCallback u _ => some u
  | .unblockProcessCallback u _ => some u
  | .exceptionConnect u => some u
  | .exceptionDisconnect u => some u
  | .enable u _ => some u
  | .autoConnect u _ => some u

/-- What a method gives back: its status, the status and `*wasQueued` of `cancelRequest`, the
`asynUser` of `createAsynUser`. -/
inductive Result
  | status (st : AsynStatus)
  | cancelled (st : AsynStatus) (wasQueued : Bool)
  | user (u : UserId)
  deriving DecidableEq, Repr

/-- Where a client thread is.  The port and `dpCommon` arguments are local copies, read before the
lock was taken. -/
inductive ClientPc
  | idle
  /-- about to return -/
  | ret (c : Call) (result : Result)
  /-- about to signal `notifyPortThread`, then return -/
  | signal (c : Call) (p : PortId) (result : Result)
  /-- in `announceExceptionOccurred`, before its second critical section -/
  | announce (c : Call) (p : PortId)
  | connectDevice (u : UserId) (p : PortId) (addr : Int)
  | disconnect (u : UserId) (p : PortId)
  /-- in `freeAsynUser`, inside `disconnect` -/
  | freeDisconnect (u : UserId) (p : PortId)
  /-- in `freeAsynUser`, before `pasynBase->lock` -/
  | freeList (u : UserId)
  | queueRequest (u : UserId) (priority : AsynQueuePriority) (timeout : Int) (p : PortId)
      (dp : DpRef) (checkPortConnect : Bool)
  /-- synchronous port: the lock is dropped in `connectAttempt` -/
  | syncAttempt (u : UserId) (priority : AsynQueuePriority) (timeout : Int) (dp tried : DpRef)
  /-- synchronous port: `processUser` is executing -/
  | syncRunning (u : UserId) (priority : AsynQueuePriority) (timeout : Int)
  | cancelRequest (u : UserId) (p : PortId)
  /-- waiting for `callbackDone` -/
  | cancelWait (u : UserId)
  /-- removed from the queue; about to cancel the timer -/
  | cancelTimer (u : UserId) (p : PortId) (timeout : Int)
  | blockProcessCallback (u : UserId) (allDevices : Bool) (p : PortId)
  | unblockProcessCallback (u : UserId) (allDevices : Bool) (p : PortId)
  | exceptionConnect (u : UserId) (dp : DpRef)
  | exceptionDisconnect (u : UserId) (dp : DpRef)
  | enable (u : UserId) (yesNo : Bool) (dp : DpRef)
  | autoConnect (u : UserId) (yesNo : Bool) (dp : DpRef)
  deriving DecidableEq, Repr

/-- Where the timer thread is in `queueTimeoutCallback`. -/
inductive TimerPc
  | idle
  /-- entered, `pport` read, waiting for the lock -/
  | fired (u : UserId) (p : PortId)
  /-- `timeoutUser` is executing -/
  | running (u : UserId) (p : PortId)
  | returned (u : UserId) (p : PortId)
  | signal (u : UserId) (p : PortId)
  /-- `pport` was null and has been dereferenced -/
  | crashed
  deriving DecidableEq, Repr

/-- Where `portThread` goes on after `autoConnectDevice`. -/
inductive AutoConnectCont
  | connectLoop
  | entry (i : AsynQueuePriority) (u : UserId) (dp : DpRef) (callTimeoutUser : Bool)
  deriving DecidableEq, Repr

/-- Where a port thread is. -/
inductive PortPc
  /-- in `epicsEventMustWait(notifyPortThread)` -/
  | waiting
  /-- woken, before the lock -/
  | woken
  /-- at the head of the loop over the Connect queue -/
  | connectLoop
  | connectDispatch (u : UserId) (timeout : Int)
  | connectRunning (u : UserId)
  | connectReturned (u : UserId)
  /-- the lock is dropped in `connectAttempt(tried)` -/
  | attempt (k : AutoConnectCont) (tried : DpRef)
  /-- at the head of the `while(1)` loop over the High, Medium and Low queues -/
  | scanTop
  /-- at the entry of `u` on `queueList[i]` -/
  | visit (i : AsynQueuePriority) (u : UserId) (callTimeoutUser : Bool)
  /-- at the second test of `connected` for that entry -/
  | tested (i : AsynQueuePriority) (u : UserId) (dp : DpRef) (callTimeoutUser : Bool)
  /-- removed `u`; about to cancel its timer -/
  | dispatch (u : UserId) (dp : DpRef) (callTimeoutUser : Bool) (timeout : Int)
  /-- `timeoutUser` if the flag is set, else `processUser`, is executing -/
  | running (u : UserId) (dp : DpRef) (callTimeoutUser : Bool)
  | returned (u : UserId) (dp : DpRef)
  deriving DecidableEq, Repr

/-- The port thread holds `asynManagerLock` here. -/
def PortPc.locked : PortPc → Bool
  | .connectLoop => true
  | .scanTop => true
  | .visit _ _ _ => true
  | .tested _ _ _ _ => true
  | _ => false

structure State where
  userPvt : UserId → UserPvt
  dpCommon : DpRef → DpCommon
  port : PortId → Port
  asynUserFreeList : List UserId
  allocated : Nat
  phase : UserId → Phase
  client : ThreadId → ClientPc
  portThread : PortId → PortPc
  timerThread : TimerPc
  /-- milliseconds -/
  now : Nat
  logicError : Bool

/-- The ports have been registered and nothing has been called. -/
def State.initial (config : PortId → PortConfig) (now : Nat) : State where
  userPvt := fun _ => UserPvt.zero
  dpCommon := fun dp => dpCommonInit (config dp.pport).autoConnect
  port := fun _ => Port.registered
  asynUserFreeList := []
  allocated := 0
  phase := fun _ => .unallocated
  client := fun _ => .idle
  portThread := fun _ => .waiting
  timerThread := .idle
  now := now
  logicError := false

namespace State

@[simps]
def modUser (s : State) (u : UserId) (f : UserPvt → UserPvt) : State :=
  { s with userPvt := Function.update s.userPvt u (f (s.userPvt u)) }

@[simps]
def modDp (s : State) (dp : DpRef) (f : DpCommon → DpCommon) : State :=
  { s with dpCommon := Function.update s.dpCommon dp (f (s.dpCommon dp)) }

@[simps]
def modPort (s : State) (p : PortId) (f : Port → Port) : State :=
  { s with port := Function.update s.port p (f (s.port p)) }

@[simps]
def setClient (s : State) (t : ThreadId) (pc : ClientPc) : State :=
  { s with client := Function.update s.client t pc }

@[simps]
def setPortThread (s : State) (p : PortId) (pc : PortPc) : State :=
  { s with portThread := Function.update s.portThread p pc }

@[simps]
def setTimerThread (s : State) (pc : TimerPc) : State :=
  { s with timerThread := pc }

@[simps]
def setPhase (s : State) (u : UserId) (phase : Phase) : State :=
  { s with phase := Function.update s.phase u phase }

/-- The return of a call. -/
def ret (s : State) (t : ThreadId) (c : Call) (st : AsynStatus) : State :=
  s.setClient t (.ret c (.status st))

/-- `asynManagerLock` of the port can be taken. -/
def lockFree (s : State) (p : PortId) : Bool :=
  !(s.portThread p).locked

/-- The timer callback of `u` is executing, so `epicsTimerCancel` would wait for it. -/
def timerBusy (s : State) (u : UserId) : Bool :=
  match s.timerThread with
  | .fired v _ => v == u
  | .running v _ => v == u
  | .returned v _ => v == u
  | .signal v _ => v == u
  | _ => false

/-- A `queueList` of a port is replaced. -/
def setQueue (s : State) (p : PortId) (i : AsynQueuePriority) (l : List UserId) : State :=
  s.modPort p fun q => { q with queueList := Function.update q.queueList i l }

/-- `queueStateChange = TRUE`. -/
def stateChanged (s : State) (p : PortId) : State :=
  s.modPort p fun q => { q with queueStateChange := true }

/-- `epicsEventSignal(notifyPortThread)`. -/
def notify (s : State) (p : PortId) : State :=
  s.modPort p fun q => { q with notifyPortThread := true }

end State

end Queue
end Manager
end AsynDriver
