import AsynDriver.Library.Machine
import AsynDriver.Manager.Types

/-!
# Locking a port through its queue

`queueLockPort`, `queueUnlockPort`, `queueLockPortCallback` and `queueLockPortTimeoutCallback` for the
threads of one port, with the port thread and the timer thread.

* `LockThread` — the `queueLockPortPvt` of a thread, the `auxStatus` of its `pasynUserCopy`, and where
  the thread stands.  `depth`, `before`, `returned` and `calls` record what its caller sees.
* `callLock`, `enterLock`, `queueLock`, `awakeLock`, `notifyLock` — `queueLockPort`, one critical
  section or one unlocked part a step; `callUnlock`, `release`, `awakeUnlock` — `queueUnlockPort`.
* `portStep`, `timerStep` — the callbacks.

Which request the port thread takes and when, and whether it calls its `timeoutUser`, is left to the
action: `Queue.portThreadStep` models that choice.  A timer can expire whenever its request is queued.  Any
thread may also hold `synchronousLock` through `lockPort` or a callback of its own.  The memory for
`queueLockPortPvt` and `pasynUserCopy` is there.
-/

namespace AsynDriver
namespace Manager
namespace LockPort

open Library

/-- What does not change: `attributes & ASYN_CANBLOCK`, and whether there is a
`pasynLockPortNotify`. -/
structure PortAttributes where
  canBlock : Bool
  notify : Bool
  deriving DecidableEq

/-- Who can own a mutex. -/
inductive Owner
  | thread (t : ThreadId)
  | portThread
  deriving DecidableEq, Repr

/-- A queued request: the `pasynUserCopy` of a thread, or any other `asynUser`. -/
inductive Request
  | lock (t : ThreadId)
  | ordinary (u : UserId)
  deriving DecidableEq, Repr

inductive LockOp
  | lock
  | unlock
  deriving DecidableEq, Repr

/-- A call of `pasynLockPortNotify->lock` or `->unlock`. -/
inductive NotifyCall
  | lock
  | unlock
  deriving DecidableEq, Repr

/-- A call that got so far as to lock or unlock, with the calls of `pasynLockPortNotify` it made. -/
structure LockCall where
  op : LockOp
  notified : List NotifyCall
  deriving DecidableEq, Repr

/-- The `return` statements of `queueLockPort`. -/
inductive LockExit
  | disabled
  | nested
  | queueRequest (status : AsynStatus)
  | timedOut
  | locked (status : AsynStatus)
  deriving DecidableEq, Repr

def LockExit.status : LockExit → AsynStatus
  | .disabled => .asynDisabled
  | .nested => .asynSuccess
  | .queueRequest status => status
  | .timedOut => .asynTimeout
  | .locked status => status

inductive Returned
  | queueLockPort (exit : LockExit)
  | queueUnlockPort (status : AsynStatus)
  deriving DecidableEq, Repr

/-- The locks of a thread: `queueLockPortCount`, whether it owns `queueLockPortMutex`, how often it
has taken `synchronousLock`, and whether the port thread is inside its `queueLockPortCallback`. -/
structure Holdings where
  count : Nat
  mutex : Bool
  synchronous : Nat
  parked : Bool
  deriving DecidableEq, Repr

/-- Where a thread stands. -/
inductive LockPc
  | idle
  | lockStart
  | lockQueue
  | lockWait
  | lockNotify
  | unlockRelease (status : AsynStatus)
  | unlockWait (status : AsynStatus)
  deriving DecidableEq, Repr

structure LockThread where
  pc : LockPc
  queueLockPortEvent : Bool
  queueLockPortMutex : Option Owner
  queueLockPortCount : Nat
  auxStatus : AsynStatus
  /-- The successful calls of `queueLockPort` that have not been unlocked. -/
  depth : Nat
  /-- The locks when `queueLockPort` was called last. -/
  before : Holdings
  /-- What the last call returned, until the next one. -/
  returned : Option Returned
  /-- What `pasynLockPortNotify->lock` returned in the last `queueLockPort`, if it was called. -/
  notifyStatus : Option AsynStatus
  calls : List LockCall
  deriving DecidableEq

def LockThread.start : LockThread where
  pc := .idle
  queueLockPortEvent := false
  queueLockPortMutex := none
  queueLockPortCount := 0
  auxStatus := .asynSuccess
  depth := 0
  before := ⟨0, false, 0, false⟩
  returned := none
  notifyStatus := none
  calls := []

/-- Where the port thread stands in the callback of a request. -/
inductive PortStage
  | taken (callTimeoutUser : Bool)
  | callback (callTimeoutUser : Bool)
  | signalTimeout
  | waitMutex
  | holdMutex
  | signalEnd
  | finish
  deriving DecidableEq, Repr

inductive PortPc
  | idle
  | busy (r : Request) (stage : PortStage)
  deriving DecidableEq, Repr

/-- The timer thread: `signal` says that `auxStatus` has been set. -/
inductive TimerPc
  | idle
  | busy (r : Request) (signal : Bool)
  deriving DecidableEq, Repr

structure State where
  enabled : Bool
  connected : Bool
  queue : List Request
  /-- `synchronousLock`, with the number of times its owner has taken it. -/
  synchronousLock : Option (Owner × Nat)
  thread : ThreadId → LockThread
  portThread : PortPc
  timerThread : TimerPc

/-! ## The locks -/

def State.modThread (s : State) (t : ThreadId) (f : LockThread → LockThread) : State :=
  { s with thread := Function.update s.thread t (f (s.thread t)) }

/-- `epicsMutexMustLock(pport->synchronousLock)`; `none` if another owner has it. -/
def State.takeSynchronous (s : State) (o : Owner) : Option State :=
  match s.synchronousLock with
  | none => some { s with synchronousLock := some (o, 1) }
  | some (o', n) => if o' = o then some { s with synchronousLock := some (o, n + 1) } else none

/-- `epicsMutexUnlock(pport->synchronousLock)` by its owner. -/
def State.dropSynchronous (s : State) (o : Owner) : Option State :=
  match s.synchronousLock with
  | none => none
  | some (o', n) =>
      if o' = o then
        some { s with synchronousLock := if n ≤ 1 then none else some (o, n - 1) }
      else none

/-- How often a thread has taken `synchronousLock`. -/
def State.synchronousDepth (s : State) (t : ThreadId) : Nat :=
  match s.synchronousLock with
  | none => 0
  | some (o, n) => if o = .thread t then n else 0

/-- Where the port thread is in the `queueLockPortCallback` of a thread. -/
inductive Park
  | away
  | waiting
  | holding
  | leaving
  deriving DecidableEq, Repr

def PortStage.park : PortStage → Park
  | .waitMutex => .waiting
  | .holdMutex => .holding
  | .signalEnd => .leaving
  | _ => .away

def PortPc.park (pc : PortPc) (t : ThreadId) : Park :=
  match pc with
  | .idle => .away
  | .busy r stage => if r = .lock t then stage.park else .away

def State.holdings (s : State) (t : ThreadId) : Holdings where
  count := (s.thread t).queueLockPortCount
  mutex := (s.thread t).queueLockPortMutex = some (.thread t)
  synchronous := s.synchronousDepth t
  parked := s.portThread.park t ≠ .away

/-! ## `queueLockPort` -/

/-- Up to the test of `enabled`. -/
def callLock (s : State) (t : ThreadId) : Option State :=
  if (s.thread t).pc = .idle then
    if s.enabled then
      some (s.modThread t fun v =>
        { v with pc := .lockStart, before := s.holdings t, returned := none, notifyStatus := none })
    else
      some (s.modThread t fun v =>
        { v with
          before := s.holdings t
          returned := some (.queueLockPort .disabled)
          notifyStatus := none })
  else none

/-- The test for recursion, or the mutex; on a port that cannot block, `synchronousLock`. -/
def enterLock (p : PortAttributes) (s : State) (t : ThreadId) : Option State :=
  if (s.thread t).pc = .lockStart then
    if p.canBlock then
      if 0 < (s.thread t).queueLockPortCount then
        some (s.modThread t fun v =>
          { v with
            pc := .idle
            queueLockPortCount := v.queueLockPortCount + 1
            depth := v.depth + 1
            returned := some (.queueLockPort .nested)
            calls := v.calls ++ [⟨.lock, []⟩] })
      else if (s.thread t).queueLockPortMutex = none then
        some (s.modThread t fun v =>
          { v with
            pc := .lockQueue
            queueLockPortMutex := some (.thread t)
            auxStatus := .asynSuccess })
      else none
    else
      (s.takeSynchronous (.thread t)).map fun s' => s'.modThread t fun v =>
        { v with pc := .lockNotify }
  else none

/-- The failure of `queueRequest` in `queueLockPort`. -/
def refuseLock (s : State) (t : ThreadId) (status : AsynStatus) : State :=
  s.modThread t fun v =>
    { v with
      pc := .idle
      queueLockPortMutex := none
      returned := some (.queueLockPort (.queueRequest status)) }

/-- `queueRequest(pasynUserCopy, asynQueuePriorityLow, timeout)`. -/
def queueLock (s : State) (t : ThreadId) : Option State :=
  if (s.thread t).pc = .lockQueue then
    if !s.enabled then some (refuseLock s t .asynDisabled)
    else if !s.connected then some (refuseLock s t .asynDisconnected)
    else
      some ({ s with queue := s.queue ++ [Request.lock t] }.modThread t fun v =>
        { v with pc := .lockWait })
  else none

/-- The event has been signalled; `auxStatus` says by whom. -/
def awakeLock (s : State) (t : ThreadId) : Option State :=
  if (s.thread t).pc = .lockWait ∧ (s.thread t).queueLockPortEvent then
    if (s.thread t).auxStatus ≠ .asynSuccess then
      some (s.modThread t fun v =>
        { v with
          pc := .idle
          queueLockPortEvent := false
          queueLockPortMutex := none
          returned := some (.queueLockPort .timedOut) })
    else
      some (s.modThread t fun v =>
        { v with
          pc := .lockNotify
          queueLockPortEvent := false
          queueLockPortCount := v.queueLockPortCount + 1 })
  else none

/-- `pasynLockPortNotify->lock`, which returns `status`, and the end of `queueLockPort`. -/
def notifyLock (p : PortAttributes) (s : State) (t : ThreadId) (status : AsynStatus) : Option State :=
  if (s.thread t).pc = .lockNotify then
    let status := if p.notify then status else .asynSuccess
    some (s.modThread t fun v =>
      { v with
        pc := .idle
        depth := if status = .asynSuccess then v.depth + 1 else v.depth
        returned := some (.queueLockPort (.locked status))
        notifyStatus := if p.notify then some status else none
        calls := v.calls ++ [⟨.lock, if p.notify then [.lock] else []⟩] })
  else none

/-! ## `queueUnlockPort` -/

/-- `pasynLockPortNotify->unlock`, which returns `status`. -/
def callUnlock (p : PortAttributes) (s : State) (t : ThreadId) (status : AsynStatus) : Option State :=
  if (s.thread t).pc = .idle then
    some (s.modThread t fun v =>
      { v with
        pc := .unlockRelease (if p.notify then status else .asynSuccess)
        returned := none })
  else none

/-- The end of `queueUnlockPort`. -/
def LockThread.unlocked (p : PortAttributes) (v : LockThread) (status : AsynStatus) : LockThread :=
  { v with
    pc := .idle
    depth := v.depth - 1
    returned := some (.queueUnlockPort status)
    calls := v.calls ++ [⟨.unlock, if p.notify then [.unlock] else []⟩] }

/-- The tests of `queueLockPortCount`, and the mutex; on a port that cannot block,
`synchronousLock`. -/
def release (p : PortAttributes) (s : State) (t : ThreadId) : Option State :=
  match (s.thread t).pc with
  | .unlockRelease status =>
      if p.canBlock then
        if (s.thread t).queueLockPortCount = 0 then
          some (s.modThread t fun v => v.unlocked p .asynError)
        else if 1 < (s.thread t).queueLockPortCount then
          some (s.modThread t fun v =>
            { v.unlocked p status with queueLockPortCount := v.queueLockPortCount - 1 })
        else
          some (s.modThread t fun v =>
            { v with pc := .unlockWait status, queueLockPortMutex := none })
      else (s.dropSynchronous (.thread t)).map fun s' => s'.modThread t fun v => v.unlocked p status
  | _ => none

/-- The end event. -/
def awakeUnlock (p : PortAttributes) (s : State) (t : ThreadId) : Option State :=
  match (s.thread t).pc with
  | .unlockWait status =>
      if (s.thread t).queueLockPortEvent then
        some (s.modThread t fun v =>
          { v.unlocked p status with
            queueLockPortEvent := false
            queueLockPortCount := v.queueLockPortCount - 1 })
      else none
  | _ => none

/-! ## The other threads -/

/-- The port thread takes a request off the queue. -/
def portTake (s : State) (r : Request) (callTimeoutUser : Bool) : Option State :=
  if s.portThread = .idle ∧ r ∈ s.queue then
    some { s with queue := s.queue.erase r, portThread := .busy r (.taken callTimeoutUser) }
  else none

/-- The port thread's next step with a request. -/
def portStep (s : State) : Option State :=
  match s.portThread with
  | .idle => none
  | .busy r (.taken callTimeoutUser) =>
      (s.takeSynchronous .portThread).map fun s' =>
        { s' with portThread := .busy r (.callback callTimeoutUser) }
  | .busy (.ordinary u) (.callback _) => some { s with portThread := .busy (.ordinary u) .finish }
  | .busy (.lock t) (.callback false) =>
      some ({ s with portThread := .busy (.lock t) .waitMutex }.modThread t fun v =>
        { v with queueLockPortEvent := true })
  | .busy (.lock t) (.callback true) =>
      some ({ s with portThread := .busy (.lock t) .signalTimeout }.modThread t fun v =>
        { v with auxStatus := .asynTimeout })
  | .busy (.lock t) .signalTimeout =>
      some ({ s with portThread := .busy (.lock t) .finish }.modThread t fun v =>
        { v with queueLockPortEvent := true })
  | .busy (.lock t) .waitMutex =>
      if (s.thread t).queueLockPortMutex = none then
        some ({ s with portThread := .busy (.lock t) .holdMutex }.modThread t fun v =>
          { v with queueLockPortMutex := some .portThread })
      else none
  | .busy (.lock t) .holdMutex =>
      some ({ s with portThread := .busy (.lock t) .signalEnd }.modThread t fun v =>
        { v with queueLockPortMutex := none })
  | .busy (.lock t) .signalEnd =>
      some ({ s with portThread := .busy (.lock t) .finish }.modThread t fun v =>
        { v with queueLockPortEvent := true })
  | .busy _ .finish => (s.dropSynchronous .portThread).map fun s' => { s' with portThread := .idle }
  | .busy (.ordinary _) _ => none

/-- `queueTimeoutCallback`: a queued request is taken off its queue. -/
def timerExpire (s : State) (r : Request) : Option State :=
  if s.timerThread = .idle ∧ r ∈ s.queue then
    some { s with queue := s.queue.erase r, timerThread := .busy r false }
  else none

/-- The `timeoutUser` of the request. -/
def timerStep (s : State) : Option State :=
  match s.timerThread with
  | .idle => none
  | .busy (.ordinary _) _ => some { s with timerThread := .idle }
  | .busy (.lock t) false =>
      some ({ s with timerThread := .busy (.lock t) true }.modThread t fun v =>
        { v with auxStatus := .asynTimeout })
  | .busy (.lock t) true =>
      some ({ s with timerThread := .idle }.modThread t fun v => { v with queueLockPortEvent := true })

/-! ## The machine -/

inductive Action
  | callLock (t : ThreadId)
  | enterLock (t : ThreadId)
  | queueLock (t : ThreadId)
  | awakeLock (t : ThreadId)
  | notifyLock (t : ThreadId) (status : AsynStatus)
  | callUnlock (t : ThreadId) (status : AsynStatus)
  | release (t : ThreadId)
  | awakeUnlock (t : ThreadId)
  /-- `lockPort`, or the beginning of a `queueRequest` on a port that cannot block. -/
  | takeSynchronous (t : ThreadId)
  | dropSynchronous (t : ThreadId)
  | portTake (r : Request) (callTimeoutUser : Bool)
  | portStep
  | timerExpire (r : Request)
  | timerStep
  /-- An ordinary `queueRequest`, and `cancelRequest`. -/
  | queueRequest (u : UserId)
  | cancelRequest (u : UserId)
  | enable (yesNo : Bool)
  | connect (yesNo : Bool)
  deriving DecidableEq

def step (p : PortAttributes) (s : State) : Action → Option State
  | .callLock t => callLock s t
  | .enterLock t => enterLock p s t
  | .queueLock t => queueLock s t
  | .awakeLock t => awakeLock s t
  | .notifyLock t status => notifyLock p s t status
  | .callUnlock t status => callUnlock p s t status
  | .release t => release p s t
  | .awakeUnlock t => awakeUnlock p s t
  | .takeSynchronous t =>
      if (s.thread t).pc = .idle then
        (s.takeSynchronous (.thread t)).map fun s' => s'.modThread t fun v =>
          { v with returned := none }
      else none
  | .dropSynchronous t =>
      if (s.thread t).pc = .idle then
        (s.dropSynchronous (.thread t)).map fun s' => s'.modThread t fun v =>
          { v with returned := none }
      else none
  | .portTake r callTimeoutUser => portTake s r callTimeoutUser
  | .portStep => portStep s
  | .timerExpire r => timerExpire s r
  | .timerStep => timerStep s
  | .queueRequest u =>
      if p.canBlock ∧ s.enabled ∧ Request.ordinary u ∉ s.queue then
        some { s with queue := s.queue ++ [Request.ordinary u] }
      else none
  | .cancelRequest u =>
      if Request.ordinary u ∈ s.queue then some { s with queue := s.queue.erase (.ordinary u) }
      else none
  | .enable yesNo => some { s with enabled := yesNo }
  | .connect yesNo => some { s with connected := yesNo }

/-- A port on which nobody has called `queueLockPort`. -/
def Initial (s : State) : Prop :=
  s.queue = [] ∧ s.synchronousLock = none ∧ s.thread = (fun _ => .start) ∧ s.portThread = .idle ∧
    s.timerThread = .idle

def machine (p : PortAttributes) : Machine State Action := ⟨Initial, step p⟩

/-- The registered port. -/
def State.start : State where
  enabled := true
  connected := true
  queue := []
  synchronousLock := none
  thread := fun _ => .start
  portThread := .idle
  timerThread := .idle

theorem initial_start (p : PortAttributes) : (machine p).init .start :=
  ⟨rfl, rfl, rfl, rfl, rfl⟩

end LockPort
end Manager
end AsynDriver
