import AsynDriver.Library.Machine
import AsynDriver.Manager.Types

/-!
# Waiting for an SRQ

One device of `devSupportGpib` on a port that can block: its `srqPvt`, its wait timer, the threads that
call `srqHandlerGpib`, and the records that use the device, with what `asynManager` keeps for the
`asynUser` of each.

* `GpibRecord` — the record and its `asynUser`.
* `Stage` — how far the port thread, or the thread of the queue timers, is with a callback.
* `Answer` — what `queueIt` meets; the port may be disabled, disconnected or full at any moment.
* `step` — one section of code under a lock, or one call of `asynManager`.
* `WaitSafe`, `Released` — what the wait has to keep and to come to.
* `Accepted` — no `blockProcessCallback` of `srqReadWait` and no `queueIt` of `srqHandlerGpib` or
  `waitTimeoutCallback` is refused.
* `Task` — what has to go on for the wait to end.

Only records with `pact` FALSE are processed.  The bytes that are written and read play no part here.
-/

namespace AsynDriver
namespace DevGpib
namespace SrqWait

open Library
open Manager (ThreadId)

abbrev RecordId := Nat

inductive SrqWaitState
  | srqWaitIdle
  | srqWait
  | srqWaitDone
  | srqWaitTimedOut
  deriving DecidableEq, Repr

/-- `gpibWrite` stands for every work function that neither waits nor is `readAfterWait`. -/
inductive Work
  | prepareToRead
  | gpibWrite
  | readAfterWait
  deriving DecidableEq, Repr

/-- `completing` is a request of `callbackRequestProcessCallback` that is still to run. -/
structure GpibRecord where
  work : Option Work
  pact : Bool
  completing : Bool
  isQueued : Bool
  blockDeviceCount : Nat
  deriving DecidableEq, Repr

def GpibRecord.start : GpibRecord := ⟨none, false, false, false, 0⟩

/-- The threads that call the callbacks of an `asynUser`. -/
inductive Executor
  | portThread
  | queueTimer
  deriving DecidableEq, Repr

/-- `called timedOut` is the entry of `queueCallback` or `queueTimeoutCallback`; `finishing` is
`gpibRead`, or a write, and `finish`. -/
inductive Stage
  | called (timedOut : Bool)
  | prepareToRead (failure : Bool)
  | readAfterWait
  | unblocking
  | finishing
  | returning
  deriving DecidableEq, Repr

/-- `waitTimeoutCallback`: not running, before its lock, and after its lock with `queueIt` to do. -/
inductive TimerStage
  | idle
  | entered
  | queueing
  deriving DecidableEq, Repr

/-- `srqHandlerGpib` after its lock in state `srqWait`. -/
inductive HandlerStage
  | idle
  | cancelling
  | queueing
  deriving DecidableEq, Repr

/-- `fault` is a failed `assert` or the use of a null `pgpibDpvt`. -/
structure State where
  waitState : SrqWaitState
  pgpibDpvt : Option RecordId
  unsollicitedHandler : Bool
  polled : Bool
  armed : Bool
  timer : TimerStage
  handler : ThreadId → HandlerStage
  record : RecordId → GpibRecord
  executing : Executor → Option (RecordId × Stage)
  pblockProcessHolder : Option RecordId
  fault : Bool

def State.start : State where
  waitState := .srqWaitIdle
  pgpibDpvt := none
  unsollicitedHandler := false
  polled := false
  armed := false
  timer := .idle
  handler := fun _ => .idle
  record := fun _ => .start
  executing := fun _ => none
  pblockProcessHolder := none
  fault := false

def State.setRecord (s : State) (r : RecordId) (f : GpibRecord → GpibRecord) : State :=
  { s with record := Function.update s.record r (f (s.record r)) }

def State.setStage (s : State) (e : Executor) (r : RecordId) (stage : Stage) : State :=
  { s with executing := Function.update s.executing e (some (r, stage)) }

def State.setHandler (s : State) (t : ThreadId) (stage : HandlerStage) : State :=
  { s with handler := Function.update s.handler t stage }

/-! ## The functions -/

/-- `isTimeWindowActive` held, `queueRequest` refused, or accepted. -/
inductive Answer
  | timeWindow
  | refused
  | accepted
  deriving DecidableEq, Repr

/-- `queueRequest` refuses an `asynUser` that is queued. -/
def queueIt (s : State) (r : RecordId) : Answer → Option State
  | .timeWindow => some s
  | .refused => some (s.setRecord r fun p => { p with pact := false })
  | .accepted =>
      if (s.record r).isQueued then none
      else some (s.setRecord r fun p => { p with isQueued := true, pact := true })

/-- `queueReadRequest`, `queueWriteRequest` or `queueRequest` of device support. -/
def process (s : State) (r : RecordId) (work : Work) (answer : Answer) : Option State :=
  if (s.record r).pact = false ∧ work ≠ .readAfterWait then
    queueIt (s.setRecord r fun p => { p with work := some work }) r answer
  else none

/-- The callback task processes the record again. -/
def complete (s : State) (r : RecordId) : Option State :=
  if (s.record r).completing then
    some (s.setRecord r fun p => { p with completing := false, pact := false })
  else none

/-- `portThread` takes a request; for a device that is not connected it calls the `timeoutUser`. -/
def portThread (s : State) (r : RecordId) (timedOut : Bool) : Option State :=
  if s.executing .portThread = none ∧ (s.record r).isQueued = true ∧
      (s.pblockProcessHolder = none ∨ s.pblockProcessHolder = some r) then
    some ((s.setRecord r fun p => { p with isQueued := false }).setStage .portThread r
      (.called timedOut))
  else none

/-- `queueTimeoutCallback` of `asynManager`. -/
def queueTimeout (s : State) (r : RecordId) : Option State :=
  if s.executing .queueTimer = none ∧ (s.record r).isQueued = true then
    some ((s.setRecord r fun p => { p with isQueued := false }).setStage .queueTimer r
      (.called true))
  else none

/-- The first statements of a work function that has been called with `failure`. -/
def Work.stage (failure : Bool) : Work → Stage
  | .prepareToRead => .prepareToRead failure
  | .gpibWrite => .finishing
  | .readAfterWait => .readAfterWait

/-- `queueCallback` and `queueTimeoutCallback` of `devSupportGpib`. -/
def queueCallback (s : State) (e : Executor) (windowActive : Bool) : Option State :=
  match s.executing e with
  | some (r, .called timedOut) =>
      if (s.record r).pact then
        match (s.record r).work with
        | none => some { s with fault := true }
        | some work =>
            some ((s.setRecord r fun p => { p with work := none }).setStage e r
              (work.stage (timedOut || windowActive)))
      else some (s.setStage e r .returning)
  | _ => none

/-- `blockProcessCallback` refuses an `asynUser` that is queued. -/
def srqReadWait (s : State) (e : Executor) (accepted : Bool) : Option State :=
  match s.executing e with
  | some (r, .prepareToRead false) =>
      if accepted = true ∧ (s.record r).isQueued = false then
        some ({ s with
          waitState := .srqWait
          polled := s.polled || !s.unsollicitedHandler
          pgpibDpvt := some r
          armed := true
          }.setRecord r (fun p => { p with
            work := some .readAfterWait
            blockDeviceCount := p.blockDeviceCount + 1 }) |>.setStage e r .returning)
      else some ({ s with waitState := .srqWait }.setStage e r .finishing)
  | _ => none

/-- `prepareToRead` without a wait: the commands that need none, and every failure before it. -/
def prepareToRead (s : State) (e : Executor) : Option State :=
  match s.executing e with
  | some (r, .prepareToRead _) => some (s.setStage e r .finishing)
  | _ => none

/-- The locked part of `readAfterWait`. -/
def readAfterWait (s : State) (e : Executor) : Option State :=
  match s.executing e with
  | some (r, .readAfterWait) =>
      if s.pgpibDpvt = some r then
        some ({ s with
          polled := s.polled && s.unsollicitedHandler
          waitState := .srqWaitIdle
          pgpibDpvt := none
          }.setStage e r .unblocking)
      else some { s with fault := true }
  | _ => none

/-- `unblockProcessCallback`, as `readAfterWait` calls it. -/
def unblockProcessCallback (s : State) (e : Executor) : Option State :=
  match s.executing e with
  | some (r, .unblocking) =>
      if (s.record r).blockDeviceCount = 0 ∨ (s.record r).isQueued = true then
        some (s.setStage e r .finishing)
      else
        some ({ s with
          pblockProcessHolder :=
            if (s.record r).blockDeviceCount = 1 ∧ s.pblockProcessHolder = some r then none
            else s.pblockProcessHolder
          }.setRecord r (fun p => { p with blockDeviceCount := p.blockDeviceCount - 1 })
          |>.setStage e r .finishing)
  | _ => none

/-- `gpibRead` or `gpibWrite` comes to `finish`, which calls `completeProcess`. -/
def finish (s : State) (e : Executor) : Option State :=
  match s.executing e with
  | some (r, .finishing) =>
      some ((s.setRecord r fun p => { p with completing := true }).setStage e r .returning)
  | _ => none

/-- The callback has returned; `portThread` then looks at the count. -/
def callbackReturns (s : State) (e : Executor) : Option State :=
  match s.executing e with
  | some (r, .returning) =>
      some { s with
        executing := Function.update s.executing e none
        pblockProcessHolder :=
          if e = .portThread ∧ 0 < (s.record r).blockDeviceCount then some r
          else s.pblockProcessHolder }
  | _ => none

/-- The locked part of `srqHandlerGpib`. -/
def srqHandlerGpib (s : State) (t : ThreadId) : Option State :=
  match s.handler t, s.waitState with
  | .idle, .srqWait => some ({ s with waitState := .srqWaitDone }.setHandler t .cancelling)
  -- messages and the handler of unsolicited SRQs
  | .idle, _ => some s
  | _, _ => none

/-- `epicsTimerCancel` waits for a timer callback that is running. -/
def cancelTimer (s : State) (t : ThreadId) : Option State :=
  if s.handler t = .cancelling ∧ s.timer = .idle then
    some ({ s with armed := false }.setHandler t .queueing)
  else none

/-- `queueIt(psrqPvt->pgpibDpvt)` -/
def queueWaiting (s : State) (answer : Answer) : Option State :=
  match s.pgpibDpvt with
  | none => some { s with fault := true }
  | some r => queueIt s r answer

def handlerQueueIt (s : State) (t : ThreadId) (answer : Answer) : Option State :=
  if s.handler t = .queueing then queueWaiting (s.setHandler t .idle) answer else none

/-- The armed timer expires. -/
def expire (s : State) : Option State :=
  if s.armed = true ∧ s.timer = .idle then some { s with armed := false, timer := .entered }
  else none

/-- The locked part of `waitTimeoutCallback`. -/
def waitTimeoutCallback (s : State) : Option State :=
  if s.timer = .entered then
    if s.waitState = .srqWait then
      if s.pgpibDpvt = none then some { s with fault := true }
      else some { s with waitState := .srqWaitTimedOut, timer := .queueing }
    else some { s with timer := .idle }
  else none

def timerQueueIt (s : State) (answer : Answer) : Option State :=
  if s.timer = .queueing then queueWaiting { s with timer := .idle } answer else none

/-- `registerSrqHandler`; a second handler is refused. -/
def registerSrqHandler (s : State) : State :=
  if s.unsollicitedHandler then s
  else
    { s with
      unsollicitedHandler := true
      polled := s.polled || s.waitState == .srqWaitIdle }

/-! ## Runs -/

inductive Action
  | process (r : RecordId) (work : Work) (answer : Answer)
  | complete (r : RecordId)
  | portThread (r : RecordId) (timedOut : Bool)
  | queueTimeout (r : RecordId)
  | queueCallback (e : Executor) (windowActive : Bool)
  | srqReadWait (e : Executor) (accepted : Bool)
  | prepareToRead (e : Executor)
  | readAfterWait (e : Executor)
  | unblockProcessCallback (e : Executor)
  | finish (e : Executor)
  | callbackReturns (e : Executor)
  | srqHandlerGpib (t : ThreadId)
  | cancelTimer (t : ThreadId)
  | handlerQueueIt (t : ThreadId) (answer : Answer)
  | expire
  | waitTimeoutCallback
  | timerQueueIt (answer : Answer)
  | registerSrqHandler
  deriving DecidableEq, Repr

/-- Nothing runs after a fault. -/
def step (s : State) (a : Action) : Option State :=
  if s.fault then none
  else
    match a with
    | .process r work answer => process s r work answer
    | .complete r => complete s r
    | .portThread r timedOut => portThread s r timedOut
    | .queueTimeout r => queueTimeout s r
    | .queueCallback e windowActive => queueCallback s e windowActive
    | .srqReadWait e accepted => srqReadWait s e accepted
    | .prepareToRead e => prepareToRead s e
    | .readAfterWait e => readAfterWait s e
    | .unblockProcessCallback e => unblockProcessCallback s e
    | .finish e => finish s e
    | .callbackReturns e => callbackReturns s e
    | .srqHandlerGpib t => srqHandlerGpib s t
    | .cancelTimer t => cancelTimer s t
    | .handlerQueueIt t answer => handlerQueueIt s t answer
    | .expire => expire s
    | .waitTimeoutCallback => waitTimeoutCallback s
    | .timerQueueIt answer => timerQueueIt s answer
    | .registerSrqHandler => some (registerSrqHandler s)

def machine : Machine State Action where
  init s := s = .start
  step := step

/-! ## Runs that come to rest -/

/-- No callback is executing. -/
structure Quiescent (s : State) : Prop where
  executing : ∀ e, s.executing e = none
  timer : s.timer = .idle
  handler : ∀ t, s.handler t = .idle

/-- A request of `r` that will run `readAfterWait`. -/
def ReadQueued (s : State) (r : RecordId) : Prop :=
  (s.record r).isQueued = true ∧ (s.record r).work = some .readAfterWait

/-- `psrqPvt->pgpibDpvt` is the record that blocks the device and waits. -/
def PointsToWaiting (s : State) : Prop :=
  ∃ r, s.pgpibDpvt = some r ∧ (s.record r).blockDeviceCount = 1 ∧
    (s.record r).work = some .readAfterWait

structure WaitSafe (s : State) : Prop where
  noFault : s.fault = false
  blocked : Quiescent s → ∀ r, 0 < (s.record r).blockDeviceCount →
    s.armed = true ∨ ReadQueued s r
  waiting : Quiescent s → s.waitState ≠ .srqWaitIdle → s.armed = true ∨ ∃ r, ReadQueued s r
  once : ∀ r, (s.record r).blockDeviceCount ≤ 1
  unblocks : ∀ e r, s.executing e = some (r, .unblocking) →
    (s.record r).blockDeviceCount = 1 ∧ (s.record r).isQueued = false
  handlerUses : ∀ t, s.handler t = .queueing → PointsToWaiting s
  timerUses : s.timer = .queueing ∨ (s.timer = .entered ∧ s.waitState = .srqWait) →
    PointsToWaiting s

/-- No record blocks the device, nothing waits, and the address is not polled for a record. -/
structure Released (s : State) : Prop where
  blocks : ∀ r, (s.record r).blockDeviceCount = 0
  waitState : s.waitState = .srqWaitIdle
  poll : s.unsollicitedHandler = false → s.polled = false

/-- The calls that the wait depends on are not refused. -/
def Accepted (_ : State) : Action → Prop
  | .srqReadWait _ accepted => accepted = true
  | .handlerQueueIt _ answer => answer = .accepted
  | .timerQueueIt answer => answer = .accepted
  | _ => True

instance (s : State) : (a : Action) → Decidable (Accepted s a)
  | .srqReadWait _ accepted => inferInstanceAs (Decidable (accepted = true))
  | .handlerQueueIt _ answer => inferInstanceAs (Decidable (answer = .accepted))
  | .timerQueueIt answer => inferInstanceAs (Decidable (answer = .accepted))
  | .process .. | .complete .. | .portThread .. | .queueTimeout .. | .queueCallback ..
  | .prepareToRead .. | .readAfterWait .. | .unblockProcessCallback .. | .finish ..
  | .callbackReturns .. | .srqHandlerGpib .. | .cancelTimer .. | .expire | .waitTimeoutCallback
  | .registerSrqHandler => inferInstanceAs (Decidable True)

/-- A thread that can go on, the armed timer, and a queued request. -/
inductive Task
  | expire
  | timer (stage : TimerStage)
  | handler (t : ThreadId) (stage : HandlerStage)
  | queued (r : RecordId)
  | executing (e : Executor) (r : RecordId) (stage : Stage)

def Task.pending : Task → State → Prop
  | .expire, s => s.armed = true ∧ s.timer = .idle
  | .timer stage, s => s.timer = stage ∧ stage ≠ .idle
  | .handler t stage, s =>
      s.handler t = stage ∧ stage ≠ .idle ∧ (stage = .cancelling → s.timer = .idle)
  | .queued r, s => (s.record r).isQueued = true
  | .executing e r stage, s => s.executing e = some (r, stage)

end SrqWait
end DevGpib
end AsynDriver
