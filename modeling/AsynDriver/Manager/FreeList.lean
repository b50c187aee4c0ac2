import AsynDriver.Library.Machine
import AsynDriver.Manager.Types

/-!
# Creating and freeing an `asynUser`

`createAsynUser` and `freeAsynUser` with the threads that call `processUser` and `timeoutUser`: the port
threads and the timer thread, which runs `queueTimeoutCallback`.

* `State.lock` is `pasynBase->lock`, `State.asynManagerLock` the mutex of each port.  `freeAsynUser`
  reads `state` and writes `freeAfterCallback` under the first; the end of a callback writes `state`
  and reads `freeAfterCallback` under the second.
* `AsynUser` — a `userPvt` with where it is in its life; `executors` and `adds` record which threads
  are in a callback of it and how often it was put on `asynUserFreeList` since it was created.
* `createPop`, `createInit`; `freeCall`, `freeTest`, `freeAct`; `startCallback`, `endCallback`,
  `testFree`, `addFree`.

An `asynUser` is used only between `createAsynUser` and the `freeAsynUser` that succeeds.  Which queued
request a thread takes is left to the action, as is every test that only refuses a call.  The ports
are those with `ASYN_CANBLOCK`: on the others `queueRequest` calls `processUser` itself.
-/

namespace AsynDriver
namespace Manager
namespace FreeList

open Library

/-- A thread that calls the callbacks of queued requests. -/
inductive Executor
  | portThread (p : PortId)
  | timerThread
  deriving DecidableEq, Repr

/-- Where it stands with the callback of an `asynUser` that was queued for a port.  From `finishing`
on it owns the port's `asynManagerLock`. -/
inductive ExecutorPc
  | idle
  | running (u : UserId) (p : PortId)
  | finishing (u : UserId) (p : PortId)
  | adding (u : UserId) (p : PortId)
  deriving DecidableEq, Repr

/-- The life of a `userPvt`: `initializing` is inside `createAsynUser`, `freeing` and `testing` are
inside `freeAsynUser`, before and after its test of `state`. -/
inductive Phase
  | unborn
  | initializing
  | live
  | freeing
  | testing
  | freed
  deriving DecidableEq, Repr

structure AsynUser where
  userPvt : UserPvt
  phase : Phase
  executors : List Executor
  adds : Nat

structure State where
  asynUserFreeList : List UserId
  /-- The `freeAsynUser` that owns `pasynBase->lock`, and whether it has found `callbackIdle`. -/
  lock : Option (UserId × Bool)
  asynManagerLock : PortId → Bool
  user : UserId → AsynUser
  executor : Executor → ExecutorPc

def State.modUser (s : State) (u : UserId) (f : AsynUser → AsynUser) : State :=
  { s with user := Function.update s.user u (f (s.user u)) }

def State.setUserPvt (s : State) (u : UserId) (v : UserPvt) : State :=
  s.modUser u fun x => { x with userPvt := v }

def State.setExecutor (s : State) (e : Executor) (pc : ExecutorPc) : State :=
  { s with executor := Function.update s.executor e pc }

def State.setManagerLock (s : State) (p : PortId) (b : Bool) : State :=
  { s with asynManagerLock := Function.update s.asynManagerLock p b }

/-! ## `createAsynUser` -/

/-- The first of `asynUserFreeList`, or memory that is not in use. -/
def createPop (s : State) (fresh : UserId) : Option State :=
  if s.lock = none then
    match s.asynUserFreeList with
    | [] =>
        if (s.user fresh).phase = .unborn then
          some (s.modUser fresh fun x =>
            { x with userPvt := .zero, phase := .initializing, adds := 0 })
        else none
    | u :: rest =>
        some ({ s with asynUserFreeList := rest }.modUser u fun x =>
          { x with phase := .initializing, adds := 0 })
  else none

/-- The `assert`s of `createAsynUser`. -/
def CreateAsserts (v : UserPvt) : Prop :=
  v.blockPortCount = 0 ∧ v.blockDeviceCount = 0 ∧ v.freeAfterCallback = false ∧
    v.pexceptionUser = false

instance (v : UserPvt) : Decidable (CreateAsserts v) :=
  inferInstanceAs (Decidable (_ ∧ _ ∧ _ ∧ _))

/-- The assignments around the `assert`s. -/
def created (v : UserPvt) (process timeout : Bool) : UserPvt :=
  { v with
    processUser := process
    timeoutUser := timeout
    timeout := 0
    state := .callbackIdle
    isQueued := false
    queueEvenIfNotConnected := false }

/-- Without `pasynBase->lock`; there is no next state when an `assert` fails. -/
def createInit (s : State) (u : UserId) (process timeout : Bool) : Option State :=
  if (s.user u).phase = .initializing ∧ CreateAsserts (s.user u).userPvt then
    some (s.modUser u fun x => { x with userPvt := created x.userPvt process timeout, phase := .live })
  else none

/-! ## What the owner of an `asynUser` does with it -/

/-- A call that the owner makes under the `asynManagerLock` of the port of the `asynUser`; `none` is
a call that is refused. -/
def clientCall (s : State) (u : UserId) (f : UserPvt → Option UserPvt) : Option State :=
  if (s.user u).phase = .live then
    match (s.user u).userPvt.pport with
    | none => none
    | some p => if s.asynManagerLock p then none else (f (s.user u).userPvt).map (s.setUserPvt u)
  else none

def connectDevice (s : State) (u : UserId) (p : PortId) (addr : Option Nat) : Option State :=
  if (s.user u).phase = .live ∧ (s.user u).userPvt.pport = none ∧ s.asynManagerLock p = false then
    some (s.setUserPvt u { (s.user u).userPvt with
      pport := some p
      pdevice := addr.or (s.user u).userPvt.pdevice })
  else none

def disconnect (v : UserPvt) : Option UserPvt :=
  if v.isQueued then none
  else if 0 < v.blockPortCount ∨ 0 < v.blockDeviceCount then none
  else if v.pexceptionUser then none
  else some { v with pport := none, pdevice := none }

def queueRequest (timeout : Int) (v : UserPvt) : Option UserPvt :=
  if v.isQueued then none
  else if 0 < timeout ∧ v.timeoutUser = false then none
  else some { v with isQueued := true, timeout := if timeout ≤ 0 then 0 else timeout }

/-- The request is taken off its queue, or the callback that runs is marked. -/
def cancelRequest (v : UserPvt) : Option UserPvt :=
  if v.isQueued then some { v with isQueued := false }
  else if v.state = .callbackActive then some { v with state := .callbackCanceled }
  else none

def blockProcessCallback (allDevices : Bool) (v : UserPvt) : Option UserPvt :=
  if v.isQueued then none
  else if allDevices then some { v with blockPortCount := v.blockPortCount + 1 }
  else some { v with blockDeviceCount := v.blockDeviceCount + 1 }

def unblockProcessCallback (allDevices : Bool) (v : UserPvt) : Option UserPvt :=
  if v.isQueued then none
  else if allDevices then
    if v.blockPortCount = 0 then none else some { v with blockPortCount := v.blockPortCount - 1 }
  else if v.blockDeviceCount = 0 then none
  else some { v with blockDeviceCount := v.blockDeviceCount - 1 }

def exceptionCallbackAdd (v : UserPvt) : Option UserPvt :=
  if v.pexceptionUser then none else some { v with pexceptionUser := true }

def exceptionCallbackRemove (v : UserPvt) : Option UserPvt :=
  if v.pexceptionUser then some { v with pexceptionUser := false } else none

/-! ## `freeAsynUser` -/

/-- The call of `disconnect`; when it fails the `asynUser` stays with its owner. -/
def freeCall (s : State) (u : UserId) : Option State :=
  if (s.user u).phase = .live then
    match (s.user u).userPvt.pport with
    | none => some (s.modUser u fun x => { x with phase := .freeing })
    | some p =>
        if s.asynManagerLock p then none
        else
          match disconnect (s.user u).userPvt with
          | none => some s
          | some v => some (s.modUser u fun x => { x with userPvt := v, phase := .freeing })
  else none

/-- `epicsMutexMustLock(pasynBase->lock)` and the test of `state`. -/
def freeTest (s : State) (u : UserId) : Option State :=
  if (s.user u).phase = .freeing ∧ s.lock = none then
    let idle := decide ((s.user u).userPvt.state = CallbackState.callbackIdle)
    some ({ s with lock := some (u, idle) }.modUser u fun x => { x with phase := .testing })
  else none

/-- The two branches, and `asynSuccess`. -/
def freeAct (s : State) : Option State :=
  match s.lock with
  | none => none
  | some (u, true) =>
      some ({ s with lock := none, asynUserFreeList := s.asynUserFreeList ++ [u] }.modUser u fun x =>
        { x with phase := .freed, adds := x.adds + 1 })
  | some (u, false) =>
      some ({ s with lock := none }.modUser u fun x =>
        { x with userPvt := { x.userPvt with freeAfterCallback := true }, phase := .freed })

/-! ## The callbacks -/

/-- The request is found on its queue: `isQueued` and `state` are set, and the lock is released for
the callback. -/
def startCallback (s : State) (e : Executor) (u : UserId) : Option State :=
  match (s.user u).userPvt.pport with
  | none => none
  | some p =>
      if s.executor e = .idle ∧ (e = .portThread p ∨ e = .timerThread) ∧ s.asynManagerLock p = false ∧
          (s.user u).userPvt.isQueued = true then
        if e = .timerThread ∧ (s.user u).userPvt.timeoutUser = false then
          some (s.setUserPvt u { (s.user u).userPvt with isQueued := false })
        else
          some ((s.setExecutor e (.running u p)).modUser u fun x =>
            { x with
              userPvt := { x.userPvt with isQueued := false, state := .callbackActive }
              executors := x.executors ++ [e] })
      else none

/-- The callback has returned, and `state` is set under `asynManagerLock`. -/
def endCallback (s : State) (e : Executor) : Option State :=
  match s.executor e with
  | .running u p =>
      if s.asynManagerLock p then none
      else
        some (((s.setExecutor e (.finishing u p)).setManagerLock p true).modUser u fun x =>
          { x with userPvt := { x.userPvt with
              callbackDone := x.userPvt.callbackDone || decide (x.userPvt.state = .callbackCanceled)
              state := .callbackIdle } })
  | _ => none

/-- The test of `freeAfterCallback`. -/
def testFree (s : State) (e : Executor) : Option State :=
  match s.executor e with
  | .finishing u p =>
      if (s.user u).userPvt.freeAfterCallback then
        some ((s.setExecutor e (.adding u p)).modUser u fun x =>
          { x with userPvt := { x.userPvt with freeAfterCallback := false } })
      else
        some (((s.setExecutor e .idle).setManagerLock p false).modUser u fun x =>
          { x with executors := x.executors.erase e })
  | _ => none

/-- `ellAdd` under `pasynBase->lock`. -/
def addFree (s : State) (e : Executor) : Option State :=
  match s.executor e with
  | .adding u p =>
      if s.lock = none then
        some ((({ s with asynUserFreeList := s.asynUserFreeList ++ [u] }.setExecutor e
          .idle).setManagerLock p false).modUser u fun x =>
            { x with executors := x.executors.erase e, adds := x.adds + 1 })
      else none
  | _ => none

/-! ## The machine -/

inductive Action
  | createPop (fresh : UserId)
  | createInit (u : UserId) (process timeout : Bool)
  | connectDevice (u : UserId) (p : PortId) (addr : Option Nat)
  | disconnect (u : UserId)
  | queueRequest (u : UserId) (timeout : Int)
  | cancelRequest (u : UserId)
  | blockProcessCallback (u : UserId) (allDevices : Bool)
  | unblockProcessCallback (u : UserId) (allDevices : Bool)
  | exceptionCallbackAdd (u : UserId)
  | exceptionCallbackRemove (u : UserId)
  | freeCall (u : UserId)
  | freeTest (u : UserId)
  | freeAct
  | startCallback (e : Executor) (u : UserId)
  | endCallback (e : Executor)
  | testFree (e : Executor)
  | addFree (e : Executor)
  deriving DecidableEq

def step (s : State) : Action → Option State
  | .createPop fresh => createPop s fresh
  | .createInit u process timeout => createInit s u process timeout
  | .connectDevice u p addr => connectDevice s u p addr
  | .disconnect u => clientCall s u disconnect
  | .queueRequest u timeout => clientCall s u (queueRequest timeout)
  | .cancelRequest u => clientCall s u cancelRequest
  | .blockProcessCallback u allDevices => clientCall s u (blockProcessCallback allDevices)
  | .unblockProcessCallback u allDevices => clientCall s u (unblockProcessCallback allDevices)
  | .exceptionCallbackAdd u => clientCall s u exceptionCallbackAdd
  | .exceptionCallbackRemove u => clientCall s u exceptionCallbackRemove
  | .freeCall u => freeCall s u
  | .freeTest u => freeTest s u
  | .freeAct => freeAct s
  | .startCallback e u => startCallback s e u
  | .endCallback e => endCallback s e
  | .testFree e => testFree s e
  | .addFree e => addFree s e

/-- Memory that no `createAsynUser` has returned. -/
def AsynUser.unborn : AsynUser where
  userPvt := .zero
  phase := .unborn
  executors := []
  adds := 0

/-- After `asynInit`. -/
def State.start : State where
  asynUserFreeList := []
  lock := none
  asynManagerLock := fun _ => false
  user := fun _ => .unborn
  executor := fun _ => .idle

def machine : Machine State Action := ⟨(· = .start), step⟩

/-! ## What the callers rely on -/

/-- The thread is in `processUser` or `timeoutUser` of an `asynUser`. -/
def State.Executing (s : State) (e : Executor) (u : UserId) : Prop :=
  ∃ p, s.executor e = .running u p

/-- The thread will put the `asynUser` on `asynUserFreeList` when its callback has ended. -/
def State.WillAdd (s : State) (e : Executor) (u : UserId) : Prop :=
  (∃ p, s.executor e = .adding u p) ∨
    ((∃ p, s.executor e = .running u p ∨ s.executor e = .finishing u p) ∧
      (s.user u).userPvt.freeAfterCallback = true)

/-- No `asynUser` is lost or shared. -/
structure FreeSafe (s : State) : Prop where
  /-- A freed `asynUser` is put on the list exactly once. -/
  once : ∀ u, (s.user u).phase = .freed →
    (u ∈ s.asynUserFreeList ∧ (s.user u).adds = 1) ∨
      (u ∉ s.asynUserFreeList ∧ (s.user u).adds = 0 ∧ ∃ e, s.WillAdd e u)
  nodup : s.asynUserFreeList.Nodup
  notLive : ∀ u ∈ s.asynUserFreeList, (s.user u).phase = .freed
  notExecuting : ∀ u ∈ s.asynUserFreeList, ∀ e, ¬ s.Executing e u
  asserts : ∀ u, (s.user u).phase = .initializing → CreateAsserts (s.user u).userPvt

end FreeList
end Manager
end AsynDriver
