import AsynDriver.DevEpics.DevPvt
import AsynDriver.Manager.InterruptList

/-!
# Time series

The waveform device support of `devAsynXXXTimeSeries.h` for any number of records on one interrupt
list, and the thread of the driver that calls their callbacks.

* `DevAsynWf` — a record with its private data; `arm`, `start` and `release` are `process` up to the
  call of `registerInterruptUser` or `cancelInterruptUser` and after it, `interruptCallback` is the
  callback.
* `State`, `Action`, `machine` — the records, the interrupt list and the driver between `interruptStart`
  and `interruptEnd`.
* `Deadlocked` — a record's thread waits in `cancelInterruptUser` for the driver, and the driver in the
  callback for the record's lock.

`process` holds the private lock over the call, which may wait; the callback takes it.  A record has one
thread at a time, since it is processed under its scan lock.  The callbacks of other users take none of
these locks, so the walk is along the callbacks of the records.
-/

namespace AsynDriver
namespace DevEpics
namespace TimeSeries

open Library
open Manager (AsynStatus ThreadId)
open Manager.InterruptList (NodeId Call)

/-! ## A record -/

/-- Where the thread that processes the record is: `registering` and `cancelling` are inside the
interface's function, with the node of the registration; `reporting` has released the lock. -/
inductive Pc
  | idle
  | registering (n : NodeId)
  | cancelling (n : NodeId)
  | finishing
  | reporting
  deriving DecidableEq, Repr

/-- What `process` and `interruptCallback` use of a `waveformRecord`. -/
structure WaveformRecord (α : Type) where
  bptr : Nat → α
  nelm : Nat
  nord : Nat
  busy : Bool
  rarm : Nat
  udf : Bool
  /-- `nsta` and `nsev`. -/
  alarm : Nat × Nat

/-- A record and its `devAsynWfPvt`; `lock` says that the record's thread holds it. -/
structure DevAsynWf (α : Type) where
  pwf : WaveformRecord α
  busy : Bool
  nord : Nat
  status : AsynStatus
  registrarPvt : Option NodeId
  lock : Bool
  pc : Pc

namespace DevAsynWf

variable {α : Type}

/-- The `switch` on `RARM`, and the local `busy` behind it; `zero` is the element of zero bytes. -/
def arm (zero : α) (p : DevAsynWf α) : DevAsynWf α × Bool :=
  match p.pwf.rarm with
  | 1 => ({ p with nord := 0, pwf := { p.pwf with bptr := fun _ => zero } }, true)
  | 2 => (p, false)
  | 3 => (p, true)
  | _ => (p, p.busy)

/-- `process` from the lock to the call, if there is one; `n` is the node of a new registration. -/
def start (zero : α) (p : DevAsynWf α) (n : NodeId) : Option (DevAsynWf α) :=
  let r := p.arm zero
  let p := { r.1 with lock := true, pwf := { r.1.pwf with nord := r.1.nord } }
  if p.pwf.busy = r.2 then some { p with pc := .finishing }
  else
    let p := { p with pwf := { p.pwf with busy := r.2 } }
    if r.2 then some { p with registrarPvt := some n, pc := .registering n }
    else p.registrarPvt.map fun m => { p with pc := .cancelling m }

/-- `process` from there to the release of the lock; `alarmStat` and `alarmSevr`, which nobody
initialises, are 0. -/
def release (p : DevAsynWf α) : DevAsynWf α :=
  let alarm := asynStatusToEpicsAlarm p.status epicsAlarmRead epicsAlarmNone epicsSevInvalid epicsSevNone
  { p with
    busy := p.pwf.busy
    lock := false
    pwf :=
      { p.pwf with
        rarm := 0
        udf := false
        alarm := if p.status = .asynSuccess then p.pwf.alarm else recGblSetSevr p.pwf.alarm alarm }
    pc := .reporting }

/-- `interruptCallback`, and whether it requests that the record be processed. -/
def interruptCallback (p : DevAsynWf α) (value : α) (auxStatus : AsynStatus) :
    DevAsynWf α × Bool :=
  let r :=
    if p.busy then
      if p.nord < p.pwf.nelm then
        ({ p with
          nord := p.nord + 1
          pwf := { p.pwf with bptr := Function.update p.pwf.bptr p.nord value } }, false)
      else ({ p with busy := false }, true)
    else (p, false)
  ({ r.1 with status := if r.1.status = .asynSuccess then auxStatus else r.1.status }, r.2)

end DevAsynWf

/-! ## The records, the list and the driver -/

abbrev RecordId := Nat

/-- The thread of the driver, and that which processes a record. -/
def driver : ThreadId := 0

def recordThread (r : RecordId) : ThreadId := r + 1

/-- `ahead` are the nodes whose callbacks the walk has still to call, and `inside` is that of the
callback that is running or waits for its lock. -/
structure State (α : Type) where
  list : Manager.InterruptList.State
  /-- The nodes that `createInterruptNode` has returned. -/
  created : NodeId → Bool
  record : RecordId → DevAsynWf α
  ahead : List NodeId
  inside : Option NodeId

inductive Action (α : Type)
  /-- A put to `RARM` and the processing of the record, or a processing with `RARM` 0; `n` is the node
  that a registration gets. -/
  | process (r : RecordId) (rarm : Nat) (n : NodeId)
  | addInterruptUser (r : RecordId)
  | removeInterruptUser (r : RecordId)
  | wake (r : RecordId)
  | relock (r : RecordId)
  | release (r : RecordId)
  /-- `pPvt->status = asynSuccess`, without the lock. -/
  | resetStatus (r : RecordId)
  /-- `calls` are the nodes whose reason and address fit the new value. -/
  | interruptStart (calls : NodeId → Bool)
  | enterCallback
  | interruptCallback (value : α) (auxStatus : AsynStatus)
  | interruptEnd
  | shutdownPort

section Machine

variable {α : Type} (zero : α) (owner : NodeId → RecordId)

def State.setRecord (s : State α) (r : RecordId) (p : DevAsynWf α) : State α :=
  { s with record := Function.update s.record r p }

def process (s : State α) (r : RecordId) (rarm : Nat) (n : NodeId) : Option (State α) :=
  let p := s.record r
  if p.pc = .idle ∧ owner n = r ∧ s.created n = false then
    (DevAsynWf.start zero { p with pwf := { p.pwf with rarm := rarm } } n).map fun p' =>
      { s.setRecord r p' with
        created := if p'.pc = .registering n then Function.update s.created n true else s.created }
  else none

def addInterruptUser (s : State α) (r : RecordId) : Option (State α) :=
  match (s.record r).pc with
  | .registering n =>
      (Manager.InterruptList.addInterruptUser s.list (recordThread r) n).map fun l =>
        { s with list := l }
  | _ => none

def removeInterruptUser (s : State α) (r : RecordId) : Option (State α) :=
  match (s.record r).pc with
  | .cancelling n =>
      (Manager.InterruptList.removeInterruptUser s.list (recordThread r) n).map fun l =>
        { s with list := l }
  | _ => none

/-- The interface's function has returned, or there was none to call. -/
def returned (s : State α) (r : RecordId) : Bool :=
  match (s.record r).pc, s.list.thread (recordThread r) with
  | .registering _, .returned _ => true
  | .cancelling _, .returned _ => true
  | .finishing, _ => true
  | _, _ => false

def release (s : State α) (r : RecordId) : Option (State α) :=
  if returned s r then
    some { s.setRecord r (s.record r).release with list := s.list.setThread (recordThread r) .idle }
  else none

def resetStatus (s : State α) (r : RecordId) : Option (State α) :=
  if (s.record r).pc = .reporting then
    some (s.setRecord r { s.record r with status := .asynSuccess, pc := .idle })
  else none

def interruptStart (s : State α) (calls : NodeId → Bool) : Option (State α) :=
  (Manager.InterruptList.interruptStart s.list driver).map fun l =>
    { s with list := l, ahead := s.list.callbackList.filter calls }

/-- The walk comes to the next callback, which asks for the lock. -/
def enterCallback (s : State α) : Option (State α) :=
  match s.inside, s.ahead with
  | none, n :: rest => some { s with inside := some n, ahead := rest }
  | _, _ => none

/-- With the lock the callback runs to its end. -/
def interruptCallback (s : State α) (value : α) (auxStatus : AsynStatus) : Option (State α) :=
  match s.inside with
  | some n =>
      let p := s.record (owner n)
      if p.lock = false then
        some { s.setRecord (owner n) (p.interruptCallback value auxStatus).1 with inside := none }
      else none
  | none => none

def interruptEnd (s : State α) : Option (State α) :=
  if s.inside = none ∧ s.ahead = [] then
    (Manager.InterruptList.interruptEnd s.list driver).map fun l =>
      { s with list := l.setThread driver .idle }
  else none

def step (s : State α) : Action α → Option (State α)
  | .process r rarm n => process zero owner s r rarm n
  | .addInterruptUser r => addInterruptUser s r
  | .removeInterruptUser r => removeInterruptUser s r
  | .wake r =>
      (Manager.InterruptList.wake s.list (recordThread r)).map fun l => { s with list := l }
  | .relock r =>
      (Manager.InterruptList.relock s.list (recordThread r)).map fun l => { s with list := l }
  | .release r => release s r
  | .resetStatus r => resetStatus s r
  | .interruptStart calls => interruptStart s calls
  | .enterCallback => enterCallback s
  | .interruptCallback value auxStatus => interruptCallback owner s value auxStatus
  | .interruptEnd => interruptEnd s
  | .shutdownPort => some { s with list := { s.list with defunct := true } }

/-- After `initRecord`, with an array of `nelm` elements. -/
def DevAsynWf.new (nelm : Nat) : DevAsynWf α where
  pwf := ⟨fun _ => zero, nelm, 0, false, 0, true, (0, 0)⟩
  busy := false
  nord := 0
  status := .asynSuccess
  registrarPvt := none
  lock := false
  pc := .idle

def State.start (nelm : RecordId → Nat) : State α where
  list := .start
  created := fun _ => false
  record := fun r => .new zero (nelm r)
  ahead := []
  inside := none

/-- `owner` tells for which record a node is created. -/
def machine : Machine (State α) (Action α) where
  init s := ∃ nelm, s = State.start zero nelm
  step := step zero owner

/-- The record's thread waits for the end of the traversal, which has not signalled it, and holds the
record's lock; the driver is in the record's callback, where it waits for that lock. -/
structure Deadlocked (s : State α) (r : RecordId) (n : NodeId) : Prop where
  cancelling : (s.record r).pc = .cancelling n
  waiting : s.list.thread (recordThread r) = .waiting .removeInterruptUser n
  empty : (s.list.node n).callbackDone = false
  lock : (s.record r).lock = true
  inside : ∃ m, s.inside = some m ∧ owner m = r

/-- The traversal has a callback of the record still before it. -/
def ToCome (s : State α) (r : RecordId) : Prop := ∃ m, (s.inside = some m ∨ m ∈ s.ahead) ∧ owner m = r

/-- When `removeInterruptUser`, called for a record, comes to the test of `callbackActive`, at first or
after a wait, no traversal has a callback of the record still before it. -/
def Admissible (s : State α) : Action α → Prop
  | .removeInterruptUser r => s.list.defunct = false → ¬ ToCome owner s r
  | .relock r => (∃ n, (s.record r).pc = .cancelling n) → ¬ ToCome owner s r
  | _ => True

end Machine
end TimeSeries
end DevEpics
end AsynDriver
