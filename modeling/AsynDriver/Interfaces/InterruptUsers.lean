import AsynDriver.Manager.InterruptList

/-!
# Interrupt users of the interface bases

`registerInterruptUser` and `cancelInterruptUser` of `asynUInt32DigitalBase`, `asynOctetBase` and the
other interface bases, which differ in the type of `drvPvt` only, over the interrupt list of
`asynManager`.

* `Registration` — what has been allocated and freed for one node.
* `State` — the interrupt list and the registrations; a thread is in one of the two functions or in the
  driver's traversal.
* `finish` — what the two functions do when `addInterruptUser` or `removeInterruptUser` returns.
* `Sound` — what the registrations have to keep.
* `Accepted` — the steps after which they do.

Each registration has a node of its own: a node or a piece of memory that is allocated again counts as
a new one.
-/

namespace AsynDriver
namespace Interfaces
namespace InterruptUsers

open Library
open Manager (AsynStatus ThreadId)
open Manager.InterruptList (NodeId Call)

/-- How often memory for `drvPvt` was allocated, and how often `drvPvt`, its `asynUser` and the node were
freed. -/
structure Registration where
  memMalloc : Nat
  memFree : Nat
  freeAsynUser : Nat
  freeInterruptNode : Nat
  deriving DecidableEq, Repr

def Registration.none : Registration := ⟨0, 0, 0, 0⟩

/-- After `memMalloc` and `duplicateAsynUser`. -/
def Registration.created : Registration := ⟨1, 0, 0, 0⟩

/-- `cancelInterruptUser` when `removeInterruptUser` has returned; `freeInterruptNode` refuses a node
that is on the list. -/
def Registration.free (r : Registration) (status : AsynStatus) (isOnList : Bool) : Registration where
  memMalloc := r.memMalloc
  memFree := r.memFree + 1
  freeAsynUser := r.freeAsynUser + 1
  freeInterruptNode :=
    if status = .asynSuccess ∧ isOnList = false then r.freeInterruptNode + 1 else r.freeInterruptNode

/-- Where a thread is; inside `registering` and `cancelling` the interrupt list tells more. -/
inductive Pc
  | idle
  | registering (n : NodeId)
  | cancelling (n : NodeId)
  | walking
  | registered (status : AsynStatus)
  | cancelled (n : NodeId) (status : AsynStatus)
  deriving DecidableEq, Repr

structure State where
  list : Manager.InterruptList.State
  reg : NodeId → Registration
  pc : ThreadId → Pc

def State.setPc (s : State) (t : ThreadId) (pc : Pc) : State :=
  { s with pc := Function.update s.pc t pc }

/-- The thread leaves the function of the interrupt list. -/
def State.leaveList (s : State) (t : ThreadId) : State :=
  { s with list := s.list.setThread t .idle }

/-- `found` says that `getPortName`, `getAddr` and `getInterruptPvt` succeed; `n` is the new node. -/
def registerInterruptUser (s : State) (t : ThreadId) (n : NodeId) (found : Bool) : Option State :=
  if s.pc t = .idle ∧ (s.reg n).memMalloc = 0 then
    if found then
      some ({ s with reg := Function.update s.reg n .created }.setPc t (.registering n))
    else some (s.setPc t (.registered .asynError))
  else none

/-- `found` says that `getPortName` and `getAddr` succeed; `n` is the `registrarPvt` of a call of
`registerInterruptUser`. -/
def cancelInterruptUser (s : State) (t : ThreadId) (n : NodeId) (found : Bool) : Option State :=
  if s.pc t = .idle ∧ (s.reg n).memMalloc ≠ 0 then
    if found then some (s.setPc t (.cancelling n)) else some (s.setPc t (.cancelled n .asynError))
  else none

def addInterruptUser (s : State) (t : ThreadId) : Option State :=
  match s.pc t with
  | .registering n =>
      (Manager.InterruptList.addInterruptUser s.list t n).map fun l => { s with list := l }
  | _ => none

def removeInterruptUser (s : State) (t : ThreadId) : Option State :=
  match s.pc t with
  | .cancelling n =>
      (Manager.InterruptList.removeInterruptUser s.list t n).map fun l => { s with list := l }
  | _ => none

/-- The rest of the two functions, with the status of the interrupt list. -/
def finish (s : State) (t : ThreadId) : Option State :=
  match s.pc t, s.list.thread t with
  | .registering _, .returned status => some ((s.leaveList t).setPc t (.registered status))
  | .cancelling n, .returned status =>
      some (({ s with
        reg := Function.update s.reg n ((s.reg n).free status (s.list.node n).isOnList)
        }.leaveList t).setPc t (.cancelled n status))
  | _, _ => none

def interruptStart (s : State) (t : ThreadId) : Option State :=
  if s.pc t = .idle then
    (Manager.InterruptList.interruptStart s.list t).map fun l => { s with list := l }.setPc t .walking
  else none

def interruptEnd (s : State) (t : ThreadId) : Option State :=
  if s.pc t = .walking then
    (Manager.InterruptList.interruptEnd s.list t).map fun l =>
      ({ s with list := l }.leaveList t).setPc t .idle
  else none

inductive Action
  | registerInterruptUser (t : ThreadId) (n : NodeId) (found : Bool)
  | cancelInterruptUser (t : ThreadId) (n : NodeId) (found : Bool)
  | addInterruptUser (t : ThreadId)
  | removeInterruptUser (t : ThreadId)
  | wake (t : ThreadId)
  | relock (t : ThreadId)
  | finish (t : ThreadId)
  | interruptStart (t : ThreadId)
  | interruptEnd (t : ThreadId)
  | leave (t : ThreadId)
  | shutdownPort
  deriving DecidableEq

def step (s : State) : Action → Option State
  | .registerInterruptUser t n found => registerInterruptUser s t n found
  | .cancelInterruptUser t n found => cancelInterruptUser s t n found
  | .addInterruptUser t => addInterruptUser s t
  | .removeInterruptUser t => removeInterruptUser s t
  | .wake t => (Manager.InterruptList.wake s.list t).map fun l => { s with list := l }
  | .relock t => (Manager.InterruptList.relock s.list t).map fun l => { s with list := l }
  | .finish t => finish s t
  | .interruptStart t => interruptStart s t
  | .interruptEnd t => interruptEnd s t
  | .leave t =>
      match s.pc t with
      | .registered _ | .cancelled _ _ => some (s.setPc t .idle)
      | _ => none
  | .shutdownPort => some { s with list := { s.list with defunct := true } }

def State.start : State where
  list := .start
  reg := fun _ => .none
  pc := fun _ => .idle

def machine : Machine State Action := ⟨(· = .start), step⟩

/-! ## What has to hold -/

/-- `drvPvt` and its `asynUser` are allocated and have not been freed. -/
structure Registration.Live (r : Registration) : Prop where
  memMalloc : r.memMalloc = 1
  memFree : r.memFree = 0
  freeAsynUser : r.freeAsynUser = 0

/-- Memory that is not freed belongs to a node that is on the list, or to a call in progress. -/
structure Sound (s : State) : Prop where
  live : ∀ n ∈ s.list.callbackList, (s.reg n).Live
  once : ∀ n, (s.reg n).memFree ≤ (s.reg n).memMalloc ∧ (s.reg n).memMalloc ≤ 1 ∧
    (s.reg n).freeAsynUser = (s.reg n).memFree
  kept : ∀ n, (s.reg n).memMalloc ≠ 0 → (s.reg n).memFree = 0 →
    n ∈ s.list.callbackList ∨ ∃ t, s.pc t = .registering n ∨ s.pc t = .cancelling n

/-- A step in which `cancelInterruptUser` returns an error. -/
def CancelFails (s s' : State) (n : NodeId) : Prop :=
  ∃ t status, s.pc t ≠ .cancelled n status ∧ s'.pc t = .cancelled n status ∧ status ≠ .asynSuccess

/-- `addInterruptUser` comes before the port is shut down; `removeInterruptUser` is not refused and no
other call for the node is in progress. -/
def Accepted (s : State) : Action → Prop
  | .addInterruptUser _ => s.list.defunct = false
  | .removeInterruptUser t =>
      match s.pc t with
      | .cancelling n =>
          ¬ Manager.InterruptList.Refused s.list .removeInterruptUser n ∧ (s.list.node n).callers = []
      | _ => True
  | _ => True

instance (s : State) (a : Action) : Decidable (Accepted s a) := by
  unfold Accepted
  split
  · infer_instance
  · split <;> infer_instance
  · infer_instance

end InterruptUsers
end Interfaces
end AsynDriver
