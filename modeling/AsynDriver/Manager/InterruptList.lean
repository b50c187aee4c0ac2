import AsynDriver.Library.Machine
import AsynDriver.Manager.Types

/-!
# The list of interrupt users

`addInterruptUser`, `removeInterruptUser`, `interruptStart` and `interruptEnd` on one `interruptBase`,
by any number of threads.

* `State` — the `interruptBase` with its nodes; `callers` records the calls for a node that have passed
  the test of `isOnList` and have not returned.
* `addInterruptUser`, `removeInterruptUser` — both are `changeInterruptUser`, whose loop is `loopHead`;
  `wake` and `relock` are the end of the wait and the next round.
* `interruptStart`, `interruptEnd` — a thread in between is `walking` along `callbackList`.
* `ListSafe` — what the users of the list rely on.

A callback that calls one of these functions counts as a thread of its own.  A second `ellAdd` of a
node that is on `callbackList` puts it there twice.
-/

namespace AsynDriver
namespace Manager
namespace InterruptList

open Library

abbrev NodeId := Nat

inductive Call
  | addInterruptUser
  | removeInterruptUser
  deriving DecidableEq, Repr

/-- `isOnList` after the call; a call that finds it so is refused. -/
def Call.result : Call → Bool
  | .addInterruptUser => true
  | .removeInterruptUser => false

/-- `waiting` is inside `epicsEventMustWait(callbackDone)`, `woken` between it and
`epicsMutexMustLock`; `walking` keeps `callbackList` as `interruptStart` has left it. -/
inductive Pc
  | idle
  | waiting (call : Call) (n : NodeId)
  | woken (call : Call) (n : NodeId)
  | walking (callbackList : List NodeId)
  | returned (status : AsynStatus)
  deriving DecidableEq, Repr

/-- `interruptNodePvt`. -/
structure InterruptNode where
  isOnList : Bool
  isOnAddRemoveList : Bool
  callbackDone : Bool
  callers : List ThreadId

/-- `interruptBase`, with `pport->dpc.defunct`. -/
structure State where
  callbackList : List NodeId
  addRemoveList : List NodeId
  callbackActive : Bool
  listModified : Bool
  defunct : Bool
  node : NodeId → InterruptNode
  thread : ThreadId → Pc

def State.setThread (s : State) (t : ThreadId) (pc : Pc) : State :=
  { s with thread := Function.update s.thread t pc }

def State.modNode (s : State) (n : NodeId) (f : InterruptNode → InterruptNode) : State :=
  { s with node := Function.update s.node n (f (s.node n)) }

/-! ## `addInterruptUser` and `removeInterruptUser` -/

/-- `ellAdd` or `ellDelete` on `callbackList`. -/
def Call.change : Call → List NodeId → NodeId → List NodeId
  | .addInterruptUser, l, n => l ++ [n]
  | .removeInterruptUser, l, n => l.erase n

/-- The test of the `while` loop and what follows it, up to the wait or to the return. -/
def loopHead (s : State) (t : ThreadId) (call : Call) (n : NodeId) : State :=
  if s.callbackActive then
    if (s.node n).isOnAddRemoveList then
      (s.setThread t (.returned .asynError)).modNode n fun x => { x with callers := x.callers.erase t }
    else
      ({ s with addRemoveList := s.addRemoveList ++ [n], listModified := true }.setThread t
        (.waiting call n)).modNode n fun x =>
          { x with isOnAddRemoveList := true, callers := x.callers.insert t }
  else
    ({ s with callbackList := call.change s.callbackList n }.setThread t
      (.returned .asynSuccess)).modNode n fun x =>
        { x with isOnList := call.result, callers := x.callers.erase t }

def changeInterruptUser (s : State) (t : ThreadId) (call : Call) (n : NodeId) : Option State :=
  if s.thread t = .idle then
    if s.defunct then some (s.setThread t (.returned .asynDisabled))
    else if (s.node n).isOnList = call.result then some (s.setThread t (.returned .asynError))
    else some (loopHead s t call n)
  else none

def addInterruptUser (s : State) (t : ThreadId) (n : NodeId) : Option State :=
  changeInterruptUser s t .addInterruptUser n

def removeInterruptUser (s : State) (t : ThreadId) (n : NodeId) : Option State :=
  changeInterruptUser s t .removeInterruptUser n

/-- `epicsEventMustWait` returns and empties the event. -/
def wake (s : State) (t : ThreadId) : Option State :=
  match s.thread t with
  | .waiting call n =>
      if (s.node n).callbackDone then
        some ((s.setThread t (.woken call n)).modNode n fun x => { x with callbackDone := false })
      else none
  | _ => none

def relock (s : State) (t : ThreadId) : Option State :=
  match s.thread t with
  | .woken call n => some (loopHead s t call n)
  | _ => none

/-! ## `interruptStart` and `interruptEnd` -/

def interruptStart (s : State) (t : ThreadId) : Option State :=
  if s.thread t = .idle then
    some ({ s with callbackActive := true, listModified := false }.setThread t
      (.walking s.callbackList))
  else none

/-- The loop of `interruptEnd` over `addRemoveList`. -/
def signalAll (node : NodeId → InterruptNode) : List NodeId → NodeId → InterruptNode
  | [] => node
  | n :: rest =>
      signalAll
        (Function.update node n { node n with isOnAddRemoveList := false, callbackDone := true }) rest

def interruptEnd (s : State) (t : ThreadId) : Option State :=
  match s.thread t with
  | .walking _ =>
      if s.listModified then
        some ({ s with
          callbackActive := false
          addRemoveList := []
          node := signalAll s.node s.addRemoveList }.setThread t (.returned .asynSuccess))
      else some ({ s with callbackActive := false }.setThread t (.returned .asynSuccess))
  | _ => none

/-! ## The machine -/

inductive Action
  | addInterruptUser (t : ThreadId) (n : NodeId)
  | removeInterruptUser (t : ThreadId) (n : NodeId)
  | wake (t : ThreadId)
  | relock (t : ThreadId)
  | interruptStart (t : ThreadId)
  | interruptEnd (t : ThreadId)
  | leave (t : ThreadId)
  | shutdownPort
  deriving DecidableEq

def step (s : State) : Action → Option State
  | .addInterruptUser t n => addInterruptUser s t n
  | .removeInterruptUser t n => removeInterruptUser s t n
  | .wake t => wake s t
  | .relock t => relock s t
  | .interruptStart t => interruptStart s t
  | .interruptEnd t => interruptEnd s t
  | .leave t =>
      match s.thread t with
      | .returned _ => some (s.setThread t .idle)
      | _ => none
  | .shutdownPort => some { s with defunct := true }

/-- What `createInterruptNode` returns. -/
def InterruptNode.created : InterruptNode where
  isOnList := false
  isOnAddRemoveList := false
  callbackDone := false
  callers := []

def State.start : State where
  callbackList := []
  addRemoveList := []
  callbackActive := false
  listModified := false
  defunct := false
  node := fun _ => .created
  thread := fun _ => .idle

def machine : Machine State Action := ⟨(· = .start), step⟩

/-! ## What the users of the list rely on -/

/-- Each thread that waits has the event of its node to itself, and it is full. -/
def State.AllSignalled (s : State) : Prop :=
  ∀ t call n, s.thread t = .waiting call n → (s.node n).callbackDone = true ∧
    ∀ t' call', s.thread t' = .waiting call' n → t' = t

structure ListSafe (s : State) : Prop where
  /-- `callbackList` is what it was at the `interruptStart`. -/
  unchanged : ∀ t l, s.thread t = .walking l → s.callbackList = l
  onList : ∀ n, (s.node n).isOnList = true ↔ n ∈ s.callbackList
  nodup : s.callbackList.Nodup
  /-- After the last `interruptEnd` nobody is left to wait. -/
  signalled : (∀ t l, s.thread t ≠ .walking l) → s.addRemoveList = [] ∧ s.AllSignalled

/-- The call returns an error at once. -/
def Refused (s : State) (call : Call) (n : NodeId) : Prop :=
  s.defunct = true ∨ (s.node n).isOnList = call.result ∨
    (s.callbackActive = true ∧ (s.node n).isOnAddRemoveList = true)

instance (s : State) (call : Call) (n : NodeId) : Decidable (Refused s call n) :=
  inferInstanceAs (Decidable (_ ∨ _ ∨ _ ∧ _))

/-- Runs in which no `interruptStart` comes between another and its `interruptEnd`, and no call for a
node is accepted while an accepted one has not returned. -/
def Orderly (s : State) : Action → Prop
  | .interruptStart _ => s.callbackActive = false
  | .addInterruptUser _ n => Refused s .addInterruptUser n ∨ (s.node n).callers = []
  | .removeInterruptUser _ n => Refused s .removeInterruptUser n ∨ (s.node n).callers = []
  | _ => True

instance (s : State) (a : Action) : Decidable (Orderly s a) := by
  cases a <;> unfold Orderly <;> infer_instance

end InterruptList
end Manager
end AsynDriver
