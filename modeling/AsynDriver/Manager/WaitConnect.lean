import AsynDriver.Library.LinkedList
import AsynDriver.Library.Machine
import AsynDriver.Manager.Types

/-!
# Waiting for a port to connect

`waitConnect` with any number of calls of itself, of `exceptionConnect` and of `exceptionDisconnect` on
the port and its devices.

* `Dpc` — what these calls share: `connected`, and the list of exception callbacks with its flag.
* `Wait`, `WaitPc` — a call of `waitConnect`; `Announcement` — a call of `exceptionConnect` or
  `exceptionDisconnect`, which changes `connected` and then walks along `exceptionUserList`.
* `Returned` — what a call of `waitConnect` returned, with what there was to see.

Every call has a number of its own, and `Calls` has the arguments.  The callbacks of other users are
left out: they do not touch this data.  So are the waits of `exceptionCallbackAdd` and
`exceptionCallbackRemove` while `exceptionActive` is set: such a call stays where it is.
-/

namespace AsynDriver
namespace Manager
namespace WaitConnect

open Library

abbrev CallId := Nat

/-- The arguments of the calls: the `findDpCommon` of the `asynUser` of each `waitConnect`, that of each
announcement, and whether the announcement is an `exceptionConnect`. -/
structure Calls where
  waitDevice : CallId → Device
  device : CallId → Device
  connect : CallId → Bool

structure Dpc where
  connected : Bool
  numberConnects : Nat
  exceptionActive : Bool
  exceptionUserList : List CallId

/-- `wasConnected`: connected at some moment during the call; `connectedAtEnd`: connected when the
call returned. -/
structure Returned where
  status : AsynStatus
  wasConnected : Bool
  connectedAtEnd : Bool
  deriving DecidableEq

inductive WaitPc
  | idle
  | entered
  | adding
  | waiting
  | removing (isConnected : Bool)
  | returned (r : Returned)
  deriving DecidableEq

/-- `connectedBefore` and `connectsBefore`: `connected` and `numberConnects` when the call began. -/
structure Wait where
  pc : WaitPc
  connectEvent : Bool
  connectedBefore : Bool
  connectsBefore : Nat

/-- A call of `exceptionConnect` or `exceptionDisconnect`: `tested` has passed the test of
`connected`, `calling` and `called` stand at a node of `exceptionUserList`. -/
inductive Announcement
  | idle
  | tested
  | changed
  | started
  | calling (w : CallId)
  | called (w : CallId)
  | ended
  | done
  deriving DecidableEq, Repr

structure State where
  dpc : Device → Dpc
  wait : CallId → Wait
  announcement : CallId → Announcement
  /-- The announcements from their test of `connected` to their end. -/
  announcing : List CallId
  /-- The calls of `waitConnect` that have timed out and not returned. -/
  expired : List CallId

def State.setDpc (s : State) (d : Device) (x : Dpc) : State :=
  { s with dpc := Function.update s.dpc d x }

def State.setWait (s : State) (w : CallId) (x : Wait) : State :=
  { s with wait := Function.update s.wait w x }

def State.setAnnouncement (s : State) (k : CallId) (pc : Announcement) : State :=
  { s with announcement := Function.update s.announcement k pc }

/-! ## `exceptionConnect` and `exceptionDisconnect` -/

/-- The test of `connected`; `done` is the return of `asynError`. -/
def testConnected (c : Calls) (s : State) (k : CallId) : Option State :=
  if s.announcement k = .idle then
    if (s.dpc (c.device k)).connected = c.connect k then some (s.setAnnouncement k .done)
    else some ({ s with announcing := k :: s.announcing }.setAnnouncement k .tested)
  else none

/-- The assignment to `connected`. -/
def changeConnected (c : Calls) (s : State) (k : CallId) : Option State :=
  if s.announcement k = .tested then
    let x := s.dpc (c.device k)
    some ((s.setAnnouncement k .changed).setDpc (c.device k)
      { x with
        connected := c.connect k
        numberConnects := if c.connect k then x.numberConnects + 1 else x.numberConnects })
  else none

/-- The beginning of `announceExceptionOccurred`. -/
def startAnnouncement (c : Calls) (s : State) (k : CallId) : Option State :=
  if s.announcement k = .changed then
    some ((s.setAnnouncement k .started).setDpc (c.device k)
      { s.dpc (c.device k) with exceptionActive := true })
  else none

/-- The node that `ellFirst` or `ellNext` returns. -/
def Announcement.atNode : Option CallId → Announcement
  | none => .ended
  | some w => .calling w

/-- The walk along the list, which has no next step at a node that has been freed. -/
def walkAnnouncement (c : Calls) (s : State) (k : CallId) : Option State :=
  let l := (s.dpc (c.device k)).exceptionUserList
  match s.announcement k with
  | .started => some (s.setAnnouncement k (.atNode l.head?))
  | .calling w =>
      if w ∈ l then
        some ((s.setAnnouncement k (.called w)).setWait w { s.wait w with connectEvent := true })
      else none
  | .called w => if w ∈ l then some (s.setAnnouncement k (.atNode (LinkedList.nextAfter l w))) else none
  | _ => none

/-- The end of `announceExceptionOccurred`. -/
def endAnnouncement (c : Calls) (s : State) (k : CallId) : Option State :=
  if s.announcement k = .ended then
    some (({ s with announcing := s.announcing.erase k }.setAnnouncement k .done).setDpc (c.device k)
      { s.dpc (c.device k) with exceptionActive := false })
  else none

/-! ## `waitConnect` -/

/-- Connected at some moment since the call began. -/
def Wait.wasConnected (v : Wait) (x : Dpc) : Bool :=
  v.connectedBefore || decide (v.connectsBefore < x.numberConnects)

def Wait.return (v : Wait) (x : Dpc) (status : AsynStatus) : Wait :=
  { v with pc := .returned ⟨status, v.wasConnected x, x.connected⟩ }

def enterWait (c : Calls) (s : State) (w : CallId) : Option State :=
  if (s.wait w).pc = .idle then
    let x := s.dpc (c.waitDevice w)
    some (s.setWait w
      { s.wait w with
        pc := .entered
        connectedBefore := x.connected
        connectsBefore := x.numberConnects })
  else none

/-- `isConnected = pport->dpc.connected`. -/
def testWait (c : Calls) (s : State) (w : CallId) : Option State :=
  if (s.wait w).pc = .entered then
    if (s.dpc none).connected then
      some (s.setWait w ((s.wait w).return (s.dpc (c.waitDevice w)) .asynSuccess))
    else some (s.setWait w { s.wait w with pc := .adding, connectEvent := false })
  else none

/-- `exceptionCallbackAdd`. -/
def addWait (c : Calls) (s : State) (w : CallId) : Option State :=
  let x := s.dpc (c.waitDevice w)
  if (s.wait w).pc = .adding ∧ x.exceptionActive = false then
    some ((s.setWait w { s.wait w with pc := .waiting }).setDpc (c.waitDevice w)
      { x with exceptionUserList := x.exceptionUserList ++ [w] })
  else none

/-- `epicsEventWaitOK`. -/
def wakeWait (s : State) (w : CallId) : Option State :=
  if (s.wait w).pc = .waiting ∧ (s.wait w).connectEvent = true then
    some (s.setWait w { s.wait w with pc := .removing true, connectEvent := false })
  else none

/-- `epicsEventWaitTimeout`. -/
def expireWait (s : State) (w : CallId) : Option State :=
  if (s.wait w).pc = .waiting ∧ (s.wait w).connectEvent = false then
    some ({ s with expired := w :: s.expired }.setWait w { s.wait w with pc := .removing false })
  else none

/-- `exceptionCallbackRemove` and the return. -/
def removeWait (c : Calls) (s : State) (w : CallId) : Option State :=
  let x := s.dpc (c.waitDevice w)
  match (s.wait w).pc with
  | .removing isConnected =>
      if x.exceptionActive = false then
        let status := if isConnected then AsynStatus.asynSuccess else .asynError
        some (({ s with expired := s.expired.erase w }.setWait w
          ((s.wait w).return x status)).setDpc (c.waitDevice w)
            { x with exceptionUserList := x.exceptionUserList.erase w })
      else none
  | _ => none

/-! ## The machine -/

inductive Action
  | testConnected (k : CallId)
  | changeConnected (k : CallId)
  | startAnnouncement (k : CallId)
  | walkAnnouncement (k : CallId)
  | endAnnouncement (k : CallId)
  | enterWait (w : CallId)
  | testWait (w : CallId)
  | addWait (w : CallId)
  | wakeWait (w : CallId)
  | expireWait (w : CallId)
  | removeWait (w : CallId)
  deriving DecidableEq, Repr

def step (c : Calls) (s : State) : Action → Option State
  | .testConnected k => testConnected c s k
  | .changeConnected k => changeConnected c s k
  | .startAnnouncement k => startAnnouncement c s k
  | .walkAnnouncement k => walkAnnouncement c s k
  | .endAnnouncement k => endAnnouncement c s k
  | .enterWait w => enterWait c s w
  | .testWait w => testWait c s w
  | .addWait w => addWait c s w
  | .wakeWait w => wakeWait s w
  | .expireWait w => expireWait s w
  | .removeWait w => removeWait c s w

def Wait.start : Wait where
  pc := .idle
  connectEvent := false
  connectedBefore := false
  connectsBefore := 0

def Dpc.start (connected : Bool) : Dpc where
  connected := connected
  numberConnects := 0
  exceptionActive := false
  exceptionUserList := []

/-- A port and its devices, connected or not, before the first call. -/
def State.start (connected : Device → Bool) : State where
  dpc := fun d => .start (connected d)
  wait := fun _ => .start
  announcement := fun _ => .idle
  announcing := []
  expired := []

def machine (c : Calls) : Machine State Action := ⟨fun s => ∃ connected, s = .start connected, step c⟩

/-- An `exceptionConnect` that has set `connected` and not begun its walk. -/
def Announced (c : Calls) (s : State) (k : CallId) : Prop :=
  c.connect k = true ∧ (s.announcement k = .changed ∨ s.announcement k = .started)

instance (c : Calls) (s : State) (k : CallId) : Decidable (Announced c s k) :=
  inferInstanceAs (Decidable (_ ∧ _))

/-- An `exceptionConnect` that has not set `connected`. -/
def Unchanged (c : Calls) (s : State) (k : CallId) : Prop :=
  c.connect k = true ∧ s.announcement k = .tested

instance (c : Calls) (s : State) (k : CallId) : Decidable (Unchanged c s k) :=
  inferInstanceAs (Decidable (_ ∧ _))

/-- Runs in which

* `waitConnect` does not find the port connected when its device is not;
* its callback is not put on the list after the announcement of the connection has begun, and, as
  long as there was no connection during the call, not while an older change is being announced;
* it does not time out while a connection is being announced, and there is no connection between its
  time-out and its return. -/
def Timely (c : Calls) (s : State) : Action → Prop
  | .testWait w => (s.dpc none).connected = true → (s.dpc (c.waitDevice w)).connected = true
  | .addWait w =>
      ((s.dpc (c.waitDevice w)).connected = true →
        ∃ k ∈ s.announcing, c.device k = c.waitDevice w ∧ Announced c s k) ∧
      ((s.wait w).wasConnected (s.dpc (c.waitDevice w)) = true ∨
        ∀ k ∈ s.announcing, c.device k = c.waitDevice w → Unchanged c s k)
  | .expireWait w =>
      ∀ k ∈ s.announcing, c.device k = c.waitDevice w → c.connect k = true → s.announcement k = .tested
  | .changeConnected k => c.connect k = true → ∀ w ∈ s.expired, c.waitDevice w ≠ c.device k
  | _ => True

instance (c : Calls) (s : State) (a : Action) : Decidable (Timely c s a) := by
  cases a <;> unfold Timely <;> infer_instance

/-- What `waitConnect` has returned is right: `asynSuccess` only if the port or device was connected
at some moment during the call, and no error if it is connected, and therefore has stayed connected
since some moment during the call, when the call ends. -/
def WaitSafe (s : State) : Prop :=
  ∀ w r, (s.wait w).pc = .returned r →
    (r.status = .asynSuccess → r.wasConnected = true) ∧
      (r.status ≠ .asynSuccess → r.connectedAtEnd = false)

end WaitConnect
end Manager
end AsynDriver
