import AsynDriver.Library.LinkedList
import AsynDriver.Library.Machine
import AsynDriver.Manager.Types

/-!
# The list of exception users

`exceptionCallbackAdd`, `exceptionCallbackRemove` and `announceExceptionOccurred` on one `dpCommon`, by
any number of threads.

* `State` — the `dpCommon` with its `exceptionUser`s.  `freed` lists the calls of `free`, and `callers`
  records the calls for an `exceptionUser` that have not returned.
* `exceptionCallbackAdd`, `exceptionCallbackRemove` — both end in `loopHead`, the test of
  `exceptionActive` with what follows it; `wake` and `relock` are the end of the wait and the next round.
* `announceStart`, `announceFirst`, `announceNext`, `announceEnd` — the sections of
  `announceExceptionOccurred`, which holds no lock between the first and the last of them.
* `ExceptionSafe` — what the callers rely on.

An announcement or a call that is made inside a callback counts as a thread of its own.  The `asynUser`s
are connected and the callbacks are not null; the calls refused for these reasons do nothing.
-/

namespace AsynDriver
namespace Manager
namespace ExceptionList

open Library

/-- An `exceptionUser`, by its allocation. -/
abbrev NodeId := Nat

inductive Call
  | exceptionCallbackAdd
  | exceptionCallbackRemove
  deriving DecidableEq, Repr

/-- Where `announceExceptionOccurred` is: before `ellFirst`, in the callback of an `exceptionUser`, or
past the end of the list. -/
inductive Cursor
  | start
  | inCallback (e : NodeId)
  | finished
  deriving DecidableEq, Repr

/-- `waiting` is inside `epicsEventMustWait(notify)`, `woken` between it and `epicsMutexMustLock`;
`announcing` keeps `exceptionUserList` and `freed` as they were when `exceptionActive` was set. -/
inductive Pc
  | idle
  | waiting (call : Call) (u : UserId) (e : NodeId)
  | woken (call : Call) (u : UserId) (e : NodeId)
  | announcing (began : List NodeId × List NodeId) (cursor : Cursor)
  | returned (status : AsynStatus)
  deriving DecidableEq, Repr

/-- `exceptionUser`. -/
structure ExceptionUser where
  allocated : Bool
  notify : Bool
  callers : List ThreadId

/-- The exception fields of `dpCommon`, and what `announceExceptionOccurred` uses of its `port`. -/
structure State where
  exceptionUserList : List NodeId
  exceptionNotifyList : List NodeId
  exceptionActive : Bool
  canBlock : Bool
  queueStateChange : Bool
  notifyPortThread : Bool
  freed : List NodeId
  exceptionUser : NodeId → ExceptionUser
  pexceptionUser : UserId → Option NodeId
  thread : ThreadId → Pc

def State.setThread (s : State) (t : ThreadId) (pc : Pc) : State :=
  { s with thread := Function.update s.thread t pc }

def State.modUser (s : State) (e : NodeId) (f : ExceptionUser → ExceptionUser) : State :=
  { s with exceptionUser := Function.update s.exceptionUser e (f (s.exceptionUser e)) }

/-! ## `exceptionCallbackAdd` and `exceptionCallbackRemove` -/

/-- What follows the loop. -/
def Call.change (s : State) (u : UserId) (e : NodeId) : Call → State
  | .exceptionCallbackAdd =>
      { s with
        pexceptionUser := Function.update s.pexceptionUser u (some e)
        exceptionUserList := s.exceptionUserList ++ [e] }
  | .exceptionCallbackRemove =>
      { s with
        pexceptionUser := Function.update s.pexceptionUser u none
        exceptionUserList := s.exceptionUserList.erase e
        freed := s.freed ++ [e] }

/-- The test of the `while` loop and what follows it, up to the wait or to the return. -/
def loopHead (s : State) (t : ThreadId) (call : Call) (u : UserId) (e : NodeId) : State :=
  if s.exceptionActive then
    ({ s with exceptionNotifyList := s.exceptionNotifyList ++ [e] }.setThread t
      (.waiting call u e)).modUser e fun x => { x with callers := x.callers.insert t }
  else
    ((call.change s u e).setThread t (.returned .asynSuccess)).modUser e fun x =>
      { x with callers := x.callers.erase t }

/-- `callocMustSucceed` returns an `exceptionUser` that has not been allocated before. -/
def exceptionCallbackAdd (s : State) (t : ThreadId) (u : UserId) (e : NodeId) : Option State :=
  if s.thread t = .idle then
    match s.pexceptionUser u with
    | some _ => some (s.setThread t (.returned .asynError))
    | none =>
        if (s.exceptionUser e).allocated then none
        else
          some (loopHead (s.modUser e fun x => { x with allocated := true }) t
            .exceptionCallbackAdd u e)
  else none

def exceptionCallbackRemove (s : State) (t : ThreadId) (u : UserId) : Option State :=
  if s.thread t = .idle then
    match s.pexceptionUser u with
    | none => some (s.setThread t (.returned .asynError))
    | some e => some (loopHead s t .exceptionCallbackRemove u e)
  else none

/-- `epicsEventMustWait` returns and empties the event. -/
def wake (s : State) (t : ThreadId) : Option State :=
  match s.thread t with
  | .waiting call u e =>
      if (s.exceptionUser e).notify then
        some ((s.setThread t (.woken call u e)).modUser e fun x => { x with notify := false })
      else none
  | _ => none

def relock (s : State) (t : ThreadId) : Option State :=
  match s.thread t with
  | .woken call u e => some (loopHead s t call u e)
  | _ => none

/-! ## `announceExceptionOccurred` -/

def announceStart (s : State) (t : ThreadId) : Option State :=
  if s.thread t = .idle then
    some ({ s with exceptionActive := true }.setThread t
      (.announcing (s.exceptionUserList, s.freed) .start))
  else none

/-- The `exceptionUser` whose callback is next. -/
def Cursor.of : Option NodeId → Cursor
  | none => .finished
  | some e => .inCallback e

/-- `ellFirst`. -/
def announceFirst (s : State) (t : ThreadId) : Option State :=
  match s.thread t with
  | .announcing began .start =>
      some (s.setThread t (.announcing began (.of s.exceptionUserList.head?)))
  | _ => none

/-- The callback has returned: `ellNext`.  There is no next state when the `exceptionUser` is no longer
allocated. -/
def announceNext (s : State) (t : ThreadId) : Option State :=
  match s.thread t with
  | .announcing began (.inCallback e) =>
      if e ∈ s.freed then none
      else
        some (s.setThread t
          (.announcing began (.of (LinkedList.nextAfter s.exceptionUserList e))))
  | _ => none

/-- The loop over `exceptionNotifyList`. -/
def signalAll (exceptionUser : NodeId → ExceptionUser) : List NodeId → NodeId → ExceptionUser
  | [] => exceptionUser
  | e :: rest =>
      signalAll (Function.update exceptionUser e { exceptionUser e with notify := true }) rest

def announceEnd (s : State) (t : ThreadId) : Option State :=
  match s.thread t with
  | .announcing _ .finished =>
      some ({ s with
        exceptionUser := signalAll s.exceptionUser s.exceptionNotifyList
        exceptionNotifyList := []
        exceptionActive := false
        queueStateChange := true
        notifyPortThread := s.notifyPortThread || s.canBlock }.setThread t
          (.returned .asynSuccess))
  | _ => none

/-! ## The machine -/

inductive Action
  | exceptionCallbackAdd (t : ThreadId) (u : UserId) (e : NodeId)
  | exceptionCallbackRemove (t : ThreadId) (u : UserId)
  | wake (t : ThreadId)
  | relock (t : ThreadId)
  | announceStart (t : ThreadId)
  | announceFirst (t : ThreadId)
  | announceNext (t : ThreadId)
  | announceEnd (t : ThreadId)
  | leave (t : ThreadId)
  deriving DecidableEq

def step (s : State) : Action → Option State
  | .exceptionCallbackAdd t u e => exceptionCallbackAdd s t u e
  | .exceptionCallbackRemove t u => exceptionCallbackRemove s t u
  | .wake t => wake s t
  | .relock t => relock s t
  | .announceStart t => announceStart s t
  | .announceFirst t => announceFirst s t
  | .announceNext t => announceNext s t
  | .announceEnd t => announceEnd s t
  | .leave t =>
      match s.thread t with
      | .returned _ => some (s.setThread t .idle)
      | _ => none

/-- After `dpCommonInit`. -/
def State.start (canBlock : Bool) : State where
  exceptionUserList := []
  exceptionNotifyList := []
  exceptionActive := false
  canBlock := canBlock
  queueStateChange := false
  notifyPortThread := false
  freed := []
  exceptionUser := fun _ => ⟨false, false, []⟩
  pexceptionUser := fun _ => none
  thread := fun _ => .idle

def machine : Machine State Action := ⟨fun s => ∃ canBlock, s = .start canBlock, step⟩

/-! ## What the callers rely on -/

/-- Each thread that waits has the event of its `exceptionUser` to itself, and it is full. -/
def State.AllSignalled (s : State) : Prop :=
  ∀ t call u e, s.thread t = .waiting call u e → (s.exceptionUser e).notify = true ∧
    ∀ t' call' u', s.thread t' = .waiting call' u' e → t' = t

structure ExceptionSafe (s : State) : Prop where
  /-- During an announcement the list is not modified and nothing is freed. -/
  unchanged : ∀ t began cursor, s.thread t = .announcing began cursor →
    (s.exceptionUserList, s.freed) = began
  nodup : s.exceptionUserList.Nodup
  allocated : ∀ e ∈ s.exceptionUserList, e ∉ s.freed
  freedOnce : s.freed.Nodup
  /-- The `exceptionUser` whose callback executes is on the list. -/
  inCallback : ∀ t began e, s.thread t = .announcing began (.inCallback e) → e ∈ s.exceptionUserList
  /-- After the last announcement nobody is left to wait. -/
  signalled : (∀ t began cursor, s.thread t ≠ .announcing began cursor) →
    s.exceptionNotifyList = [] ∧ s.AllSignalled

/-- Runs in which no announcement begins while another is in progress, and no
`exceptionCallbackRemove` for an `exceptionUser` while another one for it has not returned. -/
def Orderly (s : State) : Action → Prop
  | .announceStart _ => s.exceptionActive = false
  | .exceptionCallbackRemove _ u => ∀ e ∈ s.pexceptionUser u, (s.exceptionUser e).callers = []
  | _ => True

instance (s : State) (a : Action) : Decidable (Orderly s a) := by
  cases a <;> unfold Orderly <;> infer_instance

end ExceptionList
end Manager
end AsynDriver
