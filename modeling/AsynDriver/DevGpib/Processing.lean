import AsynDriver.DevGpib.SrqWait

/-!
# Processing a record

What happens to a processing of a record from the `queueIt` that returns 1 to the `finish` after which
`pact` is FALSE, on a port that can block (the machine of `SrqWait`) and on one that cannot: there
`queueRequest` calls `queueCallback` itself, inside `queueIt`.

* `Event`, `State` — the device and, for each record, how often each event of a processing happened.
* `synchronousQueueIt` — `queueIt` on a port that cannot block.
* `Processed` — what the events and `pact` have to agree on.
* `Accepted` — the port can block or nothing is accepted, and the calls that an SRQ wait depends on are
  not refused.

`finish` is the `finish` of the record types, which calls `completeProcess`; `completeProcess` leaves
`pact` to the callback task on a port that can block and resets it itself on one that cannot.
-/

namespace AsynDriver
namespace DevGpib
namespace Processing

open Library
open SrqWait (RecordId GpibRecord Work Stage Executor Answer Task)

/-- `accepted`: `queueIt` of a processing returned 1; `worked`: `prepareToRead`, `gpibWrite` or another
work function of device support was called; `waited`: `srqReadWait` succeeded; `read`: `readAfterWait`
was called; `finished`: `finish` was called. -/
inductive Event
  | accepted
  | worked
  | waited
  | read
  | finished
  deriving DecidableEq, Repr

structure State where
  device : SrqWait.State
  count : RecordId → Event → Nat

def State.start : State := ⟨.start, fun _ _ => 0⟩

/-- A step, and the events of record `r` in it. -/
def State.next (s : State) (device : SrqWait.State) (r : RecordId) (events : List Event) : State where
  device := device
  count := Function.update s.count r fun event => s.count r event + events.count event

/-! ## A port that can block -/

/-- The event of a step of `SrqWait`. -/
def event (d : SrqWait.State) : SrqWait.Action → Option (RecordId × Event)
  | .process r _ answer => if answer = .accepted then some (r, .accepted) else none
  | .queueCallback e _ =>
      match d.executing e with
      | some (r, .called _) =>
          if (d.record r).pact then
            (d.record r).work.map fun work => (r, if work = .readAfterWait then .read else .worked)
          else none
      | _ => none
  | .srqReadWait e accepted =>
      match d.executing e with
      | some (r, _) =>
          if accepted = true ∧ (d.record r).isQueued = false then some (r, .waited) else none
      | none => none
  | .finish e => (d.executing e).map fun running => (running.1, .finished)
  | _ => none

def blockingStep (s : State) (a : SrqWait.Action) : Option State :=
  (SrqWait.step s.device a).map fun device =>
    match event s.device a with
    | some (r, e) => s.next device r [e]
    | none => { s with device := device }

/-! ## A port that cannot block -/

/-- `queueCallback` and the work function in the thread of the caller.  `waits` says that the command
comes to `srqReadWait`, whose `blockProcessCallback` is refused. -/
def synchronousCallback (d : SrqWait.State) (r : RecordId) (waits : Bool) :
    SrqWait.State × List Event :=
  if (d.record r).pact then
    let finished := d.setRecord r fun p => { p with work := none, pact := false }
    match (d.record r).work with
    | none => ({ d with fault := true }, [])
    | some .gpibWrite => (finished, [.worked, .finished])
    | some .prepareToRead =>
        (if waits then { finished with waitState := .srqWait } else finished, [.worked, .finished])
    | some .readAfterWait =>
        if d.pgpibDpvt = some r then
          ({ finished with
            polled := d.polled && d.unsollicitedHandler
            waitState := .srqWaitIdle
            pgpibDpvt := none }, [.read, .finished])
        else ({ d with fault := true }, [])
  -- "queueCallback but pact 0. Request ignored."
  else (d, [])

/-- `pact` is set when `queueRequest` has returned. -/
def synchronousQueueIt (d : SrqWait.State) (r : RecordId) (waits : Bool) :
    Answer → SrqWait.State × List Event
  | .timeWindow => (d, [])
  | .refused => (d.setRecord r fun p => { p with pact := false }, [])
  | .accepted =>
      let (d', events) := synchronousCallback d r waits
      (d'.setRecord r fun p => { p with pact := true }, events)

def synchronousProcess (s : State) (r : RecordId) (work : Work) (answer : Answer) (waits : Bool) :
    Option State :=
  if (s.device.record r).pact = false ∧ work ≠ .readAfterWait then
    let (d, events) :=
      synchronousQueueIt (s.device.setRecord r fun p => { p with work := some work }) r waits answer
    some (s.next d r (if answer = .accepted then .accepted :: events else events))
  else none

/-- `queueIt(psrqPvt->pgpibDpvt)` -/
def synchronousQueueWaiting (s : State) (d : SrqWait.State) (answer : Answer) (waits : Bool) : State :=
  match d.pgpibDpvt with
  | none => { s with device := { d with fault := true } }
  | some r =>
      let (d', events) := synchronousQueueIt d r waits answer
      s.next d' r events

/-- There is no port thread, and nothing is queued. -/
def synchronousStep (s : State) (a : SrqWait.Action) (waits : Bool) : Option State :=
  if s.device.fault then none
  else
    match a with
    | .process r work answer => synchronousProcess s r work answer waits
    | .handlerQueueIt t answer =>
        if s.device.handler t = .queueing then
          some (synchronousQueueWaiting s (s.device.setHandler t .idle) answer waits)
        else none
    | .timerQueueIt answer =>
        if s.device.timer = .queueing then
          some (synchronousQueueWaiting s { s.device with timer := .idle } answer waits)
        else none
    | .srqHandlerGpib _ | .cancelTimer _ | .expire | .waitTimeoutCallback | .registerSrqHandler =>
        (SrqWait.step s.device a).map fun device => { s with device := device }
    | _ => none

/-! ## Runs -/

/-- `waits` matters on a port that cannot block only. -/
structure Action where
  action : SrqWait.Action
  waits : Bool
  deriving DecidableEq, Repr

def machine (canBlock : Bool) : Machine State Action where
  init s := s = .start
  step s a :=
    if canBlock then blockingStep s a.action else synchronousStep s a.action a.waits

/-! ## Records under way -/

/-- A request of `r` is queued or running, its completion is to come, or the timer or a handler is about
to queue the record that waits. -/
inductive Underway (d : SrqWait.State) (r : RecordId) : Prop
  | queued (hqueued : (d.record r).isQueued = true)
  | running (e : Executor) (stage : Stage) (hexec : d.executing e = some (r, stage))
      (hlive : stage ≠ .returning)
  | completing (hcompleting : (d.record r).completing = true)
  | waiting (hwaiting : d.pgpibDpvt = some r)
      (hawaited : d.armed = true ∨ d.timer ≠ .idle ∨ ∃ t, d.handler t ≠ .idle)

/-- Every accepted processing has worked and finished once, except that of a record with `pact` TRUE,
which is under way. -/
structure Processed (s : State) (r : RecordId) : Prop where
  noFault : s.device.fault = false
  worked : s.count r .worked ≤ s.count r .accepted ∧ s.count r .accepted ≤ s.count r .worked + 1
  finished : s.count r .finished ≤ s.count r .worked ∧
    s.count r .accepted ≤ s.count r .finished + 1
  read : s.count r .read ≤ s.count r .waited ∧ s.count r .waited ≤ s.count r .read + 1
  done : (s.device.record r).pact = false →
    s.count r .worked = s.count r .accepted ∧ s.count r .finished = s.count r .accepted ∧
      s.count r .read = s.count r .waited
  underway : (s.device.record r).pact = true → Underway s.device r

def Accepted (canBlock : Bool) (s : State) (a : Action) : Prop :=
  SrqWait.Accepted s.device a.action ∧
    (canBlock = true ∨ ∀ r, event s.device a.action ≠ some (r, .accepted))

/-- The tasks of the wait, and the callback task. -/
def pending : Task ⊕ RecordId → State → Prop
  | .inl task, s => task.pending s.device
  | .inr r, s => (s.device.record r).completing = true

end Processing
end DevGpib
end AsynDriver
