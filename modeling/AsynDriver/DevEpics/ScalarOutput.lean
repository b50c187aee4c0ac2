import AsynDriver.DevEpics.DevPvt
import AsynDriver.Library.Machine

/-!
# Output records with `asyn:READBACK`

The output records of `devAsynInt32`: `interruptCallbackOutput`, `outputCallbackCallback` and the
`process…` functions, which have one body and two causes.

* `OutputSupport` — what the output records differ in.
* `State` — the private data, the record, the callback requests, and where the thread that has the
  record locked stands.
* `process`, `finish`, `dropValue` — the sections of the code between which other threads run.
* `Action`, `step` — the driver, the callback thread, the threads that put a value, and the port thread.

`callbackRequest` accepts every request, and `dbProcess` leaves a record alone that has `PACT` set.
-/

namespace AsynDriver
namespace DevEpics
namespace ReadBack

open Library
open Manager (AsynStatus)

/-- The fields of an output record that device support reads and writes. -/
structure OutputRecord (β : Type) where
  value : β
  pact : Bool
  alarm : Nat × Nat

/-- The differences between the output records. -/
structure OutputSupport (α β : Type) where
  /-- The mask of `devAsynInt32`. -/
  convert : α → α
  /-- The record with a callback value, and whether its conversion has succeeded. -/
  store : α → β → β × Bool
  /-- The value to write. -/
  output : β → α

/-- What has started a processing. -/
inductive Cause
  | outputCallback
  | other
  deriving DecidableEq

/-- Where the thread stands that holds the lock of the record. -/
inductive Phase
  | idle
  /-- In `process`, without `devPvtLock`, before `queueRequest`. -/
  | unlocked (cause : Cause)
  /-- `queueRequest` has returned. -/
  | returned (cause : Cause) (status : AsynStatus)
  deriving DecidableEq

/-- The asynchronous write. -/
inductive PortRequest
  | none
  | queued (cause : Cause)
  /-- `processCallbackOutput` has requested the completion. -/
  | written
  deriving DecidableEq

/-- The status and the `asynUser` after a `write` of the driver. -/
structure WriteOutcome where
  status : AsynStatus
  time : Nat
  alarmStatus : Nat
  alarmSeverity : Nat

structure State (α β : Type) (ringSize : Nat) where
  pPvt : DevPvt α ringSize
  record : OutputRecord β
  phase : Phase
  port : PortRequest
  /-- Requests of `outputCallback` that have not been served. -/
  outstanding : Nat
  called : List (RingBufferElement α)
  taken : List (Cause × RingBufferElement α)
  writes : List (Cause × α)
  /-- The overflows that `getCallbackValue` has printed and set back to 0. -/
  reported : Nat

variable {α β : Type} {ringSize : Nat}

namespace State

/-- `getCallbackValue`, with its history. -/
def getCallbackValue (s : State α β ringSize) (cause : Cause) : Bool × State α β ringSize :=
  let got := s.pPvt.getCallbackValue
  if got.1 then
    (true,
      { s with
        pPvt := got.2
        taken := s.taken ++ [(cause, got.2.result)]
        reported := s.reported + s.pPvt.ringBufferOverflows })
  else (false, s)

/-- `processCallbackOutput`, up to the request of the completion. -/
def writeValue (s : State α β ringSize) (cause : Cause) (outcome : WriteOutcome) :
    State α β ringSize :=
  { s with
    pPvt :=
      { s.pPvt with
        result :=
          { value := s.pPvt.result.value
            time := outcome.time
            status := outcome.status
            alarmStatus := outcome.alarmStatus
            alarmSeverity := outcome.alarmSeverity } }
    writes := s.writes ++ [(cause, s.pPvt.result.value)] }

/-- The end of `process`: the alarm, and one callback that was deferred is requested. -/
def finish (s : State α β ringSize) : State α β ringSize :=
  let result := s.pPvt.result
  let alarm := asynStatusToEpicsAlarm result.status epicsAlarmWrite result.alarmStatus
    epicsSevInvalid result.alarmSeverity
  let deferred := s.pPvt.numDeferredOutputCallbacks
  { s with
    record := { s.record with alarm := recGblSetSevr s.record.alarm alarm }
    outstanding := if deferred > 0 then s.outstanding + 1 else s.outstanding
    pPvt :=
      { s.pPvt with
        result := { result with
          status := .asynSuccess
          alarmStatus := alarm.1
          alarmSeverity := alarm.2 }
        numDeferredOutputCallbacks := deferred - 1
        newOutputCallbackValue := false
        asyncProcessingActive := false }
    phase := .idle }

/-- `processAo`, `processLo`, `processBo` and `processMbbo`, up to `queueRequest`. -/
def process (sup : OutputSupport α β) (s : State α β ringSize) (cause : Cause) :
    State α β ringSize :=
  let got := if s.pPvt.newOutputCallbackValue then s.getCallbackValue cause else (false, s)
  if got.1 then
    if got.2.pPvt.result.status = .asynSuccess then
      let stored := sup.store got.2.pPvt.result.value got.2.record.value
      if stored.2 then { got.2 with record := { got.2.record with value := stored.1 } }.finish
      else
        -- `processAo` returns without what `finish` does.
        { got.2 with
          record := { got.2.record with
            value := stored.1
            alarm := recGblSetSevr got.2.record.alarm (epicsAlarmWrite, epicsSevInvalid) } }
    else got.2.finish
  else if !s.record.pact then
    { s with
      pPvt := { s.pPvt with
        result := { s.pPvt.result with value := sup.output s.record.value }
        asyncProcessingActive := s.pPvt.canBlock || s.pPvt.asyncProcessingActive }
      record := { s.record with pact := s.pPvt.canBlock || s.record.pact }
      phase := .unlocked cause }
  else s.finish

/-- The end of `outputCallbackCallback`: the record has not processed, so its value is dropped. -/
def dropValue (s : State α β ringSize) : State α β ringSize :=
  if s.pPvt.newOutputCallbackValue then
    let got := s.getCallbackValue .outputCallback
    { got.2 with pPvt := { got.2.pPvt with newOutputCallbackValue := false } }
  else s

end State

/-- `value` is what the record holds when it is processed, after a put for example; `enabled` says
whether `dbProcess` would process a record without `PACT`. -/
inductive Action (α β : Type)
  | interruptCallbackOutput (value : α) (pasynUser : InterruptUser) (interruptAccept : Bool)
  | outputCallbackCallback (enabled : Bool)
  | put (value : β)
  | queueRequest (status : AsynStatus) (outcome : WriteOutcome)
  | relock
  | processCallbackOutput (outcome : WriteOutcome)
  | complete

/-- `interruptCallbackOutput`. -/
def interruptCallbackOutput (sup : OutputSupport α β) (s : State α β ringSize) (value : α)
    (pasynUser : InterruptUser) (interruptAccept : Bool) : State α β ringSize :=
  if !interruptAccept then s
  else
    let e := RingBufferElement.ofCallback (sup.convert value) pasynUser
    let r := s.pPvt.pushCallbackValue e
    let defers := !r.2 && s.pPvt.asyncProcessingActive
    { s with
      pPvt := { r.1 with
        numDeferredOutputCallbacks :=
          if defers then r.1.numDeferredOutputCallbacks + 1 else r.1.numDeferredOutputCallbacks }
      outstanding := if !r.2 && !defers then s.outstanding + 1 else s.outstanding
      called := s.called ++ [e] }

def step (sup : OutputSupport α β) (s : State α β ringSize) :
    Action α β → Option (State α β ringSize)
  | .interruptCallbackOutput value pasynUser interruptAccept =>
      some (interruptCallbackOutput sup s value pasynUser interruptAccept)
  | .outputCallbackCallback enabled =>
      if s.phase ≠ .idle ∨ s.outstanding = 0 then none
      else
        let s₁ :=
          { s with
            outstanding := s.outstanding - 1
            pPvt := { s.pPvt with newOutputCallbackValue := true }
            record := { s.record with alarm := (0, 0) } }
        if enabled && !s.record.pact then
          let s₂ := s₁.process sup .outputCallback
          if s₂.phase = .idle then some s₂.dropValue else some s₂
        else some s₁.dropValue
  | .put value =>
      if s.phase ≠ .idle then none
      else
        let s₁ := { s with record := { s.record with value := value } }
        if s.record.pact then some s₁
        else
          some ({ s₁ with record := { s₁.record with alarm := (0, 0) } }.process sup .other)
  | .queueRequest status outcome =>
      match s.phase with
      | .unlocked cause =>
          if status = .asynSuccess ∧ s.pPvt.canBlock = true then
            let s₁ := { s with phase := .idle, port := .queued cause }
            -- `process` returns, and `outputCallbackCallback` goes on where it has called.
            if cause = .outputCallback then some s₁.dropValue else some s₁
          else
            let s₁ := if status = .asynSuccess then s.writeValue cause outcome else s
            some { s₁ with phase := .returned cause status }
      | _ => none
  | .relock =>
      match s.phase with
      | .returned _ status =>
          some { s with
            record := { s.record with pact := if s.pPvt.canBlock then false else s.record.pact }
            pPvt := s.pPvt.reportQueueRequestStatus status }.finish
      | _ => none
  | .processCallbackOutput outcome =>
      match s.port with
      | .queued cause => some { s.writeValue cause outcome with port := .written }
      | _ => none
  | .complete =>
      if s.phase = .idle ∧ s.port = .written then
        let s₁ := { s with record := { s.record with alarm := (0, 0) } }.process sup .other
        some { s₁ with record := { s₁.record with pact := false }, port := .none }
      else none

def State.start (p : DevPvt α ringSize) (record : OutputRecord β) : State α β ringSize where
  pPvt := p
  record := record
  phase := .idle
  port := .none
  outstanding := 0
  called := []
  taken := []
  writes := []
  reported := 0

/-- The record is not active, and its ring is new. -/
def machine (sup : OutputSupport α β) (zero : α) (canBlock : Bool) (ringSize : Nat) :
    Machine (State α β ringSize) (Action α β) where
  init s := ∃ record : OutputRecord β, record.pact = false ∧
    s = .start (.new zero ringSize canBlock) record
  step := step sup

/-! ## The output records -/

/-- The `ao` record, with `rval` and `val`; `toEngineering` is the conversion of `rval`, which fails
where `cvtRawToEngBpt` does. -/
def processAo {ε : Type} (convert : BitVec 32 → BitVec 32) (toEngineering : BitVec 32 → Option ε) :
    OutputSupport (BitVec 32) (BitVec 32 × ε) where
  convert := convert
  store value pr :=
    match toEngineering value with
    | some val => ((value, val), true)
    | none => ((value, pr.2), false)
  output pr := pr.1

/-- The `longout` record. -/
def processLo (convert : BitVec 32 → BitVec 32) : OutputSupport (BitVec 32) (BitVec 32) where
  convert := convert
  store value _ := (value, true)
  output val := val

/-- The `bo` record, with `rval` and `val`. -/
def processBo (convert : BitVec 32 → BitVec 32) : OutputSupport (BitVec 32) (BitVec 32 × Nat) where
  convert := convert
  store value _ := ((value, if value = 0 then 0 else 1), true)
  output pr := pr.1

/-- The state of an `mbbo` record that has a raw value, or 65535; without defined states (`sdef`) it is
the raw value. -/
def mbboState (states : List (BitVec 32)) (sdef : Bool) (rval : BitVec 32) : Nat :=
  if sdef then
    match states.findIdx? (· == rval) with
    | some i => i
    | none => 65535
  else rval.toNat % 2 ^ 16

/-- The `mbbo` record, with `rval` and `val`. -/
def processMbbo (convert : BitVec 32 → BitVec 32) (mask : BitVec 32) (shft : Nat)
    (states : List (BitVec 32)) (sdef : Bool) : OutputSupport (BitVec 32) (BitVec 32 × Nat) where
  convert := convert
  store value _ :=
    let rval := value &&& mask
    ((rval, mbboState states sdef (if shft > 0 then rval >>> shft else rval)), true)
  output pr := pr.1

end ReadBack
end DevEpics
end AsynDriver
