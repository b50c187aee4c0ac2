import AsynDriver.DevEpics.ArrayElement
import AsynDriver.DevEpics.ScalarInput
import AsynDriver.Library.Machine

/-!
# Array records with `I/O Intr`

The input records of `devAsynXXXArray`.  Without a ring, `asyn:FIFO` 0, `interruptCallback` stores in
the record; with one it copies the array to a slot, and `process` copies it from the slot to the record
after it has left the ring.

* `DevAsynXXXArray` — the private data; there are `ringSize` slots, so the ring holds `ringSize - 1`
  arrays.
* `State` — a record with its history; `Phase.copying` is between the two sections of `process` that
  hold `ringBufferLock_`.
* `State.interruptCallback`, `State.process`, `State.copy`, `State.finish` — the code.
* `Action`, `step`, `machine` — the driver, the scan threads and the port thread.
-/

namespace AsynDriver
namespace DevEpics
namespace XXXArray

open Library
open Manager (AsynStatus)

variable {α : Type} {nelm ringSize : Nat}

/-- The slot after a callback. -/
def ofCallback (pValue : Fin nelm → α) (value : List α) (pasynUser : InterruptUser) :
    Slot α nelm where
  pValue := copyArray pValue value (min value.length nelm)
  len := min value.length nelm
  time := pasynUser.timestamp
  status := pasynUser.auxStatus
  alarmStatus := pasynUser.alarmStatus
  alarmSeverity := pasynUser.alarmSeverity
  len_le := Nat.min_le_right _ _

/-- The private data; `ringBuffer_`, `ringHead_` and `ringTail_` are in `ringBuffer`, and `pValue` of
`result_` points to the array of a slot. -/
structure DevAsynXXXArray (α : Type) (nelm ringSize : Nat) where
  ringBuffer : Option (Ring (Slot α nelm) ringSize)
  ringBufferOverflows : Nat
  result : ArrayElement (Option (Fin ringSize)) nelm
  gotValue : Nat
  canBlock : Bool
  previousQueueRequestStatus : AsynStatus

namespace DevAsynXXXArray

/-- `createRingBuffer`. -/
def createRingBuffer (zero : α) (nelm ringSize : Nat) : Option (Ring (Slot α nelm) ringSize) :=
  if h : 0 < ringSize then
    some ⟨fun _ => .empty zero nelm, ⟨0, h⟩, ⟨0, h⟩⟩
  else none

/-- After `getIoIntInfo`. -/
def new (zero : α) (nelm ringSize : Nat) (canBlock : Bool) : DevAsynXXXArray α nelm ringSize where
  ringBuffer := createRingBuffer zero nelm ringSize
  ringBufferOverflows := 0
  result := ⟨none, 0, 0, .asynSuccess, 0, 0, Nat.zero_le _⟩
  gotValue := 0
  canBlock := canBlock
  previousQueueRequestStatus := .asynSuccess

/-- `getRingBufferValue`. -/
def getRingBufferValue (p : DevAsynXXXArray α nelm ringSize) :
    Bool × DevAsynXXXArray α nelm ringSize :=
  match p.ringBuffer with
  | none => (false, p)
  | some ring =>
      match ring.pop with
      | none => (false, p)
      | some (slot, rest) =>
          (true,
            { p with
              ringBufferOverflows := 0
              result := (ring.slots slot).pointTo (some slot)
              ringBuffer := some rest })

/-- The memory that `pValue` of `result_` points to. -/
def pointed (p : DevAsynXXXArray α nelm ringSize) : List α :=
  match p.ringBuffer, p.result.pValue with
  | some ring, some slot => List.ofFn (ring.slots slot).pValue
  | _, _ => []

/-- `result_`, with the array as it is now. -/
def resultElement (p : DevAsynXXXArray α nelm ringSize) : RingBufferElement (List α) where
  value := p.pointed.take p.result.len
  time := p.result.time
  status := p.result.status
  alarmStatus := p.result.alarmStatus
  alarmSeverity := p.result.alarmSeverity

/-- The arrays in the ring. -/
def stored (p : DevAsynXXXArray α nelm ringSize) : List (RingBufferElement (List α)) :=
  match p.ringBuffer with
  | none => []
  | some ring => ring.contents.map ArrayElement.element

end DevAsynXXXArray

/-- The fields of the record that device support reads and writes. -/
structure ArrayRecord (α : Type) (nelm : Nat) where
  bptr : Fin nelm → α
  nord : Nat
  time : Nat
  alarm : Nat × Nat
  udf : Bool
  pact : Bool

namespace ArrayRecord

/-- The array of the record. -/
def data (pr : ArrayRecord α nelm) : List α := (List.ofFn pr.bptr).take pr.nord

/-- What the record has taken over. -/
def took (pr : ArrayRecord α nelm) (status : AsynStatus) (alarmStatus alarmSeverity : Nat) :
    RingBufferElement (Option (List α)) where
  value := if status = .asynSuccess then some pr.data else none
  time := pr.time
  status := status
  alarmStatus := alarmStatus
  alarmSeverity := alarmSeverity

end ArrayRecord

/-- What a record takes over of a callback: with an error it keeps its array. -/
def whole (e : RingBufferElement (List α)) : RingBufferElement (Option (List α)) where
  value := if e.status = .asynSuccess then some e.value else none
  time := e.time
  status := e.status
  alarmStatus := e.alarmStatus
  alarmSeverity := e.alarmSeverity

/-- Where the thread stands that holds the lock of the record. -/
inductive Phase
  | idle
  /-- In `process`, between `getRingBufferValue` and the copy of the array. -/
  | copying
  deriving DecidableEq

/-- The asynchronous read. -/
inductive PortRequest
  | none
  | queued
  /-- `queueRequestCallback` has requested the completion. -/
  | done
  deriving DecidableEq

structure State (α : Type) (nelm ringSize : Nat) where
  pPvt : DevAsynXXXArray α nelm ringSize
  record : ArrayRecord α nelm
  phase : Phase
  port : PortRequest
  /-- Callbacks that have stored in the record and are about to call `scanIoRequest`. -/
  storing : Nat
  /-- Accepted scan requests that have not been served. -/
  requests : Nat
  called : List (RingBufferElement (List α))
  popped : List (RingBufferElement (List α))
  taken : List (RingBufferElement (Option (List α)))
  /-- The overflows that `getRingBufferValue` has printed and set back to 0. -/
  reported : Nat
  /-- The number of arrays that were in the ring before the last one was popped. -/
  filled : Nat
  /-- The number of callbacks since then. -/
  since : Nat

namespace State

/-- The end of `process`, and record support after it. -/
def finish (s : State α nelm ringSize) : State α nelm ringSize :=
  let result := s.pPvt.result
  let alarm := asynStatusToEpicsAlarm result.status epicsAlarmRead result.alarmStatus
    epicsSevInvalid result.alarmSeverity
  { s with
    pPvt :=
      { s.pPvt with
        result :=
          { result with status := .asynSuccess, alarmStatus := alarm.1, alarmSeverity := alarm.2 } }
    record :=
      { s.record with
        alarm := recGblSetSevr s.record.alarm alarm
        udf := if result.status = .asynSuccess then false else s.record.udf
        pact := false }
    phase := .idle }

/-- `queueRequestCallback`, up to the request of the completion.  The driver gives at most `NELM`
elements. -/
def queueRequestCallback (s : State α nelm ringSize) (reading : RingBufferElement (List α)) :
    State α nelm ringSize :=
  let success : Bool := reading.status = .asynSuccess
  { s with
    pPvt :=
      { s.pPvt with
        result :=
          { s.pPvt.result with
            time := reading.time
            status := reading.status
            alarmStatus := reading.alarmStatus
            alarmSeverity := reading.alarmSeverity } }
    record :=
      { s.record with
        bptr := copyArray s.record.bptr reading.value reading.value.length
        nord := if success then reading.value.length % 2 ^ 32 else s.record.nord
        udf := if success then false else s.record.udf } }

/-- `process` without new input data. -/
def initialCall (s : State α nelm ringSize) (request : QueueRequest (List α)) :
    State α nelm ringSize :=
  if s.record.pact then s.finish
  else if request.status = .asynSuccess ∧ s.pPvt.canBlock = true then
    { s with record := { s.record with pact := true }, port := .queued }
  else
    let s₁ :=
      if request.status = .asynSuccess then s.queueRequestCallback request.reading else s
    { s₁ with pPvt := { s₁.pPvt with previousQueueRequestStatus := request.status } }.finish

/-- `process`, up to the copy where there is a ring. -/
def process (s : State α nelm ringSize) (request : QueueRequest (List α)) : State α nelm ringSize :=
  match s.pPvt.ringBuffer with
  | none =>
      if s.pPvt.gotValue ≠ 0 then
        -- The array is in the record already.
        { s with pPvt := { s.pPvt with gotValue := s.pPvt.gotValue - 1 } }.finish
      else s.initialCall request
  | some _ =>
      let got := s.pPvt.getRingBufferValue
      if got.1 then
        { s with
          pPvt := got.2
          phase := .copying
          popped := s.popped ++ [got.2.resultElement]
          reported := s.reported + s.pPvt.ringBufferOverflows
          filled := s.pPvt.stored.length
          since := 0 }
      else s.initialCall request

/-- The rest of `process`: the array is copied from the slot. -/
def copy (s : State α nelm ringSize) : State α nelm ringSize :=
  let result := s.pPvt.result
  let pr :=
    if result.status = .asynSuccess then
      { s.record with
        bptr := copyArray s.record.bptr s.pPvt.pointed result.len
        nord := result.len }
    else s.record
  let pr := { pr with time := result.time }
  { s with
    record := pr
    taken := s.taken ++ [pr.took result.status result.alarmStatus result.alarmSeverity] }.finish

/-- `interruptCallback`; with a ring `accepted` is the answer of `scanIoRequest`. -/
def interruptCallback (s : State α nelm ringSize) (value : List α) (pasynUser : InterruptUser)
    (interruptAccept accepted : Bool) : State α nelm ringSize :=
  if !interruptAccept then s
  else
    let e := RingBufferElement.ofCallback (value.take nelm) pasynUser
    match s.pPvt.ringBuffer with
    | none =>
        let len := min value.length nelm
        let pr :=
          if pasynUser.auxStatus = .asynSuccess then
            { s.record with bptr := copyArray s.record.bptr value len, nord := len }
          else s.record
        let pr := { pr with time := pasynUser.timestamp }
        { s with
          pPvt :=
            { s.pPvt with
              gotValue := s.pPvt.gotValue + 1
              result :=
                { s.pPvt.result with
                  status := pasynUser.auxStatus
                  alarmStatus := pasynUser.alarmStatus
                  alarmSeverity := pasynUser.alarmSeverity } }
          record := pr
          storing := s.storing + 1
          called := s.called ++ [e]
          taken := s.taken ++
            [pr.took pasynUser.auxStatus pasynUser.alarmStatus pasynUser.alarmSeverity] }
    | some ring =>
        let r := ring.push (ofCallback (ring.slots ring.head).pValue value pasynUser)
        { s with
          pPvt :=
            { s.pPvt with
              ringBuffer := some r.1
              ringBufferOverflows :=
                if r.2 then s.pPvt.ringBufferOverflows + 1 else s.pPvt.ringBufferOverflows }
          requests := if !r.2 && accepted then s.requests + 1 else s.requests
          called := s.called ++ [e]
          since := s.since + 1 }

end State

/-- `requested` tells a processing for a scan request from any other. -/
inductive Action (α : Type)
  | interruptCallback (value : List α) (pasynUser : InterruptUser) (interruptAccept accepted : Bool)
  | scanIoRequest (accepted : Bool)
  | process (requested : Bool) (request : QueueRequest (List α))
  | copy
  | queueRequestCallback (reading : RingBufferElement (List α))
  | complete

def step (s : State α nelm ringSize) : Action α → Option (State α nelm ringSize)
  | .interruptCallback value pasynUser interruptAccept accepted =>
      some (s.interruptCallback value pasynUser interruptAccept accepted)
  | .scanIoRequest accepted =>
      if s.storing = 0 then none
      else
        some { s with
          storing := s.storing - 1
          requests := if accepted then s.requests + 1 else s.requests }
  | .process requested request =>
      if s.phase ≠ .idle ∨ (requested = true ∧ s.requests = 0) then none
      else
        let s₁ := { s with requests := if requested then s.requests - 1 else s.requests }
        -- `dbProcess` leaves an active record alone.
        if s.record.pact then some s₁
        else some ({ s₁ with record := { s₁.record with alarm := (0, 0) } }.process request)
  | .copy => if s.phase = .copying then some s.copy else none
  | .queueRequestCallback reading =>
      if s.port = .queued then some { s.queueRequestCallback reading with port := .done } else none
  | .complete =>
      if s.phase = .idle ∧ s.port = .done then
        some ({ s with port := .none, record := { s.record with alarm := (0, 0) } }.process
          ⟨.asynSuccess, ⟨[], 0, .asynSuccess, 0, 0⟩⟩)
      else none

def State.start (p : DevAsynXXXArray α nelm ringSize) (record : ArrayRecord α nelm) :
    State α nelm ringSize where
  pPvt := p
  record := record
  phase := .idle
  port := .none
  storing := 0
  requests := 0
  called := []
  popped := []
  taken := []
  reported := 0
  filled := 0
  since := 0

/-- The record is not active, and its ring is new. -/
def machine (zero : α) (canBlock : Bool) (nelm ringSize : Nat) :
    Machine (State α nelm ringSize) (Action α) where
  init s := ∃ record : ArrayRecord α nelm, record.pact = false ∧
    s = .start (.new zero nelm ringSize canBlock) record
  step := step

end XXXArray
end DevEpics
end AsynDriver
