import AsynDriver.DevEpics.ArrayElement
import AsynDriver.DevEpics.ScalarInput
import AsynDriver.Library.Machine

/-!
# String records with `I/O Intr`

The input records of `devAsynOctet` that a driver callback can process: `stringin`, `lsi` and the
`waveform` of characters.  Without a ring, `asyn:FIFO` 0, `interruptCallback` stores in the record; with
one it copies the string to a slot, and `processCommon` copies it from the slot to the record.

* `terminate`, `clip` — the terminating NUL, and the length that leaves room for it.
* `DevAsynOctet`, `OctetRecord` — the private data and the record.
* `State.interruptCallback`, `State.processCommon` — the code; `process` keeps `devPvtLock` from
  `getRingBufferValue` to the end of the copy, so no callback comes between.
* `Action`, `step`, `machine` — the driver, the scan threads and the port thread.

`valSize` fits in 32 bits: it is `NELM`, `SIZV` or the size of a field.
-/

namespace AsynDriver
namespace DevEpics
namespace Octet

open Library
open Manager (AsynStatus)

variable {valSize ringSize : Nat}

/-- `pValue[len] = 0;` -/
def terminate (pValue : Fin valSize → UInt8) (len : Nat) : Fin valSize → UInt8 :=
  fun i => if i.val = len then 0 else pValue i

/-- `if (len >= pPvt->valSize) len = pPvt->valSize-1;` -/
def clip (valSize len : Nat) : Nat := if len ≥ valSize then valSize - 1 else len

theorem clip_eq_min (hsize : 0 < valSize) (len : Nat) : clip valSize len = min len (valSize - 1) := by
  unfold clip
  split <;> omega

theorem clip_le (len : Nat) : clip valSize len ≤ valSize := by
  unfold clip
  split <;> omega

/-- The slot after a callback. -/
def ofCallback (pValue : Fin valSize → UInt8) (value : List UInt8) (pasynUser : InterruptUser) :
    Slot UInt8 valSize where
  pValue := terminate (copyArray pValue value (clip valSize value.length)) (clip valSize value.length)
  len := clip valSize value.length
  time := pasynUser.timestamp
  status := pasynUser.auxStatus
  alarmStatus := pasynUser.alarmStatus
  alarmSeverity := pasynUser.alarmSeverity
  len_le := clip_le _

/-- `devPvt` of an input record; `ringBuffer`, `ringHead` and `ringTail` are in `ringBuffer`, and
`pValue` of `result` points to the memory of a slot. -/
structure DevAsynOctet (valSize ringSize : Nat) where
  isWaveform : Bool
  canBlock : Bool
  ringBuffer : Option (Ring (Slot UInt8 valSize) (ringSize + 1))
  ringBufferOverflows : Nat
  result : ArrayElement (Option (Fin (ringSize + 1))) valSize
  nord : Nat
  gotValue : Nat
  previousQueueRequestStatus : AsynStatus

namespace DevAsynOctet

/-- `createRingBuffer`. -/
def createRingBuffer (valSize ringSize : Nat) :
    Option (Ring (Slot UInt8 valSize) (ringSize + 1)) :=
  if ringSize > 0 then
    some ⟨fun _ => .empty 0 valSize, ⟨0, Nat.succ_pos ringSize⟩, ⟨0, Nat.succ_pos ringSize⟩⟩
  else none

/-- After `getIoIntInfo`. -/
def new (isWaveform canBlock : Bool) (valSize ringSize : Nat) : DevAsynOctet valSize ringSize where
  isWaveform := isWaveform
  canBlock := canBlock
  ringBuffer := createRingBuffer valSize ringSize
  ringBufferOverflows := 0
  result := (ArrayElement.empty (0 : UInt8) valSize).pointTo none
  nord := 0
  gotValue := 0
  previousQueueRequestStatus := .asynSuccess

/-- `getRingBufferValue`. -/
def getRingBufferValue (p : DevAsynOctet valSize ringSize) : Bool × DevAsynOctet valSize ringSize :=
  match p.ringBuffer with
  | none => (false, p)
  | some ring =>
      match ring.pop with
      | none => (false, p)
      | some (slot, rest) =>
          (true,
            { p with
              ringBufferOverflows := 0
              result := (ring.slots slot).pointTo (some slot)
              ringBuffer := some rest })

/-- The memory that `pValue` of `result` points to. -/
def pointed (p : DevAsynOctet valSize ringSize) : List UInt8 :=
  match p.ringBuffer, p.result.pValue with
  | some ring, some slot => List.ofFn (ring.slots slot).pValue
  | _, _ => []

/-- The strings in the ring. -/
def stored (p : DevAsynOctet valSize ringSize) : List (RingBufferElement (List UInt8)) :=
  match p.ringBuffer with
  | none => []
  | some ring => ring.contents.map ArrayElement.element

/-- What `*pLen` is set to: the records other than the waveform count the NUL. -/
def length (p : DevAsynOctet valSize ringSize) (len : Nat) : Nat :=
  if p.isWaveform then len else len + 1

end DevAsynOctet

/-- The fields of the record that device support reads and writes; `len` is `*pLen`, which a `stringin`
record does not have. -/
structure OctetRecord (valSize : Nat) where
  pValue : Fin valSize → UInt8
  len : Option Nat
  time : Nat
  alarm : Nat × Nat
  udf : Bool
  pact : Bool

/-- The asynchronous read. -/
inductive PortRequest
  | none
  | queued
  /-- The callback of the record has requested the completion. -/
  | done
  deriving DecidableEq

structure State (valSize ringSize : Nat) where
  pPvt : DevAsynOctet valSize ringSize
  record : OctetRecord valSize
  port : PortRequest
  called : List (RingBufferElement (List UInt8))

namespace State

/-- The end of `processCommon`, and record support after it. -/
def finish (s : State valSize ringSize) : State valSize ringSize :=
  let result := s.pPvt.result
  let alarm := asynStatusToEpicsAlarm result.status epicsAlarmRead result.alarmStatus
    epicsSevInvalid result.alarmSeverity
  { s with
    pPvt :=
      { s.pPvt with
        result :=
          { result with status := .asynSuccess, alarmStatus := alarm.1, alarmSeverity := alarm.2 } }
    record :=
      { s.record with
        alarm := recGblSetSevr s.record.alarm alarm
        udf := if result.status = .asynSuccess then false else s.record.udf
        pact := false } }

/-- `callbackSiRead`, `callbackLsiRead` and `callbackWfRead`, up to the request of the completion; the
driver gives at most `valSize` characters. -/
def readIt (s : State valSize ringSize) (reading : RingBufferElement (List UInt8)) :
    State valSize ringSize :=
  let nBytesRead :=
    if reading.value.length = valSize then reading.value.length - 1 else reading.value.length
  let pr :=
    { s.record with
      pValue := copyArray s.record.pValue reading.value reading.value.length
      time := reading.time }
  { s with
    pPvt :=
      { s.pPvt with
        result :=
          { s.pPvt.result with
            time := reading.time
            status := reading.status
            alarmStatus := reading.alarmStatus
            alarmSeverity := reading.alarmSeverity } }
    record :=
      if reading.status = .asynSuccess then
        { pr with
          pValue := terminate pr.pValue nBytesRead
          len := pr.len.map fun _ => s.pPvt.length nBytesRead
          udf := false }
      else pr }

/-- `processCommon` without callback data. -/
def initialCall (s : State valSize ringSize) (request : QueueRequest (List UInt8)) :
    State valSize ringSize :=
  if s.record.pact then s.finish
  else if request.status = .asynSuccess ∧ s.pPvt.canBlock = true then
    { s with record := { s.record with pact := true }, port := .queued }
  else
    let s₁ := if request.status = .asynSuccess then s.readIt request.reading else s
    { s₁ with pPvt := { s₁.pPvt with previousQueueRequestStatus := request.status } }.finish

/-- `processCommon`. -/
def processCommon (s : State valSize ringSize) (request : QueueRequest (List UInt8)) :
    State valSize ringSize :=
  match s.pPvt.ringBuffer with
  | none =>
      if s.pPvt.gotValue ≠ 0 then
        -- The string is in the record already.
        let pr :=
          if s.pPvt.result.status = .asynSuccess then
            { s.record with len := s.record.len.map fun _ => s.pPvt.length s.pPvt.nord }
          else s.record
        { s with
          pPvt := { s.pPvt with gotValue := s.pPvt.gotValue - 1 }
          record := pr }.finish
      else s.initialCall request
  | some _ =>
      let got := s.pPvt.getRingBufferValue
      if got.1 then
        let rp := got.2.result
        let pr :=
          if rp.status = .asynSuccess then
            -- The NUL of the slot is not copied.
            { s.record with
              pValue := copyArray s.record.pValue got.2.pointed rp.len
              len := s.record.len.map fun _ => s.pPvt.length rp.len }
          else s.record
        { s with pPvt := got.2, record := { pr with time := rp.time } }.finish
      else s.initialCall request

/-- `interruptCallback`. -/
def interruptCallback (s : State valSize ringSize) (value : List UInt8) (pasynUser : InterruptUser)
    (interruptAccept : Bool) : State valSize ringSize :=
  let len := clip valSize value.length
  let e := RingBufferElement.ofCallback (value.take (valSize - 1)) pasynUser
  match s.pPvt.ringBuffer with
  | none =>
      { s with
        pPvt :=
          { s.pPvt with
            nord := len
            gotValue := s.pPvt.gotValue + 1
            result :=
              { s.pPvt.result with
                time := pasynUser.timestamp
                status := pasynUser.auxStatus
                alarmStatus := pasynUser.alarmStatus
                alarmSeverity := pasynUser.alarmSeverity } }
        record :=
          if pasynUser.auxStatus = .asynSuccess then
            { s.record with pValue := terminate (copyArray s.record.pValue value len) len }
          else s.record
        called := s.called ++ [e] }
  | some ring =>
      if !interruptAccept then s
      else
        let r := ring.push (ofCallback (ring.slots ring.head).pValue value pasynUser)
        { s with
          pPvt :=
            { s.pPvt with
              ringBuffer := some r.1
              ringBufferOverflows :=
                if r.2 then s.pPvt.ringBufferOverflows + 1 else s.pPvt.ringBufferOverflows }
          called := s.called ++ [e] }

end State

/-- `eomReason` is not used by the callback. -/
inductive Action
  | interruptCallback (value : List UInt8) (eomReason : Int) (pasynUser : InterruptUser)
      (interruptAccept : Bool)
  | process (request : QueueRequest (List UInt8))
  | readIt (reading : RingBufferElement (List UInt8))
  | complete

def step (s : State valSize ringSize) : Action → Option (State valSize ringSize)
  | .interruptCallback value _ pasynUser interruptAccept =>
      some (s.interruptCallback value pasynUser interruptAccept)
  | .process request =>
      -- `dbProcess` leaves an active record alone.
      if s.record.pact then some s
      else some ({ s with record := { s.record with alarm := (0, 0) } }.processCommon request)
  | .readIt reading =>
      if s.port = .queued then some { s.readIt reading with port := .done } else none
  | .complete =>
      if s.port = .done then
        some ({ s with port := .none, record := { s.record with alarm := (0, 0) } }.processCommon
          ⟨.asynSuccess, ⟨[], 0, .asynSuccess, 0, 0⟩⟩)
      else none

/-- The record is not active, and its ring is new. -/
def machine (isWaveform canBlock : Bool) (valSize ringSize : Nat) :
    Machine (State valSize ringSize) Action where
  init s := ∃ record : OctetRecord valSize, record.pact = false ∧
    s = ⟨.new isWaveform canBlock valSize ringSize, record, .none, []⟩
  step := step

end Octet
end DevEpics
end AsynDriver
