import AsynDriver.Library.RingBuffer
import AsynDriver.Manager.Types

/-!
# `devPvt` of the scalar device supports

What `devAsynInt32`, `devAsynInt64`, `devAsynUInt32Digital` and `devAsynFloat64` have in common: the
ring of callback values and the alarm that a value raises.  They differ in the type of the value.

* `asynStatusToEpicsAlarm` — the alarm of a value, with the alarm of its status as the default.
* `RingBufferElement`, `DevPvt` — the private data; the ring has `ringSize + 1` slots.
* `getCallbackValue`, `pushCallbackValue` — the two ends of the ring.
-/

namespace AsynDriver
namespace DevEpics

open Library
open Manager (AsynStatus)

/-! ## Alarms -/

/-- `epicsAlarmCondition`, as numbers: `asynUser` keeps them as an `int`. -/
def epicsAlarmNone : Nat := 0
def epicsAlarmRead : Nat := 1
def epicsAlarmWrite : Nat := 2
def epicsAlarmComm : Nat := 9
def epicsAlarmTimeout : Nat := 10
def epicsAlarmHwLimit : Nat := 11
def epicsAlarmDisable : Nat := 18

/-- `epicsAlarmSeverity`. -/
def epicsSevNone : Nat := 0
def epicsSevInvalid : Nat := 3

/-- The alarm condition of a status that has one of its own. -/
def statusAlarm (status : AsynStatus) (defaultStat : Nat) : Nat :=
  match status with
  | .asynTimeout => epicsAlarmTimeout
  | .asynOverflow => epicsAlarmHwLimit
  | .asynDisconnected => epicsAlarmComm
  | .asynDisabled => epicsAlarmDisable
  | _ => defaultStat

/-- `asynStatusToEpicsAlarm`, with `*pStat` and `*pSevr` after it. -/
def asynStatusToEpicsAlarm (status : AsynStatus) (defaultStat stat defaultSevr sevr : Nat) :
    Nat × Nat :=
  if status = .asynSuccess then (stat, sevr)
  else
    (if stat = epicsAlarmNone then statusAlarm status defaultStat else stat,
      if sevr = epicsSevNone then defaultSevr else sevr)

/-- `recGblSetSevr` on `nsta` and `nsev`: an alarm takes the place of a less severe one. -/
def recGblSetSevr (pr : Nat × Nat) (alarm : Nat × Nat) : Nat × Nat :=
  if pr.2 < alarm.2 then alarm else pr

/-! ## The ring -/

/-- `ringBufferElement`. -/
structure RingBufferElement (α : Type) where
  value : α
  time : Nat
  status : AsynStatus
  alarmStatus : Nat
  alarmSeverity : Nat
  deriving DecidableEq

/-- What an interrupt callback finds in its `asynUser`. -/
structure InterruptUser where
  timestamp : Nat
  auxStatus : AsynStatus
  alarmStatus : Nat
  alarmSeverity : Nat
  deriving DecidableEq

/-- The element for a callback. -/
def RingBufferElement.ofCallback {α : Type} (value : α) (pasynUser : InterruptUser) :
    RingBufferElement α where
  value := value
  time := pasynUser.timestamp
  status := pasynUser.auxStatus
  alarmStatus := pasynUser.alarmStatus
  alarmSeverity := pasynUser.alarmSeverity

/-- `devPvt`; `ringBuffer`, `ringHead` and `ringTail` are in `ring`. -/
structure DevPvt (α : Type) (ringSize : Nat) where
  ring : Ring (RingBufferElement α) (ringSize + 1)
  ringBufferOverflows : Nat
  result : RingBufferElement α
  canBlock : Bool
  previousQueueRequestStatus : AsynStatus
  asyncProcessingActive : Bool
  newOutputCallbackValue : Bool
  numDeferredOutputCallbacks : Nat

namespace DevPvt

variable {α : Type} {ringSize : Nat}

/-- Memory from `calloc`, with `zero` for the value. -/
def new (zero : α) (ringSize : Nat) (canBlock : Bool) : DevPvt α ringSize where
  ring := ⟨fun _ => ⟨zero, 0, .asynSuccess, 0, 0⟩, 0, 0⟩
  ringBufferOverflows := 0
  result := ⟨zero, 0, .asynSuccess, 0, 0⟩
  canBlock := canBlock
  previousQueueRequestStatus := .asynSuccess
  asyncProcessingActive := false
  newOutputCallbackValue := false
  numDeferredOutputCallbacks := 0

/-- What the interrupt callbacks do with the ring: a new element, or one in the place of the oldest,
which is the second result. -/
def pushCallbackValue (p : DevPvt α ringSize) (e : RingBufferElement α) : DevPvt α ringSize × Bool :=
  let r := p.ring.push e
  ({ p with
     ring := r.1
     ringBufferOverflows := if r.2 then p.ringBufferOverflows + 1 else p.ringBufferOverflows }, r.2)

/-- `getCallbackValue`. -/
def getCallbackValue (p : DevPvt α ringSize) : Bool × DevPvt α ringSize :=
  match p.ring.pop with
  | none => (false, p)
  | some (slot, ring) =>
      (true, { p with ringBufferOverflows := 0, result := p.ring.slots slot, ring := ring })

/-- `reportQueueRequestStatus`. -/
def reportQueueRequestStatus (p : DevPvt α ringSize) (status : AsynStatus) : DevPvt α ringSize :=
  { p with
    result :=
      if status ≠ .asynSuccess then { p.result with status := status } else p.result
    previousQueueRequestStatus := status }

/-! ### The history of the ring -/

variable {p : DevPvt α ringSize} {called taken : List (RingBufferElement α)} {reported : Nat}

theorem history_pushCallbackValue
    (hhistory : p.ring.History called taken (reported + p.ringBufferOverflows))
    (e : RingBufferElement α) :
    (p.pushCallbackValue e).1.ring.History (called ++ [e]) taken
      (reported + (p.pushCallbackValue e).1.ringBufferOverflows) := by
  have hpush := hhistory.push e
  show (p.ring.push e).1.History (called ++ [e]) taken
    (reported + if (p.ring.push e).2 then p.ringBufferOverflows + 1 else p.ringBufferOverflows)
  cases hoverflow : (p.ring.push e).2 with
  | false =>
      rw [hoverflow, if_neg Bool.false_ne_true] at hpush
      rw [if_neg Bool.false_ne_true]
      exact hpush
  | true =>
      rw [hoverflow, if_pos rfl] at hpush
      rw [if_pos rfl]
      exact hpush

theorem getCallbackValue_of_pop {slot : Fin (ringSize + 1)}
    {ring : Ring (RingBufferElement α) (ringSize + 1)} (hpop : p.ring.pop = some (slot, ring)) :
    p.getCallbackValue =
      (true, { p with ringBufferOverflows := 0, result := p.ring.slots slot, ring := ring }) := by
  unfold getCallbackValue
  rw [hpop]

theorem getCallbackValue_of_empty (hpop : p.ring.pop = none) : p.getCallbackValue = (false, p) := by
  unfold getCallbackValue
  rw [hpop]

end DevPvt
end DevEpics
end AsynDriver
