import AsynDriver.DevEpics.DevPvt
import AsynDriver.Library.Machine

/-!
# Scalar input records

`interruptCallbackInput` and the `process…` functions of the input records, which have one body: the
next callback value, or a read from the driver where there is none.

* `InputSupport` — what the input records differ in: the conversion of a callback value, what the
  record makes of it, and whether a status is reported more than once.
* `InputSupport.interruptCallbackInput`, `InputSupport.process` — the two functions.
* `processAi`, `processLi`, … — the members of the family.
-/

namespace AsynDriver
namespace DevEpics

open Manager (AsynStatus)

/-- The fields of an input record that device support writes; `value` is `rval` or `val`. -/
structure InputRecord (β : Type) where
  value : β
  udf : Bool
  time : Nat
  pact : Bool
  /-- `nsta` and `nsev`, which record support clears before each processing. -/
  alarm : Nat × Nat

/-- What the environment makes of a `queueRequest`: its status, and what the driver's `read` gives. -/
structure QueueRequest (α : Type) where
  status : AsynStatus
  reading : RingBufferElement α

/-- The differences between the input records. -/
structure InputSupport (α β : Type) where
  /-- The mask of `devAsynInt32`. -/
  convert : α → α
  /-- The value of the record, from the callback value and the previous `value` and `udf`. -/
  store : α → β → Bool → β
  /-- What `process` returns for a value. -/
  returns : Int
  /-- `result.status` is set back after it has been reported. -/
  resets : Bool

namespace InputSupport

variable {α β : Type} {ringSize : Nat} (sup : InputSupport α β)

/-- `interruptCallbackInput`, and whether it calls `scanIoRequest`. -/
def interruptCallbackInput (p : DevPvt α ringSize) (value : α) (pasynUser : InterruptUser)
    (interruptAccept : Bool) : DevPvt α ringSize × Bool :=
  if !interruptAccept then (p, false)
  else
    let r := p.pushCallbackValue (.ofCallback (sup.convert value) pasynUser)
    (r.1, !r.2)

/-- `processCallbackInput`. -/
def processCallbackInput (p : DevPvt α ringSize) (reading : RingBufferElement α) :
    DevPvt α ringSize :=
  { p with result := { reading with value := sup.convert reading.value } }

/-- The end of `process`: the record gets time, alarm and, with `asynSuccess`, the value. -/
def finish (p : DevPvt α ringSize) (pr : InputRecord β) :
    DevPvt α ringSize × InputRecord β × Int :=
  let alarm := asynStatusToEpicsAlarm p.result.status epicsAlarmRead p.result.alarmStatus
    epicsSevInvalid p.result.alarmSeverity
  let result := { p.result with alarmStatus := alarm.1, alarmSeverity := alarm.2 }
  let pr := { pr with time := result.time, alarm := recGblSetSevr pr.alarm alarm }
  if result.status = .asynSuccess then
    ({ p with result := result },
      { pr with value := sup.store result.value pr.value pr.udf, udf := false }, sup.returns)
  else
    ({ p with result := if sup.resets then { result with status := .asynSuccess } else result },
      pr, -1)

/-- `processAi`, …: the body they have in common. -/
def process (p : DevPvt α ringSize) (pr : InputRecord β) (request : QueueRequest α) :
    DevPvt α ringSize × InputRecord β × Int :=
  let got := p.getCallbackValue
  if !got.1 && !pr.pact then
    if request.status = .asynSuccess ∧ p.canBlock = true then
      -- The driver is asked later, and the record stays active.
      (got.2, { pr with pact := true }, 0)
    else
      let p₁ :=
        if request.status = .asynSuccess then sup.processCallbackInput got.2 request.reading
        else got.2
      sup.finish (p₁.reportQueueRequestStatus request.status)
        { pr with pact := if p.canBlock then false else pr.pact }
  else sup.finish got.2 pr

end InputSupport

/-! ## The input records -/

/-- `mask`, `bipolar` and `signBit` of `devAsynInt32`. -/
structure Int32Mask where
  mask : BitVec 32
  bipolar : Bool
  signBit : BitVec 32

/-- The first lines of `interruptCallbackInput` of `devAsynInt32`. -/
def Int32Mask.convert (m : Int32Mask) (value : BitVec 32) : BitVec 32 :=
  if m.mask ≠ 0 then
    let masked := value &&& m.mask
    if m.bipolar && masked &&& m.signBit != 0 then masked ||| ~~~m.mask else masked
  else value

/-- The records that take the value as it is, or masked, and report a status once. -/
def plainInput {α : Type} (convert mask : α → α) : InputSupport α α :=
  ⟨convert, fun value _ _ => mask value, 0, true⟩

namespace Int32

/-- The `ai` record goes on reporting a status until the next value. -/
def processAi (m : Int32Mask) : InputSupport (BitVec 32) (BitVec 32) :=
  ⟨m.convert, fun value _ _ => value, 0, false⟩

def processLi (m : Int32Mask) : InputSupport (BitVec 32) (BitVec 32) := plainInput m.convert id

def processBi (m : Int32Mask) : InputSupport (BitVec 32) (BitVec 32) := plainInput m.convert id

/-- The `mask` of the record. -/
def processMbbi (m : Int32Mask) (mask : BitVec 32) : InputSupport (BitVec 32) (BitVec 32) :=
  plainInput m.convert (· &&& mask)

end Int32

namespace Int64

def processLLi : InputSupport (BitVec 64) (BitVec 64) := plainInput id id

/-- The `longin` record keeps the low 32 bits. -/
def processLi : InputSupport (BitVec 64) (BitVec 32) :=
  ⟨id, fun value _ _ => value.truncate 32, 0, true⟩

/-- The `ai` record; `toFloat` is the conversion to `epicsFloat64`. -/
def processAi {ε : Type} (toFloat : BitVec 64 → ε) : InputSupport (BitVec 64) ε :=
  ⟨id, fun value _ _ => toFloat value, 2, false⟩

end Int64

namespace UInt32Digital

/-- `processBi`, `processMbbi` and `processMbbiDirect` with the mask of the record, `processLi` with
that of the link. -/
def processInput (mask : BitVec 32) : InputSupport (BitVec 32) (BitVec 32) :=
  plainInput id (· &&& mask)

end UInt32Digital

namespace Float64

/-- The `ai` record; `smooth` is the conversion with `ASLO` and `AOFF` and the smoothing, which
depends on the previous `val` and `udf`. -/
def processAi {ε : Type} (smooth : ε → ε → Bool → ε) : InputSupport ε ε := ⟨id, smooth, 2, false⟩

end Float64

end DevEpics
end AsynDriver
