import AsynDriver.DevEpics.ScalarInput
import AsynDriver.Library.Rounding

/-!
# Averages of callback values

The `ai` device supports `asynInt32Average`, `asynInt64Average` and `asynFloat64Average`.  The callback
is registered by `initAiAverage` and adds its values to a sum; in `I/O Intr` mode it also puts an
average into the ring, every `SVAL` values.  `processAiAverage` takes the ring's value or, where there
is none, averages the sum.

* `Support` — what the three differ in; `Int32.average`, `Int64.average`, `Float64.average` are its
  members, and `Int64.getIoIntInfo` has a body of its own.
* `interruptCallbackAverage`, `processAiAverage`, `finishAiAverage` — the functions; the last is what
  `processAiAverage` does when it has released `devPvtLock`.
* `State`, `Action`, `machine` — a record with its callbacks, processings and changes of `SCAN`.

Arithmetic on `double` is exact, so that a `double` and an integer that becomes one are rationals.
-/

namespace AsynDriver
namespace DevEpics
namespace Average

open Library
open Manager (AsynStatus)

def epicsAlarmUDF : Nat := 17

/-- What the device supports read and write of an `ai` record. -/
structure AiRecord where
  rval : ℤ
  val : ℚ
  udf : Bool
  time : Nat
  /-- `nsta` and `nsev`. -/
  alarm : Nat × Nat
  sval : ℚ
  aslo : ℚ
  aoff : ℚ
  smoo : ℚ

/-- `devPvt` with what the averages need. -/
structure AveragePvt (ringSize : Nat) where
  devPvt : DevPvt ℚ ringSize
  sum : ℚ
  numAverage : ℤ
  isIOIntrScan : Bool

/-! ## Conversions -/

/-- `numAverage++` on an `int`. -/
def increment (numAverage : ℤ) : ℤ := (numAverage + 1).bmod (2 ^ 32)

/-- The integer behind an `asynStatus`. -/
def statusCode : AsynStatus → Nat
  | .asynSuccess => 0
  | .asynTimeout => 1
  | .asynOverflow => 2
  | .asynError => 3
  | .asynDisconnected => 4
  | .asynDisabled => 5
  | .asynParamAlreadyExists => 6
  | .asynParamNotFound => 7
  | .asynParamWrongType => 8
  | .asynParamBadIndex => 9
  | .asynParamUndefined => 10
  | .asynParamInvalidList => 11

/-- A code without a name has no alarm of its own, as `asynError` has none. -/
def statusOfCode : Nat → AsynStatus
  | 0 => .asynSuccess
  | 1 => .asynTimeout
  | 2 => .asynOverflow
  | 3 => .asynError
  | 4 => .asynDisconnected
  | 5 => .asynDisabled
  | 6 => .asynParamAlreadyExists
  | 7 => .asynParamNotFound
  | 8 => .asynParamWrongType
  | 9 => .asynParamBadIndex
  | 10 => .asynParamUndefined
  | 11 => .asynParamInvalidList
  | _ => .asynError

/-- `a |= b` on statuses. -/
def statusOr (a b : AsynStatus) : AsynStatus := statusOfCode (statusCode a ||| statusCode b)

/-! ## The members of the family -/

/-- `isIOIntrScan`, and how often the driver has `interruptCallbackAverage` on its list. -/
structure Registration where
  isIOIntrScan : Bool
  registrations : Nat
  deriving DecidableEq

/-- The differences between the device supports. -/
structure Support (α : Type) where
  /-- What is added to `sum`. -/
  toSum : α → ℚ
  /-- `rp->value`, from `sum` and `numAverage`. -/
  ringValue : ℚ → ℤ → ℚ
  /-- The local value of `processAiAverage`, from `sum` and `numAverage`. -/
  processValue : ℚ → ℤ → ℚ
  /-- The conversion with which the record takes the local value. -/
  taken : ℚ → ℚ
  /-- The record with a value it takes. -/
  store : ℚ → AiRecord → AiRecord
  /-- What `processAiAverage` returns with a value. -/
  returns : ℤ
  /-- `getIoIntInfo`, where `true` is the command 0. -/
  getIoIntInfo : Bool → Registration → Registration

/-- `sum/numAverage`, one half away from 0 by the sign of the sum. -/
def rounded (sum : ℚ) (numAverage : ℤ) : ℚ :=
  sum / numAverage + if 0 < sum then 1 / 2 else -(1 / 2)

/-- `getIoIntInfo` where `isAiAverage` is set: only the flag changes. -/
def getIoIntInfo (add : Bool) (r : Registration) : Registration := { r with isIOIntrScan := add }

/-- `getIoIntInfo` of `devAsynInt64`: it does not know of averages, and the flag stays as it is. -/
def Int64.getIoIntInfo (add : Bool) (r : Registration) : Registration :=
  { r with registrations := if add then r.registrations + 1 else r.registrations - 1 }

def Int32.average (m : Int32Mask) : Support (BitVec 32) where
  toSum value := (m.convert value).toInt
  ringValue sum numAverage := toInt32 (rounded sum numAverage)
  processValue := rounded
  taken rval := toInt32 rval
  store value pr := { pr with rval := truncate value }
  returns := 0
  getIoIntInfo := getIoIntInfo

/-- `mask` is never set. -/
def Int64.average : Support (BitVec 64) where
  toSum value := value.toInt
  ringValue sum numAverage := toInt32 (rounded sum numAverage)
  processValue sum numAverage := sum / numAverage
  taken val := val
  store value pr := { pr with val := value }
  returns := 2
  getIoIntInfo := Int64.getIoIntInfo

/-- The `ai` record does not convert the value, so device support does, and smooths it. -/
def Float64.average : Support ℚ where
  toSum value := value
  ringValue sum numAverage := sum / numAverage
  processValue sum numAverage := sum / numAverage
  taken dval := dval
  store value pr :=
    let dval := (if pr.aslo ≠ 0 then value * pr.aslo else value) + pr.aoff
    { pr with
      val := if pr.smoo = 0 ∨ pr.udf = true then dval else pr.val * pr.smoo + dval * (1 - pr.smoo) }
  returns := 2
  getIoIntInfo := getIoIntInfo

/-! ## The functions -/

section Functions

variable {α : Type} {ringSize : Nat} (sup : Support α)

/-- The number of values of an average in `I/O Intr` mode. -/
def numToAverage (sval : ℚ) : ℤ :=
  let n := toInt32 (sval + 1 / 2)
  if n < 1 then 1 else n

/-- `numAverage` and `sum` with one more value. -/
def AveragePvt.add (p : AveragePvt ringSize) (value : ℚ) : AveragePvt ringSize :=
  { p with numAverage := increment p.numAverage, sum := p.sum + value }

/-- The callback has to put an average into the ring. -/
def AveragePvt.complete (p : AveragePvt ringSize) (sval : ℚ) : Bool :=
  p.isIOIntrScan && decide (numToAverage sval ≤ p.numAverage)

/-- The end of `interruptCallbackAverage`, and whether it calls `scanIoRequest`. -/
def putAverage (p : AveragePvt ringSize) (sval : ℚ) (pasynUser : InterruptUser) :
    AveragePvt ringSize × Bool :=
  if p.complete sval then
    let r := p.devPvt.pushCallbackValue (.ofCallback (sup.ringValue p.sum p.numAverage) pasynUser)
    ({ p with devPvt := r.1, numAverage := 0, sum := 0 }, !r.2)
  else if p.isIOIntrScan then (p, false)
  else
    let result :=
      { p.devPvt.result with
        status := statusOr p.devPvt.result.status pasynUser.auxStatus
        alarmStatus := pasynUser.alarmStatus
        alarmSeverity := pasynUser.alarmSeverity }
    ({ p with devPvt := { p.devPvt with result := result } }, false)

/-- `interruptCallbackAverage`. -/
def interruptCallbackAverage (p : AveragePvt ringSize) (sval : ℚ) (value : α)
    (pasynUser : InterruptUser) (interruptAccept : Bool) : AveragePvt ringSize × Bool :=
  if !interruptAccept then (p, false)
  else putAverage sup (p.add (sup.toSum value)) sval pasynUser

/-- `processAiAverage` up to the release of `devPvtLock`; without a value it returns -2. -/
def processAiAverage (p : AveragePvt ringSize) (pr : AiRecord) :
    AveragePvt ringSize × AiRecord × Option ℚ :=
  let got := p.devPvt.getCallbackValue
  if got.1 then
    ({ p with devPvt := got.2 }, { pr with time := got.2.result.time }, some got.2.result.value)
  else if p.numAverage = 0 then
    (p, { pr with alarm := recGblSetSevr pr.alarm (epicsAlarmUDF, epicsSevInvalid), udf := true },
      none)
  else
    ({ p with numAverage := 0, sum := 0 }, pr, some (sup.processValue p.sum p.numAverage))

/-- The rest of `processAiAverage`. -/
def finishAiAverage (p : AveragePvt ringSize) (pr : AiRecord) (value : ℚ) :
    AveragePvt ringSize × AiRecord × ℤ :=
  let result := p.devPvt.result
  let alarm := asynStatusToEpicsAlarm result.status epicsAlarmRead result.alarmStatus
    epicsSevInvalid result.alarmSeverity
  let result := { result with alarmStatus := alarm.1, alarmSeverity := alarm.2 }
  let pr := { pr with alarm := recGblSetSevr pr.alarm alarm }
  if result.status = .asynSuccess then
    ({ p with devPvt := { p.devPvt with result := result } },
      { sup.store (sup.taken value) pr with udf := false }, sup.returns)
  else
    ({ p with devPvt := { p.devPvt with result := { result with status := .asynSuccess } } }, pr, -1)

end Functions

/-! ## Runs -/

/-- An average that was made: of which values, which number, and how. -/
structure Made where
  values : List ℚ
  value : ℚ
  /-- The callback made it, for the ring. -/
  byCallback : Bool
  /-- `SCAN` was `I/O Intr`. -/
  ioIntr : Bool
  deriving DecidableEq

/-- A value that a processing has got. -/
structure Obtained where
  value : ℚ
  fromRing : Bool
  deriving DecidableEq

/-- A record, its private data and what has happened. -/
structure State (ringSize : Nat) where
  pPvt : AveragePvt ringSize
  pr : AiRecord
  registrations : Nat
  /-- `SCAN` is `I/O Intr`. -/
  ioIntr : Bool
  /-- The local value of a processing that has released `devPvtLock`. -/
  processing : Option ℚ
  /-- The values of the driver's callbacks since `interruptAccept`. -/
  accepted : List ℚ
  /-- The values that `sum` consists of. -/
  pending : List ℚ
  averages : List Made
  /-- What was put into the ring, and what was taken out of it. -/
  called : List (RingBufferElement ℚ)
  fetched : List (RingBufferElement ℚ)
  /-- The overflows that `getCallbackValue` has printed and set back to 0. -/
  reported : Nat
  obtained : List Obtained
  /-- The values that the record has taken. -/
  taken : List ℚ

inductive Action (α : Type)
  | interruptCallbackAverage (value : α) (pasynUser : InterruptUser) (interruptAccept : Bool)
  | processAiAverage
  | finishAiAverage
  /-- A put to `SCAN`: the record leaves its scan list and is added to another. -/
  | putScan (ioIntr : Bool)

section Machine

variable {α : Type} {ringSize : Nat} (sup : Support α)

/-- One call of the callback, which is registered for each node on the driver's list. -/
def State.deliver (s : State ringSize) (value : α) (pasynUser : InterruptUser) : State ringSize :=
  let p := s.pPvt.add (sup.toSum value)
  let r := interruptCallbackAverage sup s.pPvt s.pr.sval value pasynUser true
  let pending := s.pending ++ [sup.toSum value]
  if p.complete s.pr.sval then
    let average := sup.ringValue p.sum p.numAverage
    { s with
      pPvt := r.1
      pending := []
      averages := s.averages ++ [⟨pending, average, true, s.ioIntr⟩]
      called := s.called ++ [.ofCallback average pasynUser] }
  else { s with pPvt := r.1, pending := pending }

/-- The record has the value `value` in hand. -/
def State.obtain (s : State ringSize) (value : ℚ) (fromRing : Bool) : State ringSize :=
  { s with
    processing := some value
    obtained := s.obtained ++ [⟨sup.taken value, fromRing⟩] }

/-- `processAiAverage`, for a record that is not being processed. -/
def State.process (s : State ringSize) : State ringSize :=
  let r := processAiAverage sup s.pPvt s.pr
  let s' := { s with pPvt := r.1, pr := r.2.1 }
  match r.2.2 with
  | none => s'
  | some value =>
      if s.pPvt.devPvt.getCallbackValue.1 then
        { s'.obtain sup value true with
          fetched := s.fetched ++ [r.1.devPvt.result]
          reported := s.reported + s.pPvt.devPvt.ringBufferOverflows }
      else
        { s'.obtain sup value false with
          pending := []
          averages := s.averages ++ [⟨s.pending, sup.taken value, false, s.ioIntr⟩] }

def State.finish (s : State ringSize) (value : ℚ) : State ringSize :=
  let r := finishAiAverage sup s.pPvt s.pr value
  { s with
    pPvt := r.1
    pr := r.2.1
    processing := none
    taken :=
      if s.pPvt.devPvt.result.status = .asynSuccess then s.taken ++ [sup.taken value] else s.taken }

/-- `getIoIntInfo` of the record. -/
def State.getIoIntInfo (s : State ringSize) (add : Bool) : State ringSize :=
  let r := sup.getIoIntInfo add ⟨s.pPvt.isIOIntrScan, s.registrations⟩
  { s with
    pPvt := { s.pPvt with isIOIntrScan := r.isIOIntrScan }
    registrations := r.registrations }

/-- `scanDelete` and `scanAdd`. -/
def State.putScan (s : State ringSize) (ioIntr : Bool) : State ringSize :=
  let s' := if s.ioIntr then s.getIoIntInfo sup false else s
  let s' := if ioIntr then s'.getIoIntInfo sup true else s'
  { s' with ioIntr := ioIntr }

def step (s : State ringSize) : Action α → Option (State ringSize)
  | .interruptCallbackAverage value pasynUser interruptAccept =>
      if interruptAccept then
        let s' := (fun t : State ringSize => t.deliver sup value pasynUser)^[s.registrations] s
        some { s' with accepted := s.accepted ++ [sup.toSum value] }
      else some s
  | .processAiAverage => if s.processing.isNone then some (s.process sup) else none
  | .finishAiAverage => s.processing.map fun value => s.finish sup value
  | .putScan ioIntr => if s.processing.isNone then some (s.putScan sup ioIntr) else none

/-- After `initAiAverage`: the callback is registered once, and the record is on no scan list. -/
def State.start (ringSize : Nat) (canBlock : Bool) (pr : AiRecord) : State ringSize where
  pPvt := ⟨.new 0 ringSize canBlock, 0, 0, false⟩
  pr := pr
  registrations := 1
  ioIntr := false
  processing := none
  accepted := []
  pending := []
  averages := []
  called := []
  fetched := []
  reported := 0
  obtained := []
  taken := []

def machine (ringSize : Nat) : Machine (State ringSize) (Action α) where
  init s := ∃ canBlock pr, s = State.start ringSize canBlock pr
  step := step sup

end Machine

/-! ## The three device supports -/

inductive Interface
  | asynInt32
  | asynInt64
  | asynFloat64
  deriving DecidableEq

namespace Interface

/-- The type of a callback value. -/
def Value : Interface → Type
  | .asynInt32 => BitVec 32
  | .asynInt64 => BitVec 64
  | .asynFloat64 => ℚ

/-- The device support; the mask is that of the link of `asynInt32`. -/
def support (m : Int32Mask) : (i : Interface) → Support i.Value
  | .asynInt32 => Int32.average m
  | .asynInt64 => Int64.average
  | .asynFloat64 => Float64.average

end Interface
end Average
end DevEpics
end AsynDriver
