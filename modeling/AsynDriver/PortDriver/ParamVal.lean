import AsynDriver.Manager.Types
import Mathlib.Data.List.TakeWhile

/-!
# `paramVal`

One parameter of an `asynPortDriver`: its value, status and alarm, with the setters and getters of
`paramVal.cpp`.

* `EpicsFloat64` — a double by its bits, with the comparison of C++.
* `ParamVal` — the fields of `paramVal`; the members of the union `data` are fields, of which the type
  of the parameter selects one.
* `setInteger`, …, `setAlarmSeverity`, `getInteger`, …, `getString` — the methods; an exception is
  `Except.error`.

The rising and falling masks are left out: no callback depends on them.
-/

namespace AsynDriver
namespace PortDriver

open Manager (AsynStatus)

/-- `asynParamType`. -/
inductive AsynParamType
  | asynParamNotDefined
  | asynParamInt32
  | asynParamInt64
  | asynParamUInt32Digital
  | asynParamFloat64
  | asynParamOctet
  | asynParamInt8Array
  | asynParamInt16Array
  | asynParamInt32Array
  | asynParamInt64Array
  | asynParamFloat32Array
  | asynParamFloat64Array
  | asynParamGenericPointer
  deriving DecidableEq, Repr

/-- `epicsFloat64`, by its bits. -/
structure EpicsFloat64 where
  bits : BitVec 64
  deriving DecidableEq

namespace EpicsFloat64

def isNaN (x : EpicsFloat64) : Bool :=
  (x.bits &&& 0x7FF0000000000000#64) == 0x7FF0000000000000#64 &&
    (x.bits &&& 0x000FFFFFFFFFFFFF#64) != 0#64

def isZero (x : EpicsFloat64) : Bool := (x.bits &&& 0x7FFFFFFFFFFFFFFF#64) == 0#64

/-- `x == y`: the two zeros are equal, and a NaN is not equal to itself. -/
def equals (x y : EpicsFloat64) : Bool :=
  !x.isNaN && !y.isNaN && (x.bits == y.bits || (x.isZero && y.isZero))

end EpicsFloat64

/-- The characters of a string up to its first NUL: `c_str()` as a C string. -/
def cString (s : List UInt8) : List UInt8 := s.takeWhile (· ≠ 0)

/-- `ParamValWrongType`, `ParamValNotDefined`, `ParamListInvalidIndex`. -/
inductive ParamException
  | wrongType
  | notDefined
  | invalidIndex
  deriving DecidableEq

/-- What the `catch` clauses of `paramList` return. -/
def ParamException.status : ParamException → AsynStatus
  | .wrongType => .asynParamWrongType
  | .notDefined => .asynParamUndefined
  | .invalidIndex => .asynParamBadIndex

structure ParamVal where
  type : AsynParamType
  uInt32CallbackMask : BitVec 32
  status_ : AsynStatus
  alarmStatus_ : Int
  alarmSeverity_ : Int
  valueDefined : Bool
  valueChanged : Bool
  name : String
  sval : List UInt8
  ival : Int32
  i64val : Int64
  uival : BitVec 32
  dval : EpicsFloat64
  deriving DecidableEq

namespace ParamVal

/-- The constructor.  It does not initialise `uInt32CallbackMask`: that is what was in the memory. -/
def new (name : String) (type : AsynParamType) (memory : BitVec 32) : ParamVal where
  type := type
  uInt32CallbackMask := memory
  status_ := .asynSuccess
  alarmStatus_ := 0
  alarmSeverity_ := 0
  valueDefined := false
  valueChanged := false
  name := name
  sval := []
  ival := 0
  i64val := 0
  uival := 0
  dval := ⟨0⟩

/-- `epicsStrCaseCmp(name, this->name) == 0`. -/
def nameEquals (p : ParamVal) (name : String) : Bool := name.toLower == p.name.toLower

def isDefined (p : ParamVal) : Bool := p.valueDefined

/-! ## Setters -/

/-- The setters except `setUInt32`: `stored` is the parameter with the new value. -/
def setTyped (p : ParamVal) (type : AsynParamType) (differs : Bool) (stored : ParamVal) :
    Except ParamException ParamVal :=
  if p.type ≠ type then .error .wrongType
  else if !p.isDefined || differs then
    .ok { stored with valueDefined := true, valueChanged := true }
  else .ok p

def setInteger (p : ParamVal) (value : Int32) : Except ParamException ParamVal :=
  p.setTyped .asynParamInt32 (p.ival != value) { p with ival := value }

def setInteger64 (p : ParamVal) (value : Int64) : Except ParamException ParamVal :=
  p.setTyped .asynParamInt64 (p.i64val != value) { p with i64val := value }

def setDouble (p : ParamVal) (value : EpicsFloat64) : Except ParamException ParamVal :=
  p.setTyped .asynParamFloat64 (!p.dval.equals value) { p with dval := value }

def setString (p : ParamVal) (value : List UInt8) : Except ParamException ParamVal :=
  p.setTyped .asynParamOctet (p.sval != value) { p with sval := value }

def setUInt32 (p : ParamVal) (value valueMask interruptMask : BitVec 32) :
    Except ParamException ParamVal :=
  if p.type ≠ .asynParamUInt32Digital then .error .wrongType
  else
    -- A parameter that becomes defined has changed, but its callback mask stays as it is.
    let p₁ := if p.isDefined then p
      else { p with uival := 0, valueDefined := true, valueChanged := true }
    let newValue := (p₁.uival &&& ~~~valueMask) ||| (value &&& valueMask)
    let p₂ := if p₁.uival ≠ newValue then
        { p₁ with
          uInt32CallbackMask := p₁.uInt32CallbackMask ||| (p₁.uival ^^^ newValue)
          uival := newValue
          valueChanged := true }
      else p₁
    .ok (if interruptMask ≠ 0 then
        { p₂ with
          uInt32CallbackMask := p₂.uInt32CallbackMask ||| interruptMask
          valueChanged := true }
      else p₂)

/-- The setters of the status and the alarm: all bits of a `UInt32Digital` are called back. -/
def setField (p : ParamVal) (differs : Bool) (stored : ParamVal) : ParamVal :=
  if differs then
    { stored with
      valueChanged := true
      uInt32CallbackMask :=
        if p.type = .asynParamUInt32Digital then 0xFFFFFFFF#32 else p.uInt32CallbackMask }
  else p

def setStatus (p : ParamVal) (status : AsynStatus) : ParamVal :=
  p.setField (p.status_ != status) { p with status_ := status }

def setAlarmStatus (p : ParamVal) (alarmStatus : Int) : ParamVal :=
  p.setField (p.alarmStatus_ != alarmStatus) { p with alarmStatus_ := alarmStatus }

def setAlarmSeverity (p : ParamVal) (alarmSeverity : Int) : ParamVal :=
  p.setField (p.alarmSeverity_ != alarmSeverity) { p with alarmSeverity_ := alarmSeverity }

/-! ## Getters -/

def getTyped {α : Type} (p : ParamVal) (type : AsynParamType) (value : α) :
    Except ParamException α :=
  if p.type ≠ type then .error .wrongType
  else if !p.isDefined then .error .notDefined
  else .ok value

def getInteger (p : ParamVal) : Except ParamException Int32 := p.getTyped .asynParamInt32 p.ival

def getInteger64 (p : ParamVal) : Except ParamException Int64 :=
  p.getTyped .asynParamInt64 p.i64val

def getUInt32 (p : ParamVal) (valueMask : BitVec 32) : Except ParamException (BitVec 32) :=
  p.getTyped .asynParamUInt32Digital (p.uival &&& valueMask)

def getDouble (p : ParamVal) : Except ParamException EpicsFloat64 :=
  p.getTyped .asynParamFloat64 p.dval

def getString (p : ParamVal) : Except ParamException (List UInt8) :=
  p.getTyped .asynParamOctet p.sval

/-! ## One definition for the setters -/

/-- A call of a setter. -/
inductive Setter
  | setInteger (value : Int32)
  | setInteger64 (value : Int64)
  | setUInt32 (value valueMask interruptMask : BitVec 32)
  | setDouble (value : EpicsFloat64)
  | setString (value : List UInt8)
  | setStatus (status : AsynStatus)
  | setAlarmStatus (alarmStatus : Int)
  | setAlarmSeverity (alarmSeverity : Int)
  deriving DecidableEq

def set (p : ParamVal) : Setter → Except ParamException ParamVal
  | .setInteger value => p.setInteger value
  | .setInteger64 value => p.setInteger64 value
  | .setUInt32 value valueMask interruptMask => p.setUInt32 value valueMask interruptMask
  | .setDouble value => p.setDouble value
  | .setString value => p.setString value
  | .setStatus status => .ok (p.setStatus status)
  | .setAlarmStatus alarmStatus => .ok (p.setAlarmStatus alarmStatus)
  | .setAlarmSeverity alarmSeverity => .ok (p.setAlarmSeverity alarmSeverity)

end ParamVal
end PortDriver
end AsynDriver
