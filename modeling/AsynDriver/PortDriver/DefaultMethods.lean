import AsynDriver.PortDriver.ParamList

/-!
# The default interface methods of `asynPortDriver`

`readInt32`, `writeInt32` and their siblings for `Int64`, `UInt32Digital`, `Float64` and `Octet`, for
clients that set no parameter when they are called back.

* `AsynUser` — the fields of `asynUser` that these methods read and write.
* `parseAsynUser` — the address of the `asynUser` and the name that list 0 has for its reason.
* `read…`, `write…` — the methods; `write` is the one body of `writeInt32`, `writeInt64`,
  `writeUInt32Digital` and `writeOctet`, `read` that of the reads of a number.
* `Write`, `doWrite` — a call of one of the five writes.
-/

namespace AsynDriver
namespace PortDriver

open Manager (AsynStatus)
open Miscellaneous (EomReason)

/-- What an error message says of the value. -/
inductive Printed
  | int32 (value : Int32)
  | int64 (value : Int64)
  | uInt32Digital (value mask : BitVec 32)
  | float64 (value : EpicsFloat64)
  | octet (value : List UInt8)
  | undefined
  deriving DecidableEq

/-- The arguments of the format of `errorMessage`. -/
structure ErrorMessage where
  functionName : String
  status : AsynStatus
  function : Int
  name : String
  value : Printed
  deriving DecidableEq

/-- An `asynUser` that is connected; `addr` is what `getAddr` of `asynManager` gives for it. -/
structure AsynUser where
  reason : Int
  addr : Int
  timestamp : Nat
  alarmStatus : Int
  alarmSeverity : Int
  errorMessage : Option ErrorMessage
  deriving DecidableEq

/-- What a write leaves behind, the callbacks it makes, and what it returns. -/
structure WriteResult where
  driver : AsynPortDriver
  pasynUser : AsynUser
  callbacks : List Callback
  status : AsynStatus

/-- The `asynUser` and `*value` after a read, and what it returns. -/
structure ReadResult (α : Type) where
  pasynUser : AsynUser
  value : α
  status : AsynStatus

/-- The result of `readOctet`; `*nActual` and `*eomReason` are written where the read has reached the
parameter library. -/
structure OctetRead where
  result : ReadResult (List UInt8)
  nActual : Option Nat
  eomReason : Option EomReason

namespace AsynPortDriver

/-- `getParamName` for a list, with the status and `*name`, which was `name`. -/
def getParamName (d : AsynPortDriver) (list index : Int) (name : String) : AsynStatus × String :=
  match d.getParamList list with
  | none => (.asynParamInvalidList, name)
  | some pList =>
      match pList.getParameter index with
      | none => (.asynParamBadIndex, name)
      | some p => (.asynSuccess, p.name)

/-- `parseAsynUser`: the status, `*address` and `*paramName`; `*reason` is that of the `asynUser`. -/
def parseAsynUser (d : AsynPortDriver) (pasynUser : AsynUser) : AsynStatus × Int × String :=
  let a := d.getAddress pasynUser.addr
  if a.1 ≠ .asynSuccess then (a.1, a.2, "")
  else
    let n := d.getParamName 0 pasynUser.reason ""
    (n.1, a.2, n.2)

/-- `getIntegerParam`, …, `getStringParam` for a list: the status and `*value`, which was `old`. -/
def getParam {α : Type} (d : AsynPortDriver) (list : Int) (value : ParamList → AsynStatus × α)
    (old : α) : AsynStatus × α :=
  match d.getParamList list with
  | none => (.asynParamInvalidList, old)
  | some pList => value pList

/-- `getParamAlarmStatus` and `getParamAlarmSeverity`: what is then in the variable that held `old`. -/
def getParamField (d : AsynPortDriver) (list index : Int) (field : ParamVal → Int) (old : Int) : Int :=
  match d.getParamList list with
  | none => old
  | some pList =>
      match pList.getParameter index with
      | none => old
      | some p => field p

/-- The `asynUser` of a read that has reached the parameter library. -/
def stampUser (d : AsynPortDriver) (pasynUser : AsynUser) (timeStamp : Nat) (addr : Int) : AsynUser :=
  { pasynUser with
    timestamp := timeStamp
    alarmStatus := d.getParamField addr pasynUser.reason ParamVal.alarmStatus_ pasynUser.alarmStatus
    alarmSeverity :=
      d.getParamField addr pasynUser.reason ParamVal.alarmSeverity_ pasynUser.alarmSeverity }

/-! ## Reads -/

section Read

variable (d : AsynPortDriver) (pasynUser : AsynUser) (timeStamp : Nat)

/-- The body of the reads of a number; `printed` is what the message says after a status. -/
def read {α : Type} (functionName : String) (value : ParamList → AsynStatus × α)
    (printed : AsynStatus → α → Printed) (old : α) : ReadResult α :=
  let parsed := d.parseAsynUser pasynUser
  if parsed.1 ≠ .asynSuccess then ⟨pasynUser, old, parsed.1⟩
  else
    let addr := parsed.2.1
    let r := d.getParam addr value old
    let stamped := d.stampUser pasynUser timeStamp addr
    { pasynUser :=
        if r.1 ≠ .asynSuccess then
          { stamped with
            errorMessage :=
              some ⟨functionName, r.1, pasynUser.reason, parsed.2.2, printed r.1 r.2⟩ }
        else stamped
      value := r.2
      status := r.1 }

def readInt32 (old : Int32) : ReadResult Int32 :=
  d.read pasynUser timeStamp "readInt32" (fun l => l.getInteger pasynUser.reason)
    (fun _ value => .int32 value) old

def readInt64 (old : Int64) : ReadResult Int64 :=
  d.read pasynUser timeStamp "readInt64" (fun l => l.getInteger64 pasynUser.reason)
    (fun _ value => .int64 value) old

def readUInt32Digital (mask old : BitVec 32) : ReadResult (BitVec 32) :=
  d.read pasynUser timeStamp "readUInt32Digital" (fun l => l.getUInt32 pasynUser.reason mask)
    (fun _ value => .uInt32Digital value mask) old

/-- `readFloat64` has a message of its own for a parameter that is not defined. -/
def readFloat64 (old : EpicsFloat64) : ReadResult EpicsFloat64 :=
  d.read pasynUser timeStamp "readFloat64" (fun l => l.getDouble pasynUser.reason)
    (fun status value => if status = .asynParamUndefined then .undefined else .float64 value) old

/-- The conversion `(int) maxChars`. -/
def toInt (maxChars : Nat) : Int := (maxChars : Int).bmod (2 ^ 32)

/-- `readOctet`, for a buffer that contained the C string `old`. -/
def readOctet (maxChars : Nat) (old : List UInt8) : OctetRead :=
  let r := d.read pasynUser timeStamp "readOctet"
    (fun l => l.getString pasynUser.reason (toInt maxChars) old) (fun _ value => .octet value) old
  if (d.parseAsynUser pasynUser).1 ≠ .asynSuccess then ⟨r, none, none⟩
  else ⟨r, some (r.value.length + 1), some ParamList.eomEnd⟩

end Read

/-! ## Writes -/

section Write

variable (d : AsynPortDriver) (pInterfaces : AsynStandardInterfaces) (timeStamp : Nat)
  (interruptAccept : Bool) (pasynUser : AsynUser)

/-- The body of the writes, except `writeFloat64`. -/
def write (functionName : String) (a : ParamVal.Setter) (printed : Printed) : WriteResult :=
  let parsed := d.parseAsynUser pasynUser
  if parsed.1 ≠ .asynSuccess then ⟨d, pasynUser, [], parsed.1⟩
  else
    let addr := parsed.2.1
    let r := d.setParam addr pasynUser.reason a
    -- The status of the callbacks takes the place of the status of the set.
    let called := r.1.callParamCallbacks pInterfaces timeStamp interruptAccept addr addr
    let status := called.2.2
    { driver := called.1
      pasynUser :=
        if status ≠ .asynSuccess then
          { pasynUser with
            errorMessage := some ⟨functionName, status, pasynUser.reason, parsed.2.2, printed⟩ }
        else pasynUser
      callbacks := called.2.1
      status := status }

def writeInt32 (value : Int32) : WriteResult :=
  d.write pInterfaces timeStamp interruptAccept pasynUser "writeInt32" (.setInteger value)
    (.int32 value)

def writeInt64 (value : Int64) : WriteResult :=
  d.write pInterfaces timeStamp interruptAccept pasynUser "writeInt64" (.setInteger64 value)
    (.int64 value)

def writeUInt32Digital (value mask : BitVec 32) : WriteResult :=
  d.write pInterfaces timeStamp interruptAccept pasynUser "writeUInt32Digital"
    (.setUInt32 value mask 0) (.uInt32Digital value mask)

/-- `writeFloat64` returns the status of the set, and prints an error instead of storing it. -/
def writeFloat64 (value : EpicsFloat64) : WriteResult :=
  let parsed := d.parseAsynUser pasynUser
  if parsed.1 ≠ .asynSuccess then ⟨d, pasynUser, [], parsed.1⟩
  else
    let addr := parsed.2.1
    let r := d.setParam addr pasynUser.reason (.setDouble value)
    let called := r.1.callParamCallbacks pInterfaces timeStamp interruptAccept addr addr
    ⟨called.1, pasynUser, called.2.1, r.2⟩

/-- `writeOctet`, where `value` is the memory that the argument points to: what is stored is the C
string that begins there, and `*nActual` is `nChars`. -/
def writeOctet (value : List UInt8) (nChars : Nat) : WriteResult × Option Nat :=
  let r := d.write pInterfaces timeStamp interruptAccept pasynUser "writeOctet"
    (.setString (cString value)) (.octet (cString value))
  (r, if (d.parseAsynUser pasynUser).1 ≠ .asynSuccess then none else some nChars)

end Write

end AsynPortDriver

/-- A call of one of the five writes. -/
inductive Write
  | int32 (value : Int32)
  | int64 (value : Int64)
  | uInt32Digital (value mask : BitVec 32)
  | float64 (value : EpicsFloat64)
  | octet (value : List UInt8) (nChars : Nat)
  deriving DecidableEq

namespace Write

/-- The type of the parameters that a write is for. -/
def type : Write → AsynParamType
  | .int32 _ => .asynParamInt32
  | .int64 _ => .asynParamInt64
  | .uInt32Digital _ _ => .asynParamUInt32Digital
  | .float64 _ => .asynParamFloat64
  | .octet _ _ => .asynParamOctet

/-- The setter that a write calls. -/
def setter : Write → ParamVal.Setter
  | .int32 value => .setInteger value
  | .int64 value => .setInteger64 value
  | .uInt32Digital value mask => .setUInt32 value mask 0
  | .float64 value => .setDouble value
  | .octet value _ => .setString (cString value)

end Write

/-- The write is done. -/
def AsynPortDriver.doWrite (d : AsynPortDriver) (pInterfaces : AsynStandardInterfaces)
    (timeStamp : Nat) (interruptAccept : Bool) (pasynUser : AsynUser) : Write → WriteResult
  | .int32 value => d.writeInt32 pInterfaces timeStamp interruptAccept pasynUser value
  | .int64 value => d.writeInt64 pInterfaces timeStamp interruptAccept pasynUser value
  | .uInt32Digital value mask =>
      d.writeUInt32Digital pInterfaces timeStamp interruptAccept pasynUser value mask
  | .float64 value => d.writeFloat64 pInterfaces timeStamp interruptAccept pasynUser value
  | .octet value nChars =>
      (d.writeOctet pInterfaces timeStamp interruptAccept pasynUser value nChars).1

end PortDriver
end AsynDriver
