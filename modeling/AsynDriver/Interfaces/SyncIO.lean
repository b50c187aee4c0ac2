import AsynDriver.Library.UnderLock
import AsynDriver.PortDriver.ParamVal

/-!
# The `SyncIO` interfaces

`asynOctetSyncIO`, `asynInt32SyncIO` and the others: an operation sets `pasynUser->timeout`, locks the
port, calls the methods of the driver, and unlocks the port.

* `Method`, `Reply` — the methods of the interfaces, and what they return and store.
* `Body`, `Body.program` — the calls of an operation while it has the lock.
* `OctetSyncIO`, `Int32SyncIO`, … — the operations of each interface.
* `Operation.returns` — what the caller of an operation gets.
* `spec` — the operations on one port, with the `timeout` of every `asynUser`.

`lockPort` and `queueLockPort` take one lock: of a port that can block it is the port thread that has
`synchronousLock` while it waits in `queueLockPortCallback`.
-/

namespace AsynDriver
namespace Interfaces
namespace SyncIO

open Library
open Library.UnderLock (Program Spec Outcome)
open Manager (AsynStatus)
open PortDriver (EpicsFloat64)

/-! ## The methods of a driver -/

/-- `asynOctet`. -/
inductive AsynOctet
  | write (data : List UInt8)
  | read (maxchars : Nat)
  | flush
  | setInputEos (eos : List UInt8)
  | getInputEos (eossize : Int)
  | setOutputEos (eos : List UInt8)
  | getOutputEos (eossize : Int)

/-- `asynInt32` and `asynInt64`. -/
inductive AsynInteger (α : Type)
  | write (value : α)
  | read
  | getBounds

/-- `asynFloat64`. -/
inductive AsynFloat64
  | write (value : EpicsFloat64)
  | read

/-- `interruptReason`. -/
inductive InterruptReason
  | interruptOnZeroToOne
  | interruptOnOneToZero
  | interruptOnBoth

/-- `asynUInt32Digital`. -/
inductive AsynUInt32Digital
  | write (value mask : BitVec 32)
  | read (mask : BitVec 32)
  | setInterrupt (mask : BitVec 32) (reason : InterruptReason)
  | clearInterrupt (mask : BitVec 32)
  | getInterrupt (reason : InterruptReason)

/-- The elements of the array interfaces. -/
inductive ArrayType
  | int8
  | int16
  | int32
  | int64
  | float32
  | float64

def ArrayType.bits : ArrayType → Nat
  | .int8 => 8
  | .int16 => 16
  | .int32 | .float32 => 32
  | .int64 | .float64 => 64

/-- `asynInt8Array`, …, `asynFloat64Array`. -/
inductive AsynArray (type : ArrayType)
  | write (value : List (BitVec type.bits))
  | read (nelem : Nat)

/-- A string, a value and a severity of `asynEnum`. -/
structure Choice where
  string : String
  value : Int
  severity : Int

/-- `asynEnum`. -/
inductive AsynEnum
  | write (choices : List Choice)
  | read (nElements : Nat)

/-- `asynGenericPointer`, with the addresses. -/
inductive AsynGenericPointer
  | write (pointer : Nat)
  | read (pointer : Nat)

/-- `asynOption`. -/
inductive AsynOption
  | setOption (key val : String)
  | getOption (key : String) (sizeval : Int)

inductive Method
  | octet (m : AsynOctet)
  | int32 (m : AsynInteger Int32)
  | int64 (m : AsynInteger Int64)
  | float64 (m : AsynFloat64)
  | uInt32Digital (m : AsynUInt32Digital)
  | array (type : ArrayType) (m : AsynArray type)
  | enum (m : AsynEnum)
  | genericPointer (m : AsynGenericPointer)
  | option (m : AsynOption)

/-- What `asynOctet`'s `read` stores; `none` where it leaves a variable as it is. -/
structure OctetRead where
  data : List UInt8
  nbytesTransferred : Option Nat
  eomReason : Option Nat

/-- What a method stores for its caller. -/
def Method.Stored : Method → Type
  | .octet (.write _) => Option Nat
  | .octet (.read _) => OctetRead
  | .octet (.getInputEos _) | .octet (.getOutputEos _) => List UInt8 × Option Int
  | .octet _ => Unit
  | .int32 .read => Option Int32
  | .int32 .getBounds => Option Int32 × Option Int32
  | .int32 (.write _) => Unit
  | .int64 .read => Option Int64
  | .int64 .getBounds => Option Int64 × Option Int64
  | .int64 (.write _) => Unit
  | .float64 .read => Option EpicsFloat64
  | .float64 (.write _) => Unit
  | .uInt32Digital (.read _) | .uInt32Digital (.getInterrupt _) => Option (BitVec 32)
  | .uInt32Digital _ => Unit
  | .array type (.read _) => List (BitVec type.bits) × Option Nat
  | .array _ (.write _) => Unit
  | .enum (.read _) => List Choice × Option Nat
  | .enum (.write _) => Unit
  | .genericPointer _ => Unit
  | .option (.getOption _ _) => List UInt8
  | .option (.setOption _ _) => Unit

/-- What a method returns and stores. -/
structure Reply (m : Method) where
  status : AsynStatus
  stored : m.Stored

/-! ## Operations -/

/-- The calls of an operation: one, or those of `writeRead` and `writeReadOp`. -/
inductive Body
  | single (m : Method)
  | writeRead (write_buffer : List UInt8) (read_buffer_len : Nat)
  | writeReadOp (pwrite_buffer pread_buffer : Nat)

/-- The variables of `writeRead` of `asynOctetSyncIO`; `data` is what was read, if it was. -/
structure WriteRead where
  nbytesOut : Nat
  nbytesIn : Nat
  eomReason : Nat
  data : Option (List UInt8)

/-- The variables of the caller that an operation stores into. -/
def Body.Variables : Body → Type
  | .single m => Option m.Stored
  | .writeRead _ _ => WriteRead
  | .writeReadOp _ _ => Unit

/-- What an operation stores before it locks the port. -/
def Body.initial : (b : Body) → b.Variables
  | .single _ => none
  | .writeRead _ _ => ⟨0, 0, 0, none⟩
  | .writeReadOp _ _ => ()

def Body.program : (b : Body) → Program Method Reply (AsynStatus × b.Variables)
  | .single m => .call m fun r => .ret (r.status, some r.stored)
  | .writeRead write_buffer read_buffer_len =>
      .call (.octet .flush) fun flushed =>
        if flushed.status ≠ .asynSuccess then .ret (flushed.status, ⟨0, 0, 0, none⟩)
        else
          .call (.octet (.write write_buffer)) fun written =>
            let nbytesOut : Option Nat := written.stored
            if written.status ≠ .asynSuccess then
              .ret (written.status, ⟨nbytesOut.getD 0, 0, 0, none⟩)
            else
              .call (.octet (.read read_buffer_len)) fun reply =>
                let stored : OctetRead := reply.stored
                .ret (reply.status, ⟨nbytesOut.getD 0, stored.nbytesTransferred.getD 0,
                  stored.eomReason.getD 0, some stored.data⟩)
  | .writeReadOp pwrite_buffer pread_buffer =>
      .call (.genericPointer (.write pwrite_buffer)) fun written =>
        if written.status ≠ .asynSuccess then .ret (written.status, ())
        else
          .call (.genericPointer (.read pread_buffer)) fun reply => .ret (reply.status, ())

/-- The functions of `asynManager` that lock the port, and their counterparts. -/
inductive LockMethod
  | lockPort
  | queueLockPort

abbrev UserId : Type := Nat

/-- An operation; `timeout` is what it stores in `pasynUser->timeout`, if it does. -/
structure Operation where
  pasynUser : UserId
  timeout : Option EpicsFloat64
  lock : LockMethod
  body : Body

/-- The operations that set the timeout and make one call. -/
def queued (pasynUser : UserId) (m : Method) (timeout : EpicsFloat64) : Operation :=
  ⟨pasynUser, some timeout, .queueLockPort, .single m⟩

/-- The operations on terminators, which leave the timeout and do not queue. -/
def locked (pasynUser : UserId) (m : Method) : Operation :=
  ⟨pasynUser, none, .lockPort, .single m⟩

namespace OctetSyncIO

variable (pasynUser : UserId)

def writeIt (buffer : List UInt8) (timeout : EpicsFloat64) : Operation :=
  queued pasynUser (.octet (.write buffer)) timeout

def readIt (buffer_len : Nat) (timeout : EpicsFloat64) : Operation :=
  queued pasynUser (.octet (.read buffer_len)) timeout

def writeRead (write_buffer : List UInt8) (read_buffer_len : Nat) (timeout : EpicsFloat64) :
    Operation :=
  ⟨pasynUser, some timeout, .queueLockPort, .writeRead write_buffer read_buffer_len⟩

/-- The timeout is 1.0. -/
def flushIt : Operation := queued pasynUser (.octet .flush) ⟨0x3FF0000000000000⟩

def setInputEos (eos : List UInt8) : Operation := locked pasynUser (.octet (.setInputEos eos))

def getInputEos (eossize : Int) : Operation := locked pasynUser (.octet (.getInputEos eossize))

def setOutputEos (eos : List UInt8) : Operation := locked pasynUser (.octet (.setOutputEos eos))

def getOutputEos (eossize : Int) : Operation := locked pasynUser (.octet (.getOutputEos eossize))

end OctetSyncIO

namespace Int32SyncIO

variable (pasynUser : UserId)

def writeOp (value : Int32) (timeout : EpicsFloat64) : Operation :=
  queued pasynUser (.int32 (.write value)) timeout

def readOp (timeout : EpicsFloat64) : Operation := queued pasynUser (.int32 .read) timeout

/-- The timeout stays as it is. -/
def getBounds : Operation := ⟨pasynUser, none, .queueLockPort, .single (.int32 .getBounds)⟩

end Int32SyncIO

namespace Int64SyncIO

variable (pasynUser : UserId)

def writeOp (value : Int64) (timeout : EpicsFloat64) : Operation :=
  queued pasynUser (.int64 (.write value)) timeout

def readOp (timeout : EpicsFloat64) : Operation := queued pasynUser (.int64 .read) timeout

/-- The timeout stays as it is. -/
def getBounds : Operation := ⟨pasynUser, none, .queueLockPort, .single (.int64 .getBounds)⟩

end Int64SyncIO

namespace Float64SyncIO

variable (pasynUser : UserId)

def writeOp (value timeout : EpicsFloat64) : Operation :=
  queued pasynUser (.float64 (.write value)) timeout

def readOp (timeout : EpicsFloat64) : Operation := queued pasynUser (.float64 .read) timeout

end Float64SyncIO

namespace UInt32DigitalSyncIO

variable (pasynUser : UserId)

def writeOp (value mask : BitVec 32) (timeout : EpicsFloat64) : Operation :=
  queued pasynUser (.uInt32Digital (.write value mask)) timeout

def readOp (mask : BitVec 32) (timeout : EpicsFloat64) : Operation :=
  queued pasynUser (.uInt32Digital (.read mask)) timeout

def setInterrupt (mask : BitVec 32) (reason : InterruptReason) (timeout : EpicsFloat64) :
    Operation :=
  queued pasynUser (.uInt32Digital (.setInterrupt mask reason)) timeout

def clearInterrupt (mask : BitVec 32) (timeout : EpicsFloat64) : Operation :=
  queued pasynUser (.uInt32Digital (.clearInterrupt mask)) timeout

def getInterrupt (reason : InterruptReason) (timeout : EpicsFloat64) : Operation :=
  queued pasynUser (.uInt32Digital (.getInterrupt reason)) timeout

end UInt32DigitalSyncIO

namespace ArraySyncIO

variable (pasynUser : UserId) {type : ArrayType}

/-- `writeOp` of `asynInt8ArraySyncIO`, …, `asynFloat64ArraySyncIO`. -/
def writeOp (value : List (BitVec type.bits)) (timeout : EpicsFloat64) : Operation :=
  queued pasynUser (.array type (.write value)) timeout

def readOp (type : ArrayType) (nelem : Nat) (timeout : EpicsFloat64) : Operation :=
  queued pasynUser (.array type (.read nelem)) timeout

end ArraySyncIO

namespace EnumSyncIO

variable (pasynUser : UserId)

def writeOp (choices : List Choice) (timeout : EpicsFloat64) : Operation :=
  queued pasynUser (.enum (.write choices)) timeout

def readOp (nElements : Nat) (timeout : EpicsFloat64) : Operation :=
  queued pasynUser (.enum (.read nElements)) timeout

end EnumSyncIO

namespace GenericPointerSyncIO

variable (pasynUser : UserId)

def writeOp (pvalue : Nat) (timeout : EpicsFloat64) : Operation :=
  queued pasynUser (.genericPointer (.write pvalue)) timeout

def readOp (pvalue : Nat) (timeout : EpicsFloat64) : Operation :=
  queued pasynUser (.genericPointer (.read pvalue)) timeout

def writeReadOp (pwrite_buffer pread_buffer : Nat) (timeout : EpicsFloat64) : Operation :=
  ⟨pasynUser, some timeout, .queueLockPort, .writeReadOp pwrite_buffer pread_buffer⟩

end GenericPointerSyncIO

namespace OptionSyncIO

variable (pasynUser : UserId)

def setOption (key val : String) (timeout : EpicsFloat64) : Operation :=
  queued pasynUser (.option (.setOption key val)) timeout

def getOption (key : String) (sizeval : Int) (timeout : EpicsFloat64) : Operation :=
  queued pasynUser (.option (.getOption key sizeval)) timeout

end OptionSyncIO

/-- What the lock functions return when they do not lock the port. -/
abbrev Refusal : Type := { status : AsynStatus // status ≠ .asynSuccess }

/-- What the caller of an operation gets: the status of the lock, of the unlock or of the last call,
and its variables. -/
def Operation.returns (o : Operation) :
    Outcome (AsynStatus × o.body.Variables) Refusal AsynStatus → AsynStatus × o.body.Variables
  | .refused status => (status.val, o.body.initial)
  | .done x unlockStatus =>
      (if unlockStatus ≠ .asynSuccess then unlockStatus else x.1, x.2)

/-- The operations on one port, with the `timeout` of every `asynUser`. -/
def spec : Spec UserId EpicsFloat64 Method Reply Operation
    (fun o => AsynStatus × o.body.Variables) where
  cell := Operation.pasynUser
  store := fun o before => o.timeout.getD before
  body := fun o => o.body.program

/-- Threads, the port, and the `asynUser`s. -/
abbrev State (ι : Type) : Type :=
  UnderLock.State UserId EpicsFloat64 Method Reply Operation
    (fun o => AsynStatus × o.body.Variables) ι Refusal AsynStatus

end SyncIO
end Interfaces
end AsynDriver
