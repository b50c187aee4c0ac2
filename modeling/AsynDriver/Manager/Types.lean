import Mathlib.Algebra.Group.Int.Defs
import Mathlib.Algebra.Group.Nat.Defs
import Mathlib.Logic.Function.Basic
import Mathlib.Tactic.Common

/-!
# The data of `asynManager.c`

The structures `dpCommon`, `userPvt` and `port` with the fields that queueing, blocking, connecting
and freeing read and write, under the source's names.  Pointers become identifiers: an `asynUser`
(and the `userPvt` around it) is a `UserId`, a port is a `PortId`, and a `dpCommon` is named by the
object it lies in, a port or one device of a port.  A function pointer is the Boolean that says
whether it is non-null, an event is the Boolean that says whether it is full, a timer is the Boolean
that says whether it is armed.

Left out, because no function modelled over these structures reads them: the trace settings, the
interpose list, the unused field `isBlockHolder`, and the message buffers.  The exception list and
the interrupt lists have machines of their own (`ExceptionList`, `InterruptList`).
-/

namespace AsynDriver
namespace Manager

/-- `asynStatus`. -/
inductive AsynStatus
  | asynSuccess
  | asynTimeout
  | asynOverflow
  | asynError
  | asynDisconnected
  | asynDisabled
  | asynParamAlreadyExists
  | asynParamNotFound
  | asynParamWrongType
  | asynParamBadIndex
  | asynParamUndefined
  | asynParamInvalidList
  deriving DecidableEq, Repr

/-- `asynQueuePriority`. -/
inductive AsynQueuePriority
  | low
  | medium
  | high
  | connect
  deriving DecidableEq, Repr

/-- The enumeration's integer value, for the comparisons of priorities. -/
def AsynQueuePriority.rank : AsynQueuePriority → Nat
  | .low => 0
  | .medium => 1
  | .high => 2
  | .connect => 3

/-- `callbackState`. -/
inductive CallbackState
  | callbackIdle
  | callbackActive
  | callbackCanceled
  deriving DecidableEq, Repr

abbrev UserId := Nat
abbrev PortId := Nat
abbrev ThreadId := Nat

/-- A `dpCommon` by the object that contains it: `port->dpc`, or the `dpc` of the device with an
address on the port's `deviceList`. -/
inductive DpRef
  | port (p : PortId)
  | device (p : PortId) (addr : Nat)
  deriving DecidableEq, Repr

/-- `dpCommon.pport`. -/
def DpRef.pport : DpRef → PortId
  | .port p => p
  | .device p _ => p

/-- `dpCommon.pdevice`, by address; null in `port->dpc`. -/
def DpRef.pdevice : DpRef → Option Nat
  | .port _ => none
  | .device _ addr => some addr

/-- The `pdevice` of a user of one port, by address: null for `port->dpc`. -/
abbrev Device := Option Nat

/-- `dpCommon`: the fields common to a device and a port. -/
structure DpCommon where
  enabled : Bool
  defunct : Bool
  connected : Bool
  autoConnect : Bool
  autoConnectActive : Bool
  pblockProcessHolder : Option UserId
  lastConnectDisconnect : Nat
  numberConnects : Nat

/-- `dpCommonInit` on memory from `callocMustSucceed`. -/
def dpCommonInit (autoConnect : Bool) : DpCommon where
  enabled := true
  defunct := false
  connected := false
  autoConnect := autoConnect
  autoConnectActive := false
  pblockProcessHolder := none
  lastConnectDisconnect := 0
  numberConnects := 0

/-- `userPvt`.  Of the timeout in seconds only the sign matters, so it is an integer;
`queueEvenIfNotConnected` is `user.reason == ASYN_REASON_QUEUE_EVEN_IF_NOT_CONNECTED` and
`pexceptionUser` says that the pointer is non-null. -/
structure UserPvt where
  timer : Bool
  callbackDone : Bool
  processUser : Bool
  timeoutUser : Bool
  timeout : Int
  state : CallbackState
  blockPortCount : Nat
  blockDeviceCount : Nat
  pport : Option PortId
  pdevice : Option Nat
  pexceptionUser : Bool
  freeAfterCallback : Bool
  isQueued : Bool
  queueEvenIfNotConnected : Bool

/-- A `userPvt` as `callocMustSucceed` returns it. -/
def UserPvt.zero : UserPvt where
  timer := false
  callbackDone := false
  processUser := false
  timeoutUser := false
  timeout := 0
  state := .callbackIdle
  blockPortCount := 0
  blockDeviceCount := 0
  pport := none
  pdevice := none
  pexceptionUser := false
  freeAfterCallback := false
  isQueued := false
  queueEvenIfNotConnected := false

/-- The two counters are `unsigned int`. -/
def unsignedIntRange : Nat := 2 ^ 32

/-- What `registerPort` is told about a port; the attributes never change afterwards. -/
structure PortConfig where
  multiDevice : Bool
  canBlock : Bool
  autoConnect : Bool

/-- `port`: what the port thread works on.  `port->dpc` and the devices' `dpc` are reached through
`DpRef`; `deviceList` keeps the addresses that exist. -/
structure Port where
  deviceList : List Nat
  queueList : AsynQueuePriority → List UserId
  queueStateChange : Bool
  notifyPortThread : Bool
  pblockProcessHolder : Option UserId

/-- The `port` that `registerPort` makes. -/
def Port.registered : Port where
  deviceList := []
  queueList := fun _ => []
  queueStateChange := false
  notifyPortThread := false
  pblockProcessHolder := none

/-- Everything on the four queues of a port, in the order in which they are searched. -/
def allQueued (queueList : AsynQueuePriority → List UserId) : List UserId :=
  queueList .connect ++ (queueList .high ++ (queueList .medium ++ queueList .low))

/-- `findDpCommon`. -/
def findDpCommon (config : PortId → PortConfig) (puserPvt : UserPvt) : Option DpRef :=
  match puserPvt.pport, puserPvt.pdevice with
  | none, _ => none
  | some p, none => some (.port p)
  | some p, some addr => if (config p).multiDevice then some (.device p addr) else some (.port p)

variable {config : PortId → PortConfig} {puserPvt : UserPvt}

theorem findDpCommon_pport {dp : DpRef} (hfind : findDpCommon config puserPvt = some dp) :
    puserPvt.pport = some dp.pport := by
  unfold findDpCommon at hfind
  split at hfind
  · simp at hfind
  · next p hport _ =>
      cases hfind
      exact hport
  · next p addr hport _ =>
      split at hfind
      · cases hfind
        exact hport
      · cases hfind
        exact hport

theorem findDpCommon_device {p : PortId} {addr : Nat}
    (hfind : findDpCommon config puserPvt = some (.device p addr)) :
    puserPvt.pdevice = some addr := by
  unfold findDpCommon at hfind
  split at hfind
  · cases hfind
  · cases hfind
  · next hdevice =>
      split at hfind
      · cases hfind
        exact hdevice
      · cases hfind

end Manager
end AsynDriver
