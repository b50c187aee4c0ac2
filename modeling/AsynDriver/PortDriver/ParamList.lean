import AsynDriver.Miscellaneous.Octet
import AsynDriver.PortDriver.ParamVal

/-!
# `paramList` and `asynPortDriver`

The parameter lists of an `asynPortDriver`, one for each address, and the callbacks to the registered
interrupt clients.

* `ParamList` — `flags` and `vals`, with `setFlag`, `createParam`, `findParam` and the setters and
  getters of `paramList`.
* `AsynStandardInterfaces`, `Client`, `Callback` — who is called back, and with what.
* `ParamList.callCallbacks` — the dispatch, for clients that do not set parameters themselves; see
  `NestedCallbacks` for those that do.
* `AsynPortDriver` — the lists of one driver, and the functions that select one of them.
-/

namespace AsynDriver
namespace PortDriver

open Manager (AsynStatus)
open Miscellaneous (EomReason)

structure ParamList where
  flags : List Nat
  vals : List ParamVal
  deriving DecidableEq

namespace ParamList

def empty : ParamList := ⟨[], []⟩

/-- `getParameter`; null stands for `ParamListInvalidIndex`. -/
def getParameter (l : ParamList) (index : Int) : Option ParamVal :=
  if index < 0 then none else l.vals[index.toNat]?

theorem getParameter_natCast (l : ParamList) (i : Nat) : l.getParameter i = l.vals[i]? := by
  unfold getParameter
  have hnot : ¬(i : Int) < 0 := by omega
  rw [if_neg hnot, Int.toNat_natCast]

theorem getParameter_eq_some {l : ParamList} {index : Int} {p : ParamVal}
    (hparam : l.getParameter index = some p) : ∃ i : Nat, index = i ∧ l.vals[i]? = some p := by
  unfold getParameter at hparam
  split at hparam
  case isTrue => exact nomatch hparam
  case isFalse hnot => exact ⟨index.toNat, by omega, hparam⟩

/-- The parameter at an index is replaced. -/
def put (l : ParamList) (index : Nat) (p : ParamVal) : ParamList :=
  { l with vals := l.vals.set index p }

/-- `setFlag` for an index of the list. -/
def setFlag (l : ParamList) (index : Nat) : ParamList :=
  if l.flags.contains index then l else { l with flags := l.flags ++ [index] }

/-- `registerParameterChange`. -/
def registerParameterChange (l : ParamList) (p : ParamVal) (index : Nat) : ParamList :=
  if p.valueChanged then (l.setFlag index).put index { p with valueChanged := false } else l

/-! ## The list of parameters -/

/-- `findParam`, with the status and `*index`. -/
def findParam (l : ParamList) (name : String) : AsynStatus × Int :=
  match l.vals.findIdx? fun p => p.nameEquals name with
  | some i => (.asynSuccess, i)
  | none => (.asynParamNotFound, -1)

/-- `createParam`; `memory` is what the new `paramVal` does not initialise. -/
def createParam (l : ParamList) (name : String) (type : AsynParamType) (memory : BitVec 32) :
    ParamList × AsynStatus × Int :=
  let found := l.findParam name
  if found.1 = .asynSuccess then (l, .asynParamAlreadyExists, found.2)
  else
    ({ l with vals := l.vals ++ [ParamVal.new name type memory] }, .asynSuccess, l.vals.length)

/-! ## Setters and getters -/

/-- The setters, which catch the exceptions of `paramVal` and `getParameter`. -/
def set (l : ParamList) (index : Int) (a : ParamVal.Setter) : ParamList × AsynStatus :=
  match l.getParameter index with
  | none => (l, ParamException.invalidIndex.status)
  | some p =>
      match p.set a with
      | .error e => (l, e.status)
      | .ok p' => ((l.put index.toNat p').registerParameterChange p' index.toNat, .asynSuccess)

def setInteger (l : ParamList) (index : Int) (value : Int32) : ParamList × AsynStatus :=
  l.set index (.setInteger value)

def setInteger64 (l : ParamList) (index : Int) (value : Int64) : ParamList × AsynStatus :=
  l.set index (.setInteger64 value)

def setUInt32 (l : ParamList) (index : Int) (value valueMask interruptMask : BitVec 32) :
    ParamList × AsynStatus :=
  l.set index (.setUInt32 value valueMask interruptMask)

def setDouble (l : ParamList) (index : Int) (value : EpicsFloat64) : ParamList × AsynStatus :=
  l.set index (.setDouble value)

def setString (l : ParamList) (index : Int) (value : List UInt8) : ParamList × AsynStatus :=
  l.set index (.setString value)

def setStatus (l : ParamList) (index : Int) (status : AsynStatus) : ParamList × AsynStatus :=
  l.set index (.setStatus status)

def setAlarmStatus (l : ParamList) (index : Int) (alarmStatus : Int) : ParamList × AsynStatus :=
  l.set index (.setAlarmStatus alarmStatus)

def setAlarmSeverity (l : ParamList) (index : Int) (alarmSeverity : Int) :
    ParamList × AsynStatus :=
  l.set index (.setAlarmSeverity alarmSeverity)

/-- The getters: the status and `*value`, which is `zero` after an exception. -/
def get {α : Type} (l : ParamList) (index : Int) (value : ParamVal → Except ParamException α)
    (zero : α) : AsynStatus × α :=
  match l.getParameter index with
  | none => (ParamException.invalidIndex.status, zero)
  | some p =>
      match value p with
      | .error e => (e.status, zero)
      | .ok v => (p.status_, v)

def getInteger (l : ParamList) (index : Int) : AsynStatus × Int32 :=
  l.get index ParamVal.getInteger 0

def getInteger64 (l : ParamList) (index : Int) : AsynStatus × Int64 :=
  l.get index ParamVal.getInteger64 0

def getUInt32 (l : ParamList) (index : Int) (mask : BitVec 32) : AsynStatus × BitVec 32 :=
  l.get index (fun p => p.getUInt32 mask) 0

def getDouble (l : ParamList) (index : Int) : AsynStatus × EpicsFloat64 :=
  l.get index ParamVal.getDouble ⟨0⟩

/-- `getString(index, maxChars, value)`: the C string that is then in the buffer `value`, which
contained the C string `old`. -/
def getString (l : ParamList) (index : Int) (maxChars : Int) (old : List UInt8) :
    AsynStatus × List UInt8 :=
  if maxChars > 0 then
    l.get index (fun p => p.getString.map fun s => (cString s).take (maxChars - 1).toNat) old
  else (.asynSuccess, old)

/-- A field that every parameter has, or 0, which the callers have stored before. -/
def getField (l : ParamList) (index : Int) (field : ParamVal → Int) : Int :=
  match l.getParameter index with
  | none => 0
  | some p => field p

def getAlarmStatus (l : ParamList) (index : Int) : Int := l.getField index ParamVal.alarmStatus_

def getAlarmSeverity (l : ParamList) (index : Int) : Int :=
  l.getField index ParamVal.alarmSeverity_

end ParamList

/-! ## Callbacks -/

/-- The interfaces with interrupt clients. -/
inductive Interface
  | int32
  | int64
  | uInt32Digital
  | float64
  | octet
  deriving DecidableEq, Repr

/-- The interface on which a parameter is called back. -/
def AsynParamType.interface : AsynParamType → Option Interface
  | .asynParamInt32 => some .int32
  | .asynParamInt64 => some .int64
  | .asynParamUInt32Digital => some .uInt32Digital
  | .asynParamFloat64 => some .float64
  | .asynParamOctet => some .octet
  | _ => none

/-- A node of a client list: the `asynUser`'s reason and address and, for `uInt32Digital`, the mask. -/
structure Client where
  node : Nat
  interface : Interface
  reason : Int
  addr : Int
  mask : BitVec 32
  deriving DecidableEq

/-- `getAddress`: the address of a client of the whole port is changed to 0. -/
def Client.address (c : Client) : Int := if c.addr = -1 then 0 else c.addr

/-- The interrupt sources that exist, and the clients that are registered with them. -/
structure AsynStandardInterfaces where
  interruptPvt : Interface → Bool
  clients : List Client
  nodup : clients.Nodup
  registered : ∀ c ∈ clients, interruptPvt c.interface = true

/-- The last arguments of a callback. -/
inductive Value
  | int32 (value : Int32)
  | int64 (value : Int64)
  | uInt32Digital (value : BitVec 32)
  | float64 (value : EpicsFloat64)
  | octet (value : List UInt8) (numchars : Nat) (eomReason : EomReason)
  deriving DecidableEq

/-- A callback, with what it finds in the client's `asynUser`. -/
structure Callback where
  client : Client
  auxStatus : AsynStatus
  alarmStatus : Int
  alarmSeverity : Int
  timestamp : Nat
  value : Value
  deriving DecidableEq

namespace ParamList

variable (l : ParamList) (pInterfaces : AsynStandardInterfaces) (timeStamp : Nat)

/-- The five functions `int32Callback`, …: the clients of an interface that meet `wanted`. -/
def callClients (interface : Interface) (command addr : Int) (status : AsynStatus)
    (wanted : Client → Bool) (value : Client → Value) : List Callback × AsynStatus :=
  if !pInterfaces.interruptPvt interface then ([], .asynParamNotFound)
  else
    ((pInterfaces.clients.filter fun c =>
        c.interface == interface && (c.reason == command && c.address == addr && wanted c)).map
      fun c =>
        { client := c
          auxStatus := status
          alarmStatus := l.getAlarmStatus command
          alarmSeverity := l.getAlarmSeverity command
          timestamp := timeStamp
          value := value c }, .asynSuccess)

def int32Callback (command addr : Int) : List Callback × AsynStatus :=
  let r := l.getInteger command
  l.callClients pInterfaces timeStamp .int32 command addr r.1 (fun _ => true) fun _ => .int32 r.2

def int64Callback (command addr : Int) : List Callback × AsynStatus :=
  let r := l.getInteger64 command
  l.callClients pInterfaces timeStamp .int64 command addr r.1 (fun _ => true) fun _ => .int64 r.2

def uint32Callback (command addr : Int) (interruptMask : BitVec 32) : List Callback × AsynStatus :=
  let r := l.getUInt32 command 0xFFFFFFFF#32
  l.callClients pInterfaces timeStamp .uInt32Digital command addr r.1
    (fun c => c.mask &&& interruptMask != 0) fun c => .uInt32Digital (c.mask &&& r.2)

def float64Callback (command addr : Int) : List Callback × AsynStatus :=
  let r := l.getDouble command
  l.callClients pInterfaces timeStamp .float64 command addr r.1 (fun _ => true) fun _ => .float64 r.2

/-- `ASYN_EOM_END`. -/
def eomEnd : EomReason := ⟨false, false, true⟩

/-- `callCallbacks` has checked that `getString` does not throw. -/
def octetCallback (command addr : Int) : List Callback × AsynStatus :=
  let r := l.get command ParamVal.getString []
  let value := cString r.2
  l.callClients pInterfaces timeStamp .octet command addr r.1 (fun _ => true) fun _ =>
    .octet value (value.length + 1) eomEnd

/-- The `switch` of `callCallbacks`; there is no status where the type has no callbacks. -/
def callback (index : Nat) (addr : Int) (param : ParamVal) :
    ParamList × List Callback × Option AsynStatus :=
  match param.type with
  | .asynParamInt32 =>
      let r := l.int32Callback pInterfaces timeStamp index addr
      (l, r.1, some r.2)
  | .asynParamInt64 =>
      let r := l.int64Callback pInterfaces timeStamp index addr
      (l, r.1, some r.2)
  | .asynParamUInt32Digital =>
      let r := l.uint32Callback pInterfaces timeStamp index addr param.uInt32CallbackMask
      (l.put index { param with uInt32CallbackMask := 0 }, r.1, some r.2)
  | .asynParamFloat64 =>
      let r := l.float64Callback pInterfaces timeStamp index addr
      (l, r.1, some r.2)
  | .asynParamOctet =>
      let r := l.octetCallback pInterfaces timeStamp index addr
      (l, r.1, some r.2)
  | _ => (l, [], none)

/-- The loop of `callCallbacks` over the rest of `flags`, and what follows it. -/
def callFlagged (addr : Int) : List Nat → ParamList → AsynStatus →
    ParamList × List Callback × AsynStatus
  | [], l, status => ({ l with flags := [] }, [], status)
  | index :: rest, l, status =>
      match l.getParameter index with
      | none => (l, [], .asynParamBadIndex)
      | some param =>
          if !param.isDefined then callFlagged addr rest l status
          else
            let r := l.callback pInterfaces timeStamp index addr param
            let next := callFlagged addr rest r.1 (r.2.2.getD status)
            (next.1, r.2.1 ++ next.2.1, next.2.2)

def callCallbacks (interruptAccept : Bool) (addr : Int) : ParamList × List Callback × AsynStatus :=
  if !interruptAccept then (l, [], .asynSuccess)
  else callFlagged pInterfaces timeStamp addr l.flags l .asynSuccess

end ParamList

/-! ## The driver -/

/-- `params`, which the constructor gives at least one list. -/
structure AsynPortDriver where
  params : List ParamList
  nonempty : params ≠ []

namespace AsynPortDriver

@[ext] theorem ext {d d' : AsynPortDriver} (hparams : d.params = d'.params) : d = d' := by
  cases d
  cases d'
  cases hparams
  rfl

def maxAddr (d : AsynPortDriver) : Nat := d.params.length

theorem maxAddr_pos (d : AsynPortDriver) : 0 < d.params.length :=
  List.length_pos_iff.mpr d.nonempty

/-- The constructor. -/
def new (maxAddrIn : Int) : AsynPortDriver where
  params := List.replicate (if maxAddrIn < 1 then 1 else maxAddrIn.toNat) .empty
  nonempty := by
    intro h
    have hlength := congrArg List.length h
    rw [List.length_replicate, List.length_nil] at hlength
    split at hlength <;> omega

def getParamList (d : AsynPortDriver) (list : Int) : Option ParamList :=
  if list < 0 then none else d.params[list.toNat]?

theorem getParamList_natCast (d : AsynPortDriver) (i : Nat) : d.getParamList i = d.params[i]? := by
  unfold getParamList
  have hnot : ¬(i : Int) < 0 := by omega
  rw [if_neg hnot, Int.toNat_natCast]

theorem getParamList_eq_some {d : AsynPortDriver} {list : Int} {l : ParamList}
    (hlist : d.getParamList list = some l) : ∃ i : Nat, list = i ∧ d.params[i]? = some l := by
  unfold getParamList at hlist
  split at hlist
  case isTrue => exact nomatch hlist
  case isFalse hnot => exact ⟨list.toNat, by omega, hlist⟩

/-- A list is replaced. -/
def putParamList (d : AsynPortDriver) (list : Int) (l : ParamList) : AsynPortDriver where
  params := d.params.set list.toNat l
  nonempty := by
    intro h
    have hlength := congrArg List.length h
    rw [List.length_set] at hlength
    exact d.nonempty (List.length_eq_zero_iff.mp hlength)

@[simp] theorem params_putParamList (d : AsynPortDriver) (i : Nat) (l : ParamList) :
    (d.putParamList i l).params = d.params.set i l := rfl

theorem putParamList_self {d : AsynPortDriver} {i : Nat} {l : ParamList}
    (hl : d.params[i]? = some l) : d.putParamList i l = d := by
  obtain ⟨hlt, rfl⟩ := List.getElem?_eq_some_iff.mp hl
  exact ext (List.set_getElem_self hlt)

/-- `createParam` for a list, with the status and `*index`, which was `index`. -/
def createParam (d : AsynPortDriver) (list : Int) (name : String) (type : AsynParamType)
    (memory : BitVec 32) (index : Int) : AsynPortDriver × AsynStatus × Int :=
  match d.getParamList list with
  | none => (d, .asynParamInvalidList, index)
  | some pList =>
      let r := pList.createParam name type memory
      let status :=
        if r.2.1 = .asynParamAlreadyExists then .asynError
        else if r.2.1 = .asynParamBadIndex then .asynError
        else .asynSuccess
      (d.putParamList list r.1, status, r.2.2)

/-- The loop of the other `createParam`, from a list on. -/
def createFrom (name : String) (type : AsynParamType) (memory : Nat → BitVec 32) :
    Nat → Nat → AsynPortDriver → Int → AsynPortDriver × AsynStatus × Int
  | 0, _, d, index => (d, .asynSuccess, index)
  | remaining + 1, list, d, index =>
      let r := d.createParam list name type (memory list) index
      if r.2.1 ≠ .asynSuccess then (r.1, .asynError, r.2.2)
      else createFrom name type memory remaining (list + 1) r.1 r.2.2

/-- `createParam` for all lists. -/
def createParamInAll (d : AsynPortDriver) (name : String) (type : AsynParamType)
    (memory : Nat → BitVec 32) (index : Int) : AsynPortDriver × AsynStatus × Int :=
  createFrom name type memory d.maxAddr 0 d index

/-- `findParam` for a list, with the status and `*index`, which was `index`. -/
def findParam (d : AsynPortDriver) (list : Int) (name : String) (index : Int) : AsynStatus × Int :=
  match d.getParamList list with
  | none => (.asynParamInvalidList, index)
  | some pList => pList.findParam name

/-- `getParamType` for a list, with the status and `*type`, which was `type`.  The exception of
`getParameter` is not caught. -/
def getParamType (d : AsynPortDriver) (list index : Int) (type : AsynParamType) :
    Except ParamException (AsynStatus × AsynParamType) :=
  match d.getParamList list with
  | none => .ok (.asynParamInvalidList, type)
  | some pList =>
      match pList.getParameter index with
      | none => .error .invalidIndex
      | some p => .ok (.asynSuccess, p.type)

/-- `getAddress` for an `asynUser` to which `asynManager` gives the address `addr`. -/
def getAddress (d : AsynPortDriver) (addr : Int) : AsynStatus × Int :=
  let address := if addr = -1 then 0 else addr
  if address < 0 ∨ address > d.maxAddr - 1 then (.asynError, address) else (.asynSuccess, address)

/-- `drvUserCreate`, with the status and `pasynUser->reason`, which was `reason`. -/
def drvUserCreate (d : AsynPortDriver) (addr : Int) (drvInfo : String) (reason : Int) :
    AsynStatus × Int :=
  let a := d.getAddress addr
  if a.1 ≠ .asynSuccess then (a.1, reason)
  else
    let found := d.findParam a.2 drvInfo reason
    if found.1 ≠ .asynSuccess then (found.1, reason) else (.asynSuccess, found.2)

/-- `setIntegerParam`, …, `setParamAlarmSeverity` for a list. -/
def setParam (d : AsynPortDriver) (list index : Int) (a : ParamVal.Setter) : AsynPortDriver × AsynStatus :=
  match d.getParamList list with
  | none => (d, .asynParamInvalidList)
  | some pList =>
      let r := pList.set index a
      (d.putParamList list r.1, r.2)

def callParamCallbacks (d : AsynPortDriver) (pInterfaces : AsynStandardInterfaces) (timeStamp : Nat)
    (interruptAccept : Bool) (list addr : Int) : AsynPortDriver × List Callback × AsynStatus :=
  match d.getParamList list with
  | none => (d, [], .asynParamInvalidList)
  | some pList =>
      let r := pList.callCallbacks pInterfaces timeStamp interruptAccept addr
      (d.putParamList list r.1, r.2)

end AsynPortDriver
end PortDriver
end AsynDriver
