import Mathlib.Data.List.Basic
import Mathlib.Logic.Function.Basic
import Mathlib.Tactic.Common
import AsynDriver.Library.Machine

/-!
# The asyn record and its port

Puts to `PORT`, `ADDR`, `DRVINFO`, `PCNCT` and `AQR`, processing, and the requests of the record, which
run in the threads of ports while puts go on.

* `Port` — a registered port; `drvPvt` pointers are known by the port that they belong to.
* `asynCallbackProcess`, `asynCallbackSpecial` — the driver methods that the callbacks call.
* `connectDevice`, `process`, `queueSpecial` — the code of the record; a put to `PORT` is a run of steps,
  between which the threads of ports and of timers go on.
* `step`, `machine` — one record, and any number of ports.

What runs with the record locked is kept apart by the field `put`.  The callbacks of one port are not
kept apart, and whether `queueRequest` accepts a request is left open.
-/

namespace AsynDriver
namespace AsynRecord
namespace Connect

open Library

abbrev PortName := String

inductive InterfaceType
  | asynCommon
  | asynOption
  | asynOctet
  | asynInt32
  | asynUInt32Digital
  | asynFloat64
  | asynGpib
  | asynDrvUser
  deriving DecidableEq, Repr

structure Port where
  canBlock : Bool
  multiDevice : Bool
  interfaceList : InterfaceType → Bool

/-- The device of an address; without one the port itself is meant. -/
def Port.locateDevice (port : Port) (addr : Int) : Option Int :=
  if port.multiDevice = false ∨ addr < 0 then none else some addr

/-- Interface pointers of the record: the port to which the `drvPvt` belongs. -/
abbrev Pointers := InterfaceType → Option PortName

inductive CallbackState
  | stateNoDevice
  | stateIdle
  | stateCancelIo
  | stateIo
  deriving DecidableEq, Repr

/-! ## The callbacks -/

/-- A driver method is called with a pointer of the private structure, or with the local copy of
`asynGpibPvt`. -/
inductive Call
  | pvt (type : InterfaceType)
  | copy
  deriving DecidableEq, Repr

inductive Stmt
  | copyGpib
  | ifValid (type : InterfaceType) (calls : List Call)
  | always (calls : List Call)
  deriving DecidableEq, Repr

/-- `IFACE`. -/
inductive Iface
  | octet
  | int32
  | uint32
  | float64
  deriving DecidableEq, Repr

def Iface.type : Iface → InterfaceType
  | .octet => .asynOctet
  | .int32 => .asynInt32
  | .uint32 => .asynUInt32Digital
  | .float64 => .asynFloat64

/-- What `UCMD`, `ACMD`, `TMOD` and `IFACE` ask for; the formats and `TMOD` decide how many methods an
I/O calls. -/
inductive Work
  | universalCmd
  | addressedCmd (serialPoll : Bool)
  | performIo (iface : Iface) (calls : Nat)
  | noIo
  deriving DecidableEq, Repr

def asynCallbackProcess : Work → List Stmt
  | .universalCmd => [.copyGpib, .ifValid .asynGpib [.copy]]
  | .addressedCmd false => [.copyGpib, .ifValid .asynGpib [.pvt .asynGpib]]
  | .addressedCmd true => [.copyGpib, .ifValid .asynGpib [.copy, .pvt .asynOctet, .copy]]
  | .performIo iface calls => [.ifValid iface.type (List.replicate calls (.pvt iface.type))]
  | .noIo => []

/-- `callbackConnect` calls `connect` or `disconnect` where `CNCT` differs from what is, and has the
status of the call. -/
inductive CallbackType
  | callbackConnect (status : Option Bool)
  | callbackGetOption
  | callbackSetOption
  | callbackGetEos
  | callbackSetEos
  deriving DecidableEq, Repr

def getOptions : Stmt := .ifValid .asynOption (List.replicate 11 (.pvt .asynOption))

def getEos : Stmt := .ifValid .asynOctet (List.replicate 2 (.pvt .asynOctet))

def asynCallbackSpecial : CallbackType → List Stmt
  | .callbackConnect none => []
  | .callbackConnect (some _) => [.always [.pvt .asynCommon]]
  | .callbackGetOption => [getOptions]
  | .callbackSetOption => [.ifValid .asynOption [.pvt .asynOption], getOptions]
  | .callbackGetEos => [getEos]
  | .callbackSetEos => [.ifValid .asynOctet [.pvt .asynOctet], getEos]

/-- The status after which `asynCallbackSpecial` sets `stateIdle`. -/
def CallbackType.succeeds (type : CallbackType) : Bool := type ≠ .callbackConnect (some false)

def drvPvt (pvt : Pointers) (copy : Option PortName) : Call → Option PortName
  | .pvt type => pvt type
  | .copy => copy

/-- The local copy after a statement, and the methods that it calls. -/
def Stmt.run (pvt : Pointers) (copy : Option PortName) : Stmt → Option PortName × List Call
  | .copyGpib => (pvt .asynGpib, [])
  | .ifValid type calls => (copy, if (pvt type).isSome then calls else [])
  | .always calls => (copy, calls)

/-- The pointers of all calls of a callback during which nothing changes. -/
def execute (pvt : Pointers) : Option PortName → List Stmt → List (Option PortName)
  | _, [] => []
  | copy, stmt :: rest =>
      (stmt.run pvt copy).2.map (drvPvt pvt (stmt.run pvt copy).1) ++
        execute pvt (stmt.run pvt copy).1 rest

/-- A callback in the thread of a port. -/
structure Callback where
  port : PortName
  copy : Option PortName
  calls : List Call
  rest : List Stmt

def Callback.start (port : PortName) (stmts : List Stmt) : Callback := ⟨port, none, [], stmts⟩

/-- The callback calls a driver method or comes to its next statement; a null pointer stops it. -/
def Callback.next (pvt : Pointers) (c : Callback) : Option (Callback × List PortName) :=
  match c.calls with
  | call :: calls => (drvPvt pvt c.copy call).map fun port => ({ c with calls := calls }, [port])
  | [] =>
      match c.rest with
      | [] => none
      | stmt :: rest =>
          some (⟨c.port, (stmt.run pvt c.copy).1, (stmt.run pvt c.copy).2, rest⟩, [])

/-- The callback has still driver methods to call. -/
def Callback.Unfinished (c : Callback) : Prop := c.calls ≠ [] ∨ c.rest ≠ []

instance Callback.decidableUnfinished (c : Callback) : Decidable c.Unfinished :=
  inferInstanceAs (Decidable (_ ∨ _))

/-! ## The state -/

/-- The request of the record's `asynUser`; `completed` waits for its process callback. -/
inductive Request
  | idle
  | queued
  | running (c : Callback)
  | completed

/-- A duplicated `asynUser`, which stays on its port. -/
inductive Special
  | queued (port : PortName) (type : CallbackType)
  | running (type : CallbackType) (c : Callback)

abbrev SpecialId := Nat

/-- How far `connectDevice` is: the interfaces whose pointers are still to be assigned. -/
inductive Stage
  | disconnecting
  | connecting
  | assigning (rest : List InterfaceType)
  | requesting
  | bad

/-- A `connectDevice` of `special`; it is for `PCNCT` or for one of the other fields. -/
structure Put where
  pcnct : Bool
  stage : Stage

/-- `connected` are `pport` and `pdevice` of the `asynUser`; `calls` lists for each driver method called by
a callback the port whose thread executes the callback, and the port of its `drvPvt`. -/
structure State where
  ports : PortName → Option Port
  PORT : PortName
  ADDR : Int
  pact : Bool
  state : CallbackState
  connected : Option (PortName × Option Int)
  pvt : Pointers
  request : Request
  specials : SpecialId → Option Special
  put : Option Put
  calls : List (PortName × PortName)

/-- After the first pass of `init_record`; the second one is a put of the same `PORT` where there is one. -/
def State.Initial (s : State) : Prop :=
  s.pact = false ∧ s.state = .stateNoDevice ∧ s.connected = none ∧ (∀ type, s.pvt type = none) ∧
    s.request = .idle ∧ (∀ id, s.specials id = none) ∧ s.put = none ∧ s.calls = []

/-! ## The code -/

namespace State

def isQueued (s : State) : Bool :=
  match s.request with
  | .queued => true
  | _ => false

def disconnect (s : State) : State := if s.isQueued then s else { s with connected := none }

def findInterface (s : State) (type : InterfaceType) : Option PortName :=
  match s.connected with
  | none => none
  | some (name, _) =>
      match s.ports name with
      | none => none
      | some port => if port.interfaceList type then some name else none

/-- The callback of a port that cannot block, called by `queueRequest` itself. -/
def synchronous (s : State) (name : PortName) (stmts : List Stmt) : Option State :=
  if none ∈ execute s.pvt none stmts then none
  else some { s with
    calls := s.calls ++ (execute s.pvt none stmts).filterMap (Option.map fun port => (name, port)) }

/-- `queueRequest` with a duplicated `asynUser`, which is freed where it fails. -/
def queueSpecial (s : State) (id : SpecialId) (type : CallbackType) (accepted : Bool) : Option State :=
  match s.connected with
  | none => some s
  | some (name, _) =>
      match s.ports name with
      | none => none
      | some port =>
          if accepted = false then some s
          else if port.canBlock then
            match s.specials id with
            | none =>
                some { s with specials := Function.update s.specials id (some (.queued name type)) }
            | some _ => none
          else
            (s.synchronous name (asynCallbackSpecial type)).map fun s =>
              if type.succeeds then { s with state := .stateIdle } else s

/-- The end of `special` for the fields that call `connectDevice`. -/
def finish (s : State) (pcnct succeeds : Bool) : State :=
  { s with
    put := none
    state := if pcnct then s.state else if succeeds then .stateIdle else .stateNoDevice }

/-- The next step of `connectDevice`. -/
def connectDevice (s : State) (put : Put) (id : SpecialId) (accepted : Bool) : Option State :=
  match put.stage with
  | .disconnecting => some { s.disconnect with put := some { put with stage := .connecting } }
  | .connecting =>
      match s.ports s.PORT, s.connected with
      | some port, none =>
          let s := { s with connected := some (s.PORT, port.locateDevice s.ADDR) }
          if port.interfaceList .asynCommon then
            some { s with
              pvt := Function.update s.pvt .asynCommon (some s.PORT)
              put := some { put with
                stage := .assigning [.asynOption, .asynOctet, .asynInt32, .asynUInt32Digital,
                  .asynFloat64, .asynGpib, .asynDrvUser] } }
          else
            some { s with
              pvt := Function.update s.pvt .asynCommon none
              put := some { put with stage := .bad } }
      | _, _ => some { s with put := some { put with stage := .bad } }
  | .assigning (type :: rest) =>
      some { s with
        pvt := Function.update s.pvt type (s.findInterface type)
        put := some { put with stage := .assigning rest } }
  | .assigning [] =>
      if (s.pvt .asynOption).isSome then
        (s.queueSpecial id .callbackGetOption accepted).map fun s =>
          { s with put := some { put with stage := .requesting } }
      else some { s with put := some { put with stage := .requesting } }
  | .requesting =>
      if (s.pvt .asynOctet).isSome then
        (s.queueSpecial id .callbackGetEos accepted).map fun s => s.finish put.pcnct true
      else some (s.finish put.pcnct true)
  | .bad => some (s.disconnect.finish put.pcnct false)

/-- `special` for `AQR`; while the callback runs, `cancelRequest` waits for its end. -/
def cancelRequest (s : State) : Option State :=
  match s.connected, s.request with
  | some _, .running _ => none
  | some _, .queued => some { s with request := .completed, state := .stateIdle }
  | _, _ => some { s with state := .stateIdle }

/-- `process`, where `gotValue` says that the value came from an interrupt. -/
def process (s : State) (gotValue : Bool) (work : Work) (accepted : Bool) : Option State :=
  if s.pact then some { s with state := .stateIdle, pact := false }
  else
    match s.state, gotValue, s.connected with
    | .stateIdle, false, some (name, _) =>
        match s.ports name with
        | none => none
        | some port =>
            if accepted = false then some s
            else if port.canBlock then
              match s.request with
              | .idle => some { s with request := .queued, state := .stateIo, pact := true }
              | _ => some s
            else s.synchronous name (asynCallbackProcess work)
    | _, _, _ => some s

/-- The end of `asynCallbackProcess`, where `canBlock` decides on the process callback. -/
def finishProcess (s : State) : State :=
  match s.connected with
  | none => { s with request := .idle }
  | some (name, _) =>
      match s.ports name with
      | some ⟨true, _, _⟩ => { s with request := .completed }
      | _ => { s with request := .idle }

end State

/-! ## The machine -/

inductive Field
  | PORT (name : PortName)
  | ADDR (addr : Int)
  | DRVINFO
  | PCNCT (yesNo : Bool)
  | AQR
  deriving DecidableEq, Repr

/-- What the holder of the record's lock does, what the threads of the ports do for the two kinds of
requests, and what the timers do. -/
inductive Action
  | registerPort (name : PortName) (port : Port)
  | put (field : Field)
  | putSpecial (id : SpecialId) (type : CallbackType) (accepted : Bool)
  | connect (id : SpecialId) (accepted : Bool)
  | process (gotValue : Bool) (work : Work) (accepted : Bool)
  | complete
  | startProcess (work : Work)
  | runProcess
  | finishProcess
  | timeoutProcess
  | startSpecial (id : SpecialId)
  | runSpecial (id : SpecialId)
  | finishSpecial (id : SpecialId)
  | timeoutSpecial (id : SpecialId)

/-- A put, which writes the field and calls `special`. -/
def State.special (s : State) : Field → Option State
  | .PORT name => some { s with PORT := name, put := some ⟨false, .disconnecting⟩ }
  | .ADDR addr => some { s with ADDR := addr, put := some ⟨false, .disconnecting⟩ }
  | .DRVINFO => some { s with put := some ⟨false, .disconnecting⟩ }
  | .PCNCT true => some { s with put := some ⟨true, .disconnecting⟩ }
  | .PCNCT false => some s.disconnect
  | .AQR => s.cancelRequest

def step (s : State) : Action → Option State
  | .registerPort name port =>
      match s.ports name with
      | none => some { s with ports := Function.update s.ports name (some port) }
      | some _ => none
  | .put field => if s.put.isNone then s.special field else none
  | .putSpecial id type accepted => if s.put.isNone then s.queueSpecial id type accepted else none
  | .connect id accepted => s.put.bind fun put => s.connectDevice put id accepted
  | .process gotValue work accepted =>
      if s.put.isNone ∧ s.pact = false then s.process gotValue work accepted else none
  | .complete =>
      match s.request with
      | .completed =>
          -- The record is active, so nothing is left to the further arguments.
          if s.put.isNone then { s with request := .idle }.process false .noIo false else none
      | _ => none
  | .startProcess work =>
      match s.request, s.connected with
      | .queued, some (name, _) =>
          some { s with request := .running (.start name (asynCallbackProcess work)) }
      | _, _ => none
  | .runProcess =>
      match s.request with
      | .running c => (c.next s.pvt).map fun (c', ports) =>
          { s with request := .running c', calls := s.calls ++ ports.map fun port => (c.port, port) }
      | _ => none
  | .finishProcess =>
      match s.request with
      | .running c => if c.Unfinished then none else some s.finishProcess
      | _ => none
  | .timeoutProcess => if s.isQueued then some { s with request := .completed } else none
  | .startSpecial id =>
      match s.specials id with
      | some (.queued name type) =>
          some { s with
            specials := Function.update s.specials id
              (some (.running type (.start name (asynCallbackSpecial type)))) }
      | _ => none
  | .runSpecial id =>
      match s.specials id with
      | some (.running type c) => (c.next s.pvt).map fun (c', ports) =>
          { s with
            specials := Function.update s.specials id (some (.running type c'))
            calls := s.calls ++ ports.map fun port => (c.port, port) }
      | _ => none
  | .finishSpecial id =>
      match s.specials id with
      | some (.running type c) =>
          if c.Unfinished then none
          else
            some { s with
              specials := Function.update s.specials id none
              state := if type.succeeds then .stateIdle else s.state }
      | _ => none
  | .timeoutSpecial id =>
      match s.specials id with
      | some (.queued _ _) =>
          some { s with specials := Function.update s.specials id none, state := .stateIdle }
      | _ => none

def machine : Machine State Action := ⟨State.Initial, step⟩

end Connect
end AsynRecord
end AsynDriver
