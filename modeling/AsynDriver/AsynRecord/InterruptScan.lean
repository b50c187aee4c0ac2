import AsynDriver.AsynRecord.Connect

/-!
# The asyn record and its interrupt registration

Puts to `SCAN`, `IFACE`, `UI32MASK`, `REASON`, `DRVINFO`, `PORT`, `ADDR` and `PCNCT`.  A put to one of the
other fields ends in `cancelIOInterruptScan`, when the field has changed already.

* `Registration` — what `registerInterruptUser` made, with which interface and for which user.
* `registerInterrupts`, `cancelInterrupts`, `scanAdd`, `scanDelete` — a scan of `I/O Intr` begins and ends.
* `connectDevice`, `special` — the puts; `machine` makes any sequence of them.

`interruptAccept` is set, as it is once the records have been added to their scan lists.  A put is one
step, for what the threads of the ports do changes none of this.  Whether the record's request is in a
queue, so that `disconnect` refuses, is left open.
-/

namespace AsynDriver
namespace AsynRecord
namespace InterruptScan

open Library
open Connect (PortName Iface)

/-- An `asynInterface`: its methods and its `drvPvt`. -/
abbrev InterfaceId := Nat

abbrev NodeId := Nat

/-- `findInterface` may find another interface for each device, where one is interposed. -/
structure Port where
  multiDevice : Bool
  asynCommon : Bool
  asynDrvUser : Bool
  findInterface : Option Int → Iface → Option InterfaceId

def Port.locateDevice (port : Port) (addr : Int) : Option Int :=
  if port.multiDevice = false ∨ addr < 0 then none else some addr

inductive Scan
  | passive
  | event
  | ioIntr
  | periodic (n : Nat)
  deriving DecidableEq, Repr

/-- An interrupt node with the method and the `asynUser` with which it was made; only
`asynUInt32Digital` has a mask. -/
structure Registration where
  node : NodeId
  iface : Iface
  interface : InterfaceId
  port : PortName
  device : Option Int
  reason : Int
  mask : Option Nat
  deriving DecidableEq, Repr

/-- `connected` and `reason` are those of the `asynUser`.  `registered` are the nodes whose callbacks the
drivers call, and `made` and `cancelled` list what was registered and what was cancelled, with the interface
that cancelled it. -/
structure State where
  ports : PortName → Option Port
  SCAN : Scan
  IFACE : Iface
  UI32MASK : Nat
  REASON : Int
  DRVINFO : String
  PORT : PortName
  ADDR : Int
  connected : Option (PortName × Option Int)
  reason : Int
  pvt : Iface → Option InterfaceId
  interruptPvt : Option NodeId
  nodes : Nat
  registered : List Registration
  made : List Registration
  cancelled : List (Registration × Iface × InterfaceId)

def State.Initial (s : State) : Prop :=
  s.SCAN = .passive ∧ s.connected = none ∧ (∀ iface, s.pvt iface = none) ∧ s.registered = [] ∧
    s.made = [] ∧ s.cancelled = []

namespace State

/-! ## `I/O Intr` -/

def mask (s : State) : Option Nat := if s.IFACE = .uint32 then some s.UI32MASK else none

/-- `registerInterruptUser` needs a connected user, and `addInterruptUser` may fail for a port that was
shut down; the node has been made by then. -/
def registerInterrupts (s : State) (accepted : Bool) : State × Bool :=
  match s.pvt s.IFACE, s.connected with
  | some interface, some (name, device) =>
      let registration : Registration :=
        ⟨s.nodes, s.IFACE, interface, name, device, s.reason, s.mask⟩
      let s := { s with interruptPvt := some s.nodes, nodes := s.nodes + 1 }
      if accepted then
        ({ s with
          registered := s.registered ++ [registration], made := s.made ++ [registration] }, true)
      else (s, false)
  | _, _ => (s, false)

/-- The status of `cancelInterruptUser` is printed and no more. -/
def cancelInterrupts (s : State) : State :=
  match s.pvt s.IFACE, s.connected, s.interruptPvt with
  | some interface, some _, some node =>
      { s with
        registered := s.registered.filter (·.node ≠ node)
        cancelled := s.cancelled ++
          (s.registered.filter (·.node = node)).map fun registration =>
            (registration, s.IFACE, interface) }
  | _, _, _ => s

def scanDelete (s : State) : State := if s.SCAN = .ioIntr then s.cancelInterrupts else s

/-- Where `getIoIntInfo` fails, the record becomes passive. -/
def scanAdd (s : State) (accepted : Bool) : State :=
  if s.SCAN = .ioIntr then
    match s.registerInterrupts accepted with
    | (s, true) => s
    | (s, false) => { s with SCAN := .passive }
  else s

def putScan (s : State) (scan : Scan) (accepted : Bool) : State :=
  { s.scanDelete with SCAN := scan }.scanAdd accepted

def cancelIOInterruptScan (s : State) : State :=
  if s.SCAN = .ioIntr then s.putScan .passive true else s

/-! ## The port -/

def disconnect (s : State) (queued : Bool) : State :=
  if queued then s else { s with connected := none }

/-- `create` is the reason that `asynDrvUser->create` finds. -/
def createDrvUser (s : State) (port : Port) (create : Option Int) : State :=
  if port.asynDrvUser then
    if s.DRVINFO = "" then s
    else
      match create with
      | some reason => { s with reason := reason, REASON := reason }
      | none => s
  else { s with REASON := 0 }

/-- `connectDevice` up to `bad`, with its status. -/
def connectUser (s : State) (create : Option Int) : State × Bool :=
  match s.ports s.PORT, s.connected with
  | some port, none =>
      let device := port.locateDevice s.ADDR
      let s := { s with connected := some (s.PORT, device) }
      if port.asynCommon then
        ({ s with pvt := port.findInterface device }.createDrvUser port create, true)
      else (s, false)
  | _, _ => (s, false)

/-- What a put does not decide: whether the record's request is in a queue when `connectDevice`
disconnects, and still when it fails, and what `create` returns. -/
structure Env where
  queued : Bool
  stillQueued : Bool
  create : Option Int

def connectDevice (s : State) (env : Env) : State :=
  -- Only a connected user has a request in a queue.
  let queued := env.queued && s.connected.isSome
  match (s.disconnect queued).connectUser env.create with
  | (s, true) => s.cancelIOInterruptScan
  | (s, false) => (s.disconnect (queued && env.stillQueued)).cancelIOInterruptScan

end State

/-! ## The machine -/

inductive Action
  | registerPort (name : PortName) (port : Port)
  | SCAN (scan : Scan) (accepted : Bool)
  | IFACE (iface : Iface)
  | UI32MASK (mask : Nat)
  | REASON (reason : Int)
  | DRVINFO (drvinfo : String) (env : State.Env)
  | PORT (port : PortName) (env : State.Env)
  | ADDR (addr : Int) (env : State.Env)
  | PCNCT (yesNo : Bool) (env : State.Env)

def step (s : State) : Action → Option State
  | .registerPort name port =>
      match s.ports name with
      | none => some { s with ports := Function.update s.ports name (some port) }
      | some _ => none
  | .SCAN scan accepted => some (s.putScan scan accepted)
  | .IFACE iface => some { s with IFACE := iface }.cancelIOInterruptScan
  | .UI32MASK mask => some { s with UI32MASK := mask }.cancelIOInterruptScan
  | .REASON reason =>
      some { s with REASON := reason, reason := reason, DRVINFO := "" }.cancelIOInterruptScan
  | .DRVINFO drvinfo env => some ({ s with DRVINFO := drvinfo }.connectDevice env)
  | .PORT port env => some ({ s with PORT := port }.connectDevice env)
  | .ADDR addr env => some ({ s with ADDR := addr }.connectDevice env)
  | .PCNCT true env => some (s.connectDevice env)
  | .PCNCT false env => some (s.disconnect env.queued).cancelIOInterruptScan

def machine : Machine State Action := ⟨State.Initial, step⟩

end InterruptScan
end AsynRecord
end AsynDriver
