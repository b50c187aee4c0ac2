import AsynDriver.Library.Machine
import AsynDriver.Manager.InterposeInterface
import AsynDriver.Miscellaneous.Octet

/-!
# Forwarding through the layers

The layers `asynInterposeEos`, `asynInterposeCom`, `asynInterposeEcho` and `asynInterposeDelay` on one
port: which calls each of them makes of the layer below.

* `Interface`, `Layer` — an `asynInterface` with its method table and `drvPvt`, and the private data of a
  layer with the pointers it has saved.
* `eosOctet`, `comOctet`, `comOption`, `echoOctet`, `delayOctet`, `delayOption` — the method tables.  What
  a method does that the layer implements itself is `Behaviour.own`; see `InterposeEos` and `InterposeCom`.
* `asynInterposeEosConfig`, `asynInterposeCOM`, `asynInterposeEcho`, `asynInterposeDelay` — the
  installation, through `interposeInterface`.
* `call` — a method call through the stack, down to the driver.
* `Forwards`, `Reliable` — what the callers rely on, and when a layer does it.

The `asynUser` of a call is passed on by every layer, so it does not appear.
-/

namespace AsynDriver
namespace Miscellaneous
namespace InterposeLayers

open Library
open Manager (AsynStatus)
open Manager.Interpose (AsynInterface Stack registeredPort findInterfaceAt)

/-- A private pointer; `none` is null. -/
abbrev Ptr := Option Nat

/-- `pinterface`, by the file that contains the method table. -/
inductive Table
  | driver
  | eos
  | com
  | echo
  | delay
  deriving DecidableEq, Repr

structure Interface where
  pinterface : Table
  drvPvt : Ptr
  deriving DecidableEq

/-- The methods of `asynOctet` and of `asynOption`, with their arguments. -/
inductive Method
  | write (data : List UInt8)
  | read (maxchars : Nat)
  | flush
  | registerInterruptUser (callback userPvt : Nat)
  | cancelInterruptUser (registrarPvt : Nat)
  | setInputEos (eos : List UInt8) (eoslen : Int)
  | getInputEos (eossize : Int)
  | setOutputEos (eos : List UInt8) (eoslen : Int)
  | getOutputEos (eossize : Int)
  | setOption (key val : String)
  | getOption (key : String) (valSize : Int)
  deriving DecidableEq

def asynOctetType : String := "asynOctet"

def asynOptionType : String := "asynOption"

def Method.isOption : Method → Bool
  | .setOption _ _ => true
  | .getOption _ _ => true
  | _ => false

def Method.interfaceType (m : Method) : String :=
  if m.isOption then asynOptionType else asynOctetType

/-- What a method returns: its status, the bytes it has stored for the caller, and `errorMessage`. -/
structure Answer where
  status : AsynStatus
  bytes : List UInt8
  count : Nat
  eom : EomReason
  errorMessage : String
  deriving DecidableEq

/-- `own` is the layer's own code.  `lower` is one call of a method of the layer below; a message says
that the status is then replaced by `asynError`. -/
inductive Behaviour
  | own
  | lower (table : Table) (pvt : Ptr) (m : Method) (replaced : Option String)
  | fail (errorMessage : String)
  deriving DecidableEq

/-! ## The layers -/

structure EosPvt where
  poctet : Table
  octetPvt : Ptr
  processEosIn : Bool
  processEosOut : Bool
  eosOutLen : Nat
  deriving DecidableEq

structure ComPvt where
  pasynOctetDrv : Table
  drvOctetPvt : Ptr
  pasynOptionDrv : Option Table
  drvOptionPvt : Ptr
  deriving DecidableEq

structure EchoPvt where
  pasynOctetDrv : Table
  drvPvt : Ptr
  deriving DecidableEq

structure DelayPvt where
  pasynOctetDrv : Table
  octetPvt : Ptr
  pasynOptionDrv : Option Table
  optionPvt : Ptr
  deriving DecidableEq

inductive Layer
  | eos (peosPvt : EosPvt)
  | com (pinterposePvt : ComPvt)
  | echo (pvt : EchoPvt)
  | delay (pvt : DelayPvt)
  deriving DecidableEq

def Layer.table : Layer → Table
  | .eos _ => .eos
  | .com _ => .com
  | .echo _ => .echo
  | .delay _ => .delay

/-- `epicsStrCaseCmp(key, name) == 0`. -/
def sameKey (key name : String) : Bool := key.toLower == name.toLower

/-- The keys of `asynInterposeCom.c`. -/
def comKeys : List String := ["baud", "bits", "parity", "stop", "crtscts", "ixon", "break"]

def eosOctet (p : EosPvt) (m : Method) : Behaviour :=
  let forward := Behaviour.lower p.poctet p.octetPvt m none
  match m with
  | .write _ => if !p.processEosOut || p.eosOutLen == 0 then forward else .own
  | .read _ => if !p.processEosIn then forward else .own
  -- With `processEosIn` the input buffer is emptied first.
  | .flush => forward
  | .registerInterruptUser _ _ => forward
  | .cancelInterruptUser _ => forward
  | .setInputEos _ _ => if !p.processEosIn then forward else .own
  | .getInputEos _ => if !p.processEosIn then forward else .own
  | .setOutputEos _ _ => .own
  | .getOutputEos _ => .own
  | _ => .own

def comOctet (p : ComPvt) (m : Method) : Behaviour :=
  match m with
  | .write _ => .own
  | .read _ => .own
  | _ => .lower p.pasynOctetDrv p.drvOctetPvt m none

def comOption (p : ComPvt) (m : Method) : Behaviour :=
  match m with
  | .setOption key _ =>
      if comKeys.any (sameKey key) then .own
      else
        match p.pasynOptionDrv with
        | some table => .lower table p.drvOptionPvt m none
        | none => .fail ("Can't handle option \"" ++ key ++ "\"")
  | .getOption key valSize =>
      if comKeys.any (sameKey key) then .own
      else
        match p.pasynOptionDrv with
        -- `l` is still 0 in `if (l >= valSize)`.
        | some table =>
            .lower table p.drvOptionPvt m
              (if 0 ≥ valSize then some ("Value buffer for key '" ++ key ++ "' is too small.")
              else none)
        | none => .fail ("Unsupported key \"" ++ key ++ "\"")
  | _ => .own

def echoOctet (p : EchoPvt) (m : Method) : Behaviour :=
  match m with
  | .write _ => .own
  | _ => .lower p.pasynOctetDrv p.drvPvt m none

def delayOctet (p : DelayPvt) (m : Method) : Behaviour :=
  match m with
  | .write _ => .own
  | _ => .lower p.pasynOctetDrv p.octetPvt m none

def delayOption (p : DelayPvt) (m : Method) : Behaviour :=
  let forward (key : String) : Behaviour :=
    if sameKey key "delay" then .own
    else
      match p.pasynOptionDrv with
      | some table => .lower table p.optionPvt m none
      | none => .fail ("Unknown option \"" ++ key ++ "\"")
  match m with
  | .setOption key _ => forward key
  | .getOption key _ => forward key
  | _ => .own

/-- The layer has interposed an interface with this method. -/
def Layer.provides (l : Layer) (m : Method) : Bool :=
  match l with
  | .eos _ => !m.isOption
  | .com _ => true
  | .echo _ => !m.isOption
  | .delay _ => true

def Layer.behaviour (l : Layer) (m : Method) : Behaviour :=
  match l with
  | .eos p => eosOctet p m
  | .com p => if m.isOption then comOption p m else comOctet p m
  | .echo p => echoOctet p m
  | .delay p => if m.isOption then delayOption p m else delayOctet p m

/-! ## The installation -/

structure State where
  stack : Stack
  /-- The `asynInterface` at an address. -/
  interfaces : Nat → Interface
  /-- The private data at an address. -/
  layer : Nat → Option Layer
  next : Nat

/-- The private data at `a` contain the `asynInterface`s for `asynOctet` and `asynOption`. -/
def octetAt (a : Nat) : AsynInterface := ⟨asynOctetType, a⟩

def optionAt (a : Nat) : AsynInterface := ⟨asynOptionType, a + 1⟩

/-- `callocMustSucceed`, with the fields of the two `asynInterface`s. -/
def State.allocate (s : State) (table : Table) : State :=
  { s with
    interfaces := Function.update (Function.update s.interfaces s.next ⟨table, some s.next⟩)
      (s.next + 1) ⟨table, some s.next⟩
    next := s.next + 2 }

def State.setLayer (s : State) (a : Nat) (l : Layer) : State :=
  { s with layer := Function.update s.layer a (some l) }

/-- `interposeInterface`, with the previous interface. -/
def State.interpose (s : State) (addr : Int) (pif : AsynInterface) : State × Option Interface :=
  let stack := s.stack.interpose ⟨addr, pif⟩
  ({ s with stack := stack }, (stack.prev pif).map fun prev => s.interfaces prev.address)

/-- There is no next state when the installation fails. -/
def asynInterposeEosConfig (s : State) (addr : Int) (processEosIn processEosOut : Bool) :
    Option State :=
  let a := s.next
  let octet := (s.allocate .eos).interpose addr (octetAt a)
  octet.2.map fun lower =>
    octet.1.setLayer a (.eos ⟨lower.pinterface, lower.drvPvt, processEosIn, processEosOut, 0⟩)

def asynInterposeCOM (s : State) : Option State :=
  let a := s.next
  let octet := (s.allocate .com).interpose (-1) (octetAt a)
  octet.2.map fun lower =>
    let option := octet.1.interpose (-1) (optionAt a)
    option.1.setLayer a (.com
      { pasynOctetDrv := lower.pinterface
        drvOctetPvt := lower.drvPvt
        pasynOptionDrv := option.2.map Interface.pinterface
        drvOptionPvt := option.2.bind Interface.drvPvt })

def asynInterposeEcho (s : State) (addr : Int) : Option State :=
  let a := s.next
  let octet := (s.allocate .echo).interpose addr (octetAt a)
  octet.2.map fun lower => octet.1.setLayer a (.echo ⟨lower.pinterface, lower.drvPvt⟩)

/-- `optionPvt` is as `callocMustSucceed` has left it.  Without a previous option interface the layer
registers its own. -/
def asynInterposeDelay (s : State) (addr : Int) : Option State :=
  let a := s.next
  let octet := (s.allocate .delay).interpose addr (octetAt a)
  octet.2.map fun lower =>
    let option := octet.1.interpose addr (optionAt a)
    let registered :=
      match option.2 with
      | some _ => option.1
      | none =>
          { option.1 with stack := { option.1.stack with pport := { option.1.stack.pport with
              interfaceList := option.1.stack.pport.interfaceList ++ [optionAt a] } } }
    registered.setLayer a (.delay
      { pasynOctetDrv := lower.pinterface
        octetPvt := lower.drvPvt
        pasynOptionDrv := option.2.map Interface.pinterface
        optionPvt := none })

inductive Action
  | asynInterposeEosConfig (addr : Int) (processEosIn processEosOut : Bool)
  | asynInterposeCOM
  | asynInterposeEcho (addr : Int)
  | asynInterposeDelay (addr : Int)
  /-- A call of `setOutputEos` on the layer at an address. -/
  | setOutputEos (a : Nat) (eoslen : Nat)
  deriving DecidableEq

def setOutputEos (s : State) (a eoslen : Nat) : Option State :=
  match s.layer a with
  | some (.eos p) =>
      if eoslen ≤ 2 then some (s.setLayer a (.eos { p with eosOutLen := eoslen })) else none
  | _ => none

def step (s : State) : Action → Option State
  | .asynInterposeEosConfig addr processEosIn processEosOut =>
      asynInterposeEosConfig s addr processEosIn processEosOut
  | .asynInterposeCOM => asynInterposeCOM s
  | .asynInterposeEcho addr => asynInterposeEcho s addr
  | .asynInterposeDelay addr => asynInterposeDelay s addr
  | .setOutputEos a eoslen => setOutputEos s a eoslen

/-- The two interfaces that the driver has registered. -/
def driverInterfaces : List AsynInterface := [octetAt 0, optionAt 0]

/-- The private pointers of the driver. -/
structure Driver where
  multiDevice : Bool
  octetPvt : Ptr
  optionPvt : Ptr

def Driver.drvPvt (d : Driver) (m : Method) : Ptr := if m.isOption then d.optionPvt else d.octetPvt

def State.start (d : Driver) : State where
  stack := registeredPort d.multiDevice driverInterfaces
  interfaces := fun a => if a = 0 then ⟨.driver, d.octetPvt⟩ else ⟨.driver, d.optionPvt⟩
  layer := fun _ => none
  next := 2

def machine (d : Driver) : Machine State Action := ⟨(· = .start d), step⟩

/-! ## Calls -/

/-- A call of a method through an interface.  `drv` are the driver's methods.  The layers' own code is
not followed, and a layer's method has no answer when its private pointer is not to private data of
that layer. -/
def call (s : State) (drv : Ptr → Method → Answer) : Nat → Interface → Method → Option Answer
  | 0, _, _ => none
  | fuel + 1, pif, m =>
      if pif.pinterface = .driver then some (drv pif.drvPvt m)
      else
        match pif.drvPvt.bind s.layer with
        | none => none
        | some l =>
            if l.table = pif.pinterface then
              match l.behaviour m with
              | .own => none
              | .fail errorMessage => some ⟨.asynError, [], 0, .zero, errorMessage⟩
              | .lower table pvt m' replaced =>
                  (call s drv fuel ⟨table, pvt⟩ m').map fun answer =>
                    match replaced with
                    | none => answer
                    | some errorMessage =>
                        { answer with status := .asynError, errorMessage := errorMessage }
            else none

/-- The methods that a layer implements itself. -/
def Layer.implements (l : Layer) (m : Method) : Bool :=
  match l, m with
  | .eos p, .write _ => p.processEosOut && decide (0 < p.eosOutLen)
  | .eos p, .read _ => p.processEosIn
  | .eos p, .setInputEos _ _ => p.processEosIn
  | .eos p, .getInputEos _ => p.processEosIn
  | .eos _, .setOutputEos _ _ => true
  | .eos _, .getOutputEos _ => true
  | .com _, .write _ => true
  | .com _, .read _ => true
  | .com _, .setOption key _ => comKeys.any (sameKey key)
  | .com _, .getOption key _ => comKeys.any (sameKey key)
  | .echo _, .write _ => true
  | .delay _, .write _ => true
  | .delay _, .setOption key _ => sameKey key "delay"
  | .delay _, .getOption key _ => sameKey key "delay"
  | _, _ => false

/-- The interface below the layer at `a`, as `interposeInterface` has returned it. -/
def State.lower (s : State) (a : Nat) (m : Method) : Option Interface :=
  (s.stack.prev (if m.isOption then optionAt a else octetAt a)).map fun prev =>
    s.interfaces prev.address

/-- The layer makes the same call of the layer below, with that layer's private pointer, and returns
its answer. -/
def Forwards (s : State) (a : Nat) (l : Layer) (m : Method) : Prop :=
  ∃ lower, s.lower a m = some lower ∧ l.behaviour m = .lower lower.pinterface lower.drvPvt m none

/-- The layer is not `asynInterposeDelay` above an option interface with private data, and the call is
not a `getOption` without room for a value that comes to `asynInterposeCom`. -/
def Reliable (s : State) (a : Nat) (l : Layer) (m : Method) : Prop :=
  match l, m with
  | .delay _, .setOption _ _ => (s.lower a m).bind Interface.drvPvt = none
  | .delay _, .getOption _ _ => (s.lower a m).bind Interface.drvPvt = none
  | .com _, .getOption _ valSize => 0 < valSize
  | _, _ => True

end InterposeLayers
end Miscellaneous
end AsynDriver
