import Mathlib.Data.List.Basic
import Mathlib.Tactic.Common
import AsynDriver.Library.CString

/-!
# `drvAsynFTDIPort.cpp` and the settings of `ftdiDriver.cpp`

The settings of a port are kept by its `FTDIDriver`, an object that `closeConnection` deletes and `connectIt`
creates again with its own defaults.

* `Settings`, `Driver` — the object before and after it has a context of libftdi.
* `Port` — the port, which has no driver while it is disconnected.
* `getOption`, `setOption` — with the dereference of a driver that is not there as a reply of its own.
* `connectIt`, `readIt`, `writeIt` — what they do to the connection.

`keeps` is the rate that the context shows after `ftdi_set_baudrate`.  Left out: the SPI mode, which has no
options, and the data of reads and writes.
-/

namespace AsynDriver
namespace Serial
namespace FTDIPort

open Library

/-! ## The driver object -/

inductive Bits
  | bits7
  | bits8
  deriving DecidableEq, Repr

inductive StopBits
  | one
  | oneAndHalf
  | two
  deriving DecidableEq, Repr

inductive Parity
  | none
  | odd
  | even
  | mark
  | space
  deriving DecidableEq, Repr

/-- `SIO_RTS_CTS_HS`, `SIO_DTR_DSR_HS` and `SIO_XON_XOFF_HS`. -/
structure FlowControl where
  rtsCts : Bool
  dtrDsr : Bool
  xonXoff : Bool
  deriving DecidableEq, Repr

/-- `SIO_DISABLE_FLOW_CTRL` -/
def FlowControl.disable : FlowControl := ⟨false, false, false⟩

/-- An `FTDIDriver`. -/
structure Settings where
  baudrate : Int
  latency : Int
  bits : Bits
  sbits : StopBits
  parity : Parity
  brk : Bool
  flowctrl : FlowControl
  deriving DecidableEq, Repr

/-- The constructor. -/
def Settings.new : Settings where
  baudrate := 12000000
  latency := 2
  bits := .bits8
  sbits := .one
  parity := .none
  brk := false
  flowctrl := .disable

/-- An `FTDIDriver` with a context, and the rate in the context. -/
structure Driver extends Settings where
  contextBaudrate : Int
  deriving DecidableEq, Repr

/-- The rate that the context has after `ftdi_set_baudrate`. -/
abbrev Keeps := Int → Int

namespace Driver

variable (d : Driver)

/-- `none` where libftdi refuses, here and below. -/
def setBaudrate (keeps : Keeps) (baudrate : Int) (accepts : Bool) : Option Driver :=
  if accepts then some { d with baudrate := baudrate, contextBaudrate := keeps baudrate } else none

def setLineProperties (bits : Bits) (sbits : StopBits) (parity : Parity) (brk accepts : Bool) :
    Option Driver :=
  if accepts then some { d with bits := bits, sbits := sbits, parity := parity, brk := brk } else none

def setStopBits (sbits : StopBits) (accepts : Bool) : Option Driver :=
  d.setLineProperties d.bits sbits d.parity d.brk accepts

def setParity (parity : Parity) (accepts : Bool) : Option Driver :=
  d.setLineProperties d.bits d.sbits parity d.brk accepts

def setBreak (brk accepts : Bool) : Option Driver :=
  d.setLineProperties d.bits d.sbits d.parity brk accepts

def setFlowControl (flowctrl : FlowControl) (accepts : Bool) : Option Driver :=
  if accepts then some { d with flowctrl := flowctrl } else none

def setLatency (latency : Int) (accepts : Bool) : Option Driver :=
  if accepts then some { d with latency := latency } else none

end Driver

/-- The answers of libftdi in `connectFTDI`; `context` is what `ftdi_new` returns, with its rate, and
`prepared` stands for the calls that reset the device, purge its buffers and set the sizes of chunks. -/
structure ConnectAnswers where
  context : Option Int
  opened : Bool
  baudrate : Bool
  lineProperties : Bool
  latency : Bool
  flowctrl : Bool
  prepared : Bool
  deriving DecidableEq, Repr

/-- All calls succeed. -/
def ConnectAnswers.Accept (a : ConnectAnswers) : Prop :=
  a.context.isSome = true ∧ a.opened = true ∧ a.baudrate = true ∧ a.lineProperties = true ∧
    a.latency = true ∧ a.flowctrl = true ∧ a.prepared = true

instance (a : ConnectAnswers) : Decidable a.Accept := inferInstanceAs (Decidable (_ ∧ _))

def Settings.connectFTDI (s : Settings) (keeps : Keeps) (a : ConnectAnswers) : Option Driver := do
  let context ← a.context
  let d : Driver := { s with contextBaudrate := context }
  guard a.opened
  -- What is set is what the object has already, so that only the context changes.
  let d ← d.setBaudrate keeps d.baudrate a.baudrate
  let d ← d.setLineProperties d.bits d.sbits d.parity d.brk a.lineProperties
  let d ← d.setLatency d.latency a.latency
  let d ← d.setFlowControl d.flowctrl a.flowctrl
  guard a.prepared
  return d

/-! ## The port -/

/-- `ftdiController_t` -/
structure Port where
  vendor : Int
  product : Int
  baudrate : Int
  latency : Int
  driver : Option Driver
  deriving DecidableEq, Repr

/-- `error` with `errorMessage`, where the call has set it. -/
inductive Reply (α : Type)
  | success (value : α)
  | error (message : Option String)
  | nullDriver
  deriving DecidableEq, Repr

def Reply.IsError {α : Type} : Reply α → Prop
  | error _ => True
  | _ => False

inductive Key
  | baud
  | bits
  | parity
  | stop
  | break
  | flow
  deriving DecidableEq, Repr

def Key.find (key : List Char) : Option Key :=
  if caseEq key "baud" then some .baud
  else if caseEq key "bits" then some .bits
  else if caseEq key "parity" then some .parity
  else if caseEq key "stop" then some .stop
  else if caseEq key "break" then some .break
  else if caseEq key "flow" then some .flow
  else none

/-! ## `getOption` -/

def Bits.text : Bits → String
  | bits7 => "7"
  | bits8 => "8"

def Parity.text : Parity → String
  | none => "none"
  | odd => "odd"
  | even => "even"
  | mark => "mark"
  | space => "space"

def StopBits.text : StopBits → String
  | one => "1"
  | oneAndHalf => "1.5"
  | two => "2"

def breakText (brk : Bool) : String := if brk then "on" else "off"

/-- A bar follows each mechanism but the last, and the first one also where the second is not set. -/
def FlowControl.text (f : FlowControl) : String :=
  if f = .disable then "none"
  else
    (if f.rtsCts then "rts_cts" else "") ++ (if f.rtsCts then "|" else "") ++
      (if f.dtrDsr then "dtr_dsr" else "") ++ (if f.rtsCts || f.dtrDsr then "|" else "") ++
      (if f.xonXoff then "xon_xoff" else "")

/-- The text of an option before it is cut to the buffer. -/
def Driver.optionText (d : Driver) : Key → List Char
  | .baud => decimal d.contextBaudrate
  | .bits => d.bits.text.toList
  | .parity => d.parity.text.toList
  | .stop => d.sbits.text.toList
  | .break => (breakText d.brk).toList
  | .flow => d.flowctrl.text.toList

def unsupportedKey (key : List Char) : String := "Unsupported key \"" ++ String.ofList key ++ "\""

def tooSmall (key : List Char) : String :=
  "Value buffer for key '" ++ String.ofList key ++ "' is too small."

/-- The text of an option in a buffer of `valSize` bytes. -/
def Port.printOption (p : Port) (key : List Char) (valSize : Nat) (k : Key) : Reply (List Char) :=
  match p.driver with
  | none => .nullDriver
  | some d =>
      if valSize ≤ (d.optionText k).length then .error (some (tooSmall key))
      else .success (d.optionText k)

def getOption (p : Port) (key : List Char) (valSize : Nat) : Reply (List Char) :=
  match Key.find key with
  | some .flow => .error (some (unsupportedKey key))
  -- The comparison with "flow" is not 0 for any key but this one.
  | none => p.printOption key valSize .flow
  | some k => p.printOption key valSize k

/-! ## `setOption` -/

inductive Request
  | baud (baud : Int)
  | parity (parity : Parity)
  | stop (sbits : StopBits)
  | break (brk : Bool)
  | flow (flowctrl : FlowControl)
  deriving DecidableEq, Repr

def Request.key : Request → Key
  | baud _ => .baud
  | parity _ => .parity
  | stop _ => .stop
  | .break _ => .break
  | flow _ => .flow

def parseParity (val : List Char) : Option Parity :=
  if caseEq val "none" then some .none
  else if caseEq val "even" then some .even
  else if caseEq val "odd" then some .odd
  else if caseEq val "mark" then some .mark
  else if caseEq val "space" then some .space
  else none

def parseStop (val : List Char) : Option StopBits :=
  if caseEq val "1" then some .one
  else if caseEq val "1.5" then some .oneAndHalf
  else if caseEq val "2" then some .two
  else none

def parseBreak (val : List Char) : Option Bool :=
  if caseEq val "on" then some true
  else if caseEq val "off" then some false
  else none

/-- The loop over the tokens. -/
def flowLoop : List (List Char) → FlowControl → Option FlowControl
  | [], flowctrl => some flowctrl
  | token :: rest, flowctrl =>
      if caseEq token "rts_cts" then flowLoop rest { flowctrl with rtsCts := true }
      else if caseEq token "dtr_dsr" then flowLoop rest { flowctrl with dtrDsr := true }
      else if caseEq token "xon_xoff" then flowLoop rest { flowctrl with xonXoff := true }
      else none

/-- The tokens of `strtok_r` are never empty. -/
def tokens (val : List Char) : List (List Char) := (val.splitOn '|').filter fun token => token ≠ []

def parseFlow (val : List Char) : Option FlowControl :=
  if caseEq val "none" then some .disable else flowLoop (tokens val) .disable

/-- What `setOption` makes of a key and a value, or its message.  There is no branch for `bits`. -/
def parse (key val : List Char) : Except String Request :=
  match Key.find key with
  | some .baud =>
      match scanInt32 val with
      | none => .error "Bad number"
      | some baud => .ok (.baud baud)
  | some .parity =>
      match parseParity val with
      | none => .error ("Invalid parity \"" ++ String.ofList val ++ "\".")
      | some parity => .ok (.parity parity)
  | some .stop =>
      match parseStop val with
      | none => .error ("Invalid number of stop bits \"" ++ String.ofList val ++ "\".")
      | some sbits => .ok (.stop sbits)
  | some .break =>
      match parseBreak val with
      | none => .error ("Invalid break \"" ++ String.ofList val ++ "\".")
      | some brk => .ok (.break brk)
  | some .flow =>
      match parseFlow val with
      | none => .error ("Invalid flow control \"" ++ String.ofList val ++ "\".")
      | some flowctrl => .ok (.flow flowctrl)
  | some .bits => .error (unsupportedKey key)
  | none => .error (unsupportedKey key)

def Driver.apply (d : Driver) (keeps : Keeps) (accepts : Bool) : Request → Option Driver
  | .baud baud => d.setBaudrate keeps baud accepts
  | .parity parity => d.setParity parity accepts
  | .stop sbits => d.setStopBits sbits accepts
  | .break brk => d.setBreak brk accepts
  | .flow flowctrl => d.setFlowControl flowctrl accepts

/-- The message where the driver refuses. -/
def Request.refused : Request → Option String
  | .baud rate => some ("Unsupported data rate (" ++ toString rate ++ " baud)")
  | _ => none

def setOption (keeps : Keeps) (p : Port) (key val : List Char) (accepts : Bool) : Port × Reply Unit :=
  -- The chain of comparisons ends with `epicsStrCaseCmp(key, "") != 0`.
  if key = [] then (p, .success ())
  else
    match parse key val with
    | .error message => (p, .error (some message))
    | .ok request =>
        match p.driver with
        | none => (p, .nullDriver)
        | some d =>
            match d.apply keeps accepts request with
            | none => (p, .error request.refused)
            | some d => ({ p with driver := some d }, .success ())

/-! ## The connection -/

def Port.closeConnection (p : Port) : Port := { p with driver := none }

/-- The settings with which `connectIt` connects. -/
def Port.initial (p : Port) : Settings := { Settings.new with baudrate := p.baudrate, latency := p.latency }

def Port.name (p : Port) : String := toString p.vendor ++ ":" ++ toString p.product

def connectIt (keeps : Keeps) (p : Port) (a : ConnectAnswers) : Port × Reply Unit :=
  if p.driver.isSome then (p, .error (some (p.name ++ ": Link already open!")))
  else
    match p.initial.connectFTDI keeps a with
    | none => (p.closeConnection, .error (some ("Can't connect to " ++ p.name)))
    | some d => ({ p with driver := some d }, .success ())

inductive DriverStatus
  | success
  | timeout
  | error
  deriving DecidableEq, Repr

/-- The connection that a read or a write needs, and what is done with it. -/
def connected (keeps : Keeps) (p : Port) (a : ConnectAnswers) (io : Port → Port) : Port :=
  if p.driver.isSome then io p
  else
    let opened := connectIt keeps p a
    match opened.2 with
    | .success () => io opened.1
    -- `connectIt` has failed, and its status is returned.
    | _ => opened.1

/-- `writeIt`: any failure closes the connection. -/
def writeIt (keeps : Keeps) (p : Port) (numchars : Nat) (a : ConnectAnswers) (status : DriverStatus) : Port :=
  connected keeps p a fun p =>
    if numchars = 0 then p else if status ≠ .success then p.closeConnection else p

/-- `readIt`: a timeout leaves the connection open. -/
def readIt (keeps : Keeps) (p : Port) (maxchars : Nat) (a : ConnectAnswers) (status : DriverStatus) : Port :=
  connected keeps p a fun p =>
    if maxchars = 0 then p else if status = .error then p.closeConnection else p

end FTDIPort
end Serial
end AsynDriver
