import AsynDriver.Miscellaneous.InterposeCom

/-!
# The COM-PORT options of `asynInterposeCom.c`

`setOption` and `getOption` of the layer, with the sub-negotiation of RFC 2217 that they use.

* `nextChar`, `expectChars`, `sbComPortOption` — the request is escaped and written, and the reply is
  read from the bytes that the server has sent.
* `Setting` — what `setOption` makes of its texts `key` and `val`: the key, and what `sscanf` or the
  comparisons find in `val`.
* `OptionError.text` — what `errorMessage` says.

A write of the lower driver succeeds, and a read delivers the next byte, or fails when there is none.
The warnings with which `crtscts` and `ixon` succeed are left out.
-/

namespace AsynDriver
namespace Miscellaneous

open Manager (AsynStatus)

/-- `C_SB`. -/
def cSb : UInt8 := 250

/-- `C_SE`. -/
def cSe : UInt8 := 240

/-- `SB_COM_PORT_OPTION`. -/
def comPort : UInt8 := 44

/-- `CPO_SERVER_NOTIFY_LINESTATE`. -/
def cpoServerNotifyLinestate : UInt8 := 106

/-- `CPO_SERVER_NOTIFY_MODEMSTATE`. -/
def cpoServerNotifyModemstate : UInt8 := 107

/-- `CPO_SET_BAUDRATE`, `CPO_SET_DATASIZE`, `CPO_SET_PARITY`, `CPO_SET_STOPSIZE` and
`CPO_SET_CONTROL`. -/
inductive ComCommand
  | setBaudrate
  | setDatasize
  | setParity
  | setStopsize
  | setControl
  deriving DecidableEq, Repr

def ComCommand.code : ComCommand → UInt8
  | .setBaudrate => 1
  | .setDatasize => 2
  | .setParity => 3
  | .setStopsize => 4
  | .setControl => 5

inductive Parity
  | none
  | odd
  | even
  | mark
  | space
  deriving DecidableEq, Repr

/-- `CPO_PARITY_NONE` and so on. -/
def Parity.code : Parity → UInt8
  | .none => 1
  | .odd => 2
  | .even => 3
  | .mark => 4
  | .space => 5

/-- `CPO_CONTROL_NOFLOW`. -/
def cpoControlNoflow : UInt8 := 1

/-- `CPO_CONTROL_IXON`. -/
def cpoControlIxon : UInt8 := 2

/-- `CPO_CONTROL_HWFLOW`. -/
def cpoControlHwflow : UInt8 := 3

/-- `CPO_CONTROL_BREAK_ON`. -/
def cpoControlBreakOn : UInt8 := 5

/-- `CPO_CONTROL_BREAK_OFF`. -/
def cpoControlBreakOff : UInt8 := 6

/-- Why a call fails. -/
inductive OptionError
  | eof
  | expected (expect got : UInt8)
  | gotReply (sent : UInt8) (got : Option UInt8)
  | badNumber
  | invalidParity
  | badStop
  | badValue
  | badOptionValue
  | triedBaud (baud actual : Int32)
  | triedBits (bits : Int32) (actual : UInt8)
  | triedStop (stop actual : UInt8)
  | cantHandle (key : String)
  | unknownFlow (flow : UInt8)
  | tooSmall (key : String)
  | lower (status : AsynStatus)
  deriving DecidableEq, Repr

/-- The format `%#X`. -/
def hexText (c : UInt8) : String :=
  if c = 0 then "0" else "0X" ++ (String.ofList (Nat.toDigits 16 c.toNat)).toUpper

/-- What the call puts into `errorMessage`: nothing when a read has failed, and what the lower driver
has put there when that refuses an option. -/
def OptionError.text : OptionError → Option String
  | .eof => none
  | .expected expect got => some ("Expected " ++ hexText expect ++ ", got " ++ hexText got)
  | .gotReply sent got =>
      let reply := match got with
        | none => "-1"
        | some c => toString c
      some ("Sent COM-PORT-OPTION " ++ toString sent ++ " but got reply " ++ reply)
  | .badNumber => some "Bad number"
  | .invalidParity => some "Invalid parity selection"
  | .badStop => some "Bad  stop bit count"
  | .badValue => some "Bad  value"
  | .badOptionValue => some "Bad option value"
  | .triedBaud baud actual =>
      some ("Tried to set " ++ toString baud ++ " baud, actually set " ++ toString actual ++ " baud.")
  | .triedBits bits actual =>
      some ("Tried to set " ++ toString bits ++ " bits, actually set " ++ toString actual ++ " bits.")
  | .triedStop stop actual =>
      some ("Tried to set " ++ toString stop ++ " stop bits, actually set " ++ toString actual ++
        " stop bits.")
  | .cantHandle key => some ("Can't handle option \"" ++ key ++ "\"")
  | .unknownFlow flow => some ("Unknown flow control code " ++ hexText flow)
  | .tooSmall key => some ("Value buffer for key '" ++ key ++ "' is too small.")
  | .lower _ => none

/-! ## The sub-negotiation -/

/-- A part of the stream has been read, with some result. -/
abbrev ComResult (α : Type) := Except OptionError α × List UInt8

/-- The calls of `expectChar` joined by `||`. -/
def expectChars : List UInt8 → List UInt8 → ComResult Unit
  | [], stream => (.ok (), stream)
  | _ :: _, [] => (.error .eof, [])
  | expect :: others, c :: stream =>
      if c = expect then expectChars others stream else (.error (.expected expect c), stream)

/-- The inner loop: what follows the next `IAC`. -/
def skipToIac : List UInt8 → Option (List UInt8)
  | [] => none
  | c :: stream => if c = cIac then some stream else skipToIac stream

/-- The outer loop: notifications are skipped, and `n` bytes of the reply to `command` are read.  Each
round reads a byte, so that `fuel` is not used up when it exceeds the length of the stream. -/
def awaitReply (command : UInt8) (n : Nat) : Nat → List UInt8 → ComResult (List UInt8)
  | 0, stream => (.error .eof, stream)
  | fuel + 1, stream =>
      match skipToIac stream with
      | none => (.error .eof, [])
      | some stream =>
          match expectChars [cSb, comPort] stream with
          | (.error e, stream) => (.error e, stream)
          | (.ok (), []) => (.error (.gotReply command none), [])
          | (.ok (), c :: stream) =>
              if c = cpoServerNotifyLinestate ∨ c = cpoServerNotifyModemstate then
                match stream with
                | [] => (.error .eof, [])
                | _ :: stream =>
                    match expectChars [cIac, cSe] stream with
                    | (.error e, stream) => (.error e, stream)
                    | (.ok (), stream) => awaitReply command n fuel stream
              else if c = command + 100 then
                if stream.length < n then (.error .eof, [])
                else
                  match expectChars [cIac, cSe] (stream.drop n) with
                  | (.error e, rest) => (.error e, rest)
                  | (.ok (), rest) => (.ok (stream.take n), rest)
              else (.error (.gotReply command (some c)), stream)

/-- The bytes of `xBuf`, every `IAC` doubled. -/
def stuffOption : List UInt8 → List UInt8
  | [] => []
  | c :: rest => if c = cIac then c :: cIac :: stuffOption rest else c :: stuffOption rest

/-- `cbuf`: the request that `sbComPortOption` writes. -/
def comPortRequest (xBuf : List UInt8) : List UInt8 :=
  [cIac, cSb, comPort] ++ stuffOption xBuf ++ [cIac, cSe]

/-- `sbComPortOption` with the `xBuf` of a command and its value; `stream` is unread, and `answer` is
what the server sends when it gets these bytes. -/
def sbComPortOption (answer : List UInt8 → List UInt8) (command : UInt8) (value : List UInt8)
    (stream : List UInt8) : ComResult (List UInt8) :=
  let stream := stream ++ answer (comPortRequest (command :: value))
  awaitReply command value.length (stream.length + 1) stream

/-! ## The options -/

/-- The members of `interposePvt` that describe the line, and the bytes that have not been read. -/
structure ComPort where
  baud : Int32
  parity : UInt8
  bits : Int32
  stop : Int32
  flow : UInt8
  breakActive : Bool
  stream : List UInt8
  deriving Repr

inductive StopValue
  | one
  | two
  | other
  deriving DecidableEq, Repr

/-- The value of `break`: a text that is neither `on` nor `off` is a time, and may be empty. -/
inductive BreakValue
  | on
  | off
  | badNumber
  | pulse
  deriving DecidableEq, Repr

/-- A key and its value; `none` is a value that does not scan or is not one of the texts for this
key.  Any other key goes to the lower driver, if that has options. -/
inductive Setting
  | baud (b : Option Int32)
  | bits (b : Option Int32)
  | parity (val : Option Parity)
  | stop (b : Option StopValue)
  | crtscts (y : Option Bool)
  | ixon (y : Option Bool)
  | breakLine (val : BreakValue)
  | other (key : String) (lower : Option AsynStatus)
  deriving DecidableEq, Repr

/-- `xBuf[1]` to `xBuf[4]` of a baud rate. -/
def baudBytes (baud : UInt32) : List UInt8 :=
  [(baud >>> 24).toUInt8, (baud >>> 16).toUInt8, (baud >>> 8).toUInt8, baud.toUInt8]

/-- The baud rate in `rBuf`. -/
def baudOf : List UInt8 → UInt32
  | [r₀, r₁, r₂, r₃] =>
      r₀.toUInt32 <<< 24 ||| r₁.toUInt32 <<< 16 ||| r₂.toUInt32 <<< 8 ||| r₃.toUInt32
  | _ => 0

/-- The exchange with the server, and what is done with `rBuf` after a success. -/
def ComPort.exchange (pinterposePvt : ComPort) (answer : List UInt8 → List UInt8)
    (command : ComCommand) (value : List UInt8)
    (accept : List UInt8 → ComPort → Except OptionError Unit × ComPort) :
    Except OptionError Unit × ComPort :=
  match sbComPortOption answer command.code value pinterposePvt.stream with
  | (.error e, stream) => (.error e, { pinterposePvt with stream := stream })
  | (.ok rBuf, stream) => accept rBuf { pinterposePvt with stream := stream }

def setBaud (answer : List UInt8 → List UInt8) (pinterposePvt : ComPort) (b : Int32) :
    Except OptionError Unit × ComPort :=
  pinterposePvt.exchange answer .setBaudrate (baudBytes b.toUInt32) fun rBuf pinterposePvt =>
    let pinterposePvt := { pinterposePvt with baud := (baudOf rBuf).toInt32 }
    if pinterposePvt.baud ≠ b then (.error (.triedBaud b pinterposePvt.baud), pinterposePvt)
    else (.ok (), pinterposePvt)

def setBits (answer : List UInt8 → List UInt8) (pinterposePvt : ComPort) (b : Int32) :
    Except OptionError Unit × ComPort :=
  pinterposePvt.exchange answer .setDatasize [b.toUInt32.toUInt8] fun rBuf pinterposePvt =>
    let actual := rBuf.headD 0
    let pinterposePvt := { pinterposePvt with bits := actual.toUInt32.toInt32 }
    if pinterposePvt.bits ≠ b then (.error (.triedBits b actual), pinterposePvt)
    else (.ok (), pinterposePvt)

def setParity (answer : List UInt8 → List UInt8) (pinterposePvt : ComPort) (val : Parity) :
    Except OptionError Unit × ComPort :=
  pinterposePvt.exchange answer .setParity [val.code] fun rBuf pinterposePvt =>
    (.ok (), { pinterposePvt with parity := rBuf.headD 0 })

def setStop (answer : List UInt8 → List UInt8) (pinterposePvt : ComPort) (b : UInt8) :
    Except OptionError Unit × ComPort :=
  pinterposePvt.exchange answer .setStopsize [b] fun rBuf pinterposePvt =>
    let actual := rBuf.headD 0
    let pinterposePvt := { pinterposePvt with stop := actual.toUInt32.toInt32 }
    if actual ≠ b then (.error (.triedStop b actual), pinterposePvt) else (.ok (), pinterposePvt)

/-- `crtscts` and `ixon`. -/
def setFlow (answer : List UInt8 → List UInt8) (pinterposePvt : ComPort) (flow : UInt8) :
    Except OptionError Unit × ComPort :=
  pinterposePvt.exchange answer .setControl [flow] fun rBuf pinterposePvt =>
    (.ok (), { pinterposePvt with flow := rBuf.headD 0 })

def setBreak (answer : List UInt8 → List UInt8) (pinterposePvt : ComPort) (control : UInt8) :
    Except OptionError Unit × ComPort :=
  pinterposePvt.exchange answer .setControl [control] fun rBuf pinterposePvt =>
    (.ok (), { pinterposePvt with breakActive := rBuf.headD 0 == cpoControlBreakOn })

/-- `break`: the line is switched on unless it is on, and off where the value asks for it. -/
def breakLine (answer : List UInt8 → List UInt8) (pinterposePvt : ComPort) (on off : Bool) :
    Except OptionError Unit × ComPort :=
  let switchOff (pinterposePvt : ComPort) :=
    if off then setBreak answer pinterposePvt cpoControlBreakOff else (.ok (), pinterposePvt)
  if on then
    match setBreak answer pinterposePvt cpoControlBreakOn with
    | (.error e, pinterposePvt) => (.error e, pinterposePvt)
    | (.ok (), pinterposePvt) => switchOff pinterposePvt
  else switchOff pinterposePvt

/-- `setOption`. -/
def setOption (answer : List UInt8 → List UInt8) (pinterposePvt : ComPort) :
    Setting → Except OptionError Unit × ComPort
  | .baud none => (.error .badNumber, pinterposePvt)
  | .baud (some b) => setBaud answer pinterposePvt b
  | .bits none => (.error .badNumber, pinterposePvt)
  | .bits (some b) => setBits answer pinterposePvt b
  | .parity none => (.error .invalidParity, pinterposePvt)
  | .parity (some val) => setParity answer pinterposePvt val
  | .stop none => (.error .badNumber, pinterposePvt)
  | .stop (some .other) => (.error .badStop, pinterposePvt)
  | .stop (some .one) => setStop answer pinterposePvt 1
  | .stop (some .two) => setStop answer pinterposePvt 2
  | .crtscts none => (.error .badValue, pinterposePvt)
  | .crtscts (some y) =>
      setFlow answer pinterposePvt (if y then cpoControlHwflow else cpoControlNoflow)
  | .ixon none => (.error .badOptionValue, pinterposePvt)
  | .ixon (some y) =>
      setFlow answer pinterposePvt (if y then cpoControlIxon else cpoControlNoflow)
  | .breakLine .on => breakLine answer pinterposePvt (!pinterposePvt.breakActive) false
  | .breakLine .off => breakLine answer pinterposePvt false pinterposePvt.breakActive
  | .breakLine .badNumber => (.error .badNumber, pinterposePvt)
  | .breakLine .pulse => breakLine answer pinterposePvt (!pinterposePvt.breakActive) true
  | .other key none => (.error (.cantHandle key), pinterposePvt)
  | .other _ (some status) =>
      (if status = .asynSuccess then .ok () else .error (.lower status), pinterposePvt)

/-- The keys of `getOption`, without those that go to the lower driver. -/
inductive OptionKey
  | baud
  | bits
  | parity
  | stop
  | crtscts
  | ixon
  | breakLine
  deriving DecidableEq, Repr

def OptionKey.text : OptionKey → String
  | .baud => "baud"
  | .bits => "bits"
  | .parity => "parity"
  | .stop => "stop"
  | .crtscts => "crtscts"
  | .ixon => "ixon"
  | .breakLine => "break"

/-- The text of a key.  `none` is a parity of which there is no text: `val` is left as it was. -/
def optionText (pinterposePvt : ComPort) : OptionKey → Except OptionError (Option String)
  | .baud => .ok (some (toString pinterposePvt.baud))
  | .bits => .ok (some (toString pinterposePvt.bits))
  | .parity =>
      .ok <|
        if pinterposePvt.parity = Parity.none.code then some "none"
        else if pinterposePvt.parity = Parity.even.code then some "even"
        else if pinterposePvt.parity = Parity.odd.code then some "odd"
        else if pinterposePvt.parity = Parity.mark.code then some "mark"
        else if pinterposePvt.parity = Parity.space.code then some "space"
        else none
  | .stop => .ok (some (toString pinterposePvt.stop))
  | .crtscts =>
      if pinterposePvt.flow = cpoControlNoflow then .ok (some "N")
      else if pinterposePvt.flow = cpoControlIxon then .ok (some "N")
      else if pinterposePvt.flow = cpoControlHwflow then .ok (some "Y")
      else .error (.unknownFlow pinterposePvt.flow)
  | .ixon =>
      if pinterposePvt.flow = cpoControlNoflow then .ok (some "N")
      else if pinterposePvt.flow = cpoControlIxon then .ok (some "Y")
      else if pinterposePvt.flow = cpoControlHwflow then .ok (some "N")
      else .error (.unknownFlow pinterposePvt.flow)
  | .breakLine => .ok (some (if pinterposePvt.breakActive then "on" else "off"))

/-- `getOption` with a buffer of `valSize` bytes. -/
def getOption (pinterposePvt : ComPort) (key : OptionKey) (valSize : Nat) :
    Except OptionError (Option String) :=
  match optionText pinterposePvt key with
  | .error e => .error e
  | .ok none => if valSize = 0 then .error (.tooSmall key.text) else .ok none
  | .ok (some val) =>
      if valSize ≤ val.length then .error (.tooSmall key.text) else .ok (some val)

end Miscellaneous
end AsynDriver
