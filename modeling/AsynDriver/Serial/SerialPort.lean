import AsynDriver.Library.CString
import AsynDriver.Library.Machine
import AsynDriver.Library.Rounding
import AsynDriver.Manager.Types

/-!
# The serial ports of `drvAsynSerialPort.c`

A port keeps the settings of its line in three places: a `termios` structure, a `serial_rs485` structure
and the baud rate.  They are handed to the line by `tcsetattr` and by `ioctl(TIOCSRS485)`.

* `Tty`, `Line`, `State` — the driver's data, and what is in force for the open descriptor.
* `applyOptions`, `setOption`, `getOption` — the options.
* `connectIt`, `disconnect`, `readIt`, `writeIt` — the calls; what the system calls answer is an argument of
  each.
* `machine` — any sequence of calls.

This is the driver on Linux, with RS485 support, and with speed codes that are not the rates.  A failed
system call is given as the text of its `errno`.  A successful one has done what it was asked.  Members of
`termios` that are never changed, the byte counters and the timer are left out; that the timer has expired is
an argument as well.  Timeouts are rational numbers.
-/

namespace AsynDriver
namespace Serial
namespace SerialPort

open Library
open Manager (AsynStatus)

/-- `CS5` to `CS8`. -/
inductive CharSize
  | cs5
  | cs6
  | cs7
  | cs8
  deriving DecidableEq, Repr

/-- The bits of `c_cflag` and `c_iflag`, `VMIN` and `VTIME`.  A speed code stands here as its rate. -/
structure Termios where
  ispeed : Nat
  ospeed : Nat
  csize : CharSize
  cstopb : Bool
  cread : Bool
  parenb : Bool
  parodd : Bool
  clocal : Bool
  crtscts : Bool
  ixon : Bool
  ixany : Bool
  ixoff : Bool
  vmin : Nat
  vtime : Nat
  deriving DecidableEq, Repr

/-- The flags `SER_RS485_ENABLED` and so on. -/
structure Rs485Flags where
  enabled : Bool
  rtsOnSend : Bool
  rtsAfterSend : Bool
  deriving DecidableEq, Repr

/-- `struct serial_rs485`. -/
structure Rs485 where
  flags : Rs485Flags
  delayRtsBeforeSend : UInt32
  delayRtsAfterSend : UInt32
  deriving DecidableEq, Repr

def Rs485.zero : Rs485 := ⟨⟨false, false, false⟩, 0, 0⟩

/-- `ttyController_t`; `isOpen` stands for `fd >= 0`. -/
structure Tty where
  serialDeviceName : String
  isOpen : Bool
  termios : Termios
  rs485 : Rs485
  baud : Int
  readTimeout : Rat
  writeTimeout : Rat
  deriving DecidableEq

/-- What is in force for the descriptor, when it is open. -/
structure Line where
  termios : Termios
  rs485 : Rs485
  nonBlock : Bool
  deriving DecidableEq, Repr

structure State where
  tty : Tty
  line : Line
  deriving DecidableEq

/-- What a system call returns: nothing, or the text of an error. -/
abbrev SystemCall := Option String

/-- What a call returns, and leaves in `errorMessage`. -/
structure Outcome where
  status : AsynStatus
  message : Option String
  state : State
  deriving DecidableEq

/-! ## The options -/

/-- `applyOptions`. -/
def applyOptions (tcsetattr : SystemCall) (s : State) : Outcome :=
  let tty := { s.tty with termios := { s.tty.termios with cread := true } }
  match tcsetattr with
  | some errno => ⟨.asynError, some ("tcsetattr failed: " ++ errno), { s with tty := tty }⟩
  | none => ⟨.asynSuccess, none, ⟨tty, { s.line with termios := tty.termios }⟩⟩

inductive Key
  | baud
  | bits
  | parity
  | stop
  | clocal
  | crtscts
  | ixon
  | ixany
  | ixoff
  | break
  | rs485Enable
  | rs485RtsOnSend
  | rs485RtsAfterSend
  | rs485DelayRtsBeforeSend
  | rs485DelayRtsAfterSend
  deriving DecidableEq, Repr

def Key.find (key : List Char) : Option Key :=
  if caseEq key "baud" then some .baud
  else if caseEq key "bits" then some .bits
  else if caseEq key "parity" then some .parity
  else if caseEq key "stop" then some .stop
  else if caseEq key "clocal" then some .clocal
  else if caseEq key "crtscts" then some .crtscts
  else if caseEq key "ixon" then some .ixon
  else if caseEq key "ixany" then some .ixany
  else if caseEq key "ixoff" then some .ixoff
  else if caseEq key "break" then some .break
  else if caseEq key "rs485_enable" then some .rs485Enable
  else if caseEq key "rs485_rts_on_send" then some .rs485RtsOnSend
  else if caseEq key "rs485_rts_after_send" then some .rs485RtsAfterSend
  else if caseEq key "rs485_delay_rts_before_send" then some .rs485DelayRtsBeforeSend
  else if caseEq key "rs485_delay_rts_after_send" then some .rs485DelayRtsAfterSend
  else none

def unsupportedKey (key : List Char) : String := "Unsupported key \"" ++ String.ofList key ++ "\""

def yesNoText (b : Bool) : List Char := if b then ['Y'] else ['N']

/-- What `epicsSnprintf` writes for a key, before it is cut to the buffer. -/
def optionText (baud : Int) (termios : Termios) (rs485 : Rs485) : Key → List Char
  | .baud => decimal baud
  | .bits =>
      match termios.csize with
      | .cs5 => ['5']
      | .cs6 => ['6']
      | .cs7 => ['7']
      | .cs8 => ['8']
  | .parity =>
      if termios.parenb then if termios.parodd then "odd".toList else "even".toList
      else "none".toList
  | .stop => if termios.cstopb then ['2'] else ['1']
  | .clocal => yesNoText termios.clocal
  | .crtscts => yesNoText termios.crtscts
  | .ixon => yesNoText termios.ixon
  | .ixany => yesNoText termios.ixany
  | .ixoff => yesNoText termios.ixoff
  | .break => "off".toList
  | .rs485Enable => yesNoText rs485.flags.enabled
  | .rs485RtsOnSend => yesNoText rs485.flags.rtsOnSend
  | .rs485RtsAfterSend => yesNoText rs485.flags.rtsAfterSend
  | .rs485DelayRtsBeforeSend => decimal rs485.delayRtsBeforeSend.toNat
  | .rs485DelayRtsAfterSend => decimal rs485.delayRtsAfterSend.toNat

/-- `getOption`: status, `val` and `errorMessage`. -/
def getOption (tty : Tty) (key : List Char) (valSize : Nat) : AsynStatus × List Char × Option String :=
  match Key.find key with
  | none => (.asynError, [], some (unsupportedKey key))
  | some k =>
      let text := optionText tty.baud tty.termios tty.rs485 k
      if text.length ≥ valSize then
        (.asynError, text.take (valSize - 1),
          some ("Value buffer for key '" ++ String.ofList key ++ "' is too small."))
      else (.asynSuccess, text, none)

/-- The rates with a code in `termios.h`. -/
def baudRates : List Nat :=
  [50, 75, 110, 134, 150, 200, 300, 600, 1200, 1800, 2400, 4800, 9600, 19200, 38400, 57600, 115200, 230400,
    460800, 500000, 576000, 921600, 1000000, 1152000, 1500000, 2000000, 2500000, 3000000, 3500000, 4000000]

/-- The `switch` over the rates. -/
def baudCode (baud : Int) : Option Nat := baudRates.find? fun rate => (rate : Int) = baud

/-- The answers of the system calls in `setOption`. -/
structure SetAnswers where
  cfsetispeed : SystemCall
  cfsetospeed : SystemCall
  tcsetattr : SystemCall
  tiocsrs485 : SystemCall
  tcsendbreak : SystemCall
  deriving DecidableEq, Repr

/-- What the branch of a key does: `setOption` returns from it, or goes on to apply the settings. -/
inductive Change
  | returned (status : AsynStatus) (message : Option String) (tty : Tty)
  | stored (tty : Tty) (rs485Changed : Bool)
  deriving DecidableEq

def Change.refused (tty : Tty) (message : String) : Change := .returned .asynError (some message) tty

/-- A branch with the values `Y` and `N`. -/
def setYesNo (tty : Tty) (val : List Char) (message : String) (rs485Changed : Bool)
    (set : Bool → Tty) : Change :=
  if caseEq val "Y" then .stored (set true) rs485Changed
  else if caseEq val "N" then .stored (set false) rs485Changed
  else .refused tty message

/-- A branch with an RS485 delay. -/
def setDelay (tty : Tty) (val : List Char) (set : UInt32 → Tty) : Change :=
  match scanUnsigned32 val with
  | none => .refused tty "Bad number"
  | some delay => .stored (set delay) true

def setBaud (r : SetAnswers) (tty : Tty) (val : List Char) : Change :=
  match scanInt32 val with
  | none => .refused tty "Bad number"
  | some baud =>
      match baudCode baud with
      | none => .refused tty ("Unsupported data rate (" ++ toString baud ++ " baud)")
      | some code =>
          match r.cfsetispeed with
          | some errno => .refused tty ("cfsetispeed returned " ++ errno)
          | none =>
              -- `cfsetispeed` has written the structure before `cfsetospeed` can fail.
              let tty := { tty with termios := { tty.termios with ispeed := code } }
              match r.cfsetospeed with
              | some errno => .refused tty ("cfsetospeed returned " ++ errno)
              | none =>
                  .stored
                    { tty with termios := { tty.termios with ospeed := code }, baud := baud } false

def setBits (tty : Tty) (val : List Char) : Change :=
  let set (size : CharSize) : Change :=
    .stored { tty with termios := { tty.termios with csize := size } } false
  if caseEq val "5" then set .cs5
  else if caseEq val "6" then set .cs6
  else if caseEq val "7" then set .cs7
  else if caseEq val "8" then set .cs8
  else .refused tty "Invalid number of bits."

def setParity (tty : Tty) (val : List Char) : Change :=
  if caseEq val "none" then
    .stored { tty with termios := { tty.termios with parenb := false } } false
  else if caseEq val "even" then
    .stored { tty with termios := { tty.termios with parenb := true, parodd := false } } false
  else if caseEq val "odd" then
    .stored { tty with termios := { tty.termios with parenb := true, parodd := true } } false
  else .refused tty "Invalid parity."

def setStop (tty : Tty) (val : List Char) : Change :=
  if caseEq val "1" then .stored { tty with termios := { tty.termios with cstopb := false } } false
  else if caseEq val "2" then .stored { tty with termios := { tty.termios with cstopb := true } } false
  else .refused tty "Invalid number of stop bits."

/-- A break is sent at once; nothing is stored. -/
def sendBreak (r : SetAnswers) (tty : Tty) (val : List Char) : Change :=
  let send : Change :=
    match r.tcsendbreak with
    | some errno => .refused tty (tty.serialDeviceName ++ " tcsendbreak failed: " ++ errno)
    | none => .returned .asynSuccess none tty
  if val = [] ∨ caseEq val "on" then send
  else if caseEq val "off" then .returned .asynSuccess none tty
  else
    -- The number is handed to `tcsendbreak` as the length.
    match scanUnsigned32 val with
    | none => .refused tty "Bad number"
    | some _ => send

/-- `rs485_enable` with `N` clears the other flags as well. -/
def setRs485Enable (rs485 : Rs485) (yes : Bool) : Rs485 :=
  if yes then { rs485 with flags := { rs485.flags with enabled := true } }
  else { rs485 with flags := ⟨false, false, false⟩ }

def setKey (r : SetAnswers) (tty : Tty) (val : List Char) : Key → Change
  | .baud => setBaud r tty val
  | .bits => setBits tty val
  | .parity => setParity tty val
  | .stop => setStop tty val
  | .clocal =>
      setYesNo tty val "Invalid clocal value." false fun yes =>
        { tty with termios := { tty.termios with clocal := yes } }
  | .crtscts =>
      setYesNo tty val "Invalid crtscts value." false fun yes =>
        { tty with termios := { tty.termios with crtscts := yes } }
  | .ixon =>
      setYesNo tty val "Invalid ixon value." false fun yes =>
        { tty with termios := { tty.termios with ixon := yes } }
  | .ixany =>
      setYesNo tty val "Invalid ixany value." false fun yes =>
        { tty with termios := { tty.termios with ixany := yes } }
  | .ixoff =>
      setYesNo tty val "Invalid ixoff value." false fun yes =>
        { tty with termios := { tty.termios with ixoff := yes } }
  | .break => sendBreak r tty val
  | .rs485Enable =>
      setYesNo tty val "Invalid rs485_enable value." true fun yes =>
        { tty with rs485 := setRs485Enable tty.rs485 yes }
  | .rs485RtsOnSend =>
      setYesNo tty val "Invalid rs485_rts_on_send value." true fun yes =>
        { tty with rs485 := { tty.rs485 with flags := { tty.rs485.flags with rtsOnSend := yes } } }
  -- The text of this error names the option above.
  | .rs485RtsAfterSend =>
      setYesNo tty val "Invalid rs485_rts_on_send value." true fun yes =>
        { tty with rs485 := { tty.rs485 with flags := { tty.rs485.flags with rtsAfterSend := yes } } }
  | .rs485DelayRtsBeforeSend =>
      setDelay tty val fun delay =>
        { tty with rs485 := { tty.rs485 with delayRtsBeforeSend := delay } }
  | .rs485DelayRtsAfterSend =>
      setDelay tty val fun delay =>
        { tty with rs485 := { tty.rs485 with delayRtsAfterSend := delay } }

/-- The empty key stores nothing, and the settings are applied. -/
def changeOption (r : SetAnswers) (tty : Tty) (key val : List Char) : Change :=
  match Key.find key with
  | some k => setKey r tty val k
  | none => if key = [] then .stored tty false else .refused tty (unsupportedKey key)

/-- The lines of `setOption` behind the branches; `s` is the state before them. -/
def applyChange (r : SetAnswers) (s : State) (tty : Tty) (rs485Changed : Bool) : Outcome :=
  if tty.isOpen then
    let applied := applyOptions r.tcsetattr { s with tty := tty }
    let new := applied.state
    if applied.status ≠ .asynSuccess then
      -- The RS485 settings are not restored here.
      { applied with
        status := .asynError
        state := { new with tty := { new.tty with baud := s.tty.baud, termios := s.tty.termios } } }
    else if rs485Changed then
      match r.tiocsrs485 with
      | some errno =>
          ⟨.asynError, some ("ioctl TIOCSRS485 failed: " ++ errno),
            { new with tty := { new.tty with rs485 := s.tty.rs485 } }⟩
      | none => ⟨.asynSuccess, none, { new with line := { new.line with rs485 := new.tty.rs485 } }⟩
    else ⟨.asynSuccess, none, new⟩
  else ⟨.asynSuccess, none, { s with tty := tty }⟩

def setOption (r : SetAnswers) (s : State) (key val : List Char) : Outcome :=
  match changeOption r s.tty key val with
  | .returned status message tty => ⟨status, message, { s with tty := tty }⟩
  | .stored tty rs485Changed => applyChange r s tty rs485Changed

/-! ## Connections -/

/-- The answers of the system calls in `connectIt`; `opened` is the line as `open` finds it. -/
structure ConnectAnswers where
  opened : Except String Line
  setCloexec : SystemCall
  tcsetattr : SystemCall
  setFlags : SystemCall

/-- The cached timeouts after a connect: no timeout that is asked for. -/
def noTimeout : Rat := -1 / 10 ^ 99

def closeConnection (s : State) : State := { s with tty := { s.tty with isOpen := false } }

/-- The result of `applyOptions` is not looked at. -/
def connectIt (r : ConnectAnswers) (s : State) : Outcome :=
  if s.tty.isOpen then ⟨.asynError, some (s.tty.serialDeviceName ++ ": Link already open!"), s⟩
  else
    match r.opened with
    | .error errno => ⟨.asynError, some (s.tty.serialDeviceName ++ " Can't open  " ++ errno), s⟩
    | .ok line =>
        -- `O_NONBLOCK` is set by `open`.
        let opened : State := ⟨{ s.tty with isOpen := true }, { line with nonBlock := true }⟩
        match r.setCloexec with
        | some errno =>
            ⟨.asynError, some ("Can't set " ++ s.tty.serialDeviceName ++ " close-on-exec flag: " ++ errno),
              closeConnection opened⟩
        | none =>
            -- The termios structure is handed to the line, the RS485 settings are not.
            let applied := (applyOptions r.tcsetattr opened).state
            let new : State := { applied with
              tty := { applied.tty with readTimeout := noTimeout, writeTimeout := noTimeout } }
            match r.setFlags with
            | some errno =>
                ⟨.asynError, some ("Can't set " ++ s.tty.serialDeviceName ++ " file flags: " ++ errno),
                  closeConnection new⟩
            | none => ⟨.asynSuccess, none, { new with line := { new.line with nonBlock := false } }⟩

def disconnect (s : State) : Outcome := ⟨.asynSuccess, none, closeConnection s⟩

/-! ## Reading and writing -/

/-- What `read` or `write` gives: characters, `EWOULDBLOCK` or `EAGAIN`, `EINTR`, or another error. -/
inductive Transfer (α : Type)
  | chars (c : α)
  | again
  | interrupted
  | failed (errno : String)
  deriving DecidableEq, Repr

/-- One call of `read` or `write`: whether it has waited for the line, and whether the timer has expired when
`timeoutFlag` is looked at next. -/
structure Answer (α : Type) where
  result : Transfer α
  waited : Bool
  expired : Bool
  deriving DecidableEq, Repr

/-- `fcntl` when the timeout goes from or to 0. -/
def updateFlags (setFlags : SystemCall) (cached timeout : Rat) (s : State) : Except String State :=
  if timeout = 0 ∨ cached = 0 then
    match setFlags with
    | some errno =>
        .error ("Can't set " ++ s.tty.serialDeviceName ++ " file flags: " ++ errno)
    | none => .ok { s with line := { s.line with nonBlock := timeout = 0 } }
  else .ok s

/-- `writeIt` up to its loop. -/
def prepareWrite (setFlags : SystemCall) (timeout : Rat) (s : State) : Except String State :=
  if s.tty.writeTimeout = timeout then .ok s
  else
    match updateFlags setFlags s.tty.writeTimeout timeout s with
    | .error message => .error message
    | .ok s => .ok { s with tty := { s.tty with writeTimeout := timeout } }

/-- `VMIN` and `VTIME` for a timeout in seconds. -/
def timeoutChars (timeout : Rat) : Nat × Nat :=
  if 0 < timeout then
    let t := toInt32 (roundDouble (roundDouble (timeout * 10) + 1))
    -- `VTIME` is one byte of tenths of a second.
    (0, ((if t > 255 then 255 else t) % 256).toNat)
  else if timeout = 0 then (0, 0)
  else (1, 0)

def setTermiosTimeout (timeout : Rat) (termios : Termios) : Termios :=
  { termios with vmin := (timeoutChars timeout).1, vtime := (timeoutChars timeout).2 }

/-- `readIt` up to its loop.  When `tcsetattr` fails the termios structure has been changed. -/
def prepareRead (setFlags tcsetattr : SystemCall) (timeout : Rat) (s : State) :
    Except (String × State) State :=
  if s.tty.readTimeout = timeout then .ok s
  else
    match updateFlags setFlags s.tty.readTimeout timeout s with
    | .error message => .error (message, s)
    | .ok s =>
        let s := { s with tty := { s.tty with termios := setTermiosTimeout timeout s.tty.termios } }
        match tcsetattr with
        | some errno =>
            .error ("Can't set \"" ++ s.tty.serialDeviceName ++ "\" c_cc[VTIME]: " ++ errno, s)
        | none =>
            .ok ⟨{ s.tty with readTimeout := timeout }, { s.line with termios := s.tty.termios }⟩

structure WriteOutcome where
  outcome : Outcome
  nbytesTransferred : Nat
  deriving DecidableEq

/-- `nleft` behind one call of `write`. -/
def nleftAfter (nleft : Nat) : Transfer Nat → Nat
  | .chars n => nleft - n
  | _ => nleft

/-- The loop of `writeIt`: status, what is left, and the state; `none` while it goes on. -/
def writeLoop (s : State) (timeoutFlag : Bool) : Nat → List (Answer Nat) → Option (Outcome × Nat)
  | _, [] => none
  | nleft, a :: answers =>
      let timeoutFlag := timeoutFlag || a.expired
      let nleft' := nleftAfter nleft a.result
      if nleft' = 0 ∧ 0 < nleft then some (⟨.asynSuccess, none, s⟩, 0)
      -- The time limit is looked at before the result: an error behind it is a timeout.
      else if timeoutFlag ∨ s.tty.writeTimeout = 0 then some (⟨.asynTimeout, none, s⟩, nleft')
      else
        match a.result with
        | .failed errno =>
            some (⟨.asynError, some (s.tty.serialDeviceName ++ " write error: " ++ errno),
              closeConnection s⟩, nleft')
        | _ => writeLoop s timeoutFlag nleft' answers

structure WriteAnswers where
  setFlags : SystemCall
  writes : List (Answer Nat)
  deriving DecidableEq, Repr

def disconnectedMessage (s : State) : String := s.tty.serialDeviceName ++ " disconnected:"

def writeIt (r : WriteAnswers) (timeout : Rat) (numchars : Nat) (s : State) : Option WriteOutcome :=
  if s.tty.isOpen = false then some ⟨⟨.asynError, some (disconnectedMessage s), s⟩, 0⟩
  else if numchars = 0 then some ⟨⟨.asynSuccess, none, s⟩, 0⟩
  else
    match prepareWrite r.setFlags timeout s with
    | .error message => some ⟨⟨.asynError, some message, closeConnection s⟩, 0⟩
    | .ok s =>
        (writeLoop s false numchars r.writes).map fun (outcome, nleft) => ⟨outcome, numchars - nleft⟩

structure ReadOutcome where
  outcome : Outcome
  data : List UInt8
  eomCnt : Bool
  deriving DecidableEq

/-- The loop of `readIt`: status, data, and the state; `none` while it goes on. -/
def readLoop (s : State) (timeoutFlag : Bool) : List (Answer (List UInt8)) → Option (Outcome × List UInt8)
  | [] => none
  | a :: answers =>
      let timeoutFlag := timeoutFlag || a.expired
      let nothing : Option (Outcome × List UInt8) :=
        if timeoutFlag ∨ s.tty.readTimeout = 0 then some (⟨.asynTimeout, none, s⟩, [])
        else readLoop s timeoutFlag answers
      match a.result with
      | .chars [] => nothing
      | .chars (c :: data) =>
          let status := if timeoutFlag then .asynTimeout else .asynSuccess
          some (⟨status, none, s⟩, c :: data)
      | .again => nothing
      | .interrupted => nothing
      | .failed errno =>
          some (⟨.asynError, some (s.tty.serialDeviceName ++ " read error: " ++ errno),
            closeConnection s⟩, [])

structure ReadAnswers where
  setFlags : SystemCall
  tcsetattr : SystemCall
  reads : List (Answer (List UInt8))
  deriving DecidableEq, Repr

def readIt (r : ReadAnswers) (timeout : Rat) (maxchars : Nat) (s : State) : Option ReadOutcome :=
  if s.tty.isOpen = false then some ⟨⟨.asynError, some (disconnectedMessage s), s⟩, [], false⟩
  else if maxchars = 0 then
    some ⟨⟨.asynError, some (s.tty.serialDeviceName ++ " maxchars 0 Why <=0?"), s⟩, [], false⟩
  else
    match prepareRead r.setFlags r.tcsetattr timeout s with
    | .error (message, s) => some ⟨⟨.asynError, some message, closeConnection s⟩, [], false⟩
    | .ok s =>
        (readLoop s false r.reads).map fun (outcome, data) => ⟨outcome, data, data.length ≥ maxchars⟩

/-! ## What reading and writing leave -/

variable {s s' : State} {timeout : Rat}

/-- Whether the timeout and the cached one are on two sides of 0. -/
theorem updateFlags_ok {setFlags : SystemCall} {cached : Rat}
    (hupdate : updateFlags setFlags cached timeout s = .ok s') :
    s' = { s with line := { s.line with
      nonBlock := if timeout = 0 ∨ cached = 0 then decide (timeout = 0) else s.line.nonBlock } } := by
  unfold updateFlags at hupdate
  split at hupdate
  · next hset =>
      split at hupdate
      · exact nomatch hupdate
      · cases hupdate
        rw [if_pos hset]
  · next hset =>
      cases hupdate
      rw [if_neg hset]

/-- The mode with which an operation runs. -/
def modeFor (cached timeout : Rat) (nonBlock : Bool) : Bool :=
  if cached = timeout then nonBlock
  else if timeout = 0 ∨ cached = 0 then decide (timeout = 0) else nonBlock

theorem prepareWrite_ok {setFlags : SystemCall} (hprepare : prepareWrite setFlags timeout s = .ok s') :
    s' = ⟨{ s.tty with writeTimeout := timeout },
      { s.line with nonBlock := modeFor s.tty.writeTimeout timeout s.line.nonBlock }⟩ := by
  unfold prepareWrite at hprepare
  unfold modeFor
  split at hprepare
  · next hcached =>
      cases hprepare
      rw [if_pos hcached, ← hcached]
  · next hcached =>
      split at hprepare
      · exact nomatch hprepare
      · next s₁ hupdate =>
          cases hprepare
          rw [if_neg hcached, updateFlags_ok hupdate]

/-- A read with the cached timeout changes nothing. -/
theorem prepareRead_ok {setFlags tcsetattr : SystemCall}
    (hprepare : prepareRead setFlags tcsetattr timeout s = .ok s') :
    (s.tty.readTimeout = timeout ∧ s' = s) ∨
      (s.tty.readTimeout ≠ timeout ∧
        s' = ⟨{ s.tty with
            termios := setTermiosTimeout timeout s.tty.termios
            readTimeout := timeout },
          { s.line with
            termios := setTermiosTimeout timeout s.tty.termios
            nonBlock := modeFor s.tty.readTimeout timeout s.line.nonBlock }⟩) := by
  unfold prepareRead at hprepare
  split at hprepare
  · next hcached =>
      cases hprepare
      exact .inl ⟨hcached, rfl⟩
  · next hcached =>
      refine .inr ⟨hcached, ?_⟩
      unfold modeFor
      split at hprepare
      · exact nomatch hprepare
      -- `updateFlags` writes the mode of the line only, so that `s₁` has the settings of `s`.
      · next s₁ hupdate =>
          have hs₁ := updateFlags_ok hupdate
          simp only at hprepare
          split at hprepare
          · exact nomatch hprepare
          · cases hprepare
            rw [if_neg hcached, hs₁]

theorem prepareRead_error {setFlags tcsetattr : SystemCall} {message : String}
    (hprepare : prepareRead setFlags tcsetattr timeout s = .error (message, s')) :
    s'.tty.baud = s.tty.baud ∧ s'.tty.termios.ispeed = s.tty.termios.ispeed ∧
      s'.tty.termios.ospeed = s.tty.termios.ospeed := by
  unfold prepareRead at hprepare
  split at hprepare
  · exact nomatch hprepare
  · split at hprepare
    · cases hprepare
      exact ⟨rfl, rfl, rfl⟩
    · next s₁ hupdate =>
        have hs₁ := updateFlags_ok hupdate
        simp only at hprepare
        split at hprepare
        · cases hprepare
          rw [hs₁]
          exact ⟨rfl, rfl, rfl⟩
        · exact nomatch hprepare

/-- The loops leave the state as it is, or close the connection. -/
theorem writeLoop_state {timeoutFlag : Bool} {nleft : Nat} {answers : List (Answer Nat)}
    {result : Outcome × Nat} (hloop : writeLoop s timeoutFlag nleft answers = some result) :
    result.1.state = s ∨ result.1.state = closeConnection s := by
  -- On the answers: no turn writes the state before the loop is left.
  induction answers generalizing timeoutFlag nleft with
  | nil => exact nomatch hloop
  | cons a answers ih =>
      unfold writeLoop at hloop
      simp only at hloop
      split at hloop
      · cases hloop
        exact .inl rfl
      · split at hloop
        · cases hloop
          exact .inl rfl
        · split at hloop
          · cases hloop
            exact .inr rfl
          · exact ih hloop

theorem readLoop_state {timeoutFlag : Bool} {answers : List (Answer (List UInt8))}
    {result : Outcome × List UInt8} (hloop : readLoop s timeoutFlag answers = some result) :
    result.1.state = s ∨ result.1.state = closeConnection s := by
  induction answers generalizing timeoutFlag with
  | nil => exact nomatch hloop
  | cons a answers ih =>
      -- Three of the results go the same way on.
      have hnothing : (if (timeoutFlag || a.expired) = true ∨ s.tty.readTimeout = 0 then
          some ((⟨.asynTimeout, none, s⟩ : Outcome), ([] : List UInt8))
          else readLoop s (timeoutFlag || a.expired) answers) = some result →
          result.1.state = s ∨ result.1.state = closeConnection s := by
        intro hnothing
        split at hnothing
        · cases hnothing
          exact .inl rfl
        · exact ih hnothing
      unfold readLoop at hloop
      simp only at hloop
      split at hloop
      · exact hnothing hloop
      · cases hloop
        exact .inl rfl
      · exact hnothing hloop
      · exact hnothing hloop
      · cases hloop
        exact .inr rfl

/-! ## Runs -/

inductive Action
  | setOption (r : SetAnswers) (key val : List Char)
  | connect (r : ConnectAnswers)
  | disconnect
  | write (r : WriteAnswers) (timeout : Rat) (numchars : Nat)
  | read (r : ReadAnswers) (timeout : Rat) (maxchars : Nat)

def step (s : State) : Action → Option State
  | .setOption r key val => some (setOption r s key val).state
  | .connect r => some (connectIt r s).state
  | .disconnect => some (disconnect s).state
  | .write r timeout numchars => (writeIt r timeout numchars s).map fun w => w.outcome.state
  | .read r timeout maxchars => (readIt r timeout maxchars s).map fun w => w.outcome.state

/-- The defaults of `drvAsynSerialPortConfigure`. -/
def configured (serialDeviceName : String) : Tty where
  serialDeviceName := serialDeviceName
  isOpen := false
  termios :=
    { ispeed := 9600, ospeed := 9600, csize := .cs8, cstopb := false, cread := true, parenb := false,
      parodd := false, clocal := true, crtscts := false, ixon := false, ixany := false, ixoff := false,
      vmin := 0, vtime := 0 }
  rs485 := .zero
  baud := 9600
  readTimeout := 0
  writeTimeout := 0

def machine : Machine State Action where
  init := fun s => ∃ name, s.tty = configured name
  step := step

end SerialPort
end Serial
end AsynDriver
