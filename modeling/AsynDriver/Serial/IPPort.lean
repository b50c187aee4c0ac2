import AsynDriver.Library.CString
import AsynDriver.Library.Machine
import AsynDriver.Manager.Types

/-!
# The socket ports of `drvAsynIPPort.c`

A port has one socket at most.  Whether it is connected is known in three places: the descriptor `fd`, the
flags, and the `connected` flag that asynManager keeps for the port.  `hostInfo` can be set again while
the port is in use.

* `Flags`, `TtyController`, `Port` — the driver's data, and with the flag of the manager.
* `parseHostInfo` — what a text for `hostInfo` makes of the port, early returns included.
* `connectIt`, `asynCommonConnect`, `asynCommonDisconnect`, `readIt`, `writeIt`, `setOption` — the calls; what
  the system calls answer is an argument of each.
* `machine` — any sequence of calls.

The address union is kept as a record, for the fields of the other family are not read.  Left out: the
texts of the messages, `flush`, and the cleanup at exit.
-/

namespace AsynDriver
namespace Serial
namespace IPPort

open Library
open Manager (AsynStatus)

abbrev Fd := Nat

inductive SocketType
  | unset
  | stream
  | dgram
  deriving DecidableEq, Repr

inductive Family
  | unspec
  | inet
  | unix
  deriving DecidableEq, Repr

structure FarAddr where
  family : Family
  sinPort : Nat
  sinAddr : Nat
  sunPath : List Char
  deriving DecidableEq, Repr

/-- `FLAG_BROADCAST` and so on. -/
structure Flags where
  broadcast : Bool
  connectPerTransaction : Bool
  shutdown : Bool
  soReuseport : Bool
  needLookup : Bool
  doneLookup : Bool
  deriving DecidableEq, Repr

/-- `isCom` is `none` for `ISCOM_UNKNOWN`, `fd` for `INVALID_SOCKET`. -/
structure TtyController where
  deviceName : List Char
  hostName : Option (List Char)
  socketType : SocketType
  flags : Flags
  isCom : Option Bool
  disconnectOnReadTimeout : Bool
  fd : Option Fd
  nRead : Nat
  nWritten : Nat
  farAddr : FarAddr
  farAddrSize : Nat
  localPort : Nat
  localAddrSize : Nat
  deriving DecidableEq, Repr

/-- `connected` is the flag of asynManager. -/
structure Port where
  tty : TtyController
  connected : Bool
  deriving DecidableEq, Repr

def Flags.zero : Flags := ⟨false, false, false, false, false, false⟩

/-- As `callocMustSucceed` and the lines behind it leave the structure. -/
def TtyController.new : TtyController where
  deviceName := []
  hostName := none
  socketType := .unset
  flags := .zero
  isCom := none
  disconnectOnReadTimeout := false
  fd := none
  nRead := 0
  nWritten := 0
  farAddr := ⟨.unspec, 0, 0, []⟩
  farAddrSize := 0
  localPort := 0
  localAddrSize := 0

/-! ## The manager -/

def exceptionConnect (p : Port) : Port := { p with connected := true }

def exceptionDisconnect (p : Port) : Port := { p with connected := false }

def closeConnection (p : Port) : Port :=
  let q := { p with tty := { p.tty with fd := none } }
  if !p.tty.flags.connectPerTransaction || p.tty.flags.shutdown then exceptionDisconnect q else q

/-! ## `hostInfo` -/

/-- `sizeof(sun_path)`. -/
def sizeofSunPath : Nat := 108

/-- `sizeof(struct sockaddr_in)`. -/
def sizeofSockaddrIn : Nat := 16

def htons (port : Int) : Nat := (port % 65536).toNat

inductive Protocol
  | tcp
  | tcpReuse
  | com
  | http
  | udp
  | udpReuse
  | udpBroadcast
  | udpBroadcastReuse
  deriving DecidableEq, Repr

def Protocol.find (protocol : List Char) : Option Protocol :=
  if protocol = [] ∨ caseEq protocol "tcp" then some .tcp
  else if caseEq protocol "tcp&" then some .tcpReuse
  else if caseEq protocol "com" then some .com
  else if caseEq protocol "http" then some .http
  else if caseEq protocol "udp" then some .udp
  else if caseEq protocol "udp&" then some .udpReuse
  else if caseEq protocol "udp*" then some .udpBroadcast
  else if caseEq protocol "udp*&" then some .udpBroadcastReuse
  else none

def Protocol.socketType : Protocol → SocketType
  | .tcp | .tcpReuse | .com | .http => .stream
  | .udp | .udpReuse | .udpBroadcast | .udpBroadcastReuse => .dgram

def Protocol.flags (flags : Flags) : Protocol → Flags
  | .tcp | .com | .udp => flags
  | .tcpReuse | .udpReuse => { flags with soReuseport := true }
  | .http => { flags with connectPerTransaction := true }
  | .udpBroadcast => { flags with broadcast := true }
  | .udpBroadcastReuse => { flags with broadcast := true, soReuseport := true }

def Protocol.isCom : Protocol → Bool
  | .com => true
  | _ => false

/-- A text that begins with `unix://`; the first component is `none` for the return of -1, else the COM
flag of the text. -/
def parseUnix (tty : TtyController) (path : List Char) : Option Bool × TtyController :=
  -- The path must leave room for its NUL, and the comparison for one byte more.
  if path.length = 0 ∨ sizeofSunPath - 1 ≤ path.length then (none, tty)
  else
    (some false,
      { tty with
        farAddr := { tty.farAddr with family := .unix, sunPath := path }
        farAddrSize := 2 + path.length + 1
        socketType := .stream })

/-- `secondColon` and what `sscanf` finds behind it. -/
def parseLocalPort (tty : TtyController) : Option (List Char) → Option TtyController
  | none => some tty
  | some secondColon =>
      match scanDecimal secondColon.tail with
      | none => none
      | some (localPort, _) =>
          some { tty with localPort := htons localPort, localAddrSize := sizeofSockaddrIn }

/-- The word behind the first blank. -/
def protocolOf (cp : List Char) : List Char :=
  match strchr ' ' cp with
  | none => []
  | some blank => scanWord 5 blank.tail

/-- `<host>:<port>[:localPort] [protocol]`.  What is set before an error stays set. -/
def parseInet (tty : TtyController) : Option Bool × TtyController :=
  match strchr ':' tty.deviceName with
  | none => (none, tty)
  | some cp =>
      let named := { tty with hostName := some (tty.deviceName.takeWhile (· ≠ ':')) }
      match scanDecimal cp.tail with
      | none => (none, named)
      | some (port, _) =>
          match parseLocalPort named (strchr ':' cp.tail) with
          | none => (none, named)
          | some bound =>
              let addressed := { bound with
                farAddr := { bound.farAddr with family := .inet, sinPort := htons port }
                farAddrSize := sizeofSockaddrIn
                flags := { bound.flags with needLookup := true } }
              -- An unknown protocol is found last: the address and the binding are already set.
              match Protocol.find (protocolOf cp) with
              | none => (none, addressed)
              | some protocol =>
                  (some protocol.isCom, { addressed with
                    socketType := protocol.socketType
                    flags := protocol.flags addressed.flags })

/-- An open socket is closed as that of a port that is shut down, so that the manager is told. -/
def closeForHostInfo (p : Port) : Port :=
  if p.tty.fd.isSome then
    closeConnection { p with tty := { p.tty with flags := { p.tty.flags with shutdown := true } } }
  else p

/-- With `FLAG_SHUTDOWN` alone, which is turned off when the text has been parsed. -/
def TtyController.resetFor (tty : TtyController) (hostInfo : List Char) : TtyController :=
  { tty with
    fd := none
    flags := { Flags.zero with shutdown := true }
    nRead := 0
    nWritten := 0
    deviceName := hostInfo
    hostName := none }

def parseText (tty : TtyController) (hostInfo : List Char) : Option Bool × TtyController :=
  let reset := tty.resetFor hostInfo
  if "unix://".toList.isPrefixOf hostInfo then parseUnix reset (hostInfo.drop 7) else parseInet reset

/-- The COM flag can be set only once. -/
def TtyController.finish (tty : TtyController) (isCom : Bool) : TtyController :=
  { tty with
    isCom := some (tty.isCom.getD isCom)
    flags := { tty.flags with shutdown := false } }

/-- `true` for the return of 0. -/
def parseHostInfo (p : Port) (hostInfo : List Char) : Bool × Port :=
  let closed := closeForHostInfo p
  match parseText closed.tty hostInfo with
  | (none, tty) => (false, { closed with tty := tty })
  | (some isCom, tty) => (true, { closed with tty := tty.finish isCom })

/-- `drvAsynIPPortConfigure`: a text that cannot be parsed makes no port. -/
def configure (hostInfo : List Char) : Option Port :=
  match parseHostInfo ⟨.new, false⟩ hostInfo with
  | (false, _) => none
  | (true, p) => some p

/-! ## Connecting -/

/-- What `connect` answers; where it is in progress, `poll` and `SO_ERROR` decide. -/
inductive ConnectAnswer
  | connected
  | failed
  | inProgress (poll : Int) (soError : Int)
  deriving DecidableEq, Repr

def ConnectAnswer.succeeds : ConnectAnswer → Bool
  | .connected => true
  | .failed => false
  | .inProgress poll soError => poll == 1 && soError == 0

/-- The answers of the system calls of `connectIt`. -/
structure ConnectAnswers where
  socket : Option Fd
  broadcast : Bool
  reuseport : Bool
  hostToIPAddr : Option Nat
  bind : Bool
  nonBlock : Bool
  connect : ConnectAnswer
  nodelay : Bool
  deriving DecidableEq, Repr

def lookup (r : ConnectAnswers) (tty : TtyController) : Option TtyController :=
  if tty.flags.needLookup then
    r.hostToIPAddr.map fun addr =>
      { tty with
        farAddr := { tty.farAddr with sinAddr := addr }
        flags := { tty.flags with needLookup := false, doneLookup := true } }
  else some tty

/-- A socket of the port's own, the port, and the sockets that are destroyed on the way. -/
def openSocket (r : ConnectAnswers) (tty : TtyController) : Option Fd × TtyController × List Fd :=
  match r.socket with
  | none => (none, tty, [])
  | some fd =>
      if tty.flags.broadcast ∧ !r.broadcast then (none, tty, [fd])
      else if tty.flags.soReuseport ∧ !r.reuseport then (none, tty, [fd])
      else
        match lookup r tty with
        | none => (none, tty, [fd])
        | some found =>
            if 0 < found.localAddrSize ∧ !r.bind then (none, found, [fd]) else (some fd, found, [])

/-- The rest of `connectIt`, for a socket of its own or a descriptor that is handed over. -/
def useSocket (r : ConnectAnswers) (reason : Int) (tty : TtyController) (fd : Fd) :
    AsynStatus × TtyController × List Fd :=
  if !r.nonBlock then (.asynError, tty, [fd])
  else if reason ≤ 0 ∧ tty.socketType ≠ .dgram ∧ !r.connect.succeeds then
    (.asynError,
      -- The next attempt looks the name up again.
      { tty with
        flags := { tty.flags with needLookup := tty.flags.needLookup || tty.flags.doneLookup } },
      [fd])
  else if tty.socketType = .stream ∧ tty.farAddr.family = .inet ∧ !r.nodelay then
    (.asynError, tty, [fd])
  else (.asynSuccess, { tty with fd := some fd }, [])

/-- `reason` is that of the `asynUser`: when it is positive it is the descriptor of an open socket.  The
last component are the sockets that `epicsSocketDestroy` gets. -/
def connectIt (r : ConnectAnswers) (reason : Int) (tty : TtyController) :
    AsynStatus × TtyController × List Fd :=
  if tty.fd.isSome then (.asynError, tty, [])
  else if tty.flags.shutdown then (.asynError, tty, [])
  -- `drvAsynIPServerPort.c` hands over the descriptor that it has accepted.
  else if 0 < reason then useSocket r reason tty reason.toNat
  else
    match openSocket r tty with
    | (none, tty, destroyed) => (.asynError, tty, destroyed)
    | (some fd, tty, _) => useSocket r reason tty fd

def asynCommonConnect (r : ConnectAnswers) (reason : Int) (p : Port) : AsynStatus × Port :=
  -- Only the manager is told; each transaction opens the socket for itself.
  if p.tty.flags.connectPerTransaction then (.asynSuccess, exceptionConnect p)
  else
    let (status, tty, _) := connectIt r reason p.tty
    let q := { p with tty := tty }
    (status, if status = .asynSuccess then exceptionConnect q else q)

def asynCommonDisconnect (p : Port) : Port :=
  let q := closeConnection p
  if p.tty.flags.connectPerTransaction then exceptionDisconnect q else q

/-- What `readIt` and `writeIt` do before they use the socket: `none` when they return at once. -/
def openForTransaction (r : ConnectAnswers) (reason : Int) (p : Port) : AsynStatus × Port :=
  if p.tty.fd.isSome then (.asynSuccess, p)
  else if p.tty.flags.connectPerTransaction then
    let (status, tty, _) := connectIt r reason p.tty
    (status, { p with tty := tty })
  else (.asynError, p)

/-! ## Reading and writing -/

/-- `wouldBlock` stands for `SOCK_EINTR` as well. -/
inductive RecvAnswer
  | data (bytes : List UInt8)
  | wouldBlock
  | error
  deriving DecidableEq, Repr

/-- `pollFails`: with another error than `EINTR`. -/
structure ReadAnswers where
  connect : ConnectAnswers
  pollFails : Bool
  recv : RecvAnswer
  deriving DecidableEq, Repr

/-- `asynStatus`, the bytes, and `ASYN_EOM_END` and `ASYN_EOM_CNT` of the reason. -/
structure ReadResult where
  status : AsynStatus
  data : List UInt8
  eomEnd : Bool
  eomCnt : Bool
  deriving DecidableEq, Repr

/-- `timeoutPositive`: `pasynUser->timeout > 0`. -/
def readIt (r : ReadAnswers) (reason : Int) (timeoutPositive : Bool) (maxchars : Nat) (p : Port) :
    ReadResult × Port :=
  match openForTransaction r.connect reason p with
  | (.asynSuccess, q) =>
      if maxchars = 0 then (⟨.asynError, [], false, false⟩, q)
      else if r.pollFails then (⟨.asynError, [], false, false⟩, q)
      else
        match r.recv with
        | .data bytes =>
            let counted := { q with tty := { q.tty with nRead := q.tty.nRead + bytes.length } }
            -- Nothing from a stream means that the other side has closed it.
            if bytes = [] ∧ q.tty.socketType = .stream then
              (⟨.asynSuccess, [], true, maxchars ≤ bytes.length⟩, closeConnection counted)
            else (⟨.asynSuccess, bytes, false, maxchars ≤ bytes.length⟩, counted)
        | .wouldBlock =>
            if q.tty.disconnectOnReadTimeout ∧ timeoutPositive then
              (⟨.asynError, [], false, false⟩, closeConnection q)
            else (⟨.asynTimeout, [], false, false⟩, q)
        | .error => (⟨.asynError, [], false, false⟩, closeConnection q)
  | (status, q) => (⟨status, [], false, false⟩, q)

/-- One turn of the loop of `writeIt`: what `poll` answers, and `send` after its repetitions, where 0 also
stands for a time limit that is over. -/
inductive SendAnswer
  | pollFails
  | pollTimesOut
  | sent (n : Nat)
  | error
  deriving DecidableEq, Repr

/-- `none` while the loop has not come to its end.  The result is the status, and how many bytes have been
written. -/
def writeLoop : List SendAnswer → Nat → Port → Option (AsynStatus × Nat × Port)
  | [], _, _ => none
  -- Only an error of `send` closes the socket, not one of `poll`.
  | .pollFails :: _, _, p => some (.asynError, 0, p)
  | .pollTimesOut :: _, _, p => some (.asynTimeout, 0, p)
  | .error :: _, _, p => some (.asynError, 0, closeConnection p)
  | .sent n :: answers, numchars, p =>
      if n = 0 then some (.asynTimeout, 0, p)
      else
        let counted := { p with tty := { p.tty with nWritten := p.tty.nWritten + n } }
        if numchars ≤ n then some (.asynSuccess, n, counted)
        else
          (writeLoop answers (numchars - n) counted).map fun (status, written, q) =>
            (status, n + written, q)

structure WriteAnswers where
  connect : ConnectAnswers
  sends : List SendAnswer
  deriving DecidableEq, Repr

def writeIt (r : WriteAnswers) (reason : Int) (numchars : Nat) (p : Port) :
    Option (AsynStatus × Nat × Port) :=
  match openForTransaction r.connect reason p with
  | (.asynSuccess, q) => if numchars = 0 then some (.asynSuccess, 0, q) else writeLoop r.sends numchars q
  | (status, q) => some (status, 0, q)

/-! ## Options -/

def setOption (key val : List Char) (p : Port) : AsynStatus × Port :=
  if caseEq key "disconnectOnReadTimeout" then
    if caseEq val "Y" then
      (.asynSuccess, { p with tty := { p.tty with disconnectOnReadTimeout := true } })
    else if caseEq val "N" then
      (.asynSuccess, { p with tty := { p.tty with disconnectOnReadTimeout := false } })
    else (.asynError, p)
  else if caseEq key "hostInfo" then
    match parseHostInfo p val with
    | (true, q) => (.asynSuccess, q)
    | (false, q) => (.asynError, q)
  -- The chain ends with `epicsStrCaseCmp(key, "") != 0`: an empty key does nothing, and succeeds.
  else if caseEq key "" then (.asynSuccess, p)
  else (.asynError, p)

/-! ## The machine -/

inductive Action
  | connect (r : ConnectAnswers) (reason : Int)
  | disconnect
  | read (r : ReadAnswers) (reason : Int) (timeoutPositive : Bool) (maxchars : Nat)
  | write (r : WriteAnswers) (reason : Int) (numchars : Nat)
  | setOption (key val : List Char)
  deriving DecidableEq, Repr

def step (p : Port) : Action → Option Port
  | .connect r reason => some (asynCommonConnect r reason p).2
  | .disconnect => some (asynCommonDisconnect p)
  | .read r reason timeoutPositive maxchars =>
      some (readIt r reason timeoutPositive maxchars p).2
  | .write r reason numchars => (writeIt r reason numchars p).map fun result => result.2.2
  | .setOption key val => some (setOption key val p).2

def machine : Machine Port Action := ⟨fun p => ∃ hostInfo, configure hostInfo = some p, step⟩

end IPPort
end Serial
end AsynDriver
