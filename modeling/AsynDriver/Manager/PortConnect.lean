import AsynDriver.Manager.QueueMachine

/-!
# Reconnecting a port

The connect timer, the connect requests and the port thread of one port whose `asynCommon` interface is
registered, with `exceptionConnect`, `exceptionDisconnect`, `enable`, `autoConnectAsyn`, `shutdownPort`
and the driver's `connect`, by any number of threads.

* `Thread`, `Pc` — the timer thread, the port thread and the others, and where each of them is.
* `portConnectTimerCallback`, `portConnectProcessCallback` — the retries.
* `exceptionConnect`, `exceptionDisconnect`, `autoConnectAsyn`, `enable`, `shutdownPort`, `announce`.
* `autoConnectDevice`, `connectAttempt`, `portThread` — the attempts of the port thread, and of
  `queueRequest` on a port without `ASYN_CANBLOCK`.
* `LeftDisconnected`, `ReconnectScheduled` — what the users of a port with `autoConnect` rely on.

A `connect` of the driver succeeds after it has called `exceptionConnect`.  Of the other three queues only
the attempts to connect that their scan makes are modelled: a callback that is run there is the other
threads' business.  The same holds of the callbacks of an announcement.
-/

namespace AsynDriver
namespace Manager
namespace PortConnect

open Library

inductive Thread
  | timerThread
  | portThread
  | client (t : ThreadId)
  deriving DecidableEq, Repr

/-- An entry of `queueList[asynQueuePriorityConnect]`. -/
inductive Request
  | pconnectUser
  | other (u : UserId)
  deriving DecidableEq, Repr

/-- Where `autoConnectDevice` is called: at the head of `portThread`, in its scan of the other queues,
or in `queueRequest`. -/
inductive Caller
  | portThread
  | scan
  | queueRequest
  deriving DecidableEq, Repr

/-- Before which statement a thread is. -/
inductive Pc
  | idle
  /-- `portConnectTimerCallback` -/
  | timerConnected
  | timerAutoConnect
  | timerRequest
  /-- `portConnectProcessCallback` -/
  | processTest
  | processConnect
  | processFailed
  /-- `exceptionConnect` -/
  | connectAssign (d : Device)
  /-- `exceptionDisconnect` -/
  | disconnectAssign (d : Device)
  | disconnectConnected (d : Device)
  | disconnectAutoConnect (d : Device)
  | disconnectTimer (d : Device)
  | disconnectTime (d : Device)
  /-- `autoConnectAsyn` -/
  | autoConnectConnected (d : Device)
  | autoConnectTest (d : Device)
  | autoConnectTimer
  /-- `exceptionOccurred` -/
  | announcing
  /-- `connectAttempt(tried)`, called from `autoConnectDevice` for `d` -/
  | attempt (c : Caller) (d tried : Device)
  | attemptConnect (c : Caller) (d tried : Device)
  | attemptEnd (c : Caller) (d tried : Device)
  /-- `portThread` -/
  | portLock
  | portLoop
  | callback (u : UserId)
  | scanning
  deriving DecidableEq, Repr

structure State where
  dpCommon : Device → DpCommon
  now : Nat
  connectTimer : Bool
  connectQueue : List Request
  notifyPortThread : Bool
  thread : Thread → Pc

/-- The attributes of the port. -/
structure Attributes where
  multiDevice : Bool
  canBlock : Bool

/-- Only a port with `ASYN_MULTIDEVICE` has devices. -/
def Attributes.HasDevice (p : Attributes) (d : Device) : Prop := p.multiDevice = true ∨ d = none

instance (p : Attributes) (d : Device) : Decidable (p.HasDevice d) :=
  inferInstanceAs (Decidable (_ ∨ _))

def State.setThread (s : State) (t : Thread) (pc : Pc) : State :=
  { s with thread := Function.update s.thread t pc }

def State.modDp (s : State) (d : Device) (f : DpCommon → DpCommon) : State :=
  { s with dpCommon := Function.update s.dpCommon d (f (s.dpCommon d)) }

variable (p : Attributes)

/-! ## `exceptionConnect` and `exceptionDisconnect` -/

/-- The end of `announceExceptionOccurred`: `epicsEventSignal(pport->notifyPortThread)`. -/
def State.signal (s : State) : State :=
  { s with notifyPortThread := s.notifyPortThread || p.canBlock }

def connected (d : DpCommon) : DpCommon :=
  { d with connected := true, numberConnects := d.numberConnects + 1 }

def exceptionConnect (s : State) (t : Thread) (d : Device) : Option State :=
  if s.thread t = .idle ∧ p.HasDevice d ∧ (s.dpCommon d).connected = false then
    some (s.setThread t (.connectAssign d))
  else none

def exceptionDisconnect (s : State) (t : Thread) (d : Device) : Option State :=
  if s.thread t = .idle ∧ p.HasDevice d ∧ (s.dpCommon d).connected = true then
    some (s.setThread t (.disconnectAssign d))
  else none

/-- The two functions after their test of `connected`. -/
def exceptionStep (s : State) (t : Thread) : Option State :=
  match s.thread t with
  | .connectAssign d => some ((s.modDp d connected).setThread t .announcing)
  | .disconnectAssign d =>
      some ((s.modDp d fun x => { x with connected := false }).setThread t (.disconnectConnected d))
  | .disconnectConnected d =>
      some (s.setThread t
        (if (s.dpCommon none).connected then .disconnectTime d else .disconnectAutoConnect d))
  | .disconnectAutoConnect d =>
      some (s.setThread t
        (if (s.dpCommon none).autoConnect then .disconnectTimer d else .disconnectTime d))
  | .disconnectTimer d => some ({ s with connectTimer := true }.setThread t (.disconnectTime d))
  | .disconnectTime d =>
      some ((s.modDp d fun x => { x with lastConnectDisconnect := s.now }).setThread t .announcing)
  | _ => none

def announce (s : State) (t : Thread) : Option State :=
  match s.thread t with
  | .announcing => some ((s.signal p).setThread t .idle)
  | _ => none

/-! ## `enable`, `autoConnectAsyn` and `shutdownPort` -/

def enable (s : State) (t : Thread) (d : Device) (yesNo : Bool) : Option State :=
  if s.thread t = .idle ∧ p.HasDevice d ∧ (s.dpCommon d).defunct = false then
    some ((s.modDp d fun x => { x with enabled := yesNo }).setThread t .announcing)
  else none

def autoConnectAsyn (s : State) (t : Thread) (d : Device) (yesNo : Bool) : Option State :=
  if s.thread t = .idle ∧ p.HasDevice d then
    some ((s.modDp d fun x => { x with autoConnect := yesNo }).setThread t (.autoConnectConnected d))
  else none

/-- `autoConnectAsyn` after the assignment. -/
def autoConnectStep (s : State) (t : Thread) : Option State :=
  match s.thread t with
  | .autoConnectConnected d =>
      some (s.setThread t (if (s.dpCommon d).connected then .announcing else .autoConnectTest d))
  | .autoConnectTest d =>
      some (s.setThread t (if (s.dpCommon d).autoConnect then .autoConnectTimer else .announcing))
  | .autoConnectTimer => some ({ s with connectTimer := true }.setThread t .announcing)
  | _ => none

def shutdownPort (s : State) (t : Thread) (d : Device) : Option State :=
  if s.thread t = .idle ∧ p.HasDevice d ∧ (s.dpCommon d).defunct = false then
    some ((s.modDp d fun x => { x with enabled := false, defunct := true }).setThread t .announcing)
  else none

/-! ## The retries -/

/-- The timer expires and its thread calls `portConnectTimerCallback`. -/
def timerExpire (s : State) : Option State :=
  if s.connectTimer = true ∧ s.thread .timerThread = .idle then
    some ({ s with connectTimer := false }.setThread .timerThread .timerConnected)
  else none

/-- `queueRequest(pconnectUser, asynQueuePriorityConnect, 0)`: on a port that cannot block it calls
`processUser` at once. -/
def queueConnectRequest (s : State) (t : Thread) : State :=
  if (s.dpCommon none).enabled then
    if p.canBlock then
      if Request.pconnectUser ∈ s.connectQueue then s.setThread t .idle
      else
        { s with
          connectQueue := s.connectQueue ++ [Request.pconnectUser]
          notifyPortThread := true }.setThread t .idle
    else s.setThread t .processTest
  else s.setThread t .idle

def portConnectTimerCallback (s : State) (t : Thread) : Option State :=
  match s.thread t with
  | .timerConnected =>
      some (s.setThread t (if (s.dpCommon none).connected then .idle else .timerAutoConnect))
  | .timerAutoConnect =>
      some (s.setThread t (if (s.dpCommon none).autoConnect then .timerRequest else .idle))
  | .timerRequest => some (queueConnectRequest p s t)
  | _ => none

/-- Where the callback of a connect request returns to. -/
def Thread.resume : Thread → Pc
  | .portThread => .portLoop
  | _ => .idle

/-- A `connect` of the driver that succeeds. -/
def State.connect (s : State) (d : Device) : State :=
  if (s.dpCommon d).connected then s else (s.modDp d connected).signal p

/-- `success` is the outcome of `connect`. -/
def portConnectProcessCallback (s : State) (t : Thread) (success : Bool) : Option State :=
  match s.thread t with
  | .processTest =>
      some (s.setThread t (if (s.dpCommon none).connected then t.resume else .processConnect))
  | .processConnect =>
      some (if success then (s.connect p none).setThread t t.resume else s.setThread t .processFailed)
  | .processFailed => some ({ s with connectTimer := true }.setThread t t.resume)
  | _ => none

/-! ## `autoConnectDevice` -/

inductive AutoConnectResult
  | attempt (tried : Device)
  | done (connected : Bool)

/-- Whether a connection is tried: the test, and the seconds since the last one. -/
def mayAttempt (s : State) (d : Device) : Bool :=
  !(s.dpCommon d).connected && (s.dpCommon d).autoConnect && !(s.dpCommon d).autoConnectActive

def recently (s : State) (d : Device) : Bool :=
  decide (s.now - (s.dpCommon d).lastConnectDisconnect < Queue.reconnectDelay)

def State.activate (s : State) (d : Device) : State :=
  s.modDp d fun x => { x with autoConnectActive := true }

/-- `autoConnectDevice` from its second part on. -/
def autoConnectDeviceTail (s : State) (d : Device) : State × AutoConnectResult :=
  if (s.dpCommon none).connected then
    match d with
    | none => (s, .done true)
    | some addr =>
        if mayAttempt s (some addr) then
          if recently s (some addr) then (s, .done false)
          else (s.activate (some addr), .attempt (some addr))
        else (s, .done (s.dpCommon (some addr)).connected)
  else (s, .done false)

def autoConnectDevice (s : State) (d : Device) : State × AutoConnectResult :=
  if mayAttempt s none then
    if recently s none then (s, .done false) else (s.activate none, .attempt none)
  else autoConnectDeviceTail s d

/-- After `connectAttempt(tried)`, with the lock. -/
def autoConnectResume (s : State) (d tried : Device) : State × AutoConnectResult :=
  let s' := s.modDp tried fun x =>
    { x with lastConnectDisconnect := s.now, autoConnectActive := false }
  match tried with
  | none => autoConnectDeviceTail s' d
  | some _ => (s', .done (s'.dpCommon tried).connected)

/-- What the caller does with the result. -/
def Caller.resume (c : Caller) (connected : Bool) : Pc :=
  match c with
  | .portThread => if connected then .scanning else .idle
  | .scan => .scanning
  | .queueRequest => .idle

def finishAutoConnect (t : Thread) (c : Caller) (d : Device) : State × AutoConnectResult → State
  | (s, .attempt tried) => s.setThread t (.attempt c d tried)
  | (s, .done connected) => s.setThread t (c.resume connected)

/-- `findInterface` fails on a port that is shut down; then `connect`, unless connected by now. -/
def connectAttempt (s : State) (t : Thread) (success : Bool) : Option State :=
  match s.thread t with
  | .attempt c d tried =>
      if (s.dpCommon none).defunct ∨ (s.dpCommon tried).connected then
        some (s.setThread t (.attemptEnd c d tried))
      else some (s.setThread t (.attemptConnect c d tried))
  | .attemptConnect c d tried =>
      some ((if success then s.connect p tried else s).setThread t (.attemptEnd c d tried))
  | .attemptEnd c d tried => some (finishAutoConnect t c d (autoConnectResume s d tried))
  | _ => none

/-- `queueRequest` for a device that is not connected. -/
def queueRequestSync (s : State) (t : Thread) (d : Device) : Option State :=
  if s.thread t = .idle ∧ p.canBlock = false ∧ p.HasDevice d then
    some (finishAutoConnect t .queueRequest d (autoConnectDevice s d))
  else none

/-! ## `portThread` -/

def portWake (s : State) : Option State :=
  if p.canBlock = true ∧ s.thread .portThread = .idle ∧ s.notifyPortThread = true then
    some ({ s with notifyPortThread := false }.setThread .portThread .portLock)
  else none

/-- The `while` loop over the connect requests, and what follows it. -/
def connectLoop (s : State) : State :=
  match s.connectQueue with
  | .pconnectUser :: rest =>
      { s with connectQueue := rest }.setThread .portThread .processTest
  | .other u :: rest => { s with connectQueue := rest }.setThread .portThread (.callback u)
  | [] =>
      if (s.dpCommon none).connected then s.setThread .portThread .scanning
      else finishAutoConnect .portThread .portThread none (autoConnectDevice s none)

def portThread (s : State) : Option State :=
  match s.thread .portThread with
  | .portLock =>
      some (if (s.dpCommon none).enabled then connectLoop s else s.setThread .portThread .idle)
  | .portLoop => some (connectLoop s)
  | .callback _ => some (s.setThread .portThread .portLoop)
  | _ => none

/-- A request for a device that is not connected is found in the scan. -/
def portScan (s : State) (d : Device) : Option State :=
  if s.thread .portThread = .scanning ∧ p.HasDevice d ∧ (s.dpCommon d).connected = false then
    some (finishAutoConnect .portThread .scan d (autoConnectDevice s d))
  else none

def portScanEnd (s : State) : Option State :=
  if s.thread .portThread = .scanning then some (s.setThread .portThread .idle) else none

/-! ## The other users -/

/-- `queueRequest` of another `asynUser` with `asynQueuePriorityConnect`. -/
def queueRequest (s : State) (u : UserId) : Option State :=
  if p.canBlock = true ∧ (s.dpCommon none).enabled = true ∧ Request.other u ∉ s.connectQueue then
    some { s with connectQueue := s.connectQueue ++ [.other u], notifyPortThread := true }
  else none

def cancelRequest (s : State) (u : UserId) : Option State :=
  if Request.other u ∈ s.connectQueue then
    some { s with connectQueue := s.connectQueue.erase (.other u), notifyPortThread := true }
  else none

/-! ## The machine -/

/-- `signal` is any other function that wakes the port thread. -/
inductive Action
  | exceptionConnect (t : ThreadId) (d : Device)
  | exceptionDisconnect (t : ThreadId) (d : Device)
  | exceptionStep (t : Thread)
  | announce (t : Thread)
  | enable (t : ThreadId) (d : Device) (yesNo : Bool)
  | autoConnectAsyn (t : ThreadId) (d : Device) (yesNo : Bool)
  | autoConnectStep (t : Thread)
  | shutdownPort (t : ThreadId) (d : Device)
  | timerExpire
  | portConnectTimerCallback (t : Thread)
  | portConnectProcessCallback (t : Thread) (success : Bool)
  | connectAttempt (t : Thread) (success : Bool)
  | queueRequestSync (t : ThreadId) (d : Device)
  | portWake
  | portThread
  | portScan (d : Device)
  | portScanEnd
  | queueRequest (u : UserId)
  | cancelRequest (u : UserId)
  | signal
  | tick (elapsed : Nat)
  deriving DecidableEq

def step (s : State) : Action → Option State
  | .exceptionConnect t d => exceptionConnect p s (.client t) d
  | .exceptionDisconnect t d => exceptionDisconnect p s (.client t) d
  | .exceptionStep t => exceptionStep s t
  | .announce t => announce p s t
  | .enable t d yesNo => enable p s (.client t) d yesNo
  | .autoConnectAsyn t d yesNo => autoConnectAsyn p s (.client t) d yesNo
  | .autoConnectStep t => autoConnectStep s t
  | .shutdownPort t d => shutdownPort p s (.client t) d
  | .timerExpire => timerExpire s
  | .portConnectTimerCallback t => portConnectTimerCallback p s t
  | .portConnectProcessCallback t success => portConnectProcessCallback p s t success
  | .connectAttempt t success => connectAttempt p s t success
  | .queueRequestSync t d => queueRequestSync p s (.client t) d
  | .portWake => portWake p s
  | .portThread => portThread s
  | .portScan d => portScan p s d
  | .portScanEnd => portScanEnd s
  | .queueRequest u => queueRequest p s u
  | .cancelRequest u => cancelRequest s u
  | .signal => some (s.signal p)
  | .tick elapsed => some { s with now := s.now + elapsed }

/-- After `initPortConnect`: `registerInterface` is about to call `portConnectTimerCallback`. -/
structure Registered (s : State) : Prop where
  timer : s.connectTimer = false
  queue : Request.pconnectUser ∉ s.connectQueue
  thread : s.thread = Function.update (fun _ => Pc.idle) (.client 0) .timerConnected

def machine : Machine State Action := ⟨Registered, step p⟩

/-! ## What the users of the port rely on -/

/-- No operation is in progress, and the port should be connected but is not. -/
structure LeftDisconnected (s : State) : Prop where
  idle : ∀ t, s.thread t = .idle
  enabled : (s.dpCommon none).enabled = true
  defunct : (s.dpCommon none).defunct = false
  autoConnect : (s.dpCommon none).autoConnect = true
  connected : (s.dpCommon none).connected = false

def ReconnectScheduled (s : State) : Prop :=
  s.connectTimer = true ∨ Request.pconnectUser ∈ s.connectQueue ∨ s.notifyPortThread = true

/-- Runs in which the port is enabled, or shut down, when `portConnectTimerCallback` calls
`queueRequest`. -/
def Accepted (s : State) : Action → Prop
  | .portConnectTimerCallback t => s.thread t = .timerRequest →
      (s.dpCommon none).enabled = true ∨ (s.dpCommon none).defunct = true
  | _ => True

instance (s : State) (a : Action) : Decidable (Accepted s a) := by
  cases a <;> unfold Accepted <;> infer_instance

end PortConnect
end Manager
end AsynDriver
