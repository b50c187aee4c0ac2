import Mathlib.Logic.Function.Basic
import AsynDriver.Serial.IPPortSafety

/-!
# The TCP sockets of `drvAsynIPServerPort.c`

The listener thread accepts a socket, looks for a client port that is not connected, and hands the descriptor
over as the `reason` of its own `asynUser` for this port, with which it has the port thread call `connect`.
The client ports are ports of `drvAsynIPPort.c` and close their sockets themselves.

* `Socket`, `State` — the open descriptors of the process, with the accepted sockets numbered; the client
  ports; what the listener waits for.
* `step` — an iteration of `connectionListener` in two steps, the calls of the client ports between them,
  and `enable`.
* `Handed` — at the end of an iteration every accepted socket has been closed or belongs to one connected
  client port, and every `reason` is 0 again.
* `Admissible` — the connections that the listener asks for can be made.
* `handed_over` — the result for every run of such steps; `accepted_leaks` — without them.

A descriptor that is closed may be used again for the next socket.  Left out: the names and trace masks of
the clients, and the callbacks at a new connection.
-/

namespace AsynDriver
namespace Serial
namespace IPServerPort

open Library
open Manager (AsynStatus)
open IPPort (Fd Port ConnectAnswers)

inductive Socket
  | accepted (k : Nat)
  | own
  deriving DecidableEq, Repr

/-- A client port, and the `reason` of the listener's `asynUser` for it. -/
structure Client where
  port : Port
  enabled : Bool
  reason : Int
  deriving DecidableEq, Repr

inductive Listener
  | accepting
  | connecting (i : Nat)
  deriving DecidableEq, Repr

structure State where
  client : Nat → Client
  socket : Fd → Option Socket
  accepted : Nat
  listener : Listener

inductive Action
  | accept (fd : Fd)
  | acceptFails
  | connectDevice (r : ConnectAnswers)
  | call (i : Nat) (a : IPPort.Action)
  | enable (i : Nat) (yesNo : Bool)
  deriving DecidableEq, Repr

variable (n : Nat)

/-- `isConnected` of one client port after the other. -/
def firstDisconnected (s : State) : Option Nat :=
  (List.range n).find? fun i => !(s.client i).port.connected

/-- From `epicsSocketAccept` to the request that connects the port.  Without a port for it the socket is
destroyed. -/
def accept (s : State) (fd : Fd) : State :=
  match firstDisconnected n s with
  | none => { s with accepted := s.accepted + 1 }
  | some i =>
      { client := Function.update s.client i { s.client i with reason := fd }
        socket := Function.update s.socket fd (some (.accepted s.accepted))
        accepted := s.accepted + 1
        listener := .connecting i }

/-- `pasynCommonSyncIO->connectDevice` and what is behind it: the port thread connects, unless the request
is refused. -/
def connectDevice (s : State) (i : Nat) (r : ConnectAnswers) : State :=
  let c := s.client i
  -- A disabled port refuses the request; neither the descriptor nor its `reason` is taken back.
  if !c.enabled then { s with listener := .accepting }
  else
    let (status, port) := IPPort.asynCommonConnect r c.reason c.port
    let destroyed := if c.port.tty.flags.connectPerTransaction then []
      else (IPPort.connectIt r c.reason c.port.tty).2.2
    { client := Function.update s.client i
        { c with port := port, reason := if status = .asynSuccess then 0 else c.reason }
      socket := fun fd =>
        if fd ∈ destroyed then none
        -- Only a port that is given no descriptor opens a socket of its own.
        else if c.reason ≤ 0 ∧ status = .asynSuccess ∧ port.tty.fd = some fd then some .own
        else s.socket fd
      accepted := s.accepted
      listener := .accepting }

/-- A descriptor that the port has no more is closed. -/
def release (before after : Option Fd) (socket : Fd → Option Socket) : Fd → Option Socket :=
  match before with
  | none => socket
  | some fd => if after = some fd then socket else Function.update socket fd none

/-- The calls of the port's users; none of them connects it. -/
def isCall : IPPort.Action → Bool
  | .connect _ _ => false
  | _ => true

def step (s : State) : Action → Option State
  | .accept fd =>
      if s.listener = .accepting ∧ s.socket fd = none then some (accept n s fd) else none
  | .acceptFails => if s.listener = .accepting then some s else none
  | .connectDevice r =>
      match s.listener with
      | .accepting => none
      | .connecting i =>
          -- A socket of the port's own has a free descriptor.
          if (s.client i).reason ≤ 0 ∧ (r.socket.any fun fd => (s.socket fd).isSome) = true then none
          else some (connectDevice s i r)
  | .call i a =>
      if i < n ∧ isCall a then
        match IPPort.step (s.client i).port a with
        | none => none
        | some port =>
            -- A client port of a TCP server stays out of connect-per-transaction mode.
            if port.tty.flags.connectPerTransaction then none
            else
              some { s with
                client := Function.update s.client i { s.client i with port := port }
                socket := release (s.client i).port.tty.fd port.tty.fd s.socket }
      else none
  | .enable i yesNo =>
      if i < n then
        some { s with client := Function.update s.client i { s.client i with enabled := yesNo } }
      else none

/-- `maxClients` ports for one text, which is that of a TCP server, and no open descriptor of theirs. -/
def Start (s : State) : Prop :=
  ∃ serverInfo port, IPPort.configure serverInfo = some port ∧
    port.tty.flags.connectPerTransaction = false ∧
    s = ⟨fun _ => ⟨port, true, 0⟩, fun _ => none, 0, .accepting⟩

def machine : Machine State Action := ⟨Start, step n⟩

/-! ## What the sockets should be -/

/-- The socket is the open one of a connected client port. -/
def Holds (s : State) (i k : Nat) : Prop :=
  (s.client i).port.connected = true ∧
    ∃ fd, (s.client i).port.tty.fd = some fd ∧ s.socket fd = some (.accepted k)

structure Handed (s : State) : Prop where
  socket : ∀ k, k < s.accepted →
    (∃ i, (i < n ∧ Holds s i k) ∧ ∀ j, j < n → Holds s j k → j = i) ∨
      ∀ fd, s.socket fd ≠ some (.accepted k)
  reason : ∀ i, i < n → (s.client i).reason = 0

/-- The descriptor is not 0, and the port thread can use it. -/
def Admissible (s : State) : Action → Prop
  | .accept fd => 0 < fd
  | .connectDevice r => ∀ i, s.listener = .connecting i →
      (s.client i).enabled = true ∧ (s.client i).port.tty.flags.shutdown = false ∧
        r.nonBlock = true ∧ r.nodelay = true
  | _ => True

/-! ## What a client port does -/

section Calls

open IPPort

variable {p q : Port}

theorem writeLoop_fd {answers : List SendAnswer} {numchars : Nat} {result : AsynStatus × Nat × Port}
    (hloop : writeLoop answers numchars p = some result) :
    result.2.2.tty.fd = p.tty.fd ∨ result.2.2.tty.fd = none := by
  induction answers generalizing numchars p result with
  | nil => exact nomatch hloop
  | cons answer answers ih =>
      cases answer with
      | pollFails =>
          cases hloop
          exact .inl rfl
      | pollTimesOut =>
          cases hloop
          exact .inl rfl
      | error =>
          cases hloop
          exact .inr (closeConnection_fd p)
      | sent n =>
          unfold writeLoop at hloop
          split at hloop
          · cases hloop
            exact .inl rfl
          · simp only at hloop
            split at hloop
            · cases hloop
              exact .inl rfl
            · obtain ⟨later, hlater, rfl⟩ := Option.map_eq_some_iff.mp hloop
              have hrest := ih hlater
              exact hrest

theorem openForTransaction_plain (hmode : p.tty.flags.connectPerTransaction = false)
    (r : ConnectAnswers) (reason : Int) : (openForTransaction r reason p).2 = p := by
  unfold openForTransaction
  rw [hmode]
  split
  · rfl
  · rfl

theorem readIt_fd (hmode : p.tty.flags.connectPerTransaction = false) (r : ReadAnswers)
    (reason : Int) (timeoutPositive : Bool) (maxchars : Nat) :
    (readIt r reason timeoutPositive maxchars p).2.tty.fd = p.tty.fd ∨
      (readIt r reason timeoutPositive maxchars p).2.tty.fd = none := by
  have hsame := openForTransaction_plain hmode r.connect reason
  unfold readIt
  split
  · next q heq =>
      rw [heq] at hsame
      cases hsame
      split
      · exact .inl rfl
      · split
        · exact .inl rfl
        · split
          · simp only
            split
            · exact .inr (closeConnection_fd _)
            · exact .inl rfl
          · split
            · exact .inr (closeConnection_fd _)
            · exact .inl rfl
          · exact .inr (closeConnection_fd _)
  · next heq =>
      rw [heq] at hsame
      cases hsame
      exact .inl rfl

/-- A call outside connect-per-transaction mode keeps the socket or closes it. -/
theorem call_fd (hmode : p.tty.flags.connectPerTransaction = false) {a : IPPort.Action}
    (hcall : isCall a = true) (hstep : IPPort.step p a = some q) :
    q.tty.fd = p.tty.fd ∨ q.tty.fd = none := by
  cases a with
  | connect r reason => exact nomatch hcall
  | disconnect =>
      cases hstep
      exact .inr (asynCommonDisconnect_keeps p).2.1
  | read r reason timeoutPositive maxchars =>
      cases hstep
      exact readIt_fd hmode r reason timeoutPositive maxchars
  | write r reason numchars =>
      obtain ⟨result, hwrite, rfl⟩ := Option.map_eq_some_iff.mp hstep
      have hsame := openForTransaction_plain hmode r.connect reason
      unfold writeIt at hwrite
      split at hwrite
      · next q heq =>
          rw [heq] at hsame
          cases hsame
          split at hwrite
          · cases hwrite
            exact .inl rfl
          · exact writeLoop_fd hwrite
      · next heq =>
          cases hwrite
          rw [heq] at hsame
          cases hsame
          exact .inl rfl
  | setOption key val =>
      cases hstep
      have hparse := (parseHostInfo_keeps p val).1
      unfold setOption
      split
      · split
        · exact .inl rfl
        · split
          · exact .inl rfl
          · exact .inl rfl
      · split
        · split
          · next heq =>
              rw [heq] at hparse
              exact .inr hparse
          · next heq =>
              rw [heq] at hparse
              exact .inr hparse
        · split
          · exact .inl rfl
          · exact .inl rfl

/-- The manager's flag still follows the socket. -/
theorem Consistent.call (hp : Consistent p) (hmode : p.tty.flags.connectPerTransaction = false)
    {a : IPPort.Action} (hcall : isCall a = true) (hstep : IPPort.step p a = some q) :
    Consistent q := by
  cases a with
  | connect r reason => exact nomatch hcall
  | disconnect =>
      cases hstep
      obtain ⟨hconnected, hfd, hflags⟩ := asynCommonDisconnect_keeps p
      refine consistent_of_closed hfd hconnected ?_
      rw [hflags]
      exact hp.mode
  | read r reason timeoutPositive maxchars =>
      cases hstep
      exact hp.read r reason timeoutPositive maxchars
  | write r reason numchars =>
      obtain ⟨result, hwrite, rfl⟩ := Option.map_eq_some_iff.mp hstep
      exact hp.write hwrite
  | setOption key val =>
      cases hstep
      exact hp.setOption fun _ ⟨h, _⟩ => nomatch hmode.symm.trans h

/-- A descriptor that is handed over becomes the port's socket. -/
theorem connect_handed (hmode : p.tty.flags.connectPerTransaction = false)
    (hfd : p.tty.fd = none) (hshutdown : p.tty.flags.shutdown = false) {r : ConnectAnswers}
    (hblock : r.nonBlock = true) (hdelay : r.nodelay = true) {fd : Fd} (hpos : 0 < fd) :
    (asynCommonConnect r fd p).1 = .asynSuccess ∧
      (asynCommonConnect r fd p).2.tty.fd = some fd ∧
      (asynCommonConnect r fd p).2.tty.flags.connectPerTransaction = false ∧
      (connectIt r fd p.tty).2.2 = [] := by
  have hreason : (0 : Int) < fd := Int.natCast_pos.mpr hpos
  -- With a positive `reason` neither `openSocket` nor `connect` is asked.
  have huse : useSocket r fd p.tty ((fd : Int).toNat) =
      (.asynSuccess, { p.tty with fd := some fd }, []) := by
    unfold useSocket
    simp [hblock, hdelay, Nat.ne_of_gt hpos]
  have hconnect : connectIt r fd p.tty = (.asynSuccess, { p.tty with fd := some fd }, []) := by
    unfold connectIt
    rw [hfd, hshutdown]
    simp only [Option.isSome_none, Bool.false_eq_true, if_false, if_pos hreason]
    exact huse
  unfold asynCommonConnect
  rw [hmode, hconnect]
  exact ⟨rfl, rfl, hmode, rfl⟩

end Calls

/-! ## The invariant -/

/-- While the listener waits for client port `i`, that has no socket, and its `reason` is the descriptor
of an accepted socket that no client port has. -/
structure Inv (s : State) : Prop where
  consistent : ∀ i, i < n → IPPort.Consistent (s.client i).port
  plain : ∀ i, i < n → (s.client i).port.tty.flags.connectPerTransaction = false
  isOpen : ∀ i, i < n → ∀ fd, (s.client i).port.tty.fd = some fd → ∃ k, s.socket fd = some (.accepted k)
  apart : ∀ i, i < n → ∀ j, j < n → ∀ fd, (s.client i).port.tty.fd = some fd →
    (s.client j).port.tty.fd = some fd → i = j
  fresh : ∀ fd k, s.socket fd = some (.accepted k) → k < s.accepted
  once : ∀ fd fd' k, s.socket fd = some (.accepted k) → s.socket fd' = some (.accepted k) → fd = fd'
  owner : ∀ fd k, s.socket fd = some (.accepted k) →
    (∃ i, i < n ∧ (s.client i).port.tty.fd = some fd) ∨
      ∃ i, s.listener = .connecting i ∧ (s.client i).reason = fd
  reason : ∀ i, i < n → s.listener ≠ .connecting i → (s.client i).reason = 0
  chosen : ∀ i, s.listener = .connecting i → i < n ∧ (s.client i).port.tty.fd = none ∧
    ∃ fd : Fd, 0 < fd ∧ (s.client i).reason = fd ∧ (∃ k, s.socket fd = some (.accepted k)) ∧
      ∀ j, j < n → (s.client j).port.tty.fd ≠ some fd

variable {n : Nat} {s s' : State}

theorem Inv.start (hstart : Start s) : Inv n s := by
  obtain ⟨serverInfo, port, hconfigure, hmode, rfl⟩ := hstart
  have hkeeps := IPPort.parseHostInfo_keeps ⟨.new, false⟩ serverInfo
  have hport : port.tty.fd = none ∧ port.connected = false := by
    unfold IPPort.configure at hconfigure
    split at hconfigure
    · exact nomatch hconfigure
    · next heq =>
        cases hconfigure
        rw [heq] at hkeeps
        exact ⟨hkeeps.1, hkeeps.2.1⟩
  constructor
  case consistent =>
    intro i _
    exact IPPort.consistent_of_closed hport.1 hport.2 fun h => nomatch hmode.symm.trans h
  case plain => exact fun _ _ => hmode
  case isOpen => exact fun i _ fd hfd => nomatch hport.1.symm.trans hfd
  case apart => exact fun i _ j _ fd hfd => nomatch hport.1.symm.trans hfd
  case reason => exact fun _ _ _ => rfl
  all_goals exact nofun

theorem firstDisconnected_some {i : Nat} (hfirst : firstDisconnected n s = some i) :
    i < n ∧ (s.client i).port.connected = false := by
  refine ⟨List.mem_range.mp (List.mem_of_find?_eq_some hfirst), ?_⟩
  have hfound := List.find?_some hfirst
  simpa using hfound

theorem Inv.accept (hinv : Inv n s) {fd : Fd} (hpos : 0 < fd) (hlistener : s.listener = .accepting)
    (hfree : s.socket fd = none) : Inv n (accept n s fd) := by
  have hnotOpen : ∀ j, j < n → (s.client j).port.tty.fd ≠ some fd := by
    intro j hj hfd
    obtain ⟨k, hk⟩ := hinv.isOpen j hj fd hfd
    exact nomatch hfree.symm.trans hk
  unfold IPServerPort.accept
  split
  · -- The socket has been closed again.
    constructor
    case consistent => exact hinv.consistent
    case plain => exact hinv.plain
    case isOpen => exact hinv.isOpen
    case apart => exact hinv.apart
    case fresh => exact fun fd k hk => Nat.lt_succ_of_lt (hinv.fresh fd k hk)
    case once => exact hinv.once
    case owner => exact hinv.owner
    case reason => exact hinv.reason
    -- The descriptor is new, so that no client port has it while the listener waits.
    case chosen => exact hinv.chosen
  · next i hfirst =>
    obtain ⟨hi, hconnected⟩ := firstDisconnected_some hfirst
    have hport : ∀ j, (Function.update s.client i { s.client i with reason := fd } j).port =
        (s.client j).port := by
      intro j
      by_cases hj : j = i
      · rw [hj, Function.update_self]
      · rw [Function.update_of_ne hj]
    have hclosed : (s.client i).port.tty.fd = none := by
      have hiff := (hinv.consistent i hi).socket (hinv.plain i hi)
      rw [hconnected] at hiff
      exact Option.not_isSome_iff_eq_none.mp fun h => nomatch hiff.mpr h
    have hother : ∀ fd', fd' ≠ fd →
        Function.update s.socket fd (some (.accepted s.accepted)) fd' = s.socket fd' :=
      fun fd' hne => Function.update_of_ne hne _ _
    have hself : Function.update s.socket fd (some (.accepted s.accepted)) fd =
        some (.accepted s.accepted) := Function.update_self _ _ _
    constructor
    case consistent =>
      intro j hj
      rw [hport j]
      exact hinv.consistent j hj
    case plain =>
      intro j hj
      rw [hport j]
      exact hinv.plain j hj
    case isOpen =>
      intro j hj fd' hfd'
      rw [hport j] at hfd'
      have hne : fd' ≠ fd := fun h => hnotOpen j hj (h ▸ hfd')
      simp only [hother fd' hne]
      exact hinv.isOpen j hj fd' hfd'
    case apart =>
      intro j hj j' hj' fd' hfd hfd'
      rw [hport] at hfd hfd'
      exact hinv.apart j hj j' hj' fd' hfd hfd'
    case fresh =>
      intro fd' k hk
      by_cases hfd' : fd' = fd
      · subst hfd'
        simp only [hself] at hk
        cases hk
        exact Nat.lt_succ_self _
      · simp only [hother fd' hfd'] at hk
        exact Nat.lt_succ_of_lt (hinv.fresh fd' k hk)
    case once =>
      intro fd₁ fd₂ k h₁ h₂
      by_cases hfd₁ : fd₁ = fd
      · by_cases hfd₂ : fd₂ = fd
        · rw [hfd₁, hfd₂]
        · subst hfd₁
          simp only [hself] at h₁
          cases h₁
          simp only [hother fd₂ hfd₂] at h₂
          exact absurd (hinv.fresh fd₂ _ h₂) (Nat.lt_irrefl _)
      · by_cases hfd₂ : fd₂ = fd
        · subst hfd₂
          simp only [hself] at h₂
          cases h₂
          simp only [hother fd₁ hfd₁] at h₁
          exact absurd (hinv.fresh fd₁ _ h₁) (Nat.lt_irrefl _)
        · simp only [hother fd₁ hfd₁] at h₁
          simp only [hother fd₂ hfd₂] at h₂
          exact hinv.once fd₁ fd₂ k h₁ h₂
    case owner =>
      intro fd' k hk
      by_cases hfd' : fd' = fd
      · refine .inr ⟨i, rfl, ?_⟩
        simp only [Function.update_self, hfd']
      · simp only [hother fd' hfd'] at hk
        rcases hinv.owner fd' k hk with ⟨j, hj, hfd⟩ | ⟨j, hj, -⟩
        · refine .inl ⟨j, hj, ?_⟩
          rw [hport j]
          exact hfd
        · exact nomatch hlistener.symm.trans hj
    case reason =>
      intro j hj hne
      have hji : j ≠ i := fun h => hne (congrArg Listener.connecting h.symm)
      simp only [Function.update_of_ne hji]
      exact hinv.reason j hj fun h => nomatch hlistener.symm.trans h
    case chosen =>
      intro j hj
      cases hj
      refine ⟨hi, ?_, fd, hpos, ?_, ⟨_, hself⟩, ?_⟩
      · rw [hport i]
        exact hclosed
      · simp only [Function.update_self]
      · intro j hj
        rw [hport j]
        exact hnotOpen j hj

/-- What holds of the clients holds of them again when one is written. -/
theorem client_update {P : Client → Prop} {i : Nat} {c : Client} (hnew : i < n → P c)
    (hrest : ∀ j, j < n → P (s.client j)) (j : Nat) (hj : j < n) :
    P (Function.update s.client i c j) := by
  by_cases hji : j = i
  · subst hji
    rw [Function.update_self]
    exact hnew hj
  · rw [Function.update_of_ne hji]
    exact hrest j hj

/-- The descriptor goes to the client port, and its `reason` is 0 again. -/
theorem Inv.connectDevice (hinv : Inv n s) {i : Nat} (hlistener : s.listener = .connecting i)
    {r : ConnectAnswers} (hok : Admissible s (.connectDevice r)) : Inv n (connectDevice s i r) := by
  obtain ⟨henabled, hshutdown, hblock, hdelay⟩ := hok i hlistener
  obtain ⟨hi, hclosed, fd, hpos, hreason, ⟨k, hsocket⟩, hnotOpen⟩ := hinv.chosen i hlistener
  have hmode := hinv.plain i hi
  obtain ⟨hstatus, hfd, hmode', hdestroyed⟩ :=
    connect_handed hmode hclosed hshutdown hblock hdelay hpos
  have hconsistent := (hinv.consistent i hi).connect r fd
  have hpositive : ¬ ((fd : Int) ≤ 0) := Int.not_le.mpr (Int.natCast_pos.mpr hpos)
  have hnext : IPServerPort.connectDevice s i r =
      { client := Function.update s.client i
          { s.client i with port := (IPPort.asynCommonConnect r fd (s.client i).port).2, reason := 0 }
        socket := s.socket
        accepted := s.accepted
        listener := .accepting } := by
    unfold IPServerPort.connectDevice
    simp only [henabled, Bool.not_true, Bool.false_eq_true, if_false, hmode, hreason, hstatus,
      hdestroyed, hpositive, List.not_mem_nil, false_and, if_true]
  have hother : ∀ j, j ≠ i → Function.update s.client i
      { s.client i with port := (IPPort.asynCommonConnect r fd (s.client i).port).2, reason := 0 } j =
        s.client j :=
    fun j hj => Function.update_of_ne hj _ _
  rw [hnext]
  constructor
  case consistent =>
    exact client_update (P := fun c => IPPort.Consistent c.port) (fun _ => hconsistent) hinv.consistent
  case plain =>
    exact client_update (P := fun c => c.port.tty.flags.connectPerTransaction = false) (fun _ => hmode')
      hinv.plain
  case isOpen =>
    intro j hj fd' hfd'
    by_cases hji : j = i
    · subst hji
      simp only [Function.update_self, hfd] at hfd'
      cases hfd'
      exact ⟨k, hsocket⟩
    · simp only [hother j hji] at hfd'
      exact hinv.isOpen j hj fd' hfd'
  case apart =>
    intro j hj j' hj' fd' hfd₁ hfd₂
    by_cases hji : j = i
    · by_cases hji' : j' = i
      · rw [hji, hji']
      · subst hji
        simp only [Function.update_self, hfd] at hfd₁
        cases hfd₁
        simp only [hother j' hji'] at hfd₂
        exact absurd hfd₂ (hnotOpen j' hj')
    · by_cases hji' : j' = i
      · subst hji'
        simp only [Function.update_self, hfd] at hfd₂
        cases hfd₂
        simp only [hother j hji] at hfd₁
        exact absurd hfd₁ (hnotOpen j hj)
      · simp only [hother j hji] at hfd₁
        simp only [hother j' hji'] at hfd₂
        exact hinv.apart j hj j' hj' fd' hfd₁ hfd₂
  case fresh => exact hinv.fresh
  case once => exact hinv.once
  case owner =>
    intro fd' k' hk'
    -- The descriptor that was the listener's is the client port's from here on.
    rcases hinv.owner fd' k' hk' with ⟨j, hj, hfdj⟩ | ⟨j, hj, hreason'⟩
    · refine .inl ⟨j, hj, ?_⟩
      have hji : j ≠ i := by
        rintro rfl
        exact nomatch hclosed.symm.trans hfdj
      simp only [hother j hji]
      exact hfdj
    · cases hlistener.symm.trans hj
      have hsame : fd' = fd := Int.ofNat.inj (hreason'.symm.trans hreason)
      refine .inl ⟨i, hi, ?_⟩
      simp only [Function.update_self, hfd, hsame]
  case reason =>
    intro j hj _
    by_cases hji : j = i
    · subst hji
      simp only [Function.update_self]
    · simp only [hother j hji]
      refine hinv.reason j hj fun h => hji ?_
      exact Listener.connecting.inj (h.symm.trans hlistener)
  case chosen => exact nofun

/-- A client port whose socket and `reason` stay as they are. -/
theorem Inv.keep (hinv : Inv n s) {i : Nat} {c : Client} (hfd : c.port.tty.fd = (s.client i).port.tty.fd)
    (hreason : c.reason = (s.client i).reason) (hconsistent : i < n → IPPort.Consistent c.port)
    (hplain : i < n → c.port.tty.flags.connectPerTransaction = false) :
    Inv n { s with client := Function.update s.client i c } := by
  have hfds : ∀ j, (Function.update s.client i c j).port.tty.fd = (s.client j).port.tty.fd := by
    intro j
    by_cases hj : j = i
    · rw [hj, Function.update_self, hfd]
    · rw [Function.update_of_ne hj]
  have hreasons : ∀ j, (Function.update s.client i c j).reason = (s.client j).reason := by
    intro j
    by_cases hj : j = i
    · rw [hj, Function.update_self, hreason]
    · rw [Function.update_of_ne hj]
  constructor
  case consistent =>
    exact client_update (P := fun c => IPPort.Consistent c.port) hconsistent hinv.consistent
  case plain =>
    exact client_update (P := fun c => c.port.tty.flags.connectPerTransaction = false) hplain hinv.plain
  case isOpen =>
    simp only [hfds]
    exact hinv.isOpen
  case apart =>
    simp only [hfds]
    exact hinv.apart
  case fresh => exact hinv.fresh
  case once => exact hinv.once
  case owner =>
    simp only [hfds, hreasons]
    exact hinv.owner
  case reason =>
    simp only [hreasons]
    exact hinv.reason
  case chosen =>
    simp only [hfds, hreasons]
    exact hinv.chosen

/-- A client port that closes its socket. -/
theorem Inv.close (hinv : Inv n s) {i : Nat} (hi : i < n) {fd : Fd}
    (hopen : (s.client i).port.tty.fd = some fd) {port : Port} (hclosed : port.tty.fd = none)
    (hconsistent : IPPort.Consistent port) (hplain : port.tty.flags.connectPerTransaction = false) :
    Inv n { s with
      client := Function.update s.client i { s.client i with port := port }
      socket := Function.update s.socket fd none } := by
  have hother : ∀ j, j ≠ i → Function.update s.client i { s.client i with port := port } j = s.client j :=
    fun j hj => Function.update_of_ne hj _ _
  have hreasons : ∀ j,
      (Function.update s.client i { s.client i with port := port } j).reason = (s.client j).reason := by
    intro j
    by_cases hj : j = i
    · rw [hj, Function.update_self]
    · rw [hother j hj]
  -- The other client ports have other descriptors.
  have hfds : ∀ j, j < n → ∀ fd',
      (Function.update s.client i { s.client i with port := port } j).port.tty.fd = some fd' →
        (s.client j).port.tty.fd = some fd' ∧ fd' ≠ fd ∧ j ≠ i := by
    intro j hj fd' hfd'
    by_cases hji : j = i
    · subst hji
      simp only [Function.update_self, hclosed] at hfd'
      exact nomatch hfd'
    · simp only [hother j hji] at hfd'
      refine ⟨hfd', ?_, hji⟩
      rintro rfl
      exact hji (hinv.apart j hj i hi fd' hfd' hopen)
  have hsocket : ∀ fd' x, Function.update s.socket fd none fd' = some x →
      fd' ≠ fd ∧ s.socket fd' = some x := by
    intro fd' x hx
    by_cases hfd' : fd' = fd
    · subst hfd'
      simp only [Function.update_self] at hx
      exact nomatch hx
    · simp only [Function.update_of_ne hfd'] at hx
      exact ⟨hfd', hx⟩
  constructor
  case consistent =>
    exact client_update (P := fun c => IPPort.Consistent c.port) (fun _ => hconsistent) hinv.consistent
  case plain =>
    exact client_update (P := fun c => c.port.tty.flags.connectPerTransaction = false) (fun _ => hplain)
      hinv.plain
  case isOpen =>
    intro j hj fd' hfd'
    obtain ⟨hold, hne, -⟩ := hfds j hj fd' hfd'
    simp only [Function.update_of_ne hne]
    exact hinv.isOpen j hj fd' hold
  case apart =>
    intro j hj j' hj' fd' h h'
    exact hinv.apart j hj j' hj' fd' (hfds j hj fd' h).1 (hfds j' hj' fd' h').1
  case fresh => exact fun fd' k hk => hinv.fresh fd' k (hsocket fd' _ hk).2
  case once =>
    exact fun fd₁ fd₂ k h₁ h₂ => hinv.once fd₁ fd₂ k (hsocket fd₁ _ h₁).2 (hsocket fd₂ _ h₂).2
  case owner =>
    intro fd' k hk
    obtain ⟨hne, hold⟩ := hsocket fd' _ hk
    simp only [hreasons]
    rcases hinv.owner fd' k hold with ⟨j, hj, hfd⟩ | hchosen
    · refine .inl ⟨j, hj, ?_⟩
      have hji : j ≠ i := by
        rintro rfl
        exact hne (Option.some.inj (hfd.symm.trans hopen))
      simp only [hother j hji]
      exact hfd
    · exact .inr hchosen
  case reason =>
    simp only [hreasons]
    exact hinv.reason
  case chosen =>
    intro j hj
    obtain ⟨hjn, hnone, fd', hpos, hreason, ⟨k, hk⟩, hnotOpen⟩ := hinv.chosen j hj
    have hji : j ≠ i := by
      rintro rfl
      exact nomatch hnone.symm.trans hopen
    have hne : fd' ≠ fd := by
      rintro rfl
      exact hnotOpen i hi hopen
    refine ⟨hjn, ?_, fd', hpos, ?_, ⟨k, ?_⟩, ?_⟩
    · simp only [hother j hji]
      exact hnone
    · rw [hreasons]
      exact hreason
    · simp only [Function.update_of_ne hne]
      exact hk
    · intro j' hj' h
      exact hnotOpen j' hj' (hfds j' hj' fd' h).1

theorem Inv.call (hinv : Inv n s) {i : Nat} (hi : i < n) {a : IPPort.Action} (hcall : isCall a = true)
    {port : Port} (hstep : IPPort.step (s.client i).port a = some port)
    (hplain : port.tty.flags.connectPerTransaction = false) :
    Inv n { s with
      client := Function.update s.client i { s.client i with port := port }
      socket := release (s.client i).port.tty.fd port.tty.fd s.socket } := by
  have hconsistent := Consistent.call (hinv.consistent i hi) (hinv.plain i hi) hcall hstep
  have hfd := call_fd (hinv.plain i hi) hcall hstep
  have hkeep : port.tty.fd = (s.client i).port.tty.fd →
      Inv n { s with client := Function.update s.client i { s.client i with port := port } } :=
    fun hsame => hinv.keep hsame rfl (fun _ => hconsistent) fun _ => hplain
  unfold release
  cases hopen : (s.client i).port.tty.fd with
  | none => exact hkeep (hfd.elim id fun hnone => hnone.trans hopen.symm)
  | some fd =>
      simp only
      split
      · next hsame => exact hkeep (hsame.trans hopen.symm)
      · next hchanged =>
          have hclosed : port.tty.fd = none := hfd.resolve_left fun h => hchanged (h.trans hopen)
          exact hinv.close hi hopen hclosed hconsistent hplain

theorem inv_of_reachable (hreach : (machine n).Reachable Admissible s) : Inv n s := by
  refine hreach.invariant (fun s => Inv.start) ?_
  intro s a s' hok hinv hmachine
  have hstep : step n s a = some s' := hmachine
  unfold step at hstep
  cases a with
  | accept fd =>
      simp only at hstep
      split at hstep
      · next hguard =>
          cases hstep
          exact hinv.accept hok hguard.1 hguard.2
      · exact nomatch hstep
  | acceptFails =>
      simp only at hstep
      split at hstep
      · cases hstep
        exact hinv
      · exact nomatch hstep
  | connectDevice r =>
      simp only at hstep
      split at hstep
      · exact nomatch hstep
      · next i hlistener =>
          split at hstep
          · exact nomatch hstep
          · cases hstep
            exact hinv.connectDevice hlistener hok
  | call i a =>
      simp only at hstep
      split at hstep
      · next hguard =>
          split at hstep
          · exact nomatch hstep
          · next port hcall =>
              split at hstep
              · exact nomatch hstep
              · next hplain =>
                  cases hstep
                  exact hinv.call hguard.1 hguard.2 hcall (Bool.eq_false_iff.mpr hplain)
      · exact nomatch hstep
  | enable i yesNo =>
      simp only at hstep
      split at hstep
      · next hi =>
          cases hstep
          exact hinv.keep rfl rfl (fun _ => hinv.consistent i hi) fun _ => hinv.plain i hi
      · exact nomatch hstep

/-! ## The results -/

theorem Inv.handed (hinv : Inv n s) (hlistener : s.listener = .accepting) : Handed n s where
  socket := by
    intro k _
    by_cases hopen : ∃ fd, s.socket fd = some (.accepted k)
    · obtain ⟨fd, hfd⟩ := hopen
      rcases hinv.owner fd k hfd with ⟨i, hi, hport⟩ | ⟨i, hi, -⟩
      · have hconnected : (s.client i).port.connected = true := by
          refine ((hinv.consistent i hi).socket (hinv.plain i hi)).mpr ?_
          rw [hport]
          rfl
        refine .inl ⟨i, ⟨hi, hconnected, fd, hport, hfd⟩, ?_⟩
        rintro j hj ⟨-, fd', hport', hfd'⟩
        have hsame := hinv.once fd' fd k hfd' hfd
        rw [hsame] at hport'
        exact hinv.apart j hj i hi fd hport' hport
      · exact nomatch hlistener.symm.trans hi
    · exact .inr fun fd hfd => hopen ⟨fd, hfd⟩
  reason := fun i hi => hinv.reason i hi fun h => nomatch hlistener.symm.trans h

/-- What the listener does leaves a client port that is connected as it is. -/
def Undisturbed (n : Nat) (s : State) : Prop :=
  ∀ a s', (∀ i call, a ≠ .call i call) → step n s a = some s' →
    ∀ i, i < n → (s.client i).port.connected = true → (s'.client i).port = (s.client i).port

theorem Inv.undisturbed (hinv : Inv n s) : Undisturbed n s := by
  intro a s' ha hstep i hi hconnected
  have hupdate : ∀ (j : Nat) (c : Client), c.port = (s.client j).port →
      (Function.update s.client j c i).port = (s.client i).port := by
    intro j c hport
    by_cases hij : i = j
    · subst hij
      rw [Function.update_self, hport]
    · rw [Function.update_of_ne hij]
  unfold step at hstep
  cases a with
  | accept fd =>
      simp only at hstep
      split at hstep
      · cases hstep
        unfold IPServerPort.accept
        split
        · rfl
        · exact hupdate _ _ rfl
      · exact nomatch hstep
  | acceptFails =>
      simp only at hstep
      split at hstep
      · cases hstep
        rfl
      · exact nomatch hstep
  | connectDevice r =>
      simp only at hstep
      split at hstep
      · exact nomatch hstep
      · next j hlistener =>
          obtain ⟨hj, hnone, -⟩ := hinv.chosen j hlistener
          -- The chosen port has no socket, and a connected one has.
          have hij : i ≠ j := by
            rintro rfl
            have hsome := ((hinv.consistent i hi).socket (hinv.plain i hi)).mp hconnected
            rw [hnone] at hsome
            exact nomatch hsome
          split at hstep
          · exact nomatch hstep
          · cases hstep
            unfold IPServerPort.connectDevice
            simp only
            split
            · rfl
            · simp only [Function.update_of_ne hij]
  | call j call => exact absurd rfl (ha j call)
  | enable j yesNo =>
      simp only at hstep
      split at hstep
      · cases hstep
        exact hupdate _ _ rfl
      · exact nomatch hstep

/-- At the end of every iteration of a run in which the listener's connections can be made. -/
theorem handed_over (n : Nat) (s : State) (hreach : (machine n).Reachable Admissible s) :
    (s.listener = .accepting → Handed n s) ∧ Undisturbed n s := by
  have hinv := inv_of_reachable hreach
  exact ⟨hinv.handed, hinv.undisturbed⟩

/-- Client ports for `localhost:5`. -/
def fresh : State :=
  ⟨fun _ => ⟨IPPort.configured "localhost:5", true, 0⟩, fun _ => none, 0, .accepting⟩

theorem start_fresh : Start fresh := ⟨"localhost:5".toList, _, rfl, rfl, rfl⟩

def after (n : Nat) (actions : List Action) : State := ((machine n).exec fresh actions).getD fresh

/-- Answers with which a descriptor can be used, and with which it cannot. -/
def useful (nodelay : Bool) : ConnectAnswers := ⟨none, true, true, none, true, true, .connected, nodelay⟩

def check (s : State) : Action → Bool
  | .accept fd => 0 < fd
  | .connectDevice r => r.nonBlock && r.nodelay && match s.listener with
      | .accepting => false
      | .connecting i => (s.client i).enabled && !(s.client i).port.tty.flags.shutdown
  | _ => true

/-- A client port closes its socket, and gets the next one under the same descriptor. -/
theorem handed_over_example :
    ∃ s, (machine 2).Reachable Admissible s ∧ (Holds s 0 1 ∧ (s.client 0).reason = 0) ∧
      Handed 2 s ∧ Undisturbed 2 s := by
  let actions : List Action :=
    [.accept 7, .connectDevice (useful true), .call 0 .disconnect, .accept 7,
      .connectDevice (useful true)]
  have hrun : (machine 2).execGuarded check fresh actions = some (after 2 actions) := rfl
  have hreach : (machine 2).Reachable Admissible (after 2 actions) := by
    refine Machine.reachable_of_execGuarded (I := fun _ => True) ?_ (fun _ _ _ _ _ _ => trivial)
      start_fresh trivial hrun
    intro s a _ hcheck
    cases a with
    | accept fd =>
        have hfd : 0 < fd := of_decide_eq_true hcheck
        exact hfd
    | acceptFails => exact trivial
    | connectDevice r =>
        intro i hlistener
        unfold check at hcheck
        simp only [hlistener, Bool.and_eq_true, Bool.not_eq_true'] at hcheck
        exact ⟨hcheck.2.1, hcheck.2.2, hcheck.1.1, hcheck.1.2⟩
    | call i a => exact trivial
    | enable i yesNo => exact trivial
  have hsound := handed_over 2 _ hreach
  have hholds : Holds (after 2 actions) 0 1 := ⟨rfl, 7, rfl, rfl⟩
  exact ⟨_, hreach, ⟨hholds, rfl⟩, hsound.1 rfl, hsound.2⟩

/-- A client port that is disabled: the accepted socket stays open, and belongs to no client port. -/
theorem accepted_leaks :
    ∃ s, (machine 1).Reachable Machine.Unguarded s ∧ s.listener = .accepting ∧
      ¬ (∀ i, i < 1 → (s.client i).reason = 0) ∧
      ¬ ((∃ i, (i < 1 ∧ Holds s i 0) ∧ ∀ j, j < 1 → Holds s j 0 → j = i) ∨
        ∀ fd, s.socket fd ≠ some (.accepted 0)) := by
  let actions : List Action := [.enable 0 false, .accept 7, .connectDevice (useful true)]
  have hrun : (machine 1).exec fresh actions = some (after 1 actions) := rfl
  refine ⟨_, Machine.reachable_of_exec start_fresh hrun, rfl, ?_, ?_⟩
  · intro hreason
    exact nomatch hreason 0 Nat.one_pos
  · rintro (⟨i, ⟨hi, hconnected, -⟩, -⟩ | hclosed)
    · cases Nat.lt_one_iff.mp hi
      exact nomatch hconnected
    · exact hclosed 7 rfl

end IPServerPort
end Serial
end AsynDriver
