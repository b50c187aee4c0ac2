import AsynDriver.Serial.IPPort

/-!
# The connection state of an IP port

* `Consistent` — outside connect-per-transaction mode the manager's flag says whether the socket is open.
* `Transacting` — in that mode the flag follows the requests, whatever the transactions do.
* `Refreshed` — a new `hostInfo` makes of the port what a fresh one is, also when it is connected again.
* `Admissible` — the runs: not a new `hostInfo` for a port in connect-per-transaction mode that is
  connected and has no open socket.
* `connection_state_sound` — the results for every state of such runs.
* `disconnect_keeps_mode` — why the flag does not follow the mode.

The texts of two ports are parsed side by side (`parseText_agree`), and so are their reconnects
(`connectIt_agree`).
-/

namespace AsynDriver
namespace Serial
namespace IPPort

open Library
open Manager (AsynStatus)

/-! ## What the calls change -/

/-- Connect-per-transaction mode, and whether the port is shut down. -/
def Flags.mode (flags : Flags) : Bool × Bool := (flags.connectPerTransaction, flags.shutdown)

theorem closeConnection_fd (p : Port) : (closeConnection p).tty.fd = none := by
  unfold closeConnection
  simp only
  split <;> rfl

theorem closeConnection_flags (p : Port) : (closeConnection p).tty.flags = p.tty.flags := by
  unfold closeConnection
  simp only
  split <;> rfl

theorem closeConnection_connected (p : Port) : (closeConnection p).connected =
    (p.connected && p.tty.flags.connectPerTransaction && !p.tty.flags.shutdown) := by
  unfold closeConnection exceptionDisconnect
  simp only
  cases p.connected <;> cases p.tty.flags.connectPerTransaction <;> cases p.tty.flags.shutdown <;> rfl

/-- The mode of a port and its socket do not depend on a lookup. -/
theorem lookup_keeps {r : ConnectAnswers} {tty found : TtyController} (hlookup : lookup r tty = some found) :
    found.fd = tty.fd ∧ found.flags.mode = tty.flags.mode := by
  unfold lookup at hlookup
  split at hlookup
  · obtain ⟨addr, -, rfl⟩ := Option.map_eq_some_iff.mp hlookup
    exact ⟨rfl, rfl⟩
  · cases hlookup
    exact ⟨rfl, rfl⟩

theorem openSocket_keeps (r : ConnectAnswers) (tty : TtyController) :
    (openSocket r tty).2.1.fd = tty.fd ∧ (openSocket r tty).2.1.flags.mode = tty.flags.mode := by
  unfold openSocket
  split
  · exact ⟨rfl, rfl⟩
  · split
    · exact ⟨rfl, rfl⟩
    · split
      · exact ⟨rfl, rfl⟩
      · split
        · exact ⟨rfl, rfl⟩
        · next hlookup =>
            split
            · exact lookup_keeps hlookup
            · exact lookup_keeps hlookup

theorem useSocket_keeps (r : ConnectAnswers) (reason : Int) (tty : TtyController) (fd : Fd) :
    (useSocket r reason tty fd).2.1.flags.mode = tty.flags.mode ∧
      ((useSocket r reason tty fd).2.1.fd =
        if (useSocket r reason tty fd).1 = .asynSuccess then some fd else tty.fd) := by
  unfold useSocket
  split
  · exact ⟨rfl, rfl⟩
  · split
    · exact ⟨rfl, rfl⟩
    · split
      · exact ⟨rfl, rfl⟩
      · exact ⟨rfl, rfl⟩

/-- A connection that is made has a socket, and one that is not made changes nothing about it. -/
theorem connectIt_keeps (r : ConnectAnswers) (reason : Int) (tty : TtyController) :
    (connectIt r reason tty).2.1.flags.mode = tty.flags.mode ∧
      ((connectIt r reason tty).1 = .asynSuccess → (connectIt r reason tty).2.1.fd.isSome = true) ∧
      ((connectIt r reason tty).1 ≠ .asynSuccess → (connectIt r reason tty).2.1.fd = tty.fd) := by
  have huse : ∀ tty fd, ((useSocket r reason tty fd).1 = .asynSuccess →
      (useSocket r reason tty fd).2.1.fd.isSome = true) ∧
      ((useSocket r reason tty fd).1 ≠ .asynSuccess → (useSocket r reason tty fd).2.1.fd = tty.fd) := by
    intro tty fd
    rw [(useSocket_keeps r reason tty fd).2]
    constructor
    · intro hsuccess
      rw [if_pos hsuccess]
      rfl
    · intro hfail
      rw [if_neg hfail]
  unfold connectIt
  split
  · exact ⟨rfl, nofun, fun _ => rfl⟩
  · split
    · exact ⟨rfl, nofun, fun _ => rfl⟩
    · split
      · exact ⟨(useSocket_keeps r reason tty _).1, huse tty _⟩
      · have hopen := openSocket_keeps r tty
        split
        · next heq =>
            rw [heq] at hopen
            exact ⟨hopen.2, nofun, fun _ => hopen.1⟩
        · next fd found _ heq =>
            rw [heq] at hopen
            refine ⟨(useSocket_keeps r reason found fd).1.trans hopen.2, (huse found fd).1, ?_⟩
            intro hfail
            exact ((huse found fd).2 hfail).trans hopen.1

/-! ## What a text makes of a port -/

theorem parseUnix_fd (tty : TtyController) (path : List Char) : (parseUnix tty path).2.fd = tty.fd := by
  unfold parseUnix
  split <;> rfl

theorem parseLocalPort_keeps {tty bound : TtyController} {secondColon : Option (List Char)}
    (hbound : parseLocalPort tty secondColon = some bound) :
    bound.fd = tty.fd ∧ bound.flags = tty.flags ∧ bound.socketType = tty.socketType := by
  unfold parseLocalPort at hbound
  split at hbound
  · cases hbound
    exact ⟨rfl, rfl, rfl⟩
  · split at hbound
    · exact nomatch hbound
    · cases hbound
      exact ⟨rfl, rfl, rfl⟩

theorem Protocol.flags_shutdown (flags : Flags) (protocol : Protocol) :
    (protocol.flags flags).shutdown = flags.shutdown := by
  cases protocol <;> rfl

/-- Without a return of 0 the port stays shut down, and in no mode. -/
theorem parseInet_keeps (tty : TtyController) :
    (parseInet tty).2.fd = tty.fd ∧ (parseInet tty).2.flags.shutdown = tty.flags.shutdown ∧
      ((parseInet tty).1 = none → (parseInet tty).2.flags.connectPerTransaction =
        tty.flags.connectPerTransaction) := by
  unfold parseInet
  split
  · exact ⟨rfl, rfl, fun _ => rfl⟩
  · simp only
    split
    · exact ⟨rfl, rfl, fun _ => rfl⟩
    · split
      · exact ⟨rfl, rfl, fun _ => rfl⟩
      · next bound hbound =>
          obtain ⟨hfd, hflags, -⟩ := parseLocalPort_keeps hbound
          have hshutdown : bound.flags.shutdown = tty.flags.shutdown := by rw [hflags]
          have hmode : bound.flags.connectPerTransaction = tty.flags.connectPerTransaction := by
            rw [hflags]
          split
          · exact ⟨hfd, hshutdown, fun _ => hmode⟩
          · refine ⟨hfd, ?_, nofun⟩
            exact (Protocol.flags_shutdown _ _).trans hshutdown

theorem parseText_keeps (tty : TtyController) (hostInfo : List Char) :
    (parseText tty hostInfo).2.fd = none ∧ (parseText tty hostInfo).2.flags.shutdown = true ∧
      ((parseText tty hostInfo).1 = none →
        (parseText tty hostInfo).2.flags.connectPerTransaction = false) := by
  unfold parseText
  simp only
  split
  · refine ⟨parseUnix_fd _ _, ?_⟩
    unfold parseUnix
    split <;> exact ⟨rfl, fun _ => rfl⟩
  · exact parseInet_keeps (tty.resetFor hostInfo)

theorem closeForHostInfo_connected (p : Port) :
    (closeForHostInfo p).connected = (p.connected && !p.tty.fd.isSome) := by
  unfold closeForHostInfo
  split
  · next hopen =>
      rw [closeConnection_connected, hopen]
      simp
  · next hclosed =>
      rw [Bool.eq_false_iff.mpr hclosed]
      simp

/-- What `parseHostInfo` does to the connection, whether it returns 0 or not. -/
theorem parseHostInfo_keeps (p : Port) (hostInfo : List Char) :
    (parseHostInfo p hostInfo).2.tty.fd = none ∧
      (parseHostInfo p hostInfo).2.connected = (p.connected && !p.tty.fd.isSome) ∧
      (parseHostInfo p hostInfo).2.tty.flags.shutdown = !(parseHostInfo p hostInfo).1 ∧
      ((parseHostInfo p hostInfo).1 = false →
        (parseHostInfo p hostInfo).2.tty.flags.connectPerTransaction = false) := by
  obtain ⟨hfd, hshutdown, hmode⟩ := parseText_keeps (closeForHostInfo p).tty hostInfo
  have hconnected := closeForHostInfo_connected p
  unfold parseHostInfo
  simp only
  split
  · next heq =>
      rw [heq] at hfd hshutdown hmode
      exact ⟨hfd, hconnected, hshutdown, fun _ => hmode rfl⟩
  · next heq =>
      rw [heq] at hfd
      exact ⟨hfd, hconnected, rfl, nofun⟩

/-! ## The connection -/

/-- Also, a port in connect-per-transaction mode is not shut down. -/
structure Consistent (p : Port) : Prop where
  socket : p.tty.flags.connectPerTransaction = false → (p.connected = true ↔ p.tty.fd.isSome = true)
  mode : p.tty.flags.connectPerTransaction = true → p.tty.flags.shutdown = false

/-- In connect-per-transaction mode, a new text for a port that is connected without a socket leaves the
manager's flag as it is. -/
def Admissible (p : Port) : Action → Prop
  | .setOption key _ => caseEq key "hostInfo" = true →
      ¬ (p.tty.flags.connectPerTransaction = true ∧ p.connected = true ∧ p.tty.fd = none)
  | _ => True

variable {p q : Port}

theorem consistent_of_closed (hfd : p.tty.fd = none) (hconnected : p.connected = false)
    (hmode : p.tty.flags.connectPerTransaction = true → p.tty.flags.shutdown = false) :
    Consistent p where
  socket := by
    intro _
    rw [hfd, hconnected]
    exact Iff.rfl
  mode := hmode

/-- The mode stays, and outside connect-per-transaction mode the flag follows the socket. -/
theorem Consistent.of_mode (hp : Consistent p) (hmode : q.tty.flags.mode = p.tty.flags.mode)
    (hsocket : p.tty.flags.connectPerTransaction = false →
      (q.connected = true ↔ q.tty.fd.isSome = true)) : Consistent q where
  socket := fun h => hsocket ((congrArg Prod.fst hmode).symm.trans h)
  mode := fun h => (congrArg Prod.snd hmode).trans (hp.mode ((congrArg Prod.fst hmode).symm.trans h))

theorem Consistent.connect (hp : Consistent p) (r : ConnectAnswers) (reason : Int) :
    Consistent (asynCommonConnect r reason p).2 := by
  unfold asynCommonConnect
  split
  -- Connect-per-transaction: of the two fields only the mode counts.
  · next h => exact hp.of_mode rfl fun hmode => nomatch h.symm.trans hmode
  · obtain ⟨hmode, hopen, hclosed⟩ := connectIt_keeps r reason p.tty
    simp only
    split
    · next hsuccess => exact hp.of_mode hmode fun _ => iff_of_true rfl (hopen hsuccess)
    · next hfail =>
        refine hp.of_mode hmode fun hother => ?_
        rw [hclosed hfail]
        exact hp.socket hother

/-- Neither the flag nor the socket is left. -/
theorem asynCommonDisconnect_keeps (p : Port) :
    (asynCommonDisconnect p).connected = false ∧ (asynCommonDisconnect p).tty.fd = none ∧
      (asynCommonDisconnect p).tty.flags = p.tty.flags := by
  unfold asynCommonDisconnect
  simp only
  split
  · exact ⟨rfl, closeConnection_fd p, closeConnection_flags p⟩
  · next hmode =>
      refine ⟨?_, closeConnection_fd p, closeConnection_flags p⟩
      rw [closeConnection_connected, Bool.eq_false_iff.mpr hmode, Bool.and_false, Bool.false_and]

theorem Consistent.close (hp : Consistent p) : Consistent (closeConnection p) := by
  refine hp.of_mode (congrArg Flags.mode (closeConnection_flags p)) fun hmode => ?_
  rw [closeConnection_connected, closeConnection_fd, hmode, Bool.and_false, Bool.false_and]
  exact Iff.rfl

theorem Consistent.open (hp : Consistent p) (r : ConnectAnswers) (reason : Int) :
    Consistent (openForTransaction r reason p).2 := by
  unfold openForTransaction
  split
  · exact hp
  · split
    · next hmode =>
        exact hp.of_mode (connectIt_keeps r reason p.tty).1 fun h => nomatch hmode.symm.trans h
    · exact hp

/-- Counters and options do not matter. -/
theorem Consistent.congr (hp : Consistent p) (hfd : q.tty.fd = p.tty.fd)
    (hflags : q.tty.flags = p.tty.flags) (hconnected : q.connected = p.connected) : Consistent q := by
  refine hp.of_mode (congrArg Flags.mode hflags) fun hmode => ?_
  rw [hfd, hconnected]
  exact hp.socket hmode

theorem Consistent.read (hp : Consistent p) (r : ReadAnswers) (reason : Int) (timeoutPositive : Bool)
    (maxchars : Nat) : Consistent (readIt r reason timeoutPositive maxchars p).2 := by
  have hopen := hp.open r.connect reason
  unfold readIt
  split
  · next q heq =>
      rw [heq] at hopen
      split
      · exact hopen
      · split
        · exact hopen
        · split
          · next bytes _ =>
            simp only
            split
            · have hcounted : Consistent
                  { q with tty := { q.tty with nRead := q.tty.nRead + bytes.length } } :=
                hopen.congr rfl rfl rfl
              exact hcounted.close
            · exact hopen.congr rfl rfl rfl
          · split
            · exact hopen.close
            · exact hopen
          · exact hopen.close
  · next heq =>
      rw [heq] at hopen
      exact hopen

theorem Consistent.writeLoop {answers : List SendAnswer} {numchars : Nat} (hp : Consistent p)
    {result : AsynStatus × Nat × Port} (hloop : writeLoop answers numchars p = some result) :
    Consistent result.2.2 := by
  -- On the answers of `send`; each turn leaves a consistent port behind, whichever way it ends.
  induction answers generalizing numchars p result with
  | nil => exact nomatch hloop
  | cons answer answers ih =>
      cases answer with
      | pollFails =>
          cases hloop
          exact hp
      | pollTimesOut =>
          cases hloop
          exact hp
      | error =>
          cases hloop
          exact hp.close
      | sent n =>
          unfold IPPort.writeLoop at hloop
          split at hloop
          · cases hloop
            exact hp
          · simp only at hloop
            split at hloop
            · cases hloop
              exact hp.congr rfl rfl rfl
            · obtain ⟨later, hlater, rfl⟩ := Option.map_eq_some_iff.mp hloop
              have hrest : Consistent later.2.2 := by
                refine ih ?_ hlater
                exact hp.congr rfl rfl rfl
              exact hrest

theorem Consistent.write (hp : Consistent p) {r : WriteAnswers} {reason : Int} {numchars : Nat}
    {result : AsynStatus × Nat × Port} (hwrite : writeIt r reason numchars p = some result) :
    Consistent result.2.2 := by
  have hopen := hp.open r.connect reason
  unfold writeIt at hwrite
  split at hwrite
  · next q heq =>
      rw [heq] at hopen
      split at hwrite
      · cases hwrite
        exact hopen
      · exact hopen.writeLoop hwrite
  · next heq =>
      cases hwrite
      rw [heq] at hopen
      exact hopen

theorem parseHostInfo_mode (p : Port) (hostInfo : List Char)
    (hmode : (parseHostInfo p hostInfo).2.tty.flags.connectPerTransaction = true) :
    (parseHostInfo p hostInfo).2.tty.flags.shutdown = false := by
  obtain ⟨-, -, hshutdown, hnone⟩ := parseHostInfo_keeps p hostInfo
  rw [hshutdown]
  cases hstatus : (parseHostInfo p hostInfo).1 with
  | true => rfl
  | false => exact nomatch (hnone hstatus).symm.trans hmode

/-- A new text leaves a port without socket, and an admissible one not connected. -/
theorem parseHostInfo_closed (hp : Consistent p)
    (hok : ¬ (p.tty.flags.connectPerTransaction = true ∧ p.connected = true ∧ p.tty.fd = none))
    (hostInfo : List Char) : (parseHostInfo p hostInfo).2.connected = false ∧
      (parseHostInfo p hostInfo).2.tty.fd = none := by
  obtain ⟨hfd, hconnected, -⟩ := parseHostInfo_keeps p hostInfo
  refine ⟨?_, hfd⟩
  rw [hconnected]
  -- `closeForHostInfo` tells the manager only about an open socket, so that the rest is `hok`.
  cases hopen : p.tty.fd with
  | some fd => exact Bool.and_false _
  | none =>
      cases hmode : p.tty.flags.connectPerTransaction with
      | false =>
          have hiff := hp.socket hmode
          rw [hopen] at hiff
          rw [Bool.eq_false_iff.mpr fun h => nomatch hiff.mp h]
          rfl
      | true =>
          rw [Bool.eq_false_iff.mpr fun h => hok ⟨hmode, h, hopen⟩]
          rfl

theorem Consistent.setOption (hp : Consistent p) {key val : List Char}
    (hok : Admissible p (.setOption key val)) : Consistent (setOption key val p).2 := by
  have hhostInfo : caseEq key "hostInfo" = true → Consistent (parseHostInfo p val).2 := by
    intro hkey
    obtain ⟨hconnected, hfd⟩ := parseHostInfo_closed hp (hok hkey) val
    exact consistent_of_closed hfd hconnected (parseHostInfo_mode p val)
  unfold IPPort.setOption
  split
  · split
    · exact hp.congr rfl rfl rfl
    · split
      · exact hp.congr rfl rfl rfl
      · exact hp
  · split
    · next hkey =>
        have hparsed := hhostInfo hkey
        split
        · next heq =>
            rw [heq] at hparsed
            exact hparsed
        · next heq =>
            rw [heq] at hparsed
            exact hparsed
    · split
      · exact hp
      · exact hp

theorem consistent_of_reachable (hreach : machine.Reachable Admissible p) : Consistent p := by
  refine hreach.invariant (I := Consistent) ?_ ?_
  · rintro p ⟨hostInfo, hconfigure⟩
    have hkeeps := parseHostInfo_keeps ⟨.new, false⟩ hostInfo
    unfold configure at hconfigure
    split at hconfigure
    · exact nomatch hconfigure
    · next heq =>
        cases hconfigure
        rw [heq] at hkeeps
        exact consistent_of_closed hkeeps.1 hkeeps.2.1 fun _ => hkeeps.2.2.1
  · intro p a q hok hp hmachine
    have hstep : step p a = some q := hmachine
    cases a with
    | connect r reason =>
        cases hstep
        exact hp.connect r reason
    | disconnect =>
        cases hstep
        obtain ⟨hconnected, hfd, hflags⟩ := asynCommonDisconnect_keeps p
        refine consistent_of_closed hfd hconnected ?_
        rw [hflags]
        exact hp.mode
    | read r reason timeoutPositive maxchars =>
        cases hstep
        exact hp.read r reason timeoutPositive maxchars
    | write r reason numchars =>
        obtain ⟨result, hwrite, rfl⟩ := Option.map_eq_some_iff.mp hstep
        exact hp.write hwrite
    | setOption key val =>
        cases hstep
        exact hp.setOption hok

/-! ## A port and a fresh one -/

/-- The type, the flags, and of the remote address what is used: an address that has to be looked up first
is not. -/
structure Agree (tty fresh : TtyController) : Prop where
  socketType : tty.socketType = fresh.socketType
  flags : tty.flags = fresh.flags
  family : tty.farAddr.family = fresh.farAddr.family
  size : tty.farAddrSize = fresh.farAddrSize
  sinPort : tty.farAddr.family = .inet → tty.farAddr.sinPort = fresh.farAddr.sinPort
  sinAddr : tty.farAddr.family = .inet → tty.flags.needLookup = false →
    tty.farAddr.sinAddr = fresh.farAddr.sinAddr
  sunPath : tty.farAddr.family = .unix → tty.farAddr.sunPath = fresh.farAddr.sunPath
  fd : tty.fd = fresh.fd

structure SameBinding (tty fresh : TtyController) : Prop where
  size : tty.localAddrSize = fresh.localAddrSize
  port : 0 < tty.localAddrSize → tty.localPort = fresh.localPort

/-- A second colon. -/
def hasLocalPort (text : List Char) : Bool :=
  match strchr ':' text with
  | none => false
  | some cp => (strchr ':' cp.tail).isSome

def namesLocalPort (hostInfo : List Char) : Bool :=
  !"unix://".toList.isPrefixOf hostInfo && hasLocalPort hostInfo

/-- Whether the number can be scanned does not depend on the port. -/
theorem parseLocalPort_agree (tty fresh : TtyController) (secondColon : Option (List Char)) :
    (parseLocalPort tty secondColon = none ∧ parseLocalPort fresh secondColon = none) ∨
      ∃ bound bound', parseLocalPort tty secondColon = some bound ∧
        parseLocalPort fresh secondColon = some bound' ∧
        (secondColon.isSome = true ∨ SameBinding tty fresh → SameBinding bound bound') := by
  cases secondColon with
  | none => exact .inr ⟨tty, fresh, rfl, rfl, fun h => h.resolve_left nofun⟩
  | some text =>
      cases hnumber : scanDecimal text.tail with
      | none =>
          simp only [parseLocalPort, hnumber]
          exact .inl ⟨trivial, trivial⟩
      | some number =>
          simp only [parseLocalPort, hnumber]
          exact .inr ⟨_, _, rfl, rfl, fun _ => ⟨rfl, fun _ => rfl⟩⟩

/-- From the same flags on, the rest of a text makes the same of two ports. -/
theorem agree_addressed {bound bound' : TtyController} (hflags : bound.flags = bound'.flags)
    (hfd : bound.fd = bound'.fd) (port : Nat) (protocol : Protocol) :
    Agree
      { bound with
        farAddr := { bound.farAddr with family := .inet, sinPort := port }
        farAddrSize := sizeofSockaddrIn
        socketType := protocol.socketType
        flags := protocol.flags { bound.flags with needLookup := true } }
      { bound' with
        farAddr := { bound'.farAddr with family := .inet, sinPort := port }
        farAddrSize := sizeofSockaddrIn
        socketType := protocol.socketType
        flags := protocol.flags { bound'.flags with needLookup := true } } where
  socketType := rfl
  flags := by rw [hflags]
  family := rfl
  size := rfl
  sinPort := fun _ => rfl
  sinAddr := by
    intro _ hlookup
    cases protocol <;> exact nomatch hlookup
  sunPath := nofun
  fd := hfd

/-- The text decides what is returned, and on success everything but the binding. -/
theorem parseInet_agree (tty fresh : TtyController) (hname : tty.deviceName = fresh.deviceName)
    (hflags : tty.flags = fresh.flags) (hfd : tty.fd = fresh.fd) :
    (parseInet tty).1 = (parseInet fresh).1 ∧
      ((parseInet tty).1.isSome = true → Agree (parseInet tty).2 (parseInet fresh).2 ∧
        (hasLocalPort tty.deviceName = true ∨ SameBinding tty fresh →
          SameBinding (parseInet tty).2 (parseInet fresh).2)) := by
  unfold parseInet hasLocalPort
  cases hcolon : strchr ':' tty.deviceName with
  | none =>
      simp only [← hname, hcolon]
      exact ⟨trivial, nofun⟩
  | some cp =>
      have hcolon' : strchr ':' fresh.deviceName = some cp := hname ▸ hcolon
      simp only [hcolon']
      cases scanDecimal cp.tail with
      | none => exact ⟨rfl, nofun⟩
      | some number =>
          simp only
          -- What is set before this point is equal, for the text is the same.
          rcases parseLocalPort_agree
              { tty with hostName := some (tty.deviceName.takeWhile (· ≠ ':')) }
              { fresh with hostName := some (fresh.deviceName.takeWhile (· ≠ ':')) }
              (strchr ':' cp.tail) with ⟨hnone, hnone'⟩ | ⟨bound, bound', hbound, hbound', hbinding⟩
          · rw [hnone, hnone']
            exact ⟨rfl, nofun⟩
          · rw [hbound, hbound']
            obtain ⟨hboundFd, hboundFlags, -⟩ := parseLocalPort_keeps hbound
            obtain ⟨hboundFd', hboundFlags', -⟩ := parseLocalPort_keeps hbound'
            cases Protocol.find (protocolOf cp) with
            | none => exact ⟨rfl, nofun⟩
            | some protocol =>
                refine ⟨rfl, fun _ => ⟨?_, ?_⟩⟩
                · exact agree_addressed (hboundFlags.trans (hflags.trans hboundFlags'.symm))
                    (hboundFd.trans (hfd.trans hboundFd'.symm)) _ _
                · intro hsame
                  obtain ⟨hsize, hport⟩ := hbinding (hsame.imp_right fun h => ⟨h.size, h.port⟩)
                  exact ⟨hsize, hport⟩

theorem parseUnix_agree (tty fresh : TtyController) (hflags : tty.flags = fresh.flags)
    (hfd : tty.fd = fresh.fd) (path : List Char) :
    (parseUnix tty path).1 = (parseUnix fresh path).1 ∧
      ((parseUnix tty path).1.isSome = true → Agree (parseUnix tty path).2 (parseUnix fresh path).2 ∧
        (SameBinding tty fresh → SameBinding (parseUnix tty path).2 (parseUnix fresh path).2)) := by
  unfold parseUnix
  split
  · exact ⟨rfl, nofun⟩
  · refine ⟨rfl, fun _ => ⟨?_, fun h => ⟨h.size, h.port⟩⟩⟩
    constructor
    case flags => exact hflags
    case sinPort => exact nofun
    case sinAddr => exact nofun
    case fd => exact hfd
    all_goals simp only [implies_true]

theorem parseText_agree (tty fresh : TtyController) (hostInfo : List Char) :
    (parseText tty hostInfo).1 = (parseText fresh hostInfo).1 ∧
      ((parseText tty hostInfo).1.isSome = true →
        Agree (parseText tty hostInfo).2 (parseText fresh hostInfo).2 ∧
        (namesLocalPort hostInfo = true ∨ SameBinding tty fresh →
          SameBinding (parseText tty hostInfo).2 (parseText fresh hostInfo).2)) := by
  have hreset : SameBinding tty fresh →
      SameBinding (tty.resetFor hostInfo) (fresh.resetFor hostInfo) := fun h => ⟨h.size, h.port⟩
  unfold parseText namesLocalPort
  simp only
  split
  · obtain ⟨hstatus, hagree⟩ := parseUnix_agree (tty.resetFor hostInfo)
      (fresh.resetFor hostInfo) rfl rfl (hostInfo.drop 7)
    refine ⟨hstatus, fun hsome => ⟨(hagree hsome).1, ?_⟩⟩
    rintro (hnames | hsame)
    · next hunix =>
        rw [hunix] at hnames
        exact nomatch hnames
    · exact (hagree hsome).2 (hreset hsame)
  · obtain ⟨hstatus, hagree⟩ := parseInet_agree (tty.resetFor hostInfo)
      (fresh.resetFor hostInfo) rfl rfl rfl
    refine ⟨hstatus, fun hsome => ⟨(hagree hsome).1, ?_⟩⟩
    rintro (hnames | hsame)
    · exact (hagree hsome).2 (.inl (Bool.and_eq_true_iff.mp hnames).2)
    · exact (hagree hsome).2 (.inr (hreset hsame))

/-! ### Connecting them -/

theorem lookup_agree {tty fresh : TtyController} (hagree : Agree tty fresh) {r : ConnectAnswers}
    {found : TtyController} (hfound : lookup r tty = some found) :
    ∃ found', lookup r fresh = some found' ∧ Agree found found' ∧
      found.localAddrSize = tty.localAddrSize ∧ found'.localAddrSize = fresh.localAddrSize ∧
      found.localPort = tty.localPort ∧ found'.localPort = fresh.localPort := by
  unfold lookup at hfound ⊢
  rw [← hagree.flags]
  split at hfound
  · next hlookup =>
      obtain ⟨addr, haddr, rfl⟩ := Option.map_eq_some_iff.mp hfound
      rw [if_pos hlookup, haddr]
      refine ⟨_, rfl, ?_, rfl, rfl, rfl, rfl⟩
      constructor
      case socketType => exact hagree.socketType
      case family => exact hagree.family
      case size => exact hagree.size
      case sinPort => exact hagree.sinPort
      case sunPath => exact hagree.sunPath
      case fd => exact hagree.fd
      all_goals simp only [implies_true]
  · next hlookup =>
      cases hfound
      rw [if_neg hlookup]
      exact ⟨fresh, rfl, hagree, rfl, rfl, rfl, rfl⟩

theorem openSocket_agree {tty fresh : TtyController} (hagree : Agree tty fresh)
    (hsize : fresh.localAddrSize ≤ tty.localAddrSize) {r : ConnectAnswers} {fd : Fd}
    {found : TtyController} {destroyed : List Fd}
    (hopen : openSocket r tty = (some fd, found, destroyed)) :
    ∃ found', openSocket r fresh = (some fd, found', []) ∧ Agree found found' ∧
      (SameBinding tty fresh → SameBinding found found') := by
  unfold openSocket at hopen ⊢
  rw [← hagree.flags]
  cases hsocket : r.socket with
  | none =>
      rw [hsocket] at hopen
      exact nomatch hopen
  | some created =>
      rw [hsocket] at hopen
      simp only at hopen ⊢
      split at hopen
      · exact nomatch hopen
      · next hbroadcast =>
          rw [if_neg hbroadcast]
          split at hopen
          · exact nomatch hopen
          · next hreuse =>
              rw [if_neg hreuse]
              split at hopen
              · exact nomatch hopen
              · next hlookup =>
                  obtain ⟨found', hlookup', hfound, hs, hs', hp, hp'⟩ := lookup_agree hagree hlookup
                  rw [hlookup']
                  simp only
                  split at hopen
                  · exact nomatch hopen
                  · next hbind =>
                      cases hopen
                      -- A binding that is left over is one more call that has to succeed, never one less.
                      have hbind' : ¬ (0 < found'.localAddrSize ∧ (!r.bind) = true) := by
                        rintro ⟨hpos, hfails⟩
                        refine hbind ⟨?_, hfails⟩
                        rw [hs]
                        rw [hs'] at hpos
                        exact Nat.lt_of_lt_of_le hpos hsize
                      rw [if_neg hbind']
                      refine ⟨found', rfl, hfound, ?_⟩
                      rintro ⟨hsame, hport⟩
                      rw [← hs, ← hs'] at hsame
                      rw [← hs, ← hp, ← hp'] at hport
                      exact ⟨hsame, hport⟩

theorem useSocket_agree {tty fresh : TtyController} (hagree : Agree tty fresh) {r : ConnectAnswers}
    {reason : Int} {fd : Fd} (hsuccess : (useSocket r reason tty fd).1 = .asynSuccess) :
    (useSocket r reason fresh fd).1 = .asynSuccess ∧
      Agree (useSocket r reason tty fd).2.1 (useSocket r reason fresh fd).2.1 ∧
      (SameBinding tty fresh →
        SameBinding (useSocket r reason tty fd).2.1 (useSocket r reason fresh fd).2.1) := by
  unfold useSocket at hsuccess ⊢
  split at hsuccess
  · exact nomatch hsuccess
  · next hblock =>
      rw [if_neg hblock, if_neg hblock]
      split at hsuccess
      · exact nomatch hsuccess
      · next hconnect =>
          have hconnect' : ¬ (reason ≤ 0 ∧ fresh.socketType ≠ .dgram ∧ (!r.connect.succeeds) = true) := by
            rw [← hagree.socketType]
            exact hconnect
          rw [if_neg hconnect, if_neg hconnect']
          split at hsuccess
          · exact nomatch hsuccess
          · next hdelay =>
              have hdelay' : ¬ (fresh.socketType = .stream ∧ fresh.farAddr.family = .inet ∧
                  (!r.nodelay) = true) := by
                rw [← hagree.socketType, ← hagree.family]
                exact hdelay
              rw [if_neg hdelay, if_neg hdelay']
              refine ⟨rfl, ?_, fun h => ⟨h.size, h.port⟩⟩
              constructor
              case socketType => exact hagree.socketType
              case flags => exact hagree.flags
              case family => exact hagree.family
              case size => exact hagree.size
              case sinPort => exact hagree.sinPort
              case sinAddr => exact hagree.sinAddr
              case sunPath => exact hagree.sunPath
              case fd => rfl

/-- With the same answers of the system, the connection of a port is that of the fresh one. -/
theorem connectIt_agree {tty fresh : TtyController} (hagree : Agree tty fresh)
    (hsize : fresh.localAddrSize ≤ tty.localAddrSize) {r : ConnectAnswers} {reason : Int}
    (hsuccess : (connectIt r reason tty).1 = .asynSuccess) :
    (connectIt r reason fresh).1 = .asynSuccess ∧
      Agree (connectIt r reason tty).2.1 (connectIt r reason fresh).2.1 ∧
      (SameBinding tty fresh →
        SameBinding (connectIt r reason tty).2.1 (connectIt r reason fresh).2.1) := by
  unfold connectIt at hsuccess ⊢
  rw [← hagree.fd, ← hagree.flags]
  split at hsuccess
  · exact nomatch hsuccess
  · next hfd =>
      rw [if_neg hfd, if_neg hfd]
      split at hsuccess
      · exact nomatch hsuccess
      · next hshutdown =>
          rw [if_neg hshutdown, if_neg hshutdown]
          split at hsuccess
          · next hreason =>
              rw [if_pos hreason, if_pos hreason]
              exact useSocket_agree hagree hsuccess
          · next hreason =>
              rw [if_neg hreason, if_neg hreason]
              split at hsuccess
              · exact nomatch hsuccess
              · next hopen =>
                  obtain ⟨found', hopen', hfound, hbinding⟩ := openSocket_agree hagree hsize hopen
                  rw [hopen']
                  obtain ⟨hstatus, hresult, hsame⟩ := useSocket_agree hfound hsuccess
                  exact ⟨hstatus, hresult, fun h => hsame (hbinding h)⟩

/-! ### The answers that a connection needs -/

structure ConnectAnswers.AllSucceed (r : ConnectAnswers) : Prop where
  socket : r.socket.isSome = true
  broadcast : r.broadcast = true
  reuseport : r.reuseport = true
  hostToIPAddr : r.hostToIPAddr.isSome = true
  bind : r.bind = true
  nonBlock : r.nonBlock = true
  connect : r.connect.succeeds = true
  nodelay : r.nodelay = true

theorem useSocket_works {r : ConnectAnswers} (hr : r.AllSucceed) (reason : Int) (tty : TtyController)
    (fd : Fd) : (useSocket r reason tty fd).1 = .asynSuccess := by
  unfold useSocket
  simp [hr.nonBlock, hr.connect, hr.nodelay]

theorem connectIt_works {r : ConnectAnswers} (hr : r.AllSucceed) (reason : Int) {tty : TtyController}
    (hfd : tty.fd = none) (hshutdown : tty.flags.shutdown = false) :
    (connectIt r reason tty).1 = .asynSuccess := by
  have hlookup : ∃ found, lookup r tty = some found := by
    unfold lookup
    split
    · obtain ⟨addr, haddr⟩ := Option.isSome_iff_exists.mp hr.hostToIPAddr
      rw [haddr]
      exact ⟨_, rfl⟩
    · exact ⟨_, rfl⟩
  obtain ⟨found, hfound⟩ := hlookup
  obtain ⟨fd, hsocket⟩ := Option.isSome_iff_exists.mp hr.socket
  have hopen : openSocket r tty = (some fd, found, []) := by
    unfold openSocket
    simp [hsocket, hr.broadcast, hr.reuseport, hfound, hr.bind]
  unfold connectIt
  simp only [hfd, hshutdown, hopen, Option.isSome_none, Bool.false_eq_true, if_false]
  split
  · exact useSocket_works hr reason tty _
  · exact useSocket_works hr reason found fd

/-! ## The results -/

/-- The manager's flag in connect-per-transaction mode. -/
structure Transacting (p : Port) : Prop where
  connect : ∀ r reason, p.tty.flags.connectPerTransaction = true →
    (asynCommonConnect r reason p).1 = .asynSuccess ∧ (asynCommonConnect r reason p).2.connected = true
  disconnect : (asynCommonDisconnect p).connected = false ∧ (asynCommonDisconnect p).tty.fd = none
  read : ∀ r reason timeoutPositive maxchars, p.tty.flags.connectPerTransaction = true →
    (readIt r reason timeoutPositive maxchars p).2.connected = p.connected
  write : ∀ r reason numchars result, p.tty.flags.connectPerTransaction = true →
    writeIt r reason numchars p = some result → result.2.2.connected = p.connected
  hostInfo : ∀ val,
    ¬ (p.tty.flags.connectPerTransaction = true ∧ p.connected = true ∧ p.tty.fd = none) →
    (parseHostInfo p val).2.connected = false ∧ (parseHostInfo p val).2.tty.fd = none

theorem closeConnection_transacting (hp : Consistent p)
    (hmode : p.tty.flags.connectPerTransaction = true) :
    (closeConnection p).connected = p.connected := by
  rw [closeConnection_connected, hmode, hp.mode hmode, Bool.and_true, Bool.not_false, Bool.and_true]

theorem openForTransaction_keeps (r : ConnectAnswers) (reason : Int) (p : Port) :
    (openForTransaction r reason p).2.connected = p.connected ∧
      (openForTransaction r reason p).2.tty.flags.mode = p.tty.flags.mode := by
  unfold openForTransaction
  split
  · exact ⟨rfl, rfl⟩
  · split
    · exact ⟨rfl, (connectIt_keeps r reason p.tty).1⟩
    · exact ⟨rfl, rfl⟩

theorem readIt_transacting (hp : Consistent p) (hmode : p.tty.flags.connectPerTransaction = true)
    (r : ReadAnswers) (reason : Int) (timeoutPositive : Bool) (maxchars : Nat) :
    (readIt r reason timeoutPositive maxchars p).2.connected = p.connected := by
  obtain ⟨hsame, hkept⟩ := openForTransaction_keeps r.connect reason p
  have hopen := hp.open r.connect reason
  unfold readIt
  split
  · next q heq =>
      rw [heq] at hsame hkept hopen
      have hmode' : q.tty.flags.connectPerTransaction = true := (congrArg Prod.fst hkept).trans hmode
      split
      · exact hsame
      · split
        · exact hsame
        · split
          · next bytes _ =>
            simp only
            split
            · have hcounted : Consistent
                  { q with tty := { q.tty with nRead := q.tty.nRead + bytes.length } } :=
                hopen.congr rfl rfl rfl
              exact (closeConnection_transacting hcounted hmode').trans hsame
            · exact hsame
          · split
            · exact (closeConnection_transacting hopen hmode').trans hsame
            · exact hsame
          · exact (closeConnection_transacting hopen hmode').trans hsame
  · next heq =>
      rw [heq] at hsame
      exact hsame

theorem writeLoop_transacting {answers : List SendAnswer} {numchars : Nat} (hp : Consistent p)
    (hmode : p.tty.flags.connectPerTransaction = true) {result : AsynStatus × Nat × Port}
    (hloop : writeLoop answers numchars p = some result) : result.2.2.connected = p.connected := by
  induction answers generalizing numchars p result with
  | nil => exact nomatch hloop
  | cons answer answers ih =>
      cases answer with
      | pollFails =>
          cases hloop
          rfl
      | pollTimesOut =>
          cases hloop
          rfl
      | error =>
          cases hloop
          exact closeConnection_transacting hp hmode
      | sent n =>
          unfold writeLoop at hloop
          split at hloop
          · cases hloop
            rfl
          · simp only at hloop
            split at hloop
            · cases hloop
              rfl
            · obtain ⟨later, hlater, rfl⟩ := Option.map_eq_some_iff.mp hloop
              have hcounted : Consistent
                  { p with tty := { p.tty with nWritten := p.tty.nWritten + n } } :=
                hp.congr rfl rfl rfl
              have hrest := ih hcounted hmode hlater
              exact hrest

theorem writeIt_transacting (hp : Consistent p) (hmode : p.tty.flags.connectPerTransaction = true)
    {r : WriteAnswers} {reason : Int} {numchars : Nat} {result : AsynStatus × Nat × Port}
    (hwrite : writeIt r reason numchars p = some result) : result.2.2.connected = p.connected := by
  obtain ⟨hsame, hkept⟩ := openForTransaction_keeps r.connect reason p
  have hopen := hp.open r.connect reason
  unfold writeIt at hwrite
  split at hwrite
  · next q heq =>
      rw [heq] at hsame hkept hopen
      split at hwrite
      · cases hwrite
        exact hsame
      · exact (writeLoop_transacting hopen ((congrArg Prod.fst hkept).trans hmode) hwrite).trans hsame
  · next heq =>
      cases hwrite
      rw [heq] at hsame
      exact hsame

theorem Consistent.transacting (hp : Consistent p) : Transacting p where
  connect := by
    intro r reason hmode
    unfold asynCommonConnect
    rw [if_pos hmode]
    exact ⟨rfl, rfl⟩
  disconnect := ⟨(asynCommonDisconnect_keeps p).1, (asynCommonDisconnect_keeps p).2.1⟩
  read := fun r reason timeoutPositive maxchars hmode =>
    readIt_transacting hp hmode r reason timeoutPositive maxchars
  write := fun _ _ _ _ hmode hwrite => writeIt_transacting hp hmode hwrite
  hostInfo := fun val hok => parseHostInfo_closed hp hok val

/-- A text that is parsed, for the port and for a fresh one, and then the same answers to `connect`. -/
structure Refreshed (p : Port) (hostInfo : List Char) : Prop where
  fresh : ∀ q, parseHostInfo p hostInfo = (true, q) → ∃ f, configure hostInfo = some f ∧
    Agree q.tty f.tty ∧
    (namesLocalPort hostInfo = true ∨ p.tty.localAddrSize = 0 → SameBinding q.tty f.tty) ∧
    ∀ r reason, (asynCommonConnect r reason q).1 = .asynSuccess →
      (asynCommonConnect r reason f).1 = .asynSuccess ∧
      (asynCommonConnect r reason q).2.connected = (asynCommonConnect r reason f).2.connected ∧
      Agree (asynCommonConnect r reason q).2.tty (asynCommonConnect r reason f).2.tty ∧
      (namesLocalPort hostInfo = true ∨ p.tty.localAddrSize = 0 →
        SameBinding (asynCommonConnect r reason q).2.tty (asynCommonConnect r reason f).2.tty)
  works : ∀ q, parseHostInfo p hostInfo = (true, q) → ∀ r reason, r.AllSucceed →
    (asynCommonConnect r reason q).1 = .asynSuccess ∧ (asynCommonConnect r reason q).2.connected = true

theorem parseHostInfo_true {hostInfo : List Char} (hparse : parseHostInfo p hostInfo = (true, q)) :
    ∃ isCom tty, parseText (closeForHostInfo p).tty hostInfo = (some isCom, tty) ∧
      q = { closeForHostInfo p with tty := tty.finish isCom } := by
  unfold parseHostInfo at hparse
  simp only at hparse
  split at hparse
  · exact nomatch hparse
  · next heq =>
      cases hparse
      exact ⟨_, _, heq, rfl⟩

theorem closeForHostInfo_binding (p : Port) :
    (closeForHostInfo p).tty.localAddrSize = p.tty.localAddrSize := by
  unfold closeForHostInfo closeConnection
  split
  · simp only
    split <;> rfl
  · rfl

/-- A fresh port has a binding only of its text. -/
theorem parseText_new (hostInfo : List Char) (hnames : namesLocalPort hostInfo = false) :
    (parseText .new hostInfo).2.localAddrSize = 0 := by
  unfold namesLocalPort at hnames
  unfold parseText
  simp only
  split
  · unfold parseUnix
    split <;> rfl
  · next hunix =>
      rw [Bool.eq_false_iff.mpr hunix] at hnames
      have hcolon : hasLocalPort hostInfo = false := hnames
      unfold hasLocalPort at hcolon
      unfold parseInet
      have hname : (TtyController.resetFor .new hostInfo).deviceName = hostInfo := rfl
      rw [hname]
      cases hfirst : strchr ':' hostInfo with
      | none => rfl
      | some cp =>
          rw [hfirst] at hcolon
          have hsecond : strchr ':' cp.tail = none := Option.isNone_iff_eq_none.mp (by simpa using hcolon)
          simp only [hsecond, parseLocalPort]
          cases scanDecimal cp.tail with
          | none => rfl
          | some number =>
              simp only
              cases Protocol.find (protocolOf cp) with
              | none => rfl
              | some protocol => rfl

theorem refreshed (p : Port) (hostInfo : List Char) : Refreshed p hostInfo where
  fresh := by
    intro q hparse
    obtain ⟨isCom, tty, htext, rfl⟩ := parseHostInfo_true hparse
    obtain ⟨hstatus, hagree⟩ := parseText_agree (closeForHostInfo p).tty .new hostInfo
    rw [htext] at hstatus hagree
    cases hnew : parseText .new hostInfo with
    | mk result fresh =>
        rw [hnew] at hstatus hagree
        cases hstatus
        obtain ⟨hsame, hbinding⟩ := hagree rfl
        have hfinish : Agree (tty.finish isCom) (fresh.finish isCom) := by
          obtain ⟨htype, hflags, hfamily, hsize, hport, haddr, hpath, hfd⟩ := hsame
          refine ⟨htype, ?_, hfamily, hsize, hport, haddr, hpath, hfd⟩
          show { tty.flags with shutdown := false } = { fresh.flags with shutdown := false }
          rw [hflags]
        have hbound : namesLocalPort hostInfo = true ∨ p.tty.localAddrSize = 0 →
            SameBinding (tty.finish isCom) (fresh.finish isCom) := by
          intro hcase
          obtain ⟨hsize, hport⟩ := hbinding (hcase.imp_right fun hnone => by
            rw [← closeForHostInfo_binding p] at hnone
            exact ⟨hnone, fun hpos => absurd hnone (Nat.ne_of_gt hpos)⟩)
          exact ⟨hsize, hport⟩
        -- Without a second colon the fresh port has no binding at all.
        have hsize : (fresh.finish isCom).localAddrSize ≤ (tty.finish isCom).localAddrSize := by
          cases hnames : namesLocalPort hostInfo with
          | true => exact Nat.le_of_eq (hbound (.inl hnames)).size.symm
          | false =>
              have hzero := parseText_new hostInfo hnames
              rw [hnew] at hzero
              exact Nat.le_trans (Nat.le_of_eq hzero) (Nat.zero_le _)
        refine ⟨⟨fresh.finish isCom, false⟩, ?_, hfinish, hbound, ?_⟩
        · unfold configure parseHostInfo
          have hclosed : closeForHostInfo ⟨.new, false⟩ = ⟨.new, false⟩ := rfl
          simp only [hclosed, hnew]
        · intro r reason hsuccess
          unfold asynCommonConnect at hsuccess ⊢
          simp only at hsuccess ⊢
          rw [← hfinish.flags]
          split at hsuccess
          · next hmode =>
              rw [if_pos hmode, if_pos hmode]
              exact ⟨rfl, rfl, hfinish, hbound⟩
          · next hmode =>
              rw [if_neg hmode, if_neg hmode]
              obtain ⟨hstatus, hresult, hlocal⟩ := connectIt_agree hfinish hsize hsuccess
              simp only at hsuccess
              rw [if_pos hsuccess, if_pos hstatus]
              exact ⟨hstatus, rfl, hresult, fun h => hlocal (hbound h)⟩
  works := by
    intro q hparse r reason hr
    have hkeeps := parseHostInfo_keeps p hostInfo
    rw [hparse] at hkeeps
    obtain ⟨hfd, -, hshutdown, -⟩ := hkeeps
    unfold asynCommonConnect
    split
    · exact ⟨rfl, rfl⟩
    · have hstatus := connectIt_works hr reason hfd hshutdown
      simp only
      rw [if_pos hstatus]
      exact ⟨hstatus, rfl⟩

/-- In every state between the calls of an admissible run. -/
theorem connection_state_sound (p : Port) (hreach : machine.Reachable Admissible p) :
    Consistent p ∧ Transacting p ∧ ∀ hostInfo, Refreshed p hostInfo := by
  have hp := consistent_of_reachable hreach
  exact ⟨hp, hp.transacting, refreshed p⟩

/-- The port of a text. -/
def configured (hostInfo : String) : Port := (configure hostInfo.toList).getD ⟨.new, false⟩

def answered (fd : Fd) : ConnectAnswers := ⟨some fd, true, true, some 1, true, true, .connected, true⟩

def after (hostInfo : String) (actions : List Action) : Port :=
  (machine.exec (configured hostInfo) actions).getD ⟨.new, false⟩

/-- A TCP port is connected, and gets a text for UDP. -/
theorem connection_state_sound_example :
    ∃ p, machine.Reachable Admissible p ∧ p.connected = false ∧
      Consistent p ∧ Transacting p ∧ ∀ hostInfo, Refreshed p hostInfo := by
  let actions : List Action :=
    [.connect (answered 3) 0, .setOption "hostInfo".toList "h:6 udp".toList]
  have hreach : machine.Reachable Admissible (after "h:5" actions) := by
    have hrun : machine.execGuarded (fun p _ => !p.tty.flags.connectPerTransaction) (configured "h:5")
        actions = some (after "h:5" actions) := rfl
    refine Machine.reachable_of_execGuarded (I := fun _ => True) ?_ (fun _ _ _ _ _ _ => trivial)
      ⟨"h:5".toList, rfl⟩ trivial hrun
    intro p a _ hcheck
    cases a with
    | setOption key val =>
        rintro - ⟨hmode, -⟩
        rw [hmode] at hcheck
        exact nomatch hcheck
    | connect r reason => exact trivial
    | disconnect => exact trivial
    | read r reason timeoutPositive maxchars => exact trivial
    | write r reason numchars => exact trivial
  exact ⟨_, hreach, rfl, connection_state_sound _ hreach⟩

/-- A request to disconnect is kept in connect-per-transaction mode. -/
theorem disconnect_keeps_mode :
    ∃ p, machine.Reachable Machine.Unguarded p ∧
      ¬ (p.connected = true ↔ p.tty.fd.isSome = true ∨
        p.tty.flags.connectPerTransaction = true ∧ p.tty.flags.shutdown = false) := by
  have hrun : machine.exec (configured "h:5 http") [.connect (answered 3) 0, .disconnect] =
      some (after "h:5 http" [.connect (answered 3) 0, .disconnect]) := rfl
  refine ⟨_, Machine.reachable_of_exec ⟨"h:5 http".toList, rfl⟩ hrun, ?_⟩
  intro hiff
  exact nomatch hiff.mpr (.inr ⟨rfl, rfl⟩)

end IPPort
end Serial
end AsynDriver
