import AsynDriver.Library.Machine
import AsynDriver.Miscellaneous.Octet

/-!
# The datagram buffer of `drvAsynIPServerPort.c`

A UDP server port has one buffer.  The listener thread receives into it when `UDPbufferPos` and
`UDPbufferSize` are both 0; `readIt` and `flushIt` in the port thread consume it and set both to 0 again.  No
lock is held, so every access to the two fields is a step of its own here.

* `listen`, `receive`, `store` — `connectionListener`; `recvfrom` returns before its result is stored, and each
  callback reads the size again.
* `access` — the port thread in `readIt` and `flushIt`.
* `Delivered` — which bytes are still unread after a history of receptions, reads and flushes.
* `Sound` — the reads return the datagrams, the interrupt clients get each datagram, the listener receives
  again.
* `Admissible` — `recvfrom` does not fail, and nobody empties the buffer while clients are still to be called.
* `sound_of_reachable` — the result for every run of such steps; `failure_stored` and `size_cleared` — without
  them.

The socket stays open.  Left out: the byte counters, and the null byte after the bytes of a read.
-/

namespace AsynDriver
namespace Serial
namespace UDPServerPort

open Library
open Miscellaneous (EomReason sizeRange)

/-- `UDPbuffer`, `UDPbufferPos` and `UDPbufferSize`. -/
structure Buffer where
  bytes : List UInt8
  pos : Nat
  size : Int
  deriving DecidableEq

/-- Where the listener is.  `none` stands for a failed `recvfrom`. -/
inductive Listener
  | testPos
  | testSize
  | receiving
  | storing (result : Option (List UInt8))
  | calling (clients : List Nat)
  deriving DecidableEq

/-- Where the port thread is, with what `readIt` holds in its locals. -/
inductive PortThread
  | idle
  | testing (maxchars : Nat)
  | sizing (maxchars : Nat)
  | copying (maxchars thisRead : Nat)
  | advancing (maxchars thisRead : Nat) (data : List UInt8)
  | comparing (maxchars : Nat) (data : List UInt8)
  | resetPos (maxchars : Nat) (data : List UInt8)
  | resetSize (maxchars : Nat) (data : List UInt8)
  | flushPos
  | flushSize
  deriving DecidableEq

/-- What a client is called with. -/
structure Call where
  client : Nat
  numchars : Nat
  data : List UInt8
  deriving DecidableEq

inductive Event
  | received (datagram : List UInt8) (clients : List Nat)
  | failed
  | callback (call : Call)
  | read (data : List UInt8) (gotEom : EomReason)
  | flushed
  deriving DecidableEq

/-- The history begins with its latest event. -/
structure State where
  udp : Buffer
  listener : Listener
  port : PortThread
  history : List Event
  deriving DecidableEq

inductive Action
  | listen
  | receive (result : Option (List UInt8))
  | store (clients : List Nat)
  | read (maxchars : Nat)
  | flush
  | access
  deriving DecidableEq

def theoreticalUdpMaxSize : Nat := 65507

/-- What `recvfrom` returns. -/
def returned : Option (List UInt8) → Int
  | none => -1
  | some datagram => datagram.length

/-- The call of one client; the size becomes a `size_t`. -/
def callback (udp : Buffer) (client : Nat) : Call :=
  let numchars := (udp.size % sizeRange).toNat
  ⟨client, numchars, udp.bytes.take numchars⟩

/-- The next step of the listener that waits for nobody. -/
def listen (s : State) : Option State :=
  match s.listener with
  -- The condition of the `if` reads the position, and then the size.
  | .testPos => some { s with listener := if s.udp.pos = 0 then .testSize else .testPos }
  | .testSize => some { s with listener := if s.udp.size = 0 then .receiving else .testPos }
  | .receiving => none
  | .storing _ => none
  | .calling [] => some { s with listener := .testPos }
  -- The size is read again for each client.
  | .calling (client :: clients) =>
      some { s with
        listener := .calling clients
        history := .callback (callback s.udp client) :: s.history }

/-- `recvfrom` returns; a datagram is in the buffer then. -/
def receive (s : State) (result : Option (List UInt8)) : Option State :=
  if s.listener = .receiving ∧ (result.getD []).length ≤ theoreticalUdpMaxSize then
    let datagram := result.getD []
    some { s with
      udp := { s.udp with bytes := datagram ++ s.udp.bytes.drop datagram.length }
      listener := .storing result }
  else none

/-- The result becomes the size, and `interruptStart` gives the clients. -/
def store (s : State) (clients : List Nat) : Option State :=
  match s.listener with
  | .storing result =>
      some { s with
        udp := { s.udp with size := returned result }
        listener := .calling clients
        history := (match result with
          | none => .failed
          | some datagram => .received datagram clients) :: s.history }
  | _ => none

/-- The `gotEom` of a read.  Without room for a null byte `ASYN_EOM_CNT` is set in any case; `maxchars` is cast
to an `int` for this. -/
def gotEom (maxchars thisRead : Nat) (reason : EomReason) : EomReason :=
  if (thisRead : Int) < (maxchars : Int).bmod (2 ^ 32) then reason else { reason with cnt := true }

/-- `readIt` is done. -/
def finish (s : State) (udp : Buffer) (maxchars : Nat) (data : List UInt8) (reason : EomReason) : State :=
  { s with
    udp := udp
    port := .idle
    history := .read data (gotEom maxchars data.length reason) :: s.history }

/-- The next access of the port thread. -/
def access (s : State) : Option State :=
  match s.port with
  | .idle => none
  | .testing maxchars =>
      if s.udp.pos = 0 ∧ s.udp.size = 0 then some (finish s s.udp maxchars [] EomReason.zero)
      else some { s with port := .sizing maxchars }
  -- The size is read again here, and once more in `comparing`.
  | .sizing maxchars =>
      let remaining := (s.udp.size - s.udp.pos).toNat
      some { s with port := .copying maxchars (if remaining > maxchars then maxchars else remaining) }
  | .copying maxchars thisRead =>
      some { s with
        port := .advancing maxchars thisRead ((s.udp.bytes.drop s.udp.pos).take thisRead) }
  | .advancing maxchars thisRead data =>
      some { s with
        udp := { s.udp with pos := s.udp.pos + thisRead }
        port := .comparing maxchars data }
  | .comparing maxchars data =>
      if s.udp.size ≤ s.udp.pos then some { s with port := .resetPos maxchars data }
      else some (finish s s.udp maxchars data ⟨true, false, false⟩)
  | .resetPos maxchars data =>
      some { s with udp := { s.udp with pos := 0 }, port := .resetSize maxchars data }
  | .resetSize maxchars data =>
      some (finish s { s.udp with size := 0 } maxchars data ⟨false, false, true⟩)
  | .flushPos => some { s with udp := { s.udp with pos := 0 }, port := .flushSize }
  | .flushSize =>
      some { s with
        udp := { s.udp with size := 0 }
        port := .idle
        history := .flushed :: s.history }

/-- A read of no characters is refused. -/
def step (s : State) : Action → Option State
  | .listen => listen s
  | .receive result => receive s result
  | .store clients => store s clients
  | .read maxchars =>
      if s.port = .idle then
        some (if maxchars = 0 then s else { s with port := .testing maxchars })
      else none
  | .flush => if s.port = .idle then some { s with port := .flushPos } else none
  | .access => access s

/-- After `createServerSocket`; `malloc` leaves any bytes. -/
def Start (s : State) : Prop :=
  ∃ bytes, s = ⟨⟨bytes, 0, 0⟩, .testPos, .idle, []⟩

def machine : Machine State Action := ⟨Start, step⟩

/-! ## What the reads and the callbacks should give -/

/-- What is unread after a history.  A datagram is received only when nothing is; a read returns bytes from the
front, and `ASYN_EOM_END` exactly with the last one. -/
inductive Delivered : List Event → List UInt8 → Prop
  | nil : Delivered [] []
  | received {history : List Event} {datagram : List UInt8} {clients : List Nat}
      (hbefore : Delivered history []) : Delivered (.received datagram clients :: history) datagram
  | failed {history : List Event} {unread : List UInt8}
      (hbefore : Delivered history unread) : Delivered (.failed :: history) unread
  | callback {history : List Event} {unread : List UInt8} {call : Call}
      (hbefore : Delivered history unread) : Delivered (.callback call :: history) unread
  | read {history : List Event} {data unread : List UInt8} {eom : EomReason}
      (hbefore : Delivered history (data ++ unread))
      (hend : eom.endOfMessage = true ↔ data ≠ [] ∧ unread = []) :
      Delivered (.read data eom :: history) unread
  | flushed {history : List Event} {unread : List UInt8}
      (hbefore : Delivered history unread) : Delivered (.flushed :: history) []

/-- The calls that were made. -/
def heard : List Event → List Call
  | [] => []
  | .callback call :: history => heard history ++ [call]
  | _ :: history => heard history

/-- The call that tells a client of a datagram. -/
def tell (datagram : List UInt8) (client : Nat) : Call := ⟨client, datagram.length, datagram⟩

/-- Each client of a reception gets the datagram. -/
def expected : List Event → List Call
  | [] => []
  | .received datagram clients :: history => expected history ++ clients.map (tell datagram)
  | _ :: history => expected history

def IsListen (_ : State) (a : Action) : Prop := a = .listen

/-- Within the statement that receives. -/
def Listener.inReceive : Listener → Bool
  | .receiving => true
  | .storing _ => true
  | _ => false

structure Sound (s : State) : Prop where
  delivered : ∃ unread, Delivered s.history unread
  told : heard s.history <+: expected s.history ∧
    ((∀ clients, s.listener ≠ .calling clients) → heard s.history = expected s.history)
  receives : s.port = .idle → Delivered s.history [] →
    ∃ s', machine.Path IsListen s s' ∧ s'.listener.inReceive = true

/-- What the size is set to by the next access of the port thread. -/
def clears (s : State) : Bool :=
  match s.port with
  | .resetSize _ _ => s.udp.size ≠ 0
  | .flushSize => s.udp.size ≠ 0
  | _ => false

/-- `recvfrom` gives a datagram, and the buffer is emptied when no client is still to be called. -/
def Admissible (s : State) : Action → Prop
  | .receive result => result ≠ none
  | .access => clears s = true → ∀ client clients, s.listener ≠ .calling (client :: clients)
  | _ => True

/-! ## Histories -/

variable {history : List Event} {unread unread' : List UInt8}

/-- The history determines what is unread. -/
theorem Delivered.unique (hfirst : Delivered history unread) (hsecond : Delivered history unread') :
    unread = unread' := by
  induction hfirst generalizing unread' with
  | nil =>
      cases hsecond
      rfl
  | received =>
      cases hsecond
      rfl
  | failed _ ih =>
      cases hsecond with
      | failed hbefore => exact ih hbefore
  | callback _ ih =>
      cases hsecond with
      | callback hbefore => exact ih hbefore
  | read _ _ ih =>
      cases hsecond with
      | read hbefore => exact List.append_cancel_left (ih hbefore)
  | flushed =>
      cases hsecond
      rfl

/-- The bytes of the datagrams, and the bytes that were read. -/
def arrived : List Event → List UInt8
  | [] => []
  | .received datagram _ :: history => arrived history ++ datagram
  | _ :: history => arrived history

def taken : List Event → List UInt8
  | [] => []
  | .read data _ :: history => taken history ++ data
  | _ :: history => taken history

/-- Without a flush each byte is read, or still unread. -/
theorem Delivered.eq_arrived (hdelivered : Delivered history unread) (hkept : .flushed ∉ history) :
    taken history ++ unread = arrived history := by
  induction hdelivered with
  | nil => rfl
  | received _ ih =>
      have hrest := ih fun h => hkept (.tail _ h)
      rw [List.append_nil] at hrest
      exact congrArg (· ++ _) hrest
  | failed _ ih => exact ih fun h => hkept (.tail _ h)
  | callback _ ih => exact ih fun h => hkept (.tail _ h)
  | read _ _ ih =>
      have hrest := ih fun h => hkept (.tail _ h)
      rw [← List.append_assoc] at hrest
      exact hrest
  | flushed => exact absurd (.head _) hkept

/-! ## The invariant -/

/-- The bytes between position and size. -/
def Buffer.left (udp : Buffer) : List UInt8 := (udp.bytes.take udp.size.toNat).drop udp.pos

/-- Between two calls of the port thread. -/
def Buffer.Settled (udp : Buffer) : Prop := udp.pos = 0 ∧ udp.size = 0 ∨ (udp.pos : Int) < udp.size

/-- What is unread, where the port thread is. -/
def Pending (udp : Buffer) (unread : List UInt8) : PortThread → Prop
  | .idle => unread = udp.left ∧ udp.Settled
  | .testing maxchars => 0 < maxchars ∧ unread = udp.left ∧ udp.Settled
  | .sizing maxchars => 0 < maxchars ∧ unread = udp.left ∧ (udp.pos : Int) < udp.size
  | .copying _ thisRead =>
      0 < thisRead ∧ unread = udp.left ∧ (udp.pos + thisRead : Int) ≤ udp.size
  | .advancing _ thisRead data =>
      0 < thisRead ∧ unread = udp.left ∧ (udp.pos + thisRead : Int) ≤ udp.size ∧
        data = udp.left.take thisRead
  | .comparing _ data =>
      data ≠ [] ∧ unread = data ++ udp.left ∧ 0 < udp.size ∧ (udp.pos : Int) ≤ udp.size
  | .resetPos _ data => data ≠ [] ∧ unread = data ∧ 0 < udp.size
  | .resetSize _ data => data ≠ [] ∧ unread = data ∧ 0 < udp.size ∧ udp.pos = 0
  | .flushPos => unread = udp.left ∧ udp.Settled
  | .flushSize => udp.pos = 0 ∧ (udp.size = 0 → unread = [])

/-- What the listener knows, where it is. -/
def Known (udp : Buffer) (history : List Event) : Listener → Prop
  | .testPos => heard history = expected history
  | .testSize => heard history = expected history
  | .receiving => heard history = expected history ∧ udp.size = 0
  | .storing result => heard history = expected history ∧ udp.size = 0 ∧
      ∃ datagram rest, result = some datagram ∧ datagram.length ≤ theoreticalUdpMaxSize ∧
        udp.bytes = datagram ++ rest
  | .calling clients => ∃ datagram rest,
      heard history ++ clients.map (tell datagram) = expected history ∧
        datagram.length ≤ theoreticalUdpMaxSize ∧
        (clients ≠ [] → udp.size = datagram.length ∧ udp.bytes = datagram ++ rest)

structure Inv (s : State) : Prop where
  stored : 0 ≤ s.udp.size ∧ s.udp.size ≤ s.udp.bytes.length
  known : Known s.udp s.history s.listener
  pending : ∃ unread, Delivered s.history unread ∧ Pending s.udp unread s.port

variable {s s' : State} {udp : Buffer}

theorem Buffer.left_nil (hsize : udp.size = 0) : udp.left = [] := by
  unfold Buffer.left
  rw [hsize]
  exact List.drop_nil

theorem Buffer.left_length (hstored : udp.size ≤ udp.bytes.length) :
    udp.left.length = udp.size.toNat - udp.pos := by
  unfold Buffer.left
  rw [List.length_drop, List.length_take]
  omega

/-- What is copied is the front of what is left. -/
theorem Buffer.take_left {n : Nat} (hn : (udp.pos + n : Int) ≤ udp.size) :
    (udp.bytes.drop udp.pos).take n = udp.left.take n := by
  unfold Buffer.left
  rw [List.drop_take, List.take_take]
  congr 1
  omega

theorem Buffer.left_advance (n : Nat) :
    ({ udp with pos := udp.pos + n } : Buffer).left = udp.left.drop n := by
  unfold Buffer.left
  rw [List.drop_drop]

/-- An empty buffer with nothing unread: the listener may write it. -/
theorem Pending.refill {port : PortThread} {size : Nat} {bytes : List UInt8}
    (hpending : Pending udp unread port) (hempty : udp.size = 0) :
    unread = [] ∧ Pending { udp with bytes := bytes, size := size } (bytes.take size) port := by
  have hleft := Buffer.left_nil hempty
  have hrefill : ∀ hpos : udp.pos = 0, bytes.take size = (⟨bytes, udp.pos, size⟩ : Buffer).left ∧
      (⟨bytes, udp.pos, size⟩ : Buffer).Settled := by
    intro hpos
    refine ⟨?_, ?_⟩
    · unfold Buffer.left
      simp only [hpos, Int.toNat_natCast, List.drop_zero]
    · show udp.pos = 0 ∧ (size : Int) = 0 ∨ (udp.pos : Int) < size
      omega
  have hpos : ∀ hsettled : udp.Settled, udp.pos = 0 := by
    rintro (⟨hpos, -⟩ | hlt)
    · exact hpos
    · omega
  -- Between `sizing` and `resetSize` the port thread knows a size that is not 0.
  cases port with
  | idle => exact ⟨hpending.1.trans hleft, hrefill (hpos hpending.2)⟩
  | testing maxchars =>
      obtain ⟨hmax, hunread, hsettled⟩ := hpending
      exact ⟨hunread.trans hleft, hmax, hrefill (hpos hsettled)⟩
  | sizing maxchars =>
      obtain ⟨-, -, hlt⟩ := hpending
      omega
  | copying maxchars thisRead =>
      obtain ⟨hread, -, hle⟩ := hpending
      omega
  | advancing maxchars thisRead data =>
      obtain ⟨hread, -, hle, -⟩ := hpending
      omega
  | comparing maxchars data =>
      obtain ⟨-, -, hlt, -⟩ := hpending
      omega
  | resetPos maxchars data =>
      obtain ⟨-, -, hlt⟩ := hpending
      omega
  | resetSize maxchars data =>
      obtain ⟨-, -, hlt, -⟩ := hpending
      omega
  | flushPos => exact ⟨hpending.1.trans hleft, hrefill (hpos hpending.2)⟩
  | flushSize =>
      refine ⟨hpending.2 hempty, hpending.1, ?_⟩
      intro hzero
      have hsize0 : size = 0 := Int.natCast_eq_zero.mp hzero
      rw [hsize0, List.take_zero]

/-- An empty datagram buffer may get other bytes. -/
theorem Pending.overwrite {port : PortThread} {bytes : List UInt8}
    (hpending : Pending udp unread port) (hempty : udp.size = 0) :
    Pending { udp with bytes := bytes } unread port := by
  have hrefilled : unread = [] ∧ Pending { udp with bytes := bytes, size := (0 : Nat) } (bytes.take 0) port :=
    hpending.refill hempty
  obtain ⟨hunread, hrefill⟩ := hrefilled
  rw [List.take_zero, ← hunread] at hrefill
  have hsame : ({ udp with bytes := bytes, size := (0 : Nat) } : Buffer) = { udp with bytes := bytes } := by
    rw [hempty]
    rfl
  rw [hsame] at hrefill
  exact hrefill

/-- A client is called while the datagram is in the buffer. -/
theorem callback_eq_tell {client : Nat} {datagram rest : List UInt8}
    (hsize : udp.size = datagram.length) (hbytes : udp.bytes = datagram ++ rest)
    (hlength : datagram.length ≤ theoreticalUdpMaxSize) :
    callback udp client = tell datagram client := by
  have hnumchars : (udp.size % sizeRange).toNat = datagram.length := by
    have hrange : sizeRange = 18446744073709551616 := rfl
    have hmax : theoreticalUdpMaxSize = 65507 := rfl
    rw [hsize, hrange]
    omega
  unfold callback tell
  simp only [hnumchars, hbytes, List.take_left]

theorem Inv.listen (hinv : Inv s) (hstep : listen s = some s') : Inv s' := by
  obtain ⟨hstored, hknown, unread, hdelivered, hpending⟩ := hinv
  unfold UDPServerPort.listen at hstep
  split at hstep
  · next hlistener =>
      rw [hlistener] at hknown
      cases hstep
      refine ⟨hstored, ?_, unread, hdelivered, hpending⟩
      simp only
      split
      · exact hknown
      · exact hknown
  · next hlistener =>
      rw [hlistener] at hknown
      cases hstep
      refine ⟨hstored, ?_, unread, hdelivered, hpending⟩
      simp only
      split
      · next hsize => exact ⟨hknown, hsize⟩
      · exact hknown
  · exact nomatch hstep
  · exact nomatch hstep
  · next hlistener =>
      rw [hlistener] at hknown
      obtain ⟨datagram, rest, htold, -, -⟩ := hknown
      rw [List.map_nil, List.append_nil] at htold
      cases hstep
      exact ⟨hstored, htold, unread, hdelivered, hpending⟩
  · next client clients hlistener =>
      rw [hlistener] at hknown
      obtain ⟨datagram, rest, htold, hlength, hheld⟩ := hknown
      obtain ⟨hsize, hbytes⟩ := hheld (List.cons_ne_nil _ _)
      cases hstep
      refine ⟨hstored, ⟨datagram, rest, ?_, hlength, fun _ => ⟨hsize, hbytes⟩⟩, unread,
        .callback hdelivered, hpending⟩
      show heard s.history ++ [callback s.udp client] ++ clients.map (tell datagram) =
        expected s.history
      rw [callback_eq_tell hsize hbytes hlength, List.append_assoc]
      exact htold

theorem Inv.receive (hinv : Inv s) {result : Option (List UInt8)} (hok : result ≠ none)
    (hstep : receive s result = some s') : Inv s' := by
  obtain ⟨hstored, hknown, unread, hdelivered, hpending⟩ := hinv
  unfold UDPServerPort.receive at hstep
  split at hstep
  · next hguard =>
      obtain ⟨hlistener, hlength⟩ := hguard
      rw [hlistener] at hknown
      obtain ⟨htold, hempty⟩ := hknown
      obtain ⟨datagram, rfl⟩ := Option.ne_none_iff_exists'.mp hok
      cases hstep
      refine ⟨⟨hstored.1, ?_⟩, ⟨htold, hempty, datagram, _, rfl, hlength, rfl⟩, unread, hdelivered,
        hpending.overwrite hempty⟩
      show s.udp.size ≤ _
      rw [hempty]
      exact Int.natCast_nonneg _
  · exact nomatch hstep

theorem Inv.store (hinv : Inv s) {clients : List Nat} (hstep : store s clients = some s') :
    Inv s' := by
  obtain ⟨hstored, hknown, unread, hdelivered, hpending⟩ := hinv
  unfold UDPServerPort.store at hstep
  split at hstep
  · next result hlistener =>
      rw [hlistener] at hknown
      obtain ⟨htold, hempty, datagram, rest, rfl, hlength, hbytes⟩ := hknown
      have hfits : datagram.length ≤ s.udp.bytes.length := by
        rw [hbytes, List.length_append]
        exact Nat.le_add_right _ _
      -- Nothing was unread, so that the datagram is all that is.
      obtain ⟨rfl, hrefilled⟩ := hpending.refill hempty
      have htake : s.udp.bytes.take datagram.length = datagram := by
        rw [hbytes, List.take_left]
      rw [htake] at hrefilled
      cases hstep
      refine ⟨⟨Int.natCast_nonneg _, Int.ofNat_le.mpr hfits⟩,
        ⟨datagram, rest, congrArg (· ++ _) htold, hlength, fun _ => ⟨rfl, hbytes⟩⟩, datagram,
        .received hdelivered, hrefilled⟩
  · exact nomatch hstep

/-- The listener knows nothing of the position, and nothing of the reads. -/
theorem Known.congr {udp' : Buffer} {history' : List Event} {listener : Listener}
    (hsize : udp'.size = udp.size) (hbytes : udp'.bytes = udp.bytes)
    (hheard : heard history' = heard history) (hexpected : expected history' = expected history)
    (hknown : Known udp history listener) : Known udp' history' listener := by
  cases listener with
  | testPos => exact (hheard.trans hknown).trans hexpected.symm
  | testSize => exact (hheard.trans hknown).trans hexpected.symm
  | receiving => exact ⟨(hheard.trans hknown.1).trans hexpected.symm, hsize.trans hknown.2⟩
  | storing result =>
      obtain ⟨htold, hempty, datagram, rest, hresult, hlength, hheld⟩ := hknown
      exact ⟨(hheard.trans htold).trans hexpected.symm, hsize.trans hempty, datagram, rest, hresult,
        hlength, hbytes.trans hheld⟩
  | calling clients =>
      obtain ⟨datagram, rest, htold, hlength, hheld⟩ := hknown
      refine ⟨datagram, rest, ?_, hlength, fun hclients => ?_⟩
      · rw [hheard, hexpected]
        exact htold
      · exact ⟨hsize.trans (hheld hclients).1, hbytes.trans (hheld hclients).2⟩

/-- The buffer is emptied when no client is still to be called. -/
theorem Known.clear {listener : Listener} (hknown : Known udp history listener)
    (hfree : udp.size ≠ 0 → ∀ client clients, listener ≠ .calling (client :: clients)) :
    Known { udp with size := 0 } history listener := by
  by_cases hempty : udp.size = 0
  · exact hknown.congr hempty.symm rfl rfl rfl
  · cases listener with
    | testPos => exact hknown
    | testSize => exact hknown
    | receiving => exact absurd hknown.2 hempty
    | storing result => exact absurd hknown.2.1 hempty
    | calling clients =>
        cases clients with
        | nil =>
            obtain ⟨datagram, rest, htold, hlength, -⟩ := hknown
            exact ⟨datagram, rest, htold, hlength, fun hclients => absurd rfl hclients⟩
        | cons client clients => exact absurd rfl (hfree hempty client clients)

/-- Whether `ASYN_EOM_END` is set does not depend on the room for a null byte. -/
theorem gotEom_endOfMessage (maxchars thisRead : Nat) (reason : EomReason) :
    (gotEom maxchars thisRead reason).endOfMessage = reason.endOfMessage := by
  unfold gotEom
  split
  · rfl
  · rfl

/-- At least one byte is read, and not more than there are. -/
theorem clip_bounds {maxchars pos : Nat} {size : Int} (hmax : 0 < maxchars) (hlt : (pos : Int) < size) :
    let thisRead := if (size - pos).toNat > maxchars then maxchars else (size - pos).toNat
    0 < thisRead ∧ (pos + thisRead : Int) ≤ size := by
  intro thisRead
  by_cases hmore : (size - pos).toNat > maxchars
  · have hread : thisRead = maxchars := if_pos hmore
    omega
  · have hread : thisRead = (size - pos).toNat := if_neg hmore
    omega

theorem Inv.access (hinv : Inv s)
    (hok : clears s = true → ∀ client clients, s.listener ≠ .calling (client :: clients))
    (hstep : access s = some s') : Inv s' := by
  obtain ⟨hstored, hknown, unread, hdelivered, hpending⟩ := hinv
  unfold UDPServerPort.access at hstep
  split at hstep
  · exact nomatch hstep
  · next maxchars hport =>
      rw [hport] at hpending
      obtain ⟨hmax, hunread, hsettled⟩ := hpending
      split at hstep
      · next hempty =>
          cases hstep
          -- The read returns no byte, and no `ASYN_EOM_END`.
          refine ⟨hstored, hknown.congr rfl rfl rfl rfl, unread, ?_, hunread, hsettled⟩
          refine .read hdelivered ?_
          rw [gotEom_endOfMessage]
          exact ⟨nofun, fun h => absurd rfl h.1⟩
      · next hfull =>
          cases hstep
          refine ⟨hstored, hknown, unread, hdelivered, hmax, hunread, ?_⟩
          exact hsettled.resolve_left hfull
  · next maxchars hport =>
      rw [hport] at hpending
      obtain ⟨hmax, hunread, hlt⟩ := hpending
      cases hstep
      -- The bounds of the copy are fixed here; the listener cannot change the size until `resetSize`.
      obtain ⟨hread, hle⟩ := clip_bounds hmax hlt
      exact ⟨hstored, hknown, unread, hdelivered, hread, hunread, hle⟩
  · next maxchars thisRead hport =>
      rw [hport] at hpending
      obtain ⟨hread, hunread, hle⟩ := hpending
      cases hstep
      exact ⟨hstored, hknown, unread, hdelivered, hread, hunread, hle, Buffer.take_left hle⟩
  · next maxchars thisRead data hport =>
      rw [hport] at hpending
      obtain ⟨hread, hunread, hle, hdata⟩ := hpending
      cases hstep
      refine ⟨hstored, hknown.congr rfl rfl rfl rfl, unread, hdelivered, ?_, ?_, ?_, ?_⟩
      · have hleft := Buffer.left_length hstored.2
        have hlength : data.length = min thisRead s.udp.left.length := by
          rw [hdata, List.length_take]
        apply List.ne_nil_of_length_pos
        omega
      · rw [Buffer.left_advance, hdata, List.take_append_drop]
        exact hunread
      · show 0 < s.udp.size
        omega
      · show ((s.udp.pos + thisRead : Nat) : Int) ≤ s.udp.size
        omega
  · next maxchars data hport =>
      rw [hport] at hpending
      obtain ⟨hdata, hunread, hpos, hle⟩ := hpending
      split at hstep
      · next hconsumed =>
          cases hstep
          refine ⟨hstored, hknown, unread, hdelivered, hdata, ?_, hpos⟩
          have hleft := Buffer.left_length hstored.2
          -- Everything is copied: what is unread is what this read returns.
          have hnil : s.udp.left = [] := List.eq_nil_of_length_eq_zero (by omega)
          rw [hunread, hnil, List.append_nil]
      · next hmore =>
          cases hstep
          -- Bytes are left, so this is not the end.
          refine ⟨hstored, hknown.congr rfl rfl rfl rfl, s.udp.left, ?_, rfl, ?_⟩
          · rw [hunread] at hdelivered
            refine .read hdelivered ?_
            rw [gotEom_endOfMessage]
            refine ⟨nofun, fun h => ?_⟩
            have hleft := Buffer.left_length hstored.2
            rw [h.2, List.length_nil] at hleft
            omega
          · exact .inr (Int.not_le.mp hmore)
  · next maxchars data hport =>
      rw [hport] at hpending
      obtain ⟨hdata, hunread, hpos⟩ := hpending
      cases hstep
      exact ⟨hstored, hknown.congr rfl rfl rfl rfl, unread, hdelivered, hdata, hunread, hpos, rfl⟩
  · next maxchars data hport =>
      have hclear := hknown.clear fun hsize => hok (by
        unfold clears
        simp only [hport, decide_eq_true_eq]
        exact hsize)
      rw [hport] at hpending
      obtain ⟨hdata, rfl, hsize, hpos⟩ := hpending
      cases hstep
      refine ⟨⟨Int.le_refl 0, Int.natCast_nonneg _⟩, hclear.congr rfl rfl rfl rfl, [], ?_, ?_,
        .inl ⟨hpos, rfl⟩⟩
      · refine .read ?_ ?_
        · rw [List.append_nil]
          exact hdelivered
        · rw [gotEom_endOfMessage]
          exact ⟨fun _ => ⟨hdata, rfl⟩, fun _ => rfl⟩
      · exact (Buffer.left_nil rfl).symm
  · next hport =>
      rw [hport] at hpending
      obtain ⟨hunread, hsettled⟩ := hpending
      cases hstep
      refine ⟨hstored, hknown.congr rfl rfl rfl rfl, unread, hdelivered, rfl, fun hempty => ?_⟩
      rw [hunread]
      exact Buffer.left_nil hempty
  · next hport =>
      have hclear := hknown.clear fun hsize => hok (by
        unfold clears
        simp only [hport, decide_eq_true_eq]
        exact hsize)
      rw [hport] at hpending
      cases hstep
      exact ⟨⟨Int.le_refl 0, Int.natCast_nonneg _⟩, hclear.congr rfl rfl rfl rfl, [],
        .flushed hdelivered, (Buffer.left_nil rfl).symm, .inl ⟨hpending.1, rfl⟩⟩

theorem Inv.step (hinv : Inv s) {a : Action} (hok : Admissible s a) (hstep : step s a = some s') :
    Inv s' := by
  cases a with
  | listen => exact hinv.listen hstep
  | receive result => exact hinv.receive hok hstep
  | store clients => exact hinv.store hstep
  | access => exact hinv.access hok hstep
  | read maxchars =>
      obtain ⟨hstored, hknown, unread, hdelivered, hpending⟩ := hinv
      unfold UDPServerPort.step at hstep
      simp only at hstep
      split at hstep
      · next hport =>
          rw [hport] at hpending
          split at hstep
          · cases hstep
            rw [← hport] at hpending
            exact ⟨hstored, hknown, unread, hdelivered, hpending⟩
          · next hmax =>
              cases hstep
              exact ⟨hstored, hknown, unread, hdelivered, Nat.pos_of_ne_zero hmax, hpending⟩
      · exact nomatch hstep
  | flush =>
      obtain ⟨hstored, hknown, unread, hdelivered, hpending⟩ := hinv
      unfold UDPServerPort.step at hstep
      simp only at hstep
      split at hstep
      · next hport =>
          rw [hport] at hpending
          cases hstep
          exact ⟨hstored, hknown, unread, hdelivered, hpending⟩
      · exact nomatch hstep

theorem inv_of_reachable (hreach : machine.Reachable Admissible s) : Inv s := by
  refine hreach.invariant ?_ fun _ _ _ hok hinv hstep => Inv.step hinv hok hstep
  rintro _ ⟨bytes, rfl⟩
  exact ⟨⟨Int.le_refl 0, Int.natCast_nonneg _⟩, rfl, [], .nil, (Buffer.left_nil rfl).symm, .inl ⟨rfl, rfl⟩⟩

/-! ## The results -/

theorem receives_from_testSize (hlistener : s.listener = .testSize) (hsize : s.udp.size = 0) :
    ∃ s', machine.Path IsListen s s' ∧ s'.listener.inReceive = true := by
  have hstep : machine.step s .listen = some { s with listener := .receiving } := by
    show listen s = _
    unfold listen
    rw [hlistener]
    simp only [hsize, if_true]
  exact ⟨_, Machine.Path.single rfl hstep, rfl⟩

theorem receives_from_testPos (hlistener : s.listener = .testPos) (hpos : s.udp.pos = 0)
    (hsize : s.udp.size = 0) :
    ∃ s', machine.Path IsListen s s' ∧ s'.listener.inReceive = true := by
  have hstep : machine.step s .listen = some { s with listener := .testSize } := by
    show listen s = _
    unfold listen
    rw [hlistener]
    simp only [hpos, if_true]
  have hnext : ({ s with listener := .testSize } : State).udp.size = 0 := hsize
  obtain ⟨s', hpath, hreceive⟩ := receives_from_testSize rfl hnext
  have hfirst : machine.Path IsListen s _ := .single rfl hstep
  exact ⟨s', hfirst.trans hpath, hreceive⟩

/-- The listener calls its clients first. -/
theorem receives_from_calling (clients : List Nat) (hlistener : s.listener = .calling clients)
    (hpos : s.udp.pos = 0) (hsize : s.udp.size = 0) :
    ∃ s', machine.Path IsListen s s' ∧ s'.listener.inReceive = true := by
  -- On the clients that are still to be called; each is one step.
  induction clients generalizing s with
  | nil =>
      have hstep : machine.step s .listen = some { s with listener := .testPos } := by
        show listen s = _
        unfold listen
        rw [hlistener]
      have hrest := receives_from_testPos (s := { s with listener := .testPos }) rfl hpos hsize
      obtain ⟨s', hpath, hreceive⟩ := hrest
      have hfirst : machine.Path IsListen s _ := .single rfl hstep
      exact ⟨s', hfirst.trans hpath, hreceive⟩
  | cons client clients ih =>
      let next : State := { s with
        listener := .calling clients
        history := .callback (callback s.udp client) :: s.history }
      have hstep : machine.step s .listen = some next := by
        show listen s = _
        unfold listen
        rw [hlistener]
      have hrest := ih (s := next) rfl hpos hsize
      obtain ⟨s', hpath, hreceive⟩ := hrest
      have hfirst : machine.Path IsListen s _ := .single rfl hstep
      exact ⟨s', hfirst.trans hpath, hreceive⟩

/-- With an empty buffer the listener comes to receive by its own steps. -/
theorem receives_of_empty (hpos : s.udp.pos = 0) (hsize : s.udp.size = 0) :
    ∃ s', machine.Path IsListen s s' ∧ s'.listener.inReceive = true := by
  cases hlistener : s.listener with
  | testPos => exact receives_from_testPos hlistener hpos hsize
  | testSize => exact receives_from_testSize hlistener hsize
  | receiving => exact ⟨s, .refl s, by rw [hlistener]; rfl⟩
  | storing result => exact ⟨s, .refl s, by rw [hlistener]; rfl⟩
  | calling clients => exact receives_from_calling clients hlistener hpos hsize

theorem Inv.told (hinv : Inv s) : heard s.history <+: expected s.history ∧
    ((∀ clients, s.listener ≠ .calling clients) → heard s.history = expected s.history) := by
  have hknown := hinv.known
  cases hlistener : s.listener with
  | testPos =>
      rw [hlistener] at hknown
      exact ⟨hknown ▸ List.prefix_rfl, fun _ => hknown⟩
  | testSize =>
      rw [hlistener] at hknown
      exact ⟨hknown ▸ List.prefix_rfl, fun _ => hknown⟩
  | receiving =>
      rw [hlistener] at hknown
      exact ⟨hknown.1 ▸ List.prefix_rfl, fun _ => hknown.1⟩
  | storing result =>
      rw [hlistener] at hknown
      exact ⟨hknown.1 ▸ List.prefix_rfl, fun _ => hknown.1⟩
  | calling clients =>
      rw [hlistener] at hknown
      obtain ⟨datagram, rest, htold, -⟩ := hknown
      exact ⟨⟨_, htold⟩, fun h => absurd rfl (h clients)⟩

theorem Inv.receives (hinv : Inv s) (hport : s.port = .idle) (hread : Delivered s.history []) :
    ∃ s', machine.Path IsListen s s' ∧ s'.listener.inReceive = true := by
  obtain ⟨unread, hdelivered, hpending⟩ := hinv.pending
  rw [hport] at hpending
  obtain ⟨hunread, hsettled⟩ := hpending
  rcases hsettled with ⟨hpos, hsize⟩ | hlt
  · exact receives_of_empty hpos hsize
  · -- Something would be unread.
    have hnil := hunread.symm.trans (hdelivered.unique hread)
    have hleft := Buffer.left_length hinv.stored.2
    rw [hnil, List.length_nil] at hleft
    omega

/-- Of every run in which no reception fails and no size is cleared under a client. -/
theorem sound_of_reachable (s : State) (hreach : machine.Reachable Admissible s) : Sound s := by
  have hinv := inv_of_reachable hreach
  obtain ⟨unread, hdelivered, -⟩ := hinv.pending
  exact ⟨⟨unread, hdelivered⟩, hinv.told, hinv.receives⟩

def fresh : State := ⟨⟨[], 0, 0⟩, .testPos, .idle, []⟩

theorem start_fresh : Start fresh := ⟨[], rfl⟩

/-- The listener comes to `recvfrom`, which returns; `interruptStart` gives the clients. -/
def reception (result : Option (List UInt8)) (clients : List Nat) : List Action :=
  [.listen, .listen, .receive result, .store clients]

def after (actions : List Action) : State := (machine.exec fresh actions).getD fresh

def check (s : State) : Action → Bool
  | .receive result => result ≠ none
  | .access => !clears s
  | _ => true

theorem admissible_of_check {a : Action} (hcheck : check s a = true) : Admissible s a := by
  cases a with
  | receive result =>
      unfold check at hcheck
      have hresult : result ≠ none := of_decide_eq_true hcheck
      exact hresult
  | access =>
      intro hclears
      unfold check at hcheck
      rw [hclears] at hcheck
      exact nomatch hcheck
  | listen => exact trivial
  | store clients => exact trivial
  | read maxchars => exact trivial
  | flush => exact trivial

/-- Two clients get three bytes, and a read gets two of them. -/
theorem sound_of_reachable_example :
    ∃ s, machine.Reachable Admissible s ∧
      (s.port = .idle ∧ heard s.history = [⟨4, 3, [1, 2, 3]⟩, ⟨5, 3, [1, 2, 3]⟩] ∧
        s.history.head? = some (.read [1, 2] ⟨true, false, false⟩)) ∧ Sound s := by
  let actions : List Action := reception (some [1, 2, 3]) [4, 5] ++
    [Action.listen, .listen, .listen, .read 2, .access, .access, .access, .access, .access]
  have hrun : machine.execGuarded check fresh actions = some (after actions) := rfl
  have hreach : machine.Reachable Admissible (after actions) :=
    Machine.reachable_of_execGuarded (I := fun _ => True) (fun _ _ _ hcheck => admissible_of_check hcheck)
      (fun _ _ _ _ _ _ => trivial) start_fresh trivial hrun
  exact ⟨_, hreach, ⟨rfl, rfl, rfl⟩, sound_of_reachable _ hreach⟩

/-- A failed `recvfrom` becomes the size: the client is called with it, and the listener does not receive
again. -/
theorem failure_stored :
    ∃ s, machine.Reachable Machine.Unguarded s ∧ s.port = .idle ∧ Delivered s.history [] ∧
      (s.listener = .testPos ∧ heard s.history ≠ expected s.history) ∧
      ∀ s', machine.Path IsListen s s' → s'.listener.inReceive = false := by
  let actions : List Action := reception none [4] ++ [Action.listen, .listen]
  have hrun : machine.exec fresh actions = some (after actions) := rfl
  refine ⟨_, Machine.reachable_of_exec start_fresh hrun, rfl, .callback (.failed .nil),
    ⟨rfl, nofun⟩, ?_⟩
  intro s' hpath
  -- A size of -1 is never 0, and nobody reads while the listener runs alone.
  have hkeep : ∀ (s : State) (a : Action) (s' : State), IsListen s a →
      s.udp.size = -1 ∧ s.listener.inReceive = false → machine.step s a = some s' →
      s'.udp.size = -1 ∧ s'.listener.inReceive = false := by
    rintro s a s' rfl ⟨hsize, hreceive⟩ hstep
    have hlisten : listen s = some s' := hstep
    unfold listen at hlisten
    split at hlisten
    · cases hlisten
      refine ⟨hsize, ?_⟩
      simp only
      split
      · rfl
      · rfl
    · cases hlisten
      refine ⟨hsize, ?_⟩
      simp only [hsize]
      rfl
    · exact nomatch hlisten
    · exact nomatch hlisten
    · cases hlisten
      exact ⟨hsize, rfl⟩
    · cases hlisten
      exact ⟨hsize, rfl⟩
  exact (hpath.invariant (I := fun s => s.udp.size = -1 ∧ s.listener.inReceive = false) hkeep
    ⟨rfl, rfl⟩).2

/-- A read between two callbacks: the second client gets no bytes. -/
theorem size_cleared :
    ∃ s, machine.Reachable Machine.Unguarded s ∧ s.listener = .testPos ∧
      heard s.history = [⟨4, 1, [7]⟩, ⟨5, 0, []⟩] ∧
      expected s.history = [⟨4, 1, [7]⟩, ⟨5, 1, [7]⟩] := by
  let actions : List Action := reception (some [7]) [4, 5] ++
    [Action.listen, .read 2, .access, .access, .access, .access, .access, .access, .access, .listen, .listen]
  have hrun : machine.exec fresh actions = some (after actions) := rfl
  exact ⟨_, Machine.reachable_of_exec start_fresh hrun, rfl, rfl, rfl⟩

end UDPServerPort
end Serial
end AsynDriver
