import Mathlib.Data.List.Basic
import Mathlib.Tactic.Common
import AsynDriver.Library.Machine
import AsynDriver.Usbtmc.BulkOut

/-!
# `asynOctetRead` of `drvAsynUSBTMC.c`

A read takes what is buffered, and asks the device for another packet until it has `maxchars` bytes or
the end of a reply that is marked in its flags.  What a read leaves of a packet stays in `buf`, and the
flags stay with it.

* `receive` — the checks on a packet, its payload and its flags.
* `top` — the loop from its top to the next request or to the return.
* `step` — a read begins, a transfer of the read ends, a write or a flush discards what is buffered.
* `Exact` — on the log of a run: what the reads deliver and report, and when they ask.
* `reads_exact` — the log is exact as long as no read begins where the last one has come to the end of
  a reply.

Nothing takes the flags back when the end has been reported, so that a read that begins there returns
at once with no data and the same end again.

`bufp` and `bufCount` are the list of the bytes that are left.  Left out: the statistics, and
`disconnectIfGone`.
-/

namespace AsynDriver
namespace Usbtmc
namespace BulkIn

open Library

/-- `MESSAGE_ID_REQUEST_DEV_DEP_MSG_IN` and `MESSAGE_ID_DEV_DEP_MSG_IN` -/
def messageIdRequestDevDepMsgIn : UInt8 := 2

/-! ## A packet -/

/-- A number as an `int`. -/
def toInt (n : Nat) : Int := Int.bmod n (2 ^ 32)

/-- `outside`: the payload size is negative, which no check finds. -/
inductive Received
  | error (message : String)
  | outside
  | packet (payload : List UInt8) (flags : UInt8)
  deriving DecidableEq, Repr

/-- `%x` -/
def hex (b : UInt8) : String := String.ofList (Nat.toDigits 16 b.toNat)

/-- The sanity checks on what `libusb_bulk_transfer` has put into `buf`. -/
def receive (bTag : UInt8) (io : List UInt8) : Received :=
  let ioCount := io.length
  if ioCount < bulkIoHeaderSize then
    .error ("Incomplete packet header (read only " ++ toString ioCount ++ ")")
  else if io.getD 0 0 ≠ messageIdRequestDevDepMsgIn ∨ io.getD 1 0 ≠ bTag ∨
      io.getD 2 0 ≠ ~~~bTag then
    .error ("Packet header corrupt " ++ hex (io.getD 0 0) ++ " " ++ hex (io.getD 1 0) ++ " " ++
      hex (io.getD 2 0) ++ " (btag " ++ hex bTag ++ ")")
  else
    let payloadSize := toInt (transferSize io)
    if (ioCount - bulkIoHeaderSize : Nat) < payloadSize then
      .error ("Packet header claims " ++ toString payloadSize ++ " sent, but packet contains only " ++
        toString (ioCount - bulkIoHeaderSize))
    else if bulkIoPayloadCapacity < payloadSize then
      .error ("Packet header claims " ++ toString payloadSize ++ " sent, but requested only " ++
        toString bulkIoPayloadCapacity)
    else if payloadSize < 0 then .outside
    else .packet ((io.drop bulkIoHeaderSize).take payloadSize.toNat) (io.getD 8 0)

/-- A reply of the device with the header that it has to have, and bytes for alignment behind. -/
def replyPacket (bTag flags : UInt8) (payload alignment : List UInt8) : List UInt8 :=
  [messageIdRequestDevDepMsgIn, bTag, ~~~bTag, 0, UInt8.ofNat payload.length,
    UInt8.ofNat (payload.length >>> 8), UInt8.ofNat (payload.length >>> 16),
    UInt8.ofNat (payload.length >>> 24), flags, 0, 0, 0] ++ payload ++ alignment

/-! ## The loop -/

/-- `eomReason` -/
structure EomReason where
  cnt : Bool
  eos : Bool
  endIndicator : Bool
  deriving DecidableEq, Repr

def EomReason.any (eom : EomReason) : Bool := eom.cnt || eom.eos || eom.endIndicator

structure Pvt where
  bTag : BTag
  termChar : Option UInt8
  buffered : List UInt8
  bulkInPacketFlags : UInt8
  deriving DecidableEq

/-- A read that waits for its packet: what is left of `maxchars`, and the tag of the request. -/
structure Reading where
  maxchars : Nat
  timeoutZero : Bool
  bTag : UInt8
  deriving DecidableEq

/-- `copied` are the bytes of one `memcpy` to the caller. -/
inductive Event
  | started (maxchars : Nat)
  | asked (header : List UInt8)
  | received (payload : List UInt8) (flags : UInt8)
  | copied (data : List UInt8)
  | returned (eom : EomReason)
  | timedOut
  | failed (message : String)
  | discarded
  deriving DecidableEq

/-- The log has the latest event first.  `fault`: a `memcpy` with a negative count. -/
structure State where
  pvt : Pvt
  reading : Option Reading
  fault : Bool
  log : List Event
  deriving DecidableEq

/-- The header of a request. -/
def requestHeader (p : Pvt) : List UInt8 :=
  [messageIdRequestDevDepMsgIn, p.bTag.val, ~~~p.bTag.val, 0,
    UInt8.ofNat bulkIoPayloadCapacity, UInt8.ofNat (bulkIoPayloadCapacity >>> 8),
    UInt8.ofNat (bulkIoPayloadCapacity >>> 16), UInt8.ofNat (bulkIoPayloadCapacity >>> 24),
    if p.termChar.isSome then 2 else 0, p.termChar.getD 0, 0, 0]

def State.ask (s : State) (maxchars : Nat) (timeoutZero : Bool) : State where
  pvt := { s.pvt with bulkInPacketFlags := 0, bTag := s.pvt.bTag.next }
  reading := some ⟨maxchars, timeoutZero, s.pvt.bTag.val⟩
  fault := s.fault
  log := .asked (requestHeader s.pvt) :: s.log

/-- `nCopy`, which is an `int`; `none` when it is negative. -/
def nCopy (maxchars bufCount : Nat) : Option Nat :=
  if toInt maxchars < 0 then none else some (min (toInt maxchars).toNat bufCount)

/-- "Transfer buffered data" with `n` bytes. -/
def State.copy (s : State) (n : Nat) : State :=
  { s with
    pvt := { s.pvt with buffered := s.pvt.buffered.drop n }
    log := if s.pvt.buffered = [] then s.log else .copied (s.pvt.buffered.take n) :: s.log }

/-- `eom` after the copy. -/
def State.eom (s : State) (maxchars n : Nat) : EomReason :=
  let left := s.pvt.buffered.drop n
  let flags := s.pvt.bulkInPacketFlags
  { cnt := decide (s.pvt.buffered ≠ []) && maxchars - n == 0
    eos := left.isEmpty && flags &&& 0x2 != 0
    endIndicator := left.isEmpty && flags &&& 0x1 != 0 }

/-- The copy, and then the return or the next request. -/
def State.transfer (s : State) (maxchars : Nat) (timeoutZero : Bool) (n : Nat) : State :=
  if (s.eom maxchars n).any then
    { s.copy n with reading := none, log := .returned (s.eom maxchars n) :: (s.copy n).log }
  else (s.copy n).ask (maxchars - n) timeoutZero

/-- From the top of the loop. -/
def State.top (s : State) (maxchars : Nat) (timeoutZero : Bool) : State :=
  if timeoutZero ∧ s.pvt.buffered = [] then { s with reading := none, log := .timedOut :: s.log }
  else if s.pvt.buffered = [] then s.transfer maxchars timeoutZero 0
  else
    match nCopy maxchars s.pvt.buffered.length with
    | none => { s with reading := none, fault := true }
    | some n => s.transfer maxchars timeoutZero n

/-! ## Runs -/

inductive Action
  | read (maxchars : Nat) (timeoutZero : Bool)
  | transferFails (message : String)
  | packet (io : List UInt8)
  | write (messages : Nat)
  | flush
  | setTermChar (termChar : Option UInt8)

def State.discard (s : State) (bTag : BTag) : State :=
  { s with
    pvt := { s.pvt with bTag := bTag, buffered := [], bulkInPacketFlags := 0 }
    log := .discarded :: s.log }

def step (s : State) (a : Action) : Option State :=
  if s.fault then none
  else
    match s.reading, a with
    | none, .read maxchars timeoutZero =>
        some ({ s with log := .started maxchars :: s.log }.top maxchars timeoutZero)
    | none, .write messages => some (s.discard (BTag.next^[messages] s.pvt.bTag))
    | none, .flush => some (s.discard s.pvt.bTag)
    | none, .setTermChar termChar => some { s with pvt := { s.pvt with termChar := termChar } }
    | some _, .transferFails message =>
        some { s with reading := none, log := .failed message :: s.log }
    | some r, .packet io =>
        match receive r.bTag io with
        | .error message => some { s with reading := none, log := .failed message :: s.log }
        | .outside => some { s with reading := none, fault := true }
        | .packet payload flags =>
            some ({ s with
              pvt := { s.pvt with buffered := payload, bulkInPacketFlags := flags }
              log := .received payload flags :: s.log }.top r.maxchars r.timeoutZero)
    | _, _ => none

theorem one_ne_zero : (1 : UInt8) ≠ 0 := by decide

def start (termChar : Option UInt8) : State where
  pvt := ⟨⟨1, one_ne_zero⟩, termChar, [], 0⟩
  reading := none
  fault := false
  log := []

def machine : Machine State Action where
  init := fun s => ∃ termChar, s = start termChar
  step := step

/-! ## Exact logs -/

/-- The bits `TERMCHAR` and `END` of the flags. -/
structure Indication where
  termChar : Bool
  endOfMessage : Bool
  deriving DecidableEq, Repr

def Indication.none : Indication := ⟨false, false⟩

def indication (flags : UInt8) : Indication := ⟨flags &&& 0x2 != 0, flags &&& 0x1 != 0⟩

/-- The bytes received, neither copied to a caller nor discarded. -/
def owed : List Event → List UInt8
  | [] => []
  | .received payload _ :: log => owed log ++ payload
  | .copied data :: log => (owed log).drop data.length
  | .discarded :: _ => []
  | .started _ :: log | .asked _ :: log | .returned _ :: log | .timedOut :: log | .failed _ :: log =>
      owed log

/-- The indication received last, when it has not been reported with the last byte of its reply. -/
def unreported : List Event → Indication
  | [] => .none
  | .received _ flags :: _ => indication flags
  | .returned _ :: log => if owed log = [] then .none else unreported log
  | .discarded :: _ => .none
  | .started _ :: log | .asked _ :: log | .copied _ :: log | .timedOut :: log | .failed _ :: log =>
      unreported log

/-- What is left of the `maxchars` of the read. -/
def room : List Event → Nat
  | [] => 0
  | .started maxchars :: _ => maxchars
  | .copied data :: log => room log - data.length
  | .received _ _ :: log | .asked _ :: log | .returned _ :: log | .timedOut :: log
  | .failed _ :: log | .discarded :: log => room log

/-- A read asks only when everything has been delivered and reported; it copies the next bytes in their
order; and it returns when it has `maxchars` bytes, or with the last byte of a reply, and then says so
when the reply did. -/
def Exact : List Event → Prop
  | [] => True
  | .asked _ :: log => Exact log ∧ owed log = [] ∧ unreported log = .none
  | .copied data :: log => Exact log ∧ data <+: owed log
  | .returned eom :: log =>
      Exact log ∧ eom.any = true ∧ (eom.cnt = true ↔ room log = 0) ∧
        (eom.eos = true ↔ owed log = [] ∧ (unreported log).termChar = true) ∧
        (eom.endIndicator = true ↔ owed log = [] ∧ (unreported log).endOfMessage = true)
  | .started _ :: log | .received _ _ :: log | .timedOut :: log | .failed _ :: log
  | .discarded :: log => Exact log

/-- The read that begins has a place for a byte, a count that an `int` can hold and a timeout, and it
does not find a packet that has been read to its end and whose flags mark an end; the size in a packet
is not negative. -/
def Accepted (s : State) : Action → Prop
  | .read maxchars timeoutZero =>
      (0 < maxchars ∧ maxchars < 2 ^ 31 ∧ timeoutZero = false) ∧
        (s.pvt.buffered = [] → indication s.pvt.bulkInPacketFlags = .none)
  | .packet io => transferSize io < 2 ^ 31
  | _ => True

/-! ## What an exact log says of the bytes -/

/-- All bytes that the reads have delivered. -/
def delivered : List Event → List UInt8
  | [] => []
  | .copied data :: log => delivered log ++ data
  | .received _ _ :: log | .discarded :: log | .started _ :: log | .asked _ :: log
  | .returned _ :: log | .timedOut :: log | .failed _ :: log => delivered log

/-- All bytes that the device has sent. -/
def payloads : List Event → List UInt8
  | [] => []
  | .received payload _ :: log => payloads log ++ payload
  | .copied _ :: log | .discarded :: log | .started _ :: log | .asked _ :: log
  | .returned _ :: log | .timedOut :: log | .failed _ :: log => payloads log

def Discards (log : List Event) : Prop :=
  ∃ e ∈ log, match e with
    | .discarded => True
    | _ => False

/-- Without a write or a flush the bytes delivered are those sent, up to what is still owed. -/
theorem delivered_append_owed {log : List Event} (hexact : Exact log) (hkept : ¬ Discards log) :
    delivered log ++ owed log = payloads log := by
  induction log with
  | nil => rfl
  | cons e log ih =>
      have hlog : ¬ Discards log := by
        rintro ⟨e', he', hdiscarded⟩
        exact hkept ⟨e', List.mem_cons_of_mem e he', hdiscarded⟩
      cases e with
      | started maxchars => exact ih hexact hlog
      | asked header => exact ih hexact.1 hlog
      | received payload flags =>
          change delivered log ++ (owed log ++ payload) = payloads log ++ payload
          rw [← List.append_assoc, ih hexact hlog]
      | copied data =>
          obtain ⟨hexact, rest, hrest⟩ := hexact
          change delivered log ++ data ++ (owed log).drop data.length = payloads log
          rw [← ih hexact hlog, ← hrest, List.drop_left, List.append_assoc]
      | returned eom => exact ih hexact.1 hlog
      | timedOut => exact ih hexact hlog
      | failed message => exact ih hexact hlog
      | discarded => exact absurd ⟨_, List.mem_cons_self, trivial⟩ hkept

/-! ## From the top of the loop -/

variable {s s' : State} {maxchars : Nat}

theorem toInt_of_lt {n : Nat} (hn : n < 2 ^ 31) : toInt n = n := by
  unfold toInt
  rw [Int.bmod_eq_of_le_mul_two] <;> omega

theorem nCopy_of_lt (hmaxchars : maxchars < 2 ^ 31) (bufCount : Nat) :
    nCopy maxchars bufCount = some (min maxchars bufCount) := by
  unfold nCopy
  rw [toInt_of_lt hmaxchars, if_neg (Int.not_lt.mpr (Int.natCast_nonneg _)), Int.toNat_natCast]

/-- The buffer and the flags are those of the log, and the read has room. -/
structure Ready (s : State) (maxchars : Nat) : Prop where
  fault : s.fault = false
  buffered : s.pvt.buffered = owed s.log
  flags : indication s.pvt.bulkInPacketFlags = unreported s.log
  room : room s.log = maxchars
  exact : Exact s.log
  pos : 0 < maxchars
  lt : maxchars < 2 ^ 31

/-- Between reads, or while a read waits for its packet. -/
structure Inv (s : State) : Prop where
  fault : s.fault = false
  buffered : s.pvt.buffered = owed s.log
  exact : Exact s.log
  flags : s.pvt.buffered ≠ [] → indication s.pvt.bulkInPacketFlags = unreported s.log
  reported : s.pvt.buffered = [] → unreported s.log = .none
  reading : ∀ r, s.reading = some r → s.pvt.buffered = [] ∧ room s.log = r.maxchars ∧
    0 < r.maxchars ∧ r.maxchars < 2 ^ 31 ∧ r.timeoutZero = false

theorem inv_start (termChar : Option UInt8) : Inv (start termChar) where
  fault := rfl
  buffered := rfl
  exact := trivial
  flags := fun h => absurd rfl h
  reported := fun _ => rfl
  reading := nofun

theorem copy_log_spec (hs : Ready s maxchars) {n : Nat}
    (hn : n = min maxchars s.pvt.buffered.length) :
    owed (s.copy n).log = s.pvt.buffered.drop n ∧ unreported (s.copy n).log = unreported s.log ∧
      room (s.copy n).log = maxchars - n ∧ Exact (s.copy n).log := by
  have hlength : (s.pvt.buffered.take n).length = n := by
    rw [List.length_take]
    omega
  by_cases hempty : s.pvt.buffered = []
  · have hzero : n = 0 := by
      rw [hn, hempty]
      exact Nat.min_zero _
    have hlog : (s.copy n).log = s.log := if_pos hempty
    rw [hlog, hzero, List.drop_zero, Nat.sub_zero]
    exact ⟨hs.buffered.symm, rfl, hs.room, hs.exact⟩
  · have hlog : (s.copy n).log = .copied (s.pvt.buffered.take n) :: s.log := if_neg hempty
    rw [hlog]
    refine ⟨?_, rfl, ?_, hs.exact, ?_⟩
    · rw [owed, hlength, hs.buffered]
    · rw [room, hlength, hs.room]
    · rw [← hs.buffered]
      exact List.take_prefix _ _

/-- What `eom` says after a copy of as many bytes as there are, or as there is room for. -/
theorem eom_spec (hs : Ready s maxchars) {n : Nat} (hn : n = min maxchars s.pvt.buffered.length) :
    ((s.eom maxchars n).cnt = true ↔ maxchars - n = 0) ∧
      ((s.eom maxchars n).eos = true ↔
        s.pvt.buffered.drop n = [] ∧ (unreported s.log).termChar = true) ∧
      ((s.eom maxchars n).endIndicator = true ↔
        s.pvt.buffered.drop n = [] ∧ (unreported s.log).endOfMessage = true) := by
  have hpos := hs.pos
  refine ⟨?_, ?_, ?_⟩
  · simp only [State.eom, Bool.and_eq_true, decide_eq_true_eq, beq_iff_eq]
    constructor
    · exact And.right
    · intro hfull
      refine ⟨?_, hfull⟩
      intro hempty
      rw [hempty, List.length_nil] at hn
      omega
  · rw [← hs.flags]
    simp [State.eom, indication]
  · rw [← hs.flags]
    simp [State.eom, indication]

theorem transfer_inv (hs : Ready s maxchars) {n : Nat}
    (hn : n = min maxchars s.pvt.buffered.length) : Inv (s.transfer maxchars false n) := by
  obtain ⟨howed, hunreported, hroom, hexact⟩ := copy_log_spec hs hn
  obtain ⟨hcnt, heos, hend⟩ := eom_spec hs hn
  unfold State.transfer
  by_cases hany : (s.eom maxchars n).any = true
  · rw [if_pos hany]
    constructor
    · exact hs.fault
    · exact howed.symm
    · refine ⟨hexact, hany, ?_, ?_, ?_⟩
      · rw [hroom]
        exact hcnt
      · rw [howed, hunreported]
        exact heos
      · rw [howed, hunreported]
        exact hend
    · intro hleft
      have hleft : s.pvt.buffered.drop n ≠ [] := hleft
      change indication s.pvt.bulkInPacketFlags = if owed (s.copy n).log = [] then _ else _
      rw [howed, if_neg hleft, hunreported]
      exact hs.flags
    · intro hleft
      have hleft : s.pvt.buffered.drop n = [] := hleft
      change (if owed (s.copy n).log = [] then _ else _) = _
      rw [howed, if_pos hleft]
    · nofun
  · rw [if_neg hany]
    -- nothing is left of the packet, and its flags mark no end
    have hmore : maxchars - n ≠ 0 := by
      intro hfull
      apply hany
      simp [EomReason.any, hcnt.mpr hfull]
    have hleft : s.pvt.buffered.drop n = [] := by
      rw [List.drop_eq_nil_iff]
      omega
    have hnone : unreported s.log = .none := by
      have htermChar : (unreported s.log).termChar ≠ true := by
        intro htermChar
        apply hany
        simp [EomReason.any, heos.mpr ⟨hleft, htermChar⟩]
      have hendOfMessage : (unreported s.log).endOfMessage ≠ true := by
        intro hendOfMessage
        apply hany
        simp [EomReason.any, hend.mpr ⟨hleft, hendOfMessage⟩]
      cases hindication : unreported s.log
      rw [hindication] at htermChar hendOfMessage
      simp only [Bool.not_eq_true] at htermChar hendOfMessage
      rw [htermChar, hendOfMessage]
      rfl
    constructor
    · exact hs.fault
    · exact howed.symm
    · exact ⟨hexact, howed.trans hleft, hunreported.trans hnone⟩
    · intro hnot
      exact absurd hleft hnot
    · intro _
      exact hunreported.trans hnone
    · intro r hr
      cases hr
      refine ⟨hleft, hroom, Nat.pos_of_ne_zero hmore, ?_, rfl⟩
      exact Nat.lt_of_le_of_lt (Nat.sub_le _ _) hs.lt

theorem top_inv (hs : Ready s maxchars) : Inv (s.top maxchars false) := by
  unfold State.top
  rw [if_neg (by simp)]
  by_cases hempty : s.pvt.buffered = []
  · rw [if_pos hempty]
    apply transfer_inv hs
    rw [hempty]
    exact (Nat.min_zero _).symm
  · rw [if_neg hempty, nCopy_of_lt hs.lt]
    exact transfer_inv hs rfl

/-! ## Steps and runs -/

/-- A packet whose size an `int` can hold is refused, or its payload and flags are taken. -/
theorem receive_ne_outside {bTag : UInt8} {io : List UInt8} (hsize : transferSize io < 2 ^ 31) :
    receive bTag io ≠ .outside := by
  intro houtside
  simp only [receive, toInt_of_lt hsize] at houtside
  split at houtside
  · cases houtside
  · split at houtside
    · cases houtside
    · split at houtside
      · cases houtside
      · split at houtside
        · cases houtside
        · split at houtside
          · next hnegative => omega
          · cases houtside

theorem discard_inv (hs : Inv s) (hidle : s.reading = none) (bTag : BTag) :
    Inv (s.discard bTag) where
  fault := hs.fault
  buffered := rfl
  exact := hs.exact
  flags := fun h => absurd rfl h
  reported := fun _ => rfl
  reading := by
    intro r hr
    have hr : s.reading = some r := hr
    rw [hidle] at hr
    cases hr

theorem step_inv {a : Action} (hs : Inv s) (hok : Accepted s a) (hstep : step s a = some s') :
    Inv s' := by
  have hfault : ¬ s.fault = true := by
    rw [hs.fault]
    exact Bool.false_ne_true
  unfold step at hstep
  rw [if_neg hfault] at hstep
  cases hreading : s.reading with
  | none =>
      rw [hreading] at hstep
      cases a with
      | read maxchars timeoutZero =>
          cases hstep
          obtain ⟨⟨hpos, hlt, rfl⟩, hfresh⟩ := hok
          apply top_inv
          refine ⟨hs.fault, hs.buffered, ?_, rfl, hs.exact, hpos, hlt⟩
          change indication s.pvt.bulkInPacketFlags = unreported s.log
          by_cases hempty : s.pvt.buffered = []
          · rw [hfresh hempty, hs.reported hempty]
          · exact hs.flags hempty
      | write messages =>
          cases hstep
          exact discard_inv hs hreading _
      | flush =>
          cases hstep
          exact discard_inv hs hreading _
      | setTermChar termChar =>
          cases hstep
          exact ⟨hs.fault, hs.buffered, hs.exact, hs.flags, hs.reported, nofun⟩
      | transferFails message => cases hstep
      | packet io => cases hstep
  | some r =>
      obtain ⟨hempty, hroom, hpos, hlt, htimeout⟩ := hs.reading r hreading
      have hnone := hs.reported hempty
      -- a failed transfer leaves the buffer empty
      have hfails : ∀ message,
          Inv { s with reading := none, log := .failed message :: s.log } := by
        intro message
        refine ⟨hs.fault, hs.buffered, hs.exact, fun h => absurd hempty h, fun _ => hnone, ?_⟩
        nofun
      rw [hreading] at hstep
      cases a with
      | transferFails message =>
          cases hstep
          exact hfails message
      | packet io =>
          simp only at hstep
          split at hstep
          · cases hstep
            exact hfails _
          · next houtside => exact absurd houtside (receive_ne_outside hok)
          · cases hstep
            rw [htimeout]
            apply top_inv
            refine ⟨hs.fault, ?_, rfl, hroom, hs.exact, hpos, hlt⟩
            change _ = owed s.log ++ _
            rw [← hs.buffered, hempty, List.nil_append]
      | read maxchars timeoutZero => cases hstep
      | write messages => cases hstep
      | flush => cases hstep
      | setTermChar termChar => cases hstep

theorem inv_of_reachable (hreach : machine.Reachable Accepted s) : Inv s := by
  apply Machine.Reachable.invariant (I := Inv) _ _ hreach
  · rintro s ⟨termChar, rfl⟩
    exact inv_start termChar
  · intro s a s' hok hs hstep
    exact step_inv hs hok hstep

/-- A read that begins with nothing left, delivered or not reported, asks the device. -/
theorem read_asks (hs : Inv s) (hidle : s.reading = none) (howed : owed s.log = [])
    (hok : Accepted s (.read maxchars false)) :
    ∃ s' header, step s (.read maxchars false) = some s' ∧
      s'.log = .asked header :: .started maxchars :: s.log := by
  obtain ⟨-, hfresh⟩ := hok
  have hempty : s.pvt.buffered = [] := hs.buffered.trans howed
  have hfault : ¬ s.fault = true := by
    rw [hs.fault]
    exact Bool.false_ne_true
  have hflags := hfresh hempty
  have heos : s.pvt.bulkInPacketFlags &&& 0x2 = 0 := by
    simpa [indication, Indication.none] using congrArg Indication.termChar hflags
  have hend : s.pvt.bulkInPacketFlags &&& 0x1 = 0 := by
    simpa [indication, Indication.none] using congrArg Indication.endOfMessage hflags
  refine ⟨({ s with log := .started maxchars :: s.log } : State).top maxchars false,
    requestHeader s.pvt, ?_, ?_⟩
  · simp only [step, if_neg hfault, hidle]
  · simp [State.top, State.transfer, State.eom, State.copy, State.ask, EomReason.any, hempty, heos,
      hend, requestHeader]

/-- A reply with the header of its request passes the checks, with its payload and its flags. -/
theorem receive_replyPacket (bTag flags : UInt8) (payload alignment : List UInt8)
    (hpayload : payload.length ≤ bulkIoPayloadCapacity) :
    receive bTag (replyPacket bTag flags payload alignment) = .packet payload flags := by
  have hsize : transferSize (replyPacket bTag flags payload alignment) = payload.length := by
    have hlt : payload.length < 2 ^ 32 := by
      unfold bulkIoPayloadCapacity at hpayload
      omega
    exact ofNat_bytes hlt
  have hint : toInt payload.length = payload.length := by
    apply toInt_of_lt
    unfold bulkIoPayloadCapacity at hpayload
    omega
  have hlength : (replyPacket bTag flags payload alignment).length =
      bulkIoHeaderSize + payload.length + alignment.length := by
    simp [replyPacket, bulkIoHeaderSize]
    omega
  have hdrop : (replyPacket bTag flags payload alignment).drop bulkIoHeaderSize =
      payload ++ alignment := rfl
  simp only [receive, hsize, hint, hlength, hdrop]
  rw [if_neg (by omega), if_neg (by simp [replyPacket]), if_neg (by omega), if_neg (by omega),
    if_neg (by omega), Int.toNat_natCast, List.take_left]
  rfl

/-- The reads of a run deliver and report what the device sends, and a read that begins after all this
asks for more; a well formed reply is taken as it is. -/
theorem reads_exact (s : State) (hreach : machine.Reachable Accepted s) :
    (s.fault = false ∧ Exact s.log) ∧
      (∀ maxchars, s.reading = none → owed s.log = [] → Accepted s (.read maxchars false) →
          ∃ s' header, machine.step s (.read maxchars false) = some s' ∧
            s'.log = .asked header :: .started maxchars :: s.log) ∧
      ∀ bTag flags payload alignment, payload.length ≤ bulkIoPayloadCapacity →
        receive bTag (replyPacket bTag flags payload alignment) = .packet payload flags := by
  refine ⟨?_, ?_, receive_replyPacket⟩
  · have hs := inv_of_reachable hreach
    exact ⟨hs.fault, hs.exact⟩
  · intro maxchars hidle howed hok
    exact read_asks (inv_of_reachable hreach) hidle howed hok

/-! ## A reply read to its end -/

/-- `A` and a line feed, with `END`. -/
def endReply (bTag : UInt8) : List UInt8 := replyPacket bTag 1 [65, 10] []

/-- One read of 80 bytes that ends with the reply. -/
def readRun : List Action := [.read 80 false, .packet (endReply 1)]

def stateAfter (actions : List Action) : State :=
  (machine.exec (start none) actions).getD (start none)

theorem step_readRun :
    machine.step (start none) (.read 80 false) = some (stateAfter [.read 80 false]) ∧
      machine.step (stateAfter [.read 80 false]) (.packet (endReply 1)) =
        some (stateAfter readRun) ∧
      machine.step (stateAfter readRun) .flush = some (stateAfter (readRun ++ [Action.flush])) ∧
      machine.step (stateAfter readRun) (.read 80 false) =
        some (stateAfter (readRun ++ [Action.read 80 false])) := by
  decide +kernel

theorem reachable_readRun : machine.Reachable Accepted (stateAfter readRun) := by
  obtain ⟨hread, hpacket, -⟩ := step_readRun
  have hinit : machine.Reachable Accepted (start none) := Machine.Reachable.init ⟨none, rfl⟩
  have hasked : machine.Reachable Accepted (stateAfter [.read 80 false]) :=
    hinit.step (a := .read 80 false) ⟨⟨by decide, by decide, rfl⟩, fun _ => rfl⟩ hread
  have hsize : Accepted (stateAfter [.read 80 false]) (.packet (endReply 1)) := by
    change transferSize (endReply 1) < 2 ^ 31
    decide
  exact hasked.step hsize hpacket

theorem reads_exact_example :
    delivered (stateAfter readRun).log = [65, 10] ∧ Exact (stateAfter readRun).log ∧
      ∃ s' header,
        machine.step (stateAfter (readRun ++ [Action.flush])) (.read 80 false) = some s' ∧
          s'.log = .asked header :: .started 80 :: (stateAfter (readRun ++ [Action.flush])).log := by
  have hflushed : machine.Reachable Accepted (stateAfter (readRun ++ [Action.flush])) :=
    reachable_readRun.step (a := .flush) trivial step_readRun.2.2.1
  have hidle : (stateAfter (readRun ++ [Action.flush])).reading = none := by decide +kernel
  have howed : owed (stateAfter (readRun ++ [Action.flush])).log = [] := by decide +kernel
  have hfresh : indication (stateAfter (readRun ++ [Action.flush])).pvt.bulkInPacketFlags =
      Indication.none := by decide +kernel
  refine ⟨by decide +kernel, (reads_exact _ reachable_readRun).1.2, ?_⟩
  exact (reads_exact _ hflushed).2.1 80 hidle howed ⟨⟨by decide, by decide, rfl⟩, fun _ => hfresh⟩

/-- Reads with a timeout, and replies that are well formed. -/
def WellFormed (s : State) : Action → Prop
  | .read maxchars timeoutZero => 0 < maxchars ∧ timeoutZero = false
  | .packet io => ∃ r flags payload alignment, s.reading = some r ∧
      payload.length ≤ bulkIoPayloadCapacity ∧ io = replyPacket r.bTag flags payload alignment
  | _ => True

/-- The second read returns at once with no data and `END` again. -/
theorem end_repeated :
    (stateAfter (readRun ++ [Action.read 80 false])).log.take 3 =
        [.returned ⟨false, false, true⟩, .started 80, .returned ⟨false, false, true⟩] ∧
      machine.Reachable WellFormed (stateAfter (readRun ++ [Action.read 80 false])) ∧
      ¬ ∀ s, machine.Reachable WellFormed s → Exact s.log := by
  obtain ⟨hfirst, hpacket, -, hsecond⟩ := step_readRun
  have hinit : machine.Reachable WellFormed (start none) := Machine.Reachable.init ⟨none, rfl⟩
  have hasked : machine.Reachable WellFormed (stateAfter [.read 80 false]) :=
    hinit.step (a := .read 80 false) ⟨by decide, rfl⟩ hfirst
  have hwaits : (stateAfter [.read 80 false]).reading = some ⟨80, false, 1⟩ := by decide +kernel
  have hread : machine.Reachable WellFormed (stateAfter readRun) :=
    hasked.step (a := .packet (endReply 1))
      ⟨⟨80, false, 1⟩, 1, [65, 10], [], hwaits, by decide, rfl⟩ hpacket
  have hagain : machine.Reachable WellFormed (stateAfter (readRun ++ [Action.read 80 false])) :=
    hread.step (a := .read 80 false) ⟨by decide, rfl⟩ hsecond
  have hlog : (stateAfter (readRun ++ [Action.read 80 false])).log =
      .returned ⟨false, false, true⟩ :: .started 80 :: (stateAfter readRun).log := by
    decide +kernel
  refine ⟨by decide +kernel, hagain, ?_⟩
  intro hexact
  have hlast := hexact _ hagain
  rw [hlog] at hlast
  obtain ⟨-, -, -, -, hend⟩ := hlast
  -- the second END is reported although none is left to report
  have hunreported : (unreported (stateAfter readRun).log).endOfMessage = true := (hend.mp rfl).2
  have hnone : unreported (stateAfter readRun).log = .none := by decide +kernel
  rw [hnone] at hunreported
  cases hunreported

end BulkIn
end Usbtmc
end AsynDriver
