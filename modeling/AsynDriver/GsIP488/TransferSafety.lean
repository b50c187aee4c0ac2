import Mathlib.Data.List.Basic
import AsynDriver.GsIP488.Transfer

/-!
# What the transfers of `drvGsIP488.c` do

* `Op.plan` — what a method has to write to the chip, command string by command string.
* `Moving` — how far a transfer has come, by the state that the interrupt routine is in.
* `Apart` — the runs: no bus error, and no interrupt in the two places where the thread and the
  interrupt routine both store to the port.
* `Sound` — what is true of a method that has returned; `sound_reachable` has it of every one.
-/

namespace AsynDriver
namespace GsIP488

open Library
open Manager (AsynStatus)
open TransferState

/-! ## What has to be written -/

/-- The data, with EOI on the last byte. -/
def sendAll : List UInt8 → List RegWrite
  | [] => []
  | [b] => [.auxmr .feoi, .cdor b]
  | b :: rest => .cdor b :: sendAll rest

theorem sendAll_cons {b : UInt8} {rest : List UInt8} (hrest : rest ≠ []) :
    sendAll (b :: rest) = .cdor b :: sendAll rest := by
  cases rest with
  | nil => exact absurd rfl hrest
  | cons => rfl

namespace Op

/-- The bytes of a write. -/
def data : Op → List UInt8
  | gpibPortWrite data _ => data
  | _ => []

/-- The room for a read. -/
def room : Op → Int
  | gpibPortRead maxchars _ => maxchars
  | gpibPortSerialPoll _ => 1
  | _ => 0

/-- What follows a command string, where `n` bytes are read. -/
def transfer (op : Op) (n : Nat) : TransferState → List RegWrite
  | transferStateWrite => [.auxmr .tons, .auxmr .gts] ++ (sendAll op.data ++ [.auxmr .tonc])
  | transferStateRead =>
      [.auxmr .lons, .auxmr .gts] ++
        (List.replicate (n - 1) (.auxmr .rhdf) ++ [.auxmr .lonc, .auxmr .rhdf])
  | _ => []

def preamble : Op → List RegWrite
  | gpibPortRead _ _ => [.auxmr .rhdf]
  | gpibPortSerialPoll _ => [.auxmr .rhdf]
  | _ => []

/-- All that belongs to a command string. -/
def writes (op : Op) (n : Nat) (c : Command) : List RegWrite :=
  .auxmr .tca :: (c.buf.map .cdor ++ op.transfer n c.nextState)

/-- What the method has to write, up to its command string number `i`. -/
def plan (op : Op) (n i : Nat) : List RegWrite :=
  op.preamble ++ (op.commands.take i).flatMap (op.writes n)

/-- The command strings that a success speaks of; a read and a write do not look at the last one. -/
def needed : Op → Nat
  | gpibPortAddressedCmd _ _ => 2
  | _ => 1

@[simp] theorem plan_zero (op : Op) (n : Nat) : op.plan n 0 = op.preamble := by
  simp [plan]

theorem plan_succ (op : Op) (n : Nat) {i : Nat} {c : Command} (hc : op.commands[i]? = some c) :
    op.plan n (i + 1) = op.plan n i ++ op.writes n c := by
  unfold plan
  rw [List.take_add_one, hc]
  simp

theorem plan_prefix (op : Op) (n : Nat) {i j : Nat} (hle : i ≤ j) :
    op.plan n i <+: op.plan n j := by
  unfold plan
  refine (List.prefix_append_right_inj _).mpr ?_
  have htake : op.commands.take i <+: op.commands.take j := by
    rw [← Nat.min_eq_left hle, ← List.take_take]
    exact List.take_prefix _ _
  obtain ⟨rest, hrest⟩ := htake
  exact ⟨rest.flatMap (op.writes n), by rw [← hrest, List.flatMap_append]⟩

/-- Only the first command string of a method has data behind it. -/
theorem index_zero {op : Op} {i : Nat} {c : Command} (hc : op.commands[i]? = some c)
    (hnext : c.nextState ≠ transferStateIdle) : i = 0 := by
  cases op <;>
    rcases i with - | - | - | i <;>
    simp_all [commands] <;>
    subst hc <;>
    simp [unaddress] at hnext

theorem nextState_ne_cmd {op : Op} {i : Nat} {c : Command} (hc : op.commands[i]? = some c) :
    c.nextState ≠ transferStateCmd := by
  cases op <;>
    rcases i with - | - | - | i <;>
    simp_all [commands] <;>
    subst hc <;>
    simp [unaddress]

theorem writes_idle {op : Op} {n : Nat} {c : Command} (hnext : c.nextState = transferStateIdle) :
    op.writes n c = .auxmr .tca :: c.buf.map .cdor := by
  simp [writes, transfer, hnext]

theorem writes_write {op : Op} {n : Nat} {c : Command} (hnext : c.nextState = transferStateWrite) :
    op.writes n c = .auxmr .tca :: (c.buf.map .cdor ++
      ([.auxmr .tons, .auxmr .gts] ++ (sendAll op.data ++ [.auxmr .tonc]))) := by
  simp [writes, transfer, hnext]

theorem writes_read {op : Op} {n : Nat} {c : Command} (hnext : c.nextState = transferStateRead) :
    op.writes (n + 1) c = .auxmr .tca :: (c.buf.map .cdor ++
      ([.auxmr .lons, .auxmr .gts] ++
        (List.replicate n (.auxmr .rhdf) ++ [.auxmr .lonc, .auxmr .rhdf]))) := by
  simp [writes, transfer, hnext]

end Op

variable {op : Op} {i : Nat} {c : Command} {p : Gsport} {status : AsynStatus}

/-! ## How far it has come -/

/-- `isr0` says that END came with the byte. -/
def WithEnd (isr0 : UInt8) : Prop := endBit &&& isr0 ≠ 0

instance (isr0 : UInt8) : Decidable (WithEnd isr0) := inferInstanceAs (Decidable (_ ≠ _))

/-- A read that has ended: its last byte is the first one with a reason to end it. -/
structure Received (eos room : Int) (stored isrs : List UInt8) (r : EomReason) : Prop where
  fits : (stored.length : Int) ≤ room
  each : isrs.length = stored.length
  cnt : r.cnt = decide ((stored.length : Int) = room)
  ends : ∃ init last, stored = init ++ [last] ∧
    r.eos = decide (eos ≠ -1 ∧ (last.toNat : Int) = eos) ∧
    ∀ b ∈ init, ¬ (eos ≠ -1 ∧ (b.toNat : Int) = eos)
  ended : ∃ init last, isrs = init ++ [last] ∧ r.ended = decide (WithEnd last) ∧
    ∀ isr0 ∈ init, ¬ WithEnd isr0
  reason : r ≠ .none

/-- A read that goes on. -/
structure Receiving (op : Op) (p : Gsport) : Prop where
  sum : (p.stored.length : Int) + p.bytesRemainingRead = op.room
  more : 0 < p.bytesRemainingRead
  eomReason : p.eomReason = .none
  eos : ∀ b ∈ p.stored, ¬ (p.eos ≠ -1 ∧ (b.toNat : Int) = p.eos)
  each : p.isrs.length = p.stored.length
  ended : ∀ isr0 ∈ p.isrs, ¬ WithEnd isr0

/-- A write that goes on. -/
structure Sending (op : Op) (p : Gsport) : Prop where
  buf : p.writeBuf = op.data
  sum : (p.nextByteWrite : Int) + p.bytesRemainingWrite = op.data.length
  more : 0 ≤ p.bytesRemainingWrite

/-- The data is still to be transferred. -/
def Fresh (op : Op) (p : Gsport) : TransferState → Prop
  | transferStateWrite => Sending op p ∧ p.nextByteWrite = 0
  | transferStateRead => Receiving op p ∧ p.stored = []
  | _ => True

/-- The fields of the command string are not its concern. -/
theorem Fresh.frame {st : TransferState} (hfresh : Fresh op p st)
    {isr0 : UInt8} {transferState nextTransferState : TransferState} {cmdBuf : List UInt8}
    {bytesRemainingCmd : Int} {nextByteCmd : Nat} {event : Bool} {written : List RegWrite} :
    Fresh op
      { p with
        isr0 := isr0
        transferState := transferState
        nextTransferState := nextTransferState
        cmdBuf := cmdBuf
        bytesRemainingCmd := bytesRemainingCmd
        nextByteCmd := nextByteCmd
        status := status
        waitForInterrupt := event
        written := written } st := by
  cases st with
  | transferStateIdle => exact trivial
  | transferStateCmd => exact trivial
  | transferStateWrite => exact ⟨⟨hfresh.1.buf, hfresh.1.sum, hfresh.1.more⟩, hfresh.2⟩
  | transferStateRead =>
      exact ⟨⟨hfresh.1.sum, hfresh.1.more, hfresh.1.eomReason, hfresh.1.eos, hfresh.1.each,
        hfresh.1.ended⟩, hfresh.2⟩

/-- `k` bytes of the command string have been written. -/
structure Commanding (op : Op) (i : Nat) (c : Command) (p : Gsport) (k : Nat) : Prop where
  cmdBuf : p.cmdBuf = c.buf
  nextState : p.nextTransferState = c.nextState
  sum : (p.nextByteCmd : Int) + p.bytesRemainingCmd = c.buf.length
  more : 0 ≤ p.bytesRemainingCmd
  written : p.written = op.plan p.stored.length i ++ .auxmr .tca :: (c.buf.take k).map .cdor
  fresh : Fresh op p c.nextState

/-- The command string and what follows it are through. -/
structure Finished (op : Op) (i : Nat) (c : Command) (p : Gsport) : Prop where
  written : p.written = op.plan p.stored.length (i + 1)
  sent : c.nextState = transferStateWrite → p.bytesRemainingWrite = 0
  received : c.nextState = transferStateRead →
    Received p.eos op.room p.stored p.isrs p.eomReason ∧
      (p.stored.length : Int) + p.bytesRemainingRead = op.room

/-- How far the transfer for a command string has come, by the state of the port. -/
def Moving (op : Op) (i : Nat) (c : Command) (p : Gsport) : TransferState → Prop
  | transferStateIdle => Finished op i c p
  | transferStateCmd => Commanding op i c p p.nextByteCmd
  | transferStateWrite =>
      c.nextState = transferStateWrite ∧ Sending op p ∧
        p.written ++ (sendAll (op.data.drop p.nextByteWrite) ++ [.auxmr .tonc]) =
          op.plan p.stored.length (i + 1)
  | transferStateRead =>
      c.nextState = transferStateRead ∧ Receiving op p ∧
        p.written ++ [.auxmr .lonc, .auxmr .rhdf] = op.plan (p.stored.length + 1) (i + 1)

/-- What has been written does not tell where the thread waits. -/
theorem Moving.frame {st : TransferState} (hmoving : Moving op i c p st) {isr0 : UInt8}
    {transferState : TransferState} {event : Bool} :
    Moving op i c
      { p with
        isr0 := isr0
        transferState := transferState
        status := status
        waitForInterrupt := event } st := by
  cases st with
  | transferStateIdle => exact ⟨hmoving.written, hmoving.sent, hmoving.received⟩
  | transferStateCmd =>
      exact ⟨hmoving.cmdBuf, hmoving.nextState, hmoving.sum, hmoving.more, hmoving.written,
        hmoving.fresh.frame⟩
  | transferStateWrite =>
      exact ⟨hmoving.1, ⟨hmoving.2.1.buf, hmoving.2.1.sum, hmoving.2.1.more⟩, hmoving.2.2⟩
  | transferStateRead =>
      obtain ⟨hnext, hreceiving, hplan⟩ := hmoving
      exact ⟨hnext, ⟨hreceiving.sum, hreceiving.more, hreceiving.eomReason, hreceiving.eos,
        hreceiving.each, hreceiving.ended⟩, hplan⟩

/-- The event is set where the transfer has ended. -/
structure Flight (op : Op) (i : Nat) (c : Command) (p : Gsport) : Prop where
  moving : Moving op i c p p.transferState
  event : p.waitForInterrupt = decide (p.transferState = transferStateIdle)
  status : p.status = .asynSuccess

/-! ## One interrupt -/

theorem sendAll_drop {data : List UInt8} {k : Nat} (hk : k < data.length) :
    sendAll (data.drop k) =
      (if k + 1 = data.length then [.auxmr .feoi] else []) ++
        .cdor (data.getD k 0) :: sendAll (data.drop (k + 1)) := by
  have hbyte : data.getD k 0 = data[k] := by
    simp [List.getD, hk]
  rw [List.drop_eq_getElem_cons hk, hbyte]
  by_cases hlast : k + 1 = data.length
  · rw [if_pos hlast, hlast, List.drop_length]
    rfl
  · rw [if_neg hlast, sendAll_cons]
    · rfl
    · intro hnil
      have := List.drop_eq_nil_iff.mp hnil
      omega

/-- An interrupt while data is written. -/
theorem flight_caseWrite (isr0 : UInt8) (hstate : p.transferState = transferStateWrite)
    (hmoving : Moving op i c p transferStateWrite) (hevent : p.waitForInterrupt = false)
    (hstatus : p.status = .asynSuccess) : Flight op i c (p.caseWrite isr0) := by
  obtain ⟨hnext, hsending, hplan⟩ := hmoving
  have hsum := hsending.sum
  simp only [Gsport.caseWrite, notAnd_bo, Bool.false_eq_true, if_false]
  by_cases hzero : p.bytesRemainingWrite = 0
  · rw [if_pos hzero]
    have hend : p.nextByteWrite = op.data.length := by omega
    rw [hend, List.drop_length] at hplan
    refine ⟨⟨?_, fun _ => hzero, fun hread => ?_⟩, rfl, hstatus⟩
    · exact hplan
    · rw [hnext] at hread
      exact TransferState.noConfusion hread
  · rw [if_neg hzero]
    have hmore := hsending.more
    have hlt : p.nextByteWrite < op.data.length := by omega
    have hrest : ((p.nextByteWrite + 1 : Nat) : Int) + (p.bytesRemainingWrite - 1) =
        op.data.length := by
      omega
    have hnonneg : 0 ≤ p.bytesRemainingWrite - 1 := by omega
    rw [sendAll_drop hlt] at hplan
    by_cases hlast : p.bytesRemainingWrite = 1
    · have hone : p.nextByteWrite + 1 = op.data.length := by omega
      rw [if_pos hlast]
      rw [if_pos hone] at hplan
      refine ⟨?_, ?_, hstatus⟩
      · simp only [Gsport.auxCmd, Gsport.putCdor, hstate]
        refine ⟨hnext, ⟨hsending.buf, hrest, hnonneg⟩, ?_⟩
        rw [← hplan, hsending.buf]
        simp
      · simp [Gsport.auxCmd, Gsport.putCdor, hstate, hevent]
    · have hone : p.nextByteWrite + 1 ≠ op.data.length := by omega
      rw [if_neg hlast]
      rw [if_neg hone] at hplan
      refine ⟨?_, ?_, hstatus⟩
      · simp only [Gsport.putCdor, hstate]
        refine ⟨hnext, ⟨hsending.buf, hrest, hnonneg⟩, ?_⟩
        rw [← hplan, hsending.buf]
        simp
      · simp [Gsport.putCdor, hstate, hevent]

/-- An interrupt while data is read. -/
theorem flight_caseRead (isr0 dir : UInt8) (hc : op.commands[i]? = some c)
    (hstate : p.transferState = transferStateRead)
    (hmoving : Moving op i c p transferStateRead) (hevent : p.waitForInterrupt = false)
    (hstatus : p.status = .asynSuccess) : Flight op i c (p.caseRead isr0 dir) := by
  obtain ⟨hnext, hreceiving, hplan⟩ := hmoving
  have hsum := hreceiving.sum
  have hmore := hreceiving.more
  have hzero : i = 0 := Op.index_zero hc (by rw [hnext]; decide)
  subst hzero
  have hlength : (p.stored ++ [dir]).length = p.stored.length + 1 := by simp
  have heach : (p.isrs ++ [isr0]).length = (p.stored ++ [dir]).length := by
    simp [hreceiving.each]
  simp only [Gsport.caseRead, notAnd_bi, Bool.false_eq_true, if_false]
  by_cases hnone : p.reasonWith isr0 dir = .none
  · rw [if_pos hnone]
    have hcnt : decide (p.bytesRemainingRead - 1 = 0) = false := by
      have := congrArg EomReason.cnt hnone
      simpa [Gsport.reasonWith, hreceiving.eomReason, EomReason.none] using this
    have heos : ¬ (p.eos ≠ -1 ∧ (dir.toNat : Int) = p.eos) := by
      have := congrArg EomReason.eos hnone
      simpa [Gsport.reasonWith, hreceiving.eomReason, EomReason.none] using this
    have hended : ¬ WithEnd isr0 := by
      have := congrArg EomReason.ended hnone
      simpa [Gsport.reasonWith, hreceiving.eomReason, EomReason.none, WithEnd] using this
    have hleft : p.bytesRemainingRead - 1 ≠ 0 := of_decide_eq_false hcnt
    refine ⟨?_, ?_, hstatus⟩
    · simp only [Gsport.auxCmd, hstate]
      refine ⟨hnext, ⟨?_, ?_, hnone, ?_, heach, ?_⟩, ?_⟩
      · change ((p.stored ++ [dir]).length : Int) + (p.bytesRemainingRead - 1) = _
        rw [hlength]
        omega
      · change 0 < p.bytesRemainingRead - 1
        omega
      · intro b hb
        rcases List.mem_append.mp hb with hold | hnew
        · exact hreceiving.eos b hold
        · rw [List.mem_singleton.mp hnew]
          exact heos
      · intro b hb
        rcases List.mem_append.mp hb with hold | hnew
        · exact hreceiving.ended b hold
        · rw [List.mem_singleton.mp hnew]
          exact hended
      · change (p.written ++ [.auxmr .rhdf]) ++ [.auxmr .lonc, .auxmr .rhdf] =
          op.plan ((p.stored ++ [dir]).length + 1) 1
        rw [Op.plan_succ _ _ hc, Op.writes_read hnext] at hplan ⊢
        rw [hlength, List.replicate_succ']
        have hwritten : p.written = op.plan (p.stored.length + 1) 0 ++ .auxmr .tca ::
            (c.buf.map .cdor ++ ([.auxmr .lons, .auxmr .gts] ++
              List.replicate p.stored.length (.auxmr .rhdf))) := by
          refine List.append_cancel_right (hplan.trans ?_)
          simp
        rw [hwritten]
        simp
    · simp [Gsport.auxCmd, hstate, hevent]
  · rw [if_neg hnone]
    refine ⟨⟨?_, ?_, fun _ => ⟨⟨?_, heach, ?_, ?_, ?_, ?_⟩, ?_⟩⟩, rfl, hstatus⟩
    · change (p.written ++ [.auxmr .lonc]) ++ [.auxmr .rhdf] = op.plan (p.stored ++ [dir]).length 1
      rw [hlength, ← hplan]
      simp
    · intro hwrite
      rw [hnext] at hwrite
      exact TransferState.noConfusion hwrite
    · change ((p.stored ++ [dir]).length : Int) ≤ _
      rw [hlength]
      omega
    · change (p.reasonWith isr0 dir).cnt = decide (((p.stored ++ [dir]).length : Int) = op.room)
      rw [hlength]
      simp only [Gsport.reasonWith, hreceiving.eomReason, EomReason.none, Bool.false_or]
      exact decide_eq_decide.mpr (by omega)
    · refine ⟨p.stored, dir, rfl, ?_, hreceiving.eos⟩
      change (p.reasonWith isr0 dir).eos = _
      simp only [Gsport.reasonWith, hreceiving.eomReason, EomReason.none, Bool.false_or]
      rfl
    · refine ⟨p.isrs, isr0, rfl, ?_, hreceiving.ended⟩
      change (p.reasonWith isr0 dir).ended = _
      simp only [Gsport.reasonWith, hreceiving.eomReason, EomReason.none, Bool.false_or]
      rfl
    · exact hnone
    · change ((p.stored ++ [dir]).length : Int) + (p.bytesRemainingRead - 1) = _
      rw [hlength]
      omega

/-- An interrupt while a command string is written. -/
theorem flight_caseCmd (isr0 : UInt8) (hc : op.commands[i]? = some c)
    (hstate : p.transferState = transferStateCmd)
    (hmoving : Commanding op i c p p.nextByteCmd) (hevent : p.waitForInterrupt = false)
    (hstatus : p.status = .asynSuccess) : Flight op i c (p.caseCmd isr0) := by
  have hsum := hmoving.sum
  simp only [Gsport.caseCmd, notAnd_bo, Bool.false_eq_true, if_false]
  by_cases hmore : 0 < p.bytesRemainingCmd
  · rw [if_pos hmore]
    have hlt : p.nextByteCmd < c.buf.length := by omega
    refine ⟨?_, ?_, hstatus⟩
    · simp only [Gsport.sendCmd, Gsport.putCdor, hstate]
      refine ⟨hmoving.cmdBuf, hmoving.nextState, ?_, ?_, ?_, ?_⟩
      · change ((p.nextByteCmd + 1 : Nat) : Int) + (p.bytesRemainingCmd - 1) = _
        omega
      · change 0 ≤ p.bytesRemainingCmd - 1
        omega
      · have hbyte : p.cmdBuf.getD p.nextByteCmd 0 = c.buf[p.nextByteCmd] := by
          simp [hmoving.cmdBuf, List.getD, hlt]
        change p.written ++ [.cdor (p.cmdBuf.getD p.nextByteCmd 0)] =
          op.plan p.stored.length i ++ .auxmr .tca :: (c.buf.take (p.nextByteCmd + 1)).map .cdor
        rw [hbyte, hmoving.written, List.take_add_one, List.getElem?_eq_getElem hlt,
          List.map_append]
        simp
      · exact hmoving.fresh.frame
    · simp [Gsport.sendCmd, Gsport.putCdor, hstate, hevent]
  · rw [if_neg hmore]
    have hnonneg := hmoving.more
    have hend : p.nextByteCmd = c.buf.length := by omega
    have hwritten := hmoving.written
    rw [hend, List.take_length] at hwritten
    have hfresh := hmoving.fresh
    rw [hmoving.nextState]
    cases hnext : c.nextState with
    | transferStateCmd => exact absurd hnext (Op.nextState_ne_cmd hc)
    | transferStateIdle =>
        refine ⟨⟨?_, ?_, ?_⟩, rfl, hstatus⟩
        · change p.written = op.plan p.stored.length (i + 1)
          rw [Op.plan_succ _ _ hc, Op.writes_idle hnext]
          exact hwritten
        · intro hwrite
          rw [hnext] at hwrite
          exact TransferState.noConfusion hwrite
        · intro hread
          rw [hnext] at hread
          exact TransferState.noConfusion hread
    | transferStateWrite =>
        rw [hnext] at hfresh
        refine flight_caseWrite isr0 rfl ⟨hnext, ⟨hfresh.1.buf, hfresh.1.sum, hfresh.1.more⟩, ?_⟩
          hevent hstatus
        change ((p.written ++ [.auxmr .tons]) ++ [.auxmr .gts]) ++
          (sendAll (op.data.drop p.nextByteWrite) ++ [.auxmr .tonc]) =
            op.plan p.stored.length (i + 1)
        rw [Op.plan_succ _ _ hc, Op.writes_write hnext, hwritten, hfresh.2]
        simp
    | transferStateRead =>
        rw [hnext] at hfresh
        obtain ⟨hreceiving, hempty⟩ := hfresh
        have hzero : i = 0 := Op.index_zero hc (by rw [hnext]; decide)
        subst hzero
        refine ⟨⟨hnext, ⟨hreceiving.sum, hreceiving.more, hreceiving.eomReason, hreceiving.eos,
          hreceiving.each, hreceiving.ended⟩, ?_⟩, hevent, hstatus⟩
        change ((p.written ++ [.auxmr .lons]) ++ [.auxmr .gts]) ++ [.auxmr .lonc, .auxmr .rhdf] =
          op.plan (p.stored.length + 1) 1
        rw [Op.plan_succ _ _ hc, Op.writes_read hnext, hwritten, hempty]
        simp

/-- An interrupt without a bus error takes the transfer further. -/
theorem Flight.interrupt (hc : op.commands[i]? = some c) (hflight : Flight op i c p)
    (isr0 isr1 dir : UInt8) (herr : isr1 &&& errBit = 0) : Flight op i c (gsip488 p isr0 isr1 dir) := by
  obtain ⟨hmoving, hevent, hstatus⟩ := hflight
  simp only [gsip488, herr, ne_eq, not_true_eq_false, if_false]
  cases hstate : p.transferState with
  | transferStateIdle =>
      rw [hstate] at hmoving hevent
      exact ⟨Moving.frame hmoving, hevent, hstatus⟩
  | transferStateCmd =>
      rw [hstate] at hmoving hevent
      exact flight_caseCmd isr0 hc rfl (Moving.frame hmoving) hevent hstatus
  | transferStateWrite =>
      rw [hstate] at hmoving hevent
      exact flight_caseWrite isr0 rfl (Moving.frame hmoving) hevent hstatus
  | transferStateRead =>
      rw [hstate] at hmoving hevent
      exact flight_caseRead isr0 dir hc rfl (Moving.frame hmoving) hevent hstatus

theorem caseWrite_frame (p : Gsport) (isr0 : UInt8) :
    (p.caseWrite isr0).stored = p.stored ∧ (p.caseWrite isr0).isrs = p.isrs ∧
      (p.caseWrite isr0).eos = p.eos := by
  unfold Gsport.caseWrite
  split
  · exact ⟨rfl, rfl, rfl⟩
  · dsimp only
    split
    · exact ⟨rfl, rfl, rfl⟩
    · split <;> exact ⟨rfl, rfl, rfl⟩

theorem caseCmd_frame (p : Gsport) (isr0 : UInt8) :
    (p.caseCmd isr0).stored = p.stored ∧ (p.caseCmd isr0).isrs = p.isrs ∧
      (p.caseCmd isr0).eos = p.eos := by
  unfold Gsport.caseCmd
  split
  · exact ⟨rfl, rfl, rfl⟩
  · split
    · exact ⟨rfl, rfl, rfl⟩
    · dsimp only
      split
      · exact ⟨rfl, rfl, rfl⟩
      · exact caseWrite_frame _ isr0
      · exact ⟨rfl, rfl, rfl⟩
      · exact ⟨rfl, rfl, rfl⟩

/-- Only a read stores. -/
theorem gsip488_stored (isr0 isr1 dir : UInt8) (hstate : p.transferState ≠ transferStateRead) :
    (gsip488 p isr0 isr1 dir).stored = p.stored ∧ (gsip488 p isr0 isr1 dir).isrs = p.isrs := by
  unfold gsip488
  dsimp only
  split
  · split <;> exact ⟨rfl, rfl⟩
  · split
    · exact ⟨(caseCmd_frame _ isr0).1, (caseCmd_frame _ isr0).2.1⟩
    · exact ⟨(caseWrite_frame _ isr0).1, (caseWrite_frame _ isr0).2.1⟩
    · next hread => exact absurd hread hstate
    · exact ⟨rfl, rfl⟩

theorem gsip488_read (isr0 isr1 dir : UInt8) (herr : isr1 &&& errBit = 0)
    (hstate : p.transferState = transferStateRead) :
    (gsip488 p isr0 isr1 dir).stored = p.stored ++ [dir] := by
  simp only [gsip488, herr, hstate, ne_eq, not_true_eq_false, if_false, Gsport.caseRead, notAnd_bi,
    Bool.false_eq_true]
  split <;> rfl

/-- The terminator is not the interrupt routine's. -/
theorem gsip488_eos (p : Gsport) (isr0 isr1 dir : UInt8) :
    (gsip488 p isr0 isr1 dir).eos = p.eos := by
  unfold gsip488
  dsimp only
  split
  · split <;> rfl
  · split
    · exact (caseCmd_frame _ isr0).2.2
    · exact (caseWrite_frame _ isr0).2.2
    · unfold Gsport.caseRead
      split
      · rfl
      · dsimp only
        split <;> rfl
    · rfl

/-! ## The runs -/

/-- A command string has a byte, and a read has room for one. -/
def Callable (op : Op) : Prop :=
  ∀ c ∈ op.commands, c.buf ≠ [] ∧ (c.nextState = transferStateRead → 0 < op.room)

instance (op : Op) : Decidable (Callable op) :=
  inferInstanceAs (Decidable (∀ c ∈ op.commands, _))

/-- Where an interrupt may come: not between the stores of `writeCmd` and its first byte, nor while
`waitTimeout` gives up. -/
def Place.Open : Place → Prop
  | .first => False
  | .timedOut => False
  | .saved _ => False
  | _ => True

instance (place : Place) : Decidable place.Open := by
  cases place <;> unfold Place.Open <;> infer_instance

def Pc.Open : Pc → Prop
  | .outside => True
  | .inCmd _ _ _ place => place.Open

instance (pc : Pc) : Decidable pc.Open := by
  cases pc <;> unfold Pc.Open <;> infer_instance

/-- The steps without a bus error, and apart from each other. -/
def Apart (s : State) : Action → Prop
  | .call op => Callable op
  | .interrupt _ isr1 _ => isr1 &&& errBit = 0 ∧ s.pc.Open
  | _ => True

instance (s : State) (a : Action) : Decidable (Apart s a) := by
  cases a <;> unfold Apart <;> infer_instance

/-! ## What a method has done -/

/-- What is true of a method that has returned. -/
structure Sound (d : Done) : Prop where
  order : ∃ n, d.written <+: d.op.plan n d.op.commands.length
  complete : (∀ addr, d.op ≠ .gpibPortSerialPoll addr) → d.result.status = .asynSuccess →
    d.op.plan d.stored.length d.op.needed <+: d.written
  sent : ∀ data addr, d.op = .gpibPortWrite data addr →
    d.result.actual = if d.result.status = .asynSuccess then data.length else 0
  fits : 0 < d.op.room → (d.stored.length : Int) ≤ d.op.room
  received : ∀ maxchars addr, d.op = .gpibPortRead maxchars addr →
    d.result.status = .asynSuccess →
      d.result.actual = d.stored.length ∧ Received d.eos maxchars d.stored d.isrs d.result.eomReason
  refused : ∀ maxchars addr, d.op = .gpibPortRead maxchars addr →
    d.result.status ≠ .asynSuccess → d.result.actual = 0

/-- What the variables of the method say. -/
structure Known (op : Op) (i : Nat) (l : Locals) (p : Gsport) : Prop where
  start : i = 0 → l.actual = 0
  sent : ∀ data addr, op = .gpibPortWrite data addr → i ≠ 0 → l.actual = data.length
  received : ∀ maxchars addr, op = .gpibPortRead maxchars addr → i ≠ 0 →
    l.actual = p.stored.length ∧ Received p.eos maxchars p.stored p.isrs l.eomReason

/-- The port when `writeCmd` starts; `more` is what it has written since. -/
structure Ready (op : Op) (i : Nat) (c : Command) (p : Gsport) (more : List RegWrite) : Prop where
  idle : p.transferState = transferStateIdle
  event : p.waitForInterrupt = false
  fresh : Fresh op p c.nextState
  written : p.written = op.plan p.stored.length i ++ more

/-- The port by the place of the thread. -/
def AtPlace (op : Op) (i : Nat) (c : Command) (p : Gsport) : Place → Prop
  | .takeControl => Ready op i c p []
  | .arm => Ready op i c p [.auxmr .tca]
  | .first =>
      p.transferState = transferStateCmd ∧ p.waitForInterrupt = false ∧
        p.status = .asynSuccess ∧ p.nextByteCmd = 1 ∧ Commanding op i c p 0
  | .waiting => Flight op i c p
  | .timedOut => Flight op i c p ∧ p.transferState ≠ transferStateIdle
  | .saved st => Flight op i c p ∧ p.transferState = st ∧ st ≠ transferStateIdle

/-- The port in a method. -/
structure InMethod (op : Op) (i : Nat) (l : Locals) (place : Place) (p : Gsport) : Prop where
  callable : Callable op
  known : Known op i l p
  fits : 0 < op.room → (p.stored.length : Int) ≤ op.room
  place : ∃ c, op.commands[i]? = some c ∧ AtPlace op i c p place

/-- The invariant of the runs. -/
structure Inv (s : State) : Prop where
  done : ∀ d ∈ s.done, Sound d
  port : match s.pc with
    | .outside => s.port.transferState = transferStateIdle ∧ s.port.waitForInterrupt = false
    | .inCmd op i l place => InMethod op i l place s.port

/-- What has been written is the beginning of what has to be. -/
theorem Flight.order (hc : op.commands[i]? = some c) (hflight : Flight op i c p) :
    ∃ n, p.written <+: op.plan n op.commands.length := by
  have hlt : i < op.commands.length := (List.getElem?_eq_some_iff.mp hc).1
  have hmoving := hflight.moving
  cases hstate : p.transferState with
  | transferStateIdle =>
      rw [hstate] at hmoving
      refine ⟨p.stored.length, ?_⟩
      rw [hmoving.written]
      exact op.plan_prefix _ hlt
  | transferStateCmd =>
      rw [hstate] at hmoving
      refine ⟨p.stored.length, List.IsPrefix.trans ?_ (op.plan_prefix _ hlt)⟩
      rw [Op.plan_succ _ _ hc, hmoving.written]
      refine (List.prefix_append_right_inj _).mpr ?_
      refine List.cons_prefix_cons.mpr ⟨rfl, List.IsPrefix.trans ?_ (List.prefix_append _ _)⟩
      exact (List.take_prefix _ _).map _
  | transferStateWrite =>
      rw [hstate] at hmoving
      refine ⟨p.stored.length, List.IsPrefix.trans ?_ (op.plan_prefix _ hlt)⟩
      exact ⟨_, hmoving.2.2⟩
  | transferStateRead =>
      rw [hstate] at hmoving
      refine ⟨p.stored.length + 1, List.IsPrefix.trans ?_ (op.plan_prefix _ hlt)⟩
      exact ⟨_, hmoving.2.2⟩

theorem Op.needed_pos (op : Op) : 0 < op.needed := by
  cases op <;> exact Nat.succ_pos _

/-- What has been done stays written. -/
theorem Flight.needed (hc : op.commands[i]? = some c) (hflight : Flight op i c p)
    (hle : op.needed ≤ i) : op.plan p.stored.length op.needed <+: p.written := by
  have hpos := op.needed_pos
  have hidle : c.nextState = transferStateIdle := by
    by_contra hnext
    have := Op.index_zero hc hnext
    omega
  have hmoving := hflight.moving
  cases hstate : p.transferState with
  | transferStateIdle =>
      rw [hstate] at hmoving
      rw [hmoving.written]
      exact op.plan_prefix _ (by omega)
  | transferStateCmd =>
      rw [hstate] at hmoving
      rw [hmoving.written]
      exact List.IsPrefix.trans (op.plan_prefix _ hle) (List.prefix_append _ _)
  | transferStateWrite =>
      rw [hstate] at hmoving
      exact absurd (hidle.symm.trans hmoving.1) (by decide)
  | transferStateRead =>
      rw [hstate] at hmoving
      exact absurd (hidle.symm.trans hmoving.1) (by decide)

/-- `writeCmd` number `i` has returned `status`. -/
structure Back (op : Op) (i : Nat) (c : Command) (status : AsynStatus) (p : Gsport) : Prop where
  idle : p.transferState = transferStateIdle
  event : p.waitForInterrupt = false
  same : p.status = status
  finished : status = .asynSuccess → Finished op i c p
  order : ∃ n, p.written <+: op.plan n op.commands.length
  needed : op.needed ≤ i → op.plan p.stored.length op.needed <+: p.written

/-- Where the method goes on, it goes on to a string with nothing behind it. -/
theorem Back.goesOn {l l' : Locals} (hc : op.commands[i]? = some c) (hback : Back op i c status p)
    (hafter : op.afterCmd status p l i = .inl l') :
    Finished op i c p ∧ Known op (i + 1) l' p ∧
      ∃ c', op.commands[i + 1]? = some c' ∧ c'.nextState = transferStateIdle := by
  cases op with
  | gpibPortWrite data addr =>
      simp only [Op.afterCmd] at hafter
      by_cases hi : i = 0
      · by_cases hstatus : status = .asynSuccess
        · have hfinished := hback.finished hstatus
          subst hi
          simp only [hback.same, hstatus, ne_eq, not_true_eq_false, if_false,
            Sum.inl.injEq] at hafter
          subst hafter
          have hc' : c.nextState = transferStateWrite := by
            simp only [Op.commands, List.getElem?_cons_zero, Option.some.injEq] at hc
            rw [← hc]
          refine ⟨hfinished, ⟨fun h => absurd h (by decide), ?_, ?_⟩, unaddress, rfl, rfl⟩
          · rintro data' addr' heq -
            cases heq
            simp [hfinished.sent hc']
          · rintro maxchars addr' heq -
            exact Op.noConfusion heq
        · simp [hi, hstatus] at hafter
      · simp [hi] at hafter
  | gpibPortRead maxchars addr =>
      simp only [Op.afterCmd] at hafter
      by_cases hi : i = 0
      · by_cases hstatus : status = .asynSuccess
        · have hfinished := hback.finished hstatus
          subst hi
          simp only [hstatus, ne_eq, not_true_eq_false, if_false, Sum.inl.injEq] at hafter
          subst hafter
          have hc' : c.nextState = transferStateRead := by
            simp only [Op.commands, List.getElem?_cons_zero, Option.some.injEq] at hc
            rw [← hc]
          obtain ⟨hreceived, hsum⟩ := hfinished.received hc'
          refine ⟨hfinished, ⟨fun h => absurd h (by decide), ?_, ?_⟩, unaddress, rfl, rfl⟩
          · rintro data addr' heq -
            exact Op.noConfusion heq
          · rintro maxchars' addr' heq -
            cases heq
            refine ⟨?_, hreceived⟩
            change maxchars - p.bytesRemainingRead = _
            change (p.stored.length : Int) + p.bytesRemainingRead = maxchars at hsum
            omega
        · simp [hi, hstatus] at hafter
      · simp [hi] at hafter
  | gpibPortAddressedCmd data addr =>
      simp only [Op.afterCmd] at hafter
      by_cases hi : 2 ≤ i
      · simp [hi] at hafter
      · by_cases hstatus : status = .asynSuccess
        · have hfinished := hback.finished hstatus
          refine ⟨hfinished, ⟨fun h => absurd h (by omega), ?_, ?_⟩, ?_⟩
          · rintro data' addr' heq -
            exact Op.noConfusion heq
          · rintro maxchars addr' heq -
            exact Op.noConfusion heq
          · rcases i with - | - | i
            · exact ⟨_, rfl, rfl⟩
            · exact ⟨_, rfl, rfl⟩
            · omega
        · simp [hi, hstatus] at hafter
  | gpibPortUniversalCmd cmd => simp [Op.afterCmd] at hafter
  | gpibPortSerialPollBegin => simp [Op.afterCmd] at hafter
  | gpibPortSerialPoll addr => simp [Op.afterCmd] at hafter
  | gpibPortSerialPollEnd => simp [Op.afterCmd] at hafter

theorem Finished.needed (hfinished : Finished op i c p) (hi : op.needed ≤ i + 1) :
    op.plan p.stored.length op.needed <+: p.written := by
  rw [hfinished.written]
  exact op.plan_prefix _ hi

/-- Where the method returns, what it says is true. -/
theorem Back.sound {l : Locals} {r : Result} (hback : Back op i c status p)
    (hknown : Known op i l p)
    (hfits : 0 < op.room → (p.stored.length : Int) ≤ op.room)
    (hafter : op.afterCmd status p l i = .inr r) :
    Sound ⟨op, r, p.eos, p.written, p.stored, p.isrs⟩ := by
  have hplain : r = result status l p → op.needed ≤ i + 1 → r.status = .asynSuccess →
      op.plan p.stored.length op.needed <+: p.written := by
    rintro rfl hi hsuccess
    exact (hback.finished hsuccess).needed hi
  cases op with
  | gpibPortWrite data addr =>
      simp only [Op.afterCmd] at hafter
      by_cases hi : i = 0
      · by_cases hstatus : status = .asynSuccess
        · simp [hi, hstatus, hback.same] at hafter
        · simp only [hi, hstatus, ne_eq, not_true_eq_false, not_false_eq_true, if_true, if_false,
            Sum.inr.injEq] at hafter
          subst hafter
          refine ⟨hback.order, fun _ hsuccess => absurd hsuccess hstatus, ?_, hfits, ?_, ?_⟩
          · rintro data' addr' -
            change l.actual = ((if status = .asynSuccess then data'.length else 0 : Nat) : Int)
            rw [if_neg hstatus]
            exact hknown.start hi
          · rintro maxchars addr' heq
            exact Op.noConfusion heq
          · rintro maxchars addr' heq
            exact Op.noConfusion heq
      · have hactual := hknown.sent data addr rfl hi
        simp only [hi, hactual, ne_eq, not_true_eq_false, not_false_eq_true, if_true, if_false,
          Sum.inr.injEq] at hafter
        subst hafter
        refine ⟨hback.order, fun _ _ => hback.needed (by change 1 ≤ i; omega), ?_, hfits, ?_, ?_⟩
        · rintro data' addr' heq
          cases heq
          exact hactual
        · rintro maxchars addr' heq
          exact Op.noConfusion heq
        · rintro maxchars addr' heq
          exact Op.noConfusion heq
  | gpibPortRead maxchars addr =>
      simp only [Op.afterCmd] at hafter
      by_cases hi : i = 0
      · by_cases hstatus : status = .asynSuccess
        · simp [hi, hstatus] at hafter
        · simp only [hi, hstatus, ne_eq, not_true_eq_false, not_false_eq_true, if_true, if_false,
            Sum.inr.injEq] at hafter
          subst hafter
          refine ⟨hback.order, fun _ hsuccess => absurd hsuccess hstatus, ?_, hfits, ?_, ?_⟩
          · rintro data addr' heq
            exact Op.noConfusion heq
          · rintro maxchars' addr' - hsuccess
            exact absurd hsuccess hstatus
          · rintro maxchars' addr' - -
            exact hknown.start hi
      · simp only [hi, ne_eq, not_false_eq_true, if_true, Sum.inr.injEq] at hafter
        subst hafter
        refine ⟨hback.order, fun _ _ => hback.needed (by change 1 ≤ i; omega), ?_, hfits, ?_, ?_⟩
        · rintro data addr' heq
          exact Op.noConfusion heq
        · rintro maxchars' addr' heq -
          exact hknown.received maxchars' addr' heq hi
        · rintro maxchars' addr' - hfailed
          exact absurd rfl hfailed
  | gpibPortAddressedCmd data addr =>
      simp only [Op.afterCmd] at hafter
      refine ⟨hback.order, fun _ hsuccess => ?_, ?_, hfits, ?_, ?_⟩
      · by_cases hi : 2 ≤ i
        · exact hback.needed hi
        · by_cases hstatus : status = .asynSuccess
          · simp [hi, hstatus] at hafter
          · simp only [hi, hstatus, ne_eq, not_false_eq_true, if_true, if_false,
              Sum.inr.injEq] at hafter
            rw [← hafter] at hsuccess
            exact absurd hsuccess hstatus
      · rintro data' addr' heq
        exact Op.noConfusion heq
      · rintro maxchars addr' heq
        exact Op.noConfusion heq
      · rintro maxchars addr' heq
        exact Op.noConfusion heq
  | gpibPortSerialPoll addr =>
      refine ⟨hback.order, fun hpoll => absurd rfl (hpoll addr), ?_, hfits, ?_, ?_⟩
      · rintro data addr' heq
        exact Op.noConfusion heq
      · rintro maxchars addr' heq
        exact Op.noConfusion heq
      · rintro maxchars addr' heq
        exact Op.noConfusion heq
  | _ =>
      simp only [Op.afterCmd, Sum.inr.injEq] at hafter
      refine ⟨hback.order, fun _ => hplain hafter.symm (by change 1 ≤ i + 1; omega), ?_, hfits,
        ?_, ?_⟩
      · rintro data addr' heq
        exact Op.noConfusion heq
      · rintro maxchars addr' heq
        exact Op.noConfusion heq
      · rintro maxchars addr' heq
        exact Op.noConfusion heq

theorem Back.inv {s : State} {l : Locals} (hdone : ∀ d ∈ s.done, Sound d) (hcallable : Callable op)
    (hc : op.commands[i]? = some c) (hback : Back op i c status p) (hknown : Known op i l p)
    (hfits : 0 < op.room → (p.stored.length : Int) ≤ op.room) :
    Inv (s.returned op i l status p) := by
  unfold State.returned
  cases hafter : op.afterCmd status p l i with
  | inl l' =>
      obtain ⟨hfinished, hknown', c', hc', hidle⟩ := hback.goesOn hc hafter
      refine ⟨hdone, hcallable, hknown', hfits, c', hc', hback.idle, hback.event, ?_, ?_⟩
      · rw [hidle]
        exact trivial
      · rw [hfinished.written, List.append_nil]
  | inr r =>
      refine ⟨?_, hback.idle, hback.event⟩
      intro d hd
      rcases List.mem_cons.mp hd with rfl | hold
      · exact hback.sound hknown hfits hafter
      · exact hdone d hold

/-! ## The invariant over the runs -/

theorem Known.frame {l : Locals} {p p' : Gsport} (hknown : Known op i l p)
    (heos : p'.eos = p.eos) (hstored : i ≠ 0 → p'.stored = p.stored ∧ p'.isrs = p.isrs) :
    Known op i l p' := by
  refine ⟨hknown.start, hknown.sent, ?_⟩
  intro maxchars addr hop hi
  rw [heos, (hstored hi).1, (hstored hi).2]
  exact hknown.received maxchars addr hop hi

/-- A command string is read from its beginning. -/
theorem Ready.arm (hready : Ready op i c p [.auxmr .tca]) (hbuf : c.buf ≠ []) :
    AtPlace op i c (State.arm p c) .first := by
  have hlength : 0 < c.buf.length := List.length_pos_of_ne_nil hbuf
  refine ⟨rfl, hready.event, rfl, rfl, rfl, rfl, ?_, ?_, ?_, hready.fresh.frame⟩
  · change ((1 : Nat) : Int) + ((c.buf.length : Int) - 1) = c.buf.length
    omega
  · change 0 ≤ (c.buf.length : Int) - 1
    omega
  · exact hready.written

/-- Its first byte. -/
theorem flight_first (hplace : AtPlace op i c p .first) (hbuf : c.buf ≠ []) :
    Flight op i c (p.putCdor (c.buf.headD 0)) := by
  obtain ⟨hstate, hevent, hstatus, hnextByte, hcommanding⟩ := hplace
  refine ⟨?_, ?_, hstatus⟩
  · simp only [Gsport.putCdor, hstate]
    refine ⟨hcommanding.cmdBuf, hcommanding.nextState, hcommanding.sum, hcommanding.more, ?_,
      hcommanding.fresh.frame⟩
    change p.written ++ [.cdor (c.buf.headD 0)] =
      op.plan p.stored.length i ++ .auxmr .tca :: (c.buf.take p.nextByteCmd).map .cdor
    rw [hcommanding.written, hnextByte]
    cases hcons : c.buf with
    | nil => exact absurd hcons hbuf
    | cons b rest => simp
  · simp [Gsport.putCdor, hstate, hevent]

theorem inv_thread {s s' : State} (hinv : Inv s) (hstep : s.threadStep = some s') : Inv s' := by
  have hport := hinv.port
  unfold State.threadStep at hstep
  cases hpc : s.pc with
  | outside => simp [hpc] at hstep
  | inCmd op i l place =>
      rw [hpc] at hport
      obtain ⟨hcallable, hknown, hfits, c, hc, hplace⟩ := hport
      have hbuf := (hcallable c (List.mem_of_getElem? hc)).1
      simp only [hpc, hc] at hstep
      cases place with
      | takeControl =>
          simp only [notAnd_bo, Bool.false_eq_true, if_false, Option.some.injEq] at hstep
          subst hstep
          refine ⟨hinv.done, hcallable, hknown.frame rfl (fun _ => ⟨rfl, rfl⟩), hfits, c, hc, hplace.idle,
            hplace.event, hplace.fresh.frame, ?_⟩
          change s.port.written ++ [.auxmr .tca] = _
          rw [hplace.written, List.append_nil]
          rfl
      | arm =>
          simp only [Option.some.injEq] at hstep
          subst hstep
          exact ⟨hinv.done, hcallable, hknown.frame rfl (fun _ => ⟨rfl, rfl⟩), hfits, c, hc,
            hplace.arm hbuf⟩
      | first =>
          simp only [Option.some.injEq] at hstep
          subst hstep
          exact ⟨hinv.done, hcallable, hknown.frame rfl (fun _ => ⟨rfl, rfl⟩), hfits, c, hc,
            flight_first hplace hbuf⟩
      | waiting => simp at hstep
      | timedOut =>
          simp only [Option.some.injEq] at hstep
          subst hstep
          exact ⟨hinv.done, hcallable, hknown, hfits, c, hc, hplace.1, rfl, hplace.2⟩
      | saved st =>
          simp only [Option.some.injEq] at hstep
          subst hstep
          obtain ⟨hflight, hstate, hmoves⟩ := hplace
          have hevent : s.port.waitForInterrupt = false := by
            rw [hflight.event, hstate]
            exact decide_eq_false hmoves
          have horder := hflight.order hc
          have hneeded := hflight.needed hc
          refine Back.inv hinv.done hcallable hc ⟨rfl, hevent, rfl, ?_, horder, hneeded⟩
            (hknown.frame rfl (fun _ => ⟨rfl, rfl⟩)) hfits
          intro hsuccess
          cases st <;> cases hsuccess

theorem inv_interrupt {s : State} (hinv : Inv s) (isr0 isr1 dir : UInt8)
    (hok : Apart s (.interrupt isr0 isr1 dir)) :
    Inv { s with port := gsip488 s.port isr0 isr1 dir } := by
  obtain ⟨herr, hopen⟩ := hok
  have hport := hinv.port
  have hidle : s.port.transferState = transferStateIdle →
      gsip488 s.port isr0 isr1 dir = { s.port with isr0 := isr0 } := by
    intro hstate
    simp [gsip488, herr, hstate]
  refine ⟨hinv.done, ?_⟩
  cases hpc : s.pc with
  | outside =>
      rw [hpc] at hport
      simp only [hidle hport.1]
      exact hport
  | inCmd op i l place =>
      rw [hpc] at hport hopen
      obtain ⟨hcallable, hknown, hfits, c, hc, hplace⟩ := hport
      cases place with
      | takeControl =>
          simp only [hidle hplace.idle]
          exact ⟨hcallable, hknown.frame rfl (fun _ => ⟨rfl, rfl⟩), hfits, c, hc, hplace.idle,
            hplace.event, hplace.fresh.frame, hplace.written⟩
      | arm =>
          simp only [hidle hplace.idle]
          exact ⟨hcallable, hknown.frame rfl (fun _ => ⟨rfl, rfl⟩), hfits, c, hc, hplace.idle,
            hplace.event, hplace.fresh.frame, hplace.written⟩
      | waiting =>
          have hflight : Flight op i c s.port := hplace
          have hafter := hflight.interrupt hc isr0 isr1 dir herr
          refine ⟨hcallable, hknown.frame (gsip488_eos _ _ _ _) ?_, ?_, c, hc, hafter⟩
          · intro hi
            refine gsip488_stored isr0 isr1 dir ?_
            intro hread
            have hmoving := hflight.moving
            rw [hread] at hmoving
            exact hi (Op.index_zero hc (by rw [hmoving.1]; decide))
          · intro hroom
            by_cases hread : s.port.transferState = transferStateRead
            · have hmoving := hflight.moving
              rw [hread] at hmoving
              have hsum := hmoving.2.1.sum
              have hmore := hmoving.2.1.more
              rw [gsip488_read isr0 isr1 dir herr hread, List.length_append, List.length_singleton]
              omega
            · rw [(gsip488_stored isr0 isr1 dir hread).1]
              exact hfits hroom
      | first => exact hopen.elim
      | timedOut => exact hopen.elim
      | saved st => exact hopen.elim

theorem known_start (op : Op) (p : Gsport) : Known op 0 ⟨0, .none⟩ p := by
  refine ⟨fun _ => rfl, ?_, ?_⟩
  · intro data addr _ hi
    exact absurd rfl hi
  · intro maxchars addr _ hi
    exact absurd rfl hi

/-- A method starts with its data still to be transferred. -/
theorem inv_call {s : State} (hinv : Inv s) (hcallable : Callable op) (hpc : s.pc = .outside) :
    Inv
      { s with
        port := op.start { s.port with written := [] }
        pc := .inCmd op 0 ⟨0, .none⟩ .takeControl } := by
  have hport := hinv.port
  rw [hpc] at hport
  obtain ⟨hidle, hevent⟩ := hport
  suffices hstart : (0 < op.room →
      ((op.start { s.port with written := [] }).stored.length : Int) ≤ op.room) ∧
      ∃ c, op.commands[0]? = some c ∧ Ready op 0 c (op.start { s.port with written := [] }) [] from
    ⟨hinv.done, hcallable, known_start op _, hstart.1, hstart.2⟩
  cases op with
  | gpibPortWrite data addr =>
      refine ⟨fun hroom => absurd hroom (by simp [Op.room]), _, rfl, hidle, hevent,
        ⟨⟨rfl, ?_, ?_⟩, rfl⟩, rfl⟩
      · change ((0 : Nat) : Int) + (data.length : Int) = data.length
        omega
      · change 0 ≤ (data.length : Int)
        omega
  | gpibPortRead maxchars addr =>
      have hroom : 0 < maxchars := (hcallable _ List.mem_cons_self).2 rfl
      refine ⟨fun _ => ?_, _, rfl, hidle, hevent, ⟨⟨?_, hroom, rfl, ?_, rfl, ?_⟩, rfl⟩, rfl⟩
      · change ((0 : Nat) : Int) ≤ maxchars
        omega
      · change ((0 : Nat) : Int) + maxchars = maxchars
        omega
      · intro b hb
        exact absurd hb List.not_mem_nil
      · intro isr0 hisr0
        exact absurd hisr0 List.not_mem_nil
  | gpibPortSerialPoll addr =>
      refine ⟨fun _ => by simp [Op.start, Op.room, Gsport.auxCmd], _, rfl, hidle, hevent,
        ⟨⟨rfl, Int.one_pos, rfl, ?_, rfl, ?_⟩, rfl⟩, rfl⟩
      · intro b hb
        exact absurd hb List.not_mem_nil
      · intro isr0 hisr0
        exact absurd hisr0 List.not_mem_nil
  | _ =>
      exact ⟨fun hroom => absurd hroom (by simp [Op.room]), _, rfl, hidle, hevent, trivial, rfl⟩

theorem inv_step {s s' : State} {a : Action} (hok : Apart s a) (hinv : Inv s)
    (hstep : step s a = some s') : Inv s' := by
  have hport := hinv.port
  cases a with
  | setEos eos =>
      simp only [step] at hstep
      split at hstep
      · next hpc =>
          cases hstep
          rw [hpc] at hport
          refine ⟨hinv.done, ?_⟩
          simp only [hpc]
          exact hport
      · cases hstep
  | call op =>
      simp only [step] at hstep
      split at hstep
      · next hpc =>
          cases hstep
          exact inv_call hinv hok hpc
      · cases hstep
  | thread => exact inv_thread hinv hstep
  | wake =>
      simp only [step] at hstep
      split at hstep
      · next op i l hpc =>
          rw [hpc] at hport
          obtain ⟨hcallable, hknown, hfits, c, hc, hflight⟩ := hport
          by_cases hevent : s.port.waitForInterrupt
          · rw [if_pos hevent] at hstep
            cases hstep
            have hidle : s.port.transferState = transferStateIdle :=
              of_decide_eq_true (hflight.event.symm.trans hevent)
            have horder := hflight.order hc
            have hneeded := hflight.needed hc
            have hmoving := hflight.moving
            rw [hidle] at hmoving
            exact Back.inv hinv.done hcallable hc
              ⟨hidle, rfl, rfl, fun _ => ⟨hmoving.written, hmoving.sent, hmoving.received⟩, horder,
                hneeded⟩
              (hknown.frame rfl (fun _ => ⟨rfl, rfl⟩)) hfits
          · rw [if_neg hevent] at hstep
            cases hstep
      · cases hstep
  | timeout =>
      simp only [step] at hstep
      split at hstep
      · next op i l hpc =>
          rw [hpc] at hport
          obtain ⟨hcallable, hknown, hfits, c, hc, hflight⟩ := hport
          by_cases hevent : s.port.waitForInterrupt
          · rw [if_pos hevent] at hstep
            cases hstep
          · rw [if_neg hevent] at hstep
            cases hstep
            refine ⟨hinv.done, hcallable, hknown, hfits, c, hc, hflight, ?_⟩
            intro hidle
            rw [hflight.event, hidle] at hevent
            exact hevent rfl
      · cases hstep
  | interrupt isr0 isr1 dir =>
      cases hstep
      exact inv_interrupt hinv isr0 isr1 dir hok

theorem inv_reachable {s : State} (hreach : machine.Reachable Apart s) : Inv s := by
  refine Machine.Reachable.invariant ?_ (fun s a s' => inv_step) hreach
  rintro s rfl
  refine ⟨?_, rfl, rfl⟩
  intro d hd
  exact absurd hd List.not_mem_nil

/-- A method that writes has written, in this order and nothing else, the beginning of its command
strings and its data; if it says that it succeeded, all of them, and then it gives back the number
of its bytes. -/
theorem written_in_order {s : State} (hreach : machine.Reachable Apart s) {d : Done}
    (hd : d ∈ s.done) :
    (∃ n, d.written <+: d.op.plan n d.op.commands.length) ∧
      ((∀ addr, d.op ≠ .gpibPortSerialPoll addr) → d.result.status = .asynSuccess →
        d.op.plan d.stored.length d.op.needed <+: d.written) ∧
      ∀ data addr, d.op = .gpibPortWrite data addr →
        d.result.actual = if d.result.status = .asynSuccess then data.length else 0 := by
  have hsound := (inv_reachable hreach).done d hd
  exact ⟨hsound.order, hsound.complete, hsound.sent⟩

/-- Two bytes to the device at address 5. -/
def aWrite : List Action :=
  [.call (.gpibPortWrite [0x41, 0x42] 5), .thread, .thread, .thread,
    .interrupt bo 0 0, .interrupt bo 0 0, .interrupt bo 0 0, .interrupt bo 0 0, .wake,
    .thread, .thread, .thread, .interrupt bo 0 0, .timeout, .thread, .thread]

/-- The bytes are out, although the last command string timed out. -/
def pair : Done where
  op := .gpibPortWrite [0x41, 0x42] 5
  result := ⟨.asynSuccess, 2, .none, 0⟩
  eos := -1
  written :=
    [.auxmr .tca, .cdor 0x40, .cdor 0x25, .auxmr .tons, .auxmr .gts, .cdor 0x41, .auxmr .feoi,
      .cdor 0x42, .auxmr .tonc, .auxmr .tca, .cdor 0x5f, .cdor 0x3f]
  stored := []
  isrs := []

theorem written_in_order_once :
    Op.plan (.gpibPortWrite [0x41, 0x42] 5) 0 1 <+: pair.written ∧ pair.result.actual = 2 := by
  obtain ⟨s, hreach, hdone⟩ : ∃ s, machine.Reachable Apart s ∧ s.done = [pair] :=
    Machine.exists_reachable_of_execGuarded State.done
      (fun s a (hcheck : decide (Apart s a) = true) => of_decide_eq_true hcheck)
      (s := ⟨.configured, .outside, []⟩) aWrite rfl (by decide)
  have hmem : pair ∈ s.done := by
    rw [hdone]
    exact List.mem_singleton.mpr rfl
  obtain ⟨-, hcomplete, hsent⟩ := written_in_order hreach hmem
  refine ⟨hcomplete (fun addr heq => Op.noConfusion heq) rfl, ?_⟩
  exact hsent [0x41, 0x42] 5 rfl

/-- A read never stores more than there is room for.  One that succeeds gives back what it has
stored, up to the first byte that is the terminator or comes with END, with the reasons that are true
of it.  `eosValue` makes a terminator of `0x80` or more negative, and no byte is equal to it. -/
theorem read_to_the_end {s : State} (hreach : machine.Reachable Apart s) {d : Done}
    (hd : d ∈ s.done) {maxchars addr : Int} (hop : d.op = .gpibPortRead maxchars addr) :
    (0 < maxchars → (d.stored.length : Int) ≤ maxchars) ∧
      (d.result.status = .asynSuccess →
        d.result.actual = d.stored.length ∧
          Received d.eos maxchars d.stored d.isrs d.result.eomReason) ∧
      (d.result.status ≠ .asynSuccess → d.result.actual = 0) := by
  have hsound := (inv_reachable hreach).done d hd
  have hfits := hsound.fits
  rw [hop] at hfits
  exact ⟨hfits, hsound.received maxchars addr hop, hsound.refused maxchars addr hop⟩

/-- Two bytes of the device at address 5, up to a line feed. -/
def aRead : List Action :=
  [.setEos (some 0x0a), .call (.gpibPortRead 8 5), .thread, .thread, .thread,
    .interrupt bo 0 0, .interrupt bo 0 0, .interrupt bi 0 0x41, .interrupt bi 0 0x0a, .wake,
    .thread, .thread, .thread, .interrupt bo 0 0, .interrupt bo 0 0, .wake]

def line : Done where
  op := .gpibPortRead 8 5
  result := ⟨.asynSuccess, 2, ⟨false, true, false⟩, 0x41⟩
  eos := 0x0a
  written :=
    [.auxmr .rhdf, .auxmr .tca, .cdor 0x45, .cdor 0x20, .auxmr .lons, .auxmr .gts, .auxmr .rhdf,
      .auxmr .lonc, .auxmr .rhdf, .auxmr .tca, .cdor 0x5f, .cdor 0x3f]
  stored := [0x41, 0x0a]
  isrs := [bi, bi]

theorem read_to_the_end_of_line :
    line.result.actual = 2 ∧ Received 0x0a 8 [0x41, 0x0a] [bi, bi] ⟨false, true, false⟩ := by
  obtain ⟨s, hreach, hdone⟩ : ∃ s, machine.Reachable Apart s ∧ s.done = [line] :=
    Machine.exists_reachable_of_execGuarded State.done
      (fun s a (hcheck : decide (Apart s a) = true) => of_decide_eq_true hcheck)
      (s := ⟨.configured, .outside, []⟩) aRead rfl (by decide)
  have hmem : line ∈ s.done := by
    rw [hdone]
    exact List.mem_singleton.mpr rfl
  obtain ⟨-, hsuccess, -⟩ := read_to_the_end hreach hmem rfl
  exact hsuccess rfl

end GsIP488
end AsynDriver
