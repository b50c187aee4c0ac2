import Mathlib.Algebra.Group.Int.Defs
import Mathlib.Algebra.Group.Nat.Defs
import Mathlib.Tactic.Common
import AsynDriver.Library.Machine
import AsynDriver.Manager.Types

/-!
# The transfers of `drvGsIP488.c`

A thread starts a transfer and waits; the interrupt routine of the module makes the rest of it, one byte
for each interrupt, and signals the thread.

* `Gsport` — what the two share, with the registers of the chip as the sequence of what is written to
  them.
* `gsip488` — the interrupt routine.
* `Op` — the methods that transfer, each as the command strings that it sends one after the other.
* `Step`, `machine` — the thread in `writeCmd` and `waitTimeout`, between which interrupts may come.
-/

namespace AsynDriver
namespace GsIP488

open Library
open Manager (AsynStatus)

/-- What is written to `AUXMR`. -/
inductive Aux
  | rhdf
  | feoi
  | lonc
  | lons
  | tonc
  | tons
  | gts
  | tca
  deriving DecidableEq, Repr

/-- A write to a register of the chip. -/
inductive RegWrite
  | auxmr (value : Aux)
  | cdor (octet : UInt8)
  deriving DecidableEq, Repr

inductive TransferState
  | transferStateIdle
  | transferStateCmd
  | transferStateWrite
  | transferStateRead
  deriving DecidableEq, Repr

open TransferState

/-- `ASYN_EOM_CNT`, `ASYN_EOM_EOS` and `ASYN_EOM_END` -/
structure EomReason where
  cnt : Bool
  eos : Bool
  ended : Bool
  deriving DecidableEq, Repr

def EomReason.none : EomReason := ⟨false, false, false⟩

/-- `nextByteCmd` and `nextByteWrite` are offsets in their buffers, `nextByteRead` is behind `stored`.
`isrs` has the `isr0` of the interrupt that stored each byte, `written` is what has gone to the chip since the
method was called. -/
structure Gsport where
  isr0 : UInt8
  transferState : TransferState
  nextTransferState : TransferState
  cmdBuf : List UInt8
  bytesRemainingCmd : Int
  nextByteCmd : Nat
  writeBuf : List UInt8
  bytesRemainingWrite : Int
  nextByteWrite : Nat
  bytesRemainingRead : Int
  stored : List UInt8
  isrs : List UInt8
  eomReason : EomReason
  eos : Int
  status : AsynStatus
  waitForInterrupt : Bool
  written : List RegWrite
  deriving DecidableEq, Repr

namespace Gsport

def auxCmd (p : Gsport) (value : Aux) : Gsport := { p with written := p.written ++ [.auxmr value] }

def putCdor (p : Gsport) (octet : UInt8) : Gsport := { p with written := p.written ++ [.cdor octet] }

def signal (p : Gsport) : Gsport := { p with waitForInterrupt := true }

end Gsport

/-! ## The interrupt routine -/

def bi : UInt8 := 0x20
def bo : UInt8 := 0x10
def endBit : UInt8 := 0x08
def errBit : UInt8 := 0x40

/-- `!isr0&bit`, where the `!` is that of `isr0` alone. -/
def notAnd (isr0 bit : UInt8) : Bool := (if isr0 = 0 then 1 else 0) &&& bit != 0

theorem notAnd_bi (isr0 : UInt8) : notAnd isr0 bi = false := by
  unfold notAnd
  split <;> decide

theorem notAnd_bo (isr0 : UInt8) : notAnd isr0 bo = false := by
  unfold notAnd
  split <;> decide

namespace Gsport

/-- The next byte of a command string. -/
def sendCmd (p : Gsport) : Gsport :=
  { p.putCdor (p.cmdBuf.getD p.nextByteCmd 0) with
    bytesRemainingCmd := p.bytesRemainingCmd - 1
    nextByteCmd := p.nextByteCmd + 1 }

/-- The case `transferStateWrite`. -/
def caseWrite (p : Gsport) (isr0 : UInt8) : Gsport :=
  if notAnd isr0 bo then p
  else if p.bytesRemainingWrite = 0 then
    ({ p with transferState := transferStateIdle }.auxCmd .tonc).signal
  else
    let p := if p.bytesRemainingWrite = 1 then p.auxCmd .feoi else p
    { p.putCdor (p.writeBuf.getD p.nextByteWrite 0) with
      bytesRemainingWrite := p.bytesRemainingWrite - 1
      nextByteWrite := p.nextByteWrite + 1 }

/-- `eomReason` after the byte that `DIR` holds. -/
def reasonWith (p : Gsport) (isr0 dir : UInt8) : EomReason where
  cnt := p.eomReason.cnt || decide (p.bytesRemainingRead - 1 = 0)
  eos := p.eomReason.eos || decide (p.eos ≠ -1 ∧ (dir.toNat : Int) = p.eos)
  ended := p.eomReason.ended || decide (endBit &&& isr0 ≠ 0)

/-- The case `transferStateRead`. -/
def caseRead (p : Gsport) (isr0 dir : UInt8) : Gsport :=
  if notAnd isr0 bi then p
  else
    let eomReason := p.reasonWith isr0 dir
    let p :=
      { p with
        stored := p.stored ++ [dir]
        isrs := p.isrs ++ [isr0]
        bytesRemainingRead := p.bytesRemainingRead - 1
        eomReason := eomReason }
    let p :=
      if eomReason = .none then p
      else ({ p with transferState := transferStateIdle }.auxCmd .lonc).signal
    p.auxCmd .rhdf

/-- The case `transferStateCmd`, which goes on with the data in the same interrupt. -/
def caseCmd (p : Gsport) (isr0 : UInt8) : Gsport :=
  if notAnd isr0 bo then p
  else if 0 < p.bytesRemainingCmd then p.sendCmd
  else
    let p := { p with transferState := p.nextTransferState }
    match p.nextTransferState with
    | transferStateIdle => p.signal
    | transferStateWrite => ((p.auxCmd .tons).auxCmd .gts).caseWrite isr0
    | transferStateRead => (p.auxCmd .lons).auxCmd .gts
    | transferStateCmd => p.auxCmd .gts

end Gsport

/-- `isr0`, `isr1` and `dir` are what the registers read as.  An idle port throws the byte away. -/
def gsip488 (p : Gsport) (isr0 isr1 dir : UInt8) : Gsport :=
  let p := { p with isr0 := isr0 }
  if isr1 &&& errBit ≠ 0 then
    if p.transferState ≠ transferStateIdle then { p with status := .asynError }.signal else p
  else
    match p.transferState with
    | transferStateCmd => p.caseCmd isr0
    | transferStateWrite => p.caseWrite isr0
    | transferStateRead => p.caseRead isr0 dir
    | transferStateIdle => p

/-! ## The methods -/

def ibUnt : UInt8 := 0x5f
def ibUnl : UInt8 := 0x3f
def ibSpe : UInt8 := 0x18
def ibSpd : UInt8 := 0x19
def tadBase : Nat := 0x40
def ladBase : Nat := 0x20
def sadBase : Nat := 0x60

def address (base : Nat) (addr : Int) : List UInt8 :=
  if addr < 0 then []
  else if addr < 100 then [UInt8.ofNat (addr.toNat + base)]
  else [UInt8.ofNat (addr.toNat / 100 + base), UInt8.ofNat (addr.toNat % 100 + sadBase)]

/-- `cmdbuf` of `writeAddr` -/
def writeAddr (talk listen : Int) : List UInt8 := address tadBase talk ++ address ladBase listen

inductive Op
  | gpibPortWrite (data : List UInt8) (addr : Int)
  | gpibPortRead (maxchars : Int) (addr : Int)
  | gpibPortAddressedCmd (data : List UInt8) (addr : Int)
  | gpibPortUniversalCmd (cmd : UInt8)
  | gpibPortSerialPollBegin
  | gpibPortSerialPoll (addr : Int)
  | gpibPortSerialPollEnd
  deriving DecidableEq, Repr

/-- The arguments of a `writeCmd`. -/
structure Command where
  buf : List UInt8
  nextState : TransferState
  deriving DecidableEq, Repr

/-- `cmdbuf` of the methods that address a device. -/
def unaddress : Command := ⟨[ibUnt, ibUnl], transferStateIdle⟩

namespace Op

/-- The calls of `writeCmd`, of which one that fails is the last. -/
def commands : Op → List Command
  | gpibPortWrite _ addr => [⟨writeAddr 0 addr, transferStateWrite⟩, unaddress]
  | gpibPortRead _ addr => [⟨writeAddr addr 0, transferStateRead⟩, unaddress]
  | gpibPortAddressedCmd data addr =>
      [⟨writeAddr 0 addr, transferStateIdle⟩, ⟨data, transferStateIdle⟩, unaddress]
  | gpibPortUniversalCmd cmd => [⟨[cmd], transferStateIdle⟩]
  | gpibPortSerialPollBegin => [⟨[ibUnl, ibSpe], transferStateIdle⟩]
  | gpibPortSerialPoll addr => [⟨writeAddr addr (-1), transferStateRead⟩]
  | gpibPortSerialPollEnd => [⟨[ibSpd, ibUnt], transferStateIdle⟩]

/-- What is done before the first `writeCmd`. -/
def start (p : Gsport) : Op → Gsport
  | gpibPortWrite data _ =>
      { p with
        bytesRemainingWrite := data.length
        writeBuf := data
        nextByteWrite := 0
        status := .asynSuccess }
  | gpibPortRead maxchars _ =>
      { p with
        bytesRemainingRead := maxchars
        stored := []
        isrs := []
        eomReason := .none
        status := .asynSuccess }.auxCmd .rhdf
  | gpibPortSerialPoll _ =>
      { p with
        bytesRemainingRead := 1
        stored := []
        isrs := []
        eomReason := .none
        status := .asynSuccess }.auxCmd .rhdf
  | _ => p

end Op

/-- The variables of a method. -/
structure Locals where
  actual : Int
  eomReason : EomReason
  deriving DecidableEq, Repr

/-- What a method returns; `statusByte` is that of the serial poll. -/
structure Result where
  status : AsynStatus
  actual : Int
  eomReason : EomReason
  statusByte : UInt8
  deriving DecidableEq, Repr

def result (status : AsynStatus) (l : Locals) (p : Gsport) : Result where
  status := status
  actual := l.actual
  eomReason := l.eomReason
  statusByte := p.stored.headD 0

/-- After `writeCmd` number `i` has returned `status`: the method goes on, or returns. -/
def Op.afterCmd (status : AsynStatus) (p : Gsport) (l : Locals) (i : Nat) : Op → Locals ⊕ Result
  | gpibPortWrite data _ =>
      if i ≠ 0 then
        .inr (result (if l.actual ≠ data.length then .asynError else .asynSuccess) l p)
      else if status ≠ .asynSuccess then .inr (result status l p)
      else
        let l := { l with actual := data.length - p.bytesRemainingWrite }
        if p.status ≠ .asynSuccess then .inr (result p.status l p) else .inl l
  | gpibPortRead maxchars _ =>
      if i ≠ 0 then .inr (result .asynSuccess l p)
      else if status ≠ .asynSuccess then .inr (result status l p)
      else .inl ⟨maxchars - p.bytesRemainingRead, p.eomReason⟩
  | gpibPortAddressedCmd _ _ =>
      if 2 ≤ i then .inr (result .asynSuccess l p)
      else if status ≠ .asynSuccess then .inr (result status l p)
      else .inl l
  | gpibPortSerialPoll _ => .inr (result .asynSuccess l p)
  | _ => .inr (result status l p)

/-! ## The thread and the interrupts -/

/-- Where the thread is in `writeCmd` and `waitTimeout`. -/
inductive Place
  | takeControl
  | arm
  | first
  | waiting
  | timedOut
  | saved (saveState : TransferState)
  deriving DecidableEq, Repr

inductive Pc
  | outside
  | inCmd (op : Op) (i : Nat) (l : Locals) (place : Place)
  deriving DecidableEq, Repr

/-- A method that has returned: the terminator that was set, what it has written and stored. -/
structure Done where
  op : Op
  result : Result
  eos : Int
  written : List RegWrite
  stored : List UInt8
  isrs : List UInt8
  deriving DecidableEq, Repr

structure State where
  port : Gsport
  pc : Pc
  done : List Done
  deriving DecidableEq, Repr

/-- `gpibPortSetEos` keeps a `char`, which has a sign. -/
def eosValue (eos : Option UInt8) : Int :=
  match eos with
  | none => -1
  | some b => b.toInt8.toInt

inductive Action
  | setEos (eos : Option UInt8)
  | call (op : Op)
  | thread
  | wake
  | timeout
  | interrupt (isr0 isr1 dir : UInt8)
  deriving DecidableEq, Repr

namespace State

/-- `writeCmd` number `i` has returned. -/
def returned (s : State) (op : Op) (i : Nat) (l : Locals) (status : AsynStatus) (p : Gsport) :
    State :=
  match op.afterCmd status p l i with
  | .inl l => { s with port := p, pc := .inCmd op (i + 1) l .takeControl }
  | .inr r =>
      { port := p
        pc := .outside
        done := ⟨op, r, p.eos, p.written, p.stored, p.isrs⟩ :: s.done }

/-- `writeCmd` up to the write of its first byte. -/
def arm (p : Gsport) (c : Command) : Gsport :=
  { p with
    bytesRemainingCmd := c.buf.length - 1
    cmdBuf := c.buf
    nextByteCmd := 1
    transferState := transferStateCmd
    nextTransferState := c.nextState
    status := .asynSuccess }

/-- `waitTimeout` after the `switch`. -/
def timeoutStatus : TransferState → AsynStatus
  | transferStateIdle => .asynError
  | _ => .asynTimeout

/-- The next step of the thread where it does not wait. -/
def threadStep (s : State) : Option State :=
  match s.pc with
  | .outside => none
  | .inCmd op i l place =>
      match op.commands[i]? with
      | none => none
      | some c =>
          match place with
          | .takeControl =>
              let p := s.port.auxCmd .tca
              if notAnd s.port.isr0 bo then some (s.returned op i l .asynTimeout p)
              else some { s with port := p, pc := .inCmd op i l .arm }
          | .arm => some { s with port := arm s.port c, pc := .inCmd op i l .first }
          | .first =>
              some { s with port := s.port.putCdor (c.buf.headD 0), pc := .inCmd op i l .waiting }
          | .waiting => none
          | .timedOut => some { s with pc := .inCmd op i l (.saved s.port.transferState) }
          | .saved saveState =>
              let p :=
                { s.port with
                  transferState := transferStateIdle
                  status := timeoutStatus saveState }
              some (s.returned op i l p.status p)

end State

def step (s : State) : Action → Option State
  | .setEos eos =>
      match s.pc with
      | .outside => some { s with port := { s.port with eos := eosValue eos } }
      | _ => none
  | .call op =>
      match s.pc with
      | .outside =>
          some
            { s with
              port := op.start { s.port with written := [] }
              pc := .inCmd op 0 ⟨0, .none⟩ .takeControl }
      | _ => none
  | .thread => s.threadStep
  | .wake =>
      match s.pc with
      | .inCmd op i l .waiting =>
          if s.port.waitForInterrupt then
            some (s.returned op i l s.port.status { s.port with waitForInterrupt := false })
          else none
      | _ => none
  | .timeout =>
      match s.pc with
      | .inCmd op i l .waiting =>
          if s.port.waitForInterrupt then none
          else some { s with pc := .inCmd op i l .timedOut }
      | _ => none
  | .interrupt isr0 isr1 dir => some { s with port := gsip488 s.port isr0 isr1 dir }

/-- `gsIP488Configure` -/
def Gsport.configured : Gsport where
  isr0 := 0
  transferState := transferStateIdle
  nextTransferState := transferStateIdle
  cmdBuf := []
  bytesRemainingCmd := 0
  nextByteCmd := 0
  writeBuf := []
  bytesRemainingWrite := 0
  nextByteWrite := 0
  bytesRemainingRead := 0
  stored := []
  isrs := []
  eomReason := .none
  eos := -1
  status := .asynSuccess
  waitForInterrupt := false
  written := []

def machine : Machine State Action where
  init s := s = ⟨.configured, .outside, []⟩
  step := step

end GsIP488
end AsynDriver
