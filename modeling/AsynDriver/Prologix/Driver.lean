import Mathlib.Data.List.Basic
import Mathlib.Tactic.Common
import AsynDriver.Library.Escape
import AsynDriver.Manager.Types

/-!
# The buffer of `drvPrologixGPIB.c`

One buffer serves all GPIB addresses behind an adapter: a write builds its command there, a read keeps
the whole reply there, and the commands of the driver are printed over either.

* `DPvt` — the driver's variables, with the memory behind `buf` and the size that it has been given.
* `resizeBuffer`, `stashChar`, `setAddress` — the functions that a write and a read share.
* `prologixWrite` — a write, with the commands that it sends.

A store at or behind the size that was last allocated sets `fault`.

`prologixSetEos` does not store the terminator, so that `eos` is what the configuration has set; the
model takes any.  Left out: the version string, and the traces.
-/

namespace AsynDriver
namespace Prologix

open Library
open Manager (AsynStatus)

/-- A byte of the buffer; `origin` is the place of a byte of a reply among all that have arrived. -/
structure Cell where
  value : UInt8
  origin : Option Nat
  deriving DecidableEq, Repr

/-- `allocated` is the size of the memory behind `buf`, which the source does not keep. -/
structure DPvt where
  buf : Nat → Cell
  allocated : Nat
  fault : Bool
  bufCapacity : Nat
  bufCount : Nat
  bufIndex : Nat
  lastAddress : Int
  lastPrimaryAddress : Int
  lastSecondaryAddress : Int
  eos : Option UInt8

/-- `prologixGPIBConfigure` -/
def DPvt.configured (eos : Option UInt8) : DPvt where
  buf := fun _ => ⟨0, none⟩
  allocated := 4096
  fault := false
  bufCapacity := 4096
  bufCount := 0
  bufIndex := 0
  lastAddress := 0
  lastPrimaryAddress := 0
  lastSecondaryAddress := 0
  eos := eos

def lf : UInt8 := 10

def esc : UInt8 := 27

/-- The characters that `stashChar` escapes. -/
def isEscaped (c : UInt8) : Bool := c = 13 || c = lf || c = esc || c = 43

/-- The characters of a command. -/
def ascii (text : String) : List UInt8 := text.toList.map fun c => UInt8.ofNat c.toNat

namespace DPvt

variable (p : DPvt)

def store (i : Nat) (c : Cell) : DPvt :=
  { p with
    buf := fun j => if j = i then c else p.buf j
    fault := p.fault || decide (p.allocated ≤ i) }

/-- `buf[bufCount++] = c` -/
def push (c : Cell) : DPvt := { p.store p.bufCount c with bufCount := p.bufCount + 1 }

def pushAll : List Cell → DPvt → DPvt
  | [], p => p
  | c :: rest, p => pushAll rest (p.push c)

/-- `epicsSnprintf(buf, bufCapacity, …)` -/
def print (text : List UInt8) : DPvt :=
  let printed := pushAll (((text.take (p.bufCapacity - 1)) ++ [0]).map fun b => ⟨b, none⟩)
    { p with bufCount := 0 }
  { printed with bufCount := p.bufCount }

/-- The first bytes of the buffer. -/
def bytes (n : Nat) : List UInt8 := (List.range n).map fun i => (p.buf i).value

end DPvt

/-- What comes of `realloc`: `moved` if it returns another pointer. -/
inductive Realloc
  | fails
  | grows (moved : Bool)
  deriving DecidableEq, Repr

def resizeBuffer (p : DPvt) (size : Nat) (realloc : Realloc) : DPvt × AsynStatus :=
  let newCapacity := size + 4096
  if size ≤ p.bufCapacity ∨ newCapacity ≤ p.bufCapacity ∨ realloc = .fails then (p, .asynError)
  else ({ p with allocated := newCapacity, bufCapacity := size + newCapacity }, .asynSuccess)

def stashChar (p : DPvt) (c : UInt8) (realloc : Realloc) : DPvt × AsynStatus :=
  let resized :=
    if p.bufCapacity - 3 ≤ p.bufCount then resizeBuffer p p.bufCapacity realloc
    else (p, .asynSuccess)
  if resized.2 ≠ .asynSuccess then (resized.1, .asynError)
  else
    let escaped := if isEscaped c then resized.1.push ⟨esc, none⟩ else resized.1
    (escaped.push ⟨c, none⟩, .asynSuccess)

def stashAll (realloc : Realloc) : List UInt8 → DPvt → DPvt × AsynStatus
  | [], p => (p, .asynSuccess)
  | c :: rest, p =>
      let stashed := stashChar p c realloc
      if stashed.2 ≠ .asynSuccess then stashed else stashAll realloc rest stashed.1

/-! ## The address -/

/-- What a call leaves behind: `sent` are the commands to the adapter, and `nbytesTransferred` is `none`
where it is not stored. -/
structure Outcome where
  pvt : DPvt
  status : AsynStatus
  sent : List (List UInt8)
  nbytesTransferred : Option Nat

/-- The primary and the secondary part of an address. -/
def splitAddress (address : Int) : Int × Int :=
  if address < 100 then (address, -1) else (address / 100, address % 100)

/-- The address of a device that there can be on the bus. -/
def LegalAddress (address : Int) : Prop :=
  (splitAddress address).2 < 31 ∧ 0 ≤ (splitAddress address).1 ∧ (splitAddress address).1 < 31

instance (address : Int) : Decidable (LegalAddress address) :=
  inferInstanceAs (Decidable (_ ∧ _ ∧ _))

/-- The command that addresses a device. -/
def addrCommand (primary secondary : Int) : List UInt8 :=
  if secondary < 0 then ascii ("++addr " ++ toString primary ++ "\n")
  else ascii ("++addr " ++ toString primary ++ " " ++ toString (secondary + 96) ++ "\n")

/-- `address` is what `getAddr` gives, `answer` what the adapter says to the command. -/
def setAddress (p : DPvt) (address : Int) (answer : AsynStatus) : Outcome :=
  let (primary, secondary) := splitAddress address
  if ¬ LegalAddress address then ⟨p, .asynError, [], none⟩
  else if primary = p.lastPrimaryAddress ∧ secondary = p.lastSecondaryAddress then
    ⟨p, .asynSuccess, [], none⟩
  else
    let printed := p.print (addrCommand primary secondary)
    let sent := [printed.bytes (addrCommand primary secondary).length]
    if answer ≠ .asynSuccess then
      ⟨{ printed with lastPrimaryAddress := -1, lastSecondaryAddress := -1 }, answer, sent, none⟩
    else
      ⟨{ printed with
          lastPrimaryAddress := primary
          lastSecondaryAddress := secondary
          lastAddress := address }, .asynSuccess, sent, none⟩

/-! ## A write -/

/-- A call of `prologixWrite` and what happens in it: what `realloc` does, and what the adapter says to
the two commands. -/
structure Write where
  address : Int
  data : List UInt8
  realloc : Realloc
  addressAnswer : AsynStatus
  answer : AsynStatus
  deriving DecidableEq, Repr

namespace Write

variable (p : DPvt) (w : Write)

/-- The check for space at the beginning. -/
def resize : DPvt × AsynStatus :=
  if p.bufCapacity ≤ w.data.length then resizeBuffer p w.data.length w.realloc
  else (p, .asynSuccess)

/-- The characters of the command before the last one. -/
def text : List UInt8 := w.data ++ p.eos.toList

/-- The command is built, and sent. -/
def send (addressed : Outcome) : Outcome :=
  let stashed :=
    stashAll w.realloc (w.text addressed.pvt) { addressed.pvt with bufCount := 0 }
  if stashed.2 ≠ .asynSuccess then
    ⟨{ stashed.1 with bufCount := 0 }, stashed.2, addressed.sent, some 0⟩
  else
    let command := stashed.1.push ⟨lf, none⟩
    ⟨{ command with bufCount := 0 }, w.answer, addressed.sent ++ [command.bytes command.bufCount],
      some (if w.answer = .asynSuccess then w.data.length else 0)⟩

end Write

def prologixWrite (p : DPvt) (w : Write) : Outcome :=
  let resized := w.resize p
  if resized.2 ≠ .asynSuccess then ⟨resized.1, .asynError, [], none⟩
  else
    let addressed := setAddress resized.1 w.address w.addressAnswer
    if addressed.status ≠ .asynSuccess then addressed else w.send addressed

end Prologix
end AsynDriver
