import AsynDriver.Miscellaneous.Octet

/-!
# `asynInterposeEos.c`

The layer that recognises an input terminator of at most two characters and appends an output
terminator.

* `EosPvt` — `eosPvt`; of `inBuf` the part between `inBufTail` and `inBufHead` is kept.
* `readIt` — the loop over the buffer and the lower driver's reads.  The caller's buffer is a memory
  around its pointer `data`, so that a pointer that has moved below the buffer still has a value.
* `writeIt`, `setInputEos`, `getInputEos`, `setOutputEos`, `getOutputEos`, `flushIt`,
  `eosInExceptionHandler`.

A terminator is the list of its characters and `eoslen` its length; a negative `eoslen` is refused
like one above two.  `outBuf` is as long as the data, so its size does not appear.
-/

namespace AsynDriver
namespace Miscellaneous

open Manager (AsynStatus)

/-- `eosPvt`. -/
structure EosPvt where
  processEosIn : Bool
  inBuf : List UInt8
  eosIn : UInt8 × UInt8
  eosInLen : Nat
  eosInMatch : Nat
  processEosOut : Bool
  eosOut : UInt8 × UInt8
  eosOutLen : Nat
  deriving DecidableEq

/-- `INPUT_SIZE`, the `inBufSize` of every layer. -/
def inputSize : Nat := 2048

/-- The `eosPvt` that `asynInterposeEosConfig` makes. -/
def asynInterposeEosConfig (processEosIn processEosOut : Bool) : EosPvt where
  processEosIn := processEosIn
  inBuf := []
  eosIn := (0, 0)
  eosInLen := 0
  eosInMatch := 0
  processEosOut := processEosOut
  eosOut := (0, 0)
  eosOutLen := 0

/-- Element `i` of a `char[2]`. -/
def charAt (eos : UInt8 × UInt8) (i : Nat) : UInt8 :=
  if i = 0 then eos.1 else eos.2

/-- The first `eosLen` characters of a `char[2]`. -/
def eosChars (eos : UInt8 × UInt8) (eosLen : Nat) : List UInt8 :=
  [eos.1, eos.2].take eosLen

/-- `switch (eoslen)` of the two setters: a terminator of 0, 1 or 2 characters is stored. -/
def storeEos (old : UInt8 × UInt8) : List UInt8 → Option (UInt8 × UInt8)
  | [] => some old
  | [a] => some (a, old.2)
  | [a, b] => some (a, b)
  | _ => none

/-! ## `readIt` -/

/-- The caller's memory, the pointer `data` relative to its start, and the local variables that the
loop carries, with `eosInMatch`. -/
structure Cursor where
  memory : Int → UInt8
  data : Int
  nRead : Nat
  eosInMatch : Nat

/-- `*(data + offset) = c`. -/
def Cursor.store (k : Cursor) (offset : Int) (c : UInt8) : Cursor :=
  { k with memory := Function.update k.memory (k.data + offset) c }

/-- A character goes from `inBuf` to `*data++`. -/
def Cursor.take (k : Cursor) (c : UInt8) : Cursor :=
  { k.store 0 c with data := k.data + 1, nRead := k.nRead + 1 }

/-- The terminator is complete: it is taken back, in the arithmetic of `size_t`. -/
def Cursor.retract (k : Cursor) (eosInLen : Nat) : Cursor :=
  { k with
    data := k.data - eosInLen
    nRead := (k.nRead + sizeRange - eosInLen) % sizeRange
    eosInMatch := 0 }.store 1 0

/-- Why the loop stops at a character. -/
inductive Stop
  | eos
  | cnt
  deriving DecidableEq

/-- The loop's body for the next character of `inBuf`. -/
def scanChar (eosIn : UInt8 × UInt8) (eosInLen maxchars : Nat) (k : Cursor) (c : UInt8) :
    Cursor × Option Stop :=
  let k := k.take c
  if 0 < eosInLen ∧ c = charAt eosIn k.eosInMatch ∧ k.eosInMatch + 1 = eosInLen then
    (k.retract eosInLen, some .eos)
  else
    let k :=
      if 0 < eosInLen then
        if c = charAt eosIn k.eosInMatch then { k with eosInMatch := k.eosInMatch + 1 }
        else if c = eosIn.1 then { k with eosInMatch := 1 }
        else { k with eosInMatch := 0 }
      else k
    if maxchars ≤ k.nRead then (k, some .cnt) else (k, none)

/-- The loop until it stops or `inBuf` is empty, with what is left in `inBuf`. -/
def drain (eosIn : UInt8 × UInt8) (eosInLen maxchars : Nat) :
    List UInt8 → Cursor → List UInt8 × Cursor × Option Stop
  | [], k => ([], k, none)
  | c :: rest, k =>
      match scanChar eosIn eosInLen maxchars k c with
      | (k', some stop) => (rest, k', some stop)
      | (k', none) => drain eosIn eosInLen maxchars rest k'

/-- Where the loop ends. -/
structure LoopEnd where
  status : AsynStatus
  eom : EomReason
  inBuf : List UInt8
  cursor : Cursor
  lower : List LowerRead

/-- The loop of `readIt`.  `lower` are the answers of the lower driver that are still to come, and
`none` says that it has not answered. -/
def readLoop (eosIn : UInt8 × UInt8) (eosInLen maxchars : Nat) :
    List LowerRead → List UInt8 → Cursor → EomReason → Option LoopEnd
  | lower, inBuf, k, eom =>
      match drain eosIn eosInLen maxchars inBuf k with
      | (rest, k', some .eos) =>
          some ⟨.asynSuccess, { eom with eos := true }, rest, k', lower⟩
      | (rest, k', some .cnt) => some ⟨.asynSuccess, ⟨true, false, false⟩, rest, k', lower⟩
      | (_, k', none) =>
          if eom.any then some ⟨.asynSuccess, eom, [], k', lower⟩
          else
            match lower with
            | [] => none
            | r :: lower' =>
                let eom := if r.status = .asynSuccess then { r.eom with cnt := false } else r.eom
                if r.status ≠ .asynSuccess ∨ r.bytes = [] then
                  some ⟨r.status, eom, [], k', lower'⟩
                else readLoop eosIn eosInLen maxchars lower' r.bytes k' eom

/-- What a call of `readIt` returns: the status, `*nbytesTransferred`, `*eomReason` and the memory
around `data`. -/
structure ReadResult where
  status : AsynStatus
  nbytesTransferred : Nat
  eomReason : EomReason
  memory : Int → UInt8

/-- `readIt`, with the layer and the lower driver's answers that are left. -/
def readIt (peosPvt : EosPvt) (lower : List LowerRead) (memory : Int → UInt8) (maxchars : Nat) :
    Option (ReadResult × EosPvt × List LowerRead) :=
  if peosPvt.processEosIn then
    (readLoop peosPvt.eosIn peosPvt.eosInLen maxchars lower peosPvt.inBuf
        ⟨memory, 0, 0, peosPvt.eosInMatch⟩ .zero).map fun e =>
      let k := if e.cursor.nRead < maxchars then e.cursor.store 0 0 else e.cursor
      (⟨e.status, k.nRead, e.eom, k.memory⟩,
        { peosPvt with inBuf := e.inBuf, eosInMatch := k.eosInMatch }, e.lower)
  else
    match lower with
    | [] => none
    | r :: lower' =>
        let stored (i : Int) : UInt8 := if i < 0 then memory i else r.bytes.getD i.toNat (memory i)
        some (⟨r.status, r.bytes.length, r.eom, stored⟩, peosPvt, lower')

/-- The bytes a call delivers. -/
def ReadResult.delivered (r : ReadResult) : List UInt8 :=
  (List.range r.nbytesTransferred).map fun i : Nat => r.memory i

/-! ## The other methods -/

/-- `flushIt` before it flushes the lower driver. -/
def flushIt (peosPvt : EosPvt) : EosPvt :=
  if peosPvt.processEosIn then { peosPvt with inBuf := [], eosInMatch := 0 } else peosPvt

/-- `eosInExceptionHandler` for `asynExceptionConnect`. -/
def eosInExceptionHandler (peosPvt : EosPvt) : EosPvt :=
  { peosPvt with inBuf := [], eosInMatch := 0 }

/-- `writeIt`: what the lower driver is given to write. -/
def writeIt (peosPvt : EosPvt) (data : List UInt8) : List UInt8 :=
  if !peosPvt.processEosOut || peosPvt.eosOutLen == 0 then data
  else data ++ eosChars peosPvt.eosOut peosPvt.eosOutLen

/-- `*nbytesTransferred` of `writeIt`, from the lower driver's. -/
def writeTransferred (peosPvt : EosPvt) (data : List UInt8) (nbytesActual : Nat) : Nat :=
  if !peosPvt.processEosOut || peosPvt.eosOutLen == 0 then nbytesActual
  else if data.length < nbytesActual then data.length else nbytesActual

/-- The caller is told that all of the data went out exactly where the lower driver has taken all of it. -/
theorem writeTransferred_eq_iff {peosPvt : EosPvt} {data : List UInt8} {nbytesActual : Nat}
    (hactual : nbytesActual ≤ (writeIt peosPvt data).length) :
    writeTransferred peosPvt data nbytesActual ≤ data.length ∧
      (writeTransferred peosPvt data nbytesActual = data.length ↔ data.length ≤ nbytesActual) := by
  unfold writeIt at hactual
  unfold writeTransferred
  split at hactual
  case isTrue hplain =>
      rw [if_pos hplain]
      omega
  case isFalse heos =>
      rw [if_neg heos]
      split <;> omega

/-- `setInputEos` where this layer keeps the terminator. -/
def setInputEos (peosPvt : EosPvt) (eos : List UInt8) : AsynStatus × EosPvt :=
  match storeEos peosPvt.eosIn eos with
  | none => (.asynError, peosPvt)
  | some eosIn =>
      (.asynSuccess, { peosPvt with eosIn := eosIn, eosInLen := eos.length, eosInMatch := 0 })

/-- `getInputEos` where this layer keeps the terminator. -/
def getInputEos (peosPvt : EosPvt) (eossize : Nat) : AsynStatus × List UInt8 :=
  if eossize < peosPvt.eosInLen ∨ 2 < peosPvt.eosInLen then (.asynError, [])
  else (.asynSuccess, eosChars peosPvt.eosIn peosPvt.eosInLen)

/-- `setOutputEos`. -/
def setOutputEos (peosPvt : EosPvt) (eos : List UInt8) : AsynStatus × EosPvt :=
  match storeEos peosPvt.eosOut eos with
  | none => (.asynError, peosPvt)
  | some eosOut => (.asynSuccess, { peosPvt with eosOut := eosOut, eosOutLen := eos.length })

/-- `getOutputEos`. -/
def getOutputEos (peosPvt : EosPvt) (eossize : Nat) : AsynStatus × List UInt8 :=
  if eossize < peosPvt.eosOutLen ∨ 2 < peosPvt.eosOutLen then (.asynError, [])
  else (.asynSuccess, eosChars peosPvt.eosOut peosPvt.eosOutLen)

end Miscellaneous
end AsynDriver
