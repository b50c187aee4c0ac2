import AsynDriver.Miscellaneous.Octet

/-!
# `asynInterposeCom.c`

The octet methods of the layer for serial ports behind a TELNET connection: a byte `IAC` of the data
is sent twice.

* `writeIt` — the data is copied to `xBuf` piece by piece, a piece reaching to the next `IAC`.  A
  write outside the allocated block is undefined behaviour: the result is `none` then.
* `readIt` — a doubled `IAC` is reduced in place; a chunk that ends inside a pair makes `nextChar`
  read one byte more.

`realloc` does not fail here.
-/

namespace AsynDriver
namespace Miscellaneous

open Manager (AsynStatus)

/-- `C_IAC`. -/
def cIac : UInt8 := 255

/-- The data cut after every `IAC`: what the calls of `memchr` find. -/
def pieces : List UInt8 → List (List UInt8)
  | [] => []
  | c :: rest =>
      if c = cIac then [c] :: pieces rest
      else
        match pieces rest with
        | [] => [[c]]
        | piece :: others => (c :: piece) :: others

/-- `xBufCapacity` after the test in front of a copy: `nNew` bytes are asked for, whatever `xBuf`
already holds. -/
def growCapacity (numchars capacity nNew : Nat) : Nat :=
  if capacity < nNew then
    let newSize := capacity + 1024
    let newSize := if newSize < numchars then numchars + 1024 else newSize
    if newSize < nNew then nNew + 1024 else newSize
  else capacity

/-- A piece as it is copied: with a second `IAC` if it ends with one. -/
def stuffPiece (piece : List UInt8) : List UInt8 :=
  if piece.getLast? = some cIac then piece ++ [cIac] else piece

/-- The copying loop: the bytes from `xBuf` to `dst`, and `xBufCapacity`. -/
def stuffLoop (numchars : Nat) :
    List (List UInt8) → List UInt8 → Nat → Option (List UInt8 × Nat)
  | [], stored, capacity => some (stored, capacity)
  | piece :: others, stored, capacity =>
      let capacity := growCapacity numchars capacity (piece.length + 1)
      let stored := stored ++ stuffPiece piece
      if capacity < stored.length then none else stuffLoop numchars others stored capacity

/-- `writeIt`: the bytes for the lower driver, and `xBufCapacity`. -/
def comWriteIt (xBufCapacity : Nat) (data : List UInt8) : Option (List UInt8 × Nat) :=
  if data.contains cIac then stuffLoop data.length (pieces data) [] xBufCapacity
  else some (data, xBufCapacity)

/-- `*nbytesTransferred` of `writeIt`, from the lower driver's. -/
def comWriteTransferred (data sent : List UInt8) (nbytesTransferred : Nat) : Nat :=
  if nbytesTransferred = sent.length then nbytesTransferred - (sent.length - data.length)
  else nbytesTransferred

/-- `nextChar`: `none` is `EOF`. -/
def nextCharOf (r : LowerRead) : Option UInt8 :=
  if r.status ≠ .asynSuccess then none else r.bytes.head?

/-- The loop of `readIt` over a chunk, where `next` is what `nextChar` would return: the bytes that
are left at `data`, and whether `nextChar` was called.  `none` is the error "Missing IAC". -/
def unstuff (next : Option UInt8) : List UInt8 → Option (List UInt8 × Bool)
  | [] => some ([], false)
  | [c] => if c = cIac then if next = some cIac then some ([c], true) else none else some ([c], false)
  | c :: d :: rest =>
      if c = cIac then
        if d = cIac then (unstuff next rest).map fun r => (c :: r.1, r.2) else none
      else (unstuff next (d :: rest)).map fun r => (c :: r.1, r.2)

/-- Whether the loop comes to an `IAC` at the end of the chunk, where it calls `nextChar`. -/
def endsInPair : List UInt8 → Bool
  | [] => false
  | [c] => c = cIac
  | c :: d :: rest =>
      if c = cIac then if d = cIac then endsInPair rest else false else endsInPair (d :: rest)

/-- What `readIt` returns: the status, the bytes at `data`, `*eomReason`, and whether it has read a
second time. -/
structure ComRead where
  status : AsynStatus
  bytes : List UInt8
  eom : EomReason
  readAgain : Bool

/-- `readIt`, from the lower driver's answer to its `read` and to that of `nextChar`. -/
def comReadIt (maxchars : Nat) (r next : LowerRead) : ComRead :=
  if r.status ≠ .asynSuccess then ⟨r.status, [], r.eom, false⟩
  else
    match unstuff (nextCharOf next) r.bytes with
    | none => ⟨.asynError, [], r.eom, endsInPair r.bytes⟩
    | some (bytes, readAgain) =>
        let eom := if r.bytes.contains cIac then { r.eom with cnt := false } else r.eom
        let eom := if bytes.length = maxchars then { eom with cnt := true } else eom
        ⟨.asynSuccess, bytes, eom, readAgain⟩

end Miscellaneous
end AsynDriver
