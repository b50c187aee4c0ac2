import AsynDriver.Library.Machine
import AsynDriver.Manager.Types

/-!
# `memMalloc` and `memFree`

Threads that call `memMalloc` and `memFree` of `asynManager`, and write in the blocks they have got.

* `scan` — the loop that both functions have, over `memListSize`.
* `State` — `memList` and `pasynBase->lock`; what `malloc` has given out; the field `memory` of the node
  in front of a block; the blocks that the callers have.
* `memMalloc`, `memFree` — the calls as far as `epicsMutexMustLock`; `next` — what follows, with the
  lock taken and given back in steps of their own.
* `MemSafe` — what the two promise.

Addresses are natural numbers.  `malloc` and `mallocMustSucceed` give any memory that is not given out:
the action says which.
-/

namespace AsynDriver
namespace Manager
namespace MemList

open Library

def memListSize : List Nat := [16, 32, 64, 128, 256, 512, 1024, 2048, 4096]

/-- `NODESIZE`; a `memNode` has three pointers. -/
def nodeSize : Nat := (3 * 8 + 15) / 16 * 16

/-- `for(ind=0; ind<nMemList; ind++) if(size<=memListSize[ind]) break;`, without a result if the loop
comes to `nMemList`. -/
def scan (size : Nat) : Option Nat := memListSize.findIdx? fun n => decide (size ≤ n)

/-- `memListSize[ind]`. -/
def classSize (ind : Nat) : Nat := memListSize.getD ind 0

/-- `memListSize[nMemList-1]`. -/
def lastSize : Nat := classSize (memListSize.length - 1)

/-- What `malloc` was asked for, and where it is. -/
structure Region where
  start : Nat
  length : Nat
  deriving DecidableEq

/-- The two have no byte in common. -/
def Region.Apart (r r' : Region) : Prop :=
  r.start + r.length ≤ r'.start ∨ r'.start + r'.length ≤ r.start

instance (r r' : Region) : Decidable (r.Apart r') := inferInstanceAs (Decidable (_ ∨ _))

/-- The result of a `memMalloc`, and the `size` it was called with. -/
structure Block where
  pmem : Nat
  size : Nat
  deriving DecidableEq

/-- What `malloc` has given out for the block starts here: with a node, or with the block. -/
def Block.start (b : Block) : Nat :=
  match scan b.size with
  | some _ => b.pmem - nodeSize
  | none => b.pmem

/-- Where a thread is in one of the two functions.  From `mallocFirst` to `mallocUnlock`, and at
`freeAdd` and `freeUnlock`, it owns the lock; `failed` is after an `assert`. -/
inductive Pc
  | idle
  | mallocLock (size ind : Nat)
  | mallocFirst (size ind : Nat)
  | mallocDelete (size ind pmemNode : Nat)
  | mallocNew (size ind : Nat)
  | mallocUnlock (size ind pmemNode : Nat)
  | mallocReturn (size ind pmemNode : Nat)
  | freeLock (ind pmemNode : Nat)
  | freeAdd (ind pmemNode : Nat)
  | freeUnlock
  | failed
  deriving DecidableEq

structure State where
  memList : Nat → List Nat
  lock : Option ThreadId
  regions : List Region
  /-- The field `memory` of a `memNode` at this address. -/
  memory : Nat → Nat
  live : List Block
  pc : ThreadId → Pc

def State.setPc (s : State) (t : ThreadId) (pc : Pc) : State :=
  { s with pc := Function.update s.pc t pc }

/-- Memory that `malloc` can give out. -/
def State.Free (s : State) (r : Region) : Prop := ∀ r' ∈ s.regions, r.Apart r'

instance (s : State) (r : Region) : Decidable (s.Free r) :=
  inferInstanceAs (Decidable (∀ r' ∈ s.regions, r.Apart r'))

/-! ## The calls -/

/-- A call of `memMalloc`; a large block comes from `malloc` at once. -/
def memMalloc (s : State) (t : ThreadId) (size fresh : Nat) : Option State :=
  if s.pc t = .idle then
    match scan size with
    | some ind => some (s.setPc t (.mallocLock size ind))
    | none =>
        if s.Free ⟨fresh, size⟩ then
          some { s with regions := ⟨fresh, size⟩ :: s.regions, live := ⟨fresh, size⟩ :: s.live }
        else none
  else none

/-- A call of `memFree`, with its three `assert`s; a large block goes to `free`. -/
def memFree (s : State) (t : ThreadId) (b : Block) : Option State :=
  if s.pc t = .idle then
    let s := { s with live := s.live.erase b }
    if b.size = 0 then some (s.setPc t .failed)
    else if lastSize < b.size then
      some { s with regions := s.regions.filter fun r => decide (r.start ≠ b.pmem) }
    else
      match scan b.size with
      | none => some (s.setPc t .failed)
      | some ind =>
          let pmemNode := b.pmem - nodeSize
          if s.memory pmemNode = b.pmem then some (s.setPc t (.freeLock ind pmemNode))
          else some (s.setPc t .failed)
  else none

/-- The next step of a thread. -/
def next (s : State) (t : ThreadId) (fresh : Nat) : Option State :=
  match s.pc t with
  | .idle => none
  | .mallocLock size ind =>
      if s.lock = none then some ({ s with lock := some t }.setPc t (.mallocFirst size ind)) else none
  | .mallocFirst size ind =>
      match s.memList ind with
      | [] => some (s.setPc t (.mallocNew size ind))
      | pmemNode :: _ => some (s.setPc t (.mallocDelete size ind pmemNode))
  | .mallocDelete size ind pmemNode =>
      some ({ s with memList := Function.update s.memList ind ((s.memList ind).erase pmemNode) }.setPc t
        (.mallocUnlock size ind pmemNode))
  | .mallocNew size ind =>
      if s.Free ⟨fresh, nodeSize + classSize ind⟩ then
        some ({ s with
          regions := ⟨fresh, nodeSize + classSize ind⟩ :: s.regions
          memory := Function.update s.memory fresh (fresh + nodeSize) }.setPc t
            (.mallocUnlock size ind fresh))
      else none
  | .mallocUnlock size ind pmemNode =>
      some ({ s with lock := none }.setPc t (.mallocReturn size ind pmemNode))
  | .mallocReturn size _ pmemNode =>
      some ({ s with live := ⟨s.memory pmemNode, size⟩ :: s.live }.setPc t .idle)
  | .freeLock ind pmemNode =>
      if s.lock = none then some ({ s with lock := some t }.setPc t (.freeAdd ind pmemNode)) else none
  | .freeAdd ind pmemNode =>
      some ({ s with memList := Function.update s.memList ind (s.memList ind ++ [pmemNode]) }.setPc t
        .freeUnlock)
  | .freeUnlock => some ({ s with lock := none }.setPc t .idle)
  | .failed => none

/-- A caller writes a byte of a block that it has.  Where that byte is in a node, any value can be in the
node's `memory` then. -/
def write (s : State) (b : Block) (address : Nat) (value : Nat → Nat) : Option State :=
  if b ∈ s.live ∧ b.pmem ≤ address ∧ address < b.pmem + b.size then
    some { s with memory := fun pmemNode =>
      if pmemNode ≤ address ∧ address < pmemNode + nodeSize then value pmemNode
      else s.memory pmemNode }
  else none

/-! ## The machine -/

inductive Action
  | memMalloc (t : ThreadId) (size fresh : Nat)
  | memFree (t : ThreadId) (b : Block)
  | next (t : ThreadId) (fresh : Nat)
  | write (b : Block) (address : Nat) (value : Nat → Nat)

def step (s : State) : Action → Option State
  | .memMalloc t size fresh => memMalloc s t size fresh
  | .memFree t b => memFree s t b
  | .next t fresh => next s t fresh
  | .write b address value => write s b address value

/-- After `asynInit`. -/
def State.start : State where
  memList := fun _ => []
  lock := none
  regions := []
  memory := fun _ => 0
  live := []
  pc := fun _ => .idle

def machine : Machine State Action := ⟨(· = .start), step⟩

/-- Each block is freed once, with its size. -/
def FreedOnce (s : State) : Action → Prop
  | .memFree _ b => b ∈ s.live
  | _ => True

/-- Each block is freed once, with its size, unless that is 0. -/
def FreedOnceNonempty (s : State) : Action → Prop
  | .memFree _ b => b ∈ s.live ∧ 0 < b.size
  | _ => True

/-- What the callers rely on. -/
structure MemSafe (s : State) : Prop where
  /-- A block is in memory from `malloc`, with room for its size. -/
  room : ∀ b ∈ s.live, ∃ r ∈ s.regions, r.start ≤ b.pmem ∧ b.pmem + b.size ≤ r.start + r.length
  /-- No two callers have the same memory. -/
  once : s.live.Pairwise fun b c =>
    b.pmem ≠ c.pmem ∧ Region.Apart ⟨b.pmem, b.size⟩ ⟨c.pmem, c.size⟩
  /-- A node from a list has room for the request that it is taken for, and no caller has its memory. -/
  reused : ∀ t size ind pmemNode, s.pc t = .mallocUnlock size ind pmemNode →
    (∃ r ∈ s.regions, r.start = pmemNode ∧ nodeSize + size ≤ r.length) ∧
      ∀ b ∈ s.live, b.start ≠ pmemNode
  /-- What is in a list is not with a caller. -/
  notLive : ∀ ind, ∀ pmemNode ∈ s.memList ind, ∀ b ∈ s.live, b.start ≠ pmemNode
  asserts : ∀ t, s.pc t ≠ .failed

end MemList
end Manager
end AsynDriver
