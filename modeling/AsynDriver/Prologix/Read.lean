import Mathlib.Data.List.Basic
import Mathlib.Data.List.Flatten
import Mathlib.Tactic.Common
import AsynDriver.Library.Machine
import AsynDriver.Prologix.Write

/-!
# `prologixRead` of `drvPrologixGPIB.c`

The first read after a write, a flush or a connect asks the adapter for a reply and keeps all of it in
`buf`; the reads that follow take the rest from there.  A read looks only at `bufCount` to tell whether
there is a rest.

* `readLoop` — the octet reads that fetch a reply, up to its terminator.
* `deliver` — what a read copies to its caller, and the end that it reports.
* `Sound` — on the log of a run: which bytes the reads deliver, in which order, and where they report an
  end.
* `reads_sound` — the log is sound along the runs in which every read finds either nothing in the buffer
  or the rest of its own reply, and what comes from the adapter during a read is one reply of its device
  that fits.

The bytes of the replies carry the device that has sent them and the number of writes to it at that time,
and each keeps its place among all bytes that have arrived.
-/

namespace AsynDriver
namespace Prologix

open Library
open Manager (AsynStatus)

/-- A byte from the adapter: the device that has sent it, the writes to the device at that time, and
whether it ends a reply.  Without an EOS character the end is the marker of the adapter. -/
structure Item where
  source : Int
  writes : Nat
  value : UInt8
  ends : Bool
  deriving DecidableEq, Repr

/-- A read that has succeeded: `reported` if it has reported `ASYN_EOM_EOS` or `ASYN_EOM_END`. -/
structure Record where
  address : Int
  writes : Nat
  cells : List Cell
  reported : Bool
  deriving DecidableEq, Repr

/-- `owner` is the device whose whole reply is in the buffer, as long as nothing is printed over it.  The
log has the latest read first. -/
structure State where
  pvt : DPvt
  arrived : List Item
  writes : Int → Nat
  owner : Option Int
  log : List Record

def State.configured (eos : Option UInt8) : State where
  pvt := .configured eos
  arrived := []
  writes := fun _ => 0
  owner := none
  log := []

/-- A call of `prologixRead` and what happens in it: the answers to its two commands, the chunks of its
octet reads, and how the octet read after the last chunk fails. -/
structure Read where
  address : Int
  maxchars : Nat
  addressAnswer : AsynStatus
  readAnswer : AsynStatus
  chunks : List (List Item)
  timedOut : Bool
  realloc : Realloc
  deriving DecidableEq, Repr

/-- `EOT_MARKER` -/
def eotMarker : UInt8 := 0xEF

def terminator (eos : Option UInt8) : UInt8 := eos.getD eotMarker

/-! ## The loop -/

/-- "Ensure that there's space for the read" -/
def makeRoom (p : DPvt) (realloc : Realloc) : DPvt × AsynStatus :=
  if p.bufCapacity ≤ p.bufCount then
    let resized := resizeBuffer p (p.bufCapacity + 16384) realloc
    if resized.2 ≠ .asynSuccess then ({ resized.1 with bufCount := 0 }, .asynError) else resized
  else (p, .asynSuccess)

def Realloc.moves : Realloc → Bool
  | .fails => false
  | .grows moved => moved

/-- Whether `cp` points into memory that `realloc` has given back. -/
def Read.danglesAfter (r : Read) (p : DPvt) (dangling : Bool) : Bool :=
  dangling || (p.bufCapacity ≤ p.bufCount && r.realloc.moves)

/-- The items in the buffer, where `n` have arrived before them. -/
def cellsFrom (n : Nat) (items : List Item) : List Cell :=
  items.mapIdx fun i item => ⟨item.value, some (n + i)⟩

/-- An octet read has stored a chunk at `cp`. -/
def State.receive (s : State) (dangling : Bool) (chunk : List Item) : State :=
  { s with
    pvt :=
      if dangling then
        { s.pvt with
          bufCount := s.pvt.bufCount + chunk.length
          fault := s.pvt.fault || !chunk.isEmpty }
      else DPvt.pushAll (cellsFrom s.arrived.length chunk) s.pvt
    arrived := s.arrived ++ chunk }

/-- The last byte of a chunk has the value of the terminator. -/
def EndsChunk (eos : Option UInt8) (chunk : List Item) : Prop :=
  chunk.getLast?.map Item.value = some (terminator eos)

instance (eos : Option UInt8) (chunk : List Item) : Decidable (EndsChunk eos chunk) :=
  inferInstanceAs (Decidable (_ = _))

inductive LoopEnd
  | complete
  | failed (status : AsynStatus)
  deriving DecidableEq, Repr

/-- `none`: a chunk is longer than the octet read has asked for. -/
def readLoop (r : Read) : List (List Item) → Bool → Bool → State → Option (State × LoopEnd)
  | [], atEOT, _, s =>
      let room := makeRoom s.pvt r.realloc
      if room.2 ≠ .asynSuccess then some ({ s with pvt := room.1 }, .failed .asynError)
      else if atEOT && r.timedOut then some ({ s with pvt := room.1 }, .complete)
      else
        some ({ s with pvt := room.1 }, .failed (if r.timedOut then .asynTimeout else .asynError))
  | chunk :: rest, _, dangling, s =>
      let room := makeRoom s.pvt r.realloc
      if room.2 ≠ .asynSuccess then some ({ s with pvt := room.1 }, .failed .asynError)
      else if room.1.bufCapacity - room.1.bufCount < chunk.length then none
      else
        let dangling' := r.danglesAfter s.pvt dangling
        let received := State.receive { s with pvt := room.1 } dangling' chunk
        if EndsChunk s.pvt.eos chunk then
          if s.pvt.eos.isSome then some (received, .complete)
          else readLoop r rest true dangling' received
        else readLoop r rest false dangling' received

/-! ## A read -/

/-- Subtraction of `size_t` values. -/
def sizeSub (a b : Nat) : Nat := if b ≤ a then a - b else 2 ^ 64 + a - b

/-- What a read takes from the buffer. -/
def deliver (s : State) (address : Int) (maxchars : Nat) : State :=
  let n := sizeSub s.pvt.bufCount s.pvt.bufIndex
  let k := min n maxchars
  { s with
    pvt :=
      { s.pvt with
        bufIndex := s.pvt.bufIndex + k
        fault := s.pvt.fault || (decide (0 < k) && decide (s.pvt.allocated < s.pvt.bufIndex + k)) }
    log :=
      ⟨address, s.writes address, (List.range k).map fun i => s.pvt.buf (s.pvt.bufIndex + i),
        n ≤ maxchars⟩ :: s.log }

def readCommand : Option UInt8 → List UInt8
  | some eos => ascii ("++read " ++ toString eos ++ "\n")
  | none => ascii "++read eoi\n"

/-- The reply is complete: the marker is dropped, and the read begins at its first byte. -/
def State.complete (s : State) (address : Int) : State :=
  { s with
    pvt :=
      { s.pvt with
        bufCount := if s.pvt.eos.isSome then s.pvt.bufCount else s.pvt.bufCount - 1
        bufIndex := 0 }
    owner := some address }

/-- A read that finds the buffer empty. -/
def readReply (s : State) (r : Read) : Option (State × AsynStatus) :=
  let addressed := setAddress s.pvt r.address r.addressAnswer
  if addressed.status ≠ .asynSuccess then
    some ({ s with pvt := addressed.pvt, owner := none }, addressed.status)
  else
    let printed := addressed.pvt.print (readCommand addressed.pvt.eos)
    if r.readAnswer ≠ .asynSuccess then
      some ({ s with pvt := printed, owner := none }, r.readAnswer)
    else
      match readLoop r r.chunks false false { s with pvt := printed, owner := none } with
      | none => none
      | some (fetched, .failed status) => some (fetched, status)
      | some (fetched, .complete) =>
          some (deliver (fetched.complete r.address) r.address r.maxchars, .asynSuccess)

def prologixRead (s : State) (r : Read) : Option (State × AsynStatus) :=
  if s.pvt.bufCount = 0 then readReply s r
  else some (deliver s r.address r.maxchars, .asynSuccess)

/-! ## The other operations -/

/-- A write in a run: the count of the device goes up where the write succeeds. -/
def State.write (s : State) (w : Write) : State :=
  let outcome := prologixWrite s.pvt w
  { s with
    pvt := outcome.pvt
    writes := fun a =>
      if a = w.address ∧ outcome.status = .asynSuccess then s.writes a + 1 else s.writes a
    owner := if outcome.sent = [] then s.owner else none }

/-- `prologixFlush` -/
def State.flush (s : State) : State := { s with pvt := { s.pvt with bufCount := 0 } }

def connectCommands : List UInt8 :=
  ascii ("++savecfg 0\n++mode 1\n++ifc\n++eos 3\n++eoi 1\n++eot_char 239\n" ++
    "++eot_enable 1\n++ver\n")

/-- The beginning of `prologixConnect`. -/
def DPvt.reset (p : DPvt) : DPvt :=
  { p with lastPrimaryAddress := -1, lastSecondaryAddress := -1, bufCount := 0 }

/-- `prologixConnect`; `connected` is whether `connectDevice` succeeds. -/
def State.connect (s : State) (address : Int) (connected : Bool) : State :=
  { s with
    pvt :=
      if address < 0 ∧ connected = true then s.pvt.reset.print connectCommands else s.pvt.reset
    owner := none }

inductive Action
  | write (w : Write)
  | read (r : Read)
  | flush
  | connect (address : Int) (connected : Bool)
  deriving DecidableEq

def State.step (s : State) : Action → Option State
  | .write w => some (s.write w)
  | .read r => (prologixRead s r).map Prod.fst
  | .flush => some s.flush
  | .connect address connected => some (s.connect address connected)

def machine : Machine State Action where
  init s := ∃ eos, s = .configured eos
  step := State.step

/-! ## What the reads have to do -/

def Record.origins (rec : Record) : List Nat := rec.cells.filterMap Cell.origin

/-- The place of the byte that ends a reply, from that of its last data byte. -/
def endPlace (eos : Option UInt8) (k : Nat) : Nat := if eos.isSome then k else k + 1

/-- The byte is of the device, and not the marker that the adapter puts behind a reply. -/
def Item.IsData (eos : Option UInt8) (item : Item) : Prop := eos = none → item.ends = false

structure Sound (s : State) : Prop where
  inside : s.pvt.fault = false
  /-- A read delivers bytes of its device, sent since the last write to it. -/
  cells : ∀ rec ∈ s.log, ∀ cell ∈ rec.cells, ∃ k item, cell.origin = some k ∧
    s.arrived[k]? = some item ∧ cell.value = item.value ∧ item.IsData s.pvt.eos ∧
    item.source = rec.address ∧ item.writes = rec.writes
  /-- The reads of a device deliver its bytes in order, and each at most once. -/
  order : ∀ a, ((s.log.reverse.filter fun rec => rec.address = a).flatMap Record.origins).Pairwise
    (· < ·)
  /-- An end is reported with the last byte of a reply whose terminator has arrived. -/
  ends : ∀ rec ∈ s.log, rec.reported = true → ∃ cell k item, rec.cells.getLast? = some cell ∧
    cell.origin = some k ∧ s.arrived[endPlace s.pvt.eos k]? = some item ∧ item.ends = true

/-! ## The condition -/

/-- There is room before every octet read. -/
def HasRoom (eos : Option UInt8) : Nat → List (List Item) → Prop
  | room, [] => 0 < room
  | room, chunk :: rest =>
      0 < room ∧
        (EndsChunk eos chunk ∧ eos.isSome = true ∨ HasRoom eos (room - chunk.length) rest)

/-- What arrives during a read is one reply, or its beginning, of the device that is read, sent since
the last write to it; and where the driver sees an end there is one. -/
structure OneReply (s : State) (r : Read) : Prop where
  source : ∀ item ∈ r.chunks.flatten, item.source = r.address ∧ item.writes = s.writes r.address
  last : ∀ i item, r.chunks.flatten[i]? = some item → item.ends = true →
    i + 1 = r.chunks.flatten.length
  eos : s.pvt.eos.isSome = true → ∀ chunk ∈ r.chunks, ∀ item, chunk.getLast? = some item →
    item.value = terminator s.pvt.eos → item.ends = true
  marker : s.pvt.eos = none → r.timedOut = true → ∀ item, r.chunks.flatten.getLast? = some item →
    item.value = eotMarker → item.ends = true ∧ 1 < r.chunks.flatten.length

/-- The read finds the rest of the reply of its own device. -/
structure FindsRest (s : State) (r : Read) : Prop where
  owner : s.owner = some r.address
  rest : s.pvt.bufIndex < s.pvt.bufCount

def Proper (s : State) : Action → Prop
  | .write w => w.KeepsBuffer s.pvt
  | .read r =>
      0 < r.maxchars ∧
        if s.pvt.bufCount = 0 then
          (setAddress s.pvt r.address r.addressAnswer).status = .asynSuccess →
            r.readAnswer = .asynSuccess →
              (r.realloc = .fails ∨ HasRoom s.pvt.eos s.pvt.bufCapacity r.chunks) ∧ OneReply s r
        else FindsRest s r
  | _ => True

/-! ## What the octet reads fetch -/

section
variable {s s' : State} {r : Read} {a : Int} {base : Nat} {taken : List Item} {e : LoopEnd}

@[simp] theorem length_cellsFrom (n : Nat) (items : List Item) :
    (cellsFrom n items).length = items.length := List.length_mapIdx

theorem cellsFrom_append (n : Nat) (items more : List Item) :
    cellsFrom n (items ++ more) = cellsFrom n items ++ cellsFrom (n + items.length) more := by
  simp only [cellsFrom, List.mapIdx_append, Nat.add_assoc, Nat.add_comm items.length]

theorem getElem?_cellsFrom (n : Nat) (items : List Item) (i : Nat) :
    (cellsFrom n items)[i]? = (items[i]?).map fun item => ⟨item.value, some (n + i)⟩ :=
  List.getElem?_mapIdx

/-- The chunks of the octet reads are in the buffer, behind what was there, and nothing else has
changed. -/
structure Fetched (s s' : State) (taken : List Item) : Prop where
  pvt : s'.pvt = DPvt.pushAll (cellsFrom s.arrived.length taken) s.pvt
  arrived : s'.arrived = s.arrived ++ taken
  writes : s'.writes = s.writes
  owner : s'.owner = s.owner
  log : s'.log = s.log

theorem Fetched.refl (s : State) : Fetched s s [] := ⟨rfl, (List.append_nil _).symm, rfl, rfl, rfl⟩

theorem Fetched.cons {chunk : List Item} (h : Fetched (s.receive false chunk) s' taken) :
    Fetched s s' (chunk ++ taken) where
  pvt := by
    rw [h.pvt, cellsFrom_append, pushAll_append]
    simp only [State.receive, Bool.false_eq_true, if_false, List.length_append]
  arrived := by
    rw [h.arrived]
    exact List.append_assoc _ _ _
  writes := h.writes
  owner := h.owner
  log := h.log

/-- Where the loop comes to an end, it has taken a reply up to its terminator: in a chunk that ends with
it, or, without an EOS character, before a pause. -/
structure Completed (r : Read) (eos : Option UInt8) (chunks : List (List Item)) (atEOT : Bool)
    (taken : List Item) : Prop where
  chunkEnds : eos.isSome = true → ∃ chunk ∈ chunks, EndsChunk eos chunk ∧
    ∃ before, taken = before ++ chunk
  pause : eos = none → taken = chunks.flatten ∧ r.timedOut = true ∧
    (atEOT = true ∧ chunks = [] ∨ EndsChunk eos taken)

theorem makeRoom_of_lt {p : DPvt} (hroom : p.bufCount < p.bufCapacity) (realloc : Realloc) :
    makeRoom p realloc = (p, .asynSuccess) := by
  rw [makeRoom, if_neg (by omega)]

theorem makeRoom_of_fails {p : DPvt} (hfull : p.bufCapacity ≤ p.bufCount) :
    makeRoom p .fails = ({ p with bufCount := 0 }, .asynError) := by
  simp only [makeRoom, hfull, if_true, resizeBuffer, or_true, ne_eq, reduceCtorEq, not_false_eq_true]

theorem HasRoom.pos {eos : Option UInt8} {room : Nat} {chunks : List (List Item)}
    (h : HasRoom eos room chunks) : 0 < room := by
  cases chunks with
  | nil => exact h
  | cons chunk rest => exact h.1

theorem endsChunk_append {eos : Option UInt8} {chunk more : List Item}
    (h : EndsChunk eos more) : EndsChunk eos (chunk ++ more) := by
  unfold EndsChunk at h ⊢
  rw [List.getLast?_append]
  cases hlast : more.getLast? with
  | none =>
      rw [hlast] at h
      cases h
  | some item =>
      rw [hlast] at h
      exact h

/-- Where a loop without EOS character waits for its pause, the end of the chunk is that of all that it
has taken. -/
theorem Completed.cons {eos : Option UInt8} {chunk : List Item} {rest : List (List Item)}
    (h : Completed r eos rest (decide (EndsChunk eos chunk)) taken) (atEOT : Bool) :
    Completed r eos (chunk :: rest) atEOT (chunk ++ taken) where
  chunkEnds := by
    intro heos
    obtain ⟨last, hmem, hlast, before, rfl⟩ := h.chunkEnds heos
    exact ⟨last, List.mem_cons_of_mem _ hmem, hlast, chunk ++ before,
      (List.append_assoc _ _ _).symm⟩
  pause := by
    intro heos
    obtain ⟨htaken, htimed, hlast⟩ := h.pause heos
    refine ⟨?_, htimed, Or.inr ?_⟩
    · rw [htaken, List.flatten_cons]
    · rcases hlast with ⟨hchunk, rfl⟩ | hlast
      · rw [htaken, List.flatten_nil, List.append_nil]
        exact of_decide_eq_true hchunk
      · exact endsChunk_append hlast

/-- A pass that finds no room ends the loop; any other one receives its chunk. -/
theorem pass_cases {chunk : List Item} {rest : List (List Item)} {atEOT : Bool}
    (hroom : s.pvt.bufCount < s.pvt.bufCapacity)
    (hrun : readLoop r (chunk :: rest) atEOT false s = some (s', e)) :
    chunk.length ≤ s.pvt.bufCapacity - s.pvt.bufCount ∧
      (EndsChunk s.pvt.eos chunk ∧ s.pvt.eos.isSome = true ∧
          s' = s.receive false chunk ∧ e = .complete ∨
        ¬ (EndsChunk s.pvt.eos chunk ∧ s.pvt.eos.isSome = true) ∧
          readLoop r rest (decide (EndsChunk s.pvt.eos chunk)) false
            (s.receive false chunk) = some (s', e)) := by
  have hdangles : r.danglesAfter s.pvt false = false := by
    have hnot : ¬ s.pvt.bufCapacity ≤ s.pvt.bufCount := by omega
    simp only [Read.danglesAfter, hnot, decide_false, Bool.false_and, Bool.or_self]
  simp only [readLoop, makeRoom_of_lt hroom, hdangles, ne_eq, not_true_eq_false, if_false] at hrun
  split at hrun
  · cases hrun
  · next hlong =>
      refine ⟨Nat.not_lt.mp hlong, ?_⟩
      split at hrun
      · next hends =>
          split at hrun
          · next heos =>
              cases hrun
              exact Or.inl ⟨hends, heos, rfl, rfl⟩
          · next heos =>
              refine Or.inr ⟨fun h => heos h.2, ?_⟩
              rw [decide_eq_true hends]
              exact hrun
      · next hends =>
          refine Or.inr ⟨fun h => hends h.1, ?_⟩
          rw [decide_eq_false hends]
          exact hrun

theorem readLoop_full {chunks : List (List Item)} {atEOT dangling : Bool}
    (hfull : s.pvt.bufCapacity ≤ s.pvt.bufCount) (hfails : r.realloc = .fails)
    (hrun : readLoop r chunks atEOT dangling s = some (s', e)) :
    s' = { s with pvt := { s.pvt with bufCount := 0 } } ∧ e = .failed .asynError := by
  cases chunks with
  | nil =>
      simp only [readLoop, hfails, makeRoom_of_fails hfull, ne_eq, reduceCtorEq,
        not_false_eq_true, if_true] at hrun
      cases hrun
      exact ⟨rfl, rfl⟩
  | cons chunk rest =>
      simp only [readLoop, hfails, makeRoom_of_fails hfull, ne_eq, reduceCtorEq,
        not_false_eq_true, if_true] at hrun
      cases hrun
      exact ⟨rfl, rfl⟩

/-- The loop with room for every chunk, or without memory: what it has fetched fits, and is thrown away
where there is no room for more. -/
theorem fetched_of_readLoop {chunks : List (List Item)} {atEOT : Bool}
    (hroom : r.realloc = .fails ∨ HasRoom s.pvt.eos (s.pvt.bufCapacity - s.pvt.bufCount) chunks)
    (hle : s.pvt.bufCount ≤ s.pvt.bufCapacity)
    (hat : s.pvt.eos.isSome = true → atEOT = false)
    (hrun : readLoop r chunks atEOT false s = some (s', e)) :
    ∃ t taken, Fetched s t taken ∧ taken <+: chunks.flatten ∧
      s.pvt.bufCount + taken.length ≤ s.pvt.bufCapacity ∧
      (e = .complete → s' = t ∧ Completed r s.pvt.eos chunks atEOT taken) ∧
      (s' = t ∨ s' = { t with pvt := { t.pvt with bufCount := 0 } }) := by
  induction chunks generalizing s atEOT with
  | nil =>
      refine ⟨s, [], Fetched.refl s, List.prefix_refl _, hle, ?_⟩
      by_cases hlt : s.pvt.bufCount < s.pvt.bufCapacity
      · simp only [readLoop, makeRoom_of_lt hlt, ne_eq, not_true_eq_false, if_false] at hrun
        split at hrun
        · next hend =>
            cases hrun
            rw [Bool.and_eq_true] at hend
            refine ⟨fun _ => ⟨rfl, ?_, fun _ => ⟨rfl, hend.2, Or.inl ⟨hend.1, rfl⟩⟩⟩, Or.inl rfl⟩
            intro heos
            rw [hat heos] at hend
            cases hend.1
        · cases hrun
          exact ⟨nofun, Or.inl rfl⟩
      · have hfails : r.realloc = .fails := hroom.resolve_right fun h => absurd h.pos (by omega)
        obtain ⟨rfl, rfl⟩ := readLoop_full (Nat.not_lt.mp hlt) hfails hrun
        exact ⟨nofun, Or.inr rfl⟩
  | cons chunk rest ih =>
      by_cases hlt : s.pvt.bufCount < s.pvt.bufCapacity
      · obtain ⟨hchunk, ⟨hends, heos, rfl, rfl⟩ | ⟨hends, hrest⟩⟩ := pass_cases hlt hrun
        · -- the terminator has been seen
          refine ⟨_, chunk, ?_, List.prefix_append _ _, by omega, fun _ => ⟨rfl, ?_, ?_⟩, Or.inl rfl⟩
          · have hone := (Fetched.refl (s.receive false chunk)).cons
            rw [List.append_nil] at hone
            exact hone
          · intro _
            exact ⟨chunk, List.mem_cons_self, hends, [], rfl⟩
          · intro hnone
            rw [hnone] at heos
            cases heos
        · have hsize := sameSize_pushAll (cellsFrom s.arrived.length chunk) s.pvt
          have hcount : (s.receive false chunk).pvt.bufCount = s.pvt.bufCount + chunk.length := by
            simp only [State.receive, Bool.false_eq_true, if_false, pushAll_bufCount,
              length_cellsFrom]
          have hcapacity : (s.receive false chunk).pvt.bufCapacity = s.pvt.bufCapacity :=
            hsize.bufCapacity
          have heos : (s.receive false chunk).pvt.eos = s.pvt.eos := hsize.eos
          have hnext : r.realloc = .fails ∨ HasRoom (s.receive false chunk).pvt.eos
              ((s.receive false chunk).pvt.bufCapacity - (s.receive false chunk).pvt.bufCount) rest := by
            refine hroom.imp_right fun h => ?_
            have hmore := h.2.resolve_left hends
            rw [hcount, hcapacity, heos, Nat.sub_add_eq]
            exact hmore
          have hat' : (s.receive false chunk).pvt.eos.isSome = true →
              decide (EndsChunk s.pvt.eos chunk) = false := by
            intro hsome
            rw [heos] at hsome
            exact decide_eq_false fun h => hends ⟨h, hsome⟩
          obtain ⟨t, taken, hfetched, hpart, hfits, hcomplete, hs'⟩ :=
            ih hnext (by omega) hat' hrest
          refine ⟨t, chunk ++ taken, hfetched.cons, ?_, ?_, ?_, hs'⟩
          · rw [List.flatten_cons]
            exact (List.prefix_append_right_inj chunk).mpr hpart
          · rw [List.length_append]
            omega
          · intro he
            obtain ⟨ht, hcompleted⟩ := hcomplete he
            rw [heos] at hcompleted
            exact ⟨ht, hcompleted.cons atEOT⟩
      · have hfails : r.realloc = .fails := hroom.resolve_right fun h => absurd h.pos (by omega)
        obtain ⟨rfl, rfl⟩ := readLoop_full (Nat.not_lt.mp hlt) hfails hrun
        exact ⟨s, [], Fetched.refl s, List.nil_prefix, hle, nofun, Or.inr rfl⟩

end

/-! ## The log and the buffer -/

/-- The places of the bytes that the reads have delivered, in the order of the reads. -/
def places (log : List Record) : List Nat := log.reverse.flatMap Record.origins

theorem places_cons (rec : Record) (log : List Record) :
    places (rec :: log) = places log ++ rec.origins := by
  simp only [places, List.reverse_cons, List.flatMap_append, List.flatMap_cons, List.flatMap_nil,
    List.append_nil]

/-- `Sound` of a log, with one order for all devices. -/
structure LogSound (eos : Option UInt8) (arrived : List Item) (log : List Record) : Prop where
  cells : ∀ rec ∈ log, ∀ cell ∈ rec.cells, ∃ k item, cell.origin = some k ∧
    arrived[k]? = some item ∧ cell.value = item.value ∧ item.IsData eos ∧
    item.source = rec.address ∧ item.writes = rec.writes
  order : (places log).Pairwise (· < ·)
  ends : ∀ rec ∈ log, rec.reported = true → ∃ cell k item, rec.cells.getLast? = some cell ∧
    cell.origin = some k ∧ arrived[endPlace eos k]? = some item ∧ item.ends = true

/-- The buffer holds a whole reply of `a`, which begins at place `base`, and the reads have come to
`bufIndex`. -/
structure HoldsAt (s : State) (a : Int) (base : Nat) : Prop where
  index : s.pvt.bufIndex ≤ s.pvt.bufCount
  cell : ∀ i, i < s.pvt.bufCount → ∃ item, s.arrived[base + i]? = some item ∧
    s.pvt.buf i = ⟨item.value, some (base + i)⟩ ∧ item.IsData s.pvt.eos ∧ item.source = a ∧
    item.writes = s.writes a
  fresh : ∀ k ∈ places s.log, k < base + s.pvt.bufIndex
  ends : ∃ item, s.arrived[endPlace s.pvt.eos (base + s.pvt.bufCount - 1)]? = some item ∧
    item.ends = true

structure Inv (s : State) : Prop where
  safe : Safe s.pvt
  count : s.pvt.bufCount ≤ s.pvt.bufCapacity
  log : LogSound s.pvt.eos s.arrived s.log
  held : s.pvt.bufCount ≠ 0 → ∀ a, s.owner = some a → ∃ base, HoldsAt s a base

section
variable {s s' : State} {r : Read} {w : Write} {a : Int} {base : Nat} {taken : List Item}
  {eos : Option UInt8} {arrived : List Item} {log : List Record}

theorem getElem?_append_of_some {items : List Item} {k : Nat} {item : Item}
    (h : items[k]? = some item) (more : List Item) : (items ++ more)[k]? = some item := by
  rw [List.getElem?_append_left (List.getElem?_eq_some_iff.mp h).1, h]

theorem LogSound.append (h : LogSound eos arrived log) (more : List Item) :
    LogSound eos (arrived ++ more) log where
  cells := by
    intro rec hrec cell hcell
    obtain ⟨k, item, horigin, hitem, hrest⟩ := h.cells rec hrec cell hcell
    exact ⟨k, item, horigin, getElem?_append_of_some hitem more, hrest⟩
  order := h.order
  ends := by
    intro rec hrec hreported
    obtain ⟨cell, k, item, hlast, horigin, hitem, hends⟩ := h.ends rec hrec hreported
    exact ⟨cell, k, item, hlast, horigin, getElem?_append_of_some hitem more, hends⟩

theorem LogSound.lt (h : LogSound eos arrived log) {k : Nat} (hk : k ∈ places log) :
    k < arrived.length := by
  obtain ⟨rec, hrec, hk⟩ := List.mem_flatMap.mp hk
  obtain ⟨cell, hcell, horigin⟩ := List.mem_filterMap.mp hk
  obtain ⟨k', item, horigin', hitem, -⟩ := h.cells rec (List.mem_reverse.mp hrec) cell hcell
  rw [horigin] at horigin'
  cases horigin'
  exact (List.getElem?_eq_some_iff.mp hitem).1

/-- The order of all reads is one of the reads of every device. -/
theorem Inv.sound (hs : Inv s) : Sound s where
  inside := hs.safe.fault
  cells := hs.log.cells
  order := by
    intro a
    exact hs.log.order.sublist (List.filter_sublist.flatMap Record.origins)
  ends := hs.log.ends

/-! ## Delivery -/

/-- The read of a rest: where it stops, and what it reports. -/
structure Delivers (s : State) (a : Int) (maxchars k : Nat) : Prop where
  state : deliver s a maxchars =
    { s with
      pvt := { s.pvt with bufIndex := s.pvt.bufIndex + k }
      log := ⟨a, s.writes a, (List.range k).map fun i => s.pvt.buf (s.pvt.bufIndex + i),
        s.pvt.bufIndex + k = s.pvt.bufCount⟩ :: s.log }
  pos : 0 < k
  le : s.pvt.bufIndex + k ≤ s.pvt.bufCount

theorem delivers (hs : Inv s) (hrest : s.pvt.bufIndex < s.pvt.bufCount) {maxchars : Nat}
    (hpos : 0 < maxchars) (a : Int) : ∃ k, Delivers s a maxchars k := by
  have hn : sizeSub s.pvt.bufCount s.pvt.bufIndex = s.pvt.bufCount - s.pvt.bufIndex := by
    rw [sizeSub, if_pos (Nat.le_of_lt hrest)]
  have hcount := hs.count
  have hallocated := hs.safe.allocated
  refine ⟨min (s.pvt.bufCount - s.pvt.bufIndex) maxchars, ?_, by omega, by omega⟩
  have hinside : ¬ s.pvt.allocated <
      s.pvt.bufIndex + min (s.pvt.bufCount - s.pvt.bufIndex) maxchars := by omega
  have hreported : (s.pvt.bufCount - s.pvt.bufIndex ≤ maxchars) =
      (s.pvt.bufIndex + min (s.pvt.bufCount - s.pvt.bufIndex) maxchars = s.pvt.bufCount) := by
    apply propext
    omega
  simp only [deliver, hn, hinside, decide_false, Bool.and_false, Bool.or_false, hreported]

theorem HoldsAt.origins (hholds : HoldsAt s a base) {k : Nat}
    (hle : s.pvt.bufIndex + k ≤ s.pvt.bufCount) :
    ((List.range k).map fun i => s.pvt.buf (s.pvt.bufIndex + i)).filterMap Cell.origin =
      (List.range k).map fun i => base + s.pvt.bufIndex + i := by
  rw [List.filterMap_map, ← List.filterMap_eq_map]
  apply List.filterMap_congr
  intro i hi
  rw [List.mem_range] at hi
  obtain ⟨item, -, hbuf, -⟩ := hholds.cell (s.pvt.bufIndex + i) (by omega)
  simp only [Function.comp_apply, hbuf, Nat.add_assoc]

theorem Inv.deliver (hs : Inv s) (hholds : HoldsAt s a base)
    (hrest : s.pvt.bufIndex < s.pvt.bufCount) {maxchars : Nat} (hpos : 0 < maxchars)
    (howner : s.owner = some a) : Inv (deliver s a maxchars) := by
  obtain ⟨k, hdelivers, hk, hle⟩ := delivers hs hrest hpos a
  have horigins := hholds.origins hle
  rw [hdelivers]
  refine ⟨⟨hs.safe.allocated, hs.safe.capacity, hs.safe.fault⟩, hs.count, ⟨?_, ?_, ?_⟩, ?_⟩
  · intro rec hrec cell hcell
    rcases List.mem_cons.mp hrec with rfl | hrec
    · obtain ⟨i, hi, rfl⟩ := List.mem_map.mp hcell
      rw [List.mem_range] at hi
      obtain ⟨item, hitem, hbuf, hdata, hsource, hwrites⟩ :=
        hholds.cell (s.pvt.bufIndex + i) (by omega)
      exact ⟨_, item, by rw [hbuf], hitem, by rw [hbuf], hdata, hsource, hwrites⟩
    · exact hs.log.cells rec hrec cell hcell
  · rw [places_cons, Record.origins, horigins]
    refine List.pairwise_append.mpr ⟨hs.log.order, ?_, ?_⟩
    · rw [List.pairwise_map]
      exact List.pairwise_lt_range.imp fun h => by omega
    · intro j hj j' hj'
      obtain ⟨i, -, rfl⟩ := List.mem_map.mp hj'
      have hlt := hholds.fresh j hj
      omega
  · intro rec hrec hreported
    rcases List.mem_cons.mp hrec with rfl | hrec
    · have hall : s.pvt.bufIndex + k = s.pvt.bufCount := of_decide_eq_true hreported
      obtain ⟨item, hitem, hends⟩ := hholds.ends
      obtain ⟨last, -, hbuf, -⟩ := hholds.cell (s.pvt.bufIndex + (k - 1)) (by omega)
      have hplace : base + (s.pvt.bufIndex + (k - 1)) = base + s.pvt.bufCount - 1 := by omega
      refine ⟨s.pvt.buf (s.pvt.bufIndex + (k - 1)), base + s.pvt.bufCount - 1, item, ?_, ?_, hitem,
        hends⟩
      · rw [List.getLast?_eq_getElem?, List.getElem?_map, List.length_map, List.length_range,
          List.getElem?_range (by omega), Option.map_some]
      · rw [hbuf, hplace]
    · exact hs.log.ends rec hrec hreported
  · intro _ a' ha'
    have heq : a = a' := Option.some.inj (howner.symm.trans ha')
    subst heq
    refine ⟨base, hle, hholds.cell, ?_, hholds.ends⟩
    intro j hj
    rw [places_cons, Record.origins, horigins, List.mem_append] at hj
    dsimp only
    rcases hj with hj | hj
    · have hlt := hholds.fresh j hj
      omega
    · obtain ⟨i, hi, rfl⟩ := List.mem_map.mp hj
      rw [List.mem_range] at hi
      omega

/-! ## A reply -/

/-- A step after which the buffer holds no reply. -/
theorem Inv.unheld {t : State} (hs : Inv s) (hsafe : Safe t.pvt)
    (hcount : t.pvt.bufCount ≤ t.pvt.bufCapacity) (heos : t.pvt.eos = s.pvt.eos)
    (harrived : ∃ more, t.arrived = s.arrived ++ more) (hlog : t.log = s.log)
    (hnone : t.pvt.bufCount = 0 ∨ t.owner = none) : Inv t := by
  obtain ⟨more, harrived⟩ := harrived
  refine ⟨hsafe, hcount, ?_, ?_⟩
  · rw [heos, harrived, hlog]
    exact hs.log.append more
  · intro hne a ha
    rcases hnone with hzero | hnone
    · exact absurd hzero hne
    · rw [hnone] at ha
      cases ha

@[simp] theorem setAddress_bufCount (p : DPvt) (address : Int) (answer : AsynStatus) :
    (setAddress p address answer).pvt.bufCount = p.bufCount := by
  simp only [setAddress]
  split
  · rfl
  split
  · rfl
  split <;> rfl

/-- The byte before the end of the reply, seen from the items that have been fetched. -/
theorem exists_end (hreply : OneReply s r) (hcompleted : Completed r s.pvt.eos r.chunks false taken) :
    0 < (if s.pvt.eos.isSome then taken.length else taken.length - 1) ∧
      ∃ item, taken[endPlace s.pvt.eos
        ((if s.pvt.eos.isSome then taken.length else taken.length - 1) - 1)]? = some item ∧
          item.ends = true := by
  cases heos : s.pvt.eos with
  | some e =>
      have hsome : s.pvt.eos.isSome = true := by rw [heos]; rfl
      obtain ⟨chunk, hmem, hends, before, rfl⟩ := hcompleted.chunkEnds hsome
      obtain ⟨item, hlast, hvalue⟩ := Option.map_eq_some_iff.mp hends
      have hlength : 0 < chunk.length := List.length_pos_of_mem (List.mem_of_getLast? hlast)
      have hget := hlast
      rw [List.getLast?_eq_getElem?] at hget
      simp only [Option.isSome_some, if_true, endPlace, List.length_append]
      refine ⟨by omega, item, ?_, hreply.eos hsome chunk hmem item hlast hvalue⟩
      rw [List.getElem?_append_right (by omega), ← hget]
      congr 1
      omega
  | none =>
      obtain ⟨rfl, htimed, hlast⟩ := hcompleted.pause heos
      have hends : EndsChunk s.pvt.eos r.chunks.flatten := by
        rcases hlast with ⟨hnot, -⟩ | hlast
        · cases hnot
        · exact hlast
      rw [heos] at hends
      obtain ⟨item, hlast, hvalue⟩ := Option.map_eq_some_iff.mp hends
      obtain ⟨hitem, hlength⟩ := hreply.marker heos htimed item hlast hvalue
      rw [List.getLast?_eq_getElem?] at hlast
      simp only [Option.isSome_none, Bool.false_eq_true, if_false, endPlace]
      refine ⟨by omega, item, ?_, hitem⟩
      rw [← hlast]
      congr 1
      omega

theorem endPlace_add (eos : Option UInt8) (m : Nat) {n : Nat} (hpos : 0 < n) :
    endPlace eos (m + n - 1) = m + endPlace eos (n - 1) := by
  unfold endPlace
  split <;> omega

/-- A reply that has been fetched is held from its first byte. -/
theorem HoldsAt.complete {t : State} (hs : Inv s) (hempty : s.pvt.bufCount = 0)
    (hreply : OneReply s r) (hfetched : Fetched s t taken) (hpart : taken <+: r.chunks.flatten)
    (hcompleted : Completed r s.pvt.eos r.chunks false taken) :
    HoldsAt (t.complete r.address) r.address s.arrived.length ∧
      0 < (t.complete r.address).pvt.bufCount := by
  have heos : t.pvt.eos = s.pvt.eos := by
    rw [hfetched.pvt]
    exact (sameSize_pushAll _ _).eos
  have hcount : t.pvt.bufCount = taken.length := by
    rw [hfetched.pvt, pushAll_bufCount, length_cellsFrom, hempty, Nat.zero_add]
  have hcount' : (t.complete r.address).pvt.bufCount =
      if s.pvt.eos.isSome then taken.length else taken.length - 1 := by
    simp only [State.complete, heos, hcount]
  obtain ⟨hpos, item, hitem, hends⟩ := exists_end hreply hcompleted
  refine ⟨⟨Nat.zero_le _, ?_, ?_, item, ?_, hends⟩, by rw [hcount']; exact hpos⟩
  · intro i hi
    rw [hcount'] at hi
    have hlt : i < taken.length := by
      split at hi <;> omega
    have hget := List.getElem?_eq_getElem hlt
    obtain ⟨hsource, hwrites⟩ := hreply.source taken[i] (hpart.subset (List.getElem_mem hlt))
    refine ⟨taken[i], ?_, ?_, ?_, hsource, ?_⟩
    · simp only [State.complete, hfetched.arrived]
      rw [List.getElem?_append_right (Nat.le_add_right _ _), Nat.add_sub_cancel_left, hget]
    · simp only [State.complete, hfetched.pvt, pushAll_buf, hempty, Nat.not_lt_zero, if_false,
        Nat.sub_zero, getElem?_cellsFrom, hget, Option.map_some, Option.getD_some]
    · -- the marker is the last one, and has been dropped
      intro hnone
      have hnone : s.pvt.eos = none := heos.symm.trans hnone
      obtain ⟨htaken, -, -⟩ := hcompleted.pause hnone
      rw [hnone, Option.isSome_none, if_neg Bool.false_ne_true] at hi
      by_contra hends
      rw [Bool.not_eq_false] at hends
      have hget' : r.chunks.flatten[i]? = some taken[i] := by
        rw [← htaken]
        exact hget
      have hlast := hreply.last i taken[i] hget' hends
      rw [← htaken] at hlast
      omega
    · simp only [State.complete, hfetched.writes]
      exact hwrites
  · intro k hk
    simp only [State.complete, hfetched.log] at hk
    exact hs.log.lt hk
  · rw [hcount']
    simp only [State.complete, hfetched.arrived, heos]
    rw [endPlace_add _ _ hpos, List.getElem?_append_right (Nat.le_add_right _ _), Nat.add_sub_cancel_left]
    exact hitem

theorem Fetched.safe {t : State} (h : Fetched s t taken) (hs : Inv s)
    (hfits : s.pvt.bufCount + taken.length ≤ s.pvt.bufCapacity) :
    Safe t.pvt ∧ t.pvt.bufCount ≤ t.pvt.bufCapacity ∧ t.pvt.eos = s.pvt.eos := by
  have hsize := sameSize_pushAll (cellsFrom s.arrived.length taken) s.pvt
  have hlength := length_cellsFrom s.arrived.length taken
  rw [h.pvt]
  refine ⟨hs.safe.pushAll (by omega), ?_, hsize.eos⟩
  rw [pushAll_bufCount, hsize.bufCapacity]
  omega

/-- The read that has fetched the reply delivers its first bytes. -/
theorem Inv.complete {t : State} (hs : Inv s) (hempty : s.pvt.bufCount = 0)
    (hreply : OneReply s r) (hfetched : Fetched s t taken) (hpart : taken <+: r.chunks.flatten)
    (hfits : s.pvt.bufCount + taken.length ≤ s.pvt.bufCapacity)
    (hcompleted : Completed r s.pvt.eos r.chunks false taken) (hpos : 0 < r.maxchars) :
    Inv (Prologix.deliver (t.complete r.address) r.address r.maxchars) := by
  obtain ⟨hsafe, hle, heos⟩ := hfetched.safe hs hfits
  obtain ⟨hholds, hrest⟩ := HoldsAt.complete hs hempty hreply hfetched hpart hcompleted
  have ht : Inv (t.complete r.address) := by
    refine ⟨⟨hsafe.allocated, hsafe.capacity, hsafe.fault⟩, ?_, ?_, ?_⟩
    · simp only [State.complete]
      split <;> omega
    · simp only [State.complete, heos, hfetched.arrived, hfetched.log]
      exact hs.log.append taken
    · intro _ a ha
      cases ha
      exact ⟨_, hholds⟩
  exact ht.deliver hholds hrest hpos rfl

theorem Inv.readReply (hs : Inv s) (hempty : s.pvt.bufCount = 0) (hpos : 0 < r.maxchars)
    {status : AsynStatus}
    (hproper : (setAddress s.pvt r.address r.addressAnswer).status = .asynSuccess →
      r.readAnswer = .asynSuccess →
        (r.realloc = .fails ∨ HasRoom s.pvt.eos s.pvt.bufCapacity r.chunks) ∧ OneReply s r)
    (hrun : readReply s r = some (s', status)) : Inv s' := by
  have haddress := hs.safe.setAddress r.address r.addressAnswer
  have hsize := sameSize_setAddress s.pvt r.address r.addressAnswer
  have hcount : (setAddress s.pvt r.address r.addressAnswer).pvt.bufCount = 0 := by
    rw [setAddress_bufCount, hempty]
  unfold Prologix.readReply at hrun
  dsimp only at hrun
  split at hrun
  · cases hrun
    exact hs.unheld haddress (by rw [hcount]; exact Nat.zero_le _) hsize.eos
      ⟨[], (List.append_nil _).symm⟩ rfl (Or.inr rfl)
  next hstatus =>
  have hstatus : (setAddress s.pvt r.address r.addressAnswer).status = .asynSuccess := not_not.mp hstatus
  -- the command of the read is printed over the empty buffer
  have hprint := haddress.print (readCommand (setAddress s.pvt r.address r.addressAnswer).pvt.eos)
  have hsize' := hsize.trans (sameSize_print (setAddress s.pvt r.address r.addressAnswer).pvt
    (readCommand (setAddress s.pvt r.address r.addressAnswer).pvt.eos))
  have hcount' : ((setAddress s.pvt r.address r.addressAnswer).pvt.print
      (readCommand (setAddress s.pvt r.address r.addressAnswer).pvt.eos)).bufCount = 0 := hcount
  generalize (setAddress s.pvt r.address r.addressAnswer).pvt.print
    (readCommand (setAddress s.pvt r.address r.addressAnswer).pvt.eos) = printed at *
  have hs₁ : Inv { s with pvt := printed, owner := none } :=
    hs.unheld hprint (by rw [hcount']; exact Nat.zero_le _) hsize'.eos
      ⟨[], (List.append_nil _).symm⟩ rfl (Or.inr rfl)
  split at hrun
  · cases hrun
    exact hs₁
  next hread =>
  obtain ⟨hroom, hreply⟩ := hproper hstatus (not_not.mp hread)
  have hreply₁ : OneReply { s with pvt := printed, owner := none } r :=
    ⟨hreply.source, hreply.last, hsize'.eos ▸ hreply.eos, hsize'.eos ▸ hreply.marker⟩
  have hroom₁ : r.realloc = .fails ∨ HasRoom printed.eos (printed.bufCapacity - printed.bufCount)
      r.chunks := by
    rw [hcount', hsize'.eos, hsize'.bufCapacity, Nat.sub_zero]
    exact hroom
  split at hrun
  · cases hrun
  · next fetched status' hloop =>
      cases hrun
      obtain ⟨t, taken, hfetched, -, hfits, -, hs'⟩ :=
        fetched_of_readLoop hroom₁ hs₁.count (fun _ => rfl) hloop
      obtain ⟨hsafe, hle, heos⟩ := hfetched.safe hs₁ hfits
      rcases hs' with rfl | rfl
      · exact hs₁.unheld hsafe hle heos ⟨taken, hfetched.arrived⟩ hfetched.log
          (Or.inr hfetched.owner)
      · exact hs₁.unheld (hsafe.withCount 0) (Nat.zero_le _) heos ⟨taken, hfetched.arrived⟩
          hfetched.log (Or.inl rfl)
  · next fetched hloop =>
      cases hrun
      obtain ⟨t, taken, hfetched, hpart, hfits, hcomplete, -⟩ :=
        fetched_of_readLoop hroom₁ hs₁.count (fun _ => rfl) hloop
      obtain ⟨rfl, hcompleted⟩ := hcomplete rfl
      exact hs₁.complete hcount' hreply₁ hfetched hpart hfits hcompleted hpos

/-! ## The steps -/

theorem Inv.read (hs : Inv s) (hproper : Proper s (.read r)) {status : AsynStatus}
    (hrun : prologixRead s r = some (s', status)) : Inv s' := by
  obtain ⟨hpos, hproper⟩ := hproper
  unfold prologixRead at hrun
  split at hrun
  · next hempty =>
      rw [if_pos hempty] at hproper
      exact hs.readReply hempty hpos hproper hrun
  · next hne =>
      rw [if_neg hne] at hproper
      cases hrun
      obtain ⟨base, hholds⟩ := hs.held hne r.address hproper.owner
      exact hs.deliver hholds hproper.rest hpos hproper.owner

/-- A write leaves the buffer empty, or has failed before its first command, or has printed over the
buffer. -/
theorem write_cases {p : DPvt} (hkeeps : w.KeepsBuffer p) :
    (prologixWrite p w).pvt.bufCount = 0 ∨
      ((prologixWrite p w).pvt = p ∧ (prologixWrite p w).status ≠ .asynSuccess) ∨
        ((prologixWrite p w).sent ≠ [] ∧ (prologixWrite p w).pvt.bufCount = p.bufCount) := by
  unfold prologixWrite
  dsimp only
  rw [hkeeps.resize_fst]
  split
  · exact Or.inr (Or.inl ⟨rfl, nofun⟩)
  split
  · next hstatus =>
      right
      have hcount := setAddress_bufCount p w.address w.addressAnswer
      simp only [setAddress] at hstatus hcount ⊢
      split
      · exact Or.inl ⟨rfl, nofun⟩
      split
      · next hlegal hsame =>
          rw [if_neg hlegal, if_pos hsame] at hstatus
          exact absurd rfl hstatus
      split
      · exact Or.inr ⟨List.cons_ne_nil _ _, rfl⟩
      · exact Or.inr ⟨List.cons_ne_nil _ _, rfl⟩
  · left
    unfold Write.send
    dsimp only
    split <;> rfl

theorem Inv.write (hs : Inv s) (hkeeps : w.KeepsBuffer s.pvt) : Inv (s.write w) := by
  have hsafe := hs.safe.write hkeeps
  have hcapacity := hs.safe.capacity
  have hsize : SameSize s.pvt (prologixWrite s.pvt w).pvt := by
    have h := sameSize_write (p := s.pvt) (w := w) (by rw [hkeeps.resize_fst]; omega)
    rw [hkeeps.resize_fst] at h
    exact h
  have hle := hs.count
  rcases write_cases hkeeps with hzero | ⟨hpvt, hstatus⟩ | ⟨hsent, hcount⟩
  · exact hs.unheld hsafe (by simp only [State.write]; omega) hsize.eos
      ⟨[], (List.append_nil _).symm⟩ rfl (Or.inl hzero)
  · -- nothing has happened
    have hwrites : (s.write w).writes = s.writes := by
      funext a
      simp only [State.write, hstatus, and_false, if_false]
    refine ⟨hsafe, by simp only [State.write, hpvt]; omega, ?_, ?_⟩
    · simp only [State.write, hpvt]
      exact hs.log
    · intro hne a ha
      simp only [State.write, hpvt] at hne ha
      split at ha
      · obtain ⟨base, hholds⟩ := hs.held hne a ha
        refine ⟨base, ?_, ?_, ?_, ?_⟩
        · simp only [State.write, hpvt]
          exact hholds.index
        · rw [hwrites]
          simp only [State.write, hpvt]
          exact hholds.cell
        · simp only [State.write, hpvt]
          exact hholds.fresh
        · simp only [State.write, hpvt]
          exact hholds.ends
      · cases ha
  · refine hs.unheld hsafe ?_ hsize.eos ⟨[], (List.append_nil _).symm⟩ rfl (Or.inr ?_)
    · simp only [State.write, hcount, hsize.bufCapacity]
      exact hle
    · simp only [State.write, hsent, if_false]

theorem Inv.step {action : Action} (hs : Inv s) (hproper : Proper s action)
    (hstep : s.step action = some s') : Inv s' := by
  cases action with
  | write w =>
      cases hstep
      exact hs.write hproper
  | read r =>
      obtain ⟨⟨t, status⟩, hrun, rfl⟩ := Option.map_eq_some_iff.mp hstep
      exact hs.read hproper hrun
  | flush =>
      cases hstep
      exact hs.unheld (hs.safe.withCount 0) (Nat.zero_le _) rfl ⟨[], (List.append_nil _).symm⟩ rfl
        (Or.inl rfl)
  | connect address connected =>
      cases hstep
      have hreset : Safe s.pvt.reset := ⟨hs.safe.allocated, hs.safe.capacity, hs.safe.fault⟩
      have hsize := sameSize_print s.pvt.reset connectCommands
      have hpvt : Safe (s.connect address connected).pvt ∧
          (s.connect address connected).pvt.bufCount = 0 ∧
          (s.connect address connected).pvt.eos = s.pvt.eos := by
        simp only [State.connect]
        split
        · exact ⟨hreset.print connectCommands, rfl, hsize.eos⟩
        · exact ⟨hreset, rfl, rfl⟩
      exact hs.unheld hpvt.1 (by rw [hpvt.2.1]; exact Nat.zero_le _) hpvt.2.2
        ⟨[], (List.append_nil _).symm⟩ rfl (Or.inl hpvt.2.1)

theorem inv_configured (eos : Option UInt8) : Inv (.configured eos) where
  safe := safe_configured eos
  count := Nat.zero_le _
  log := ⟨nofun, List.Pairwise.nil, nofun⟩
  held := fun hne => absurd rfl hne

end

/-- The reads of a run are sound as long as every read finds nothing or its own rest, and fetches one
reply that fits. -/
theorem reads_sound (s : State) (hreach : machine.Reachable Proper s) : Sound s := by
  refine Inv.sound (hreach.invariant ?_ ?_)
  · rintro s ⟨eos, rfl⟩
    exact inv_configured eos
  · intro s action s' hproper hs hstep
    exact hs.step hproper hstep

/-! ## Two devices -/

/-- A reply of two bytes from the device at address 1, with the marker of the adapter. -/
def reply : List Item := [⟨1, 1, 65, false⟩, ⟨1, 1, 66, false⟩, ⟨1, 1, eotMarker, true⟩]

def readOf (address : Int) (chunks : List (List Item)) (maxchars : Nat) : Action :=
  .read ⟨address, maxchars, .asynSuccess, .asynSuccess, chunks, true, .grows true⟩

def writeTo (address : Int) : Action :=
  .write ⟨address, [63], .grows true, .asynSuccess, .asynSuccess⟩

def stateAfter (actions : List Action) : State :=
  (machine.exec (.configured none) actions).getD (.configured none)

/-- A write, and a read of the first byte of the reply. -/
def firstRead : List Action := [writeTo 1, readOf 1 [reply] 1]

theorem step_firstRead :
    machine.step (.configured none) (writeTo 1) = some (stateAfter [writeTo 1]) ∧
      machine.step (stateAfter [writeTo 1]) (readOf 1 [reply] 1) = some (stateAfter firstRead) ∧
      machine.step (stateAfter firstRead) (readOf 1 [] 5) =
        some (stateAfter (firstRead ++ [readOf 1 [] 5])) ∧
      machine.step (stateAfter firstRead) (readOf 2 [] 5) =
        some (stateAfter (firstRead ++ [readOf 2 [] 5])) :=
  ⟨rfl, rfl, rfl, rfl⟩

theorem oneReply_first (s : State) (heos : s.pvt.eos = none) (hwrites : s.writes 1 = 1) :
    OneReply s ⟨1, 1, .asynSuccess, .asynSuccess, [reply], true, .grows true⟩ where
  source := by
    simp only [List.flatten_cons, List.flatten_nil, List.append_nil, hwrites]
    decide
  last := by
    intro i item hitem hends
    match i with
    | 0 =>
        cases hitem
        cases hends
    | 1 =>
        cases hitem
        cases hends
    | 2 => rfl
    | i + 3 => cases hitem
  eos := by
    intro hsome
    rw [heos] at hsome
    cases hsome
  marker := by
    intro _ _ item hitem _
    cases hitem
    decide

theorem reachable_firstRead : machine.Reachable Proper (stateAfter firstRead) := by
  obtain ⟨hwrite, hread, -, -⟩ := step_firstRead
  have hinit : machine.Reachable Proper (.configured none) := Machine.Reachable.init ⟨none, rfl⟩
  have hwritten : machine.Reachable Proper (stateAfter [writeTo 1]) :=
    hinit.step (a := writeTo 1) (Or.inr (by decide)) hwrite
  have hproper : Proper (stateAfter [writeTo 1]) (readOf 1 [reply] 1) := by
    have hempty : (stateAfter [writeTo 1]).pvt.bufCount = 0 := rfl
    refine ⟨Nat.one_pos, ?_⟩
    rw [if_pos hempty]
    intro _ _
    have hleft : 0 < (stateAfter [writeTo 1]).pvt.bufCapacity - reply.length := by decide
    exact ⟨Or.inr ⟨by decide, Or.inr hleft⟩, oneReply_first _ rfl rfl⟩
  exact hwritten.step hproper hread

theorem reads_sound_example :
    ((stateAfter (firstRead ++ [readOf 1 [] 5])).log.map fun rec => rec.cells.map Cell.value) =
        [[66], [65]] ∧
      Sound (stateAfter (firstRead ++ [readOf 1 [] 5])) := by
  have hproper : Proper (stateAfter firstRead) (readOf 1 [] 5) := by
    refine ⟨by decide, ?_⟩
    rw [if_neg (by decide)]
    exact ⟨rfl, by decide⟩
  refine ⟨rfl, reads_sound _ (reachable_firstRead.step hproper step_firstRead.2.2.1)⟩

/-- The read at address 2 gets the second byte of the device at address 1, and an end. -/
theorem rest_of_other_device :
    machine.Reachable Machine.Unguarded (stateAfter (firstRead ++ [readOf 2 [] 5])) ∧
      (stateAfter (firstRead ++ [readOf 2 [] 5])).log.head? =
        some ⟨2, 0, [⟨66, some 1⟩], true⟩ ∧
      ¬ Sound (stateAfter (firstRead ++ [readOf 2 [] 5])) := by
  have hexec : machine.exec (.configured none) (firstRead ++ [readOf 2 [] 5]) =
      some (stateAfter (firstRead ++ [readOf 2 [] 5])) := rfl
  have hinit : machine.init (.configured none) := ⟨none, rfl⟩
  refine ⟨Machine.reachable_of_exec hinit hexec, rfl, ?_⟩
  intro hsound
  obtain ⟨k, item, horigin, hitem, -, -, hsource, -⟩ :=
    hsound.cells ⟨2, 0, [⟨66, some 1⟩], true⟩ List.mem_cons_self ⟨66, some 1⟩ List.mem_cons_self
  cases horigin
  have hsent : item = ⟨1, 1, 66, false⟩ := (Option.some.inj hitem).symm
  rw [hsent] at hsource
  cases hsource

end Prologix
end AsynDriver
