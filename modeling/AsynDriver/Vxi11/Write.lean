import Mathlib.Data.List.Basic
import Mathlib.Tactic.Common
import AsynDriver.Library.Machine
import AsynDriver.Vxi11.Links

/-!
# `vxiWrite` of `drvVxi11.c`

The data goes out in `device_write` calls of at most `maxRecvSize` bytes, and the last of them has the
END flag.  The loop goes on as long as the instrument takes all that a call carries.

* `writeLoop` — the loop, with the answers of the instrument as a function of the number of the call
  and of the bytes that are sent.
* `WriteExact` — what the chunks of a call are, and what it reports.
* `vxiWrite_exact_iff` — a call returns and is exact, if and only if the size that the port has kept
  does not exceed what the link has announced where the data is that long, the loop has an end, and
  there is data.
* `exact_of_uniform` — where all links have announced the same size, every write of data is exact.

An answer is the last one of `clientIoCall`, which with a negative timeout repeats an RPC that times
out.
-/

namespace AsynDriver
namespace Vxi11

open Library
open Manager (AsynStatus)

/-- What comes of a `device_write` that carries `sent` bytes. -/
inductive WriteResp (sent : Nat)
  | rpcFailed (timedOut : Bool)
  | error (ioTimeout : Bool) (ifc : ClntStat)
  | accepted (size : Fin (sent + 1))
  deriving DecidableEq, Repr

def WriteResp.IsAccepted {sent : Nat} : WriteResp sent → Prop
  | .accepted _ => True
  | _ => False

/-- The instrument: its answer to call `i`. -/
abbrev Instrument := (i sent : Nat) → WriteResp sent

/-- One `device_write`: `offset` is the pointer `data`. -/
structure Chunk where
  lid : Int
  offset : Nat
  payload : List UInt8
  endw : Bool
  accepted : Nat
  deriving DecidableEq, Repr

/-- The variables of the loop; `data` is the pointer, as an offset. -/
structure Loop where
  data : Nat
  numchars : Nat
  nWrite : Nat
  chunks : List Chunk
  deriving DecidableEq, Repr

/-- How the loop ends. -/
inductive Ending
  | rpcFailed (timedOut : Bool)
  | error (ioTimeout : Bool) (ifc : ClntStat)
  | done
  deriving DecidableEq, Repr

/-- `thisWrite` -/
def thisWrite (maxRecvSize numchars : Nat) : Nat :=
  if numchars ≤ maxRecvSize then numchars else maxRecvSize

section
variable (maxRecvSize : Nat) (lid : Int) (bytes : List UInt8)

/-- The `device_write` of a pass. -/
def Loop.chunk (w : Loop) (accepted : Nat) : Chunk where
  lid := lid
  offset := w.data
  payload := (bytes.drop w.data).take (thisWrite maxRecvSize w.numchars)
  endw := w.numchars ≤ maxRecvSize
  accepted := accepted

/-- The call has failed. -/
def Loop.fail (w : Loop) : Loop :=
  { w with chunks := w.chunks ++ [w.chunk maxRecvSize lid bytes 0] }

/-- The instrument has accepted `size` bytes of the call. -/
def Loop.accept (w : Loop) (size : Nat) : Loop where
  data := w.data + size
  numchars := w.numchars - size
  nWrite := w.nWrite + size
  chunks := w.chunks ++ [w.chunk maxRecvSize lid bytes size]

/-- At most `passes` passes of the loop, `none` if it has not come to its end. -/
def writeLoop (answers : Instrument) : Nat → Loop → Option (Loop × Ending)
  | 0, _ => none
  | passes + 1, w =>
      match answers w.chunks.length (thisWrite maxRecvSize w.numchars) with
      | .rpcFailed timedOut => some (w.fail maxRecvSize lid bytes, .rpcFailed timedOut)
      | .error ioTimeout ifc => some (w.fail maxRecvSize lid bytes, .error ioTimeout ifc)
      | .accepted size =>
          let w' := w.accept maxRecvSize lid bytes size
          if size.val = thisWrite maxRecvSize w.numchars ∧ 0 < w'.numchars then
            writeLoop answers passes w'
          else some (w', .done)

end

/-- What a call leaves behind; `nbytesTransferred` is `none` where it is not stored. -/
structure WriteResult where
  port : VxiPort
  status : AsynStatus
  nbytesTransferred : Option Nat
  chunks : List Chunk

/-- What follows the loop, or happens in it before the `break`. -/
def afterLoop (p : VxiPort) : Ending → VxiPort × AsynStatus
  | .rpcFailed timedOut => (clientCall p (if timedOut then .timedOut else .failed), .asynError)
  | .error ioTimeout ifc =>
      (if ioTimeout && p.recoverWithIFC then clientCall p ifc else p,
        if ioTimeout then .asynTimeout else .asynError)
  | .done => (p, .asynSuccess)

def Loop.start (numchars : Nat) : Loop := ⟨0, numchars, 0, []⟩

/-- `addr` is what `getAddr` gives, `passes` how often the loop may run. -/
def vxiWrite (p : VxiPort) (addr : Int) (data : List UInt8) (answers : Instrument) (passes : Nat) :
    Option WriteResult :=
  match vxiGetDevLink p addr with
  | none => some ⟨p, .asynError, none, []⟩
  | some slot =>
      if !p.isConnected || !(p.link slot).connected then some ⟨p, .asynError, none, []⟩
      else
        (writeLoop p.maxRecvSize (p.link slot).lid data answers passes (.start data.length)).map
          fun (w, ending) =>
            ⟨(afterLoop p ending).1, (afterLoop p ending).2, some w.nWrite, w.chunks⟩

/-! ## The port over its life -/

/-- `call` is an RPC of any other operation. -/
inductive Action
  | connect (addr : Int) (answers : ConnectAnswers) (createLink : CreateLink)
  | disconnect (addr : Int) (destroyed : Bool)
  | serialPoll (addr : Int) (createLink : CreateLink) (readStb : ClntStat)
  | write (addr : Int) (data : List UInt8) (answers : Instrument) (passes : Nat)
  | call (stat : ClntStat)

def step (p : VxiPort) : Action → Option VxiPort
  | .connect addr answers createLink => some (vxiConnect p addr answers createLink).1
  | .disconnect addr destroyed => some (vxiDisconnect p addr destroyed).1
  | .serialPoll addr createLink readStb => some (vxiSerialPoll p addr createLink readStb)
  | .write addr data answers passes => (vxiWrite p addr data answers passes).map WriteResult.port
  | .call stat => if p.isConnected then some (clientCall p stat) else none

def machine : Machine VxiPort Action where
  init p := ∃ isGpibLink isSingleLink recoverWithIFC,
    p = .configured isGpibLink isSingleLink recoverWithIFC
  step := step

/-- A write to `addr` goes out on this link. -/
structure InUse (p : VxiPort) (addr : Int) (link : DevLink) : Prop where
  port : p.isConnected = true
  slot : ∃ slot, vxiGetDevLink p addr = some slot ∧ p.link slot = link
  connected : link.connected = true

/-! ## What a write has to do -/

/-- The last byte of the data is in the chunk. -/
def Chunk.ContainsLast (data : List UInt8) (c : Chunk) : Prop :=
  c.offset < data.length ∧ data.length ≤ c.offset + c.payload.length

structure WriteExact (link : DevLink) (data : List UInt8) (r : WriteResult) : Prop where
  lid : ∀ c ∈ r.chunks, c.lid = link.lid
  slice : ∀ c ∈ r.chunks, ∃ n, c.payload = (data.drop c.offset).take n
  fits : ∀ c ∈ r.chunks, c.payload.length ≤ link.announced
  accepted : ∃ n, r.nbytesTransferred = some n ∧ n ≤ data.length ∧
    r.chunks.flatMap (fun c => c.payload.take c.accepted) = data.take n
  endFlag : ∀ c ∈ r.chunks, c.endw = true ↔ c.ContainsLast data

/-- The call returns, and is exact. -/
def WritesExactly (p : VxiPort) (addr : Int) (link : DevLink) (data : List UInt8)
    (answers : Instrument) : Prop :=
  ∃ passes r, vxiWrite p addr data answers passes = some r ∧ WriteExact link data r

/-! ## One pass -/

section
variable {maxRecvSize : Nat} {lid : Int} {bytes : List UInt8} {answers : Instrument} {w w' : Loop}
  {ending : Ending}

theorem thisWrite_eq_min (maxRecvSize numchars : Nat) :
    thisWrite maxRecvSize numchars = min numchars maxRecvSize := by
  unfold thisWrite
  split <;> omega

theorem thisWrite_zero (numchars : Nat) : thisWrite 0 numchars = 0 := by
  rw [thisWrite_eq_min, Nat.min_zero]

/-- Whether the data is empty or not, every pass but one of empty data has something to send. -/
structure Inv (maxRecvSize : Nat) (lid : Int) (bytes : List UInt8) (w : Loop) : Prop where
  sum : w.data + w.numchars = bytes.length
  nWrite : w.nWrite = w.data
  accepted : w.chunks.flatMap (fun c => c.payload.take c.accepted) = bytes.take w.data
  chunk : ∀ c ∈ w.chunks, c.lid = lid ∧
    c.offset ≤ bytes.length ∧ (bytes ≠ [] → c.offset < bytes.length) ∧
    c.payload = (bytes.drop c.offset).take (thisWrite maxRecvSize (bytes.length - c.offset)) ∧
    (c.endw = true ↔ bytes.length - c.offset ≤ maxRecvSize)

theorem inv_start : Inv maxRecvSize lid bytes (.start bytes.length) where
  sum := Nat.zero_add _
  nWrite := rfl
  accepted := rfl
  chunk := by
    intro c hc
    cases hc

/-- What the loop has at its top. -/
def AtTop (bytes : List UInt8) (w : Loop) : Prop := bytes ≠ [] → 0 < w.numchars

theorem Inv.accept (hw : Inv maxRecvSize lid bytes w) (htop : AtTop bytes w) {size : Nat}
    (hsize : size ≤ thisWrite maxRecvSize w.numchars) :
    Inv maxRecvSize lid bytes (w.accept maxRecvSize lid bytes size) := by
  have hsum := hw.sum
  have hle := hsize
  rw [thisWrite_eq_min] at hle
  have hrest : bytes.length - w.data = w.numchars := by omega
  refine ⟨?_, ?_, ?_, ?_⟩
  · simp only [Loop.accept]
    omega
  · simp only [Loop.accept, hw.nWrite]
  · simp only [Loop.accept, Loop.chunk, List.flatMap_append, hw.accepted, List.flatMap_cons,
      List.flatMap_nil, List.append_nil, List.take_take, Nat.min_eq_left hsize]
    exact List.take_add.symm
  · intro c hc
    rcases List.mem_append.mp hc with hc | hc
    · exact hw.chunk c hc
    · rw [List.mem_singleton] at hc
      subst hc
      have hoffset : bytes ≠ [] → w.data < bytes.length := by
        intro hne
        have hpos := htop hne
        omega
      refine ⟨rfl, ?_, hoffset, ?_, ?_⟩
      · simp only [Loop.chunk]
        omega
      · simp only [Loop.chunk, hrest]
      · simp only [Loop.chunk, hrest, decide_eq_true_eq]

/-! ## The loop -/

/-- A pass ends the loop, or the instrument has taken all that was sent and there is more. -/
theorem pass_cases {passes : Nat}
    (hrun : writeLoop maxRecvSize lid bytes answers (passes + 1) w = some (w', ending)) :
    ∃ size ≤ thisWrite maxRecvSize w.numchars,
      w' = w.accept maxRecvSize lid bytes size ∨
        0 < (w.accept maxRecvSize lid bytes size).numchars ∧
          writeLoop maxRecvSize lid bytes answers passes (w.accept maxRecvSize lid bytes size) =
            some (w', ending) := by
  simp only [writeLoop] at hrun
  split at hrun
  · cases hrun
    exact ⟨0, Nat.zero_le _, Or.inl rfl⟩
  · cases hrun
    exact ⟨0, Nat.zero_le _, Or.inl rfl⟩
  · next size _ =>
      refine ⟨size.val, Nat.le_of_lt_succ size.isLt, ?_⟩
      split at hrun
      · next hmore => exact Or.inr ⟨hmore.2, hrun⟩
      · cases hrun
        exact Or.inl rfl

theorem inv_of_writeLoop {passes : Nat} (hw : Inv maxRecvSize lid bytes w)
    (htop : AtTop bytes w)
    (hrun : writeLoop maxRecvSize lid bytes answers passes w = some (w', ending)) :
    Inv maxRecvSize lid bytes w' := by
  induction passes generalizing w with
  | zero => cases hrun
  | succ passes ih =>
      obtain ⟨size, hsize, rfl | ⟨hmore, hrest⟩⟩ := pass_cases hrun
      · exact hw.accept htop hsize
      · exact ih (hw.accept htop hsize) (fun _ => hmore) hrest

theorem chunks_subset {passes : Nat}
    (hrun : writeLoop maxRecvSize lid bytes answers passes w = some (w', ending)) :
    w.chunks ⊆ w'.chunks := by
  induction passes generalizing w with
  | zero => cases hrun
  | succ passes ih =>
      obtain ⟨size, -, rfl | ⟨-, hrest⟩⟩ := pass_cases hrun
      · exact List.subset_append_left _ _
      · exact List.Subset.trans (List.subset_append_left _ _) (ih hrest)

/-- The call of the first pass is made whatever comes of it. -/
theorem first_chunk {passes : Nat}
    (hrun : writeLoop maxRecvSize lid bytes answers passes w = some (w', ending)) :
    ∃ size, w.chunk maxRecvSize lid bytes size ∈ w'.chunks := by
  cases passes with
  | zero => cases hrun
  | succ passes =>
      obtain ⟨size, -, rfl | ⟨-, hrest⟩⟩ := pass_cases hrun
      · exact ⟨size, List.mem_append_right _ (List.mem_singleton_self _)⟩
      · exact ⟨size, chunks_subset hrest (List.mem_append_right _ (List.mem_singleton_self _))⟩

/-! ## Its end -/

variable (lid bytes answers) in
/-- Every pass but the last one sends some of the data. -/
theorem returns_of_pos (hpos : maxRecvSize ≠ 0) (passes : Nat) :
    ∀ w : Loop, w.numchars ≤ passes →
      ∃ r, writeLoop maxRecvSize lid bytes answers (passes + 1) w = some r := by
  induction passes with
  | zero =>
      intro w hle
      simp only [writeLoop]
      split
      · exact ⟨_, rfl⟩
      · exact ⟨_, rfl⟩
      · rw [if_neg (by simp only [Loop.accept]; omega)]
        exact ⟨_, rfl⟩
  | succ passes ih =>
      intro w hle
      rw [writeLoop]
      split
      · exact ⟨_, rfl⟩
      · exact ⟨_, rfl⟩
      · next size _ =>
          dsimp only
          split
          · next hmore =>
              apply ih
              have hall := hmore.1
              have hrest := hmore.2
              have hmin := thisWrite_eq_min maxRecvSize w.numchars
              simp only [Loop.accept] at hrest ⊢
              omega
          · exact ⟨_, rfl⟩

variable (lid bytes) in
/-- With no size, nothing can be sent, and only a call that fails ends the loop. -/
theorem not_returns_of_zero (hzero : maxRecvSize = 0)
    (haccepts : ∀ i, (answers i 0).IsAccepted) (passes : Nat) :
    ∀ w : Loop, 0 < w.numchars → writeLoop maxRecvSize lid bytes answers passes w = none := by
  subst hzero
  induction passes with
  | zero =>
      intro w _
      rfl
  | succ passes ih =>
      intro w hpos
      have hanswer : (answers w.chunks.length (thisWrite 0 w.numchars)).IsAccepted := by
        rw [thisWrite_zero]
        exact haccepts _
      rw [writeLoop]
      split
      · next hresp =>
          rw [hresp] at hanswer
          exact hanswer.elim
      · next hresp =>
          rw [hresp] at hanswer
          exact hanswer.elim
      · next size _ =>
          have hnone := thisWrite_zero w.numchars
          have hsize : size.val = 0 := by omega
          have hrest : 0 < (w.accept 0 lid bytes size).numchars := by
            simp only [Loop.accept]
            omega
          dsimp only
          rw [if_pos ⟨by omega, hrest⟩]
          exact ih _ hrest

variable (lid bytes) in
/-- The first call that fails ends a loop that cannot send anything. -/
theorem returns_of_zero (hzero : maxRecvSize = 0) {i : Nat}
    (hfails : ¬ (answers i 0).IsAccepted) (passes : Nat) :
    ∀ w : Loop, w.chunks.length + passes = i →
      ∃ r, writeLoop maxRecvSize lid bytes answers (passes + 1) w = some r := by
  subst hzero
  induction passes with
  | zero =>
      intro w hlength
      have hanswer : ¬ (answers w.chunks.length (thisWrite 0 w.numchars)).IsAccepted := by
        rw [thisWrite_zero, show w.chunks.length = i from hlength]
        exact hfails
      rw [writeLoop]
      split
      · exact ⟨_, rfl⟩
      · exact ⟨_, rfl⟩
      · next hresp =>
          rw [hresp] at hanswer
          exact absurd trivial hanswer
  | succ passes ih =>
      intro w hlength
      rw [writeLoop]
      split
      · exact ⟨_, rfl⟩
      · exact ⟨_, rfl⟩
      · dsimp only
        split
        · apply ih
          simp only [Loop.accept, List.length_append, List.length_singleton]
          omega
        · exact ⟨_, rfl⟩

end

/-! ## A call -/

section
variable {p : VxiPort} {addr : Int} {link : DevLink} {data : List UInt8} {answers : Instrument}

theorem vxiWrite_inUse (hlink : InUse p addr link) (passes : Nat) :
    vxiWrite p addr data answers passes =
      (writeLoop p.maxRecvSize link.lid data answers passes (.start data.length)).map
        fun (w, ending) =>
          ⟨(afterLoop p ending).1, (afterLoop p ending).2, some w.nWrite, w.chunks⟩ := by
  obtain ⟨slot, hslot, rfl⟩ := hlink.slot
  simp only [vxiWrite, hslot, hlink.port, hlink.connected, Bool.not_true, Bool.or_self,
    Bool.false_eq_true, if_false]

theorem exists_loop {passes : Nat} {r : WriteResult} (hlink : InUse p addr link)
    (hrun : vxiWrite p addr data answers passes = some r) :
    ∃ w ending, writeLoop p.maxRecvSize link.lid data answers passes (.start data.length) =
      some (w, ending) ∧ r.chunks = w.chunks ∧ r.nbytesTransferred = some w.nWrite := by
  rw [vxiWrite_inUse hlink, Option.map_eq_some_iff] at hrun
  obtain ⟨⟨w, ending⟩, hloop, rfl⟩ := hrun
  exact ⟨w, ending, hloop, rfl, rfl⟩

/-- The first `device_write` of a call. -/
theorem first_chunk_of_write {passes : Nat} {r : WriteResult} (hlink : InUse p addr link)
    (hrun : vxiWrite p addr data answers passes = some r) :
    ∃ c ∈ r.chunks, c.offset = 0 ∧ c.payload.length = min data.length p.maxRecvSize ∧
      (c.endw = true ↔ data.length ≤ p.maxRecvSize) := by
  obtain ⟨w, ending, hloop, hchunks, -⟩ := exists_loop hlink hrun
  obtain ⟨size, hmem⟩ := first_chunk hloop
  refine ⟨_, hchunks ▸ hmem, rfl, ?_, ?_⟩
  · simp only [Loop.chunk, Loop.start, thisWrite_eq_min, List.drop_zero, List.length_take]
    omega
  · simp only [Loop.chunk, Loop.start]
    exact decide_eq_true_iff

/-- What the port has kept suits the link and the data. -/
structure SizeFits (p : VxiPort) (link : DevLink) (data : List UInt8) (answers : Instrument) :
    Prop where
  nonempty : data ≠ []
  size : min data.length p.maxRecvSize ≤ link.announced
  ends : p.maxRecvSize = 0 → ∃ i, ¬ (answers i 0).IsAccepted

theorem exact_of_inv {r : WriteResult} {w : Loop} (hfits : SizeFits p link data answers)
    (hw : Inv p.maxRecvSize link.lid data w) (hchunks : r.chunks = w.chunks)
    (hcount : r.nbytesTransferred = some w.nWrite) : WriteExact link data r := by
  have hsum := hw.sum
  have hsize := hfits.size
  have hlength : ∀ c ∈ w.chunks, c.offset < data.length ∧
      c.payload.length = min (data.length - c.offset) p.maxRecvSize := by
    intro c hc
    obtain ⟨-, -, hlt, hpayload, -⟩ := hw.chunk c hc
    refine ⟨hlt hfits.nonempty, ?_⟩
    rw [hpayload, thisWrite_eq_min, List.length_take, List.length_drop]
    omega
  refine ⟨?_, ?_, ?_, ?_, ?_⟩
  · intro c hc
    rw [hchunks] at hc
    exact (hw.chunk c hc).1
  · intro c hc
    rw [hchunks] at hc
    exact ⟨_, (hw.chunk c hc).2.2.2.1⟩
  · intro c hc
    rw [hchunks] at hc
    have hlen := (hlength c hc).2
    omega
  · refine ⟨w.nWrite, hcount, ?_, ?_⟩
    · rw [hw.nWrite]
      omega
    · rw [hchunks, hw.accepted, hw.nWrite]
  · intro c hc
    rw [hchunks] at hc
    obtain ⟨hlt, hlen⟩ := hlength c hc
    rw [(hw.chunk c hc).2.2.2.2]
    -- a chunk carries all that is left, or exactly `maxRecvSize` bytes of it
    constructor
    · intro hle
      exact ⟨hlt, by omega⟩
    · intro hlast
      have hle := hlast.2
      omega

theorem returns (hlink : InUse p addr link)
    (hends : p.maxRecvSize = 0 → ∃ i, ¬ (answers i 0).IsAccepted) :
    ∃ passes r, vxiWrite p addr data answers passes = some r := by
  have hloop : ∃ passes r,
      writeLoop p.maxRecvSize link.lid data answers passes (.start data.length) = some r := by
    by_cases hzero : p.maxRecvSize = 0
    · obtain ⟨i, hfails⟩ := hends hzero
      obtain ⟨r, hrun⟩ := returns_of_zero link.lid data hzero hfails i
        (.start data.length) (Nat.zero_add i)
      exact ⟨_, r, hrun⟩
    · obtain ⟨r, hrun⟩ := returns_of_pos link.lid data answers hzero data.length (.start data.length) (Nat.le_refl _)
      exact ⟨_, r, hrun⟩
  obtain ⟨passes, r, hrun⟩ := hloop
  exact ⟨passes, _, by rw [vxiWrite_inUse hlink, hrun, Option.map_some]⟩

theorem exact_of_fits (hlink : InUse p addr link) (hfits : SizeFits p link data answers) :
    WritesExactly p addr link data answers := by
  have hreturns : ∃ passes r, vxiWrite p addr data answers passes = some r :=
    returns hlink hfits.ends
  obtain ⟨passes, r, hrun⟩ := hreturns
  obtain ⟨w, ending, hloop, hchunks, hcount⟩ := exists_loop hlink hrun
  have htop : AtTop data (.start data.length) := List.length_pos_iff.mpr
  exact ⟨passes, r, hrun, exact_of_inv hfits (inv_of_writeLoop inv_start htop hloop) hchunks hcount⟩

theorem not_exact_of_lt (hlink : InUse p addr link)
    (hlt : link.announced < min data.length p.maxRecvSize) :
    ¬ WritesExactly p addr link data answers := by
  rintro ⟨passes, r, hrun, hexact⟩
  obtain ⟨c, hc, -, hlength, -⟩ := first_chunk_of_write hlink hrun
  have hfits := hexact.fits c hc
  omega

/-- A call on a link in use returns and is exact, if and only if the size of the port suits it. -/
theorem vxiWrite_exact_iff (p : VxiPort) (addr : Int) (link : DevLink) (data : List UInt8)
    (answers : Instrument) (hlink : InUse p addr link) :
    WritesExactly p addr link data answers ↔ SizeFits p link data answers := by
  constructor
  · intro hwrites
    have hsize : min data.length p.maxRecvSize ≤ link.announced := by
      by_contra hlt
      exact not_exact_of_lt hlink (Nat.not_le.mp hlt) hwrites
    obtain ⟨passes, r, hrun, hexact⟩ := hwrites
    obtain ⟨c, hc, hoffset, hlength, hend⟩ := first_chunk_of_write hlink hrun
    have hdata : data ≠ [] := by
      -- without data the only chunk is empty, and has the END flag
      rintro rfl
      have hlast := (hexact.endFlag c hc).mp (hend.mpr (Nat.zero_le _))
      exact absurd hlast.1 (Nat.not_lt_zero _)
    refine ⟨hdata, hsize, ?_⟩
    intro hzero
    by_contra haccepts
    push Not at haccepts
    obtain ⟨w, ending, hloop, -, -⟩ := exists_loop hlink hrun
    have hnever := not_returns_of_zero link.lid data hzero haccepts passes
      (.start data.length) (List.length_pos_iff.mpr hdata)
    rw [hnever] at hloop
    cases hloop
  · exact exact_of_fits hlink

/-! ## Links of one size -/

/-- Every link that the step creates announces `m`. -/
def AnnouncesOnly (m : Nat) (_ : VxiPort) : Action → Prop
  | .connect _ answers createLink => answers.createLink.Announces m ∧ createLink.Announces m
  | .serialPoll _ createLink _ => createLink.Announces m
  | _ => True

instance (m : Nat) (p : VxiPort) (a : Action) : Decidable (AnnouncesOnly m p a) := by
  cases a <;> unfold AnnouncesOnly <;> infer_instance

theorem Uniform.afterLoop {m : Nat} (hp : Uniform m p) (ending : Ending) :
    Uniform m (afterLoop p ending).1 := by
  cases ending with
  | rpcFailed timedOut => exact hp.clientCall _
  | error ioTimeout ifc =>
      simp only [Vxi11.afterLoop]
      split
      · exact hp.clientCall ifc
      · exact hp
  | done => exact hp

theorem Uniform.write {m passes : Nat} {r : WriteResult} (hp : Uniform m p)
    (hrun : vxiWrite p addr data answers passes = some r) : Uniform m r.port := by
  unfold vxiWrite at hrun
  split at hrun
  · cases hrun
    exact hp
  split at hrun
  · cases hrun
    exact hp
  · rw [Option.map_eq_some_iff] at hrun
    obtain ⟨⟨w, ending⟩, -, rfl⟩ := hrun
    exact hp.afterLoop ending

theorem Uniform.step {m : Nat} {a : Action} {p' : VxiPort} (hp : Uniform m p)
    (hok : AnnouncesOnly m p a) (hstep : step p a = some p') : Uniform m p' := by
  cases a with
  | connect addr answers createLink =>
      cases hstep
      exact hp.connect hok.1 hok.2
  | disconnect addr destroyed =>
      cases hstep
      exact hp.disconnect addr destroyed
  | serialPoll addr createLink readStb =>
      cases hstep
      exact hp.serialPoll hok
  | write addr data answers passes =>
      obtain ⟨r, hrun, rfl⟩ := Option.map_eq_some_iff.mp hstep
      exact hp.write hrun
  | call stat =>
      simp only [Vxi11.step] at hstep
      split at hstep
      · cases hstep
        exact hp.clientCall stat
      · cases hstep

theorem uniform_of_reachable {m : Nat} (hreach : machine.Reachable (AnnouncesOnly m) p) :
    Uniform m p := by
  refine hreach.invariant ?_ ?_
  · rintro p ⟨isGpibLink, isSingleLink, recoverWithIFC, rfl⟩
    exact uniform_configured isGpibLink isSingleLink recoverWithIFC
  · intro p a p' hok hp hstep
    exact hp.step hok hstep

/-- As long as all links announce the same size, every write of data is exact, whatever the
instrument answers. -/
theorem exact_of_uniform {m : Nat} (hm : m ≠ 0)
    (hreach : machine.Reachable (AnnouncesOnly m) p) (hlink : InUse p addr link)
    (hdata : data ≠ []) : WritesExactly p addr link data answers := by
  obtain ⟨slot, -, rfl⟩ := hlink.slot
  obtain ⟨hannounced, hsize⟩ := (uniform_of_reachable hreach).link slot hlink.connected
  refine exact_of_fits hlink ⟨hdata, ?_, ?_⟩
  · rw [hannounced, hsize]
    exact Nat.min_le_right _ _
  · intro hzero
    exact absurd (hsize.symm.trans hzero) hm

end

/-! ## Runs -/

/-- An instrument that takes all it gets. -/
def takesAll : Instrument := fun _ sent => .accepted ⟨sent, Nat.lt_succ_self sent⟩

def serverAnswers : ConnectAnswers := ⟨true, .created 1 4096 0, .error .asynError, .error .asynError, none⟩

/-- The server and the device at address 5 announce 4096 bytes. -/
def uniformRun : List Action :=
  [.connect (-1) serverAnswers .error, .connect 5 serverAnswers (.created 2 4096 0)]

/-- 10000 bytes to the device. -/
theorem exact_of_uniform_gateway :
    ∃ p, InUse p 5 ⟨2, true, 4096⟩ ∧
      WritesExactly p 5 ⟨2, true, 4096⟩ (List.replicate 10000 0) takesAll := by
  obtain ⟨p, hreach, hvalue⟩ : ∃ p, machine.Reachable (AnnouncesOnly 4096) p ∧
      (p.isConnected, vxiGetDevLink p 5, p.link (.primary 5)) =
        (true, some (.primary 5), ⟨2, true, 4096⟩) :=
    Machine.exists_reachable_of_execGuarded (M := machine)
      (fun p => (p.isConnected, vxiGetDevLink p 5, p.link (.primary 5)))
      (fun p a (hcheck : decide (AnnouncesOnly 4096 p a) = true) => of_decide_eq_true hcheck)
      (s := .configured false false false) uniformRun ⟨false, false, false, rfl⟩ rfl
  simp only [Prod.mk.injEq] at hvalue
  obtain ⟨hconnected, hslot, hlink⟩ := hvalue
  have hinUse : InUse p 5 ⟨2, true, 4096⟩ := ⟨hconnected, ⟨.primary 5, hslot, hlink⟩, rfl⟩
  refine ⟨p, hinUse, exact_of_uniform (Nat.succ_ne_zero 4095) hreach hinUse ?_⟩
  exact List.ne_nil_of_length_pos (by rw [List.length_replicate]; exact Nat.succ_pos _)

/-- The server announces 4096 bytes, and the device at address 5 announces 1024. -/
def gatewayRun : List Action :=
  [.connect (-1) serverAnswers .error, .connect 5 serverAnswers (.created 2 1024 0)]

def gateway : VxiPort :=
  (machine.exec (.configured false false false) gatewayRun).getD (.configured false false false)

theorem inUse_gateway : InUse gateway 5 ⟨2, true, 1024⟩ :=
  ⟨rfl, ⟨.primary 5, rfl, rfl⟩, rfl⟩

/-- 1000 bytes to the device. -/
theorem vxiWrite_exact_example :
    WritesExactly gateway 5 ⟨2, true, 1024⟩ (List.replicate 1000 0) takesAll := by
  refine (vxiWrite_exact_iff gateway 5 ⟨2, true, 1024⟩ (List.replicate 1000 0) takesAll
    inUse_gateway).mpr ⟨?_, ?_, ?_⟩
  · exact List.ne_nil_of_length_pos (by rw [List.length_replicate]; exact Nat.succ_pos _)
  · rw [List.length_replicate]
    exact Nat.le_trans (Nat.min_le_left _ _) (by decide)
  · intro hzero
    cases hzero

/-- 2048 bytes to the device go out in one `device_write`. -/
theorem exceeds_device_size :
    machine.Reachable Machine.Unguarded gateway ∧ InUse gateway 5 ⟨2, true, 1024⟩ ∧
      ¬ WritesExactly gateway 5 ⟨2, true, 1024⟩ (List.replicate 2048 0) takesAll := by
  have hexec : machine.exec (.configured false false false) gatewayRun = some gateway := rfl
  refine ⟨Machine.reachable_of_exec ⟨false, false, false, rfl⟩ hexec, inUse_gateway, ?_⟩
  apply not_exact_of_lt inUse_gateway
  rw [List.length_replicate]
  decide

end Vxi11
end AsynDriver
