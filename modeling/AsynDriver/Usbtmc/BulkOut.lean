import Mathlib.Algebra.Group.Int.Defs
import Mathlib.Algebra.Group.Nat.Defs
import Mathlib.Data.List.Basic
import Mathlib.Logic.Function.Iterate
import Mathlib.Tactic.Common

/-!
# `asynOctetWrite` of `drvAsynUSBTMC.c`

The data are sent in messages of at most `BULK_IO_PAYLOAD_CAPACITY` bytes, the last of them with the
output EOS and the EOM bit.  Each message is built in `buf`: a header of 12 bytes, the payload, and
zeros up to a multiple of 4.

* `Buf` — the memory of `buf`, with the end of what has been written.
* `pass` — the body of the loop; `asynOctetWrite` — the whole call.
* `WriteExact` — what the messages of a call have to be.
* `writeExact_iff` — they are that exactly without an output EOS.

The loop copies the EOS behind the place of the data, and then copies the data with the length of both,
so that what lies behind the data in the memory of the caller takes the place of the EOS.

The memory behind `data` is a function without end; `dataEnd` is the end of what has been read.  Left
out: the statistics, and `disconnectIfGone`.
-/

namespace AsynDriver
namespace Usbtmc

/-- `MESSAGE_ID_DEV_DEP_MSG_OUT` -/
def messageIdDevDepMsgOut : UInt8 := 1

/-- `BULK_IO_HEADER_SIZE` -/
def bulkIoHeaderSize : Nat := 12

/-- `BULK_IO_PAYLOAD_CAPACITY` -/
def bulkIoPayloadCapacity : Nat := 1024 * 1024

/-- `BULK_IO_OUTPUT_EOS_CAPACITY` -/
def bulkIoOutputEosCapacity : Nat := 2

/-- `sizeof pdpvt->buf` -/
def bufSize : Nat := bulkIoHeaderSize + bulkIoPayloadCapacity + bulkIoOutputEosCapacity

/-- `bTag` is 1 at first and is never 0. -/
structure BTag where
  val : UInt8
  ne_zero : val ≠ 0
  deriving DecidableEq

def BTag.next (t : BTag) : BTag where
  val := if t.val = 0xFF then 1 else t.val + 1
  ne_zero := by
    have hwrap : ∀ v : UInt8, v ≠ 0 → (if v = 0xFF then 1 else v + 1) ≠ 0 := by
      intro v hv
      split
      · decide
      · next hne =>
          intro hzero
          apply hne
          have hlast : v = 0 - 1 := by rw [← hzero, UInt8.add_sub_cancel]
          rw [hlast]
          rfl
    exact hwrap t.val t.ne_zero

/-- `outputEOS` and `outputEOSlen`; `setOutputEos` takes no longer one. -/
structure OutputEos where
  bytes : List UInt8
  le : bytes.length ≤ bulkIoOutputEosCapacity

/-! ## The buffer -/

/-- `top` is the end of what has been written in the call. -/
structure Buf where
  mem : Nat → UInt8
  top : Nat

def Buf.set (b : Buf) (i : Nat) (v : UInt8) : Buf :=
  ⟨Function.update b.mem i v, max b.top (i + 1)⟩

/-- `memcpy(&buf[i], src, n)` -/
def Buf.copy (b : Buf) (i : Nat) (src : Nat → UInt8) (n : Nat) : Buf :=
  ⟨fun j => if i ≤ j ∧ j < i + n then src (j - i) else b.mem j,
    if n = 0 then b.top else max b.top (i + n)⟩

/-- `while (pkSend & 0x3) buf[pkSend++] = 0;` with the number of rounds that are left. -/
def Buf.pad (b : Buf) (pkSend : Nat) : Nat → Buf × Nat
  | 0 => (b, pkSend)
  | rounds + 1 =>
      if pkSend % 4 = 0 then (b, pkSend) else (b.set pkSend 0).pad (pkSend + 1) rounds

/-! ## The call -/

/-- The answer of `libusb_bulk_transfer`: all is sent, less is sent, or an error with its text. -/
inductive Answer
  | complete
  | short (pkSent : Nat)
  | failed (message : String)
  deriving DecidableEq, Repr

/-- The state of the loop.  `data` is how far the pointer has moved; `dataEnd` is the end of what has
been read through it; `sent` has the messages. -/
structure Loop where
  buf : Buf
  bTag : BTag
  data : Nat
  numchars : Nat
  nbytesTransferred : Nat
  dataEnd : Nat
  sent : List (List UInt8)

variable (eos : OutputEos) (src : Nat → UInt8)

/-- The EOM byte, the EOS behind the place of the data, and `nSend`. -/
def Loop.begin (w : Loop) : Buf × Nat :=
  if bulkIoPayloadCapacity < w.numchars then (w.buf.set 8 0, bulkIoPayloadCapacity)
  else
    let nSend := w.numchars
    ((w.buf.set 8 1).copy (bulkIoHeaderSize + nSend) (fun i => eos.bytes.getD i 0) eos.bytes.length,
      nSend + eos.bytes.length)

/-- The rest of the header and the payload. -/
def Loop.fill (w : Loop) : Buf :=
  let (b, nSend) := w.begin eos
  let b := b.set 1 w.bTag.val
  let b := b.set 2 (~~~w.bTag.val)
  let b := b.set 4 (UInt8.ofNat nSend)
  let b := b.set 5 (UInt8.ofNat (nSend >>> 8))
  let b := b.set 6 (UInt8.ofNat (nSend >>> 16))
  let b := b.set 7 (UInt8.ofNat (nSend >>> 24))
  b.copy bulkIoHeaderSize (fun i => src (w.data + i)) nSend

/-- The padded message, and `pkSend`. -/
def Loop.message (w : Loop) : Buf × Nat :=
  (w.fill eos src).pad ((w.begin eos).2 + bulkIoHeaderSize) 3

/-- The body of the loop. -/
def pass (w : Loop) (answer : Answer) : Except String Loop :=
  let (b, pkSend) := w.message eos src
  let nSend := (w.begin eos).2
  match answer with
  | .failed message => .error ("Bulk transfer failed: " ++ message)
  | .short pkSent =>
      .error ("Asked to send " ++ toString pkSend ++ ", actually sent " ++ toString pkSent)
  | .complete =>
      let n := if b.mem 8 &&& 0x1 ≠ 0 then nSend - eos.bytes.length else nSend
      .ok
        { buf := b
          bTag := w.bTag.next
          data := w.data + n
          numchars := w.numchars - n
          nbytesTransferred := w.nbytesTransferred + n
          dataEnd := max w.dataEnd (w.data + nSend)
          sent := w.sent ++ [(List.range pkSend).map b.mem] }

/-- `while (numchars)`, with the number of passes that are left. -/
def writeFrom (answers : Nat → Answer) : Nat → Loop → Except String Loop
  | 0, w => .ok w
  | passes + 1, w =>
      if w.numchars = 0 then .ok w
      else
        match pass eos src w (answers w.sent.length) with
        | .error message => .error message
        | .ok w' => writeFrom answers passes w'

/-- The state before the loop. -/
def Loop.start (mem : Nat → UInt8) (bTag : BTag) (numchars : Nat) : Loop where
  buf := (((((⟨mem, 0⟩ : Buf).set 0 messageIdDevDepMsgOut).set 3 0).set 9 0).set 10 0).set 11 0
  bTag := bTag
  data := 0
  numchars := numchars
  nbytesTransferred := 0
  dataEnd := 0
  sent := []

/-- Each pass sends a byte of the data at least. -/
def asynOctetWrite (mem : Nat → UInt8) (bTag : BTag) (numchars : Nat) (answers : Nat → Answer) :
    Except String Loop :=
  writeFrom eos src answers numchars (Loop.start mem bTag numchars)

/-! ## What the messages have to be -/

/-- The transfer size of the header. -/
def transferSize (m : List UInt8) : Nat :=
  (m.getD 4 0).toNat + (m.getD 5 0).toNat * 2 ^ 8 + (m.getD 6 0).toNat * 2 ^ 16 +
    (m.getD 7 0).toNat * 2 ^ 24

/-- The payload, cut out by the transfer size. -/
def payload (m : List UInt8) : List UInt8 :=
  (m.drop bulkIoHeaderSize).take (transferSize m)

def eomBit (m : List UInt8) : Prop := m.getD 8 0 &&& 0x1 ≠ 0

/-- Zeros up to the next multiple of 4. -/
structure Padded (m : List UInt8) : Prop where
  length_mod : m.length % 4 = 0
  short : m.length < bulkIoHeaderSize + transferSize m + 4
  holds : bulkIoHeaderSize + transferSize m ≤ m.length
  zeros : ∀ v ∈ m.drop (bulkIoHeaderSize + transferSize m), v = 0

structure WriteExact (bTag : BTag) (numchars : Nat) (r : Loop) : Prop where
  payloads : r.sent.flatMap payload = (List.range numchars).map src ++ eos.bytes
  tags : ∀ i m, r.sent[i]? = some m →
    m.getD 1 0 = (BTag.next^[i] bTag).val ∧ m.getD 2 0 = ~~~(BTag.next^[i] bTag).val
  eom : ∀ i m, r.sent[i]? = some m → (eomBit m ↔ i + 1 = r.sent.length)
  padded : ∀ m ∈ r.sent, Padded m
  insideBuf : r.buf.top ≤ bufSize
  insideData : r.dataEnd ≤ numchars
  transferred : r.nbytesTransferred = numchars

/-! ## The buffer after each operation -/

theorem set_mem (b : Buf) (i : Nat) (v : UInt8) (j : Nat) :
    (b.set i v).mem j = if j = i then v else b.mem j := by
  simp [Buf.set, Function.update_apply]

theorem copy_mem_of_lt {b : Buf} {i n j : Nat} {f : Nat → UInt8} (hj : j < i) :
    (b.copy i f n).mem j = b.mem j := by
  have hnot : ¬ (i ≤ j ∧ j < i + n) := by omega
  simp only [Buf.copy, if_neg hnot]

theorem copy_mem_add {b : Buf} {i n j : Nat} {f : Nat → UInt8} (hj : j < n) :
    (b.copy i f n).mem (i + j) = f j := by
  have hin : i ≤ i + j ∧ i + j < i + n := by omega
  simp only [Buf.copy, if_pos hin, Nat.add_sub_cancel_left]

theorem set_top_le {b : Buf} {i t : Nat} {v : UInt8} (hb : b.top ≤ t) (hi : i < t) :
    (b.set i v).top ≤ t :=
  Nat.max_le.mpr ⟨hb, hi⟩

theorem copy_top_le {b : Buf} {i n t : Nat} {f : Nat → UInt8} (hb : b.top ≤ t) (hi : i + n ≤ t) :
    (b.copy i f n).top ≤ t := by
  simp only [Buf.copy]
  split
  · exact hb
  · exact Nat.max_le.mpr ⟨hb, hi⟩

/-- Three rounds come to the next multiple of 4. -/
theorem pad_spec (rounds : Nat) : ∀ (b : Buf) (pkSend : Nat),
    pkSend % 4 = 0 ∨ 4 ≤ pkSend % 4 + rounds →
      (b.pad pkSend rounds).2 = (pkSend + 3) / 4 * 4 ∧
        (∀ i, (b.pad pkSend rounds).1.mem i =
          if pkSend ≤ i ∧ i < (pkSend + 3) / 4 * 4 then 0 else b.mem i) ∧
        ∀ t, b.top ≤ t → (pkSend + 3) / 4 * 4 ≤ t → (b.pad pkSend rounds).1.top ≤ t := by
  induction rounds with
  | zero =>
      intro b pkSend hrounds
      have hend : (pkSend + 3) / 4 * 4 = pkSend := by omega
      rw [hend]
      refine ⟨rfl, ?_, fun t hb _ => hb⟩
      intro i
      have hnot : ¬ (pkSend ≤ i ∧ i < pkSend) := by omega
      rw [if_neg hnot]
      rfl
  | succ rounds ih =>
      intro b pkSend hrounds
      rw [Buf.pad]
      by_cases hmod : pkSend % 4 = 0
      · have hend : (pkSend + 3) / 4 * 4 = pkSend := by omega
        rw [if_pos hmod, hend]
        refine ⟨rfl, ?_, fun t hb _ => hb⟩
        intro i
        have hnot : ¬ (pkSend ≤ i ∧ i < pkSend) := by omega
        rw [if_neg hnot]
      · rw [if_neg hmod]
        have hend : (pkSend + 1 + 3) / 4 * 4 = (pkSend + 3) / 4 * 4 := by omega
        have hlt : pkSend < (pkSend + 3) / 4 * 4 := by omega
        obtain ⟨hcount, hmem, htop⟩ := ih (b.set pkSend 0) (pkSend + 1) (by omega)
        rw [hend] at hcount hmem htop
        refine ⟨hcount, ?_, ?_⟩
        · intro i
          rw [hmem, set_mem]
          by_cases hi : i = pkSend
          · have hin : pkSend ≤ i ∧ i < (pkSend + 3) / 4 * 4 := by omega
            simp [hi, hlt]
          · have hiff : (pkSend + 1 ≤ i ∧ i < (pkSend + 3) / 4 * 4) ↔
                (pkSend ≤ i ∧ i < (pkSend + 3) / 4 * 4) := by omega
            simp only [hiff, if_neg hi]
        · intro t hb ht
          exact htop t (set_top_le hb (Nat.lt_of_lt_of_le hlt ht)) ht

/-! ## One message -/

variable {eos : OutputEos} {src : Nat → UInt8} {w w' : Loop}

/-- The bytes of the data that one message takes, and those that it adds to them. -/
def Loop.chunk (w : Loop) : Nat :=
  if bulkIoPayloadCapacity < w.numchars then bulkIoPayloadCapacity else w.numchars

def Loop.extra (eos : OutputEos) (w : Loop) : Nat :=
  if bulkIoPayloadCapacity < w.numchars then 0 else eos.bytes.length

theorem chunk_le (w : Loop) : w.chunk ≤ bulkIoPayloadCapacity ∧ w.chunk ≤ w.numchars := by
  unfold Loop.chunk
  split <;> omega

theorem begin_snd : (w.begin eos).2 = w.chunk + w.extra eos := by
  unfold Loop.begin Loop.chunk Loop.extra
  split <;> rfl

theorem begin_mem_eight :
    (w.begin eos).1.mem 8 = if bulkIoPayloadCapacity < w.numchars then 0 else 1 := by
  unfold Loop.begin
  split
  · exact set_mem _ _ _ _
  · have hbelow : 8 < bulkIoHeaderSize + w.numchars := by
      unfold bulkIoHeaderSize
      omega
    simp only [copy_mem_of_lt hbelow, set_mem, if_true]

/-- The header: the two tags, the transfer size and the EOM byte. -/
theorem fill_mem_header (i : Nat) (hi : i < bulkIoHeaderSize) :
    (w.fill eos src).mem i =
      if i = 7 then UInt8.ofNat ((w.begin eos).2 >>> 24)
      else if i = 6 then UInt8.ofNat ((w.begin eos).2 >>> 16)
      else if i = 5 then UInt8.ofNat ((w.begin eos).2 >>> 8)
      else if i = 4 then UInt8.ofNat (w.begin eos).2
      else if i = 2 then ~~~w.bTag.val
      else if i = 1 then w.bTag.val
      else (w.begin eos).1.mem i := by
  unfold Loop.fill
  rw [copy_mem_of_lt hi]
  simp only [set_mem]

theorem fill_mem_payload (i : Nat) (hi : i < (w.begin eos).2) :
    (w.fill eos src).mem (bulkIoHeaderSize + i) = src (w.data + i) := by
  unfold Loop.fill
  exact copy_mem_add hi

/-- `pkSend` after the padding. -/
def Loop.padded (eos : OutputEos) (w : Loop) : Nat :=
  ((w.begin eos).2 + bulkIoHeaderSize + 3) / 4 * 4

theorem message_spec :
    (w.message eos src).2 = w.padded eos ∧
      (∀ i, (w.message eos src).1.mem i =
        if (w.begin eos).2 + bulkIoHeaderSize ≤ i ∧ i < w.padded eos then 0
        else (w.fill eos src).mem i) ∧
      ∀ t, (w.fill eos src).top ≤ t → w.padded eos ≤ t → (w.message eos src).1.top ≤ t := by
  apply pad_spec
  omega

theorem message_mem_of_lt {i : Nat} (hi : i < (w.begin eos).2 + bulkIoHeaderSize) :
    (w.message eos src).1.mem i = (w.fill eos src).mem i := by
  have hnot : ¬ ((w.begin eos).2 + bulkIoHeaderSize ≤ i ∧ i < w.padded eos) := by omega
  rw [message_spec.2.1, if_neg hnot]

theorem message_mem_eight :
    (w.message eos src).1.mem 8 = if bulkIoPayloadCapacity < w.numchars then 0 else 1 := by
  have hheader : 8 < bulkIoHeaderSize := by decide
  rw [message_mem_of_lt (by omega), fill_mem_header 8 hheader]
  exact begin_mem_eight

/-- The bytes that go over the bus. -/
def Loop.bytes (eos : OutputEos) (src : Nat → UInt8) (w : Loop) : List UInt8 :=
  (List.range (w.message eos src).2).map (w.message eos src).1.mem

theorem bytes_length : (w.bytes eos src).length = w.padded eos := by
  rw [Loop.bytes, List.length_map, List.length_range, message_spec.1]

theorem bytes_getD {i : Nat} (hi : i < (w.begin eos).2 + bulkIoHeaderSize) :
    (w.bytes eos src).getD i 0 = (w.fill eos src).mem i := by
  have hlt : i < (w.message eos src).2 := by
    rw [message_spec.1, Loop.padded]
    omega
  rw [Loop.bytes, List.getD_eq_getElem?_getD, List.getElem?_map, List.getElem?_range hlt,
    Option.map_some, Option.getD_some, message_mem_of_lt hi]

theorem bytes_header {i : Nat} (hi : i < bulkIoHeaderSize) :
    (w.bytes eos src).getD i 0 = (w.fill eos src).mem i :=
  bytes_getD (by omega)

/-- Four bytes hold a number below `2 ^ 32`. -/
theorem ofNat_bytes {n : Nat} (hn : n < 2 ^ 32) :
    (UInt8.ofNat n).toNat + (UInt8.ofNat (n >>> 8)).toNat * 2 ^ 8 +
      (UInt8.ofNat (n >>> 16)).toNat * 2 ^ 16 + (UInt8.ofNat (n >>> 24)).toNat * 2 ^ 24 = n := by
  simp only [UInt8.toNat_ofNat', Nat.shiftRight_eq_div_pow]
  omega

theorem begin_snd_lt : (w.begin eos).2 < 2 ^ 32 := by
  have hchunk := (chunk_le w).1
  have heos := eos.le
  have hextra : w.extra eos ≤ eos.bytes.length := by
    unfold Loop.extra
    split <;> omega
  rw [begin_snd]
  unfold bulkIoPayloadCapacity at hchunk
  unfold bulkIoOutputEosCapacity at heos
  omega

theorem transferSize_bytes : transferSize (w.bytes eos src) = (w.begin eos).2 := by
  have hheader : ∀ i ≤ 7, i < bulkIoHeaderSize := by
    intro i hi
    unfold bulkIoHeaderSize
    omega
  unfold transferSize
  rw [bytes_header (hheader 4 (by omega)), bytes_header (hheader 5 (by omega)),
    bytes_header (hheader 6 (by omega)), bytes_header (hheader 7 (by omega)),
    fill_mem_header 4 (hheader 4 (by omega)), fill_mem_header 5 (hheader 5 (by omega)),
    fill_mem_header 6 (hheader 6 (by omega)), fill_mem_header 7 (hheader 7 (by omega))]
  exact ofNat_bytes begin_snd_lt

/-- The payload is copied from the memory of the caller as far as `nSend` goes. -/
theorem payload_bytes :
    payload (w.bytes eos src) =
      (List.range (w.begin eos).2).map fun i => src (w.data + i) := by
  unfold payload
  rw [transferSize_bytes]
  apply List.ext_getElem?
  intro i
  by_cases hi : i < (w.begin eos).2
  · have hlt : bulkIoHeaderSize + i < (w.message eos src).2 := by
      rw [message_spec.1, Loop.padded]
      omega
    rw [List.getElem?_take_of_lt hi, List.getElem?_drop, Loop.bytes, List.getElem?_map,
      List.getElem?_range hlt, List.getElem?_map, List.getElem?_range hi, Option.map_some,
      Option.map_some, message_mem_of_lt (by omega), fill_mem_payload i hi]
  · rw [List.getElem?_eq_none, List.getElem?_eq_none]
    · simpa using Nat.le_of_not_lt hi
    · rw [List.length_take]
      omega

theorem tags_bytes :
    (w.bytes eos src).getD 1 0 = w.bTag.val ∧ (w.bytes eos src).getD 2 0 = ~~~w.bTag.val := by
  have hone : 1 < bulkIoHeaderSize := by decide
  have htwo : 2 < bulkIoHeaderSize := by decide
  rw [bytes_header hone, bytes_header htwo, fill_mem_header 1 hone, fill_mem_header 2 htwo]
  exact ⟨rfl, rfl⟩

theorem eomBit_bytes : eomBit (w.bytes eos src) ↔ w.numchars ≤ bulkIoPayloadCapacity := by
  have height : 8 < bulkIoHeaderSize := by decide
  unfold eomBit
  rw [bytes_header height, ← message_mem_of_lt (by omega), message_mem_eight]
  by_cases hlast : bulkIoPayloadCapacity < w.numchars
  · rw [if_pos hlast]
    simp only [Nat.not_le.mpr hlast, iff_false]
    decide
  · rw [if_neg hlast]
    simp only [Nat.le_of_not_lt hlast, iff_true]
    decide

theorem padded_bytes : Padded (w.bytes eos src) where
  length_mod := by
    rw [bytes_length, Loop.padded]
    omega
  short := by
    rw [bytes_length, transferSize_bytes, Loop.padded]
    omega
  holds := by
    rw [bytes_length, transferSize_bytes, Loop.padded]
    omega
  zeros := by
    intro v hv
    rw [transferSize_bytes] at hv
    obtain ⟨i, hi, rfl⟩ := List.getElem_of_mem hv
    rw [List.length_drop, bytes_length] at hi
    have hin : (w.begin eos).2 + bulkIoHeaderSize ≤ bulkIoHeaderSize + (w.begin eos).2 + i ∧
        bulkIoHeaderSize + (w.begin eos).2 + i < w.padded eos := by omega
    rw [List.getElem_drop]
    simp only [Loop.bytes, List.getElem_map, List.getElem_range]
    rw [message_spec.2.1, if_pos hin]

/-! ## The loop -/

variable (eos src) in
/-- The state after a pass whose transfer is complete. -/
def Loop.next (w : Loop) : Loop where
  buf := (w.message eos src).1
  bTag := w.bTag.next
  data := w.data + w.chunk
  numchars := w.numchars - w.chunk
  nbytesTransferred := w.nbytesTransferred + w.chunk
  dataEnd := max w.dataEnd (w.data + (w.chunk + w.extra eos))
  sent := w.sent ++ [w.bytes eos src]

/-- The EOM byte takes the EOS off `nSend` again. -/
theorem pass_complete : pass eos src w .complete = .ok (w.next eos src) := by
  have hsent : (if (w.message eos src).1.mem 8 &&& 0x1 ≠ 0 then
      (w.begin eos).2 - eos.bytes.length else (w.begin eos).2) = w.chunk := by
    rw [message_mem_eight, begin_snd]
    unfold Loop.extra
    by_cases hlast : bulkIoPayloadCapacity < w.numchars
    · simp [hlast]
    · simp [hlast]
  simp only [pass, hsent]
  rw [begin_snd]
  rfl

variable (eos src) in
/-- What every pass keeps holds after a call whose transfers are complete, and all characters are
sent. -/
theorem writeFrom_complete {P : Loop → Prop}
    (hpass : ∀ w, P w → w.numchars ≠ 0 → P (w.next eos src)) {answers : Nat → Answer}
    (hanswers : ∀ i, answers i = .complete) (passes : Nat) :
    ∀ w, P w → w.numchars ≤ passes →
      ∃ r, writeFrom eos src answers passes w = .ok r ∧ P r ∧ r.numchars = 0 := by
  induction passes with
  | zero =>
      intro w hw hle
      exact ⟨w, rfl, hw, Nat.le_zero.mp hle⟩
  | succ passes ih =>
      intro w hw hle
      by_cases hdone : w.numchars = 0
      · exact ⟨w, by rw [writeFrom, if_pos hdone], hw, hdone⟩
      · have hchunk : 0 < w.chunk := by
          unfold Loop.chunk bulkIoPayloadCapacity
          split <;> omega
        have hle' : (w.next eos src).numchars ≤ passes := by
          change w.numchars - w.chunk ≤ passes
          omega
        obtain ⟨r, hrun, hr⟩ := ih _ (hpass w hw hdone) hle'
        refine ⟨r, ?_, hr⟩
        rw [writeFrom, if_neg hdone, hanswers, pass_complete]
        exact hrun

/-! ## With an output EOS -/

variable (eos src) in
/-- The last message reads as many bytes behind the data as the EOS has. -/
theorem reads_behind_data (mem : Nat → UInt8) (bTag : BTag) {numchars : Nat} (hpos : numchars ≠ 0)
    {answers : Nat → Answer} (hanswers : ∀ i, answers i = .complete) :
    ∃ r, asynOctetWrite eos src mem bTag numchars answers = .ok r ∧
      numchars + eos.bytes.length ≤ r.dataEnd := by
  obtain ⟨r, hrun, ⟨-, hread⟩, hdone⟩ :=
    writeFrom_complete eos src
      (P := fun w => w.data + w.numchars = numchars ∧
        (w.numchars = 0 → numchars + eos.bytes.length ≤ w.dataEnd))
      (by
        rintro w ⟨hsum, -⟩ hmore
        have hchunk := (chunk_le w).2
        constructor
        · change w.data + w.chunk + (w.numchars - w.chunk) = numchars
          omega
        · intro hlast
          change w.numchars - w.chunk = 0 at hlast
          change numchars + eos.bytes.length ≤ max w.dataEnd (w.data + (w.chunk + w.extra eos))
          have hextra : w.extra eos = eos.bytes.length := by
            unfold Loop.extra
            unfold Loop.chunk at hlast
            split
            · next hlt =>
                rw [if_pos hlt] at hlast
                omega
            · rfl
          omega)
      hanswers numchars (Loop.start mem bTag numchars)
      ⟨Nat.zero_add _, fun hzero => absurd hzero hpos⟩ (Nat.le_refl _)
  exact ⟨r, hrun, hread hdone⟩

/-! ## Without an output EOS -/

/-- After some messages of a call for `total` characters. -/
structure Inv (src : Nat → UInt8) (bTag : BTag) (total : Nat) (w : Loop) : Prop where
  sum : w.data + w.numchars = total
  payloads : w.sent.flatMap payload = (List.range w.data).map src
  tag : w.bTag = BTag.next^[w.sent.length] bTag
  tags : ∀ i m, w.sent[i]? = some m →
    m.getD 1 0 = (BTag.next^[i] bTag).val ∧ m.getD 2 0 = ~~~(BTag.next^[i] bTag).val
  eom : ∀ i m, w.sent[i]? = some m → (eomBit m ↔ w.numchars = 0 ∧ i + 1 = w.sent.length)
  padded : ∀ m ∈ w.sent, Padded m
  insideBuf : w.buf.top ≤ bulkIoHeaderSize + bulkIoPayloadCapacity
  insideData : w.dataEnd ≤ w.data
  transferred : w.nbytesTransferred = w.data

theorem inv_start (mem : Nat → UInt8) (bTag : BTag) (numchars : Nat) :
    Inv src bTag numchars (Loop.start mem bTag numchars) where
  sum := Nat.zero_add _
  payloads := rfl
  tag := rfl
  tags i m hm := by
    simp [Loop.start] at hm
  eom i m hm := by
    simp [Loop.start] at hm
  padded m hm := by
    simp [Loop.start] at hm
  insideBuf := by
    have hroom : ∀ i ≤ 11, i < bulkIoHeaderSize + bulkIoPayloadCapacity := by
      intro i hi
      unfold bulkIoHeaderSize bulkIoPayloadCapacity
      omega
    apply set_top_le _ (hroom 11 (by omega))
    apply set_top_le _ (hroom 10 (by omega))
    apply set_top_le _ (hroom 9 (by omega))
    apply set_top_le _ (hroom 3 (by omega))
    exact set_top_le (Nat.zero_le _) (hroom 0 (by omega))
  insideData := Nat.le_refl _
  transferred := rfl

/-- Without EOS no message goes beyond header and capacity, a multiple of 4. -/
theorem message_top_le (hempty : eos.bytes = [])
    (hw : w.buf.top ≤ bulkIoHeaderSize + bulkIoPayloadCapacity) :
    (w.message eos src).1.top ≤ bulkIoHeaderSize + bulkIoPayloadCapacity := by
  have hchunk := (chunk_le w).1
  have hextra : w.extra eos = 0 := by
    unfold Loop.extra
    split
    · rfl
    · simp [hempty]
  have hsize : (w.begin eos).2 ≤ bulkIoPayloadCapacity := by
    rw [begin_snd, hextra]
    exact hchunk
  have hroom : ∀ i ≤ 11, i < bulkIoHeaderSize + bulkIoPayloadCapacity := by
    intro i hi
    unfold bulkIoHeaderSize bulkIoPayloadCapacity
    omega
  have hbegin : (w.begin eos).1.top ≤ bulkIoHeaderSize + bulkIoPayloadCapacity := by
    unfold Loop.begin
    split
    · exact set_top_le hw (hroom 8 (by omega))
    · next hlast =>
        apply copy_top_le (set_top_le hw (hroom 8 (by omega)))
        rw [hempty]
        simp only [List.length_nil]
        omega
  apply message_spec.2.2
  · unfold Loop.fill
    apply copy_top_le _ (Nat.add_le_add_left hsize _)
    apply set_top_le _ (hroom 7 (by omega))
    apply set_top_le _ (hroom 6 (by omega))
    apply set_top_le _ (hroom 5 (by omega))
    apply set_top_le _ (hroom 4 (by omega))
    apply set_top_le _ (hroom 2 (by omega))
    exact set_top_le hbegin (hroom 1 (by omega))
  · unfold Loop.padded
    unfold bulkIoHeaderSize bulkIoPayloadCapacity at *
    omega

theorem getElem?_concat {α : Type*} {l : List α} {x y : α} {i : Nat}
    (hget : (l ++ [x])[i]? = some y) :
    l[i]? = some y ∧ i < l.length ∨ i = l.length ∧ y = x := by
  rw [List.getElem?_append] at hget
  split at hget
  · next hlt => exact .inl ⟨hget, hlt⟩
  · next hge =>
      have hi : i - l.length = 0 := by
        by_contra hne
        rw [List.getElem?_eq_none (by simp; omega)] at hget
        cases hget
      rw [hi] at hget
      cases hget
      exact .inr ⟨by omega, rfl⟩

theorem Inv.next {bTag : BTag} {total : Nat} (hempty : eos.bytes = [])
    (hw : Inv src bTag total w) (hmore : w.numchars ≠ 0) :
    Inv src bTag total (w.next eos src) := by
  have hchunk := (chunk_le w).2
  have hextra : w.extra eos = 0 := by
    unfold Loop.extra
    split
    · rfl
    · simp [hempty]
  have hsize : (w.begin eos).2 = w.chunk := by
    rw [begin_snd, hextra, Nat.add_zero]
  constructor
  · change w.data + w.chunk + (w.numchars - w.chunk) = total
    have hsum := hw.sum
    omega
  · change (w.sent ++ [w.bytes eos src]).flatMap payload = (List.range (w.data + w.chunk)).map src
    rw [List.flatMap_append, hw.payloads, List.flatMap_singleton, payload_bytes, hsize,
      List.range_add, List.map_append, List.map_map]
    rfl
  · change w.bTag.next = BTag.next^[(w.sent ++ [w.bytes eos src]).length] bTag
    rw [List.length_append, List.length_singleton, Function.iterate_succ_apply', ← hw.tag]
  · intro i m hm
    rcases getElem?_concat hm with ⟨hm, -⟩ | ⟨rfl, rfl⟩
    · exact hw.tags i m hm
    · rw [← hw.tag]
      exact tags_bytes
  · intro i m hm
    change eomBit m ↔ w.numchars - w.chunk = 0 ∧ i + 1 = (w.sent ++ [w.bytes eos src]).length
    rw [List.length_append, List.length_singleton]
    rcases getElem?_concat hm with ⟨hm, hi⟩ | ⟨rfl, rfl⟩
    · -- there were characters left when this message was sent
      rw [hw.eom i m hm]
      constructor
      · rintro ⟨hnone, -⟩
        exact absurd hnone hmore
      · rintro ⟨-, hlast⟩
        omega
    · rw [eomBit_bytes]
      have hrest : w.numchars - w.chunk = 0 ↔ w.numchars ≤ bulkIoPayloadCapacity := by
        unfold Loop.chunk
        split <;> omega
      rw [hrest]
      exact (and_iff_left rfl).symm
  · intro m hm
    rcases List.mem_append.mp hm with hm | hm
    · exact hw.padded m hm
    · rw [List.mem_singleton.mp hm]
      exact padded_bytes
  · exact message_top_le hempty hw.insideBuf
  · change max w.dataEnd (w.data + (w.chunk + w.extra eos)) ≤ w.data + w.chunk
    have hread := hw.insideData
    omega
  · change w.nbytesTransferred + w.chunk = w.data + w.chunk
    rw [hw.transferred]

/-! ## When a call is exact -/

/-- A call whose transfers are all complete succeeds, and is exact if and only if there is no output
EOS. -/
theorem writeExact_iff (eos : OutputEos) (src mem : Nat → UInt8) (bTag : BTag) (numchars : Nat)
    (answers : Nat → Answer) (hanswers : ∀ i, answers i = .complete) :
    ∃ r, asynOctetWrite eos src mem bTag numchars answers = .ok r ∧
      (WriteExact eos src bTag numchars r ↔ eos.bytes = []) := by
  by_cases hempty : eos.bytes = []
  · obtain ⟨r, hrun, hr, hdone⟩ := writeFrom_complete eos src
      (P := Inv src bTag numchars) (fun _ hw hmore => hw.next hempty hmore) hanswers numchars _
      (inv_start mem bTag numchars) (Nat.le_refl _)
    have hdata : r.data = numchars := by
      have hsum := hr.sum
      omega
    refine ⟨r, hrun, fun _ => hempty, fun _ => ?_⟩
    exact
      { payloads := by rw [hr.payloads, hdata, hempty, List.append_nil]
        tags := hr.tags
        eom := by
          intro i m hm
          rw [hr.eom i m hm]
          exact and_iff_right hdone
        padded := hr.padded
        insideBuf := Nat.le_trans hr.insideBuf (Nat.le_add_right _ _)
        insideData := hdata ▸ hr.insideData
        transferred := hr.transferred.trans hdata }
  · have hlength : eos.bytes.length ≠ 0 := by
      intro hzero
      exact hempty (List.length_eq_zero_iff.mp hzero)
    by_cases hpos : numchars = 0
    · -- nothing is sent, not even the EOS
      subst hpos
      refine ⟨_, rfl, ?_, fun h => absurd h hempty⟩
      intro hexact
      exact hexact.payloads.symm
    · obtain ⟨r, hrun, hread⟩ := reads_behind_data eos src mem bTag hpos hanswers
      refine ⟨r, hrun, ?_, fun h => absurd h hempty⟩
      intro hexact
      have hinside := hexact.insideData
      omega

/-! ## Calls -/

/-- `*IDN?`, and behind it the NUL and the next string of the program. -/
def idn : Nat → UInt8 := fun i => [42, 73, 68, 78, 63, 0, 79, 75].getD i 0

def noEos : OutputEos := ⟨[], by decide⟩

def lineFeed : OutputEos := ⟨[10], by decide⟩

def firstTag : BTag := ⟨1, by decide⟩

theorem writeExact_iff_example :
    ∃ r, asynOctetWrite noEos idn (fun _ => 0) firstTag 5 (fun _ => .complete) = .ok r ∧
      (WriteExact noEos idn firstTag 5 r ↔ noEos.bytes = []) :=
  writeExact_iff noEos idn (fun _ => 0) firstTag 5 (fun _ => .complete) (fun _ => rfl)

/-- The LF is overwritten with the NUL behind the command. -/
theorem eos_overwritten :
    (asynOctetWrite lineFeed idn (fun _ => 0) firstTag 5 (fun _ => .complete)).toOption.map
        Loop.sent =
      some [[1, 1, 254, 0, 6, 0, 0, 0, 1, 0, 0, 0, 42, 73, 68, 78, 63, 0, 0, 0]] ∧
      ¬ ∀ eos src mem bTag numchars answers, (∀ i, answers i = Answer.complete) →
        ∃ r, asynOctetWrite eos src mem bTag numchars answers = .ok r ∧
          WriteExact eos src bTag numchars r := by
  constructor
  · decide
  · intro hexact
    obtain ⟨r, hrun, hr⟩ := hexact lineFeed idn (fun _ => 0) firstTag 5 (fun _ => .complete)
      (fun _ => rfl)
    have hread : (asynOctetWrite lineFeed idn (fun _ => 0) firstTag 5
        (fun _ => .complete)).toOption.map Loop.dataEnd = some 6 := by decide
    rw [hrun] at hread
    have hend : r.dataEnd = 6 := Option.some.inj hread
    have hinside := hr.insideData
    omega

end Usbtmc
end AsynDriver
