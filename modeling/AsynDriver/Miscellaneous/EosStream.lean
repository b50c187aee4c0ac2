import AsynDriver.Miscellaneous.InterposeEos
import Mathlib.Data.List.Infix

/-!
# The stream that `asynInterposeEos` delivers

A lower driver that hands a byte stream over in non-empty reads without `ASYN_EOM_END`, and any
sequence of `readIt` calls.

* `CallDelivers` — what a call has to do: it delivers what it consumes, with the terminator put back
  where it reports `ASYN_EOM_EOS`, and it reports that at the first complete terminator.
* `SplitEos` — the previous call has stopped between the two characters of a terminator.
* `Drained`, `LoopOutcome` — one lemma for the character, the buffer and the loop each.
* `deliversStream_iff_noSplit` — all calls deliver the stream exactly if none starts inside a
  terminator.
-/

namespace AsynDriver
namespace Miscellaneous

open Manager (AsynStatus)

/-- A read of the lower driver that hands over a part of the stream. -/
structure Chunk where
  bytes : List UInt8
  cnt : Bool
  nonempty : bytes ≠ []
  size : bytes.length ≤ inputSize

def Chunk.read (c : Chunk) : LowerRead := ⟨.asynSuccess, c.bytes, ⟨c.cnt, false, false⟩⟩

/-- The arguments of a `readIt` call, with the memory that the caller's pointer points into. -/
structure ReadCall where
  maxchars : Nat
  memory : Int → UInt8
  positive : 0 < maxchars
  size : maxchars < sizeRange

/-- A terminator of 0, 1 or 2 characters. -/
structure Terminator where
  chars : List UInt8
  length_le : chars.length ≤ 2

/-- The layer after `asynInterposeEosConfig` and `setInputEos`. -/
def configuredInput (eos : Terminator) (processEosOut : Bool) : EosPvt :=
  (setInputEos (asynInterposeEosConfig true processEosOut) eos.chars).2

/-- The part of the stream that has not been consumed: the rest of `inBuf`, and what the lower driver
still has. -/
def pending (peosPvt : EosPvt) (lower : List LowerRead) : List UInt8 :=
  peosPvt.inBuf ++ lower.flatMap LowerRead.bytes

/-- The bytes a call delivers, with the terminator put back. -/
def ReadResult.reinserted (r : ReadResult) (eos : List UInt8) : List UInt8 :=
  r.delivered ++ if r.eomReason.eos then eos else []

/-- A call delivers exactly what it consumes.  `message` are the bytes consumed before it since the
last terminator. -/
structure CallDelivers (eos message : List UInt8) (consumed : List UInt8) (r : ReadResult) : Prop where
  status : r.status = .asynSuccess
  exact : r.reinserted eos = consumed
  first : ∀ k < (message ++ consumed).length, eos ≠ [] → ¬eos <:+ (message ++ consumed).take k
  ends : r.eomReason.eos = true ↔ eos ≠ [] ∧ eos <:+ message ++ consumed

/-- A property of every call of a sequence, as long as the lower driver answers. -/
def AlongCalls (eos : List UInt8)
    (P : List UInt8 → EosPvt → List LowerRead → ReadCall → Prop) :
    List UInt8 → EosPvt → List LowerRead → List ReadCall → Prop
  | _, _, _, [] => True
  | message, peosPvt, lower, c :: calls =>
      P message peosPvt lower c ∧
        ∀ r peosPvt' lower', readIt peosPvt lower c.memory c.maxchars = some (r, peosPvt', lower') →
          AlongCalls eos P (if r.eomReason.eos then [] else message ++ r.reinserted eos) peosPvt'
            lower' calls

/-- The call consumes a prefix of the stream and delivers it. -/
def Delivers (eos message : List UInt8) (peosPvt : EosPvt) (lower : List LowerRead)
    (c : ReadCall) : Prop :=
  ∀ r peosPvt' lower', readIt peosPvt lower c.memory c.maxchars = some (r, peosPvt', lower') →
    ∃ consumed, pending peosPvt lower = consumed ++ pending peosPvt' lower' ∧
      CallDelivers eos message consumed r

/-- The call starts between the two characters of a terminator: the first has been consumed and
delivered by the call before it. -/
def SplitEos (peosPvt : EosPvt) (lower : List LowerRead) : Prop :=
  peosPvt.eosInLen = 2 ∧ peosPvt.eosInMatch = 1 ∧
    (pending peosPvt lower).head? = some peosPvt.eosIn.2

/-- Every call of a sequence delivers its part of the stream. -/
def DeliversStream (eos : Terminator) (processEosOut : Bool) (chunks : List Chunk)
    (calls : List ReadCall) : Prop :=
  AlongCalls eos.chars (Delivers eos.chars) [] (configuredInput eos processEosOut)
    (chunks.map Chunk.read) calls

/-- No call of a sequence starts between the two characters of a terminator. -/
def NoSplit (eos : Terminator) (processEosOut : Bool) (chunks : List Chunk)
    (calls : List ReadCall) : Prop :=
  AlongCalls eos.chars (fun _ peosPvt lower _ => ¬SplitEos peosPvt lower) []
    (configuredInput eos processEosOut) (chunks.map Chunk.read) calls

/-! ## The matcher -/

/-- `eosInMatch` after the bytes of a message that is not complete. -/
def matchLength : List UInt8 → List UInt8 → Nat
  | [a, _], m => if m.getLast? = some a then 1 else 0
  | _, _ => 0

/-- No prefix of a message ends with the terminator. -/
def NoEos (eos m : List UInt8) : Prop :=
  ∀ k ≤ m.length, eos ≠ [] → ¬eos <:+ m.take k

/-- The layer is configured for this terminator. -/
def EosIs (eosIn : UInt8 × UInt8) (eosInLen : Nat) (eos : List UInt8) : Prop :=
  eosInLen = eos.length ∧ eos.length ≤ 2 ∧ eosChars eosIn eosInLen = eos

variable {eosIn : UInt8 × UInt8} {eosInLen maxchars : Nat} {eos m d : List UInt8} {c : UInt8}
  {k : Cursor}

theorem noEos_nil : NoEos eos [] := by
  intro k _ hne hsuffix
  rw [List.take_nil] at hsuffix
  exact hne (List.suffix_nil.mp hsuffix)

theorem NoEos.snoc (hno : NoEos eos m) (hsuffix : ¬(eos ≠ [] ∧ eos <:+ m ++ [c])) :
    NoEos eos (m ++ [c]) := by
  intro k hk hne
  rw [List.length_append, List.length_singleton] at hk
  by_cases hlast : k = m.length + 1
  · subst hlast
    rw [List.take_of_length_le (by simp)]
    exact fun h => hsuffix ⟨hne, h⟩
  · have hle : k ≤ m.length := by omega
    rw [List.take_append_of_le_length hle]
    exact hno k hle hne

theorem NoEos.before (hno : NoEos eos m) {k : Nat} (hk : k < (m ++ [c]).length) (hne : eos ≠ []) :
    ¬eos <:+ (m ++ [c]).take k := by
  rw [List.length_append, List.length_singleton] at hk
  have hle : k ≤ m.length := by omega
  rw [List.take_append_of_le_length hle]
  exact hno k hle hne

/-- A terminator of two characters ends a word exactly if they are its last two. -/
theorem pair_suffix_iff {a b : UInt8} : [a, b] <:+ m ++ [c] ↔ m.getLast? = some a ∧ c = b := by
  constructor
  · rintro ⟨l, hl⟩
    have hsplit : (l ++ [a]) ++ [b] = m ++ [c] := by simpa using hl
    obtain ⟨hm, hc⟩ := List.append_inj' hsplit rfl
    refine ⟨?_, ?_⟩
    · rw [← hm]
      simp
    · simpa using hc.symm
  · rintro ⟨hlast, rfl⟩
    obtain ⟨l, rfl⟩ := List.getLast?_eq_some_iff.mp hlast
    exact ⟨l, by simp⟩

theorem single_suffix_iff {a : UInt8} : [a] <:+ m ++ [c] ↔ c = a := by
  constructor
  · rintro ⟨l, hl⟩
    obtain ⟨-, hc⟩ := List.append_inj' hl rfl
    simpa using hc.symm
  · rintro rfl
    exact List.suffix_append m [c]

/-! ## The cursor -/

/-- The first `n` bytes at `data` as the caller passed it. -/
def Cursor.bytes (k : Cursor) (n : Nat) : List UInt8 :=
  (List.range n).map fun i : Nat => k.memory i

theorem Cursor.bytes_store {offset : Int} {x : UInt8} {n : Nat} (hpos : n ≤ k.data + offset) :
    (k.store offset x).bytes n = k.bytes n := by
  unfold Cursor.bytes Cursor.store
  refine List.map_congr_left fun i hi => ?_
  have hlt : i < n := List.mem_range.mp hi
  have hne : (i : Int) ≠ k.data + offset := by omega
  exact Function.update_of_ne hne _ _

theorem Cursor.bytes_take (hdata : k.data = d.length) (hbytes : k.bytes d.length = d) :
    (k.take c).bytes (d ++ [c]).length = d ++ [c] := by
  have hold : (k.store 0 c).bytes d.length = d := by
    rw [Cursor.bytes_store (by omega), hbytes]
  have hnew : (k.store 0 c).memory d.length = c := by
    show Function.update k.memory (k.data + 0) c d.length = c
    rw [hdata, Int.add_zero, Function.update_self]
  show (k.store 0 c).bytes (d ++ [c]).length = d ++ [c]
  rw [List.length_append, List.length_singleton]
  unfold Cursor.bytes at hold ⊢
  rw [List.range_succ, List.map_append, hold, List.map_singleton, hnew]

/-- The loop's variables after the bytes `d` of this call, where `m` is the message so far. -/
structure ScanOk (eos m d : List UInt8) (k : Cursor) : Prop where
  nRead : k.nRead = d.length
  data : k.data = d.length
  bytes : k.bytes d.length = d
  eosInMatch : k.eosInMatch = matchLength eos m

/-- A character that does not complete a terminator. -/
theorem scanChar_of_not_suffix (maxchars : Nat) (his : EosIs eosIn eosInLen eos) (hok : ScanOk eos m d k)
    (hsuffix : ¬(eos ≠ [] ∧ eos <:+ m ++ [c])) :
    ∃ k', scanChar eosIn eosInLen maxchars k c =
        (k', if maxchars ≤ d.length + 1 then some .cnt else none) ∧
      ScanOk eos (m ++ [c]) (d ++ [c]) k' := by
  obtain ⟨hlen, hle, hchars⟩ := his
  have hbytes := Cursor.bytes_take (c := c) hok.data hok.bytes
  have hread : (k.take c).nRead = (d ++ [c]).length := by simp [Cursor.take, hok.nRead]
  have hdata : (k.take c).data = (d ++ [c]).length := by simp [Cursor.take, hok.data]
  have hmatch : (k.take c).eosInMatch = matchLength eos m := hok.eosInMatch
  have hcount : (k.take c).nRead = d.length + 1 := by simp [Cursor.take, hok.nRead]
  have hmore : ∀ x, (if maxchars ≤ (k.take c).nRead then
        ({ k.take c with eosInMatch := x }, some Stop.cnt)
        else ({ k.take c with eosInMatch := x }, none)) =
      ({ k.take c with eosInMatch := x },
        if maxchars ≤ d.length + 1 then some Stop.cnt else none) := by
    intro x
    rw [hcount]
    split <;> rfl
  match eos, hlen, hchars, hle with
  | [], hlen, _, _ =>
      subst hlen
      refine ⟨k.take c, ?_, hread, hdata, hbytes, hmatch⟩
      have h := hmore (k.take c).eosInMatch
      simpa [scanChar] using h
  | [a], hlen, hchars, _ =>
      subst hlen
      have ha : eosIn.1 = a := by simpa [eosChars] using hchars
      have hc : ¬c = a := fun h => hsuffix ⟨by simp, single_suffix_iff.mpr h⟩
      have hzero : (k.take c).eosInMatch = 0 := hmatch
      refine ⟨{ k.take c with eosInMatch := 0 }, ?_, hread, hdata, hbytes, rfl⟩
      have h := hmore 0
      simpa [scanChar, hzero, charAt, ha, hc] using h
  | [a, b], hlen, hchars, _ =>
      subst hlen
      obtain ⟨ha, hb⟩ : eosIn.1 = a ∧ eosIn.2 = b := by simpa [eosChars] using hchars
      have hnot : ¬(m.getLast? = some a ∧ c = b) :=
        fun h => hsuffix ⟨by simp, pair_suffix_iff.mpr h⟩
      have hlast : (m ++ [c]).getLast? = some c := by simp
      by_cases hm : m.getLast? = some a
      · have hone : (k.take c).eosInMatch = 1 := by
          rw [hmatch]
          simp [matchLength, hm]
        have hcb : ¬c = b := fun h => hnot ⟨hm, h⟩
        by_cases hca : c = a
        · subst hca
          refine ⟨{ k.take c with eosInMatch := 1 }, ?_, hread, hdata, hbytes, ?_⟩
          · have h := hmore 1
            simpa [scanChar, hone, charAt, ha, hb, hcb] using h
          · simp [matchLength]
        · refine ⟨{ k.take c with eosInMatch := 0 }, ?_, hread, hdata, hbytes, ?_⟩
          · have h := hmore 0
            simpa [scanChar, hone, charAt, ha, hb, hca, hcb] using h
          · simp [matchLength, hlast, hca]
      · have hzero : (k.take c).eosInMatch = 0 := by
          rw [hmatch]
          simp [matchLength, hm]
        by_cases hca : c = a
        · subst hca
          refine ⟨{ k.take c with eosInMatch := 1 }, ?_, hread, hdata, hbytes, ?_⟩
          · have h := hmore 1
            simpa [scanChar, hzero, charAt, ha] using h
          · simp [matchLength]
        · refine ⟨{ k.take c with eosInMatch := 0 }, ?_, hread, hdata, hbytes, ?_⟩
          · have h := hmore 0
            simpa [scanChar, hzero, charAt, ha, hca] using h
          · simp [matchLength, hlast, hca]

/-- A character that completes a terminator. -/
theorem scanChar_of_suffix (maxchars : Nat) (his : EosIs eosIn eosInLen eos) (hok : ScanOk eos m d k)
    (hne : eos ≠ []) (hsuffix : eos <:+ m ++ [c]) :
    scanChar eosIn eosInLen maxchars k c = ((k.take c).retract eos.length, some .eos) := by
  obtain ⟨hlen, hle, hchars⟩ := his
  have hmatch : (k.take c).eosInMatch = matchLength eos m := hok.eosInMatch
  match eos, hlen, hchars, hle with
  | [], _, _, _ => exact absurd rfl hne
  | [a], hlen, hchars, _ =>
      subst hlen
      have ha : eosIn.1 = a := by simpa [eosChars] using hchars
      obtain rfl : c = a := single_suffix_iff.mp hsuffix
      have hzero : (k.take c).eosInMatch = 0 := hmatch
      simp [scanChar, hzero, charAt, ha]
  | [a, b], hlen, hchars, _ =>
      subst hlen
      obtain ⟨ha, hb⟩ : eosIn.1 = a ∧ eosIn.2 = b := by simpa [eosChars] using hchars
      obtain ⟨hm, rfl⟩ := pair_suffix_iff.mp hsuffix
      have hone : (k.take c).eosInMatch = 1 := by
        rw [hmatch]
        simp [matchLength, hm]
      simp [scanChar, hone, charAt, hb]

/-! ## The buffer and the loop -/

/-- What draining `inBuf` does, after the bytes `d` of this call. -/
inductive Drained (eos m d : List UInt8) (maxchars : Nat) (inBuf : List UInt8) :
    List UInt8 × Cursor × Option Stop → Prop
  | empty (k : Cursor) (hok : ScanOk eos (m ++ inBuf) (d ++ inBuf) k)
      (hno : NoEos eos (m ++ inBuf)) (hroom : (d ++ inBuf).length < maxchars) :
      Drained eos m d maxchars inBuf ([], k, none)
  | full (e rest : List UInt8) (k : Cursor) (hbuf : inBuf = e ++ rest)
      (hok : ScanOk eos (m ++ e) (d ++ e) k) (hno : NoEos eos (m ++ e))
      (hfull : (d ++ e).length = maxchars) :
      Drained eos m d maxchars inBuf (rest, k, some .cnt)
  | complete (e rest : List UInt8) (c : UInt8) (k : Cursor) (hbuf : inBuf = e ++ c :: rest)
      (hok : ScanOk eos (m ++ e) (d ++ e) k) (hno : NoEos eos (m ++ e)) (hne : eos ≠ [])
      (hsuffix : eos <:+ m ++ e ++ [c]) (hroom : (d ++ e).length < maxchars) :
      Drained eos m d maxchars inBuf (rest, (k.take c).retract eos.length, some .eos)

/-- A character in front of what is drained. -/
theorem Drained.cons {inBuf : List UInt8} {r : List UInt8 × Cursor × Option Stop}
    (hdrained : Drained eos (m ++ [c]) (d ++ [c]) maxchars inBuf r) :
    Drained eos m d maxchars (c :: inBuf) r := by
  cases hdrained with
  | empty k hok hno hroom =>
      refine .empty k ?_ ?_ ?_
      · simpa using hok
      · simpa using hno
      · simpa using hroom
  | full e rest k hbuf hok hno hfull =>
      refine .full (c :: e) rest k (by simp [hbuf]) ?_ ?_ ?_
      · simpa using hok
      · simpa using hno
      · simpa using hfull
  | complete e rest c' k hbuf hok hno hne hsuffix hroom =>
      refine .complete (c :: e) rest c' k (by simp [hbuf]) ?_ ?_ hne ?_ ?_
      · simpa using hok
      · simpa using hno
      · simpa using hsuffix
      · simpa using hroom

theorem drain_drained (inBuf : List UInt8) (his : EosIs eosIn eosInLen eos)
    (hok : ScanOk eos m d k) (hno : NoEos eos m) (hroom : d.length < maxchars) :
    Drained eos m d maxchars inBuf (drain eosIn eosInLen maxchars inBuf k) := by
  induction inBuf generalizing m d k with
  | nil =>
      refine .empty k ?_ ?_ ?_
      · simpa using hok
      · simpa using hno
      · simpa using hroom
  | cons c rest ih =>
      by_cases hsuffix : eos ≠ [] ∧ eos <:+ m ++ [c]
      · simp only [drain, scanChar_of_suffix maxchars his hok hsuffix.1 hsuffix.2]
        refine .complete [] rest c k rfl ?_ ?_ hsuffix.1 ?_ ?_
        · simpa using hok
        · simpa using hno
        · simpa using hsuffix.2
        · simpa using hroom
      · obtain ⟨k', hscan, hok'⟩ := scanChar_of_not_suffix maxchars his hok hsuffix
        have hno' := hno.snoc hsuffix
        by_cases hfull : maxchars ≤ d.length + 1
        · simp only [drain, hscan, if_pos hfull]
          refine .full [c] rest k' rfl hok' hno' ?_
          rw [List.length_append, List.length_singleton]
          omega
        · simp only [drain, hscan, if_neg hfull]
          have hroom' : (d ++ [c]).length < maxchars := by
            rw [List.length_append, List.length_singleton]
            omega
          exact (ih hok' hno' hroom').cons

/-- How the loop ends: it consumes a prefix of the stream up to `maxchars` or to the first complete
terminator. -/
inductive LoopOutcome (eos m d : List UInt8) (maxchars : Nat) (stream : List UInt8) :
    LoopEnd → Prop
  | full (e rest : List UInt8) (k : Cursor) (lower : List LowerRead)
      (hstream : stream = e ++ (rest ++ lower.flatMap LowerRead.bytes))
      (hok : ScanOk eos (m ++ e) (d ++ e) k) (hno : NoEos eos (m ++ e))
      (hfull : (d ++ e).length = maxchars) :
      LoopOutcome eos m d maxchars stream
        ⟨.asynSuccess, ⟨true, false, false⟩, rest, k, lower⟩
  | complete (e rest : List UInt8) (c : UInt8) (k : Cursor) (lower : List LowerRead)
      (hstream : stream = e ++ c :: (rest ++ lower.flatMap LowerRead.bytes))
      (hok : ScanOk eos (m ++ e) (d ++ e) k) (hno : NoEos eos (m ++ e)) (hne : eos ≠ [])
      (hsuffix : eos <:+ m ++ e ++ [c]) (hroom : (d ++ e).length < maxchars) :
      LoopOutcome eos m d maxchars stream
        ⟨.asynSuccess, ⟨false, true, false⟩, rest, (k.take c).retract eos.length, lower⟩

/-- Bytes in front of what the loop consumes. -/
theorem LoopOutcome.append {front stream : List UInt8} {e : LoopEnd}
    (houtcome : LoopOutcome eos (m ++ front) (d ++ front) maxchars stream e) :
    LoopOutcome eos m d maxchars (front ++ stream) e := by
  cases houtcome with
  | full e rest k lower hstream hok hno hfull =>
      refine .full (front ++ e) rest k lower (by simp [hstream]) ?_ ?_ ?_
      · simpa using hok
      · simpa using hno
      · simpa using hfull
  | complete e rest c k lower hstream hok hno hne hsuffix hroom =>
      refine .complete (front ++ e) rest c k lower (by simp [hstream]) ?_ ?_ hne ?_ ?_
      · simpa using hok
      · simpa using hno
      · simpa using hsuffix
      · simpa using hroom

theorem readLoop_outcome (his : EosIs eosIn eosInLen eos) {chunks : List Chunk}
    {inBuf : List UInt8} (hok : ScanOk eos m d k) (hno : NoEos eos m) (hroom : d.length < maxchars)
    {e : LoopEnd}
    (hloop : readLoop eosIn eosInLen maxchars (chunks.map Chunk.read) inBuf k .zero = some e) :
    LoopOutcome eos m d maxchars (inBuf ++ (chunks.map Chunk.read).flatMap LowerRead.bytes) e ∧
      ∃ chunks' : List Chunk, e.lower = chunks'.map Chunk.read := by
  induction chunks generalizing m d k inBuf with
  | nil =>
      have hdrained := drain_drained inBuf his hok hno hroom
      unfold readLoop at hloop
      generalize drain eosIn eosInLen maxchars inBuf k = r at hdrained hloop
      cases hdrained with
      | empty k' hok' hno' hroom' => cases hloop
      | full e rest k' hbuf hok' hno' hfull =>
          cases hloop
          exact ⟨.full e rest k' [] (by simp [hbuf]) hok' hno' hfull, [], rfl⟩
      | complete e rest c k' hbuf hok' hno' hne hsuffix hroom' =>
          cases hloop
          exact ⟨.complete e rest c k' [] (by simp [hbuf]) hok' hno' hne hsuffix hroom', [], rfl⟩
  | cons chunk chunks ih =>
      have hdrained := drain_drained inBuf his hok hno hroom
      unfold readLoop at hloop
      generalize drain eosIn eosInLen maxchars inBuf k = r at hdrained hloop
      cases hdrained with
      | empty k' hok' hno' hroom' =>
          have hnext : readLoop eosIn eosInLen maxchars (chunks.map Chunk.read) chunk.bytes k'
              .zero = some e := by
            simpa [Chunk.read, EomReason.any, EomReason.zero, chunk.nonempty] using hloop
          obtain ⟨houtcome, hlower⟩ := ih hok' hno' hroom' hnext
          refine ⟨?_, hlower⟩
          simpa [Chunk.read] using houtcome.append
      | full e rest k' hbuf hok' hno' hfull =>
          cases hloop
          refine ⟨.full e rest k' _ ?_ hok' hno' hfull, chunk :: chunks, rfl⟩
          rw [hbuf, List.append_assoc]
      | complete e rest c k' hbuf hok' hno' hne hsuffix hroom' =>
          cases hloop
          refine ⟨.complete e rest c k' _ ?_ hok' hno' hne hsuffix hroom', chunk :: chunks, rfl⟩
          rw [hbuf, List.append_assoc]
          rfl

/-! ## One call -/

/-- The layer between two calls, after the bytes `m` since the last terminator. -/
structure StreamOk (eos m : List UInt8) (peosPvt : EosPvt) : Prop where
  processEosIn : peosPvt.processEosIn = true
  eosIs : EosIs peosPvt.eosIn peosPvt.eosInLen eos
  eosInMatch : peosPvt.eosInMatch = matchLength eos m
  noEos : NoEos eos m

theorem matchLength_nil (eos : List UInt8) : matchLength eos [] = 0 := by
  match eos with
  | [] => rfl
  | [_] => rfl
  | [_, _] => rfl
  | _ :: _ :: _ :: _ => rfl

/-- `setInputEos` also resets the matcher. -/
theorem setInputEos_ok {peosPvt : EosPvt} (hprocess : peosPvt.processEosIn = true) (eos : Terminator) :
    StreamOk eos.chars [] (setInputEos peosPvt eos.chars).2 := by
  obtain ⟨chars, hlength⟩ := eos
  match chars, hlength with
  | [], hlength => exact ⟨hprocess, ⟨rfl, hlength, rfl⟩, rfl, noEos_nil⟩
  | [a], hlength => exact ⟨hprocess, ⟨rfl, hlength, rfl⟩, rfl, noEos_nil⟩
  | [a, b], hlength => exact ⟨hprocess, ⟨rfl, hlength, rfl⟩, rfl, noEos_nil⟩

theorem configuredInput_ok (eos : Terminator) (processEosOut : Bool) :
    StreamOk eos.chars [] (configuredInput eos processEosOut) :=
  setInputEos_ok rfl eos

theorem scanOk_start (peosPvt : EosPvt) (memory : Int → UInt8)
    (hmatch : peosPvt.eosInMatch = matchLength eos m) :
    ScanOk eos m [] ⟨memory, 0, 0, peosPvt.eosInMatch⟩ :=
  ⟨rfl, rfl, rfl, hmatch⟩

/-- A terminator at the end of the message that is no longer than the bytes of this call lies within
them. -/
theorem suffix_of_length {e : List UInt8} (hsuffix : eos <:+ m ++ e)
    (hlength : eos.length ≤ e.length) : eos <:+ e :=
  List.suffix_of_suffix_length_le hsuffix (List.suffix_append m e) hlength

/-- The terminator is complete and at least as many bytes have been consumed in this call: the bytes
before it are delivered. -/
theorem retract_delivered {e : List UInt8} (hok : ScanOk eos (m ++ e) e k)
    (hsuffix : eos <:+ m ++ (e ++ [c])) (hne : eos ≠ [])
    (hlength : eos.length ≤ (e ++ [c]).length) (hroom : (e ++ [c]).length < sizeRange) :
    (((k.take c).retract eos.length).bytes ((k.take c).retract eos.length).nRead) ++ eos =
        e ++ [c] ∧
      ((k.take c).retract eos.length).nRead = (e ++ [c]).length - eos.length ∧
      ((k.take c).retract eos.length).data = ((e ++ [c]).length : Int) - eos.length := by
  have hpos : 0 < eos.length := List.length_pos_iff.mpr hne
  have hread : (k.take c).nRead = (e ++ [c]).length := by simp [Cursor.take, hok.nRead]
  have hdata : (k.take c).data = (e ++ [c]).length := by simp [Cursor.take, hok.data]
  have hcount : ((k.take c).retract eos.length).nRead = (e ++ [c]).length - eos.length := by
    show ((k.take c).nRead + sizeRange - eos.length) % sizeRange = _
    rw [hread]
    have hshift : (e ++ [c]).length + sizeRange - eos.length =
        (e ++ [c]).length - eos.length + sizeRange := by omega
    rw [hshift, Nat.add_mod_right, Nat.mod_eq_of_lt (by omega)]
  have hpointer : ((k.take c).retract eos.length).data =
      ((e ++ [c]).length : Int) - eos.length := by
    show (k.take c).data - eos.length = _
    rw [hdata]
  refine ⟨?_, hcount, hpointer⟩
  have hstored : ((k.take c).retract eos.length).bytes ((e ++ [c]).length - eos.length) =
      (e ++ [c]).take ((e ++ [c]).length - eos.length) := by
    have hkeep : ((k.take c).retract eos.length).bytes ((e ++ [c]).length - eos.length) =
        (k.take c).bytes ((e ++ [c]).length - eos.length) := by
      refine Cursor.bytes_store ?_
      show (((e ++ [c]).length - eos.length : Nat) : Int) ≤ (k.take c).data - eos.length + 1
      rw [hdata]
      omega
    have hall := Cursor.bytes_take (c := c) hok.data hok.bytes
    rw [hkeep]
    conv_rhs => rw [← hall]
    unfold Cursor.bytes
    rw [List.length_map, List.length_range, ← List.map_take, List.take_range,
      Nat.min_eq_left (Nat.sub_le _ _)]
  rw [hcount, hstored]
  obtain ⟨l, hl⟩ := suffix_of_length hsuffix hlength
  have hlen : (e ++ [c]).length - eos.length = l.length := by
    rw [← hl, List.length_append]
    omega
  rw [hlen, ← hl, List.take_left]

/-- The end of `readIt`: the result of a loop. -/
theorem readIt_eq_some {peosPvt peosPvt' : EosPvt} {lower lower' : List LowerRead}
    {memory : Int → UInt8} {r : ReadResult} (hprocess : peosPvt.processEosIn = true)
    (hread : readIt peosPvt lower memory maxchars = some (r, peosPvt', lower')) :
    ∃ e, readLoop peosPvt.eosIn peosPvt.eosInLen maxchars lower peosPvt.inBuf
        ⟨memory, 0, 0, peosPvt.eosInMatch⟩ .zero = some e ∧
      r.status = e.status ∧ r.eomReason = e.eom ∧ r.nbytesTransferred = e.cursor.nRead ∧
      r.delivered = (if e.cursor.nRead < maxchars then e.cursor.store 0 0 else e.cursor).bytes
        e.cursor.nRead ∧
      peosPvt' = { peosPvt with inBuf := e.inBuf, eosInMatch := e.cursor.eosInMatch } ∧
      lower' = e.lower := by
  unfold readIt at hread
  rw [if_pos hprocess] at hread
  obtain ⟨e, hloop, heq⟩ := Option.map_eq_some_iff.mp hread
  refine ⟨e, hloop, ?_⟩
  have hstore : (if e.cursor.nRead < maxchars then e.cursor.store 0 0 else e.cursor).nRead =
      e.cursor.nRead := by
    split <;> rfl
  have hmatch : (if e.cursor.nRead < maxchars then e.cursor.store 0 0 else e.cursor).eosInMatch =
      e.cursor.eosInMatch := by
    split <;> rfl
  simp only [hstore, hmatch] at heq
  cases heq
  exact ⟨rfl, rfl, rfl, rfl, rfl, rfl⟩

/-- What a call consumes when it starts inside a terminator: the second character alone. -/
theorem suffix_snoc_short {e : List UInt8} (hsuffix : eos <:+ m ++ (e ++ [c]))
    (hle : eos.length ≤ 2) (hshort : (e ++ [c]).length < eos.length) :
    e = [] ∧ ∃ a, eos = [a, c] ∧ m.getLast? = some a := by
  rw [List.length_append, List.length_singleton] at hshort
  have he : e = [] := List.length_eq_zero_iff.mp (by omega)
  subst he
  match eos, hle with
  | [a, b], _ =>
      obtain ⟨hlast, rfl⟩ := pair_suffix_iff.mp hsuffix
      exact ⟨rfl, a, rfl, hlast⟩
  | [], _ => simp at hshort
  | [a], _ => simp at hshort

/-- The next message after a call. -/
def nextMessage (eos m : List UInt8) (r : ReadResult) : List UInt8 :=
  if r.eomReason.eos then [] else m ++ r.reinserted eos

/-- A call that does not start inside a terminator delivers what it consumes. -/
theorem call_delivers {peosPvt peosPvt' : EosPvt} {chunks : List Chunk} {lower' : List LowerRead}
    {call : ReadCall} {r : ReadResult} (hok : StreamOk eos m peosPvt)
    (hsplit : ¬SplitEos peosPvt (chunks.map Chunk.read))
    (hread : readIt peosPvt (chunks.map Chunk.read) call.memory call.maxchars =
      some (r, peosPvt', lower')) :
    (∃ consumed, pending peosPvt (chunks.map Chunk.read) = consumed ++ pending peosPvt' lower' ∧
      CallDelivers eos m consumed r) ∧
    StreamOk eos (nextMessage eos m r) peosPvt' ∧
      ∃ chunks' : List Chunk, lower' = chunks'.map Chunk.read := by
  obtain ⟨e, hloop, hstatus, heom, hcount, hdelivered, rfl, rfl⟩ :=
    readIt_eq_some hok.processEosIn hread
  have hstart := scanOk_start peosPvt call.memory hok.eosInMatch
  obtain ⟨houtcome, hlower⟩ := readLoop_outcome hok.eosIs hstart hok.noEos call.positive hloop
  cases houtcome with
  | full e rest k lower hstream hscan hno hfull =>
      rw [List.nil_append] at hscan hfull
      -- the caller's memory is full: no terminator is removed, and what is delivered is what was consumed
      have hnot : ¬k.nRead < call.maxchars := by
        rw [hscan.nRead]
        omega
      have hsame : r.reinserted eos = e := by
        rw [ReadResult.reinserted, heom, hdelivered]
        simp only [hnot, if_false, Bool.false_eq_true, List.append_nil]
        rw [hscan.nRead, hscan.bytes]
      refine ⟨⟨e, hstream, ?_⟩, ?_, hlower⟩
      · refine ⟨hstatus, hsame, fun i hi => hno i (le_of_lt hi), ?_⟩
        rw [heom]
        constructor
        · intro hfalse
          cases hfalse
        · rintro ⟨hne, hsuffix⟩
          have hwhole := hno (m ++ e).length le_rfl hne
          rw [List.take_length] at hwhole
          exact absurd hsuffix hwhole
      · have hnext : nextMessage eos m r = m ++ e := by
          unfold nextMessage
          rw [heom, hsame]
          rfl
        rw [hnext]
        exact ⟨hok.processEosIn, hok.eosIs, hscan.eosInMatch, hno⟩
  | complete e rest c k lower hstream hscan hno hne hsuffix hroom =>
      rw [List.nil_append] at hscan hroom
      rw [List.append_assoc] at hsuffix
      -- a terminator longer than what this call consumed began in an earlier call: the split is excluded
      have hlength : eos.length ≤ (e ++ [c]).length := by
        by_contra hshort
        obtain ⟨rfl, a, heq, hlast⟩ := suffix_snoc_short hsuffix hok.eosIs.2.1 (by omega)
        refine hsplit ⟨?_, ?_, ?_⟩
        · rw [hok.eosIs.1, heq]
          rfl
        · rw [hok.eosInMatch, heq]
          simp [matchLength, hlast]
        · have hchars := hok.eosIs.2.2
          rw [hok.eosIs.1, heq] at hchars
          have hsecond : peosPvt.eosIn.2 = c := by
            have := hchars
            simp [eosChars] at this
            exact this.2
          rw [hsecond]
          show (peosPvt.inBuf ++ (chunks.map Chunk.read).flatMap LowerRead.bytes).head? = some c
          rw [hstream]
          rfl
      have hsize := call.size
      have hroom' : (e ++ [c]).length < sizeRange := by
        rw [List.length_append, List.length_singleton]
        omega
      -- the terminator is complete: it is taken back out of what was delivered
      obtain ⟨hbytes, hnRead, hdata⟩ := retract_delivered hscan hsuffix hne hlength hroom'
      have hsame : r.reinserted eos = e ++ [c] := by
        rw [ReadResult.reinserted, heom, hdelivered, if_pos rfl]
        conv_rhs => rw [← hbytes]
        congr 1
        split
        · refine Cursor.bytes_store ?_
          rw [hnRead, hdata]
          omega
        · rfl
      have hconsumed : pending peosPvt (chunks.map Chunk.read) = (e ++ [c]) ++
          (rest ++ lower.flatMap LowerRead.bytes) := by
        rw [List.append_assoc]
        exact hstream
      refine ⟨⟨e ++ [c], hconsumed, ?_⟩, ?_, hlower⟩
      · refine ⟨hstatus, hsame, ?_, ?_⟩
        · intro i hi hne'
          rw [← List.append_assoc] at hi ⊢
          exact hno.before hi hne'
        · rw [heom]
          exact ⟨fun _ => ⟨hne, hsuffix⟩, fun _ => rfl⟩
      · have hnext : nextMessage eos m r = [] := by
          unfold nextMessage
          rw [heom]
          rfl
        rw [hnext]
        exact ⟨hok.processEosIn, hok.eosIs, (matchLength_nil eos).symm, noEos_nil⟩

/-- A call that starts inside a terminator returns at its second character, with a count of
`(size_t)1 - 2`. -/
theorem call_of_split {peosPvt : EosPvt} {chunks : List Chunk} (call : ReadCall)
    (hok : StreamOk eos m peosPvt) (hsplit : SplitEos peosPvt (chunks.map Chunk.read)) :
    ∃ r peosPvt' lower', readIt peosPvt (chunks.map Chunk.read) call.memory call.maxchars =
        some (r, peosPvt', lower') ∧
      (pending peosPvt (chunks.map Chunk.read)).length = 1 + (pending peosPvt' lower').length ∧
      r.nbytesTransferred = sizeRange - 1 := by
  obtain ⟨hlen, hone, hhead⟩ := hsplit
  have hstart := scanOk_start peosPvt call.memory hok.eosInMatch
  have heos : eos = [peosPvt.eosIn.1, peosPvt.eosIn.2] := by
    have hchars := hok.eosIs.2.2
    rw [hlen] at hchars
    exact hchars.symm
  have hlast : m.getLast? = some peosPvt.eosIn.1 := by
    by_contra hnot
    have hmatch := hok.eosInMatch
    rw [hone, heos] at hmatch
    simp [matchLength, hnot] at hmatch
  have hsuffix : eos <:+ m ++ [peosPvt.eosIn.2] := by
    rw [heos]
    exact pair_suffix_iff.mpr ⟨hlast, rfl⟩
  have hscan := scanChar_of_suffix call.maxchars hok.eosIs hstart
    (by rw [heos]; simp) hsuffix
  generalize hk : (⟨call.memory, 0, 0, peosPvt.eosInMatch⟩ : Cursor) = k at hscan hstart
  have hcount : ((k.take peosPvt.eosIn.2).retract eos.length).nRead = sizeRange - 1 := by
    show ((k.take peosPvt.eosIn.2).nRead + sizeRange - eos.length) % sizeRange = sizeRange - 1
    have hread : (k.take peosPvt.eosIn.2).nRead = 1 := by simp [Cursor.take, hstart.nRead]
    rw [hread, heos]
    rfl
  have hdrain : ∀ rest, drain peosPvt.eosIn peosPvt.eosInLen call.maxchars
      (peosPvt.eosIn.2 :: rest) k =
        (rest, (k.take peosPvt.eosIn.2).retract eos.length, some .eos) := by
    intro rest
    simp only [drain, hscan]
  have hloop : ∃ rest lower', readLoop peosPvt.eosIn peosPvt.eosInLen call.maxchars
      (chunks.map Chunk.read) peosPvt.inBuf k .zero =
        some ⟨.asynSuccess, { EomReason.zero with eos := true }, rest,
          (k.take peosPvt.eosIn.2).retract eos.length, lower'⟩ ∧
      (pending peosPvt (chunks.map Chunk.read)).length =
        1 + (rest ++ lower'.flatMap LowerRead.bytes).length := by
    unfold pending at hhead ⊢
    cases hbuf : peosPvt.inBuf with
    | cons b rest =>
        rw [hbuf] at hhead
        have hb : b = peosPvt.eosIn.2 := by simpa using hhead
        subst hb
        refine ⟨rest, chunks.map Chunk.read, ?_, ?_⟩
        · unfold readLoop
          rw [hdrain]
        · simp only [List.cons_append, List.length_cons]
          omega
    | nil =>
        cases chunks with
        | nil =>
            rw [hbuf] at hhead
            cases hhead
        | cons chunk chunks =>
            obtain ⟨b, rest, hbytes⟩ := List.exists_cons_of_ne_nil chunk.nonempty
            rw [hbuf] at hhead
            have hb : b = peosPvt.eosIn.2 := by simpa [Chunk.read, hbytes] using hhead
            subst hb
            refine ⟨rest, chunks.map Chunk.read, ?_, ?_⟩
            · unfold readLoop
              simp only [drain, EomReason.any, EomReason.zero, Bool.or_self, Bool.false_eq_true,
                if_false, List.map_cons, Chunk.read, if_true, ne_eq, not_true_eq_false, false_or,
                hbytes]
              unfold readLoop
              rw [← EomReason.zero, hdrain]
              simp [EomReason.zero]
            · simp [Chunk.read, hbytes]
              omega
  obtain ⟨rest, lower', hloop, hlength⟩ := hloop
  unfold readIt
  rw [if_pos hok.processEosIn, hk, hloop]
  refine ⟨_, _, _, rfl, hlength, ?_⟩
  show (if _ < call.maxchars then _ else _ : Cursor).nRead = sizeRange - 1
  split
  · exact hcount
  · exact hcount

/-! ## All calls -/

theorem deliversStream_along {peosPvt : EosPvt} {chunks : List Chunk} {calls : List ReadCall}
    (hok : StreamOk eos m peosPvt) :
    AlongCalls eos (Delivers eos) m peosPvt (chunks.map Chunk.read) calls ↔
      AlongCalls eos (fun _ peosPvt lower _ => ¬SplitEos peosPvt lower) m peosPvt
        (chunks.map Chunk.read) calls := by
  induction calls generalizing m peosPvt chunks with
  | nil => exact Iff.rfl
  | cons call calls ih =>
      have hnext : ¬SplitEos peosPvt (chunks.map Chunk.read) → ∀ r peosPvt' lower',
          readIt peosPvt (chunks.map Chunk.read) call.memory call.maxchars =
            some (r, peosPvt', lower') →
          (AlongCalls eos (Delivers eos) (nextMessage eos m r) peosPvt' lower' calls ↔
            AlongCalls eos (fun _ peosPvt lower _ => ¬SplitEos peosPvt lower)
              (nextMessage eos m r) peosPvt' lower' calls) := by
        intro hsplit r peosPvt' lower' hread
        obtain ⟨-, hok', chunks', rfl⟩ := call_delivers hok hsplit hread
        exact ih hok'
      constructor
      · rintro ⟨hdelivers, hrest⟩
        have hsplit : ¬SplitEos peosPvt (chunks.map Chunk.read) := by
          intro hsplit
          obtain ⟨r, peosPvt', lower', hread, hlength, hcount⟩ := call_of_split call hok hsplit
          obtain ⟨consumed, hpending, hcall⟩ := hdelivers r peosPvt' lower' hread
          -- one byte is consumed, and `*nbytesTransferred` is the largest `size_t`
          have hbytes := congrArg List.length hcall.exact
          rw [ReadResult.reinserted, ReadResult.delivered, hcount] at hbytes
          rw [hpending] at hlength
          simp only [List.length_append, List.length_map, List.length_range, sizeRange]
            at hbytes hlength
          omega
        exact ⟨hsplit, fun r peosPvt' lower' hread =>
          (hnext hsplit r peosPvt' lower' hread).mp (hrest r peosPvt' lower' hread)⟩
      · rintro ⟨hsplit, hrest⟩
        refine ⟨fun r peosPvt' lower' hread => (call_delivers hok hsplit hread).1, ?_⟩
        exact fun r peosPvt' lower' hread =>
          (hnext hsplit r peosPvt' lower' hread).mpr (hrest r peosPvt' lower' hread)

/-- The calls deliver the stream, with each message ending at the first complete terminator, exactly
if none of them starts between the two characters of a terminator. -/
theorem deliversStream_iff_noSplit (eos : Terminator) (processEosOut : Bool)
    (chunks : List Chunk) (calls : List ReadCall) :
    DeliversStream eos processEosOut chunks calls ↔ NoSplit eos processEosOut chunks calls :=
  deliversStream_along (configuredInput_ok eos processEosOut)

/-- `"\r\n"`. -/
def crlf : Terminator := ⟨[13, 10], by decide⟩

/-- `"A\r\n"` in one read of the lower driver. -/
def crlfChunk : Chunk := ⟨[65, 13, 10], false, by decide, by decide⟩

def readCall (maxchars : Nat) (hpositive : 0 < maxchars) (hsize : maxchars < sizeRange) :
    ReadCall := ⟨maxchars, fun _ => 0, hpositive, hsize⟩

/-- `maxchars = 2` cuts `"A\r\n"` inside its terminator, and the next call is wrong. -/
theorem not_deliversStream_crlf : ¬DeliversStream crlf false [crlfChunk]
    [readCall 2 (by decide) (by decide), readCall 2 (by decide) (by decide)] := by
  intro hdelivers
  have hnosplit := (deliversStream_along (configuredInput_ok crlf false)).mp hdelivers
  obtain ⟨-, hrest⟩ := hnosplit
  obtain ⟨hsecond, -⟩ := hrest _ _ _ rfl
  exact hsecond ⟨rfl, rfl, rfl⟩

end Miscellaneous
end AsynDriver
