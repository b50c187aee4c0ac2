import AsynDriver.DevGpib.InputEos
import AsynDriver.Library.CNumber
import AsynDriver.Library.Delimited
import AsynDriver.Library.Loop
import AsynDriver.Miscellaneous.EosStream

/-!
# Arbitrary block program data

`readArbitraryBlockProgramData` of `devSupportGpib.c`, with the device as the bytes that it has sent.

* `Port` — the reads of `asynOctet`, each up to the EOS that is set; `Port.read_of_readIt`: those of
  `asynInterposeEos` are such reads.
* `readPreamble`, `readCount`, `readLength`, `pass`, `readEos` — the parts of the function.
* `loop_paid` — what the loop makes of the rest of the stream.
* `Course` — the ways a call can go, by what the reads deliver (`exists_course`).
-/

namespace AsynDriver
namespace DevGpib
namespace ArbitraryBlock

open Library
open Library.Delimited
open InputEos (Eos)
open Miscellaneous (Terminator EosPvt Chunk LowerRead ReadCall ReadResult readIt pending)

/-! ## The port -/

/-- A device that has sent `stream`; if it ends its messages with END, the last byte has it.  The next
read gets `chunk 0 + 1` bytes at most, and `chunk` goes on with the reads after it. -/
structure Port where
  eos : Eos
  stream : List UInt8
  endOfMessage : Bool
  chunk : Nat → Nat

structure Answer where
  success : Bool
  bytes : List UInt8
  eomEos : Bool
  eomEnd : Bool
  deriving DecidableEq, Repr

def Port.setInputEos (p : Port) (eos : Eos) : Port := { p with eos := eos }

/-- A read of no bytes is refused; one that comes to the end of the stream without END times out. -/
def Port.read (p : Port) (maxchars : Nat) : Answer × Port :=
  if maxchars = 0 then (⟨false, [], false, false⟩, p)
  else
    let (bytes, ended, rest) := scan p.eos (min maxchars (p.chunk 0 + 1)) [] p.stream
    let eomEnd := p.endOfMessage && !p.stream.isEmpty && rest.isEmpty
    (⟨decide (ended ≠ .exhausted) || eomEnd, bytes, decide (ended = .delimiter), eomEnd⟩,
      { p with stream := rest, chunk := fun i => p.chunk (i + 1) })

/-! ## The function -/

/-- `eos` and `msgLen` of the `gpibCmd`. -/
structure Call where
  eos : Option Eos
  msgLen : Nat
  isInt : msgLen < 2 ^ 31

/-- The terminator that is set at the end.  An empty `eos` of the command is a NUL; `saveEosBuf` has 5
places. -/
def Call.saveEos (c : Call) (p : Port) : Option Eos :=
  match c.eos with
  | some eos => some (if eos = [] then [0] else eos)
  | none => if p.eos.length ≤ 5 then some p.eos else none

/-- `msg` in front of `buf`, and the number of its places up to the last one that was stored to. -/
structure Buffer where
  msg : List UInt8
  top : Nat

def Buffer.start : Buffer := ⟨[], 0⟩

/-- A store to the first `n` places from `buf` on. -/
def Buffer.store (b : Buffer) (n : Nat) : Buffer := { b with top := max b.top (b.msg.length + n) }

def Buffer.advance (b : Buffer) (bytes : List UInt8) : Buffer := { b with msg := b.msg ++ bytes }

/-- What a read stores: the bytes, and a NUL behind them if there is room.  Where it has found the EOS,
`asynInterposeEos` puts a NUL behind the first place of the EOS too, without regard to the room. -/
def Buffer.fill (b : Buffer) (maxchars : Nat) (a : Answer) : Buffer :=
  b.store (if a.eomEos then a.bytes.length + 2 else min maxchars (a.bytes.length + 1))

/-- The returned value, with `none` for `-1`; `eosStored`: there was a store to `eos` of the command. -/
structure Outcome where
  result : Option Nat
  msg : List UInt8
  top : Nat
  eosStored : Bool
  port : Port

def fail (b : Buffer) (p : Port) : Outcome := ⟨none, b.msg, b.top, false, p⟩

/-- The end of a successful call; a NUL goes behind the block if there is room. -/
def complete (c : Call) (b : Buffer) (p : Port) (eosStored : Bool) : Outcome :=
  let b := if b.msg.length < c.msgLen then b.store 1 else b
  ⟨some b.msg.length, b.msg, b.top, eosStored, p⟩

/-- Before a pass of the loop: `count` bytes of the payload are to come. -/
structure Pending where
  buffer : Buffer
  port : Port
  count : Nat

/-- What follows the loop.  The read stores to `saveEos`, which is the `eos` of the command if that has
one. -/
def readEos (c : Call) (saveEos : Eos) (b : Buffer) (p : Port) : Outcome :=
  let (a, q) := (p.setInputEos saveEos).read 1
  if a.success = true ∧ a.bytes = [] then complete c b q c.eos.isSome
  else { fail b q with eosStored := c.eos.isSome }

def pass (c : Call) (saveEos : Eos) (s : Pending) : Pending ⊕ Outcome :=
  if s.count = 0 then .inr (readEos c saveEos s.buffer s.port)
  else
    let (a, q) := s.port.read s.count
    let b := s.buffer.fill s.count a
    if a.success then .inl ⟨b.advance a.bytes, q, s.count - a.bytes.length⟩
    else .inr (fail b (q.setInputEos saveEos))

/-- `strtol(buf,&endptr,10)`, where the string has to be a number up to its end. -/
def number (buf : List UInt8) : Option Int :=
  let s := (buf.takeWhile (· ≠ 0)).map fun b => Char.ofNat b.toNat
  let (negative, t) := takeSign (s.dropWhile isspace)
  let digits := t.takeWhile (isDigitIn 10)
  if digits = [] ∨ t.dropWhile (isDigitIn 10) ≠ [] then none
  else some (toLong negative (positional 10 digits)).1

/-- The difference of two `size_t`. -/
def sizeSub (a b : Nat) : Nat := (a + 2 ^ 64 - b) % 2 ^ 64

/-- The conversion of a `size_t` to `long`. -/
def signed (n : Nat) : Int := (n : Int).bmod (2 ^ 64)

/-- From the read of the digits to the loop. -/
def readLength (bufSize count : Nat) (b : Buffer) (p : Port) : Pending ⊕ Outcome :=
  let (a, q) := p.read count
  let b := b.fill count a
  if a.success = false then .inr (fail b q)
  else
    let b := b.store (a.bytes.length + 1)
    match number a.bytes with
    | none => .inr (fail b q)
    | some ltmp =>
        -- The digits are not subtracted from `bufSize` before.
        if ltmp ≤ 0 ∨ signed bufSize ≤ ltmp then .inr (fail b q)
        else .inl ⟨b.advance a.bytes, q.setInputEos [], ltmp.toNat⟩

/-- From the read of the number of digits; without a character `*buf` is a NUL. -/
def readCount (bufSize : Nat) (b : Buffer) (p : Port) : Pending ⊕ Outcome :=
  let (a, q) := p.read 1
  let b := b.fill 1 a
  let digit := (a.bytes.headD 0).toNat
  if a.success = false then .inr (fail b q)
  else if digit < 48 ∨ 57 < digit then .inr (fail b q)
  else
    let count := digit - 48
    let b := b.advance a.bytes
    let bufSize := sizeSub bufSize a.bytes.length
    if count = 0 then .inr (fail b q)
    else if bufSize < count then .inr (fail b q)
    else readLength bufSize count b q

/-- `#` -/
def hash : UInt8 := 35

def readPreamble (c : Call) (saveEos : Eos) (p : Port) : Pending ⊕ Outcome :=
  let p := if saveEos = [] then p else p.setInputEos [hash]
  let (a, q) := p.read c.msgLen
  let b := Buffer.start.fill c.msgLen a
  let q := if saveEos = [] then q else q.setInputEos saveEos
  if a.success = false ∨ a.bytes = [] then .inr (fail b q)
  else
    let b := b.advance a.bytes
    if saveEos ≠ [] then
      if a.eomEos = false then .inr (fail b q)
      else
        readCount (sizeSub c.msgLen (a.bytes.length + 1)) ((b.store 1).advance [hash]) q
    else if a.eomEnd = false then .inr (fail b q)
    else .inr (complete c b q false)

def readArbitraryBlockProgramData (fuel : Nat) (c : Call) (p : Port) : Option Outcome :=
  match c.saveEos p with
  | none => some (fail .start p)
  | some saveEos =>
      match readPreamble c saveEos p with
      | .inl s => Loop.run (pass c saveEos) fuel s
      | .inr o => some o

/-- The call ends, and `o` is the outcome. -/
def Returns (c : Call) (p : Port) (o : Outcome) : Prop :=
  ∃ fuel, readArbitraryBlockProgramData fuel c p = some o

/-! ## Reads -/

/-- The `bytes` that a successful read gets, and the port after it. -/
structure Port.Delivers (p : Port) (maxchars : Nat) (bytes : List UInt8) (q : Port) : Prop where
  success : (p.read maxchars).1.success = true
  bytes : (p.read maxchars).1.bytes = bytes
  port : (p.read maxchars).2 = q

variable {c : Call} {p q : Port} {n : Nat}

@[simp] theorem Port.setInputEos_eos (p : Port) (eos : Eos) : (p.setInputEos eos).eos = eos := rfl

@[simp] theorem Port.setInputEos_stream (p : Port) (eos : Eos) :
    (p.setInputEos eos).stream = p.stream := rfl

@[simp] theorem Port.read_eos (p : Port) (n : Nat) : (p.read n).2.eos = p.eos := by
  unfold Port.read
  split <;> rfl

theorem Port.read_of_scan {bytes rest : List UInt8} {ended : Ended} (hpos : 0 < n)
    (hscan : scan p.eos (min n (p.chunk 0 + 1)) [] p.stream = (bytes, ended, rest)) :
    let eomEnd := p.endOfMessage && !p.stream.isEmpty && rest.isEmpty
    p.read n = (⟨decide (ended ≠ .exhausted) || eomEnd, bytes, decide (ended = .delimiter), eomEnd⟩,
      { p with stream := rest, chunk := fun i => p.chunk (i + 1) }) := by
  rw [Port.read, if_neg hpos.ne', hscan]

/-- A read while no EOS is set. -/
theorem Port.read_raw (heos : p.eos = []) (hpos : 0 < n) :
    ∃ k, (p.read n).1.bytes = p.stream.take k ∧ (p.read n).2.stream = p.stream.drop k ∧
      k ≤ n ∧ k ≤ p.stream.length ∧
      ((p.read n).1.success = true → 0 < k) ∧
      ((p.read n).1.success = false → k = p.stream.length ∧ k < n) := by
  have hlimit : 0 < min n (p.chunk 0 + 1) := by omega
  have hscan := scan_nil hlimit p.stream
  split at hscan
  · next hle =>
      rw [Port.read_of_scan hpos (by rw [heos, hscan])]
      exact ⟨min n (p.chunk 0 + 1), rfl, rfl, by omega, hle, fun _ => by omega, fun h => nomatch h⟩
  · next hless =>
      rw [Port.read_of_scan hpos (by rw [heos, hscan])]
      refine ⟨p.stream.length, (List.take_length).symm, (List.drop_length).symm, by omega, le_rfl, ?_,
        fun _ => ⟨rfl, by omega⟩⟩
      intro hsuccess
      cases hstream : p.stream with
      | nil =>
          rw [hstream] at hsuccess
          simp at hsuccess
      | cons b s => exact Nat.succ_pos _

theorem Port.read_raw_eomEos (heos : p.eos = []) : (p.read n).1.eomEos = false := by
  by_cases hzero : n = 0
  · rw [Port.read, if_pos hzero]
  have hlimit : 0 < min n (p.chunk 0 + 1) := by omega
  have hscan := scan_nil hlimit p.stream
  split at hscan
  · rw [Port.read_of_scan (Nat.pos_of_ne_zero hzero) (by rw [heos, hscan])]
    rfl
  · rw [Port.read_of_scan (Nat.pos_of_ne_zero hzero) (by rw [heos, hscan])]
    rfl

/-- A read that fails has not found the EOS. -/
theorem Port.read_failed_eomEos (hfailed : (p.read n).1.success = false) :
    (p.read n).1.eomEos = false := by
  unfold Port.read at hfailed ⊢
  split at hfailed
  · next hzero => rw [if_pos hzero]
  · next hpos =>
      rw [if_neg hpos]
      generalize scan p.eos (min n (p.chunk 0 + 1)) [] p.stream = scanned at hfailed ⊢
      obtain ⟨bytes, ended, rest⟩ := scanned
      cases ended with
      | delimiter => exact nomatch hfailed
      | full => rfl
      | exhausted => rfl

theorem Buffer.fill_found {b : Buffer} {a : Answer} (hfound : a.eomEos = true) :
    b.fill n a = b.store (a.bytes.length + 2) := by
  rw [Buffer.fill, if_pos hfound]

theorem Buffer.fill_clear {b : Buffer} {a : Answer} (hclear : a.eomEos = false) :
    b.fill n a = b.store (min n (a.bytes.length + 1)) := by
  rw [Buffer.fill, if_neg (by simp [hclear])]

theorem Buffer.le_fill (b : Buffer) (n : Nat) (a : Answer) : b.top ≤ (b.fill n a).top :=
  Nat.le_max_left _ _

theorem Port.read_found_length (hfound : (p.read n).1.eomEos = true) :
    (p.read n).1.bytes.length + p.eos.length ≤ n := by
  by_cases hzero : n = 0
  · rw [Port.read, if_pos hzero] at hfound
    exact nomatch hfound
  have hlimit : ([] : List UInt8).length < min n (p.chunk 0 + 1) := by
    rw [List.length_nil]
    omega
  have hspec : Taken p.eos [] _ p.stream _ := scan_spec hlimit
  cases hscan : scan p.eos (min n (p.chunk 0 + 1)) [] p.stream with
  | mk bytes r =>
  obtain ⟨ended, rest⟩ := r
  rw [Port.read_of_scan (Nat.pos_of_ne_zero hzero) hscan] at hfound ⊢
  rw [hscan] at hspec
  cases hspec with
  | delimiter b u rest hstream hb hne hle =>
      have hlength := congrArg List.length hb
      rw [List.length_append, List.length_append] at hlength
      dsimp only
      omega
  | full u rest hstream hfull hclear => exact nomatch hfound
  | exhausted hroom => exact nomatch hfound

theorem Port.read_one_nil (hstream : p.stream = []) :
    (p.read 1).1.success = false ∧ (p.read 1).1.bytes = [] := by
  have hscan : scan p.eos (min 1 (p.chunk 0 + 1)) [] p.stream = ([], .exhausted, []) := by
    rw [hstream, scan]
  rw [Port.read_of_scan Nat.one_pos hscan, hstream]
  simp

theorem Port.read_one_cons {b : UInt8} {s : List UInt8} (hstream : p.stream = b :: s) :
    p.Delivers 1 (if p.eos = [b] then [] else [b])
      { p with stream := s, chunk := fun i => p.chunk (i + 1) } := by
  have hlimit : min 1 (p.chunk 0 + 1) = 1 := by omega
  have hscan := scan_one p.eos s b
  rw [← hlimit, ← hstream] at hscan
  by_cases heos : p.eos = [b]
  · rw [if_pos heos] at hscan ⊢
    have hport := Port.read_of_scan Nat.one_pos hscan
    exact ⟨by rw [hport]; rfl, by rw [hport], by rw [hport]⟩
  · rw [if_neg heos] at hscan ⊢
    have hport := Port.read_of_scan Nat.one_pos hscan
    exact ⟨by rw [hport]; rfl, by rw [hport], by rw [hport]⟩

/-- A read of one byte finds the EOS if the EOS is the next byte. -/
theorem Port.read_one_found :
    ((p.read 1).1.success = true ∧ (p.read 1).1.bytes = []) ↔
      ∃ t, p.eos = [t] ∧ p.stream.head? = some t := by
  cases hstream : p.stream with
  | nil =>
      rw [(Port.read_one_nil hstream).1]
      simp
  | cons b s =>
      have hdelivers := Port.read_one_cons hstream
      rw [hdelivers.success, hdelivers.bytes]
      constructor
      · rintro ⟨-, hnil⟩
        split at hnil
        · next heos => exact ⟨b, heos, rfl⟩
        · cases hnil
      · rintro ⟨t, heos, hhead⟩
        obtain rfl := Option.some.inj hhead
        exact ⟨rfl, if_pos heos⟩

theorem Port.read_one_bytes (p : Port) : (p.read 1).1.bytes = [] ∨ ∃ b, (p.read 1).1.bytes = [b] := by
  cases hstream : p.stream with
  | nil => exact .inl (Port.read_one_nil hstream).2
  | cons b s =>
      rw [(Port.read_one_cons hstream).bytes]
      split
      · exact .inl rfl
      · exact .inr ⟨b, rfl⟩

theorem clear_of_noEos {eos u : List UInt8} (hno : Miscellaneous.NoEos eos u) : Clear eos [] u :=
  fun k _ hk h => hno k hk h.1 h.2

/-- Over `asynInterposeEos`, a read that follows a `setInputEos` is one of these. -/
theorem Port.read_of_readIt {peosPvt peosPvt' : EosPvt} {eos : Terminator} {chunks : List Chunk}
    {lower' : List LowerRead} {call : ReadCall} {r : ReadResult} {p : Port}
    (hprocess : peosPvt.processEosIn = true)
    (hread : readIt (Miscellaneous.setInputEos peosPvt eos.chars).2 (chunks.map Chunk.read) call.memory
      call.maxchars = some (r, peosPvt', lower'))
    (hstream : p.stream =
      pending (Miscellaneous.setInputEos peosPvt eos.chars).2 (chunks.map Chunk.read))
    (hchunk : call.maxchars ≤ p.chunk 0 + 1) :
    ∃ eomEnd, ((p.setInputEos eos.chars).read call.maxchars).1 =
        ⟨true, r.delivered, r.eomReason.eos, eomEnd⟩ ∧
      ((p.setInputEos eos.chars).read call.maxchars).2.stream = pending peosPvt' lower' := by
  have hok := Miscellaneous.setInputEos_ok hprocess eos
  generalize (Miscellaneous.setInputEos peosPvt eos.chars).2 = layer at hok hread hstream
  have hsplit : ¬ Miscellaneous.SplitEos layer (chunks.map Chunk.read) := by
    rintro ⟨-, hone, -⟩
    rw [hok.eosInMatch, Miscellaneous.matchLength_nil] at hone
    exact Nat.zero_ne_one hone
  obtain ⟨⟨consumed, hpending, hdelivers⟩, -⟩ := Miscellaneous.call_delivers hok hsplit hread
  obtain ⟨e, hloop, -, heom, -, -, rfl, rfl⟩ := Miscellaneous.readIt_eq_some hok.processEosIn hread
  obtain ⟨houtcome, -⟩ := Miscellaneous.readLoop_outcome hok.eosIs
    (Miscellaneous.scanOk_start layer call.memory hok.eosInMatch) hok.noEos call.positive hloop
  have hexact := hdelivers.exact
  unfold ReadResult.reinserted at hexact
  have hlimit : min call.maxchars (p.chunk 0 + 1) = call.maxchars := by omega
  have hpos := call.positive
  cases houtcome with
  | full u rest k lower hfirst hscan hno hfull =>
      rw [List.nil_append] at hno hfull
      obtain rfl : consumed = u := List.append_cancel_right (hpending.symm.trans hfirst)
      rw [heom, if_neg Bool.false_ne_true, List.append_nil] at hexact
      have hne : consumed ≠ [] := by
        rw [← List.length_pos_iff]
        omega
      have hfound : scan eos.chars (min call.maxchars (p.chunk 0 + 1)) [] p.stream =
          ([] ++ consumed, .full, rest ++ lower.flatMap LowerRead.bytes) := by
        rw [hlimit, hstream.trans hfirst]
        exact scan_full (clear_of_noEos hno) hne (by rw [List.length_nil]; omega)
      rw [Port.read_of_scan (p := p.setInputEos eos.chars) hpos hfound, hexact, heom]
      exact ⟨_, rfl, rfl⟩
  | complete u rest b k lower hfirst hscan hno hne hsuffix hroom =>
      rw [List.nil_append] at hno hroom hsuffix
      obtain rfl : consumed = u ++ [b] := by
        refine List.append_cancel_right (hpending.symm.trans (hfirst.trans ?_))
        simp [pending]
      rw [heom, if_pos rfl] at hexact
      have htake : (u ++ [b]).take (u.length + 1 - eos.chars.length) = r.delivered := by
        have hlength := congrArg List.length hexact
        rw [List.length_append, List.length_append, List.length_singleton] at hlength
        rw [← hexact, List.take_left' (by omega)]
      have hfound : scan eos.chars (min call.maxchars (p.chunk 0 + 1)) [] p.stream =
          (r.delivered, .delimiter, rest ++ lower.flatMap LowerRead.bytes) := by
        rw [hlimit, hstream.trans hfirst,
          scan_delimiter (clear_of_noEos hno) (by rw [List.length_nil]; omega) hne hsuffix,
          List.length_nil, Nat.zero_add, List.nil_append, htake]
      rw [Port.read_of_scan (p := p.setInputEos eos.chars) hpos hfound, heom]
      exact ⟨_, rfl, rfl⟩

/-! ## The loop -/

/-- The byte `v` places on is the EOS. -/
def Closes (saveEos : Eos) (stream : List UInt8) (v : Nat) : Prop :=
  ∃ t, saveEos = [t] ∧ stream[v]? = some t

/-- What comes of the payload, from a pass of the loop on. -/
structure Paid (c : Call) (saveEos : Eos) (s : Pending) (o : Outcome) : Prop where
  eos : o.port.eos = saveEos
  top : o.top ≤ c.msgLen ↔
    max s.buffer.top (s.buffer.msg.length + min s.count (s.port.stream.length + 1)) ≤ c.msgLen
  stored : o.eosStored = true ↔ s.count ≤ s.port.stream.length ∧ c.eos.isSome = true
  closed : Closes saveEos s.port.stream s.count →
    o.result = some o.msg.length ∧ o.msg = s.buffer.msg ++ s.port.stream.take s.count
  unclosed : ¬ Closes saveEos s.port.stream s.count → o.result = none

variable {saveEos : Eos} {s : Pending} {o : Outcome}

theorem complete_top (b : Buffer) (p : Port) (stored : Bool) :
    (complete c b p stored).top ≤ c.msgLen ↔ b.top ≤ c.msgLen := by
  unfold complete
  dsimp only
  split
  · simp only [Buffer.store]
    omega
  · exact Iff.rfl

theorem complete_msg (b : Buffer) (p : Port) (stored : Bool) :
    (complete c b p stored).result = some (complete c b p stored).msg.length ∧
      (complete c b p stored).msg = b.msg := by
  unfold complete
  dsimp only
  split <;> exact ⟨rfl, rfl⟩

theorem readEos_paid (hzero : s.count = 0) (hlength : s.buffer.msg.length ≤ s.buffer.top) :
    Paid c saveEos s (readEos c saveEos s.buffer s.port) := by
  have hfound := (s.port.setInputEos saveEos).read_one_found
  rw [Port.setInputEos_eos, Port.setInputEos_stream, List.head?_eq_getElem?, ← hzero] at hfound
  have heos := (s.port.setInputEos saveEos).read_eos 1
  rw [Port.setInputEos_eos] at heos
  have htop : s.buffer.top ≤ c.msgLen ↔
      max s.buffer.top (s.buffer.msg.length + min s.count (s.port.stream.length + 1)) ≤ c.msgLen := by
    omega
  have hstored : c.eos.isSome = true ↔ s.count ≤ s.port.stream.length ∧ c.eos.isSome = true := by
    rw [hzero]
    simp
  unfold readEos
  generalize (s.port.setInputEos saveEos).read 1 = r at hfound heos
  obtain ⟨a, q⟩ := r
  dsimp only at hfound heos ⊢
  split
  · next hsuccess =>
      obtain ⟨hresult, hmsg⟩ := complete_msg (c := c) s.buffer q c.eos.isSome
      refine ⟨?_, (complete_top ..).trans htop, ?_, fun _ => ⟨hresult, ?_⟩, ?_⟩
      · unfold complete
        exact heos
      · unfold complete
        exact hstored
      · rw [hmsg, hzero, List.take_zero, List.append_nil]
      · exact fun hnot => absurd (hfound.mp hsuccess) hnot
  · next hfailed =>
      exact ⟨heos, htop, hstored, fun hcloses => absurd (hfound.mpr hcloses) hfailed, fun _ => rfl⟩

/-- A pass that has read `k` bytes leaves the rest of the payload. -/
theorem Paid.of_pass {k : Nat} {q : Port} {top : Nat}
    (hcount : k ≤ s.count) (havail : k ≤ s.port.stream.length)
    (hstream : q.stream = s.port.stream.drop k)
    (htop : top = max s.buffer.top (s.buffer.msg.length + min s.count (k + 1)))
    (hpaid : Paid c saveEos ⟨⟨s.buffer.msg ++ s.port.stream.take k, top⟩, q, s.count - k⟩ o) :
    Paid c saveEos s o := by
  obtain ⟨heos, htop', hstored, hclosed, hunclosed⟩ := hpaid
  dsimp only at htop' hstored hclosed hunclosed
  have hcloses : Closes saveEos q.stream (s.count - k) ↔ Closes saveEos s.port.stream s.count := by
    unfold Closes
    rw [hstream, List.getElem?_drop, Nat.add_sub_cancel' hcount]
  rw [hstream, List.length_drop] at htop' hstored
  rw [List.length_append, List.length_take_of_le havail] at htop'
  refine ⟨heos, ?_, ?_, ?_, ?_⟩
  · rw [htop', htop]
    omega
  · rw [hstored]
    have hle : s.count - k ≤ s.port.stream.length - k ↔ s.count ≤ s.port.stream.length := by omega
    rw [hle]
  · intro hc
    obtain ⟨hresult, hmsg⟩ := hclosed (hcloses.mpr hc)
    refine ⟨hresult, ?_⟩
    rw [hmsg, hstream, List.append_assoc, ← List.take_add, Nat.add_sub_cancel' hcount]
  · exact fun hnot => hunclosed (fun hc => hnot (hcloses.mp hc))

theorem loop_paid (c : Call) (saveEos : Eos) (heos : s.port.eos = [])
    (hlength : s.buffer.msg.length ≤ s.buffer.top) :
    ∃ o, Loop.Returns (pass c saveEos) s o ∧ Paid c saveEos s o := by
  generalize hn : s.count = n
  induction n using Nat.strongRecOn generalizing s with
  | _ n ih =>
      by_cases hzero : s.count = 0
      · have hpass : pass c saveEos s = .inr (readEos c saveEos s.buffer s.port) := if_pos hzero
        exact ⟨_, (Loop.returns_of_inr hpass).mpr rfl, readEos_paid hzero hlength⟩
      · obtain ⟨k, hbytes, hstream, hcount, havail, hsuccess, hfailure⟩ :=
          Port.read_raw heos (Nat.pos_of_ne_zero hzero)
        have hqeos := s.port.read_eos s.count
        have hclear := Port.read_raw_eomEos (n := s.count) heos
        have hpass : pass c saveEos s = _ := if_neg hzero
        generalize s.port.read s.count = r at hbytes hstream hsuccess hfailure hqeos hclear hpass
        obtain ⟨a, q⟩ := r
        dsimp only at hbytes hstream hsuccess hfailure hqeos hclear hpass
        rw [Buffer.fill_clear hclear] at hpass
        have hread : a.bytes.length = k := by rw [hbytes, List.length_take_of_le havail]
        cases hs : a.success with
        | true =>
            rw [hs, if_pos rfl] at hpass
            have hpos := hsuccess hs
            have htop : s.buffer.msg.length + k ≤
                max s.buffer.top (s.buffer.msg.length + min s.count (k + 1)) := by omega
            obtain ⟨o, hreturns, hpaid⟩ := ih (s.count - k) (by omega)
              (s := ⟨(s.buffer.store (min s.count (a.bytes.length + 1))).advance a.bytes, q,
                s.count - a.bytes.length⟩)
              (hqeos.trans heos) (by
                simp only [Buffer.advance, Buffer.store, List.length_append, hread]
                exact htop) (by rw [hread])
            refine ⟨o, (Loop.returns_of_inl hpass).mpr hreturns, ?_⟩
            rw [hread, Buffer.advance, hbytes] at hpaid
            exact Paid.of_pass hcount havail hstream rfl hpaid
        | false =>
            rw [hs, if_neg Bool.false_ne_true] at hpass
            obtain ⟨hk, hless⟩ := hfailure hs
            refine ⟨_, (Loop.returns_of_inr hpass).mpr rfl, rfl, ?_, ?_, ?_, fun _ => rfl⟩
            · simp only [fail, Buffer.store, hread, hk]
            · simp only [fail, Bool.false_eq_true, false_iff, not_and]
              exact fun h => absurd h (by omega)
            · rintro ⟨t, -, ht⟩
              have hlast := (List.getElem?_eq_some_iff.mp ht).1
              omega

/-! ## The way to the payload -/

/-- The first read finds `#` behind these bytes. -/
def FindsHash (c : Call) (p : Port) (bytes : List UInt8) : Prop :=
  (∃ eos, c.saveEos p = some eos ∧ eos ≠ []) ∧ ((p.setInputEos [hash]).read c.msgLen).1.eomEos = true ∧
    ((p.setInputEos [hash]).read c.msgLen).1.bytes = bytes

/-- The first read gets a preamble up to `#`; `q` has its terminator back. -/
structure Begins (c : Call) (p : Port) (preamble : List UInt8) (q : Port) : Prop where
  saveEos : c.saveEos p = some q.eos
  isSet : q.eos ≠ []
  nonempty : preamble ≠ []
  found : ((p.setInputEos [hash]).read c.msgLen).1.eomEos = true
  delivers : ∃ r, (p.setInputEos [hash]).Delivers c.msgLen preamble r ∧ q = r.setInputEos q.eos

/-- One read gets the number of digits, from `1` to `9` and not more than `room`, and one the `digits`. -/
structure Announces (p : Port) (room : Nat) (count : UInt8) (digits : List UInt8) (q : Port) : Prop where
  numeric : 48 < count.toNat ∧ count.toNat ≤ 57
  room : count.toNat - 48 ≤ room
  delivers : ∃ r, p.Delivers 1 [count] r ∧ r.Delivers (count.toNat - 48) digits q

/-- The place behind the number of digits, counted from the end of `msg`. -/
def Call.room (c : Call) (preamble : List UInt8) : Nat := c.msgLen - preamble.length - 2

def Header (c : Call) (p : Port) (preamble : List UInt8) (count : UInt8) (digits : List UInt8)
    (r : Port) : Prop :=
  ∃ q, Begins c p preamble q ∧ preamble.length + 1 < c.msgLen ∧
    Announces q (c.room preamble) count digits r

/-- The read of the digits ends with the terminator. -/
def DigitsEnd (c : Call) (p : Port) (preamble : List UInt8) (count : UInt8) : Prop :=
  ∃ q r, Begins c p preamble q ∧ q.Delivers 1 [count] r ∧ (r.read (count.toNat - 48)).1.eomEos = true

/-- A number of bytes that the function goes on with. -/
structure Accepts (digits : List UInt8) (room v : Nat) : Prop where
  number : number digits = some (v : Int)
  pos : 0 < v
  less : v < room

/-- The ways a call can go. -/
inductive Course (c : Call) (p : Port) (o : Outcome) : Prop
  | noPreamble (hno : ∀ P q, ¬ Begins c p P q)
      (htop : o.top ≤ c.msgLen ↔ ∀ P, FindsHash c p P → P.length + 1 < c.msgLen)
      (hstored : o.eosStored = false) (hresult : c.saveEos p ≠ some [] → o.result = none)
  | noRoom (P : List UInt8) (q : Port) (hbegins : Begins c p P q) (hroom : P.length + 1 = c.msgLen)
      (htop : c.msgLen < o.top) (hresult : o.result = none)
  | noDigits (P : List UInt8) (q : Port) (hbegins : Begins c p P q) (hroom : P.length + 1 < c.msgLen)
      (hno : ∀ n d r, ¬ Announces q (c.room P) n d r)
      (htop : o.top ≤ c.msgLen ↔ ((q.read 1).1.eomEos = true → P.length + 2 < c.msgLen))
      (hstored : o.eosStored = false) (hresult : o.result = none)
  | noNumber (P : List UInt8) (n : UInt8) (d : List UInt8) (r : Port) (hheader : Header c p P n d r)
      (hno : ∀ v, ¬ Accepts d (c.room P) v)
      (htop : o.top ≤ c.msgLen ↔ P.length + 2 + d.length < c.msgLen ∧
        (DigitsEnd c p P n → P.length + 3 + d.length < c.msgLen))
      (hstored : o.eosStored = false) (hresult : o.result = none)
  | payload (P : List UInt8) (n : UInt8) (d : List UInt8) (r : Port) (v : Nat)
      (hheader : Header c p P n d r) (haccepts : Accepts d (c.room P) v)
      (htop : o.top ≤ c.msgLen ↔
        P.length + 2 + d.length + min v (r.stream.length + 1) ≤ c.msgLen ∧
          (DigitsEnd c p P n → P.length + 3 + d.length < c.msgLen))
      (hstored : o.eosStored = true ↔ v ≤ r.stream.length ∧ c.eos.isSome = true)
      (hclosed : Closes r.eos r.stream v →
        o.result = some o.msg.length ∧ o.msg = P ++ hash :: n :: (d ++ r.stream.take v))
      (hunclosed : ¬ Closes r.eos r.stream v → o.result = none)

theorem Port.Delivers.unique {a b : List UInt8} {r r' : Port} (h : p.Delivers n a r)
    (h' : p.Delivers n b r') : a = b ∧ r = r' :=
  ⟨h.bytes.symm.trans h'.bytes, h.port.symm.trans h'.port⟩

theorem Port.Delivers.eos {a : List UInt8} {r : Port} (h : p.Delivers n a r) : r.eos = p.eos := by
  rw [← h.port, Port.read_eos]

variable {P P' d d' : List UInt8} {q' r r' : Port} {a a' : UInt8} {v v' room : Nat}

theorem Begins.unique (h : Begins c p P q) (h' : Begins c p P' q') : P = P' ∧ q = q' := by
  obtain ⟨r, hr, hq⟩ := h.delivers
  obtain ⟨r', hr', hq'⟩ := h'.delivers
  obtain ⟨hbytes, rfl⟩ := hr.unique hr'
  have heos := Option.some.inj (h.saveEos.symm.trans h'.saveEos)
  exact ⟨hbytes, by rw [hq, hq', heos]⟩

theorem Announces.unique (h : Announces p room a d r) (h' : Announces p room a' d' r') :
    d = d' ∧ r = r' ∧ a = a' := by
  obtain ⟨s, hfirst, hrest⟩ := h.delivers
  obtain ⟨s', hfirst', hrest'⟩ := h'.delivers
  obtain ⟨hcount, rfl⟩ := hfirst.unique hfirst'
  obtain rfl := List.singleton_injective hcount
  obtain ⟨hdigits, hport⟩ := hrest.unique hrest'
  exact ⟨hdigits, hport, rfl⟩

theorem Header.unique (h : Header c p P a d r) (h' : Header c p P' a' d' r') :
    P = P' ∧ d = d' ∧ r = r' ∧ a = a' := by
  obtain ⟨q, hbegins, -, hannounces⟩ := h
  obtain ⟨q', hbegins', -, hannounces'⟩ := h'
  obtain ⟨rfl, rfl⟩ := hbegins.unique hbegins'
  exact ⟨rfl, hannounces.unique hannounces'⟩

/-- A read of one byte that gets one has not found the EOS. -/
theorem Port.Delivers.clear (h : p.Delivers 1 [a] q) (heos : p.eos ≠ []) :
    (p.read 1).1.eomEos = false := by
  refine eq_false_of_ne_true fun hfound => ?_
  have hlength := Port.read_found_length hfound
  have hpos := List.length_pos_iff.mpr heos
  rw [h.bytes, List.length_singleton] at hlength
  omega

theorem Header.count_clear (h : Header c p P a d r) (hbegins : Begins c p P' q) :
    (q.read 1).1.eomEos = false := by
  obtain ⟨q', hbegins', -, hannounces⟩ := h
  obtain ⟨-, rfl⟩ := hbegins'.unique hbegins
  obtain ⟨s, hfirst, -⟩ := hannounces.delivers
  exact hfirst.clear hbegins.isSet

theorem digitsEnd_iff (hbegins : Begins c p P q) (hfirst : q.Delivers 1 [a] q') :
    DigitsEnd c p P a ↔ (q'.read (a.toNat - 48)).1.eomEos = true := by
  constructor
  · rintro ⟨q₁, r₁, hbegins₁, hfirst₁, hfound⟩
    obtain ⟨-, rfl⟩ := hbegins₁.unique hbegins
    obtain ⟨-, rfl⟩ := hfirst₁.unique hfirst
    exact hfound
  · exact fun hfound => ⟨q, q', hbegins, hfirst, hfound⟩

theorem Begins.findsHash (h : Begins c p P q) : FindsHash c p P := by
  obtain ⟨r, hdelivers, -⟩ := h.delivers
  exact ⟨⟨q.eos, h.saveEos, h.isSet⟩, h.found, hdelivers.bytes⟩

theorem Accepts.unique (h : Accepts d room v) (h' : Accepts d room v') : v = v' :=
  Int.ofNat.inj (Option.some.inj (h.number.symm.trans h'.number))

theorem signed_of_lt (hn : n < 2 ^ 63) : signed n = n := by
  unfold signed
  rw [Int.bmod_def]
  omega

theorem sizeSub_of_le {m : Nat} (hm : m < 2 ^ 64) (hle : n ≤ m) : sizeSub m n = m - n := by
  unfold sizeSub
  omega

/-- What the rest of the call comes to. -/
def Ends (c : Call) (saveEos : Eos) : Pending ⊕ Outcome → Outcome → Prop
  | .inl s, o => Loop.Returns (pass c saveEos) s o
  | .inr o', o => o' = o

theorem Course.of_paid (hheader : Header c p P a d r) (haccepts : Accepts d (c.room P) s.count)
    (hpaid : Paid c r.eos s o) (hmsg : s.buffer.msg = P ++ [hash] ++ [a] ++ d)
    (htop : s.buffer.top ≤ c.msgLen ↔ P.length + 2 + d.length < c.msgLen ∧
      (DigitsEnd c p P a → P.length + 3 + d.length < c.msgLen))
    (hstream : s.port.stream = r.stream) : Course c p o := by
  obtain ⟨-, htop', hstored, hclosed, hunclosed⟩ := hpaid
  rw [hstream] at htop' hstored hclosed hunclosed
  refine .payload P a d r s.count hheader haccepts ?_ hstored ?_ hunclosed
  · have hpos := haccepts.pos
    rw [htop', Nat.max_le, htop, hmsg]
    simp only [List.length_append, List.length_singleton]
    constructor
    · rintro ⟨⟨-, hend⟩, hfits⟩
      exact ⟨by omega, hend⟩
    · rintro ⟨hfits, hend⟩
      exact ⟨⟨by omega, hend⟩, by omega⟩
  · intro hcloses
    obtain ⟨hresult, hmsg'⟩ := hclosed hcloses
    refine ⟨hresult, ?_⟩
    rw [hmsg', hmsg]
    simp only [List.append_assoc]
    rfl

theorem readLength_course {b : Buffer} (hbegins : Begins c p P q) (hroom : P.length + 1 < c.msgLen)
    (hnumeric : 48 < a.toNat ∧ a.toNat ≤ 57) (hcount : a.toNat - 48 ≤ c.room P)
    (hfirst : q.Delivers 1 [a] q') (hmsg : b.msg = P ++ [hash] ++ [a]) (htop : b.top = b.msg.length) :
    ∃ o, Ends c q.eos (readLength (c.room P) (a.toNat - 48) b q') o ∧ Course c p o ∧
      o.port.eos = q.eos := by
  have hlength : b.msg.length = P.length + 2 := by
    rw [hmsg, List.length_append, List.length_append, List.length_singleton, List.length_singleton]
  have hend := digitsEnd_iff hbegins hfirst
  have hfailed := Port.read_failed_eomEos (p := q') (n := a.toNat - 48)
  have hsigned : signed (c.room P) = c.room P := by
    have hmsgLen := c.isInt
    exact signed_of_lt (by unfold Call.room; omega)
  unfold Call.room at hcount
  unfold readLength
  cases hread : q'.read (a.toNat - 48) with
  | mk answer r =>
  have hreos : r.eos = q.eos := by
    have heos := q'.read_eos (a.toNat - 48)
    rw [hread] at heos
    exact heos.trans hfirst.eos
  rw [hread] at hend hfailed
  dsimp only at hend hfailed ⊢
  cases hsuccess : answer.success with
  | false =>
      rw [if_pos rfl]
      refine ⟨_, rfl, .noDigits P q hbegins hroom ?_ ?_ rfl rfl, hreos⟩
      · intro n d r' hannounces
        obtain ⟨s, hone, hdigits⟩ := hannounces.delivers
        obtain ⟨hn, rfl⟩ := hfirst.unique hone
        obtain rfl := List.singleton_injective hn
        have hyes := hdigits.success
        rw [hread] at hyes
        exact Bool.false_ne_true (hsuccess.symm.trans hyes)
      · have hinside : (fail (b.fill (a.toNat - 48) answer) r).top ≤ c.msgLen := by
          rw [Buffer.fill_clear (hfailed hsuccess)]
          simp only [fail, Buffer.store]
          omega
        have hclear := hfirst.clear hbegins.isSet
        simp only [hinside, hclear, Bool.false_eq_true, false_implies]
  | true =>
      rw [if_neg (by simp)]
      have hheader : Header c p P a answer.bytes r := by
        refine ⟨q, hbegins, hroom, hnumeric, hcount, q', hfirst, ?_, ?_, ?_⟩
        · rw [hread]
          exact hsuccess
        · rw [hread]
        · rw [hread]
      -- The second store of a NUL is that of the function itself.
      have hstored : ((b.fill (a.toNat - 48) answer).store (answer.bytes.length + 1)).top ≤ c.msgLen ↔
          P.length + 2 + answer.bytes.length < c.msgLen ∧
            (DigitsEnd c p P a → P.length + 3 + answer.bytes.length < c.msgLen) := by
        rw [hend]
        cases hfound : answer.eomEos with
        | true =>
            rw [Buffer.fill_found hfound]
            simp only [Buffer.store, true_implies]
            omega
        | false =>
            rw [Buffer.fill_clear hfound]
            simp only [Buffer.store, Bool.false_eq_true, false_implies, and_true]
            omega
      have hbehind : P.length + 2 + answer.bytes.length ≤
          ((b.fill (a.toNat - 48) answer).store (answer.bytes.length + 1)).top := by
        simp only [Buffer.fill, Buffer.store]
        omega
      have hstop : ∀ b', b'.top = ((b.fill (a.toNat - 48) answer).store (answer.bytes.length + 1)).top →
          (∀ v, ¬ Accepts answer.bytes (c.room P) v) → Course c p (fail b' r) := by
        intro b' htop' hno
        refine .noNumber P a answer.bytes r hheader hno ?_ rfl rfl
        rw [fail, htop']
        exact hstored
      cases hnumber : number answer.bytes with
      | none =>
          refine ⟨_, rfl, hstop _ rfl ?_, hreos⟩
          exact fun v haccepts => nomatch hnumber.symm.trans haccepts.number
      | some ltmp =>
          dsimp only
          rw [hsigned]
          split
          · next hrange =>
              refine ⟨_, rfl, hstop _ rfl ?_, hreos⟩
              intro v haccepts
              have hv := Option.some.inj (hnumber.symm.trans haccepts.number)
              have hpos := haccepts.pos
              have hless := haccepts.less
              omega
          · next hrange =>
              have haccepts : Accepts answer.bytes (c.room P) ltmp.toNat :=
                ⟨by rw [hnumber, Int.toNat_of_nonneg (by omega)], by omega, by omega⟩
              obtain ⟨o, hreturns, hpaid⟩ := loop_paid c q.eos
                (s := ⟨(((b.fill (a.toNat - 48) answer).store (answer.bytes.length + 1)).advance
                  answer.bytes), r.setInputEos [], ltmp.toNat⟩) rfl (by
                    refine le_trans (le_of_eq ?_) hbehind
                    simp only [Buffer.advance, Buffer.fill, Buffer.store, hlength, List.length_append])
              refine ⟨o, hreturns, ?_, hpaid.eos⟩
              rw [← hreos] at hpaid
              refine .of_paid hheader haccepts hpaid ?_ hstored rfl
              simp only [Buffer.advance, Buffer.fill, Buffer.store, hmsg]

theorem readCount_course {b : Buffer} (hbegins : Begins c p P q) (hroom : P.length + 1 < c.msgLen)
    (hmsg : b.msg = P ++ [hash]) (htop : b.top = b.msg.length + 1) :
    ∃ o, Ends c q.eos (readCount (c.msgLen - (P.length + 1)) b q) o ∧ Course c p o ∧
      o.port.eos = q.eos := by
  have hlength : b.msg.length = P.length + 1 := by
    rw [hmsg, List.length_append, List.length_singleton]
  have hmsgLen := c.isInt
  have hqeos := q.read_eos 1
  have hone := q.read_one_bytes
  have hfoundLength := q.read_found_length (n := 1)
  have hpos := List.length_pos_iff.mpr hbegins.isSet
  unfold readCount
  cases hread : q.read 1 with
  | mk answer r =>
  rw [hread] at hqeos hone hfoundLength
  dsimp only at hqeos hone hfoundLength
  have hstop : ∀ b', b'.top = (b.fill 1 answer).top →
      (∀ n, answer.success = true → answer.bytes = [n] → 48 < n.toNat ∧ n.toNat ≤ 57 →
        c.room P < n.toNat - 48) →
      Course c p (fail b' r) := by
    intro b' htop' hno
    refine .noDigits P q hbegins hroom ?_ ?_ rfl rfl
    swap
    · rw [hread, fail, htop']
      cases hfound : answer.eomEos with
      | true =>
          have hnil := hfoundLength hfound
          rw [Buffer.fill_found hfound]
          simp only [Buffer.store, true_implies]
          omega
      | false =>
          rw [Buffer.fill_clear hfound]
          simp only [Buffer.store, Bool.false_eq_true, false_implies, iff_true]
          omega
    rintro n d s ⟨hnumeric, hle, s', hfirst, -⟩
    have hbytes := hfirst.bytes
    have hyes := hfirst.success
    rw [hread] at hbytes hyes
    exact absurd hle (Nat.not_le.mpr (hno n hyes hbytes hnumeric))
  dsimp only
  split
  · next hfailure =>
      exact ⟨_, rfl, hstop _ rfl (fun n hyes => nomatch hfailure.symm.trans hyes), hqeos⟩
  · next hsuccess =>
      split
      · next hdigit =>
          refine ⟨_, rfl, hstop _ rfl ?_, hqeos⟩
          intro n _ hbytes hnumeric
          rw [hbytes, List.headD_cons] at hdigit
          omega
      · next hdigit =>
          rcases hone with hnil | ⟨n, hn⟩
          · rw [hnil, List.headD_nil] at hdigit
            simp at hdigit
          rw [hn, List.headD_cons] at hdigit ⊢
          rw [List.length_singleton, sizeSub_of_le (by omega) (by omega)]
          split
          · next hzero =>
              refine ⟨_, rfl, hstop _ rfl ?_, hqeos⟩
              intro m _ hbytes hnumeric
              obtain rfl := List.singleton_injective (hbytes.symm.trans hn)
              omega
          · next hpos =>
              have hsize : c.msgLen - (P.length + 1) - 1 = c.room P := by
                unfold Call.room
                omega
              rw [hsize]
              split
              · next hless =>
                  refine ⟨_, rfl, hstop _ rfl ?_, hqeos⟩
                  intro m _ hbytes _
                  obtain rfl := List.singleton_injective (hbytes.symm.trans hn)
                  exact hless
              · next hle =>
                  refine readLength_course hbegins hroom (by omega) (Nat.not_lt.mp hle) ⟨?_, ?_, ?_⟩ ?_ ?_
                  · rw [hread]
                    exact Bool.not_eq_false _ ▸ hsuccess
                  · rw [hread]
                    exact hn
                  · rw [hread]
                  · simp only [Buffer.advance, Buffer.fill, Buffer.store, hmsg]
                  · have hclear : answer.eomEos = false := by
                      refine eq_false_of_ne_true fun hfound => ?_
                      have hnil := hfoundLength hfound
                      rw [hn, List.length_singleton] at hnil
                      omega
                    rw [Buffer.fill_clear hclear]
                    simp only [Buffer.advance, Buffer.store, List.length_append, List.length_singleton,
                      hn]
                    omega

theorem readLength_wrapped (count : Nat) (b : Buffer) (q : Port) :
    ∃ o, readLength (2 ^ 64 - 1) count b q = .inr o ∧ b.top ≤ o.top ∧ o.result = none ∧
      o.port.eos = q.eos := by
  have hsigned : signed (2 ^ 64 - 1) = -1 := by decide
  have hqeos := q.read_eos count
  unfold readLength
  cases hread : q.read count with
  | mk answer r =>
  rw [hread] at hqeos
  dsimp only
  rw [hsigned]
  split
  · exact ⟨_, rfl, b.le_fill _ _, rfl, hqeos⟩
  · cases number answer.bytes with
    | none => exact ⟨_, rfl, (b.le_fill _ _).trans (Nat.le_max_left _ _), rfl, hqeos⟩
    | some ltmp =>
        have hrange : ltmp ≤ 0 ∨ -1 ≤ ltmp := by omega
        dsimp only
        rw [if_pos hrange]
        exact ⟨_, rfl, (b.le_fill _ _).trans (Nat.le_max_left _ _), rfl, hqeos⟩

/-- With no room behind `#` the function stores outside of `msg`; `bufSize` wraps around, and as a `long`
it is `-1`. -/
theorem readCount_noRoom (b : Buffer) (q : Port) :
    ∃ o, readCount 0 b q = .inr o ∧ b.msg.length + 1 ≤ o.top ∧ o.result = none ∧ o.port.eos = q.eos := by
  have hqeos := q.read_eos 1
  have hone := q.read_one_bytes
  unfold readCount
  cases hread : q.read 1 with
  | mk answer r =>
  rw [hread] at hqeos hone
  have hfill : b.msg.length + 1 ≤ (b.fill 1 answer).top := by
    unfold Buffer.fill Buffer.store
    split <;> dsimp only <;> omega
  dsimp only at hone ⊢
  split
  · exact ⟨_, rfl, hfill, rfl, hqeos⟩
  · split
    · exact ⟨_, rfl, hfill, rfl, hqeos⟩
    · next hdigit =>
        rcases hone with hnil | ⟨n, hn⟩
        · rw [hnil, List.headD_nil] at hdigit
          simp at hdigit
        have hwrapped : sizeSub 0 answer.bytes.length = 2 ^ 64 - 1 := by
          rw [hn, List.length_singleton]
          decide
        rw [hwrapped]
        split
        · exact ⟨_, rfl, hfill, rfl, hqeos⟩
        · split
          · exact ⟨_, rfl, hfill, rfl, hqeos⟩
          · obtain ⟨o, ho, htop, hresult, heos⟩ := readLength_wrapped
              ((answer.bytes.headD 0).toNat - 48) ((b.fill 1 answer).advance answer.bytes) r
            exact ⟨o, ho, hfill.trans htop, hresult, heos.trans hqeos⟩

theorem Call.eos_of_saveEos_nil (hsave : c.saveEos p = some []) : p.eos = [] := by
  unfold Call.saveEos at hsave
  split at hsave
  · next eos _ =>
      split at hsave
      · exact nomatch hsave
      · next hne => exact absurd (Option.some.inj hsave) hne
  · split at hsave
    · exact Option.some.inj hsave
    · exact nomatch hsave

/-- Without a terminator one read gets everything. -/
theorem readPreamble_end (hsave : c.saveEos p = some []) :
    ∃ o, Ends c [] (readPreamble c [] p) o ∧ Course c p o ∧ o.port.eos = [] := by
  have hno : ∀ P q, ¬ Begins c p P q := fun P q hbegins =>
    hbegins.isSet (Option.some.inj (hbegins.saveEos.symm.trans hsave))
  have hnoHash : ∀ P, FindsHash c p P → P.length + 1 < c.msgLen := by
    rintro P ⟨⟨eos, hsave', hset⟩, -⟩
    exact absurd (Option.some.inj (hsave'.symm.trans hsave)) hset
  have hclear := Port.read_raw_eomEos (n := c.msgLen) (Call.eos_of_saveEos_nil hsave)
  have hqeos := (p.read_eos c.msgLen).trans (Call.eos_of_saveEos_nil hsave)
  unfold readPreamble
  cases hread : p.read c.msgLen with
  | mk answer q =>
  rw [hread] at hqeos hclear
  have htop : (Buffer.start.fill c.msgLen answer).top ≤ c.msgLen := by
    rw [Buffer.fill_clear hclear]
    simp only [Buffer.start, Buffer.store, List.length_nil]
    omega
  have hinside : ∀ {n : Nat}, n ≤ c.msgLen →
      (n ≤ c.msgLen ↔ ∀ P, FindsHash c p P → P.length + 1 < c.msgLen) :=
    fun hle => ⟨fun _ => hnoHash, fun _ => hle⟩
  simp only [if_true, hread, ne_eq, not_true_eq_false, if_false]
  split
  · exact ⟨_, rfl, .noPreamble hno (hinside htop) rfl (fun _ => rfl), hqeos⟩
  · split
    · exact ⟨_, rfl, .noPreamble hno (hinside htop) rfl (fun _ => rfl), hqeos⟩
    · refine ⟨_, rfl, .noPreamble hno (hinside ((complete_top ..).mpr htop)) ?_
        (fun hne => absurd hsave hne), ?_⟩
      · rfl
      · exact hqeos

theorem readPreamble_course (hsave : c.saveEos p = some saveEos) (hset : saveEos ≠ []) :
    ∃ o, Ends c saveEos (readPreamble c saveEos p) o ∧ Course c p o ∧ o.port.eos = saveEos := by
  have hmsgLen := c.isInt
  have hlength := (p.setInputEos [hash]).read_found_length (n := c.msgLen)
  unfold readPreamble
  cases hread : (p.setInputEos [hash]).read c.msgLen with
  | mk answer r =>
  rw [hread, Port.setInputEos_eos, List.length_singleton] at hlength
  have htop : (Buffer.start.fill c.msgLen answer).top ≤ c.msgLen ↔
      ∀ P, FindsHash c p P → P.length + 1 < c.msgLen := by
    have hfinds : ∀ P, FindsHash c p P ↔ answer.eomEos = true ∧ answer.bytes = P := by
      intro P
      unfold FindsHash
      rw [hread]
      exact and_iff_right ⟨saveEos, hsave, hset⟩
    simp only [hfinds]
    cases hfound : answer.eomEos with
    | true =>
        rw [Buffer.fill_found hfound]
        simp only [Buffer.start, Buffer.store, List.length_nil, true_and, forall_eq']
        omega
    | false =>
        rw [Buffer.fill_clear hfound]
        simp only [Buffer.start, Buffer.store, List.length_nil, Bool.false_eq_true, false_and,
          false_implies, implies_true, iff_true]
        omega
  have hstop : ∀ b, b.top = (Buffer.start.fill c.msgLen answer).top →
      (answer.success = true → answer.bytes ≠ [] → answer.eomEos = false) →
      Course c p (fail b (r.setInputEos saveEos)) := by
    intro b hb hno
    refine .noPreamble ?_ (by rw [fail, hb]; exact htop) rfl (fun _ => rfl)
    rintro P q ⟨-, -, hne, hfound, s, hdelivers, -⟩
    have hbytes := hdelivers.bytes
    have hyes := hdelivers.success
    rw [hread] at hfound hbytes hyes
    exact Bool.false_ne_true ((hno hyes (hbytes ▸ hne)).symm.trans hfound)
  dsimp only at hlength
  simp only [if_neg hset, hread, if_pos hset]
  split
  · next hfailed =>
      refine ⟨_, rfl, hstop _ rfl ?_, rfl⟩
      intro hyes hne
      rcases hfailed with hno | hnil
      · exact nomatch hno.symm.trans hyes
      · exact absurd hnil hne
  · next hread' =>
      obtain ⟨hsuccess, hne⟩ := not_or.mp hread'
      split
      · next hnot => exact ⟨_, rfl, hstop _ rfl (fun _ _ => hnot), rfl⟩
      · next hfound =>
          have hfound' := eq_true_of_ne_false hfound
          have hroom := hlength hfound'
          have hbegins : Begins c p answer.bytes (r.setInputEos saveEos) := by
            refine ⟨hsave, hset, hne, ?_, r, ⟨?_, ?_, ?_⟩, rfl⟩
            · rw [hread]
              exact hfound'
            · rw [hread]
              exact eq_true_of_ne_false hsuccess
            · rw [hread]
            · rw [hread]
          rw [sizeSub_of_le (by omega) hroom]
          by_cases hlast : answer.bytes.length + 1 = c.msgLen
          · rw [hlast, Nat.sub_self]
            obtain ⟨o, ho, htop, hresult, heos⟩ := readCount_noRoom
              ((((Buffer.start.fill c.msgLen answer).advance answer.bytes).store 1).advance [hash])
              (r.setInputEos saveEos)
            refine ⟨o, by rw [ho]; rfl, .noRoom _ _ hbegins hlast ?_ hresult, heos⟩
            refine lt_of_lt_of_le ?_ htop
            simp only [Buffer.advance, Buffer.store, List.length_append, List.length_singleton]
            omega
          · refine readCount_course hbegins (by omega) rfl ?_
            rw [Buffer.fill_found hfound']
            simp only [Buffer.start, Buffer.advance, Buffer.store, List.length_append,
              List.length_singleton, List.length_nil]
            omega

theorem returns_of_saveEos (hsave : c.saveEos p = some saveEos) :
    Returns c p o ↔ Ends c saveEos (readPreamble c saveEos p) o := by
  unfold Returns readArbitraryBlockProgramData
  rw [hsave]
  dsimp only
  cases readPreamble c saveEos p with
  | inl s => exact Iff.rfl
  | inr o' =>
      constructor
      · rintro ⟨_, h⟩
        exact Option.some.inj h
      · exact fun h => ⟨0, congrArg some h⟩

theorem returns_of_none (hsave : c.saveEos p = none) : Returns c p o ↔ fail .start p = o := by
  unfold Returns readArbitraryBlockProgramData
  rw [hsave]
  exact ⟨fun ⟨_, h⟩ => Option.some.inj h, fun h => ⟨0, congrArg some h⟩⟩

theorem Returns.unique {o' : Outcome} (h : Returns c p o) (h' : Returns c p o') : o = o' := by
  cases hsave : c.saveEos p with
  | none => exact ((returns_of_none hsave).mp h).symm.trans ((returns_of_none hsave).mp h')
  | some saveEos =>
      rw [returns_of_saveEos hsave] at h h'
      cases hread : readPreamble c saveEos p with
      | inl s =>
          rw [hread] at h h'
          exact Loop.Returns.unique h h'
      | inr r =>
          rw [hread] at h h'
          exact h.symm.trans h'

/-- A call ends, in one of the ways, and with the terminator set that it worked with. -/
theorem exists_course (c : Call) (p : Port) :
    ∃ o, Returns c p o ∧ Course c p o ∧ o.port.eos = (c.saveEos p).getD p.eos := by
  cases hsave : c.saveEos p with
  | none =>
      refine ⟨_, (returns_of_none hsave).mpr rfl, .noPreamble ?_ ⟨fun _ => ?_, fun _ => Nat.zero_le _⟩ rfl
        (fun _ => rfl), rfl⟩
      · exact fun P q hbegins => nomatch hsave.symm.trans hbegins.saveEos
      · rintro P ⟨⟨eos, hsave', -⟩, -⟩
        exact nomatch hsave.symm.trans hsave'
  | some saveEos =>
      by_cases hset : saveEos = []
      · subst hset
        obtain ⟨o, hends, hcourse⟩ := readPreamble_end hsave
        exact ⟨o, (returns_of_saveEos hsave).mpr hends, hcourse⟩
      · obtain ⟨o, hends, hcourse⟩ := readPreamble_course hsave hset
        exact ⟨o, (returns_of_saveEos hsave).mpr hends, hcourse⟩

end ArbitraryBlock
end DevGpib
end AsynDriver
