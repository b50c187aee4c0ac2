import AsynDriver.Library.Loop
import AsynDriver.Library.Rounding
import AsynDriver.Manager.Types
import Mathlib.Algebra.Order.Ring.Rat
import Mathlib.Data.Nat.Find
import Mathlib.Tactic.Linarith

/-!
# Transfers of `ftdiDriver.cpp`

`FTDIDriver::write` and `FTDIDriver::read` of a connected driver, without the asynchronous functions of
libftdi, and the methods of `drvAsynFTDIPort` that call them.

* `write`, `writeIt` — with what libftdi returns and, in UART mode, with what `rc[3]` contained.
* `Answers`, `pass`, `readIt` — the reads and the times that the loop of a read gets; times are in
  milliseconds from the start of the second in which the read begins.
* `WriteExact`, `ReadExact` — the outcome says what was transferred.
* `transfer_exact_iff` — in which cases it does.
-/

namespace AsynDriver
namespace Serial
namespace FTDITransfer

open Manager (AsynStatus)

inductive DriverStatus
  | success
  | timeout
  | error
  deriving DecidableEq, Repr

/-! ## Writes -/

/-- The bytes of `buf`. -/
def bufBytes : Nat := 0x10000 * 4

/-- What a write returns and stores; `copied` bytes were copied to `buf`. -/
structure WriteResult (σ : Type) where
  status : σ
  bytesWritten : Nat
  copied : Nat
  deriving DecidableEq

/-- `FTDIDriver::write`, where `ftdi_write_data` returns `n`.  In UART mode `n` goes to `rc[7]`, and
`rc3` is what was in the array. -/
def write (spi : Bool) (bufferSize n : Int) (rc3 : Nat) : WriteResult DriverStatus :=
  let sz := (bufferSize % 65536 - 1) % 65536
  let copied := if spi then (bufferSize % 2 ^ 64).toNat else 0
  -- As a `size_t` a negative `n` is positive.
  let positive := if spi then decide (n ≠ 0) else decide (rc3 > 0)
  if positive then ⟨.success, (sz + 1).toNat, copied⟩ else ⟨.error, 0, copied⟩

/-- The conversion of a `size_t` to `int`. -/
def toInt (n : Nat) : Int := (n : Int).bmod (2 ^ 32)

/-- `writeIt`. -/
def writeIt (spi : Bool) (numchars : Nat) (n : Int) (rc3 : Nat) : WriteResult AsynStatus :=
  if numchars = 0 then ⟨.asynSuccess, 0, 0⟩
  else
    let r := write spi (toInt numchars) n rc3
    ⟨if r.status = .success then .asynSuccess else .asynError, r.bytesWritten, r.copied⟩

/-- Whatever was in `rc`, the result is a success exactly if libftdi has accepted all bytes, and it counts
those that were accepted; `buf` has room for what is copied. -/
def WriteExact (spi : Bool) (numchars : Nat) (n : Int) : Prop :=
  let accepted := if numchars = 0 then 0 else n
  ∃ r, (∀ rc3, writeIt spi numchars n rc3 = r) ∧ (r.status = .asynSuccess ↔ accepted = numchars) ∧
    r.bytesWritten = accepted.toNat ∧ r.copied ≤ bufBytes

/-- In SPI mode, either nothing is accepted and what is copied fits in `buf`, or everything and the size
fits in 16 bits. -/
def WriteFits (spi : Bool) (numchars : Nat) (n : Int) : Prop :=
  numchars = 0 ∨ spi = true ∧
    ((n = 0 ∧ 0 ≤ toInt numchars ∧ toInt numchars ≤ bufBytes) ∨ (n = numchars ∧ numchars ≤ 65536))

/-! ## Reads -/

/-- What libftdi and the clock return while a read is going on: the `k`-th `ftdi_read_data`, and the
`k`-th `gettimeofday` after the first.  The clock may be set, also back. -/
structure Answers where
  stime : Nat
  rc : Nat → Int
  clock : Nat → Int

/-- The locals of `FTDIDriver::read`, with the number of times the clock was read in the loop. -/
structure State where
  clocks : Nat
  tnow : Int
  bytesRead : Nat

/-- The end of `FTDIDriver::read`. -/
def finish (answers : Answers) (timeout : Int) (s : State) : DriverStatus × Nat :=
  let tnow := answers.clock s.clocks
  if timeout > 0 ∧ tnow ≥ answers.stime + timeout then (.timeout, s.bytesRead)
  else (.success, s.bytesRead)

/-- A test of the loop's condition, and a pass. -/
def pass (spi : Bool) (answers : Answers) (timeout : Int) (s : State) : State ⊕ (DriverStatus × Nat) :=
  if s.bytesRead = 0 ∧ s.tnow < answers.stime + timeout then
    let rc := answers.rc s.clocks
    let bytesRead := if rc > 0 then s.bytesRead + rc.toNat else s.bytesRead
    if bytesRead = 0 then
      if spi then .inr (.timeout, bytesRead)
      else .inl ⟨s.clocks + 1, answers.clock s.clocks, bytesRead⟩
    else .inl ⟨s.clocks, s.tnow, bytesRead⟩
  else .inr (finish answers timeout s)

def start : State := ⟨0, 0, 0⟩

/-- `(int)(pasynUser->timeout*1000.0)`. -/
def milliseconds (timeout : Rat) : Int := Library.toInt32 (Library.roundDouble (timeout * 1000))

/-- What `readIt` returns; `nbytesTransferred` is not stored when it refuses the call. -/
structure ReadResult where
  status : AsynStatus
  nbytesTransferred : Option Nat
  eomCnt : Bool
  deriving DecidableEq

/-- `readIt` after `FTDIDriver::read`. -/
def afterRead (timeout : Rat) (maxchars : Nat) (r : DriverStatus × Nat) : ReadResult :=
  let status : AsynStatus :=
    match r.1 with
    | .success => .asynSuccess
    | .timeout => .asynTimeout
    | .error => .asynError
  { status := if r.2 = 0 ∧ timeout = 0 then .asynTimeout else status
    nbytesTransferred := some r.2
    eomCnt := decide (maxchars ≤ r.2) }

/-- `readIt`, with a bound on the passes of the loop. -/
def readIt (spi : Bool) (timeout : Rat) (maxchars : Nat) (answers : Answers) (fuel : Nat) :
    Option ReadResult :=
  if maxchars = 0 then some ⟨.asynError, none, false⟩
  else
    (Library.Loop.run (pass spi answers (milliseconds timeout)) fuel start).map (afterRead timeout maxchars)

/-- The read ends, and is a success exactly if it delivers bytes. -/
def ReadExact (spi : Bool) (timeout : Rat) (maxchars : Nat) (answers : Answers) : Prop :=
  ∃ fuel r, readIt spi timeout maxchars answers fuel = some r ∧
    (r.status = .asynSuccess ↔ ∃ n, r.nbytesTransferred = some n ∧ 0 < n)

/-- The first bytes come with the `k`-th of the reads that fit in the timeout. -/
def Arrives (spi : Bool) (timeout : Rat) (answers : Answers) (k : Nat) : Prop :=
  (spi = true → k = 0) ∧ 0 < answers.stime + milliseconds timeout ∧ 0 < answers.rc k ∧
    ∀ j, j < k → answers.rc j ≤ 0 ∧ answers.clock j < answers.stime + milliseconds timeout

/-- The `k`-th value of the clock is the first that is too late. -/
def Expires (timeout : Rat) (answers : Answers) (k : Nat) : Prop :=
  answers.stime + milliseconds timeout ≤ answers.clock k ∧
    ∀ j, j < k → answers.clock j < answers.stime + milliseconds timeout

/-- The loop ends without bytes, in a way that is not a success: the timeout is exactly 0, or the read is an
SPI read that was tried, or there is a timeout of at least a millisecond that is still over when the clock is
read again behind the loop. -/
def TimesOut (spi : Bool) (timeout : Rat) (answers : Answers) : Prop :=
  if 0 < answers.stime + milliseconds timeout then
    spi = true ∨ ∃ k, Expires timeout answers k ∧
      (timeout = 0 ∨ 0 < milliseconds timeout ∧
        answers.stime + milliseconds timeout ≤ answers.clock (k + 1))
  else timeout = 0

/-- Bytes that come are there before the timeout is over, or there is none; a read to which none come times
out. -/
def ReadInTime (spi : Bool) (timeout : Rat) (maxchars : Nat) (answers : Answers) : Prop :=
  maxchars = 0 ∨
    (∃ k, Arrives spi timeout answers k ∧
      (milliseconds timeout ≤ 0 ∨ answers.clock k < answers.stime + milliseconds timeout)) ∨
    (∀ k, ¬ Arrives spi timeout answers k) ∧ TimesOut spi timeout answers

/-! ## What a write returns -/

theorem writeIt_uart_differs {numchars : Nat} (hne : numchars ≠ 0) (n : Int) :
    writeIt false numchars n 0 ≠ writeIt false numchars n 1 := by
  unfold writeIt write
  simp only [hne, if_false, Bool.false_eq_true, Nat.lt_irrefl, gt_iff_lt, decide_false, reduceCtorEq,
    Nat.zero_lt_one, decide_true, if_true, ne_eq, WriteResult.mk.injEq, false_and, not_false_eq_true]

theorem toInt_of_le {numchars : Nat} (hle : numchars ≤ 65536) : toInt numchars = numchars := by
  unfold toInt
  rw [Int.bmod_eq_of_le_mul_two] <;> omega

/-- The count that is made of the 16 bits of the size. -/
theorem count_of_size {numchars : Nat} (hpos : 0 < numchars) (hle : numchars ≤ 65536) :
    ((toInt numchars % 65536 - 1) % 65536 + 1).toNat = numchars := by
  rw [toInt_of_le hle]
  omega

theorem count_le (bufferSize : Int) : ((bufferSize % 65536 - 1) % 65536 + 1).toNat ≤ 65536 := by
  omega

theorem write_exact_iff (spi : Bool) (numchars : Nat) (n : Int) :
    WriteExact spi numchars n ↔ WriteFits spi numchars n := by
  unfold WriteExact WriteFits
  by_cases hzero : numchars = 0
  · subst hzero
    refine ⟨fun _ => .inl rfl, fun _ => ⟨⟨.asynSuccess, 0, 0⟩, fun _ => rfl, ?_⟩⟩
    simp
  · simp only [hzero, if_false, false_or]
    cases spi with
    | false =>
        constructor
        · rintro ⟨r, hall, -⟩
          exact absurd ((hall 0).trans (hall 1).symm) (writeIt_uart_differs hzero n)
        · exact fun h => nomatch h.1
    | true =>
        have hresult : ∀ rc3, writeIt true numchars n rc3 =
            if n ≠ 0 then
              ⟨.asynSuccess, ((toInt numchars % 65536 - 1) % 65536 + 1).toNat,
                (toInt numchars % 2 ^ 64).toNat⟩
            else ⟨.asynError, 0, (toInt numchars % 2 ^ 64).toNat⟩ := by
          intro rc3
          unfold writeIt write
          by_cases hn : n = 0 <;> simp [hzero, hn]
        have hrange : -2 ^ 31 ≤ toInt numchars ∧ toInt numchars < 2 ^ 31 := by
          have hlow := Int.le_bmod (x := (numchars : Int)) (m := 2 ^ 32) (by decide)
          have hhigh := Int.bmod_lt (x := (numchars : Int)) (m := 2 ^ 32) (by decide)
          unfold toInt
          constructor <;> omega
        simp only [hresult, true_and]
        by_cases hn : n = 0
        · subst hn
          simp only [ne_eq, not_true_eq_false, if_false, Int.toNat_zero, true_and]
          constructor
          · rintro ⟨r, hall, -, -, hcopied⟩
            rw [← hall 0] at hcopied
            unfold bufBytes at hcopied ⊢
            refine .inl ⟨?_, ?_⟩ <;> simp only at hcopied <;> omega
          · rintro (⟨hlow, hhigh⟩ | ⟨heq, -⟩)
            · refine ⟨_, fun _ => rfl, ?_, rfl, ?_⟩
              · simp only [reduceCtorEq, false_iff]
                omega
              · unfold bufBytes at hhigh ⊢
                simp only
                omega
            · omega
        · simp only [ne_eq, hn, not_false_eq_true, if_true, false_and, false_or]
          constructor
          · rintro ⟨r, hall, hstatus, hcount, -⟩
            rw [← hall 0] at hstatus hcount
            have hall : n = numchars := hstatus.mp rfl
            refine ⟨hall, ?_⟩
            have hle := count_le (toInt numchars)
            simp only at hcount
            omega
          · rintro ⟨rfl, hle⟩
            refine ⟨_, fun _ => rfl, ?_, ?_, ?_⟩
            · simp
            · have hcount := count_of_size (Nat.pos_of_ne_zero hzero) hle
              simp only [hcount, Int.toNat_natCast]
            · have hint := toInt_of_le hle
              unfold bufBytes
              simp only
              omega

/-! ## What a read returns -/

section Reads

variable {spi : Bool} {timeout : Rat} {maxchars : Nat} {answers : Answers}

/-- The outcome is that of the loop. -/
theorem readExact_iff_of_returns {r : DriverStatus × Nat} (hne : maxchars ≠ 0)
    (hreturns : Library.Loop.Returns (pass spi answers (milliseconds timeout)) start r) :
    ReadExact spi timeout maxchars answers ↔
      ((afterRead timeout maxchars r).status = .asynSuccess ↔ 0 < r.2) := by
  constructor
  · rintro ⟨fuel, result, hread, hexact⟩
    unfold readIt at hread
    rw [if_neg hne, Option.map_eq_some_iff] at hread
    obtain ⟨r', hrun, rfl⟩ := hread
    obtain rfl : r' = r := Library.Loop.Returns.unique ⟨fuel, hrun⟩ hreturns
    simpa [afterRead] using hexact
  · intro hexact
    obtain ⟨fuel, hrun⟩ := hreturns
    refine ⟨fuel, afterRead timeout maxchars r, ?_, ?_⟩
    · unfold readIt
      rw [if_neg hne, hrun]
      rfl
    · simpa [afterRead] using hexact

/-- Bytes that were delivered go with a success of the driver. -/
theorem exact_of_bytes {d : DriverStatus} {n : Nat} (hpos : 0 < n) :
    ((afterRead timeout maxchars (d, n)).status = .asynSuccess ↔ 0 < n) ↔ d = .success := by
  have hne : n ≠ 0 := by omega
  cases d <;> simp [afterRead, hne, hpos]

/-- Without bytes it is the timeout of the driver, or the test for a timeout of 0. -/
theorem exact_of_none {d : DriverStatus} :
    ((afterRead timeout maxchars (d, 0)).status = .asynSuccess ↔ 0 < 0) ↔
      d ≠ .success ∨ timeout = 0 := by
  by_cases hzero : timeout = 0 <;> cases d <;> simp [afterRead, hzero]

/-- Before the `k`-th read, when no bytes came with those before it. -/
def waiting (answers : Answers) : Nat → State
  | 0 => start
  | k + 1 => ⟨k + 1, answers.clock k, 0⟩

theorem waiting_clocks (k : Nat) : (waiting answers k).clocks = k := by
  cases k <;> rfl

theorem waiting_bytesRead (k : Nat) : (waiting answers k).bytesRead = 0 := by
  cases k <;> rfl

/-- It is not too late for the `k`-th read. -/
theorem waiting_tnow {deadline : Int} {k : Nat} (hstart : 0 < deadline)
    (hbefore : ∀ j, j < k → answers.clock j < deadline) : (waiting answers k).tnow < deadline := by
  cases k with
  | zero => exact hstart
  | succ k => exact hbefore k (Nat.lt_succ_self k)

/-- A read of a UART without bytes. -/
theorem pass_waiting {T : Int} {k : Nat} (htnow : (waiting answers k).tnow < answers.stime + T)
    (hrc : answers.rc k ≤ 0) :
    pass false answers T (waiting answers k) = .inl (waiting answers (k + 1)) := by
  unfold pass
  rw [if_pos ⟨waiting_bytesRead k, htnow⟩, waiting_clocks, waiting_bytesRead]
  simp only [gt_iff_lt, Int.not_lt.mpr hrc, if_false, if_true, Bool.false_eq_true]
  rfl

/-- A read without bytes in SPI mode. -/
theorem pass_spi_none {T : Int} (hstart : 0 < answers.stime + T) (hrc : answers.rc 0 ≤ 0) :
    pass true answers T start = .inr (.timeout, 0) := by
  unfold pass
  rw [if_pos ⟨rfl, hstart⟩]
  simp [start, Int.not_lt.mpr hrc]

/-- The read with which bytes come is the last one. -/
theorem returns_of_bytes {T : Int} {k : Nat}
    (htnow : (waiting answers k).tnow < answers.stime + T) (hrc : 0 < answers.rc k) :
    Library.Loop.Returns (pass spi answers T) (waiting answers k)
      (finish answers T ⟨k, (waiting answers k).tnow, (answers.rc k).toNat⟩) := by
  have hne : (answers.rc k).toNat ≠ 0 := by omega
  have hread : pass spi answers T (waiting answers k) =
      .inl ⟨k, (waiting answers k).tnow, (answers.rc k).toNat⟩ := by
    unfold pass
    rw [if_pos ⟨waiting_bytesRead k, htnow⟩, waiting_clocks, waiting_bytesRead]
    simp only [gt_iff_lt, hrc, if_true, Nat.zero_add, hne, if_false]
  have hlast : pass spi answers T ⟨k, (waiting answers k).tnow, (answers.rc k).toNat⟩ =
      .inr (finish answers T ⟨k, (waiting answers k).tnow, (answers.rc k).toNat⟩) := by
    unfold pass
    exact if_neg fun h => hne h.1
  exact (Library.Loop.returns_of_inl hread).mpr ((Library.Loop.returns_of_inr hlast).mpr rfl)

/-- There is one read with which the first bytes come. -/
theorem Arrives.unique {k k' : Nat} (hk : Arrives spi timeout answers k)
    (hk' : Arrives spi timeout answers k') : k = k' := by
  rcases Nat.lt_trichotomy k k' with hlt | heq | hgt
  · exact absurd hk.2.2.1 (Int.not_lt.mpr (hk'.2.2.2 k hlt).1)
  · exact heq
  · exact absurd hk'.2.2.1 (Int.not_lt.mpr (hk.2.2.2 k' hgt).1)

/-- A read that gets bytes returns in its last pass. -/
theorem Arrives.returns {k : Nat} (hk : Arrives spi timeout answers k) :
    ∃ t, Library.Loop.Returns (pass spi answers (milliseconds timeout)) start
      (finish answers (milliseconds timeout) ⟨k, t, (answers.rc k).toNat⟩) := by
  obtain ⟨hspi, hstart, hrc, hbefore⟩ := hk
  refine ⟨(waiting answers k).tnow, ?_⟩
  have hlast : Library.Loop.Returns (pass spi answers (milliseconds timeout)) (waiting answers k)
      (finish answers (milliseconds timeout) ⟨k, (waiting answers k).tnow, (answers.rc k).toNat⟩) :=
    returns_of_bytes (waiting_tnow hstart fun j hj => (hbefore j hj).2) hrc
  cases spi with
  | true =>
      obtain rfl := hspi rfl
      exact hlast
  | false =>
      refine (Library.Loop.returns_iff_of_path (p := waiting answers) (n := k) ?_).mpr hlast
      intro i hi
      refine pass_waiting (waiting_tnow hstart ?_) (hbefore i hi).1
      exact fun j hj => (hbefore j (by omega)).2

/-- There is one clock value that is the first too late one, if there is any. -/
theorem exists_expires (hlate : ∃ k, answers.stime + milliseconds timeout ≤ answers.clock k) :
    ∃ k, Expires timeout answers k :=
  ⟨Nat.find hlate, Nat.find_spec hlate, fun _ hj => Int.not_le.mp (Nat.find_min hlate hj)⟩

theorem Expires.unique {k k' : Nat} (hk : Expires timeout answers k)
    (hk' : Expires timeout answers k') : k = k' := by
  rcases Nat.lt_trichotomy k k' with hlt | heq | hgt
  · exact absurd (hk'.2 k hlt) (Int.not_lt.mpr hk.1)
  · exact heq
  · exact absurd (hk.2 k' hgt) (Int.not_lt.mpr hk'.1)

/-- No read before the deadline has bytes if none has the first ones. -/
theorem rc_of_not_arrives {k : Nat} (hnone : ∀ k, ¬ Arrives false timeout answers k)
    (hstart : 0 < answers.stime + milliseconds timeout)
    (hbefore : ∀ j, j < k → answers.clock j < answers.stime + milliseconds timeout) :
    ∀ j, j ≤ k → answers.rc j ≤ 0 := by
  intro j
  induction j using Nat.strongRecOn with
  | _ j ih =>
      intro hj
      by_contra hrc
      refine hnone j ⟨(fun h => nomatch h), hstart, Int.not_le.mp hrc, ?_⟩
      exact fun i hi => ⟨ih i hi (by omega), hbefore i (by omega)⟩

/-- The deadline has passed before the first read. -/
theorem readExact_iff_of_past (hne : maxchars ≠ 0) (hpast : ¬ 0 < answers.stime + milliseconds timeout) :
    ReadExact spi timeout maxchars answers ↔ timeout = 0 := by
  have hlast : pass spi answers (milliseconds timeout) start =
      .inr (finish answers (milliseconds timeout) start) := by
    unfold pass
    exact if_neg fun h => hpast h.2
  have hfinish : finish answers (milliseconds timeout) start = (.success, 0) := by
    unfold finish
    exact if_neg fun h => by omega
  rw [hfinish] at hlast
  rw [readExact_iff_of_returns hne ((Library.Loop.returns_of_inr hlast).mpr rfl), exact_of_none]
  simp only [ne_eq, not_true_eq_false, false_or]

/-- Without bytes the loop goes on to the first clock value that is too late. -/
theorem Expires.returns {k : Nat} (hk : Expires timeout answers k)
    (hnone : ∀ k, ¬ Arrives false timeout answers k)
    (hstart : 0 < answers.stime + milliseconds timeout) :
    Library.Loop.Returns (pass false answers (milliseconds timeout)) start
      (finish answers (milliseconds timeout) (waiting answers (k + 1))) := by
  have hrc := rc_of_not_arrives hnone hstart hk.2
  have hpath : ∀ i, i < k + 1 → pass false answers (milliseconds timeout) (waiting answers i) =
      .inl (waiting answers (i + 1)) := by
    intro i hi
    refine pass_waiting (waiting_tnow hstart ?_) (hrc i (by omega))
    exact fun j hj => hk.2 j (by omega)
  have hlast : pass false answers (milliseconds timeout) (waiting answers (k + 1)) =
      .inr (finish answers (milliseconds timeout) (waiting answers (k + 1))) := by
    unfold pass
    exact if_neg fun h => absurd h.2 (Int.not_lt.mpr hk.1)
  refine (Library.Loop.returns_iff_of_path (p := waiting answers) hpath).mpr ?_
  exact (Library.Loop.returns_of_inr hlast).mpr rfl

/-- Without bytes, and with no clock value that is too late, the loop goes on for ever. -/
theorem not_returns (hnone : ∀ k, ¬ Arrives false timeout answers k)
    (hstart : 0 < answers.stime + milliseconds timeout)
    (hbefore : ∀ k, answers.clock k < answers.stime + milliseconds timeout) (r : DriverStatus × Nat) :
    ¬ Library.Loop.Returns (pass false answers (milliseconds timeout)) start r := by
  refine Library.Loop.not_returns (I := fun s => ∃ k, s = waiting answers k) ⟨0, rfl⟩ ?_
  rintro s ⟨k, rfl⟩
  have hrc := rc_of_not_arrives hnone hstart (fun j _ => hbefore j) k (Nat.le_refl k)
  exact ⟨_, pass_waiting (waiting_tnow hstart fun j _ => hbefore j) hrc, k + 1, rfl⟩

/-- The second test of the time decides what a read without bytes returns. -/
theorem readExact_iff_of_expires {k : Nat} (hne : maxchars ≠ 0) (hk : Expires timeout answers k)
    (hnone : ∀ k, ¬ Arrives false timeout answers k)
    (hstart : 0 < answers.stime + milliseconds timeout) :
    ReadExact false timeout maxchars answers ↔ timeout = 0 ∨ 0 < milliseconds timeout ∧
      answers.stime + milliseconds timeout ≤ answers.clock (k + 1) := by
  have hfinish : finish answers (milliseconds timeout) (waiting answers (k + 1)) =
      (if 0 < milliseconds timeout ∧ answers.stime + milliseconds timeout ≤ answers.clock (k + 1)
        then DriverStatus.timeout else .success, 0) := by
    unfold finish
    rw [waiting_clocks, waiting_bytesRead]
    split
    · next hlate => rw [if_pos hlate]
    · next hlate => rw [if_neg hlate]
  have hreturns := hk.returns hnone hstart
  rw [hfinish] at hreturns
  rw [readExact_iff_of_returns hne hreturns, exact_of_none]
  split
  · next hlate => simp only [ne_eq, reduceCtorEq, not_false_eq_true, true_or, hlate, and_self, or_true]
  · next hlate => simp only [ne_eq, not_true_eq_false, false_or, hlate, or_false]

/-- A read to which no bytes come. -/
theorem readExact_iff_timesOut (hne : maxchars ≠ 0) (hnone : ∀ k, ¬ Arrives spi timeout answers k) :
    ReadExact spi timeout maxchars answers ↔ TimesOut spi timeout answers := by
  unfold TimesOut
  by_cases hstart : 0 < answers.stime + milliseconds timeout
  · rw [if_pos hstart]
    cases spi with
    | true =>
        have hrc : answers.rc 0 ≤ 0 := by
          by_contra hrc
          refine hnone 0 ⟨fun _ => rfl, hstart, Int.not_le.mp hrc, ?_⟩
          exact fun j hj => absurd hj (Nat.not_lt_zero j)
        have hreturns := (Library.Loop.returns_of_inr (pass_spi_none hstart hrc)).mpr rfl
        rw [readExact_iff_of_returns hne hreturns, exact_of_none]
        simp only [ne_eq, reduceCtorEq, not_false_eq_true, true_or]
    | false =>
        simp only [Bool.false_eq_true, false_or]
        by_cases hlate : ∃ k, answers.stime + milliseconds timeout ≤ answers.clock k
        · obtain ⟨k, hk⟩ := exists_expires hlate
          rw [readExact_iff_of_expires hne hk hnone hstart]
          constructor
          · exact fun hexact => ⟨k, hk, hexact⟩
          · rintro ⟨k', hk', hexact⟩
            rwa [hk.unique hk']
        · have hbefore : ∀ k, answers.clock k < answers.stime + milliseconds timeout :=
            fun k => Int.not_le.mp fun hk => hlate ⟨k, hk⟩
          constructor
          · rintro ⟨fuel, result, hread, -⟩
            unfold readIt at hread
            rw [if_neg hne, Option.map_eq_some_iff] at hread
            obtain ⟨r, hrun, -⟩ := hread
            exact absurd ⟨fuel, hrun⟩ (not_returns hnone hstart hbefore r)
          · rintro ⟨k, hk, -⟩
            exact absurd hk.1 (Int.not_le.mpr (hbefore k))
  · rw [if_neg hstart, readExact_iff_of_past hne hstart]

theorem read_exact_iff (spi : Bool) (timeout : Rat) (maxchars : Nat) (answers : Answers) :
    ReadExact spi timeout maxchars answers ↔ ReadInTime spi timeout maxchars answers := by
  unfold ReadInTime
  by_cases hzero : maxchars = 0
  · subst hzero
    refine ⟨fun _ => .inl rfl, fun _ => ⟨0, ⟨.asynError, none, false⟩, rfl, ?_⟩⟩
    simp
  by_cases hbytes : ∃ k, Arrives spi timeout answers k
  · obtain ⟨k, hk⟩ := hbytes
    obtain ⟨t, hreturns⟩ := hk.returns
    have hpos : 0 < (answers.rc k).toNat := by
      have hrc := hk.2.2.1
      omega
    -- The driver's last test of the time decides.
    have hdriver : (finish answers (milliseconds timeout) ⟨k, t, (answers.rc k).toNat⟩) =
        (if 0 < milliseconds timeout ∧ answers.stime + milliseconds timeout ≤ answers.clock k
          then DriverStatus.timeout else .success, (answers.rc k).toNat) := by
      unfold finish
      split <;> simp_all
    rw [hdriver] at hreturns
    rw [readExact_iff_of_returns hzero hreturns, exact_of_bytes hpos]
    constructor
    · intro hsuccess
      refine .inr (.inl ⟨k, hk, ?_⟩)
      split at hsuccess
      · exact nomatch hsuccess
      · omega
    · rintro (h | ⟨k', hk', hintime⟩ | ⟨hnone, -⟩)
      · exact absurd h hzero
      · obtain rfl := hk'.unique hk
        exact if_neg (by omega)
      · exact absurd hk (hnone k)
  · have hnone : ∀ k, ¬ Arrives spi timeout answers k := fun k hk => hbytes ⟨k, hk⟩
    rw [readExact_iff_timesOut hzero hnone]
    constructor
    · exact fun htimes => .inr (.inr ⟨hnone, htimes⟩)
    · rintro (h | ⟨k, hk, -⟩ | ⟨-, htimes⟩)
      · exact absurd h hzero
      · exact absurd hk (hnone k)
      · exact htimes

end Reads

/-- When the outcome of a transfer says what was transferred. -/
theorem transfer_exact_iff (spi : Bool) (numchars : Nat) (n : Int) (timeout : Rat) (maxchars : Nat)
    (answers : Answers) :
    (WriteExact spi numchars n ↔ WriteFits spi numchars n) ∧
      (ReadExact spi timeout maxchars answers ↔ ReadInTime spi timeout maxchars answers) :=
  ⟨write_exact_iff spi numchars n, read_exact_iff spi timeout maxchars answers⟩

/-- Reads that bring a byte each, with a clock that goes on by a second from one to the next. -/
def lateBytes : Answers where
  stime := 0
  rc := fun _ => 1
  clock := fun k => 1000 * (k + 1)

/-- A write in UART mode that libftdi accepts, and a read whose byte comes when the time is over. -/
theorem transfer_differs : ¬ WriteExact false 1 1 ∧
    readIt false (1 / 2) 1 lateBytes 2 = some ⟨.asynTimeout, some 1, true⟩ := by
  refine ⟨?_, by decide +kernel⟩
  rintro ⟨r, hall, -⟩
  exact writeIt_uart_differs Nat.one_ne_zero 1 ((hall 0).trans (hall 1).symm)

end FTDITransfer
end Serial
end AsynDriver
