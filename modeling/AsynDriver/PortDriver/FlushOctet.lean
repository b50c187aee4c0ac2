import AsynDriver.Library.Loop
import AsynDriver.PortDriver.DefaultMethods
import Mathlib.Data.Nat.Find
import Mathlib.Logic.Function.Iterate

/-!
# Flushing by reading

`flushIt` of `asynOctetBase` reads until a read reports no bytes, if the driver has no `flush` of its
own.  `flushOctet` of `asynPortDriver` is the same loop over `readOctet`, and is this driver's `flush`.

* `OctetDriver` — a driver below `asynOctetBase`, with any state of its own.
* `flushPass`, `flushLoop`, `flushIt`, `flushOctet` — the loop and the two methods.
* `Delivers` — a reader that has a finite amount of input and reports no bytes after it;
  `flush_ends_of_delivers` says that its flush ends.
* `flush_ends_iff` — the default `readOctet` reports at least one byte whenever it gets to the parameter
  library, so that its flush ends exactly for a client that it does not know.
-/

namespace AsynDriver
namespace PortDriver

open Manager (AsynStatus)

variable {σ : Type}

/-- The timeout of the client's `asynUser`, in milliseconds, and the driver. -/
structure FlushClient (σ : Type) where
  timeout : Nat
  driver : σ

/-- The methods of a driver: `read`, with a timeout, into a buffer of 100 bytes, gives
`*nbytesTransferred` if it stores it; `flush`, if there is one, may take a number of passes. -/
structure OctetDriver (σ : Type) where
  read : Nat → σ → σ × Option Nat
  flush : Option (Nat → FlushClient σ → Option (FlushClient σ))

/-- 0.05 s. -/
def flushTimeout : Nat := 50

/-- One pass of the loop, with `nbytesTransferred` 0 before the read. -/
def flushPass (read : Nat → σ → σ × Option Nat) (s : σ) : σ ⊕ σ :=
  let r := read flushTimeout s
  if r.2.getD 0 = 0 then .inr r.1 else .inl r.1

/-- The loop, after which the timeout is the one before. -/
def flushLoop (read : Nat → σ → σ × Option Nat) (fuel : Nat) (c : FlushClient σ) : Option (FlushClient σ) :=
  (Library.Loop.run (flushPass read) fuel c.driver).map fun s => { c with driver := s }

/-- `flushIt`; a driver without a `flush` has `overrideFlush` set. -/
def flushIt (driver : OctetDriver σ) (fuel : Nat) (c : FlushClient σ) : Option (FlushClient σ) :=
  match driver.flush with
  | some flush => flush fuel c
  | none => flushLoop driver.read fuel c

/-- The flush returns. -/
def FlushEnds (driver : OctetDriver σ) (c : FlushClient σ) : Prop :=
  ∃ fuel c', flushIt driver fuel c = some c'

/-! ## A driver without a flush -/

/-- What the `k`-th of the reads reports that follow each other from `s`. -/
def reported (read : Nat → σ → σ × Option Nat) (s : σ) (k : Nat) : Nat :=
  (read flushTimeout ((fun s => (read flushTimeout s).1)^[k] s)).2.getD 0

variable {read : Nat → σ → σ × Option Nat}

theorem flushPass_of_ne_zero {s : σ} (hbytes : (read flushTimeout s).2.getD 0 ≠ 0) :
    flushPass read s = .inl (read flushTimeout s).1 := if_neg hbytes

theorem flushPass_of_zero {s : σ} (hbytes : (read flushTimeout s).2.getD 0 = 0) :
    flushPass read s = .inr (read flushTimeout s).1 := if_pos hbytes

theorem flushLoop_ends_iff {c : FlushClient σ} :
    (∃ fuel c', flushLoop read fuel c = some c') ↔ ∃ s, Library.Loop.Returns (flushPass read) c.driver s := by
  constructor
  · rintro ⟨fuel, c', hloop⟩
    obtain ⟨s, hrun, -⟩ := Option.map_eq_some_iff.mp hloop
    exact ⟨s, fuel, hrun⟩
  · rintro ⟨s, fuel, hrun⟩
    refine ⟨fuel, { c with driver := s }, ?_⟩
    rw [flushLoop, hrun, Option.map_some]

/-- The loop ends exactly at a read that reports nothing. -/
theorem returns_iff_reported {s : σ} :
    (∃ s', Library.Loop.Returns (flushPass read) s s') ↔ ∃ k, reported read s k = 0 := by
  constructor
  · rintro ⟨s', hreturns⟩
    by_contra hnone
    have hbytes : ∀ k, reported read s k ≠ 0 := fun k hk => hnone ⟨k, hk⟩
    refine Library.Loop.not_returns
      (I := fun t => ∃ k, t = (fun s => (read flushTimeout s).1)^[k] s) ⟨0, rfl⟩ ?_ hreturns
    rintro t ⟨k, rfl⟩
    refine ⟨_, flushPass_of_ne_zero (hbytes k), k + 1, ?_⟩
    rw [Function.iterate_succ_apply']
  · intro hex
    let k := Nat.find hex
    have hk : reported read s k = 0 := Nat.find_spec hex
    have hpath : ∀ i, i < k → flushPass read ((fun s => (read flushTimeout s).1)^[i] s) =
        .inl ((fun s => (read flushTimeout s).1)^[i + 1] s) := by
      intro i hi
      have hbytes : reported read s i ≠ 0 := Nat.find_min hex hi
      rw [flushPass_of_ne_zero hbytes, Function.iterate_succ_apply']
    have hlast := (Library.Loop.returns_of_inr (flushPass_of_zero hk)).mpr rfl
    exact ⟨_, (Library.Loop.returns_iff_of_path
      (p := fun i => (fun s => (read flushTimeout s).1)^[i] s) hpath).mpr hlast⟩

/-- A reader with `pending s` bytes of input: a read that reports bytes takes some of them, and without
input it reports none. -/
structure Delivers (read : Nat → σ → σ × Option Nat) (pending : σ → Nat) : Prop where
  takes : ∀ s, (read flushTimeout s).2.getD 0 ≠ 0 → pending (read flushTimeout s).1 < pending s

/-- Over a reader with finite input the loop ends. -/
theorem flush_ends_of_delivers {pending : σ → Nat} (hdelivers : Delivers read pending) (c : FlushClient σ) :
    FlushEnds ⟨read, none⟩ c := by
  refine flushLoop_ends_iff.mpr (Library.Loop.exists_returns (I := fun _ => True) pending trivial ?_)
  intro s s' _ hpass
  by_cases hbytes : (read flushTimeout s).2.getD 0 = 0
  · rw [flushPass_of_zero hbytes] at hpass
    exact nomatch hpass
  · rw [flushPass_of_ne_zero hbytes] at hpass
    obtain rfl := Sum.inl.inj hpass
    exact ⟨trivial, hdelivers.takes s hbytes⟩

/-! ## `asynPortDriver` -/

/-- The `asynUser` and the C string in `buffer`; `times` are the time stamps of the reads to come. -/
structure OctetReader where
  pasynUser : AsynUser
  buffer : List UInt8
  times : Nat → Nat

namespace AsynPortDriver

variable (d : AsynPortDriver)

/-- `readOctet` into `buffer`, which changes no parameter. -/
def readBuffer (_timeout : Nat) (s : OctetReader) : OctetReader × Option Nat :=
  let r := d.readOctet s.pasynUser (s.times 0) 100 s.buffer
  (⟨r.result.pasynUser, r.result.value, fun n => s.times (n + 1)⟩, r.nActual)

/-- `flushOctet`. -/
def flushOctet (fuel : Nat) (c : FlushClient OctetReader) : Option (FlushClient OctetReader) :=
  flushLoop d.readBuffer fuel c

/-- The driver below its `asynOctetBase`. -/
def octetDriver : OctetDriver OctetReader := ⟨d.readBuffer, some d.flushOctet⟩

variable {d}

theorem nActual_readBuffer (timeout : Nat) (s : OctetReader) :
    (d.readBuffer timeout s).2.getD 0 = 0 ↔ (d.parseAsynUser s.pasynUser).1 ≠ .asynSuccess := by
  unfold readBuffer readOctet
  simp only
  split
  case isTrue hfailed => exact ⟨fun _ => hfailed, fun _ => rfl⟩
  case isFalse hparsed =>
    rw [Option.getD_some]
    exact ⟨fun h => absurd h (Nat.succ_ne_zero _), fun h => absurd h hparsed⟩

/-- A read keeps what the address and the parameter are found by. -/
theorem read_pasynUser {α : Type} (pasynUser : AsynUser) (timeStamp : Nat) (functionName : String)
    (value : ParamList → AsynStatus × α) (printed : AsynStatus → α → Printed) (old : α) :
    (d.read pasynUser timeStamp functionName value printed old).pasynUser.addr = pasynUser.addr ∧
      (d.read pasynUser timeStamp functionName value printed old).pasynUser.reason =
        pasynUser.reason := by
  unfold read
  simp only
  split
  case isTrue => exact ⟨rfl, rfl⟩
  case isFalse =>
    split
    case isTrue => exact ⟨rfl, rfl⟩
    case isFalse => exact ⟨rfl, rfl⟩

theorem readBuffer_pasynUser (timeout : Nat) (s : OctetReader) :
    (d.readBuffer timeout s).1.pasynUser.addr = s.pasynUser.addr ∧
      (d.readBuffer timeout s).1.pasynUser.reason = s.pasynUser.reason := by
  have hread := read_pasynUser (d := d) s.pasynUser (s.times 0) "readOctet"
    (fun l => l.getString s.pasynUser.reason (toInt 100) s.buffer) (fun _ value => .octet value) s.buffer
  unfold readBuffer readOctet
  simp only
  split
  case isTrue => exact hread
  case isFalse => exact hread

theorem parseAsynUser_congr {pasynUser pasynUser' : AsynUser} (haddr : pasynUser'.addr = pasynUser.addr)
    (hreason : pasynUser'.reason = pasynUser.reason) :
    d.parseAsynUser pasynUser' = d.parseAsynUser pasynUser := by
  unfold parseAsynUser
  rw [haddr, hreason]

/-- The flush of the parameter library ends exactly if it does not find the address or the parameter. -/
theorem flushOctet_ends_iff {c : FlushClient OctetReader} :
    FlushEnds d.octetDriver c ↔ (d.parseAsynUser c.driver.pasynUser).1 ≠ .asynSuccess := by
  have hloop : FlushEnds d.octetDriver c ↔
      ∃ s, Library.Loop.Returns (flushPass d.readBuffer) c.driver s := flushLoop_ends_iff
  rw [hloop]
  constructor
  · rintro ⟨s, hreturns⟩ hparsed
    refine Library.Loop.not_returns (s := c.driver)
      (I := fun s => (d.parseAsynUser s.pasynUser).1 = .asynSuccess) hparsed ?_ hreturns
    intro s hs
    have hbytes : (d.readBuffer flushTimeout s).2.getD 0 ≠ 0 := fun hzero =>
      (nActual_readBuffer flushTimeout s).mp hzero hs
    obtain ⟨haddr, hreason⟩ := readBuffer_pasynUser (d := d) flushTimeout s
    refine ⟨_, flushPass_of_ne_zero hbytes, ?_⟩
    rw [parseAsynUser_congr haddr hreason]
    exact hs
  · intro hfailed
    have hzero := (nActual_readBuffer flushTimeout c.driver).mpr hfailed
    exact ⟨_, (Library.Loop.returns_of_inr (flushPass_of_zero hzero)).mpr rfl⟩

/-- A flush of an `asynPortDriver` with the default methods ends exactly for a client whose address or
parameter does not exist; a flush of a driver without its own ends exactly if one of the reads that follow
reports no bytes. -/
theorem flush_ends_iff (d : AsynPortDriver) (c : FlushClient OctetReader)
    (read : Nat → σ → σ × Option Nat) (c' : FlushClient σ) :
    (FlushEnds d.octetDriver c ↔ (d.parseAsynUser c.driver.pasynUser).1 ≠ .asynSuccess) ∧
      (FlushEnds ⟨read, none⟩ c' ↔ ∃ k, reported read c'.driver k = 0) :=
  ⟨flushOctet_ends_iff, flushLoop_ends_iff.trans returns_iff_reported⟩

/-- A driver with one string, which is empty. -/
def oneString : AsynPortDriver :=
  ((new 1).createParamInAll "NAME" .asynParamOctet (fun _ => 0) 0).1

/-- The empty string is read as one byte for ever. -/
theorem flush_of_string_spins :
    ¬ FlushEnds oneString.octetDriver ⟨2000, ⟨⟨0, 0, 0, 0, 0, none⟩, [], fun n => n⟩⟩ := by
  intro hends
  have hparsed : (oneString.parseAsynUser ⟨0, 0, 0, 0, 0, none⟩).1 = .asynSuccess := by decide
  exact flushOctet_ends_iff.mp hends hparsed

end AsynPortDriver
end PortDriver
end AsynDriver
