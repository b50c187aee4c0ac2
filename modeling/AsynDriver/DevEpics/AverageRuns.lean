import AsynDriver.DevEpics.Average
import AsynDriver.Library.Machine

/-!
# What the averages are averages of

* `Sound` — every accepted value is in one average or waits in the sum, every average is the mean of its
  values, the averages that the callback makes reach the record through the ring or are counted as
  overflows, and in `I/O Intr` mode an average has `SVAL` values.
* `Admissible` — the steps at which the code does so; `averages_sound` is the theorem about runs.
* `each_counted_twice` — what happens elsewhere.

`devAsynInt64` registers the callback once more when the record is put to `I/O Intr`, and does not notice
the mode; its `processAiAverage` does not round.  In every support a record that is put to `I/O Intr`
brings the values along that wait in the sum, and one that is processed there with no average in the
ring averages what has come so far.
-/

namespace AsynDriver
namespace DevEpics
namespace Average

open Library
open Manager (AsynStatus)

/-- `max(1, round(SVAL))`. -/
def requested (sval : ℚ) : ℤ := max 1 ⌊sval + 1 / 2⌋

namespace Interface

/-- The average of one or more values: their mean, or a nearest integer to it. -/
def IsAverage (i : Interface) (values : List ℚ) (value : ℚ) : Prop :=
  values ≠ [] ∧
    match i with
    | .asynFloat64 => value = mean values
    | _ => ∃ z : ℤ, value = z ∧ |(z : ℚ) - mean values| ≤ 1 / 2

/-- Callback values of `asynInt32` have 32 bits. -/
def InRange : Interface → ℚ → Prop
  | .asynInt32, v => ((-2 ^ 31 : ℤ) : ℚ) ≤ v ∧ v ≤ ((2 ^ 31 - 1 : ℤ) : ℚ)
  | _, _ => True

end Interface

variable {ringSize : Nat}

structure Sound (i : Interface) (s : State ringSize) : Prop where
  /-- Each accepted value is in exactly one average or in the sum, in the order of the callbacks. -/
  counted : s.averages.flatMap Made.values ++ s.pending = s.accepted
  average : ∀ a ∈ s.averages, i.IsAverage a.values a.value
  /-- The averages of the callback go into the ring, and leave it for the record or as overflows. -/
  called : s.called.map RingBufferElement.value =
    (s.averages.filter Made.byCallback).map Made.value
  history : s.pPvt.devPvt.ring.History s.called s.fetched
    (s.reported + s.pPvt.devPvt.ringBufferOverflows)
  /-- What a processing has got is the ring's oldest average, or one it has made. -/
  fetched : (s.obtained.filter Obtained.fromRing).map Obtained.value =
    s.fetched.map RingBufferElement.value
  processed : (s.obtained.filter fun o => !o.fromRing).map Obtained.value =
    (s.averages.filter fun a => !a.byCallback).map Made.value
  /-- The record takes it unless the status is bad. -/
  taken : s.taken.Sublist (s.obtained.map Obtained.value)
  everySval : ∀ a ∈ s.averages, a.ioIntr = true → (a.values.length : ℤ) = requested s.pr.sval
  fewer : s.ioIntr = true → (s.pending.length : ℤ) < requested s.pr.sval
  registered : s.registrations = 1

/-- The steps at which the code does what `Sound` says.
* A callback: the count of the sum fits an `int`, and so does `SVAL`.
* A processing: in `I/O Intr` mode there is an average in the ring, or nothing to average; for
  `asynInt64` a mean that the processing makes is an integer.
* A change to `I/O Intr`: not for `asynInt64`, and fewer than `SVAL` values wait in the sum. -/
def Admissible (i : Interface) (s : State ringSize) : Action i.Value → Prop
  | .interruptCallbackAverage _ _ interruptAccept =>
      interruptAccept = true → s.pending.length + 1 < 2 ^ 31 ∧
        (s.ioIntr = true → s.pr.sval + 1 / 2 < 2 ^ 31)
  | .processAiAverage =>
      (s.ioIntr = true → s.pPvt.devPvt.ring.contents ≠ [] ∨ s.pending = []) ∧
        (i = .asynInt64 → s.pPvt.devPvt.ring.contents = [] → (mean s.pending).isInt = true)
  | .finishAiAverage => True
  | .putScan ioIntr =>
      ioIntr = true → i ≠ .asynInt64 ∧ (s.pending.length : ℤ) < requested s.pr.sval

instance (i : Interface) (s : State ringSize) (a : Action i.Value) :
    Decidable (Admissible i s a) := by
  cases a <;> unfold Admissible <;> infer_instance

/-! ## The numbers -/

theorem requested_pos (sval : ℚ) : 0 < requested sval := lt_max_of_lt_left Int.zero_lt_one

theorem toInt32_eq {q : ℚ} (hlow : -2 ^ 31 - 1 < q) (hhigh : q < 2 ^ 31) :
    toInt32 q = truncate q :=
  if_pos ⟨hlow, hhigh⟩

/-- Values below 1 ask for one value, however far below they are. -/
theorem numToAverage_eq {sval : ℚ} (hsval : sval + 1 / 2 < 2 ^ 31) :
    numToAverage sval = requested sval := by
  unfold numToAverage requested
  rcases le_or_gt 0 (sval + 1 / 2) with hnonneg | hneg
  · have hlow : (-2 ^ 31 - 1 : ℚ) < sval + 1 / 2 := by linarith
    simp only [toInt32_eq hlow hsval, truncate_of_nonneg hnonneg]
    split
    case isTrue hlt => exact (max_eq_left hlt.le).symm
    case isFalse hge => exact (max_eq_right (not_lt.mp hge)).symm
  · have hfloor : ⌊sval + 1 / 2⌋ < 0 := Int.floor_lt.mpr (by exact_mod_cast hneg)
    have hint : toInt32 (sval + 1 / 2) < 1 := by
      unfold toInt32
      split
      · rw [truncate_of_nonpos hneg.le]
        exact Int.lt_add_one_iff.mpr (Int.ceil_le.mpr (by exact_mod_cast hneg.le))
      · norm_num
    simp only [if_pos hint]
    exact (max_eq_left (by omega)).symm

theorem increment_eq {n : Nat} (hn : n + 1 < 2 ^ 31) : increment n = (n + 1 : Nat) := by
  unfold increment
  rw [Int.bmod_def]
  omega

theorem rounded_eq (values : List ℚ) :
    rounded values.sum values.length = awayFromZero (mean values) := by
  unfold rounded awayFromZero
  rw [if_congr sum_pos_iff_mean_pos rfl rfl]
  rfl

namespace Interface

variable {i : Interface} {m : Int32Mask} {values : List ℚ}

theorem toSum_inRange (value : i.Value) : i.InRange ((i.support m).toSum value) := by
  cases i with
  | asynInt32 =>
      have hlow := (m.convert value).le_toInt
      have hhigh := (m.convert value).toInt_lt
      constructor
      · show ((-2 ^ 31 : ℤ) : ℚ) ≤ ((m.convert value).toInt : ℚ)
        exact_mod_cast hlow
      · show ((m.convert value).toInt : ℚ) ≤ ((2 ^ 31 - 1 : ℤ) : ℚ)
        exact_mod_cast Int.le_sub_one_of_lt hhigh
  | asynInt64 => trivial
  | asynFloat64 => trivial

/-- The cast to `epicsInt32` does not cut a mean of 32-bit values. -/
theorem toInt32_rounded (hne : values ≠ []) (hrange : ∀ v ∈ values, InRange .asynInt32 v) :
    toInt32 (rounded values.sum values.length) = truncate (awayFromZero (mean values)) := by
  obtain ⟨hlow, hhigh⟩ := mean_mem hne hrange
  obtain ⟨hlt, hgt⟩ := awayFromZero_lt hlow hhigh
  rw [rounded_eq]
  apply toInt32_eq
  · push_cast at hlt
    linarith
  · push_cast at hgt
    linarith

theorem isAverage_truncate (hi : i ≠ .asynFloat64) (hne : values ≠ []) :
    i.IsAverage values (truncate (awayFromZero (mean values))) := by
  refine ⟨hne, ?_⟩
  cases i with
  | asynFloat64 => exact absurd rfl hi
  | asynInt32 => exact ⟨_, rfl, abs_truncate_awayFromZero_sub_le _⟩
  | asynInt64 => exact ⟨_, rfl, abs_truncate_awayFromZero_sub_le _⟩

/-- A 32-bit integer is taken as it is. -/
theorem toInt32_toInt32 (q : ℚ) : toInt32 (toInt32 q : ℚ) = toInt32 q := by
  have hbounds : -2 ^ 31 ≤ toInt32 q ∧ toInt32 q < 2 ^ 31 := by
    unfold toInt32
    split
    case isFalse => norm_num
    case isTrue hq =>
      rcases le_or_gt 0 q with hnonneg | hneg
      · rw [truncate_of_nonneg hnonneg]
        have hfloor : 0 ≤ ⌊q⌋ := Int.floor_nonneg.mpr hnonneg
        have hlt : ⌊q⌋ < 2 ^ 31 := Int.floor_lt.mpr (by exact_mod_cast hq.2)
        omega
      · rw [truncate_of_nonpos hneg.le]
        have hceil : ⌈q⌉ ≤ 0 := Int.ceil_le.mpr (by exact_mod_cast hneg.le)
        have hlt : -2 ^ 31 - 1 < ⌈q⌉ := Int.lt_ceil.mpr (by exact_mod_cast hq.1)
        omega
  rw [toInt32_eq, truncate_intCast]
  · have hlow : ((-2 ^ 31 : ℤ) : ℚ) ≤ toInt32 q := by exact_mod_cast hbounds.1
    push_cast at hlow
    linarith
  · exact_mod_cast hbounds.2

/-- What the callback puts into the ring, where it does. -/
theorem ringValue_isAverage (hi : i ≠ .asynInt64) (hne : values ≠ [])
    (hrange : ∀ v ∈ values, i.InRange v) :
    let value := (i.support m).ringValue values.sum values.length
    i.IsAverage values value ∧ (i.support m).taken value = value := by
  cases i with
  | asynInt32 =>
      show IsAverage .asynInt32 values (toInt32 (rounded values.sum values.length)) ∧
        ((toInt32 (toInt32 (rounded values.sum values.length)) : ℤ) : ℚ) =
          toInt32 (rounded values.sum values.length)
      rw [toInt32_toInt32, toInt32_rounded hne hrange]
      exact ⟨isAverage_truncate (by decide) hne, rfl⟩
  | asynInt64 => exact absurd rfl hi
  | asynFloat64 => exact ⟨⟨hne, rfl⟩, rfl⟩

/-- What a processing takes from the sum. -/
theorem processValue_isAverage (hne : values ≠ []) (hrange : ∀ v ∈ values, i.InRange v)
    (hint : i = .asynInt64 → (mean values).isInt = true) :
    i.IsAverage values
      ((i.support m).taken ((i.support m).processValue values.sum values.length)) := by
  cases i with
  | asynInt32 =>
      show IsAverage .asynInt32 values (toInt32 (rounded values.sum values.length))
      rw [toInt32_rounded hne hrange]
      exact isAverage_truncate (by decide) hne
  | asynInt64 =>
      have hmean := Rat.eq_num_of_isInt (hint rfl)
      refine ⟨hne, (mean values).num, hmean, ?_⟩
      rw [← hmean, sub_self, abs_zero]
      norm_num
  | asynFloat64 => exact ⟨hne, rfl⟩

end Interface

/-! ## The invariant -/

/-- With the numbers that `Sound` leaves out. -/
structure Inv (i : Interface) (m : Int32Mask) (s : State ringSize) : Prop extends Sound i s where
  sum : s.pPvt.sum = s.pending.sum
  numAverage : s.pPvt.numAverage = s.pending.length
  small : s.pending.length < 2 ^ 31
  flag : s.pPvt.isIOIntrScan = s.ioIntr
  notInt64 : i = .asynInt64 → s.ioIntr = false
  inRange : ∀ v ∈ s.accepted, i.InRange v
  converted : ∀ e ∈ s.called, (i.support m).taken e.value = e.value
  /-- The value in hand was obtained last. -/
  hand : ∀ value, s.processing = some value →
    ∃ before last, s.obtained = before ++ [last] ∧ last.value = (i.support m).taken value ∧
      s.taken.Sublist (before.map Obtained.value)

variable {i : Interface} {m : Int32Mask} {s s' : State ringSize}

theorem Inv.start (canBlock : Bool) (pr : AiRecord) : Inv i m (State.start ringSize canBlock pr) where
  counted := rfl
  average := fun _ ha => nomatch ha
  called := rfl
  history := .empty (Ring.pop_eq_none_iff.mp rfl)
  fetched := rfl
  processed := rfl
  taken := List.Sublist.refl _
  everySval := fun _ ha => nomatch ha
  fewer := fun hio => nomatch hio
  registered := rfl
  sum := rfl
  numAverage := rfl
  small := Nat.two_pow_pos 31
  flag := rfl
  notInt64 := fun _ => rfl
  inRange := fun _ hv => nomatch hv
  converted := fun _ he => nomatch he
  hand := fun _ hnone => nomatch hnone

theorem Inv.pending_inRange (hinv : Inv i m s) : ∀ v ∈ s.pending, i.InRange v := by
  intro v hv
  apply hinv.inRange
  rw [← hinv.counted]
  exact List.mem_append_right _ hv

/-- What comes out of the ring is what went in. -/
theorem Inv.mem_called (hinv : Inv i m s) {e : RingBufferElement ℚ}
    (he : e ∈ s.pPvt.devPvt.ring.contents) : e ∈ s.called := by
  obtain ⟨gone, hcalled, -, -⟩ := hinv.history.order
  rw [hcalled]
  exact List.mem_append_right _ he

/-! ### A callback -/

/-- The sum with one more value. -/
theorem Inv.add (hinv : Inv i m s) (hcount : s.pending.length + 1 < 2 ^ 31) (v : ℚ) :
    (s.pPvt.add v).sum = (s.pending ++ [v]).sum ∧
      (s.pPvt.add v).numAverage = (s.pending ++ [v]).length := by
  constructor
  · show s.pPvt.sum + v = _
    rw [hinv.sum, List.sum_append, List.sum_singleton]
  · show increment s.pPvt.numAverage = _
    rw [hinv.numAverage, increment_eq hcount, List.length_append, List.length_singleton]

/-- In `I/O Intr` mode the values that wait are fewer than `SVAL`, so with one more they are as many. -/
theorem Inv.length_of_complete (hinv : Inv i m s) (hcount : s.pending.length + 1 < 2 ^ 31)
    (hsval : s.ioIntr = true → s.pr.sval + 1 / 2 < 2 ^ 31) {v : ℚ}
    (hcomplete : (s.pPvt.add v).complete s.pr.sval = true) :
    s.ioIntr = true ∧ ((s.pending ++ [v]).length : ℤ) = requested s.pr.sval := by
  obtain ⟨hflag, hnumber⟩ := Bool.and_eq_true_iff.mp hcomplete
  have hio : s.ioIntr = true := hinv.flag.symm.trans hflag
  have hnumber := of_decide_eq_true hnumber
  rw [numToAverage_eq (hsval hio), (hinv.add hcount v).2] at hnumber
  have hfewer := hinv.fewer hio
  rw [List.length_append, List.length_singleton] at hnumber ⊢
  refine ⟨hio, ?_⟩
  push_cast at hnumber ⊢
  omega

/-- Where no average is made, the values that wait stay fewer than `SVAL`. -/
theorem Inv.length_of_incomplete (hinv : Inv i m s) (hcount : s.pending.length + 1 < 2 ^ 31)
    (hsval : s.ioIntr = true → s.pr.sval + 1 / 2 < 2 ^ 31) {v : ℚ}
    (hcomplete : (s.pPvt.add v).complete s.pr.sval = false) (hio : s.ioIntr = true) :
    ((s.pending ++ [v]).length : ℤ) < requested s.pr.sval := by
  have hflag : (s.pPvt.add v).isIOIntrScan = true := hinv.flag.trans hio
  unfold AveragePvt.complete at hcomplete
  rw [hflag, Bool.true_and] at hcomplete
  have hnumber := of_decide_eq_false hcomplete
  rw [numToAverage_eq (hsval hio), (hinv.add hcount v).2] at hnumber
  exact not_le.mp hnumber

theorem putAverage_of_incomplete (sup : Support i.Value) {p : AveragePvt ringSize} {sval : ℚ}
    (hcomplete : p.complete sval = false) (pasynUser : InterruptUser) :
    let p' := (putAverage sup p sval pasynUser).1
    p'.sum = p.sum ∧ p'.numAverage = p.numAverage ∧ p'.isIOIntrScan = p.isIOIntrScan ∧
      p'.devPvt.ring = p.devPvt.ring ∧
      p'.devPvt.ringBufferOverflows = p.devPvt.ringBufferOverflows := by
  unfold putAverage
  rw [if_neg (Bool.eq_false_iff.mp hcomplete)]
  split
  · exact ⟨rfl, rfl, rfl, rfl, rfl⟩
  · exact ⟨rfl, rfl, rfl, rfl, rfl⟩

/-- One call of the callback for one accepted value. -/
theorem Inv.deliver (hinv : Inv i m s) (value : i.Value) (pasynUser : InterruptUser)
    (hcount : s.pending.length + 1 < 2 ^ 31)
    (hsval : s.ioIntr = true → s.pr.sval + 1 / 2 < 2 ^ 31) :
    Inv i m
      { s.deliver (i.support m) value pasynUser with
        accepted := s.accepted ++ [(i.support m).toSum value] } := by
  have hvalue := i.toSum_inRange (m := m) value
  have hinRange : ∀ v ∈ s.accepted ++ [(i.support m).toSum value], i.InRange v := by
    intro v hv
    rcases List.mem_append.mp hv with hv | hv
    · exact hinv.inRange v hv
    · rw [List.mem_singleton.mp hv]
      exact hvalue
  have haccepted : s.averages.flatMap Made.values ++ (s.pending ++ [(i.support m).toSum value]) =
      s.accepted ++ [(i.support m).toSum value] := by
    rw [← hinv.counted, List.append_assoc]
  obtain ⟨hsum, hnumber⟩ := hinv.add hcount ((i.support m).toSum value)
  have hpending : ∀ v ∈ s.pending ++ [(i.support m).toSum value], i.InRange v := by
    intro v hv
    apply hinRange
    rw [← haccepted]
    exact List.mem_append_right _ hv
  unfold State.deliver interruptCallbackAverage
  simp only [Bool.not_true, Bool.false_eq_true, if_false]
  -- of the value only its contribution to the sum matters from here on
  generalize (i.support m).toSum value = v at *
  cases hcomplete : (s.pPvt.add v).complete s.pr.sval with
  | false =>
      obtain ⟨hsum', hnumber', hflag, hring, hoverflows⟩ :=
        putAverage_of_incomplete (i.support m) hcomplete pasynUser
      simp only [Bool.false_eq_true, if_false]
      exact
        { hinv with
          counted := haccepted
          history := by
            show Ring.History _ _ _ (s.reported + _)
            rw [hring, hoverflows]
            exact hinv.history
          fewer := hinv.length_of_incomplete hcount hsval hcomplete
          sum := hsum'.trans hsum
          numAverage := hnumber'.trans hnumber
          small := by
            rw [List.length_append, List.length_singleton]
            exact hcount
          flag := hflag.trans hinv.flag
          inRange := hinRange }
  | true =>
      obtain ⟨hio, hlength⟩ := hinv.length_of_complete hcount hsval hcomplete
      -- only an `I/O Intr` record completes in the callback, and one of `asynInt64` was never put to it
      have hi : i ≠ .asynInt64 := fun hi => Bool.noConfusion ((hinv.notInt64 hi).symm.trans hio)
      obtain ⟨haverage, hconverted⟩ := Interface.ringValue_isAverage (m := m) hi
        (List.append_ne_nil_of_right_ne_nil s.pending (List.cons_ne_nil v [])) hpending
      rw [← hsum, ← hnumber] at haverage hconverted
      unfold putAverage
      simp only [hcomplete, if_true]
      generalize (i.support m).ringValue (s.pPvt.add v).sum (s.pPvt.add v).numAverage = average at *
      exact
        { hinv with
          counted := by
            rw [List.flatMap_append, List.flatMap_singleton, List.append_nil]
            exact haccepted
          average := by
            intro a ha
            rcases List.mem_append.mp ha with ha | ha
            · exact hinv.average a ha
            · rw [List.mem_singleton.mp ha]
              exact haverage
          called := by
            rw [List.map_append, List.filter_append, List.map_append, hinv.called]
            rfl
          history := DevPvt.history_pushCallbackValue hinv.history _
          processed := by
            rw [List.filter_append, List.filter_singleton]
            simpa using hinv.processed
          everySval := by
            intro a ha hintr
            rcases List.mem_append.mp ha with ha | ha
            · exact hinv.everySval a ha hintr
            · rw [List.mem_singleton.mp ha]
              exact hlength
          fewer := fun _ => requested_pos _
          sum := rfl
          numAverage := rfl
          small := Nat.two_pow_pos 31
          flag := hinv.flag
          inRange := hinRange
          converted := by
            intro e he
            rcases List.mem_append.mp he with he | he
            · exact hinv.converted e he
            · rw [List.mem_singleton.mp he]
              exact hconverted }

/-! ### Processing -/

/-- A processing takes the ring's oldest average. -/
theorem Inv.process_ring (hinv : Inv i m s) {slot : Fin (ringSize + 1)}
    {ring : Ring (RingBufferElement ℚ) (ringSize + 1)}
    (hpop : s.pPvt.devPvt.ring.pop = some (slot, ring)) :
    Inv i m (s.process (i.support m)) := by
  have hgot := DevPvt.getCallbackValue_of_pop hpop
  have hhistory := hinv.history.pop hpop
  have hmem : s.pPvt.devPvt.ring.slots slot ∈ s.called := by
    apply hinv.mem_called
    rw [(Ring.contents_pop hpop).1]
    exact List.mem_cons_self
  have hconverted := hinv.converted _ hmem
  unfold State.process processAiAverage State.obtain
  simp only [hgot, if_true]
  exact
    { hinv with
      history := hhistory
      fetched := by
        rw [List.filter_append, List.map_append, List.map_append, hinv.fetched]
        simp [hconverted]
      processed := by
        rw [List.filter_append, List.map_append, hinv.processed]
        simp
      taken := by
        rw [List.map_append]
        exact hinv.taken.trans (List.sublist_append_left _ _)
      hand := by
        rintro _ ⟨⟩
        exact ⟨s.obtained, _, rfl, rfl, hinv.taken⟩ }

/-- A processing without an average in the ring makes one of the values that wait. -/
theorem Inv.process_sum (hinv : Inv i m s) (hpop : s.pPvt.devPvt.ring.pop = none)
    (hguard : Admissible i s .processAiAverage) : Inv i m (s.process (i.support m)) := by
  have hempty := Ring.pop_eq_none_iff.mp hpop
  have hgot := DevPvt.getCallbackValue_of_empty hpop
  unfold State.process processAiAverage State.obtain
  simp only [hgot, Bool.false_eq_true, if_false]
  by_cases hnone : s.pPvt.numAverage = 0
  · -- `UDF_ALARM`, and nothing else.
    simp only [hnone, if_true]
    exact { hinv with }
  · simp only [hnone, if_false]
    have hne : s.pending ≠ [] := by
      rintro hnil
      apply hnone
      rw [hinv.numAverage, hnil]
      rfl
    have hio : s.ioIntr = false := by
      by_contra hio
      rcases hguard.1 (Bool.not_eq_false _ ▸ hio) with hring | hpending
      · exact hring hempty
      · exact hne hpending
    have haverage := Interface.processValue_isAverage (m := m) hne hinv.pending_inRange
      fun hi => hguard.2 hi hempty
    rw [← hinv.sum, ← hinv.numAverage] at haverage
    generalize (i.support m).processValue s.pPvt.sum s.pPvt.numAverage = value at *
    exact
      { hinv with
        counted := by
          rw [List.flatMap_append, List.flatMap_singleton, List.append_nil]
          exact hinv.counted
        average := by
          intro a ha
          rcases List.mem_append.mp ha with ha | ha
          · exact hinv.average a ha
          · rw [List.mem_singleton.mp ha]
            exact haverage
        called := by
          rw [List.filter_append, List.map_append, hinv.called]
          simp
        fetched := by
          rw [List.filter_append, List.map_append, hinv.fetched]
          simp
        processed := by
          rw [List.filter_append, List.map_append, List.filter_append, List.map_append,
            hinv.processed]
          rfl
        taken := by
          rw [List.map_append]
          exact hinv.taken.trans (List.sublist_append_left _ _)
        everySval := by
          intro a ha hintr
          rcases List.mem_append.mp ha with ha | ha
          · exact hinv.everySval a ha hintr
          · rw [List.mem_singleton.mp ha] at hintr
            exact Bool.noConfusion (hio.symm.trans hintr)
        fewer := fun hintr => Bool.noConfusion (hio.symm.trans hintr)
        sum := rfl
        numAverage := rfl
        small := Nat.two_pow_pos 31
        hand := by
          rintro _ ⟨⟩
          exact ⟨s.obtained, _, rfl, rfl, hinv.taken⟩ }

theorem Inv.process (hinv : Inv i m s) (hguard : Admissible i s .processAiAverage) :
    Inv i m (s.process (i.support m)) := by
  cases hpop : s.pPvt.devPvt.ring.pop with
  | none => exact hinv.process_sum hpop hguard
  | some found =>
      obtain ⟨slot, ring⟩ := found
      exact hinv.process_ring hpop

theorem support_store_sval (value : ℚ) (pr : AiRecord) :
    ((i.support m).store value pr).sval = pr.sval := by
  cases i <;> rfl

/-- What `finishAiAverage` leaves alone. -/
theorem finishAiAverage_frame (p : AveragePvt ringSize) (pr : AiRecord) (value : ℚ) :
    let r := finishAiAverage (i.support m) p pr value
    r.1.sum = p.sum ∧ r.1.numAverage = p.numAverage ∧ r.1.isIOIntrScan = p.isIOIntrScan ∧
      r.1.devPvt.ring = p.devPvt.ring ∧
      r.1.devPvt.ringBufferOverflows = p.devPvt.ringBufferOverflows ∧ r.2.1.sval = pr.sval := by
  unfold finishAiAverage
  by_cases hstatus : p.devPvt.result.status = .asynSuccess
  · simp only [hstatus, if_true, support_store_sval, and_self]
  · simp only [hstatus, if_false, and_self]

/-! ### Runs -/

theorem Inv.finish (hinv : Inv i m s) {value : ℚ} (hvalue : s.processing = some value) :
    Inv i m (s.finish (i.support m) value) := by
  obtain ⟨before, last, hobtained, hlast, hbefore⟩ := hinv.hand value hvalue
  obtain ⟨hsum, hnumber, hflag, hring, hoverflows, hsval⟩ :=
    finishAiAverage_frame (i := i) (m := m) s.pPvt s.pr value
  unfold State.finish
  exact
    { hinv with
      history := by
        show Ring.History _ _ _ (s.reported + _)
        rw [hring, hoverflows]
        exact hinv.history
      taken := by
        show List.Sublist _ (s.obtained.map Obtained.value)
        rw [hobtained, List.map_append, List.map_singleton, hlast]
        show List.Sublist (if _ then _ else _) _
        split
        · exact hbefore.append (List.Sublist.refl _)
        · exact hbefore.trans (List.sublist_append_left _ _)
      everySval := by
        intro a ha hintr
        show _ = requested (finishAiAverage (i.support m) s.pPvt s.pr value).2.1.sval
        rw [hsval]
        exact hinv.everySval a ha hintr
      fewer := by
        intro hintr
        show _ < requested (finishAiAverage (i.support m) s.pPvt s.pr value).2.1.sval
        rw [hsval]
        exact hinv.fewer hintr
      sum := hsum.trans hinv.sum
      numAverage := hnumber.trans hinv.numAverage
      flag := hflag.trans hinv.flag
      hand := fun _ hnone => nomatch hnone }

theorem support_getIoIntInfo (hi : i ≠ .asynInt64) :
    (i.support m).getIoIntInfo = getIoIntInfo := by
  cases i with
  | asynInt64 => exact absurd rfl hi
  | asynInt32 => rfl
  | asynFloat64 => rfl

/-- The flag follows `SCAN`, and the registration stays. -/
theorem Inv.putScan (hinv : Inv i m s) {ioIntr : Bool}
    (hguard : Admissible i s (.putScan ioIntr)) : Inv i m (s.putScan (i.support m) ioIntr) := by
  by_cases hi : i = .asynInt64
  · have hold := hinv.notInt64 hi
    have hnew : ioIntr = false := by
      by_contra hnew
      exact (hguard (Bool.not_eq_false _ ▸ hnew)).1 hi
    subst hnew
    unfold State.putScan
    simp only [hold, Bool.false_eq_true, if_false]
    exact
      { hinv with
        fewer := fun hintr => Bool.noConfusion hintr
        flag := hinv.flag.trans hold
        notInt64 := fun _ => rfl }
  · have hscan : s.putScan (i.support m) ioIntr =
        { s with
          pPvt := { s.pPvt with isIOIntrScan := ioIntr }
          ioIntr := ioIntr } := by
      have hflag := hinv.flag
      unfold State.putScan State.getIoIntInfo
      rw [support_getIoIntInfo hi]
      cases hold : s.ioIntr <;> cases ioIntr
      · have hsame : { s.pPvt with isIOIntrScan := false } = s.pPvt := by
          rw [← hold, ← hflag]
        rw [hsame]
        rfl
      · rfl
      · rfl
      · rfl
    rw [hscan]
    exact
      { hinv with
        fewer := fun hintr => (hguard hintr).2
        flag := rfl
        notInt64 := fun h => absurd h hi }

/-- Every admissible step keeps the invariant. -/
theorem Inv.step (hinv : Inv i m s) {a : Action i.Value} (hguard : Admissible i s a)
    (hstep : step (i.support m) s a = some s') : Inv i m s' := by
  cases a with
  | interruptCallbackAverage value pasynUser interruptAccept =>
      cases interruptAccept with
      | false =>
          cases hstep
          exact hinv
      | true =>
          obtain ⟨hcount, hsval⟩ := hguard rfl
          unfold Average.step at hstep
          rw [hinv.registered] at hstep
          cases hstep
          exact hinv.deliver value pasynUser hcount hsval
  | processAiAverage =>
      unfold Average.step at hstep
      simp only at hstep
      split at hstep
      case isTrue =>
        cases hstep
        exact hinv.process hguard
      case isFalse => exact nomatch hstep
  | finishAiAverage =>
      obtain ⟨value, hvalue, rfl⟩ := Option.map_eq_some_iff.mp hstep
      exact hinv.finish hvalue
  | putScan ioIntr =>
      unfold Average.step at hstep
      simp only at hstep
      split at hstep
      case isTrue =>
        cases hstep
        exact hinv.putScan hguard
      case isFalse => exact nomatch hstep

/-- In every run of admissible steps, each accepted value is counted once, the averages are the means
of what they count, the record takes them, and in `I/O Intr` mode they are of `SVAL` values each. -/
theorem averages_sound (i : Interface) (m : Int32Mask) (s : State ringSize)
    (hreach : (machine (i.support m) ringSize).Reachable (Admissible i) s) : Sound i s := by
  have hinv : Inv i m s := by
    refine hreach.invariant ?_ ?_
    · rintro s ⟨canBlock, pr, rfl⟩
      exact Inv.start canBlock pr
    · intro s a s' hguard hinv hstep
      exact hinv.step hguard hstep
  exact hinv.toSound

/-- A record with `SVAL` values for each average. -/
def AiRecord.withSval (sval : ℚ) : AiRecord := ⟨0, 0, true, 0, (0, 0), sval, 0, 0, 0⟩

/-- `asynInt32` without a mask. -/
def noMask : Int32Mask := ⟨0, false, 0⟩

/-- What an interrupt callback finds in an `asynUser` without an alarm. -/
def noAlarm : InterruptUser := ⟨0, .asynSuccess, 0, 0⟩

/-- Two values in `I/O Intr` mode, and two in another. -/
theorem averages_sound_example :
    ∃ s : State 10,
      (s.averages, s.taken) =
          ([⟨[1, 2], 2, true, true⟩, ⟨[3, -4], -1, false, false⟩], [2, -1]) ∧
        Sound .asynInt32 s := by
  let check (s : State 10) (a : Action (Interface.asynInt32).Value) : Bool :=
    decide (Admissible .asynInt32 s a)
  have hcheck : ∀ s a, check s a = true → Admissible .asynInt32 s a := fun _ _ => of_decide_eq_true
  obtain ⟨s, hreach, hmade⟩ := Machine.exists_reachable_of_execGuarded
    (M := machine (Interface.support noMask .asynInt32) 10) (fun s => (s.averages, s.taken)) hcheck
    (s := State.start 10 true (.withSval 2))
    [.putScan true, .interruptCallbackAverage (1 : BitVec 32) noAlarm true,
      .interruptCallbackAverage (2 : BitVec 32) noAlarm true, .processAiAverage, .finishAiAverage,
      .putScan false, .interruptCallbackAverage (3 : BitVec 32) noAlarm true,
      .interruptCallbackAverage (-4 : BitVec 32) noAlarm true, .processAiAverage, .finishAiAverage]
    (b := ([⟨[1, 2], 2, true, true⟩, ⟨[3, -4], -1, false, false⟩], [2, -1]))
    ⟨true, _, rfl⟩ (by decide +kernel)
  exact ⟨s, hmade, averages_sound .asynInt32 noMask s hreach⟩

/-- Elsewhere, first: `asynInt64` in `I/O Intr` mode registers its callback twice and counts the value 5
twice.  Second: it takes the mean of 1 and 2 as it is.  Third: three values that wait when `asynInt32`
comes to `I/O Intr` mode with an `SVAL` of 1 go into one average with the next. -/
theorem each_counted_twice :
    (∃ s, (machine Int64.average 10).Reachable Machine.Unguarded s ∧
      (s.registrations, s.accepted, s.pending) = (2, [5], [5, 5]) ∧ ¬ Sound .asynInt64 s) ∧
    (∃ s, (machine Int64.average 10).Reachable Machine.Unguarded s ∧
      (s.averages, s.taken) = ([⟨[1, 2], 3 / 2, false, false⟩], [3 / 2]) ∧ ¬ Sound .asynInt64 s) ∧
    ∃ s, (machine (Int32.average noMask) 10).Reachable Machine.Unguarded s ∧
      (s.averages, s.pr.sval) = ([⟨[1, 2, 3, 6], 3, true, true⟩], 1) ∧ ¬ Sound .asynInt32 s := by
  refine ⟨?_, ?_, ?_⟩
  · obtain ⟨s, hreach, hrun⟩ := Machine.exists_reachable_of_exec (M := machine Int64.average 10)
      (fun s => (s.registrations, s.accepted, s.pending)) (s := State.start 10 true (.withSval 1))
      [.putScan true, .interruptCallbackAverage (5 : BitVec 64) noAlarm true]
      (b := (2, [5], [5, 5])) ⟨true, _, rfl⟩ (by decide +kernel)
    refine ⟨s, hreach, hrun, fun hsound => ?_⟩
    have htwo : s.registrations = 2 := congrArg Prod.fst hrun
    have hone := hsound.registered
    omega
  · obtain ⟨s, hreach, hrun⟩ := Machine.exists_reachable_of_exec (M := machine Int64.average 10)
      (fun s => (s.averages, s.taken)) (s := State.start 10 true (.withSval 1))
      [.interruptCallbackAverage (1 : BitVec 64) noAlarm true,
        .interruptCallbackAverage (2 : BitVec 64) noAlarm true, .processAiAverage, .finishAiAverage]
      (b := ([⟨[1, 2], 3 / 2, false, false⟩], [3 / 2])) ⟨true, _, rfl⟩ (by decide +kernel)
    refine ⟨s, hreach, hrun, fun hsound => ?_⟩
    have hmade : s.averages = [⟨[1, 2], 3 / 2, false, false⟩] := congrArg Prod.fst hrun
    obtain ⟨-, z, hz, -⟩ := hsound.average ⟨[1, 2], 3 / 2, false, false⟩ (by rw [hmade]; simp)
    have hint : (3 / 2 : ℚ).isInt = true := by
      rw [show (3 / 2 : ℚ) = z from hz]
      rfl
    exact absurd hint (by decide +kernel)
  · obtain ⟨s, hreach, hrun⟩ := Machine.exists_reachable_of_exec
      (M := machine (Int32.average noMask) 10)
      (fun s => (s.averages, s.pr.sval)) (s := State.start 10 true (.withSval 1))
      [.interruptCallbackAverage (1 : BitVec 32) noAlarm true,
        .interruptCallbackAverage (2 : BitVec 32) noAlarm true,
        .interruptCallbackAverage (3 : BitVec 32) noAlarm true, .putScan true,
        .interruptCallbackAverage (6 : BitVec 32) noAlarm true]
      (b := ([⟨[1, 2, 3, 6], 3, true, true⟩], 1)) ⟨true, _, rfl⟩ (by decide +kernel)
    refine ⟨s, hreach, hrun, fun hsound => ?_⟩
    have hmade : s.averages = [⟨[1, 2, 3, 6], 3, true, true⟩] := congrArg Prod.fst hrun
    have hsval : s.pr.sval = 1 := congrArg Prod.snd hrun
    have hfour := hsound.everySval ⟨[1, 2, 3, 6], 3, true, true⟩ (by rw [hmade]; simp) rfl
    rw [hsval] at hfour
    exact absurd hfour (by decide +kernel)

end Average
end DevEpics
end AsynDriver
