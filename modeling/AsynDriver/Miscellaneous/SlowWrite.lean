import AsynDriver.Library.Loop
import AsynDriver.Miscellaneous.Octet
import Mathlib.Algebra.Order.BigOperators.Group.Finset

/-!
# `writeIt` of `asynInterposeDelay` and of `asynInterposeEcho`

Both write one byte at a time.  The first waits after each byte, the second reads its echo.

* `Delay.pass`, `Echo.pass` — one pass of the loops.
* `WriteExact` — the write ends, and the lower driver has accepted the data in order, as many bytes as
  are reported.
* `Delay.Accepts`, `Echo.Accepts` — the answers of the lower driver with which it does.
* `write_exact_iff` — it does so exactly with these.

What the lower driver has accepted is told by the offsets in `data`: it is handed the byte at
`transferred`, and accepts it if it reports a count other than 0.
-/

namespace AsynDriver
namespace Miscellaneous

open Manager (AsynStatus)

/-- What one call of the lower driver's `write` returns; `n` is its `*nbytesTransferred`. -/
structure LowerWrite where
  status : AsynStatus
  n : Nat
  deriving DecidableEq

/-- What a `writeIt` returns, and the offsets of the bytes that the lower driver has accepted. -/
structure SlowWrite where
  status : AsynStatus
  nbytesTransferred : Nat
  accepted : List Nat
  deriving DecidableEq

/-- A loop that ends, and whose count says what has been accepted: so many bytes from the front, in order,
none left out and none twice. -/
def WriteExact {σ : Type} (pass : σ → σ ⊕ SlowWrite) (start : σ) : Prop :=
  ∃ r, Library.Loop.Returns pass start r ∧ r.accepted = List.range r.nbytesTransferred

/-! ## Counting -/

/-- After an answer the count is right if it was before, and not more than one byte is reported. -/
theorem accepted_add_iff {accepted : List Nat} {transferred n : Nat} :
    accepted ++ [transferred].take n = List.range (transferred + n) ↔
      n ≤ 1 ∧ accepted = List.range transferred := by
  match n with
  | 0 => simp
  | 1 => simp [List.range_succ]
  | n + 2 =>
      rw [List.take_of_length_le (by simp)]
      constructor
      · intro heq
        have hlast := congrArg List.getLast? heq
        rw [List.getLast?_concat, List.getLast?_range] at hlast
        simp at hlast
      · rintro ⟨hle, -⟩
        omega

/-- Where the last answer is not counted, nothing may have been accepted with it. -/
theorem accepted_same_iff {accepted : List Nat} {transferred n : Nat} :
    accepted ++ [transferred].take n = List.range transferred ↔
      n = 0 ∧ accepted = List.range transferred := by
  match n with
  | 0 => simp
  | n + 1 =>
      rw [List.take_of_length_le (by simp)]
      constructor
      · intro heq
        have hmem : transferred ∈ List.range transferred := by
          rw [← heq]
          exact List.mem_append_right _ List.mem_cons_self
        exact absurd (List.mem_range.mp hmem) (Nat.lt_irrefl _)
      · rintro ⟨hzero, -⟩
        omega

/-! ## `asynInterposeDelay` -/

namespace Delay

/-- The locals of `writeIt`, and the calls of the lower driver so far. -/
structure State where
  calls : Nat
  transferred : Nat
  accepted : List Nat

variable (numchars : Nat) (answers : Nat → LowerWrite)

/-- One pass; the pointer `data` moves with `transferred`. -/
def pass (s : State) : State ⊕ SlowWrite :=
  if s.transferred < numchars then
    let answer := answers s.calls
    let accepted := s.accepted ++ [s.transferred].take answer.n
    if answer.status ≠ .asynSuccess then .inr ⟨answer.status, s.transferred, accepted⟩
    else .inl ⟨s.calls + 1, s.transferred + answer.n, accepted⟩
  else .inr ⟨.asynSuccess, s.transferred, s.accepted⟩

def start : State := ⟨0, 0, []⟩

/-- What the first answers report together. -/
def reported (k : Nat) : Nat := ∑ j ∈ Finset.range k, (answers j).n

/-- After some answers that are successes of at most one byte everything is accepted, or the next answer
is an error with which nothing is. -/
def Accepts : Prop :=
  ∃ k, (∀ j, j < k → (answers j).status = .asynSuccess ∧ (answers j).n ≤ 1) ∧
    (reported answers k = numchars ∨
      reported answers k < numchars ∧ (answers k).status ≠ .asynSuccess ∧ (answers k).n = 0)

variable {numchars answers}

theorem reported_succ (k : Nat) : reported answers (k + 1) = reported answers k + (answers k).n :=
  Finset.sum_range_succ _ _

theorem reported_mono {j k : Nat} (hle : j ≤ k) : reported answers j ≤ reported answers k :=
  Finset.sum_le_sum_of_subset (Finset.range_mono hle)

/-- While the count is right, all answers have been successes of at most one byte. -/
def Inv (numchars : Nat) (answers : Nat → LowerWrite) (s : State) : Prop :=
  s.accepted = List.range s.transferred →
    (∀ j, j < s.calls → (answers j).status = .asynSuccess ∧ (answers j).n ≤ 1) ∧
      s.transferred = reported answers s.calls ∧ s.transferred ≤ numchars

theorem Inv.next {s s' : State} (hinv : Inv numchars answers s)
    (hpass : pass numchars answers s = .inl s') : Inv numchars answers s' := by
  unfold pass at hpass
  split at hpass
  case isFalse => exact nomatch hpass
  case isTrue hless =>
    simp only at hpass
    split at hpass
    case isTrue => exact nomatch hpass
    case isFalse hsuccess =>
      obtain rfl := Sum.inl.inj hpass
      intro hexact
      obtain ⟨hone, hbefore⟩ := accepted_add_iff.mp hexact
      obtain ⟨hall, hcount, -⟩ := hinv hbefore
      refine ⟨?_, ?_, ?_⟩
      · intro j hj
        rcases Nat.lt_succ_iff_lt_or_eq.mp hj with hlt | rfl
        · exact hall j hlt
        · exact ⟨not_not.mp hsuccess, hone⟩
      · show s.transferred + (answers s.calls).n = reported answers (s.calls + 1)
        rw [reported_succ, hcount]
      · show s.transferred + (answers s.calls).n ≤ numchars
        omega

theorem Inv.last {s : State} {r : SlowWrite} (hinv : Inv numchars answers s)
    (hpass : pass numchars answers s = .inr r) (hexact : r.accepted = List.range r.nbytesTransferred) :
    Accepts numchars answers := by
  unfold pass at hpass
  split at hpass
  case isFalse hdone =>
    obtain rfl := Sum.inr.inj hpass
    obtain ⟨hall, hcount, hle⟩ := hinv hexact
    exact ⟨s.calls, hall, .inl (by omega)⟩
  case isTrue hless =>
    simp only at hpass
    split at hpass
    case isFalse => exact nomatch hpass
    case isTrue hfailed =>
      obtain rfl := Sum.inr.inj hpass
      obtain ⟨hnone, hbefore⟩ := accepted_same_iff.mp hexact
      obtain ⟨hall, hcount, -⟩ := hinv hbefore
      exact ⟨s.calls, hall, .inr ⟨by omega, hfailed, hnone⟩⟩

/-- The state after `k` answers with which the count is right. -/
def stateAt (answers : Nat → LowerWrite) (k : Nat) : State :=
  ⟨k, reported answers k, List.range (reported answers k)⟩

theorem pass_stateAt {k : Nat} (hless : reported answers k < numchars)
    (hsuccess : (answers k).status = .asynSuccess) (hone : (answers k).n ≤ 1) :
    pass numchars answers (stateAt answers k) = .inl (stateAt answers (k + 1)) := by
  have haccepted : List.range (reported answers k) ++ [reported answers k].take (answers k).n =
      List.range (reported answers (k + 1)) := by
    rw [reported_succ]
    exact accepted_add_iff.mpr ⟨hone, rfl⟩
  unfold pass stateAt
  simp only [hless, if_true, hsuccess, ne_eq, not_true_eq_false, if_false, haccepted, ← reported_succ]

/-- As long as not everything is accepted the loop goes through these states. -/
theorem returns_stateAt {k : Nat} {r : SlowWrite}
    (hall : ∀ j, j < k → (answers j).status = .asynSuccess ∧ (answers j).n ≤ 1)
    (hless : ∀ j, j < k → reported answers j < numchars) :
    Library.Loop.Returns (pass numchars answers) start r ↔
      Library.Loop.Returns (pass numchars answers) (stateAt answers k) r :=
  Library.Loop.returns_iff_of_path (p := stateAt answers) fun j hj =>
    pass_stateAt (hless j hj) (hall j hj).1 (hall j hj).2

/-- The first moment at which everything is accepted. -/
theorem exists_first {k : Nat} (hall : reported answers k = numchars) :
    ∃ m, m ≤ k ∧ reported answers m = numchars ∧ ∀ j, j < m → reported answers j < numchars := by
  have hex : ∃ m, reported answers m = numchars := ⟨k, hall⟩
  refine ⟨Nat.find hex, Nat.find_min' hex hall, Nat.find_spec hex, fun j hj => ?_⟩
  have hle : reported answers j ≤ reported answers (Nat.find hex) := reported_mono (Nat.le_of_lt hj)
  have hne : reported answers j ≠ numchars := Nat.find_min hex hj
  have hfirst : reported answers (Nat.find hex) = numchars := Nat.find_spec hex
  omega

/-- A delayed write ends with the right count exactly if the lower driver accepts the data one byte at a
time to the end, or to an error with which it accepts nothing. -/
theorem write_exact_iff : WriteExact (pass numchars answers) start ↔ Accepts numchars answers := by
  constructor
  · rintro ⟨r, hreturns, hexact⟩
    have hinit : Inv numchars answers start := by
      intro _
      refine ⟨fun j hj => absurd hj (Nat.not_lt_zero j), rfl, Nat.zero_le _⟩
    have hpost := hreturns.post (I := Inv numchars answers)
      (Q := fun r => r.accepted = List.range r.nbytesTransferred → Accepts numchars answers) hinit
      (fun s s' hinv => hinv.next) (fun s r hinv => hinv.last)
    exact hpost hexact
  · rintro ⟨k, hall, hdone | ⟨hless, hfailed, hnone⟩⟩
    · obtain ⟨m, hm, hreported, hbefore⟩ := exists_first hdone
      have hlast : pass numchars answers (stateAt answers m) =
          .inr ⟨.asynSuccess, numchars, List.range numchars⟩ := by
        unfold pass stateAt
        simp only [hreported, Nat.lt_irrefl, if_false]
      refine ⟨⟨.asynSuccess, numchars, List.range numchars⟩, ?_, rfl⟩
      rw [returns_stateAt (fun j hj => hall j (by omega)) hbefore]
      exact (Library.Loop.returns_of_inr hlast).mpr rfl
    · have hlast : pass numchars answers (stateAt answers k) =
          .inr ⟨(answers k).status, reported answers k, List.range (reported answers k)⟩ := by
        unfold pass stateAt
        simp only [hless, if_true, hfailed, ne_eq, not_false_eq_true, hnone, List.take_zero,
          List.append_nil]
      refine ⟨⟨(answers k).status, reported answers k, List.range (reported answers k)⟩, ?_, rfl⟩
      rw [returns_stateAt hall fun j hj => (reported_mono (Nat.le_of_lt hj)).trans_lt hless]
      exact (Library.Loop.returns_of_inr hlast).mpr rfl

end Delay

/-! ## `asynInterposeEcho` -/

namespace Echo

/-- The locals of `writeIt`; a byte is written and read back in one pass. -/
structure State where
  transferred : Nat
  accepted : List Nat

variable (data : List UInt8) (writes : Nat → LowerWrite) (reads : Nat → LowerRead)

/-- One pass; `bytes` of a read are the first `n` bytes of `echo`. -/
def pass (s : State) : State ⊕ SlowWrite :=
  match data[s.transferred]? with
  | none => .inr ⟨.asynSuccess, s.transferred, s.accepted⟩
  | some c =>
      let w := writes s.transferred
      let accepted := s.accepted ++ [s.transferred].take w.n
      if w.status ≠ .asynSuccess then .inr ⟨w.status, s.transferred, accepted⟩
      else if w.n ≠ 1 then .inr ⟨.asynError, s.transferred, accepted⟩
      else
        let echo := reads s.transferred
        if echo.status ≠ .asynSuccess then .inr ⟨echo.status, s.transferred, accepted⟩
        else if echo.bytes ≠ [c] then .inr ⟨.asynError, s.transferred, accepted⟩
        else .inl ⟨s.transferred + 1, accepted⟩

def start : State := ⟨0, []⟩

/-- The byte at this offset is written and comes back. -/
def Echoed (i : Nat) : Prop :=
  writes i = ⟨.asynSuccess, 1⟩ ∧ (reads i).status = .asynSuccess ∧ some (reads i).bytes =
    (data[i]?).map fun c => [c]

/-- The first byte that does not come back, if there is one, is not accepted. -/
def Accepts : Prop :=
  ∀ i, i < data.length → (∀ j, j < i → Echoed data writes reads j) → ¬ Echoed data writes reads i →
    (writes i).n = 0

variable {data writes reads}

/-- The passes of bytes that come back. -/
theorem pass_of_echoed {s : State} (hechoed : Echoed data writes reads s.transferred) :
    pass data writes reads s = .inl ⟨s.transferred + 1, s.accepted ++ [s.transferred]⟩ := by
  obtain ⟨hwrite, hread, hbytes⟩ := hechoed
  obtain ⟨c, hc, hcbytes⟩ := Option.map_eq_some_iff.mp hbytes.symm
  unfold pass
  simp [hc, hwrite, hread, hcbytes.symm]

/-- Any other byte ends the loop, and is not counted. -/
theorem pass_of_not_echoed {s : State} (hless : s.transferred < data.length)
    (hnot : ¬ Echoed data writes reads s.transferred) :
    ∃ status, pass data writes reads s =
      .inr ⟨status, s.transferred, s.accepted ++ [s.transferred].take (writes s.transferred).n⟩ := by
  have hc : data[s.transferred]? = some data[s.transferred] := List.getElem?_eq_getElem hless
  unfold pass
  simp only [hc]
  split
  case isTrue => exact ⟨_, rfl⟩
  case isFalse hsuccess =>
    split
    case isTrue => exact ⟨_, rfl⟩
    case isFalse hone =>
      split
      case isTrue => exact ⟨_, rfl⟩
      case isFalse hread =>
        split
        case isTrue => exact ⟨_, rfl⟩
        case isFalse hbytes =>
          refine absurd ⟨?_, not_not.mp hread, ?_⟩ hnot
          · have hs := not_not.mp hsuccess
            have hn := not_not.mp hone
            rw [← hs, ← hn]
          · rw [hc, Option.map_some, not_not.mp hbytes]

/-- The loop comes to the first byte that does not come back. -/
theorem returns_at {i : Nat} (hbefore : ∀ j, j < i → Echoed data writes reads j) {r : SlowWrite} :
    Library.Loop.Returns (pass data writes reads) start r ↔
      Library.Loop.Returns (pass data writes reads) ⟨i, List.range i⟩ r := by
  refine Library.Loop.returns_iff_of_path (p := fun i => (⟨i, List.range i⟩ : State)) fun j hj => ?_
  rw [pass_of_echoed (hbefore j hj), List.range_succ]

/-- A write with echoes ends in any case; its count is right exactly if the first byte that does not come
back was not accepted. -/
theorem write_exact_iff :
    WriteExact (pass data writes reads) start ↔ Accepts data writes reads := by
  classical
  by_cases hall : ∀ i, i < data.length → Echoed data writes reads i
  · have hlast : pass data writes reads ⟨data.length, List.range data.length⟩ =
        .inr ⟨.asynSuccess, data.length, List.range data.length⟩ := by
      unfold pass
      simp
    constructor
    · exact fun _ i hi _ hnot => absurd (hall i hi) hnot
    · intro _
      refine ⟨⟨.asynSuccess, data.length, List.range data.length⟩, ?_, rfl⟩
      rw [returns_at hall]
      exact (Library.Loop.returns_of_inr hlast).mpr rfl
  · have hex : ∃ i, i < data.length ∧ ¬ Echoed data writes reads i := by
      by_contra hnone
      exact hall fun i hi => by_contra fun hnot => hnone ⟨i, hi, hnot⟩
    let i := Nat.find hex
    obtain ⟨hi, hnot⟩ : i < data.length ∧ ¬ Echoed data writes reads i := Nat.find_spec hex
    have hbefore : ∀ j, j < i → Echoed data writes reads j := by
      intro j hj
      by_contra hj'
      exact Nat.find_min hex hj ⟨by omega, hj'⟩
    obtain ⟨status, hlast⟩ := pass_of_not_echoed (s := ⟨i, List.range i⟩) hi hnot
    constructor
    · rintro ⟨r, hreturns, hexact⟩ k hk hkbefore hknot
      obtain rfl : k = i := by
        rcases Nat.lt_trichotomy k i with hlt | heq | hgt
        · exact absurd (hbefore k hlt) hknot
        · exact heq
        · exact absurd (hkbefore i hgt) hnot
      rw [returns_at hbefore, Library.Loop.returns_of_inr hlast] at hreturns
      rw [hreturns] at hexact
      exact (accepted_same_iff.mp hexact).1
    · intro haccepts
      refine ⟨_, (returns_at hbefore).mpr ((Library.Loop.returns_of_inr hlast).mpr rfl), ?_⟩
      exact accepted_same_iff.mpr ⟨haccepts i hi hbefore hnot, rfl⟩

end Echo

/-! ## Both layers -/

/-- Each of the two layers ends its writes with the right count, exactly with the answers that are given
there. -/
theorem slowWrite_exact_iff (data : List UInt8) (answers : Nat → LowerWrite) (reads : Nat → LowerRead) :
    (WriteExact (Delay.pass data.length answers) Delay.start ↔ Delay.Accepts data.length answers) ∧
      (WriteExact (Echo.pass data answers reads) Echo.start ↔ Echo.Accepts data answers reads) :=
  ⟨Delay.write_exact_iff, Echo.write_exact_iff⟩

/-- A lower driver that accepts nothing and reports no error: the delayed write of one byte never ends. -/
theorem zero_length_accepts_spin :
    ¬ WriteExact (Delay.pass 1 fun _ => ⟨.asynSuccess, 0⟩) Delay.start := by
  rintro ⟨r, hreturns, -⟩
  refine Library.Loop.not_returns (I := fun s => s.transferred = 0) rfl ?_ hreturns
  intro s hs
  refine ⟨⟨s.calls + 1, s.transferred, s.accepted⟩, ?_, hs⟩
  unfold Delay.pass
  simp [hs]

end Miscellaneous
end AsynDriver
