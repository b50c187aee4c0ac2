import AsynDriver.Miscellaneous.ComXBuf
import Mathlib.Data.Nat.Find

/-!
# One write through `asynInterposeCom`

`writeIt` hands the data down with every `IAC` doubled, and takes the lower driver's count back to one
of the data.

* `contained` — how many bytes of the data are in the first `n` doubled ones completely.
* `Doubled` — what one write promises.
* `doubled_iff` — the promise is kept exactly if the data fits, and the lower driver takes everything or
  no byte that is doubled.
-/

namespace AsynDriver
namespace Miscellaneous

/-- The bytes of the data of which all that is sent is among the first `n` bytes. -/
def contained (data : List UInt8) (n : Nat) : Nat :=
  Nat.findGreatest (fun k => (encode (data.take k)).length ≤ n) data.length

/-- A `writeIt` of which the lower driver transfers `n` bytes. -/
def Doubled (xBufCapacity : Nat) (data : List UInt8) (n : Nat) : Prop :=
  ∃ sent capacity, comWriteIt xBufCapacity data = some (sent, capacity) ∧ sent = encode data ∧
    comWriteTransferred data sent n = contained data n ∧
    comWriteTransferred data sent n ≤ data.length

/-! ## The count -/

theorem length_encode (data : List UInt8) : (encode data).length = data.length + data.count cIac := by
  induction data with
  | nil => rfl
  | cons c rest ih =>
      by_cases hc : c = cIac
      · subst hc
        rw [encode, if_pos rfl, List.count_cons_self]
        simp only [List.length_cons, ih]
        omega
      · rw [encode, if_neg hc, List.count_cons_of_ne hc, List.length_cons, List.length_cons, ih]
        omega

theorem contained_le (data : List UInt8) (n : Nat) : contained data n ≤ data.length :=
  Nat.findGreatest_le _

theorem encode_contained_le (data : List UInt8) (n : Nat) :
    (encode (data.take (contained data n))).length ≤ n := by
  have hzero : (encode (data.take 0)).length ≤ n := Nat.zero_le n
  exact Nat.findGreatest_spec (P := fun k => (encode (data.take k)).length ≤ n) (Nat.zero_le _) hzero

/-- Everything is contained in everything. -/
theorem contained_length_encode (data : List UInt8) : contained data (encode data).length = data.length := by
  refine Nat.le_antisymm (contained_le _ _) (Nat.le_findGreatest (Nat.le_refl _) ?_)
  rw [List.take_length]

/-- A prefix of what is sent has as many bytes of the data, exactly if none of them is doubled. -/
theorem contained_eq_iff {data : List UInt8} {n : Nat} (hn : n < (encode data).length) :
    contained data n = n ↔ cIac ∉ data.take n := by
  constructor
  · intro heq
    have hle := contained_le data n
    have henc := encode_contained_le data n
    rw [heq] at hle henc
    rw [length_encode, List.length_take, Nat.min_eq_left hle] at henc
    exact List.count_eq_zero.mp (by omega)
  · intro hiac
    have hcount : (data.take n).count cIac = 0 := List.count_eq_zero.mpr hiac
    have hlt : n < data.length := by
      by_contra hge
      rw [List.take_of_length_le (Nat.not_lt.mp hge)] at hcount
      rw [length_encode, hcount] at hn
      omega
    have henc : (encode (data.take n)).length ≤ n := by
      rw [length_encode, hcount, List.length_take]
      omega
    refine Nat.le_antisymm ?_ (Nat.le_findGreatest (Nat.le_of_lt hlt) henc)
    have hback := encode_contained_le data n
    rw [length_encode, List.length_take, Nat.min_eq_left (contained_le data n)] at hback
    omega

theorem comWriteTransferred_encode {data : List UInt8} {n : Nat} (hn : n ≤ (encode data).length) :
    comWriteTransferred data (encode data) n = contained data n ↔
      n = (encode data).length ∨ cIac ∉ data.take n := by
  unfold comWriteTransferred
  split
  case isTrue hall =>
      subst hall
      have hlength := length_encode data
      rw [contained_length_encode]
      refine ⟨fun _ => .inl rfl, fun _ => ?_⟩
      omega
  case isFalse hpart =>
      have hlt : n < (encode data).length := by omega
      rw [eq_comm, contained_eq_iff hlt]
      exact ⟨.inr, fun h => h.resolve_left hpart⟩

/-- A write hands down the doubled data inside `xBuf` and counts the bytes of the data that were
transferred, exactly if `xBuf` has room for it, and everything is transferred or no `IAC` is among the
bytes that were. -/
theorem doubled_iff (xBufCapacity : Nat) (data : List UInt8) {n : Nat} (hn : n ≤ (encode data).length) :
    Doubled xBufCapacity data n ↔
      XBufHolds xBufCapacity data ∧ (n = (encode data).length ∨ cIac ∉ data.take n) := by
  rw [← comWriteTransferred_encode hn]
  constructor
  · rintro ⟨sent, capacity, hwrite, rfl, hcount, -⟩
    exact ⟨holds_of_comWriteIt hwrite, hcount⟩
  · rintro ⟨hfit, hcount⟩
    obtain ⟨capacity, hwrite⟩ := comWriteIt_eq hfit
    refine ⟨encode data, capacity, hwrite, rfl, hcount, ?_⟩
    rw [hcount]
    exact contained_le data n

/-- One of the three bytes that are sent for `1` and an `IAC`: none of the `IAC`. -/
theorem doubled_example : Doubled 0 [1, 255] 1 :=
  (doubled_iff 0 [1, 255] (by decide)).mpr ⟨⟨by decide, .inl (by decide)⟩, .inr (by decide)⟩

/-- Two bytes of three are both halves of one `IAC`, and are counted as two. -/
theorem half_transferred_counted : ¬ Doubled 0 [255, 1] 2 := by
  rintro ⟨sent, capacity, hwrite, rfl, hcount, -⟩
  revert hcount
  decide

end Miscellaneous
end AsynDriver
