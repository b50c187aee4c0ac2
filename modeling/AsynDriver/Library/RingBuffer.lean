import Mathlib.Data.Fin.Basic
import Mathlib.Data.List.Basic
import Mathlib.Data.Nat.ModEq
import Mathlib.Logic.Function.Basic
import Mathlib.Tactic.Common

/-!
# Ring buffers that drop the oldest element

A ring of `n` slots with a head, where the next element is written, and a tail, where the oldest one
is read.  Head and tail are equal exactly when the ring is empty, so it holds `n - 1` elements; a push
that finds it full moves the tail as well and drops the oldest element.

* `Ring.push`, `Ring.pop` — the operations on the slots.
* `Ring.contents` — the elements from the oldest to the newest.
* `contents_push`, `contents_push_full`, `contents_pop` — the operations on the contents.
* `Ring.History` — the elements that were pushed, those that were taken and the number that was dropped.
* `Ring.map` — a function of the elements.
* `Ring.ahead` — how many pushes leave a slot as it is; a slot that has been popped is written again.
-/

namespace AsynDriver
namespace Library

variable {α : Type*} {n : Nat}

/-- The slots, the position of the next write and the position of the next read. -/
structure Ring (α : Type*) (n : Nat) where
  slots : Fin n → α
  head : Fin n
  tail : Fin n

namespace Ring

/-- The position behind, which is 0 after the last. -/
def next (i : Fin n) : Fin n :=
  if h : i.val = n - 1 then ⟨0, i.pos⟩ else ⟨i.val + 1, by omega⟩

theorem next_val (i : Fin n) : (next i).val = (i.val + 1) % n := by
  unfold next
  have hlt := i.isLt
  split
  case isTrue hlast =>
    have hwrap : i.val + 1 = n := by omega
    rw [hwrap, Nat.mod_self]
  case isFalse hinner => exact (Nat.mod_eq_of_lt (by omega)).symm

/-- The position `k` places behind. -/
def shift (i : Fin n) (k : Nat) : Fin n := ⟨(i.val + k) % n, Nat.mod_lt _ i.pos⟩

@[simp] theorem shift_zero (i : Fin n) : shift i 0 = i := by
  apply Fin.ext
  exact Nat.mod_eq_of_lt i.isLt

theorem shift_next (i : Fin n) (k : Nat) : shift (next i) k = shift i (k + 1) := by
  apply Fin.ext
  show ((next i).val + k) % n = (i.val + (k + 1)) % n
  rw [next_val, Nat.mod_add_mod, Nat.add_assoc, Nat.add_comm 1 k]

theorem next_shift (i : Fin n) (k : Nat) : next (shift i k) = shift i (k + 1) := by
  apply Fin.ext
  rw [next_val]
  show ((i.val + k) % n + 1) % n = (i.val + (k + 1)) % n
  rw [Nat.mod_add_mod, Nat.add_assoc]

/-- Fewer than `n` places apart, different positions are different. -/
theorem shift_inj {i : Fin n} {j k : Nat} (hj : j < n) (hk : k < n)
    (hshift : shift i j = shift i k) : j = k := by
  have hval : (i.val + j) % n = (i.val + k) % n := congrArg Fin.val hshift
  have hcancel : j % n = k % n := Nat.ModEq.add_left_cancel' i.val hval
  rwa [Nat.mod_eq_of_lt hj, Nat.mod_eq_of_lt hk] at hcancel

/-- The number of places from one position to another. -/
def distance (i j : Fin n) : Nat := (j.val + (n - i.val)) % n

theorem distance_lt (i j : Fin n) : distance i j < n := Nat.mod_lt _ i.pos

theorem shift_distance (i j : Fin n) : shift i (distance i j) = j := by
  apply Fin.ext
  have hi := i.isLt
  show (i.val + (j.val + (n - i.val)) % n) % n = j.val
  rw [Nat.add_mod_mod, show i.val + (j.val + (n - i.val)) = j.val + n by omega, Nat.add_mod_right,
    Nat.mod_eq_of_lt j.isLt]

theorem distance_shift {i : Fin n} {k : Nat} (hk : k < n) : distance i (shift i k) = k :=
  shift_inj (distance_lt _ _) hk (shift_distance _ _)

theorem distance_self (i : Fin n) : distance i i = 0 := by
  have hzero := distance_shift (i := i) i.pos
  rwa [shift_zero] at hzero

/-! ## The operations -/

variable (r : Ring α n)

/-- The element is written at the head; a full ring loses its oldest element, which is reported. -/
def push (x : α) : Ring α n × Bool :=
  let slots := Function.update r.slots r.head x
  let head := next r.head
  if head = r.tail then (⟨slots, head, next r.tail⟩, true) else (⟨slots, head, r.tail⟩, false)

/-- The slot of the oldest element is left behind. -/
def pop : Option (Fin n × Ring α n) :=
  if r.tail ≠ r.head then some (r.tail, { r with tail := next r.tail }) else none

/-! ## The contents -/

def count : Nat := distance r.tail r.head

/-- The elements, from the oldest to the newest. -/
def contents : List α := (List.range r.count).map fun k => r.slots (shift r.tail k)

theorem count_lt : r.count < n := distance_lt _ _

@[simp] theorem length_contents : r.contents.length = r.count := by
  unfold contents
  rw [List.length_map, List.length_range]

theorem shift_count : shift r.tail r.count = r.head := shift_distance _ _

variable {r}

theorem count_eq {k : Nat} (hk : k < n) (hhead : shift r.tail k = r.head) : r.count = k := by
  unfold count
  rw [← hhead]
  exact distance_shift hk

/-- A ring is full when the position behind the head is the tail. -/
theorem next_head_iff : next r.head = r.tail ↔ r.count + 1 = n := by
  rw [← r.shift_count, next_shift]
  have hlt := r.count_lt
  constructor
  · intro hfull
    by_contra hroom
    have hzero : r.count + 1 = 0 := by
      refine shift_inj (i := r.tail) (by omega) (by omega) ?_
      rw [hfull, shift_zero]
    omega
  · intro hfull
    apply Fin.ext
    show (r.tail.val + (r.count + 1)) % n = r.tail.val
    rw [hfull, Nat.add_mod_right, Nat.mod_eq_of_lt r.tail.isLt]

theorem push_overflow_iff {x : α} : (r.push x).2 = true ↔ r.count + 1 = n := by
  rw [← next_head_iff]
  unfold push
  simp only
  split
  case isTrue hfull => exact ⟨fun _ => hfull, fun _ => rfl⟩
  case isFalse hroom => exact ⟨fun h => (nomatch h), fun hfull => absurd hfull hroom⟩

/-- The slots that are read do not change with a write at the head. -/
theorem map_update {x : α} {k : Nat} (hk : k ≤ r.count) :
    (List.range k).map (fun j => Function.update r.slots r.head x (shift r.tail j)) =
      (List.range k).map fun j => r.slots (shift r.tail j) := by
  apply List.map_congr_left
  intro j hj
  have hlt := r.count_lt
  have hj := List.mem_range.mp hj
  have hne : shift r.tail j ≠ r.head := by
    intro hsame
    have hcount := count_eq (by omega) hsame
    omega
  exact Function.update_of_ne hne _ _

/-- Without the dropped element the contents after any push are those before, and the new element. -/
theorem contents_update {x : α} {s : Ring α n} (hslots : s.slots = Function.update r.slots r.head x)
    (hhead : s.head = next r.head) (htail : s.tail = r.tail) (hroom : r.count + 1 < n) :
    s.contents = r.contents ++ [x] := by
  have hcount : s.count = r.count + 1 := by
    refine count_eq hroom ?_
    rw [htail, hhead, ← next_shift, r.shift_count]
  unfold contents
  rw [hcount, hslots, htail, List.range_succ, List.map_append, map_update le_rfl]
  simp [r.shift_count]

theorem contents_push {x : α} (hroom : r.count + 1 < n) :
    (r.push x).1.contents = r.contents ++ [x] := by
  have hne : next r.head ≠ r.tail := fun hfull => by
    have hcount := next_head_iff.mp hfull
    omega
  unfold push
  rw [if_neg hne]
  exact contents_update rfl rfl rfl hroom

theorem contents_push_full {x : α} (hfull : r.count + 1 = n) :
    (r.push x).1.contents = (r.contents ++ [x]).tail := by
  unfold push
  rw [if_pos (next_head_iff.mpr hfull)]
  have hcount : (⟨Function.update r.slots r.head x, next r.head, next r.tail⟩ : Ring α n).count =
      r.count := by
    refine count_eq r.count_lt ?_
    show shift (next r.tail) r.count = next r.head
    rw [shift_next, ← next_shift, r.shift_count]
  unfold contents
  rw [hcount]
  have hall : (List.range (r.count + 1)).map (fun j =>
      Function.update r.slots r.head x (shift r.tail j)) = r.contents ++ [x] := by
    rw [List.range_succ, List.map_append, map_update le_rfl]
    simp [contents, r.shift_count]
  show (List.range r.count).map
    (fun j => Function.update r.slots r.head x (shift (next r.tail) j)) = _
  rw [show (List.range r.count).map (fun k => r.slots (shift r.tail k)) = r.contents from rfl,
    ← hall, List.range_succ_eq_map, List.map_cons, List.tail_cons, List.map_map]
  apply List.map_congr_left
  intro j _
  rw [shift_next]
  rfl

/-- Either way the contents are a suffix of what was there and the new element. -/
theorem contents_push_eq {x : α} :
    (r.push x).1.contents =
      if (r.push x).2 then (r.contents ++ [x]).tail else r.contents ++ [x] := by
  by_cases hfull : r.count + 1 = n
  · rw [push_overflow_iff.mpr hfull, if_pos rfl]
    exact contents_push_full hfull
  · have hroom : (r.push x).2 = false := by
      rw [Bool.eq_false_iff, ne_eq, push_overflow_iff]
      exact hfull
    have hlt := r.count_lt
    rw [hroom]
    exact contents_push (by omega)

theorem pop_eq_none_iff : r.pop = none ↔ r.contents = [] := by
  have hempty : r.contents = [] ↔ r.count = 0 := by
    rw [← List.length_eq_zero_iff, length_contents]
  rw [hempty]
  unfold pop
  constructor
  · intro hnone
    split at hnone
    case isTrue => exact nomatch hnone
    case isFalse hsame =>
      unfold count
      rw [not_not.mp hsame]
      exact distance_self _
  · intro hzero
    have hsame : r.tail = r.head := by
      rw [← r.shift_count, hzero, shift_zero]
    rw [if_neg (not_not.mpr hsame)]

theorem contents_pop {i : Fin n} {s : Ring α n} (hpop : r.pop = some (i, s)) :
    r.contents = r.slots i :: s.contents ∧ s.slots = r.slots ∧ s.head = r.head ∧ i = r.tail := by
  unfold pop at hpop
  split at hpop
  case isFalse => exact nomatch hpop
  case isTrue hne =>
    cases hpop
    have hpos : r.count ≠ 0 := by
      intro hzero
      apply hne
      rw [← r.shift_count, hzero, shift_zero]
    obtain ⟨k, hk⟩ := Nat.exists_eq_succ_of_ne_zero hpos
    have hlt := r.count_lt
    have hcount : ({ r with tail := next r.tail } : Ring α n).count = k := by
      refine count_eq (by omega) ?_
      show shift (next r.tail) k = r.head
      rw [shift_next, ← Nat.succ_eq_add_one, ← hk]
      exact r.shift_count
    refine ⟨?_, rfl, rfl, rfl⟩
    unfold contents
    rw [hcount, hk, List.range_succ_eq_map, List.map_cons, List.map_map, shift_zero]
    congr 1
    apply List.map_congr_left
    intro j _
    show r.slots (shift r.tail (j + 1)) = r.slots (shift (next r.tail) j)
    rw [shift_next]

theorem length_contents_push {x : α} :
    (r.push x).1.contents.length = if (r.push x).2 then r.contents.length else r.contents.length + 1 := by
  rw [contents_push_eq]
  split
  · rw [List.length_tail, List.length_append, List.length_singleton, Nat.add_sub_cancel]
  · rw [List.length_append, List.length_singleton]

/-! ## What has happened to a ring -/

/-- The elements pushed are those that have left the ring, followed by those in it.  Of the former some
were taken, in order, and `dropped` were not.  In a ring with room for an element the newest one stays
until it is taken. -/
structure History (r : Ring α n) (pushed taken : List α) (dropped : Nat) : Prop where
  order : ∃ gone, pushed = gone ++ r.contents ∧ taken.Sublist gone ∧
    gone.length = taken.length + dropped
  newest : 2 ≤ n → r.contents = [] → taken.getLast? = pushed.getLast?

namespace History

variable {pushed taken : List α} {dropped : Nat}

theorem empty (hempty : r.contents = []) : r.History [] [] 0 := by
  refine ⟨⟨[], ?_, List.Sublist.refl _, rfl⟩, fun _ _ => rfl⟩
  rw [hempty, List.append_nil]

theorem push (hhistory : r.History pushed taken dropped) (x : α) :
    (r.push x).1.History (pushed ++ [x]) taken
      (if (r.push x).2 then dropped + 1 else dropped) := by
  obtain ⟨gone, hpushed, htaken, hgone⟩ := hhistory.order
  have hcontents := contents_push_eq (r := r) (x := x)
  have hlength := length_contents_push (r := r) (x := x)
  cases hoverflow : (r.push x).2 with
  | false =>
      rw [hoverflow, if_neg Bool.false_ne_true] at hcontents
      rw [if_neg Bool.false_ne_true]
      refine ⟨⟨gone, ?_, htaken, hgone⟩, ?_⟩
      · rw [hpushed, hcontents, List.append_assoc]
      · intro _ hempty
        rw [hcontents] at hempty
        exact absurd hempty (List.append_ne_nil_of_right_ne_nil _ (List.cons_ne_nil _ _))
  | true =>
      rw [hoverflow, if_pos rfl] at hcontents hlength
      rw [if_pos rfl]
      obtain ⟨oldest, hsplit⟩ : ∃ oldest, r.contents ++ [x] = oldest :: (r.push x).1.contents := by
        rw [hcontents]
        cases r.contents with
        | nil => exact ⟨x, rfl⟩
        | cons first rest => exact ⟨first, rfl⟩
      refine ⟨⟨gone ++ [oldest], ?_, htaken.trans (List.sublist_append_left _ _), ?_⟩, ?_⟩
      · rw [hpushed, List.append_assoc, hsplit, List.append_assoc]
        rfl
      · rw [List.length_append, List.length_singleton, hgone]
        omega
      · intro hroom hempty
        have hfull := push_overflow_iff.mp hoverflow
        rw [hempty, length_contents] at hlength
        have hzero : r.count = 0 := hlength.symm
        omega

theorem pop (hhistory : r.History pushed taken dropped) {i : Fin n} {s : Ring α n}
    (hpop : r.pop = some (i, s)) : s.History pushed (taken ++ [r.slots i]) dropped := by
  obtain ⟨gone, hpushed, htaken, hgone⟩ := hhistory.order
  obtain ⟨hcontents, -, -, -⟩ := contents_pop hpop
  refine ⟨⟨gone ++ [r.slots i], ?_, htaken.append (List.Sublist.refl _), ?_⟩, ?_⟩
  · rw [hpushed, hcontents, List.append_assoc]
    rfl
  · rw [List.length_append, List.length_append, List.length_singleton, hgone]
    omega
  · intro _ hempty
    rw [hpushed, hcontents, hempty, List.getLast?_concat, List.getLast?_concat]

end History

/-! ## A function of the elements -/

section Map

variable {β : Type*} (f : α → β)

/-- The ring of the images. -/
def map (r : Ring α n) : Ring β n := ⟨f ∘ r.slots, r.head, r.tail⟩

@[simp] theorem contents_map : (r.map f).contents = r.contents.map f := by
  unfold contents
  rw [List.map_map]
  rfl

theorem map_push (x : α) :
    (r.map f).push (f x) = ((r.push x).1.map f, (r.push x).2) := by
  unfold push map
  simp only [← Function.comp_update]
  split <;> rfl

theorem map_pop {i : Fin n} {s : Ring α n} (hpop : r.pop = some (i, s)) :
    (r.map f).pop = some (i, s.map f) := by
  unfold pop at hpop
  split at hpop
  case isFalse => exact nomatch hpop
  case isTrue hne =>
    cases hpop
    exact if_pos hne

end Map

/-! ## A slot that has been read -/

/-- How many pushes leave a slot as it is. -/
def ahead (r : Ring α n) (i : Fin n) : Nat := distance r.head i

theorem head_push {x : α} : (r.push x).1.head = next r.head := by
  unfold push
  simp only
  split <;> rfl

theorem slots_push {x : α} : (r.push x).1.slots = Function.update r.slots r.head x := by
  unfold push
  simp only
  split <;> rfl

theorem ahead_push {x : α} {i : Fin n} (hahead : r.ahead i ≠ 0) :
    (r.push x).1.slots i = r.slots i ∧ (r.push x).1.ahead i + 1 = r.ahead i := by
  have hne : i ≠ r.head := by
    rintro rfl
    exact hahead (distance_self _)
  obtain ⟨k, hk⟩ := Nat.exists_eq_succ_of_ne_zero hahead
  have hlt : r.ahead i < n := distance_lt _ _
  refine ⟨?_, ?_⟩
  · rw [slots_push]
    exact Function.update_of_ne hne _ _
  · have hshift : shift (next r.head) k = i := by
      rw [shift_next, ← Nat.succ_eq_add_one, ← hk]
      exact shift_distance _ _
    unfold ahead at *
    rw [head_push, hk, ← hshift]
    exact congrArg (· + 1) (distance_shift (by omega))

/-- A push whose slot is no longer ahead overwrites it. -/
theorem slots_push_of_ahead {x : α} {i : Fin n} (hahead : r.ahead i = 0) :
    (r.push x).1.slots i = x := by
  have hhead : i = r.head := by
    have hshift := shift_distance r.head i
    rw [show distance r.head i = 0 from hahead, shift_zero] at hshift
    exact hshift.symm
  rw [slots_push, hhead, Function.update_self]

/-- The slot of a popped element is ahead by the number of free slots. -/
theorem ahead_pop {i : Fin n} {s : Ring α n} (hpop : r.pop = some (i, s)) :
    s.ahead i + r.count = n := by
  obtain ⟨-, -, hhead, rfl⟩ := contents_pop hpop
  have hpos : r.count ≠ 0 := by
    intro hzero
    have hempty : r.contents = [] := by
      rw [← List.length_eq_zero_iff, length_contents, hzero]
    rw [pop_eq_none_iff.mpr hempty] at hpop
    exact nomatch hpop
  have hlt := r.count_lt
  have hback : shift r.head (n - r.count) = r.tail := by
    rw [← r.shift_count]
    apply Fin.ext
    show ((r.tail.val + r.count) % n + (n - r.count)) % n = r.tail.val
    rw [Nat.mod_add_mod, show r.tail.val + r.count + (n - r.count) = r.tail.val + n by omega,
      Nat.add_mod_right, Nat.mod_eq_of_lt r.tail.isLt]
  unfold ahead
  rw [hhead, ← hback, distance_shift (by omega)]
  omega

end Ring

end Library
end AsynDriver
