import Mathlib.Data.List.Nodup
import Mathlib.Tactic.Common

/-!
# Things that are in one place at a time

A family of lists, one for each place.

* `OnePlace` — nothing is in two places, or twice in one.
* `OnePlace.remove`, `OnePlace.add`, `OnePlace.move` — what a step does to the lists: a thing is taken
  away, comes from nowhere, or goes from one place to another.
-/

namespace AsynDriver
namespace Library

variable {ι α : Type*}

structure OnePlace (place : ι → List α) : Prop where
  nodup : ∀ i, (place i).Nodup
  unique : ∀ i j x, x ∈ place i → x ∈ place j → i = j

namespace OnePlace

variable {place place' : ι → List α} {x : α} {i j : ι}

theorem remove (h : OnePlace place) (hi : (place i).Perm (x :: place' i))
    (hother : ∀ j, j ≠ i → place' j = place j) : OnePlace place' := by
  have hsub : ∀ j y, y ∈ place' j → y ∈ place j := by
    intro j y hy
    by_cases hj : j = i
    · subst hj
      exact hi.mem_iff.mpr (List.mem_cons_of_mem x hy)
    · rw [← hother j hj]
      exact hy
  refine ⟨fun j => ?_, fun j k y hj hk => h.unique j k y (hsub j y hj) (hsub k y hk)⟩
  by_cases hj : j = i
  · subst hj
    exact (List.nodup_cons.mp (hi.nodup_iff.mp (h.nodup j))).2
  · rw [hother j hj]
    exact h.nodup j

/-- What is taken from its place is nowhere. -/
theorem not_mem_of_remove (h : OnePlace place) (hi : (place i).Perm (x :: place' i))
    (hother : ∀ j, j ≠ i → place' j = place j) (j : ι) : x ∉ place' j := by
  by_cases hj : j = i
  · subst hj
    exact (List.nodup_cons.mp (hi.nodup_iff.mp (h.nodup j))).1
  · rw [hother j hj]
    exact fun hmem => hj (h.unique j i x hmem (hi.mem_iff.mpr List.mem_cons_self))

theorem add (h : OnePlace place) (hnew : ∀ j, x ∉ place j) (hi : (place' i).Perm (x :: place i))
    (hother : ∀ j, j ≠ i → place' j = place j) : OnePlace place' := by
  have hmem : ∀ j y, y ∈ place' j → y ∈ place j ∨ j = i ∧ y = x := by
    intro j y hy
    by_cases hj : j = i
    · subst hj
      rcases List.mem_cons.mp (hi.mem_iff.mp hy) with rfl | hy
      · exact .inr ⟨rfl, rfl⟩
      · exact .inl hy
    · rw [hother j hj] at hy
      exact .inl hy
  refine ⟨fun j => ?_, fun j k y hj hk => ?_⟩
  · by_cases hj : j = i
    · subst hj
      exact hi.nodup_iff.mpr (List.nodup_cons.mpr ⟨hnew j, h.nodup j⟩)
    · rw [hother j hj]
      exact h.nodup j
  · rcases hmem j y hj with hj | ⟨rfl, rfl⟩
    · rcases hmem k y hk with hk | ⟨rfl, rfl⟩
      · exact h.unique j k y hj hk
      · exact absurd hj (hnew j)
    · rcases hmem k y hk with hk | ⟨rfl, -⟩
      · exact absurd hk (hnew k)
      · rfl

theorem move (h : OnePlace place) (hne : i ≠ j) (hi : (place i).Perm (x :: place' i))
    (hj : (place' j).Perm (x :: place j)) (hother : ∀ k, k ≠ i → k ≠ j → place' k = place k) :
    OnePlace place' := by
  classical
  -- the family in between, without `x`
  let between : ι → List α := Function.update place i (place' i)
  have hself : between i = place' i := Function.update_self i _ place
  have hrest : ∀ k, k ≠ i → between k = place k := fun k hk => Function.update_of_ne hk _ place
  have hremoved : (place i).Perm (x :: between i) := hself ▸ hi
  refine (h.remove hremoved hrest).add (h.not_mem_of_remove hremoved hrest) (i := j) ?_ ?_
  · rw [hrest j hne.symm]
    exact hj
  · intro k hk
    by_cases hki : k = i
    · rw [hki, hself]
    · rw [hother k hki hk, hrest k hki]

end OnePlace
end Library
end AsynDriver
