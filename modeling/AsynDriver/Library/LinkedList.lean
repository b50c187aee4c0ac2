import Mathlib.Data.List.Nodup
import Mathlib.Data.List.Sublists

/-!
# Walking a duplicate-free list

A doubly linked list whose nodes lie inside the listed objects holds every object at most once, so
it is a `List` without duplicates and "the node after this one" is a function of the object.  This
file relates a walk along such a list to the part of it that has been passed:

* `nextAfter l a` — the object after `a`;
* `before l a` — the objects passed when the walk stands at `a`; a step of the walk appends the
  object it leaves (`before_of_nextAfter`), and a walk that ends has passed everything
  (`eq_before_append_of_nextAfter_none`);
* `[a, b].Sublist l` — `a` stands before `b`; appending and removing other objects keeps this.
-/

namespace AsynDriver
namespace Library
namespace LinkedList

variable {α : Type*} [DecidableEq α]

/-- The element after `a`. -/
def nextAfter : List α → α → Option α
  | [], _ => none
  | x :: rest, a => if x = a then rest.head? else nextAfter rest a

/-- The elements in front of `a`. -/
def before : List α → α → List α
  | [], _ => []
  | x :: rest, a => if x = a then [] else x :: before rest a

theorem before_subset (l : List α) (a : α) : before l a ⊆ l := by
  induction l with
  | nil => simp [before]
  | cons x rest ih =>
      intro b hb
      simp only [before] at hb
      split at hb
      · simp at hb
      · rcases List.mem_cons.mp hb with rfl | hrest
        · simp
        · exact List.mem_cons_of_mem _ (ih hrest)

theorem not_mem_before (l : List α) (a : α) : a ∉ before l a := by
  induction l with
  | nil => simp [before]
  | cons x rest ih =>
      simp only [before]
      split
      · simp
      · next hne => simp [ih, Ne.symm hne]

theorem before_of_head? {l : List α} {a : α} (hhead : l.head? = some a) : before l a = [] := by
  cases l with
  | nil => rfl
  | cons x rest =>
      obtain rfl : x = a := by simpa using hhead
      simp [before]

theorem mem_of_nextAfter {l : List α} {a b : α} (hnext : nextAfter l a = some b) : b ∈ l := by
  induction l with
  | nil => simp [nextAfter] at hnext
  | cons x rest ih =>
      simp only [nextAfter] at hnext
      split at hnext
      · exact List.mem_cons_of_mem _ (List.mem_of_mem_head? hnext)
      · exact List.mem_cons_of_mem _ (ih hnext)

/-- One step of the walk passes exactly the element it leaves. -/
theorem before_of_nextAfter {l : List α} (hnodup : l.Nodup) {a b : α}
    (hnext : nextAfter l a = some b) : before l b = before l a ++ [a] := by
  induction l with
  | nil => simp [nextAfter] at hnext
  | cons x rest ih =>
      obtain ⟨hx, hrest⟩ := List.nodup_cons.mp hnodup
      simp only [nextAfter] at hnext
      split at hnext
      · next hxa =>
          subst hxa
          have hmem : b ∈ rest := List.mem_of_mem_head? hnext
          have hne : x ≠ b := fun h => hx (h ▸ hmem)
          simp [before, hne, before_of_head? hnext]
      · next hxa =>
          have hne : x ≠ b := fun h => hx (h ▸ mem_of_nextAfter hnext)
          simp [before, hne, hxa, ih hrest hnext]

/-- A walk that finds no next element has passed the whole list. -/
theorem eq_before_append_of_nextAfter_none {l : List α} {a : α} (hmem : a ∈ l)
    (hnext : nextAfter l a = none) : l = before l a ++ [a] := by
  induction l with
  | nil => simp at hmem
  | cons x rest ih =>
      simp only [nextAfter] at hnext
      split at hnext
      · next hxa =>
          subst hxa
          have hnil : rest = [] := by simpa using hnext
          simp [before, hnil]
      · next hxa =>
          have hrest : a ∈ rest := by
            rcases List.mem_cons.mp hmem with rfl | h
            · exact absurd rfl hxa
            · exact h
          simp only [before, hxa, if_false, List.cons_append]
          exact congrArg (x :: ·) (ih hrest hnext)

theorem mem_before_of_sublist {l : List α} (hnodup : l.Nodup) {a b : α}
    (horder : [a, b].Sublist l) : a ∈ before l b := by
  induction l with
  | nil => simp at horder
  | cons x rest ih =>
      obtain ⟨hx, hrest⟩ := List.nodup_cons.mp hnodup
      cases horder with
      | cons _ htail =>
          have hb : b ∈ rest := htail.subset (by simp)
          have hne : x ≠ b := fun h => hx (h ▸ hb)
          simp [before, hne, ih hrest htail]
      | cons_cons _ htail =>
          have hb : b ∈ rest := htail.subset (by simp)
          have hne : a ≠ b := fun h => hx (h ▸ hb)
          simp [before, hne]

theorem before_append_of_mem {l : List α} {a : α} (hmem : a ∈ l) (m : List α) :
    before (l ++ m) a = before l a := by
  induction l with
  | nil => simp at hmem
  | cons x rest ih =>
      rw [List.cons_append]
      simp only [before]
      split
      · rfl
      · next hne =>
          have hrest := List.mem_of_ne_of_mem (Ne.symm hne) hmem
          rw [ih hrest]

/-- Removing another element removes it from the part that has been passed. -/
theorem before_erase {a c : α} (hne : c ≠ a) (l : List α) :
    before (l.erase c) a = (before l a).erase c := by
  induction l with
  | nil => rfl
  | cons x rest ih =>
      by_cases hxc : x = c
      · subst hxc
        simp [before, hne]
      · rw [List.erase_cons_tail (by simpa using hxc)]
        by_cases hxa : x = a
        · simp [before, hxa]
        · simp [before, hxa, hxc, ih]

omit [DecidableEq α] in
theorem pair_sublist_append_self {l : List α} {a b : α} (hmem : a ∈ l) :
    [a, b].Sublist (l ++ [b]) := by
  have hfirst : [a].Sublist l := List.singleton_sublist.mpr hmem
  exact hfirst.append (List.Sublist.refl [b])

theorem pair_sublist_erase {l : List α} {a b c : α} (horder : [a, b].Sublist l)
    (ha : c ≠ a) (hb : c ≠ b) : [a, b].Sublist (l.erase c) := by
  have herase := horder.erase c
  rwa [List.erase_of_not_mem (by simp [ha, hb])] at herase

end LinkedList
end Library
end AsynDriver
