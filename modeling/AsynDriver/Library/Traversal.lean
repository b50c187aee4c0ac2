import Mathlib.Logic.Function.Basic
import AsynDriver.Library.Machine

/-!
# Walks through a structure that is changed only when none is active

Walkers announce their walks in one flag, and whoever wants to change the structure waits until the
flag is clear.  The flag stands for one walk: if no walk begins while it is set, then the structure is
the same from the beginning of each walk to its end.

* `machine` — walks begin and end, and the structure changes while the flag is clear.
* `Alone` — the runs in which no walk begins while another is active.
* `unchanged`, `active_iff` — what holds in them.
-/

namespace AsynDriver
namespace Library
namespace Traversal

/-- `walkers` keeps the contents of the structure as they were when the walk began. -/
structure State (α ι : Type*) where
  contents : α
  active : Bool
  walkers : ι → Option α

inductive Action (α ι : Type*)
  | start (w : ι)
  | finish (w : ι)
  | change (contents : α)

variable {α ι : Type*} [DecidableEq ι]

def step (s : State α ι) : Action α ι → Option (State α ι)
  | .start w =>
      match s.walkers w with
      | none =>
          some { s with active := true, walkers := Function.update s.walkers w (some s.contents) }
      | some _ => none
  | .finish w =>
      match s.walkers w with
      | none => none
      | some _ => some { s with active := false, walkers := Function.update s.walkers w none }
  | .change contents => if s.active then none else some { s with contents := contents }

def Initial (s : State α ι) : Prop := s.active = false ∧ ∀ w, s.walkers w = none

def machine : Machine (State α ι) (Action α ι) := ⟨Initial, step⟩

/-- No walk begins while the flag is set. -/
def Alone (s : State α ι) : Action α ι → Prop
  | .start _ => s.active = false
  | _ => True

structure Inv (s : State α ι) : Prop where
  unchanged : ∀ w l, s.walkers w = some l → s.contents = l
  active : ∀ w l, s.walkers w = some l → s.active = true
  walking : s.active = true → ∃ w l, s.walkers w = some l
  unique : ∀ w w' l l', s.walkers w = some l → s.walkers w' = some l' → w = w'

omit [DecidableEq ι] in
theorem Inv.none_of_inactive {s : State α ι} (hinv : Inv s) (hactive : s.active = false) (w : ι) :
    s.walkers w = none := by
  cases hwalk : s.walkers w with
  | none => rfl
  | some l =>
      have htrue := hinv.active w l hwalk
      rw [hactive] at htrue
      cases htrue

omit [DecidableEq ι] in
theorem inv_of_none {s : State α ι} (hactive : s.active = false) (hnone : ∀ w, s.walkers w = none) :
    Inv s := by
  have hwalk : ∀ w l, s.walkers w ≠ some l := by
    intro w l h
    rw [hnone w] at h
    cases h
  refine ⟨?_, ?_, ?_, ?_⟩
  · intro w l h
    exact absurd h (hwalk w l)
  · intro w l h
    exact absurd h (hwalk w l)
  · intro h
    rw [hactive] at h
    cases h
  · intro w w' l l' h
    exact absurd h (hwalk w l)

/-- A walk that begins is the only one. -/
theorem Inv.start {s : State α ι} (hinv : Inv s) (hactive : s.active = false) (w : ι) :
    Inv { s with active := true, walkers := Function.update s.walkers w (some s.contents) } := by
  have honly : ∀ w' l, Function.update s.walkers w (some s.contents) w' = some l → w' = w ∧ s.contents = l := by
    intro w' l hwalk
    by_cases hw : w' = w
    · rw [hw, Function.update_self] at hwalk
      exact ⟨hw, Option.some.inj hwalk⟩
    · rw [Function.update_of_ne hw, hinv.none_of_inactive hactive w'] at hwalk
      cases hwalk
  refine ⟨?_, ?_, ?_, ?_⟩
  · intro w' l hwalk
    exact (honly w' l hwalk).2
  · intro w' l _
    rfl
  · intro _
    exact ⟨w, s.contents, Function.update_self ..⟩
  · intro w₁ w₂ l₁ l₂ h₁ h₂
    exact (honly w₁ l₁ h₁).1.trans (honly w₂ l₂ h₂).1.symm

/-- After the end of a walk there is none. -/
theorem Inv.finish {s : State α ι} (hinv : Inv s) {w : ι} {l : α} (hwalk : s.walkers w = some l) :
    Inv { s with active := false, walkers := Function.update s.walkers w none } := by
  have hnone : ∀ w', Function.update s.walkers w none w' = none := by
    intro w'
    by_cases hw : w' = w
    · rw [hw, Function.update_self]
    · rw [Function.update_of_ne hw]
      cases hother : s.walkers w' with
      | none => rfl
      | some l' => exact absurd (hinv.unique w' w l' l hother hwalk) hw
  exact inv_of_none rfl hnone

theorem inv_of_reachable {s : State α ι} (hreach : machine.Reachable Alone s) : Inv s := by
  refine hreach.invariant ?_ ?_
  · rintro s ⟨hactive, hnone⟩
    exact inv_of_none hactive hnone
  · intro s a s' hok hinv hstep
    cases a with
    | start w =>
        simp only [machine, step] at hstep
        split at hstep
        · cases hstep
          exact hinv.start hok w
        · cases hstep
    | finish w =>
        simp only [machine, step] at hstep
        split at hstep
        · cases hstep
        · next l hwalk =>
          cases hstep
          exact hinv.finish hwalk
    | change contents =>
        simp only [machine, step] at hstep
        split at hstep
        · cases hstep
        · next hinactive =>
          cases hstep
          have hnone := hinv.none_of_inactive (eq_false_of_ne_true hinactive)
          refine ⟨?_, hinv.active, hinv.walking, hinv.unique⟩
          intro w l h
          rw [hnone w] at h
          cases h

variable {s : State α ι}

/-- From the beginning of a walk to its end the structure does not change. -/
theorem unchanged (hreach : machine.Reachable Alone s) {w : ι} {l : α}
    (hwalk : s.walkers w = some l) : s.contents = l :=
  (inv_of_reachable hreach).unchanged w l hwalk

/-- The flag says that there is a walk. -/
theorem active_iff (hreach : machine.Reachable Alone s) :
    s.active = true ↔ ∃ w l, s.walkers w = some l := by
  have hinv := inv_of_reachable hreach
  exact ⟨hinv.walking, fun ⟨w, l, hwalk⟩ => hinv.active w l hwalk⟩

end Traversal
end Library
end AsynDriver
