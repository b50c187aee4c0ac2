import Mathlib.Data.Sum.Basic
import Mathlib.Tactic.Common

/-!
# Loops that may not end

A loop is a function for one pass: it gives the state for the next pass, or what the loop returns.

* `run` — the loop with a bound on the passes; `Returns` — the loop ends with this result.
* `Returns.unique` — it ends with one result.
* `returns_iff_of_path` — the result is that of any state on the way.
* `Returns.post` — what an invariant says about the result; `not_returns` — an invariant under which no
  pass is the last one.
* `exists_returns`, `isSome_run` — a loop ends if each pass makes a number smaller.
-/

namespace AsynDriver
namespace Library
namespace Loop

variable {σ ρ : Type*} (pass : σ → σ ⊕ ρ)

/-- At most `fuel` passes. -/
def run : ℕ → σ → Option ρ
  | 0, _ => none
  | fuel + 1, s =>
      match pass s with
      | .inl s' => run fuel s'
      | .inr r => some r

/-- The loop ends, and returns `r`. -/
def Returns (s : σ) (r : ρ) : Prop := ∃ fuel, run pass fuel s = some r

variable {pass} {s : σ} {r : ρ}

theorem returns_of_inr {r' : ρ} (hpass : pass s = .inr r') : Returns pass s r ↔ r = r' := by
  constructor
  · rintro ⟨fuel, hrun⟩
    cases fuel with
    | zero => exact nomatch hrun
    | succ fuel =>
        rw [run, hpass] at hrun
        exact (Option.some.inj hrun).symm
  · rintro rfl
    refine ⟨1, ?_⟩
    rw [run, hpass]

theorem returns_of_inl {s' : σ} (hpass : pass s = .inl s') :
    Returns pass s r ↔ Returns pass s' r := by
  constructor
  · rintro ⟨fuel, hrun⟩
    cases fuel with
    | zero => exact nomatch hrun
    | succ fuel =>
        rw [run, hpass] at hrun
        exact ⟨fuel, hrun⟩
  · rintro ⟨fuel, hrun⟩
    refine ⟨fuel + 1, ?_⟩
    rw [run, hpass]
    exact hrun

/-- The result is the one of any state that the loop comes to. -/
theorem returns_iff_of_path {p : ℕ → σ} {n : ℕ}
    (hpath : ∀ i, i < n → pass (p i) = .inl (p (i + 1))) :
    Returns pass (p 0) r ↔ Returns pass (p n) r := by
  induction n with
  | zero => exact Iff.rfl
  | succ n ih =>
      have hbefore : ∀ i, i < n → pass (p i) = .inl (p (i + 1)) := fun i hi => hpath i (by omega)
      exact (ih hbefore).trans (returns_of_inl (hpath n (Nat.lt_succ_self n)))

/-- The rule for a loop: what holds before every pass decides what holds of the result. -/
theorem Returns.post {I : σ → Prop} {Q : ρ → Prop} (hreturns : Returns pass s r) (hinit : I s)
    (hinl : ∀ s s', I s → pass s = .inl s' → I s')
    (hinr : ∀ s r, I s → pass s = .inr r → Q r) : Q r := by
  obtain ⟨fuel, hrun⟩ := hreturns
  induction fuel generalizing s with
  | zero => exact nomatch hrun
  | succ fuel ih =>
      rw [run] at hrun
      cases hpass : pass s with
      | inl s' =>
          rw [hpass] at hrun
          exact ih (hinl s s' hinit hpass) hrun
      | inr r' =>
          rw [hpass] at hrun
          obtain rfl := Option.some.inj hrun
          exact hinr s r' hinit hpass

/-- A loop does not end if no pass under its invariant is the last one. -/
theorem not_returns {I : σ → Prop} (hinit : I s)
    (hpass : ∀ s, I s → ∃ s', pass s = .inl s' ∧ I s') : ¬ Returns pass s r := by
  intro hreturns
  refine hreturns.post (Q := fun _ => False) hinit ?_ ?_
  · intro s s' hinv hinl
    obtain ⟨next, hnext, hinv'⟩ := hpass s hinv
    cases hnext.symm.trans hinl
    exact hinv'
  · intro s r hinv hinr
    obtain ⟨next, hnext, -⟩ := hpass s hinv
    exact nomatch hnext.symm.trans hinr

theorem Returns.unique {r' : ρ} (hr : Returns pass s r) (hr' : Returns pass s r') : r = r' := by
  refine hr.post (I := fun s => Returns pass s r') (Q := fun r => r = r') hr' ?_ ?_
  · exact fun s s' hinv hinl => (returns_of_inl hinl).mp hinv
  · exact fun s r hinv hinr => ((returns_of_inr hinr).mp hinv).symm

/-- The total rule: under an invariant each pass makes a number smaller. -/
theorem exists_returns {I : σ → Prop} (measure : σ → ℕ) (hinit : I s)
    (hpass : ∀ s s', I s → pass s = .inl s' → I s' ∧ measure s' < measure s) :
    ∃ r, Returns pass s r := by
  generalize hn : measure s = n
  induction n using Nat.strongRecOn generalizing s with
  | _ n ih =>
      cases hp : pass s with
      | inl s' =>
          obtain ⟨hinv, hless⟩ := hpass s s' hinit hp
          obtain ⟨r, hr⟩ := ih (measure s') (hn ▸ hless) hinv rfl
          exact ⟨r, (returns_of_inl hp).mpr hr⟩
      | inr r => exact ⟨r, (returns_of_inr hp).mpr rfl⟩

/-- As many passes as that are enough. -/
theorem isSome_run {I : σ → Prop} (measure : σ → ℕ) (hinit : I s)
    (hpass : ∀ s s', I s → pass s = .inl s' → I s' ∧ measure s' < measure s) {fuel : ℕ}
    (hfuel : measure s < fuel) : (run pass fuel s).isSome := by
  induction fuel generalizing s with
  | zero => exact absurd hfuel (Nat.not_lt_zero _)
  | succ fuel ih =>
      rw [run]
      cases hp : pass s with
      | inl s' =>
          obtain ⟨hinv, hless⟩ := hpass s s' hinit hp
          exact ih hinv (by omega)
      | inr r => rfl

end Loop
end Library
end AsynDriver
