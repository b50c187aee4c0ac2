import AsynDriver.Library.Machine

/-!
# Progress of infinite runs

`Machine.Trace` is an infinite guarded run, in which moments without a step are allowed.  Fairness is
stated about conditions: `Served trace p` says that `p` does not hold for ever from any moment.

A `Ranking` proves that a state of waiting ends.  It gives every such state a rank and a task whose
condition holds there; no step raises the rank, and a step that keeps the rank keeps the task.  When
the tasks are served, the rank has to fall (`Ranking.eventually`).
-/

namespace AsynDriver
namespace Library
namespace Machine

variable {σ : Type*} {α : Type*} {ι : Type*} {M : Machine σ α} {ok : σ → α → Prop}

/-- An infinite run whose steps all meet the guard. -/
structure Trace (M : Machine σ α) (ok : σ → α → Prop) (trace : ℕ → σ) : Prop where
  init : M.init (trace 0)
  next : ∀ n, trace (n + 1) = trace n ∨
    ∃ a, ok (trace n) a ∧ M.step (trace n) a = some (trace (n + 1))

/-- The condition does not hold for ever. -/
def Served (trace : ℕ → σ) (pending : σ → Prop) : Prop :=
  ∀ n, pending (trace n) → ∃ m, n ≤ m ∧ ¬ pending (trace m)

/-- `ranks s k i` says that `s` has rank `k` and waits for task `i`. -/
structure Ranking (M : Machine σ α) (ok : σ → α → Prop) (pending : ι → σ → Prop)
    (waits : σ → Prop) (ranks : σ → ℕ → ι → Prop) : Prop where
  exists_rank : ∀ s, M.Reachable ok s → waits s → ∃ k i, ranks s k i
  pending_of_ranks : ∀ s k i, ranks s k i → pending i s
  step : ∀ s a s' k i, M.Reachable ok s → ok s a → ranks s k i → M.step s a = some s' →
    ¬ waits s' ∨ ranks s' k i ∨ ∃ k', k' < k ∧ ∃ i', ranks s' k' i'

variable {trace : ℕ → σ}

theorem Trace.reachable (htrace : M.Trace ok trace) (n : ℕ) : M.Reachable ok (trace n) := by
  induction n with
  | zero => exact Reachable.init htrace.init
  | succ n ih =>
      rcases htrace.next n with hstutter | ⟨a, hok, hstep⟩
      · rw [hstutter]
        exact ih
      · exact ih.step hok hstep

/-- A finite run, after which nothing moves. -/
theorem exists_trace_of_execGuarded {check : σ → α → Bool}
    (hcheck : ∀ s a, check s a = true → ok s a) {s s' : σ} (actions : List α) (hinit : M.init s)
    (hexec : M.execGuarded check s actions = some s') :
    ∃ trace, M.Trace ok trace ∧ ∀ n, M.exec s (actions.take n) = some (trace n) := by
  have hsteps : ∃ trace : ℕ → σ, trace 0 = s ∧
      (∀ n, trace (n + 1) = trace n ∨
        ∃ a, ok (trace n) a ∧ M.step (trace n) a = some (trace (n + 1))) ∧
      ∀ n, M.exec s (actions.take n) = some (trace n) := by
    clear hinit
    induction actions generalizing s with
    | nil => exact ⟨fun _ => s, rfl, fun _ => Or.inl rfl, fun n => by simp [exec]⟩
    | cons a rest ih =>
        simp only [execGuarded] at hexec
        split at hexec
        · next hok =>
            split at hexec
            · exact absurd hexec (by simp)
            · next s₁ hstep =>
                obtain ⟨trace, hzero, hnext, hrun⟩ := ih hexec
                refine ⟨fun n => Nat.casesOn n s trace, rfl, ?_, ?_⟩
                · intro n
                  cases n with
                  | zero =>
                      refine Or.inr ⟨a, hcheck s a hok, ?_⟩
                      change M.step s a = some (trace 0)
                      rw [hzero]
                      exact hstep
                  | succ n => exact hnext n
                · intro n
                  cases n with
                  | zero => rfl
                  | succ n =>
                      simp only [List.take_succ_cons, exec, hstep]
                      exact hrun n
        · exact absurd hexec (by simp)
  obtain ⟨trace, hzero, hnext, hrun⟩ := hsteps
  refine ⟨trace, ⟨?_, hnext⟩, hrun⟩
  rw [hzero]
  exact hinit

/-- What is not pending at the end of a finite run is served. -/
theorem served_of_exec {s s' : σ} {actions : List α} {pending : σ → Prop}
    (hrun : ∀ n, M.exec s (actions.take n) = some (trace n)) (hexec : M.exec s actions = some s')
    (hdone : ¬ pending s') : Served trace pending := by
  intro n _
  refine ⟨n + actions.length, Nat.le_add_right _ _, ?_⟩
  have hend := hrun (n + actions.length)
  rw [List.take_of_length_le (Nat.le_add_left _ _), hexec] at hend
  cases hend
  exact hdone

namespace Ranking

variable {pending : ι → σ → Prop} {waits : σ → Prop} {ranks : σ → ℕ → ι → Prop}

/-- After some moments the waiting is over, the rank has fallen, or nothing has changed. -/
theorem after (hranking : Ranking M ok pending waits ranks) (htrace : M.Trace ok trace) {n k : ℕ}
    {i : ι} (hranks : ranks (trace n) k i) (d : ℕ) :
    (∃ m, n ≤ m ∧ ¬ waits (trace m)) ∨
      (∃ m, n ≤ m ∧ ∃ k', k' < k ∧ ∃ i', ranks (trace m) k' i') ∨ ranks (trace (n + d)) k i := by
  induction d with
  | zero => exact Or.inr (Or.inr hranks)
  | succ d ih =>
      rcases ih with hdone | hlower | hsame
      · exact Or.inl hdone
      · exact Or.inr (Or.inl hlower)
      · rcases htrace.next (n + d) with hstutter | ⟨a, hok, hstep⟩
        · rw [← hstutter] at hsame
          exact Or.inr (Or.inr hsame)
        · have hle : n ≤ n + d + 1 := by omega
          rcases hranking.step _ a _ k i (htrace.reachable _) hok hsame hstep with
            hdone | hnext | hlower
          · exact Or.inl ⟨n + d + 1, hle, hdone⟩
          · exact Or.inr (Or.inr hnext)
          · exact Or.inr (Or.inl ⟨n + d + 1, hle, hlower⟩)

/-- Waiting ends in every run that serves the tasks. -/
theorem eventually (hranking : Ranking M ok pending waits ranks) (htrace : M.Trace ok trace)
    (hserved : ∀ i, Served trace (pending i)) (n : ℕ) : ∃ m, n ≤ m ∧ ¬ waits (trace m) := by
  -- induction on the rank: the task of a moment is served only when the rank has fallen
  have hfalls : ∀ k n i, ranks (trace n) k i → ∃ m, n ≤ m ∧ ¬ waits (trace m) := by
    intro k
    induction k using Nat.strongRecOn with
    | ind k ih =>
        intro n i hranks
        obtain ⟨m, hle, hnot⟩ := hserved i n (hranking.pending_of_ranks _ k i hranks)
        obtain ⟨d, rfl⟩ := Nat.exists_eq_add_of_le hle
        rcases hranking.after htrace hranks d with hdone | ⟨m, hm, k', hlt, i', hlower⟩ | hsame
        · exact hdone
        · obtain ⟨m', hm', hdone⟩ := ih k' hlt m i' hlower
          exact ⟨m', Nat.le_trans hm hm', hdone⟩
        · exact absurd (hranking.pending_of_ranks _ k i hsame) hnot
  by_cases hwaits : waits (trace n)
  · obtain ⟨k, i, hranks⟩ := hranking.exists_rank _ (htrace.reachable n) hwaits
    exact hfalls k n i hranks
  · exact ⟨n, Nat.le_refl n, hwaits⟩

end Ranking

end Machine
end Library
end AsynDriver
