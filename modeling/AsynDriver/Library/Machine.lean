import Mathlib.Logic.Basic
import Mathlib.Tactic.Common

/-!
# Guarded runs of a partial step function

A concurrent program is given here by its initial states and a *partial* step function: the action
names the thread that moves (and whatever its environment decides), and `none` says that the thread
cannot move now.  A **guard** `ok s a` restricts the runs: `Path ok` is made of the steps whose
state and action meet the guard, so a statement about `Reachable ok` is a statement about every run
whose steps all meet `ok`, and `Unguarded` gives all runs.

* `Machine.Path` / `Machine.Reachable` — the guarded runs and the states they reach.
* `Path.invariant` / `Reachable.invariant` — what holds at the start and is kept by every admitted
  step holds at the end.
* `Reachable.guard_iff` — a guard that each step is good under, and no other is.
* `exec`, `execGuarded` — runs as lists of actions, to be evaluated.
* `Simulation` — an abstraction function under which each step is an abstract step or a stutter; it
  carries reachable states to reachable states.
-/

namespace AsynDriver
namespace Library

/-- Initial states and a partial step function. -/
structure Machine (σ : Type*) (α : Type*) where
  init : σ → Prop
  step : σ → α → Option σ

namespace Machine

variable {σ : Type*} {α : Type*}

/-- The guard that admits every step. -/
def Unguarded : σ → α → Prop := fun _ _ => True

/-- Runs whose steps all meet the guard. -/
inductive Path (M : Machine σ α) (ok : σ → α → Prop) : σ → σ → Prop
  | refl (s : σ) : Path M ok s s
  | tail {s s' s'' : σ} {a : α} (hpath : Path M ok s s') (hok : ok s' a)
      (hstep : M.step s' a = some s'') : Path M ok s s''

/-- The states reached by the guarded runs. -/
def Reachable (M : Machine σ α) (ok : σ → α → Prop) (s : σ) : Prop :=
  ∃ s₀, M.init s₀ ∧ M.Path ok s₀ s

variable {M : Machine σ α} {ok ok' : σ → α → Prop}

namespace Path

theorem single {s s' : σ} {a : α} (hok : ok s a) (hstep : M.step s a = some s') :
    M.Path ok s s' :=
  (Path.refl s).tail hok hstep

theorem trans {s s' s'' : σ} (hfirst : M.Path ok s s') (hsecond : M.Path ok s' s'') :
    M.Path ok s s'' := by
  induction hsecond with
  | refl => exact hfirst
  | tail _ hok hstep ih => exact ih.tail hok hstep

/-- A run under a guard is a run under every weaker guard. -/
theorem mono (hweaker : ∀ s a, ok s a → ok' s a) {s s' : σ} (hpath : M.Path ok s s') :
    M.Path ok' s s' := by
  induction hpath with
  | refl => exact Path.refl _
  | tail _ hok hstep ih => exact ih.tail (hweaker _ _ hok) hstep

/-- What every admitted step keeps holds at the end of a run. -/
theorem invariant {I : σ → Prop}
    (hkeep : ∀ s a s', ok s a → I s → M.step s a = some s' → I s')
    {s s' : σ} (hpath : M.Path ok s s') (hstart : I s) : I s' := by
  induction hpath with
  | refl => exact hstart
  | tail _ hok hstep ih => exact hkeep _ _ _ hok ih hstep

end Path

namespace Reachable

theorem init {s : σ} (hinit : M.init s) : M.Reachable ok s :=
  ⟨s, hinit, Path.refl s⟩

theorem path {s s' : σ} (hreach : M.Reachable ok s) (hpath : M.Path ok s s') :
    M.Reachable ok s' := by
  obtain ⟨s₀, hinit, hprefix⟩ := hreach
  exact ⟨s₀, hinit, hprefix.trans hpath⟩

theorem step {s s' : σ} {a : α} (hreach : M.Reachable ok s) (hok : ok s a)
    (hstep : M.step s a = some s') : M.Reachable ok s' :=
  hreach.path (Path.single hok hstep)

theorem mono (hweaker : ∀ s a, ok s a → ok' s a) {s : σ} (hreach : M.Reachable ok s) :
    M.Reachable ok' s := by
  obtain ⟨s₀, hinit, hpath⟩ := hreach
  exact ⟨s₀, hinit, hpath.mono hweaker⟩

/-- The invariant rule: true initially and kept by every admitted step. -/
theorem invariant {I : σ → Prop} (hinit : ∀ s, M.init s → I s)
    (hkeep : ∀ s a s', ok s a → I s → M.step s a = some s' → I s')
    {s : σ} (hreach : M.Reachable ok s) : I s := by
  obtain ⟨s₀, hstart, hpath⟩ := hreach
  exact hpath.invariant hkeep (hinit s₀ hstart)

/-- An invariant whose step uses another fact about reachable states. -/
theorem invariant_of_reachable {I : σ → Prop} (hinit : ∀ s, M.init s → I s)
    (hkeep : ∀ s a s', M.Reachable ok s → ok s a → I s → M.step s a = some s' → I s')
    {s : σ} (hreach : M.Reachable ok s) : I s := by
  obtain ⟨s₀, hstart, hpath⟩ := hreach
  induction hpath with
  | refl => exact hinit _ hstart
  | tail hprefix hok hstep ih => exact hkeep _ _ _ ⟨s₀, hstart, hprefix⟩ hok ih hstep

/-- A guard that is what a good step needs, in the states that good steps reach. -/
theorem guard_iff {I : σ → Prop} {good : σ → α → σ → Prop} (hinit : ∀ s, M.init s → I s)
    (hkeep : ∀ s a s', I s → M.step s a = some s' → good s a s' → I s')
    (hiff : ∀ s a s', I s → M.step s a = some s' → (good s a s' ↔ ok s a)) {s : σ}
    (hreach : M.Reachable ok s) :
    I s ∧ ∀ a s', M.step s a = some s' → (good s a s' ↔ ok s a) := by
  have hinv : I s := by
    refine Reachable.invariant hinit ?_ hreach
    intro s a s' hok hs hstep
    exact hkeep s a s' hs hstep ((hiff s a s' hs hstep).mpr hok)
  exact ⟨hinv, fun a s' hstep => hiff s a s' hinv hstep⟩

/-- Where an invariant gives a guard, every run meets it. -/
theorem strengthen {I : σ → Prop} (hinit : ∀ s, M.init s → I s)
    (hkeep : ∀ s a s', ok s a → I s → M.step s a = some s' → I s')
    (hguard : ∀ s a, I s → ok s a → ok' s a) {s : σ} (hreach : M.Reachable ok s) :
    M.Reachable ok' s := by
  obtain ⟨s₀, hstart, hpath⟩ := hreach
  induction hpath with
  | refl => exact Reachable.init hstart
  | tail hprefix hok hstep ih =>
      have hinv := hprefix.invariant hkeep (hinit _ hstart)
      exact ih.step (hguard _ _ hinv hok) hstep

end Reachable

/-- Run a list of actions. -/
def exec (M : Machine σ α) (s : σ) : List α → Option σ
  | [] => some s
  | a :: rest =>
      match M.step s a with
      | none => none
      | some s' => exec M s' rest

/-- Run a list of actions, checking each step first. -/
def execGuarded (M : Machine σ α) (check : σ → α → Bool) (s : σ) : List α → Option σ
  | [] => some s
  | a :: rest =>
      if check s a then
        match M.step s a with
        | none => none
        | some s' => execGuarded M check s' rest
      else none

/-- The tests may rely on an invariant that the tested steps keep. -/
theorem path_of_execGuarded {I : σ → Prop} {check : σ → α → Bool}
    (hcheck : ∀ s a, I s → check s a = true → ok s a)
    (hkeep : ∀ s a s', I s → check s a = true → M.step s a = some s' → I s')
    {s s' : σ} {actions : List α} (hstart : I s)
    (hexec : M.execGuarded check s actions = some s') : M.Path ok s s' := by
  induction actions generalizing s with
  | nil =>
      cases hexec
      exact Path.refl _
  | cons a rest ih =>
      simp only [execGuarded] at hexec
      split at hexec
      · next hok =>
          split at hexec
          · exact absurd hexec (by simp)
          · next hstep =>
              have hfirst := Path.single (hcheck _ _ hstart hok) hstep
              exact hfirst.trans (ih (hkeep _ _ _ hstart hok hstep) hexec)
      · exact absurd hexec (by simp)

theorem path_of_exec {s s' : σ} {actions : List α}
    (hexec : M.exec s actions = some s') : M.Path Unguarded s s' := by
  induction actions generalizing s with
  | nil =>
      cases hexec
      exact Path.refl _
  | cons a rest ih =>
      simp only [exec] at hexec
      split at hexec
      · exact absurd hexec (by simp)
      · next hstep => exact (Path.single trivial hstep).trans (ih hexec)

theorem reachable_of_exec {s s' : σ} {actions : List α} (hinit : M.init s)
    (hexec : M.exec s actions = some s') : M.Reachable Unguarded s' :=
  (Reachable.init hinit).path (path_of_exec hexec)

theorem reachable_of_execGuarded {I : σ → Prop} {check : σ → α → Bool}
    (hcheck : ∀ s a, I s → check s a = true → ok s a)
    (hkeep : ∀ s a s', I s → check s a = true → M.step s a = some s' → I s')
    {s s' : σ} {actions : List α} (hinit : M.init s) (hstart : I s)
    (hexec : M.execGuarded check s actions = some s') : M.Reachable ok s' :=
  (Reachable.init hinit).path (path_of_execGuarded hcheck hkeep hstart hexec)

/-- An evaluated run is a reachable state with what was evaluated. -/
theorem exists_reachable_of_exec {β : Type*} (f : σ → β) {s : σ} (actions : List α) {b : β}
    (hinit : M.init s) (hexec : (M.exec s actions).map f = some b) :
    ∃ s', M.Reachable Unguarded s' ∧ f s' = b := by
  obtain ⟨s', hrun, hvalue⟩ := Option.map_eq_some_iff.mp hexec
  exact ⟨s', reachable_of_exec hinit hrun, hvalue⟩

theorem exists_reachable_of_execGuarded_inv {β : Type*} (f : σ → β) {I : σ → Prop}
    {check : σ → α → Bool} (hcheck : ∀ s a, I s → check s a = true → ok s a)
    (hkeep : ∀ s a s', I s → check s a = true → M.step s a = some s' → I s')
    {s : σ} (actions : List α) {b : β} (hinit : M.init s) (hstart : I s)
    (hexec : (M.execGuarded check s actions).map f = some b) :
    ∃ s', M.Reachable ok s' ∧ f s' = b := by
  obtain ⟨s', hrun, hvalue⟩ := Option.map_eq_some_iff.mp hexec
  exact ⟨s', reachable_of_execGuarded hcheck hkeep hinit hstart hrun, hvalue⟩

theorem exists_reachable_of_execGuarded {β : Type*} (f : σ → β) {check : σ → α → Bool}
    (hcheck : ∀ s a, check s a = true → ok s a) {s : σ} (actions : List α) {b : β}
    (hinit : M.init s) (hexec : (M.execGuarded check s actions).map f = some b) :
    ∃ s', M.Reachable ok s' ∧ f s' = b :=
  exists_reachable_of_execGuarded_inv f (I := fun _ => True) (fun s a _ => hcheck s a)
    (fun _ _ _ _ _ _ => trivial) actions hinit trivial hexec

/-- Every concrete step from a reachable state is, under `abs`, one admitted abstract step or no
step at all. -/
structure Simulation {τ : Type*} {β : Type*} (M : Machine σ α) (ok : σ → α → Prop)
    (N : Machine τ β) (okN : τ → β → Prop) (abs : σ → τ) : Prop where
  init : ∀ s, M.init s → N.init (abs s)
  step : ∀ s a s', M.Reachable ok s → ok s a → M.step s a = some s' →
    abs s' = abs s ∨ ∃ b, okN (abs s) b ∧ N.step (abs s) b = some (abs s')

theorem Simulation.reachable {τ : Type*} {β : Type*} {N : Machine τ β} {okN : τ → β → Prop}
    {abs : σ → τ} (hsim : Simulation M ok N okN abs) {s : σ} (hreach : M.Reachable ok s) :
    N.Reachable okN (abs s) := by
  refine Reachable.invariant_of_reachable (I := fun s => N.Reachable okN (abs s))
    (fun s hinit => Reachable.init (hsim.init s hinit)) ?_ hreach
  intro s a s' hs hok ih hstep
  rcases hsim.step s a s' hs hok hstep with hstutter | ⟨b, hokN, hstepN⟩
  · rw [hstutter]
    exact ih
  · exact ih.step hokN hstepN

end Machine

end Library
end AsynDriver
