import Mathlib.Logic.Function.Basic
import Mathlib.Tactic.Common
import AsynDriver.Library.Machine

/-!
# Operations under one lock

Threads run operations on something that a lock protects.  An operation first stores into a cell of
its own, then takes the lock or is refused, makes its calls, and releases the lock.  What it does between
the release and its return touches nothing that is shared, so that it is recorded when it releases the lock;
another one may return before it.

* `Program`, `Runs` — what an operation calls, depending on what the calls before have returned.
* `Spec`, `machine` — the operations, and all interleavings of the threads that run them.
* `Accounted` — the calls are those of one operation after the other.
* `accounted_reachable` — so it is in every run; what holds of each call when it is made holds of
  the calls of each operation.
* `Alone` — no two threads use one cell at the same time: then each operation finds in its cell what
  it has stored (`accounted_alone`).
-/

namespace AsynDriver
namespace Library
namespace UnderLock

/-! ## Programs -/

/-- A program that makes calls; `R c` is what the call `c` returns. -/
inductive Program (C : Type) (R : C → Type) (α : Type)
  | ret (a : α)
  | call (c : C) (k : R c → Program C R α)

/-- A call that was made, with what it returned and what was in the cell of the caller. -/
structure Event (C : Type) (R : C → Type) (V : Type) where
  method : C
  reply : R method
  seen : V

variable {C : Type} {R : C → Type} {V α : Type}

/-- The program makes these calls, and then is the other one. -/
inductive Runs : Program C R α → List (Event C R V) → Program C R α → Prop
  | nil (p : Program C R α) : Runs p [] p
  | snoc {p : Program C R α} {events : List (Event C R V)} {c : C} {k : R c → Program C R α}
      (hruns : Runs p events (.call c k)) (r : R c) (seen : V) :
      Runs p (events ++ [⟨c, r, seen⟩]) (k r)

/-! ## Operations -/

/-- The operations: where each stores, what it stores over what was there, and its calls. -/
structure Spec (κ V C : Type) (R : C → Type) (Ω : Type) (ρ : Ω → Type) where
  cell : Ω → κ
  store : Ω → V → V
  body : (o : Ω) → Program C R (ρ o)

/-- An operation was refused the lock, or has made its calls and released it: with these answers. -/
inductive Outcome (α N A : Type)
  | refused (n : N)
  | done (x : α) (a : A)

variable {κ Ω ι N A : Type} {ρ : Ω → Type}

/-- Where a thread is; `before` was in the cell when the operation was called. -/
inductive Phase (V C : Type) (R : C → Type) (Ω : Type) (ρ : Ω → Type)
  | idle
  | called (o : Ω) (before : V)
  | inside (o : Ω) (before : V) (rest : Program C R (ρ o))

/-- The operation that a thread runs. -/
def Phase.operation : Phase V C R Ω ρ → Option (Ω × V)
  | .idle => none
  | .called o before => some (o, before)
  | .inside o before _ => some (o, before)

/-- An operation that has released the lock, or was refused it; it returns some time after that. -/
structure Released (V Ω : Type) (ρ : Ω → Type) (ι N A : Type) where
  thread : ι
  operation : Ω
  before : V
  outcome : Outcome (ρ operation) N A

structure State (κ V C : Type) (R : C → Type) (Ω : Type) (ρ : Ω → Type)
    (ι N A : Type) where
  phase : ι → Phase V C R Ω ρ
  owner : Option ι
  cells : κ → V
  log : List (Event C R V)
  released : List (Released V Ω ρ ι N A)

inductive Action (C : Type) (R : C → Type) (Ω ι N A : Type)
  | call (t : ι) (o : Ω)
  | refuse (t : ι) (n : N)
  | acquire (t : ι)
  | reply (t : ι) (r : ∀ c, R c)
  | release (t : ι) (a : A)

/-! ## One operation after the other -/

/-- A list is made of blocks, one for each member of another list. -/
inductive InOrder {α β : Type} (B : α → List β → Prop) : List α → List β → Prop
  | nil : InOrder B [] []
  | snoc {xs : List α} {ys : List β} {x : α} {block : List β} (hinOrder : InOrder B xs ys)
      (hblock : B x block) : InOrder B (xs ++ [x]) (ys ++ block)

theorem InOrder.mono {α β : Type} {B B' : α → List β → Prop} {xs : List α} {ys : List β}
    (hinOrder : InOrder B xs ys) (hweaker : ∀ x block, B x block → B' x block) :
    InOrder B' xs ys := by
  induction hinOrder with
  | nil => exact .nil
  | snoc _ hblock ih => exact ih.snoc (hweaker _ _ hblock)

variable {S : Spec κ V C R Ω ρ} {Q : Ω → V → Event C R V → Prop}

/-- The calls of an operation that has released the lock; `Q` says what holds of each. -/
def Block (S : Spec κ V C R Ω ρ) (Q : Ω → V → Event C R V → Prop) (d : Released V Ω ρ ι N A)
    (events : List (Event C R V)) : Prop :=
  (∀ e ∈ events, Q d.operation d.before e) ∧
    match d.outcome with
    | .refused _ => events = []
    | .done x _ => Runs (S.body d.operation) events (.ret x)

/-- A refused operation has made no call. -/
theorem InOrder.refused {released : List (Released V Ω ρ ι N A)} {log : List (Event C R V)}
    (hinOrder : InOrder (Block S Q) released log) (t : ι) (o : Ω) (before : V) (n : N) :
    InOrder (Block S Q) (released ++ [⟨t, o, before, .refused n⟩]) log := by
  have hblock : Block S Q (⟨t, o, before, .refused n⟩ : Released V Ω ρ ι N A) [] :=
    ⟨fun e he => absurd he List.not_mem_nil, rfl⟩
  have hsnoc := hinOrder.snoc hblock
  rwa [List.append_nil] at hsnoc

/-- The calls since the lock was taken are those of its owner. -/
structure Progress (S : Spec κ V C R Ω ρ) (Q : Ω → V → Event C R V → Prop)
    (s : State κ V C R Ω ρ ι N A) (current : List (Event C R V)) : Prop where
  owns : ∀ t o before rest, s.phase t = .inside o before rest → s.owner = some t
  free : s.owner = none → current = []
  held : ∀ t, s.owner = some t → ∃ o before rest, s.phase t = .inside o before rest ∧
    Runs (S.body o) current rest ∧ ∀ e ∈ current, Q o before e

/-- The calls are those of the operations that have released the lock, in this order, and of its owner. -/
def Accounted (S : Spec κ V C R Ω ρ) (Q : Ω → V → Event C R V → Prop)
    (s : State κ V C R Ω ρ ι N A) : Prop :=
  ∃ finished current, s.log = finished ++ current ∧ InOrder (Block S Q) s.released finished ∧
    Progress S Q s current

variable {s s' : State κ V C R Ω ρ ι N A}

/-- All threads are idle, and nothing has been called. -/
def Fresh (s : State κ V C R Ω ρ ι N A) : Prop :=
  (∀ t, s.phase t = .idle) ∧ s.owner = none ∧ s.log = [] ∧ s.released = []

theorem accounted_fresh (hfresh : Fresh s) : Accounted S Q s := by
  obtain ⟨hidle, howner, hlog, hreleased⟩ := hfresh
  refine ⟨[], [], hlog, ?_, ?_, fun _ => rfl, ?_⟩
  · rw [hreleased]
    exact .nil
  · intro t o before rest h
    rw [hidle t] at h
    cases h
  · intro t h
    rw [howner] at h
    cases h

section Threads

variable [DecidableEq ι]

/-- A thread goes on outside the lock. -/
theorem Progress.outside {current : List (Event C R V)} (hprogress : Progress S Q s current) {t : ι}
    {phase : Phase V C R Ω ρ} (hold : ∀ o before rest, s.phase t ≠ .inside o before rest)
    (hnew : ∀ o before rest, phase ≠ .inside o before rest)
    (hphase : s'.phase = Function.update s.phase t phase) (howner : s'.owner = s.owner) :
    Progress S Q s' current := by
  refine ⟨?_, ?_, ?_⟩
  · intro u o before rest hu
    rw [hphase] at hu
    by_cases ht : u = t
    · subst ht
      rw [Function.update_self] at hu
      exact absurd hu (hnew o before rest)
    · rw [Function.update_of_ne ht] at hu
      rw [howner]
      exact hprogress.owns u o before rest hu
  · rw [howner]
    exact hprogress.free
  · intro u hu
    rw [howner] at hu
    obtain ⟨o, before, rest, hinside, hruns, hQ⟩ := hprogress.held u hu
    have ht : u ≠ t := by
      rintro rfl
      exact hold o before rest hinside
    refine ⟨o, before, rest, ?_, hruns, hQ⟩
    rw [hphase, Function.update_of_ne ht]
    exact hinside

/-- The owner goes on inside the lock. -/
theorem Progress.inside {current current' : List (Event C R V)} (hprogress : Progress S Q s current)
    {t : ι} (hfree : s.owner = none ∨ s.owner = some t) {o : Ω} {before : V}
    {rest : Program C R (ρ o)} (hphase : s'.phase = Function.update s.phase t (.inside o before rest))
    (howner : s'.owner = some t) (hruns : Runs (S.body o) current' rest)
    (hQ : ∀ e ∈ current', Q o before e) : Progress S Q s' current' := by
  refine ⟨?_, ?_, ?_⟩
  · intro u o' before' rest' hu
    by_cases ht : u = t
    · rw [ht]
      exact howner
    · rw [hphase, Function.update_of_ne ht] at hu
      have hother := hprogress.owns u o' before' rest' hu
      rcases hfree with hnone | hsome
      · rw [hnone] at hother
        cases hother
      · rw [hsome] at hother
        exact absurd (Option.some.inj hother).symm ht
  · intro hnone
    rw [howner] at hnone
    cases hnone
  · intro u hu
    rw [howner] at hu
    cases hu
    refine ⟨o, before, rest, ?_, hruns, hQ⟩
    rw [hphase, Function.update_self]

/-- The owner releases the lock. -/
theorem Progress.leave {current : List (Event C R V)} (hprogress : Progress S Q s current) {t : ι}
    (howner : s.owner = some t) (hphase : s'.phase = Function.update s.phase t .idle)
    (hfree : s'.owner = none) : Progress S Q s' [] := by
  refine ⟨?_, fun _ => rfl, ?_⟩
  · intro u o before rest hu
    rw [hphase] at hu
    by_cases ht : u = t
    · subst ht
      rw [Function.update_self] at hu
      cases hu
    · rw [Function.update_of_ne ht] at hu
      have hother := hprogress.owns u o before rest hu
      rw [howner] at hother
      exact absurd (Option.some.inj hother).symm ht
  · intro u hu
    rw [hfree] at hu
    cases hu

/-- What the threads have stored is in their cells, which they do not share. -/
structure Separate (S : Spec κ V C R Ω ρ) (s : State κ V C R Ω ρ ι N A) : Prop where
  stored : ∀ t o before, (s.phase t).operation = some (o, before) →
    s.cells (S.cell o) = S.store o before
  distinct : ∀ t u o before o' before', (s.phase t).operation = some (o, before) →
    (s.phase u).operation = some (o', before') → S.cell o = S.cell o' → t = u

/-- A thread goes on with its operation, or is idle again. -/
theorem Separate.enter (hseparate : Separate S s) {t : ι} {phase : Phase V C R Ω ρ}
    (hphase : s'.phase = Function.update s.phase t phase) (hcells : s'.cells = s.cells)
    (hoperation : ∀ o before, phase.operation = some (o, before) →
      (s.phase t).operation = some (o, before)) : Separate S s' := by
  have hsame : ∀ u o before, (s'.phase u).operation = some (o, before) →
      (s.phase u).operation = some (o, before) := by
    intro u o before hu
    rw [hphase] at hu
    by_cases ht : u = t
    · subst ht
      rw [Function.update_self] at hu
      exact hoperation o before hu
    · rw [Function.update_of_ne ht] at hu
      exact hu
  refine ⟨?_, ?_⟩
  · intro u o before hu
    rw [hcells]
    exact hseparate.stored u o before (hsame u o before hu)
  · intro u v o before o' before' hu hv
    exact hseparate.distinct u v o before o' before' (hsame u o before hu) (hsame v o' before' hv)

end Threads

/-! ## Runs -/

section Runs

variable [DecidableEq κ] [DecidableEq ι] (S)

/-- The thread goes on. -/
def State.enter (s : State κ V C R Ω ρ ι N A) (t : ι) (phase : Phase V C R Ω ρ) :
    State κ V C R Ω ρ ι N A :=
  { s with phase := Function.update s.phase t phase }

def step (s : State κ V C R Ω ρ ι N A) : Action C R Ω ι N A → Option (State κ V C R Ω ρ ι N A)
  | .call t o =>
      match s.phase t with
      | .idle =>
          let before := s.cells (S.cell o)
          some
            { s.enter t (.called o before) with
              cells := Function.update s.cells (S.cell o) (S.store o before) }
      | _ => none
  | .refuse t n =>
      match s.phase t with
      | .called o before =>
          some { s.enter t .idle with released := s.released ++ [⟨t, o, before, .refused n⟩] }
      | _ => none
  | .acquire t =>
      match s.phase t, s.owner with
      | .called o before, none =>
          some { s.enter t (.inside o before (S.body o)) with owner := some t }
      | _, _ => none
  | .reply t r =>
      match s.phase t with
      | .inside o before (.call c k) =>
          some
            { s.enter t (.inside o before (k (r c))) with
              log := s.log ++ [⟨c, r c, s.cells (S.cell o)⟩] }
      | _ => none
  | .release t a =>
      match s.phase t with
      | .inside o before (.ret x) =>
          some
            { s.enter t .idle with
              owner := none
              released := s.released ++ [⟨t, o, before, .done x a⟩] }
      | _ => none

def machine : Machine (State κ V C R Ω ρ ι N A) (Action C R Ω ι N A) := ⟨Fresh, step S⟩

variable {S}

/-- One step. -/
theorem Accounted.step (hinv : Accounted S Q s)
    (hQ : ∀ t o before c k, s.phase t = .inside o before (.call c k) →
      ∀ r, Q o before ⟨c, r, s.cells (S.cell o)⟩)
    {a : Action C R Ω ι N A} (hstep : step S s a = some s') : Accounted S Q s' := by
  obtain ⟨finished, current, hlog, hinOrder, hprogress⟩ := hinv
  cases a with
  | call t o =>
      simp only [UnderLock.step] at hstep
      split at hstep
      case h_1 hidle =>
        cases hstep
        refine ⟨finished, current, hlog, hinOrder, hprogress.outside ?_ ?_ rfl rfl⟩
        · intro o' before rest h
          rw [hidle] at h
          cases h
        · intro o' before rest h
          cases h
      case h_2 => cases hstep
  | refuse t n =>
      simp only [UnderLock.step] at hstep
      split at hstep
      case h_1 o before hcalled =>
        cases hstep
        refine ⟨finished, current, hlog, hinOrder.refused t o before n,
          hprogress.outside ?_ ?_ rfl rfl⟩
        · intro o' before' rest h
          rw [hcalled] at h
          cases h
        · intro o' before' rest h
          cases h
      case h_2 => cases hstep
  | acquire t =>
      simp only [UnderLock.step] at hstep
      split at hstep
      case h_1 o before hcalled hnone =>
        cases hstep
        have hcurrent := hprogress.free hnone
        refine ⟨finished, current, hlog, hinOrder,
          hprogress.inside (Or.inl hnone) rfl rfl ?_ ?_⟩
        · rw [hcurrent]
          exact .nil _
        · rw [hcurrent]
          exact fun e he => absurd he List.not_mem_nil
      case h_2 => cases hstep
  | reply t r =>
      simp only [UnderLock.step] at hstep
      split at hstep
      case h_1 o before c k hinside =>
        cases hstep
        have howner := hprogress.owns t o before _ hinside
        obtain ⟨o', before', rest, hinside', hruns, hcalls⟩ := hprogress.held t howner
        rw [hinside] at hinside'
        cases hinside'
        refine ⟨finished, current ++ [⟨c, r c, s.cells (S.cell o)⟩], ?_, hinOrder,
          hprogress.inside (Or.inr howner) rfl howner (hruns.snoc (r c) _) ?_⟩
        · rw [← List.append_assoc, ← hlog]
        · intro e he
          rcases List.mem_append.mp he with hold | hnew
          · exact hcalls e hold
          · rw [List.mem_singleton.mp hnew]
            exact hQ t o before c k hinside (r c)
      case h_2 => cases hstep
  | release t a =>
      simp only [UnderLock.step] at hstep
      split at hstep
      case h_1 o before x hinside =>
        cases hstep
        have howner := hprogress.owns t o before _ hinside
        obtain ⟨o', before', rest, hinside', hruns, hcalls⟩ := hprogress.held t howner
        rw [hinside] at hinside'
        cases hinside'
        have hblock : Block S Q
            (⟨t, o, before, .done x a⟩ : Released V Ω ρ ι N A) current := ⟨hcalls, hruns⟩
        refine ⟨finished ++ current, [], ?_, hinOrder.snoc hblock,
          hprogress.leave howner rfl rfl⟩
        rw [List.append_nil]
        exact hlog
      case h_2 => cases hstep

variable {ok : State κ V C R Ω ρ ι N A → Action C R Ω ι N A → Prop}

/-- In every run the calls are those of one operation after the other; what holds of each call when
it is made holds of the calls of each operation. -/
theorem accounted_reachable
    (hQ : ∀ s, (machine S).Reachable ok s → ∀ t o before c k,
      s.phase t = .inside o before (.call c k) → ∀ r, Q o before ⟨c, r, s.cells (S.cell o)⟩)
    (hreach : (machine S).Reachable ok s) : Accounted S Q s := by
  refine Machine.Reachable.invariant_of_reachable ?_ ?_ hreach
  · intro s hfresh
    exact accounted_fresh hfresh
  · intro s a s' hs _ hinv hstep
    exact hinv.step (hQ s hs) hstep

/-! ### Cells -/

/-- No other thread runs an operation that uses the cell of the one that is called. -/
def Alone (S : Spec κ V C R Ω ρ) (s : State κ V C R Ω ρ ι N A) : Action C R Ω ι N A → Prop
  | .call _ o => ∀ u o' before, (s.phase u).operation = some (o', before) → S.cell o' ≠ S.cell o
  | _ => True

theorem Separate.step (hseparate : Separate S s) {a : Action C R Ω ι N A} (halone : Alone S s a)
    (hstep : step S s a = some s') : Separate S s' := by
  cases a with
  | call t o =>
      simp only [UnderLock.step] at hstep
      split at hstep
      case h_2 => cases hstep
      case h_1 hidle =>
        cases hstep
        -- the other operations are as before, and use other cells
        have hother : ∀ u o' before, u ≠ t →
            (Function.update s.phase t (Phase.called o (s.cells (S.cell o))) u).operation =
              some (o', before) → (s.phase u).operation = some (o', before) := by
          intro u o' before ht hu
          rwa [Function.update_of_ne ht] at hu
        have hself : ∀ o' before,
            (Function.update s.phase t (Phase.called o (s.cells (S.cell o))) t).operation =
              some (o', before) → o' = o ∧ before = s.cells (S.cell o) := by
          intro o' before ht
          rw [Function.update_self] at ht
          cases ht
          exact ⟨rfl, rfl⟩
        refine ⟨?_, ?_⟩
        · intro u o' before hu
          by_cases ht : u = t
          · subst ht
            obtain ⟨rfl, rfl⟩ := hself o' before hu
            exact Function.update_self ..
          · have hold := hother u o' before ht hu
            change Function.update s.cells (S.cell o) (S.store o (s.cells (S.cell o))) (S.cell o') = _
            rw [Function.update_of_ne (halone u o' before hold)]
            exact hseparate.stored u o' before hold
        · intro u v o₁ before₁ o₂ before₂ hu hv hcell
          by_cases hut : u = t
          · subst hut
            by_cases hvt : v = u
            · exact hvt.symm
            · obtain ⟨rfl, rfl⟩ := hself o₁ before₁ hu
              exact absurd hcell.symm (halone v o₂ before₂ (hother v o₂ before₂ hvt hv))
          · by_cases hvt : v = t
            · subst hvt
              obtain ⟨rfl, rfl⟩ := hself o₂ before₂ hv
              exact absurd hcell (halone u o₁ before₁ (hother u o₁ before₁ hut hu))
            · exact hseparate.distinct u v o₁ before₁ o₂ before₂ (hother u o₁ before₁ hut hu)
                (hother v o₂ before₂ hvt hv) hcell
  | refuse t n =>
      simp only [UnderLock.step] at hstep
      split at hstep
      case h_2 => cases hstep
      case h_1 o before hcalled =>
        cases hstep
        refine hseparate.enter rfl rfl ?_
        intro o' before' h
        cases h
  | acquire t =>
      simp only [UnderLock.step] at hstep
      split at hstep
      case h_2 => cases hstep
      case h_1 o before hcalled hnone =>
        cases hstep
        refine hseparate.enter rfl rfl ?_
        intro o' before' h
        rw [hcalled]
        exact h
  | reply t r =>
      simp only [UnderLock.step] at hstep
      split at hstep
      case h_2 => cases hstep
      case h_1 o before c k hinside =>
        cases hstep
        refine hseparate.enter rfl rfl ?_
        intro o' before' h
        rw [hinside]
        exact h
  | release t a =>
      simp only [UnderLock.step] at hstep
      split at hstep
      case h_2 => cases hstep
      case h_1 o before x hinside =>
        cases hstep
        refine hseparate.enter rfl rfl ?_
        intro o' before' h
        cases h

theorem separate_reachable (hreach : (machine S).Reachable (Alone S) s) : Separate S s := by
  refine Machine.Reachable.invariant ?_ ?_ hreach
  · intro s hfresh
    refine ⟨?_, ?_⟩
    · intro t o before h
      rw [hfresh.1 t] at h
      cases h
    · intro t u o before o' before' h
      rw [hfresh.1 t] at h
      cases h
  · intro s a s' halone hseparate hstep
    exact hseparate.step halone hstep

/-- Where no two threads use one cell at the same time, each call of an operation finds in the cell
what the operation has stored there. -/
theorem accounted_alone (hreach : (machine S).Reachable (Alone S) s) :
    Accounted S (fun o before e => e.seen = S.store o before) s := by
  refine accounted_reachable ?_ hreach
  intro s hs t o before c k hinside r
  refine (separate_reachable hs).stored t o before ?_
  rw [hinside]
  rfl

end Runs

end UnderLock
end Library
end AsynDriver
