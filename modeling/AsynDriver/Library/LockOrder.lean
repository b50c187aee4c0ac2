import Mathlib.Data.List.Basic
import Mathlib.Data.List.Count
import Mathlib.Data.List.Infix
import Mathlib.Logic.Function.Basic
import Mathlib.Logic.Relation
import Mathlib.Tactic.Common
import AsynDriver.Library.Machine

/-!
# The order in which threads take locks

Threads run operations, each of which acquires and releases recursive locks in a fixed sequence.

* `Instr`, `locked` — the sequences; `machine` runs them.
* `Held` — a lock that the rest of a program releases more often than it acquires it.
* `Nested` — a program has to take one lock while it holds another.
* `WaitsFor`, `Deadlock` — a thread waits for the owner of a lock, and a circle of such waits.
* `not_deadlock` — where the nestings of the operations in progress have no circle, there is no
  deadlock.
* `deadlock_lasts` — a deadlock never ends.
* `Crossing` — two programs come to two locks the other way round, with no lock in common;
  `not_waitsAt_of_reachable`: else no two threads wait for each other at these locks.
-/

namespace AsynDriver
namespace Library
namespace LockOrder

variable {Λ ι Ω : Type*} [DecidableEq Λ] [DecidableEq ι]

inductive Instr (Λ : Type*)
  | acquire (l : Λ)
  | release (l : Λ)
  deriving DecidableEq

abbrev Program (Λ : Type*) := List (Instr Λ)

/-- The program with the lock around it. -/
def locked (l : Λ) (p : Program Λ) : Program Λ := .acquire l :: (p ++ [.release l])

/-! ## One lock -/

/-- The owner of a lock and the number of its further acquisitions. -/
abbrev Lock (ι : Type*) := Option (ι × Nat)

/-- How often the thread has acquired the lock and not released it. -/
def Lock.depth (o : Lock ι) (t : ι) : Nat :=
  match o with
  | none => 0
  | some (u, k) => if t = u then k + 1 else 0

/-- A lock that is free, or owned by the thread. -/
def Lock.acquire (o : Lock ι) (t : ι) : Option (Lock ι) :=
  match o with
  | none => some (some (t, 0))
  | some (u, k) => if t = u then some (some (u, k + 1)) else none

def Lock.release (o : Lock ι) (t : ι) : Option (Lock ι) :=
  match o with
  | none => none
  | some (u, 0) => if t = u then some none else none
  | some (u, k + 1) => if t = u then some (some (u, k)) else none

theorem Lock.depth_acquire {o o' : Lock ι} {t : ι} (hacquire : o.acquire t = some o') (u : ι) :
    o'.depth u = o.depth u + if u = t then 1 else 0 := by
  unfold Lock.acquire at hacquire
  split at hacquire
  case h_1 =>
    cases hacquire
    exact (Nat.zero_add _).symm
  case h_2 v k =>
    split at hacquire
    case isFalse => exact nomatch hacquire
    case isTrue hv =>
      subst hv
      cases hacquire
      show (if u = t then k + 1 + 1 else 0) = (if u = t then k + 1 else 0) + if u = t then 1 else 0
      split <;> rfl

theorem Lock.depth_release {o o' : Lock ι} {t : ι} (hrelease : o.release t = some o') (u : ι) :
    (o'.depth u + if u = t then 1 else 0) = o.depth u := by
  unfold Lock.release at hrelease
  split at hrelease
  case h_1 => exact nomatch hrelease
  case h_2 v =>
    split at hrelease
    case isFalse => exact nomatch hrelease
    case isTrue hv =>
      subst hv
      cases hrelease
      exact Nat.zero_add _
  case h_3 v k =>
    split at hrelease
    case isFalse => exact nomatch hrelease
    case isTrue hv =>
      subst hv
      cases hrelease
      show ((if u = t then k + 1 else 0) + if u = t then 1 else 0) = if u = t then k + 1 + 1 else 0
      split <;> rfl

/-! ## The machine -/

/-- The locks, and the rest of each thread's operation. -/
structure State (Λ ι : Type*) where
  lock : Λ → Lock ι
  program : ι → Program Λ

inductive Action (Ω ι : Type*)
  | start (t : ι) (op : Ω)
  | run (t : ι)

/-- The thread comes to the instruction; without a result it has to wait. -/
def perform (lock : Λ → Lock ι) (t : ι) : Instr Λ → Option (Λ → Lock ι)
  | .acquire l => ((lock l).acquire t).map (Function.update lock l)
  | .release l => ((lock l).release t).map (Function.update lock l)

def step (code : Ω → Program Λ) (s : State Λ ι) : Action Ω ι → Option (State Λ ι)
  | .start t op =>
      if s.program t = [] then some { s with program := Function.update s.program t (code op) }
      else none
  | .run t =>
      match s.program t with
      | [] => none
      | i :: rest => (perform s.lock t i).map fun lock =>
          ⟨lock, Function.update s.program t rest⟩

def State.start : State Λ ι := ⟨fun _ => none, fun _ => []⟩

/-- `code` are the instructions of an operation. -/
def machine (code : Ω → Program Λ) : Machine (State Λ ι) (Action Ω ι) := ⟨(· = .start), step code⟩

theorem step_start {code : Ω → Program Λ} {s s' : State Λ ι} {t : ι} {op : Ω}
    (hstep : step code s (.start t op) = some s') :
    s.program t = [] ∧ s' = { s with program := Function.update s.program t (code op) } := by
  unfold step at hstep
  simp only at hstep
  split at hstep
  case isFalse => exact nomatch hstep
  case isTrue hdone => exact ⟨hdone, (Option.some.inj hstep).symm⟩

theorem step_run {code : Ω → Program Λ} {s s' : State Λ ι} {t : ι}
    (hstep : step code s (.run t) = some s') :
    ∃ i rest lock, s.program t = i :: rest ∧ perform s.lock t i = some lock ∧
      s' = ⟨lock, Function.update s.program t rest⟩ := by
  unfold step at hstep
  simp only at hstep
  split at hstep
  case h_1 => exact nomatch hstep
  case h_2 i rest hprogram =>
    obtain ⟨lock, hperform, rfl⟩ := Option.map_eq_some_iff.mp hstep
    exact ⟨i, rest, lock, hprogram, hperform, rfl⟩

/-! ## What a thread holds -/

def acquires (p : Program Λ) (l : Λ) : Nat := p.count (.acquire l)

def releases (p : Program Λ) (l : Λ) : Nat := p.count (.release l)

/-- What is left of a program releases the lock more often than it acquires it. -/
def Held (p : Program Λ) (l : Λ) : Prop := acquires p l < releases p l

instance (p : Program Λ) (l : Λ) : Decidable (Held p l) := inferInstanceAs (Decidable (_ < _))

theorem acquires_append (p q : Program Λ) (l : Λ) :
    acquires (p ++ q) l = acquires p l + acquires q l := List.count_append

theorem releases_append (p q : Program Λ) (l : Λ) :
    releases (p ++ q) l = releases p l + releases q l := List.count_append

theorem acquires_cons (i : Instr Λ) (p : Program Λ) (l : Λ) :
    acquires (i :: p) l = acquires p l + if i = .acquire l then 1 else 0 := by
  unfold acquires
  rw [List.count_cons]
  simp only [beq_iff_eq]

theorem releases_cons (i : Instr Λ) (p : Program Λ) (l : Λ) :
    releases (i :: p) l = releases p l + if i = .release l then 1 else 0 := by
  unfold releases
  rw [List.count_cons]
  simp only [beq_iff_eq]

/-- Whatever is acquired is released, and only then. -/
structure Balanced (p : Program Λ) : Prop where
  whole : ∀ l, acquires p l = releases p l
  rest : ∀ before rest, p = before ++ rest → ∀ l, acquires rest l ≤ releases rest l

theorem balanced_nil : Balanced ([] : Program Λ) where
  whole := fun _ => rfl
  rest := by
    intro before rest hsplit l
    rw [(List.append_eq_nil_iff.mp hsplit.symm).2]
    exact Nat.le_refl _

theorem Balanced.append {p q : Program Λ} (hp : Balanced p) (hq : Balanced q) :
    Balanced (p ++ q) where
  whole := by
    intro l
    rw [acquires_append, releases_append, hp.whole l, hq.whole l]
  rest := by
    intro before rest hsplit l
    rcases List.append_eq_append_iff.mp hsplit with ⟨middle, -, hrest⟩ | ⟨middle, hbefore, rfl⟩
    · exact hq.rest middle rest hrest l
    · rw [acquires_append, releases_append, hq.whole l]
      exact Nat.add_le_add_right (hp.rest before middle hbefore l) _

theorem Balanced.locked {p : Program Λ} (hp : Balanced p) (l : Λ) : Balanced (locked l p) := by
  have hlast : ∀ l', acquires [Instr.release l] l' = 0 := fun _ => rfl
  have hwhole : ∀ l', acquires (LockOrder.locked l p) l' = releases (LockOrder.locked l p) l' := by
    intro l'
    unfold LockOrder.locked
    rw [acquires_cons, releases_cons, acquires_append, releases_append, hp.whole l', hlast,
      releases_cons]
    simp only [Instr.acquire.injEq, Instr.release.injEq, reduceCtorEq, if_false, Nat.add_zero]
    exact congrArg _ (Nat.zero_add _).symm
  refine ⟨hwhole, ?_⟩
  intro before rest hsplit l'
  cases before with
  | nil =>
      cases hsplit
      exact Nat.le_of_eq (hwhole l')
  | cons i before =>
      obtain ⟨-, htail⟩ := List.cons.inj hsplit
      rcases List.append_eq_append_iff.mp htail with ⟨middle, -, hrest⟩ | ⟨middle, hbefore, rfl⟩
      · have hzero : acquires rest l' = 0 := by
          have hsum := acquires_append middle rest l'
          rw [← hrest, hlast] at hsum
          omega
        rw [hzero]
        exact Nat.zero_le _
      · rw [acquires_append, releases_append, hlast]
        exact Nat.le_trans (hp.rest before middle hbefore l') (Nat.le_add_right _ _)

theorem Balanced.flatMap {β : Type*} {f : β → Program Λ} (hf : ∀ b, Balanced (f b)) (bs : List β) :
    Balanced (bs.flatMap f) := by
  induction bs with
  | nil => exact balanced_nil
  | cons b bs ih =>
      rw [List.flatMap_cons]
      exact (hf b).append ih

/-- What a thread holds is what it still has to release. -/
def Accounted (s : State Λ ι) : Prop :=
  ∀ t l, (s.lock l).depth t + acquires (s.program t) l = releases (s.program t) l

theorem accounted_start : Accounted (State.start : State Λ ι) := fun _ _ => rfl

variable {s s' : State Λ ι} {t : ι} {l : Λ}

theorem Accounted.held_of_owner (haccounted : Accounted s) {k : Nat}
    (howner : s.lock l = some (t, k)) : Held (s.program t) l := by
  have hcount := haccounted t l
  have hdepth : (s.lock l).depth t = k + 1 := by
    rw [howner]
    exact if_pos rfl
  unfold Held
  omega

theorem Accounted.not_held_of_owner (haccounted : Accounted s) {u : ι} {k : Nat}
    (howner : s.lock l = some (u, k)) (hne : u ≠ t) : ¬ Held (s.program t) l := by
  have hcount := haccounted t l
  have hdepth : (s.lock l).depth t = 0 := by
    rw [howner]
    exact if_neg hne.symm
  unfold Held
  omega

/-- One instruction changes one lock for one thread. -/
theorem perform_depth {lock : Λ → Lock ι} {i : Instr Λ} (hperform : perform s.lock t i = some lock)
    (u : ι) (l : Λ) :
    ((lock l).depth u + if u = t ∧ i = .release l then 1 else 0) =
      (s.lock l).depth u + if u = t ∧ i = .acquire l then 1 else 0 := by
  cases i with
  | acquire l₀ =>
      obtain ⟨o, hlock, rfl⟩ := Option.map_eq_some_iff.mp hperform
      by_cases hl : l = l₀
      · subst hl
        have hdepth := Lock.depth_acquire hlock u
        simp only [Function.update_self, hdepth, reduceCtorEq, and_false, if_false, and_true,
          Nat.add_zero]
      · simp only [Function.update_of_ne hl, reduceCtorEq, and_false, if_false, Instr.acquire.injEq,
          Ne.symm hl]
  | release l₀ =>
      obtain ⟨o, hlock, rfl⟩ := Option.map_eq_some_iff.mp hperform
      by_cases hl : l = l₀
      · subst hl
        have hdepth := Lock.depth_release hlock u
        simp only [Function.update_self, ← hdepth, reduceCtorEq, and_false, if_false, and_true,
          Nat.add_zero]
      · simp only [Function.update_of_ne hl, reduceCtorEq, and_false, if_false, Instr.release.injEq,
          Ne.symm hl]

theorem Accounted.step {code : Ω → Program Λ} (hcode : ∀ op, Balanced (code op))
    (haccounted : Accounted s) {a : Action Ω ι} (hstep : step code s a = some s') :
    Accounted s' := by
  cases a with
  | start t op =>
      obtain ⟨hdone, rfl⟩ := step_start hstep
      intro u l
      have hcount := haccounted u l
      by_cases hu : u = t
      · subst hu
        rw [hdone] at hcount
        have hzero : (s.lock l).depth u = 0 := by
          have hnil : acquires ([] : Program Λ) l = 0 ∧ releases ([] : Program Λ) l = 0 :=
            ⟨rfl, rfl⟩
          omega
        simp only [Function.update_self, hzero, Nat.zero_add]
        exact (hcode op).whole l
      · simp only [Function.update_of_ne hu]
        exact hcount
  | run t =>
      obtain ⟨i, rest, lock, hprogram, hperform, rfl⟩ := step_run hstep
      intro u l
      have hcount := haccounted u l
      have hdepth := perform_depth hperform u l
      by_cases hu : u = t
      · subst hu
        rw [hprogram, acquires_cons, releases_cons] at hcount
        simp only [true_and] at hdepth
        simp only [Function.update_self]
        omega
      · simp only [hu, false_and, if_false, Nat.add_zero] at hdepth
        simp only [Function.update_of_ne hu, hdepth]
        exact hcount

/-! ## Circles -/

/-- The program has to take the second lock while it holds the first. -/
def Nested (p : Program Λ) (l l' : Λ) : Prop :=
  ∃ before rest, p = before ++ .acquire l' :: rest ∧ Held (.acquire l' :: rest) l ∧
    ¬ Held (.acquire l' :: rest) l'

/-- Some operation in progress has to take the second lock while it holds the first. -/
def Order (s : State Λ ι) (l l' : Λ) : Prop := ∃ t, Nested (s.program t) l l'

/-- The thread's next instruction acquires a lock that another thread owns. -/
def WaitsAt (s : State Λ ι) (t : ι) (l : Λ) (u : ι) : Prop :=
  (∃ rest, s.program t = .acquire l :: rest) ∧ (∃ k, s.lock l = some (u, k)) ∧ u ≠ t

def WaitsFor (s : State Λ ι) (t u : ι) : Prop := ∃ l, WaitsAt s t l u

/-- Threads each of which holds a lock for which another one waits, in a circle. -/
def Deadlock (s : State Λ ι) : Prop := ∃ t, Relation.TransGen (WaitsFor s) t t

/-- The owner of a lock that is waited for holds it around the lock for which it waits itself. -/
theorem Accounted.nested (haccounted : Accounted s) {u v : ι} {l l' : Λ} (hwait : WaitsAt s t l u)
    (hnext : WaitsAt s u l' v) : Order s l l' := by
  obtain ⟨-, ⟨k, howner⟩, -⟩ := hwait
  obtain ⟨⟨rest, hprogram⟩, ⟨k', howner'⟩, hne⟩ := hnext
  have hheld := haccounted.held_of_owner howner
  have hnot := haccounted.not_held_of_owner howner' hne
  rw [hprogram] at hheld hnot
  exact ⟨u, [], rest, hprogram, hheld, hnot⟩

/-- A chain of waits is a chain of nestings. -/
theorem Accounted.chain (haccounted : Accounted s) {u : ι}
    (hchain : Relation.TransGen (WaitsFor s) t u) {l' : Λ} {v : ι} (hnext : WaitsAt s u l' v) :
    ∃ l w, WaitsAt s t l w ∧ Relation.TransGen (Order s) l l' := by
  induction hchain generalizing l' v with
  | single hwait =>
      obtain ⟨l, hwait⟩ := hwait
      exact ⟨l, _, hwait, .single (haccounted.nested hwait hnext)⟩
  | tail _ hwait ih =>
      obtain ⟨l, hwait⟩ := hwait
      obtain ⟨l₀, w, hfirst, horder⟩ := ih hwait
      exact ⟨l₀, w, hfirst, horder.tail (haccounted.nested hwait hnext)⟩

omit [DecidableEq Λ] [DecidableEq ι] in
/-- A thread waits for one lock at a time. -/
theorem WaitsAt.eq {u v : ι} {l l' : Λ} (hwait : WaitsAt s t l u) (hwait' : WaitsAt s t l' v) :
    l = l' := by
  obtain ⟨⟨rest, hprogram⟩, -⟩ := hwait
  obtain ⟨⟨rest', hprogram'⟩, -⟩ := hwait'
  cases hprogram.symm.trans hprogram'
  rfl

theorem not_deadlock (haccounted : Accounted s)
    (hacyclic : ∀ l, ¬ Relation.TransGen (Order s) l l) : ¬ Deadlock s := by
  rintro ⟨t, hcircle⟩
  obtain ⟨u, ⟨l, hwait⟩, -⟩ := Relation.TransGen.head'_iff.mp hcircle
  obtain ⟨l', w, hfirst, horder⟩ := haccounted.chain hcircle hwait
  rw [hfirst.eq hwait] at horder
  exact hacyclic l horder

/-! ## Runs -/

theorem nested_tail {i : Instr Λ} {p : Program Λ} {l l' : Λ} (hnested : Nested p l l') :
    Nested (i :: p) l l' := by
  obtain ⟨before, rest, rfl, hheld⟩ := hnested
  exact ⟨i :: before, rest, rfl, hheld⟩

theorem not_nested_nil {l l' : Λ} : ¬ Nested ([] : Program Λ) l l' := by
  rintro ⟨before, rest, hnil, -⟩
  exact List.append_ne_nil_of_right_ne_nil _ (List.cons_ne_nil _ _) hnil.symm

/-- With the new operation the nestings have no circle. -/
def Ordered (code : Ω → Program Λ) (s : State Λ ι) : Action Ω ι → Prop
  | .start _ op =>
      ∀ l, ¬ Relation.TransGen (fun a b => Order s a b ∨ Nested (code op) a b) l l
  | .run _ => True

/-- A step adds at most the nestings of the operation that it starts. -/
theorem order_step {code : Ω → Program Λ} {a : Action Ω ι} (hstep : step code s a = some s')
    {l l' : Λ} (horder : Order s' l l') :
    Order s l l' ∨ ∃ t op, a = .start t op ∧ Nested (code op) l l' := by
  obtain ⟨u, hnested⟩ := horder
  cases a with
  | start t op =>
      obtain ⟨-, rfl⟩ := step_start hstep
      by_cases hu : u = t
      · subst hu
        simp only [Function.update_self] at hnested
        exact .inr ⟨u, op, rfl, hnested⟩
      · simp only [Function.update_of_ne hu] at hnested
        exact .inl ⟨u, hnested⟩
  | run t =>
      obtain ⟨i, rest, lock, hprogram, -, rfl⟩ := step_run hstep
      refine .inl ⟨u, ?_⟩
      by_cases hu : u = t
      · subst hu
        simp only [Function.update_self] at hnested
        rw [hprogram]
        exact nested_tail hnested
      · simp only [Function.update_of_ne hu] at hnested
        exact hnested

/-- In every run whose operations start in order there is no deadlock. -/
theorem not_deadlock_of_reachable {code : Ω → Program Λ} (hcode : ∀ op, Balanced (code op))
    (hreach : (machine code).Reachable (Ordered code) s) : ¬ Deadlock s := by
  have hinv : Accounted s ∧ ∀ l, ¬ Relation.TransGen (Order s) l l := by
    refine hreach.invariant (I := fun s => Accounted s ∧ ∀ l, ¬ Relation.TransGen (Order s) l l)
      ?_ ?_
    · rintro s rfl
      refine ⟨accounted_start, ?_⟩
      intro l hcircle
      obtain ⟨l', ⟨t, hnested⟩, -⟩ := Relation.TransGen.head'_iff.mp hcircle
      exact not_nested_nil hnested
    · rintro s a s' hok ⟨haccounted, hacyclic⟩ hmachine
      have hstep : step code s a = some s' := hmachine
      refine ⟨haccounted.step hcode hstep, ?_⟩
      intro l hcircle
      cases a with
      | start t op =>
          refine hok l (Relation.TransGen.mono ?_ l l hcircle)
          intro l₁ l₂ horder
          rcases order_step hstep horder with hold | ⟨_, _, hstart, hnew⟩
          · exact .inl hold
          · cases hstart
            exact .inr hnew
      | run t =>
          refine hacyclic l (Relation.TransGen.mono ?_ l l hcircle)
          intro l₁ l₂ horder
          rcases order_step hstep horder with hold | ⟨_, _, hstart, -⟩
          · exact hold
          · exact nomatch hstart
  exact not_deadlock hinv.1 hinv.2

/-! ## A deadlock lasts -/

/-- A thread that waits does not move, and neither does the lock of an owner that waits. -/
theorem WaitsFor.step {code : Ω → Program Λ} {a : Action Ω ι} {u v : ι} (hwait : WaitsFor s t u)
    (hnext : WaitsFor s u v) (hstep : step code s a = some s') : WaitsFor s' t u := by
  have hblocked : ∀ {w x : ι}, WaitsFor s w x →
      s'.program w = s.program w ∧ ∀ l k, s.lock l = some (w, k) → s'.lock l = s.lock l := by
    intro w x hw
    obtain ⟨l₀, ⟨rest₀, hprogram₀⟩, ⟨k₀, howner₀⟩, hne₀⟩ := hw
    cases a with
    | start t₁ op =>
        obtain ⟨hdone, rfl⟩ := step_start hstep
        refine ⟨Function.update_of_ne ?_ _ _, fun _ _ _ => rfl⟩
        rintro rfl
        exact nomatch hdone.symm.trans hprogram₀
    | run t₁ =>
        obtain ⟨i, rest, lock, hprogram, hperform, rfl⟩ := step_run hstep
        have hne : w ≠ t₁ := by
          rintro rfl
          cases hprogram.symm.trans hprogram₀
          have hwaits : (s.lock l₀).acquire w = none := by
            rw [howner₀]
            exact if_neg hne₀.symm
          unfold perform at hperform
          simp only [hwaits, Option.map_none] at hperform
          exact nomatch hperform
        refine ⟨Function.update_of_ne hne _ _, ?_⟩
        intro l k howner
        -- The instruction is about a lock that is free or owned by `t₁`.
        cases i with
        | acquire l₁ =>
            obtain ⟨o, hlock, rfl⟩ := Option.map_eq_some_iff.mp hperform
            refine Function.update_of_ne ?_ _ _
            rintro rfl
            unfold Lock.acquire at hlock
            rw [howner] at hlock
            simp only [hne.symm, if_false] at hlock
            exact nomatch hlock
        | release l₁ =>
            obtain ⟨o, hlock, rfl⟩ := Option.map_eq_some_iff.mp hperform
            refine Function.update_of_ne ?_ _ _
            rintro rfl
            unfold Lock.release at hlock
            rw [howner] at hlock
            cases k with
            | zero =>
                simp only [hne.symm, if_false] at hlock
                exact nomatch hlock
            | succ k =>
                simp only [hne.symm, if_false] at hlock
                exact nomatch hlock
  have hfirst := (hblocked hwait).1
  have hlock := (hblocked hnext).2
  obtain ⟨l, ⟨rest, hprogram⟩, ⟨k, howner⟩, hne⟩ := hwait
  exact ⟨l, ⟨rest, hfirst.trans hprogram⟩, ⟨k, (hlock l k howner).trans howner⟩, hne⟩

/-- Whatever the other threads do, a deadlock stays. -/
theorem deadlock_lasts {code : Ω → Program Λ} {ok : State Λ ι → Action Ω ι → Prop}
    (hdead : Deadlock s) (hpath : (machine code).Path ok s s') : Deadlock s' := by
  refine hpath.invariant (I := Deadlock) ?_ hdead
  rintro s a s' - ⟨t, hcircle⟩ hstep
  obtain ⟨u, hfirst, -⟩ := Relation.TransGen.head'_iff.mp hcircle
  have hchain : ∀ {v w : ι}, Relation.TransGen (WaitsFor s) t v → WaitsFor s v w →
      Relation.TransGen (WaitsFor s') t v := by
    intro v w hchain
    induction hchain generalizing w with
    | single hwait =>
        intro hnext
        exact .single (hwait.step hnext hstep)
    | tail _ hwait ih =>
        intro hnext
        exact (ih hwait).tail (hwait.step hnext hstep)
  exact ⟨t, hchain hcircle hfirst⟩

/-! ## Orders from ranks -/

omit [DecidableEq ι] in
/-- Operations whose nestings all go up in one rank start in order. -/
theorem ordered_of_rank {code : Ω → Program Λ} {rank : Λ → Nat}
    (hs : ∀ l l', Order s l l' → rank l < rank l') {op : Ω}
    (hop : ∀ l l', Nested (code op) l l' → rank l < rank l') (t : ι) :
    Ordered code s (.start t op) := by
  intro l hcircle
  have hup : ∀ {a b : Λ}, Relation.TransGen (fun a b => Order s a b ∨ Nested (code op) a b) a b →
      rank a < rank b := by
    intro a b hchain
    induction hchain with
    | single h =>
        rcases h with hold | hnew
        · exact hs _ _ hold
        · exact hop _ _ hnew
    | tail _ h ih =>
        rcases h with hold | hnew
        · exact Nat.lt_trans ih (hs _ _ hold)
        · exact Nat.lt_trans ih (hop _ _ hnew)
  exact Nat.lt_irrefl _ (hup hcircle)

/-! ## The nestings of a program -/

section Nestings

variable {p q : Program Λ} {a b : Λ}

theorem held_append (hq : Balanced q) : Held (p ++ q) l ↔ Held p l := by
  have hql := hq.whole l
  unfold Held
  rw [acquires_append, releases_append]
  omega

theorem nested_append (hq : Balanced q) (hnested : Nested (p ++ q) a b) :
    Nested p a b ∨ Nested q a b := by
  obtain ⟨before, rest, hsplit, hheld, hnot⟩ := hnested
  rcases List.append_eq_append_iff.mp hsplit with ⟨middle, rfl, hrest⟩ | ⟨middle, hp, hrest⟩
  · exact .inr ⟨middle, rest, hrest, hheld, hnot⟩
  · cases middle with
    | nil => exact .inr ⟨[], rest, hrest.symm, hheld, hnot⟩
    | cons i middle =>
        obtain ⟨rfl, rfl⟩ := List.cons.inj hrest
        have hheld : Held ((.acquire b :: middle) ++ q) a := hheld
        have hnot : ¬ Held ((.acquire b :: middle) ++ q) b := hnot
        rw [held_append hq] at hheld hnot
        exact .inl ⟨before, middle, hp, hheld, hnot⟩

theorem nested_flatMap {β : Type*} {f : β → Program Λ} (hf : ∀ x, Balanced (f x)) {xs : List β}
    (hnested : Nested (xs.flatMap f) a b) : ∃ x ∈ xs, Nested (f x) a b := by
  induction xs with
  | nil => exact absurd hnested not_nested_nil
  | cons x xs ih =>
      rw [List.flatMap_cons] at hnested
      rcases nested_append (Balanced.flatMap hf xs) hnested with hhead | htail
      · exact ⟨x, List.mem_cons_self, hhead⟩
      · obtain ⟨y, hy, hnested⟩ := ih htail
        exact ⟨y, List.mem_cons_of_mem x hy, hnested⟩

/-- A lock around a program is held around what the program acquires. -/
theorem nested_locked (hp : Balanced p) (hnested : Nested (locked l p) a b) :
    b ≠ l ∧ (a = l ∧ .acquire b ∈ p ∨ Nested p a b) := by
  obtain ⟨before, rest, hsplit, hheld, hnot⟩ := hnested
  cases before with
  | nil =>
      -- Before the first instruction nothing is held.
      rw [← List.nil_append (Instr.acquire b :: rest), ← hsplit] at hheld
      exact absurd hheld (by unfold Held; rw [(hp.locked l).whole a]; exact Nat.lt_irrefl _)
  | cons i before =>
      obtain ⟨-, htail⟩ := List.cons.inj hsplit
      rcases List.append_eq_append_iff.mp htail with ⟨middle, -, hrest⟩ | ⟨middle, hbefore, hrest⟩
      · -- Behind the program there is only the release of the lock.
        cases middle with
        | nil => exact nomatch hrest
        | cons j middle => exact absurd (List.cons.inj hrest).2.symm (by simp)
      · cases middle with
        | nil => exact nomatch hrest
        | cons j middle =>
            obtain ⟨rfl, rfl⟩ := List.cons.inj hrest
            have hne : b ≠ l := by
              rintro rfl
              have hinside := hp.rest before _ hbefore b
              apply hnot
              show Held ((.acquire b :: middle) ++ [.release b]) b
              unfold Held
              have hone : releases [Instr.release b] b = 1 := by
                rw [releases_cons, if_pos rfl]
                rfl
              have hzero : acquires [Instr.release b] b = 0 := rfl
              rw [acquires_append, releases_append, hone, hzero]
              omega
            refine ⟨hne, ?_⟩
            by_cases ha : a = l
            · refine .inl ⟨ha, ?_⟩
              rw [hbefore]
              exact List.mem_append_right _ List.mem_cons_self
            · refine .inr ⟨before, middle, hbefore, ?_, ?_⟩
              · have hheld : Held ((.acquire b :: middle) ++ [.release l]) a := hheld
                have hzero : releases [Instr.release l] a = 0 := by
                  rw [releases_cons, if_neg fun h => ha (Instr.release.inj h).symm]
                  rfl
                unfold Held at *
                rw [acquires_append, releases_append, hzero] at hheld
                exact Nat.lt_of_le_of_lt (Nat.le_add_right _ _) hheld
              · have hnot : ¬ Held ((.acquire b :: middle) ++ [.release l]) b := hnot
                unfold Held at *
                rw [acquires_append, releases_append] at hnot
                intro hless
                exact hnot (Nat.lt_of_lt_of_le hless (Nat.le_add_right _ _))

theorem Nested.mem (hnested : Nested p a b) : .acquire b ∈ p := by
  obtain ⟨before, rest, rfl, -⟩ := hnested
  exact List.mem_append_right _ List.mem_cons_self

/-- Nothing is nested in a program that acquires one lock only. -/
theorem not_nested_locked (hp : Balanced p) (hself : ∀ l', .acquire l' ∈ p → l' = l) :
    ¬ Nested (locked l p) a b := by
  intro hnested
  obtain ⟨hne, ⟨-, hmem⟩ | hinner⟩ := nested_locked hp hnested
  · exact hne (hself b hmem)
  · exact hne (hself b hinner.mem)

theorem not_nested_locked_nil : ¬ Nested (locked l []) a b :=
  not_nested_locked balanced_nil fun _ hmem => nomatch hmem

omit [DecidableEq Λ] in
theorem acquire_mem_locked : .acquire b ∈ locked l p ↔ b = l ∨ .acquire b ∈ p := by
  unfold locked
  simp

end Nestings

/-! ## Two threads -/

omit [DecidableEq ι] in
/-- One comes to the second lock with the first, the other one to the first lock with the second, and
then there is no lock that both hold. -/
def Crossing (p q : Program Λ) (l l' : Λ) : Prop :=
  ∃ before rest before' rest', p = before ++ .acquire l' :: rest ∧ q = before' ++ .acquire l :: rest' ∧
    Held (.acquire l' :: rest) l ∧ Held (.acquire l :: rest') l' ∧
    ∀ g, Held (.acquire l' :: rest) g → ¬ Held (.acquire l :: rest') g

section Crossings

variable {p q : Program Λ} {l l' : Λ}

theorem Crossing.nested_left (hcrossing : Crossing p q l l') : Nested p l l' := by
  obtain ⟨before, rest, before', rest', hp, -, hheld, hheld', hdisjoint⟩ := hcrossing
  exact ⟨before, rest, hp, hheld, fun h => hdisjoint l' h hheld'⟩

theorem Crossing.nested_right (hcrossing : Crossing p q l l') : Nested q l' l := by
  obtain ⟨before, rest, before', rest', -, hq, hheld, hheld', hdisjoint⟩ := hcrossing
  exact ⟨before', rest', hq, hheld', hdisjoint l hheld⟩

theorem Crossing.cons_left {i : Instr Λ} (hcrossing : Crossing p q l l') :
    Crossing (i :: p) q l l' := by
  obtain ⟨before, rest, before', rest', rfl, hq, hholds⟩ := hcrossing
  exact ⟨i :: before, rest, before', rest', rfl, hq, hholds⟩

theorem Crossing.cons_right {i : Instr Λ} (hcrossing : Crossing p q l l') :
    Crossing p (i :: q) l l' := by
  obtain ⟨before, rest, before', rest', hp, rfl, hholds⟩ := hcrossing
  exact ⟨before, rest, i :: before', rest', hp, rfl, hholds⟩

/-- The first lock of each of two programs is held by the other one, and no lock by both. -/
def meets : Program Λ → Program Λ → Bool
  | .acquire l' :: p, .acquire l :: q =>
      Held (.acquire l' :: p) l && Held (.acquire l :: q) l' &&
        p.all fun i => match i with
          | .acquire _ => true
          | .release g => !(Held (.acquire l' :: p) g && Held (.acquire l :: q) g)
  | _, _ => false

/-- Whether two programs cross at any locks. -/
def crosses (p q : Program Λ) : Bool := p.tails.any fun x => q.tails.any (meets x)

theorem Crossing.crosses (hcrossing : Crossing p q l l') : crosses p q = true := by
  obtain ⟨before, rest, before', rest', rfl, rfl, hheld, hheld', hdisjoint⟩ := hcrossing
  have hmeets : meets (.acquire l' :: rest) (.acquire l :: rest') = true := by
    simp only [meets, hheld, hheld', decide_true, Bool.and_self, Bool.true_and, List.all_eq_true]
    intro i _
    cases i with
    | acquire g => rfl
    | release g =>
        by_cases hg : Held (.acquire l' :: rest) g
        · simp only [hdisjoint g hg, decide_false, Bool.and_false, Bool.not_false]
        · simp only [hg, decide_false, Bool.false_and, Bool.not_false]
  refine List.any_eq_true.mpr ⟨_, (List.mem_tails _ _).mpr (List.suffix_append before _), ?_⟩
  exact List.any_eq_true.mpr ⟨_, (List.mem_tails _ _).mpr (List.suffix_append before' _), hmeets⟩

end Crossings

theorem Accounted.owner_of_held (haccounted : Accounted s) (hheld : Held (s.program t) l) :
    ∃ k, s.lock l = some (t, k) := by
  have hcount := haccounted t l
  have hdepth : (s.lock l).depth t ≠ 0 := by
    unfold Held at hheld
    omega
  cases hlock : s.lock l with
  | none =>
      rw [hlock] at hdepth
      exact absurd rfl hdepth
  | some owner =>
      obtain ⟨u, k⟩ := owner
      rw [hlock] at hdepth
      have hu : t = u := by
        by_contra hne
        exact hdepth (if_neg hne)
      exact ⟨k, by rw [hu]⟩

/-- Two threads that wait for each other are at such points. -/
theorem Accounted.crossing (haccounted : Accounted s) {u : ι} {l' : Λ} (hwait : WaitsAt s t l' u)
    (hback : WaitsAt s u l t) : Crossing (s.program t) (s.program u) l l' := by
  obtain ⟨⟨rest, hprogram⟩, ⟨k, howner⟩, hne⟩ := hwait
  obtain ⟨⟨rest', hprogram'⟩, ⟨k', howner'⟩, -⟩ := hback
  have hheld := haccounted.held_of_owner howner'
  have hheld' := haccounted.held_of_owner howner
  have hdisjoint : ∀ g, Held (s.program t) g → ¬ Held (s.program u) g := by
    intro g hg hg'
    obtain ⟨j, hj⟩ := haccounted.owner_of_held hg
    exact haccounted.not_held_of_owner hj hne.symm hg'
  rw [hprogram] at hheld hdisjoint
  rw [hprogram'] at hheld' hdisjoint
  exact ⟨[], rest, [], rest', hprogram, hprogram', hheld, hheld', hdisjoint⟩

/-- The new operation crosses no other one in progress. -/
def Uncrossed (code : Ω → Program Λ) (pair : Λ → Λ → Prop) (s : State Λ ι) : Action Ω ι → Prop
  | .start t op => ∀ u, u ≠ t → ∀ l l', pair l l' →
      ¬ Crossing (code op) (s.program u) l l' ∧ ¬ Crossing (s.program u) (code op) l l'
  | .run _ => True

/-- In every run whose operations do not cross, no two threads wait for each other. -/
theorem not_waitsAt_of_reachable {code : Ω → Program Λ} {pair : Λ → Λ → Prop}
    (hcode : ∀ op, Balanced (code op)) (hreach : (machine code).Reachable (Uncrossed code pair) s)
    {u : ι} {l' : Λ} (hpair : pair l l') (hwait : WaitsAt s t l' u) : ¬ WaitsAt s u l t := by
  have hinv : Accounted s ∧ ∀ t u, t ≠ u → ∀ l l', pair l l' →
      ¬ Crossing (s.program t) (s.program u) l l' := by
    refine hreach.invariant (I := fun s => Accounted s ∧ ∀ t u, t ≠ u → ∀ l l', pair l l' →
      ¬ Crossing (s.program t) (s.program u) l l') ?_ ?_
    · rintro s rfl
      exact ⟨accounted_start, fun t u _ l l' _ h => not_nested_nil h.nested_left⟩
    · rintro s a s' hok ⟨haccounted, hnone⟩ hmachine
      have hstep : step code s a = some s' := hmachine
      refine ⟨haccounted.step hcode hstep, ?_⟩
      intro t u hne l l' hpair hcrossing
      cases a with
      | start v op =>
          obtain ⟨-, rfl⟩ := step_start hstep
          by_cases ht : t = v
          · subst ht
            simp only [Function.update_self, Function.update_of_ne hne.symm] at hcrossing
            exact (hok u hne.symm l l' hpair).1 hcrossing
          · by_cases hu : u = v
            · subst hu
              simp only [Function.update_self, Function.update_of_ne hne] at hcrossing
              exact (hok t hne l l' hpair).2 hcrossing
            · simp only [Function.update_of_ne ht, Function.update_of_ne hu] at hcrossing
              exact hnone t u hne l l' hpair hcrossing
      | run v =>
          -- What is left of two programs crosses only where the whole programs do.
          obtain ⟨i, rest, lock, hprogram, -, rfl⟩ := step_run hstep
          refine hnone t u hne l l' hpair ?_
          by_cases ht : t = v
          · subst ht
            simp only [Function.update_self, Function.update_of_ne hne.symm] at hcrossing
            rw [hprogram]
            exact hcrossing.cons_left
          · by_cases hu : u = v
            · subst hu
              simp only [Function.update_self, Function.update_of_ne hne] at hcrossing
              rw [hprogram]
              exact hcrossing.cons_right
            · simp only [Function.update_of_ne ht, Function.update_of_ne hu] at hcrossing
              exact hcrossing
  intro hback
  exact hinv.2 t u hwait.2.2.symm l l' hpair (hinv.1.crossing hwait hback)

end LockOrder
end Library
end AsynDriver
