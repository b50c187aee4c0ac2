import AsynDriver.Manager.LockPortSafety
import Mathlib.Data.List.Infix

/-!
# `pasynLockPortNotify` and nested calls

The calls of `pasynLockPortNotify->lock` and `->unlock` that `queueLockPort` and `queueUnlockPort`
make for one thread.

* `Traced` — the calls of a thread, each with what it notifies: on a port that can block a nested
  `queueLockPort` returns before it notifies, while every `queueUnlockPort` notifies first.
* `NotifyPaired` — the lower port is locked as long as the thread has the lock, and no longer.
* `notifyPaired_iff` — this holds exactly if the port cannot block or no call is nested.
-/

namespace AsynDriver
namespace Manager
namespace LockPort

open Library

/-! ## Counting -/

/-- The calls of `queueLockPort`. -/
def locks (calls : List LockCall) : Nat := calls.countP fun c => c.op = .lock

/-- The calls of `queueUnlockPort`. -/
def unlocks (calls : List LockCall) : Nat := calls.countP fun c => c.op = .unlock

def notifyLocks (calls : List LockCall) : Nat := (calls.flatMap LockCall.notified).count .lock

def notifyUnlocks (calls : List LockCall) : Nat := (calls.flatMap LockCall.notified).count .unlock

theorem locks_snoc (calls : List LockCall) (c : LockCall) :
    locks (calls ++ [c]) = locks calls + if c.op = .lock then 1 else 0 := by
  simp [locks, List.countP_append, List.countP_singleton]

theorem unlocks_snoc (calls : List LockCall) (c : LockCall) :
    unlocks (calls ++ [c]) = unlocks calls + if c.op = .unlock then 1 else 0 := by
  simp [unlocks, List.countP_append, List.countP_singleton]

theorem notifyLocks_snoc (calls : List LockCall) (c : LockCall) :
    notifyLocks (calls ++ [c]) = notifyLocks calls + c.notified.count .lock := by
  simp [notifyLocks, List.flatMap_append, List.count_append]

theorem notifyUnlocks_snoc (calls : List LockCall) (c : LockCall) :
    notifyUnlocks (calls ++ [c]) = notifyUnlocks calls + c.notified.count .unlock := by
  simp [notifyUnlocks, List.flatMap_append, List.count_append]

/-- Every `queueUnlockPort` gives back a `queueLockPort`, and all are given back at the end. -/
structure WellNestedCalls (calls : List LockCall) : Prop where
  sane : ∀ front, front <+: calls → unlocks front ≤ locks front
  settled : unlocks calls = locks calls

/-- `queueLockPort` is called only when there is nothing to give back. -/
def NeverNested (calls : List LockCall) : Prop :=
  ∀ front c, front ++ [c] <+: calls → c.op = .lock → locks front = unlocks front

/-- What the lower port sees after each call: never more `unlock` than `lock`, as many at the end of
an outermost section, and more `lock` inside one. -/
structure NotifyPaired (calls : List LockCall) : Prop where
  sane : ∀ front, front <+: calls → notifyUnlocks front ≤ notifyLocks front
  outside : ∀ front, front <+: calls → locks front = unlocks front →
    notifyLocks front = notifyUnlocks front
  inside : ∀ front, front <+: calls → unlocks front < locks front →
    notifyUnlocks front < notifyLocks front

/-! ## The calls of a thread -/

/-- A `queueLockPort` that is called with `n` locks to give back. -/
def lockCall (p : PortAttributes) (n : Nat) : LockCall :=
  ⟨.lock, if p.canBlock ∧ 0 < n then [] else if p.notify then [.lock] else []⟩

def unlockCall (p : PortAttributes) : LockCall :=
  ⟨.unlock, if p.notify then [.unlock] else []⟩

/-- The calls of a thread, with the locks it has to give back after them. -/
inductive Traced (p : PortAttributes) : List LockCall → Nat → Prop
  | nil : Traced p [] 0
  | lock {calls : List LockCall} {n : Nat} (hcalls : Traced p calls n) :
      Traced p (calls ++ [lockCall p n]) (n + 1)
  | unlock {calls : List LockCall} {n : Nat} (hcalls : Traced p calls n) :
      Traced p (calls ++ [unlockCall p]) (n - 1)

theorem Traced.of_prefix {p : PortAttributes} {calls front : List LockCall} {n : Nat}
    (htraced : Traced p calls n) (hfront : front <+: calls) : ∃ m, Traced p front m := by
  induction htraced with
  | nil =>
      rw [List.prefix_nil.mp hfront]
      exact ⟨0, .nil⟩
  | lock hcalls ih =>
      rcases List.prefix_concat_iff.mp hfront with rfl | hinit
      · exact ⟨_, hcalls.lock⟩
      · exact ih hinit
  | unlock hcalls ih =>
      rcases List.prefix_concat_iff.mp hfront with rfl | hinit
      · exact ⟨_, hcalls.unlock⟩
      · exact ih hinit

variable {p : PortAttributes}

theorem Traced.notifyUnlocks_eq (hnotify : p.notify = true) {calls : List LockCall} {n : Nat}
    (htraced : Traced p calls n) : notifyUnlocks calls = unlocks calls := by
  induction htraced with
  | nil => rfl
  | @lock calls n hcalls ih =>
      have hnone : (lockCall p n).notified.count .unlock = 0 := by
        simp only [lockCall, hnotify, if_true]
        split <;> rfl
      rw [notifyUnlocks_snoc, unlocks_snoc, ih, hnone]
      rfl
  | unlock hcalls ih =>
      rw [notifyUnlocks_snoc, unlocks_snoc, ih]
      simp [unlockCall, hnotify]

/-- The recursion count is the number of locks that have not been given back. -/
theorem Traced.depth {calls : List LockCall} {n : Nat} (htraced : Traced p calls n)
    (hsane : ∀ front, front <+: calls → unlocks front ≤ locks front) :
    n + unlocks calls = locks calls := by
  induction htraced with
  | nil => rfl
  | @lock calls n hcalls ih =>
      have hinit := ih fun front hfront => hsane front (hfront.trans (List.prefix_append _ _))
      rw [unlocks_snoc, locks_snoc]
      simp only [lockCall, reduceCtorEq, if_true, if_false]
      omega
  | @unlock calls n hcalls ih =>
      have hinit := ih fun front hfront => hsane front (hfront.trans (List.prefix_append _ _))
      have hall := hsane _ (List.prefix_refl _)
      rw [unlocks_snoc, locks_snoc] at hall ⊢
      simp only [unlockCall, reduceCtorEq, if_true, if_false] at hall ⊢
      omega

theorem NeverNested.of_prefix {calls front : List LockCall} (hnever : NeverNested calls)
    (hfront : front <+: calls) : NeverNested front :=
  fun init c hinit => hnever init c (hinit.trans hfront)

/-- Without nesting, or on a port that cannot block, every `queueLockPort` notifies. -/
theorem Traced.notifyLocks_eq (hnotify : p.notify = true) {calls : List LockCall} {n : Nat}
    (htraced : Traced p calls n)
    (hsane : ∀ front, front <+: calls → unlocks front ≤ locks front)
    (hnever : p.canBlock = false ∨ NeverNested calls) : notifyLocks calls = locks calls := by
  induction htraced with
  | nil => rfl
  | @lock calls n hcalls ih =>
      have hprefix : calls <+: calls ++ [lockCall p n] := List.prefix_append _ _
      have hsane' := fun front hfront => hsane front (List.IsPrefix.trans hfront hprefix)
      have hinit := ih hsane' (hnever.imp_right fun h => h.of_prefix hprefix)
      have hcall : (lockCall p n).notified = [.lock] := by
        unfold lockCall
        rcases hnever with hblock | hnever
        · simp [hblock, hnotify]
        · have houter := hnever calls (lockCall p n) (List.prefix_refl _) rfl
          have hdepth := hcalls.depth hsane'
          have hn : n = 0 := by omega
          simp [hn, hnotify]
      rw [notifyLocks_snoc, locks_snoc, hinit, hcall]
      rfl
  | @unlock calls n hcalls ih =>
      have hprefix : calls <+: calls ++ [unlockCall p] := List.prefix_append _ _
      have hinit := ih (fun front hfront => hsane front (hfront.trans hprefix))
        (hnever.imp_right fun h => h.of_prefix hprefix)
      rw [notifyLocks_snoc, locks_snoc, hinit]
      simp [unlockCall, hnotify]

theorem NeverNested.snoc {calls : List LockCall} {c : LockCall} (hnever : NeverNested calls)
    (hlast : c.op = .lock → locks calls = unlocks calls) : NeverNested (calls ++ [c]) := by
  intro front d hfront hop
  rcases List.prefix_concat_iff.mp hfront with heq | hinit
  · obtain ⟨rfl, hd⟩ := List.append_inj' heq rfl
    cases hd
    exact hlast hop
  · exact hnever front d hinit hop

/-- On a port that can block, every nested `queueLockPort` is missing among the notifications. -/
theorem Traced.notifyLocks_le (hblock : p.canBlock = true) (hnotify : p.notify = true)
    {calls : List LockCall} {n : Nat} (htraced : Traced p calls n)
    (hsane : ∀ front, front <+: calls → unlocks front ≤ locks front) :
    notifyLocks calls ≤ locks calls ∧ (notifyLocks calls = locks calls → NeverNested calls) := by
  induction htraced with
  | nil =>
      refine ⟨Nat.le_refl _, ?_⟩
      intro _ front c hfront
      have hnil := List.prefix_nil.mp hfront
      simp at hnil
  | @lock calls n hcalls ih =>
      have hsane' := fun front hfront =>
        hsane front (List.IsPrefix.trans hfront (List.prefix_append calls [lockCall p n]))
      obtain ⟨hle, hequal⟩ := ih hsane'
      have hdepth := hcalls.depth hsane'
      rw [notifyLocks_snoc, locks_snoc]
      by_cases hn : 0 < n
      · have hnone : (lockCall p n).notified = [] := by simp [lockCall, hblock, hn]
        have hop : (lockCall p n).op = .lock := rfl
        rw [hnone, List.count_nil, if_pos hop]
        exact ⟨by omega, fun h => by omega⟩
      · have hone : (lockCall p n).notified = [.lock] := by simp [lockCall, hn, hnotify]
        have hop : (lockCall p n).op = .lock := rfl
        rw [hone, List.count_singleton_self, if_pos hop]
        refine ⟨by omega, fun h => ?_⟩
        exact (hequal (by omega)).snoc fun _ => by omega
  | @unlock calls n hcalls ih =>
      have hsane' := fun front hfront =>
        hsane front (List.IsPrefix.trans hfront (List.prefix_append calls [unlockCall p]))
      obtain ⟨hle, hequal⟩ := ih hsane'
      have hnone : (unlockCall p).notified.count .lock = 0 := by simp [unlockCall, hnotify]
      rw [notifyLocks_snoc, locks_snoc, hnone]
      simp only [unlockCall, reduceCtorEq, if_false, Nat.add_zero]
      refine ⟨hle, fun h => ?_⟩
      exact (hequal h).snoc fun hop => by cases hop

theorem Traced.paired_iff (hnotify : p.notify = true) {calls : List LockCall} {n : Nat}
    (htraced : Traced p calls n) (hcalls : WellNestedCalls calls) :
    NotifyPaired calls ↔ p.canBlock = false ∨ NeverNested calls := by
  have hsane : ∀ front, front <+: calls → ∀ init, init <+: front → unlocks init ≤ locks init :=
    fun front hfront init hinit => hcalls.sane init (hinit.trans hfront)
  constructor
  · intro hpaired
    cases hblock : p.canBlock with
    | false => exact Or.inl rfl
    | true =>
        have hall := hpaired.outside calls (List.prefix_refl _) hcalls.settled.symm
        have hunlocks := htraced.notifyUnlocks_eq hnotify
        have hsettled := hcalls.settled
        exact Or.inr ((htraced.notifyLocks_le hblock hnotify hcalls.sane).2 (by omega))
  · intro hnever
    have hcounts : ∀ front, front <+: calls →
        notifyLocks front = locks front ∧ notifyUnlocks front = unlocks front := by
      intro front hfront
      obtain ⟨m, hfrontTraced⟩ := htraced.of_prefix hfront
      exact ⟨hfrontTraced.notifyLocks_eq hnotify (hsane front hfront)
        (hnever.imp_right fun h => h.of_prefix hfront), hfrontTraced.notifyUnlocks_eq hnotify⟩
    refine ⟨?_, ?_, ?_⟩
    · intro front hfront
      rw [(hcounts front hfront).1, (hcounts front hfront).2]
      exact hcalls.sane front hfront
    · intro front hfront hequal
      rw [(hcounts front hfront).1, (hcounts front hfront).2]
      exact hequal
    · intro front hfront hless
      rw [(hcounts front hfront).1, (hcounts front hfront).2]
      exact hless

/-! ## The calls in a run -/

/-- The calls of a thread, with `queueLockPortCount` on a port that can block. -/
def TracedView (p : PortAttributes) (v : LockView) : Prop :=
  ∃ n, Traced p v.thread.calls n ∧
    (p.canBlock = true →
      match v.thread.pc with
      | .lockNotify => n = 0
      | _ => n = v.thread.queueLockPortCount)

theorem EnvironmentStep.calls {v v' : LockView} (henv : EnvironmentStep v v') :
    v'.thread.calls = v.thread.calls := by
  cases henv <;> rfl

theorem TracedView.environment {v v' : LockView} (htraced : TracedView p v)
    (henv : EnvironmentStep v v') : TracedView p v' := by
  obtain ⟨-, hcount, -⟩ := henv.counts
  unfold TracedView at htraced ⊢
  rw [henv.calls, henv.pc, hcount]
  exact htraced

theorem TracedView.own {ok : Prop} {t : ThreadId} {v v' : LockView} (htraced : TracedView p v)
    (hprotocol : Protocol p t v) (hown : OwnStep p ok t v v') : TracedView p v' := by
  obtain ⟨n, hcalls, hn⟩ := htraced
  unfold Protocol at hprotocol
  cases hown with
  | refused hpc =>
      rw [hpc] at hn
      refine ⟨n, hcalls, ?_⟩
      simp only [hpc]
      exact hn
  | called hpc =>
      rw [hpc] at hn
      exact ⟨n, hcalls, hn⟩
  | nested hpc hblock hcount =>
      rw [hpc] at hn
      have hnEq : n = v.thread.queueLockPortCount := hn hblock
      have hcall : lockCall p n = ⟨.lock, []⟩ := by
        have hpos : 0 < n := by omega
        simp [lockCall, hblock, hpos]
      have htraced' := hcalls.lock
      rw [hcall] at htraced'
      exact ⟨n + 1, htraced', fun _ => congrArg (· + 1) hnEq⟩
  | mutexTaken hpc hblock hcount hmutex =>
      rw [hpc] at hn
      exact ⟨n, hcalls, hn⟩
  | synchronousLocked hpc hnot =>
      refine ⟨n, hcalls, fun hblock => ?_⟩
      rw [hblock] at hnot
      cases hnot
  | notQueued status hpc hstatus =>
      rw [hpc] at hn
      exact ⟨n, hcalls, hn⟩
  | queued hpc =>
      rw [hpc] at hn
      exact ⟨n, hcalls, hn⟩
  | timedOut hpc hevent haux =>
      rw [hpc] at hn
      exact ⟨n, hcalls, hn⟩
  | begun hpc hevent haux =>
      rw [hpc] at hn hprotocol
      exact ⟨n, hcalls, fun hblock => (hn hblock).trans hprotocol.1⟩
  | notified status hpc hnotify hok =>
      rw [hpc] at hn hprotocol
      have hcall : lockCall p n = ⟨.lock, if p.notify then [.lock] else []⟩ := by
        cases hblock : p.canBlock with
        | false => simp [lockCall, hblock]
        | true =>
            have hzero : n = 0 := hn hblock
            simp [lockCall, hzero]
      have htraced' := hcalls.lock
      rw [hcall] at htraced'
      refine ⟨n + 1, htraced', fun hblock => ?_⟩
      have hzero : n = 0 := hn hblock
      have hone := hprotocol.2 hblock
      simp only
      omega
  | unlockCalled status hpc hok =>
      rw [hpc] at hn
      exact ⟨n, hcalls, hn⟩
  | notLocked status hpc hblock hcount =>
      rw [hpc] at hn
      refine ⟨n - 1, hcalls.unlock, fun hblock => ?_⟩
      have hnEq : n = v.thread.queueLockPortCount := hn hblock
      simp only [LockThread.unlocked]
      omega
  | unnested status hpc hblock hcount =>
      rw [hpc] at hn
      exact ⟨n - 1, hcalls.unlock, fun hblock => congrArg (· - 1) (hn hblock)⟩
  | mutexDropped status hpc hblock hcount =>
      rw [hpc] at hn
      exact ⟨n, hcalls, hn⟩
  | synchronousUnlocked status hpc hnot =>
      refine ⟨n - 1, hcalls.unlock, fun hblock => ?_⟩
      rw [hblock] at hnot
      cases hnot
  | ended status hpc hevent =>
      rw [hpc] at hn
      exact ⟨n - 1, hcalls.unlock, fun hblock => congrArg (· - 1) (hn hblock)⟩
  | synchronousTaken hpc =>
      rw [hpc] at hn
      refine ⟨n, hcalls, ?_⟩
      simp only [hpc]
      exact hn
  | synchronousDropped hpc =>
      rw [hpc] at hn
      refine ⟨n, hcalls, ?_⟩
      simp only [hpc]
      exact hn

theorem traced_of_reachable {guard : State → Action → Prop} {s : State}
    (hreach : (machine p).Reachable guard s) (t : ThreadId) :
    ∃ n, Traced p (s.thread t).calls n := by
  have hview := (view_invariant (I := fun t v => Protocol p t v ∧ TracedView p v)
    (fun t => ⟨protocol_start p t, 0, .nil, fun _ => rfl⟩) ?_ hreach t).2
  · obtain ⟨n, htraced, -⟩ := hview
    exact ⟨n, htraced⟩
  · rintro s a t v' - hstep ⟨hprotocol, htraced⟩
    rcases hstep with henv | hown
    · exact ⟨hprotocol.environment henv, htraced.environment henv⟩
    · exact ⟨hprotocol.own hown, htraced.own hprotocol hown⟩

/-- In every run, when the calls of a thread are well nested and all locks are given back: the
notifications are paired exactly if the port cannot block or no call was nested. -/
theorem notifyPaired_iff (hnotify : p.notify = true) {s : State}
    (hreach : (machine p).Reachable Machine.Unguarded s) (t : ThreadId)
    (hcalls : WellNestedCalls (s.thread t).calls) :
    NotifyPaired (s.thread t).calls ↔ p.canBlock = false ∨ NeverNested (s.thread t).calls := by
  obtain ⟨n, htraced⟩ := traced_of_reachable hreach t
  exact htraced.paired_iff hnotify hcalls

/-- `queueUnlockPort` of a thread that has locked the port once. -/
def unlockRun (t : ThreadId) : List Action :=
  [.callUnlock t .asynSuccess, .release t, .portStep, .portStep, .portStep, .awakeUnlock t]

theorem wellNestedCalls_of_inits {calls : List LockCall}
    (hsane : ∀ front ∈ calls.inits, unlocks front ≤ locks front)
    (hsettled : unlocks calls = locks calls) : WellNestedCalls calls :=
  ⟨fun front hfront => hsane front ((List.mem_inits front calls).mpr hfront), hsettled⟩

/-- A section that is not nested. -/
theorem notifyPaired_once :
    ∃ s : State, (s.thread 0).calls = [⟨.lock, [.lock]⟩, ⟨.unlock, [.unlock]⟩] ∧
      (NotifyPaired (s.thread 0).calls ↔ true = false ∨ NeverNested (s.thread 0).calls) := by
  obtain ⟨s, hreach, hvalue⟩ := Machine.exists_reachable_of_exec (M := machine ⟨true, true⟩)
    (fun s => (s.thread 0).calls) (lockRun 0 ++ .notifyLock 0 .asynSuccess :: unlockRun 0)
    (b := [⟨.lock, [.lock]⟩, ⟨.unlock, [.unlock]⟩]) (initial_start _) (by decide)
  have hcalls : WellNestedCalls (s.thread 0).calls := by
    rw [hvalue]
    exact wellNestedCalls_of_inits (by decide) (by decide)
  exact ⟨s, hvalue, notifyPaired_iff rfl hreach 0 hcalls⟩

/-- Two nested calls: the first `queueUnlockPort` already unlocks the lower port. -/
theorem not_notifyPaired_nested :
    ¬∀ s : State, (machine ⟨true, true⟩).Reachable Machine.Unguarded s → ∀ t,
      WellNestedCalls (s.thread t).calls → NotifyPaired (s.thread t).calls := by
  intro hall
  obtain ⟨s, hreach, hvalue⟩ := Machine.exists_reachable_of_exec (M := machine ⟨true, true⟩)
    (fun s => (s.thread 0).calls)
    (lockRun 0 ++ [Action.notifyLock 0 .asynSuccess, .callLock 0, .enterLock 0,
      .callUnlock 0 .asynSuccess, .release 0] ++ unlockRun 0)
    (b := [⟨.lock, [.lock]⟩, ⟨.lock, []⟩, ⟨.unlock, [.unlock]⟩, ⟨.unlock, [.unlock]⟩])
    (initial_start _) (by decide)
  have hcalls : WellNestedCalls (s.thread 0).calls := by
    rw [hvalue]
    exact wellNestedCalls_of_inits (by decide) (by decide)
  have hpaired := hall s hreach 0 hcalls
  rw [hvalue] at hpaired
  have hsane := hpaired.sane _ (List.prefix_refl _)
  revert hsane
  decide

end LockPort
end Manager
end AsynDriver
