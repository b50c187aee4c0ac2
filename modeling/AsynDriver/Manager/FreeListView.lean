import Mathlib.Data.List.Nodup
import AsynDriver.Manager.FreeList

/-!
# One `asynUser` and its free list

What a step of the machine can mean for one `asynUser`.

* `UserView` — the `asynUser`, how often it is on `asynUserFreeList`, what the `freeAsynUser` that is
  between its test and its branch has found, and where each thread stands with it.
* `ClientChange` — what its owner can do to the `userPvt`.
* `UserStep` — every step, for one `asynUser`; `step_view`.
* `UserBase` — what holds in every run.
-/

namespace AsynDriver
namespace Manager
namespace FreeList

open Library

/-- Where a thread stands with an `asynUser`. -/
inductive Stage
  | away
  | running
  | finishing
  | adding
  deriving DecidableEq, Repr

def ExecutorPc.stage (pc : ExecutorPc) (u : UserId) : Stage :=
  match pc with
  | .idle => .away
  | .running u' _ => if u' = u then .running else .away
  | .finishing u' _ => if u' = u then .finishing else .away
  | .adding u' _ => if u' = u then .adding else .away

@[ext]
structure UserView where
  user : AsynUser
  listed : Nat
  tested : Option Bool
  stage : Executor → Stage

def State.tested (s : State) (u : UserId) : Option Bool :=
  match s.lock with
  | none => none
  | some (u', b) => if u' = u then some b else none

def State.view (s : State) (u : UserId) : UserView where
  user := s.user u
  listed := s.asynUserFreeList.count u
  tested := s.tested u
  stage := fun e => (s.executor e).stage u

/-- An `asynUser` that is not connected is not queued, blocks nothing and is on no exception list. -/
def Clean (v : UserPvt) : Prop :=
  v.pport = none → v.isQueued = false ∧ v.blockPortCount = 0 ∧ v.blockDeviceCount = 0 ∧
    v.pexceptionUser = false

structure ClientChange (v w : UserPvt) : Prop where
  flag : w.freeAfterCallback = v.freeAfterCallback
  state : w.state = .callbackIdle ↔ v.state = .callbackIdle
  clean : Clean v → Clean w

/-- Runs in which a callback does not end between the test of `freeAsynUser` and its assignment, and
`freeAsynUser` is not called while two callbacks of the `asynUser` are in progress or while one is and
its `state` is `callbackIdle`. -/
def Orderly (s : State) : Action → Prop
  | .freeTest u =>
      (s.user u).executors.length ≤ 1 ∧ ((s.user u).userPvt.state = .callbackIdle →
        ∀ e ∈ (s.user u).executors, (s.executor e).stage u ≠ .running)
  | .testFree e => ∀ u ∈ s.lock, u.2 = false → (s.executor e).stage u.1 ≠ .finishing
  | _ => True

instance (s : State) (a : Action) : Decidable (Orderly s a) := by
  cases a <;> unfold Orderly <;> infer_instance

/-- What a step does to one `asynUser`; `ok` says that the step is orderly. -/
inductive UserStep (ok : Prop) (v : UserView) : UserView → Prop
  | same : UserStep ok v v
  | fresh (hphase : v.user.phase = .unborn) :
      UserStep ok v
        { v with user := { v.user with userPvt := .zero, phase := .initializing, adds := 0 } }
  | reuse (n : Nat) (hlisted : v.listed = n + 1) :
      UserStep ok v { v with user := { v.user with phase := .initializing, adds := 0 }, listed := n }
  | created (process timeout : Bool) (hphase : v.user.phase = .initializing) :
      UserStep ok v
        { v with
          user := { v.user with
            userPvt := FreeList.created v.user.userPvt process timeout
            phase := .live } }
  | client (w : UserPvt) (hphase : v.user.phase = .live) (hchange : ClientChange v.user.userPvt w) :
      UserStep ok v { v with user := { v.user with userPvt := w } }
  | freeing (w : UserPvt) (hphase : v.user.phase = .live) (hchange : ClientChange v.user.userPvt w)
      (hport : w.pport = none) :
      UserStep ok v { v with user := { v.user with userPvt := w, phase := .freeing } }
  | tested (hphase : v.user.phase = .freeing)
      (hok : ok → v.user.executors.length ≤ 1 ∧
        (v.user.userPvt.state = .callbackIdle → ∀ e ∈ v.user.executors, v.stage e ≠ .running)) :
      UserStep ok v
        { v with
          user := { v.user with phase := .testing }
          tested := some (decide (v.user.userPvt.state = .callbackIdle)) }
  | listed (htested : v.tested = some true) :
      UserStep ok v
        { v with
          user := { v.user with phase := .freed, adds := v.user.adds + 1 }
          listed := v.listed + 1
          tested := none }
  | deferred (htested : v.tested = some false) :
      UserStep ok v
        { v with
          user := { v.user with
            userPvt := { v.user.userPvt with freeAfterCallback := true }
            phase := .freed }
          tested := none }
  | refused (hqueued : v.user.userPvt.isQueued = true) (hport : v.user.userPvt.pport ≠ none) :
      UserStep ok v
        { v with user := { v.user with userPvt := { v.user.userPvt with isQueued := false } } }
  | started (e : Executor) (hqueued : v.user.userPvt.isQueued = true)
      (hport : v.user.userPvt.pport ≠ none) (hstage : v.stage e = .away) :
      UserStep ok v
        { v with
          user := { v.user with
            userPvt := { v.user.userPvt with isQueued := false, state := .callbackActive }
            executors := v.user.executors ++ [e] }
          stage := Function.update v.stage e .running }
  | ended (e : Executor) (done : Bool) (hstage : v.stage e = .running) :
      UserStep ok v
        { v with
          user := { v.user with
            userPvt := { v.user.userPvt with callbackDone := done, state := .callbackIdle } }
          stage := Function.update v.stage e .finishing }
  | flagged (e : Executor) (hstage : v.stage e = .finishing)
      (hflag : v.user.userPvt.freeAfterCallback = true) (hok : ok → v.tested ≠ some false) :
      UserStep ok v
        { v with
          user := { v.user with userPvt := { v.user.userPvt with freeAfterCallback := false } }
          stage := Function.update v.stage e .adding }
  | unflagged (e : Executor) (hstage : v.stage e = .finishing)
      (hflag : v.user.userPvt.freeAfterCallback = false) (hok : ok → v.tested ≠ some false) :
      UserStep ok v
        { v with
          user := { v.user with executors := v.user.executors.erase e }
          stage := Function.update v.stage e .away }
  | added (e : Executor) (hstage : v.stage e = .adding) :
      UserStep ok v
        { v with
          user := { v.user with
            executors := v.user.executors.erase e
            adds := v.user.adds + 1 }
          listed := v.listed + 1
          stage := Function.update v.stage e .away }

theorem userStep_of_eq {ok : Prop} {v v' : UserView} (heq : v' = v) : UserStep ok v v' := by
  rw [heq]
  exact .same

/-! ## Frame lemmas -/

theorem view_modUser_self (s : State) (u : UserId) (f : AsynUser → AsynUser) :
    (s.modUser u f).view u = { s.view u with user := f (s.user u) } := by
  simp [State.view, State.modUser, State.tested]

theorem view_modUser_of_ne (s : State) {u w : UserId} (f : AsynUser → AsynUser) (hne : w ≠ u) :
    (s.modUser u f).view w = s.view w := by
  simp [State.view, State.modUser, State.tested, Function.update_of_ne hne]

theorem view_setManagerLock (s : State) (p : PortId) (b : Bool) (u : UserId) :
    (s.setManagerLock p b).view u = s.view u := rfl

theorem view_setExecutor (s : State) (e : Executor) (pc : ExecutorPc) (u : UserId) :
    (s.setExecutor e pc).view u =
      { s.view u with stage := Function.update (s.view u).stage e (pc.stage u) } := by
  ext e'
  all_goals try rfl
  by_cases he : e' = e
  · subst he
    simp [State.view, State.setExecutor]
  · simp [State.view, State.setExecutor, Function.update_of_ne he]

theorem stage_eq_running {pc : ExecutorPc} {u : UserId} :
    pc.stage u = .running ↔ ∃ p, pc = .running u p := by
  cases pc <;> simp [ExecutorPc.stage, ite_eq_iff]

theorem stage_eq_finishing {pc : ExecutorPc} {u : UserId} :
    pc.stage u = .finishing ↔ ∃ p, pc = .finishing u p := by
  cases pc <;> simp [ExecutorPc.stage, ite_eq_iff]

theorem stage_eq_adding {pc : ExecutorPc} {u : UserId} :
    pc.stage u = .adding ↔ ∃ p, pc = .adding u p := by
  cases pc <;> simp [ExecutorPc.stage, ite_eq_iff]

theorem stage_running_self (u : UserId) (p : PortId) :
    (ExecutorPc.running u p).stage u = .running := if_pos rfl

theorem stage_finishing_self (u : UserId) (p : PortId) :
    (ExecutorPc.finishing u p).stage u = .finishing := if_pos rfl

theorem stage_adding_self (u : UserId) (p : PortId) :
    (ExecutorPc.adding u p).stage u = .adding := if_pos rfl

/-- A thread that works for one `asynUser` is away from every other. -/
theorem stage_of_ne {u w : UserId} (p : PortId) (hne : w ≠ u) :
    (ExecutorPc.running u p).stage w = .away ∧ (ExecutorPc.finishing u p).stage w = .away ∧
      (ExecutorPc.adding u p).stage w = .away :=
  ⟨if_neg (Ne.symm hne), if_neg (Ne.symm hne), if_neg (Ne.symm hne)⟩

/-- A move of a thread from one place to another that are both away from the `asynUser`. -/
theorem view_setExecutor_away {s : State} {e : Executor} {pc : ExecutorPc} {u : UserId}
    (hbefore : (s.executor e).stage u = .away) (hafter : pc.stage u = .away) :
    (s.setExecutor e pc).view u = s.view u := by
  rw [view_setExecutor, hafter]
  have hstage : Function.update (s.view u).stage e .away = (s.view u).stage :=
    Function.update_eq_self_iff.mpr hbefore.symm
  rw [hstage]

/-- A step on the record of one `asynUser`. -/
theorem userStep_modUser {ok : Prop} {s : State} {u : UserId} {f : AsynUser → AsynUser}
    (hstep : UserStep ok (s.view u) { s.view u with user := f (s.user u) }) (w : UserId) :
    UserStep ok (s.view w) ((s.modUser u f).view w) := by
  by_cases hw : w = u
  · subst hw
    rw [view_modUser_self]
    exact hstep
  · exact userStep_of_eq (view_modUser_of_ne s f hw)

/-- A step of a thread with an `asynUser`; `s₁` is the state with the thread's new position. -/
theorem userStep_executor {ok : Prop} (s s₁ : State) {u : UserId} {f : AsynUser → AsynUser}
    (huser : s₁.user = s.user) (hother : ∀ w, w ≠ u → s₁.view w = s.view w)
    (hstep : UserStep ok (s.view u) { s₁.view u with user := f (s.user u) }) (w : UserId) :
    UserStep ok (s.view w) ((s₁.modUser u f).view w) := by
  by_cases hw : w = u
  · subst hw
    rw [view_modUser_self, huser]
    exact hstep
  · rw [view_modUser_of_ne s₁ f hw]
    exact userStep_of_eq (hother w hw)

/-! ## The owner's calls -/

theorem disconnect_change {v w : UserPvt} (hcall : disconnect v = some w) :
    ClientChange v w ∧ w.pport = none := by
  unfold disconnect at hcall
  split at hcall
  · cases hcall
  · next hqueued =>
    split at hcall
    · cases hcall
    · next hblock =>
      split at hcall
      · cases hcall
      · next hexception =>
        cases hcall
        refine ⟨⟨rfl, Iff.rfl, ?_⟩, rfl⟩
        intro _ _
        have hport : v.blockPortCount = 0 := by omega
        have hdevice : v.blockDeviceCount = 0 := by omega
        exact ⟨by simpa using hqueued, hport, hdevice, by simpa using hexception⟩

/-- A call on a connected `asynUser` need not keep `Clean`. -/
theorem clientChange_of_port {v w : UserPvt} {p : PortId} (hport : v.pport = some p)
    (hsame : w.pport = v.pport) (hflag : w.freeAfterCallback = v.freeAfterCallback)
    (hstate : w.state = .callbackIdle ↔ v.state = .callbackIdle) : ClientChange v w := by
  refine ⟨hflag, hstate, ?_⟩
  intro _ hnone
  rw [hsame, hport] at hnone
  cases hnone

/-- The owner's calls other than `disconnect`. -/
structure KeepsConnection (f : UserPvt → Option UserPvt) : Prop where
  port : ∀ v w, f v = some w → w.pport = v.pport
  flag : ∀ v w, f v = some w → w.freeAfterCallback = v.freeAfterCallback
  state : ∀ v w, f v = some w → (w.state = .callbackIdle ↔ v.state = .callbackIdle)

theorem queueRequest_keeps (timeout : Int) : KeepsConnection (queueRequest timeout) := by
  constructor <;> intro v w hcall <;> unfold queueRequest at hcall <;> (repeat' split at hcall) <;>
    cases hcall <;> rfl

theorem cancelRequest_keeps : KeepsConnection cancelRequest := by
  constructor
  · intro v w hcall
    unfold cancelRequest at hcall
    (repeat' split at hcall) <;> cases hcall <;> rfl
  · intro v w hcall
    unfold cancelRequest at hcall
    (repeat' split at hcall) <;> cases hcall <;> rfl
  · intro v w hcall
    unfold cancelRequest at hcall
    split at hcall
    · cases hcall
      exact Iff.rfl
    · split at hcall
      · next hactive =>
        cases hcall
        simp [hactive]
      · cases hcall

theorem blockProcessCallback_keeps (allDevices : Bool) :
    KeepsConnection (blockProcessCallback allDevices) := by
  constructor <;> intro v w hcall <;> unfold blockProcessCallback at hcall <;>
    (repeat' split at hcall) <;> cases hcall <;> rfl

theorem unblockProcessCallback_keeps (allDevices : Bool) :
    KeepsConnection (unblockProcessCallback allDevices) := by
  constructor <;> intro v w hcall <;> unfold unblockProcessCallback at hcall <;>
    (repeat' split at hcall) <;> cases hcall <;> rfl

theorem exceptionCallbackAdd_keeps : KeepsConnection exceptionCallbackAdd := by
  constructor <;> intro v w hcall <;> unfold exceptionCallbackAdd at hcall <;> split at hcall <;>
    cases hcall <;> rfl

theorem exceptionCallbackRemove_keeps : KeepsConnection exceptionCallbackRemove := by
  constructor <;> intro v w hcall <;> unfold exceptionCallbackRemove at hcall <;> split at hcall <;>
    cases hcall <;> rfl

theorem clientCall_cases {s s' : State} {u : UserId} {f : UserPvt → Option UserPvt}
    (hstep : clientCall s u f = some s') :
    ∃ p w, (s.user u).phase = .live ∧ (s.user u).userPvt.pport = some p ∧
      f (s.user u).userPvt = some w ∧ s' = s.setUserPvt u w := by
  unfold clientCall at hstep
  split at hstep
  · next hphase =>
    split at hstep
    · cases hstep
    · next p hport =>
      split at hstep
      · cases hstep
      · obtain ⟨w, hcall, rfl⟩ := Option.map_eq_some_iff.mp hstep
        exact ⟨p, w, hphase, hport, hcall, rfl⟩
  · cases hstep

theorem clientCall_view {ok : Prop} {s s' : State} {u : UserId} {f : UserPvt → Option UserPvt}
    (hkeeps : KeepsConnection f) (hstep : clientCall s u f = some s') (w : UserId) :
    UserStep ok (s.view w) (s'.view w) := by
  obtain ⟨p, v, hphase, hport, hcall, rfl⟩ := clientCall_cases hstep
  have hchange := clientChange_of_port hport (hkeeps.port _ _ hcall) (hkeeps.flag _ _ hcall)
    (hkeeps.state _ _ hcall)
  exact userStep_modUser (.client v hphase hchange) w

/-! ## Every step -/

theorem createPop_view {ok : Prop} {s s' : State} {fresh : UserId}
    (hstep : createPop s fresh = some s') (w : UserId) : UserStep ok (s.view w) (s'.view w) := by
  unfold createPop at hstep
  split at hstep
  · split at hstep
    · split at hstep
      · next hphase =>
        cases hstep
        exact userStep_modUser (.fresh hphase) w
      · cases hstep
    · next u rest hlist =>
      cases hstep
      by_cases hw : w = u
      · subst hw
        have hcount : (s.view w).listed = rest.count w + 1 := by
          show s.asynUserFreeList.count w = rest.count w + 1
          rw [hlist, List.count_cons_self]
        rw [view_modUser_self]
        exact .reuse _ hcount
      · rw [view_modUser_of_ne _ _ hw]
        apply userStep_of_eq
        have hcount : rest.count w = s.asynUserFreeList.count w := by
          rw [hlist, List.count_cons_of_ne (Ne.symm hw)]
        simp [State.view, State.tested, hcount]
  · cases hstep

theorem freeCall_view {ok : Prop} {s s' : State} {u : UserId} (hstep : freeCall s u = some s')
    (w : UserId) : UserStep ok (s.view w) (s'.view w) := by
  unfold freeCall at hstep
  split at hstep
  · next hphase =>
    split at hstep
    · next hport =>
      cases hstep
      have hsame : ClientChange (s.user u).userPvt (s.user u).userPvt := ⟨rfl, Iff.rfl, id⟩
      exact userStep_modUser (.freeing _ hphase hsame hport) w
    · split at hstep
      · cases hstep
      · split at hstep
        · cases hstep
          exact .same
        · next v hcall =>
          cases hstep
          obtain ⟨hchange, hport⟩ := disconnect_change hcall
          exact userStep_modUser (.freeing v hphase hchange hport) w
  · cases hstep

theorem freeTest_view {s s' : State} {u : UserId} (hstep : freeTest s u = some s') (w : UserId) :
    UserStep (Orderly s (.freeTest u)) (s.view w) (s'.view w) := by
  unfold freeTest at hstep
  split at hstep
  · next hguard =>
    obtain ⟨hphase, hlock⟩ := hguard
    cases hstep
    by_cases hw : w = u
    · subst hw
      rw [view_modUser_self]
      have htested : { s with lock := some (w, decide ((s.user w).userPvt.state =
          CallbackState.callbackIdle)) }.view w =
          { s.view w with
            tested := some (decide ((s.user w).userPvt.state = CallbackState.callbackIdle)) } := by
        simp [State.view, State.tested]
      rw [htested]
      refine .tested hphase ?_
      intro hok
      exact hok
    · rw [view_modUser_of_ne _ _ hw]
      apply userStep_of_eq
      simp [State.view, State.tested, hlock, Ne.symm hw]
  · cases hstep

theorem freeAct_view {ok : Prop} {s s' : State} (hstep : freeAct s = some s') (w : UserId) :
    UserStep ok (s.view w) (s'.view w) := by
  unfold freeAct at hstep
  split at hstep
  · cases hstep
  · next u hlock =>
    cases hstep
    by_cases hw : w = u
    · subst hw
      have hview : { s with
            lock := none, asynUserFreeList := s.asynUserFreeList ++ [w] }.view w =
          { s.view w with listed := (s.view w).listed + 1, tested := none } := by
        simp [State.view, State.tested]
      rw [view_modUser_self, hview]
      refine .listed ?_
      simp [State.view, State.tested, hlock]
    · rw [view_modUser_of_ne _ _ hw]
      apply userStep_of_eq
      simp [State.view, State.tested, hlock, Ne.symm hw]
  · next u hlock =>
    cases hstep
    by_cases hw : w = u
    · subst hw
      have hview : { s with lock := none }.view w = { s.view w with tested := none } := by
        simp [State.view, State.tested]
      rw [view_modUser_self, hview]
      refine .deferred ?_
      simp [State.view, State.tested, hlock]
    · rw [view_modUser_of_ne _ _ hw]
      apply userStep_of_eq
      simp [State.view, State.tested, hlock, Ne.symm hw]

theorem startCallback_view {ok : Prop} {s s' : State} {e : Executor} {u : UserId}
    (hstep : startCallback s e u = some s') (w : UserId) : UserStep ok (s.view w) (s'.view w) := by
  unfold startCallback at hstep
  split at hstep
  · cases hstep
  · next p hport =>
    have hconnected : (s.user u).userPvt.pport ≠ none := by
      rw [hport]
      exact Option.some_ne_none p
    split at hstep
    · next hguard =>
      obtain ⟨hidle, -, -, hqueued⟩ := hguard
      have haway : ∀ w, (s.executor e).stage w = .away := by
        intro w
        rw [hidle]
        rfl
      split at hstep
      · cases hstep
        exact userStep_modUser (.refused hqueued hconnected) w
      · cases hstep
        refine userStep_executor s (s.setExecutor e (.running u p)) rfl ?_ ?_ w
        · intro w hw
          exact view_setExecutor_away (haway w) (stage_of_ne p hw).1
        · rw [view_setExecutor, stage_running_self]
          exact .started e hqueued hconnected (haway u)
    · cases hstep

theorem endCallback_view {ok : Prop} {s s' : State} {e : Executor}
    (hstep : endCallback s e = some s') (w : UserId) : UserStep ok (s.view w) (s'.view w) := by
  unfold endCallback at hstep
  split at hstep
  · next u p hpc =>
    split at hstep
    · cases hstep
    · cases hstep
      refine userStep_executor s ((s.setExecutor e (.finishing u p)).setManagerLock p true) rfl ?_ ?_ w
      · intro w hw
        rw [view_setManagerLock]
        refine view_setExecutor_away ?_ (stage_of_ne p hw).2.1
        rw [hpc]
        exact (stage_of_ne p hw).1
      · rw [view_setManagerLock, view_setExecutor, stage_finishing_self]
        refine .ended e _ ?_
        show (s.executor e).stage u = .running
        rw [hpc, stage_running_self]
  · cases hstep

theorem tested_of_orderly {s : State} {e : Executor} {u : UserId}
    (hok : Orderly s (.testFree e)) (hstage : (s.executor e).stage u = .finishing) :
    s.tested u ≠ some false := by
  intro htested
  cases hlock : s.lock with
  | none => simp [State.tested, hlock] at htested
  | some x =>
      obtain ⟨u', b⟩ := x
      simp only [State.tested, hlock] at htested
      split at htested
      · next hu =>
        subst hu
        have hb : b = false := Option.some.inj htested
        exact hok (u', b) hlock hb hstage
      · cases htested

theorem testFree_view {s s' : State} {e : Executor} (hstep : testFree s e = some s') (w : UserId) :
    UserStep (Orderly s (.testFree e)) (s.view w) (s'.view w) := by
  unfold testFree at hstep
  split at hstep
  · next u p hpc =>
    have hstage : (s.executor e).stage u = .finishing := by rw [hpc, stage_finishing_self]
    have hother : ∀ w, w ≠ u → (s.executor e).stage w = .away := by
      intro w hw
      rw [hpc]
      exact (stage_of_ne p hw).2.1
    split at hstep
    · next hflag =>
      cases hstep
      refine userStep_executor s (s.setExecutor e (.adding u p)) rfl ?_ ?_ w
      · intro w hw
        exact view_setExecutor_away (hother w hw) (stage_of_ne p hw).2.2
      · rw [view_setExecutor, stage_adding_self]
        refine .flagged e hstage hflag ?_
        intro hok
        exact tested_of_orderly hok hstage
    · next hflag =>
      cases hstep
      refine userStep_executor s ((s.setExecutor e .idle).setManagerLock p false) rfl ?_ ?_ w
      · intro w hw
        rw [view_setManagerLock]
        exact view_setExecutor_away (hother w hw) rfl
      · rw [view_setManagerLock, view_setExecutor]
        refine .unflagged e hstage (eq_false_of_ne_true hflag) ?_
        intro hok
        exact tested_of_orderly hok hstage
  · cases hstep

theorem addFree_view {ok : Prop} {s s' : State} {e : Executor} (hstep : addFree s e = some s')
    (w : UserId) : UserStep ok (s.view w) (s'.view w) := by
  unfold addFree at hstep
  split at hstep
  · next u p hpc =>
    split at hstep
    · cases hstep
      refine userStep_executor s
        (({ s with asynUserFreeList := s.asynUserFreeList ++ [u] }.setExecutor e .idle).setManagerLock p
          false) rfl ?_ ?_ w
      · intro w hw
        rw [view_setManagerLock, view_setExecutor_away]
        · simp [State.view, State.tested, Ne.symm hw]
        · show (s.executor e).stage w = .away
          rw [hpc]
          exact (stage_of_ne p hw).2.2
        · rfl
      · rw [view_setManagerLock, view_setExecutor]
        have hview : { s with asynUserFreeList := s.asynUserFreeList ++ [u] }.view u =
            { s.view u with listed := (s.view u).listed + 1 } := by
          simp [State.view, State.tested]
        rw [hview]
        refine .added e ?_
        show (s.executor e).stage u = .adding
        rw [hpc, stage_adding_self]
    · cases hstep
  · cases hstep

/-- For every `asynUser`, a step of the machine is a step of its view. -/
theorem step_view {s s' : State} {a : Action} (hstep : step s a = some s') (w : UserId) :
    UserStep (Orderly s a) (s.view w) (s'.view w) := by
  cases a with
  | createPop fresh => exact createPop_view hstep w
  | createInit u process timeout =>
      simp only [step, createInit] at hstep
      split at hstep
      · next hguard =>
        cases hstep
        exact userStep_modUser (.created process timeout hguard.1) w
      · cases hstep
  | connectDevice u p addr =>
      simp only [step, connectDevice] at hstep
      split at hstep
      · next hguard =>
        cases hstep
        have hchange : ClientChange (s.user u).userPvt { (s.user u).userPvt with
            pport := some p, pdevice := addr.or (s.user u).userPvt.pdevice } := by
          refine ⟨rfl, Iff.rfl, ?_⟩
          intro _ hnone
          cases hnone
        exact userStep_modUser (.client _ hguard.1 hchange) w
      · cases hstep
  | disconnect u =>
      obtain ⟨p, v, hphase, -, hcall, rfl⟩ := clientCall_cases hstep
      exact userStep_modUser (.client v hphase (disconnect_change hcall).1) w
  | queueRequest u timeout => exact clientCall_view (queueRequest_keeps timeout) hstep w
  | cancelRequest u => exact clientCall_view cancelRequest_keeps hstep w
  | blockProcessCallback u allDevices =>
      exact clientCall_view (blockProcessCallback_keeps allDevices) hstep w
  | unblockProcessCallback u allDevices =>
      exact clientCall_view (unblockProcessCallback_keeps allDevices) hstep w
  | exceptionCallbackAdd u => exact clientCall_view exceptionCallbackAdd_keeps hstep w
  | exceptionCallbackRemove u => exact clientCall_view exceptionCallbackRemove_keeps hstep w
  | freeCall u => exact freeCall_view hstep w
  | freeTest u => exact freeTest_view hstep w
  | freeAct => exact freeAct_view hstep w
  | startCallback e u => exact startCallback_view hstep w
  | endCallback e => exact endCallback_view hstep w
  | testFree e => exact testFree_view hstep w
  | addFree e => exact addFree_view hstep w

/-- What holds of every `asynUser` at the start and is kept by its steps holds in every run. -/
theorem view_invariant {guard : State → Action → Prop} {I : UserView → Prop}
    (hinit : ∀ u, I (State.start.view u))
    (hkeep : ∀ s a v v', guard s a → UserStep (Orderly s a) v v' → I v → I v')
    {s : State} (hreach : machine.Reachable guard s) (u : UserId) : I (s.view u) := by
  refine Machine.Reachable.invariant (I := fun s => ∀ u, I (s.view u)) ?_ ?_ hreach u
  · intro s hs
    cases hs
    exact hinit
  · intro s a s' hok ih hstep u
    exact hkeep s a _ _ hok (step_view hstep u) (ih u)

end FreeList
end Manager
end AsynDriver
