import AsynDriver.Interfaces.InterruptUsers
import AsynDriver.Manager.InterruptListSafety

/-!
# Steps of one registration

`RegView` is one node with its registration, and `RegStep` says what an accepted step can do to it;
`step_advances` has one case for each function.
-/

namespace AsynDriver
namespace Interfaces
namespace InterruptUsers

open Library
open Manager (AsynStatus ThreadId)
open Manager.InterruptList (NodeId Call InterruptNode)

/-! ## One registration -/

/-- Where a thread stands with a node: `entering` is before the call of the interrupt list, and `done`
and `refused` are between its return and `finish`. -/
inductive Role
  | away
  | entering (call : Call)
  | waiting (call : Call)
  | woken (call : Call)
  | done (call : Call)
  | refused (call : Call)
  deriving DecidableEq

def listRole (call : Call) : Manager.InterruptList.Pc → Role
  | .waiting _ _ => .waiting call
  | .woken _ _ => .woken call
  | .returned status => if status = .asynSuccess then .done call else .refused call
  | _ => .entering call

def role (pc : Pc) (thread : Manager.InterruptList.Pc) (n : NodeId) : Role :=
  match pc with
  | .registering m => if m = n then listRole .addInterruptUser thread else .away
  | .cancelling m => if m = n then listRole .removeInterruptUser thread else .away
  | _ => .away

@[ext]
structure RegView where
  node : InterruptNode
  count : Nat
  queued : Nat
  reg : Registration
  role : ThreadId → Role

def State.view (s : State) (n : NodeId) : RegView where
  node := s.list.node n
  count := s.list.callbackList.count n
  queued := s.list.addRemoveList.count n
  reg := s.reg n
  role := fun t => role (s.pc t) (s.list.thread t) n

/-- The call comes to the test of the loop, for the first time or after a wait. -/
def AtLoop (v : RegView) (t : ThreadId) (call : Call) : Prop :=
  (v.role t = .entering call ∧ v.node.isOnList ≠ call.result ∧
    (call = .removeInterruptUser → v.node.callers = [])) ∨
  v.role t = .woken call

/-- What an accepted step does to one registration. -/
inductive RegStep (v : RegView) : RegView → Prop
  | same : RegStep v v
  | created (t : ThreadId) (hreg : v.reg.memMalloc = 0) :
      RegStep v
        { v with
          reg := .created
          role := Function.update v.role t (.entering .addInterruptUser) }
  | cancels (t : ThreadId) (hreg : v.reg.memMalloc ≠ 0) (hrole : v.role t = .away) :
      RegStep v { v with role := Function.update v.role t (.entering .removeInterruptUser) }
  | already {v' : RegView} (t : ThreadId) (hrole : v.role t = .entering .addInterruptUser)
      (honList : v.node.isOnList = true) : RegStep v v'
  | refused {v' : RegView} (t : ThreadId) (call : Call) (hloop : AtLoop v t call)
      (hqueued : v.node.isOnAddRemoveList = true) : RegStep v v'
  | queued (t : ThreadId) (call : Call) (hloop : AtLoop v t call)
      (hqueued : v.node.isOnAddRemoveList = false) :
      RegStep v
        { v with
          node := { v.node with isOnAddRemoveList := true, callers := v.node.callers.insert t }
          queued := v.queued + 1
          role := Function.update v.role t (.waiting call) }
  | changed (t : ThreadId) (call : Call) (hloop : AtLoop v t call) :
      RegStep v
        { v with
          node := { v.node with isOnList := call.result, callers := v.node.callers.erase t }
          count := call.count v.count
          role := Function.update v.role t (.done call) }
  | woken (t : ThreadId) (call : Call) (hrole : v.role t = .waiting call)
      (hdone : v.node.callbackDone = true) :
      RegStep v
        { v with
          node := { v.node with callbackDone := false }
          role := Function.update v.role t (.woken call) }
  | signalled :
      RegStep v
        { v with
          node :=
            if v.queued = 0 then v.node
            else { v.node with isOnAddRemoveList := false, callbackDone := true }
          queued := 0 }
  | returned (t : ThreadId) (hrole : v.role t = .done .addInterruptUser) :
      RegStep v { v with role := Function.update v.role t .away }
  | freed (t : ThreadId) (hrole : v.role t = .done .removeInterruptUser) :
      RegStep v
        { v with
          reg := v.reg.free .asynSuccess v.node.isOnList
          role := Function.update v.role t .away }
  | failed {v' : RegView} (t : ThreadId) (call : Call) (hrole : v.role t = .refused call) :
      RegStep v v'

/-! ## Threads -/

def Pc.ofCall : Call → NodeId → Pc
  | .addInterruptUser, n => .registering n
  | .removeInterruptUser, n => .cancelling n

/-- The interrupt list is entered by the two functions and by the driver's traversal only. -/
def ThreadOk (pc : Pc) : Manager.InterruptList.Pc → Prop
  | .idle => pc ≠ .walking
  | .waiting call n => pc = .ofCall call n
  | .woken call n => pc = .ofCall call n
  | .walking _ => pc = .walking
  | .returned _ => ∃ call n, pc = .ofCall call n

/-- One thread moves. -/
structure Moves (s s' : State) (t : ThreadId) : Prop where
  pc : ∀ t', t' ≠ t → s'.pc t' = s.pc t'
  thread : ∀ t', t' ≠ t → s'.list.thread t' = s.list.thread t'
  ok : ThreadOk (s'.pc t) (s'.list.thread t)

theorem role_ofCall (call : Call) (n m : NodeId) (thread : Manager.InterruptList.Pc) :
    role (.ofCall call n) thread m = if n = m then listRole call thread else .away := by
  cases call <;> rfl

theorem Moves.threads {s s' : State} {t : ThreadId} (hmoves : Moves s s' t)
    (hinv : ∀ t, ThreadOk (s.pc t) (s.list.thread t)) :
    ∀ t, ThreadOk (s'.pc t) (s'.list.thread t) := by
  intro t'
  by_cases ht : t' = t
  · rw [ht]
    exact hmoves.ok
  · rw [hmoves.pc t' ht, hmoves.thread t' ht]
    exact hinv t'

theorem Moves.role {s s' : State} {t : ThreadId} (hmoves : Moves s s' t) (n : NodeId) :
    (s'.view n).role =
      Function.update (s.view n).role t (role (s'.pc t) (s'.list.thread t) n) := by
  funext t'
  by_cases ht : t' = t
  · rw [ht, Function.update_self]
    rfl
  · rw [Function.update_of_ne ht]
    show InterruptUsers.role (s'.pc t') (s'.list.thread t') n = _
    rw [hmoves.pc t' ht, hmoves.thread t' ht]
    rfl

theorem threadOk_returned (call : Call) (n : NodeId) (status : AsynStatus) :
    ThreadOk (.ofCall call n) (.returned status) :=
  ⟨call, n, rfl⟩

/-- A thread moves inside the interrupt list. -/
theorem moves_list {s : State} {l : Manager.InterruptList.State} {t : ThreadId}
    {pc : Manager.InterruptList.Pc} (hthread : l.thread = Function.update s.list.thread t pc)
    (hok : ThreadOk (s.pc t) pc) : Moves s { s with list := l } t where
  pc := fun _ _ => rfl
  thread := by
    intro t' ht
    show l.thread t' = _
    rw [hthread, Function.update_of_ne ht]
  ok := by
    show ThreadOk (s.pc t) (l.thread t)
    rw [hthread, Function.update_self]
    exact hok

/-- The view of a node after a thread has moved inside the interrupt list. -/
theorem view_list {s : State} {l : Manager.InterruptList.State} {t : ThreadId}
    {pc : Manager.InterruptList.Pc} (hthread : l.thread = Function.update s.list.thread t pc)
    (hok : ThreadOk (s.pc t) pc) (m : NodeId) :
    ({ s with list := l } : State).view m =
      { node := l.node m
        count := l.callbackList.count m
        queued := l.addRemoveList.count m
        reg := s.reg m
        role := Function.update (s.view m).role t (role (s.pc t) pc m) } := by
  have hmoves := moves_list hthread hok
  have hrole := hmoves.role m
  have hpc : ({ s with list := l } : State).list.thread t = pc := by
    show l.thread t = pc
    rw [hthread, Function.update_self]
  rw [hpc] at hrole
  exact RegView.ext rfl rfl rfl rfl hrole

/-- A move that does not change the role. -/
theorem update_role {s : State} {t : ThreadId} {n : NodeId} {r : Role}
    (hrole : (s.view n).role t = r) : Function.update (s.view n).role t r = (s.view n).role :=
  Function.update_eq_self_iff.mpr hrole.symm

theorem role_of_ne (call : Call) {n m : NodeId} (hne : m ≠ n) (thread : Manager.InterruptList.Pc) :
    role (.ofCall call n) thread m = .away := by
  rw [role_ofCall, if_neg (Ne.symm hne)]

theorem role_self (call : Call) (n : NodeId) (thread : Manager.InterruptList.Pc) :
    role (.ofCall call n) thread n = listRole call thread := by
  rw [role_ofCall, if_pos rfl]

theorem RegStep.congr {v v₁ v' : RegView} (hstep : RegStep v v₁) (heq : v' = v₁) : RegStep v v' := by
  rw [heq]
  exact hstep

/-- A thread moves inside a call for node `n`, and the other nodes stay as they are. -/
theorem step_list {s : State} {l : Manager.InterruptList.State} {t : ThreadId}
    {pc : Manager.InterruptList.Pc} {call : Call} {n : NodeId} (hpc : s.pc t = .ofCall call n)
    (hthread : l.thread = Function.update s.list.thread t pc) (hok : ThreadOk (.ofCall call n) pc)
    (hnode : ∀ m, m ≠ n → l.node m = s.list.node m)
    (hcount : ∀ m, m ≠ n → l.callbackList.count m = s.list.callbackList.count m)
    (hqueued : ∀ m, m ≠ n → l.addRemoveList.count m = s.list.addRemoveList.count m)
    (hself : RegStep (s.view n)
      { node := l.node n
        count := l.callbackList.count n
        queued := l.addRemoveList.count n
        reg := s.reg n
        role := Function.update (s.view n).role t (listRole call pc) }) :
    Moves s { s with list := l } t ∧
      ∀ m, RegStep (s.view m) (({ s with list := l } : State).view m) := by
  have hok' : ThreadOk (s.pc t) pc := by
    rw [hpc]
    exact hok
  refine ⟨moves_list hthread hok', ?_⟩
  intro m
  rw [view_list hthread hok', hpc]
  by_cases hm : m = n
  · subst hm
    rw [role_self]
    exact hself
  · have haway : (s.view m).role t = .away := by
      show role (s.pc t) (s.list.thread t) m = .away
      rw [hpc]
      exact role_of_ne call hm _
    rw [role_of_ne call hm, update_role haway, hnode m hm, hcount m hm, hqueued m hm]
    exact RegStep.same.congr rfl

/-- One round of the loop. -/
theorem loopHead_step {s : State} {t : ThreadId} {call : Call} {n : NodeId}
    (hpc : s.pc t = .ofCall call n) (hloop : AtLoop (s.view n) t call) :
    Moves s { s with list := Manager.InterruptList.loopHead s.list t call n } t ∧
      ∀ m, RegStep (s.view m)
        (({ s with list := Manager.InterruptList.loopHead s.list t call n } : State).view m) := by
  unfold Manager.InterruptList.loopHead
  split
  · split
    · next hqueued =>
      refine step_list hpc rfl (threadOk_returned call n .asynError)
        (fun m hm => Function.update_of_ne hm _ _) (fun m _ => rfl) (fun m _ => rfl) ?_
      exact .refused t call hloop hqueued
    · next hqueued =>
      refine step_list (n := n) hpc rfl rfl (fun m hm => Function.update_of_ne hm _ _)
        (fun m _ => rfl) ?_ ?_
      · intro m hm
        show (s.list.addRemoveList ++ [n]).count m = _
        simp [Ne.symm hm]
      · have hadd : (s.list.addRemoveList ++ [n]).count n = s.list.addRemoveList.count n + 1 := by
          simp
        simp only [Manager.InterruptList.State.modNode, Function.update_self]
        show RegStep (s.view n) ⟨_, _, (s.list.addRemoveList ++ [n]).count n, _, _⟩
        rw [hadd]
        exact .queued t call hloop (eq_false_of_ne_true hqueued)
  · refine step_list (n := n) hpc rfl (threadOk_returned call n .asynSuccess)
      (fun m hm => Function.update_of_ne hm _ _) ?_ (fun m _ => rfl) ?_
    · intro m hm
      exact Manager.InterruptList.count_change_of_ne call s.list.callbackList hm
    · have hchange := Manager.InterruptList.count_change_self call s.list.callbackList n
      simp only [Manager.InterruptList.State.modNode, Function.update_self]
      show RegStep (s.view n) ⟨_, (call.change s.list.callbackList n).count n, _, _, _⟩
      rw [hchange]
      exact .changed t call hloop

/-! ## Every step -/

/-- Every thread is where it can be, and every registration makes a step. -/
abbrev Advances (s s' : State) : Prop :=
  (∃ t, Moves s s' t) ∧ ∀ m, RegStep (s.view m) (s'.view m)

theorem advances_list {s : State} {l : Manager.InterruptList.State} {t : ThreadId}
    (h : Moves s { s with list := l } t ∧
      ∀ m, RegStep (s.view m) (({ s with list := l } : State).view m)) :
    Advances s { s with list := l } :=
  ⟨⟨t, h.1⟩, h.2⟩

variable {s s' : State} {t : ThreadId}

/-- `addInterruptUser` and `removeInterruptUser`: a call that is refused is an `addInterruptUser` for a
node that is on the list. -/
theorem changeInterruptUser_step {call : Call} {n : NodeId} {l : Manager.InterruptList.State}
    (hpc : s.pc t = .ofCall call n) (hdefunct : s.list.defunct = false)
    (hresult : (s.list.node n).isOnList = call.result → call = .addInterruptUser)
    (hcallers : call = .removeInterruptUser → (s.list.node n).callers = [])
    (hstep : Manager.InterruptList.changeInterruptUser s.list t call n = some l) :
    Advances s { s with list := l } := by
  unfold Manager.InterruptList.changeInterruptUser at hstep
  split at hstep
  · next hidle =>
    have hrole : (s.view n).role t = .entering call := by
      show role (s.pc t) (s.list.thread t) n = _
      rw [hpc, hidle, role_self]
      rfl
    rw [hdefunct] at hstep
    simp only [Bool.false_eq_true, if_false] at hstep
    split at hstep
    · next hsame =>
      cases hstep
      have hadd := hresult hsame
      subst hadd
      exact advances_list (step_list (n := n) hpc rfl (threadOk_returned _ n .asynError)
        (fun m _ => rfl) (fun m _ => rfl) (fun m _ => rfl) (.already t hrole hsame))
    · next hother =>
      cases hstep
      exact advances_list (loopHead_step hpc (Or.inl ⟨hrole, hother, hcallers⟩))
  · cases hstep

theorem wake_step {l : Manager.InterruptList.State}
    (hthreads : ∀ t, ThreadOk (s.pc t) (s.list.thread t))
    (hstep : Manager.InterruptList.wake s.list t = some l) : Advances s { s with list := l } := by
  unfold Manager.InterruptList.wake at hstep
  split at hstep
  · next call n hthread =>
    have hpc : s.pc t = .ofCall call n := by
      have hok := hthreads t
      rw [hthread] at hok
      exact hok
    have hrole : (s.view n).role t = .waiting call := by
      show role (s.pc t) (s.list.thread t) n = _
      rw [hpc, hthread, role_self]
      rfl
    split at hstep
    · next hdone =>
      cases hstep
      refine advances_list (step_list (n := n) hpc rfl rfl (fun m hm => Function.update_of_ne hm _ _)
        (fun m _ => rfl) (fun m _ => rfl) ?_)
      simp only [Manager.InterruptList.State.modNode, Function.update_self]
      exact .woken t call hrole hdone
    · cases hstep
  · cases hstep

theorem relock_step {l : Manager.InterruptList.State}
    (hthreads : ∀ t, ThreadOk (s.pc t) (s.list.thread t))
    (hstep : Manager.InterruptList.relock s.list t = some l) : Advances s { s with list := l } := by
  unfold Manager.InterruptList.relock at hstep
  split at hstep
  · next call n hthread =>
    have hpc : s.pc t = .ofCall call n := by
      have hok := hthreads t
      rw [hthread] at hok
      exact hok
    have hrole : (s.view n).role t = .woken call := by
      show role (s.pc t) (s.list.thread t) n = _
      rw [hpc, hthread, role_self]
      rfl
    cases hstep
    exact advances_list (loopHead_step hpc (Or.inr hrole))
  · cases hstep

/-- A thread moves between the functions and the interrupt list. -/
theorem advances_of_update (pc : Pc) (thread : Manager.InterruptList.Pc)
    (hpc : s'.pc = Function.update s.pc t pc)
    (hthread : s'.list.thread = Function.update s.list.thread t thread) (hok : ThreadOk pc thread)
    (hstep : ∀ m, RegStep (s.view m)
      { node := s'.list.node m
        count := s'.list.callbackList.count m
        queued := s'.list.addRemoveList.count m
        reg := s'.reg m
        role := Function.update (s.view m).role t (role pc thread m) }) : Advances s s' := by
  have hmoves : Moves s s' t := by
    constructor
    · intro t' ht
      rw [hpc, Function.update_of_ne ht]
    · intro t' ht
      rw [hthread, Function.update_of_ne ht]
    · rw [hpc, hthread, Function.update_self, Function.update_self]
      exact hok
  refine ⟨⟨t, hmoves⟩, ?_⟩
  intro m
  have hrole := hmoves.role m
  rw [hpc, hthread, Function.update_self, Function.update_self] at hrole
  have hview : s'.view m =
      { node := s'.list.node m
        count := s'.list.callbackList.count m
        queued := s'.list.addRemoveList.count m
        reg := s'.reg m
        role := Function.update (s.view m).role t (role pc thread m) } :=
    RegView.ext rfl rfl rfl rfl hrole
  rw [hview]
  exact hstep m

theorem role_idle {m : NodeId} (hpc : s.pc t = .idle) : (s.view m).role t = .away := by
  show role (s.pc t) (s.list.thread t) m = .away
  rw [hpc]
  rfl

theorem role_walking {m : NodeId} (hpc : s.pc t = .walking) : (s.view m).role t = .away := by
  show role (s.pc t) (s.list.thread t) m = .away
  rw [hpc]
  rfl

/-- A thread that is in neither function and in no traversal is not in the interrupt list. -/
theorem thread_idle (hthreads : ∀ t, ThreadOk (s.pc t) (s.list.thread t))
    (hcall : ∀ call n, s.pc t ≠ .ofCall call n) (hwalk : s.pc t ≠ .walking) :
    s.list.thread t = .idle := by
  have hok := hthreads t
  cases hthread : s.list.thread t with
  | idle => rfl
  | waiting call n =>
      rw [hthread] at hok
      exact absurd hok (hcall call n)
  | woken call n =>
      rw [hthread] at hok
      exact absurd hok (hcall call n)
  | walking l =>
      rw [hthread] at hok
      exact absurd hok hwalk
  | returned status =>
      rw [hthread] at hok
      obtain ⟨call, n, hpc⟩ := hok
      exact absurd hpc (hcall call n)

/-- A thread outside the two functions goes on without the interrupt list. -/
theorem keep_thread {pc : Pc} (hthreads : ∀ t, ThreadOk (s.pc t) (s.list.thread t)) (hpc : s.pc t = pc)
    (hcall : ∀ call n, pc ≠ .ofCall call n) (hwalk : pc ≠ .walking) :
    s.list.thread = Function.update s.list.thread t .idle := by
  subst hpc
  exact (Function.update_eq_self_iff.mpr (thread_idle hthreads hcall hwalk).symm).symm

theorem idle_ne_ofCall (call : Call) (n : NodeId) : Pc.idle ≠ .ofCall call n := by
  cases call <;> exact Pc.noConfusion

theorem interruptStart_step (hstep : interruptStart s t = some s') : Advances s s' := by
  unfold interruptStart at hstep
  split at hstep
  · next hpc =>
    unfold Manager.InterruptList.interruptStart at hstep
    split at hstep
    · cases hstep
      refine advances_of_update .walking _ rfl rfl rfl ?_
      intro m
      exact RegStep.same.congr (RegView.ext rfl rfl rfl rfl (update_role (role_idle hpc)))
    · cases hstep
  · cases hstep

theorem interruptEnd_step (hstep : interruptEnd s t = some s') : Advances s s' := by
  unfold interruptEnd at hstep
  split at hstep
  · next hpc =>
    unfold Manager.InterruptList.interruptEnd at hstep
    split at hstep
    · split at hstep
      · cases hstep
        refine advances_of_update .idle .idle rfl ?_ Pc.noConfusion ?_
        · exact Function.update_idem ..
        · intro m
          exact RegStep.signalled.congr (RegView.ext (Manager.InterruptList.signalAll_eq _ _ m) rfl rfl
            rfl (update_role (role_walking hpc)))
      · cases hstep
        refine advances_of_update .idle .idle rfl ?_ Pc.noConfusion ?_
        · exact Function.update_idem ..
        · intro m
          exact RegStep.same.congr (RegView.ext rfl rfl rfl rfl (update_role (role_walking hpc)))
    · cases hstep
  · cases hstep

theorem registerInterruptUser_step {n : NodeId} {found : Bool}
    (hthreads : ∀ t, ThreadOk (s.pc t) (s.list.thread t))
    (hstep : registerInterruptUser s t n found = some s') : Advances s s' := by
  unfold registerInterruptUser at hstep
  split at hstep
  · next hguard =>
    obtain ⟨hpc, hreg⟩ := hguard
    have hkeep := keep_thread hthreads hpc idle_ne_ofCall Pc.noConfusion
    split at hstep
    · cases hstep
      refine advances_of_update (.registering n) .idle rfl hkeep Pc.noConfusion ?_
      intro m
      by_cases hm : m = n
      · subst hm
        exact (RegStep.created t hreg).congr
          (RegView.ext rfl rfl rfl (Function.update_self ..)
            (congrArg (Function.update (s.view m).role t) (role_self .addInterruptUser m _)))
      · exact RegStep.same.congr
          (RegView.ext rfl rfl rfl (Function.update_of_ne hm _ _)
            ((congrArg (Function.update (s.view m).role t) (role_of_ne .addInterruptUser hm _)).trans
              (update_role (role_idle hpc))))
    · cases hstep
      refine advances_of_update (.registered .asynError) .idle rfl hkeep
        Pc.noConfusion ?_
      intro m
      exact RegStep.same.congr (RegView.ext rfl rfl rfl rfl (update_role (role_idle hpc)))
  · cases hstep

theorem cancelInterruptUser_step {n : NodeId} {found : Bool}
    (hthreads : ∀ t, ThreadOk (s.pc t) (s.list.thread t))
    (hstep : cancelInterruptUser s t n found = some s') : Advances s s' := by
  unfold cancelInterruptUser at hstep
  split at hstep
  · next hguard =>
    obtain ⟨hpc, hreg⟩ := hguard
    have hkeep := keep_thread hthreads hpc idle_ne_ofCall Pc.noConfusion
    split at hstep
    · cases hstep
      refine advances_of_update (.cancelling n) .idle rfl hkeep Pc.noConfusion ?_
      intro m
      by_cases hm : m = n
      · subst hm
        exact (RegStep.cancels t hreg (role_idle hpc)).congr
          (RegView.ext rfl rfl rfl rfl
            (congrArg (Function.update (s.view m).role t) (role_self .removeInterruptUser m _)))
      · exact RegStep.same.congr
          (RegView.ext rfl rfl rfl rfl
            ((congrArg (Function.update (s.view m).role t) (role_of_ne .removeInterruptUser hm _)).trans
              (update_role (role_idle hpc))))
    · cases hstep
      refine advances_of_update (.cancelled n .asynError) .idle rfl hkeep
        Pc.noConfusion ?_
      intro m
      exact RegStep.same.congr (RegView.ext rfl rfl rfl rfl (update_role (role_idle hpc)))
  · cases hstep

/-- The role of a thread whose call of the interrupt list has returned. -/
theorem role_returned (call : Call) {n : NodeId} {status : AsynStatus} (hpc : s.pc t = .ofCall call n)
    (hthread : s.list.thread t = .returned status) (m : NodeId) :
    (s.view m).role t =
      if n = m then (if status = .asynSuccess then .done call else .refused call) else .away := by
  show role (s.pc t) (s.list.thread t) m = _
  rw [hpc, hthread, role_ofCall]
  rfl

theorem finish_step (hstep : finish s t = some s') : Advances s s' := by
  unfold finish at hstep
  split at hstep
  · next n status hpc hthread =>
    have hrole := role_returned .addInterruptUser hpc hthread
    cases hstep
    refine advances_of_update (.registered status) .idle rfl rfl Pc.noConfusion ?_
    intro m
    by_cases hm : n = m
    · subst hm
      have hself := hrole n
      rw [if_pos rfl] at hself
      by_cases hstatus : status = .asynSuccess
      · rw [if_pos hstatus] at hself
        exact .returned t hself
      · rw [if_neg hstatus] at hself
        exact .failed t _ hself
    · have hother := hrole m
      rw [if_neg hm] at hother
      exact RegStep.same.congr (RegView.ext rfl rfl rfl rfl (update_role hother))
  · next n status hpc hthread =>
    have hrole := role_returned .removeInterruptUser hpc hthread
    cases hstep
    refine advances_of_update (.cancelled n status) .idle rfl rfl Pc.noConfusion ?_
    intro m
    by_cases hm : n = m
    · subst hm
      have hself := hrole n
      rw [if_pos rfl] at hself
      by_cases hstatus : status = .asynSuccess
      · rw [if_pos hstatus] at hself
        subst hstatus
        exact (RegStep.freed t hself).congr (RegView.ext rfl rfl rfl (Function.update_self ..) rfl)
      · rw [if_neg hstatus] at hself
        exact .failed t _ hself
    · have hother := hrole m
      rw [if_neg hm] at hother
      exact RegStep.same.congr
        (RegView.ext rfl rfl rfl (Function.update_of_ne (Ne.symm hm) _ _) (update_role hother))
  · cases hstep

/-- A thread that has come to the end of one of the two functions goes on elsewhere. -/
theorem leave_step {pc : Pc} (hthreads : ∀ t, ThreadOk (s.pc t) (s.list.thread t)) (hpc : s.pc t = pc)
    (hcall : ∀ call n, pc ≠ .ofCall call n) (hwalk : pc ≠ .walking)
    (hrole : ∀ thread m, role pc thread m = .away) : Advances s (s.setPc t .idle) := by
  have hkeep := keep_thread hthreads hpc hcall hwalk
  refine advances_of_update .idle .idle rfl hkeep Pc.noConfusion ?_
  intro m
  have haway : (s.view m).role t = .away := by
    show role (s.pc t) _ m = .away
    rw [hpc]
    exact hrole _ m
  exact RegStep.same.congr (RegView.ext rfl rfl rfl rfl (update_role haway))

/-- An accepted step of the machine is a step of every registration. -/
theorem step_advances {a : Action} (hok : Accepted s a)
    (hthreads : ∀ t, ThreadOk (s.pc t) (s.list.thread t)) (hstep : step s a = some s') :
    Advances s s' := by
  cases a with
  | registerInterruptUser t n found => exact registerInterruptUser_step hthreads hstep
  | cancelInterruptUser t n found => exact cancelInterruptUser_step hthreads hstep
  | addInterruptUser t =>
      simp only [step, addInterruptUser] at hstep
      split at hstep
      · next n hpc =>
        obtain ⟨l, hl, rfl⟩ := Option.map_eq_some_iff.mp hstep
        exact changeInterruptUser_step hpc hok (fun _ => rfl) Call.noConfusion hl
      · cases hstep
  | removeInterruptUser t =>
      simp only [step, removeInterruptUser] at hstep
      split at hstep
      · next n hpc =>
        obtain ⟨l, hl, rfl⟩ := Option.map_eq_some_iff.mp hstep
        simp only [Accepted, hpc] at hok
        obtain ⟨hrefused, hcallers⟩ := hok
        have hdefunct : s.list.defunct = false := by
          apply eq_false_of_ne_true
          intro h
          exact hrefused (Or.inl h)
        exact changeInterruptUser_step hpc hdefunct
          (fun h => absurd (Or.inr (Or.inl h)) hrefused) (fun _ => hcallers) hl
      · cases hstep
  | wake t =>
      obtain ⟨l, hl, rfl⟩ := Option.map_eq_some_iff.mp hstep
      exact wake_step hthreads hl
  | relock t =>
      obtain ⟨l, hl, rfl⟩ := Option.map_eq_some_iff.mp hstep
      exact relock_step hthreads hl
  | finish t => exact finish_step hstep
  | interruptStart t => exact interruptStart_step hstep
  | interruptEnd t => exact interruptEnd_step hstep
  | leave t =>
      simp only [step] at hstep
      split at hstep
      · next status hpc =>
        cases hstep
        exact leave_step hthreads hpc (by rintro (_ | _) n <;> exact Pc.noConfusion)
          Pc.noConfusion fun _ _ => rfl
      · next n status hpc =>
        cases hstep
        exact leave_step hthreads hpc (by rintro (_ | _) n <;> exact Pc.noConfusion)
          Pc.noConfusion fun _ _ => rfl
      · cases hstep
  | shutdownPort =>
      cases hstep
      exact ⟨⟨0, fun _ _ => rfl, fun _ _ => rfl, hthreads 0⟩, fun m => .same⟩

end InterruptUsers
end Interfaces
end AsynDriver
