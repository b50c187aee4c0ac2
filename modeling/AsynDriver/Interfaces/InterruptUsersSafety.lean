import AsynDriver.Interfaces.InterruptUsersSteps

/-!
# What is freed for an interrupt user

`Phase` is the life of a registration in the runs whose steps are all `Accepted`.  Such runs are `Sound`
(`registrations_sound`); in a run in which a removal is refused, a node that is on the list has lost its
`drvPvt` (`refused_removal`).
-/

namespace AsynDriver
namespace Interfaces
namespace InterruptUsers

open Library
open Manager (AsynStatus ThreadId)
open Manager.InterruptList (NodeId Call InterruptNode)

variable {s s' : State} {t : ThreadId}

/-! ## The life of a registration -/

/-- No call waits for the node. -/
structure Rests (node : InterruptNode) : Prop where
  callers : node.callers = []
  queued : node.isOnAddRemoveList = false
  done : node.callbackDone = false

/-- The call of thread `t` waits, or has been woken up. -/
structure InCall (v : RegView) (t : ThreadId) (call : Call) : Prop where
  callers : v.node.callers = [t]
  role :
    (v.role t = .waiting call ∧ v.node.callbackDone = !v.node.isOnAddRemoveList) ∨
      (v.role t = .woken call ∧ v.node.callbackDone = false ∧ v.node.isOnAddRemoveList = false)

/-- A thread that neither changes the list now nor frees the registration when it goes on. -/
def Role.free : Role → Bool
  | .away => true
  | .entering .removeInterruptUser => true
  | .done .addInterruptUser => true
  | _ => false

/-- Freed once, with its node. -/
def Registration.gone : Registration := ⟨1, 1, 1, 1⟩

inductive Phase (v : RegView) : Prop
  | absent (hreg : v.reg = .none) (hlist : v.node.isOnList = false) (hrest : Rests v.node)
      (hroles : ∀ t, v.role t = .away)
  | entering (t : ThreadId) (hreg : v.reg = .created) (hlist : v.node.isOnList = false)
      (hrest : Rests v.node) (hrole : v.role t = .entering .addInterruptUser)
      (hothers : ∀ t', t' ≠ t → (v.role t').free = true)
  | inCall (t : ThreadId) (call : Call) (hreg : v.reg = .created)
      (hlist : v.node.isOnList ≠ call.result) (hcall : InCall v t call)
      (hothers : ∀ t', t' ≠ t → (v.role t').free = true)
  | onList (hreg : v.reg = .created) (hlist : v.node.isOnList = true) (hrest : Rests v.node)
      (hroles : ∀ t, (v.role t).free = true)
  | removed (t : ThreadId) (hreg : v.reg = .created) (hlist : v.node.isOnList = false)
      (hrest : Rests v.node) (hrole : v.role t = .done .removeInterruptUser)
      (hothers : ∀ t', t' ≠ t → (v.role t').free = true)
  | gone (hreg : v.reg = .gone) (hlist : v.node.isOnList = false) (hrest : Rests v.node)
      (hroles : ∀ t, (v.role t).free = true)

structure RegInv (v : RegView) : Prop where
  count : v.count = if v.node.isOnList then 1 else 0
  queued : v.queued = if v.node.isOnAddRemoveList then 1 else 0
  phase : Phase v

theorem regInv_start (n : NodeId) : RegInv (State.start.view n) :=
  ⟨rfl, rfl, .absent rfl rfl ⟨rfl, rfl, rfl⟩ fun _ => rfl⟩

variable {v v' : RegView} {call : Call}

theorem free_update {r : Role} (hothers : ∀ t', t' ≠ t → (v.role t').free = true)
    (hr : r.free = true) (t' : ThreadId) : (Function.update v.role t r t').free = true := by
  by_cases ht : t' = t
  · rw [ht, Function.update_self]
    exact hr
  · rw [Function.update_of_ne ht]
    exact hothers t' ht

theorem free_update_of_ne {r : Role} (hothers : ∀ t', t' ≠ t → (v.role t').free = true)
    (t' : ThreadId) (ht : t' ≠ t) : (Function.update v.role t r t').free = true := by
  rw [Function.update_of_ne ht]
  exact hothers t' ht

theorem InCall.not_free (hcall : InCall v t call) : (v.role t).free = false := by
  rcases hcall.role with ⟨hrole, -⟩ | ⟨hrole, -⟩
  · rw [hrole]
    rfl
  · rw [hrole]
    rfl

/-- The call that comes to the loop is the only one for the node. -/
structure Alone (v : RegView) (t : ThreadId) (call : Call) : Prop where
  reg : v.reg = .created
  onList : v.node.isOnList ≠ call.result
  queued : v.node.isOnAddRemoveList = false
  done : v.node.callbackDone = false
  callers : v.node.callers = [] ∨ v.node.callers = [t]
  others : ∀ t', t' ≠ t → (v.role t').free = true

theorem InCall.alone (hcall : InCall v t call) (hwoken : v.role t = .woken call)
    (hreg : v.reg = .created) (hlist : v.node.isOnList ≠ call.result)
    (hothers : ∀ t', t' ≠ t → (v.role t').free = true) : Alone v t call := by
  rcases hcall.role with ⟨hrole, -⟩ | ⟨-, hdone, hqueued⟩
  · rw [hwoken] at hrole
    cases hrole
  · exact ⟨hreg, hlist, hqueued, hdone, Or.inr hcall.callers, hothers⟩

/-- What a thread that is not free does. -/
inductive Busy (v : RegView) (t : ThreadId) : Prop
  | entering (hreg : v.reg = .created) (hlist : v.node.isOnList = false) (hrest : Rests v.node)
      (hrole : v.role t = .entering .addInterruptUser)
  | inCall (call : Call) (hreg : v.reg = .created) (hlist : v.node.isOnList ≠ call.result)
      (hcall : InCall v t call)
  | removed (hreg : v.reg = .created) (hlist : v.node.isOnList = false) (hrest : Rests v.node)
      (hrole : v.role t = .done .removeInterruptUser)

theorem eq_of_not_free {t₀ : ThreadId} (hothers : ∀ t', t' ≠ t₀ → (v.role t').free = true)
    (hbusy : (v.role t).free = false) : t = t₀ := by
  by_contra hne
  rw [hothers t hne] at hbusy
  cases hbusy

/-- The phase is about the thread that is not free. -/
theorem Phase.busy (hphase : Phase v) (hbusy : (v.role t).free = false) :
    Busy v t ∧ ∀ t', t' ≠ t → (v.role t').free = true := by
  cases hphase with
  | absent _ _ _ hroles =>
      rw [hroles t] at hbusy
      cases hbusy
  | entering t₀ hreg hlist hrest hrole hothers =>
      rw [eq_of_not_free hothers hbusy]
      exact ⟨.entering hreg hlist hrest hrole, hothers⟩
  | inCall t₀ call hreg hlist hcall hothers =>
      rw [eq_of_not_free hothers hbusy]
      exact ⟨.inCall call hreg hlist hcall, hothers⟩
  | onList _ _ _ hroles =>
      rw [hroles t] at hbusy
      cases hbusy
  | removed t₀ hreg hlist hrest hrole hothers =>
      rw [eq_of_not_free hothers hbusy]
      exact ⟨.removed hreg hlist hrest hrole, hothers⟩
  | gone _ _ _ hroles =>
      rw [hroles t] at hbusy
      cases hbusy

/-- Inside the interrupt list the role says whether the call waits. -/
theorem InCall.role_cases (hcall : InCall v t call) :
    v.role t = .waiting call ∨ v.role t = .woken call := by
  rcases hcall.role with ⟨h, -⟩ | ⟨h, -⟩
  · exact Or.inl h
  · exact Or.inr h

theorem InCall.ne_of_role {r : Role} (hcall : InCall v t call) (hrole : v.role t = r)
    (hwaiting : r ≠ .waiting call) (hwoken : r ≠ .woken call) : False := by
  rcases hcall.role_cases with h | h
  · exact hwaiting (hrole.symm.trans h)
  · exact hwoken (hrole.symm.trans h)

theorem AtLoop.alone (hphase : Phase v) (hloop : AtLoop v t call) : Alone v t call := by
  rcases hloop with ⟨hrole, hresult, hcallers⟩ | hwoken
  · cases call with
    | addInterruptUser =>
        obtain ⟨hbusy, hothers⟩ := hphase.busy (t := t) (by rw [hrole]; rfl)
        cases hbusy with
        | entering hreg hlist hrest _ =>
            exact ⟨hreg, hresult, hrest.queued, hrest.done, Or.inl hrest.callers, hothers⟩
        | inCall c _ _ hcall => exact (hcall.ne_of_role hrole Role.noConfusion Role.noConfusion).elim
        | removed _ _ _ hdone =>
            rw [hrole] at hdone
            cases hdone
    | removeInterruptUser =>
        have honList : v.node.isOnList = true := eq_true_of_ne_false hresult
        cases hphase with
        | absent _ hlist => exact absurd (honList.symm.trans hlist) (by decide)
        | entering _ _ hlist => exact absurd (honList.symm.trans hlist) (by decide)
        | inCall t₀ c _ _ hcall =>
            have hnone := hcallers rfl
            rw [hcall.callers] at hnone
            cases hnone
        | onList hreg hlist hrest hroles =>
            exact ⟨hreg, hresult, hrest.queued, hrest.done, Or.inl hrest.callers,
              fun t' _ => hroles t'⟩
        | removed _ _ hlist => exact absurd (honList.symm.trans hlist) (by decide)
        | gone _ hlist => exact absurd (honList.symm.trans hlist) (by decide)
  · obtain ⟨hbusy, hothers⟩ := hphase.busy (t := t) (by rw [hwoken]; rfl)
    cases hbusy with
    | entering _ _ _ hrole =>
        rw [hwoken] at hrole
        cases hrole
    | inCall c hreg hlist hcall =>
        have hsame : call = c := by
          rcases hcall.role_cases with h | h
          · rw [hwoken] at h
            cases h
          · rw [hwoken] at h
            exact Role.woken.inj h
        subst hsame
        exact hcall.alone hwoken hreg hlist hothers
    | removed _ _ _ hrole =>
        rw [hwoken] at hrole
        cases hrole

/-- The call waits for the end of the traversal. -/
theorem inv_queued (hinv : RegInv v) (halone : Alone v t call) :
    RegInv { v with
      node := { v.node with isOnAddRemoveList := true, callers := v.node.callers.insert t }
      queued := v.queued + 1
      role := Function.update v.role t (.waiting call) } := by
  have hqueued : v.queued = 0 := by
    rw [hinv.queued, halone.queued]
    rfl
  have hcallers : v.node.callers.insert t = [t] := by
    rcases halone.callers with hnone | hself
    · rw [hnone]
      rfl
    · rw [hself]
      simp
  have hcall : InCall { v with
      node := { v.node with isOnAddRemoveList := true, callers := v.node.callers.insert t }
      queued := v.queued + 1
      role := Function.update v.role t (.waiting call) } t call :=
    ⟨hcallers, Or.inl ⟨Function.update_self .., halone.done⟩⟩
  refine ⟨hinv.count, ?_, ?_⟩
  · show v.queued + 1 = 1
    rw [hqueued]
  · exact .inCall t call halone.reg halone.onList hcall (free_update_of_ne halone.others)

/-- The node is put on the list, or taken from it. -/
theorem inv_changed (hinv : RegInv v) (halone : Alone v t call) :
    RegInv { v with
      node := { v.node with isOnList := call.result, callers := v.node.callers.erase t }
      count := call.count v.count
      role := Function.update v.role t (.done call) } := by
  have hcallers : v.node.callers.erase t = [] := by
    rcases halone.callers with hnone | hself
    · rw [hnone]
      rfl
    · rw [hself]
      simp
  have hrest : Rests { v.node with isOnList := call.result, callers := v.node.callers.erase t } :=
    ⟨hcallers, halone.queued, halone.done⟩
  refine ⟨call.count_eq hinv.count halone.onList, hinv.queued, ?_⟩
  cases call with
  | addInterruptUser => exact .onList halone.reg rfl hrest (free_update halone.others rfl)
  | removeInterruptUser =>
      exact .removed t halone.reg rfl hrest (Function.update_self ..) (free_update_of_ne halone.others)

/-- A thread that is free takes a role in which it is free. -/
theorem inv_free {r : Role} (hinv : RegInv v) (hreg : v.reg ≠ .none) (hrole : (v.role t).free = true)
    (hr : r.free = true) : RegInv { v with role := Function.update v.role t r } := by
  have hstay : ∀ {t₀ : ThreadId}, (v.role t₀).free = false →
      Function.update v.role t r t₀ = v.role t₀ := by
    intro t₀ hbusy
    apply Function.update_of_ne
    rintro rfl
    rw [hrole] at hbusy
    cases hbusy
  have hall : ∀ {t₀ : ThreadId}, (∀ t', t' ≠ t₀ → (v.role t').free = true) →
      ∀ t', t' ≠ t₀ → (Function.update v.role t r t').free = true := by
    intro t₀ hothers t' ht'
    by_cases ht : t' = t
    · rw [ht, Function.update_self]
      exact hr
    · rw [Function.update_of_ne ht]
      exact hothers t' ht'
  have hcalls : ∀ {t₀ : ThreadId} {call : Call}, InCall v t₀ call →
      InCall { v with role := Function.update v.role t r } t₀ call := by
    intro t₀ call hcall
    have hkeep := hstay hcall.not_free
    refine ⟨hcall.callers, ?_⟩
    show (Function.update v.role t r t₀ = _ ∧ _) ∨ (Function.update v.role t r t₀ = _ ∧ _)
    rw [hkeep]
    exact hcall.role
  refine ⟨hinv.count, hinv.queued, ?_⟩
  cases hinv.phase with
  | absent habsent hlist hrest hroles => exact absurd habsent hreg
  | entering t₀ hcreated hlist hrest hentering hothers =>
      refine .entering t₀ hcreated hlist hrest ?_ (hall hothers)
      show Function.update v.role t r t₀ = _
      rw [hstay (by rw [hentering]; rfl), hentering]
  | inCall t₀ call hcreated hlist hcall hothers =>
      exact .inCall t₀ call hcreated hlist (hcalls hcall) (hall hothers)
  | onList hcreated hlist hrest hroles =>
      exact .onList hcreated hlist hrest (free_update (fun t' _ => hroles t') hr)
  | removed t₀ hcreated hlist hrest hdone hothers =>
      refine .removed t₀ hcreated hlist hrest ?_ (hall hothers)
      show Function.update v.role t r t₀ = _
      rw [hstay (by rw [hdone]; rfl), hdone]
  | gone hgone hlist hrest hroles =>
      exact .gone hgone hlist hrest (free_update (fun t' _ => hroles t') hr)

theorem inv_created (hinv : RegInv v) (hreg : v.reg.memMalloc = 0) :
    RegInv { v with
      reg := .created
      role := Function.update v.role t (.entering .addInterruptUser) } := by
  refine ⟨hinv.count, hinv.queued, ?_⟩
  have hnone : v.reg ≠ .created := by
    intro h
    rw [h] at hreg
    cases hreg
  cases hinv.phase with
  | absent _ hlist hrest hroles =>
      refine .entering t rfl hlist hrest (Function.update_self ..) (free_update_of_ne ?_)
      intro t' _
      rw [hroles t']
      rfl
  | entering _ hcreated => exact absurd hcreated hnone
  | inCall _ _ hcreated => exact absurd hcreated hnone
  | onList hcreated => exact absurd hcreated hnone
  | removed _ hcreated => exact absurd hcreated hnone
  | gone hgone =>
      rw [hgone] at hreg
      cases hreg

/-- The registration is freed. -/
theorem inv_freed (hinv : RegInv v) (hrole : v.role t = .done .removeInterruptUser) :
    RegInv { v with
      reg := v.reg.free .asynSuccess v.node.isOnList
      role := Function.update v.role t .away } := by
  refine ⟨hinv.count, hinv.queued, ?_⟩
  obtain ⟨hbusy, hothers⟩ := hinv.phase.busy (t := t) (by rw [hrole]; rfl)
  cases hbusy with
  | entering _ _ _ hentering =>
      rw [hrole] at hentering
      cases hentering
  | inCall c _ _ hcall => exact (hcall.ne_of_role hrole Role.noConfusion Role.noConfusion).elim
  | removed hreg hlist hrest _ =>
      refine .gone ?_ hlist hrest (free_update hothers rfl)
      show v.reg.free .asynSuccess v.node.isOnList = .gone
      rw [hreg, hlist]
      rfl

theorem inv_woken (hinv : RegInv v) (hrole : v.role t = .waiting call)
    (hdone : v.node.callbackDone = true) :
    RegInv { v with
      node := { v.node with callbackDone := false }
      role := Function.update v.role t (.woken call) } := by
  refine ⟨hinv.count, hinv.queued, ?_⟩
  obtain ⟨hbusy, hothers⟩ := hinv.phase.busy (t := t) (by rw [hrole]; rfl)
  cases hbusy with
  | entering _ _ _ hentering =>
      rw [hrole] at hentering
      cases hentering
  | inCall c hreg hlist hcall =>
      rcases hcall.role with ⟨hwaiting, hflag⟩ | ⟨hwoken, -⟩
      · rw [hrole] at hwaiting
        cases hwaiting
        have hqueued : v.node.isOnAddRemoveList = false := by simpa [hdone] using hflag
        exact .inCall t call hreg hlist
          ⟨hcall.callers, Or.inr ⟨Function.update_self .., rfl, hqueued⟩⟩ (free_update_of_ne hothers)
      · rw [hrole] at hwoken
        cases hwoken
  | removed _ _ _ hremoved =>
      rw [hrole] at hremoved
      cases hremoved

/-- No thread has been refused. -/
theorem not_refused (hinv : RegInv v) (hrole : v.role t = .refused call) : False := by
  obtain ⟨hbusy, -⟩ := hinv.phase.busy (t := t) (by rw [hrole]; rfl)
  cases hbusy with
  | entering _ _ _ hentering =>
      rw [hrole] at hentering
      cases hentering
  | inCall c _ _ hcall => exact hcall.ne_of_role hrole Role.noConfusion Role.noConfusion
  | removed _ _ _ hremoved =>
      rw [hrole] at hremoved
      cases hremoved

/-- A thread that is about to add the node finds it off the list. -/
theorem not_already (hinv : RegInv v) (hrole : v.role t = .entering .addInterruptUser)
    (honList : v.node.isOnList = true) : False := by
  obtain ⟨hbusy, -⟩ := hinv.phase.busy (t := t) (by rw [hrole]; rfl)
  cases hbusy with
  | entering _ hlist => exact absurd (honList.symm.trans hlist) (by decide)
  | inCall c _ _ hcall => exact hcall.ne_of_role hrole Role.noConfusion Role.noConfusion
  | removed _ _ _ hremoved =>
      rw [hrole] at hremoved
      cases hremoved

/-- The end of a traversal. -/
theorem inv_signalled (hinv : RegInv v) :
    RegInv { v with
      node :=
        if v.queued = 0 then v.node
        else { v.node with isOnAddRemoveList := false, callbackDone := true }
      queued := 0 } := by
  cases hqueued : v.node.isOnAddRemoveList with
  | false =>
      have hzero : v.queued = 0 := by
        rw [hinv.queued, hqueued]
        rfl
      have hsame : { v with
          node :=
            if v.queued = 0 then v.node
            else { v.node with isOnAddRemoveList := false, callbackDone := true }
          queued := 0 } = v := by
        rw [if_pos hzero, ← hzero]
      rw [hsame]
      exact hinv
  | true =>
      have hone : v.queued = 1 := by
        rw [hinv.queued, hqueued]
        rfl
      rw [hone, if_neg Nat.one_ne_zero]
      have hrests : Rests v.node → False := by
        intro hrest
        exact absurd (hrest.queued.symm.trans hqueued) (by decide)
      refine ⟨hinv.count, rfl, ?_⟩
      cases hinv.phase with
      | absent _ _ hrest => exact (hrests hrest).elim
      | entering _ _ _ hrest => exact (hrests hrest).elim
      | inCall t call hreg hlist hcall hothers =>
          refine .inCall t call hreg hlist ⟨hcall.callers, ?_⟩ hothers
          rcases hcall.role with ⟨hwaiting, -⟩ | ⟨-, -, hfalse⟩
          · exact Or.inl ⟨hwaiting, rfl⟩
          · exact absurd (hfalse.symm.trans hqueued) (by decide)
      | onList _ _ hrest => exact (hrests hrest).elim
      | removed _ _ _ hrest => exact (hrests hrest).elim
      | gone _ _ hrest => exact (hrests hrest).elim

theorem inv_step (hstep : RegStep v v') (hinv : RegInv v) : RegInv v' := by
  cases hstep with
  | same => exact hinv
  | created t hreg => exact inv_created hinv hreg
  | cancels t hreg hrole =>
      refine inv_free hinv ?_ (by rw [hrole]; rfl) rfl
      intro hnone
      rw [hnone] at hreg
      exact hreg rfl
  | already t hrole honList => exact (not_already hinv hrole honList).elim
  | refused t call hloop hqueued =>
      exact absurd ((hloop.alone hinv.phase).queued.symm.trans hqueued) (by decide)
  | queued t call hloop _ => exact inv_queued hinv (hloop.alone hinv.phase)
  | changed t call hloop => exact inv_changed hinv (hloop.alone hinv.phase)
  | woken t call hrole hdone => exact inv_woken hinv hrole hdone
  | signalled => exact inv_signalled hinv
  | returned t hrole =>
      refine inv_free hinv ?_ (by rw [hrole]; rfl) rfl
      intro hnone
      cases hinv.phase with
      | absent _ _ _ hroles =>
          rw [hroles t] at hrole
          cases hrole
      | entering _ hreg => exact absurd (hnone.symm.trans hreg) (by decide)
      | inCall _ _ hreg => exact absurd (hnone.symm.trans hreg) (by decide)
      | onList hreg => exact absurd (hnone.symm.trans hreg) (by decide)
      | removed _ hreg => exact absurd (hnone.symm.trans hreg) (by decide)
      | gone hreg => exact absurd (hnone.symm.trans hreg) (by decide)
  | freed t hrole => exact inv_freed hinv hrole
  | failed t call hrole => exact (not_refused hinv hrole).elim

/-! ## Runs -/

structure Inv (s : State) : Prop where
  threads : ∀ t, ThreadOk (s.pc t) (s.list.thread t)
  reg : ∀ n, RegInv (s.view n)

theorem inv_of_reachable (hreach : machine.Reachable Accepted s) : Inv s := by
  refine hreach.invariant ?_ ?_
  · rintro s rfl
    exact ⟨fun _ => Pc.noConfusion, regInv_start⟩
  · intro s a s' hok hinv hstep
    obtain ⟨⟨t, hmoves⟩, hregs⟩ := step_advances hok hinv.threads hstep
    exact ⟨hmoves.threads hinv.threads, fun n => inv_step (hregs n) (hinv.reg n)⟩

/-- A thread that has something to do with a node is in one of the two functions. -/
theorem pc_of_role {n : NodeId} (hrole : (s.view n).role t ≠ .away) :
    s.pc t = .registering n ∨ s.pc t = .cancelling n := by
  change role (s.pc t) (s.list.thread t) n ≠ .away at hrole
  cases hpc : s.pc t with
  | registering m =>
      by_cases hm : m = n
      · rw [hm]
        exact Or.inl rfl
      · simp [role, hpc, hm] at hrole
  | cancelling m =>
      by_cases hm : m = n
      · rw [hm]
        exact Or.inr rfl
      · simp [role, hpc, hm] at hrole
  | idle => simp [role, hpc] at hrole
  | walking => simp [role, hpc] at hrole
  | registered status => simp [role, hpc] at hrole
  | cancelled m status => simp [role, hpc] at hrole

theorem pc_of_not_free {n : NodeId} (hbusy : ((s.view n).role t).free = false) :
    s.pc t = .registering n ∨ s.pc t = .cancelling n := by
  apply pc_of_role
  intro haway
  rw [haway] at hbusy
  cases hbusy

theorem Inv.sound (hinv : Inv s) : Sound s := by
  have hreg : ∀ n, (s.view n).reg = s.reg n := fun _ => rfl
  refine ⟨?_, ?_, ?_⟩
  · intro n hn
    have hpos : (s.view n).count ≠ 0 := Nat.pos_iff_ne_zero.1 (List.count_pos_iff.2 hn)
    have honList : (s.view n).node.isOnList = true := by
      by_contra hoff
      rw [(hinv.reg n).count, if_neg hoff] at hpos
      exact hpos rfl
    have hcreated : (s.view n).reg = .created := by
      cases (hinv.reg n).phase with
      | absent _ hlist => exact absurd (honList.symm.trans hlist) (by decide)
      | entering _ hreg => exact hreg
      | inCall _ _ hreg => exact hreg
      | onList hreg => exact hreg
      | removed _ hreg => exact hreg
      | gone _ hlist => exact absurd (honList.symm.trans hlist) (by decide)
    rw [← hreg, hcreated]
    exact ⟨rfl, rfl, rfl⟩
  · intro n
    rw [← hreg]
    cases (hinv.reg n).phase with
    | absent hreg => rw [hreg]; decide
    | entering _ hreg => rw [hreg]; decide
    | inCall _ _ hreg => rw [hreg]; decide
    | onList hreg => rw [hreg]; decide
    | removed _ hreg => rw [hreg]; decide
    | gone hreg => rw [hreg]; decide
  · intro n hmalloc hfree
    rw [← hreg] at hmalloc hfree
    cases (hinv.reg n).phase with
    | absent hreg =>
        rw [hreg] at hmalloc
        exact absurd rfl hmalloc
    | entering t _ _ _ hrole => exact Or.inr ⟨t, pc_of_not_free (by rw [hrole]; rfl)⟩
    | inCall t _ _ _ hcall => exact Or.inr ⟨t, pc_of_not_free hcall.not_free⟩
    | onList _ hlist =>
        left
        have hcount : (s.view n).count = 1 := by rw [(hinv.reg n).count, if_pos hlist]
        exact List.count_pos_iff.1 (by rw [show s.list.callbackList.count n = 1 from hcount]; decide)
    | removed t _ _ _ hrole => exact Or.inr ⟨t, pc_of_not_free (by rw [hrole]; rfl)⟩
    | gone hreg =>
        rw [hreg] at hfree
        cases hfree

/-- A call that fails before it comes to the interrupt list changes nothing, and no other call fails. -/
theorem Inv.cancel_fails {a : Action} {n : NodeId} (hinv : Inv s) (hok : Accepted s a)
    (hstep : step s a = some s') (hfails : CancelFails s s' n) : s'.reg = s.reg ∧ s'.list = s.list := by
  obtain ⟨t, status, hbefore, hafter, herror⟩ := hfails
  have hkeep : ∀ {pc : ThreadId → Pc}, s'.pc = pc → pc t = s.pc t → False := by
    intro pc hpc hsame
    rw [hpc, hsame] at hafter
    exact hbefore hafter
  have hmove : ∀ {t' : ThreadId} {pc : Pc}, s'.pc = Function.update s.pc t' pc →
      t = t' ∧ pc = .cancelled n status := by
    intro t' pc hpc
    by_cases ht : t = t'
    · rw [hpc, ht, Function.update_self] at hafter
      exact ⟨ht, hafter⟩
    · exact (hkeep hpc (Function.update_of_ne ht _ _)).elim
  cases a with
  | registerInterruptUser t' m found =>
      simp only [step, registerInterruptUser] at hstep
      split at hstep
      · split at hstep
        · cases hstep
          exact Pc.noConfusion (hmove rfl).2
        · cases hstep
          exact Pc.noConfusion (hmove rfl).2
      · cases hstep
  | cancelInterruptUser t' m found =>
      simp only [step, cancelInterruptUser] at hstep
      split at hstep
      · split at hstep
        · cases hstep
          exact Pc.noConfusion (hmove rfl).2
        · cases hstep
          exact ⟨rfl, rfl⟩
      · cases hstep
  | addInterruptUser t' =>
      simp only [step, addInterruptUser] at hstep
      split at hstep
      · obtain ⟨l, -, rfl⟩ := Option.map_eq_some_iff.mp hstep
        exact (hkeep rfl rfl).elim
      · cases hstep
  | removeInterruptUser t' =>
      simp only [step, removeInterruptUser] at hstep
      split at hstep
      · obtain ⟨l, -, rfl⟩ := Option.map_eq_some_iff.mp hstep
        exact (hkeep rfl rfl).elim
      · cases hstep
  | wake t' =>
      obtain ⟨l, -, rfl⟩ := Option.map_eq_some_iff.mp hstep
      exact (hkeep rfl rfl).elim
  | relock t' =>
      obtain ⟨l, -, rfl⟩ := Option.map_eq_some_iff.mp hstep
      exact (hkeep rfl rfl).elim
  | finish t' =>
      simp only [step, finish] at hstep
      split at hstep
      · cases hstep
        exact Pc.noConfusion (hmove rfl).2
      · next m status' hpc hthread =>
        cases hstep
        obtain ⟨rfl, hsame⟩ := hmove rfl
        cases hsame
        have hrole := role_returned .removeInterruptUser hpc hthread n
        rw [if_pos rfl, if_neg herror] at hrole
        exact (not_refused (hinv.reg n) hrole).elim
      · cases hstep
  | interruptStart t' =>
      simp only [step, interruptStart] at hstep
      split at hstep
      · obtain ⟨l, -, rfl⟩ := Option.map_eq_some_iff.mp hstep
        exact Pc.noConfusion (hmove rfl).2
      · cases hstep
  | interruptEnd t' =>
      simp only [step, interruptEnd] at hstep
      split at hstep
      · obtain ⟨l, -, rfl⟩ := Option.map_eq_some_iff.mp hstep
        exact Pc.noConfusion (hmove rfl).2
      · cases hstep
  | leave t' =>
      simp only [step] at hstep
      split at hstep
      · cases hstep
        exact Pc.noConfusion (hmove rfl).2
      · cases hstep
        exact Pc.noConfusion (hmove rfl).2
      · cases hstep
  | shutdownPort =>
      cases hstep
      exact (hkeep rfl rfl).elim

/-- In every run whose steps are accepted, what is on the list is alive, nothing is freed twice or lost,
and a cancellation that fails leaves everything as it is. -/
theorem registrations_sound (hreach : machine.Reachable Accepted s) :
    Sound s ∧ ∀ a n s', Accepted s a → step s a = some s' → CancelFails s s' n →
      s'.reg = s.reg ∧ s'.list = s.list := by
  have hinv := inv_of_reachable hreach
  refine ⟨hinv.sound, ?_⟩
  intro a n s' hok hstep hfails
  exact hinv.cancel_fails hok hstep hfails

/-- A registration that is cancelled during a traversal and freed at its end. -/
def cancelDuringTraversal : List Action :=
  [.registerInterruptUser 0 0 true, .addInterruptUser 0, .finish 0, .leave 0, .interruptStart 1,
    .cancelInterruptUser 0 0 true, .removeInterruptUser 0, .interruptEnd 1, .wake 0, .relock 0, .finish 0]

theorem cancelDuringTraversal_sound :
    ∃ s, Sound s ∧ s.list.callbackList = [] ∧ s.reg 0 = .gone := by
  have hcheck : ∀ s a, decide (Accepted s a) = true → Accepted s a := fun _ _ => of_decide_eq_true
  obtain ⟨s, hreach, hvalue⟩ := Machine.exists_reachable_of_execGuarded (M := machine)
    (fun s => (s.list.callbackList, s.reg 0)) hcheck cancelDuringTraversal (s := .start)
    (b := ([], .gone)) rfl (by decide)
  rw [Prod.mk.injEq] at hvalue
  exact ⟨s, (registrations_sound hreach).1, hvalue⟩

/-- The port is shut down, the cancellation fails, and the node that stays on the list has lost its
`drvPvt` and its `asynUser`. -/
theorem refused_removal : ¬ ∀ s, machine.Reachable Machine.Unguarded s → Sound s := by
  intro hsound
  obtain ⟨s, hreach, hvalue⟩ := Machine.exists_reachable_of_exec (M := machine)
    (fun s => (s.list.callbackList, s.reg 0, s.pc 0))
    [.registerInterruptUser 0 0 true, .addInterruptUser 0, .finish 0, .leave 0, .shutdownPort,
      .cancelInterruptUser 0 0 true, .removeInterruptUser 0, .finish 0]
    (s := .start) (b := ([0], ⟨1, 1, 1, 0⟩, .cancelled 0 .asynDisabled)) rfl (by decide)
  rw [Prod.mk.injEq, Prod.mk.injEq] at hvalue
  have hlive := (hsound s hreach).live 0 (by rw [hvalue.1]; exact List.mem_singleton_self 0)
  have hfreed : (s.reg 0).memFree = 1 := by rw [hvalue.2.1]
  rw [hlive.memFree] at hfreed
  cases hfreed

end InterruptUsers
end Interfaces
end AsynDriver
