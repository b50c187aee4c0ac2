import Mathlib.Data.List.Nodup
import AsynDriver.Library.Traversal
import AsynDriver.Manager.InterruptList

/-!
# The interrupt list under traversal

* `NodeView`, `NodeStep` — one node of the `interruptBase`, and what a step can do to it; `step_view`.
* `NodeInv` — where a node can be in orderly runs.
* `traversal` — the machine as walks along a list.
* `listSafe_of_reachable` — orderly runs are `ListSafe`; `overlap_not_listSafe` has runs that are not.
-/

namespace AsynDriver
namespace Manager
namespace InterruptList

open Library

/-! ## One node -/

/-- Where a thread stands with a node. -/
inductive Stage
  | away
  | waiting (call : Call)
  | woken (call : Call)
  deriving DecidableEq, Repr

def Pc.stage (pc : Pc) (n : NodeId) : Stage :=
  match pc with
  | .waiting call n' => if n' = n then .waiting call else .away
  | .woken call n' => if n' = n then .woken call else .away
  | _ => .away

@[ext]
structure NodeView where
  node : InterruptNode
  count : Nat
  queued : Nat
  active : Bool
  modified : Bool
  stage : ThreadId → Stage

def State.view (s : State) (n : NodeId) : NodeView where
  node := s.node n
  count := s.callbackList.count n
  queued := s.addRemoveList.count n
  active := s.callbackActive
  modified := s.listModified
  stage := fun t => (s.thread t).stage n

/-- The call comes to the test of the loop, for the first time or after a wait. -/
def AtLoop (ok : Prop) (v : NodeView) (t : ThreadId) (call : Call) : Prop :=
  (v.stage t = .away ∧ v.node.isOnList ≠ call.result ∧
    (ok → (v.active = true ∧ v.node.isOnAddRemoveList = true) ∨ v.node.callers = [])) ∨
  v.stage t = .woken call

/-- How often the node is on `callbackList` after `Call.change`. -/
def Call.count : Call → Nat → Nat
  | .addInterruptUser, k => k + 1
  | .removeInterruptUser, k => k - 1

/-- What a step does to one node; `ok` says that the step is orderly. -/
inductive NodeStep (ok : Prop) (v : NodeView) : NodeView → Prop
  | same : NodeStep ok v v
  | refused (t : ThreadId) (call : Call) (hloop : AtLoop ok v t call) (hactive : v.active = true)
      (hqueued : v.node.isOnAddRemoveList = true) :
      NodeStep ok v
        { v with
          node := { v.node with callers := v.node.callers.erase t }
          stage := Function.update v.stage t .away }
  | queued (t : ThreadId) (call : Call) (hloop : AtLoop ok v t call) (hactive : v.active = true)
      (hqueued : v.node.isOnAddRemoveList = false) :
      NodeStep ok v
        { v with
          node := { v.node with isOnAddRemoveList := true, callers := v.node.callers.insert t }
          queued := v.queued + 1
          modified := true
          stage := Function.update v.stage t (.waiting call) }
  | changed (t : ThreadId) (call : Call) (hloop : AtLoop ok v t call) (hactive : v.active = false) :
      NodeStep ok v
        { v with
          node := { v.node with isOnList := call.result, callers := v.node.callers.erase t }
          count := call.count v.count
          stage := Function.update v.stage t .away }
  | others (hactive : v.active = true) : NodeStep ok v { v with modified := true }
  | woken (t : ThreadId) (call : Call) (hstage : v.stage t = .waiting call)
      (hdone : v.node.callbackDone = true) :
      NodeStep ok v
        { v with
          node := { v.node with callbackDone := false }
          stage := Function.update v.stage t (.woken call) }
  | started (hok : ok → v.active = false) :
      NodeStep ok v { v with active := true, modified := false }
  | ended (hmodified : v.modified = false) : NodeStep ok v { v with active := false }
  | signalled :
      NodeStep ok v
        { v with
          node :=
            if v.queued = 0 then v.node
            else { v.node with isOnAddRemoveList := false, callbackDone := true }
          queued := 0
          active := false }

theorem nodeStep_of_eq {ok : Prop} {v v' : NodeView} (heq : v' = v) : NodeStep ok v v' := by
  rw [heq]
  exact .same

/-! ## Frame lemmas -/

theorem view_setThread (s : State) (t : ThreadId) (pc : Pc) (n : NodeId) :
    (s.setThread t pc).view n =
      { s.view n with stage := Function.update (s.view n).stage t (pc.stage n) } := by
  ext t'
  all_goals try rfl
  by_cases ht : t' = t
  · subst ht
    simp [State.view, State.setThread]
  · simp [State.view, State.setThread, Function.update_of_ne ht]

theorem view_modNode_self (s : State) (n : NodeId) (f : InterruptNode → InterruptNode) :
    (s.modNode n f).view n = { s.view n with node := f (s.node n) } := by
  simp [State.view, State.modNode]

theorem view_modNode_of_ne (s : State) {n m : NodeId} (f : InterruptNode → InterruptNode)
    (hne : m ≠ n) : (s.modNode n f).view m = s.view m := by
  simp [State.view, State.modNode, Function.update_of_ne hne]

/-- A move of a thread between two places that are both away from the node. -/
theorem view_setThread_away {s : State} {t : ThreadId} {pc : Pc} {n : NodeId}
    (hbefore : (s.thread t).stage n = .away) (hafter : pc.stage n = .away) :
    (s.setThread t pc).view n = s.view n := by
  rw [view_setThread, hafter]
  have hstage : Function.update (s.view n).stage t .away = (s.view n).stage :=
    Function.update_eq_self_iff.mpr hbefore.symm
  rw [hstage]

theorem stage_waiting_self (call : Call) (n : NodeId) :
    (Pc.waiting call n).stage n = .waiting call := if_pos rfl

theorem stage_woken_self (call : Call) (n : NodeId) : (Pc.woken call n).stage n = .woken call :=
  if_pos rfl

theorem stage_waiting_of_ne (call : Call) {n m : NodeId} (hne : m ≠ n) :
    (Pc.waiting call n).stage m = .away := if_neg (Ne.symm hne)

theorem stage_woken_of_ne (call : Call) {n m : NodeId} (hne : m ≠ n) :
    (Pc.woken call n).stage m = .away := if_neg (Ne.symm hne)

theorem count_change_self (call : Call) (l : List NodeId) (n : NodeId) :
    (call.change l n).count n = call.count (l.count n) := by
  cases call with
  | addInterruptUser => simp [Call.change, Call.count]
  | removeInterruptUser => simp [Call.change, Call.count]

theorem count_change_of_ne (call : Call) (l : List NodeId) {n m : NodeId} (hne : m ≠ n) :
    (call.change l n).count m = l.count m := by
  cases call with
  | addInterruptUser => simp [Call.change, Ne.symm hne]
  | removeInterruptUser =>
      show (l.erase n).count m = l.count m
      exact List.count_erase_of_ne hne

theorem signalAll_eq (l : List NodeId) (node : NodeId → InterruptNode) (n : NodeId) :
    signalAll node l n =
      if l.count n = 0 then node n
      else { node n with isOnAddRemoveList := false, callbackDone := true } := by
  induction l generalizing node with
  | nil => rfl
  | cons m rest ih =>
      rw [signalAll, ih]
      by_cases hm : m = n
      · subst hm
        simp
      · simp [hm, Function.update_of_ne (Ne.symm hm)]

/-! ## Every step -/

/-- One round of the loop; `hother` says that the thread is away from every other node. -/
theorem loopHead_view {ok : Prop} {s : State} {t : ThreadId} {call : Call} {n : NodeId}
    (hloop : AtLoop ok (s.view n) t call)
    (hother : ∀ m, m ≠ n → (s.thread t).stage m = .away) (m : NodeId) :
    NodeStep ok (s.view m) ((loopHead s t call n).view m) := by
  unfold loopHead
  split
  · next hactive =>
    split
    · next hqueued =>
      by_cases hm : m = n
      · subst hm
        rw [view_modNode_self, view_setThread]
        exact .refused t call hloop hactive hqueued
      · rw [view_modNode_of_ne _ _ hm]
        exact nodeStep_of_eq (view_setThread_away (hother m hm) rfl)
    · next hqueued =>
      by_cases hm : m = n
      · subst hm
        rw [view_modNode_self, view_setThread, stage_waiting_self]
        have hview : { s with
              addRemoveList := s.addRemoveList ++ [m], listModified := true }.view m =
            { s.view m with queued := (s.view m).queued + 1, modified := true } := by
          simp [State.view]
        rw [hview]
        exact .queued t call hloop hactive (eq_false_of_ne_true hqueued)
      · rw [view_modNode_of_ne _ _ hm, view_setThread_away]
        · have hview : { s with
                addRemoveList := s.addRemoveList ++ [n], listModified := true }.view m =
              { s.view m with modified := true } := by
            simp [State.view, Ne.symm hm]
          rw [hview]
          exact .others hactive
        · exact hother m hm
        · exact stage_waiting_of_ne call hm
  · next hactive =>
    by_cases hm : m = n
    · subst hm
      rw [view_modNode_self, view_setThread]
      have hview : { s with callbackList := call.change s.callbackList m }.view m =
          { s.view m with count := call.count (s.view m).count } := by
        simp [State.view, count_change_self]
      rw [hview]
      exact .changed t call hloop (eq_false_of_ne_true hactive)
    · rw [view_modNode_of_ne _ _ hm, view_setThread_away]
      · apply nodeStep_of_eq
        simp [State.view, count_change_of_ne call s.callbackList hm]
      · exact hother m hm
      · rfl

theorem stage_idle {s : State} {t : ThreadId} (hidle : s.thread t = .idle) (n : NodeId) :
    (s.thread t).stage n = .away := by
  rw [hidle]
  rfl

theorem changeInterruptUser_view {ok : Prop} {s s' : State} {t : ThreadId} {call : Call} {n : NodeId}
    (hok : ok → Refused s call n ∨ (s.node n).callers = [])
    (hstep : changeInterruptUser s t call n = some s') (m : NodeId) :
    NodeStep ok (s.view m) (s'.view m) := by
  unfold changeInterruptUser at hstep
  split at hstep
  · next hidle =>
    have haway := stage_idle hidle
    split at hstep
    · cases hstep
      exact nodeStep_of_eq (view_setThread_away (haway m) rfl)
    · next hdefunct =>
      split at hstep
      · cases hstep
        exact nodeStep_of_eq (view_setThread_away (haway m) rfl)
      · next hresult =>
        cases hstep
        refine loopHead_view (Or.inl ⟨haway n, hresult, ?_⟩) (fun m _ => haway m) m
        intro h
        rcases hok h with (htrue | heq | hboth) | hnone
        · exact absurd htrue hdefunct
        · exact absurd heq hresult
        · exact Or.inl hboth
        · exact Or.inr hnone
  · cases hstep

theorem wake_view {ok : Prop} {s s' : State} {t : ThreadId} (hstep : wake s t = some s') (m : NodeId) :
    NodeStep ok (s.view m) (s'.view m) := by
  unfold wake at hstep
  split at hstep
  · next call n hpc =>
    split at hstep
    · next hdone =>
      cases hstep
      by_cases hm : m = n
      · subst hm
        rw [view_modNode_self, view_setThread, stage_woken_self]
        refine .woken t call ?_ hdone
        show (s.thread t).stage m = .waiting call
        rw [hpc, stage_waiting_self]
      · rw [view_modNode_of_ne _ _ hm]
        refine nodeStep_of_eq (view_setThread_away ?_ (stage_woken_of_ne call hm))
        rw [hpc, stage_waiting_of_ne call hm]
    · cases hstep
  · cases hstep

theorem relock_view {ok : Prop} {s s' : State} {t : ThreadId} (hstep : relock s t = some s')
    (m : NodeId) : NodeStep ok (s.view m) (s'.view m) := by
  unfold relock at hstep
  split at hstep
  · next call n hpc =>
    cases hstep
    refine loopHead_view (Or.inr ?_) ?_ m
    · show (s.thread t).stage n = .woken call
      rw [hpc, stage_woken_self]
    · intro m hm
      rw [hpc, stage_woken_of_ne call hm]
  · cases hstep

theorem interruptStart_view {ok : Prop} {s s' : State} {t : ThreadId}
    (hok : ok → s.callbackActive = false) (hstep : interruptStart s t = some s') (m : NodeId) :
    NodeStep ok (s.view m) (s'.view m) := by
  unfold interruptStart at hstep
  split at hstep
  · next hidle =>
    cases hstep
    rw [view_setThread_away]
    · exact .started hok
    · exact stage_idle hidle m
    · rfl
  · cases hstep

theorem interruptEnd_view {ok : Prop} {s s' : State} {t : ThreadId}
    (hstep : interruptEnd s t = some s') (m : NodeId) : NodeStep ok (s.view m) (s'.view m) := by
  unfold interruptEnd at hstep
  split at hstep
  · next l hpc =>
    have haway : (s.thread t).stage m = .away := by
      rw [hpc]
      rfl
    split at hstep
    · cases hstep
      rw [view_setThread_away]
      · have hview : { s with
              callbackActive := false
              addRemoveList := []
              node := signalAll s.node s.addRemoveList }.view m =
            { s.view m with
              node :=
                if (s.view m).queued = 0 then (s.view m).node
                else { (s.view m).node with isOnAddRemoveList := false, callbackDone := true }
              queued := 0
              active := false } := by
          simp only [State.view, signalAll_eq, List.count_nil]
          rfl
        rw [hview]
        exact .signalled
      · exact haway
      · rfl
    · next hmodified =>
      cases hstep
      rw [view_setThread_away]
      · exact .ended (eq_false_of_ne_true hmodified)
      · exact haway
      · rfl
  · cases hstep

/-- For every node, a step of the machine is a step of its view. -/
theorem step_view {s s' : State} {a : Action} (hstep : step s a = some s') (m : NodeId) :
    NodeStep (Orderly s a) (s.view m) (s'.view m) := by
  cases a with
  | addInterruptUser t n => exact changeInterruptUser_view (fun hok => hok) hstep m
  | removeInterruptUser t n => exact changeInterruptUser_view (fun hok => hok) hstep m
  | wake t => exact wake_view hstep m
  | relock t => exact relock_view hstep m
  | interruptStart t => exact interruptStart_view (fun hok => hok) hstep m
  | interruptEnd t => exact interruptEnd_view hstep m
  | leave t =>
      simp only [step] at hstep
      split at hstep
      · next status hpc =>
        cases hstep
        refine nodeStep_of_eq (view_setThread_away ?_ rfl)
        rw [hpc]
        rfl
      · cases hstep
  | shutdownPort =>
      cases hstep
      exact .same

/-! ## Where a node can be -/

/-- No call is in progress. -/
structure AtRest (v : NodeView) : Prop where
  callers : v.node.callers = []
  queued : v.node.isOnAddRemoveList = false
  done : v.node.callbackDone = false
  away : ∀ t, v.stage t = .away

/-- One call waits, or has been woken up. -/
structure InCall (v : NodeView) (t : ThreadId) (call : Call) : Prop where
  callers : v.node.callers = [t]
  onList : v.node.isOnList ≠ call.result
  others : ∀ t', t' ≠ t → v.stage t' = .away
  stage :
    (v.stage t = .waiting call ∧ v.node.callbackDone = !v.node.isOnAddRemoveList) ∨
      (v.stage t = .woken call ∧ v.node.callbackDone = false ∧ v.node.isOnAddRemoveList = false)

structure NodeInv (v : NodeView) : Prop where
  count : v.count = if v.node.isOnList then 1 else 0
  queued : v.queued = if v.node.isOnAddRemoveList then 1 else 0
  active : v.node.isOnAddRemoveList = true → v.active = true ∧ v.modified = true
  place : AtRest v ∨ ∃ t call, InCall v t call

theorem inv_start (n : NodeId) : NodeInv (State.start.view n) := by
  refine ⟨rfl, rfl, ?_, Or.inl ⟨rfl, rfl, rfl, fun t => rfl⟩⟩
  intro h
  cases h

variable {v v' : NodeView}

theorem InCall.eq_of_stage {t t' : ThreadId} {call : Call} (hcall : InCall v t call)
    (hstage : v.stage t' ≠ .away) : t' = t := by
  by_contra hne
  exact hstage (hcall.others t' hne)

theorem NodeInv.not_queued (hinv : NodeInv v) (hquiet : ¬ (v.active = true ∧ v.modified = true)) :
    v.node.isOnAddRemoveList = false := by
  apply eq_false_of_ne_true
  intro hqueued
  exact hquiet (hinv.active hqueued)

/-- A call that comes to the loop while the node is not queued is the only one for the node. -/
theorem AtLoop.alone {ok : Prop} (hok : ok) {t : ThreadId} {call : Call} (hloop : AtLoop ok v t call)
    (hinv : NodeInv v) (hqueued : v.node.isOnAddRemoveList = false) :
    (∀ t', t' ≠ t → v.stage t' = .away) ∧ v.node.isOnList ≠ call.result ∧
      v.node.callbackDone = false ∧ (v.node.callers = [] ∨ v.node.callers = [t]) := by
  rcases hloop with ⟨-, hresult, hguard⟩ | hwoken
  · have hcallers : v.node.callers = [] := by
      rcases hguard hok with ⟨-, htrue⟩ | hnone
      · exact absurd (hqueued.symm.trans htrue) (by decide)
      · exact hnone
    rcases hinv.place with hrest | ⟨t₀, call₀, hcall⟩
    · exact ⟨fun t' _ => hrest.away t', hresult, hrest.done, Or.inl hcallers⟩
    · rw [hcall.callers] at hcallers
      cases hcallers
  · have hhere : v.stage t ≠ .away := by
      rw [hwoken]
      exact Stage.noConfusion
    rcases hinv.place with hrest | ⟨t₀, call₀, hcall⟩
    · exact absurd (hrest.away t) hhere
    · have ht := hcall.eq_of_stage hhere
      subst ht
      rcases hcall.stage with ⟨hwaiting, -⟩ | ⟨hstage, hdone, -⟩
      · rw [hwoken] at hwaiting
        cases hwaiting
      · rw [hwoken] at hstage
        cases hstage
        exact ⟨hcall.others, hcall.onList, hdone, Or.inr hcall.callers⟩

theorem away_update {t : ThreadId} {stage : Stage} (hothers : ∀ t', t' ≠ t → v.stage t' = .away)
    (t' : ThreadId) (hne : t' ≠ t) : Function.update v.stage t stage t' = .away := by
  rw [Function.update_of_ne hne]
  exact hothers t' hne

theorem inv_refused {ok : Prop} {t : ThreadId} {call : Call} (hinv : NodeInv v)
    (hloop : AtLoop ok v t call) (hqueued : v.node.isOnAddRemoveList = true) :
    NodeInv { v with
      node := { v.node with callers := v.node.callers.erase t }
      stage := Function.update v.stage t .away } := by
  rcases hinv.place with hrest | ⟨t₀, call₀, hcall⟩
  · exact absurd (hrest.queued.symm.trans hqueued) (by decide)
  · -- A woken call is not queued, so this one is new, and the call in progress is another thread's.
    have hwaiting : v.stage t₀ = .waiting call₀ ∧ v.node.callbackDone = !v.node.isOnAddRemoveList := by
      rcases hcall.stage with h | ⟨-, -, hfalse⟩
      · exact h
      · exact absurd (hfalse.symm.trans hqueued) (by decide)
    have hne : t₀ ≠ t := by
      rintro rfl
      rcases hloop with ⟨haway, -⟩ | hwoken
      · rw [hwaiting.1] at haway
        cases haway
      · rw [hwaiting.1] at hwoken
        cases hwoken
    have haway : v.stage t = .away := hcall.others t (Ne.symm hne)
    have hstage : Function.update v.stage t .away = v.stage :=
      Function.update_eq_self_iff.mpr haway.symm
    have hcallers : v.node.callers.erase t = v.node.callers := by
      rw [hcall.callers]
      apply List.erase_of_not_mem
      simpa using Ne.symm hne
    rw [hstage, hcallers]
    exact hinv

theorem inv_queued {ok : Prop} (hok : ok) {t : ThreadId} {call : Call} (hinv : NodeInv v)
    (hloop : AtLoop ok v t call) (hactive : v.active = true)
    (hqueued : v.node.isOnAddRemoveList = false) :
    NodeInv { v with
      node := { v.node with isOnAddRemoveList := true, callers := v.node.callers.insert t }
      queued := v.queued + 1
      modified := true
      stage := Function.update v.stage t (.waiting call) } := by
  obtain ⟨hothers, hresult, hdone, hcallers⟩ := hloop.alone hok hinv hqueued
  refine ⟨hinv.count, ?_, fun _ => ⟨hactive, rfl⟩, Or.inr ⟨t, call, ?_, hresult, ?_, ?_⟩⟩
  · show v.queued + 1 = 1
    rw [hinv.queued, hqueued]
    rfl
  · show v.node.callers.insert t = [t]
    rcases hcallers with hnone | hself
    · rw [hnone]
      rfl
    · rw [hself]
      simp
  · exact away_update hothers
  · exact Or.inl ⟨Function.update_self .., hdone⟩

theorem Call.count_eq (call : Call) {b : Bool} {k : Nat} (hk : k = if b then 1 else 0)
    (hb : b ≠ call.result) : call.count k = if call.result then 1 else 0 := by
  cases call <;> cases b <;> simp_all [Call.count, Call.result]

theorem inv_changed {ok : Prop} (hok : ok) {t : ThreadId} {call : Call} (hinv : NodeInv v)
    (hloop : AtLoop ok v t call) (hactive : v.active = false) :
    NodeInv { v with
      node := { v.node with isOnList := call.result, callers := v.node.callers.erase t }
      count := call.count v.count
      stage := Function.update v.stage t .away } := by
  have hqueued : v.node.isOnAddRemoveList = false := by
    apply hinv.not_queued
    rintro ⟨htrue, -⟩
    exact absurd (hactive.symm.trans htrue) (by decide)
  obtain ⟨hothers, hresult, hdone, hcallers⟩ := hloop.alone hok hinv hqueued
  refine ⟨call.count_eq hinv.count hresult, hinv.queued, hinv.active, Or.inl ⟨?_, hqueued, hdone, ?_⟩⟩
  · show v.node.callers.erase t = []
    rcases hcallers with hnone | hself
    · rw [hnone]
      rfl
    · rw [hself]
      simp
  · intro t'
    by_cases ht : t' = t
    · subst ht
      exact Function.update_self ..
    · exact away_update hothers t' ht

theorem inv_woken {t : ThreadId} {call : Call} (hinv : NodeInv v) (hstage : v.stage t = .waiting call)
    (hdone : v.node.callbackDone = true) :
    NodeInv { v with
      node := { v.node with callbackDone := false }
      stage := Function.update v.stage t (.woken call) } := by
  have hhere : v.stage t ≠ .away := by
    rw [hstage]
    exact Stage.noConfusion
  rcases hinv.place with hrest | ⟨t₀, call₀, hcall⟩
  · exact absurd (hrest.away t) hhere
  · have ht := hcall.eq_of_stage hhere
    subst ht
    rcases hcall.stage with ⟨hwaiting, hflag⟩ | ⟨hwoken, -⟩
    · rw [hstage] at hwaiting
      cases hwaiting
      have hqueued : v.node.isOnAddRemoveList = false := by simpa [hdone] using hflag
      refine ⟨hinv.count, hinv.queued, hinv.active,
        Or.inr ⟨t, call, hcall.callers, hcall.onList, ?_, ?_⟩⟩
      · exact away_update hcall.others
      · exact Or.inr ⟨Function.update_self .., rfl, hqueued⟩
    · rw [hstage] at hwoken
      cases hwoken

/-- The flags of the `interruptBase` change and the node is not queued. -/
theorem NodeInv.of_not_queued (hinv : NodeInv v) (hqueued : v.node.isOnAddRemoveList = false)
    (active modified : Bool) : NodeInv { v with active := active, modified := modified } := by
  refine ⟨hinv.count, hinv.queued, ?_, ?_⟩
  · intro htrue
    exact absurd (hqueued.symm.trans htrue) (by decide)
  · rcases hinv.place with hrest | ⟨t, call, hcall⟩
    · exact Or.inl ⟨hrest.callers, hrest.queued, hrest.done, hrest.away⟩
    · exact Or.inr ⟨t, call, hcall.callers, hcall.onList, hcall.others, hcall.stage⟩

theorem inv_others (hinv : NodeInv v) (hactive : v.active = true) :
    NodeInv { v with modified := true } := by
  refine ⟨hinv.count, hinv.queued, fun _ => ⟨hactive, rfl⟩, ?_⟩
  rcases hinv.place with hrest | ⟨t, call, hcall⟩
  · exact Or.inl ⟨hrest.callers, hrest.queued, hrest.done, hrest.away⟩
  · exact Or.inr ⟨t, call, hcall.callers, hcall.onList, hcall.others, hcall.stage⟩

theorem inv_signalled (hinv : NodeInv v) :
    NodeInv { v with
      node :=
        if v.queued = 0 then v.node
        else { v.node with isOnAddRemoveList := false, callbackDone := true }
      queued := 0
      active := false } := by
  cases hqueued : v.node.isOnAddRemoveList with
  | false =>
      have hzero : v.queued = 0 := by
        rw [hinv.queued, hqueued]
        rfl
      have hkeep := hinv.of_not_queued hqueued false v.modified
      rw [← hzero, if_pos rfl]
      exact hkeep
  | true =>
      have hone : v.queued = 1 := by
        rw [hinv.queued, hqueued]
        rfl
      rw [hone, if_neg Nat.one_ne_zero]
      rcases hinv.place with hrest | ⟨t, call, hcall⟩
      · exact absurd (hrest.queued.symm.trans hqueued) (by decide)
      · refine ⟨hinv.count, rfl, (fun h => nomatch h), Or.inr ⟨t, call, hcall.callers, hcall.onList,
          hcall.others, ?_⟩⟩
        rcases hcall.stage with ⟨hwaiting, -⟩ | ⟨-, -, hfalse⟩
        · exact Or.inl ⟨hwaiting, rfl⟩
        · exact absurd (hfalse.symm.trans hqueued) (by decide)

theorem inv_step {ok : Prop} (hok : ok) (hstep : NodeStep ok v v') (hinv : NodeInv v) : NodeInv v' := by
  cases hstep with
  | same => exact hinv
  | refused t call hloop hactive hqueued => exact inv_refused hinv hloop hqueued
  | queued t call hloop hactive hqueued => exact inv_queued hok hinv hloop hactive hqueued
  | changed t call hloop hactive => exact inv_changed hok hinv hloop hactive
  | others hactive => exact inv_others hinv hactive
  | woken t call hstage hdone => exact inv_woken hinv hstage hdone
  | started hguard =>
      have hqueued : v.node.isOnAddRemoveList = false := by
        apply hinv.not_queued
        rintro ⟨htrue, -⟩
        exact absurd ((hguard hok).symm.trans htrue) (by decide)
      exact hinv.of_not_queued hqueued true false
  | ended hmodified =>
      have hqueued : v.node.isOnAddRemoveList = false := by
        apply hinv.not_queued
        rintro ⟨-, htrue⟩
        exact absurd (hmodified.symm.trans htrue) (by decide)
      exact hinv.of_not_queued hqueued false v.modified
  | signalled => exact inv_signalled hinv

theorem inv_of_reachable {s : State} (hreach : machine.Reachable Orderly s) (n : NodeId) :
    NodeInv (s.view n) := by
  refine Machine.Reachable.invariant (I := fun s => ∀ n, NodeInv (s.view n)) ?_ ?_ hreach n
  · intro s hs
    cases hs
    exact inv_start
  · intro s a s' hok hinv hstep n
    exact inv_step hok (step_view hstep n) (hinv n)

/-! ## Traversals -/

def Pc.walk : Pc → Option (List NodeId)
  | .walking l => some l
  | _ => none

/-- The `interruptBase` as a list with walkers. -/
def State.traversal (s : State) : Traversal.State (List NodeId) ThreadId where
  contents := s.callbackList
  active := s.callbackActive
  walkers := fun t => (s.thread t).walk

theorem traversal_setThread (s : State) (t : ThreadId) (pc : Pc) :
    (s.setThread t pc).traversal =
      { s.traversal with walkers := Function.update s.traversal.walkers t pc.walk } := by
  have hwalkers : (s.setThread t pc).traversal.walkers =
      Function.update s.traversal.walkers t pc.walk := by
    funext t'
    by_cases ht : t' = t
    · subst ht
      simp [State.traversal, State.setThread]
    · simp [State.traversal, State.setThread, Function.update_of_ne ht]
  rw [← hwalkers]
  rfl

/-- A thread that walks neither before nor after. -/
theorem traversal_setThread_none {s : State} {t : ThreadId} {pc : Pc}
    (hbefore : (s.thread t).walk = none) (hafter : pc.walk = none) :
    (s.setThread t pc).traversal = s.traversal := by
  rw [traversal_setThread, hafter]
  have hwalkers : Function.update s.traversal.walkers t none = s.traversal.walkers :=
    Function.update_eq_self_iff.mpr hbefore.symm
  rw [hwalkers]

theorem traversal_modNode (s : State) (n : NodeId) (f : InterruptNode → InterruptNode) :
    (s.modNode n f).traversal = s.traversal := rfl

/-- One round of the loop changes the list only while the flag is clear. -/
theorem loopHead_traversal {s : State} {t : ThreadId} {call : Call} {n : NodeId}
    (hwalk : (s.thread t).walk = none) :
    (loopHead s t call n).traversal = s.traversal ∨
      ∃ b, Traversal.Alone s.traversal b ∧
        Traversal.machine.step s.traversal b = some (loopHead s t call n).traversal := by
  unfold loopHead
  split
  · split
    · left
      rw [traversal_modNode]
      exact traversal_setThread_none hwalk rfl
    · left
      rw [traversal_modNode, traversal_setThread_none]
      · rfl
      · exact hwalk
      · rfl
  · next hactive =>
    right
    refine ⟨.change (call.change s.callbackList n), trivial, ?_⟩
    rw [traversal_modNode, traversal_setThread_none]
    · show (if s.callbackActive = true then none else some _) = _
      rw [if_neg hactive]
      rfl
    · exact hwalk
    · rfl

theorem changeInterruptUser_traversal {s s' : State} {t : ThreadId} {call : Call} {n : NodeId}
    (hstep : changeInterruptUser s t call n = some s') :
    s'.traversal = s.traversal ∨
      ∃ b, Traversal.Alone s.traversal b ∧
        Traversal.machine.step s.traversal b = some s'.traversal := by
  unfold changeInterruptUser at hstep
  split at hstep
  · next hidle =>
    have hwalk : (s.thread t).walk = none := by
      rw [hidle]
      rfl
    split at hstep
    · cases hstep
      exact Or.inl (traversal_setThread_none hwalk rfl)
    · split at hstep
      · cases hstep
        exact Or.inl (traversal_setThread_none hwalk rfl)
      · cases hstep
        exact loopHead_traversal hwalk
  · cases hstep

/-- Orderly runs are walks of which no two overlap. -/
theorem traversal_simulation :
    Machine.Simulation machine Orderly Traversal.machine Traversal.Alone State.traversal := by
  constructor
  · intro s hs
    cases hs
    exact ⟨rfl, fun t => rfl⟩
  · intro s a s' _ hok hstep
    cases a with
    | addInterruptUser t n => exact changeInterruptUser_traversal hstep
    | removeInterruptUser t n => exact changeInterruptUser_traversal hstep
    | wake t =>
        simp only [machine, step, wake] at hstep
        split at hstep
        · next call n hpc =>
          split at hstep
          · cases hstep
            left
            rw [traversal_modNode, traversal_setThread_none]
            · rw [hpc]
              rfl
            · rfl
          · cases hstep
        · cases hstep
    | relock t =>
        simp only [machine, step, relock] at hstep
        split at hstep
        · next call n hpc =>
          cases hstep
          apply loopHead_traversal
          rw [hpc]
          rfl
        · cases hstep
    | interruptStart t =>
        simp only [machine, step, interruptStart] at hstep
        split at hstep
        · next hidle =>
          cases hstep
          have hwalk : s.traversal.walkers t = none := by
            show (s.thread t).walk = none
            rw [hidle]
            rfl
          refine Or.inr ⟨.start t, hok, ?_⟩
          simp only [Traversal.machine, Traversal.step, hwalk]
          rw [traversal_setThread]
          rfl
        · cases hstep
    | interruptEnd t =>
        simp only [machine, step, interruptEnd] at hstep
        split at hstep
        · next l hpc =>
          have hwalk : s.traversal.walkers t = some l := by
            show (s.thread t).walk = some l
            rw [hpc]
            rfl
          refine Or.inr ⟨.finish t, trivial, ?_⟩
          simp only [Traversal.machine, Traversal.step, hwalk]
          split at hstep
          · cases hstep
            rw [traversal_setThread]
            rfl
          · cases hstep
            rw [traversal_setThread]
            rfl
        · cases hstep
    | leave t =>
        simp only [machine, step] at hstep
        split at hstep
        · next status hpc =>
          cases hstep
          left
          apply traversal_setThread_none
          · rw [hpc]
            rfl
          · rfl
        · cases hstep
    | shutdownPort =>
        cases hstep
        exact Or.inl rfl

theorem traversal_walkers {s : State} {t : ThreadId} {l : List NodeId} :
    s.traversal.walkers t = some l ↔ s.thread t = .walking l := by
  show (s.thread t).walk = some l ↔ _
  cases s.thread t <;> simp [Pc.walk]

/-! ## The list -/

theorem stage_eq_waiting {pc : Pc} {call : Call} {n : NodeId} :
    pc.stage n = .waiting call ↔ pc = .waiting call n := by
  cases pc <;> simp [Pc.stage, ite_eq_iff, and_comm]

/-- A thread that waits is the only one, and with no traversal active its event is full. -/
theorem NodeInv.signalled (hinv : NodeInv v) (hactive : v.active = false) {t : ThreadId} {call : Call}
    (hstage : v.stage t = .waiting call) :
    v.node.callbackDone = true ∧ ∀ t', v.stage t' ≠ .away → t' = t := by
  have hqueued : v.node.isOnAddRemoveList = false := by
    apply hinv.not_queued
    rintro ⟨htrue, -⟩
    exact absurd (hactive.symm.trans htrue) (by decide)
  have hhere : v.stage t ≠ .away := by
    rw [hstage]
    exact Stage.noConfusion
  rcases hinv.place with hrest | ⟨t₀, call₀, hcall⟩
  · exact absurd (hrest.away t) hhere
  · have ht := hcall.eq_of_stage hhere
    subst ht
    refine ⟨?_, fun t' => hcall.eq_of_stage⟩
    rcases hcall.stage with ⟨-, hdone⟩ | ⟨hwoken, -⟩
    · rw [hdone, hqueued]
      rfl
    · rw [hstage] at hwoken
      cases hwoken

/-- In every orderly run the list keeps what its users rely on. -/
theorem listSafe_of_reachable {s : State} (hreach : machine.Reachable Orderly s) : ListSafe s := by
  have hinv := inv_of_reachable hreach
  have htraversal := traversal_simulation.reachable hreach
  have hcount : ∀ n, s.callbackList.count n = if (s.node n).isOnList then 1 else 0 :=
    fun n => (hinv n).count
  refine ⟨?_, ?_, ?_, ?_⟩
  · intro t l hwalk
    exact Traversal.unchanged htraversal (traversal_walkers.mpr hwalk)
  · intro n
    rw [← List.count_pos_iff, hcount n]
    cases (s.node n).isOnList <;> simp
  · rw [List.nodup_iff_count_le_one]
    intro n
    rw [hcount n]
    cases (s.node n).isOnList <;> simp
  · intro hnone
    have hactive : s.callbackActive = false := by
      apply eq_false_of_ne_true
      intro htrue
      obtain ⟨t, l, hwalk⟩ := (Traversal.active_iff htraversal).mp htrue
      exact hnone t l (traversal_walkers.mp hwalk)
    constructor
    · rw [List.eq_nil_iff_forall_not_mem]
      intro n hmem
      have hqueued : (s.node n).isOnAddRemoveList = false := by
        apply (hinv n).not_queued
        rintro ⟨htrue, -⟩
        exact absurd (hactive.symm.trans htrue) (by decide)
      have hzero : s.addRemoveList.count n = 0 := by
        have h := (hinv n).queued
        show (s.view n).queued = 0
        rw [h]
        simp [State.view, hqueued]
      have hpos := List.count_pos_iff.mpr hmem
      omega
    · intro t call n hwait
      have hstage : (s.view n).stage t = .waiting call := stage_eq_waiting.mpr hwait
      obtain ⟨hdone, honly⟩ := (hinv n).signalled hactive hstage
      refine ⟨hdone, ?_⟩
      intro t' call' hwait'
      apply honly t'
      show (s.thread t').stage n ≠ .away
      rw [hwait', stage_waiting_self]
      exact Stage.noConfusion

/-- An addition that waits for the end of a traversal, and two that do not wait. -/
def delayedRun : List Action :=
  [.addInterruptUser 0 0, .leave 0, .interruptStart 1, .addInterruptUser 0 1, .interruptEnd 1, .wake 0]

theorem listSafe_delayedRun :
    ∃ s, ListSafe s ∧ s.thread 0 = .woken .addInterruptUser 1 ∧ s.callbackList = [0] := by
  have hrun : ∃ s, machine.Reachable Orderly s ∧
      (s.thread 0, s.callbackList) = (.woken .addInterruptUser 1, [0]) := by
    have hcheck : ∀ s a, decide (Orderly s a) = true → Orderly s a := fun _ _ => of_decide_eq_true
    refine Machine.exists_reachable_of_execGuarded _ hcheck delayedRun (s := .start) rfl ?_
    decide
  obtain ⟨s, hreach, hvalues⟩ := hrun
  obtain ⟨hpc, hlist⟩ := Prod.mk.inj hvalues
  exact ⟨s, listSafe_of_reachable hreach, hpc, hlist⟩

/-- The end of one traversal lets an addition through while another traversal goes on. -/
def changedRun : List Action :=
  [.interruptStart 0, .interruptStart 1, .interruptEnd 0, .addInterruptUser 2 0]

/-- The second `interruptStart` makes both `interruptEnd` overlook the thread that waits. -/
def forgottenRun : List Action :=
  [.interruptStart 0, .addInterruptUser 2 0, .interruptStart 1, .interruptEnd 0, .interruptEnd 1]

/-- A second addition of the node comes between the wait of the first and its lock. -/
def twiceRun : List Action :=
  [.interruptStart 0, .addInterruptUser 1 0, .interruptEnd 0, .addInterruptUser 2 0, .wake 1, .relock 1]

/-- `callbackList` can change during a traversal, a thread can wait for ever, and a node can be on the
list twice. -/
theorem overlap_not_listSafe :
    (∃ s, machine.Reachable Machine.Unguarded s ∧ s.thread 1 = .walking [] ∧ s.callbackList = [0] ∧
      ¬ ListSafe s) ∧
    (∃ s, machine.Reachable Machine.Unguarded s ∧ s.addRemoveList = [0] ∧
      s.thread 2 = .waiting .addInterruptUser 0 ∧ (s.node 0).callbackDone = false ∧
      s.callbackActive = false ∧ (∀ t l, s.thread t ≠ .walking l) ∧ ¬ ListSafe s) ∧
    (∃ s, machine.Reachable Machine.Unguarded s ∧ s.callbackList = [0, 0] ∧ ¬ ListSafe s) := by
  refine ⟨?_, ?_, ?_⟩
  · obtain ⟨s, hreach, hvalues⟩ := Machine.exists_reachable_of_exec (M := machine)
      (fun s => (s.thread 1, s.callbackList)) (s := .start)
      (b := (.walking [], [0])) changedRun rfl (by decide)
    obtain ⟨hpc, hlist⟩ := Prod.mk.inj hvalues
    refine ⟨s, hreach, hpc, hlist, ?_⟩
    intro hsafe
    have hsame := hsafe.unchanged 1 [] hpc
    rw [hlist] at hsame
    cases hsame
  · obtain ⟨s, hreach, hvalues⟩ := Machine.exists_reachable_of_exec (M := machine)
      (fun s => ((s.addRemoveList, s.callbackActive, (s.node 0).callbackDone),
        (s.thread 0, s.thread 1, s.thread 2), fun t => s.thread (t + 3))) (s := .start)
      (b := (([0], false, false),
        (.returned .asynSuccess, .returned .asynSuccess, .waiting .addInterruptUser 0),
        fun _ => .idle)) forgottenRun rfl rfl
    obtain ⟨hflags, hthreads⟩ := Prod.mk.inj hvalues
    obtain ⟨hlist, hrest⟩ := Prod.mk.inj hflags
    obtain ⟨hactive, hdone⟩ := Prod.mk.inj hrest
    obtain ⟨hnamed, hidle⟩ := Prod.mk.inj hthreads
    obtain ⟨h0, h12⟩ := Prod.mk.inj hnamed
    obtain ⟨h1, hpc⟩ := Prod.mk.inj h12
    have hnone : ∀ t l, s.thread t ≠ .walking l := by
      intro t l
      match t with
      | 0 =>
          rw [h0]
          exact Pc.noConfusion
      | 1 =>
          rw [h1]
          exact Pc.noConfusion
      | 2 =>
          rw [hpc]
          exact Pc.noConfusion
      | t + 3 =>
          rw [congrFun hidle t]
          exact Pc.noConfusion
    refine ⟨s, hreach, hlist, hpc, hdone, hactive, hnone, ?_⟩
    intro hsafe
    obtain ⟨hempty, -⟩ := hsafe.signalled hnone
    rw [hlist] at hempty
    cases hempty
  · obtain ⟨s, hreach, hlist⟩ := Machine.exists_reachable_of_exec (M := machine)
      (fun s => s.callbackList) (s := .start) (b := [0, 0]) twiceRun rfl (by decide)
    refine ⟨s, hreach, hlist, ?_⟩
    intro hsafe
    have hnodup := hsafe.nodup
    rw [hlist] at hnodup
    exact absurd hnodup (by decide)

end InterruptList
end Manager
end AsynDriver
