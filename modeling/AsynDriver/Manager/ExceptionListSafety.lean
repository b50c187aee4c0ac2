import Mathlib.Data.List.Nodup
import AsynDriver.Library.Traversal
import AsynDriver.Manager.ExceptionList

/-!
# The exception list under announcements

* `UserView`, `UserStep` — one `exceptionUser`, and what a step can do to it; `step_view`.
* `UserInv` — the life of an `exceptionUser` in orderly runs.
* `traversal_simulation` — orderly runs are walks of which no two overlap.
* `exceptionSafe_of_reachable` — they are `ExceptionSafe`; `overlap_not_exceptionSafe` has runs that
  are not.
-/

namespace AsynDriver
namespace Manager
namespace ExceptionList

open Library

/-! ## One `exceptionUser` -/

/-- Where a thread stands with an `exceptionUser`. -/
inductive Stage
  | away
  | waiting (call : Call) (u : UserId)
  | woken (call : Call) (u : UserId)
  deriving DecidableEq, Repr

def Pc.stage (pc : Pc) (e : NodeId) : Stage :=
  match pc with
  | .waiting call u e' => if e' = e then .waiting call u else .away
  | .woken call u e' => if e' = e then .woken call u else .away
  | _ => .away

/-- `linked` tells which `asynUser`s have it as their `pexceptionUser`. -/
@[ext]
structure UserView where
  user : ExceptionUser
  count : Nat
  queued : Nat
  freed : Nat
  active : Bool
  linked : UserId → Prop
  stage : ThreadId → Stage

def State.view (s : State) (e : NodeId) : UserView where
  user := s.exceptionUser e
  count := s.exceptionUserList.count e
  queued := s.exceptionNotifyList.count e
  freed := s.freed.count e
  active := s.exceptionActive
  linked := fun u => s.pexceptionUser u = some e
  stage := fun t => (s.thread t).stage e

/-- A call comes to the test of the loop with the `exceptionUser` `x`: one that it has allocated, one
that it has found, or the one it has waited with. -/
inductive AtLoop (ok : Prop) (v : UserView) (t : ThreadId) (u : UserId) : Call → ExceptionUser → Prop
  | allocated (hfresh : v.user.allocated = false) (haway : v.stage t = .away) :
      AtLoop ok v t u .exceptionCallbackAdd { v.user with allocated := true }
  | found (hlinked : v.linked u) (haway : v.stage t = .away)
      (hok : ok → v.user.callers = []) : AtLoop ok v t u .exceptionCallbackRemove v.user
  | woken (call : Call) (hstage : v.stage t = .woken call u) : AtLoop ok v t u call v.user

/-- What a step does to one `exceptionUser`; `ok` says that the step is orderly. -/
inductive UserStep (ok : Prop) (v : UserView) : UserView → Prop
  | same : UserStep ok v v
  | queued (t : ThreadId) (u : UserId) (call : Call) (x : ExceptionUser)
      (hloop : AtLoop ok v t u call x) (hactive : v.active = true) :
      UserStep ok v
        { v with
          user := { x with callers := x.callers.insert t }
          queued := v.queued + 1
          stage := Function.update v.stage t (.waiting call u) }
  | added (t : ThreadId) (u : UserId) (x : ExceptionUser)
      (hloop : AtLoop ok v t u .exceptionCallbackAdd x) :
      UserStep ok v
        { v with
          user := { x with callers := x.callers.erase t }
          count := v.count + 1
          linked := Function.update v.linked u True
          stage := Function.update v.stage t .away }
  | removed (t : ThreadId) (u : UserId) (x : ExceptionUser)
      (hloop : AtLoop ok v t u .exceptionCallbackRemove x) :
      UserStep ok v
        { v with
          user := { x with callers := x.callers.erase t }
          count := v.count - 1
          freed := v.freed + 1
          linked := Function.update v.linked u False
          stage := Function.update v.stage t .away }
  | unlinked (u : UserId) : UserStep ok v { v with linked := Function.update v.linked u False }
  | woken (t : ThreadId) (u : UserId) (call : Call) (hstage : v.stage t = .waiting call u)
      (hnotify : v.user.notify = true) :
      UserStep ok v
        { v with
          user := { v.user with notify := false }
          stage := Function.update v.stage t (.woken call u) }
  | started : UserStep ok v { v with active := true }
  | signalled :
      UserStep ok v
        { v with
          user := if v.queued = 0 then v.user else { v.user with notify := true }
          queued := 0
          active := false }

theorem userStep_of_eq {ok : Prop} {v v' : UserView} (heq : v' = v) : UserStep ok v v' := by
  rw [heq]
  exact .same

/-! ## Frame lemmas -/

theorem view_setThread (s : State) (t : ThreadId) (pc : Pc) (e : NodeId) :
    (s.setThread t pc).view e =
      { s.view e with stage := Function.update (s.view e).stage t (pc.stage e) } := by
  ext t'
  all_goals try rfl
  by_cases ht : t' = t
  · subst ht
    simp [State.view, State.setThread]
  · simp [State.view, State.setThread, Function.update_of_ne ht]

theorem view_modUser_self (s : State) (e : NodeId) (f : ExceptionUser → ExceptionUser) :
    (s.modUser e f).view e = { s.view e with user := f (s.exceptionUser e) } := by
  simp [State.view, State.modUser]

theorem view_modUser_of_ne (s : State) {e d : NodeId} (f : ExceptionUser → ExceptionUser)
    (hne : d ≠ e) : (s.modUser e f).view d = s.view d := by
  simp [State.view, State.modUser, Function.update_of_ne hne]

/-- A move of a thread between two places that are both away from the `exceptionUser`. -/
theorem view_setThread_away {s : State} {t : ThreadId} {pc : Pc} {e : NodeId}
    (hbefore : (s.thread t).stage e = .away) (hafter : pc.stage e = .away) :
    (s.setThread t pc).view e = s.view e := by
  rw [view_setThread, hafter]
  have hstage : Function.update (s.view e).stage t .away = (s.view e).stage :=
    Function.update_eq_self_iff.mpr hbefore.symm
  rw [hstage]

theorem stage_waiting_self (call : Call) (u : UserId) (e : NodeId) :
    (Pc.waiting call u e).stage e = .waiting call u := if_pos rfl

theorem stage_woken_self (call : Call) (u : UserId) (e : NodeId) :
    (Pc.woken call u e).stage e = .woken call u := if_pos rfl

theorem stage_waiting_of_ne (call : Call) (u : UserId) {e d : NodeId} (hne : d ≠ e) :
    (Pc.waiting call u e).stage d = .away := if_neg (Ne.symm hne)

theorem stage_woken_of_ne (call : Call) (u : UserId) {e d : NodeId} (hne : d ≠ e) :
    (Pc.woken call u e).stage d = .away := if_neg (Ne.symm hne)

theorem linked_update (f : UserId → Option NodeId) (u : UserId) (a : Option NodeId) (e : NodeId) :
    (fun u' => Function.update f u a u' = some e) =
      Function.update (fun u' => f u' = some e) u (a = some e) := by
  funext u'
  by_cases hu : u' = u
  · subst hu
    simp
  · simp [Function.update_of_ne hu]

theorem change_add_view_self (s : State) (u : UserId) (e : NodeId) :
    (Call.change s u e .exceptionCallbackAdd).view e =
      { s.view e with
        count := (s.view e).count + 1
        linked := Function.update (s.view e).linked u True } := by
  simp [State.view, Call.change, linked_update]

theorem change_remove_view_self (s : State) (u : UserId) (e : NodeId) :
    (Call.change s u e .exceptionCallbackRemove).view e =
      { s.view e with
        count := (s.view e).count - 1
        freed := (s.view e).freed + 1
        linked := Function.update (s.view e).linked u False } := by
  simp [State.view, Call.change, linked_update]

/-- Another `exceptionUser` can only lose an `asynUser`. -/
theorem change_view_of_ne (s : State) (u : UserId) {e d : NodeId} (hne : d ≠ e) (call : Call) :
    (call.change s u e).view d =
      { s.view d with linked := Function.update (s.view d).linked u False } := by
  cases call with
  | exceptionCallbackAdd =>
      simp [State.view, Call.change, linked_update, Ne.symm hne]
  | exceptionCallbackRemove =>
      simp [State.view, Call.change, linked_update, Ne.symm hne, List.count_erase_of_ne hne]

theorem signalAll_eq (l : List NodeId) (exceptionUser : NodeId → ExceptionUser) (e : NodeId) :
    signalAll exceptionUser l e =
      if l.count e = 0 then exceptionUser e else { exceptionUser e with notify := true } := by
  -- On the list of waiting calls; a signal to an event that is full changes nothing.
  induction l generalizing exceptionUser with
  | nil => rfl
  | cons d rest ih =>
      rw [signalAll, ih]
      by_cases hd : d = e
      · subst hd
        simp
      · simp [hd, Function.update_of_ne (Ne.symm hd)]

/-! ## Every step -/

theorem stage_idle {s : State} {t : ThreadId} (hidle : s.thread t = .idle) (e : NodeId) :
    (s.thread t).stage e = .away := by
  rw [hidle]
  rfl

/-- One round of the loop, from a state `s` that differs from the `s₀` before the step in the
`exceptionUser` alone. -/
theorem loopHead_view {ok : Prop} {s₀ s : State} {t : ThreadId} {call : Call} {u : UserId} {e : NodeId}
    (hloop : AtLoop ok (s₀.view e) t u call (s.exceptionUser e))
    (hself : s.view e = { s₀.view e with user := s.exceptionUser e })
    (hothers : ∀ d, d ≠ e → s.view d = s₀.view d)
    (haway : ∀ d, d ≠ e → (s.thread t).stage d = .away) (d : NodeId) :
    UserStep ok (s₀.view d) ((loopHead s t call u e).view d) := by
  unfold loopHead
  split
  -- The flag is set: the call puts itself on `exceptionNotifyList`, and waits.
  · next hactive =>
    by_cases hd : d = e
    · subst hd
      rw [view_modUser_self, view_setThread, stage_waiting_self]
      have hview : { s with exceptionNotifyList := s.exceptionNotifyList ++ [d] }.view d =
          { s.view d with queued := (s.view d).queued + 1 } := by
        simp [State.view]
      have hwas : (s₀.view d).active = true := by
        have h := congrArg UserView.active hself
        exact h.symm.trans hactive
      rw [hview, hself]
      exact .queued t u call _ hloop hwas
    · rw [view_modUser_of_ne _ _ hd, view_setThread_away]
      · apply userStep_of_eq
        rw [← hothers d hd]
        simp [State.view, Ne.symm hd]
      · exact haway d hd
      · exact stage_waiting_of_ne call u hd
  -- The flag is clear: the list is changed, and the call returns.
  · by_cases hd : d = e
    · subst hd
      rw [view_modUser_self, view_setThread]
      cases call with
      | exceptionCallbackAdd =>
          rw [change_add_view_self, hself]
          exact .added t u _ hloop
      | exceptionCallbackRemove =>
          rw [change_remove_view_self, hself]
          exact .removed t u _ hloop
    · rw [view_modUser_of_ne _ _ hd, view_setThread_away]
      · rw [change_view_of_ne s u hd, hothers d hd]
        exact .unlinked u
      · cases call <;> exact haway d hd
      · rfl

theorem exceptionCallbackAdd_view {ok : Prop} {s s' : State} {t : ThreadId} {u : UserId} {e : NodeId}
    (hstep : exceptionCallbackAdd s t u e = some s') (d : NodeId) :
    UserStep ok (s.view d) (s'.view d) := by
  unfold exceptionCallbackAdd at hstep
  split at hstep
  · next hidle =>
    have haway := stage_idle hidle
    split at hstep
    · cases hstep
      exact userStep_of_eq (view_setThread_away (haway d) rfl)
    · split at hstep
      · cases hstep
      · next hfresh =>
        cases hstep
        have huser : (s.modUser e fun x => { x with allocated := true }).exceptionUser e =
            { s.exceptionUser e with allocated := true } := Function.update_self ..
        refine loopHead_view ?_ ?_ ?_ ?_ d
        · rw [huser]
          exact .allocated (eq_false_of_ne_true hfresh) (haway e)
        · rw [huser]
          exact view_modUser_self ..
        · intro d hd
          exact view_modUser_of_ne s _ hd
        · intro d _
          exact haway d
  · cases hstep

theorem exceptionCallbackRemove_view {s s' : State} {t : ThreadId} {u : UserId}
    (hstep : exceptionCallbackRemove s t u = some s') (d : NodeId) :
    UserStep (Orderly s (.exceptionCallbackRemove t u)) (s.view d) (s'.view d) := by
  unfold exceptionCallbackRemove at hstep
  split at hstep
  · next hidle =>
    have haway := stage_idle hidle
    split at hstep
    · cases hstep
      exact userStep_of_eq (view_setThread_away (haway d) rfl)
    · next e hlinked =>
      cases hstep
      refine loopHead_view (.found ?_ (haway e) ?_) rfl (fun d _ => rfl) (fun d _ => haway d) d
      · exact hlinked
      · intro hok
        exact hok e hlinked
  · cases hstep

theorem wake_view {ok : Prop} {s s' : State} {t : ThreadId} (hstep : wake s t = some s') (d : NodeId) :
    UserStep ok (s.view d) (s'.view d) := by
  unfold wake at hstep
  split at hstep
  · next call u e hpc =>
    split at hstep
    · next hnotify =>
      cases hstep
      by_cases hd : d = e
      · subst hd
        rw [view_modUser_self, view_setThread, stage_woken_self]
        refine .woken t u call ?_ hnotify
        show (s.thread t).stage d = .waiting call u
        rw [hpc, stage_waiting_self]
      · rw [view_modUser_of_ne _ _ hd]
        refine userStep_of_eq (view_setThread_away ?_ (stage_woken_of_ne call u hd))
        rw [hpc, stage_waiting_of_ne call u hd]
    · cases hstep
  · cases hstep

theorem relock_view {ok : Prop} {s s' : State} {t : ThreadId} (hstep : relock s t = some s')
    (d : NodeId) : UserStep ok (s.view d) (s'.view d) := by
  unfold relock at hstep
  split at hstep
  · next call u e hpc =>
    cases hstep
    refine loopHead_view (.woken call ?_) rfl (fun d _ => rfl) ?_ d
    · show (s.thread t).stage e = .woken call u
      rw [hpc, stage_woken_self]
    · intro d hd
      rw [hpc, stage_woken_of_ne call u hd]
  · cases hstep

theorem announceEnd_view {ok : Prop} {s s' : State} {t : ThreadId}
    (hstep : announceEnd s t = some s') (d : NodeId) : UserStep ok (s.view d) (s'.view d) := by
  unfold announceEnd at hstep
  split at hstep
  · next began hpc =>
    cases hstep
    rw [view_setThread_away]
    · have hview : { s with
            exceptionUser := signalAll s.exceptionUser s.exceptionNotifyList
            exceptionNotifyList := []
            exceptionActive := false
            queueStateChange := true
            notifyPortThread := s.notifyPortThread || s.canBlock }.view d =
          { s.view d with
            user :=
              if (s.view d).queued = 0 then (s.view d).user
              else { (s.view d).user with notify := true }
            queued := 0
            active := false } := by
        simp only [State.view, signalAll_eq, List.count_nil]
        rfl
      rw [hview]
      exact .signalled
    · rw [hpc]
      rfl
    · rfl
  · cases hstep

/-- For every `exceptionUser`, a step of the machine is a step of its view. -/
theorem step_view {s s' : State} {a : Action} (hstep : step s a = some s') (d : NodeId) :
    UserStep (Orderly s a) (s.view d) (s'.view d) := by
  cases a with
  | exceptionCallbackAdd t u e => exact exceptionCallbackAdd_view hstep d
  | exceptionCallbackRemove t u => exact exceptionCallbackRemove_view hstep d
  | wake t => exact wake_view hstep d
  | relock t => exact relock_view hstep d
  | announceStart t =>
      simp only [step, announceStart] at hstep
      split at hstep
      · next hidle =>
        cases hstep
        rw [view_setThread_away]
        · exact .started
        · exact stage_idle hidle d
        · rfl
      · cases hstep
  | announceFirst t =>
      simp only [step, announceFirst] at hstep
      split at hstep
      · next began hpc =>
        cases hstep
        refine userStep_of_eq (view_setThread_away ?_ rfl)
        rw [hpc]
        rfl
      · cases hstep
  | announceNext t =>
      simp only [step, announceNext] at hstep
      split at hstep
      · next began e hpc =>
        split at hstep
        · cases hstep
        · cases hstep
          refine userStep_of_eq (view_setThread_away ?_ rfl)
          rw [hpc]
          rfl
      · cases hstep
  | announceEnd t => exact announceEnd_view hstep d
  | leave t =>
      simp only [step] at hstep
      split at hstep
      · next status hpc =>
        cases hstep
        refine userStep_of_eq (view_setThread_away ?_ rfl)
        rw [hpc]
        rfl
      · cases hstep

/-! ## The life of an `exceptionUser` -/

/-- No call is in progress. -/
structure Quiet (v : UserView) : Prop where
  callers : v.user.callers = []
  notify : v.user.notify = false
  queued : v.queued = 0
  away : ∀ t, v.stage t = .away

/-- One call waits, or has been woken up. -/
structure Busy (v : UserView) (t : ThreadId) (u : UserId) (call : Call) : Prop where
  callers : v.user.callers = [t]
  others : ∀ t', t' ≠ t → v.stage t' = .away
  stage :
    (v.stage t = .waiting call u ∧
      ((v.queued = 1 ∧ v.user.notify = false ∧ v.active = true) ∨
        (v.queued = 0 ∧ v.user.notify = true))) ∨
      (v.stage t = .woken call u ∧ v.queued = 0 ∧ v.user.notify = false)

/-- Whether it has been allocated, how often it is on the list, and how often it has been freed. -/
def UserView.memory (v : UserView) : Bool × Nat × Nat := (v.user.allocated, v.count, v.freed)

inductive UserInv (v : UserView) : Prop
  | unborn (hquiet : Quiet v) (hmemory : v.memory = (false, 0, 0)) (hlinked : ∀ u, ¬ v.linked u)
  | adding (t : ThreadId) (u : UserId) (hbusy : Busy v t u .exceptionCallbackAdd)
      (hmemory : v.memory = (true, 0, 0)) (hlinked : ∀ u, ¬ v.linked u)
  | listed (u : UserId) (hquiet : Quiet v) (hmemory : v.memory = (true, 1, 0))
      (hlinked : ∀ u', v.linked u' → u' = u)
  | removing (t : ThreadId) (u : UserId) (hbusy : Busy v t u .exceptionCallbackRemove)
      (hmemory : v.memory = (true, 1, 0)) (hlinked : ∀ u', v.linked u' → u' = u)
  | freed (hquiet : Quiet v) (hmemory : v.memory = (true, 0, 1)) (hlinked : ∀ u, ¬ v.linked u)

theorem inv_start (canBlock : Bool) (e : NodeId) : UserInv ((State.start canBlock).view e) := by
  refine .unborn ⟨rfl, rfl, rfl, fun t => rfl⟩ rfl ?_
  intro u hlinked
  cases hlinked

variable {v v' : UserView}

/-- Either no call is in progress or one is. -/
theorem UserInv.quiet_or_busy (hinv : UserInv v) : Quiet v ∨ ∃ t u call, Busy v t u call := by
  cases hinv with
  | unborn hquiet hmemory hlinked => exact Or.inl hquiet
  | adding t u hbusy hmemory hlinked => exact Or.inr ⟨t, u, _, hbusy⟩
  | listed u hquiet hmemory hlinked => exact Or.inl hquiet
  | removing t u hbusy hmemory hlinked => exact Or.inr ⟨t, u, _, hbusy⟩
  | freed hquiet hmemory hlinked => exact Or.inl hquiet

theorem Busy.eq_of_stage {t t' : ThreadId} {u : UserId} {call : Call} (hbusy : Busy v t u call)
    (hstage : v.stage t' ≠ .away) : t' = t := by
  by_contra hne
  exact hstage (hbusy.others t' hne)

/-- The thread that has been woken up is the one whose call is in progress. -/
theorem Busy.of_woken {t t' : ThreadId} {u u' : UserId} {call call' : Call} (hbusy : Busy v t u call)
    (hwoken : v.stage t' = .woken call' u') :
    t' = t ∧ u' = u ∧ call' = call ∧ v.queued = 0 ∧ v.user.notify = false := by
  have hhere : v.stage t' ≠ .away := by
    rw [hwoken]
    exact Stage.noConfusion
  have ht := hbusy.eq_of_stage hhere
  subst ht
  rcases hbusy.stage with ⟨hwaiting, -⟩ | ⟨hstage, hqueued, hnotify⟩
  · rw [hwoken] at hwaiting
    cases hwaiting
  · rw [hwoken] at hstage
    cases hstage
    exact ⟨rfl, rfl, rfl, hqueued, hnotify⟩

theorem Quiet.not_woken (hquiet : Quiet v) {t : ThreadId} {u : UserId} {call : Call} :
    v.stage t ≠ .woken call u := by
  rw [hquiet.away t]
  exact Stage.noConfusion

/-- The memory during a call. -/
def Call.memory : Call → Bool × Nat × Nat
  | .exceptionCallbackAdd => (true, 0, 0)
  | .exceptionCallbackRemove => (true, 1, 0)

/-- What a call finds at the test of the loop. -/
structure Ready (v : UserView) (t : ThreadId) (u : UserId) (call : Call) (x : ExceptionUser) : Prop where
  callers : x.callers = [] ∨ x.callers = [t]
  notify : x.notify = false
  queued : v.queued = 0
  others : ∀ t', t' ≠ t → v.stage t' = .away
  memory : (x.allocated, v.count, v.freed) = call.memory
  linked : ∀ u', v.linked u' → call = .exceptionCallbackRemove ∧ u' = u

theorem Busy.ready {t t' : ThreadId} {u u' : UserId} {call call' : Call} (hbusy : Busy v t' u' call')
    (hwoken : v.stage t = .woken call u) (hmemory : v.memory = call'.memory)
    (hlinked : ∀ d, v.linked d → call' = .exceptionCallbackRemove ∧ d = u') :
    Ready v t u call v.user := by
  obtain ⟨rfl, rfl, rfl, hqueued, hnotify⟩ := hbusy.of_woken hwoken
  exact ⟨Or.inr hbusy.callers, hnotify, hqueued, hbusy.others, hmemory, hlinked⟩

theorem AtLoop.ready {ok : Prop} (hok : ok) {t : ThreadId} {u : UserId} {call : Call}
    {x : ExceptionUser} (hloop : AtLoop ok v t u call x) (hinv : UserInv v) : Ready v t u call x := by
  cases hloop with
  | allocated hfresh haway =>
      cases hinv with
      | unborn hquiet hmemory hlinked =>
          obtain ⟨-, hrest⟩ := Prod.mk.inj hmemory
          refine ⟨Or.inl hquiet.callers, hquiet.notify, hquiet.queued, fun t' _ => hquiet.away t', ?_, ?_⟩
          · exact congrArg (Prod.mk true) hrest
          · intro u' hu'
            exact absurd hu' (hlinked u')
      | adding t' u' hbusy hmemory hlinked =>
          exact absurd (hfresh.symm.trans (Prod.mk.inj hmemory).1) (by decide)
      | listed u' hquiet hmemory hlinked =>
          exact absurd (hfresh.symm.trans (Prod.mk.inj hmemory).1) (by decide)
      | removing t' u' hbusy hmemory hlinked =>
          exact absurd (hfresh.symm.trans (Prod.mk.inj hmemory).1) (by decide)
      | freed hquiet hmemory hlinked =>
          exact absurd (hfresh.symm.trans (Prod.mk.inj hmemory).1) (by decide)
  | found hu haway hguard =>
      cases hinv with
      | unborn hquiet hmemory hlinked => exact absurd hu (hlinked u)
      | adding t' u' hbusy hmemory hlinked => exact absurd hu (hlinked u)
      | listed u' hquiet hmemory hlinked =>
          have huser := hlinked u hu
          subst huser
          refine ⟨Or.inl hquiet.callers, hquiet.notify, hquiet.queued, fun t' _ => hquiet.away t',
            hmemory, ?_⟩
          intro u' hu'
          exact ⟨rfl, hlinked u' hu'⟩
      -- Two removals at once are what an orderly run does not have.
      | removing t' u' hbusy hmemory hlinked =>
          have hnone := hguard hok
          rw [hbusy.callers] at hnone
          cases hnone
      | freed hquiet hmemory hlinked => exact absurd hu (hlinked u)
  | woken call hwoken =>
      cases hinv with
      | unborn hquiet hmemory hlinked => exact absurd hwoken hquiet.not_woken
      | adding t' u' hbusy hmemory hlinked =>
          exact hbusy.ready hwoken hmemory (fun d hd => absurd hd (hlinked d))
      | listed u' hquiet hmemory hlinked => exact absurd hwoken hquiet.not_woken
      | removing t' u' hbusy hmemory hlinked =>
          exact hbusy.ready hwoken hmemory (fun d hd => ⟨rfl, hlinked d hd⟩)
      | freed hquiet hmemory hlinked => exact absurd hwoken hquiet.not_woken

variable {t : ThreadId} {u : UserId} {call : Call} {x : ExceptionUser}

theorem Ready.callers_insert (hready : Ready v t u call x) : x.callers.insert t = [t] := by
  rcases hready.callers with hnone | hself
  · rw [hnone]
    rfl
  · rw [hself]
    simp

theorem Ready.callers_erase (hready : Ready v t u call x) : x.callers.erase t = [] := by
  rcases hready.callers with hnone | hself
  · rw [hnone]
    rfl
  · rw [hself]
    simp

theorem Ready.away (hready : Ready v t u call x) (t' : ThreadId) :
    Function.update v.stage t .away t' = .away := by
  by_cases ht : t' = t
  · subst ht
    exact Function.update_self ..
  · rw [Function.update_of_ne ht]
    exact hready.others t' ht

theorem inv_queued (hready : Ready v t u call x) (hactive : v.active = true) :
    UserInv { v with
      user := { x with callers := x.callers.insert t }
      queued := v.queued + 1
      stage := Function.update v.stage t (.waiting call u) } := by
  have hbusy : Busy { v with
      user := { x with callers := x.callers.insert t }
      queued := v.queued + 1
      stage := Function.update v.stage t (.waiting call u) } t u call := by
    refine ⟨hready.callers_insert, ?_, ?_⟩
    · intro t' ht'
      show Function.update v.stage t (.waiting call u) t' = .away
      rw [Function.update_of_ne ht']
      exact hready.others t' ht'
    · have hone : v.queued + 1 = 1 := by rw [hready.queued]
      exact Or.inl ⟨Function.update_self .., Or.inl ⟨hone, hready.notify, hactive⟩⟩
  cases call with
  | exceptionCallbackAdd =>
      refine .adding t u hbusy hready.memory ?_
      intro u' hu'
      exact absurd (hready.linked u' hu').1 (by decide)
  | exceptionCallbackRemove =>
      refine .removing t u hbusy hready.memory ?_
      intro u' hu'
      exact (hready.linked u' hu').2

theorem of_update_false {P : UserId → Prop} {u u' : UserId} (h : Function.update P u False u') :
    u' ≠ u ∧ P u' := by
  by_cases hu : u' = u
  · subst hu
    rw [Function.update_self] at h
    exact h.elim
  · rw [Function.update_of_ne hu] at h
    exact ⟨hu, h⟩

theorem inv_added (hready : Ready v t u .exceptionCallbackAdd x) :
    UserInv { v with
      user := { x with callers := x.callers.erase t }
      count := v.count + 1
      linked := Function.update v.linked u True
      stage := Function.update v.stage t .away } := by
  obtain ⟨hallocated, hrest⟩ := Prod.mk.inj hready.memory
  obtain ⟨hcount, hfreed⟩ := Prod.mk.inj hrest
  refine .listed u ⟨hready.callers_erase, hready.notify, hready.queued, hready.away⟩ ?_ ?_
  · show (x.allocated, v.count + 1, v.freed) = (true, 1, 0)
    rw [hallocated, hcount, hfreed]
  · intro u' hu'
    by_contra hne
    have hold : v.linked u' := by
      have hnew : Function.update v.linked u True u' := hu'
      rwa [Function.update_of_ne hne] at hnew
    exact absurd (hready.linked u' hold).1 (by decide)

theorem inv_removed (hready : Ready v t u .exceptionCallbackRemove x) :
    UserInv { v with
      user := { x with callers := x.callers.erase t }
      count := v.count - 1
      freed := v.freed + 1
      linked := Function.update v.linked u False
      stage := Function.update v.stage t .away } := by
  obtain ⟨hallocated, hrest⟩ := Prod.mk.inj hready.memory
  obtain ⟨hcount, hfreed⟩ := Prod.mk.inj hrest
  refine .freed ⟨hready.callers_erase, hready.notify, hready.queued, hready.away⟩ ?_ ?_
  · show (x.allocated, v.count - 1, v.freed + 1) = (true, 0, 1)
    rw [hallocated, hcount, hfreed]
  · intro u' hu'
    obtain ⟨hne, hold⟩ := of_update_false hu'
    exact hne (hready.linked u' hold).2

/-- A step that changes neither the memory nor the calls in progress, and links no `asynUser`. -/
theorem UserInv.of_frame (hinv : UserInv v) (hmemory : v'.memory = v.memory)
    (hlinked : ∀ u, v'.linked u → v.linked u) (hquiet : Quiet v → Quiet v')
    (hbusy : ∀ t u call, Busy v t u call → Busy v' t u call) : UserInv v' := by
  cases hinv with
  | unborn hq hm hl => exact .unborn (hquiet hq) (hmemory.trans hm) (fun u hu => hl u (hlinked u hu))
  | adding t u hb hm hl =>
      exact .adding t u (hbusy _ _ _ hb) (hmemory.trans hm) (fun u hu => hl u (hlinked u hu))
  | listed u hq hm hl =>
      exact .listed u (hquiet hq) (hmemory.trans hm) (fun u' hu' => hl u' (hlinked u' hu'))
  | removing t u hb hm hl =>
      exact .removing t u (hbusy _ _ _ hb) (hmemory.trans hm) (fun u' hu' => hl u' (hlinked u' hu'))
  | freed hq hm hl => exact .freed (hquiet hq) (hmemory.trans hm) (fun u hu => hl u (hlinked u hu))

theorem inv_unlinked (hinv : UserInv v) (u : UserId) :
    UserInv { v with linked := Function.update v.linked u False } := by
  refine hinv.of_frame rfl ?_ ?_ ?_
  · intro u' hu'
    exact (of_update_false hu').2
  · intro h
    exact ⟨h.callers, h.notify, h.queued, h.away⟩
  · intro t u call h
    exact ⟨h.callers, h.others, h.stage⟩

theorem inv_woken (hinv : UserInv v) (hstage : v.stage t = .waiting call u)
    (hnotify : v.user.notify = true) :
    UserInv { v with
      user := { v.user with notify := false }
      stage := Function.update v.stage t (.woken call u) } := by
  refine hinv.of_frame rfl (fun u hu => hu) ?_ ?_
  · intro h
    exact absurd (h.notify.symm.trans hnotify) (by decide)
  · intro t₀ u₀ call₀ h
    have hhere : v.stage t ≠ .away := by
      rw [hstage]
      exact Stage.noConfusion
    -- The thread that wakes is the one whose call is in progress.
    have ht := h.eq_of_stage hhere
    subst ht
    refine ⟨h.callers, ?_, ?_⟩
    · intro t' ht'
      show Function.update v.stage t (.woken call u) t' = .away
      rw [Function.update_of_ne ht']
      exact h.others t' ht'
    · rcases h.stage with ⟨hwaiting, ⟨-, hempty, -⟩ | ⟨hqueued, -⟩⟩ | ⟨hwoken, -⟩
      · exact absurd (hempty.symm.trans hnotify) (by decide)
      · rw [hstage] at hwaiting
        cases hwaiting
        exact Or.inr ⟨Function.update_self .., hqueued, rfl⟩
      · rw [hstage] at hwoken
        cases hwoken

theorem inv_started (hinv : UserInv v) : UserInv { v with active := true } := by
  refine hinv.of_frame rfl (fun u hu => hu) ?_ ?_
  · intro h
    exact ⟨h.callers, h.notify, h.queued, h.away⟩
  · intro t u call h
    refine ⟨h.callers, h.others, ?_⟩
    rcases h.stage with ⟨hwaiting, ⟨hqueued, hempty, -⟩ | hfull⟩ | hwoken
    · exact Or.inl ⟨hwaiting, Or.inl ⟨hqueued, hempty, rfl⟩⟩
    · exact Or.inl ⟨hwaiting, Or.inr hfull⟩
    · exact Or.inr hwoken

theorem inv_signalled (hinv : UserInv v) :
    UserInv { v with
      user := if v.queued = 0 then v.user else { v.user with notify := true }
      queued := 0
      active := false } := by
  refine hinv.of_frame ?_ (fun u hu => hu) ?_ ?_
  · unfold UserView.memory
    split <;> rfl
  · intro h
    rw [if_pos h.queued]
    exact ⟨h.callers, h.notify, rfl, h.away⟩
  · intro t u call h
    rcases h.stage with ⟨hwaiting, ⟨hqueued, -, -⟩ | ⟨hqueued, hfull⟩⟩ | ⟨hwoken, hqueued, hempty⟩
    -- The call waits on the list: its event gets full.
    · have hne : v.queued ≠ 0 := by omega
      rw [if_neg hne]
      exact ⟨h.callers, h.others, Or.inl ⟨hwaiting, Or.inr ⟨rfl, rfl⟩⟩⟩
    · rw [if_pos hqueued]
      exact ⟨h.callers, h.others, Or.inl ⟨hwaiting, Or.inr ⟨rfl, hfull⟩⟩⟩
    · rw [if_pos hqueued]
      exact ⟨h.callers, h.others, Or.inr ⟨hwoken, rfl, hempty⟩⟩

theorem inv_step {ok : Prop} (hok : ok) (hstep : UserStep ok v v') (hinv : UserInv v) : UserInv v' := by
  cases hstep with
  | same => exact hinv
  | queued t u call x hloop hactive => exact inv_queued (hloop.ready hok hinv) hactive
  | added t u x hloop => exact inv_added (hloop.ready hok hinv)
  | removed t u x hloop => exact inv_removed (hloop.ready hok hinv)
  | unlinked u => exact inv_unlinked hinv u
  | woken t u call hstage hnotify => exact inv_woken hinv hstage hnotify
  | started => exact inv_started hinv
  | signalled => exact inv_signalled hinv

theorem inv_of_reachable {s : State} (hreach : machine.Reachable Orderly s) (e : NodeId) :
    UserInv (s.view e) := by
  refine Machine.Reachable.invariant (I := fun s => ∀ e, UserInv (s.view e)) ?_ ?_ hreach e
  · rintro s ⟨canBlock, rfl⟩
    exact inv_start canBlock
  · intro s a s' hok hinv hstep e
    exact inv_step hok (step_view hstep e) (hinv e)

/-! ## Announcements -/

def Pc.walk : Pc → Option (List NodeId × List NodeId)
  | .announcing began _ => some began
  | _ => none

/-- The list and what has been freed, with the announcements as walkers. -/
def State.traversal (s : State) : Traversal.State (List NodeId × List NodeId) ThreadId where
  contents := (s.exceptionUserList, s.freed)
  active := s.exceptionActive
  walkers := fun t => (s.thread t).walk

theorem traversal_setThread (s : State) (t : ThreadId) (pc : Pc) :
    (s.setThread t pc).traversal =
      { s.traversal with walkers := Function.update s.traversal.walkers t pc.walk } := by
  have hwalkers : (s.setThread t pc).traversal.walkers =
      Function.update s.traversal.walkers t pc.walk := by
    funext t'
    by_cases ht : t' = t
    · subst ht
      simp [State.traversal, State.setThread]
    · simp [State.traversal, State.setThread, Function.update_of_ne ht]
  rw [← hwalkers]
  rfl

/-- A thread that neither begins nor ends an announcement. -/
theorem traversal_setThread_same {s : State} {t : ThreadId} {pc : Pc}
    (hwalk : pc.walk = (s.thread t).walk) : (s.setThread t pc).traversal = s.traversal := by
  rw [traversal_setThread, hwalk]
  have hwalkers : Function.update s.traversal.walkers t (s.thread t).walk = s.traversal.walkers :=
    Function.update_eq_self_iff.mpr rfl
  rw [hwalkers]

theorem traversal_modUser (s : State) (e : NodeId) (f : ExceptionUser → ExceptionUser) :
    (s.modUser e f).traversal = s.traversal := rfl

/-- One round of the loop changes the list only while the flag is clear. -/
theorem loopHead_traversal {s : State} {t : ThreadId} {call : Call} {u : UserId} {e : NodeId}
    (hwalk : (s.thread t).walk = none) :
    (loopHead s t call u e).traversal = s.traversal ∨
      ∃ b, Traversal.Alone s.traversal b ∧
        Traversal.machine.step s.traversal b = some (loopHead s t call u e).traversal := by
  unfold loopHead
  split
  · left
    rw [traversal_modUser, traversal_setThread_same]
    · rfl
    · exact hwalk.symm
  · next hactive =>
    right
    refine ⟨.change (call.change s u e).traversal.contents, trivial, ?_⟩
    rw [traversal_modUser, traversal_setThread_same]
    · show (if s.exceptionActive = true then none else some _) = _
      rw [if_neg hactive]
      cases call <;> rfl
    · cases call <;> exact hwalk.symm

theorem walk_idle {s : State} {t : ThreadId} (hidle : s.thread t = .idle) :
    (s.thread t).walk = none := by
  rw [hidle]
  rfl

/-- Orderly runs are walks of which no two overlap. -/
theorem traversal_simulation :
    Machine.Simulation machine Orderly Traversal.machine Traversal.Alone State.traversal := by
  constructor
  · rintro s ⟨canBlock, rfl⟩
    exact ⟨rfl, fun t => rfl⟩
  · intro s a s' _ hok hstep
    cases a with
    | exceptionCallbackAdd t u e =>
        simp only [machine, step, exceptionCallbackAdd] at hstep
        split at hstep
        · next hidle =>
          split at hstep
          · cases hstep
            exact Or.inl (traversal_setThread_same (walk_idle hidle).symm)
          · split at hstep
            · cases hstep
            · cases hstep
              rw [← traversal_modUser s e fun x => { x with allocated := true }]
              exact loopHead_traversal (walk_idle hidle)
        · cases hstep
    | exceptionCallbackRemove t u =>
        simp only [machine, step, exceptionCallbackRemove] at hstep
        split at hstep
        · next hidle =>
          split at hstep
          · cases hstep
            exact Or.inl (traversal_setThread_same (walk_idle hidle).symm)
          · cases hstep
            exact loopHead_traversal (walk_idle hidle)
        · cases hstep
    | wake t =>
        simp only [machine, step, wake] at hstep
        split at hstep
        · next call u e hpc =>
          split at hstep
          · cases hstep
            left
            rw [traversal_modUser, traversal_setThread_same]
            rw [hpc]
            rfl
          · cases hstep
        · cases hstep
    | relock t =>
        simp only [machine, step, relock] at hstep
        split at hstep
        · next call u e hpc =>
          cases hstep
          apply loopHead_traversal
          rw [hpc]
          rfl
        · cases hstep
    | announceStart t =>
        simp only [machine, step, announceStart] at hstep
        split at hstep
        · next hidle =>
          cases hstep
          have hwalk : s.traversal.walkers t = none := walk_idle hidle
          -- Of the steps only these two, and the round of a loop, show in the traversal.
          refine Or.inr ⟨.start t, hok, ?_⟩
          simp only [Traversal.machine, Traversal.step, hwalk]
          rw [traversal_setThread]
          rfl
        · cases hstep
    | announceFirst t =>
        simp only [machine, step, announceFirst] at hstep
        split at hstep
        · next began hpc =>
          cases hstep
          left
          apply traversal_setThread_same
          rw [hpc]
          rfl
        · cases hstep
    | announceNext t =>
        simp only [machine, step, announceNext] at hstep
        split at hstep
        · next began e hpc =>
          split at hstep
          · cases hstep
          · cases hstep
            left
            apply traversal_setThread_same
            rw [hpc]
            rfl
        · cases hstep
    | announceEnd t =>
        simp only [machine, step, announceEnd] at hstep
        split at hstep
        · next began hpc =>
          cases hstep
          have hwalk : s.traversal.walkers t = some began := by
            show (s.thread t).walk = some began
            rw [hpc]
            rfl
          refine Or.inr ⟨.finish t, trivial, ?_⟩
          simp only [Traversal.machine, Traversal.step, hwalk]
          rw [traversal_setThread]
          rfl
        · cases hstep
    | leave t =>
        simp only [machine, step] at hstep
        split at hstep
        · next status hpc =>
          cases hstep
          left
          apply traversal_setThread_same
          rw [hpc]
          rfl
        · cases hstep

theorem unchanged_of_reachable {s : State} (hreach : machine.Reachable Orderly s) {t : ThreadId}
    {began : List NodeId × List NodeId} {cursor : Cursor}
    (hpc : s.thread t = .announcing began cursor) : (s.exceptionUserList, s.freed) = began := by
  have hwalk : s.traversal.walkers t = some began := by
    show (s.thread t).walk = some began
    rw [hpc]
    rfl
  exact Traversal.unchanged (traversal_simulation.reachable hreach) hwalk

/-! ## The cursor of an announcement -/

/-- The callback that executes is that of an `exceptionUser` of the list the announcement began
with. -/
def State.CursorListed (s : State) : Prop :=
  ∀ t began e, s.thread t = .announcing began (.inCallback e) → e ∈ began.1

theorem cursorListed_of_thread {s s' : State} {t : ThreadId} {pc : Pc} (hlisted : s.CursorListed)
    (hthread : s'.thread = Function.update s.thread t pc)
    (hpc : ∀ began e, pc = .announcing began (.inCallback e) → e ∈ began.1) : s'.CursorListed := by
  intro t' began e hcursor
  rw [hthread] at hcursor
  by_cases ht : t' = t
  · subst ht
    rw [Function.update_self] at hcursor
    exact hpc began e hcursor
  · rw [Function.update_of_ne ht] at hcursor
    exact hlisted t' began e hcursor

/-- The next `exceptionUser` is on the list. -/
theorem mem_of_cursor_of {began began' : List NodeId × List NodeId} {next : Option NodeId} {e : NodeId}
    (hnext : ∀ d, next = some d → d ∈ began.1)
    (hcursor : Pc.announcing began (.of next) = .announcing began' (.inCallback e)) : e ∈ began'.1 := by
  cases next with
  | none => cases hcursor
  | some d =>
      cases hcursor
      exact hnext _ rfl

theorem loopHead_thread (s : State) (t : ThreadId) (call : Call) (u : UserId) (e : NodeId) :
    ∃ pc, pc.walk = none ∧ (loopHead s t call u e).thread = Function.update s.thread t pc := by
  unfold loopHead
  split
  · exact ⟨_, rfl, rfl⟩
  · refine ⟨.returned .asynSuccess, rfl, ?_⟩
    cases call <;> rfl

theorem cursorListed_of_walk_none {s s' : State} {t : ThreadId} {pc : Pc} (hlisted : s.CursorListed)
    (hthread : s'.thread = Function.update s.thread t pc) (hwalk : pc.walk = none) :
    s'.CursorListed := by
  refine cursorListed_of_thread hlisted hthread ?_
  intro began e hpc
  rw [hpc] at hwalk
  cases hwalk

theorem cursorListed_loopHead {s : State} (hlisted : s.CursorListed) (t : ThreadId) (call : Call)
    (u : UserId) (e : NodeId) : (loopHead s t call u e).CursorListed := by
  obtain ⟨pc, hwalk, hthread⟩ := loopHead_thread s t call u e
  exact cursorListed_of_walk_none hlisted hthread hwalk

theorem cursorListed_step {s s' : State} {a : Action} (hreach : machine.Reachable Orderly s)
    (hlisted : s.CursorListed) (hstep : step s a = some s') : s'.CursorListed := by
  cases a with
  | exceptionCallbackAdd t u e =>
      simp only [step, exceptionCallbackAdd] at hstep
      split at hstep
      · split at hstep
        · cases hstep
          exact cursorListed_of_walk_none hlisted rfl rfl
        · split at hstep
          · cases hstep
          · cases hstep
            have hallocated : (s.modUser e fun x => { x with allocated := true }).CursorListed := hlisted
            exact cursorListed_loopHead hallocated t _ u e
      · cases hstep
  | exceptionCallbackRemove t u =>
      simp only [step, exceptionCallbackRemove] at hstep
      split at hstep
      · split at hstep
        · cases hstep
          exact cursorListed_of_walk_none hlisted rfl rfl
        · cases hstep
          exact cursorListed_loopHead hlisted t _ u _
      · cases hstep
  | wake t =>
      simp only [step, wake] at hstep
      split at hstep
      · split at hstep
        · cases hstep
          exact cursorListed_of_walk_none hlisted rfl rfl
        · cases hstep
      · cases hstep
  | relock t =>
      simp only [step, relock] at hstep
      split at hstep
      · cases hstep
        exact cursorListed_loopHead hlisted t _ _ _
      · cases hstep
  | announceStart t =>
      simp only [step, announceStart] at hstep
      split at hstep
      · cases hstep
        refine cursorListed_of_thread hlisted rfl ?_
        intro began e hpc
        cases hpc
      · cases hstep
  | announceFirst t =>
      simp only [step, announceFirst] at hstep
      split at hstep
      · next began hpc =>
        cases hstep
        refine cursorListed_of_thread hlisted rfl ?_
        intro began' e
        apply mem_of_cursor_of
        intro d hd
        -- The list is still the one that the announcement began with.
        rw [← unchanged_of_reachable hreach hpc]
        exact List.mem_of_mem_head? hd
      · cases hstep
  | announceNext t =>
      simp only [step, announceNext] at hstep
      split at hstep
      · next began e hpc =>
        split at hstep
        · cases hstep
        · cases hstep
          refine cursorListed_of_thread hlisted rfl ?_
          intro began' e'
          apply mem_of_cursor_of
          intro d hd
          rw [← unchanged_of_reachable hreach hpc]
          exact LinkedList.mem_of_nextAfter hd
      · cases hstep
  | announceEnd t =>
      simp only [step, announceEnd] at hstep
      split at hstep
      · cases hstep
        exact cursorListed_of_walk_none hlisted rfl rfl
      · cases hstep
  | leave t =>
      simp only [step] at hstep
      split at hstep
      · cases hstep
        exact cursorListed_of_walk_none hlisted rfl rfl
      · cases hstep

theorem cursorListed_of_reachable {s : State} (hreach : machine.Reachable Orderly s) :
    s.CursorListed := by
  refine hreach.invariant_of_reachable (I := State.CursorListed) ?_ ?_
  · rintro s ⟨canBlock, rfl⟩ t began e hpc
    cases hpc
  · intro s a s' hs _ hlisted hstep
    exact cursorListed_step hs hlisted hstep

/-! ## The list -/

theorem UserInv.count_le_one (hinv : UserInv v) :
    v.count ≤ 1 ∧ v.freed ≤ 1 ∧ (0 < v.count → v.freed = 0) := by
  have hcases : ∀ (b : Bool) (count freed : Nat), v.memory = (b, count, freed) →
      count + freed ≤ 1 → v.count ≤ 1 ∧ v.freed ≤ 1 ∧ (0 < v.count → v.freed = 0) := by
    intro b count freed hmemory hle
    obtain ⟨-, hrest⟩ := Prod.mk.inj hmemory
    obtain ⟨hcount, hfreed⟩ := Prod.mk.inj hrest
    omega
  cases hinv with
  | unborn hquiet hmemory hlinked => exact hcases _ _ _ hmemory (by decide)
  | adding t u hbusy hmemory hlinked => exact hcases _ _ _ hmemory (by decide)
  | listed u hquiet hmemory hlinked => exact hcases _ _ _ hmemory (by decide)
  | removing t u hbusy hmemory hlinked => exact hcases _ _ _ hmemory (by decide)
  | freed hquiet hmemory hlinked => exact hcases _ _ _ hmemory (by decide)

theorem UserInv.not_queued (hinv : UserInv v) (hactive : v.active = false) : v.queued = 0 := by
  rcases hinv.quiet_or_busy with hquiet | ⟨t, u, call, hbusy⟩
  · exact hquiet.queued
  · rcases hbusy.stage with ⟨-, ⟨-, -, htrue⟩ | ⟨hqueued, -⟩⟩ | ⟨-, hqueued, -⟩
    · exact absurd (hactive.symm.trans htrue) (by decide)
    · exact hqueued
    · exact hqueued

/-- A thread that waits is the only one, and with no announcement in progress its event is full. -/
theorem UserInv.signalled (hinv : UserInv v) (hactive : v.active = false)
    (hstage : v.stage t = .waiting call u) :
    v.user.notify = true ∧ ∀ t', v.stage t' ≠ .away → t' = t := by
  have hhere : v.stage t ≠ .away := by
    rw [hstage]
    exact Stage.noConfusion
  rcases hinv.quiet_or_busy with hquiet | ⟨t₀, u₀, call₀, hbusy⟩
  · exact absurd (hquiet.away t) hhere
  · have ht := hbusy.eq_of_stage hhere
    subst ht
    refine ⟨?_, fun t' => hbusy.eq_of_stage⟩
    rcases hbusy.stage with ⟨-, ⟨-, -, htrue⟩ | ⟨-, hfull⟩⟩ | ⟨hwoken, -⟩
    · exact absurd (hactive.symm.trans htrue) (by decide)
    · exact hfull
    · rw [hstage] at hwoken
      cases hwoken

theorem stage_eq_waiting {pc : Pc} {e : NodeId} :
    pc.stage e = .waiting call u ↔ pc = .waiting call u e := by
  cases pc <;> simp [Pc.stage, ite_eq_iff, and_assoc, and_comm, and_left_comm]

/-- In every orderly run the list keeps what the callers rely on. -/
theorem exceptionSafe_of_reachable {s : State} (hreach : machine.Reachable Orderly s) :
    ExceptionSafe s := by
  have hinv := inv_of_reachable hreach
  refine ⟨fun t began cursor hpc => unchanged_of_reachable hreach hpc, ?_, ?_, ?_, ?_, ?_⟩
  · rw [List.nodup_iff_count_le_one]
    intro e
    exact (hinv e).count_le_one.1
  · intro e hmem hfreed
    have hzero : s.freed.count e = 0 := (hinv e).count_le_one.2.2 (List.count_pos_iff.mpr hmem)
    have hpos := List.count_pos_iff.mpr hfreed
    omega
  · rw [List.nodup_iff_count_le_one]
    intro e
    exact (hinv e).count_le_one.2.1
  · intro t began e hpc
    have hmem := cursorListed_of_reachable hreach t began e hpc
    rwa [← unchanged_of_reachable hreach hpc] at hmem
  · intro hnone
    have hactive : s.exceptionActive = false := by
      apply eq_false_of_ne_true
      intro htrue
      obtain ⟨t, began, hwalk⟩ :=
        (Traversal.active_iff (traversal_simulation.reachable hreach)).mp htrue
      -- The flag is set, so that some thread announces.
      have hpc : ∃ cursor, s.thread t = .announcing began cursor := by
        have h : (s.thread t).walk = some began := hwalk
        cases hthread : s.thread t <;> rw [hthread] at h <;> cases h
        exact ⟨_, rfl⟩
      obtain ⟨cursor, hpc⟩ := hpc
      exact hnone t began cursor hpc
    constructor
    · rw [List.eq_nil_iff_forall_not_mem]
      intro e hmem
      have hzero : s.exceptionNotifyList.count e = 0 := (hinv e).not_queued hactive
      have hpos := List.count_pos_iff.mpr hmem
      omega
    · intro t call u e hwait
      have hstage : (s.view e).stage t = .waiting call u := stage_eq_waiting.mpr hwait
      obtain ⟨hnotify, honly⟩ := (hinv e).signalled hactive hstage
      refine ⟨hnotify, ?_⟩
      intro t' call' u' hwait'
      apply honly t'
      show (s.thread t').stage e ≠ .away
      rw [hwait', stage_waiting_self]
      exact Stage.noConfusion

/-- A removal that waits for the end of an announcement. -/
def delayedRun : List Action :=
  [.exceptionCallbackAdd 0 0 0, .leave 0, .announceStart 1, .announceFirst 1,
    .exceptionCallbackRemove 0 0, .announceNext 1, .announceEnd 1, .wake 0, .relock 0]

theorem exceptionSafe_delayedRun :
    ∃ s, ExceptionSafe s ∧ s.thread 0 = .returned .asynSuccess ∧ s.freed = [0] := by
  have hrun : ∃ s, machine.Reachable Orderly s ∧
      (s.thread 0, s.freed) = (.returned .asynSuccess, [0]) := by
    have hcheck : ∀ s a, decide (Orderly s a) = true → Orderly s a := fun _ _ => of_decide_eq_true
    refine Machine.exists_reachable_of_execGuarded _ hcheck delayedRun (s := .start true)
      ⟨true, rfl⟩ ?_
    decide
  obtain ⟨s, hreach, hvalues⟩ := hrun
  obtain ⟨hpc, hfreed⟩ := Prod.mk.inj hvalues
  exact ⟨s, exceptionSafe_of_reachable hreach, hpc, hfreed⟩

/-- An announcement, made inside a callback of another, ends, and lets a removal through. -/
def nestedRun : List Action :=
  [.exceptionCallbackAdd 0 0 0, .leave 0, .announceStart 1, .announceFirst 1, .announceStart 2,
    .announceFirst 2, .announceNext 2, .announceEnd 2, .exceptionCallbackRemove 0 0]

/-- Two removals wait for the same event. -/
def sharedRun : List Action :=
  [.exceptionCallbackAdd 0 0 0, .leave 0, .announceStart 1, .announceFirst 1,
    .exceptionCallbackRemove 2 0, .announceNext 1, .announceEnd 1, .leave 1, .announceStart 1,
    .announceFirst 1, .exceptionCallbackRemove 3 0, .announceNext 1, .announceEnd 1, .wake 3]

/-- An `exceptionUser` can be freed while its callback executes in another announcement, and a thread
can be left to wait. -/
theorem overlap_not_exceptionSafe :
    (∃ s, machine.Reachable Machine.Unguarded s ∧ s.freed = [0] ∧ s.exceptionUserList = [] ∧
      s.thread 1 = .announcing ([0], []) (.inCallback 0) ∧ ¬ ExceptionSafe s) ∧
    (∃ s, machine.Reachable Machine.Unguarded s ∧
      s.thread 2 = .waiting .exceptionCallbackRemove 0 0 ∧ (s.exceptionUser 0).notify = false ∧
      s.exceptionActive = false ∧ (∀ t began cursor, s.thread t ≠ .announcing began cursor) ∧
      ¬ ExceptionSafe s) := by
  constructor
  · obtain ⟨s, hreach, hvalues⟩ := Machine.exists_reachable_of_exec (M := machine)
      (fun s => (s.freed, s.exceptionUserList, s.thread 1)) (s := .start true)
      (b := ([0], [], .announcing ([0], []) (.inCallback 0))) nestedRun ⟨true, rfl⟩ (by decide)
    obtain ⟨hfreed, hrest⟩ := Prod.mk.inj hvalues
    obtain ⟨hlist, hpc⟩ := Prod.mk.inj hrest
    refine ⟨s, hreach, hfreed, hlist, hpc, ?_⟩
    intro hsafe
    have hsame := hsafe.unchanged 1 _ _ hpc
    rw [hlist] at hsame
    exact absurd (Prod.mk.inj hsame).1 (by decide)
  · obtain ⟨s, hreach, hvalues⟩ := Machine.exists_reachable_of_exec (M := machine)
      (fun s => (((s.exceptionUser 0).notify, s.exceptionActive),
        (s.thread 0, s.thread 1, s.thread 2, s.thread 3), fun t => s.thread (t + 4)))
      (s := .start true)
      (b := ((false, false), (.idle, .returned .asynSuccess,
        .waiting .exceptionCallbackRemove 0 0, .woken .exceptionCallbackRemove 0 0), fun _ => .idle))
      sharedRun ⟨true, rfl⟩ rfl
    obtain ⟨hflags, hthreads⟩ := Prod.mk.inj hvalues
    obtain ⟨hnotify, hactive⟩ := Prod.mk.inj hflags
    obtain ⟨hnamed, hidle⟩ := Prod.mk.inj hthreads
    obtain ⟨h0, h123⟩ := Prod.mk.inj hnamed
    obtain ⟨h1, h23⟩ := Prod.mk.inj h123
    obtain ⟨hpc, h3⟩ := Prod.mk.inj h23
    have hnone : ∀ t began cursor, s.thread t ≠ .announcing began cursor := by
      intro t began cursor
      match t with
      | 0 =>
          rw [h0]
          exact Pc.noConfusion
      | 1 =>
          rw [h1]
          exact Pc.noConfusion
      | 2 =>
          rw [hpc]
          exact Pc.noConfusion
      | 3 =>
          rw [h3]
          exact Pc.noConfusion
      | t + 4 =>
          rw [congrFun hidle t]
          exact Pc.noConfusion
    refine ⟨s, hreach, hpc, hnotify, hactive, hnone, ?_⟩
    intro hsafe
    obtain ⟨-, hsignalled⟩ := hsafe.signalled hnone
    have hfull := (hsignalled 2 _ _ _ hpc).1
    rw [hnotify] at hfull
    cases hfull

end ExceptionList
end Manager
end AsynDriver
