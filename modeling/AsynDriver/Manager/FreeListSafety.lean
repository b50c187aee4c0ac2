import AsynDriver.Manager.FreeListView

/-!
# No `asynUser` is lost or shared

* `UserBase` — the bookkeeping of `executors`, and that `state` is `callbackIdle` unless a callback is
  executing: in every run.
* `UserInv` — where an `asynUser` can be in each part of its life: in orderly runs.
* `freeSafe_of_reachable` — orderly runs are `FreeSafe`; `lost_or_shared` has two runs that are not.
-/

namespace AsynDriver
namespace Manager
namespace FreeList

open Library

/-! ## Every run -/

structure UserBase (v : UserView) : Prop where
  mem : ∀ e, e ∈ v.user.executors ↔ v.stage e ≠ .away
  nodup : v.user.executors.Nodup
  clean : Clean v.user.userPvt
  active : v.user.userPvt.state ≠ .callbackIdle → ∃ e, v.stage e = .running

theorem base_start (u : UserId) : UserBase (State.start.view u) := by
  constructor
  · intro e
    simp [State.view, State.start, AsynUser.unborn, ExecutorPc.stage]
  · exact List.nodup_nil
  · intro _
    exact ⟨rfl, rfl, rfl, rfl⟩
  · intro hstate
    exact absurd rfl hstate

/-- A thread that stays with the `asynUser`. -/
theorem mem_update_stage {v : UserView} {e : Executor} {stage : Stage} (hbase : UserBase v)
    (hbefore : v.stage e ≠ .away) (hafter : stage ≠ .away) (e' : Executor) :
    e' ∈ v.user.executors ↔ Function.update v.stage e stage e' ≠ .away := by
  by_cases he : e' = e
  · subst he
    rw [Function.update_self]
    exact ⟨fun _ => hafter, fun _ => (hbase.mem e').mpr hbefore⟩
  · rw [Function.update_of_ne he]
    exact hbase.mem e'

/-- A thread that joins the others. -/
theorem mem_append_stage {v : UserView} (hbase : UserBase v) (e e' : Executor) :
    e' ∈ v.user.executors ++ [e] ↔ Function.update v.stage e .running e' ≠ .away := by
  by_cases he : e' = e
  · subst he
    simp
  · rw [Function.update_of_ne he, List.mem_append, hbase.mem]
    simp [he]

theorem mem_erase_stage {v : UserView} {e : Executor} (hbase : UserBase v) (e' : Executor) :
    e' ∈ v.user.executors.erase e ↔ Function.update v.stage e .away e' ≠ .away := by
  rw [hbase.nodup.mem_erase_iff]
  by_cases he : e' = e
  · subst he
    simp
  · rw [Function.update_of_ne he]
    simp [he, hbase.mem e']

/-- The end of a thread that is not executing leaves the one that is. -/
theorem active_update {v : UserView} {e : Executor} {stage : Stage} (hbase : UserBase v)
    (hstage : v.stage e ≠ .running) (hstate : v.user.userPvt.state ≠ .callbackIdle) :
    ∃ e', Function.update v.stage e stage e' = .running := by
  obtain ⟨e', hrunning⟩ := hbase.active hstate
  have hne : e' ≠ e := by
    intro h
    rw [h] at hrunning
    exact hstage hrunning
  exact ⟨e', by rw [Function.update_of_ne hne, hrunning]⟩

theorem base_step {ok : Prop} {v v' : UserView} (hstep : UserStep ok v v') (hbase : UserBase v) :
    UserBase v' := by
  cases hstep with
  | same => exact hbase
  | fresh hphase =>
      refine ⟨hbase.mem, hbase.nodup, ?_, ?_⟩
      · intro _
        exact ⟨rfl, rfl, rfl, rfl⟩
      · intro hstate
        exact absurd rfl hstate
  | reuse n hlisted => exact ⟨hbase.mem, hbase.nodup, hbase.clean, hbase.active⟩
  | created process timeout hphase =>
      refine ⟨hbase.mem, hbase.nodup, ?_, ?_⟩
      · intro hport
        obtain ⟨-, hcounts⟩ := hbase.clean hport
        exact ⟨rfl, hcounts⟩
      · intro hstate
        exact absurd rfl hstate
  | client w hphase hchange =>
      refine ⟨hbase.mem, hbase.nodup, hchange.clean hbase.clean, ?_⟩
      intro hstate
      exact hbase.active (mt hchange.state.mpr hstate)
  | freeing w hphase hchange hport =>
      refine ⟨hbase.mem, hbase.nodup, hchange.clean hbase.clean, ?_⟩
      intro hstate
      exact hbase.active (mt hchange.state.mpr hstate)
  | tested hphase hok => exact ⟨hbase.mem, hbase.nodup, hbase.clean, hbase.active⟩
  | listed htested => exact ⟨hbase.mem, hbase.nodup, hbase.clean, hbase.active⟩
  | deferred htested => exact ⟨hbase.mem, hbase.nodup, hbase.clean, hbase.active⟩
  | refused hqueued hport =>
      refine ⟨hbase.mem, hbase.nodup, ?_, hbase.active⟩
      intro hnone
      exact absurd hnone hport
  | started e hqueued hport hstage =>
      have hnot : e ∉ v.user.executors := by
        rw [hbase.mem, hstage]
        exact not_not.mpr rfl
      have hnodup := hbase.nodup.concat hnot
      rw [List.concat_eq_append] at hnodup
      refine ⟨mem_append_stage hbase e, hnodup, ?_, ?_⟩
      · intro hnone
        exact absurd hnone hport
      · intro _
        exact ⟨e, Function.update_self ..⟩
  | ended e done hstage =>
      refine ⟨?_, hbase.nodup, hbase.clean, ?_⟩
      · exact mem_update_stage hbase (by rw [hstage]; decide) (by decide)
      · intro hstate
        exact absurd rfl hstate
  | flagged e hstage hflag hok =>
      refine ⟨?_, hbase.nodup, hbase.clean, ?_⟩
      · exact mem_update_stage hbase (by rw [hstage]; decide) (by decide)
      · exact active_update hbase (by rw [hstage]; decide)
  | unflagged e hstage hflag hok =>
      refine ⟨mem_erase_stage hbase, hbase.nodup.erase e, hbase.clean, ?_⟩
      exact active_update hbase (by rw [hstage]; decide)
  | added e hstage =>
      refine ⟨mem_erase_stage hbase, hbase.nodup.erase e, hbase.clean, ?_⟩
      exact active_update hbase (by rw [hstage]; decide)

theorem base_of_reachable {guard : State → Action → Prop} {s : State}
    (hreach : machine.Reachable guard s) (u : UserId) : UserBase (s.view u) :=
  view_invariant base_start (fun _ _ _ _ _ => base_step) hreach u

/-! ## Orderly runs -/

/-- Not on the list, and no thread will put it there. -/
structure Unlisted (v : UserView) : Prop where
  flag : v.user.userPvt.freeAfterCallback = false
  listed : v.listed = 0
  adds : v.user.adds = 0
  adding : ∀ e, v.stage e ≠ .adding

structure Listed (v : UserView) : Prop where
  flag : v.user.userPvt.freeAfterCallback = false
  listed : v.listed = 1
  adds : v.user.adds = 1
  ended : ∀ e, v.stage e = .away ∨ v.stage e = .finishing

/-- The thread is the only one with the `asynUser`. -/
def Alone (v : UserView) (e : Executor) : Prop := ∀ e', e' ≠ e → v.stage e' = .away

/-- One thread is left, and it will put the `asynUser` on the list. -/
structure Deferred (v : UserView) (e : Executor) : Prop where
  listed : v.listed = 0
  adds : v.user.adds = 0
  alone : Alone v e
  stage : (v.user.userPvt.freeAfterCallback = true ∧ (v.stage e = .running ∨ v.stage e = .finishing)) ∨
    (v.user.userPvt.freeAfterCallback = false ∧ v.stage e = .adding)

def Place (v : UserView) : Prop :=
  (v.user.phase ≠ .freed ∧ Unlisted v) ∨
    (v.user.phase = .freed ∧ (Listed v ∨ ∃ e, Deferred v e))

/-- `idle` and `busy`: what `freeAsynUser` has found is still true when it acts. -/
structure UserInv (v : UserView) : Prop where
  connected : v.user.userPvt.pport ≠ none → v.user.phase = .live
  testing : v.tested ≠ none → v.user.phase = .testing
  place : Place v
  idle : v.tested = some true → ∀ e, v.stage e ≠ .running
  busy : v.tested = some false → ∃ e, (v.stage e = .running ∨ v.stage e = .finishing) ∧ Alone v e

variable {v v' : UserView} {e : Executor}

theorem UserInv.unlisted (hinv : UserInv v) (hphase : v.user.phase ≠ .freed) : Unlisted v := by
  rcases hinv.place with ⟨-, hunlisted⟩ | ⟨hfreed, -⟩
  · exact hunlisted
  · exact absurd hfreed hphase

theorem UserInv.tested_none (hinv : UserInv v) (hphase : v.user.phase ≠ .testing) :
    v.tested = none := by
  by_contra htested
  exact hphase (hinv.testing htested)

/-- Outside `freeAsynUser` nothing has been found. -/
theorem inv_of_untested (hconnected : v.user.userPvt.pport ≠ none → v.user.phase = .live)
    (htested : v.tested = none) (hplace : Place v) : UserInv v := by
  refine ⟨hconnected, ?_, hplace, ?_, ?_⟩
  · intro h
    exact absurd htested h
  · intro h
    rw [htested] at h
    cases h
  · intro h
    rw [htested] at h
    cases h

theorem UserInv.eq_of_deferred {e₀ : Executor} (hdeferred : Deferred v e₀) (hstage : v.stage e ≠ .away) :
    e = e₀ := by
  by_contra hne
  exact hstage (hdeferred.alone e hne)

theorem inv_start (u : UserId) : UserInv (State.start.view u) := by
  refine inv_of_untested ?_ rfl (Or.inl ⟨?_, rfl, rfl, rfl, ?_⟩)
  · intro h
    exact absurd rfl h
  · intro h
    cases h
  · intro e h
    cases h

/-- `createAsynUser` takes an `asynUser` off the list. -/
theorem inv_reuse {n : Nat} (hinv : UserInv v) (hlisted : v.listed = n + 1) :
    UserInv { v with user := { v.user with phase := .initializing, adds := 0 }, listed := n } := by
  rcases hinv.place with ⟨-, hunlisted⟩ | ⟨hfreed, hplace⟩
  · have hzero := hunlisted.listed
    omega
  · have hport : v.user.userPvt.pport = none := by
      by_contra hport
      have hlive := hinv.connected hport
      rw [hfreed] at hlive
      cases hlive
    have htested := hinv.tested_none (by rw [hfreed]; decide)
    rcases hplace with hlist | ⟨e, hdeferred⟩
    · have hn : n = 0 := by
        have hone := hlist.listed
        omega
      refine inv_of_untested (fun h => absurd hport h) htested (Or.inl ⟨?_, hlist.flag, hn, rfl, ?_⟩)
      · exact fun h => nomatch h
      · intro e hadding
        rcases hlist.ended e with haway | hfinishing
        · exact absurd (hadding.symm.trans haway) (by decide)
        · exact absurd (hadding.symm.trans hfinishing) (by decide)
    · have hzero := hdeferred.listed
      omega

/-- The test of `state`. -/
theorem inv_tested (hbase : UserBase v) (hinv : UserInv v) (hphase : v.user.phase = .freeing)
    (halone : v.user.executors.length ≤ 1)
    (hrunning : v.user.userPvt.state = .callbackIdle → ∀ e ∈ v.user.executors, v.stage e ≠ .running) :
    UserInv { v with
      user := { v.user with phase := .testing }
      tested := some (decide (v.user.userPvt.state = .callbackIdle)) } := by
  have hunlisted := hinv.unlisted (by rw [hphase]; decide)
  refine ⟨?_, fun _ => rfl, Or.inl ⟨(fun h => nomatch h), ?_⟩, ?_, ?_⟩
  · intro hport
    have hlive := hinv.connected hport
    rw [hphase] at hlive
    cases hlive
  · exact ⟨hunlisted.flag, hunlisted.listed, hunlisted.adds, hunlisted.adding⟩
  · intro htested e hstage
    have hstate := of_decide_eq_true (Option.some.inj htested)
    have hmem : e ∈ v.user.executors := by
      rw [hbase.mem, hstage]
      decide
    exact hrunning hstate e hmem hstage
  · intro htested
    have hstate := of_decide_eq_false (Option.some.inj htested)
    obtain ⟨e, hstage⟩ := hbase.active hstate
    refine ⟨e, Or.inl hstage, ?_⟩
    intro e' hne
    by_contra haway
    have hmem : e ∈ v.user.executors := by
      rw [hbase.mem, hstage]
      decide
    have hmem' : e' ∈ v.user.executors := (hbase.mem e').mpr haway
    -- Two threads cannot both be in a list of at most one.
    match hlist : v.user.executors, halone with
    | [], _ => rw [hlist] at hmem; cases hmem
    | [x], _ =>
        rw [hlist, List.mem_singleton] at hmem hmem'
        exact hne (hmem'.trans hmem.symm)

/-- The branch of `freeAsynUser` for a callback that is not executing. -/
theorem inv_listed (hinv : UserInv v) (htested : v.tested = some true) :
    UserInv { v with
      user := { v.user with phase := .freed, adds := v.user.adds + 1 }
      listed := v.listed + 1
      tested := none } := by
  have hphase := hinv.testing (by rw [htested]; exact Option.some_ne_none _)
  have hunlisted := hinv.unlisted (by rw [hphase]; decide)
  refine inv_of_untested ?_ rfl (Or.inr ⟨rfl, Or.inl ⟨hunlisted.flag, ?_, ?_, ?_⟩⟩)
  · intro hport
    have hlive := hinv.connected hport
    rw [hphase] at hlive
    cases hlive
  · exact congrArg (· + 1) hunlisted.listed
  · exact congrArg (· + 1) hunlisted.adds
  · intro e
    have hrunning := hinv.idle htested e
    have hadding := hunlisted.adding e
    show v.stage e = .away ∨ v.stage e = .finishing
    cases hstage : v.stage e with
    | away => exact Or.inl rfl
    | running => exact absurd hstage hrunning
    | finishing => exact Or.inr rfl
    | adding => exact absurd hstage hadding

theorem inv_deferred (hinv : UserInv v) (htested : v.tested = some false) :
    UserInv { v with
      user := { v.user with
        userPvt := { v.user.userPvt with freeAfterCallback := true }
        phase := .freed }
      tested := none } := by
  have hphase := hinv.testing (by rw [htested]; exact Option.some_ne_none _)
  have hunlisted := hinv.unlisted (by rw [hphase]; decide)
  obtain ⟨e, hstage, halone⟩ := hinv.busy htested
  refine inv_of_untested ?_ rfl (Or.inr ⟨rfl, Or.inr ⟨e, hunlisted.listed, hunlisted.adds, halone, ?_⟩⟩)
  · intro hport
    have hlive := hinv.connected hport
    rw [hphase] at hlive
    cases hlive
  · exact Or.inl ⟨rfl, hstage⟩

/-! ### The threads -/

theorem UserInv.of_frame {p : UserPvt} {x : List Executor} {stage : Executor → Stage} (hinv : UserInv v)
    (hport : p.pport = v.user.userPvt.pport)
    (hplace : Place { v with user := { v.user with userPvt := p, executors := x }, stage := stage })
    (hidle : v.tested = some true → ∀ e, stage e ≠ .running)
    (hbusy : v.tested = some false →
      ∃ e, (stage e = .running ∨ stage e = .finishing) ∧ ∀ e', e' ≠ e → stage e' = .away) :
    UserInv { v with user := { v.user with userPvt := p, executors := x }, stage := stage } := by
  refine ⟨?_, hinv.testing, hplace, hidle, hbusy⟩
  intro h
  rw [hport] at h
  exact hinv.connected h

/-- Where no thread was, and the one that moves does not go. -/
theorem update_stage_ne {stage avoided : Stage} (hstage : stage ≠ avoided)
    (hall : ∀ e, v.stage e ≠ avoided) (e' : Executor) :
    Function.update v.stage e stage e' ≠ avoided := by
  by_cases he : e' = e
  · subst he
    rw [Function.update_self]
    exact hstage
  · rw [Function.update_of_ne he]
    exact hall e'

theorem inv_started (hinv : UserInv v) (hport : v.user.userPvt.pport ≠ none) :
    UserInv { v with
      user := { v.user with
        userPvt := { v.user.userPvt with isQueued := false, state := .callbackActive }
        executors := v.user.executors ++ [e] }
      stage := Function.update v.stage e .running } := by
  have hphase := hinv.connected hport
  have hunlisted := hinv.unlisted (by rw [hphase]; decide)
  have htested := hinv.tested_none (by rw [hphase]; decide)
  refine inv_of_untested hinv.connected htested (Or.inl ⟨?_, ?_⟩)
  · rw [hphase]
    decide
  · exact ⟨hunlisted.flag, hunlisted.listed, hunlisted.adds,
      update_stage_ne (by decide) hunlisted.adding⟩

theorem alone_update {stage : Stage} (halone : Alone v e) (e' : Executor) (hne : e' ≠ e) :
    Function.update v.stage e stage e' = .away := by
  rw [Function.update_of_ne hne]
  exact halone e' hne

theorem inv_ended {done : Bool} (hinv : UserInv v) (hstage : v.stage e = .running) :
    UserInv { v with
      user := { v.user with
        userPvt := { v.user.userPvt with callbackDone := done, state := .callbackIdle } }
      stage := Function.update v.stage e .finishing } := by
  have hhere : v.stage e ≠ .away := by
    rw [hstage]
    decide
  refine hinv.of_frame rfl ?_ ?_ ?_
  · rcases hinv.place with ⟨hphase, hunlisted⟩ | ⟨hphase, hlist | ⟨e₀, hdeferred⟩⟩
    · exact Or.inl ⟨hphase, hunlisted.flag, hunlisted.listed, hunlisted.adds,
        update_stage_ne (by decide) hunlisted.adding⟩
    · rcases hlist.ended e with haway | hfinishing
      · exact absurd haway hhere
      · exact absurd (hstage.symm.trans hfinishing) (by decide)
    · have he := UserInv.eq_of_deferred hdeferred hhere
      subst he
      refine Or.inr ⟨hphase, Or.inr ⟨e, hdeferred.listed, hdeferred.adds, alone_update hdeferred.alone, ?_⟩⟩
      rcases hdeferred.stage with ⟨hflag, -⟩ | ⟨-, hadding⟩
      · exact Or.inl ⟨hflag, Or.inr (Function.update_self ..)⟩
      · exact absurd (hstage.symm.trans hadding) (by decide)
  · intro htested
    exact absurd hstage (hinv.idle htested e)
  · intro htested
    obtain ⟨e₀, -, halone⟩ := hinv.busy htested
    have he : e = e₀ := by
      by_contra hne
      exact hhere (halone e hne)
    subst he
    exact ⟨e, Or.inr (Function.update_self ..), alone_update halone⟩

theorem inv_flagged (hinv : UserInv v) (hstage : v.stage e = .finishing)
    (hflag : v.user.userPvt.freeAfterCallback = true) :
    UserInv { v with
      user := { v.user with userPvt := { v.user.userPvt with freeAfterCallback := false } }
      stage := Function.update v.stage e .adding } := by
  have hhere : v.stage e ≠ .away := by
    rw [hstage]
    decide
  rcases hinv.place with ⟨-, hunlisted⟩ | ⟨hphase, hlist | ⟨e₀, hdeferred⟩⟩
  · rw [hunlisted.flag] at hflag
    cases hflag
  · rw [hlist.flag] at hflag
    cases hflag
  · have he := UserInv.eq_of_deferred hdeferred hhere
    subst he
    have htested := hinv.tested_none (by rw [hphase]; decide)
    refine inv_of_untested hinv.connected htested (Or.inr ⟨hphase, Or.inr ⟨e, ?_⟩⟩)
    exact ⟨hdeferred.listed, hdeferred.adds, alone_update hdeferred.alone,
      Or.inr ⟨rfl, Function.update_self ..⟩⟩

theorem inv_unflagged (hinv : UserInv v) (hstage : v.stage e = .finishing)
    (hflag : v.user.userPvt.freeAfterCallback = false) (htested : v.tested ≠ some false) :
    UserInv { v with
      user := { v.user with executors := v.user.executors.erase e }
      stage := Function.update v.stage e .away } := by
  have hhere : v.stage e ≠ .away := by
    rw [hstage]
    decide
  refine hinv.of_frame rfl ?_ ?_ ?_
  · rcases hinv.place with ⟨hphase, hunlisted⟩ | ⟨hphase, hlist | ⟨e₀, hdeferred⟩⟩
    · exact Or.inl ⟨hphase, hunlisted.flag, hunlisted.listed, hunlisted.adds,
        update_stage_ne (by decide) hunlisted.adding⟩
    · refine Or.inr ⟨hphase, Or.inl ⟨hlist.flag, hlist.listed, hlist.adds, ?_⟩⟩
      intro e'
      by_cases he : e' = e
      · subst he
        exact Or.inl (Function.update_self ..)
      · have hsame : Function.update v.stage e .away e' = v.stage e' := Function.update_of_ne he ..
        show Function.update v.stage e .away e' = .away ∨ Function.update v.stage e .away e' = .finishing
        rw [hsame]
        exact hlist.ended e'
    · have he := UserInv.eq_of_deferred hdeferred hhere
      subst he
      rcases hdeferred.stage with ⟨htrue, -⟩ | ⟨-, hadding⟩
      · exact absurd (hflag.symm.trans htrue) (by decide)
      · exact absurd (hstage.symm.trans hadding) (by decide)
  · intro h
    exact update_stage_ne (by decide) (hinv.idle h)
  · intro h
    exact absurd h htested

theorem inv_added (hinv : UserInv v) (hstage : v.stage e = .adding) :
    UserInv { v with
      user := { v.user with
        executors := v.user.executors.erase e
        adds := v.user.adds + 1 }
      listed := v.listed + 1
      stage := Function.update v.stage e .away } := by
  have hhere : v.stage e ≠ .away := by
    rw [hstage]
    decide
  rcases hinv.place with ⟨-, hunlisted⟩ | ⟨hphase, hlist | ⟨e₀, hdeferred⟩⟩
  · exact absurd hstage (hunlisted.adding e)
  · rcases hlist.ended e with haway | hfinishing
    · exact absurd haway hhere
    · exact absurd (hstage.symm.trans hfinishing) (by decide)
  · have he := UserInv.eq_of_deferred hdeferred hhere
    subst he
    have htested := hinv.tested_none (by rw [hphase]; decide)
    have hflag : v.user.userPvt.freeAfterCallback = false := by
      rcases hdeferred.stage with ⟨-, hrunning | hfinishing⟩ | ⟨hfalse, -⟩
      · exact absurd (hstage.symm.trans hrunning) (by decide)
      · exact absurd (hstage.symm.trans hfinishing) (by decide)
      · exact hfalse
    refine inv_of_untested hinv.connected htested (Or.inr ⟨hphase, Or.inl ⟨hflag, ?_, ?_, ?_⟩⟩)
    · exact congrArg (· + 1) hdeferred.listed
    · exact congrArg (· + 1) hdeferred.adds
    · intro e'
      by_cases he : e' = e
      · subst he
        exact Or.inl (Function.update_self ..)
      · exact Or.inl (alone_update hdeferred.alone e' he)

theorem inv_step {ok : Prop} (hok : ok) (hstep : UserStep ok v v') (hbase : UserBase v)
    (hinv : UserInv v) : UserInv v' := by
  cases hstep with
  | same => exact hinv
  | fresh hphase =>
      have hunlisted := hinv.unlisted (by rw [hphase]; decide)
      have htested := hinv.tested_none (by rw [hphase]; decide)
      refine inv_of_untested (fun h => absurd rfl h) htested (Or.inl ⟨(fun h => nomatch h), ?_⟩)
      exact ⟨rfl, hunlisted.listed, rfl, hunlisted.adding⟩
  | reuse n hlisted => exact inv_reuse hinv hlisted
  | created process timeout hphase =>
      have hunlisted := hinv.unlisted (by rw [hphase]; decide)
      have htested := hinv.tested_none (by rw [hphase]; decide)
      refine inv_of_untested (fun _ => rfl) htested (Or.inl ⟨(fun h => nomatch h), ?_⟩)
      exact ⟨hunlisted.flag, hunlisted.listed, hunlisted.adds, hunlisted.adding⟩
  | client w hphase hchange =>
      have hunlisted := hinv.unlisted (by rw [hphase]; decide)
      have htested := hinv.tested_none (by rw [hphase]; decide)
      refine inv_of_untested (fun _ => hphase) htested (Or.inl ⟨?_, ?_⟩)
      · show v.user.phase ≠ .freed
        rw [hphase]
        decide
      · exact ⟨hchange.flag.trans hunlisted.flag, hunlisted.listed, hunlisted.adds, hunlisted.adding⟩
  | freeing w hphase hchange hport =>
      have hunlisted := hinv.unlisted (by rw [hphase]; decide)
      have htested := hinv.tested_none (by rw [hphase]; decide)
      refine inv_of_untested (fun h => absurd hport h) htested (Or.inl ⟨(fun h => nomatch h), ?_⟩)
      exact ⟨hchange.flag.trans hunlisted.flag, hunlisted.listed, hunlisted.adds, hunlisted.adding⟩
  | tested hphase hguard =>
      obtain ⟨halone, hrunning⟩ := hguard hok
      exact inv_tested hbase hinv hphase halone hrunning
  | listed htested => exact inv_listed hinv htested
  | deferred htested => exact inv_deferred hinv htested
  | refused hqueued hport =>
      refine hinv.of_frame rfl ?_ hinv.idle hinv.busy
      have hphase : v.user.phase ≠ .freed := by
        rw [hinv.connected hport]
        decide
      have hunlisted := hinv.unlisted hphase
      exact Or.inl ⟨hphase, hunlisted.flag, hunlisted.listed, hunlisted.adds, hunlisted.adding⟩
  | started e hqueued hport hstage => exact inv_started hinv hport
  | ended e done hstage => exact inv_ended hinv hstage
  | flagged e hstage hflag hguard => exact inv_flagged hinv hstage hflag
  | unflagged e hstage hflag hguard => exact inv_unflagged hinv hstage hflag (hguard hok)
  | added e hstage => exact inv_added hinv hstage

theorem inv_of_reachable {s : State} (hreach : machine.Reachable Orderly s) (u : UserId) :
    UserInv (s.view u) := by
  have hboth := view_invariant (I := fun v => UserBase v ∧ UserInv v)
    (fun u => ⟨base_start u, inv_start u⟩)
    (fun _ _ _ _ hok hstep h => ⟨base_step hstep h.1, inv_step hok hstep h.1 h.2⟩) hreach u
  exact hboth.2

/-! ## The free list -/

theorem willAdd_of_deferred {s : State} {e : Executor} {u : UserId} (hdeferred : Deferred (s.view u) e) :
    s.WillAdd e u := by
  rcases hdeferred.stage with ⟨hflag, hrunning | hfinishing⟩ | ⟨-, hadding⟩
  · obtain ⟨p, hpc⟩ := stage_eq_running.mp hrunning
    exact Or.inr ⟨⟨p, Or.inl hpc⟩, hflag⟩
  · obtain ⟨p, hpc⟩ := stage_eq_finishing.mp hfinishing
    exact Or.inr ⟨⟨p, Or.inr hpc⟩, hflag⟩
  · exact Or.inl (stage_eq_adding.mp hadding)

/-- In every orderly run no `asynUser` is lost or shared. -/
theorem freeSafe_of_reachable {s : State} (hreach : machine.Reachable Orderly s) : FreeSafe s := by
  have hinv := inv_of_reachable hreach
  have hbase := base_of_reachable hreach
  have hmem : ∀ u, u ∈ s.asynUserFreeList ↔ 0 < (s.view u).listed :=
    fun u => List.count_pos_iff.symm
  -- A listed `asynUser` is in no other place.
  have hlisted : ∀ u ∈ s.asynUserFreeList, (s.user u).phase = .freed ∧ Listed (s.view u) := by
    intro u hu
    have hpos := (hmem u).mp hu
    rcases (hinv u).place with ⟨-, hunlisted⟩ | ⟨hphase, hlist | ⟨e, hdeferred⟩⟩
    · have hzero := hunlisted.listed
      omega
    · exact ⟨hphase, hlist⟩
    · have hzero := hdeferred.listed
      omega
  refine ⟨?_, ?_, ?_, ?_, ?_⟩
  · intro u hfreed
    rcases (hinv u).place with ⟨hphase, -⟩ | ⟨-, hlist | ⟨e, hdeferred⟩⟩
    · exact absurd hfreed hphase
    · exact Or.inl ⟨(hmem u).mpr (by rw [hlist.listed]; exact Nat.one_pos), hlist.adds⟩
    · refine Or.inr ⟨?_, hdeferred.adds, e, willAdd_of_deferred hdeferred⟩
      rw [hmem, hdeferred.listed]
      exact Nat.lt_irrefl 0
  · rw [List.nodup_iff_count_le_one]
    intro u
    by_cases hu : u ∈ s.asynUserFreeList
    · exact Nat.le_of_eq (hlisted u hu).2.listed
    · rw [List.count_eq_zero_of_not_mem hu]
      exact Nat.zero_le 1
  · intro u hu
    exact (hlisted u hu).1
  · intro u hu e hexecuting
    have hrunning : (s.view u).stage e = .running := stage_eq_running.mpr hexecuting
    rcases (hlisted u hu).2.ended e with haway | hfinishing
    · exact absurd (hrunning.symm.trans haway) (by decide)
    · exact absurd (hrunning.symm.trans hfinishing) (by decide)
  · intro u hphase
    have hport : (s.user u).userPvt.pport = none := by
      by_contra hport
      have hlive : (s.user u).phase = .live := (hinv u).connected hport
      rw [hphase] at hlive
      cases hlive
    have hview : (s.view u).user.phase ≠ .freed := by
      show (s.user u).phase ≠ .freed
      rw [hphase]
      decide
    obtain ⟨-, hblockPort, hblockDevice, hexception⟩ := (hbase u).clean hport
    exact ⟨hblockPort, hblockDevice, ((hinv u).unlisted hview).flag, hexception⟩

/-- An `asynUser` that is connected and in its callback. -/
def inCallback : List Action :=
  [.createPop 0, .createInit 0 true true, .connectDevice 0 0 none, .queueRequest 0 0,
    .startCallback (.portThread 0) 0]

/-- `freeAsynUser` is called in the callback and finishes before the callback ends. -/
def deferredRun : List Action :=
  inCallback ++ [Action.freeCall 0, .freeTest 0, .freeAct, .endCallback (.portThread 0),
    .testFree (.portThread 0), .addFree (.portThread 0)]

theorem freeSafe_deferredRun :
    ∃ s, FreeSafe s ∧ s.asynUserFreeList = [0] ∧ (s.user 0).phase = .freed := by
  have hrun : ∃ s, machine.Reachable Orderly s ∧
      (s.asynUserFreeList, (s.user 0).phase) = ([0], .freed) := by
    have hcheck : ∀ s a, decide (Orderly s a) = true → Orderly s a := fun _ _ => of_decide_eq_true
    refine Machine.exists_reachable_of_execGuarded _ hcheck deferredRun (s := .start) rfl ?_
    decide
  obtain ⟨s, hreach, hvalues⟩ := hrun
  obtain ⟨hlist, hphase⟩ := Prod.mk.inj hvalues
  exact ⟨s, freeSafe_of_reachable hreach, hlist, hphase⟩

/-- The callback ends between the test and the assignment of `freeAsynUser`. -/
def lostRun : List Action :=
  inCallback ++ [Action.freeCall 0, .freeTest 0, .endCallback (.portThread 0), .testFree (.portThread 0),
    .freeAct]

/-- The callback queues its `asynUser` again, `timeoutUser` runs meanwhile, and after it
`freeAsynUser` finds `callbackIdle`. -/
def sharedRun : List Action :=
  inCallback ++ [Action.queueRequest 0 1, .startCallback .timerThread 0, .endCallback .timerThread,
    .testFree .timerThread, .freeCall 0, .freeTest 0, .freeAct]

theorem not_willAdd_of_executors {guard : State → Action → Prop} {s : State} {u : UserId}
    (hreach : machine.Reachable guard s) (hnone : (s.user u).executors = []) (e : Executor) :
    ¬ s.WillAdd e u := by
  have haway : (s.executor e).stage u = .away := by
    by_contra hstage
    have hmem : e ∈ (s.user u).executors := ((base_of_reachable hreach u).mem e).mpr hstage
    rw [hnone] at hmem
    cases hmem
  rintro (hadding | ⟨⟨p, hrunning | hfinishing⟩, -⟩)
  · exact absurd ((stage_eq_adding.mpr hadding).symm.trans haway) (by decide)
  · exact absurd ((stage_eq_running.mpr ⟨p, hrunning⟩).symm.trans haway) (by decide)
  · exact absurd ((stage_eq_finishing.mpr ⟨p, hfinishing⟩).symm.trans haway) (by decide)

/-- An `asynUser` whose `freeAsynUser` has returned can be lost for ever, and one can be on the free
list while its `processUser` executes. -/
theorem lost_or_shared :
    (∃ s, machine.Reachable Machine.Unguarded s ∧ (s.user 0).phase = .freed ∧
      0 ∉ s.asynUserFreeList ∧ (∀ e, ¬ s.WillAdd e 0) ∧ ¬ FreeSafe s) ∧
    (∃ s, machine.Reachable Machine.Unguarded s ∧ 0 ∈ s.asynUserFreeList ∧
      s.Executing (.portThread 0) 0 ∧ ¬ FreeSafe s) := by
  constructor
  · obtain ⟨s, hreach, hvalues⟩ := Machine.exists_reachable_of_exec (M := machine)
      (fun s => ((s.user 0).phase, s.asynUserFreeList, (s.user 0).executors)) (s := .start)
      (b := (.freed, [], [])) lostRun rfl (by decide)
    obtain ⟨hphase, hrest⟩ := Prod.mk.inj hvalues
    obtain ⟨hlist, hexecutors⟩ := Prod.mk.inj hrest
    have hlost : 0 ∉ s.asynUserFreeList := by
      rw [hlist]
      exact List.not_mem_nil
    have hnever := not_willAdd_of_executors hreach hexecutors
    refine ⟨s, hreach, hphase, hlost, hnever, ?_⟩
    intro hsafe
    rcases hsafe.once 0 hphase with ⟨hmem, -⟩ | ⟨-, -, e, hwill⟩
    · exact hlost hmem
    · exact hnever e hwill
  · obtain ⟨s, hreach, hvalues⟩ := Machine.exists_reachable_of_exec (M := machine)
      (fun s => (s.asynUserFreeList, s.executor (.portThread 0))) (s := .start)
      (b := ([0], .running 0 0)) sharedRun rfl (by decide)
    obtain ⟨hlist, hpc⟩ := Prod.mk.inj hvalues
    have hmem : 0 ∈ s.asynUserFreeList := by
      rw [hlist]
      exact List.mem_singleton_self 0
    refine ⟨s, hreach, hmem, ⟨0, hpc⟩, ?_⟩
    intro hsafe
    exact hsafe.notExecuting 0 hmem (.portThread 0) ⟨0, hpc⟩

end FreeList
end Manager
end AsynDriver
