import Mathlib.Data.List.Nodup
import AsynDriver.Manager.Trace

/-!
# The announcements of `asynTrace`

The `set` methods for the masks hold no lock: a thread stores a mask in one place, announces it there,
and goes on to the next place, while other threads do the same.

* `Pc`, `Shared.thread` — a `set` method store by store, and each announcement callback by callback.
* `Shared.seen` — the masks that an exception user has read, in its callback or when it was added.
* `thread_alone` — a thread that is not interrupted does what `setMask` does.
* `upToDate_reachable` — an exception user has read the masks of its place, unless a thread is about
  to call it.
-/

namespace AsynDriver
namespace Manager
namespace Trace

open Library

/-- Where a thread is in a `set` method. -/
inductive Pc
  | idle
  | device (k : MaskKind) (mask : Int) (p d : Nat)
  | walk (k : MaskKind) (mask : Int) (p d : Nat)
  | announce (k : MaskKind) (mask : Int) (c scope : Place) (j : Nat)
  deriving DecidableEq, Repr

structure Shared where
  manager : State
  pc : ThreadId → Pc
  exceptionUserList : Place → List UserId
  pexceptionUser : UserId → Option Place
  seen : UserId → MaskKind → Int

inductive Action
  | call (call : Call)
  | setMask (t : ThreadId) (k : MaskKind) (pasynUser : Option UserId) (mask : Int)
  | thread (t : ThreadId)
  | exceptionCallbackAdd (u : UserId)
  | exceptionCallbackRemove (u : UserId)

namespace Shared

def goto (s : Shared) (t : ThreadId) (pc : Pc) : Shared :=
  { s with pc := Function.update s.pc t pc }

/-- A `set` method up to its first store. -/
def setMask (s : Shared) (t : ThreadId) (k : MaskKind) (pasynUser : Option UserId) (mask : Int) :
    Shared :=
  match pasynUser with
  | none => { s with manager := (Trace.setMask k s.manager none mask).1 }
  | some u =>
      match s.manager.users u with
      | none => s
      | some ⟨p, some d⟩ => s.goto t (.device k mask p d)
      | some ⟨p, none⟩ => s.goto t (.walk k mask p 0)

def store (s : Shared) (k : MaskKind) (mask : Int) (c : Place) : Shared :=
  { s with manager := s.manager.modTrace c (TracePvt.setMask k mask) }

/-- The masks of a place are read. -/
def read (s : Shared) (u : UserId) (c : Place) (k : MaskKind) : Shared :=
  { s with
    seen := Function.update s.seen u
      (Function.update (s.seen u) k ((s.manager.trace c).mask k)) }

/-- After the announcement at `c` of a call that was made for `scope`. -/
def announced (s : Shared) (t : ThreadId) (k : MaskKind) (mask : Int) (c scope : Place) : Shared :=
  let s := { s with manager := s.manager.announce c k.exception }
  if c = scope then
    { s with manager := s.manager.record (.set ⟨scope, .mask k mask⟩) }.goto t .idle
  else
    match c with
    | .device p d => s.goto t (.walk k mask p (d + 1))
    | _ => s.goto t .idle

/-- The next step of a thread. -/
def thread (s : Shared) (t : ThreadId) : Option Shared :=
  match s.pc t with
  | .idle => none
  | .device k mask p d =>
      some ((s.store k mask (.device p d)).goto t (.announce k mask (.device p d) (.device p d) 0))
  | .walk k mask p d =>
      if d < deviceCount s.manager p then
        some ((s.store k mask (.device p d)).goto t (.announce k mask (.device p d) (.port p) 0))
      else some ((s.store k mask (.port p)).goto t (.announce k mask (.port p) (.port p) 0))
  | .announce k mask c scope j =>
      match (s.exceptionUserList c)[j]? with
      | some u => some ((s.read u c k).goto t (.announce k mask c scope (j + 1)))
      | none => some (s.announced t k mask c scope)

end Shared

/-- `disconnect` refuses an exception user. -/
def Action.disconnectBusy (s : Shared) (u : UserId) (busy : Option String) : Option String :=
  match s.pexceptionUser u with
  | some _ => some "asynManager::disconnect: on exceptionCallback list"
  | none => busy

def Shared.step (s : Shared) : Action → Option Shared
  | .call (.setMask _ _ _) => none
  | .call (.disconnect u busy) =>
      some { s with
        manager := (Trace.disconnect s.manager u (Action.disconnectBusy s u busy)).1 }
  | .call call => some { s with manager := (call.run s.manager).1 }
  | .setMask t k pasynUser mask =>
      if s.pc t = .idle then some (s.setMask t k pasynUser mask) else none
  | .thread t => s.thread t
  | .exceptionCallbackAdd u =>
      match s.manager.users u, s.pexceptionUser u with
      | some _, none =>
          let c := findTracePvt s.manager u
          some { s with
            exceptionUserList :=
              Function.update s.exceptionUserList c (s.exceptionUserList c ++ [u])
            pexceptionUser := Function.update s.pexceptionUser u (some c)
            seen := Function.update s.seen u ((s.manager.trace c).mask) }
      | _, _ => none
  | .exceptionCallbackRemove u =>
      match s.pexceptionUser u with
      | some c =>
          some { s with
            exceptionUserList :=
              Function.update s.exceptionUserList c ((s.exceptionUserList c).erase u)
            pexceptionUser := Function.update s.pexceptionUser u none }
      | none => none

def Action.removes : Action → Bool
  | .exceptionCallbackRemove _ => true
  | _ => false

/-- `exceptionCallbackRemove` waits for the announcements at its place. -/
def Waits (s : Shared) : Action → Prop
  | .exceptionCallbackRemove u =>
      ∀ t k mask c scope j, s.pc t = .announce k mask c scope j → s.pexceptionUser u ≠ some c
  | _ => True

/-- No port, no user, and no thread in a method. -/
def nobody : Shared where
  manager := asynInit
  pc _ := .idle
  exceptionUserList _ := []
  pexceptionUser _ := none
  seen _ := tracePvtInit.mask

def sharedMachine : Machine Shared Action where
  init s := s = nobody
  step := Shared.step

/-! ## What the calls leave alone -/

/-- What there is stays, and so do its masks. -/
def KeepsMasks (s s' : State) : Prop :=
  ∀ c, Live s c → Live s' c ∧ (s'.trace c).mask = (s.trace c).mask

theorem keepsMasks_refl (s : State) : KeepsMasks s s :=
  fun _ hc => ⟨hc, rfl⟩

theorem Creates.keepsMasks {s s' : State} {q : Place} (hcreates : Creates s s' q) :
    KeepsMasks s s' := by
  intro c hc
  have hne : c ≠ q := by
    rintro rfl
    exact hcreates.fresh hc
  exact ⟨(hcreates.live c).mpr (Or.inr hc), by rw [hcreates.old c hne]⟩

theorem Changes.keepsMasks {s s' : State} {c : Place} {x : Change} (hchanges : Changes s s' c x)
    (hmask : ∀ k mask, x ≠ .mask k mask) : KeepsMasks s s' := by
  refine fun c' hc => ⟨(live_congr hchanges.ports c').mpr hc, ?_⟩
  by_cases heq : c' = c
  · subst heq
    refine (congrArg TraceSettings.mask hchanges.own).trans ?_
    cases x with
    | mask k mask => exact absurd rfl (hmask k mask)
    | _ => rfl
  · rw [hchanges.other c' heq]

theorem run_keepsMasks {s : State} (hknown : Known s) {call : Call}
    (hcall : ∀ k pasynUser mask, call ≠ .setMask k pasynUser mask) :
    KeepsMasks s (call.run s).1 := by
  cases call with
  | setMask k pasynUser mask => exact absurd rfl (hcall k pasynUser mask)
  | registerPort | connectDevice | disconnect =>
      exact run_connects hknown trivial (keepsMasks_refl s)
        (fun _ _ hcreates => hcreates.keepsMasks) (fun _ _ h => h)
  | setTraceFile u file fcloseError =>
      have hchanges := setTraceFile_changes s u file fcloseError
      exact hchanges.keepsMasks (fun k mask => Change.noConfusion)
  | setTraceIOTruncateSize u size memory =>
      change KeepsMasks s (setTraceIOTruncateSize s u size memory).1
      rcases setTraceIOTruncateSize_cases s u size memory with hsame | ⟨hchanges, -⟩
      · rw [hsame]
        exact keepsMasks_refl s
      · exact hchanges.keepsMasks (fun k mask => Change.noConfusion)

/-! ## The invariant -/

/-- A thread is going to call the exception user number `i` of a place. -/
def Awaits (s : Shared) (k : MaskKind) (c : Place) (i : Nat) : Prop :=
  ∃ t mask scope j, s.pc t = .announce k mask c scope j ∧ j ≤ i

structure Inv (s : Shared) : Prop where
  known : Known s.manager
  mem : ∀ u c, u ∈ s.exceptionUserList c ↔ s.pexceptionUser u = some c
  nodup : ∀ c, (s.exceptionUserList c).Nodup
  live : ∀ u c, s.pexceptionUser u = some c → Live s.manager c ∧ c ≠ .base
  upToDate : ∀ c i u, (s.exceptionUserList c)[i]? = some u → ∀ k,
    s.seen u k = (s.manager.trace c).mask k ∨ Awaits s k c i

variable {s s' : Shared} {t : ThreadId} {pc : Pc} {k : MaskKind} {mask : Int} {c scope : Place} {j : Nat}

/-- A step of the manager that leaves the masks of what there is alone. -/
theorem Inv.manager (hinv : Inv s) {m : State} (hknown : Known m)
    (hkeeps : ∀ u c, s.pexceptionUser u = some c → Live m c ∧
      (m.trace c).mask = (s.manager.trace c).mask) : Inv { s with manager := m } := by
  refine ⟨hknown, hinv.mem, hinv.nodup, ?_, ?_⟩
  · intro u c hu
    exact ⟨(hkeeps u c hu).1, (hinv.live u c hu).2⟩
  · intro c i u hu k
    have hmem := (hinv.mem u c).mp (List.mem_of_getElem? hu)
    change s.seen u k = (m.trace c).mask k ∨ _
    rw [(hkeeps u c hmem).2]
    exact hinv.upToDate c i u hu k

theorem Inv.call (hinv : Inv s) (call : Call)
    (hcall : ∀ k pasynUser mask, call ≠ .setMask k pasynUser mask) :
    Inv { s with manager := (call.run s.manager).1 } := by
  have hkeeps := run_keepsMasks hinv.known hcall
  exact hinv.manager (run_known hinv.known call) (fun u c hu => hkeeps c (hinv.live u c hu).1)

/-- No announcement of `t` is lost with where it was. -/
def NotAnnouncing (s : Shared) (t : ThreadId) : Prop :=
  ∀ k mask c scope j, s.pc t ≠ .announce k mask c scope j

theorem Awaits.goto {c : Place} {i : Nat} (hawaits : Awaits s k c i)
    (hown : ∀ mask scope j, s.pc t = .announce k mask c scope j → j ≤ i →
      ∃ mask scope j, pc = .announce k mask c scope j ∧ j ≤ i) : Awaits (s.goto t pc) k c i := by
  obtain ⟨t', mask, scope, j, hpc, hle⟩ := hawaits
  by_cases ht : t' = t
  · subst ht
    obtain ⟨mask', scope', j', hpc', hle'⟩ := hown mask scope j hpc hle
    refine ⟨t', mask', scope', j', ?_, hle'⟩
    change Function.update s.pc t' pc t' = _
    rw [Function.update_self]
    exact hpc'
  · refine ⟨t', mask, scope, j, ?_, hle⟩
    change Function.update s.pc t pc t' = _
    rw [Function.update_of_ne ht]
    exact hpc

theorem Inv.goto (hinv : Inv s)
    (hown : ∀ k mask c scope j i u, s.pc t = .announce k mask c scope j → j ≤ i →
      (s.exceptionUserList c)[i]? = some u →
        s.seen u k = (s.manager.trace c).mask k ∨
          ∃ mask scope j, pc = .announce k mask c scope j ∧ j ≤ i) : Inv (s.goto t pc) := by
  refine ⟨hinv.known, hinv.mem, hinv.nodup, hinv.live, ?_⟩
  intro c i u hu k
  rcases hinv.upToDate c i u hu k with hseen | hawaits
  · exact Or.inl hseen
  · by_cases hseen : s.seen u k = (s.manager.trace c).mask k
    · exact Or.inl hseen
    · refine Or.inr (hawaits.goto ?_)
      intro mask scope j hpc hle
      exact (hown k mask c scope j i u hpc hle hu).resolve_left hseen

theorem Inv.goto_of_not (hinv : Inv s) (hnot : NotAnnouncing s t) : Inv (s.goto t pc) := by
  refine hinv.goto ?_
  intro k mask c scope j i u hpc
  exact absurd hpc (hnot k mask c scope j)

/-- A store, with the announcement after it still to come. -/
theorem Inv.store (hinv : Inv s) (hnot : NotAnnouncing s t) (k : MaskKind) (mask : Int)
    (c scope : Place) :
    Inv ((s.store k mask c).goto t (.announce k mask c scope 0)) := by
  have hports : (s.store k mask c).manager.asynPortList = s.manager.asynPortList := rfl
  refine ⟨hinv.known.congr rfl rfl, hinv.mem, hinv.nodup, ?_, ?_⟩
  · intro u c' hu
    exact ⟨(live_congr hports c').mpr (hinv.live u c' hu).1, (hinv.live u c' hu).2⟩
  · intro c' i u hu k'
    by_cases hsame : c' = c ∧ k' = k
    · obtain ⟨rfl, rfl⟩ := hsame
      refine Or.inr ⟨t, mask, scope, 0, ?_, Nat.zero_le i⟩
      change Function.update s.pc t _ t = _
      rw [Function.update_self]
    · have hmask : ((s.store k mask c).manager.trace c').mask k' =
          (s.manager.trace c').mask k' := by
        change ((setMaskAt k mask s.manager c).trace c').mask k' = _
        rw [setMaskAt_trace]
        by_cases hc : c' = c
        · have hk : k' ≠ k := fun h => hsame ⟨hc, h⟩
          rw [if_pos hc]
          change Function.update (s.manager.trace c').mask k mask k' = _
          rw [Function.update_of_ne hk]
        · rw [if_neg hc]
      change s.seen u k' = ((s.store k mask c).manager.trace c').mask k' ∨ _
      rw [hmask]
      refine (hinv.upToDate c' i u hu k').imp_right ?_
      intro hawaits
      have hmoved : Awaits (s.goto t (.announce k mask c scope 0)) k' c' i :=
        hawaits.goto (fun mask' scope' j hpc _ => absurd hpc (hnot k' mask' c' scope' j))
      exact hmoved

/-- The callback of the exception user number `j`. -/
theorem Inv.callback (hinv : Inv s) (hpc : s.pc t = .announce k mask c scope j) {u : UserId}
    (hu : (s.exceptionUserList c)[j]? = some u) :
    Inv ((s.read u c k).goto t (.announce k mask c scope (j + 1))) := by
  have hplace := (hinv.mem u c).mp (List.mem_of_getElem? hu)
  refine ⟨hinv.known, hinv.mem, hinv.nodup, hinv.live, ?_⟩
  intro c' i u' hu' k'
  by_cases hsame : u' = u ∧ k' = k
  · obtain ⟨rfl, rfl⟩ := hsame
    have hplace' := (hinv.mem u' c').mp (List.mem_of_getElem? hu')
    have hc : c' = c := Option.some.inj (hplace'.symm.trans hplace)
    refine Or.inl ?_
    change Function.update s.seen u' _ u' k' = (s.manager.trace c').mask k'
    rw [Function.update_self, Function.update_self, hc]
  · have hseen : (s.read u c k).seen u' k' = s.seen u' k' := by
      change Function.update s.seen u _ u' k' = _
      by_cases heq : u' = u
      · subst heq
        have hk : k' ≠ k := fun h => hsame ⟨rfl, h⟩
        rw [Function.update_self, Function.update_of_ne hk]
      · rw [Function.update_of_ne heq]
    change (s.read u c k).seen u' k' = (s.manager.trace c').mask k' ∨ _
    rw [hseen]
    refine (hinv.upToDate c' i u' hu' k').imp_right ?_
    intro hawaits
    have hmoved : Awaits (s.goto t (.announce k mask c scope (j + 1))) k' c' i := by
      refine hawaits.goto ?_
      intro mask' scope' j' hpc' hle
      rw [hpc] at hpc'
      cases hpc'
      -- the user that `t` has just called is not the one in question
      have hne : i ≠ j := by
        rintro rfl
        exact hsame ⟨Option.some.inj (hu'.symm.trans hu), rfl⟩
      exact ⟨mask, scope, j + 1, rfl, by omega⟩
    exact hmoved

theorem Inv.announced (hinv : Inv s) (hpc : s.pc t = .announce k mask c scope j)
    (hend : (s.exceptionUserList c)[j]? = none) : Inv (s.announced t k mask c scope) := by
  have hgoto : ∀ pc, Inv (s.goto t pc) := by
    intro pc
    refine hinv.goto ?_
    intro k' mask' c' scope' j' i u hpc' hle hu
    rw [hpc] at hpc'
    cases hpc'
    have hlt : i < (s.exceptionUserList c).length := (List.getElem?_eq_some_iff.mp hu).1
    have hlength := List.getElem?_eq_none_iff.mp hend
    omega
  unfold Shared.announced
  dsimp only
  split
  · exact (hgoto .idle).manager (hinv.known.congr rfl rfl) (fun u c' hu =>
      ⟨(live_congr rfl c').mpr (hinv.live u c' hu).1, rfl⟩)
  · split
    · next p d _ =>
        exact (hgoto (.walk k mask p (d + 1))).manager (hinv.known.congr rfl rfl)
          (fun u c' hu => ⟨(live_congr rfl c').mpr (hinv.live u c' hu).1, rfl⟩)
    · exact (hgoto .idle).manager (hinv.known.congr rfl rfl) (fun u c' hu =>
        ⟨(live_congr rfl c').mpr (hinv.live u c' hu).1, rfl⟩)

theorem Inv.thread (hinv : Inv s) (hstep : s.thread t = some s') : Inv s' := by
  unfold Shared.thread at hstep
  cases hpc : s.pc t with
  | idle => simp [hpc] at hstep
  | device k mask p d =>
      simp only [hpc, Option.some.injEq] at hstep
      subst hstep
      refine hinv.store ?_ k mask _ _
      intro k mask c scope j hpc'
      rw [hpc] at hpc'
      cases hpc'
  | walk k mask p d =>
      have hnot : NotAnnouncing s t := by
        intro k mask c scope j hpc'
        rw [hpc] at hpc'
        cases hpc'
      simp only [hpc] at hstep
      split at hstep
      · cases hstep
        exact hinv.store hnot k mask _ _
      · cases hstep
        exact hinv.store hnot k mask _ _
  | announce k mask c scope j =>
      simp only [hpc] at hstep
      cases hu : (s.exceptionUserList c)[j]? with
      | some u =>
          simp only [hu, Option.some.injEq] at hstep
          subst hstep
          exact hinv.callback hpc hu
      | none =>
          simp only [hu, Option.some.injEq] at hstep
          subst hstep
          exact hinv.announced hpc hu

/-- A new exception user has read the masks. -/
theorem Inv.add (hinv : Inv s) {u : UserId} {t : Target} (hu : s.manager.users u = some t)
    (hnew : s.pexceptionUser u = none) :
    Inv { s with
      exceptionUserList :=
        Function.update s.exceptionUserList (findTracePvt s.manager u)
          (s.exceptionUserList (findTracePvt s.manager u) ++ [u])
      pexceptionUser := Function.update s.pexceptionUser u (some (findTracePvt s.manager u))
      seen :=
        Function.update s.seen u ((s.manager.trace (findTracePvt s.manager u)).mask) } := by
  have hplace := hinv.known.findTracePvt u
  have hlive : Live s.manager (findTracePvt s.manager u) := by
    rw [hplace]
    exact hinv.known.live u
  have hbase : findTracePvt s.manager u ≠ .base := by
    rw [hplace, hu]
    obtain ⟨p, pdevice⟩ := t
    cases pdevice <;> exact Place.noConfusion
  have hnotin : ∀ c, u ∉ s.exceptionUserList c := by
    intro c hmem
    rw [(hinv.mem u c).mp hmem] at hnew
    cases hnew
  generalize findTracePvt s.manager u = place at hlive hbase
  refine ⟨hinv.known, ?_, ?_, ?_, ?_⟩
  · intro u' c
    change u' ∈ Function.update s.exceptionUserList place _ c ↔
      Function.update s.pexceptionUser u (some place) u' = some c
    by_cases hu' : u' = u
    · subst hu'
      rw [Function.update_self, Option.some.injEq]
      by_cases hc : c = place
      · subst hc
        simp
      · rw [Function.update_of_ne hc]
        exact iff_of_false (hnotin c) (fun h => hc h.symm)
    · rw [Function.update_of_ne hu', ← hinv.mem u' c]
      by_cases hc : c = place
      · subst hc
        simp [hu']
      · rw [Function.update_of_ne hc]
  · intro c
    change (Function.update s.exceptionUserList place _ c).Nodup
    by_cases hc : c = place
    · subst hc
      rw [Function.update_self]
      refine List.nodup_append.mpr ⟨hinv.nodup c, List.nodup_singleton u, ?_⟩
      intro a ha b hb heq
      rw [List.mem_singleton.mp hb] at heq
      exact hnotin c (heq ▸ ha)
    · rw [Function.update_of_ne hc]
      exact hinv.nodup c
  · intro u' c hc
    change Function.update s.pexceptionUser u (some place) u' = some c at hc
    by_cases hu' : u' = u
    · subst hu'
      rw [Function.update_self] at hc
      cases hc
      exact ⟨hlive, hbase⟩
    · rw [Function.update_of_ne hu'] at hc
      exact hinv.live u' c hc
  · intro c i u' hget k
    change (Function.update s.exceptionUserList place _ c)[i]? = some u' at hget
    by_cases hu' : u' = u
    · subst hu'
      have hc : c = place := by
        by_contra hne
        rw [Function.update_of_ne hne] at hget
        exact hnotin c (List.mem_of_getElem? hget)
      subst hc
      refine Or.inl ?_
      change Function.update s.seen u' _ u' k = _
      rw [Function.update_self]
    · have hold : (s.exceptionUserList c)[i]? = some u' := by
        by_cases hc : c = place
        · subst hc
          rw [Function.update_self, List.getElem?_append] at hget
          split at hget
          · exact hget
          · have hmem := List.mem_of_getElem? hget
            exact absurd (List.mem_singleton.mp hmem) hu'
        · rw [Function.update_of_ne hc] at hget
          exact hget
      change Function.update s.seen u _ u' k = _ ∨ _
      rw [Function.update_of_ne hu']
      exact hinv.upToDate c i u' hold k

/-- The others at the place have read the masks, since nobody announces there. -/
theorem Inv.remove (hinv : Inv s) {u : UserId} {c₀ : Place} (hplace : s.pexceptionUser u = some c₀)
    (hwaits : ∀ t k mask c scope j, s.pc t = .announce k mask c scope j →
      s.pexceptionUser u ≠ some c) :
    Inv { s with
      exceptionUserList :=
        Function.update s.exceptionUserList c₀ ((s.exceptionUserList c₀).erase u)
      pexceptionUser := Function.update s.pexceptionUser u none } := by
  refine ⟨hinv.known, ?_, ?_, ?_, ?_⟩
  · intro u' c
    change u' ∈ Function.update s.exceptionUserList c₀ _ c ↔
      Function.update s.pexceptionUser u none u' = some c
    by_cases hc : c = c₀
    · subst hc
      rw [Function.update_self, (hinv.nodup c).mem_erase_iff]
      by_cases hu' : u' = u
      · subst hu'
        rw [Function.update_self]
        exact iff_of_false (fun h => h.1 rfl) (fun h => by cases h)
      · rw [Function.update_of_ne hu', hinv.mem u' c]
        exact ⟨fun h => h.2, fun h => ⟨hu', h⟩⟩
    · rw [Function.update_of_ne hc]
      by_cases hu' : u' = u
      · subst hu'
        rw [Function.update_self, hinv.mem u' c, hplace, Option.some.injEq]
        exact iff_of_false (fun h => hc h.symm) (fun h => by cases h)
      · rw [Function.update_of_ne hu']
        exact hinv.mem u' c
  · intro c
    change (Function.update s.exceptionUserList c₀ _ c).Nodup
    by_cases hc : c = c₀
    · subst hc
      rw [Function.update_self]
      exact (hinv.nodup c).erase u
    · rw [Function.update_of_ne hc]
      exact hinv.nodup c
  · intro u' c hc
    change Function.update s.pexceptionUser u none u' = some c at hc
    by_cases hu' : u' = u
    · subst hu'
      rw [Function.update_self] at hc
      cases hc
    · rw [Function.update_of_ne hu'] at hc
      exact hinv.live u' c hc
  · intro c i u' hget k
    change (Function.update s.exceptionUserList c₀ _ c)[i]? = some u' at hget
    by_cases hc : c = c₀
    · subst hc
      rw [Function.update_self] at hget
      have hmem := List.mem_of_mem_erase (List.mem_of_getElem? hget)
      obtain ⟨i₀, hi₀⟩ := List.mem_iff_getElem?.mp hmem
      rcases hinv.upToDate c i₀ u' hi₀ k with hseen | ⟨t, mask, scope, j, hpc, -⟩
      · exact Or.inl hseen
      · exact absurd hplace (hwaits t k mask c scope j hpc)
    · rw [Function.update_of_ne hc] at hget
      exact hinv.upToDate c i u' hget k

theorem inv_step {a : Action} (hok : Waits s a) (hinv : Inv s) (hstep : s.step a = some s') :
    Inv s' := by
  cases a with
  | call call =>
      cases call with
      | setMask k pasynUser mask => cases hstep
      | disconnect u busy =>
          cases hstep
          refine hinv.call (.disconnect u (Action.disconnectBusy s u busy)) ?_
          intro k pasynUser mask heq
          cases heq
      | registerPort portName multiDevice =>
          cases hstep
          refine hinv.call (.registerPort portName multiDevice) ?_
          intro k pasynUser mask heq
          cases heq
      | connectDevice u portName addr =>
          cases hstep
          refine hinv.call (.connectDevice u portName addr) ?_
          intro k pasynUser mask heq
          cases heq
      | setTraceFile u file fcloseError =>
          cases hstep
          refine hinv.call (.setTraceFile u file fcloseError) ?_
          intro k pasynUser mask heq
          cases heq
      | setTraceIOTruncateSize u size memory =>
          cases hstep
          refine hinv.call (.setTraceIOTruncateSize u size memory) ?_
          intro k pasynUser mask heq
          cases heq
  | setMask t k pasynUser mask =>
      simp only [Shared.step] at hstep
      split at hstep
      · next hidle =>
          cases hstep
          have hnot : NotAnnouncing s t := by
            intro k mask c scope j hpc
            rw [hidle] at hpc
            cases hpc
          unfold Shared.setMask
          split
          · refine hinv.manager (run_known hinv.known (.setMask k none mask)) ?_
            intro u c hu
            obtain ⟨hlive, hbase⟩ := hinv.live u c hu
            refine ⟨(live_congr rfl c).mpr hlive, ?_⟩
            change (Function.update s.manager.trace .base _ c).mask = _
            rw [Function.update_of_ne hbase]
          · split
            · exact hinv
            · exact hinv.goto_of_not hnot
            · exact hinv.goto_of_not hnot
      · cases hstep
  | thread t => exact hinv.thread hstep
  | exceptionCallbackAdd u =>
      simp only [Shared.step] at hstep
      split at hstep
      · next t hu hnew =>
          cases hstep
          exact hinv.add hu hnew
      · cases hstep
  | exceptionCallbackRemove u =>
      simp only [Shared.step] at hstep
      split at hstep
      · next c₀ hplace =>
          cases hstep
          exact hinv.remove hplace hok
      · cases hstep

theorem inv_reachable (hreach : sharedMachine.Reachable Waits s) : Inv s := by
  refine Machine.Reachable.invariant ?_ (fun s a s' => inv_step) hreach
  rintro s rfl
  refine ⟨known_init, ?_, fun c => List.nodup_nil, ?_, ?_⟩
  · intro u c
    exact iff_of_false List.not_mem_nil (fun h => by cases h)
  · intro u c hc
    cases hc
  · intro c i u hu
    cases hu

/-- Whatever the threads do at the same time: an exception user has read the mask that its place has,
or a thread is about to call it.  So when nobody is in a `set` method, everybody is up to date. -/
theorem upToDate_reachable {s : Shared} (hreach : sharedMachine.Reachable Waits s) {u : UserId}
    {c : Place} (hu : s.pexceptionUser u = some c) (k : MaskKind) :
    s.seen u k = (s.manager.trace c).mask k ∨
      ∃ t mask scope j, s.pc t = .announce k mask c scope j ∧
        u ∈ (s.exceptionUserList c).drop j := by
  have hinv := inv_reachable hreach
  obtain ⟨i, hi⟩ := List.mem_iff_getElem?.mp ((hinv.mem u c).mpr hu)
  rcases hinv.upToDate c i u hi k with hseen | ⟨t, mask, scope, j, hpc, hle⟩
  · exact Or.inl hseen
  · refine Or.inr ⟨t, mask, scope, j, hpc, ?_⟩
    refine List.mem_iff_getElem?.mpr ⟨i - j, ?_⟩
    rw [List.getElem?_drop, Nat.add_sub_cancel' hle]
    exact hi

/-- A `set` method between its store and its announcement. -/
def between : List Action :=
  [.call (.registerPort "L0" false), .call (.connectDevice 1 "L0" 0), .exceptionCallbackAdd 1,
    .setMask 0 .traceMask (some 1) 9, .thread 0]

theorem upToDate_reachable_between :
    ∃ s, sharedMachine.Reachable Waits s ∧ s.seen 1 .traceMask = 1 ∧
      ∃ t mask scope j, s.pc t = .announce .traceMask mask (.port 0) scope j ∧
        1 ∈ (s.exceptionUserList (.port 0)).drop j := by
  have hcheck : ∀ (s : Shared) (a : Action), a.removes = false → Waits s a := by
    intro s a ha
    cases a with
    | exceptionCallbackRemove u => cases ha
    | _ => exact trivial
  obtain ⟨s, hreach, hvalue⟩ : ∃ s, sharedMachine.Reachable Waits s ∧
      (s.seen 1 .traceMask, (s.manager.trace (.port 0)).mask .traceMask, s.pexceptionUser 1) =
        (1, 9, some (.port 0)) :=
    Machine.exists_reachable_of_execGuarded
      (fun s : Shared =>
        (s.seen 1 .traceMask, (s.manager.trace (.port 0)).mask .traceMask, s.pexceptionUser 1))
      (fun s a (h : (!a.removes) = true) => hcheck s a (by simpa using h))
      between rfl (by decide)
  simp only [Prod.mk.injEq] at hvalue
  obtain ⟨hseen, hmask, huser⟩ := hvalue
  refine ⟨s, hreach, hseen, ?_⟩
  refine (upToDate_reachable hreach huser .traceMask).resolve_left ?_
  rw [hseen, hmask]
  decide

/-! ## A thread alone -/

/-- The steps of one thread. -/
def Own (t : ThreadId) (_ : Shared) (a : Action) : Prop := a = .thread t

/-- Where the thread was does not matter after it has gone on. -/
theorem goto_announced (s : Shared) (t : ThreadId) (pc : Pc) (k : MaskKind) (mask : Int)
    (c scope : Place) :
    (s.goto t pc).announced t k mask c scope = s.announced t k mask c scope := by
  have hpc : ∀ pc', Function.update (Function.update s.pc t pc) t pc' = Function.update s.pc t pc' :=
    fun pc' => Function.update_idem _ _ _
  unfold Shared.announced
  dsimp only
  split
  · simp only [Shared.goto, hpc]
  · split <;> simp only [Shared.goto, hpc]

/-- All callbacks of an announcement, by induction on those that are left. -/
theorem announce_alone (n : Nat) : ∀ (s : Shared) (j : Nat), s.pc t = .announce k mask c scope j →
      (s.exceptionUserList c).length ≤ j + n →
      ∃ seen, sharedMachine.Path (Own t) s ({ s with seen := seen }.announced t k mask c scope) := by
  induction n with
  | zero =>
      intro s j hpc hlength
      refine ⟨s.seen, Machine.Path.single rfl ?_⟩
      change s.thread t = _
      unfold Shared.thread
      have hend : (s.exceptionUserList c)[j]? = none := List.getElem?_eq_none hlength
      simp only [hpc, hend]
  | succ n ih =>
      intro s j hpc hlength
      cases hu : (s.exceptionUserList c)[j]? with
      | none =>
          refine ⟨s.seen, Machine.Path.single rfl ?_⟩
          change s.thread t = _
          unfold Shared.thread
          simp only [hpc, hu]
      | some u =>
          have hstep : sharedMachine.step s (.thread t) =
              some ((s.read u c k).goto t (.announce k mask c scope (j + 1))) := by
            change s.thread t = _
            unfold Shared.thread
            simp only [hpc, hu]
          have hnext : ((s.read u c k).goto t (.announce k mask c scope (j + 1))).pc t =
              .announce k mask c scope (j + 1) := Function.update_self _ _ _
          obtain ⟨seen, hpath⟩ := ih _ (j + 1) hnext (by
            change (s.exceptionUserList c).length ≤ _
            omega)
          have hfirst : sharedMachine.Path (Own t) s _ := Machine.Path.single rfl hstep
          refine ⟨seen, hfirst.trans ?_⟩
          have hsame := goto_announced { s with seen := seen } t
            (.announce k mask c scope (j + 1)) k mask c scope
          rw [← hsame]
          exact hpath

/-- A store with its announcement. -/
theorem store_alone
    (hstep : s.thread t = some ((s.store k mask c).goto t (.announce k mask c scope 0))) :
    ∃ seen, sharedMachine.Path (Own t) s
      ({ s.store k mask c with seen := seen }.announced t k mask c scope) := by
  have hfirst : sharedMachine.Path (Own t) s _ := Machine.Path.single rfl hstep
  have hpc : ((s.store k mask c).goto t (.announce k mask c scope 0)).pc t =
      .announce k mask c scope 0 := Function.update_self _ _ _
  obtain ⟨seen, hpath⟩ := announce_alone _ _ 0 hpc (Nat.le_add_left _ 0)
  refine ⟨seen, hfirst.trans ?_⟩
  have hsame := goto_announced { s.store k mask c with seen := seen } t
    (.announce k mask c scope 0) k mask c scope
  rw [← hsame]
  exact hpath

/-- The loop over the devices that are left, and the port. -/
theorem walk_alone {p : Nat} (m : Nat) :
    ∀ (s : Shared) (d : Nat), s.pc t = .walk k mask p d → deviceCount s.manager p = d + m →
      ∃ s', sharedMachine.Path (Own t) s s' ∧ s'.pc = Function.update s.pc t .idle ∧
        s'.manager = (setMaskAt k mask ((List.range' d m).foldl
          (fun s d => setMaskAt k mask s (.device p d)) s.manager) (.port p)).record
            (.set ⟨.port p, .mask k mask⟩) := by
  induction m with
  | zero =>
      intro s d hpc hcount
      have hstep : s.thread t =
          some ((s.store k mask (.port p)).goto t (.announce k mask (.port p) (.port p) 0)) := by
        unfold Shared.thread
        simp only [hpc]
        rw [if_neg (by omega)]
      obtain ⟨seen, hpath⟩ := store_alone hstep
      refine ⟨_, hpath, ?_, ?_⟩
      · simp only [Shared.announced, if_true]
        rfl
      · simp only [Shared.announced, if_true]
        rfl
  | succ m ih =>
      intro s d hpc hcount
      have hstep : s.thread t =
          some ((s.store k mask (.device p d)).goto t
            (.announce k mask (.device p d) (.port p) 0)) := by
        unfold Shared.thread
        simp only [hpc]
        rw [if_pos (by omega)]
      obtain ⟨seen, hpath⟩ := store_alone hstep
      have hpc' : ({ s.store k mask (.device p d) with seen := seen }.announced t k mask
          (.device p d) (.port p)).pc = Function.update s.pc t (.walk k mask p (d + 1)) := by
        simp only [Shared.announced, reduceCtorEq, if_false]
        rfl
      have hmanager : ({ s.store k mask (.device p d) with seen := seen }.announced t k mask
          (.device p d) (.port p)).manager = setMaskAt k mask s.manager (.device p d) := by
        simp only [Shared.announced, reduceCtorEq, if_false]
        rfl
      have hat : ({ s.store k mask (.device p d) with seen := seen }.announced t k mask
          (.device p d) (.port p)).pc t = .walk k mask p (d + 1) := by
        rw [hpc', Function.update_self]
      have hleft : deviceCount ({ s.store k mask (.device p d) with seen := seen }.announced t k
          mask (.device p d) (.port p)).manager p = d + 1 + m := by
        rw [hmanager]
        change deviceCount s.manager p = _
        omega
      obtain ⟨s', hpath', hpcs, hmanagers⟩ := ih _ (d + 1) hat hleft
      refine ⟨s', hpath.trans hpath', ?_, ?_⟩
      · rw [hpcs, hpc', Function.update_idem]
      · rw [hmanagers, hmanager, List.range'_succ, List.foldl_cons]

/-- A thread that nobody gets in the way of does what `setMask` does in one step. -/
theorem thread_alone {u : UserId} (mask : Int) (hidle : s.pc t = .idle) :
    ∃ s', sharedMachine.Path (Own t) (s.setMask t k (some u) mask) s' ∧ s'.pc = s.pc ∧
      s'.manager = (Trace.setMask k s.manager (some u) mask).1 := by
  have hback : ∀ pc, Function.update (s.goto t pc).pc t .idle = s.pc := by
    intro pc
    change Function.update (Function.update s.pc t pc) t .idle = s.pc
    rw [Function.update_idem, ← hidle, Function.update_eq_self]
  unfold Shared.setMask Trace.setMask
  cases hu : s.manager.users u with
  | none =>
      simp only [hu]
      exact ⟨s, Machine.Path.refl s, rfl, rfl⟩
  | some target =>
      obtain ⟨p, pdevice⟩ := target
      cases pdevice with
      | some d =>
          simp only [hu]
          have hstep : (s.goto t (.device k mask p d)).thread t =
              some (((s.goto t (.device k mask p d)).store k mask (.device p d)).goto t
                (.announce k mask (.device p d) (.device p d) 0)) := by
            have hpc : (s.goto t (.device k mask p d)).pc t = .device k mask p d :=
              Function.update_self _ _ _
            unfold Shared.thread
            simp only [hpc]
          obtain ⟨seen, hpath⟩ := store_alone hstep
          refine ⟨_, hpath, ?_, ?_⟩
          · simp only [Shared.announced, if_true]
            exact hback _
          · simp only [Shared.announced, if_true]
            rfl
      | none =>
          simp only [hu]
          have hpc : (s.goto t (.walk k mask p 0)).pc t = .walk k mask p 0 :=
            Function.update_self _ _ _
          obtain ⟨s', hpath, hpcs, hmanager⟩ :=
            walk_alone (deviceCount s.manager p) _ 0 hpc (Nat.zero_add _).symm
          refine ⟨s', hpath, hpcs.trans (hback _), ?_⟩
          rw [hmanager, ← List.range_eq_range']
          rfl

end Trace
end Manager
end AsynDriver
