import AsynDriver.DevGpib.SrqWaitHold
import AsynDriver.Library.Progress

/-!
# The wait for an SRQ ends

In runs whose steps are `Accepted` every state is `WaitSafe`, and from every moment of an infinite run
that serves its tasks the device is released again (`srqWait_sound`).  `srqHandlerGpib` and
`waitTimeoutCallback` do not look at what `queueIt` returns: when the port is disabled while a record
waits, the SRQ leaves the device blocked for ever (`blocked_after_refused`).
-/

namespace AsynDriver
namespace DevGpib
namespace SrqWait

open Library
open Machine (Served Ranking)
open Manager (ThreadId)

variable {s s' : State} {r : RecordId} {e : Executor} {t : ThreadId} {ph : Phase} {h : Hold}

theorem inv_start : Inv .start where
  fault := rfl
  timerFails r stage hexec := by cases hexec
  phase := by
    refine ⟨none, rfl, rfl, rfl, rfl, rfl, fun _ => rfl, rfl, ?_⟩
    intro r
    refine ⟨none, .resting none, ?_⟩
    intro e stage hexec
    cases hexec

theorem step_next {a : Action} (hinv : Inv s) (hphase : InPhase s ph) (hok : Accepted s a)
    (hstep : step s a = some s') : Next s' ph := by
  have hfault := hinv.fault
  have htimer := hinv.timerFails
  simp only [step, hfault, Bool.false_eq_true, if_false] at hstep
  cases a with
  | process => exact process_next hphase hfault htimer hstep
  | complete => exact complete_next hphase hfault htimer hstep
  | portThread => exact portThread_next hphase hfault htimer hstep
  | queueTimeout => exact queueTimeout_next hphase hfault htimer hstep
  | queueCallback => exact queueCallback_next hphase hfault htimer hstep
  | srqReadWait =>
      cases hok
      exact srqReadWait_next hphase hfault htimer hstep
  | prepareToRead => exact prepareToRead_next hphase hfault htimer hstep
  | readAfterWait => exact readAfterWait_next hphase hfault htimer hstep
  | unblockProcessCallback => exact unblockProcessCallback_next hphase hfault htimer hstep
  | finish => exact finish_next hphase hfault htimer hstep
  | callbackReturns => exact callbackReturns_next hphase hfault htimer hstep
  | srqHandlerGpib => exact srqHandlerGpib_next hphase hfault htimer hstep
  | cancelTimer => exact cancelTimer_next hphase hfault htimer hstep
  | handlerQueueIt =>
      cases hok
      exact handlerQueueIt_next hphase hfault htimer hstep
  | expire => exact expire_next hphase hfault htimer hstep
  | waitTimeoutCallback => exact waitTimeoutCallback_next hphase hfault htimer hstep
  | timerQueueIt =>
      cases hok
      exact timerQueueIt_next hphase hfault htimer hstep
  | registerSrqHandler =>
      cases hstep
      exact registerSrqHandler_next hphase hfault htimer

theorem inv_step {a : Action} (hinv : Inv s) (hok : Accepted s a) (hstep : step s a = some s') :
    Inv s' := by
  obtain ⟨ph, hphase⟩ := hinv.phase
  obtain ⟨hfault, htimer, ph', hphase', -⟩ := step_next hinv hphase hok hstep
  exact ⟨hfault, htimer, ph', hphase'⟩

theorem inv_of_reachable (hreach : machine.Reachable Accepted s) : Inv s := by
  refine Machine.Reachable.invariant ?_ ?_ hreach
  · rintro _ rfl
    exact inv_start
  · intro s a s' hok hinv hstep
    exact inv_step hinv hok hstep

/-! ## What the phases say -/

theorem Quiet.released (hquiet : Quiet s) : Released s where
  blocks r := (hquiet.ordinary r).blocks_eq_zero
  waitState := hquiet.waitState
  poll := hquiet.poll

theorem HeldBy.blocks (hheld : HeldBy s r h) : (s.record r).blockDeviceCount = 1 := by
  rw [hheld.owns.record]
  exact h.record_blocks

/-- Only the holder blocks the device. -/
theorem InPhase.held_of_blocks (hphase : InPhase s ph)
    (hblocks : 0 < (s.record r).blockDeviceCount) : ∃ h, ph = some (r, h) := by
  by_contra hnot
  have hordinary := hphase.ordinary (r := r) fun h hph => hnot ⟨h, hph⟩
  rw [hordinary.blocks_eq_zero] at hblocks
  exact absurd hblocks (Nat.lt_irrefl 0)

theorem Hold.handler_cancelling {armed : Bool} :
    (Hold.cancelling t armed).handler t = .cancelling := by
  simp [Hold.handler]

theorem Hold.handler_srqQueueing : (Hold.srqQueueing t).handler t = .queueing := by
  simp [Hold.handler]

/-- When no callback is executing the timer is armed or the request is queued. -/
theorem HeldBy.of_quiescent (hheld : HeldBy s r h) (hquiescent : Quiescent s) :
    s.armed = true ∨ ReadQueued s r := by
  have hcontrol := hheld.control
  have hcallback := hheld.owns.callback
  have htimer := hcontrol.timer
  have hhandler := hcontrol.handler
  rw [hquiescent.timer] at htimer
  have hbusy : ∀ t stage, stage ≠ .idle → h.handler t ≠ stage := by
    intro t stage hstage hsame
    rw [← hhandler, hquiescent.handler t] at hsame
    exact hstage hsame.symm
  cases h with
  | waiting => exact Or.inl hcontrol.armed
  | queued =>
      have hrecord : s.record r = ⟨some .readAfterWait, true, false, true, 1⟩ := hheld.owns.record
      refine Or.inr ⟨?_, ?_⟩
      · rw [hrecord]
      · rw [hrecord]
  | expired | cancelWaits | timeoutQueueing => cases htimer
  | cancelling t armed => exact absurd Hold.handler_cancelling (hbusy t .cancelling (by simp))
  | srqQueueing t => exact absurd Hold.handler_srqQueueing (hbusy t .queueing (by simp))
  | called | reading | unblocking =>
      have hexec := hcallback.1
      rw [hquiescent.executing] at hexec
      cases hexec

theorem HeldBy.pointsToWaiting (hheld : HeldBy s r h)
    (hrecord : h.record = Hold.waiting.record) (hpgpibDpvt : h.pgpibDpvt r = some r) :
    PointsToWaiting s := by
  have hown := hheld.owns.record
  rw [hrecord] at hown
  refine ⟨r, hheld.control.pgpibDpvt.trans hpgpibDpvt, ?_, ?_⟩
  · rw [hown]
    rfl
  · rw [hown]
    rfl

theorem waitSafe_of_inv (hinv : Inv s) : WaitSafe s := by
  obtain ⟨ph, hphase⟩ := hinv.phase
  refine ⟨hinv.fault, ?_, ?_, ?_, ?_, ?_, ?_⟩
  · intro hquiescent r hblocks
    obtain ⟨h, rfl⟩ := hphase.held_of_blocks hblocks
    exact HeldBy.of_quiescent hphase hquiescent
  · intro hquiescent hwaitState
    cases ph with
    | none => exact absurd (Quiet.waitState hphase) hwaitState
    | some held =>
        rcases HeldBy.of_quiescent hphase hquiescent with harmed | hqueued
        · exact Or.inl harmed
        · exact Or.inr ⟨held.1, hqueued⟩
  · intro r
    by_cases hblocks : 0 < (s.record r).blockDeviceCount
    · obtain ⟨h, rfl⟩ := hphase.held_of_blocks hblocks
      exact Nat.le_of_eq (HeldBy.blocks hphase)
    · omega
  · intro e r hexec
    by_cases hheld : ∃ h, ph = some (r, h)
    · obtain ⟨h, rfl⟩ := hheld
      have hheld : HeldBy s r h := hphase
      have hcallback := hheld.owns.callback.eq_of_executing hexec (by simp)
      rw [hheld.owns.record]
      cases h <;> cases hcallback
      exact ⟨rfl, rfl⟩
    · obtain ⟨c, hlife, hcallback⟩ := hphase.ordinary fun h hph => hheld ⟨h, hph⟩
      have hc := hcallback.eq_of_executing hexec (by simp)
      exact absurd hc (hlife.not_waiting e).2
  · intro t hqueueing
    obtain ⟨r, h, rfl, hheld, hhandler⟩ := hphase.handler_held (by simp) hqueueing
    rcases Hold.handler_ne_idle (by simp) hhandler with ⟨-, hcancelling⟩ | ⟨rfl, -⟩
    · cases hcancelling
    · exact hheld.pointsToWaiting rfl rfl
  · intro huses
    have hbusy : s.timer ≠ .idle := by
      rcases huses with hqueueing | ⟨hentered, -⟩
      · rw [hqueueing]
        simp
      · rw [hentered]
        simp
    obtain ⟨r, h, rfl, hheld, htimer⟩ := hphase.timer_held hbusy
    cases h with
    | expired | timeoutQueueing | cancelWaits => exact hheld.pointsToWaiting rfl rfl
    | waiting | cancelling | srqQueueing | queued | called | reading | unblocking =>
        exact absurd rfl htimer

/-! ## Progress -/

/-- The task of a hold can go on. -/
theorem HeldBy.pending (hheld : HeldBy s r h) : (h.task r).pending s := by
  have hcontrol := hheld.control
  have hcallback := hheld.owns.callback
  have hhandler : ∀ t stage, h.handler t = stage → s.handler t = stage := by
    intro t stage hstage
    rw [hcontrol.handler]
    exact hstage
  cases h with
  | waiting => exact ⟨hcontrol.armed, hcontrol.timer⟩
  | expired | cancelWaits | timeoutQueueing => exact ⟨hcontrol.timer, by simp⟩
  | cancelling t armed =>
      exact ⟨hhandler t _ Hold.handler_cancelling, by simp, fun _ => hcontrol.timer⟩
  | srqQueueing t => exact ⟨hhandler t _ Hold.handler_srqQueueing, by simp, by simp⟩
  | queued =>
      change (s.record r).isQueued = true
      rw [hheld.owns.record]
      rfl
  | called | reading | unblocking => exact hcallback.1

/-- The rank of the hold falls until the device is released. -/
theorem ranking : Ranking machine Accepted Task.pending (fun s => ¬ Released s)
    fun s k i => ∃ r h, HeldBy s r h ∧ k = h.rank ∧ i = h.task r where
  exists_rank := by
    intro s hreach hwaits
    obtain ⟨ph, hphase⟩ := (inv_of_reachable hreach).phase
    cases ph with
    | none => exact absurd (Quiet.released hphase) hwaits
    | some held => exact ⟨_, _, held.1, held.2, hphase, rfl, rfl⟩
  pending_of_ranks := by
    rintro s k i ⟨r, h, hheld, rfl, rfl⟩
    exact hheld.pending
  step := by
    rintro s a s' k i hreach hok ⟨r, h, hheld, rfl, rfl⟩ hstep
    have hphase : InPhase s (some (r, h)) := hheld
    obtain ⟨-, -, ph', hphase', hfollows⟩ := step_next (inv_of_reachable hreach) hphase hok hstep
    cases hfollows with
    | same => exact Or.inr (Or.inl ⟨r, h, hphase', rfl, rfl⟩)
    | advances _ hrank => exact Or.inr (Or.inr ⟨_, hrank, _, r, _, hphase', rfl, rfl⟩)
    | ends => exact Or.inl fun hnot => hnot (Quiet.released hphase')

/-- Every state of a run is safe, and every wait ends with the device released. -/
theorem srqWait_sound (trace : ℕ → State) (htrace : machine.Trace Accepted trace) :
    (∀ n, WaitSafe (trace n)) ∧
      ((∀ i : Task, Served trace i.pending) → ∀ n, ∃ m, n ≤ m ∧ Released (trace m)) := by
  constructor
  · intro n
    exact waitSafe_of_inv (inv_of_reachable (htrace.reachable n))
  · intro hserved n
    obtain ⟨m, hle, hreleased⟩ := ranking.eventually htrace hserved n
    exact ⟨m, hle, not_not.mp hreleased⟩

/-! ## Runs -/

/-- A record comes to wait. -/
def waitRun : List Action :=
  [.process 0 .prepareToRead .accepted, .portThread 0 false, .queueCallback .portThread false,
    .srqReadWait .portThread true, .callbackReturns .portThread]

/-- The SRQ comes, and the record reads. -/
def srqRun : List Action :=
  waitRun ++
    [Action.srqHandlerGpib 0, .cancelTimer 0, .handlerQueueIt 0 .accepted, .portThread 0 false,
      .queueCallback .portThread false, .readAfterWait .portThread,
      .unblockProcessCallback .portThread, .finish .portThread, .callbackReturns .portThread,
      .complete 0]

def srqRunEnd : State :=
  (machine.exec .start srqRun).getD .start

theorem not_pending_srqRunEnd (i : Task) : ¬ i.pending srqRunEnd := by
  cases i with
  | expire => rintro ⟨⟨⟩, -⟩
  | timer stage => exact fun hpending => hpending.2 hpending.1.symm
  | handler t stage =>
      intro hpending
      cases t with
      | zero => exact hpending.2.1 hpending.1.symm
      | succ t => exact hpending.2.1 hpending.1.symm
  | queued r =>
      cases r with
      | zero => rintro ⟨⟩
      | succ r => rintro ⟨⟩
  | executing e r stage => cases e <;> rintro ⟨⟩

/-- The waiting state of the run is safe, and the trace of the run comes to a released state. -/
theorem srqWait_sound_example :
    ∃ trace, machine.Trace Accepted trace ∧
      ((trace waitRun.length).waitState, (trace waitRun.length).armed,
        ((trace waitRun.length).record 0).blockDeviceCount) = (.srqWait, true, 1) ∧
      WaitSafe (trace waitRun.length) ∧ ∃ m, waitRun.length ≤ m ∧ Released (trace m) := by
  have hcheck : ∀ s a, decide (Accepted s a) = true → Accepted s a := fun _ _ => of_decide_eq_true
  have hguarded : machine.execGuarded (fun s a => decide (Accepted s a)) .start srqRun =
      some srqRunEnd := rfl
  have hexec : machine.exec .start srqRun = some srqRunEnd := rfl
  obtain ⟨trace, htrace, hrun⟩ := Machine.exists_trace_of_execGuarded (M := machine) hcheck srqRun
    rfl hguarded
  have hsound := srqWait_sound trace htrace
  have hwait : (machine.exec .start (srqRun.take waitRun.length)).map
      (fun s => (s.waitState, s.armed, (s.record 0).blockDeviceCount)) =
        some (.srqWait, true, 1) := rfl
  rw [hrun] at hwait
  refine ⟨trace, htrace, Option.some.inj hwait, hsound.1 _, ?_⟩
  exact hsound.2 (fun i => Machine.served_of_exec hrun hexec (not_pending_srqRunEnd i)) _

/-- The port is disabled before the SRQ comes: `srqHandlerGpib` has cancelled the timer, and nothing is
queued. -/
def refusedRun : List Action :=
  waitRun ++ [Action.srqHandlerGpib 0, .cancelTimer 0, .handlerQueueIt 0 .refused]

def refusedRunEnd : State :=
  (machine.exec .start refusedRun).getD .start

theorem blocked_after_refused :
    machine.Reachable Machine.Unguarded refusedRunEnd ∧ Quiescent refusedRunEnd ∧
      (refusedRunEnd.record 0).blockDeviceCount = 1 ∧
      refusedRunEnd.waitState = .srqWaitDone ∧ refusedRunEnd.armed = false ∧
      (∀ r, ¬ ReadQueued refusedRunEnd r) ∧ ¬ WaitSafe refusedRunEnd := by
  have hquiescent : Quiescent refusedRunEnd := by
    refine ⟨?_, rfl, ?_⟩
    · intro e
      cases e <;> rfl
    · intro t
      cases t <;> rfl
  have hqueued : ∀ r, ¬ ReadQueued refusedRunEnd r := by
    rintro r ⟨hqueued, -⟩
    cases r <;> cases hqueued
  have hexec : machine.exec .start refusedRun = some refusedRunEnd := rfl
  refine ⟨Machine.reachable_of_exec rfl hexec, hquiescent, rfl, rfl, rfl, hqueued, ?_⟩
  intro hsafe
  rcases hsafe.blocked hquiescent 0 Nat.one_pos with harmed | hread
  · cases harmed
  · exact hqueued 0 hread

end SrqWait
end DevGpib
end AsynDriver
