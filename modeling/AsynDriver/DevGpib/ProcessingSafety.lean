import AsynDriver.DevGpib.ProcessingSteps
import AsynDriver.Library.Progress

/-!
# Every processing works once and finishes once

In runs whose steps are `Accepted` every record is `Processed` in every state, and `pact` of every record
is FALSE again and again when the tasks are served (`processing_sound`).  On a port that cannot block
`queueCallback` finds `pact` still FALSE and ignores the request, and then `queueIt` sets `pact`
(`synchronous_ignored`): the record stays so (`stuck_on_synchronous_port`).
-/

namespace AsynDriver
namespace DevGpib
namespace Processing

open Library
open Machine (Served Ranking)
open SrqWait (RecordId GpibRecord Work Stage Executor Answer Phase Hold HeldBy InPhase Quiet Inv Task
  Follows)

variable {s s' : State} {d d' : SrqWait.State} {r : RecordId} {e : Executor} {stage : Stage}
  {canBlock : Bool}

/-! ## A port that can block -/

/-- The events and the fields of every record. -/
def Counts (s : State) : Prop :=
  ∀ r, s.count r .worked + toWork (s.device.record r) = s.count r .accepted ∧
    s.count r .finished + toFinish (s.device.record r) = s.count r .accepted ∧
    s.count r .read + toRead (s.device.record r) = s.count r .waited

theorem blockingStep_eq {a : SrqWait.Action} (hstep : blockingStep s a = some s') :
    SrqWait.step s.device a = some s'.device ∧
      ∀ r event', s'.count r event' =
        s.count r event' + if event s.device a = some (r, event') then 1 else 0 := by
  obtain ⟨device, hdevice, hs'⟩ := Option.map_eq_some_iff.mp hstep
  cases hevent : event s.device a with
  | none =>
      simp only [hevent] at hs'
      subst hs'
      exact ⟨hdevice, fun r event' => by simp⟩
  | some noted =>
      obtain ⟨r₀, event₀⟩ := noted
      simp only [hevent] at hs'
      subst hs'
      refine ⟨hdevice, ?_⟩
      intro r event'
      by_cases hr : r = r₀
      · subst hr
        by_cases he : event₀ = event'
        · simp [State.next, he]
        · simp [State.next, he, List.count_singleton]
      · have hne : ¬ (r₀ = r ∧ event₀ = event') := fun hboth => hr hboth.1.symm
        simp [State.next, hr, hne]

theorem counts_step {a : SrqWait.Action} (hinv : Inv s.device)
    (hok : SrqWait.Accepted s.device a) (hcounts : Counts s)
    (hstep : blockingStep s a = some s') : Counts s' := by
  obtain ⟨hdevice, hcount⟩ := blockingStep_eq hstep
  intro r
  obtain ⟨hwork, hfinish, hread⟩ := hcounts r
  simp only [hcount]
  rcases step_record hok hdevice with ⟨hrecord, hevent⟩ | ⟨r₀, f, k, hrecord, hevent, hchanges⟩
  · simp only [hrecord, hevent, reduceCtorEq, if_false]
    exact ⟨hwork, hfinish, hread⟩
  · by_cases hr : r = r₀
    · subst hr
      have hbalanced := hchanges.balanced hinv
      have htimes : ∀ event', (if event s.device a = some (r, event') then 1 else 0) =
          times k event' := by
        intro event'
        rw [hevent]
        cases k <;> simp [times]
      simp only [htimes, hrecord, SrqWait.setRecord_self]
      have hworked := hbalanced.worked
      have hfinished := hbalanced.finished
      have hwaited := hbalanced.read
      omega
    · have hnone : ∀ event', event s.device a ≠ some (r, event') := by
        intro event' hsome
        rw [hevent] at hsome
        cases k with
        | none => cases hsome
        | some event₀ =>
            cases hsome
            exact hr rfl
      simp only [hrecord, SrqWait.setRecord_of_ne f hr, hnone, if_false]
      exact ⟨hwork, hfinish, hread⟩

/-- A record with `pact` TRUE is under way. -/
theorem underway_of_inv (hinv : Inv d) (hpact : (d.record r).pact = true) : Underway d r := by
  obtain ⟨ph, hphase⟩ := hinv.phase
  by_cases hheld : ∃ h, ph = some (r, h)
  · obtain ⟨h, rfl⟩ := hheld
    have hheld : HeldBy d r h := hphase
    have hcontrol := hheld.control
    have hcallback := hheld.owns.callback
    have hhandler : ∀ t, h.handler t ≠ .idle → d.handler t ≠ .idle := by
      intro t hbusy
      rw [hcontrol.handler]
      exact hbusy
    cases h with
    | waiting => exact .waiting hcontrol.pgpibDpvt (Or.inl hcontrol.armed)
    | expired | cancelWaits | timeoutQueueing =>
        refine .waiting hcontrol.pgpibDpvt (Or.inr (Or.inl ?_))
        rw [hcontrol.timer]
        simp [Hold.timer]
    | cancelling t armed =>
        refine .waiting hcontrol.pgpibDpvt (Or.inr (Or.inr ⟨t, hhandler t ?_⟩))
        rw [Hold.handler_cancelling]
        simp
    | srqQueueing t =>
        refine .waiting hcontrol.pgpibDpvt (Or.inr (Or.inr ⟨t, hhandler t ?_⟩))
        rw [Hold.handler_srqQueueing]
        simp
    | queued =>
        refine .queued ?_
        rw [hheld.owns.record]
        rfl
    | called | reading | unblocking => exact .running _ _ hcallback.1 (by simp)
  · obtain ⟨c, hlife, hcallback⟩ := hphase.ordinary fun h hph => hheld ⟨h, hph⟩
    generalize hrecord : d.record r = p at hlife hpact
    cases hlife with
    | resting => cases hpact
    | queued => exact .queued (by rw [hrecord])
    | called | preparing | finishing => exact .running _ _ hcallback.1 (by simp)
    | completing => exact .completing (by rw [hrecord])

theorem processed_of_counts (hinv : Inv s.device) (hcounts : Counts s) (r : RecordId) :
    Processed s r := by
  obtain ⟨hwork, hfinish, hread⟩ := hcounts r
  have hwork_le : toWork (s.device.record r) ≤ 1 := by
    unfold toWork
    split <;> omega
  have hfinish_le : toFinish (s.device.record r) ≤ 1 := by
    unfold toFinish
    split <;> omega
  have hread_le : toRead (s.device.record r) ≤ 1 := by
    unfold toRead
    split <;> omega
  have horder : toWork (s.device.record r) ≤ toFinish (s.device.record r) := by
    obtain ⟨c, hplaced, -⟩ := exists_placed hinv r
    unfold toWork toFinish
    split
    · next hpending =>
        have hcompleting : (s.device.record r).completing = false := by
          rw [← Bool.not_eq_true]
          intro hcompleting
          exact hpending.2.1 (hplaced.completing hcompleting).2
        exact Nat.le_of_eq (if_pos ⟨hpending.1, hcompleting⟩).symm
    · exact Nat.zero_le _
  refine ⟨hinv.fault, by omega, by omega, by omega, ?_, underway_of_inv hinv⟩
  intro hpact
  have hnone : toWork (s.device.record r) = 0 ∧ toFinish (s.device.record r) = 0 ∧
      toRead (s.device.record r) = 0 := by
    simp [toWork, toFinish, toRead, hpact]
  omega

/-! ## A port that cannot block -/

/-- Nothing has been accepted. -/
structure SynchronousInv (s : State) : Prop where
  fault : s.device.fault = false
  waitState : s.device.waitState = .srqWaitIdle
  armed : s.device.armed = false
  timer : s.device.timer = .idle
  handler : ∀ t, s.device.handler t = .idle
  pact : ∀ r, (s.device.record r).pact = false
  count : ∀ r event, s.count r event = 0

theorem SynchronousInv.setRecord (hinv : SynchronousInv s) (f : GpibRecord → GpibRecord)
    (hpact : (f (s.device.record r)).pact = false) :
    SynchronousInv (s.next (s.device.setRecord r f) r []) := by
  refine ⟨hinv.fault, hinv.waitState, hinv.armed, hinv.timer, hinv.handler, ?_, ?_⟩
  · intro r'
    change ((s.device.setRecord r f).record r').pact = false
    by_cases hr : r' = r
    · rw [hr, SrqWait.setRecord_self]
      exact hpact
    · rw [SrqWait.setRecord_of_ne f hr]
      exact hinv.pact r'
  · intro r' event'
    by_cases hr : r' = r
    · simp [State.next, hr, hinv.count]
    · simp [State.next, hr, hinv.count]

theorem synchronousInv_step {a : SrqWait.Action} {waits : Bool}
    (hrefused : ∀ r, event s.device a ≠ some (r, .accepted)) (hinv : SynchronousInv s)
    (hstep : synchronousStep s a waits = some s') : SynchronousInv s' := by
  simp only [synchronousStep, hinv.fault, Bool.false_eq_true, if_false] at hstep
  cases a with
  | process r work answer =>
      simp only [synchronousProcess] at hstep
      split at hstep
      · cases answer with
        | timeWindow =>
            simp only [synchronousQueueIt, reduceCtorEq, if_false] at hstep
            cases hstep
            apply hinv.setRecord
            exact hinv.pact r
        | refused =>
            simp only [synchronousQueueIt, SrqWait.setRecord_setRecord, reduceCtorEq, if_false]
              at hstep
            cases hstep
            exact hinv.setRecord _ rfl
        | accepted => exact absurd rfl (hrefused r)
      · cases hstep
  | srqHandlerGpib t =>
      simp only [SrqWait.step, hinv.fault, SrqWait.srqHandlerGpib, hinv.handler t, hinv.waitState,
        Bool.false_eq_true, if_false, Option.map_some, Option.some.injEq] at hstep
      rw [← hstep]
      exact hinv
  | cancelTimer t =>
      simp only [SrqWait.step, hinv.fault, SrqWait.cancelTimer, hinv.handler t, reduceCtorEq,
        false_and, Bool.false_eq_true, if_false, Option.map_none] at hstep
  | handlerQueueIt t answer =>
      simp only [hinv.handler t, reduceCtorEq, if_false] at hstep
  | expire =>
      simp only [SrqWait.step, hinv.fault, SrqWait.expire, hinv.armed, Bool.false_eq_true,
        false_and, if_false, Option.map_none, reduceCtorEq] at hstep
  | waitTimeoutCallback =>
      simp only [SrqWait.step, hinv.fault, SrqWait.waitTimeoutCallback, hinv.timer, reduceCtorEq,
        Bool.false_eq_true, if_false, Option.map_none] at hstep
  | timerQueueIt answer =>
      simp only [hinv.timer, reduceCtorEq, if_false] at hstep
  | registerSrqHandler =>
      simp only [SrqWait.step, hinv.fault, Bool.false_eq_true, if_false, Option.map_some,
        Option.some.injEq, SrqWait.registerSrqHandler] at hstep
      rw [← hstep]
      split
      · exact hinv
      · exact ⟨rfl, hinv.waitState, hinv.armed, hinv.timer, hinv.handler, hinv.pact, hinv.count⟩
  | complete | portThread | queueTimeout | queueCallback | srqReadWait | prepareToRead
  | readAfterWait | unblockProcessCallback | finish | callbackReturns => cases hstep

theorem SynchronousInv.processed (hinv : SynchronousInv s) (r : RecordId) : Processed s r := by
  have hcount := hinv.count r
  refine ⟨hinv.fault, by simp [hcount], by simp [hcount], by simp [hcount], by simp [hcount], ?_⟩
  intro hpact
  rw [hinv.pact r] at hpact
  cases hpact

/-- On such a port an accepted processing is ignored, and `pact` is left TRUE. -/
theorem synchronous_ignored {work : Work} {waits : Bool}
    (hstep : synchronousProcess s r work .accepted waits = some s') :
    (s'.device.record r).pact = true ∧ s'.device.executing = s.device.executing ∧
      s'.count r .accepted = s.count r .accepted + 1 ∧ s'.count r .worked = s.count r .worked ∧
      s'.count r .finished = s.count r .finished := by
  simp only [synchronousProcess] at hstep
  split at hstep
  · next hguard =>
      have hignored : synchronousCallback (s.device.setRecord r fun p => { p with work := some work })
          r waits = (s.device.setRecord r fun p => { p with work := some work }, []) := by
        simp only [synchronousCallback, SrqWait.setRecord_self, hguard.1, Bool.false_eq_true,
          if_false]
      simp only [synchronousQueueIt, hignored, if_true] at hstep
      cases hstep
      refine ⟨?_, rfl, ?_, ?_, ?_⟩
      · simp [State.next]
      · simp [State.next]
      · simp [State.next]
      · simp [State.next]
  · cases hstep

/-! ## Progress -/

/-- How far the processing of `r` is, and what has to happen next. -/
inductive Rank (d : SrqWait.State) (r : RecordId) : Nat → Task ⊕ RecordId → Prop
  | queued (hqueued : (d.record r).isQueued = true) (hnot : ∀ h, ¬ HeldBy d r h) :
      Rank d r 20 (.inl (.queued r))
  | called (e : Executor) (timedOut : Bool) (hexec : d.executing e = some (r, .called timedOut))
      (hnot : ∀ h, ¬ HeldBy d r h) : Rank d r 19 (.inl (.executing e r (.called timedOut)))
  | preparing (e : Executor) (failure : Bool)
      (hexec : d.executing e = some (r, .prepareToRead failure)) :
      Rank d r 18 (.inl (.executing e r (.prepareToRead failure)))
  | held (h : Hold) (hheld : HeldBy d r h) : Rank d r (3 + h.rank) (.inl (h.task r))
  | finishing (e : Executor) (hexec : d.executing e = some (r, .finishing)) :
      Rank d r 2 (.inl (.executing e r .finishing))
  | completing (hcompleting : (d.record r).completing = true) : Rank d r 1 (.inr r)

theorem exists_rank (hinv : Inv d) (hpact : (d.record r).pact = true) : ∃ k i, Rank d r k i := by
  by_cases hheld : ∃ h, HeldBy d r h
  · obtain ⟨h, hheld⟩ := hheld
    exact ⟨_, _, .held h hheld⟩
  · have hnot : ∀ h, ¬ HeldBy d r h := fun h hh => hheld ⟨h, hh⟩
    obtain ⟨ph, hphase⟩ := hinv.phase
    obtain ⟨c, hlife, hcallback⟩ := hphase.ordinary (r := r) (by
      rintro h rfl
      exact hnot h hphase)
    generalize hrecord : d.record r = p at hlife hpact
    cases hlife with
    | resting => cases hpact
    | queued => exact ⟨_, _, .queued (by rw [hrecord]) hnot⟩
    | called work _ e timedOut => exact ⟨_, _, .called e timedOut hcallback.1 hnot⟩
    | preparing e failure => exact ⟨_, _, .preparing e failure hcallback.1⟩
    | finishing e => exact ⟨_, _, .finishing e hcallback.1⟩
    | completing => exact ⟨_, _, .completing (by rw [hrecord])⟩

theorem Rank.pending {k : Nat} {i : Task ⊕ RecordId} (hrank : Rank s.device r k i) :
    pending i s := by
  cases hrank with
  | queued hqueued => exact hqueued
  | called e timedOut hexec => exact hexec
  | preparing e failure hexec => exact hexec
  | held h hheld => exact hheld.pending
  | finishing e hexec => exact hexec
  | completing hcompleting => exact hcompleting

variable {a : SrqWait.Action}

/-- A record comes to hold the device as one that waits. -/
theorem not_held_step (hinv : Inv d) (hok : SrqWait.Accepted d a)
    (hstep : SrqWait.step d a = some d') (hnot : ∀ h, ¬ HeldBy d r h) (h : Hold)
    (hheld : HeldBy d' r h) : HeldBy d' r .waiting := by
  obtain ⟨ph, hphase⟩ := hinv.phase
  obtain ⟨-, -, ph', hphase', hfollows⟩ := SrqWait.step_next hinv hphase hok hstep
  have hholder : ∃ h', ph' = some (r, h') := by
    apply hphase'.held_of_blocks
    rw [hheld.blocks]
    exact Nat.one_pos
  obtain ⟨h', rfl⟩ := hholder
  cases hfollows with
  | same => exact absurd hphase (hnot h')
  | begins => exact hphase'
  | advances => exact absurd hphase (hnot _)

theorem HeldBy.not_executing (hheld : HeldBy d r .waiting) (hlive : stage ≠ .returning) :
    d.executing e ≠ some (r, stage) := by
  intro hexec
  exact hlive (hheld.owns.callback e stage hexec)

/-- A callback of an ordinary record is not that of the holder in the next state. -/
theorem not_held_of_executing (hinv : Inv d) (hok : SrqWait.Accepted d a)
    (hstep : SrqWait.step d a = some d') (hnot : ∀ h, ¬ HeldBy d r h)
    (hexec : d'.executing e = some (r, stage)) (hlive : stage ≠ .returning) (h : Hold) :
    ¬ HeldBy d' r h := by
  intro hheld
  exact HeldBy.not_executing (not_held_step hinv hok hstep hnot h hheld) hlive hexec

theorem Hold.rank_le (h : Hold) : h.rank ≤ 9 := by
  cases h with
  | cancelling t armed => cases armed <;> simp [Hold.rank]
  | _ => simp [Hold.rank]

/-- The end of a hold is `unblockProcessCallback`. -/
theorem finishing_of_released {h : Hold} (hok : SrqWait.Accepted d a)
    (hstep : SrqWait.step d a = some d') (hheld : HeldBy d r h)
    (hreleased : (d'.record r).blockDeviceCount = 0) :
    ∃ e, d'.executing e = some (r, .finishing) := by
  have hblocks := hheld.blocks
  rcases step_record hok hstep with ⟨hrecord, -⟩ | ⟨r₀, f, k, hrecord, -, hchanges⟩
  · rw [hrecord, hblocks] at hreleased
    cases hreleased
  · by_cases hr : r = r₀
    · subst hr
      rw [hrecord, SrqWait.setRecord_self] at hreleased
      cases hchanges with
      | unblocks _ e hexec' => exact ⟨e, hexec'⟩
      | waits => cases hreleased
      | refused | accepted | completed | taken | called | finishes | queues =>
          change (d.record r).blockDeviceCount = 0 at hreleased
          rw [hblocks] at hreleased
          cases hreleased
    · rw [hrecord, SrqWait.setRecord_of_ne f hr, hblocks] at hreleased
      cases hreleased

/-- `pact` is reset, nothing changes for the record, or its rank falls. -/
def Advances (d' : SrqWait.State) (r : RecordId) (k : Nat) (i : Task ⊕ RecordId) : Prop :=
  (d'.record r).pact = false ∨ Rank d' r k i ∨ ∃ k', k' < k ∧ ∃ i', Rank d' r k' i'

theorem advances_of_queued (hinv : Inv d) (hok : SrqWait.Accepted d a)
    (hstep : SrqWait.step d a = some d') (hqueued : (d.record r).isQueued = true)
    (hnot : ∀ h, ¬ HeldBy d r h) : Advances d' r 20 (.inl (.queued r)) := by
  have hstays : (d'.record r).isQueued = true → Rank d' r 20 (.inl (.queued r)) := by
    intro hqueued'
    refine .queued hqueued' ?_
    intro h hheld
    have hwaiting := not_held_step hinv hok hstep hnot h hheld
    rw [hwaiting.owns.record] at hqueued'
    cases hqueued'
  rcases step_record hok hstep with ⟨hrecord, -⟩ | ⟨r₀, f, k, hrecord, -, hchanges⟩
  · refine Or.inr (Or.inl (hstays ?_))
    rw [hrecord]
    exact hqueued
  · by_cases hr : r = r₀
    · subst hr
      rw [hrecord, SrqWait.setRecord_self] at hstays
      cases hchanges with
      | taken _ e timedOut _ haction hexec =>
          refine Or.inr (Or.inr ⟨19, by omega, _, .called e timedOut hexec ?_⟩)
          exact not_held_of_executing hinv hok hstep hnot hexec (by simp)
      | accepted | queues => exact Or.inr (Or.inl (hstays rfl))
      | refused | completed | called | waits | unblocks | finishes =>
          exact Or.inr (Or.inl (hstays hqueued))
    · refine Or.inr (Or.inl (hstays ?_))
      rw [hrecord, SrqWait.setRecord_of_ne f hr]
      exact hqueued

theorem advances_of_called {timedOut : Bool} (hinv : Inv d) (hok : SrqWait.Accepted d a)
    (hstep : SrqWait.step d a = some d') (hexec : d.executing e = some (r, .called timedOut))
    (hnot : ∀ h, ¬ HeldBy d r h) :
    Advances d' r 19 (.inl (.executing e r (.called timedOut))) := by
  by_cases hown : executor a = some e
  · obtain ⟨windowActive, rfl⟩ := moves_of_executor hstep hexec hown
    obtain ⟨ph, hphase⟩ := hinv.phase
    obtain ⟨hpact, work, hwork⟩ := hphase.noFault_queueCallback hexec
    simp only [SrqWait.step, hinv.fault, SrqWait.queueCallback, hexec, hpact, hwork,
      Bool.false_eq_true, if_false, if_true] at hstep
    cases hstep
    right
    right
    cases work with
    | prepareToRead => exact ⟨18, by omega, _, .preparing e _ SrqWait.setStage_self⟩
    | gpibWrite => exact ⟨2, by omega, _, .finishing e SrqWait.setStage_self⟩
    | readAfterWait =>
        -- only the holder comes to `readAfterWait`
        obtain ⟨c, hlife, hcallback⟩ := hphase.ordinary (r := r) (by
          rintro h rfl
          exact hnot h hphase)
        have hc := hcallback.eq_of_executing hexec (by simp)
        subst hc
        generalize d.record r = p at hlife hwork
        cases hlife with
        | called work' hwork' =>
            cases hwork
            exact absurd rfl hwork'
  · have hexec' := step_executing hstep hexec hown
    refine Or.inr (Or.inl (.called e timedOut hexec' ?_))
    exact not_held_of_executing hinv hok hstep hnot hexec' (by simp)

theorem advances_of_preparing {failure : Bool} (hinv : Inv d) (hok : SrqWait.Accepted d a)
    (hstep : SrqWait.step d a = some d')
    (hexec : d.executing e = some (r, .prepareToRead failure)) :
    Advances d' r 18 (.inl (.executing e r (.prepareToRead failure))) := by
  by_cases hown : executor a = some e
  · right
    right
    have hinv' := SrqWait.inv_step hinv hok hstep
    rcases moves_of_executor hstep hexec hown with rfl | ⟨accepted, rfl⟩
    · simp only [SrqWait.step, hinv.fault, SrqWait.prepareToRead, hexec, Bool.false_eq_true,
        if_false] at hstep
      cases hstep
      exact ⟨2, by omega, _, .finishing e SrqWait.setStage_self⟩
    · rcases step_record hok hstep with ⟨-, hevent⟩ | ⟨r₀, f, k, -, -, hchanges⟩
      · -- `blockProcessCallback` refuses a queued record, and this one is not queued
        cases hok
        have hqueued : (d.record r).isQueued = false :=
          (placed_of_executing hinv hexec (by simp)).not_queued
        simp only [event, hexec, hqueued, and_self, if_true, reduceCtorEq] at hevent
      · cases hchanges with
        | waits _ _ hexec₀ hpgpibDpvt =>
            rw [hexec] at hexec₀
            cases hexec₀
            obtain ⟨h, hheld⟩ := held_of_pgpibDpvt hinv' hpgpibDpvt
            have hle := Hold.rank_le h
            exact ⟨3 + h.rank, by omega, _, .held h hheld⟩
        | taken _ _ _ _ haction => rcases haction with haction | haction <;> cases haction
        | queues _ _ haction => rcases haction with ⟨t, haction⟩ | haction <;> cases haction
  · exact Or.inr (Or.inl (.preparing e failure (step_executing hstep hexec hown)))

theorem advances_of_held {h : Hold} (hinv : Inv d) (hok : SrqWait.Accepted d a)
    (hstep : SrqWait.step d a = some d') (hheld : HeldBy d r h) :
    Advances d' r (3 + h.rank) (.inl (h.task r)) := by
  have hphase : InPhase d (some (r, h)) := hheld
  obtain ⟨-, -, ph', hphase', hfollows⟩ := SrqWait.step_next hinv hphase hok hstep
  cases hfollows with
  | same => exact Or.inr (Or.inl (.held h hphase'))
  | advances _ hrank => exact Or.inr (Or.inr ⟨_, Nat.add_lt_add_left hrank 3, _, .held _ hphase'⟩)
  | ends =>
      have hquiet : Quiet d' := hphase'
      obtain ⟨e, hexec⟩ := finishing_of_released hok hstep hheld (hquiet.ordinary r).blocks_eq_zero
      exact Or.inr (Or.inr ⟨2, by omega, _, .finishing e hexec⟩)

theorem advances_of_finishing (hinv : Inv d) (hstep : SrqWait.step d a = some d')
    (hexec : d.executing e = some (r, .finishing)) :
    Advances d' r 2 (.inl (.executing e r .finishing)) := by
  by_cases hown : executor a = some e
  · have haction : a = .finish e := moves_of_executor hstep hexec hown
    subst haction
    simp only [SrqWait.step, hinv.fault, SrqWait.finish, hexec, Bool.false_eq_true,
      if_false] at hstep
    cases hstep
    refine Or.inr (Or.inr ⟨1, by omega, _, .completing ?_⟩)
    rw [SrqWait.setStage_record, SrqWait.setRecord_self]
  · exact Or.inr (Or.inl (.finishing e (step_executing hstep hexec hown)))

theorem advances_of_completing (hok : SrqWait.Accepted d a) (hstep : SrqWait.step d a = some d')
    (hcompleting : (d.record r).completing = true) : Advances d' r 1 (.inr r) := by
  rcases step_record hok hstep with ⟨hrecord, -⟩ | ⟨r₀, f, k, hrecord, -, hchanges⟩
  · refine Or.inr (Or.inl (.completing ?_))
    rw [hrecord]
    exact hcompleting
  · by_cases hr : r = r₀
    · subst hr
      have hfields : d'.record r = f (d.record r) := by
        rw [hrecord, SrqWait.setRecord_self]
      cases hchanges with
      | completed =>
          left
          rw [hfields]
      | finishes =>
          refine Or.inr (Or.inl (.completing ?_))
          rw [hfields]
      | refused | accepted | taken | called | waits | unblocks | queues =>
          refine Or.inr (Or.inl (.completing ?_))
          rw [hfields]
          exact hcompleting
    · refine Or.inr (Or.inl (.completing ?_))
      rw [hrecord, SrqWait.setRecord_of_ne f hr]
      exact hcompleting

/-- A processing never goes back. -/
theorem rank_step {k : Nat} {i : Task ⊕ RecordId} (hinv : Inv d) (hok : SrqWait.Accepted d a)
    (hstep : SrqWait.step d a = some d') (hrank : Rank d r k i) : Advances d' r k i := by
  cases hrank with
  | queued hqueued hnot => exact advances_of_queued hinv hok hstep hqueued hnot
  | called e timedOut hexec hnot => exact advances_of_called hinv hok hstep hexec hnot
  | preparing e failure hexec => exact advances_of_preparing hinv hok hstep hexec
  | held h hheld => exact advances_of_held hinv hok hstep hheld
  | finishing e hexec => exact advances_of_finishing hinv hstep hexec
  | completing hcompleting => exact advances_of_completing hok hstep hcompleting

/-! ## Runs -/

theorem counts_start : Counts .start := fun _ => ⟨rfl, rfl, rfl⟩

/-- On a port that can block the device runs as in `SrqWait`. -/
theorem inv_of_reachable (hreach : (machine true).Reachable (Accepted true) s) :
    Inv s.device ∧ Counts s := by
  refine Machine.Reachable.invariant (I := fun s => Inv s.device ∧ Counts s) ?_ ?_ hreach
  · rintro _ rfl
    exact ⟨SrqWait.inv_start, counts_start⟩
  · intro s a s' hok ⟨hinv, hcounts⟩ hstep
    exact ⟨SrqWait.inv_step hinv hok.1 (blockingStep_eq hstep).1,
      counts_step hinv hok.1 hcounts hstep⟩

theorem synchronousInv_of_reachable (hreach : (machine false).Reachable (Accepted false) s) :
    SynchronousInv s := by
  refine Machine.Reachable.invariant ?_ ?_ hreach
  · rintro _ rfl
    exact ⟨rfl, rfl, rfl, rfl, fun _ => rfl, fun _ => rfl, fun _ _ => rfl⟩
  · intro s a s' hok hinv hstep
    rcases hok.2 with hblock | hrefused
    · cases hblock
    · exact synchronousInv_step hrefused hinv hstep

theorem ranking (canBlock : Bool) (r : RecordId) :
    Ranking (machine canBlock) (Accepted canBlock) pending
      (fun s => (s.device.record r).pact = true) fun s k i => Rank s.device r k i where
  exists_rank := by
    intro s hreach hpact
    cases canBlock with
    | true => exact exists_rank (inv_of_reachable hreach).1 hpact
    | false =>
        rw [(synchronousInv_of_reachable hreach).pact r] at hpact
        cases hpact
  pending_of_ranks := fun s k i hrank => hrank.pending
  step := by
    intro s a s' k i hreach hok hrank hstep
    have hpact_or : (s'.device.record r).pact = false ∨ Advances s'.device r k i := by
      cases canBlock with
      | true =>
          exact Or.inr (rank_step (inv_of_reachable hreach).1 hok.1 (blockingStep_eq hstep).1 hrank)
      | false => exact Or.inl ((synchronousInv_of_reachable (hreach.step hok hstep)).pact r)
    rcases hpact_or with hpact | hpact | hsame | hlower
    · exact Or.inl (by rw [hpact]; simp)
    · exact Or.inl (by rw [hpact]; simp)
    · exact Or.inr (Or.inl hsame)
    · exact Or.inr (Or.inr hlower)

/-- Every record is processed as accepted, and its `pact` becomes FALSE after every moment. -/
theorem processing_sound (canBlock : Bool) :
    (∀ s, (machine canBlock).Reachable (Accepted canBlock) s → ∀ r, Processed s r) ∧
      ∀ trace, (machine canBlock).Trace (Accepted canBlock) trace →
        (∀ i, Served trace (pending i)) →
        ∀ r n, ∃ m, n ≤ m ∧ ((trace m).device.record r).pact = false := by
  constructor
  · intro s hreach r
    cases canBlock with
    | true =>
        obtain ⟨hinv, hcounts⟩ := inv_of_reachable hreach
        exact processed_of_counts hinv hcounts r
    | false => exact (synchronousInv_of_reachable hreach).processed r
  · intro trace htrace hserved r n
    obtain ⟨m, hle, hpact⟩ := (ranking canBlock r).eventually htrace hserved n
    exact ⟨m, hle, Bool.eq_false_iff.mpr hpact⟩

def onBlockingPort (actions : List SrqWait.Action) : List Action :=
  actions.map fun a => ⟨a, false⟩

def srqRunEnd : State :=
  ((machine true).exec .start (onBlockingPort SrqWait.srqRun)).getD .start

theorem not_pending_srqRunEnd (i : Task ⊕ RecordId) : ¬ pending i srqRunEnd := by
  cases i with
  | inl task => exact SrqWait.not_pending_srqRunEnd task
  | inr r => cases r <;> rintro ⟨⟩

/-- A read that waits for its SRQ: one work, one wait, one `readAfterWait`, one `finish`. -/
theorem processing_sound_example :
    (∃ s, (machine true).Reachable (Accepted true) s ∧
      (s.count 0 .worked, s.count 0 .read, s.count 0 .finished) = (1, 1, 1) ∧ Processed s 0) ∧
    ∃ trace, (machine true).Trace (Accepted true) trace ∧
      ((trace SrqWait.waitRun.length).device.record 0).pact = true ∧
      ∃ m, SrqWait.waitRun.length ≤ m ∧ ((trace m).device.record 0).pact = false := by
  have hcheck : ∀ s a, decide (SrqWait.Accepted s.device a.action) = true → Accepted true s a :=
    fun _ _ hok => ⟨of_decide_eq_true hok, Or.inl rfl⟩
  constructor
  · obtain ⟨s, hreach, hvalue⟩ := Machine.exists_reachable_of_execGuarded (M := machine true)
      (fun s => (s.count 0 .worked, s.count 0 .read, s.count 0 .finished)) hcheck
      (onBlockingPort SrqWait.srqRun) rfl (b := (1, 1, 1)) rfl
    exact ⟨s, hreach, hvalue, (processing_sound true).1 s hreach 0⟩
  · have hguarded : (machine true).execGuarded (fun s a => decide (SrqWait.Accepted s.device a.action))
        .start (onBlockingPort SrqWait.srqRun) = some srqRunEnd := rfl
    have hexec : (machine true).exec .start (onBlockingPort SrqWait.srqRun) = some srqRunEnd := rfl
    obtain ⟨trace, htrace, hrun⟩ := Machine.exists_trace_of_execGuarded (M := machine true) hcheck
      (onBlockingPort SrqWait.srqRun) rfl hguarded
    refine ⟨trace, htrace, ?_, ?_⟩
    · have hwait : ((machine true).exec .start
          ((onBlockingPort SrqWait.srqRun).take SrqWait.waitRun.length)).map
            (fun s => (s.device.record 0).pact) = some true := rfl
      rw [hrun] at hwait
      exact Option.some.inj hwait
    · exact (processing_sound true).2 trace htrace
        (fun i => Machine.served_of_exec hrun hexec (not_pending_srqRunEnd i)) 0
        SrqWait.waitRun.length

/-- A read on a port that cannot block. -/
def synchronousRunEnd : State :=
  ((machine false).exec .start [⟨.process 0 .prepareToRead .accepted, false⟩]).getD .start

theorem stuck_on_synchronous_port :
    (machine false).Reachable Machine.Unguarded synchronousRunEnd ∧
      (synchronousRunEnd.device.record 0).pact = true ∧
      (synchronousRunEnd.count 0 .accepted, synchronousRunEnd.count 0 .worked,
        synchronousRunEnd.count 0 .finished) = (1, 0, 0) ∧
      ¬ Underway synchronousRunEnd.device 0 ∧ ¬ Processed synchronousRunEnd 0 := by
  have hidle : ¬ Underway synchronousRunEnd.device 0 := by
    intro hunderway
    cases hunderway with
    | queued hqueued => cases hqueued
    | running e stage hexec => cases hexec
    | completing hcompleting => cases hcompleting
    | waiting hwaiting => cases hwaiting
  refine ⟨?_, rfl, rfl, hidle, ?_⟩
  · have hexec : (machine false).exec .start [⟨.process 0 .prepareToRead .accepted, false⟩] =
        some synchronousRunEnd := rfl
    exact Machine.reachable_of_exec rfl hexec
  · intro hprocessed
    exact hidle (hprocessed.underway rfl)

end Processing
end DevGpib
end AsynDriver
