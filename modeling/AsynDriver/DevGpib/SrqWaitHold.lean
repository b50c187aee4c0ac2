import AsynDriver.DevGpib.SrqWaitSteps

/-!
# The steps of the holder

From `srqReadWait` to the `unblockProcessCallback` of `readAfterWait`: each lemma says what one step of
`SrqWait` does to the phase.
-/

namespace AsynDriver
namespace DevGpib
namespace SrqWait

open Library
open Manager (ThreadId)

variable {s s' : State} {r r' : RecordId} {e : Executor} {t : ThreadId} {ph : Phase} {h h' : Hold}
  {stage : Stage}

/-! ## The callbacks of the holder -/

/-- An executor without a live callback of another record serves the holder. -/
theorem Owns.setStage
    (howns : Owns s.record s.executing s.pblockProcessHolder r h)
    (hown : ∀ e' stage', h.callback = some (e', stage') → e' = e)
    (hserves : ∀ r₀ stage₀, s.executing e = some (r₀, stage₀) → r₀ = r ∧ stage₀ ≠ .returning)
    (f : GpibRecord → GpibRecord) (hrecord : f h.record = h'.record)
    (hcallback : h'.callback = if stage = .returning then none else some (e, stage)) :
    Owns ((s.setRecord r f).setStage e r stage).record
      ((s.setRecord r f).setStage e r stage).executing s.pblockProcessHolder r h' where
  record := by
    rw [setStage_record, setRecord_self, howns.record]
    exact hrecord
  callback := by
    rw [hcallback]
    exact howns.callback.setStage hown
  holder := by
    rcases howns.holder with hholder | ⟨hholder, hport⟩
    · exact Or.inl hholder
    · have hne : Executor.portThread ≠ e := by
        rintro rfl
        exact (hserves r .returning hport).2 rfl
      refine Or.inr ⟨hholder, ?_⟩
      rw [setStage_of_ne hne]
      exact hport
  port := by
    intro r' stage' hexec
    by_cases he : Executor.portThread = e
    · rw [he, setStage_self] at hexec
      cases hexec
      rfl
    · rw [setStage_of_ne he] at hexec
      exact howns.port r' stage' hexec
  others := by
    intro r' hne
    apply ordinary_update (howns.others r' hne) hne
    intro r₀ stage₀ hr₀
    exact (hserves r₀ stage₀ hr₀).1

/-- The hold goes on while records, callbacks and holder stay. -/
theorem Owns.hold {records : RecordId → GpibRecord} {x : Executor → Option (RecordId × Stage)}
    {owner : Option RecordId} (howns : Owns records x owner r h) (hrecord : h'.record = h.record)
    (hcallback : h'.callback = h.callback) : Owns records x owner r h' where
  record := by
    rw [hrecord]
    exact howns.record
  callback := by
    rw [hcallback]
    exact howns.callback
  holder := howns.holder
  port := howns.port
  others := howns.others

/-! ## The queue -/

/-- The request of a record is taken from the queue. -/
def take (s : State) (e : Executor) (r : RecordId) (timedOut : Bool) : State :=
  (s.setRecord r fun p => { p with isQueued := false }).setStage e r (.called timedOut)

theorem take_next {timedOut : Bool} (hphase : InPhase s ph) (hfault : s.fault = false)
    (htimer : TimerFails s.executing) (hexec : s.executing e = none)
    (hqueued : (s.record r).isQueued = true) (hcalled : e = .queueTimer → timedOut = true)
    (hport : e = .portThread → s.pblockProcessHolder = none ∨ s.pblockProcessHolder = some r) :
    Next (take s e r timedOut) ph := by
  have hstage : e = .queueTimer → (Stage.called timedOut).mayWait = false := by
    intro he
    rw [hcalled he]
    rfl
  by_cases hheld : ∃ h, ph = some (r, h)
  · obtain ⟨h, rfl⟩ := hheld
    have hphase : HeldBy s r h := hphase
    rw [hphase.owns.record] at hqueued
    cases h with
    | queued =>
        refine ⟨hfault, htimer.update hstage, some (r, .called e timedOut), ?_,
          .advances r (by simp [Hold.rank])⟩
        refine ⟨hphase.owns.setStage ?_ ?_ _ rfl ?_, ?_⟩
        · rintro e' stage' ⟨⟩
        · intro r₀ stage₀ hr₀
          rw [hexec] at hr₀
          cases hr₀
        · rw [if_neg (by simp)]
          rfl
        · have hcontrol := hphase.control
          exact ⟨hcontrol.waitState, hcontrol.pgpibDpvt, hcontrol.armed, hcontrol.timer,
            hcontrol.handler, hcontrol.poll⟩
    | waiting | expired | cancelling | cancelWaits | srqQueueing | timeoutQueueing | called
    | reading | unblocking => cases hqueued
  · have hnot : ∀ h, ph ≠ some (r, h) := fun h hph => hheld ⟨h, hph⟩
    have hown : ∀ r₀ stage₀, s.executing e = some (r₀, stage₀) → r₀ = r := by
      intro r₀ stage₀ hr₀
      rw [hexec] at hr₀
      cases hr₀
    refine ⟨hfault, htimer.update hstage, ph, ?_, .same ph⟩
    apply hphase.of_touches (touches_setStage _ hown)
    · obtain ⟨c, hlife, hcallback⟩ := hphase.ordinary hnot
      generalize hrecord : s.record r = p at hlife hqueued
      cases hlife with
      | queued work hwork =>
          refine ⟨some (e, .called timedOut), ?_, ?_⟩
          · rw [setStage_record, setRecord_self, hrecord]
            exact .called work hwork e timedOut
          · apply hcallback.setStage
            rintro e' stage' ⟨⟩
      | resting | called | preparing | finishing | completing => cases hqueued
    · rintro r₀ h rfl
      have hphase : HeldBy s r₀ h := hphase
      have hne : r₀ ≠ r := by
        rintro rfl
        exact hnot h rfl
      refine ⟨hne, ?_⟩
      intro stage' hexec'
      by_cases he : Executor.portThread = e
      · -- the port thread serves the holder only
        rcases hphase.owns.holder with hholder | ⟨-, hreturning⟩
        · rcases hport he.symm with hnone | hsome
          · rw [hnone] at hholder
            cases hholder
          · rw [hsome] at hholder
            cases hholder
            exact hne rfl
        · rw [he, hexec] at hreturning
          cases hreturning
      · rw [setStage_of_ne he] at hexec'
        exact hne (hphase.owns.port r stage' hexec').symm

theorem portThread_next {timedOut : Bool} (hphase : InPhase s ph) (hfault : s.fault = false)
    (htimer : TimerFails s.executing) (hstep : portThread s r timedOut = some s') : Next s' ph := by
  simp only [portThread] at hstep
  split at hstep
  · next hguard =>
      cases hstep
      obtain ⟨hexec, hqueued, hholder⟩ := hguard
      exact take_next hphase hfault htimer hexec hqueued (fun he => by cases he) fun _ => hholder
  · cases hstep

theorem queueTimeout_next (hphase : InPhase s ph) (hfault : s.fault = false)
    (htimer : TimerFails s.executing) (hstep : queueTimeout s r = some s') : Next s' ph := by
  simp only [queueTimeout] at hstep
  split at hstep
  · next hguard =>
      cases hstep
      exact take_next hphase hfault htimer hguard.1 hguard.2 (fun _ => rfl) fun he => by cases he
  · cases hstep

/-! ## The callbacks -/

theorem InPhase.noFault_queueCallback {timedOut : Bool} (hphase : InPhase s ph)
    (hexec : s.executing e = some (r, .called timedOut)) :
    (s.record r).pact = true ∧ ∃ work, (s.record r).work = some work := by
  by_cases hheld : ∃ h, ph = some (r, h)
  · obtain ⟨h, rfl⟩ := hheld
    have hphase : HeldBy s r h := hphase
    have hcallback := hphase.owns.callback.eq_of_executing hexec (by simp)
    rw [hphase.owns.record]
    cases h <;> cases hcallback
    exact ⟨rfl, .readAfterWait, rfl⟩
  · obtain ⟨c, hlife, hcallback⟩ := hphase.ordinary fun h hph => hheld ⟨h, hph⟩
    have hc := hcallback.eq_of_executing hexec (by simp)
    subst hc
    generalize s.record r = p at hlife ⊢
    cases hlife with
    | called work => exact ⟨rfl, work, rfl⟩

theorem queueCallback_next {windowActive : Bool} (hphase : InPhase s ph)
    (hfault : s.fault = false) (htimer : TimerFails s.executing)
    (hstep : queueCallback s e windowActive = some s') : Next s' ph := by
  simp only [queueCallback] at hstep
  split at hstep
  · next r timedOut hexec =>
      obtain ⟨hpact, work, hwork⟩ := hphase.noFault_queueCallback hexec
      simp only [hpact, hwork, if_true] at hstep
      cases hstep
      have hstage : e = .queueTimer → (work.stage (timedOut || windowActive)).mayWait = false := by
        rintro rfl
        have htimedOut := htimer r _ hexec
        simp only [Stage.mayWait, Bool.not_eq_false'] at htimedOut
        cases work <;> simp [Work.stage, Stage.mayWait, htimedOut]
      by_cases hheld : ∃ h, ph = some (r, h)
      · obtain ⟨h, rfl⟩ := hheld
        have hphase : HeldBy s r h := hphase
        have hcallback := hphase.owns.callback.eq_of_executing hexec (by simp)
        have hread : work = .readAfterWait := by
          rw [hphase.owns.record] at hwork
          cases h <;> cases hcallback
          cases hwork
          rfl
        subst hread
        refine ⟨hfault, htimer.update hstage, some (r, .reading e), ?_, ?_⟩
        · have hcontrol := hphase.control
          have howns := hphase.owns
          cases h <;> cases hcallback
          refine ⟨howns.setStage ?_ ?_ _ rfl ?_, ?_⟩
          · rintro e' stage' ⟨⟩
            rfl
          · intro r₀ stage₀ hr₀
            rw [hexec] at hr₀
            cases hr₀
            exact ⟨rfl, by simp⟩
          · rw [if_neg (by simp [Work.stage])]
            rfl
          · exact ⟨hcontrol.waitState, hcontrol.pgpibDpvt, hcontrol.armed, hcontrol.timer,
              hcontrol.handler, hcontrol.poll⟩
        · cases h <;> cases hcallback
          exact .advances r (by simp [Hold.rank])
      · have hnot : ∀ h, ph ≠ some (r, h) := fun h hph => hheld ⟨h, hph⟩
        apply next_of_setStage hphase hfault htimer hnot hexec (by simp) _ hstage
        intro p hlife hrecord
        rw [hrecord] at hwork
        cases hlife with
        | called work' hwork' =>
            cases hwork
            cases work with
            | prepareToRead => exact .preparing e _
            | gpibWrite => exact .finishing e
            | readAfterWait => exact absurd rfl hwork'
  · cases hstep

theorem Hold.callback_ne_prepareToRead {failure : Bool} :
    h.callback ≠ some (e, .prepareToRead failure) := by
  cases h <;> simp [Hold.callback]

theorem eq_of_executing {x : Executor → Option (RecordId × Stage)} (hexec : x e = some (r, stage))
    (r₀ : RecordId) (stage₀ : Stage) (hr₀ : x e = some (r₀, stage₀)) : r₀ = r := by
  rw [hexec] at hr₀
  cases hr₀
  rfl

theorem srqReadWait_next (hphase : InPhase s ph) (hfault : s.fault = false)
    (htimer : TimerFails s.executing) (hstep : srqReadWait s e true = some s') : Next s' ph := by
  simp only [srqReadWait] at hstep
  split at hstep
  · next r hexec =>
      have he : e = .portThread := by
        cases e with
        | portThread => rfl
        | queueTimer => exact absurd (htimer r _ hexec) (by simp [Stage.mayWait])
      subst he
      have hnot : ∀ h, ph ≠ some (r, h) :=
        hphase.not_held_of_executing hexec (by simp) fun h => h.callback_ne_prepareToRead
      have hph := hphase.port hnot hexec
      subst hph
      have hphase : Quiet s := hphase
      obtain ⟨c, hlife, hcallback⟩ := hphase.ordinary r
      have hc := hcallback.eq_of_executing hexec (by simp)
      subst hc
      have hrecord : s.record r = ⟨none, true, false, false, 0⟩ := by
        generalize s.record r = p at hlife
        cases hlife
        rfl
      simp only [hrecord, and_self, if_true] at hstep
      cases hstep
      refine ⟨hfault, ?_, some (r, .waiting), ?_, .begins r⟩
      · intro r' stage' hexec'
        exact htimer r' stage' hexec'
      · refine ⟨⟨?_, ?_, ?_, ?_, ?_⟩, ?_⟩
        · rw [setStage_record, setRecord_self]
          rw [hrecord]
          rfl
        · apply hcallback.setStage
          rintro e' stage' ⟨⟩
          rfl
        · exact Or.inr ⟨hphase.holder, setStage_self⟩
        · intro r' stage' hexec'
          rw [setStage_self] at hexec'
          cases hexec'
          rfl
        · intro r' hne
          apply ordinary_update (hphase.ordinary r') hne
          exact eq_of_executing hexec
        · exact ⟨rfl, rfl, rfl, hphase.timer, hphase.handler, fun hnone => by cases hnone⟩
  · cases hstep

theorem readAfterWait_next (hphase : InPhase s ph) (hfault : s.fault = false)
    (htimer : TimerFails s.executing) (hstep : readAfterWait s e = some s') : Next s' ph := by
  simp only [readAfterWait] at hstep
  split at hstep
  · next r hexec =>
      by_cases hheld : ∃ h, ph = some (r, h)
      · obtain ⟨h, rfl⟩ := hheld
        have hphase : HeldBy s r h := hphase
        have hcallback := hphase.owns.callback.eq_of_executing hexec (by simp)
        have hcontrol := hphase.control
        have howns := hphase.owns
        cases h <;> cases hcallback
        have hpgpibDpvt : s.pgpibDpvt = some r := hcontrol.pgpibDpvt
        simp only [hpgpibDpvt, if_true] at hstep
        cases hstep
        refine ⟨hfault, htimer.update fun _ => rfl, some (r, .unblocking e), ?_, .advances r (by simp [Hold.rank])⟩
        have hcallback' : Hold.callback (.unblocking e) =
            if Stage.unblocking = .returning then none else some (e, .unblocking) := by
          rw [if_neg (by simp)]
          rfl
        have hrecord : id (Hold.reading e).record = (Hold.unblocking e).record := rfl
        have hnext := howns.setStage
          (by rintro e' stage' ⟨⟩; rfl)
          (by
            intro r₀ stage₀ hr₀
            rw [hexec] at hr₀
            cases hr₀
            exact ⟨rfl, by simp⟩) id hrecord hcallback'
        rw [setRecord_id] at hnext
        refine ⟨hnext, rfl, rfl, hcontrol.armed, hcontrol.timer, hcontrol.handler, ?_⟩
        intro _ hunsollicited
        change (s.polled && s.unsollicitedHandler) = false
        have hold : s.unsollicitedHandler = false := hunsollicited
        rw [hold, Bool.and_false]
      · have hnot : ∀ h, ph ≠ some (r, h) := fun h hph => hheld ⟨h, hph⟩
        obtain ⟨c, hlife, hcallback⟩ := hphase.ordinary hnot
        have hc := hcallback.eq_of_executing hexec (by simp)
        exact absurd hc (hlife.not_waiting e).1
  · cases hstep

/-- The call succeeds, and the device has no holder any more. -/
theorem unblockProcessCallback_next (hphase : InPhase s ph) (hfault : s.fault = false)
    (htimer : TimerFails s.executing) (hstep : unblockProcessCallback s e = some s') : Next s' ph := by
  simp only [unblockProcessCallback] at hstep
  split at hstep
  · next r hexec =>
      by_cases hheld : ∃ h, ph = some (r, h)
      · obtain ⟨h, rfl⟩ := hheld
        have hphase : HeldBy s r h := hphase
        have hcallback := hphase.owns.callback.eq_of_executing hexec (by simp)
        have hcontrol := hphase.control
        have howns := hphase.owns
        cases h <;> cases hcallback
        have hrecord : s.record r = ⟨none, true, false, false, 1⟩ := howns.record
        simp only [hrecord, Nat.one_ne_zero, Bool.false_eq_true, or_self, if_false, true_and]
          at hstep
        cases hstep
        refine ⟨hfault, htimer.update fun _ => rfl, none, ?_, .ends r _⟩
        refine ⟨hcontrol.waitState, hcontrol.pgpibDpvt, hcontrol.armed, hcontrol.timer,
          hcontrol.handler, hcontrol.poll hcontrol.pgpibDpvt, ?_, ?_⟩
        · change (if s.pblockProcessHolder = some r then none else s.pblockProcessHolder) = none
          rcases howns.holder with hholder | ⟨hholder, -⟩
          · rw [if_pos hholder]
          · rw [hholder]
            rfl
        · intro r'
          by_cases hne : r' = r
          · subst hne
            refine ⟨some (e, .finishing), ?_, ?_⟩
            · rw [setStage_record, setRecord_self]
              rw [hrecord]
              exact .finishing e
            · apply howns.callback.setStage
              rintro e' stage' ⟨⟩
              rfl
          · exact ordinary_update (howns.others r' hne) hne (eq_of_executing hexec)
      · have hnot : ∀ h, ph ≠ some (r, h) := fun h hph => hheld ⟨h, hph⟩
        obtain ⟨c, hlife, hcallback⟩ := hphase.ordinary hnot
        have hc := hcallback.eq_of_executing hexec (by simp)
        exact absurd hc (hlife.not_waiting e).2
  · cases hstep

/-- A callback returns; for the holder `portThread` writes `pblockProcessHolder`. -/
theorem callbackReturns_next (hphase : InPhase s ph) (hfault : s.fault = false)
    (htimer : TimerFails s.executing) (hstep : callbackReturns s e = some s') : Next s' ph := by
  simp only [callbackReturns] at hstep
  split at hstep
  · next r hexec =>
      cases hstep
      have htimer' : TimerFails (Function.update s.executing e none) := by
        intro r' stage' hexec'
        by_cases he : Executor.queueTimer = e
        · rw [he, Function.update_self] at hexec'
          cases hexec'
        · rw [Function.update_of_ne he] at hexec'
          exact htimer r' stage' hexec'
      have hframe : ∀ r', r' ≠ r → ∀ e' stage',
          Function.update s.executing e none e' = some (r', stage') ↔
            s.executing e' = some (r', stage') := by
        intro r' hne
        apply update_iff_of_ne hne (eq_of_executing hexec)
        rintro r₀ stage₀ ⟨⟩
      refine ⟨hfault, htimer', ph, ?_, .same ph⟩
      by_cases hheld : ∃ h, ph = some (r, h)
      · obtain ⟨h, rfl⟩ := hheld
        have hphase : HeldBy s r h := hphase
        have hcontrol := hphase.control
        have howns := hphase.owns
        refine ⟨⟨howns.record, howns.callback.returned hexec fun _ => h.live, ?_, ?_, ?_⟩,
          hcontrol.waitState, hcontrol.pgpibDpvt, hcontrol.armed, hcontrol.timer, hcontrol.handler,
          hcontrol.poll⟩
        · have hblocks : 0 < (s.record r).blockDeviceCount := by
            rw [howns.record, h.record_blocks]
            exact Nat.one_pos
          by_cases he : e = .portThread
          · rw [if_pos ⟨he, hblocks⟩]
            exact Or.inl rfl
          · rw [if_neg fun hboth => he hboth.1]
            rcases howns.holder with hholder | ⟨hholder, hport⟩
            · exact Or.inl hholder
            · exact Or.inr ⟨hholder, (Function.update_of_ne (Ne.symm he) _ _).trans hport⟩
        · intro r' stage' hexec'
          by_cases hne : r' = r
          · exact hne
          · exact howns.port r' stage' ((hframe r' hne _ _).mp hexec')
        · intro r' hne
          obtain ⟨c, hlife, hcallback⟩ := howns.others r' hne
          exact ⟨c, hlife, hcallback.frame (hframe r' hne)⟩
      · have hnot : ∀ h, ph ≠ some (r, h) := fun h hph => hheld ⟨h, hph⟩
        obtain ⟨c, hlife, hcallback⟩ := hphase.ordinary hnot
        have hblocks : ¬(e = .portThread ∧ 0 < (s.record r).blockDeviceCount) := by
          rw [hlife.blocks_eq_zero]
          simp
        rw [if_neg hblocks]
        have htouches : Touches s { s with executing := Function.update s.executing e none } r :=
          { record := fun _ _ => rfl
            executing := hframe }
        apply hphase.of_touches htouches ⟨c, hlife, hcallback.returned hexec hlife.live⟩
        rintro r₀ h rfl
        have hne : r₀ ≠ r := by
          rintro rfl
          exact hnot h rfl
        refine ⟨hne, ?_⟩
        intro stage' hport
        by_cases he : Executor.portThread = e
        · change Function.update s.executing e none .portThread = _ at hport
          rw [he, Function.update_self] at hport
          cases hport
        · change Function.update s.executing e none .portThread = _ at hport
          rw [Function.update_of_ne he] at hport
          cases hphase.port hnot hport
  · cases hstep

/-! ## The SRQ and the timer -/

/-- The record of the hold is queued by its handler or its timer. -/
theorem Owns.queue (howns : Owns s.record s.executing s.pblockProcessHolder r h)
    (hrecord : h.record = Hold.waiting.record) (hcallback : h.callback = none) :
    Owns (s.setRecord r fun p => { p with isQueued := true, pact := true }).record s.executing
      s.pblockProcessHolder r .queued where
  record := by
    rw [setRecord_self, howns.record, hrecord]
    rfl
  callback := by
    have hcall := howns.callback
    rw [hcallback] at hcall
    exact hcall
  holder := howns.holder
  port := howns.port
  others := by
    intro r' hne
    obtain ⟨c, hlife, hcall⟩ := howns.others r' hne
    refine ⟨c, ?_, hcall⟩
    rw [setRecord_of_ne _ hne]
    exact hlife

theorem srqHandlerGpib_next (hphase : InPhase s ph) (hfault : s.fault = false)
    (htimer : TimerFails s.executing) (hstep : srqHandlerGpib s t = some s') : Next s' ph := by
  simp only [srqHandlerGpib] at hstep
  split at hstep
  · next hidle hwait =>
      cases hstep
      cases ph with
      | none =>
          have hquiet : Quiet s := hphase
          rw [hquiet.waitState] at hwait
          cases hwait
      | some held =>
          obtain ⟨r, h⟩ := held
          have hphase : HeldBy s r h := hphase
          have hcontrol := hphase.control
          have hwaitState := hcontrol.waitState
          rw [hwait] at hwaitState
          cases h with
          | waiting =>
              refine ⟨hfault, htimer, some (r, .cancelling t true), ?_,
                .advances r (by simp [Hold.rank])⟩
              refine ⟨hphase.owns.hold rfl rfl, rfl, hcontrol.pgpibDpvt, hcontrol.armed,
                hcontrol.timer, ?_, hcontrol.poll⟩
              exact congrArg (Function.update · t .cancelling) hcontrol.handler
          | expired =>
              refine ⟨hfault, htimer, some (r, .cancelWaits t), ?_,
                .advances r (by simp [Hold.rank])⟩
              refine ⟨hphase.owns.hold rfl rfl, rfl, hcontrol.pgpibDpvt, hcontrol.armed,
                hcontrol.timer, ?_, hcontrol.poll⟩
              exact congrArg (Function.update · t .cancelling) hcontrol.handler
          | cancelling | cancelWaits | srqQueueing | timeoutQueueing | unblocking =>
              cases hwaitState
          | queued | called | reading => rcases hwaitState with hdone | hdone <;> cases hdone
  · cases hstep
    exact ⟨hfault, htimer, ph, hphase, .same ph⟩
  · cases hstep

theorem Hold.handler_ne_idle {stage : HandlerStage} (hstage : stage ≠ .idle)
    (hhandler : h.handler t = stage) :
    ((∃ armed, h = .cancelling t armed) ∨ h = .cancelWaits t) ∧ stage = .cancelling ∨
      h = .srqQueueing t ∧ stage = .queueing := by
  have hupdate : ∀ t₀ stage₀, Function.update (fun _ => HandlerStage.idle) t₀ stage₀ t = stage →
      t₀ = t ∧ stage = stage₀ := by
    intro t₀ stage₀ hlookup
    by_cases ht : t = t₀
    · rw [ht, Function.update_self] at hlookup
      exact ⟨ht.symm, hlookup.symm⟩
    · rw [Function.update_of_ne ht] at hlookup
      exact absurd hlookup.symm hstage
  cases h with
  | cancelling t₀ armed =>
      obtain ⟨rfl, hsame⟩ := hupdate _ _ hhandler
      exact Or.inl ⟨Or.inl ⟨armed, rfl⟩, hsame⟩
  | cancelWaits t₀ =>
      obtain ⟨rfl, hsame⟩ := hupdate _ _ hhandler
      exact Or.inl ⟨Or.inr rfl, hsame⟩
  | srqQueueing t₀ =>
      obtain ⟨rfl, hsame⟩ := hupdate _ _ hhandler
      exact Or.inr ⟨rfl, hsame⟩
  | waiting | expired | timeoutQueueing | queued | called | reading | unblocking =>
      exact absurd hhandler.symm hstage

/-- A handler is busy for the holder only. -/
theorem InPhase.handler_held {stage : HandlerStage} (hphase : InPhase s ph)
    (hstage : stage ≠ .idle) (hhandler : s.handler t = stage) :
    ∃ r h, ph = some (r, h) ∧ HeldBy s r h ∧ h.handler t = stage := by
  cases ph with
  | none =>
      have hquiet : Quiet s := hphase
      rw [hquiet.handler] at hhandler
      exact absurd hhandler.symm hstage
  | some held =>
      obtain ⟨r, h⟩ := held
      have hphase : HeldBy s r h := hphase
      rw [hphase.control.handler] at hhandler
      exact ⟨r, h, rfl, hphase, hhandler⟩

theorem cancelTimer_next (hphase : InPhase s ph) (hfault : s.fault = false)
    (htimer : TimerFails s.executing) (hstep : cancelTimer s t = some s') : Next s' ph := by
  simp only [cancelTimer] at hstep
  split at hstep
  · next hguard =>
      cases hstep
      obtain ⟨r, h, rfl, hheld, hhandler⟩ := hphase.handler_held (by simp) hguard.1
      have hcontrol := hheld.control
      rcases Hold.handler_ne_idle (by simp) hhandler with
        ⟨⟨armed, rfl⟩ | rfl, -⟩ | ⟨-, hqueueing⟩
      · refine ⟨hfault, htimer, some (r, .srqQueueing t), ?_, .advances r ?_⟩
        · refine ⟨hheld.owns.hold rfl rfl, hcontrol.waitState, hcontrol.pgpibDpvt, rfl,
            hcontrol.timer, ?_, hcontrol.poll⟩
          change Function.update s.handler t .queueing = _
          rw [hcontrol.handler]
          exact Function.update_idem _ _ _
        · cases armed <;> simp [Hold.rank]
      · have hentered := hcontrol.timer
        rw [hguard.2] at hentered
        cases hentered
      · cases hqueueing
  · cases hstep

theorem handlerQueueIt_next (hphase : InPhase s ph) (hfault : s.fault = false)
    (htimer : TimerFails s.executing) (hstep : handlerQueueIt s t .accepted = some s') :
    Next s' ph := by
  simp only [handlerQueueIt] at hstep
  split at hstep
  · next hguard =>
      obtain ⟨r, h, rfl, hheld, hhandler⟩ := hphase.handler_held (by simp) hguard
      have hcontrol := hheld.control
      rcases Hold.handler_ne_idle (by simp) hhandler with ⟨-, hcancelling⟩ | ⟨rfl, -⟩
      · cases hcancelling
      · have hpgpibDpvt : s.pgpibDpvt = some r := hcontrol.pgpibDpvt
        have hrecord := hheld.owns.record
        simp only [queueWaiting, State.setHandler, hpgpibDpvt, queueIt, hrecord, Hold.record,
          Bool.false_eq_true, if_false] at hstep
        cases hstep
        refine ⟨hfault, htimer, some (r, .queued), ?_, .advances r (by simp [Hold.rank])⟩
        refine ⟨hheld.owns.queue rfl rfl, Or.inl hcontrol.waitState, rfl, hcontrol.armed,
          hcontrol.timer, ?_, fun hnone => by cases hnone⟩
        change Function.update s.handler t .idle = _
        rw [hcontrol.handler]
        exact (Function.update_idem _ _ _).trans (Function.update_eq_self t _)
  · cases hstep

theorem expire_next (hphase : InPhase s ph) (hfault : s.fault = false)
    (htimer : TimerFails s.executing) (hstep : expire s = some s') : Next s' ph := by
  simp only [expire] at hstep
  split at hstep
  · next hguard =>
      cases hstep
      cases ph with
      | none =>
          have hquiet : Quiet s := hphase
          have harmed := hguard.1
          rw [hquiet.armed] at harmed
          cases harmed
      | some held =>
          obtain ⟨r, h⟩ := held
          have hphase : HeldBy s r h := hphase
          have hcontrol := hphase.control
          have harmed := hcontrol.armed
          rw [hguard.1] at harmed
          cases h with
          | waiting =>
              exact ⟨hfault, htimer, some (r, .expired),
                ⟨hphase.owns.hold rfl rfl, hcontrol.waitState, hcontrol.pgpibDpvt, rfl, rfl,
                  hcontrol.handler, hcontrol.poll⟩, .advances r (by simp [Hold.rank])⟩
          | cancelling t armed =>
              cases harmed
              exact ⟨hfault, htimer, some (r, .cancelWaits t),
                ⟨hphase.owns.hold rfl rfl, hcontrol.waitState, hcontrol.pgpibDpvt, rfl, rfl,
                  hcontrol.handler, hcontrol.poll⟩, .advances r (by simp [Hold.rank])⟩
          | expired | cancelWaits | srqQueueing | timeoutQueueing | queued | called | reading
          | unblocking => cases harmed
  · cases hstep

theorem InPhase.timer_held (hphase : InPhase s ph) (hstage : s.timer ≠ .idle) :
    ∃ r h, ph = some (r, h) ∧ HeldBy s r h ∧ h.timer ≠ .idle := by
  cases ph with
  | none =>
      have hquiet : Quiet s := hphase
      exact absurd hquiet.timer hstage
  | some held =>
      obtain ⟨r, h⟩ := held
      have hphase : HeldBy s r h := hphase
      rw [hphase.control.timer] at hstage
      exact ⟨r, h, rfl, hphase, hstage⟩

theorem waitTimeoutCallback_next (hphase : InPhase s ph) (hfault : s.fault = false)
    (htimer : TimerFails s.executing) (hstep : waitTimeoutCallback s = some s') :
    Next s' ph := by
  simp only [waitTimeoutCallback] at hstep
  split at hstep
  · next hentered =>
      obtain ⟨r, h, rfl, hheld, hbusy⟩ := hphase.timer_held (by rw [hentered]; simp)
      have hcontrol := hheld.control
      have hstage := hcontrol.timer
      rw [hentered] at hstage
      have hwaitState := hcontrol.waitState
      cases h with
      | expired =>
          have hwait : s.waitState = .srqWait := hwaitState
          have hpgpibDpvt : s.pgpibDpvt = some r := hcontrol.pgpibDpvt
          simp only [hwait, hpgpibDpvt, if_true, reduceCtorEq, if_false] at hstep
          cases hstep
          exact ⟨hfault, htimer, some (r, .timeoutQueueing),
            ⟨hheld.owns.hold rfl rfl, rfl, rfl, hcontrol.armed, rfl, hcontrol.handler,
              fun hnone => by cases hnone⟩, .advances r (by simp [Hold.rank])⟩
      | cancelWaits t =>
          have hdone : s.waitState = .srqWaitDone := hwaitState
          simp only [hdone, reduceCtorEq, if_false] at hstep
          cases hstep
          exact ⟨hfault, htimer, some (r, .cancelling t false),
            ⟨hheld.owns.hold rfl rfl, rfl, hcontrol.pgpibDpvt, hcontrol.armed, rfl,
              hcontrol.handler, hcontrol.poll⟩, .advances r (by simp [Hold.rank])⟩
      | timeoutQueueing => cases hstage
      | waiting | cancelling | srqQueueing | queued | called | reading | unblocking =>
          exact absurd rfl hbusy
  · cases hstep

theorem timerQueueIt_next (hphase : InPhase s ph) (hfault : s.fault = false)
    (htimer : TimerFails s.executing) (hstep : timerQueueIt s .accepted = some s') :
    Next s' ph := by
  simp only [timerQueueIt] at hstep
  split at hstep
  · next hqueueing =>
      obtain ⟨r, h, rfl, hheld, hbusy⟩ := hphase.timer_held (by rw [hqueueing]; simp)
      have hcontrol := hheld.control
      have hstage := hcontrol.timer
      rw [hqueueing] at hstage
      cases h with
      | timeoutQueueing =>
          have hpgpibDpvt : s.pgpibDpvt = some r := hcontrol.pgpibDpvt
          have hrecord := hheld.owns.record
          simp only [queueWaiting, hpgpibDpvt, queueIt, hrecord, Hold.record, Bool.false_eq_true,
            if_false] at hstep
          cases hstep
          exact ⟨hfault, htimer, some (r, .queued),
            ⟨hheld.owns.queue rfl rfl, Or.inr hcontrol.waitState, rfl, hcontrol.armed, rfl,
              hcontrol.handler, fun hnone => by cases hnone⟩, .advances r (by simp [Hold.rank])⟩
      | expired | cancelWaits => cases hstage
      | waiting | cancelling | srqQueueing | queued | called | reading | unblocking =>
          exact absurd rfl hbusy
  · cases hstep

theorem registerSrqHandler_next (hphase : InPhase s ph) (hfault : s.fault = false)
    (htimer : TimerFails s.executing) : Next (registerSrqHandler s) ph := by
  simp only [registerSrqHandler]
  split
  · exact ⟨hfault, htimer, ph, hphase, .same ph⟩
  · refine ⟨hfault, htimer, ph, ?_, .same ph⟩
    cases ph with
    | none =>
        have hquiet : Quiet s := hphase
        exact ⟨hquiet.waitState, hquiet.pgpibDpvt, hquiet.armed, hquiet.timer, hquiet.handler,
          (fun hnone => by cases hnone), hquiet.holder, hquiet.ordinary⟩
    | some held =>
        obtain ⟨r, h⟩ := held
        have hheld : HeldBy s r h := hphase
        have hcontrol := hheld.control
        exact ⟨hheld.owns, hcontrol.waitState, hcontrol.pgpibDpvt, hcontrol.armed, hcontrol.timer,
          hcontrol.handler, fun _ hnone => by cases hnone⟩

end SrqWait
end DevGpib
end AsynDriver
