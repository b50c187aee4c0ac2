import AsynDriver.DevGpib.Processing
import AsynDriver.DevGpib.SrqWaitSafety

/-!
# What a step does to a record

`Changes` lists the steps of `SrqWait` that write a record, with what they write (`step_record`), and
`executor` names the callback that a step moves; the others stay (`step_executing`).  From the first the
events of a step and the fields of its record balance (`step_balanced`).
-/

namespace AsynDriver
namespace DevGpib
namespace Processing

open Library
open SrqWait (RecordId GpibRecord Work Stage Executor Answer Phase Hold HeldBy InPhase Quiet Inv)

variable {d d' : SrqWait.State} {r : RecordId} {e : Executor} {stage : Stage}
  {a : SrqWait.Action}

/-- What an accepted step writes to the record `r`, and its event. -/
inductive Changes (d d' : SrqWait.State) :
    SrqWait.Action → RecordId → (GpibRecord → GpibRecord) → Option Event → Prop
  | refused (r : RecordId) (work : Work) (answer : Answer) (hpact : (d.record r).pact = false)
      (hanswer : answer ≠ .accepted) :
      Changes d d' (.process r work answer) r
        (fun p => { p with work := some work, pact := false }) none
  | accepted (r : RecordId) (work : Work) (hpact : (d.record r).pact = false)
      (hwork : work ≠ .readAfterWait) :
      Changes d d' (.process r work .accepted) r
        (fun p => { p with work := some work, isQueued := true, pact := true }) (some .accepted)
  | completed (r : RecordId) (hcompleting : (d.record r).completing = true) :
      Changes d d' (.complete r) r (fun p => { p with completing := false, pact := false }) none
  | taken (r : RecordId) (e : Executor) (timedOut : Bool) (a : SrqWait.Action)
      (haction : a = .portThread r timedOut ∨ a = .queueTimeout r)
      (hexec : d'.executing e = some (r, .called timedOut)) :
      Changes d d' a r (fun p => { p with isQueued := false }) none
  | called (r : RecordId) (e : Executor) (windowActive timedOut failure : Bool) (work : Work)
      (hexec : d.executing e = some (r, .called timedOut)) (hpact : (d.record r).pact = true)
      (hwork : (d.record r).work = some work)
      (hexec' : d'.executing e = some (r, work.stage failure)) :
      Changes d d' (.queueCallback e windowActive) r (fun p => { p with work := none })
        (some (if work = .readAfterWait then .read else .worked))
  | waits (r : RecordId) (e : Executor) (hexec : d.executing e = some (r, .prepareToRead false))
      (hpgpibDpvt : d'.pgpibDpvt = some r) :
      Changes d d' (.srqReadWait e true) r
        (fun p =>
          { p with work := some .readAfterWait, blockDeviceCount := p.blockDeviceCount + 1 })
        (some .waited)
  | unblocks (r : RecordId) (e : Executor) (hexec' : d'.executing e = some (r, .finishing)) :
      Changes d d' (.unblockProcessCallback e) r
        (fun p => { p with blockDeviceCount := p.blockDeviceCount - 1 }) none
  | finishes (r : RecordId) (e : Executor) (hexec : d.executing e = some (r, .finishing)) :
      Changes d d' (.finish e) r (fun p => { p with completing := true }) (some .finished)
  | queues (r : RecordId) (a : SrqWait.Action)
      (haction : (∃ t, a = .handlerQueueIt t .accepted) ∨ a = .timerQueueIt .accepted)
      (hpgpibDpvt : d.pgpibDpvt = some r) :
      Changes d d' a r (fun p => { p with isQueued := true, pact := true }) none

theorem queueIt_record {answer : Answer} (hstep : SrqWait.queueIt d r answer = some d') :
    (answer = .timeWindow ∧ d' = d) ∨
      (answer = .refused ∧ d' = d.setRecord r fun p => { p with pact := false }) ∨
      (answer = .accepted ∧ d' = d.setRecord r fun p => { p with isQueued := true, pact := true }) := by
  cases answer with
  | timeWindow =>
      cases hstep
      exact Or.inl ⟨rfl, rfl⟩
  | refused =>
      cases hstep
      exact Or.inr (Or.inl ⟨rfl, rfl⟩)
  | accepted =>
      simp only [SrqWait.queueIt] at hstep
      split at hstep
      · cases hstep
      · cases hstep
        exact Or.inr (Or.inr ⟨rfl, rfl⟩)

theorem setRecord_congr {f g : GpibRecord → GpibRecord} (hsame : f (d.record r) = g (d.record r)) :
    d.setRecord r f = d.setRecord r g := by
  simp only [SrqWait.State.setRecord, hsame]

/-- A step leaves the records alone, or makes one of the changes. -/
def Recorded (d d' : SrqWait.State) (a : SrqWait.Action) : Prop :=
  (d'.record = d.record ∧ event d a = none) ∨
    ∃ r f k, d'.record = (d.setRecord r f).record ∧ event d a = k.map (Prod.mk r) ∧
      Changes d d' a r f k

theorem process_recorded {work : Work} {answer : Answer}
    (hstep : SrqWait.process d r work answer = some d') : Recorded d d' (.process r work answer) := by
  simp only [SrqWait.process] at hstep
  split at hstep
  · next hguard =>
      obtain ⟨hpact, hwork⟩ := hguard
      right
      rcases queueIt_record hstep with ⟨hanswer, rfl⟩ | ⟨hanswer, rfl⟩ | ⟨rfl, rfl⟩
      · subst hanswer
        refine ⟨r, _, _, ?_, rfl, .refused r work .timeWindow hpact (by simp)⟩
        -- `pact` is clear already
        rw [setRecord_congr]
        simp only [hpact]
      · subst hanswer
        refine ⟨r, _, _, ?_, rfl, .refused r work .refused hpact (by simp)⟩
        rw [SrqWait.setRecord_setRecord]
      · refine ⟨r, _, _, ?_, rfl, .accepted r work hpact hwork⟩
        rw [SrqWait.setRecord_setRecord]
  · cases hstep

/-- A callback of a record that is not active, or that has no work, does nothing. -/
theorem queueCallback_recorded {windowActive : Bool}
    (hstep : SrqWait.queueCallback d e windowActive = some d') :
    Recorded d d' (.queueCallback e windowActive) := by
  simp only [SrqWait.queueCallback] at hstep
  split at hstep
  · next r timedOut hexec =>
      have hevent : event d (.queueCallback e windowActive) =
          if (d.record r).pact then
            (d.record r).work.map fun work =>
              (r, if work = .readAfterWait then Event.read else .worked)
          else none := by
        simp only [event, hexec]
      split at hstep
      · next hpact =>
          rw [if_pos hpact] at hevent
          split at hstep
          · next hwork =>
              cases hstep
              rw [hwork] at hevent
              exact Or.inl ⟨rfl, hevent⟩
          · next work hwork =>
              cases hstep
              rw [hwork] at hevent
              exact Or.inr ⟨r, _, some _, rfl, hevent, .called r e windowActive timedOut _ work hexec
                hpact hwork SrqWait.setStage_self⟩
      · next hpact =>
          cases hstep
          rw [if_neg hpact] at hevent
          exact Or.inl ⟨rfl, hevent⟩
  · cases hstep

theorem srqReadWait_recorded (hstep : SrqWait.srqReadWait d e true = some d') :
    Recorded d d' (.srqReadWait e true) := by
  simp only [SrqWait.srqReadWait] at hstep
  split at hstep
  · next r hexec =>
      split at hstep
      · next hguard =>
          cases hstep
          have hevent : event d (.srqReadWait e true) = some (r, .waited) := by
            simp only [event, hexec, if_pos hguard]
          exact Or.inr ⟨r, _, some _, rfl, hevent, .waits r e hexec rfl⟩
      · next hguard =>
          cases hstep
          have hevent : event d (.srqReadWait e true) = none := by
            simp only [event, hexec, if_neg hguard]
          exact Or.inl ⟨rfl, hevent⟩
  · cases hstep

/-- `queueIt` for the record that waits, from the SRQ handler or from the timer; `d₁` is the state in which
their thread has moved on. -/
theorem queueWaiting_recorded {d₁ : SrqWait.State}
    (haction : (∃ t, a = .handlerQueueIt t .accepted) ∨ a = .timerQueueIt .accepted)
    (hstep : SrqWait.queueWaiting d₁ .accepted = some d') (hrecord : d₁.record = d.record)
    (hpgpibDpvt : d₁.pgpibDpvt = d.pgpibDpvt) : Recorded d d' a := by
  have hevent : event d a = none := by
    rcases haction with ⟨t, rfl⟩ | rfl <;> rfl
  unfold SrqWait.queueWaiting at hstep
  split at hstep
  · cases hstep
    exact Or.inl ⟨hrecord, hevent⟩
  · next r hwaiting =>
      rcases queueIt_record hstep with ⟨⟨⟩, -⟩ | ⟨⟨⟩, -⟩ | ⟨-, rfl⟩
      refine Or.inr ⟨r, _, none, ?_, hevent, .queues r a haction (hpgpibDpvt.symm.trans hwaiting)⟩
      simp only [SrqWait.State.setRecord, hrecord]

/-- A step without a fault leaves the records alone or makes one of the changes. -/
theorem step_record (hok : SrqWait.Accepted d a) (hstep : SrqWait.step d a = some d') :
    (d'.record = d.record ∧ event d a = none) ∨
      ∃ r f k, d'.record = (d.setRecord r f).record ∧ event d a = k.map (Prod.mk r) ∧
        Changes d d' a r f k := by
  simp only [SrqWait.step] at hstep
  split at hstep
  · cases hstep
  cases a with
  | process r work answer => exact process_recorded hstep
  | complete r =>
      simp only [SrqWait.complete] at hstep
      split at hstep
      · next hcompleting =>
          cases hstep
          exact Or.inr ⟨r, _, _, rfl, rfl, .completed r hcompleting⟩
      · cases hstep
  | portThread r timedOut =>
      simp only [SrqWait.portThread] at hstep
      split at hstep
      · cases hstep
        exact Or.inr ⟨r, _, _, rfl, rfl, .taken r .portThread timedOut _ (Or.inl rfl) SrqWait.setStage_self⟩
      · cases hstep
  | queueTimeout r =>
      simp only [SrqWait.queueTimeout] at hstep
      split at hstep
      · cases hstep
        exact Or.inr ⟨r, _, _, rfl, rfl, .taken r .queueTimer true _ (Or.inr rfl) SrqWait.setStage_self⟩
      · cases hstep
  | queueCallback e windowActive => exact queueCallback_recorded hstep
  | srqReadWait e accepted =>
      cases hok
      exact srqReadWait_recorded hstep
  | prepareToRead e =>
      simp only [SrqWait.prepareToRead] at hstep
      split at hstep
      · cases hstep
        exact Or.inl ⟨rfl, rfl⟩
      · cases hstep
  | readAfterWait e =>
      simp only [SrqWait.readAfterWait] at hstep
      split at hstep
      · split at hstep
        · cases hstep
          exact Or.inl ⟨rfl, rfl⟩
        · cases hstep
          exact Or.inl ⟨rfl, rfl⟩
      · cases hstep
  | unblockProcessCallback e =>
      simp only [SrqWait.unblockProcessCallback] at hstep
      split at hstep
      · next r hexec =>
          split at hstep
          · cases hstep
            exact Or.inl ⟨rfl, rfl⟩
          · cases hstep
            exact Or.inr ⟨r, _, _, rfl, rfl, .unblocks r e SrqWait.setStage_self⟩
      · cases hstep
  | finish e =>
      simp only [SrqWait.finish] at hstep
      split at hstep
      · next r hexec =>
          cases hstep
          have hevent : event d (.finish e) = some (r, .finished) := by
            simp only [event, hexec, Option.map_some]
          exact Or.inr ⟨r, _, some _, rfl, hevent, .finishes r e hexec⟩
      · cases hstep
  | callbackReturns e =>
      simp only [SrqWait.callbackReturns] at hstep
      split at hstep
      · cases hstep
        exact Or.inl ⟨rfl, rfl⟩
      · cases hstep
  | srqHandlerGpib t =>
      simp only [SrqWait.srqHandlerGpib] at hstep
      split at hstep
      · cases hstep
        exact Or.inl ⟨rfl, rfl⟩
      · cases hstep
        exact Or.inl ⟨rfl, rfl⟩
      · cases hstep
  | cancelTimer t =>
      simp only [SrqWait.cancelTimer] at hstep
      split at hstep
      · cases hstep
        exact Or.inl ⟨rfl, rfl⟩
      · cases hstep
  | handlerQueueIt t answer =>
      cases hok
      simp only [SrqWait.handlerQueueIt] at hstep
      split at hstep
      · exact queueWaiting_recorded (Or.inl ⟨t, rfl⟩) hstep rfl rfl
      · cases hstep
  | expire =>
      simp only [SrqWait.expire] at hstep
      split at hstep
      · cases hstep
        exact Or.inl ⟨rfl, rfl⟩
      · cases hstep
  | waitTimeoutCallback =>
      simp only [SrqWait.waitTimeoutCallback] at hstep
      split at hstep
      · split at hstep
        · split at hstep
          · cases hstep
            exact Or.inl ⟨rfl, rfl⟩
          · cases hstep
            exact Or.inl ⟨rfl, rfl⟩
        · cases hstep
          exact Or.inl ⟨rfl, rfl⟩
      · cases hstep
  | timerQueueIt answer =>
      cases hok
      simp only [SrqWait.timerQueueIt] at hstep
      split at hstep
      · exact queueWaiting_recorded (Or.inr rfl) hstep rfl rfl
      · cases hstep
  | registerSrqHandler =>
      cases hstep
      refine Or.inl ⟨?_, rfl⟩
      simp only [SrqWait.registerSrqHandler]
      split <;> rfl

/-! ## The balance of events and fields -/

/-- The work function is still to be called. -/
def toWork (p : GpibRecord) : Nat :=
  if p.pact = true ∧ p.work ≠ none ∧ p.work ≠ some .readAfterWait then 1 else 0

def toFinish (p : GpibRecord) : Nat :=
  if p.pact = true ∧ p.completing = false then 1 else 0

def toRead (p : GpibRecord) : Nat :=
  if p.pact = true ∧ p.work = some .readAfterWait then 1 else 0

def times (k : Option Event) (event : Event) : Nat :=
  if k = some event then 1 else 0

structure Balanced (p p' : GpibRecord) (k : Option Event) : Prop where
  worked : times k .worked + toWork p' = times k .accepted + toWork p
  finished : times k .finished + toFinish p' = times k .accepted + toFinish p
  read : times k .read + toRead p' = times k .waited + toRead p

variable {c : Option (Executor × Stage)} {p : GpibRecord} {k : Option Event}
  {f : GpibRecord → GpibRecord}

/-- What a record and its callback are, held or not. -/
def Placed (p : GpibRecord) (c : Option (Executor × Stage)) : Prop :=
  SrqWait.Life p c ∨ ∃ h : Hold, p = h.record ∧ c = h.callback

theorem exists_placed (hinv : Inv d) (r : RecordId) :
    ∃ c, Placed (d.record r) c ∧ SrqWait.Callback d.executing r c := by
  obtain ⟨ph, hphase⟩ := hinv.phase
  by_cases hheld : ∃ h, ph = some (r, h)
  · obtain ⟨h, rfl⟩ := hheld
    have howns := HeldBy.owns hphase
    exact ⟨h.callback, Or.inr ⟨h, howns.record, rfl⟩, howns.callback⟩
  · obtain ⟨c, hlife, hcallback⟩ := hphase.ordinary fun h hph => hheld ⟨h, hph⟩
    exact ⟨c, Or.inl hlife, hcallback⟩

theorem placed_of_executing (hinv : Inv d) (hexec : d.executing e = some (r, stage))
    (hlive : stage ≠ .returning) : Placed (d.record r) (some (e, stage)) := by
  obtain ⟨c, hplaced, hcallback⟩ := exists_placed hinv r
  rw [hcallback.eq_of_executing hexec hlive] at hplaced
  exact hplaced

theorem Placed.resting (hplaced : Placed p c) (hpact : p.pact = false) : p.completing = false := by
  rcases hplaced with hlife | ⟨h, rfl, -⟩
  · cases hlife <;> first | rfl | cases hpact
  · exact h.record_completing

theorem Placed.completing (hplaced : Placed p c) (hcompleting : p.completing = true) :
    p.pact = true ∧ p.work = none := by
  rcases hplaced with hlife | ⟨h, rfl, -⟩
  · cases hlife <;> first | exact ⟨rfl, rfl⟩ | cases hcompleting
  · rw [h.record_completing] at hcompleting
    cases hcompleting

theorem Placed.preparing {failure : Bool} (hplaced : Placed p (some (e, .prepareToRead failure))) :
    p.pact = true ∧ p.work = none := by
  rcases hplaced with hlife | ⟨h, -, hcallback⟩
  · cases hlife
    exact ⟨rfl, rfl⟩
  · exact absurd hcallback.symm h.callback_ne_prepareToRead

/-- A record whose callback runs is not queued. -/
theorem Placed.not_queued (hplaced : Placed p (some (e, stage))) : p.isQueued = false := by
  rcases hplaced with hlife | ⟨h, rfl, hcallback⟩
  · cases hlife <;> rfl
  · cases h <;> first | rfl | cases hcallback

theorem Placed.finishing (hplaced : Placed p (some (e, .finishing))) :
    p.pact = true ∧ p.completing = false ∧ p.work = none := by
  rcases hplaced with hlife | ⟨h, -, hcallback⟩
  · cases hlife
    exact ⟨rfl, rfl, rfl⟩
  · cases h <;> cases hcallback

/-- The record to which `pgpibDpvt` points holds the device. -/
theorem held_of_pgpibDpvt (hinv : Inv d) (hpgpibDpvt : d.pgpibDpvt = some r) :
    ∃ h, HeldBy d r h := by
  obtain ⟨ph, hphase⟩ := hinv.phase
  cases ph with
  | none =>
      rw [Quiet.pgpibDpvt hphase] at hpgpibDpvt
      cases hpgpibDpvt
  | some held =>
      obtain ⟨r₀, h⟩ := held
      have hheld : HeldBy d r₀ h := hphase
      have hpoints := hheld.control.pgpibDpvt
      rw [hpgpibDpvt] at hpoints
      cases h <;> cases hpoints <;> exact ⟨_, hheld⟩

theorem Changes.balanced (hinv : Inv d) (hchanges : Changes d d' a r f k) :
    Balanced (d.record r) (f (d.record r)) k := by
  obtain ⟨c, hplaced, -⟩ := exists_placed hinv r
  cases hchanges with
  | refused _ work answer hpact hanswer =>
      constructor <;> simp [times, toWork, toFinish, toRead, hpact]
  | accepted _ work hpact hwork =>
      have hcompleting := hplaced.resting hpact
      constructor <;> simp [times, toWork, toFinish, toRead, hpact, hwork, hcompleting]
  | completed _ hcompleting =>
      obtain ⟨hpact, hwork⟩ := hplaced.completing hcompleting
      constructor <;> simp [times, toWork, toFinish, toRead, hpact, hwork, hcompleting]
  | taken _ e timedOut haction hexec => exact ⟨rfl, rfl, rfl⟩
  | called _ e windowActive timedOut failure work hexec hpact hwork hexec' =>
      by_cases hread : work = .readAfterWait
      · constructor <;> simp [times, toWork, toFinish, toRead, hpact, hwork, hread]
      · constructor <;> simp [times, toWork, toFinish, toRead, hpact, hwork, hread]
  | waits _ e hexec hpgpibDpvt =>
      obtain ⟨hpact, hwork⟩ := (placed_of_executing hinv hexec (by simp)).preparing
      constructor <;> simp [times, toWork, toFinish, toRead, hpact, hwork]
  | unblocks _ e hexec' => exact ⟨rfl, rfl, rfl⟩
  | finishes _ e hexec =>
      obtain ⟨hpact, hcompleting, hwork⟩ := (placed_of_executing hinv hexec (by simp)).finishing
      constructor <;> simp [times, toWork, toFinish, toRead, hpact, hcompleting, hwork]
  | queues _ _ haction hpgpibDpvt =>
      obtain ⟨h, hheld⟩ := held_of_pgpibDpvt hinv hpgpibDpvt
      have hpact : (d.record r).pact = true := by
        rw [hheld.owns.record]
        exact h.record_pact
      constructor <;> simp [times, toWork, toFinish, toRead, hpact]

/-! ## The callbacks -/

/-- The executor whose callback the step moves on. -/
def executor : SrqWait.Action → Option Executor
  | .queueCallback e _ | .srqReadWait e _ | .prepareToRead e | .readAfterWait e
  | .unblockProcessCallback e | .finish e | .callbackReturns e => some e
  | _ => none

theorem queueIt_executing {answer : Answer} (hstep : SrqWait.queueIt d r answer = some d') :
    d'.executing = d.executing := by
  rcases queueIt_record hstep with ⟨-, rfl⟩ | ⟨-, rfl⟩ | ⟨-, rfl⟩ <;> rfl

/-- Every other step leaves a callback where it is. -/
theorem step_executing (hstep : SrqWait.step d a = some d')
    (hexec : d.executing e = some (r, stage)) (hother : executor a ≠ some e) :
    d'.executing e = some (r, stage) := by
  have hset : ∀ (d₁ : SrqWait.State) e' r' stage', d₁.executing = d.executing → e ≠ e' →
      (d₁.setStage e' r' stage').executing e = some (r, stage) := by
    intro d₁ e' r' stage' hsame hne
    rw [SrqWait.setStage_of_ne hne, hsame]
    exact hexec
  simp only [SrqWait.step] at hstep
  split at hstep
  · cases hstep
  -- Only three kinds of step write `executing`: a callback begins, moves on, or returns.
  cases a with
  | process r' work answer =>
      simp only [SrqWait.process] at hstep
      split at hstep
      · rw [queueIt_executing hstep]
        exact hexec
      · cases hstep
  | complete r' =>
      simp only [SrqWait.complete] at hstep
      split at hstep <;> cases hstep
      exact hexec
  | portThread r' timedOut =>
      simp only [SrqWait.portThread] at hstep
      split at hstep
      · next hguard =>
          cases hstep
          apply hset _ _ _ _ rfl
          rintro rfl
          rw [hguard.1] at hexec
          cases hexec
      · cases hstep
  | queueTimeout r' =>
      simp only [SrqWait.queueTimeout] at hstep
      split at hstep
      · next hguard =>
          cases hstep
          apply hset _ _ _ _ rfl
          rintro rfl
          rw [hguard.1] at hexec
          cases hexec
      · cases hstep
  | queueCallback e' windowActive =>
      have hne : e ≠ e' := fun he => hother (congrArg some he.symm)
      simp only [SrqWait.queueCallback] at hstep
      split at hstep
      · split at hstep
        · split at hstep
          · cases hstep
            exact hexec
          · cases hstep
            exact hset _ _ _ _ rfl hne
        · cases hstep
          exact hset _ _ _ _ rfl hne
      · cases hstep
  | srqReadWait e' accepted =>
      have hne : e ≠ e' := fun he => hother (congrArg some he.symm)
      simp only [SrqWait.srqReadWait] at hstep
      split at hstep
      · split at hstep
        · cases hstep
          exact hset _ _ _ _ rfl hne
        · cases hstep
          exact hset _ _ _ _ rfl hne
      · cases hstep
  | prepareToRead e' =>
      have hne : e ≠ e' := fun he => hother (congrArg some he.symm)
      simp only [SrqWait.prepareToRead] at hstep
      split at hstep <;> cases hstep
      exact hset _ _ _ _ rfl hne
  | readAfterWait e' =>
      have hne : e ≠ e' := fun he => hother (congrArg some he.symm)
      simp only [SrqWait.readAfterWait] at hstep
      split at hstep
      · split at hstep
        · cases hstep
          exact hset _ _ _ _ rfl hne
        · cases hstep
          exact hexec
      · cases hstep
  | unblockProcessCallback e' =>
      have hne : e ≠ e' := fun he => hother (congrArg some he.symm)
      simp only [SrqWait.unblockProcessCallback] at hstep
      split at hstep
      · split at hstep
        · cases hstep
          exact hset _ _ _ _ rfl hne
        · cases hstep
          exact hset _ _ _ _ rfl hne
      · cases hstep
  | finish e' =>
      have hne : e ≠ e' := fun he => hother (congrArg some he.symm)
      simp only [SrqWait.finish] at hstep
      split at hstep <;> cases hstep
      exact hset _ _ _ _ rfl hne
  | callbackReturns e' =>
      have hne : e ≠ e' := fun he => hother (congrArg some he.symm)
      simp only [SrqWait.callbackReturns] at hstep
      split at hstep <;> cases hstep
      exact (Function.update_of_ne hne _ _).trans hexec
  | srqHandlerGpib t =>
      simp only [SrqWait.srqHandlerGpib] at hstep
      split at hstep <;> cases hstep <;> exact hexec
  | cancelTimer t =>
      simp only [SrqWait.cancelTimer] at hstep
      split at hstep <;> cases hstep
      exact hexec
  | handlerQueueIt t answer =>
      simp only [SrqWait.handlerQueueIt, SrqWait.queueWaiting] at hstep
      split at hstep
      · split at hstep
        · cases hstep
          exact hexec
        · rw [queueIt_executing hstep]
          exact hexec
      · cases hstep
  | expire =>
      simp only [SrqWait.expire] at hstep
      split at hstep <;> cases hstep
      exact hexec
  | waitTimeoutCallback =>
      simp only [SrqWait.waitTimeoutCallback] at hstep
      split at hstep
      · split at hstep
        · split at hstep <;> cases hstep <;> exact hexec
        · cases hstep
          exact hexec
      · cases hstep
  | timerQueueIt answer =>
      simp only [SrqWait.timerQueueIt, SrqWait.queueWaiting] at hstep
      split at hstep
      · split at hstep
        · cases hstep
          exact hexec
        · rw [queueIt_executing hstep]
          exact hexec
      · cases hstep
  | registerSrqHandler =>
      cases hstep
      simp only [SrqWait.registerSrqHandler]
      split <;> exact hexec

/-- The steps that move a callback on from a stage. -/
def Moves (e : Executor) : Stage → SrqWait.Action → Prop
  | .called _, a => ∃ windowActive, a = .queueCallback e windowActive
  | .prepareToRead _, a => a = .prepareToRead e ∨ ∃ accepted, a = .srqReadWait e accepted
  | .readAfterWait, a => a = .readAfterWait e
  | .unblocking, a => a = .unblockProcessCallback e
  | .finishing, a => a = .finish e
  | .returning, a => a = .callbackReturns e

theorem moves_of_executor (hstep : SrqWait.step d a = some d')
    (hexec : d.executing e = some (r, stage)) (hown : executor a = some e) : Moves e stage a := by
  simp only [SrqWait.step] at hstep
  split at hstep
  · cases hstep
  -- The action names its executor; the stage is then the one that the function asks for.
  cases a with
  | queueCallback e' windowActive =>
      cases hown
      cases stage with
      | called => exact ⟨windowActive, rfl⟩
      | _ => simp only [SrqWait.queueCallback, hexec, reduceCtorEq] at hstep
  | srqReadWait e' accepted =>
      cases hown
      cases stage with
      | prepareToRead => exact Or.inr ⟨accepted, rfl⟩
      | _ => simp only [SrqWait.srqReadWait, hexec, reduceCtorEq] at hstep
  | prepareToRead e' =>
      cases hown
      cases stage with
      | prepareToRead => exact Or.inl rfl
      | _ => simp only [SrqWait.prepareToRead, hexec, reduceCtorEq] at hstep
  | readAfterWait e' =>
      cases hown
      cases stage with
      | readAfterWait => rfl
      | _ => simp only [SrqWait.readAfterWait, hexec, reduceCtorEq] at hstep
  | unblockProcessCallback e' =>
      cases hown
      cases stage with
      | unblocking => rfl
      | _ => simp only [SrqWait.unblockProcessCallback, hexec, reduceCtorEq] at hstep
  | finish e' =>
      cases hown
      cases stage with
      | finishing => rfl
      | _ => simp only [SrqWait.finish, hexec, reduceCtorEq] at hstep
  | callbackReturns e' =>
      cases hown
      cases stage with
      | returning => rfl
      | _ => simp only [SrqWait.callbackReturns, hexec, reduceCtorEq] at hstep
  | process | complete | portThread | queueTimeout | srqHandlerGpib | cancelTimer
  | handlerQueueIt | expire | waitTimeoutCallback | timerQueueIt | registerSrqHandler => cases hown

end Processing
end DevGpib
end AsynDriver
