import AsynDriver.DevGpib.SrqWait

/-!
# The phases of a wait

At most one record holds the device.  `Hold` lists what the holder waits for, from the armed timer to the
call of `unblockProcessCallback`; every other record is `Ordinary`: resting, queued, running or
completing.  `InPhase` is the invariant; each step keeps the phase or moves it along `Follows`, which
never raises the rank of the hold.
-/

namespace AsynDriver
namespace DevGpib
namespace SrqWait

open Library
open Manager (ThreadId)

variable {s s' : State} {r r' : RecordId} {e : Executor} {t : ThreadId}

@[simp]
theorem setRecord_self (f : GpibRecord → GpibRecord) :
    (s.setRecord r f).record r = f (s.record r) := by
  simp [State.setRecord]

theorem setRecord_of_ne (f : GpibRecord → GpibRecord) (hne : r' ≠ r) :
    (s.setRecord r f).record r' = s.record r' := by
  simp [State.setRecord, hne]

theorem setStage_self {stage : Stage} : (s.setStage e r stage).executing e = some (r, stage) := by
  simp [State.setStage]

theorem setStage_of_ne {stage : Stage} {e' : Executor} (hne : e' ≠ e) :
    (s.setStage e r stage).executing e' = s.executing e' := by
  simp [State.setStage, hne]

theorem setStage_record {stage : Stage} : (s.setStage e r stage).record = s.record := rfl

theorem setRecord_id : s.setRecord r id = s := by
  simp [State.setRecord]

/-! ## The callbacks of a record -/

/-- What the executors do; `c` is the callback of `r` that is not about to return. -/
def Callback (x : Executor → Option (RecordId × Stage)) (r : RecordId) :
    Option (Executor × Stage) → Prop
  | none => ∀ e stage, x e = some (r, stage) → stage = .returning
  | some (e, stage) =>
      x e = some (r, stage) ∧
        ∀ e' stage', x e' = some (r, stage') → e' = e ∨ stage' = .returning

variable {x x' : Executor → Option (RecordId × Stage)} {c : Option (Executor × Stage)}
  {stage : Stage}

theorem Callback.eq_of_executing (hcallback : Callback x r c) (hexec : x e = some (r, stage))
    (hstage : stage ≠ .returning) : c = some (e, stage) := by
  cases c with
  | none => exact absurd (hcallback e stage hexec) hstage
  | some c =>
      obtain ⟨hown, hothers⟩ := hcallback
      rcases hothers e stage hexec with rfl | hreturning
      · rw [hown] at hexec
        cases hexec
        rfl
      · exact absurd hreturning hstage

/-- Only the executions of `r` matter. -/
theorem Callback.frame (hcallback : Callback x r c)
    (hsame : ∀ e stage, x' e = some (r, stage) ↔ x e = some (r, stage)) : Callback x' r c := by
  cases c with
  | none =>
      intro e stage hexec
      exact hcallback e stage ((hsame e stage).mp hexec)
  | some c =>
      refine ⟨(hsame _ _).mpr hcallback.1, ?_⟩
      intro e' stage' hexec
      exact hcallback.2 e' stage' ((hsame e' stage').mp hexec)

/-- An executor that serves no other callback of the record goes to another stage. -/
theorem Callback.setStage (hcallback : Callback x r c)
    (hown : ∀ e' stage', c = some (e', stage') → e' = e) :
    Callback (Function.update x e (some (r, stage))) r
      (if stage = .returning then none else some (e, stage)) := by
  have hothers : ∀ e' stage', e' ≠ e → x e' = some (r, stage') → stage' = .returning := by
    intro e' stage' hne hexec
    by_contra hstage
    exact hne (hown e' stage' (hcallback.eq_of_executing hexec hstage))
  have hupdated : ∀ e' stage', Function.update x e (some (r, stage)) e' = some (r, stage') →
      (e' = e ∧ stage' = stage) ∨ stage' = .returning := by
    intro e' stage' hexec
    by_cases he : e' = e
    · rw [he, Function.update_self] at hexec
      cases hexec
      exact Or.inl ⟨he, rfl⟩
    · rw [Function.update_of_ne he] at hexec
      exact Or.inr (hothers e' stage' he hexec)
  by_cases hstage : stage = .returning
  · rw [if_pos hstage]
    intro e' stage' hexec
    rcases hupdated e' stage' hexec with ⟨-, hsame⟩ | hreturning
    · rw [hsame, hstage]
    · exact hreturning
  · rw [if_neg hstage]
    refine ⟨Function.update_self e _ x, ?_⟩
    intro e' stage' hexec
    rcases hupdated e' stage' hexec with ⟨hsame, -⟩ | hreturning
    · exact Or.inl hsame
    · exact Or.inr hreturning

/-- A callback that was about to return has returned. -/
theorem Callback.returned (hcallback : Callback x r c) (hexec : x e = some (r, .returning))
    (hlive : ∀ e', c ≠ some (e', .returning)) : Callback (Function.update x e none) r c := by
  have hupdated : ∀ e' stage', Function.update x e none e' = some (r, stage') →
      x e' = some (r, stage') := by
    intro e' stage' hnew
    by_cases he : e' = e
    · rw [he, Function.update_self] at hnew
      cases hnew
    · rwa [Function.update_of_ne he] at hnew
  cases c with
  | none =>
      intro e' stage' hnew
      exact hcallback e' stage' (hupdated e' stage' hnew)
  | some c =>
      obtain ⟨e₀, stage₀⟩ := c
      have hne : e₀ ≠ e := by
        rintro rfl
        have hown := hcallback.1
        rw [hexec] at hown
        cases hown
        exact hlive e₀ rfl
      refine ⟨?_, fun e' stage' hnew => hcallback.2 e' stage' (hupdated e' stage' hnew)⟩
      rw [Function.update_of_ne hne]
      exact hcallback.1

/-- An executor that changes between callbacks of `r` does not touch those of `r'`. -/
theorem update_iff_of_ne {v : Option (RecordId × Stage)} (hne : r' ≠ r)
    (hold : ∀ r₀ stage₀, x e = some (r₀, stage₀) → r₀ = r)
    (hnew : ∀ r₀ stage₀, v = some (r₀, stage₀) → r₀ = r) (e' : Executor) (stage' : Stage) :
    Function.update x e v e' = some (r', stage') ↔ x e' = some (r', stage') := by
  by_cases he : e' = e
  · rw [he, Function.update_self]
    constructor
    · intro hv
      exact absurd (hnew r' stage' hv) hne
    · intro hx
      exact absurd (hold r' stage' hx) hne
  · rw [Function.update_of_ne he]

/-! ## Records that do not hold the device -/

/-- The states of a record, with its callback, outside a wait. -/
inductive Life : GpibRecord → Option (Executor × Stage) → Prop
  | resting (work : Option Work) : Life ⟨work, false, false, false, 0⟩ none
  | queued (work : Work) (hwork : work ≠ .readAfterWait) :
      Life ⟨some work, true, false, true, 0⟩ none
  | called (work : Work) (hwork : work ≠ .readAfterWait) (e : Executor) (timedOut : Bool) :
      Life ⟨some work, true, false, false, 0⟩ (some (e, .called timedOut))
  | preparing (e : Executor) (failure : Bool) :
      Life ⟨none, true, false, false, 0⟩ (some (e, .prepareToRead failure))
  | finishing (e : Executor) : Life ⟨none, true, false, false, 0⟩ (some (e, .finishing))
  | completing : Life ⟨none, true, true, false, 0⟩ none

def Ordinary (s : State) (r : RecordId) : Prop :=
  ∃ c, Life (s.record r) c ∧ Callback s.executing r c

/-- A record is left alone by a step of another record in its callback. -/
theorem ordinary_update {records : RecordId → GpibRecord} {p : GpibRecord}
    (hordinary : ∃ c, Life (records r') c ∧ Callback x r' c) (hne : r' ≠ r)
    (hserves : ∀ r₀ stage₀, x e = some (r₀, stage₀) → r₀ = r) :
    ∃ c, Life (Function.update records r p r') c ∧
      Callback (Function.update x e (some (r, stage))) r' c := by
  obtain ⟨c, hlife, hcallback⟩ := hordinary
  refine ⟨c, ?_, ?_⟩
  · rw [Function.update_of_ne hne]
    exact hlife
  · apply hcallback.frame
    apply update_iff_of_ne hne hserves
    rintro r₀ stage₀ ⟨⟩
    rfl

theorem Life.blocks_eq_zero {p : GpibRecord} (hlife : Life p c) : p.blockDeviceCount = 0 := by
  cases hlife <;> rfl

theorem Life.live {p : GpibRecord} (hlife : Life p c) (e : Executor) :
    c ≠ some (e, .returning) := by
  cases hlife <;> simp

theorem Life.not_waiting {p : GpibRecord} (hlife : Life p c) (e : Executor) :
    c ≠ some (e, .readAfterWait) ∧ c ≠ some (e, .unblocking) := by
  cases hlife <;> simp

theorem Ordinary.blocks_eq_zero (hordinary : Ordinary s r) :
    (s.record r).blockDeviceCount = 0 := by
  obtain ⟨c, hlife, -⟩ := hordinary
  exact hlife.blocks_eq_zero

/-! ## The holder of the device -/

/-- What the record that blocks the device waits for. -/
inductive Hold
  | waiting
  | expired
  | cancelling (t : ThreadId) (armed : Bool)
  | cancelWaits (t : ThreadId)
  | srqQueueing (t : ThreadId)
  | timeoutQueueing
  | queued
  | called (e : Executor) (timedOut : Bool)
  | reading (e : Executor)
  | unblocking (e : Executor)

namespace Hold

/-- No step raises it. -/
def rank : Hold → Nat
  | waiting => 9
  | expired => 8
  | cancelling _ true => 7
  | cancelWaits _ => 6
  | cancelling _ false => 5
  | srqQueueing _ => 4
  | timeoutQueueing => 4
  | queued => 3
  | called _ _ => 2
  | reading _ => 1
  | unblocking _ => 0

def record : Hold → GpibRecord
  | queued => ⟨some .readAfterWait, true, false, true, 1⟩
  | reading _ | unblocking _ => ⟨none, true, false, false, 1⟩
  | _ => ⟨some .readAfterWait, true, false, false, 1⟩

def callback : Hold → Option (Executor × Stage)
  | called e timedOut => some (e, .called timedOut)
  | reading e => some (e, .readAfterWait)
  | unblocking e => some (e, .unblocking)
  | _ => none

def waitState : Hold → SrqWaitState → Prop
  | waiting, w | expired, w => w = .srqWait
  | cancelling _ _, w | cancelWaits _, w | srqQueueing _, w => w = .srqWaitDone
  | timeoutQueueing, w => w = .srqWaitTimedOut
  | queued, w | called _ _, w | reading _, w => w = .srqWaitDone ∨ w = .srqWaitTimedOut
  | unblocking _, w => w = .srqWaitIdle

def pgpibDpvt (r : RecordId) : Hold → Option RecordId
  | unblocking _ => none
  | _ => some r

def armed : Hold → Bool
  | waiting => true
  | cancelling _ armed => armed
  | _ => false

def timer : Hold → TimerStage
  | expired | cancelWaits _ => .entered
  | timeoutQueueing => .queueing
  | _ => .idle

def handler : Hold → ThreadId → HandlerStage
  | cancelling t _ | cancelWaits t => Function.update (fun _ => .idle) t .cancelling
  | srqQueueing t => Function.update (fun _ => .idle) t .queueing
  | _ => fun _ => .idle

/-- What has to happen next. -/
def task (r : RecordId) : Hold → Task
  | waiting => .expire
  | expired | cancelWaits _ => .timer .entered
  | cancelling t _ => .handler t .cancelling
  | srqQueueing t => .handler t .queueing
  | timeoutQueueing => .timer .queueing
  | queued => .queued r
  | called e timedOut => .executing e r (.called timedOut)
  | reading e => .executing e r .readAfterWait
  | unblocking e => .executing e r .unblocking

end Hold

/-- What `srqPvt` and the threads around it are. -/
structure Control (s : State) (r : RecordId) (h : Hold) : Prop where
  waitState : h.waitState s.waitState
  pgpibDpvt : s.pgpibDpvt = h.pgpibDpvt r
  armed : s.armed = h.armed
  timer : s.timer = h.timer
  handler : s.handler = h.handler
  poll : s.pgpibDpvt = none → s.unsollicitedHandler = false → s.polled = false

/-- The records, the callbacks and the holder.  `portThread` writes the holder when the callback that
blocked has returned; until then it serves nothing else. -/
structure Owns (records : RecordId → GpibRecord) (x : Executor → Option (RecordId × Stage))
    (owner : Option RecordId) (r : RecordId) (h : Hold) : Prop where
  record : records r = h.record
  callback : Callback x r h.callback
  holder : owner = some r ∨ (owner = none ∧ x .portThread = some (r, .returning))
  port : ∀ r' stage, x .portThread = some (r', stage) → r' = r
  others : ∀ r', r' ≠ r → ∃ c, Life (records r') c ∧ Callback x r' c

structure HeldBy (s : State) (r : RecordId) (h : Hold) : Prop where
  owns : Owns s.record s.executing s.pblockProcessHolder r h
  control : Control s r h

structure Quiet (s : State) : Prop where
  waitState : s.waitState = .srqWaitIdle
  pgpibDpvt : s.pgpibDpvt = none
  armed : s.armed = false
  timer : s.timer = .idle
  handler : s.handler = fun _ => .idle
  poll : s.unsollicitedHandler = false → s.polled = false
  holder : s.pblockProcessHolder = none
  ordinary : ∀ r, Ordinary s r

/-- No record, or the holder of the device. -/
abbrev Phase := Option (RecordId × Hold)

def InPhase (s : State) : Phase → Prop
  | none => Quiet s
  | some (r, h) => HeldBy s r h

/-- How a step may change the phase. -/
inductive Follows : Phase → Phase → Prop
  | same (ph : Phase) : Follows ph ph
  | begins (r : RecordId) : Follows none (some (r, .waiting))
  | advances (r : RecordId) {h h' : Hold} (hrank : h'.rank < h.rank) :
      Follows (some (r, h)) (some (r, h'))
  | ends (r : RecordId) (h : Hold) : Follows (some (r, h)) none

/-- `prepareToRead` may come to `srqReadWait`. -/
def Stage.mayWait : Stage → Bool
  | .called timedOut => !timedOut
  | .prepareToRead failure => !failure
  | _ => false

/-- The queue timers call with a failure. -/
def TimerFails (x : Executor → Option (RecordId × Stage)) : Prop :=
  ∀ r stage, x .queueTimer = some (r, stage) → stage.mayWait = false

structure Inv (s : State) : Prop where
  fault : s.fault = false
  timerFails : TimerFails s.executing
  phase : ∃ ph, InPhase s ph

/-- What a step has to prove. -/
def Next (s' : State) (ph : Phase) : Prop :=
  s'.fault = false ∧ TimerFails s'.executing ∧ ∃ ph', InPhase s' ph' ∧ Follows ph ph'

/-! ## Steps of one record -/

/-- Only the record `r` and its callbacks change. -/
structure Touches (s s' : State) (r : RecordId) : Prop where
  waitState : s'.waitState = s.waitState := by rfl
  pgpibDpvt : s'.pgpibDpvt = s.pgpibDpvt := by rfl
  unsollicitedHandler : s'.unsollicitedHandler = s.unsollicitedHandler := by rfl
  polled : s'.polled = s.polled := by rfl
  armed : s'.armed = s.armed := by rfl
  timer : s'.timer = s.timer := by rfl
  handler : s'.handler = s.handler := by rfl
  holder : s'.pblockProcessHolder = s.pblockProcessHolder := by rfl
  fault : s'.fault = s.fault := by rfl
  record : ∀ r', r' ≠ r → s'.record r' = s.record r'
  executing : ∀ r', r' ≠ r → ∀ e stage,
    s'.executing e = some (r', stage) ↔ s.executing e = some (r', stage)

theorem touches_setRecord (f : GpibRecord → GpibRecord) : Touches s (s.setRecord r f) r where
  record _ hne := setRecord_of_ne f hne
  executing _ _ _ _ := Iff.rfl

theorem touches_setStage (f : GpibRecord → GpibRecord)
    (hold : ∀ r₀ stage₀, s.executing e = some (r₀, stage₀) → r₀ = r) :
    Touches s ((s.setRecord r f).setStage e r stage) r where
  record _ hne := setRecord_of_ne f hne
  executing r' hne e' stage' := by
    apply update_iff_of_ne hne hold
    intro r₀ stage₀ hnew
    cases hnew
    rfl

theorem Ordinary.of_touches (hordinary : Ordinary s r') (htouches : Touches s s' r)
    (hne : r' ≠ r) : Ordinary s' r' := by
  obtain ⟨c, hlife, hcallback⟩ := hordinary
  refine ⟨c, ?_, hcallback.frame (htouches.executing r' hne)⟩
  rw [htouches.record r' hne]
  exact hlife

variable {ph : Phase}

/-- A step of an ordinary record keeps the phase, unless `portThread` takes it. -/
theorem InPhase.of_touches (hphase : InPhase s ph) (htouches : Touches s s' r)
    (hordinary : Ordinary s' r)
    (hheld : ∀ r₀ h, ph = some (r₀, h) →
      r₀ ≠ r ∧ ∀ stage, s'.executing .portThread ≠ some (r, stage)) : InPhase s' ph := by
  have hothers : ∀ r', (r' ≠ r → Ordinary s r') → Ordinary s' r' := by
    intro r' hr'
    by_cases hne : r' = r
    · rw [hne]
      exact hordinary
    · exact (hr' hne).of_touches htouches hne
  cases ph with
  | none =>
      exact
        { waitState := htouches.waitState.trans hphase.waitState
          pgpibDpvt := htouches.pgpibDpvt.trans hphase.pgpibDpvt
          armed := htouches.armed.trans hphase.armed
          timer := htouches.timer.trans hphase.timer
          handler := htouches.handler.trans hphase.handler
          poll := by
            rw [htouches.unsollicitedHandler, htouches.polled]
            exact hphase.poll
          holder := htouches.holder.trans hphase.holder
          ordinary := fun r' => hothers r' fun _ => hphase.ordinary r' }
  | some held =>
      obtain ⟨r₀, h⟩ := held
      obtain ⟨hne, hport⟩ := hheld r₀ h rfl
      have hphase : HeldBy s r₀ h := hphase
      have hcontrol := hphase.control
      have howns := hphase.owns
      exact
        { owns :=
            { record := (htouches.record r₀ hne).trans howns.record
              callback := howns.callback.frame (htouches.executing r₀ hne)
              holder := by
                rw [htouches.holder, htouches.executing r₀ hne]
                exact howns.holder
              port := by
                intro r' stage' hexec
                by_cases hr' : r' = r
                · rw [hr'] at hexec
                  exact absurd hexec (hport stage')
                · exact howns.port r' stage' ((htouches.executing r' hr' _ _).mp hexec)
              others := fun r' hr' => hothers r' fun _ => howns.others r' hr' }
          control :=
            { waitState := by
                rw [htouches.waitState]
                exact hcontrol.waitState
              pgpibDpvt := htouches.pgpibDpvt.trans hcontrol.pgpibDpvt
              armed := htouches.armed.trans hcontrol.armed
              timer := htouches.timer.trans hcontrol.timer
              handler := htouches.handler.trans hcontrol.handler
              poll := by
                rw [htouches.unsollicitedHandler, htouches.polled, htouches.pgpibDpvt]
                exact hcontrol.poll } }

variable {h h' : Hold} {p : GpibRecord}

theorem Hold.record_pact : h.record.pact = true := by
  cases h <;> rfl

theorem Hold.record_completing : h.record.completing = false := by
  cases h <;> rfl

theorem Hold.record_blocks : h.record.blockDeviceCount = 1 := by
  cases h <;> rfl

theorem Hold.live : h.callback ≠ some (e, .returning) := by
  cases h <;> simp [Hold.callback]

/-- A record that does not hold the device is ordinary. -/
theorem InPhase.ordinary (hphase : InPhase s ph) (hnot : ∀ h, ph ≠ some (r, h)) :
    Ordinary s r := by
  cases ph with
  | none => exact hphase.ordinary r
  | some held =>
      obtain ⟨r₀, h⟩ := held
      have hphase : HeldBy s r₀ h := hphase
      apply hphase.owns.others
      rintro rfl
      exact hnot h rfl

/-- The callback of `portThread` is that of the record that holds the device. -/
theorem InPhase.port (hphase : InPhase s ph) (hnot : ∀ h, ph ≠ some (r, h))
    (hexec : s.executing .portThread = some (r, stage)) : ph = none := by
  cases ph with
  | none => rfl
  | some held =>
      obtain ⟨r₀, h⟩ := held
      have hphase : HeldBy s r₀ h := hphase
      have hr := hphase.owns.port r stage hexec
      rw [hr] at hnot
      exact absurd rfl (hnot h)

theorem TimerFails.update (htimer : TimerFails x)
    (hstage : e = .queueTimer → stage.mayWait = false) :
    TimerFails (Function.update x e (some (r, stage))) := by
  intro r' stage' hexec
  by_cases he : Executor.queueTimer = e
  · rw [he, Function.update_self] at hexec
    cases hexec
    exact hstage he.symm
  · rw [Function.update_of_ne he] at hexec
    exact htimer r' stage' hexec

/-- An ordinary record goes on in its callback. -/
theorem next_of_setStage (hphase : InPhase s ph) (hfault : s.fault = false)
    (htimer : TimerFails s.executing) (hnot : ∀ h, ph ≠ some (r, h)) {stage₀ : Stage}
    (hexec : s.executing e = some (r, stage₀)) (hlive : stage₀ ≠ .returning)
    (f : GpibRecord → GpibRecord) (hstage : e = .queueTimer → stage.mayWait = false)
    (hlife : ∀ p, Life p (some (e, stage₀)) → s.record r = p →
      Life (f p) (if stage = .returning then none else some (e, stage))) :
    Next ((s.setRecord r f).setStage e r stage) ph := by
  obtain ⟨c, hold, hcallback⟩ := hphase.ordinary hnot
  have hc := hcallback.eq_of_executing hexec hlive
  subst hc
  have hordinary : Ordinary ((s.setRecord r f).setStage e r stage) r := by
    refine ⟨_, ?_, hcallback.setStage ?_⟩
    · rw [setStage_record, setRecord_self]
      exact hlife _ hold rfl
    · rintro e' stage' ⟨⟩
      rfl
  have hown : ∀ r₀ stage₀, s.executing e = some (r₀, stage₀) → r₀ = r := by
    intro r₀ stage₀ hr₀
    rw [hexec] at hr₀
    cases hr₀
    rfl
  refine ⟨hfault, htimer.update hstage, ph, ?_, .same ph⟩
  apply hphase.of_touches (touches_setStage f hown) hordinary
  intro r₀ h hheld
  have hne : r₀ ≠ r := by
    rintro rfl
    exact hnot h hheld
  refine ⟨hne, ?_⟩
  intro stage' hport
  by_cases he : Executor.portThread = e
  · rw [← he] at hexec
    rw [hphase.port hnot hexec] at hheld
    cases hheld
  · rw [setStage_of_ne he] at hport
    rw [hphase.port hnot hport] at hheld
    cases hheld

/-- An ordinary record changes outside its callbacks. -/
theorem next_of_setRecord (hphase : InPhase s ph) (hfault : s.fault = false)
    (htimer : TimerFails s.executing) (hnot : ∀ h, ph ≠ some (r, h)) (f : GpibRecord → GpibRecord)
    (hordinary : Ordinary (s.setRecord r f) r) : Next (s.setRecord r f) ph := by
  refine ⟨hfault, htimer, ph, ?_, .same ph⟩
  apply hphase.of_touches (touches_setRecord f) hordinary
  intro r₀ h hheld
  have hne : r₀ ≠ r := by
    rintro rfl
    exact hnot h hheld
  refine ⟨hne, ?_⟩
  intro stage hport
  rw [hphase.port hnot hport] at hheld
  cases hheld

/-- Where the holder has `pact` TRUE, the record of the step is not the holder. -/
theorem InPhase.not_held (hphase : InPhase s ph) (hrecord : ∀ h : Hold, s.record r ≠ h.record)
    (h : Hold) :
    ph ≠ some (r, h) := by
  rintro rfl
  have hphase : HeldBy s r h := hphase
  exact hrecord h hphase.owns.record

/-- The callback of the holder is that of its hold. -/
theorem InPhase.not_held_of_executing (hphase : InPhase s ph)
    (hexec : s.executing e = some (r, stage)) (hstage : stage ≠ .returning)
    (hcallback : ∀ h, Hold.callback h ≠ some (e, stage)) (h : Hold) : ph ≠ some (r, h) := by
  rintro rfl
  have hphase : HeldBy s r h := hphase
  exact hcallback h (hphase.owns.callback.eq_of_executing hexec hstage)

@[simp]
theorem setRecord_setRecord (f g : GpibRecord → GpibRecord) :
    (s.setRecord r f).setRecord r g = s.setRecord r fun p => g (f p) := by
  simp [State.setRecord]

/-! ## The steps of ordinary records -/

theorem process_next {work : Work} {answer : Answer} (hphase : InPhase s ph)
    (hfault : s.fault = false) (htimer : TimerFails s.executing)
    (hstep : process s r work answer = some s') : Next s' ph := by
  simp only [process] at hstep
  split at hstep
  · next hguard =>
      obtain ⟨hpact, hwork⟩ := hguard
      have hnot : ∀ h, ph ≠ some (r, h) := by
        apply hphase.not_held
        intro h hrecord
        rw [hrecord, h.record_pact] at hpact
        cases hpact
      obtain ⟨c, hlife, hcallback⟩ := hphase.ordinary hnot
      generalize hrecord : s.record r = p at hlife hpact
      cases hlife with
      | resting old =>
          cases answer with
          | timeWindow =>
              cases hstep
              refine next_of_setRecord hphase hfault htimer hnot _ ⟨none, ?_, hcallback⟩
              rw [setRecord_self, hrecord]
              exact .resting (some work)
          | refused =>
              simp only [queueIt, setRecord_setRecord, Option.some.injEq] at hstep
              rw [← hstep]
              refine next_of_setRecord hphase hfault htimer hnot _ ⟨none, ?_, hcallback⟩
              rw [setRecord_self, hrecord]
              exact .resting (some work)
          | accepted =>
              simp only [queueIt, setRecord_self, hrecord, setRecord_setRecord] at hstep
              cases hstep
              refine next_of_setRecord hphase hfault htimer hnot _ ⟨none, ?_, hcallback⟩
              rw [setRecord_self, hrecord]
              exact .queued work hwork
      | queued | called | preparing | finishing | completing => cases hpact
  · cases hstep

theorem complete_next (hphase : InPhase s ph) (hfault : s.fault = false) (htimer : TimerFails s.executing)
    (hstep : complete s r = some s') : Next s' ph := by
  simp only [complete] at hstep
  split at hstep
  · next hcompleting =>
      cases hstep
      have hnot : ∀ h, ph ≠ some (r, h) := by
        apply hphase.not_held
        intro h hrecord
        rw [hrecord, h.record_completing] at hcompleting
        cases hcompleting
      obtain ⟨c, hlife, hcallback⟩ := hphase.ordinary hnot
      generalize hrecord : s.record r = p at hlife hcompleting
      cases hlife with
      | completing =>
          refine next_of_setRecord hphase hfault htimer hnot _ ⟨none, ?_, hcallback⟩
          rw [setRecord_self, hrecord]
          exact .resting none
      | resting | queued | called | preparing | finishing => cases hcompleting
  · cases hstep

theorem prepareToRead_next (hphase : InPhase s ph) (hfault : s.fault = false)
    (htimer : TimerFails s.executing) (hstep : prepareToRead s e = some s') : Next s' ph := by
  simp only [prepareToRead] at hstep
  split at hstep
  · next r failure hexec =>
      cases hstep
      have hnot : ∀ h, ph ≠ some (r, h) := by
        apply hphase.not_held_of_executing hexec (by simp)
        intro h hcallback
        cases h <;> cases hcallback
      rw [← setRecord_id (s := s) (r := r)]
      apply next_of_setStage hphase hfault htimer hnot hexec (by simp) id (fun _ => rfl)
      intro p hlife _
      cases hlife
      exact .finishing e
  · cases hstep

theorem finish_next (hphase : InPhase s ph) (hfault : s.fault = false) (htimer : TimerFails s.executing)
    (hstep : finish s e = some s') : Next s' ph := by
  simp only [finish] at hstep
  split at hstep
  · next r hexec =>
      cases hstep
      have hnot : ∀ h, ph ≠ some (r, h) := by
        apply hphase.not_held_of_executing hexec (by simp)
        intro h hcallback
        cases h <;> cases hcallback
      apply next_of_setStage hphase hfault htimer hnot hexec (by simp) _ (fun _ => rfl)
      intro p hlife _
      cases hlife
      exact .completing
  · cases hstep

end SrqWait
end DevGpib
end AsynDriver
