import AsynDriver.AsynRecord.Monitor

/-!
# What the clients of the record see

A field that is shown stays shown by what remembers it, writes it and posts it if it is new.  One that is
written before it is remembered stays kept, and is shown when it has been posted.

* `shown_monitorStatus`, `kept_monitorStatus`, `shown_monitorStatus_of_kept` and their siblings — what
  each function preserves.
* `Inv`, `Inv.step` — which fields are shown and which are kept, while a put and a processing are under
  way.
* `shown_reachable` — in every run that meets the rules for a field, the clients see the field unless
  something is under way that posts it.
-/

namespace AsynDriver
namespace AsynRecord
namespace Monitor

open Library Library.Posting
open Library.Posting.Fields

namespace State

/-- The clients see what is remembered of the field. -/
abbrev Kept (s : State) (f : Field) : Prop := s.fields.Kept Value.comparison f

abbrev Held (s : State) (f : Field) : Prop := s.fields.Held Value.comparison f

end State

variable {sizes : Sizes} {s s' : State} {f g : Field} {p : Put} {status : Status}

/-! ## What is written -/

theorem tb_mem (bit : Fin 6) : Field.tb bit ∈ statusFields := by
  revert bit
  decide

theorem tib_mem (bit : Fin 3) : Field.tib bit ∈ statusFields := by
  revert bit
  decide

theorem tinb_mem (bit : Fin 4) : Field.tinb bit ∈ statusFields := by
  revert bit
  decide

theorem option_mem (option : Options.OptionField) : Field.option option ∈ optionOrder := by
  cases option <;> decide

/-- Only the fields of `fs` are written. -/
def Writes (fs : List Field) (value value' : Field → Value) : Prop :=
  ∀ f, f ∉ fs → value' f = value f

namespace Writes

variable {fs : List Field} {value value' value'' : Field → Value}

theorem refl : Writes fs value value := fun _ _ => rfl

theorem trans (hfirst : Writes fs value value') (hsecond : Writes fs value' value'') :
    Writes fs value value'' := by
  intro f hf
  rw [hsecond f hf, hfirst f hf]

theorem update {v : Value} (hg : g ∈ fs) : Writes fs value (Function.update value g v) := by
  intro f hf
  have hne : f ≠ g := by
    rintro rfl
    exact hf hg
  exact Function.update_of_ne hne _ _

theorem ite {c : Prop} [Decidable c] (hwrites : Writes fs value value') :
    Writes fs value (if c then value' else value) := by
  split
  · exact hwrites
  · exact refl

end Writes

theorem writes_status (value : Field → Value) : Writes statusFields value (status.write value) := by
  intro f hf
  cases f with
  | tb bit => exact absurd (tb_mem bit) hf
  | tib bit => exact absurd (tib_mem bit) hf
  | tinb bit => exact absurd (tinb_mem bit) hf
  | tmsk | tiom | tinm | tsiz | auct | cnct | enbl => exact absurd (by decide) hf
  | _ => rfl

theorem writes_options (options : Options.Fields) (value : Field → Value) :
    Writes optionOrder value (writeOptions options value) := by
  intro f hf
  cases f with
  | option option => exact absurd (option_mem option) hf
  | lbaud | hostinfo => exact absurd (by decide) hf
  | _ => rfl

theorem writes_connection (connection : Connection) (value : Field → Value) :
    Writes connectFields value (connection.write value) := by
  cases connection with
  | refused => exact Writes.update (by decide)
  | found =>
      intro f hf
      cases f with
      | reason | octetiv | optioniv | gpibiv | i32iv | ui32iv | f64iv => exact absurd (by decide) hf
      | _ => rfl

/-- The fields that `asynCallbackProcess` writes. -/
def transferFields : List Field := processFields ++ ioFields

theorem writes_clip {limit : Int} (value : Field → Value) (hg : g ∈ transferFields) :
    Writes transferFields value (clip g limit value) := Writes.ite (Writes.update hg)

theorem performOctetIO_writes (io : Io) (value : Field → Value) :
    Writes transferFields value <| performOctetIO sizes io value := by
  exact (Writes.ite (writes_clip value (by decide))).trans <| (writes_clip _ (by decide)).trans <|
    (Writes.ite (Writes.update (by decide))).trans <|
      Writes.ite ((Writes.update (by decide)).trans (Writes.update (by decide)))

theorem writes_readRegister (value : Field → Value) (v : Option Value) (hg : g ∈ transferFields) :
    Writes transferFields value (readRegister g v value) := by
  cases v with
  | none => exact Writes.refl
  | some v => exact Writes.ite (Writes.update hg)

theorem performIO_writes (io : Io) (value : Field → Value) :
    Writes transferFields value <| performIO sizes io value := by
  unfold performIO
  split
  · exact Writes.ite (performOctetIO_writes io value)
  · exact Writes.ite (writes_readRegister value _ (by decide))
  · exact Writes.ite (writes_readRegister value _ (by decide))
  · exact Writes.ite (writes_readRegister value _ (by decide))
  · exact Writes.refl

theorem writes_gpibAddressedCmd (io : Io) (value : Field → Value) :
    Writes transferFields value (gpibAddressedCmd io value) := by
  refine Writes.ite ?_
  split
  · exact Writes.update (by decide)
  · exact Writes.refl

theorem writes_asynCallbackProcess (io : Io) (value : Field → Value) :
    Writes transferFields value (asynCallbackProcess sizes io value) := by
  unfold asynCallbackProcess
  split
  · exact Writes.update (by decide)
  · split
    · exact Writes.trans (writes_gpibAddressedCmd io value) (Writes.update (by decide))
    · exact Writes.ite (performIO_writes io value)

/-! ## What each function preserves -/

theorem shown_postTraceFile (hshown : s.Shown f) : (s.postTraceFile status).Shown f := by
  unfold State.postTraceFile
  split
  case isFalse => exact hshown
  case isTrue =>
    refine shown_post (fun hne => shown_assign hshown ?_)
    exact Function.update_of_ne hne _ _

theorem kept_postTraceFile (hkept : s.Kept f) (hf : f ≠ .tfil) : (s.postTraceFile status).Kept f := by
  unfold State.postTraceFile
  split
  case isFalse => exact hkept
  case isTrue => exact kept_post (kept_assign hkept) (fun htfil => absurd htfil hf)

theorem shown_postAll_order {order : List Field} (hshown : s.Shown f) : (s.postAll order).Shown f :=
  shown_postAll_of_shown hshown

theorem status_posted : ∀ f ∈ statusFields, f ≠ .tfil ∧ (f ∈ traceOrder ∨ f ∈ connectOrder) := by
  decide

theorem shown_monitorStatus (hshown : s.Shown f) : (s.monitorStatus status).Shown f := by
  unfold State.monitorStatus
  by_cases hf : f ∈ statusFields
  · -- What is written is kept until it is posted.
    have hkept : ({ s with
        fields := (s.fields.remember statusFields).assign (status.write s.fields.value) } :
          State).Kept f :=
      kept_assign (kept_remember (fun _ => hshown) (fun hnot => absurd hf hnot))
    obtain ⟨htfil, hmem | hmem⟩ := status_posted f hf
    · exact shown_postAll_order (shown_postTraceFile (shown_postAll hmem hkept))
    · exact shown_postAll hmem (kept_postTraceFile (kept_postAll hkept) htfil)
  · refine shown_postAll_order (shown_postTraceFile (shown_postAll_order ?_))
    exact shown_assign (shown_remember hshown) (writes_status s.fields.value f hf)

/-- The fields that no callback of `special` writes. -/
def recordFields : List Field := connectFields ++ transferFields

theorem record_not_written :
    ∀ f ∈ recordFields, f ∉ statusFields ∧ f ∉ optionOrder ∧ f ≠ .tfil ∧ f ≠ .ieos ∧ f ≠ .oeos := by
  decide

theorem kept_remembered_status (hkept : s.Kept f) (hf : f ∉ statusFields) (htfil : f ≠ .tfil) :
    ((State.postAll { s with
        fields := (s.fields.remember statusFields).assign (status.write s.fields.value) }
          traceOrder).postTraceFile status).Kept f := by
  refine kept_postTraceFile (kept_postAll (kept_assign ?_)) htfil
  exact kept_remember (fun hmem => absurd hmem hf) (fun _ => hkept)

theorem kept_monitorStatus (hkept : s.Kept f) (hf : f ∈ recordFields) :
    (s.monitorStatus status).Kept f := by
  obtain ⟨hstatus, -, htfil, -⟩ := record_not_written f hf
  exact kept_postAll (kept_remembered_status hkept hstatus htfil)

theorem connect_posted : ∀ f ∈ connectFields, f ∈ recordFields ∧ f ∈ connectOrder := by
  decide

theorem shown_monitorStatus_of_kept (hkept : s.Kept f) (hf : f ∈ connectFields) :
    (s.monitorStatus status).Shown f := by
  obtain ⟨hrecord, hmem⟩ := connect_posted f hf
  obtain ⟨hstatus, -, htfil, -⟩ := record_not_written f hrecord
  exact shown_postAll hmem (kept_remembered_status hkept hstatus htfil)

theorem shown_getOptions {fields : RecordFields} {a : OptionAnswers}
    (hshown : fields.Shown Value.comparison f) :
    (getOptions fields a).Shown Value.comparison f := by
  unfold getOptions
  dsimp only
  split
  case isFalse => exact hshown
  case isTrue =>
    by_cases hf : f ∈ optionOrder
    · refine shown_postAll hf (kept_assign ?_)
      exact kept_remember (fun _ => hshown) (fun hnot => absurd hf hnot)
    · refine shown_postAll_of_shown (shown_assign (shown_remember hshown) ?_)
      exact writes_options _ fields.value f hf

theorem kept_getOptions {fields : RecordFields} {a : OptionAnswers}
    (hkept : fields.Kept Value.comparison f) (hf : f ∉ optionOrder) :
    (getOptions fields a).Kept Value.comparison f := by
  unfold getOptions
  dsimp only
  split
  case isFalse => exact hkept
  case isTrue =>
    exact kept_postAll (kept_assign (kept_remember (fun hmem => absurd hmem hf) (fun _ => hkept)))

theorem shown_asynCallbackSpecial {type : CallbackType} (hshown : s.Shown f) :
    (asynCallbackSpecial s type status).Shown f := by
  cases type with
  | options a => exact shown_monitorStatus (shown_getOptions hshown)
  | eos inputEos outputEos =>
      exact shown_monitorStatus (shown_postChanged (shown_postChanged hshown))
  | connect => exact shown_monitorStatus hshown

theorem kept_asynCallbackSpecial {type : CallbackType} (hkept : s.Kept f) (hf : f ∈ recordFields) :
    (asynCallbackSpecial s type status).Kept f := by
  obtain ⟨-, hoption, -, hieos, hoeos⟩ := record_not_written f hf
  cases type with
  | options a => exact kept_monitorStatus (kept_getOptions hkept hoption) hf
  | eos inputEos outputEos =>
      exact kept_monitorStatus (kept_postChanged (kept_postChanged hkept hieos) hoeos) hf
  | connect => exact kept_monitorStatus hkept hf

theorem shown_monitor_of_kept (hkept : s.Kept f) (hf : f ∈ monitorOrder) : (monitor s).Shown f :=
  shown_postAll hf hkept

/-- After `monitorStatus`, the fields that `connectDevice` writes are remembered as they are. -/
theorem held_monitorStatus (hf : f ∈ connectFields) : (s.monitorStatus status).Held f :=
  held_postAll_self (connect_posted f hf).2

theorem frame_monitorStatus (s : State) (status : Status) :
    (s.monitorStatus status).put = s.put ∧ (s.monitorStatus status).pact = s.pact ∧
      (s.monitorStatus status).queued = s.queued := by
  unfold State.monitorStatus State.postTraceFile State.postAll
  dsimp only
  split <;> exact ⟨rfl, rfl, rfl⟩

theorem frame_asynCallbackSpecial (s : State) (type : CallbackType) (status : Status) :
    (asynCallbackSpecial s type status).put = s.put ∧
      (asynCallbackSpecial s type status).pact = s.pact ∧
      (asynCallbackSpecial s type status).queued = s.queued := by
  cases type <;> exact frame_monitorStatus _ status

theorem held_asynCallbackSpecial {type : CallbackType} (hf : f ∈ connectFields) :
    (asynCallbackSpecial s type status).Held f := by
  cases type <;> exact held_monitorStatus hf

/-! ## The invariant -/

/-- The fields that are kept whatever is under way. -/
def AlwaysKept (f : Field) : Prop := f ∈ ioFields ∨ (f ∈ connectFields ∧ f ≠ .pcnct)

/-- A put of 0 to `PCNCT` is not remembered. -/
def Cleared (s : State) (f : Field) : Prop :=
  f = .pcnct ∧ s.fields.value .pcnct = .int 0 ∧ ∀ p, s.put ≠ some (.connecting p)

structure Inv (f : Field) (s : State) : Prop where
  shown : ¬ s.Pending f → s.Shown f
  kept : AlwaysKept f ∨ (f ∈ processFields ∧ s.pact = true) → s.Kept f
  held : f ∈ connectFields → (∀ v, s.put ≠ some (.stored (.field f v))) → s.Held f ∨ Cleared s f
  puts : s.Puts f → f ∉ ioFields ∧ f ∉ validFields ∧ (f ∈ processFields → s.pact = false)
  queued : s.queued = true → s.pact = true

theorem alwaysKept_record (hf : AlwaysKept f) : f ∈ recordFields := by
  rcases hf with hio | ⟨hconnect, -⟩
  · exact List.mem_append_right _ (List.mem_append_right _ hio)
  · exact List.mem_append_left _ hconnect

theorem process_record (hf : f ∈ processFields) : f ∈ recordFields :=
  List.mem_append_right _ (List.mem_append_left _ hf)

theorem puts_iff {stage : Stage} (hput : s.put = some stage) :
    s.Puts f ↔ ∃ v, stage.target = .field f v := by
  constructor
  · rintro ⟨stage', v, hput', htarget⟩
    rw [hput] at hput'
    cases hput'
    exact ⟨v, htarget⟩
  · rintro ⟨v, htarget⟩
    exact ⟨stage, v, hput, htarget⟩

theorem not_puts (hput : s.put = none) : ¬ s.Puts f := by
  rintro ⟨stage, v, hput', -⟩
  rw [hput] at hput'
  cases hput'

theorem not_pending (hputs : ¬ s.Puts f) (hpact : f ∈ processFields → s.pact = false)
    (hio : f ∉ ioFields) : ¬ s.Pending f := by
  rintro (hmem | ⟨hprocess, htrue⟩ | hmem)
  · exact hputs hmem
  · rw [hpact hprocess] at htrue
    cases htrue
  · exact hio hmem

/-- A field that is not pending is neither one of I/O nor, while the record is active, one of those
that `process` remembers. -/
theorem of_not_pending (hpending : ¬ s.Pending f) :
    ¬ s.Puts f ∧ (f ∈ processFields → s.pact = false) ∧ f ∉ ioFields := by
  refine ⟨fun hputs => hpending (Or.inl hputs), fun hprocess => ?_,
    fun hio => hpending (Or.inr (Or.inr hio))⟩
  exact Bool.eq_false_of_not_eq_true (fun htrue => hpending (Or.inr (Or.inl ⟨hprocess, htrue⟩)))

/-- A step that does not change what is pending. -/
theorem Inv.preserve (hinv : Inv f s) (hputs : s'.Puts f ↔ s.Puts f) (hpact : s'.pact = s.pact)
    (hqueued : s'.queued = true → s.queued = true)
    (hshown : ¬ s'.Pending f → ¬ s.Pending f → s.Shown f → s'.Shown f)
    (hkept : f ∈ recordFields → s.Kept f → s'.Kept f)
    (hheld : f ∈ connectFields → (∀ v, s'.put ≠ some (.stored (.field f v))) →
      s'.Held f ∨ Cleared s' f) : Inv f s' := by
  have hpending : s'.Pending f ↔ s.Pending f := by
    unfold State.Pending
    rw [hputs, hpact]
  refine ⟨fun hnot => ?_, fun hmust => ?_, hheld, fun hp => ?_, fun hq => ?_⟩
  · have hnot' : ¬ s.Pending f := fun h => hnot (hpending.mpr h)
    exact hshown hnot hnot' (hinv.shown hnot')
  · rw [hpact] at hmust
    exact hkept (hmust.elim alwaysKept_record (fun h => process_record h.1)) (hinv.kept hmust)
  · rw [hpact]
    exact hinv.puts (hputs.mp hp)
  · rw [hpact]
    exact hinv.queued (hqueued hq)

theorem held_or_cleared (hbefore : s.Held f ∨ Cleared s f)
    (hvalue : s'.fields.value f = s.fields.value f) (hold : s'.fields.old f = s.fields.old f)
    (hput : (∀ p, s.put ≠ some (.connecting p)) → ∀ p, s'.put ≠ some (.connecting p)) :
    s'.Held f ∨ Cleared s' f := by
  rcases hbefore with hheld | ⟨rfl, hzero, hconnecting⟩
  · left
    unfold State.Held Fields.Held
    rw [hvalue, hold]
    exact hheld
  · exact Or.inr ⟨rfl, hvalue.trans hzero, hput hconnecting⟩

/-- A step that is neither one of a put nor one that starts or ends a processing. -/
theorem Inv.frame (hinv : Inv f s)
    (hframe : s'.put = s.put ∧ s'.pact = s.pact ∧ (s'.queued = true → s.queued = true))
    (hshown : ¬ s.Pending f → s.Shown f → s'.Shown f)
    (hkept : f ∈ recordFields → s.Kept f → s'.Kept f)
    (hheld : f ∈ connectFields →
      s'.Held f ∨ (s'.fields.value f = s.fields.value f ∧ s'.fields.old f = s.fields.old f)) :
    Inv f s' := by
  obtain ⟨hput, hpact, hqueued⟩ := hframe
  have hputs : s'.Puts f ↔ s.Puts f := by
    unfold State.Puts
    rw [hput]
  refine hinv.preserve hputs hpact hqueued (fun _ => hshown) hkept (fun hf hstored => ?_)
  rcases hheld hf with hheld | ⟨hvalue, hold⟩
  · exact Or.inl hheld
  · exact held_or_cleared (hinv.held hf (hput ▸ hstored)) hvalue hold (fun h => hput ▸ h)

/-! ### The steps of a put -/

theorem frame_store (s : State) (p : Put) :
    (s.store p).put = some (.stored p) ∧ (s.store p).pact = s.pact ∧ (s.store p).queued = s.queued := by
  cases p <;> exact ⟨rfl, rfl, rfl⟩

theorem kept_store (hkept : s.Kept f) : (s.store p).Kept f := by
  cases p <;> exact kept_assign hkept

/-- What is stored is the field being put, or a number of elements. -/
theorem value_store (hputs : ∀ v, p ≠ .field f v) (hio : f ∉ ioFields) (hrule : Rule f s (.put p)) :
    (s.store p).fields.value f = s.fields.value f := by
  cases p with
  | field g v =>
      refine Function.update_of_ne ?_ _ _
      rintro rfl
      exact hputs v rfl
  | bout n =>
      by_cases hf : f = .nowt
      · subst hf
        change Function.update s.fields.value Field.nowt (Value.int n) .nowt = s.fields.value .nowt
        rw [Function.update_self, hrule rfl]
      · exact Function.update_of_ne hf _ _
  | binp n =>
      refine Function.update_of_ne ?_ _ _
      rintro rfl
      exact hio (by decide)

theorem old_store : (s.store p).fields.old = s.fields.old := by
  cases p <;> rfl

theorem view_store : (s.store p).fields.view = s.fields.view := by
  cases p <;> rfl

theorem connect_not_io : ∀ f ∈ connectFields, f ∉ ioFields := by
  decide

theorem Inv.store (hinv : Inv f s) (hnone : s.put = none) (hrule : Rule f s (.put p))
    (hmod : ∀ v, p = .field f v → f ∉ noMod) : Inv f (s.store p) := by
  obtain ⟨hput, hpact, hqueued⟩ := frame_store s p
  refine ⟨fun hpending => ?_, fun hmust => ?_, fun hf hstored => ?_, fun hputs => ?_, fun hq => ?_⟩
  · obtain ⟨hputs, hprocess, hio⟩ := of_not_pending hpending
    rw [hpact] at hprocess
    have hshown : s.Shown f := hinv.shown (not_pending (not_puts hnone) hprocess hio)
    have hother : ∀ v, p ≠ .field f v := fun v heq => hputs ((puts_iff hput).mpr ⟨v, heq⟩)
    unfold State.Shown Fields.Shown
    rw [view_store, value_store hother hio hrule]
    exact hshown
  · rw [hpact] at hmust
    exact kept_store (hinv.kept hmust)
  · have hother : ∀ v, p ≠ .field f v := fun v heq => hstored v (heq ▸ hput)
    have hvalue := value_store hother (connect_not_io f hf) hrule
    have hbefore : s.Held f ∨ Cleared s f := by
      refine hinv.held hf ?_
      rw [hnone]
      exact fun _ heq => by cases heq
    refine held_or_cleared hbefore hvalue (congrFun old_store f) (fun _ p' hp' => ?_)
    rw [hput] at hp'
    cases hp'
  · obtain ⟨v, rfl⟩ := (puts_iff hput).mp hputs
    obtain ⟨hown, hprocess⟩ := hrule
    refine ⟨?_, fun hvalid => hown (Or.inr hvalid) rfl, fun hmem => ?_⟩
    · intro hio
      rcases List.mem_cons.mp hio with hnawt | hmem
      · exact hown (Or.inl hnawt) rfl
      · exact hmod v rfl hmem
    · rw [hpact]
      exact hprocess hmem rfl
  · rw [hpact]
    exact hinv.queued (hqueued ▸ hq)

/-- A step from one stage of a put to the next. -/
theorem Inv.stage (hinv : Inv f s) {stage stage' : Stage} (hput : s.put = some stage)
    (hput' : s'.put = some stage') (htarget : stage'.target = stage.target)
    (hframe : s'.pact = s.pact ∧ s'.queued = s.queued)
    (hshown : ¬ s'.Puts f → s.Shown f → s'.Shown f) (hkept : f ∈ recordFields → s.Kept f → s'.Kept f)
    (hheld : f ∈ connectFields → (∀ v, stage' ≠ .stored (.field f v)) → s'.Held f ∨ Cleared s' f) :
    Inv f s' := by
  have hputs : s'.Puts f ↔ s.Puts f := by
    rw [puts_iff hput, puts_iff hput', htarget]
  refine hinv.preserve hputs hframe.1 (hframe.2 ▸ id) (fun hnot _ => ?_) hkept (fun hf hstored => ?_)
  · exact hshown (of_not_pending hnot).1
  · exact hheld hf (fun v heq => hstored v (heq ▸ hput'))

/-- A step that ends with `monitorStatus`, on fields of which some of `connectDevice` have been written:
those that are kept are shown, and the others as well unless they have been written. -/
theorem Inv.statusStage (hinv : Inv f s) {stage stage' : Stage} {value : Field → Value}
    (hput : s.put = some stage) (htarget : stage'.target = stage.target)
    (hwrites : Writes connectFields s.fields.value value)
    (hpcnct : f = .pcnct → ¬ s.Puts f → s.Shown f → s.Kept f ∨ value f = s.fields.value f) :
    Inv f { (s.assign value).monitorStatus status with put := some stage' } := by
  obtain ⟨-, hpact, hqueued⟩ := frame_monitorStatus (s.assign value) status
  refine hinv.stage hput rfl htarget ⟨hpact, hqueued⟩ (fun hputs hshown => ?_)
    (fun hf hkept => kept_monitorStatus (kept_assign hkept) hf)
    (fun hf _ => Or.inl (held_monitorStatus hf))
  by_cases hf : f ∈ connectFields
  · by_cases heq : f = .pcnct
    · have hputs' : ¬ s.Puts f := by
        rw [puts_iff hput, ← htarget]
        rwa [puts_iff rfl] at hputs
      rcases hpcnct heq hputs' hshown with hkept | hvalue
      · exact shown_monitorStatus_of_kept (kept_assign hkept) hf
      · exact shown_monitorStatus (shown_assign hshown hvalue)
    · have hkept : s.Kept f := hinv.kept (Or.inl (Or.inr ⟨hf, heq⟩))
      exact shown_monitorStatus_of_kept (kept_assign hkept) hf
  · exact shown_monitorStatus (shown_assign hshown (hwrites f hf))

/-- `PCNCT`, unless it is being put. -/
theorem Inv.pcnct (hinv : Inv .pcnct s) (hputs : ¬ s.Puts .pcnct) (hshown : s.Shown .pcnct) :
    s.Kept .pcnct ∨ Cleared s .pcnct := by
  rcases hinv.held (by decide) (fun v heq => hputs ⟨_, v, heq, rfl⟩) with hheld | hcleared
  · exact Or.inl (kept_of_held hshown hheld)
  · exact Or.inr hcleared

theorem Inv.connectDevice (hinv : Inv f s) (hput : s.put = some (.stored p)) (answers : Answers) :
    Inv f (s.connectDevice p answers) := by
  have hwrites := writes_connection answers.connection s.fields.value
  unfold State.connectDevice
  generalize answers.connection = connection at hwrites ⊢
  cases connection with
  | refused =>
      refine hinv.statusStage hput rfl hwrites ?_
      rintro rfl hputs hshown
      rcases hinv.pcnct hputs hshown with hkept | ⟨-, hzero, -⟩
      · exact Or.inl hkept
      · exact Or.inr hzero.symm
  | found =>
      refine hinv.statusStage hput rfl hwrites ?_
      rintro rfl - -
      exact Or.inr rfl

theorem Inv.connected (hinv : Inv f s) (hput : s.put = some (.connecting p)) :
    Inv f { (s.assign (Function.update s.fields.value .pcnct (.int 1))).monitorStatus status with
      put := some (.special p) } := by
  refine hinv.statusStage hput rfl (Writes.update (by decide)) ?_
  rintro rfl hputs hshown
  rcases hinv.pcnct hputs hshown with hkept | ⟨-, -, hconnecting⟩
  · exact Or.inl hkept
  · exact absurd hput (hconnecting p)

/-- A put for which `special` writes no field. -/
theorem Inv.putPlain (hinv : Inv f s) (hput : s.put = some (.stored p))
    (hput' : s'.put = some (.special p)) (hframe : s'.pact = s.pact ∧ s'.queued = s.queued)
    (hfields : s'.fields = s.fields)
    (hown : f ∈ connectFields → ∀ v, p = .field f v →
      f ∈ validFields ∨ (f = .pcnct ∧ s.fields.value .pcnct = .int 0)) : Inv f s' := by
  refine hinv.stage hput hput' rfl hframe (fun _ hshown => ?_) (fun _ hkept => ?_) (fun hf _ => ?_)
  · unfold State.Shown
    rw [hfields]
    exact hshown
  · unfold State.Kept
    rw [hfields]
    exact hkept
  · have hspecial : ∀ p', s'.put ≠ some (.connecting p') := by
      intro p' hp'
      rw [hput'] at hp'
      cases hp'
    by_cases hp : ∃ v, p = .field f v
    · obtain ⟨v, hv⟩ := hp
      rcases hown hf v hv with hvalid | ⟨hpcnct, hzero⟩
      · exact absurd hvalid (hinv.puts ((puts_iff hput).mpr ⟨v, hv⟩)).2.1
      · exact Or.inr ⟨hpcnct, hfields ▸ hzero, hspecial⟩
    · have hbefore := hinv.held hf (fun v heq => hp ⟨v, by rw [hput] at heq; cases heq; rfl⟩)
      exact held_or_cleared hbefore (by rw [hfields]) (by rw [hfields]) (fun _ => hspecial)

theorem monitorStatus_put (s : State) (stage : Option Stage) (status : Status) :
    ({ s with put := stage } : State).monitorStatus status =
      { s.monitorStatus status with put := stage } := by
  unfold State.monitorStatus State.postTraceFile State.postAll
  dsimp only
  split <;> rfl

theorem Inv.putReason (hinv : Inv f s) {v : Value} (hput : s.put = some (.stored (.field .reason v))) :
    Inv f (({ s.assign (Function.update s.fields.value .drvinfo (.text "")) with
      put := some (.special (.field .reason v)) } : State).monitorStatus status) := by
  rw [monitorStatus_put]
  refine hinv.statusStage hput rfl (Writes.update (by decide)) ?_
  rintro rfl - -
  exact Or.inr rfl

/-- The puts of fields that `connectDevice` writes, other than those of the valid flags. -/
theorem connect_cases : ∀ f ∈ connectFields,
    f ∈ validFields ∨ f = .pcnct ∨ f = .reason ∨ f = .drvinfo := by
  decide

theorem Inv.special (hinv : Inv f s) (hput : s.put = some (.stored p)) (answers : Answers) :
    Inv f (s.special p answers) := by
  unfold State.special
  split
  case isTrue => exact hinv.connectDevice hput answers
  case isFalse hconnects =>
    have hown (hf : f ∈ connectFields) (v : Value) (hp : p = .field f v) (hreason : f ≠ .reason) :
        f ∈ validFields ∨ (f = .pcnct ∧ s.fields.value .pcnct = .int 0) := by
      subst hp
      rcases connect_cases f hf with hvalid | rfl | rfl | rfl
      · exact Or.inl hvalid
      · exact Or.inr ⟨rfl, not_not.mp hconnects⟩
      · exact absurd rfl hreason
      · exact absurd trivial hconnects
    split
    · exact hinv.putReason hput
    · refine hinv.putPlain hput rfl ⟨rfl, rfl⟩ rfl (fun hf v hp => hown hf v hp ?_)
      rintro rfl
      cases hp
    · rename_i hreason _
      refine hinv.putPlain hput rfl ⟨rfl, rfl⟩ rfl (fun hf v hp => hown hf v hp ?_)
      rintro rfl
      exact hreason v hp

theorem Inv.dbPost (hinv : Inv f s) (hput : s.put = some (.special p)) : Inv f (s.dbPost p) := by
  have hnone : (s.dbPost p).put = none := by
    cases p <;> rfl
  have hframe : (s.dbPost p).pact = s.pact ∧ (s.dbPost p).queued = s.queued := by
    cases p <;> exact ⟨rfl, rfl⟩
  have hfields : (s.dbPost p).fields.value = s.fields.value ∧ (s.dbPost p).fields.old = s.fields.old := by
    cases p <;> exact ⟨rfl, rfl⟩
  have hnotStored : ∀ v, s.put ≠ some (.stored (.field f v)) := by
    intro v heq
    rw [hput] at heq
    cases heq
  refine ⟨fun hpending => ?_, fun hmust => ?_, fun hf _ => ?_, fun hputs => absurd hputs (not_puts hnone),
    fun hq => ?_⟩
  · obtain ⟨-, hprocess, hio⟩ := of_not_pending hpending
    have hshown (hother : ∀ v, p ≠ .field f v) : s.Shown f := by
      refine hinv.shown (not_pending (fun hputs => ?_) (hframe.1 ▸ hprocess) hio)
      obtain ⟨v, hv⟩ := (puts_iff hput).mp hputs
      exact hother v hv
    cases p with
    | bout n => exact hshown (fun _ heq => by cases heq)
    | binp n => exact hshown (fun _ heq => by cases heq)
    | field g v =>
        refine shown_post (fun hne => hshown (fun v' heq => ?_))
        cases heq
        exact hne rfl
  · rw [hframe.1] at hmust
    have hkept := hinv.kept hmust
    cases p with
    | bout n => exact hkept
    | binp n => exact hkept
    | field g v =>
        refine kept_post hkept ?_
        rintro rfl
        obtain ⟨hio, -, hprocess⟩ := hinv.puts ((puts_iff hput).mpr ⟨v, rfl⟩)
        rcases hmust with (hmem | ⟨hconnect, hpcnct⟩) | ⟨hmem, htrue⟩
        · exact absurd hmem hio
        · rcases hinv.held hconnect hnotStored with hheld | ⟨heq, -⟩
          · exact shown_of_held hkept hheld
          · exact absurd heq hpcnct
        · rw [hprocess hmem] at htrue
          cases htrue
  · refine held_or_cleared (hinv.held hf hnotStored) (congrFun hfields.1 f) (congrFun hfields.2 f) ?_
    rw [hnone]
    exact fun _ _ heq => by cases heq
  · rw [hframe.1]
    exact hinv.queued (hframe.2 ▸ hq)

/-! ### The steps of a processing -/

theorem process_monitored : ∀ f ∈ processFields, f ∉ ioFields ∧ f ∈ monitorOrder := by
  decide

theorem io_monitored : ∀ f ∈ ioFields, f ∈ monitorOrder := by
  decide

theorem connect_not_transfer : ∀ f ∈ connectFields, f ∉ processFields ∧ f ∉ transferFields := by
  decide

/-- `PCNCT` and what else `connectDevice` writes is left alone by a processing. -/
structure Untouched (s s' : State) (f : Field) : Prop where
  put : s'.put = s.put
  value : s'.fields.value f = s.fields.value f
  held : s.Held f → s'.Held f

/-- The invariant after a step with no put under way. -/
theorem Inv.of_none (hinv : Inv f s) (hnone : s'.put = none)
    (hshown : (f ∈ processFields → s'.pact = false) → f ∉ ioFields → s'.Shown f)
    (hkept : AlwaysKept f → s'.Kept f) (hactive : f ∈ processFields → s'.pact = true → s'.Kept f)
    (huntouched : f ∈ connectFields → Untouched s s' f)
    (hqueued : s'.queued = true → s'.pact = true) : Inv f s' where
  shown hpending := by
    obtain ⟨-, hprocess, hio⟩ := of_not_pending hpending
    exact hshown hprocess hio
  kept hmust := hmust.elim hkept (fun h => hactive h.1 h.2)
  held hf hstored := by
    obtain ⟨hput, hvalue, hheld⟩ := huntouched hf
    rcases hinv.held hf (fun v => hput ▸ hstored v) with hbefore | ⟨rfl, hzero, hconnecting⟩
    · exact Or.inl (hheld hbefore)
    · exact Or.inr ⟨rfl, hvalue.trans hzero, hput ▸ hconnecting⟩
  puts hputs := absurd hputs (not_puts hnone)
  queued := hqueued

theorem Inv.shown_idle (hinv : Inv f s) (hnone : s.put = none) (hidle : s.pact = false)
    (hio : f ∉ ioFields) : s.Shown f :=
  hinv.shown (not_pending (not_puts hnone) (fun _ => hidle) hio)

/-- What `process` remembers was shown. -/
theorem Inv.kept_remember (hinv : Inv f s) (hnone : s.put = none) (hidle : s.pact = false)
    (hf : f ∈ processFields ∨ AlwaysKept f) :
    ({ s with fields := s.fields.remember processFields } : State).Kept f := by
  refine Fields.kept_remember (fun hmem => ?_) (fun hmem => ?_)
  · exact hinv.shown_idle hnone hidle (process_monitored f hmem).1
  · rcases hf with hprocess | halways
    · exact absurd hprocess hmem
    · exact hinv.kept (Or.inl halways)

theorem put_process (branch : Branch) : (process sizes s branch).put = s.put := by
  cases branch <;> rfl

theorem queued_process (branch : Branch) (hqueued : s.queued = true → s.pact = true) :
    (process sizes s branch).queued = true → (process sizes s branch).pact = true := by
  cases branch with
  | queued => exact fun _ => rfl
  | _ => exact hqueued

theorem Untouched.monitor (huntouched : Untouched s s' f) : Untouched s (monitor s') f where
  put := huntouched.put
  value := by
    unfold Monitor.monitor State.postAll
    rw [value_postAll]
    exact huntouched.value
  held hheld := held_postAll (huntouched.held hheld)

theorem untouched_remember (hf : f ∈ connectFields) :
    Untouched s { s with fields := s.fields.remember processFields } f where
  put := rfl
  value := rfl
  held hheld := held_remember (connect_not_transfer f hf).1 hheld

theorem untouched_process (hf : f ∈ connectFields) (branch : Branch) :
    Untouched s (process sizes s branch) f := by
  have hremembered := untouched_remember (s := s) hf
  cases branch with
  | notIdle => exact Untouched.monitor ⟨rfl, rfl, id⟩
  | gotValue => exact hremembered.monitor
  | notQueued => exact hremembered.monitor
  | queued => exact ⟨rfl, rfl, hremembered.held⟩
  | synchronous io =>
      have hvalue : asynCallbackProcess sizes io s.fields.value f = s.fields.value f :=
        writes_asynCallbackProcess io s.fields.value f (connect_not_transfer f hf).2
      refine Untouched.monitor ⟨rfl, hvalue, fun hheld => ?_⟩
      exact held_assign (hremembered.held hheld) hvalue

/-- Behind `process` a field of I/O is kept, and shown if `monitor` has been called. -/
theorem Inv.process_io (hinv : Inv f s) (hnone : s.put = none) (hidle : s.pact = false)
    (halways : AlwaysKept f) (branch : Branch) :
    (process sizes s branch).Kept f ∧
      (f ∈ ioFields → branch ≠ .queued → (process sizes s branch).Shown f) := by
  have hremembered := hinv.kept_remember hnone hidle (Or.inr halways)
  have hmonitored {s' : State} (hkept : s'.Kept f) :
      (monitor s').Kept f ∧ (f ∈ ioFields → branch ≠ .queued → (monitor s').Shown f) :=
    ⟨kept_postAll hkept, fun hio _ => shown_monitor_of_kept hkept (io_monitored f hio)⟩
  cases branch with
  | notIdle => exact hmonitored (hinv.kept (Or.inl halways))
  | gotValue => exact hmonitored hremembered
  | notQueued => exact hmonitored hremembered
  | synchronous io => exact hmonitored (kept_assign hremembered)
  | queued => exact ⟨hremembered, fun _ hne => absurd rfl hne⟩

theorem Inv.process (hinv : Inv f s) (hnone : s.put = none) (hidle : s.pact = false)
    (branch : Branch) : Inv f (process sizes s branch) := by
  have hremembered (hf : f ∈ processFields) := hinv.kept_remember hnone hidle (Or.inl hf)
  refine hinv.of_none ((put_process branch).trans hnone) (fun hpact hio => ?_)
    (fun halways => (hinv.process_io hnone hidle halways branch).1) (fun hf htrue => ?_)
    (fun hf => untouched_process hf branch) (queued_process branch hinv.queued)
  · have hshown := hinv.shown_idle hnone hidle hio
    cases branch with
    | notIdle => exact shown_postAll_order hshown
    | gotValue => exact shown_postAll_order (shown_remember hshown)
    | notQueued => exact shown_postAll_order (shown_remember hshown)
    | queued => exact shown_remember hshown
    | synchronous io =>
        by_cases hf : f ∈ processFields
        · exact shown_monitor_of_kept (kept_assign (hremembered hf)) (process_monitored f hf).2
        · refine shown_postAll_order (shown_assign (shown_remember hshown) ?_)
          refine writes_asynCallbackProcess io s.fields.value f (fun hmem => ?_)
          exact (List.mem_append.mp hmem).elim hf hio
  · cases branch with
    | queued => exact hremembered hf
    | _ =>
        have hactive : s.pact = true := htrue
        rw [hidle] at hactive
        cases hactive

theorem Inv.finishProcess (hinv : Inv f s) (hnone : s.put = none) (hactive : s.pact = true) :
    Inv f { monitor s with pact := false, queued := false } := by
  have huntouched : Untouched s (monitor s) f := Untouched.monitor ⟨rfl, rfl, id⟩
  refine hinv.of_none hnone (fun _ hio => ?_)
    (fun halways => kept_postAll (hinv.kept (Or.inl halways))) (fun _ htrue => by cases htrue)
    (fun _ => ⟨huntouched.put, huntouched.value, huntouched.held⟩) (fun htrue => by cases htrue)
  by_cases hf : f ∈ processFields
  · exact shown_monitor_of_kept (hinv.kept (Or.inr ⟨hf, hactive⟩)) (process_monitored f hf).2
  · exact shown_postAll_order (hinv.shown (not_pending (not_puts hnone) (fun h => absurd h hf) hio))

/-- What is written in a transfer is shown by `monitor` only. -/
theorem Inv.asynCallbackProcess (hinv : Inv f s) (hqueued : s.queued = true) (io : Io) :
    Inv f { s.assign (asynCallbackProcess sizes io s.fields.value) with queued := false } := by
  have hactive := hinv.queued hqueued
  have hwrites : f ∉ transferFields →
      Monitor.asynCallbackProcess sizes io s.fields.value f = s.fields.value f :=
    writes_asynCallbackProcess io s.fields.value f
  refine hinv.frame ⟨rfl, rfl, fun htrue => by cases htrue⟩ (fun hpending hshown => ?_)
    (fun _ hkept => kept_assign hkept)
    (fun hf => Or.inr ⟨hwrites (connect_not_transfer f hf).2, rfl⟩)
  refine shown_assign hshown (hwrites (fun hmem => ?_))
  rcases List.mem_append.mp hmem with hprocess | hio
  · exact hpending (Or.inr (Or.inl ⟨hprocess, hactive⟩))
  · exact hpending (Or.inr (Or.inr hio))

theorem Inv.asynCallbackSpecial (hinv : Inv f s) (type : CallbackType) (status : Status) :
    Inv f (asynCallbackSpecial s type status) := by
  obtain ⟨hput, hpact, hqueued⟩ := frame_asynCallbackSpecial s type status
  exact hinv.frame ⟨hput, hpact, fun htrue => hqueued ▸ htrue⟩
    (fun _ hshown => shown_asynCallbackSpecial hshown)
    (fun hf hkept => kept_asynCallbackSpecial hkept hf)
    (fun hf => Or.inl (held_asynCallbackSpecial hf))

theorem Inv.callbackInterrupt (hinv : Inv f s) (r : Register) (v : Value) :
    Inv f (s.assign (Function.update s.fields.value r.field v)) := by
  have hio : r.field ∈ ioFields := by
    cases r <;> decide
  have hvalue (hf : f ∉ ioFields) : Function.update s.fields.value r.field v f = s.fields.value f := by
    refine Function.update_of_ne ?_ _ _
    rintro rfl
    exact hf hio
  exact hinv.frame ⟨rfl, rfl, id⟩
    (fun hpending hshown => shown_assign hshown (hvalue (of_not_pending hpending).2.2))
    (fun _ hkept => kept_assign hkept) (fun hf => Or.inr ⟨hvalue (connect_not_io f hf), rfl⟩)

/-! ## Runs -/

theorem Inv.step (hinv : Inv f s) {a : Action} (hrule : Rule f s a) (hstep : step sizes s a = some s') :
    Inv f s' := by
  cases a with
  | put p =>
      simp only [Monitor.step] at hstep
      split at hstep
      · rename_i hnone
        split at hstep
        case isTrue => cases hstep
        case isFalse hmod =>
          cases hstep
          exact hinv.store hnone hrule (fun v heq => by cases heq; exact hmod)
      · rename_i hnone hfield
        cases hstep
        exact hinv.store hnone hrule (fun v heq => absurd heq (hfield f v))
      · cases hstep
  | special answers =>
      simp only [Monitor.step] at hstep
      split at hstep
      · rename_i hput
        cases hstep
        exact hinv.special hput answers
      · cases hstep
  | connected status =>
      simp only [Monitor.step] at hstep
      split at hstep
      · rename_i hput
        cases hstep
        exact hinv.connected hput
      · cases hstep
  | post =>
      simp only [Monitor.step] at hstep
      split at hstep
      · rename_i hput
        cases hstep
        exact hinv.dbPost hput
      · cases hstep
  | exceptCallback status =>
      cases hstep
      exact hinv.asynCallbackSpecial .connect status
  | asynCallbackSpecial type status =>
      cases hstep
      exact hinv.asynCallbackSpecial type status
  | process branch =>
      simp only [Monitor.step] at hstep
      split at hstep
      case isTrue hidle =>
        cases hstep
        exact hinv.process hidle.1 hidle.2 branch
      case isFalse => cases hstep
  | asynCallbackProcess io =>
      simp only [Monitor.step] at hstep
      split at hstep
      case isTrue hqueued =>
        cases hstep
        exact hinv.asynCallbackProcess hqueued io
      case isFalse => cases hstep
  | finishProcess =>
      simp only [Monitor.step] at hstep
      split at hstep
      case isTrue hactive =>
        cases hstep
        exact hinv.finishProcess hactive.1 hactive.2
      case isFalse => cases hstep
  | callbackInterrupt r v =>
      cases hstep
      exact hinv.callbackInterrupt r v

theorem inv_initial (hinit : s.Initial) : Inv f s := by
  obtain ⟨hnone, hidle, hqueued, hview, hold⟩ := hinit
  have hshown : s.Shown f := Or.inl (congrFun hview f)
  have hheld (hf : f ∈ connectFields ∨ f ∈ ioFields) : s.Held f := Or.inl (hold f hf)
  refine ⟨fun _ => hshown, fun hmust => ?_, fun hf _ => Or.inl (hheld (Or.inl hf)),
    fun hputs => absurd hputs (not_puts hnone), fun htrue => ?_⟩
  · rcases hmust with (hio | ⟨hconnect, -⟩) | ⟨-, htrue⟩
    · exact kept_of_held hshown (hheld (Or.inr hio))
    · exact kept_of_held hshown (hheld (Or.inl hconnect))
    · rw [hidle] at htrue
      cases htrue
  · rw [hqueued] at htrue
    cases htrue

theorem inv_reachable (hreach : (machine sizes).Reachable (Rule f) s) : Inv f s :=
  hreach.invariant (fun _ hinit => inv_initial hinit)
    (fun _ _ _ hrule hinv hstep => hinv.step hrule hstep)

/-- What `monitor` posts of the fields of I/O is shown. -/
theorem Inv.shown_of_monitors (hinv : Inv f s) (hio : f ∈ ioFields) {a : Action}
    (hmonitors : a.Monitors) (hstep : Monitor.step sizes s a = some s') : s'.Shown f := by
  cases a with
  | finishProcess =>
      simp only [Monitor.step] at hstep
      split at hstep
      · cases hstep
        exact shown_monitor_of_kept (hinv.kept (Or.inl (Or.inl hio))) (io_monitored f hio)
      · cases hstep
  | process branch =>
      simp only [Monitor.step] at hstep
      split at hstep
      case isTrue hidle =>
        cases hstep
        refine (hinv.process_io hidle.1 hidle.2 (Or.inl hio) branch).2 hio ?_
        rintro rfl
        exact hmonitors
      case isFalse => cases hstep
  | _ => exact hmonitors.elim

def startValue : Field → Value
  | .tfil => .text "Unknown"
  | .hostinfo | .ieos | .oeos | .drvinfo | .port => .text ""
  | .f64inp => .float ⟨0⟩
  | _ => .int 0

def start : State := ⟨⟨startValue, startValue, startValue⟩, 0, none, false, false⟩

def exampleSizes : Sizes := ⟨80, 80⟩

def exampleStatus : Status := ⟨1, 1, 1, 80, 0, some 1, some 1, some 1⟩

/-- A port with asynOctet and asynOption. -/
def exampleAnswers : Answers := ⟨.found true true false false false false none, exampleStatus, none⟩

def connectPort : List Action :=
  [.put (.field .port (.text "L0")), .special exampleAnswers, .connected exampleStatus, .post]

/-- What the clients see of a field at the end of a run, and what is in it. -/
def outcome (f : Field) (actions : List Action) : Option (Value × Value) :=
  ((machine exampleSizes).exec start actions).map (fun s => (s.fields.view f, s.fields.value f))

def plainPut (p : Put) : List Action := [.put p, .special exampleAnswers, .post]

def exampleIo : Io := ⟨3, 0, 0, none, 0, none, none⟩

-- A run for each rule that it breaks: `NAWT` and `I32IV` are put, `UCMD` is put while the record is active,
-- and an array with another number of elements than `NOWT` is put.
example :
    outcome .nawt (connectPort ++ [.process (.synchronous exampleIo)] ++
        plainPut (.field .nawt (.int 9)) ++ [.process (.synchronous exampleIo)]) =
          some (.int 9, .int 3) ∧
      outcome .i32iv (plainPut (.field .i32iv (.int 1)) ++ connectPort) = some (.int 1, .int 0) ∧
      outcome .ucmd ([.process .queued] ++ plainPut (.field .ucmd (.int 2)) ++
        [.asynCallbackProcess exampleIo, .finishProcess]) = some (.int 2, .int 0) ∧
      outcome .nowt (plainPut (.bout 5) ++ [.process .gotValue]) = some (.int 0, .int 5) := by
  decide +kernel

end Monitor
end AsynRecord
end AsynDriver
