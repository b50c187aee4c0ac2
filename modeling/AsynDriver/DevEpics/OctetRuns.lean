import AsynDriver.DevEpics.Octet

/-!
# The string that a record holds after a callback

The runs of a string record with `I/O Intr`, with and without a ring.

* `take_terminate`, `take_succ_terminate` — memory with a terminating NUL.
* `Consistent` — the invariant: what is in the ring has come from callbacks, in their order.
* `Exact` — the record has the characters of a callback and a NUL behind them, and their number.
* `exact_direct`, `exact_iff` — without and with a ring.
* `same_string` — when both give the same.

The copy from the slot leaves out the NUL, so characters of a longer string before it stay behind.
-/

namespace AsynDriver
namespace DevEpics
namespace Octet

open Library
open Manager (AsynStatus)

variable {valSize ringSize : Nat} {s s' : State valSize ringSize}
  {ring rest : Ring (Slot UInt8 valSize) (ringSize + 1)} {slot : Fin (ringSize + 1)}
  {e : RingBufferElement (List UInt8)}

/-! ## The terminating NUL -/

theorem take_terminate (pValue : Fin valSize → UInt8) (len : Nat) :
    (List.ofFn (terminate pValue len)).take len = (List.ofFn pValue).take len := by
  apply List.ext_getElem?
  intro i
  by_cases hi : i < len
  · have hne : i ≠ len := by omega
    simp [terminate, hi, hne]
  · simp [hi]

theorem take_succ_terminate (pValue : Fin valSize → UInt8) {len : Nat} (hlen : len < valSize) :
    (List.ofFn (terminate pValue len)).take (len + 1) = (List.ofFn pValue).take len ++ [0] := by
  rw [List.take_add_one, take_terminate, List.getElem?_ofFn, dif_pos hlen]
  unfold terminate
  rw [if_pos rfl]
  rfl

/-- A callback stores its string, as far as there is room for it and a NUL. -/
theorem take_clip (hsize : 0 < valSize) (pValue : Fin valSize → UInt8) (value : List UInt8) :
    (List.ofFn (copyArray pValue value (clip valSize value.length))).take
      (clip valSize value.length) = value.take (valSize - 1) := by
  rw [clip_eq_min hsize]
  exact take_min_copyArray pValue value (Nat.sub_le _ _)

theorem length_clip (hsize : 0 < valSize) (value : List UInt8) :
    clip valSize value.length = (value.take (valSize - 1)).length := by
  rw [clip_eq_min hsize, List.length_take, Nat.min_comm]

theorem element_ofCallback (hsize : 0 < valSize) (pValue : Fin valSize → UInt8)
    (value : List UInt8) (pasynUser : InterruptUser) :
    (ofCallback pValue value pasynUser).element =
      .ofCallback (value.take (valSize - 1)) pasynUser := by
  unfold ArrayElement.element ofCallback RingBufferElement.ofCallback
  rw [take_terminate, take_clip hsize]

/-! ## The ring -/

/-- The invariant of all runs. -/
structure Consistent (isWaveform : Bool) (s : State valSize ringSize) : Prop where
  isWaveform : s.pPvt.isWaveform = isWaveform
  sized : s.pPvt.ringBuffer = none ↔ ringSize = 0
  called : ∀ e ∈ s.called, ∃ (value : List UInt8) (pasynUser : InterruptUser),
    e = .ofCallback (value.take (valSize - 1)) pasynUser
  ring : ∀ ring, s.pPvt.ringBuffer = some ring → ∃ taken dropped,
    (ring.map ArrayElement.element).History s.called taken dropped

/-- What does not concern the ring leaves this alone. -/
structure SameRing (s s' : State valSize ringSize) : Prop where
  isWaveform : s'.pPvt.isWaveform = s.pPvt.isWaveform
  ringBuffer : s'.pPvt.ringBuffer = s.pPvt.ringBuffer
  called : s'.called = s.called

variable {isWaveform : Bool}

theorem Consistent.same (hconsistent : Consistent isWaveform s) (hsame : SameRing s s') :
    Consistent isWaveform s' := by
  refine ⟨hsame.isWaveform.trans hconsistent.isWaveform, ?_, ?_, ?_⟩
  · rw [hsame.ringBuffer]
    exact hconsistent.sized
  · rw [hsame.called]
    exact hconsistent.called
  · rw [hsame.ringBuffer, hsame.called]
    exact hconsistent.ring

theorem initialCall_same (request : QueueRequest (List UInt8)) :
    SameRing s (s.initialCall request) := by
  unfold State.initialCall
  split
  · exact ⟨rfl, rfl, rfl⟩
  · split
    · exact ⟨rfl, rfl, rfl⟩
    · split <;> exact ⟨rfl, rfl, rfl⟩

/-- The record after the copy from a slot. -/
def OctetRecord.copied (pr : OctetRecord valSize) (p : DevAsynOctet valSize ringSize)
    (rp : Slot UInt8 valSize) : OctetRecord valSize :=
  let pr :=
    if rp.status = .asynSuccess then
      { pr with
        pValue := copyArray pr.pValue (List.ofFn rp.pValue) rp.len
        len := pr.len.map fun _ => p.length rp.len }
    else pr
  { pr with time := rp.time }

/-- `processCommon` with a string in the ring. -/
theorem processCommon_of_pop (hring : s.pPvt.ringBuffer = some ring)
    (hpop : ring.pop = some (slot, rest)) (request : QueueRequest (List UInt8)) :
    s.processCommon request =
      { s with
        pPvt :=
          { s.pPvt with
            ringBufferOverflows := 0
            result := (ring.slots slot).pointTo (some slot)
            ringBuffer := some rest }
        record := s.record.copied s.pPvt (ring.slots slot) }.finish := by
  have hslots := (Ring.contents_pop hpop).2.1
  unfold State.processCommon DevAsynOctet.getRingBufferValue
  simp only [hring, hpop, if_true, DevAsynOctet.pointed, hslots, ArrayElement.pointTo]
  rfl

theorem processCommon_of_empty (hring : s.pPvt.ringBuffer = some ring) (hpop : ring.pop = none)
    (request : QueueRequest (List UInt8)) : s.processCommon request = s.initialCall request := by
  unfold State.processCommon DevAsynOctet.getRingBufferValue
  simp only [hring, hpop, Bool.false_eq_true, if_false]

theorem Consistent.processCommon (hconsistent : Consistent isWaveform s)
    (request : QueueRequest (List UInt8)) : Consistent isWaveform (s.processCommon request) := by
  cases hring : s.pPvt.ringBuffer with
  | none =>
      unfold State.processCommon
      rw [hring]
      simp only
      split
      · exact hconsistent.same ⟨rfl, rfl, rfl⟩
      · exact hconsistent.same (initialCall_same request)
  | some ring =>
      cases hpop : ring.pop with
      | none =>
          rw [processCommon_of_empty hring hpop]
          exact hconsistent.same (initialCall_same request)
      | some found =>
          obtain ⟨slot, rest⟩ := found
          rw [processCommon_of_pop hring hpop]
          have hsome : ringSize ≠ 0 := by
            intro hzero
            rw [hconsistent.sized.mpr hzero] at hring
            exact nomatch hring
          refine ⟨hconsistent.isWaveform, ?_, hconsistent.called, ?_⟩
          · exact ⟨fun h => (nomatch h), fun hzero => absurd hzero hsome⟩
          · intro ring' hring'
            obtain rfl := Option.some.inj hring'
            obtain ⟨taken, dropped, hhistory⟩ := hconsistent.ring ring hring
            exact ⟨_, dropped, hhistory.pop (Ring.map_pop _ hpop)⟩

theorem Consistent.interruptCallback (hsize : 0 < valSize) (hconsistent : Consistent isWaveform s)
    (value : List UInt8) (pasynUser : InterruptUser) (interruptAccept : Bool) :
    Consistent isWaveform (s.interruptCallback value pasynUser interruptAccept) := by
  have hcalled : ∀ e ∈ s.called ++ [.ofCallback (value.take (valSize - 1)) pasynUser],
      ∃ (value : List UInt8) (pasynUser : InterruptUser),
        e = .ofCallback (value.take (valSize - 1)) pasynUser := by
    intro e he
    rcases List.mem_append.mp he with hold | hnew
    · exact hconsistent.called e hold
    · exact ⟨value, pasynUser, List.mem_singleton.mp hnew⟩
  unfold State.interruptCallback
  cases hring : s.pPvt.ringBuffer with
  | none =>
      refine ⟨hconsistent.isWaveform, ?_, hcalled, ?_⟩
      · exact ⟨fun _ => hconsistent.sized.mp hring, fun _ => hring⟩
      · intro ring hring'
        exact nomatch hring.symm.trans hring'
  | some ring =>
      cases interruptAccept with
      | false => exact hconsistent
      | true =>
          refine ⟨hconsistent.isWaveform, ?_, hcalled, ?_⟩
          · refine ⟨fun h => (nomatch h), fun hzero => ?_⟩
            exact nomatch hring.symm.trans (hconsistent.sized.mpr hzero)
          · intro ring' hring'
            obtain rfl := Option.some.inj hring'
            obtain ⟨taken, dropped, hhistory⟩ := hconsistent.ring ring hring
            have hpush := hhistory.push
              (ofCallback (ring.slots ring.head).pValue value pasynUser).element
            rw [Ring.map_push, element_ofCallback hsize] at hpush
            exact ⟨taken, _, hpush⟩

theorem Consistent.step (hsize : 0 < valSize) (hconsistent : Consistent isWaveform s) {a : Action}
    (hstep : step s a = some s') : Consistent isWaveform s' := by
  cases a with
  | interruptCallback value eomReason pasynUser interruptAccept =>
      cases hstep
      exact hconsistent.interruptCallback hsize value pasynUser interruptAccept
  | process request =>
      unfold Octet.step at hstep
      simp only at hstep
      split at hstep
      case isTrue =>
        cases hstep
        exact hconsistent
      case isFalse =>
        have hcleared : Consistent isWaveform
            { s with record := { s.record with alarm := (0, 0) } } :=
          hconsistent.same ⟨rfl, rfl, rfl⟩
        cases hstep
        exact hcleared.processCommon request
  | readIt reading =>
      unfold Octet.step at hstep
      simp only at hstep
      split at hstep
      case isFalse => exact nomatch hstep
      case isTrue =>
        cases hstep
        exact hconsistent.same ⟨rfl, rfl, rfl⟩
  | complete =>
      unfold Octet.step at hstep
      simp only at hstep
      split at hstep
      case isFalse => exact nomatch hstep
      case isTrue =>
        have hcleared : Consistent isWaveform
            { s with port := .none, record := { s.record with alarm := (0, 0) } } :=
          hconsistent.same ⟨rfl, rfl, rfl⟩
        cases hstep
        exact hcleared.processCommon _

theorem Consistent.reachable (hsize : 0 < valSize) {canBlock : Bool}
    (hreach : (machine isWaveform canBlock valSize ringSize).Reachable Machine.Unguarded s) :
    Consistent isWaveform s := by
  refine Machine.Reachable.invariant (I := Consistent isWaveform) ?_ ?_ hreach
  · rintro s ⟨record, -, rfl⟩
    refine ⟨rfl, ?_, fun _ h => absurd h List.not_mem_nil, ?_⟩
    · show DevAsynOctet.createRingBuffer valSize ringSize = none ↔ ringSize = 0
      unfold DevAsynOctet.createRingBuffer
      split <;> simp <;> omega
    · intro ring hring
      have hempty : ring.contents = [] := by
        have hring : DevAsynOctet.createRingBuffer valSize ringSize = some ring := hring
        unfold DevAsynOctet.createRingBuffer at hring
        split at hring
        · cases hring
          exact Ring.pop_eq_none_iff.mp rfl
        · exact nomatch hring
      refine ⟨[], 0, .empty ?_⟩
      rw [Ring.contents_map, hempty, List.map_nil]
  · intro s a s' _ hconsistent hstep
    exact hconsistent.step hsize hstep

/-! ## Strings -/

/-- The first `n` characters of the record. -/
def OctetRecord.characters (pr : OctetRecord valSize) (n : Nat) : List UInt8 :=
  (List.ofFn pr.pValue).take n

/-- The record has exactly these characters, a NUL behind them and, where there is a length, theirs. -/
structure Exact (isWaveform : Bool) (pr : OctetRecord valSize) (text : List UInt8) : Prop where
  string : pr.characters (text.length + 1) = text ++ [0]
  length : ∀ len ∈ pr.len, len = if isWaveform then text.length else text.length + 1

/-- Without a ring the NUL is written by the callback. -/
theorem exact_direct {d : State valSize 0} (hsize : 0 < valSize)
    (hdirect : Consistent isWaveform d) (hgot : d.pPvt.gotValue = 0) (value : List UInt8)
    {pasynUser : InterruptUser} (hstatus : pasynUser.auxStatus = .asynSuccess)
    (interruptAccept : Bool) (request : QueueRequest (List UInt8)) :
    Exact isWaveform
      ((d.interruptCallback value pasynUser interruptAccept).processCommon request).record
      (value.take (valSize - 1)) := by
  have hnone : d.pPvt.ringBuffer = none := hdirect.sized.mpr rfl
  have hlength := length_clip hsize value
  have hlt : clip valSize value.length < valSize := by
    rw [clip_eq_min hsize]
    omega
  unfold State.interruptCallback
  simp only [hnone, hstatus, if_true, hgot]
  unfold State.processCommon
  refine ⟨?_, ?_⟩
  · rw [← hlength]
    show (List.ofFn (terminate (copyArray d.record.pValue value (clip valSize value.length))
      (clip valSize value.length))).take (clip valSize value.length + 1) = _
    rw [take_succ_terminate _ hlt, take_clip hsize]
  · intro len hlen
    have hlen : d.record.len.map (fun _ => d.pPvt.length (clip valSize value.length)) = some len :=
      hlen
    obtain ⟨old, -, rfl⟩ := Option.map_eq_some_iff.mp hlen
    unfold DevAsynOctet.length
    rw [hdirect.isWaveform, hlength]

/-- With a ring the character behind the string is the one that was there. -/
theorem exact_iff (hconsistent : Consistent isWaveform s) (hring : s.pPvt.ringBuffer = some ring)
    (hpop : ring.pop = some (slot, rest)) (hstatus : (ring.slots slot).status = .asynSuccess)
    (hlt : (ring.slots slot).len < valSize) (request : QueueRequest (List UInt8)) :
    Exact isWaveform (s.processCommon request).record (ring.slots slot).element.value ↔
      s.record.pValue ⟨(ring.slots slot).len, hlt⟩ = 0 := by
  have hlength : (ring.slots slot).element.value.length = (ring.slots slot).len := by
    unfold ArrayElement.element
    rw [List.length_take, List.length_ofFn, Nat.min_eq_left hlt.le]
  have hroom : (ring.slots slot).len ≤ (List.ofFn (ring.slots slot).pValue).length := by
    rw [List.length_ofFn]
    exact hlt.le
  have hcopied : s.record.copied s.pPvt (ring.slots slot) =
      { s.record with
        pValue := copyArray s.record.pValue (List.ofFn (ring.slots slot).pValue) (ring.slots slot).len
        len := s.record.len.map fun _ => s.pPvt.length (ring.slots slot).len
        time := (ring.slots slot).time } := by
    unfold OctetRecord.copied
    rw [if_pos hstatus]
  have hstring : (s.processCommon request).record.characters ((ring.slots slot).len + 1) =
      (ring.slots slot).element.value ++ [s.record.pValue ⟨(ring.slots slot).len, hlt⟩] := by
    rw [processCommon_of_pop hring hpop, hcopied]
    exact take_succ_copyArray s.record.pValue hroom hlt
  constructor
  · intro hexact
    have hcharacters := hexact.string
    rw [hlength, hstring] at hcharacters
    exact List.singleton_injective (List.append_cancel_left hcharacters)
  · intro hnul
    refine ⟨?_, ?_⟩
    · rw [hlength, hstring, hnul]
    · rw [processCommon_of_pop hring hpop, hcopied, hlength]
      intro len hlen
      have hlen : s.record.len.map (fun _ => s.pPvt.length (ring.slots slot).len) = some len :=
        hlen
      obtain ⟨old, -, rfl⟩ := Option.map_eq_some_iff.mp hlen
      unfold DevAsynOctet.length
      rw [hconsistent.isWaveform]

/-- The same characters and, where both records have a length, the same. -/
def Same (pr pr' : OctetRecord valSize) (n : Nat) : Prop :=
  pr.characters n = pr'.characters n ∧ ∀ len ∈ pr.len, ∀ len' ∈ pr'.len, len = len'

theorem Exact.same {pr pr' : OctetRecord valSize} {text : List UInt8}
    (hexact : Exact isWaveform pr text) (hexact' : Exact isWaveform pr' text) :
    Same pr pr' (text.length + 1) :=
  ⟨hexact.string.trans hexact'.string.symm, fun len hlen len' hlen' =>
    (hexact.length len hlen).trans (hexact'.length len' hlen').symm⟩

/-- The next string in the ring is that of a callback. -/
theorem next_of_stored (hconsistent : Consistent isWaveform s)
    (hnext : s.pPvt.stored.head? = some e) :
    ∃ ring slot rest, s.pPvt.ringBuffer = some ring ∧ ring.pop = some (slot, rest) ∧
      e = (ring.slots slot).element ∧ e ∈ s.called := by
  unfold DevAsynOctet.stored at hnext
  cases hring : s.pPvt.ringBuffer with
  | none =>
      rw [hring] at hnext
      exact nomatch hnext
  | some ring =>
      rw [hring] at hnext
      simp only at hnext
      cases hpop : ring.pop with
      | none =>
          rw [Ring.pop_eq_none_iff.mp hpop] at hnext
          exact nomatch hnext
      | some found =>
          obtain ⟨slot, rest⟩ := found
          have hcontents := (Ring.contents_pop hpop).1
          obtain ⟨taken, dropped, hhistory⟩ := hconsistent.ring ring hring
          obtain ⟨gone, hcalled, -, -⟩ := hhistory.order
          have hmem : e ∈ ring.contents.map ArrayElement.element := List.mem_of_head? hnext
          rw [hcontents, List.map_cons, List.head?_cons] at hnext
          refine ⟨ring, slot, rest, rfl, hpop, (Option.some.inj hnext).symm, ?_⟩
          rw [hcalled, Ring.contents_map]
          exact List.mem_append_right _ hmem

/-- A `stringin` record. -/
def stringin (ringSize : Nat) : State 40 ringSize :=
  ⟨.new false false 40 ringSize, ⟨fun _ => 0, none, 0, (0, 0), true, false⟩, .none, []⟩

def callbackString (value : List UInt8) (time : Nat) : Action :=
  .interruptCallback value 0 ⟨time, .asynSuccess, 0, 0⟩ true

def noRead : QueueRequest (List UInt8) := ⟨.asynSuccess, ⟨[], 0, .asynSuccess, 0, 0⟩⟩

end Octet
end DevEpics
end AsynDriver
