import AsynDriver.DevEpics.ScalarInputRuns
import AsynDriver.DevEpics.XXXArray

/-!
# The ring of an array record

The invariants of the runs of an array record with `I/O Intr` and a ring.

* `Ringed`, `Popped` — the invariant of all runs: the history of the ring, and the array that has left
  it and is about to be copied.
* `Room`, `Whole` — what holds in addition where no callback overwrites the array that is copied.
* `Requested`, `Served` — what holds in addition where the record is processed for accepted requests.
* `Ringed.step` — what one step does to the three.
-/

namespace AsynDriver
namespace DevEpics
namespace XXXArray

open Library
open Manager (AsynStatus)
open InputSupport (alarmOf)

variable {α : Type} {nelm ringSize : Nat} {s s' : State α nelm ringSize}
  {ring : Ring (Slot α nelm) ringSize} {e : RingBufferElement (List α)}

/-- A slot has the array of its callback, as far as there is room. -/
theorem element_ofCallback (pValue : Fin nelm → α) (value : List α) (pasynUser : InterruptUser) :
    (ofCallback pValue value pasynUser).element = .ofCallback (value.take nelm) pasynUser := by
  unfold ArrayElement.element ofCallback RingBufferElement.ofCallback
  rw [take_min_copyArray pValue value le_rfl]

/-! ## With a ring -/

/-- The array of the callback `e`, which has left the ring.  While the ring has not gone round, the slot
has what the callback stored, and `ringSize` callbacks less those since and the elements before are
still possible. -/
structure Popped (s : State α nelm ringSize) (ring : Ring (Slot α nelm) ringSize)
    (e : RingBufferElement (List α)) : Prop where
  slot : ∃ slot, s.pPvt.result.pValue = some slot ∧ (s.filled + s.since ≤ ringSize →
    (List.ofFn (ring.slots slot).pValue).take s.pPvt.result.len = e.value ∧
      ring.ahead slot + (s.filled + s.since) = ringSize)
  time : s.pPvt.result.time = e.time
  status : s.pPvt.result.status = e.status
  alarmStatus : s.pPvt.result.alarmStatus = e.alarmStatus
  alarmSeverity : s.pPvt.result.alarmSeverity = e.alarmSeverity
  filled : s.filled ≤ ringSize

/-- The invariant with a ring. -/
structure Ringed (s : State α nelm ringSize) (ring : Ring (Slot α nelm) ringSize) : Prop where
  ringBuffer : s.pPvt.ringBuffer = some ring
  history : (ring.map ArrayElement.element).History s.called s.popped
    (s.reported + s.pPvt.ringBufferOverflows)
  storing : s.storing = 0
  popped : s.phase = .copying → ∃ e, s.popped.getLast? = some e ∧ Popped s ring e
  active : s.port ≠ .none → s.phase = .idle ∧ s.record.pact = true

/-- What does not concern the ring leaves this alone. -/
structure SameRing (s s' : State α nelm ringSize) : Prop where
  ringBuffer : s'.pPvt.ringBuffer = s.pPvt.ringBuffer
  overflows : s'.pPvt.ringBufferOverflows = s.pPvt.ringBufferOverflows
  called : s'.called = s.called
  popped : s'.popped = s.popped
  reported : s'.reported = s.reported
  storing : s'.storing = s.storing

theorem Ringed.same (hringed : Ringed s ring) (hsame : SameRing s s') (hphase : s'.phase = .idle)
    (hactive : s'.port ≠ .none → s'.record.pact = true) : Ringed s' ring := by
  refine ⟨hsame.ringBuffer.trans hringed.ringBuffer, ?_, hsame.storing.trans hringed.storing, ?_, ?_⟩
  · rw [hsame.called, hsame.popped, hsame.reported, hsame.overflows]
    exact hringed.history
  · rw [hphase]
    exact fun h => nomatch h
  · exact fun hport => ⟨hphase, hactive hport⟩

theorem finish_same : SameRing s s.finish := ⟨rfl, rfl, rfl, rfl, rfl, rfl⟩

theorem initialCall_same (request : QueueRequest (List α)) : SameRing s (s.initialCall request) := by
  unfold State.initialCall
  split
  · exact finish_same
  · split
    · exact ⟨rfl, rfl, rfl, rfl, rfl, rfl⟩
    · split <;> exact ⟨rfl, rfl, rfl, rfl, rfl, rfl⟩

theorem initialCall_phase (hphase : s.phase = .idle) (request : QueueRequest (List α)) :
    (s.initialCall request).phase = .idle := by
  unfold State.initialCall
  split
  · rfl
  · split
    · exact hphase
    · split <;> rfl

/-- A read that has been queued keeps the record active. -/
theorem initialCall_active (hport : s.port = .none) (request : QueueRequest (List α)) :
    (s.initialCall request).port ≠ .none → (s.initialCall request).record.pact = true := by
  unfold State.initialCall
  split
  · exact fun h => absurd hport h
  · split
    · exact fun _ => rfl
    · split <;> exact fun h => absurd hport h

variable {slot : Fin ringSize} {rest : Ring (Slot α nelm) ringSize}

/-- `process` with an array in the ring. -/
theorem process_of_pop (hring : s.pPvt.ringBuffer = some ring) (hpop : ring.pop = some (slot, rest))
    (request : QueueRequest (List α)) :
    s.process request =
      { s with
        pPvt :=
          { s.pPvt with
            ringBufferOverflows := 0
            result := (ring.slots slot).pointTo (some slot)
            ringBuffer := some rest }
        phase := .copying
        popped := s.popped ++ [(ring.slots slot).element]
        reported := s.reported + s.pPvt.ringBufferOverflows
        filled := ring.contents.length
        since := 0 } := by
  have hslots := (Ring.contents_pop hpop).2.1
  unfold State.process DevAsynXXXArray.getRingBufferValue
  simp only [hring, hpop, if_true, DevAsynXXXArray.stored, List.length_map]
  simp only [DevAsynXXXArray.resultElement, DevAsynXXXArray.pointed, hslots, ArrayElement.element,
    ArrayElement.pointTo]

theorem process_of_empty (hring : s.pPvt.ringBuffer = some ring) (hpop : ring.pop = none)
    (request : QueueRequest (List α)) : s.process request = s.initialCall request := by
  unfold State.process DevAsynXXXArray.getRingBufferValue
  simp only [hring, hpop, Bool.false_eq_true, if_false]

theorem Ringed.process (hringed : Ringed s ring) (hphase : s.phase = .idle)
    (hport : s.port = .none) (request : QueueRequest (List α)) :
    ∃ ring', Ringed (s.process request) ring' := by
  cases hpop : ring.pop with
  | none =>
      rw [process_of_empty hringed.ringBuffer hpop]
      exact ⟨ring, hringed.same (initialCall_same request) (initialCall_phase hphase request)
        (initialCall_active hport request)⟩
  | some found =>
      obtain ⟨slot, rest⟩ := found
      obtain ⟨-, hslots, -, -⟩ := Ring.contents_pop hpop
      have hahead := Ring.ahead_pop hpop
      have hlt := ring.count_lt
      rw [process_of_pop hringed.ringBuffer hpop]
      refine ⟨rest, rfl, ?_, hringed.storing, ?_, fun h => absurd hport h⟩
      · exact hringed.history.pop (Ring.map_pop _ hpop)
      · intro _
        refine ⟨_, List.getLast?_concat, ⟨slot, rfl, ?_⟩, rfl, rfl, rfl, rfl, ?_⟩
        · intro _
          simp only [hslots, Ring.length_contents]
          exact ⟨rfl, hahead⟩
        · simp only [Ring.length_contents]
          exact hlt.le

/-- The slot for the next callback. -/
abbrev nextSlot (ring : Ring (Slot α nelm) ringSize) (value : List α) (pasynUser : InterruptUser) :
    Slot α nelm :=
  ofCallback (ring.slots ring.head).pValue value pasynUser

theorem interruptCallback_of_ring (hring : s.pPvt.ringBuffer = some ring) (value : List α)
    (pasynUser : InterruptUser) (accepted : Bool) :
    s.interruptCallback value pasynUser true accepted =
      { s with
        pPvt :=
          { s.pPvt with
            ringBuffer := some (ring.push (nextSlot ring value pasynUser)).1
            ringBufferOverflows :=
              if (ring.push (nextSlot ring value pasynUser)).2 then s.pPvt.ringBufferOverflows + 1
              else s.pPvt.ringBufferOverflows }
        requests :=
          if !(ring.push (nextSlot ring value pasynUser)).2 && accepted then s.requests + 1
          else s.requests
        called := s.called ++ [.ofCallback (value.take nelm) pasynUser]
        since := s.since + 1 } := by
  unfold State.interruptCallback
  simp only [hring, Bool.not_true, Bool.false_eq_true, if_false]

theorem Ringed.interruptCallback (hringed : Ringed s ring) (value : List α)
    (pasynUser : InterruptUser) (accepted : Bool) :
    Ringed (s.interruptCallback value pasynUser true accepted)
      (ring.push (nextSlot ring value pasynUser)).1 := by
  rw [interruptCallback_of_ring hringed.ringBuffer]
  refine ⟨rfl, ?_, hringed.storing, ?_, hringed.active⟩
  · have hhistory := hringed.history.push (nextSlot ring value pasynUser).element
    rw [Ring.map_push, element_ofCallback] at hhistory
    simp only [add_ite]
    exact hhistory
  · intro hphase
    obtain ⟨e, hlast, hpopped⟩ := hringed.popped hphase
    obtain ⟨slot, hslot, hintact⟩ := hpopped.slot
    refine ⟨e, hlast, ⟨slot, hslot, ?_⟩, hpopped.time, hpopped.status, hpopped.alarmStatus,
      hpopped.alarmSeverity, hpopped.filled⟩
    intro hroom
    have hroom : s.filled + (s.since + 1) ≤ ringSize := hroom
    obtain ⟨hdata, hahead⟩ := hintact (by omega)
    have hne : ring.ahead slot ≠ 0 := by omega
    obtain ⟨hslots, hnext⟩ := Ring.ahead_push (x := nextSlot ring value pasynUser) hne
    refine ⟨?_, ?_⟩
    · rw [hslots]
      exact hdata
    · show (ring.push (nextSlot ring value pasynUser)).1.ahead slot +
        (s.filled + (s.since + 1)) = ringSize
      omega

theorem Ringed.start (hsize : 0 < ringSize) (zero : α) (canBlock : Bool)
    (record : ArrayRecord α nelm) :
    ∃ ring, Ringed (State.start (.new zero nelm ringSize canBlock) record) ring ∧
      ring.contents = [] := by
  have hempty : ∀ ring : Ring (Slot α nelm) ringSize, ring.tail = ring.head → ring.contents = [] :=
    fun ring hsame => Ring.pop_eq_none_iff.mp (if_neg (not_not.mpr hsame))
  refine ⟨_, ⟨dif_pos hsize, .empty ?_, rfl, fun h => (nomatch h), fun h => absurd rfl h⟩,
    hempty _ rfl⟩
  rw [Ring.contents_map, hempty _ rfl, List.map_nil]

/-! ## The copy -/

/-- The record holds time and alarm of a callback and, with `asynSuccess`, its array. -/
structure Holds (pr : ArrayRecord α nelm) (e : RingBufferElement (List α)) : Prop where
  time : pr.time = e.time
  alarm : pr.alarm = alarmOf e
  value : e.status = .asynSuccess → pr.udf = false ∧ pr.nord = e.value.length ∧ pr.data = e.value

/-- The array of the record after the copy. -/
theorem data_copy (hring : s.pPvt.ringBuffer = some ring) {slot : Fin ringSize}
    (hslot : s.pPvt.result.pValue = some slot) (hstatus : s.pPvt.result.status = .asynSuccess) :
    s.copy.record.data =
      (List.ofFn (ring.slots slot).pValue).take s.pPvt.result.len := by
  have hlength : s.pPvt.result.len ≤ (List.ofFn (ring.slots slot).pValue).length := by
    rw [List.length_ofFn]
    exact s.pPvt.result.len_le
  unfold State.copy State.finish ArrayRecord.data
  simp only [hstatus, if_true, DevAsynXXXArray.pointed, hring, hslot]
  exact take_copyArray _ hlength s.pPvt.result.len_le

/-- The record takes the array of the callback, if the ring has not gone round. -/
theorem copy_of_popped (hringed : Ringed s ring) (hpopped : Popped s ring e)
    (hroom : e.status = .asynSuccess → s.filled + s.since ≤ ringSize) :
    s.copy.taken = s.taken ++ [whole e] ∧
      (s.record.alarm = (0, 0) → Holds s.copy.record e) := by
  obtain ⟨slot, hslot, hintact⟩ := hpopped.slot
  have hvalue : e.status = .asynSuccess → s.copy.record.data = e.value := by
    intro hstatus
    rw [data_copy hringed.ringBuffer hslot (hpopped.status.trans hstatus)]
    exact (hintact (hroom hstatus)).1
  have htime : s.copy.record.time = e.time := by
    rw [← hpopped.time]
    rfl
  refine ⟨?_, fun halarm => ⟨htime, ?_, ?_⟩⟩
  · have htaken : s.copy.taken = s.taken ++ [s.copy.record.took s.pPvt.result.status
        s.pPvt.result.alarmStatus s.pPvt.result.alarmSeverity] := rfl
    rw [htaken, hpopped.status, hpopped.alarmStatus, hpopped.alarmSeverity]
    unfold ArrayRecord.took whole
    rw [htime]
    by_cases hstatus : e.status = .asynSuccess
    · rw [if_pos hstatus, if_pos hstatus, hvalue hstatus]
    · rw [if_neg hstatus, if_neg hstatus]
  · have hset : s.copy.record.alarm = recGblSetSevr s.record.alarm
        (asynStatusToEpicsAlarm s.pPvt.result.status epicsAlarmRead s.pPvt.result.alarmStatus
          epicsSevInvalid s.pPvt.result.alarmSeverity) := by
      unfold State.copy State.finish
      simp only
      split <;> rfl
    rw [hset, halarm, hpopped.status, hpopped.alarmStatus, hpopped.alarmSeverity]
    rfl
  · intro hstatus
    have hresult := hpopped.status.trans hstatus
    refine ⟨?_, ?_, hvalue hstatus⟩
    · show (if s.pPvt.result.status = .asynSuccess then false else _) = false
      rw [if_pos hresult]
    · have hlength := congrArg List.length (hintact (hroom hstatus)).1
      rw [List.length_take, List.length_ofFn, Nat.min_eq_left s.pPvt.result.len_le] at hlength
      rw [← hlength]
      unfold State.copy State.finish
      simp only [hresult, if_true]

/-! ## Runs in which no callback overwrites the array that is copied -/

/-- A callback before the copy does not find the ring gone round.  With an error nothing is copied. -/
def Room (s : State α nelm ringSize) : Action α → Prop
  | .interruptCallback _ _ interruptAccept _ => interruptAccept = true → s.phase = .copying →
      s.pPvt.result.status = .asynSuccess → s.filled + s.since < ringSize
  | _ => True

/-- The record has taken what was popped. -/
structure Whole (s : State α nelm ringSize) : Prop where
  idle : s.phase = .idle → s.taken = s.popped.map whole
  copying : s.phase = .copying → s.taken = s.popped.dropLast.map whole ∧
    (s.pPvt.result.status = .asynSuccess → s.filled + s.since ≤ ringSize)

theorem initialCall_taken (request : QueueRequest (List α)) :
    (s.initialCall request).taken = s.taken := by
  unfold State.initialCall
  split
  · rfl
  · split
    · rfl
    · split <;> rfl

theorem Whole.process (hwhole : Whole s) (hringed : Ringed s ring) (hphase : s.phase = .idle)
    (request : QueueRequest (List α)) : Whole (s.process request) := by
  have htaken := hwhole.idle hphase
  cases hpop : ring.pop with
  | none =>
      rw [process_of_empty hringed.ringBuffer hpop]
      refine ⟨?_, ?_⟩
      · intro _
        rw [initialCall_taken, (initialCall_same request).popped]
        exact htaken
      · intro hcopying
        rw [initialCall_phase hphase request] at hcopying
        exact nomatch hcopying
  | some found =>
      obtain ⟨slot, rest⟩ := found
      have hlt := ring.count_lt
      rw [process_of_pop hringed.ringBuffer hpop]
      refine ⟨fun h => (nomatch h), fun _ => ⟨?_, fun _ => ?_⟩⟩
      · rw [List.dropLast_concat]
        exact htaken
      · simp only [Ring.length_contents]
        omega

theorem Whole.interruptCallback (hwhole : Whole s) (hringed : Ringed s ring) {value : List α}
    {pasynUser : InterruptUser} {accepted : Bool}
    (hroom : Room s (.interruptCallback value pasynUser true accepted)) :
    Whole (s.interruptCallback value pasynUser true accepted) := by
  rw [interruptCallback_of_ring hringed.ringBuffer]
  exact ⟨hwhole.idle, fun hcopying => ⟨(hwhole.copying hcopying).1, hroom rfl hcopying⟩⟩

theorem Whole.copy (hwhole : Whole s) (hringed : Ringed s ring) (hphase : s.phase = .copying) :
    Whole s.copy := by
  obtain ⟨e, hlast, hpopped⟩ := hringed.popped hphase
  obtain ⟨htaken, hroom⟩ := hwhole.copying hphase
  obtain ⟨hcopy, -⟩ := copy_of_popped hringed hpopped
    fun hstatus => hroom (hpopped.status.trans hstatus)
  refine ⟨fun _ => ?_, fun h => nomatch h⟩
  rw [hcopy, htaken, ← List.map_singleton, ← List.map_append,
    List.dropLast_append_getLast? e hlast]
  rfl

/-! ## Runs in which the record is processed for accepted requests only -/

/-- Every request is accepted, and there is no other processing. -/
def Requested (_ : State α nelm ringSize) : Action α → Prop
  | .interruptCallback _ _ _ accepted => accepted = true
  | .scanIoRequest accepted => accepted = true
  | .process requested _ => requested = true
  | _ => True

theorem stored_of_ring (hring : s.pPvt.ringBuffer = some ring) :
    s.pPvt.stored = ring.contents.map ArrayElement.element := by
  unfold DevAsynXXXArray.stored
  rw [hring]

/-- A request for each array in the ring.  The ring becomes empty by a `pop` only. -/
structure Served (s : State α nelm ringSize) : Prop where
  requests : s.requests = s.pPvt.stored.length
  inactive : s.record.pact = false
  port : s.port = .none
  fresh : 2 ≤ ringSize → s.pPvt.stored = [] → s.since = 0
  quiet : s.phase = .copying → s.record.alarm = (0, 0)
  held : s.phase = .idle → s.since = 0 → ∀ e, s.popped.getLast? = some e → Holds s.record e

theorem Served.interruptCallback (hserved : Served s) (hringed : Ringed s ring) (value : List α)
    (pasynUser : InterruptUser) : Served (s.interruptCallback value pasynUser true true) := by
  have hlength := Ring.length_contents_push (r := ring) (x := nextSlot ring value pasynUser)
  have hrequests := hserved.requests
  rw [stored_of_ring hringed.ringBuffer, List.length_map] at hrequests
  rw [interruptCallback_of_ring hringed.ringBuffer]
  refine ⟨?_, hserved.inactive, hserved.port, ?_, hserved.quiet, fun _ h => nomatch h⟩
  · show (if _ then s.requests + 1 else s.requests) =
      ((ring.push (nextSlot ring value pasynUser)).1.contents.map ArrayElement.element).length
    rw [List.length_map, hlength, hrequests]
    cases (ring.push (nextSlot ring value pasynUser)).2 <;> rfl
  · intro hsize hempty
    have hempty : (ring.push (nextSlot ring value pasynUser)).1.contents = [] :=
      List.map_eq_nil_iff.mp hempty
    rw [hempty] at hlength
    by_cases hoverflow : (ring.push (nextSlot ring value pasynUser)).2 = true
    · have hfull := Ring.push_overflow_iff.mp hoverflow
      rw [if_pos hoverflow, Ring.length_contents, List.length_nil] at hlength
      omega
    · rw [if_neg hoverflow, List.length_nil] at hlength
      omega

/-- A request finds an array in the ring. -/
theorem Served.process (hringed : Ringed s ring) (hrequests : s.requests + 1 = s.pPvt.stored.length)
    (hpact : s.record.pact = false) (hport : s.port = .none) (halarm : s.record.alarm = (0, 0))
    (request : QueueRequest (List α)) : Served (s.process request) := by
  rw [stored_of_ring hringed.ringBuffer, List.length_map] at hrequests
  cases hpop : ring.pop with
  | none =>
      rw [Ring.pop_eq_none_iff.mp hpop] at hrequests
      exact absurd hrequests (Nat.succ_ne_zero _)
  | some found =>
      obtain ⟨slot, rest⟩ := found
      rw [(Ring.contents_pop hpop).1, List.length_cons] at hrequests
      rw [process_of_pop hringed.ringBuffer hpop]
      refine ⟨?_, hpact, hport, fun _ _ => rfl, fun _ => halarm, fun h => nomatch h⟩
      show s.requests = (rest.contents.map ArrayElement.element).length
      rw [List.length_map]
      omega

theorem Served.copy (hserved : Served s) (hringed : Ringed s ring) (hphase : s.phase = .copying) :
    Served s.copy := by
  refine ⟨hserved.requests, rfl, hserved.port, hserved.fresh, fun h => (nomatch h), ?_⟩
  intro _ hsince e hlast
  obtain ⟨e', hlast', hpopped⟩ := hringed.popped hphase
  obtain rfl : e' = e := Option.some.inj (hlast'.symm.trans hlast)
  have hsince : s.since = 0 := hsince
  have hfilled := hpopped.filled
  exact (copy_of_popped hringed hpopped fun _ => by omega).2 (hserved.quiet hphase)

/-! ## Runs -/

/-- What one step does to the three invariants. -/
theorem Ringed.step (hringed : Ringed s ring) {a : Action α} (hstep : step s a = some s') :
    (∃ ring', Ringed s' ring') ∧ (Room s a → Whole s → Whole s') ∧
      (Requested s a → Served s → Served s') := by
  cases a with
  | interruptCallback value pasynUser interruptAccept accepted =>
      cases hstep
      cases interruptAccept with
      | false => exact ⟨⟨ring, hringed⟩, fun _ hwhole => hwhole, fun _ hserved => hserved⟩
      | true =>
          refine ⟨⟨_, hringed.interruptCallback value pasynUser accepted⟩, ?_, ?_⟩
          · exact fun hroom hwhole => hwhole.interruptCallback hringed hroom
          · rintro rfl hserved
            exact hserved.interruptCallback hringed value pasynUser
  | scanIoRequest accepted =>
      unfold XXXArray.step at hstep
      simp only [hringed.storing, if_true] at hstep
      exact nomatch hstep
  | process requested request =>
      unfold XXXArray.step at hstep
      simp only at hstep
      split at hstep
      case isTrue => exact nomatch hstep
      case isFalse hready =>
        obtain ⟨hphase, hrequests⟩ := not_or.mp hready
        have hphase := not_not.mp hphase
        split at hstep
        case isTrue hpact =>
          cases hstep
          refine ⟨⟨ring, hringed.same ⟨rfl, rfl, rfl, rfl, rfl, rfl⟩ hphase fun _ => hpact⟩, ?_, ?_⟩
          · exact fun _ hwhole => ⟨hwhole.idle, hwhole.copying⟩
          · intro _ hserved
            rw [hserved.inactive] at hpact
            exact nomatch hpact
        case isFalse hpact =>
          -- a record that is not active has nothing in the queue of the port
          have hport : s.port = .none := by
            by_contra hport
            exact hpact (hringed.active hport).2
          have hringed₁ : Ringed { s with
              requests := if requested then s.requests - 1 else s.requests
              record := { s.record with alarm := (0, 0) } } ring :=
            hringed.same ⟨rfl, rfl, rfl, rfl, rfl, rfl⟩ hphase fun h => absurd hport h
          cases hstep
          refine ⟨hringed₁.process hphase hport request, ?_, ?_⟩
          · intro _ hwhole
            have hwhole₁ : Whole { s with
                requests := if requested then s.requests - 1 else s.requests
                record := { s.record with alarm := (0, 0) } } := ⟨hwhole.idle, hwhole.copying⟩
            exact hwhole₁.process hringed₁ hphase request
          · rintro rfl hserved
            -- each stored element has its request of `scanIo`, and this processing is one of them
            have hpos : s.requests ≠ 0 := fun hzero => hrequests ⟨rfl, hzero⟩
            refine Served.process hringed₁ ?_ hserved.inactive hport rfl request
            show s.requests - 1 + 1 = s.pPvt.stored.length
            rw [← hserved.requests]
            omega
  | copy =>
      unfold XXXArray.step at hstep
      simp only at hstep
      split at hstep
      case isFalse => exact nomatch hstep
      case isTrue hphase =>
        cases hstep
        refine ⟨⟨ring, hringed.same ⟨rfl, rfl, rfl, rfl, rfl, rfl⟩ rfl ?_⟩,
          fun _ hwhole => hwhole.copy hringed hphase, fun _ hserved => hserved.copy hringed hphase⟩
        intro hport
        have hidle := (hringed.active hport).1
        rw [hphase] at hidle
        exact nomatch hidle
  | queueRequestCallback reading =>
      unfold XXXArray.step at hstep
      simp only at hstep
      split at hstep
      case isFalse => exact nomatch hstep
      case isTrue hqueued =>
        -- an element is never read while a request is queued
        obtain ⟨hphase, hpact⟩ := hringed.active (by rw [hqueued]; decide)
        cases hstep
        refine ⟨⟨ring, hringed.same ⟨rfl, rfl, rfl, rfl, rfl, rfl⟩ hphase fun _ => hpact⟩, ?_, ?_⟩
        · refine fun _ hwhole => ⟨hwhole.idle, fun hcopying => ?_⟩
          exact nomatch hphase.symm.trans hcopying
        · intro _ hserved
          rw [hserved.port] at hqueued
          exact nomatch hqueued
  | complete =>
      unfold XXXArray.step at hstep
      simp only at hstep
      split at hstep
      case isFalse => exact nomatch hstep
      case isTrue hdone =>
        have hringed₁ : Ringed { s with
            port := .none
            record := { s.record with alarm := (0, 0) } } ring :=
          hringed.same ⟨rfl, rfl, rfl, rfl, rfl, rfl⟩ hdone.1 fun h => absurd rfl h
        cases hstep
        refine ⟨hringed₁.process hdone.1 rfl _, ?_, ?_⟩
        · intro _ hwhole
          have hwhole₁ : Whole { s with
              port := .none
              record := { s.record with alarm := (0, 0) } } := ⟨hwhole.idle, hwhole.copying⟩
          exact hwhole₁.process hringed₁ hdone.1 _
        · intro _ hserved
          rw [hserved.port] at hdone
          exact nomatch hdone.2

section

variable {zero : α} {canBlock : Bool} {ok : State α nelm ringSize → Action α → Prop}

theorem Ringed.reachable (hsize : 0 < ringSize)
    (hreach : (machine zero canBlock nelm ringSize).Reachable ok s) : ∃ ring, Ringed s ring := by
  refine Machine.Reachable.invariant (I := fun s => ∃ ring, Ringed s ring) ?_ ?_ hreach
  · rintro s ⟨record, -, rfl⟩
    obtain ⟨ring, hringed, -⟩ := Ringed.start hsize zero canBlock record
    exact ⟨ring, hringed⟩
  · rintro s a s' - ⟨ring, hringed⟩ hstep
    exact (hringed.step hstep).1

theorem Whole.reachable (hsize : 0 < ringSize)
    (hreach : (machine zero canBlock nelm ringSize).Reachable Room s) : Whole s := by
  refine Machine.Reachable.invariant_of_reachable (I := Whole) ?_ ?_ hreach
  · rintro s ⟨record, -, rfl⟩
    exact ⟨fun _ => rfl, fun h => nomatch h⟩
  · intro s a s' hreach hroom hwhole hstep
    obtain ⟨ring, hringed⟩ := Ringed.reachable hsize hreach
    exact (hringed.step hstep).2.1 hroom hwhole

theorem Served.reachable (hsize : 0 < ringSize)
    (hreach : (machine zero canBlock nelm ringSize).Reachable Requested s) : Served s := by
  refine Machine.Reachable.invariant_of_reachable (I := Served) ?_ ?_ hreach
  · rintro s ⟨record, hpact, rfl⟩
    obtain ⟨ring, hringed, hempty⟩ := Ringed.start hsize zero canBlock record
    refine ⟨?_, hpact, rfl, fun _ _ => rfl, fun h => (nomatch h), fun _ _ _ h => nomatch h⟩
    rw [stored_of_ring hringed.ringBuffer, hempty]
    rfl
  · intro s a s' hreach hrequested hserved hstep
    obtain ⟨ring, hringed⟩ := Ringed.reachable hsize hreach
    exact (hringed.step hstep).2.2 hrequested hserved

end

end XXXArray
end DevEpics
end AsynDriver
