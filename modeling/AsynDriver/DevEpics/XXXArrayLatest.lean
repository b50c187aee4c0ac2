import AsynDriver.DevEpics.XXXArrayRuns

/-!
# The arrays that a record takes

The runs of an array record with `I/O Intr` and any `asyn:FIFO`.

* `Direct`, `Latest`, `Counted` — the invariants without a ring.
* `holds_of_served`, `taken_sublist` — with or without a ring.
* `most_recent_array` — what the record holds in the end, and which arrays it has taken before.
* `taken_whole` — no array that is taken is a mixture of two callbacks.

A callback overwrites a slot that has been popped when the ring has gone round once, and a ring with one
slot is never read.
-/

namespace AsynDriver
namespace DevEpics
namespace XXXArray

open Library
open Manager (AsynStatus)
open InputSupport (alarmOf)

variable {α : Type} {nelm ringSize : Nat} {s s' : State α nelm ringSize}
  {ring : Ring (Slot α nelm) ringSize} {e : RingBufferElement (List α)}

/-! ## Without a ring -/

/-- Every callback is in the record at once. -/
structure Direct (s : State α nelm ringSize) : Prop where
  ringBuffer : s.pPvt.ringBuffer = none
  phase : s.phase = .idle
  taken : s.taken = s.called.map whole

/-- What the record and `result_` have of the most recent callback. -/
structure Latest (s : State α nelm ringSize) (e : RingBufferElement (List α)) : Prop where
  time : s.record.time = e.time
  value : e.status = .asynSuccess → s.pPvt.result.status = .asynSuccess ∧
    s.record.nord = e.value.length ∧ s.record.data = e.value
  alarm : recGblSetSevr (0, 0) (asynStatusToEpicsAlarm s.pPvt.result.status epicsAlarmRead
    s.pPvt.result.alarmStatus epicsSevInvalid s.pPvt.result.alarmSeverity) = alarmOf e
  processed : s.pPvt.gotValue = 0 →
    s.record.alarm = alarmOf e ∧ (e.status = .asynSuccess → s.record.udf = false)

/-- `gotValue` counts the callbacks whose processing is to come. -/
structure Counted (s : State α nelm ringSize) : Prop where
  gotValue : s.pPvt.gotValue = s.requests + s.storing
  inactive : s.record.pact = false
  port : s.port = .none
  latest : ∀ e, s.called.getLast? = some e → Latest s e

theorem Direct.interruptCallback (hdirect : Direct s) (value : List α) (pasynUser : InterruptUser)
    (accepted : Bool) : Direct (s.interruptCallback value pasynUser true accepted) := by
  unfold State.interruptCallback
  simp only [hdirect.ringBuffer, Bool.not_true, Bool.false_eq_true, if_false]
  refine ⟨rfl, hdirect.phase, ?_⟩
  simp only
  rw [List.map_append, ← hdirect.taken]
  congr 2
  unfold ArrayRecord.took ArrayRecord.data whole
  by_cases hstatus : pasynUser.auxStatus = .asynSuccess
  · simp only [RingBufferElement.ofCallback, hstatus, if_true,
      take_min_copyArray _ value le_rfl]
  · simp only [RingBufferElement.ofCallback, hstatus, if_false]

theorem Counted.interruptCallback (hcounted : Counted s) (hdirect : Direct s) (value : List α)
    (pasynUser : InterruptUser) (accepted : Bool) :
    Counted (s.interruptCallback value pasynUser true accepted) := by
  unfold State.interruptCallback
  simp only [hdirect.ringBuffer, Bool.not_true, Bool.false_eq_true, if_false]
  refine ⟨?_, ?_, hcounted.port, ?_⟩
  · show s.pPvt.gotValue + 1 = s.requests + (s.storing + 1)
    rw [hcounted.gotValue, Nat.add_assoc]
  · simp only
    split <;> exact hcounted.inactive
  · intro e hlast
    rw [List.getLast?_concat] at hlast
    obtain rfl := Option.some.inj hlast
    refine ⟨rfl, ?_, rfl, fun h => absurd h (Nat.succ_ne_zero _)⟩
    intro hstatus
    have hstatus : pasynUser.auxStatus = .asynSuccess := hstatus
    simp only [hstatus, if_true]
    refine ⟨trivial, ?_, take_min_copyArray _ value le_rfl⟩
    show min value.length nelm = (value.take nelm).length
    rw [List.length_take, Nat.min_comm]

theorem process_of_none (hring : s.pPvt.ringBuffer = none) (request : QueueRequest (List α)) :
    s.process request =
      if s.pPvt.gotValue ≠ 0 then
        { s with pPvt := { s.pPvt with gotValue := s.pPvt.gotValue - 1 } }.finish
      else s.initialCall request := by
  unfold State.process
  rw [hring]

theorem Direct.process (hdirect : Direct s) (request : QueueRequest (List α)) :
    Direct (s.process request) := by
  rw [process_of_none hdirect.ringBuffer]
  split
  · exact ⟨hdirect.ringBuffer, rfl, hdirect.taken⟩
  · refine ⟨(initialCall_same request).ringBuffer.trans hdirect.ringBuffer,
      initialCall_phase hdirect.phase request, ?_⟩
    rw [initialCall_taken, (initialCall_same request).called]
    exact hdirect.taken

/-- The alarm of a processing is that of the most recent callback, also the next time. -/
theorem Latest.process (hlatest : Latest s e) (halarm : s.record.alarm = (0, 0)) :
    Latest { s with pPvt := { s.pPvt with gotValue := s.pPvt.gotValue - 1 } }.finish e := by
  refine ⟨hlatest.time, fun hstatus => ⟨rfl, (hlatest.value hstatus).2⟩, hlatest.alarm, ?_⟩
  intro _
  refine ⟨?_, ?_⟩
  · show recGblSetSevr s.record.alarm _ = _
    rw [halarm]
    exact hlatest.alarm
  · intro hstatus
    show (if s.pPvt.result.status = .asynSuccess then false else s.record.udf) = false
    rw [if_pos (hlatest.value hstatus).1]

theorem Counted.process (hdirect : Direct s) (hgot : s.pPvt.gotValue = s.requests + 1 + s.storing)
    (hport : s.port = .none) (halarm : s.record.alarm = (0, 0))
    (hlatest : ∀ e, s.called.getLast? = some e → Latest s e) (request : QueueRequest (List α)) :
    Counted (s.process request) := by
  rw [process_of_none hdirect.ringBuffer, if_pos (by omega)]
  refine ⟨?_, rfl, hport, fun e hlast => (hlatest e hlast).process halarm⟩
  show s.pPvt.gotValue - 1 = s.requests + s.storing
  omega

/-- What one step does without a ring. -/
theorem Direct.step (hdirect : Direct s) {a : Action α} (hstep : step s a = some s') :
    Direct s' ∧ (Requested s a → Counted s → Counted s') := by
  have hsame : ∀ requests : Nat, Direct { s with
      requests := requests
      record := { s.record with alarm := (0, 0) } } := fun _ =>
    ⟨hdirect.ringBuffer, hdirect.phase, hdirect.taken⟩
  cases a with
  | interruptCallback value pasynUser interruptAccept accepted =>
      cases hstep
      cases interruptAccept with
      | false => exact ⟨hdirect, fun _ hcounted => hcounted⟩
      | true =>
          exact ⟨hdirect.interruptCallback value pasynUser accepted,
            fun _ hcounted => hcounted.interruptCallback hdirect value pasynUser accepted⟩
  | scanIoRequest accepted =>
      unfold XXXArray.step at hstep
      simp only at hstep
      split at hstep
      case isTrue => exact nomatch hstep
      case isFalse hstoring =>
        cases hstep
        refine ⟨⟨hdirect.ringBuffer, hdirect.phase, hdirect.taken⟩, ?_⟩
        rintro rfl hcounted
        refine ⟨?_, hcounted.inactive, hcounted.port, fun e hlast => ?_⟩
        · show s.pPvt.gotValue = s.requests + 1 + (s.storing - 1)
          rw [hcounted.gotValue]
          omega
        · obtain ⟨htime, hvalue, halarm, hprocessed⟩ := hcounted.latest e hlast
          exact ⟨htime, hvalue, halarm, hprocessed⟩
  | process requested request =>
      unfold XXXArray.step at hstep
      simp only at hstep
      split at hstep
      case isTrue => exact nomatch hstep
      case isFalse hready =>
        obtain ⟨-, hrequests⟩ := not_or.mp hready
        split at hstep
        case isTrue hpact =>
          cases hstep
          refine ⟨⟨hdirect.ringBuffer, hdirect.phase, hdirect.taken⟩, ?_⟩
          intro _ hcounted
          rw [hcounted.inactive] at hpact
          exact nomatch hpact
        case isFalse =>
          cases hstep
          refine ⟨(hsame _).process request, ?_⟩
          rintro rfl hcounted
          have hpos : s.requests ≠ 0 := fun hzero => hrequests ⟨rfl, hzero⟩
          refine Counted.process (hsame _) ?_ hcounted.port rfl (fun e hlast => ?_) request
          · show s.pPvt.gotValue = s.requests - 1 + 1 + s.storing
            rw [hcounted.gotValue]
            omega
          · obtain ⟨htime, hvalue, halarm, -⟩ := hcounted.latest e hlast
            refine ⟨htime, hvalue, halarm, fun hzero => ?_⟩
            have hzero : s.pPvt.gotValue = 0 := hzero
            rw [hcounted.gotValue] at hzero
            omega
  | copy =>
      unfold XXXArray.step at hstep
      simp only [hdirect.phase, reduceCtorEq, if_false] at hstep
  | queueRequestCallback reading =>
      unfold XXXArray.step at hstep
      simp only at hstep
      split at hstep
      case isFalse => exact nomatch hstep
      case isTrue hqueued =>
        cases hstep
        refine ⟨⟨hdirect.ringBuffer, hdirect.phase, hdirect.taken⟩, ?_⟩
        intro _ hcounted
        rw [hcounted.port] at hqueued
        exact nomatch hqueued
  | complete =>
      unfold XXXArray.step at hstep
      simp only at hstep
      split at hstep
      case isFalse => exact nomatch hstep
      case isTrue hdone =>
        have hsame₁ : Direct { s with port := .none, record := { s.record with alarm := (0, 0) } } :=
          ⟨hdirect.ringBuffer, hdirect.phase, hdirect.taken⟩
        cases hstep
        refine ⟨hsame₁.process _, ?_⟩
        intro _ hcounted
        rw [hcounted.port] at hdone
        exact nomatch hdone.2

section

variable {zero : α} {canBlock : Bool} {ok : State α nelm ringSize → Action α → Prop}

theorem Direct.start (zero : α) (canBlock : Bool) (record : ArrayRecord α nelm) :
    Direct (State.start (.new zero nelm 0 canBlock) record) :=
  ⟨rfl, rfl, rfl⟩

theorem Direct.reachable {s : State α nelm 0} {ok : State α nelm 0 → Action α → Prop}
    (hreach : (machine zero canBlock nelm 0).Reachable ok s) : Direct s := by
  refine Machine.Reachable.invariant (I := Direct) ?_ ?_ hreach
  · rintro s ⟨record, -, rfl⟩
    exact Direct.start zero canBlock record
  · intro s a s' _ hdirect hstep
    exact (hdirect.step hstep).1

theorem Counted.reachable {s : State α nelm 0}
    (hreach : (machine zero canBlock nelm 0).Reachable Requested s) : Counted s := by
  refine Machine.Reachable.invariant_of_reachable (I := Counted) ?_ ?_ hreach
  · rintro s ⟨record, hpact, rfl⟩
    exact ⟨rfl, hpact, rfl, fun _ h => nomatch h⟩
  · intro s a s' hreach hrequested hcounted hstep
    exact ((Direct.reachable hreach).step hstep).2 hrequested hcounted

/-! ## Any size -/

/-- When every request has been served the record has the most recent callback. -/
theorem holds_of_served (hsize : ringSize ≠ 1)
    (hreach : (machine zero canBlock nelm ringSize).Reachable Requested s)
    (hphase : s.phase = .idle) (hstoring : s.storing = 0) (hrequests : s.requests = 0)
    (he : s.called.getLast? = some e) : s.pPvt.stored = [] ∧ Holds s.record e := by
  rcases Nat.eq_zero_or_pos ringSize with rfl | hpos
  · have hdirect := Direct.reachable hreach
    have hcounted := Counted.reachable hreach
    obtain ⟨htime, hvalue, -, hprocessed⟩ := hcounted.latest e he
    obtain ⟨halarm, hudf⟩ := hprocessed (by rw [hcounted.gotValue, hrequests, hstoring])
    refine ⟨?_, htime, halarm, fun hstatus => ⟨hudf hstatus, (hvalue hstatus).2⟩⟩
    unfold DevAsynXXXArray.stored
    rw [hdirect.ringBuffer]
  · obtain ⟨ring, hringed⟩ := Ringed.reachable hpos hreach
    have hserved := Served.reachable hpos hreach
    have hstored : s.pPvt.stored = [] := by
      rw [← List.length_eq_zero_iff, ← hserved.requests, hrequests]
    have hempty : (ring.map ArrayElement.element).contents = [] := by
      rw [Ring.contents_map, ← stored_of_ring hringed.ringBuffer, hstored]
    have hnewest := hringed.history.newest (by omega) hempty
    exact ⟨hstored, hserved.held hphase (hserved.fresh (by omega) hstored) e (hnewest.trans he)⟩

/-- What the record has taken are callbacks, in their order. -/
theorem taken_sublist (hreach : (machine zero canBlock nelm ringSize).Reachable Room s) :
    s.taken.Sublist (s.called.map whole) := by
  rcases Nat.eq_zero_or_pos ringSize with rfl | hpos
  · rw [(Direct.reachable hreach).taken]
  · obtain ⟨ring, hringed⟩ := Ringed.reachable hpos hreach
    have hwhole := Whole.reachable hpos hreach
    obtain ⟨gone, hcalled, hpopped, -⟩ := hringed.history.order
    have hsublist : s.popped.Sublist s.called := by
      rw [hcalled]
      exact hpopped.trans (List.sublist_append_left _ _)
    cases hphase : s.phase with
    | idle =>
        rw [hwhole.idle hphase]
        exact hsublist.map whole
    | copying =>
        rw [(hwhole.copying hphase).1]
        exact ((List.dropLast_sublist _).trans hsublist).map whole

/-- When every request has been served, the ring is empty and the record has time and alarm of the most
recent callback and, with `asynSuccess`, its array.  Where no callback overwrites an array that is
being copied, the record has taken callbacks in their order. -/
theorem most_recent_array (s : State α nelm ringSize) (zero : α) (canBlock : Bool) :
    (ringSize ≠ 1 → (machine zero canBlock nelm ringSize).Reachable Requested s →
      s.phase = .idle → s.storing = 0 → s.requests = 0 →
        ∀ e, s.called.getLast? = some e → s.pPvt.stored = [] ∧ Holds s.record e) ∧
    ((machine zero canBlock nelm ringSize).Reachable Room s →
      s.taken.Sublist (s.called.map whole)) :=
  ⟨fun hsize hreach hphase hstoring hrequests _ he =>
    holds_of_served hsize hreach hphase hstoring hrequests he, taken_sublist⟩

end

/-! ## A record with two elements -/

instance (s : State α nelm ringSize) (a : Action α) : Decidable (Requested s a) :=
  match a with
  | .interruptCallback _ _ _ accepted => inferInstanceAs (Decidable (accepted = true))
  | .scanIoRequest accepted => inferInstanceAs (Decidable (accepted = true))
  | .process requested _ => inferInstanceAs (Decidable (requested = true))
  | .copy => .isTrue trivial
  | .queueRequestCallback _ => .isTrue trivial
  | .complete => .isTrue trivial

instance (s : State α nelm ringSize) (a : Action α) : Decidable (Room s a) :=
  match a with
  | .interruptCallback _ _ interruptAccept _ =>
      inferInstanceAs (Decidable (interruptAccept = true → s.phase = .copying →
        s.pPvt.result.status = .asynSuccess → s.filled + s.since < ringSize))
  | .scanIoRequest _ => .isTrue trivial
  | .process _ _ => .isTrue trivial
  | .copy => .isTrue trivial
  | .queueRequestCallback _ => .isTrue trivial
  | .complete => .isTrue trivial

/-- Both guards. -/
def RequestedRoom (s : State α nelm ringSize) (a : Action α) : Prop := Requested s a ∧ Room s a

theorem requestedRoom_of_check (s : State α nelm ringSize) (a : Action α)
    (hcheck : decide (Requested s a ∧ Room s a) = true) : RequestedRoom s a :=
  show Requested s a ∧ Room s a from of_decide_eq_true hcheck

def waveformStart (ringSize : Nat) : State Nat 2 ringSize :=
  .start (.new 0 2 ringSize false) ⟨fun _ => 0, 0, 0, (0, 0), true, false⟩

def callbackArray (value : List Nat) (time : Nat) (status : AsynStatus) : Action Nat :=
  .interruptCallback value ⟨time, status, 0, 0⟩ true true

def processArray : Action Nat := .process true ⟨.asynSuccess, ⟨[], 0, .asynSuccess, 0, 0⟩⟩

/-- A callback before the copy of the array before it. -/
def callbackDuringCopy : List (Action Nat) :=
  [callbackArray [5, 5, 5] 1 .asynSuccess, processArray, callbackArray [6, 6] 2 .asynSuccess]

theorem most_recent_array_fifo :
    ∃ s : State Nat 2 2, s.called.getLast? = some ⟨[6, 6], 2, .asynSuccess, 0, 0⟩ ∧
      s.pPvt.stored = [] ∧ Holds s.record ⟨[6, 6], 2, .asynSuccess, 0, 0⟩ ∧
        s.taken.Sublist (s.called.map whole) := by
  obtain ⟨s, hreach, hvalues⟩ := Machine.exists_reachable_of_execGuarded
    (M := machine 0 false 2 2)
    (fun s => (s.called.getLast?, s.phase, s.storing, s.requests)) requestedRoom_of_check
    (callbackDuringCopy ++ [.copy, processArray, .copy]) (s := waveformStart 2) ⟨_, rfl, rfl⟩
    (show _ = some (some ⟨[6, 6], 2, .asynSuccess, 0, 0⟩, .idle, 0, 0) by decide)
  obtain ⟨hlast, hvalues⟩ := Prod.mk.inj hvalues
  obtain ⟨hphase, hvalues⟩ := Prod.mk.inj hvalues
  obtain ⟨hstoring, hrequests⟩ := Prod.mk.inj hvalues
  obtain ⟨hrecent, hsublist⟩ := most_recent_array s 0 false
  obtain ⟨hstored, hholds⟩ := hrecent (by decide) (hreach.mono fun _ _ h => h.1) hphase hstoring
    hrequests _ hlast
  exact ⟨s, hlast, hstored, hholds, hsublist (hreach.mono fun _ _ h => h.2)⟩

/-- Without a ring a callback with an error leaves the record its array; and a ring with one slot drops
every callback without a request. -/
theorem most_recent_array_fails :
    (∃ s : State Nat 2 0, (machine 0 false 2 0).Reachable RequestedRoom s ∧
      (s.phase, s.storing + s.requests, s.called.getLast?, s.record.data) =
        (.idle, 0, some ⟨[6, 6], 2, .asynTimeout, 0, 0⟩, [5, 5])) ∧
    ∃ s : State Nat 2 1, (machine 0 false 2 1).Reachable RequestedRoom s ∧
      (s.phase, s.storing + s.requests, s.called.getLast?, s.record.data) =
        (.idle, 0, some ⟨[5, 5], 1, .asynSuccess, 0, 0⟩, []) := by
  refine ⟨?_, ?_⟩
  · exact Machine.exists_reachable_of_execGuarded (M := machine 0 false 2 0)
      (fun s => (s.phase, s.storing + s.requests, s.called.getLast?, s.record.data))
      requestedRoom_of_check
      [callbackArray [5, 5, 5] 1 .asynSuccess, .scanIoRequest true, processArray,
        callbackArray [6, 6] 2 .asynTimeout, .scanIoRequest true, processArray]
      (s := waveformStart 0) ⟨_, rfl, rfl⟩ (by decide)
  · exact Machine.exists_reachable_of_execGuarded (M := machine 0 false 2 1)
      (fun s => (s.phase, s.storing + s.requests, s.called.getLast?, s.record.data))
      requestedRoom_of_check [callbackArray [5, 5, 5] 1 .asynSuccess]
      (s := waveformStart 1) ⟨_, rfl, rfl⟩ (by decide)

/-! ## One callback for each array -/

/-- Each array that the record has taken is that of one callback.  When the ring has gone round, the
next callback writes to the array that is being copied. -/
theorem taken_whole {zero : α} {canBlock : Bool}
    (hreach : (machine zero canBlock nelm ringSize).Reachable Room s) :
    (∀ t ∈ s.taken, ∃ e ∈ s.called, t = whole e) ∧
    (s.phase = .copying → s.filled + s.since = ringSize →
      ∀ (value : List α) (pasynUser : InterruptUser) (accepted : Bool),
        (s.interruptCallback value pasynUser true accepted).pPvt.pointed.take
          (min value.length nelm) = value.take nelm) := by
  refine ⟨?_, ?_⟩
  · intro t ht
    obtain ⟨e, he, hwhole⟩ := List.mem_map.mp ((taken_sublist hreach).subset ht)
    exact ⟨e, he, hwhole.symm⟩
  · intro hphase hround value pasynUser accepted
    have hpos : 0 < ringSize := by
      by_contra hzero
      obtain rfl : ringSize = 0 := by omega
      rw [(Direct.reachable hreach).phase] at hphase
      exact nomatch hphase
    obtain ⟨ring, hringed⟩ := Ringed.reachable hpos hreach
    obtain ⟨e, -, hpopped⟩ := hringed.popped hphase
    obtain ⟨slot, hslot, hintact⟩ := hpopped.slot
    have hahead : ring.ahead slot = 0 := by
      have hsum := (hintact (by omega)).2
      omega
    rw [interruptCallback_of_ring hringed.ringBuffer]
    simp only [DevAsynXXXArray.pointed, hslot, Ring.slots_push_of_ahead hahead]
    exact take_min_copyArray _ value le_rfl

theorem taken_whole_run :
    ∃ s : State Nat 2 2, s.taken ≠ [] ∧ (∀ t ∈ s.taken, ∃ e ∈ s.called, t = whole e) ∧
      (s.phase = .copying → s.filled + s.since = 2 →
        ∀ (value : List Nat) (pasynUser : InterruptUser) (accepted : Bool),
          (s.interruptCallback value pasynUser true accepted).pPvt.pointed.take
            (min value.length 2) = value.take 2) := by
  obtain ⟨s, hreach, hvalue⟩ := Machine.exists_reachable_of_execGuarded
    (M := machine 0 false 2 2) (fun s => s.taken.length) requestedRoom_of_check
    (callbackDuringCopy ++ [.copy]) (s := waveformStart 2) ⟨_, rfl, rfl⟩
    (show _ = some 1 by decide)
  refine ⟨s, ?_, taken_whole (hreach.mono fun _ _ h => h.2)⟩
  intro hnil
  rw [hnil] at hvalue
  exact nomatch hvalue

/-- Two callbacks before the copy, in a ring with two slots: the second of them writes to the array
that is being copied. -/
theorem taken_mixture :
    ∃ s : State Nat 2 2, (machine 0 false 2 2).Reachable Machine.Unguarded s ∧
      ¬∀ t ∈ s.taken, ∃ e ∈ s.called, t = whole e := by
  obtain ⟨s, hreach, hvalues⟩ := Machine.exists_reachable_of_exec (M := machine 0 false 2 2)
    (fun s => (s.taken, s.called.map whole))
    (callbackDuringCopy ++ [callbackArray [7] 3 .asynSuccess, .copy]) (s := waveformStart 2)
    ⟨_, rfl, rfl⟩
    (show _ = some ([⟨some [7, 5], 1, .asynSuccess, 0, 0⟩],
      [⟨some [5, 5], 1, .asynSuccess, 0, 0⟩, ⟨some [6, 6], 2, .asynSuccess, 0, 0⟩,
        ⟨some [7], 3, .asynSuccess, 0, 0⟩]) by decide)
  obtain ⟨htaken, hcalled⟩ := Prod.mk.inj hvalues
  refine ⟨s, hreach, fun hall => ?_⟩
  obtain ⟨e, he, hwhole⟩ := hall _ (by rw [htaken]; exact List.mem_singleton_self _)
  have hmem : whole e ∈ s.called.map whole := List.mem_map_of_mem he
  rw [hcalled, ← hwhole] at hmem
  revert hmem
  decide

end XXXArray
end DevEpics
end AsynDriver
