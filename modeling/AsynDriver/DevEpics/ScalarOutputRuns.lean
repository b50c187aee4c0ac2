import AsynDriver.DevEpics.ScalarOutput

/-!
# Who takes from the ring and who writes

The runs of an output record with `asyn:READBACK`.

* `Kept` — the invariant, with the number of values in the ring for which no request is left: one while
  `outputCallbackCallback` runs, and none otherwise.
* `getCallbackValue_kept`, `finish_kept`, `process_callback`, `process_other` — the sections of the code.
* `Balanced` — the invariant of the states between the steps.
* `read_back` — the runs in which no conversion of `processAo` fails.

When `cvtRawToEngBpt` fails `processAo` returns early, so `outputCallbackCallback` takes a second value
for one request.
-/

namespace AsynDriver
namespace DevEpics
namespace ReadBack

open Library
open Manager (AsynStatus)

variable {α β : Type} {ringSize : Nat} {sup : OutputSupport α β} {s s' : State α β ringSize}
  {k : Nat}

/-- The ring has `k` values more than there are requests. -/
structure Kept (s : State α β ringSize) (k : Nat) : Prop where
  history : s.pPvt.ring.History s.called (s.taken.map Prod.snd)
    (s.reported + s.pPvt.ringBufferOverflows)
  balance : s.pPvt.ring.contents.length =
    s.outstanding + s.pPvt.numDeferredOutputCallbacks + k
  phase : s.phase ≠ .unlocked .outputCallback
  port : s.port ≠ .queued .outputCallback
  takenBy : ∀ t ∈ s.taken, t.1 = .outputCallback
  writtenBy : ∀ w ∈ s.writes, w.1 = .other

/-! ## The sections of the code -/

/-- With a value in the ring, `getCallbackValue` takes the oldest one. -/
theorem getCallbackValue_kept (hkept : Kept s (k + 1)) :
    ∃ s', s.getCallbackValue .outputCallback = (true, s') ∧ Kept s' k ∧
      s.pPvt.ring.contents.head? = some s'.pPvt.result ∧ s'.record = s.record ∧
        s'.phase = s.phase ∧
          s'.pPvt.newOutputCallbackValue = s.pPvt.newOutputCallbackValue := by
  have hbalance := hkept.balance
  unfold State.getCallbackValue DevPvt.getCallbackValue
  cases hpop : s.pPvt.ring.pop with
  | none =>
      rw [Ring.pop_eq_none_iff.mp hpop] at hbalance
      exact absurd hbalance (by simp)
  | some found =>
      obtain ⟨slot, ring⟩ := found
      obtain ⟨hcontents, -, -, -⟩ := Ring.contents_pop hpop
      have hlength := congrArg List.length hcontents
      rw [List.length_cons] at hlength
      refine ⟨_, rfl, ⟨?_, ?_, hkept.phase, hkept.port, ?_, hkept.writtenBy⟩, ?_, rfl, rfl, rfl⟩
      · have hhistory := hkept.history.pop hpop
        simp only [List.map_append, List.map_cons, List.map_nil, Nat.add_zero]
        exact hhistory
      · show ring.contents.length = s.outstanding + s.pPvt.numDeferredOutputCallbacks + k
        omega
      · intro t ht
        rcases List.mem_append.mp ht with hold | hnew
        · exact hkept.takenBy t hold
        · rw [List.mem_singleton.mp hnew]
      · rw [hcontents]
        rfl

/-- A deferred callback becomes a request. -/
theorem finish_kept (hkept : Kept s k) :
    Kept s.finish k ∧ s.finish.pPvt.newOutputCallbackValue = false ∧ s.finish.phase = .idle := by
  have hbalance := hkept.balance
  refine ⟨⟨hkept.history, ?_, ?_, hkept.port, hkept.takenBy, hkept.writtenBy⟩, rfl, rfl⟩
  · unfold State.finish
    simp only
    split <;> omega
  · show Phase.idle ≠ .unlocked .outputCallback
    decide

/-- A change of the record, or of the result, does not matter here. -/
theorem Kept.frame (hkept : Kept s k) (record : OutputRecord β) (result : RingBufferElement α)
    (active : Bool) (status : AsynStatus) {phase : Phase} {port : PortRequest}
    (hphase : phase ≠ .unlocked .outputCallback) (hport : port ≠ .queued .outputCallback) :
    Kept { s with
      record := record
      phase := phase
      port := port
      pPvt := { s.pPvt with
        result := result
        asyncProcessingActive := active
        previousQueueRequestStatus := status } } k :=
  ⟨hkept.history, hkept.balance, hphase, hport, hkept.takenBy, hkept.writtenBy⟩

/-- The value that no request is left for is dropped. -/
theorem dropValue_kept (hkept : Kept s 1) (hflag : s.pPvt.newOutputCallbackValue = true) :
    Kept s.dropValue 0 ∧ s.dropValue.pPvt.newOutputCallbackValue = false := by
  obtain ⟨s', hgot, hkept', -, -, -, -⟩ := getCallbackValue_kept hkept
  unfold State.dropValue
  rw [if_pos hflag]
  simp only [hgot]
  exact ⟨⟨hkept'.history, hkept'.balance, hkept'.phase, hkept'.port, hkept'.takenBy,
    hkept'.writtenBy⟩, trivial⟩

/-- A processing that `outputCallbackCallback` has started takes the value and does not write. -/
theorem process_callback (hkept : Kept s 1) (hflag : s.pPvt.newOutputCallbackValue = true)
    (hconvert : ∀ e, s.pPvt.ring.contents.head? = some e → e.status = .asynSuccess →
      (sup.store e.value s.record.value).2 = true) :
    Kept (s.process sup .outputCallback) 0 ∧
      (s.process sup .outputCallback).pPvt.newOutputCallbackValue = false ∧
        (s.process sup .outputCallback).phase = .idle := by
  obtain ⟨s', hgot, hkept', hhead, hrecord, -, -⟩ := getCallbackValue_kept hkept
  unfold State.process
  simp only [hflag, if_true, hgot]
  by_cases hstatus : s'.pPvt.result.status = .asynSuccess
  · have hstored : (sup.store s'.pPvt.result.value s'.record.value).2 = true := by
      rw [hrecord]
      exact hconvert _ hhead hstatus
    rw [if_pos hstatus, if_pos hstored]
    exact finish_kept (hkept'.frame _ s'.pPvt.result s'.pPvt.asyncProcessingActive
      s'.pPvt.previousQueueRequestStatus hkept'.phase hkept'.port)
  · rw [if_neg hstatus]
    exact finish_kept hkept'

/-- Any other processing leaves the ring alone. -/
theorem process_other (hkept : Kept s 0) (hflag : s.pPvt.newOutputCallbackValue = false) :
    Kept (s.process sup .other) 0 ∧
      (s.process sup .other).pPvt.newOutputCallbackValue = false := by
  unfold State.process
  simp only [hflag, Bool.false_eq_true, if_false]
  cases s.record.pact with
  | true =>
      simp only [Bool.not_true, Bool.false_eq_true, if_false]
      exact ⟨(finish_kept hkept).1, (finish_kept hkept).2.1⟩
  | false =>
      simp only [Bool.not_false, if_true]
      exact ⟨⟨hkept.history, hkept.balance, by simp, hkept.port, hkept.takenBy,
        hkept.writtenBy⟩, trivial⟩

theorem writeValue_kept (hkept : Kept s 0) (outcome : WriteOutcome) :
    Kept (s.writeValue .other outcome) 0 := by
  refine ⟨hkept.history, hkept.balance, hkept.phase, hkept.port, hkept.takenBy, ?_⟩
  intro w hw
  rcases List.mem_append.mp hw with hold | hnew
  · exact hkept.writtenBy w hold
  · rw [List.mem_singleton.mp hnew]

/-- A callback value is added with its request, or takes the place of the oldest. -/
theorem interruptCallbackOutput_kept (hkept : Kept s 0) (value : α) (pasynUser : InterruptUser)
    (interruptAccept : Bool) :
    Kept (interruptCallbackOutput sup s value pasynUser interruptAccept) 0 := by
  unfold interruptCallbackOutput
  cases interruptAccept with
  | false => exact hkept
  | true =>
      generalize RingBufferElement.ofCallback (sup.convert value) pasynUser = e
      have hhistory := hkept.history.push e
      have hlength := Ring.length_contents_push (r := s.pPvt.ring) (x := e)
      have hbalance := hkept.balance
      refine ⟨?_, ?_, hkept.phase, hkept.port, hkept.takenBy, hkept.writtenBy⟩
      · show (s.pPvt.ring.push e).1.History (s.called ++ [e]) (s.taken.map Prod.snd)
          (s.reported + if (s.pPvt.ring.push e).2 then s.pPvt.ringBufferOverflows + 1
            else s.pPvt.ringBufferOverflows)
        rw [add_ite]
        exact hhistory
      · simp only [Bool.not_true, Bool.false_eq_true, if_false, DevPvt.pushCallbackValue]
        -- An overflow makes no request; otherwise it is made at once, or deferred.
        by_cases hoverflow : (s.pPvt.ring.push e).2 = true
        · rw [if_pos hoverflow] at hlength
          simp only [hoverflow, Bool.not_true, Bool.false_and, Bool.false_eq_true, if_false]
          omega
        · rw [if_neg hoverflow] at hlength
          simp only [hoverflow, Bool.not_false, Bool.true_and]
          by_cases hactive : s.pPvt.asyncProcessingActive = true
          · simp only [hactive, if_true, Bool.not_true, Bool.false_eq_true, if_false]
            omega
          · simp only [hactive, Bool.false_eq_true, if_false, Bool.not_false, if_true]
            omega

/-! ## Runs -/

/-- The invariant between the steps. -/
structure Balanced (s : State α β ringSize) : Prop where
  kept : Kept s 0
  flag : s.pPvt.newOutputCallbackValue = false

/-- The conversion of the value that `outputCallbackCallback` takes does not fail. -/
def Converts (sup : OutputSupport α β) (s : State α β ringSize) : Action α β → Prop
  | .outputCallbackCallback _ => ∀ e, s.pPvt.ring.contents.head? = some e →
      e.status = .asynSuccess → (sup.store e.value s.record.value).2 = true
  | _ => True

theorem Balanced.start (zero : α) (canBlock : Bool) (record : OutputRecord β) :
    Balanced (State.start (.new zero ringSize canBlock) record) := by
  have hempty : (DevPvt.new zero ringSize canBlock).ring.contents = [] :=
    Ring.pop_eq_none_iff.mp rfl
  refine ⟨⟨.empty hempty, ?_, by simp [State.start], by simp [State.start], ?_, ?_⟩, rfl⟩
  · show (DevPvt.new zero ringSize canBlock).ring.contents.length = 0
    rw [hempty]
    rfl
  · exact fun _ hmem => absurd hmem List.not_mem_nil
  · exact fun _ hmem => absurd hmem List.not_mem_nil

theorem Balanced.outputCallbackCallback (hbalanced : Balanced s) (enabled : Bool)
    (hconvert : Converts sup s (.outputCallbackCallback enabled))
    (hstep : step sup s (.outputCallbackCallback enabled) = some s') : Balanced s' := by
  unfold step at hstep
  simp only at hstep
  split at hstep
  case isTrue => exact nomatch hstep
  case isFalse hready =>
    obtain ⟨hphase, houtstanding⟩ := not_or.mp hready
    have hbalance := hbalanced.kept.balance
    -- The request is being served, and its value is still in the ring.
    have hkept : Kept { s with
        outstanding := s.outstanding - 1
        pPvt := { s.pPvt with newOutputCallbackValue := true }
        record := { s.record with alarm := (0, 0) } } 1 := by
      refine ⟨hbalanced.kept.history, ?_, hbalanced.kept.phase, hbalanced.kept.port,
        hbalanced.kept.takenBy, hbalanced.kept.writtenBy⟩
      show s.pPvt.ring.contents.length =
        s.outstanding - 1 + s.pPvt.numDeferredOutputCallbacks + 1
      omega
    generalize hserved : ({ s with
        outstanding := s.outstanding - 1
        pPvt := { s.pPvt with newOutputCallbackValue := true }
        record := { s.record with alarm := (0, 0) } } : State α β ringSize) = s₁ at hkept hstep
    have hflag : s₁.pPvt.newOutputCallbackValue = true := by
      rw [← hserved]
    split at hstep
    case isTrue =>
      have hconvert₁ : ∀ e, s₁.pPvt.ring.contents.head? = some e → e.status = .asynSuccess →
          (sup.store e.value s₁.record.value).2 = true := by
        rw [← hserved]
        exact hconvert
      obtain ⟨hkept₂, hflag₂, hidle⟩ := process_callback hkept hflag hconvert₁
      rw [if_pos hidle] at hstep
      have hdone : (s₁.process sup .outputCallback).dropValue =
          s₁.process sup .outputCallback := by
        unfold State.dropValue
        rw [hflag₂]
        rfl
      cases hstep
      rw [hdone]
      exact ⟨hkept₂, hflag₂⟩
    case isFalse =>
      cases hstep
      obtain ⟨hkept₂, hflag₂⟩ := dropValue_kept hkept hflag
      exact ⟨hkept₂, hflag₂⟩

theorem Balanced.step (hbalanced : Balanced s) {a : Action α β} (hconvert : Converts sup s a)
    (hstep : step sup s a = some s') : Balanced s' := by
  obtain ⟨hkept, hflag⟩ := hbalanced
  cases a with
  | interruptCallbackOutput value pasynUser interruptAccept =>
      cases hstep
      refine ⟨interruptCallbackOutput_kept hkept value pasynUser interruptAccept, ?_⟩
      unfold interruptCallbackOutput
      cases interruptAccept <;> exact hflag
  | outputCallbackCallback enabled =>
      exact Balanced.outputCallbackCallback ⟨hkept, hflag⟩ enabled hconvert hstep
  | put value =>
      unfold ReadBack.step at hstep
      simp only at hstep
      split at hstep
      case isTrue => exact nomatch hstep
      case isFalse =>
        have hkept₁ : Kept { s with record := { s.record with value := value } } 0 :=
          hkept.frame _ s.pPvt.result s.pPvt.asyncProcessingActive
            s.pPvt.previousQueueRequestStatus hkept.phase hkept.port
        split at hstep
        case isTrue =>
          cases hstep
          exact ⟨hkept₁, hflag⟩
        case isFalse =>
          cases hstep
          have hkept₂ := hkept₁.frame { s.record with value := value, alarm := (0, 0) }
            s.pPvt.result s.pPvt.asyncProcessingActive s.pPvt.previousQueueRequestStatus
            hkept.phase hkept.port
          obtain ⟨hkept₃, hflag₃⟩ := process_other hkept₂ hflag
          exact ⟨hkept₃, hflag₃⟩
  | queueRequest status outcome =>
      unfold ReadBack.step at hstep
      simp only at hstep
      split at hstep
      case h_2 => exact nomatch hstep
      case h_1 cause hunlocked =>
        -- between steps neither the record's thread nor the queue is within a callback of the output
        obtain rfl : cause = .other := by
          cases cause with
          | outputCallback => exact absurd hunlocked hkept.phase
          | other => rfl
        split at hstep
        case isTrue =>
          have hkept₁ : Kept { s with phase := .idle, port := .queued .other } 0 :=
            hkept.frame s.record s.pPvt.result s.pPvt.asyncProcessingActive
              s.pPvt.previousQueueRequestStatus (by decide) (by decide)
          rw [if_neg (by decide)] at hstep
          cases hstep
          exact ⟨hkept₁, hflag⟩
        case isFalse =>
          cases hstep
          split
          case isTrue =>
            have hkept₁ := writeValue_kept hkept outcome
            exact ⟨⟨hkept₁.history, hkept₁.balance, by simp, hkept₁.port, hkept₁.takenBy,
              hkept₁.writtenBy⟩, hflag⟩
          case isFalse =>
            exact ⟨⟨hkept.history, hkept.balance, by simp, hkept.port, hkept.takenBy,
              hkept.writtenBy⟩, hflag⟩
  | relock =>
      unfold ReadBack.step at hstep
      simp only at hstep
      split at hstep
      case h_2 => exact nomatch hstep
      case h_1 cause status hreturned =>
        cases hstep
        obtain ⟨hkept₁, hflag₁, -⟩ := finish_kept (hkept.frame
          { s.record with pact := if s.pPvt.canBlock then false else s.record.pact }
          (s.pPvt.reportQueueRequestStatus status).result s.pPvt.asyncProcessingActive status
          hkept.phase hkept.port)
        exact ⟨hkept₁, hflag₁⟩
  | processCallbackOutput outcome =>
      unfold ReadBack.step at hstep
      simp only at hstep
      split at hstep
      case h_2 => exact nomatch hstep
      case h_1 cause hqueued =>
        obtain rfl : cause = .other := by
          cases cause with
          | outputCallback => exact absurd hqueued hkept.port
          | other => rfl
        cases hstep
        have hkept₁ := writeValue_kept hkept outcome
        exact ⟨⟨hkept₁.history, hkept₁.balance, hkept₁.phase, by simp, hkept₁.takenBy,
          hkept₁.writtenBy⟩, hflag⟩
  | complete =>
      unfold ReadBack.step at hstep
      simp only at hstep
      split at hstep
      case isFalse => exact nomatch hstep
      case isTrue =>
        cases hstep
        have hkept₁ := hkept.frame { s.record with alarm := (0, 0) } s.pPvt.result
          s.pPvt.asyncProcessingActive s.pPvt.previousQueueRequestStatus hkept.phase hkept.port
        obtain ⟨hkept₂, hflag₂⟩ := process_other hkept₁ hflag
        exact ⟨⟨hkept₂.history, hkept₂.balance, hkept₂.phase, by simp, hkept₂.takenBy,
          hkept₂.writtenBy⟩, hflag₂⟩

theorem Balanced.reachable {zero : α} {canBlock : Bool}
    (hreach : (machine sup zero canBlock ringSize).Reachable (Converts sup) s) : Balanced s := by
  refine Machine.Reachable.invariant (I := Balanced) ?_ ?_ hreach
  · rintro s ⟨record, -, rfl⟩
    exact Balanced.start zero canBlock record
  · intro s a s' hok hbalanced hstep
    exact hbalanced.step hok hstep

/-- Requests that have been made or deferred count the values in the ring; the values are taken in the
order of the callbacks, or have overflowed; only `outputCallbackCallback` takes them, and it does not
write.  With no request made or deferred the ring is empty, and the last value was taken. -/
theorem read_back {zero : α} {canBlock : Bool}
    (hreach : (machine sup zero canBlock ringSize).Reachable (Converts sup) s) :
    s.pPvt.ring.contents.length = s.outstanding + s.pPvt.numDeferredOutputCallbacks ∧
    (∃ gone, s.called = gone ++ s.pPvt.ring.contents ∧ (s.taken.map Prod.snd).Sublist gone ∧
      gone.length = s.taken.length + (s.reported + s.pPvt.ringBufferOverflows)) ∧
    (∀ t ∈ s.taken, t.1 = .outputCallback) ∧
    (∀ w ∈ s.writes, w.1 = .other) ∧
    (s.outstanding = 0 → s.pPvt.numDeferredOutputCallbacks = 0 → s.pPvt.ring.contents = [] ∧
      (1 ≤ ringSize → (s.taken.map Prod.snd).getLast? = s.called.getLast?)) := by
  have hkept := (Balanced.reachable hreach).kept
  have hbalance := hkept.balance
  obtain ⟨gone, hcalled, htaken, hgone⟩ := hkept.history.order
  rw [List.length_map] at hgone
  refine ⟨hbalance, ⟨gone, hcalled, htaken, hgone⟩, hkept.takenBy, hkept.writtenBy, ?_⟩
  intro houtstanding hdeferred
  rw [houtstanding, hdeferred] at hbalance
  have hempty := List.length_eq_zero_iff.mp hbalance
  exact ⟨hempty, fun hsize => hkept.history.newest (by omega) hempty⟩

/-- A `longout` record without mask. -/
def longout : OutputSupport (BitVec 32) (BitVec 32) := processLo id

def longoutStart : State (BitVec 32) (BitVec 32) 2 := .start (.new 0 2 true) ⟨0, false, (0, 0)⟩

theorem longout_converts {s : State (BitVec 32) (BitVec 32) 2} {a : Action (BitVec 32) (BitVec 32)} :
    Converts longout s a := by
  cases a with
  | outputCallbackCallback enabled => exact fun _ _ _ => rfl
  | _ => exact trivial

/-- A put is written asynchronously, and a callback comes before the driver has finished. -/
def callbackDuringWrite : List (Action (BitVec 32) (BitVec 32)) :=
  [.put 3, .queueRequest .asynSuccess ⟨.asynSuccess, 0, 0, 0⟩,
    .interruptCallbackOutput 5 ⟨1, .asynSuccess, 0, 0⟩ true]

def afterWrite : List (Action (BitVec 32) (BitVec 32)) :=
  [.processCallbackOutput ⟨.asynSuccess, 2, 0, 0⟩, .complete, .outputCallbackCallback true]

theorem read_back_after_write :
    ∃ s : State (BitVec 32) (BitVec 32) 2, s.record.value = 5 ∧
      s.pPvt.ring.contents.length = s.outstanding + s.pPvt.numDeferredOutputCallbacks ∧
      (∃ gone, s.called = gone ++ s.pPvt.ring.contents ∧ (s.taken.map Prod.snd).Sublist gone ∧
        gone.length = s.taken.length + (s.reported + s.pPvt.ringBufferOverflows)) ∧
      (∀ t ∈ s.taken, t.1 = .outputCallback) ∧ (∀ w ∈ s.writes, w.1 = .other) ∧
      s.pPvt.ring.contents = [] ∧ (s.taken.map Prod.snd).getLast? = s.called.getLast? := by
  obtain ⟨s, hreach, hvalues⟩ := Machine.exists_reachable_of_exec
    (M := machine longout 0 true 2)
    (fun s => (s.record.value, s.outstanding, s.pPvt.numDeferredOutputCallbacks))
    (callbackDuringWrite ++ afterWrite) (s := longoutStart) ⟨_, rfl, rfl⟩
    (show _ = some (5, 0, 0) by decide)
  obtain ⟨hvalue, hcounts⟩ := Prod.mk.inj hvalues
  obtain ⟨houtstanding, hdeferred⟩ := Prod.mk.inj hcounts
  obtain ⟨hbalance, horder, htaken, hwrites, hdone⟩ :=
    read_back (hreach.mono fun _ _ _ => longout_converts)
  obtain ⟨hempty, hlast⟩ := hdone houtstanding hdeferred
  exact ⟨s, hvalue, hbalance, horder, htaken, hwrites, hempty, hlast (by decide)⟩

/-- An `ao` record with a break point table that has no value for 9. -/
def aoTable : OutputSupport (BitVec 32) (BitVec 32 × Nat) :=
  processAo id fun rval => if rval = 9 then none else some rval.toNat

def aoStart : State (BitVec 32) (BitVec 32 × Nat) 2 :=
  .start (.new 0 2 false) ⟨(0, 0), false, (0, 0)⟩

/-- Two callbacks, of which the first cannot be converted, and its processing. -/
def failingConversion : List (Action (BitVec 32) (BitVec 32 × Nat)) :=
  [.interruptCallbackOutput 9 ⟨1, .asynSuccess, 0, 0⟩ true,
    .interruptCallbackOutput 5 ⟨2, .asynSuccess, 0, 0⟩ true, .outputCallbackCallback true]

/-- A deferred callback is no request, so its value is in the ring while no request is outstanding; and
a conversion that fails takes two values for one request, after which the processing for the other
request writes. -/
theorem read_back_differs :
    (∃ s : State (BitVec 32) (BitVec 32) 2,
      (machine longout 0 true 2).Reachable Machine.Unguarded s ∧
        (s.outstanding, s.pPvt.ring.contents) = (0, [⟨5, 1, .asynSuccess, 0, 0⟩])) ∧
    (∃ s : State (BitVec 32) (BitVec 32 × Nat) 2,
      (machine aoTable 0 false 2).Reachable Machine.Unguarded s ∧
        (s.pPvt.ring.contents.length, s.outstanding + s.pPvt.numDeferredOutputCallbacks) =
          (0, 1)) ∧
    ∃ s : State (BitVec 32) (BitVec 32 × Nat) 2,
      (machine aoTable 0 false 2).Reachable Machine.Unguarded s ∧
        s.writes.map Prod.fst = [.outputCallback] := by
  refine ⟨?_, ?_, ?_⟩
  · exact Machine.exists_reachable_of_exec (M := machine longout 0 true 2)
      (fun s => (s.outstanding, s.pPvt.ring.contents)) callbackDuringWrite (s := longoutStart)
      ⟨_, rfl, rfl⟩ (by decide)
  · exact Machine.exists_reachable_of_exec (M := machine aoTable 0 false 2)
      (fun s => (s.pPvt.ring.contents.length,
        s.outstanding + s.pPvt.numDeferredOutputCallbacks)) failingConversion (s := aoStart)
      ⟨_, rfl, rfl⟩ (by decide)
  · exact Machine.exists_reachable_of_exec (M := machine aoTable 0 false 2)
      (fun s => s.writes.map Prod.fst)
      (failingConversion ++ [.outputCallbackCallback true,
        .queueRequest .asynSuccess ⟨.asynSuccess, 3, 0, 0⟩]) (s := aoStart) ⟨_, rfl, rfl⟩
      (by decide)

end ReadBack
end DevEpics
end AsynDriver
