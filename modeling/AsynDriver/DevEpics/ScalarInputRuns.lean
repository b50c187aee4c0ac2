import AsynDriver.DevEpics.ScalarInput

/-!
# Callbacks and processing of a scalar input record

Driver callbacks push values into the ring and request scans; each accepted request is one processing
of the record, at any later time.

* `State`, `Action`, `machine` — a record with its history: the callback values, those that were taken
  from the ring, and the overflows that have been reported.
* `Queued` — the invariant of all runs; `requests_eq` adds what holds where no request is refused.
* `most_recent` — order, overflow count, number of requests, and what the record holds in the end.

A ring of size 0 drops every value, and a request that is refused leaves its value in the ring.
-/

namespace AsynDriver
namespace DevEpics
namespace InputSupport

open Library
open Manager (AsynStatus)

/-- A record and what has happened to it. -/
structure State (α β : Type) (ringSize : Nat) where
  pPvt : DevPvt α ringSize
  record : InputRecord β
  /-- Accepted scan requests that have not been served. -/
  requests : Nat
  called : List (RingBufferElement α)
  taken : List (RingBufferElement α)
  /-- The overflows that `getCallbackValue` has printed and set back to 0. -/
  reported : Nat

/-- `accepted` is the answer of `scanIoRequest`. -/
inductive Action (α : Type)
  | interruptCallbackInput (value : α) (pasynUser : InterruptUser) (interruptAccept accepted : Bool)
  | process (request : QueueRequest α)

variable {α β : Type} {ringSize : Nat}

def step (sup : InputSupport α β) (s : State α β ringSize) : Action α → Option (State α β ringSize)
  | .interruptCallbackInput value pasynUser interruptAccept accepted =>
      let r := sup.interruptCallbackInput s.pPvt value pasynUser interruptAccept
      some
        { s with
          pPvt := r.1
          requests := if r.2 && accepted then s.requests + 1 else s.requests
          called :=
            if interruptAccept then
              s.called ++ [.ofCallback (sup.convert value) pasynUser]
            else s.called }
  | .process request =>
      if s.requests = 0 then none
      else
        let r := sup.process s.pPvt { s.record with alarm := (0, 0) } request
        let got := s.pPvt.getCallbackValue
        some
          { s with
            pPvt := r.1
            record := r.2.1
            requests := s.requests - 1
            taken := if got.1 then s.taken ++ [got.2.result] else s.taken
            reported := if got.1 then s.reported + s.pPvt.ringBufferOverflows else s.reported }

def State.start (p : DevPvt α ringSize) (record : InputRecord β) : State α β ringSize :=
  ⟨p, record, 0, [], [], 0⟩

/-- The record is not active, and its ring is new. -/
def machine (sup : InputSupport α β) (zero : α) (canBlock : Bool) (ringSize : Nat) :
    Machine (State α β ringSize) (Action α) where
  init s := ∃ record : InputRecord β, record.pact = false ∧
    s = .start (.new zero ringSize canBlock) record
  step := step sup

/-- Every scan request is accepted. -/
def Accepted (_ : State α β ringSize) : Action α → Prop
  | .interruptCallbackInput _ _ _ accepted => accepted = true
  | .process _ => True

/-- The alarm of a callback value. -/
def alarmOf (e : RingBufferElement α) : Nat × Nat :=
  recGblSetSevr (0, 0)
    (asynStatusToEpicsAlarm e.status epicsAlarmRead e.alarmStatus epicsSevInvalid e.alarmSeverity)

/-- The record holds time and alarm of a callback and, with `asynSuccess`, its value. -/
structure Holds (sup : InputSupport α β) (pr : InputRecord β) (e : RingBufferElement α) : Prop where
  time : pr.time = e.time
  alarm : pr.alarm = alarmOf e
  value : e.status = .asynSuccess → pr.udf = false ∧ ∃ old udf, pr.value = sup.store e.value old udf

variable {sup : InputSupport α β} {p : DevPvt α ringSize} {pr : InputRecord β}
  {s s' : State α β ringSize}

theorem finish_holds (halarm : pr.alarm = (0, 0)) : sup.Holds (sup.finish p pr).2.1 p.result := by
  unfold finish
  by_cases hstatus : p.result.status = .asynSuccess
  · simp only [hstatus, if_true]
    refine ⟨rfl, ?_, fun _ => ⟨rfl, pr.value, pr.udf, rfl⟩⟩
    unfold alarmOf
    rw [hstatus, ← halarm]
  · simp only [hstatus, if_false]
    refine ⟨rfl, ?_, fun h => absurd h hstatus⟩
    unfold alarmOf
    rw [← halarm]

@[simp] theorem finish_ring : (sup.finish p pr).1.ring = p.ring := by
  unfold finish
  simp only
  split <;> rfl

@[simp] theorem finish_overflows :
    (sup.finish p pr).1.ringBufferOverflows = p.ringBufferOverflows := by
  unfold finish
  simp only
  split <;> rfl

@[simp] theorem finish_pact : (sup.finish p pr).2.1.pact = pr.pact := by
  unfold finish
  simp only
  split <;> rfl

/-- With a value in the ring nothing is read from the driver. -/
theorem process_of_value {slot : Fin (ringSize + 1)} {ring : Ring (RingBufferElement α) (ringSize + 1)}
    (hpop : p.ring.pop = some (slot, ring)) (request : QueueRequest α) :
    sup.process p pr request =
      sup.finish { p with ringBufferOverflows := 0, result := p.ring.slots slot, ring := ring } pr := by
  unfold process DevPvt.getCallbackValue
  simp only [hpop, Bool.not_true, Bool.false_and, Bool.false_eq_true, if_false]

/-! ## All runs -/

/-- The ring with its history, the requests that have values in it, and what the record holds. -/
structure Queued (sup : InputSupport α β) (s : State α β ringSize) : Prop where
  history : s.pPvt.ring.History s.called s.taken (s.reported + s.pPvt.ringBufferOverflows)
  requested : s.requests ≤ s.pPvt.ring.contents.length
  held : ∀ e, s.taken.getLast? = some e → sup.Holds s.record e
  inactive : s.record.pact = false

theorem contents_new (zero : α) (canBlock : Bool) :
    (DevPvt.new zero ringSize canBlock).ring.contents = [] :=
  Ring.pop_eq_none_iff.mp rfl

theorem Queued.start {record : InputRecord β} (hpact : record.pact = false) (zero : α)
    (canBlock : Bool) :
    Queued sup (State.start (.new zero ringSize canBlock) record) :=
  ⟨.empty (contents_new zero canBlock), Nat.zero_le _, (fun _ htaken => nomatch htaken), hpact⟩

/-- A callback value is added, or takes the place of the oldest. -/
theorem Queued.callback (hqueued : Queued sup s) (value : α) (pasynUser : InterruptUser)
    (interruptAccept accepted : Bool)
    (hstep : step sup s (.interruptCallbackInput value pasynUser interruptAccept accepted) = some s') :
    Queued sup s' := by
  cases hstep
  unfold interruptCallbackInput
  cases interruptAccept with
  | false => exact hqueued
  | true =>
      generalize RingBufferElement.ofCallback (sup.convert value) pasynUser = e
      have hrequested := hqueued.requested
      have hhistory := hqueued.history.push e
      have hlength := Ring.length_contents_push (r := s.pPvt.ring) (x := e)
      simp only [Bool.not_true, Bool.false_eq_true, if_false, if_true, DevPvt.pushCallbackValue]
      cases hoverflow : (s.pPvt.ring.push e).2 with
      | false =>
          rw [hoverflow, if_neg Bool.false_ne_true] at hhistory hlength
          refine ⟨hhistory, ?_, hqueued.held, hqueued.inactive⟩
          simp only [hlength]
          split <;> omega
      | true =>
          rw [hoverflow, if_pos rfl] at hhistory hlength
          refine ⟨hhistory, ?_, hqueued.held, hqueued.inactive⟩
          simp only [hlength, Bool.not_true, Bool.false_and, Bool.false_eq_true, if_false]
          exact hrequested

/-- A processing takes the oldest value. -/
theorem Queued.process (hqueued : Queued sup s) (request : QueueRequest α)
    (hstep : step sup s (.process request) = some s') :
    Queued sup s' ∧ s'.requests + 1 = s.requests ∧
      s'.pPvt.ring.contents.length + 1 = s.pPvt.ring.contents.length := by
  have hrequested := hqueued.requested
  unfold step at hstep
  simp only at hstep
  split at hstep
  case isTrue => exact nomatch hstep
  case isFalse hpending =>
    cases hpop : s.pPvt.ring.pop with
    | none =>
        -- There is a value for every request.
        rw [Ring.pop_eq_none_iff.mp hpop] at hrequested
        exact absurd (Nat.le_zero.mp hrequested) hpending
    | some found =>
        obtain ⟨slot, ring⟩ := found
        simp only [process_of_value hpop, DevPvt.getCallbackValue, hpop, if_true] at hstep
        cases hstep
        have hlength := congrArg List.length (Ring.contents_pop hpop).1
        rw [List.length_cons] at hlength
        refine ⟨⟨?_, ?_, ?_, ?_⟩, ?_, ?_⟩
        · simp only [finish_ring, finish_overflows, Nat.add_zero]
          exact hqueued.history.pop hpop
        · simp only [finish_ring]
          omega
        · intro e he
          simp only [List.getLast?_concat, Option.some.injEq] at he
          subst he
          exact finish_holds rfl
        · simp only [finish_pact]
          exact hqueued.inactive
        · simp only
          omega
        · simp only [finish_ring]
          omega

theorem Queued.step (hqueued : Queued sup s) {a : Action α} (hstep : step sup s a = some s') :
    Queued sup s' := by
  cases a with
  | interruptCallbackInput value pasynUser interruptAccept accepted =>
      exact hqueued.callback value pasynUser interruptAccept accepted hstep
  | process request => exact (hqueued.process request hstep).1

theorem Queued.reachable {zero : α} {canBlock : Bool} {ok : State α β ringSize → Action α → Prop}
    (hreach : (machine sup zero canBlock ringSize).Reachable ok s) : Queued sup s := by
  refine Machine.Reachable.invariant (I := Queued sup) ?_ ?_ hreach
  · rintro s ⟨record, hpact, rfl⟩
    exact Queued.start hpact zero canBlock
  · intro s a s' _ hqueued hstep
    exact hqueued.step hstep

/-! ## Runs without refused requests -/

/-- A value in the ring for each request that has not been served, and none besides. -/
theorem requests_eq {zero : α} {canBlock : Bool}
    (hreach : (machine sup zero canBlock ringSize).Reachable Accepted s) :
    s.pPvt.ring.contents.length ≤ s.requests := by
  refine Machine.Reachable.invariant_of_reachable
    (I := fun s => s.pPvt.ring.contents.length ≤ s.requests) ?_ ?_ hreach
  · rintro s ⟨record, -, rfl⟩
    show (DevPvt.new zero ringSize canBlock).ring.contents.length ≤ 0
    rw [contents_new]
    exact le_rfl
  · intro s a s' hs hok hstored hstep
    cases a with
    | process request =>
        obtain ⟨-, hrequests, hlength⟩ := (Queued.reachable hs).process request hstep
        omega
    | interruptCallbackInput value pasynUser interruptAccept accepted =>
        obtain rfl : accepted = true := hok
        cases hstep
        unfold interruptCallbackInput
        cases interruptAccept with
        | false => exact hstored
        | true =>
            generalize RingBufferElement.ofCallback (sup.convert value) pasynUser = e
            have hlength := Ring.length_contents_push (r := s.pPvt.ring) (x := e)
            simp only [Bool.not_true, Bool.false_eq_true, if_false, DevPvt.pushCallbackValue]
            cases hoverflow : (s.pPvt.ring.push e).2 with
            | false =>
                rw [hoverflow, if_neg Bool.false_ne_true] at hlength
                simp only [hlength, Bool.not_false, Bool.true_and, if_true]
                omega
            | true =>
                rw [hoverflow, if_pos rfl] at hlength
                simp only [hlength, Bool.not_true, Bool.false_and, Bool.false_eq_true, if_false]
                exact hstored

/-- In every run the values are taken in callback order and every other one that has left the ring is
counted.  Where no scan request is refused there are as many requests as values in the ring; once they
have been served the ring is empty and, if it has at least one place, the record holds the most recent
callback. -/
theorem most_recent {zero : α} {canBlock : Bool}
    (hreach : (machine sup zero canBlock ringSize).Reachable Machine.Unguarded s) :
    (∃ gone, s.called = gone ++ s.pPvt.ring.contents ∧ s.taken.Sublist gone ∧
      gone.length = s.taken.length + (s.reported + s.pPvt.ringBufferOverflows)) ∧
    ((machine sup zero canBlock ringSize).Reachable Accepted s →
      s.pPvt.ring.contents.length ≤ s.requests ∧
        (s.requests = 0 → s.pPvt.ring.contents = [] ∧
          (1 ≤ ringSize → ∀ e, s.called.getLast? = some e → sup.Holds s.record e))) := by
  have hqueued := Queued.reachable hreach
  refine ⟨hqueued.history.order, ?_⟩
  intro haccepted
  have hstored := requests_eq haccepted
  refine ⟨hstored, ?_⟩
  intro hserved
  rw [hserved] at hstored
  have hempty := List.length_eq_zero_iff.mp (Nat.le_zero.mp hstored)
  refine ⟨hempty, ?_⟩
  intro hsize e he
  exact hqueued.held e ((hqueued.history.newest (by omega) hempty).trans he)

instance (s : State α β ringSize) (a : Action α) : Decidable (Accepted s a) :=
  match a with
  | .interruptCallbackInput _ _ _ accepted => inferInstanceAs (Decidable (accepted = true))
  | .process _ => .isTrue trivial

theorem accepted_of_check (s : State α β ringSize) (a : Action α)
    (hcheck : decide (Accepted s a) = true) : Accepted s a :=
  of_decide_eq_true hcheck

/-- A `longin` record without mask. -/
def longin : InputSupport (BitVec 32) (BitVec 32) := Int32.processLi ⟨0, false, 0⟩

def longinStart (ringSize : Nat) : State (BitVec 32) (BitVec 32) ringSize :=
  .start (.new 0 ringSize false) ⟨0, true, 0, false, (0, 0)⟩

def processLongin : Action (BitVec 32) := .process ⟨.asynSuccess, ⟨0, 0, .asynSuccess, 0, 0⟩⟩

/-- Two callbacks before the first processing, with room for one. -/
theorem most_recent_burst :
    ∃ s : State (BitVec 32) (BitVec 32) 1, s.called.getLast? = some ⟨7, 2, .asynSuccess, 0, 0⟩ ∧
      (∃ gone, s.called = gone ++ s.pPvt.ring.contents ∧ s.taken.Sublist gone ∧
        gone.length = s.taken.length + (s.reported + s.pPvt.ringBufferOverflows)) ∧
      s.pPvt.ring.contents = [] ∧ longin.Holds s.record ⟨7, 2, .asynSuccess, 0, 0⟩ := by
  obtain ⟨s, hreach, hvalues⟩ := Machine.exists_reachable_of_execGuarded
    (M := machine longin 0 false 1) 
    (fun s => (s.called.getLast?, s.requests))
    accepted_of_check
    [.interruptCallbackInput 5 ⟨1, .asynSuccess, 0, 0⟩ true true,
      .interruptCallbackInput 7 ⟨2, .asynSuccess, 0, 0⟩ true true, processLongin]
    (s := longinStart 1) ⟨_, rfl, rfl⟩
    (show _ = some (some ⟨7, 2, .asynSuccess, 0, 0⟩, 0) by decide)
  obtain ⟨hlast, hserved⟩ := Prod.mk.inj hvalues
  obtain ⟨hhistory, hrest⟩ := most_recent (hreach.mono fun _ _ _ => trivial)
  obtain ⟨hempty, hholds⟩ := (hrest hreach).2 hserved
  exact ⟨s, hlast, hhistory, hempty, hholds le_rfl _ hlast⟩

/-- A callback with an error leaves the record its value; a ring of size 0 is never processed; and a
refused request leaves a value in the ring. -/
theorem most_recent_fails :
    (∃ s : State (BitVec 32) (BitVec 32) 1, (machine longin 0 false 1).Reachable Accepted s ∧
      (s.requests, s.called.getLast?, s.record.value) =
        (0, some ⟨7, 2, .asynTimeout, 0, 0⟩, 5)) ∧
    (∃ s : State (BitVec 32) (BitVec 32) 0, (machine longin 0 false 0).Reachable Accepted s ∧
      (s.requests, s.called.getLast?, s.taken, s.record.value) =
        (0, some ⟨5, 1, .asynSuccess, 0, 0⟩, [], 0)) ∧
    ∃ s : State (BitVec 32) (BitVec 32) 1,
      (machine longin 0 false 1).Reachable Machine.Unguarded s ∧
        (s.requests, s.pPvt.ring.contents, s.record.value) =
          (0, [⟨5, 1, .asynSuccess, 0, 0⟩], 0) := by
  refine ⟨?_, ?_, ?_⟩
  · exact Machine.exists_reachable_of_execGuarded (M := machine longin 0 false 1) 
      (fun s => (s.requests, s.called.getLast?, s.record.value))
      accepted_of_check
      [.interruptCallbackInput 5 ⟨1, .asynSuccess, 0, 0⟩ true true, processLongin,
        .interruptCallbackInput 7 ⟨2, .asynTimeout, 0, 0⟩ true true, processLongin]
      (s := longinStart 1) ⟨_, rfl, rfl⟩ (by decide)
  · exact Machine.exists_reachable_of_execGuarded (M := machine longin 0 false 0) 
      (fun s => (s.requests, s.called.getLast?, s.taken, s.record.value))
      accepted_of_check
      [.interruptCallbackInput 5 ⟨1, .asynSuccess, 0, 0⟩ true true]
      (s := longinStart 0) ⟨_, rfl, rfl⟩ (by decide)
  · exact Machine.exists_reachable_of_exec (M := machine longin 0 false 1)
      (fun s => (s.requests, s.pPvt.ring.contents, s.record.value))
      [.interruptCallbackInput 5 ⟨1, .asynSuccess, 0, 0⟩ true false]
      (s := longinStart 1) ⟨_, rfl, rfl⟩ (by decide)

end InputSupport
end DevEpics
end AsynDriver
