import AsynDriver.Library.LockOrder
import AsynDriver.Manager.Types

/-!
# The locks of puts, processing and exceptions

`special` of the asyn record runs with the `dbScanLock` of its record.  The puts that change trace,
`autoConnect` or `enable` settings end in an announcement, which calls `exceptCallback` of every record on
the list, and that takes the `dbScanLock` of the record; the puts to `TFIL` and `TSIZ` hold `lockTrace`
as well.  A print takes `lockTrace`.

* `Lock` — a `dbScanLock` or `lockTrace`; `asynManagerLock` is left out, for no other lock is taken under
  it.
* `Port` — where the records are connected and whom an announcement calls.
* `exceptCallback`, `announceExceptionOccurred`, `setTraceMask`, … — the functions, by the locks they
  take.
* `Operation`, `code` — what threads do; `machine` runs any number of operations at the same time.
* `nested_put`, `nested_process` — what is taken under what.
* `locks_in_order` — no deadlock where the operations in progress take their locks in an order;
  `nested_rank` names operations that do.
* `puts_deadlock` — two puts, and a put with a traced processing.

What the settings are does not matter, but for the prints that they enable: which ones is a part of the
operation.
-/

namespace AsynDriver
namespace AsynRecord
namespace TraceLocks

open Library
open Library.LockOrder
open Manager (ThreadId)

abbrev RecordId := Nat

inductive Lock
  | dbScanLock (r : RecordId)
  | lockTrace
  deriving DecidableEq, Repr

abbrev Code := Program Lock

/-- The records that are connected to one port.  Those of a device have its `dpCommon`, the others that
of the port, `none`. -/
structure Port where
  pdevice : RecordId → Option Nat
  deviceList : List Nat
  exceptionUserList : Option Nat → List RecordId

/-! ## The functions -/

/-- `asynPrint` where the mask enables it, and else nothing. -/
def asynPrint (enabled : Bool) : Code := if enabled then locked .lockTrace [] else []

section Functions

variable (port : Port) (interruptAccept : Bool) (traced : RecordId → Bool)

/-- `exceptCallback`; `monitorStatus` takes none of the locks. -/
def exceptCallback (r : RecordId) : Code :=
  asynPrint (traced r) ++ if interruptAccept then locked (.dbScanLock r) [] else []

/-- `announceExceptionOccurred` for one `dpCommon`. -/
def announceExceptionOccurred (pdevice : Option Nat) : Code :=
  (port.exceptionUserList pdevice).flatMap (exceptCallback interruptAccept traced)

/-- `exceptionOccurred` with the `asynUser` of a record. -/
def exceptionOccurred (r : RecordId) : Code :=
  announceExceptionOccurred port interruptAccept traced (port.pdevice r)

/-- `setTraceMask`: without a device the settings of all devices change. -/
def setTraceMask (r : RecordId) : Code :=
  match port.pdevice r with
  | some d => announceExceptionOccurred port interruptAccept traced (some d)
  | none =>
      (port.deviceList.flatMap fun d =>
        announceExceptionOccurred port interruptAccept traced (some d)) ++
      announceExceptionOccurred port interruptAccept traced none

def setTraceIOMask (r : RecordId) : Code := setTraceMask port interruptAccept traced r

def setTraceInfoMask (r : RecordId) : Code := setTraceMask port interruptAccept traced r

def setTraceFile (r : RecordId) : Code :=
  locked .lockTrace (exceptionOccurred port interruptAccept traced r)

/-- `calloc` may fail. -/
def setTraceIOTruncateSize (allocated : Bool) (r : RecordId) : Code :=
  locked .lockTrace (if allocated then exceptionOccurred port interruptAccept traced r else [])

/-- Nothing is announced for a port that was shut down. -/
def enable (defunct : Bool) (r : RecordId) : Code :=
  if defunct then [] else exceptionOccurred port interruptAccept traced r

def autoConnectAsyn (r : RecordId) : Code := exceptionOccurred port interruptAccept traced r

/-! ## What threads do -/

/-- The fields; `TB0`, … are set as `TMSK` is, `TIB0`, … as `TIOM` and `TINB0`, … as `TINM`. -/
inductive Field
  | TMSK
  | TIOM
  | TINM
  | TSIZ (allocated : Bool)
  | TFIL (opened : Bool)
  | AUCT
  | ENBL (defunct : Bool)
  deriving DecidableEq, Repr

/-- What `special` calls; a file that cannot be opened is reported with the status `asynSuccess`, for
which `reportError` prints nothing. -/
def special (r : RecordId) : Field → Code
  | .TMSK => setTraceMask port interruptAccept traced r
  | .TIOM => setTraceIOMask port interruptAccept traced r
  | .TINM => setTraceInfoMask port interruptAccept traced r
  | .TSIZ allocated => setTraceIOTruncateSize port interruptAccept traced allocated r
  | .TFIL opened => if opened then setTraceFile port interruptAccept traced r else []
  | .AUCT => autoConnectAsyn port interruptAccept traced r
  | .ENBL defunct => enable port interruptAccept traced defunct r

end Functions

/-- A put to a field, a processing with some prints enabled, and an exception that the port's thread
announces. -/
inductive Operation
  | put (r : RecordId) (field : Field) (interruptAccept : Bool) (traced : RecordId → Bool)
  | process (r : RecordId) (prints : Nat)
  | exception (pdevice : Option Nat) (interruptAccept : Bool) (traced : RecordId → Bool)

def code (port : Port) : Operation → Code
  | .put r field interruptAccept traced =>
      locked (.dbScanLock r) (special port interruptAccept traced r field)
  | .process r prints =>
      locked (.dbScanLock r) ((List.replicate prints true).flatMap asynPrint)
  | .exception pdevice interruptAccept traced =>
      announceExceptionOccurred port interruptAccept traced pdevice

def machine (port : Port) : Machine (State Lock ThreadId) (Action Operation ThreadId) :=
  LockOrder.machine (code port)

/-- An operation starts only where, with those in progress, the locks have no circle in which some
operation has to take each lock while it holds the one before. -/
def Admissible (port : Port) (s : State Lock ThreadId) (a : Action Operation ThreadId) : Prop :=
  Ordered (code port) s a

/-! ## Brackets -/

theorem balanced_asynPrint (enabled : Bool) : Balanced (asynPrint enabled) := by
  unfold asynPrint
  split
  · exact balanced_nil.locked _
  · exact balanced_nil

theorem balanced_exceptCallback (interruptAccept : Bool) (traced : RecordId → Bool) (r : RecordId) :
    Balanced (exceptCallback interruptAccept traced r) := by
  refine (balanced_asynPrint _).append ?_
  split
  · exact balanced_nil.locked _
  · exact balanced_nil

theorem balanced_announce (port : Port) (interruptAccept : Bool) (traced : RecordId → Bool)
    (pdevice : Option Nat) :
    Balanced (announceExceptionOccurred port interruptAccept traced pdevice) :=
  Balanced.flatMap (balanced_exceptCallback interruptAccept traced) _

theorem balanced_setTraceMask (port : Port) (interruptAccept : Bool) (traced : RecordId → Bool)
    (r : RecordId) : Balanced (setTraceMask port interruptAccept traced r) := by
  unfold setTraceMask
  split
  · exact balanced_announce _ _ _ _
  · exact (Balanced.flatMap (fun d => balanced_announce _ _ _ (some d)) _).append
      (balanced_announce _ _ _ _)

theorem balanced_special (port : Port) (interruptAccept : Bool) (traced : RecordId → Bool)
    (r : RecordId) (field : Field) : Balanced (special port interruptAccept traced r field) := by
  have hannounce := balanced_announce port interruptAccept traced (port.pdevice r)
  cases field with
  | TMSK => exact balanced_setTraceMask _ _ _ _
  | TIOM => exact balanced_setTraceMask _ _ _ _
  | TINM => exact balanced_setTraceMask _ _ _ _
  | TSIZ allocated =>
      refine Balanced.locked ?_ _
      split
      · exact hannounce
      · exact balanced_nil
  | TFIL opened =>
      cases opened with
      | false => exact balanced_nil
      | true => exact hannounce.locked _
  | AUCT => exact hannounce
  | ENBL defunct =>
      cases defunct with
      | false => exact hannounce
      | true => exact balanced_nil

theorem balanced_code (port : Port) (op : Operation) : Balanced (code port op) := by
  cases op with
  | put r field interruptAccept traced => exact (balanced_special _ _ _ _ _).locked _
  | process r prints => exact (Balanced.flatMap balanced_asynPrint _).locked _
  | exception pdevice interruptAccept traced => exact balanced_announce _ _ _ _

/-! ## What is taken under what -/

section Nestings

variable {port : Port} {interruptAccept : Bool} {traced : RecordId → Bool} {r : RecordId} {l l' : Lock}

theorem not_nested_asynPrint {enabled : Bool} : ¬ Nested (asynPrint enabled) l l' := by
  intro hnested
  cases enabled with
  | false => exact not_nested_nil hnested
  | true => exact not_nested_locked_nil hnested

/-- The print is over when the `dbScanLock` is taken. -/
theorem not_nested_exceptCallback : ¬ Nested (exceptCallback interruptAccept traced r) l l' := by
  intro hnested
  cases interruptAccept with
  | false => exact (nested_append balanced_nil hnested).elim not_nested_asynPrint not_nested_nil
  | true =>
      rcases nested_append (balanced_nil.locked _) hnested with hprint | hlocked
      · exact not_nested_asynPrint hprint
      · exact not_nested_locked_nil hlocked

theorem not_nested_announce {pdevice : Option Nat} :
    ¬ Nested (announceExceptionOccurred port interruptAccept traced pdevice) l l' := by
  intro hnested
  obtain ⟨r, -, hcallback⟩ := nested_flatMap (balanced_exceptCallback _ _) hnested
  exact not_nested_exceptCallback hcallback

theorem not_nested_setTraceMask : ¬ Nested (setTraceMask port interruptAccept traced r) l l' := by
  intro hnested
  unfold setTraceMask at hnested
  split at hnested
  · exact not_nested_announce hnested
  · rcases nested_append (balanced_announce _ _ _ _) hnested with hdevices | hport
    · obtain ⟨d, -, hdevice⟩ := nested_flatMap (fun d => balanced_announce _ _ _ (some d)) hdevices
      exact not_nested_announce hdevice
    · exact not_nested_announce hport

/-- Only the puts to `TFIL` and `TSIZ` announce under another lock than that of their record. -/
theorem nested_special {field : Field}
    (hnested : Nested (special port interruptAccept traced r field) l l') :
    l = .lockTrace ∧ l' ≠ .lockTrace ∧ (field = .TSIZ true ∨ field = .TFIL true) := by
  cases field with
  | TMSK => exact absurd hnested not_nested_setTraceMask
  | TIOM => exact absurd hnested not_nested_setTraceMask
  | TINM => exact absurd hnested not_nested_setTraceMask
  | AUCT => exact absurd hnested not_nested_announce
  | ENBL defunct =>
      cases defunct with
      | false => exact absurd hnested not_nested_announce
      | true => exact absurd hnested not_nested_nil
  | TSIZ allocated =>
      cases allocated with
      | false => exact absurd hnested not_nested_locked_nil
      | true =>
          obtain ⟨hne, ⟨hl, -⟩ | hinner⟩ := nested_locked (balanced_announce _ _ _ _) hnested
          · exact ⟨hl, hne, .inl rfl⟩
          · exact absurd hinner not_nested_announce
  | TFIL opened =>
      cases opened with
      | false => exact absurd hnested not_nested_nil
      | true =>
          obtain ⟨hne, ⟨hl, -⟩ | hinner⟩ := nested_locked (balanced_announce _ _ _ _) hnested
          · exact ⟨hl, hne, .inr rfl⟩
          · exact absurd hinner not_nested_announce

/-- A put takes the other locks under the `dbScanLock` of its record. -/
theorem nested_put {field : Field}
    (hnested : Nested (code port (.put r field interruptAccept traced)) l l') :
    l' ≠ .dbScanLock r ∧ (l = .dbScanLock r ∨
      l = .lockTrace ∧ l' ≠ .lockTrace ∧ (field = .TSIZ true ∨ field = .TFIL true)) := by
  obtain ⟨hne, ⟨hl, -⟩ | hinner⟩ := nested_locked (balanced_special _ _ _ _ _) hnested
  · exact ⟨hne, .inl hl⟩
  · exact ⟨hne, .inr (nested_special hinner)⟩

theorem nested_process {prints : Nat} (hnested : Nested (code port (.process r prints)) l l') :
    l = .dbScanLock r ∧ l' = .lockTrace := by
  obtain ⟨-, ⟨hl, hmem⟩ | hinner⟩ :=
    nested_locked (Balanced.flatMap balanced_asynPrint (List.replicate prints true)) hnested
  · refine ⟨hl, ?_⟩
    obtain ⟨enabled, henabled, hacquire⟩ := List.mem_flatMap.mp hmem
    cases List.eq_of_mem_replicate henabled
    exact (acquire_mem_locked.mp hacquire).resolve_right (nomatch ·)
  · obtain ⟨enabled, -, hprint⟩ := nested_flatMap balanced_asynPrint hinner
    exact absurd hprint not_nested_asynPrint

end Nestings

/-! ## The results -/

/-- In every run whose operations start in order, no threads wait for each other in a circle. -/
theorem locks_in_order (port : Port) (s : State Lock ThreadId)
    (hreach : (machine port).Reachable (Admissible port) s) : ¬ Deadlock s :=
  not_deadlock_of_reachable (balanced_code port) hreach

/-- The `dbScanLock` of one record first, then those of the others, then `lockTrace`. -/
def rank (r : RecordId) : Lock → Nat
  | .dbScanLock r' => if r' = r then 0 else 1
  | .lockTrace => 2

/-- Any number of operations keeps one order where all puts are to the same record, and none of them is
to `TFIL` or `TSIZ`. -/
theorem nested_rank {port : Port} {r : RecordId} {op : Operation} {l l' : Lock}
    (hop : ∀ r' field interruptAccept traced, op = .put r' field interruptAccept traced →
      r' = r ∧ field ≠ .TSIZ true ∧ field ≠ .TFIL true)
    (hnested : Nested (code port op) l l') : rank r l < rank r l' := by
  cases op with
  | put r' field interruptAccept traced =>
      obtain ⟨rfl, hsize, hfile⟩ := hop _ _ _ _ rfl
      obtain ⟨hne, rfl | ⟨-, -, hfield⟩⟩ := nested_put hnested
      · cases l' with
        | lockTrace => simp [rank]
        | dbScanLock r' =>
            have hr : r' ≠ _ := fun h => hne (congrArg Lock.dbScanLock h)
            simp [rank, hr]
      · exact absurd hfield (not_or_intro hsize hfile)
  | process r' prints =>
      obtain ⟨rfl, rfl⟩ := nested_process hnested
      show (if r' = r then 0 else 1) < 2
      split <;> decide
  | exception pdevice interruptAccept traced => exact absurd hnested not_nested_announce

/-- Two records on a port without devices. -/
def twoRecords : Port := ⟨fun _ => none, [], fun _ => [0, 1]⟩

def after (actions : List (Action Operation ThreadId)) : State Lock ThreadId :=
  ((machine twoRecords).exec .start actions).getD .start

/-- Puts to `TMSK` of record 0 only. -/
def onlyFirst (_ : State Lock ThreadId) : Action Operation ThreadId → Bool
  | .start _ (.put r field _ _) => r = 0 ∧ field = .TMSK
  | _ => true

/-- A put to record 0 waits for record 1, which prints, and an exception waits for record 0. -/
theorem locks_in_order_example :
    ∃ s, (machine twoRecords).Reachable (Admissible twoRecords) s ∧
      (WaitsFor s 0 1 ∧ WaitsFor s 2 0) ∧ ¬ Deadlock s := by
  let actions : List (Action Operation ThreadId) :=
    [.start 0 (.put 0 .TMSK true fun _ => false), .start 1 (.process 1 1),
      .start 2 (.exception none true fun _ => false), .run 0, .run 1, .run 0, .run 0]
  have hrank : ∀ s a, onlyFirst s a = true → ∀ t op, a = .start t op → ∀ l l',
      Nested (code twoRecords op) l l' → rank 0 l < rank 0 l' := by
    rintro s a hcheck t op rfl l l' hnested
    refine nested_rank ?_ hnested
    rintro r field interruptAccept traced rfl
    obtain ⟨rfl, rfl⟩ := of_decide_eq_true hcheck
    exact ⟨rfl, nofun, nofun⟩
  have hreach : (machine twoRecords).Reachable (Admissible twoRecords) (after actions) := by
    have hrun : (machine twoRecords).execGuarded onlyFirst .start actions = some (after actions) := rfl
    refine Machine.reachable_of_execGuarded
      (I := fun s => ∀ l l', Order s l l' → rank 0 l < rank 0 l') ?_ ?_ rfl ?_ hrun
    · intro s a hinv hcheck
      cases a with
      | start t op => exact ordered_of_rank hinv (hrank s _ hcheck t op rfl) t
      | run t => exact trivial
    · intro s a s' hinv hcheck hstep l l' horder
      have hstep : LockOrder.step (code twoRecords) s a = some s' := hstep
      rcases order_step hstep horder with hold | ⟨t, op, rfl, hnew⟩
      · exact hinv l l' hold
      · exact hrank s _ hcheck t op rfl l l' hnew
    · rintro l l' ⟨t, hnested⟩
      exact absurd hnested not_nested_nil
  refine ⟨after actions, hreach, ?_, locks_in_order twoRecords _ hreach⟩
  exact ⟨⟨.dbScanLock 1, ⟨_, rfl⟩, ⟨0, rfl⟩, by decide⟩, .dbScanLock 0, ⟨_, rfl⟩, ⟨0, rfl⟩, by decide⟩

/-- A deadlock that is reached and never ends. -/
def BlockForEver (actions : List (Action Operation ThreadId)) : Prop :=
  (machine twoRecords).Reachable Machine.Unguarded (after actions) ∧ Deadlock (after actions) ∧
    ∀ s', (machine twoRecords).Path Machine.Unguarded (after actions) s' → Deadlock s'

/-- Each of two threads waits for a lock that the other owns. -/
theorem blockForEver_of_waits {actions : List (Action Operation ThreadId)}
    (hrun : (machine twoRecords).exec .start actions = some (after actions))
    (hfirst : WaitsFor (after actions) 0 1) (hsecond : WaitsFor (after actions) 1 0) :
    BlockForEver actions := by
  have hdead : Deadlock (after actions) := ⟨0, .tail (.single hfirst) hsecond⟩
  exact ⟨Machine.reachable_of_exec rfl hrun, hdead, fun s' hpath => deadlock_lasts hdead hpath⟩

/-- Two puts to `TMSK` of two records of one port, and a put to `TFIL` of one record with a traced
processing of the other. -/
theorem puts_deadlock :
    BlockForEver [.start 0 (.put 0 .TMSK true fun _ => false),
      .start 1 (.put 1 .TMSK true fun _ => false), .run 0, .run 1, .run 0, .run 0] ∧
    BlockForEver [.start 0 (.put 0 (.TFIL true) true fun _ => false), .start 1 (.process 1 1),
      .run 0, .run 1, .run 0, .run 0, .run 0] := by
  constructor
  · refine blockForEver_of_waits rfl ?_ ?_
    · exact ⟨.dbScanLock 1, ⟨_, rfl⟩, ⟨0, rfl⟩, by decide⟩
    · exact ⟨.dbScanLock 0, ⟨_, rfl⟩, ⟨0, rfl⟩, by decide⟩
  · refine blockForEver_of_waits rfl ?_ ?_
    · exact ⟨.dbScanLock 1, ⟨_, rfl⟩, ⟨0, rfl⟩, by decide⟩
    · exact ⟨.lockTrace, ⟨_, rfl⟩, ⟨0, rfl⟩, by decide⟩

end TraceLocks
end AsynRecord
end AsynDriver
