import AsynDriver.Library.LockOrder
import AsynDriver.Manager.Types

/-!
# The locks of output records with readback

A record with `asyn:READBACK` gets the values of its driver by interrupt callbacks.  The callback puts the
value into the record's ring buffer with `devPvtLock` held, and a callback thread then processes the
record: `outputCallbackCallback` holds the `dbScanLock` and `devPvtLock` around `dbProcess`, and that
processes the records that are linked to it as well.  On a port that cannot block, a processing that
does not take a value from its ring buffer writes to the driver at once.  The driver calls back with its
own lock held, and takes it in `write`.

* `Lock`, `Port` — the locks, and the clients of the interrupt callbacks.
* `driverMethod`, `queueRequest`, `processLo`, `processCommon`, `outputCallbackCallback` — the functions of
  the source, by the locks they take.
* `Operation`, `code` — what threads do; `machine` runs any number of operations at the same time.
* `ReadbackDeadlock` — a thread with the `devPvtLock` of a record waits for a lock of the driver, whose
  owner waits for this `devPvtLock`.
* `nested_code`, `crossing_code` — what is taken under what.
* `no_readback_deadlock` — what excludes such a deadlock; `readback_deadlock` is one.

`asynManagerLock` and the locks of the trace are left out, for none of the locks above is taken under
them, and so is a port that is not connected.  What the values are does not matter, but for the branch
of a processing, and this is a part of the operation, as are the records that `dbProcess` processes.
-/

namespace AsynDriver
namespace DevEpics
namespace ReadbackLocks

open Library
open Library.LockOrder
open Manager (ThreadId)

abbrev RecordId := Nat

/-- Linked records have one `dbScanLock`. -/
inductive Lock
  | dbScanLock (lockSet : Nat)
  | devPvtLock (r : RecordId)
  | synchronousLock
  | driverLock
  deriving DecidableEq, Repr

abbrev Code := Program Lock

inductive Device
  | devAsynInt32
  | devAsynOctet (ringSize : Nat)
  deriving DecidableEq, Repr

inductive ParamType
  | asynParamInt32
  | asynParamOctet
  deriving DecidableEq, Repr

/-- A node of an interrupt list. -/
structure Client where
  record : RecordId
  reason : Int
  address : Int
  deriving DecidableEq, Repr

structure Port where
  device : RecordId → Device
  lockSet : RecordId → Nat
  clientList : ParamType → List Client

/-- A flag of a parameter list: a parameter that changed.  `succeeded` is its status. -/
structure Flag where
  type : ParamType
  index : Int
  succeeded : Bool
  deriving DecidableEq, Repr

/-- A call of `callParamCallbacks`. -/
structure ParamCallbacks where
  addr : Int
  flags : List Flag
  deriving DecidableEq, Repr

/-- The driver's method refuses nothing here, and calls back as often as it likes. -/
inductive Request
  | refused
  | accepted (calls : List ParamCallbacks)
  deriving DecidableEq, Repr

inductive Branch
  | gotCallbackData
  | active
  | queueRequest (request : Request)
  deriving DecidableEq, Repr

structure Processing where
  record : RecordId
  branch : Branch
  deriving DecidableEq, Repr

/-! ## The driver -/

section Driver

variable (port : Port) (interruptAccept : Bool)

/-- `devAsynInt32`. -/
def interruptCallbackOutput (r : RecordId) : Code :=
  if interruptAccept then locked (.devPvtLock r) [] else []

/-- `devAsynOctet`: without a ring buffer the value goes to the record itself. -/
def interruptCallback (ringSize : Nat) (auxStatus : Bool) (r : RecordId) : Code :=
  if ringSize = 0 ∧ auxStatus then
    locked (.devPvtLock r) [] ++ locked (.dbScanLock (port.lockSet r)) [] ++ locked (.devPvtLock r) []
  else locked (.devPvtLock r) []

/-- The callback of a record. -/
def callback (auxStatus : Bool) (r : RecordId) : Code :=
  match port.device r with
  | .devAsynInt32 => interruptCallbackOutput interruptAccept r
  | .devAsynOctet ringSize => interruptCallback port ringSize auxStatus r

/-- The clients of a parameter; an address of -1 stands for 0. -/
def clientsOf (type : ParamType) (command addr : Int) : List Client :=
  (port.clientList type).filter fun client =>
    command = client.reason ∧ (if client.address = -1 then 0 else client.address) = addr

/-- `int32Callback` and `octetCallback`. -/
def paramCallback (type : ParamType) (status : Bool) (command addr : Int) : Code :=
  (clientsOf port type command addr).flatMap fun client =>
    callback port interruptAccept status client.record

def int32Callback (status : Bool) (command addr : Int) : Code :=
  paramCallback port interruptAccept .asynParamInt32 status command addr

def octetCallback (status : Bool) (command addr : Int) : Code :=
  paramCallback port interruptAccept .asynParamOctet status command addr

def flagCallback (addr : Int) (flag : Flag) : Code :=
  match flag.type with
  | .asynParamInt32 => int32Callback port interruptAccept flag.succeeded flag.index addr
  | .asynParamOctet => octetCallback port interruptAccept flag.succeeded flag.index addr

def callCallbacks (flags : List Flag) (addr : Int) : Code :=
  if interruptAccept then flags.flatMap (flagCallback port interruptAccept addr) else []

def callParamCallbacks (call : ParamCallbacks) : Code :=
  callCallbacks port interruptAccept call.flags call.addr

/-- What the driver does with its lock held: `writeInt32`, `writeOctet`, or an update of a thread of its
own. -/
def driverMethod (calls : List ParamCallbacks) : Code :=
  locked .driverLock (calls.flatMap (callParamCallbacks port interruptAccept))

/-! ## The records -/

def processCallbackOutput (calls : List ParamCallbacks) : Code :=
  driverMethod port interruptAccept calls

/-- For a port that cannot block. -/
def queueRequest : Request → Code
  | .refused => []
  | .accepted calls =>
      locked .synchronousLock (processCallbackOutput port interruptAccept calls)

def getCallbackValue (r : RecordId) : Code := locked (.devPvtLock r) []

/-- `devAsynInt32`; `processAo`, `processBo` and `processMbbo` take the same locks. -/
def processLo (newOutputCallbackValue : Bool) (r : RecordId) (branch : Branch) : Code :=
  let value := if newOutputCallbackValue then getCallbackValue r else []
  match branch with
  | .gotCallbackData => locked (.devPvtLock r) value
  | .active => locked (.devPvtLock r) value
  | .queueRequest request =>
      -- The lock is released around the request and taken again for what is left to do.
      locked (.devPvtLock r) value ++ queueRequest port interruptAccept request ++
        locked (.devPvtLock r) []

/-- `devAsynOctet`: data from a ring buffer are copied with the lock taken once more. -/
def processCommon (ringSize : Nat) (newOutputCallbackValue : Bool) (r : RecordId) (branch : Branch) :
    Code :=
  let value := if ringSize ≠ 0 ∧ newOutputCallbackValue then getCallbackValue r else []
  match branch with
  | .gotCallbackData =>
      locked (.devPvtLock r) (value ++ if ringSize = 0 then [] else locked (.devPvtLock r) [])
  | .active => locked (.devPvtLock r) value
  | .queueRequest request =>
      locked (.devPvtLock r) value ++ queueRequest port interruptAccept request ++
        locked (.devPvtLock r) []

def process (newOutputCallbackValue : Bool) (processing : Processing) : Code :=
  match port.device processing.record with
  | .devAsynInt32 =>
      processLo port interruptAccept newOutputCallbackValue processing.record processing.branch
  | .devAsynOctet ringSize =>
      processCommon port interruptAccept ringSize newOutputCallbackValue processing.record
        processing.branch

/-- The record and those that are linked to it, in the order of their processing.
`newOutputCallbackValue` is set for one record at most. -/
def dbProcess (readback : Option RecordId) (processed : List Processing) : Code :=
  processed.flatMap fun processing =>
    process port interruptAccept (readback = some processing.record) processing

/-- `notProcessed`: `newOutputCallbackValue` is still set after `dbProcess`. -/
def outputCallbackCallback (r : RecordId) (processed : List Processing) (notProcessed : Bool) : Code :=
  locked (.dbScanLock (port.lockSet r)) (locked (.devPvtLock r)
    (dbProcess port interruptAccept (some r) processed ++
      if notProcessed then getCallbackValue r else []))

end Driver

/-! ## What threads do -/

/-- An update of the driver, a callback thread with a readback, and any other processing. -/
inductive Operation
  | update (interruptAccept : Bool) (calls : List ParamCallbacks)
  | outputCallback (interruptAccept : Bool) (r : RecordId) (processed : List Processing)
      (notProcessed : Bool)
  | process (interruptAccept : Bool) (r : RecordId) (processed : List Processing)
  deriving DecidableEq, Repr

def code (port : Port) : Operation → Code
  | .update interruptAccept calls => driverMethod port interruptAccept calls
  | .outputCallback interruptAccept r processed notProcessed =>
      outputCallbackCallback port interruptAccept r processed notProcessed
  | .process interruptAccept r processed =>
      locked (.dbScanLock (port.lockSet r)) (dbProcess port interruptAccept none processed)

def machine (port : Port) : Machine (State Lock ThreadId) (Action Operation ThreadId) :=
  LockOrder.machine (code port)

/-- With the `devPvtLock` of a record a thread waits for the lock, and its owner for this `devPvtLock`. -/
def ReadbackDeadlock (l : Lock) (s : State Lock ThreadId) : Prop :=
  ∃ t u r, WaitsAt s t l u ∧ WaitsAt s u (.devPvtLock r) t

/-- An operation starts only where there are no two places, one of them in it and the other one in the
rest of another operation in progress, at which one comes to the lock with a `devPvtLock` held, the other
one to this `devPvtLock` with the lock held, and no third lock is held at both. -/
def Admissible (port : Port) (l : Lock) (s : State Lock ThreadId) (a : Action Operation ThreadId) : Prop :=
  Uncrossed (code port) (fun l₁ l₂ => l₂ = l ∧ ∃ r, l₁ = .devPvtLock r) s a

/-! ## Brackets -/

section Brackets

variable (port : Port) (interruptAccept : Bool)

theorem balanced_callback (auxStatus : Bool) (r : RecordId) :
    Balanced (callback port interruptAccept auxStatus r) := by
  have hlocked : ∀ l : Lock, Balanced (locked l []) := fun l => balanced_nil.locked l
  unfold callback
  cases port.device r with
  | devAsynInt32 =>
      show Balanced (interruptCallbackOutput interruptAccept r)
      unfold interruptCallbackOutput
      split
      · exact hlocked _
      · exact balanced_nil
  | devAsynOctet ringSize =>
      show Balanced (interruptCallback port ringSize auxStatus r)
      unfold interruptCallback
      split
      · exact ((hlocked _).append (hlocked _)).append (hlocked _)
      · exact hlocked _

theorem flagCallback_eq (addr : Int) (flag : Flag) :
    flagCallback port interruptAccept addr flag =
      paramCallback port interruptAccept flag.type flag.succeeded flag.index addr := by
  unfold flagCallback
  cases flag.type <;> rfl

theorem balanced_paramCallback (type : ParamType) (status : Bool) (command addr : Int) :
    Balanced (paramCallback port interruptAccept type status command addr) :=
  Balanced.flatMap (fun client : Client => balanced_callback port interruptAccept status client.record) _

theorem balanced_callParamCallbacks (call : ParamCallbacks) :
    Balanced (callParamCallbacks port interruptAccept call) := by
  unfold callParamCallbacks callCallbacks
  split
  · refine Balanced.flatMap (fun flag => ?_) _
    rw [flagCallback_eq]
    exact balanced_paramCallback _ _ _ _ _ _
  · exact balanced_nil

theorem balanced_calls (calls : List ParamCallbacks) :
    Balanced (calls.flatMap (callParamCallbacks port interruptAccept)) :=
  Balanced.flatMap (balanced_callParamCallbacks port interruptAccept) calls

theorem balanced_driverMethod (calls : List ParamCallbacks) :
    Balanced (driverMethod port interruptAccept calls) := (balanced_calls _ _ _).locked _

theorem balanced_queueRequest (request : Request) :
    Balanced (queueRequest port interruptAccept request) := by
  cases request with
  | refused => exact balanced_nil
  | accepted calls => exact (balanced_driverMethod _ _ _).locked _

/-- A value is taken from the ring buffer, or not. -/
theorem balanced_value (p : Prop) [Decidable p] (r : RecordId) :
    Balanced (if p then getCallbackValue r else []) := by
  split
  · exact balanced_nil.locked _
  · exact balanced_nil

theorem balanced_process (newOutputCallbackValue : Bool) (processing : Processing) :
    Balanced (process port interruptAccept newOutputCallbackValue processing) := by
  obtain ⟨r, branch⟩ := processing
  have hend : Balanced (locked (Lock.devPvtLock r) []) := balanced_nil.locked _
  have hvalue : ∀ (p : Prop) [Decidable p],
      Balanced (locked (.devPvtLock r) (if p then getCallbackValue r else [])) :=
    fun p _ => (balanced_value p r).locked _
  unfold process
  simp only
  cases port.device r with
  | devAsynInt32 =>
      show Balanced (processLo port interruptAccept newOutputCallbackValue r branch)
      cases branch with
      | gotCallbackData => exact hvalue _
      | active => exact hvalue _
      | queueRequest request =>
          exact ((hvalue _).append (balanced_queueRequest _ _ request)).append hend
  | devAsynOctet ringSize =>
      show Balanced (processCommon port interruptAccept ringSize newOutputCallbackValue r branch)
      cases branch with
      | gotCallbackData =>
          refine ((balanced_value _ r).append ?_).locked _
          split
          · exact balanced_nil
          · exact hend
      | active => exact hvalue _
      | queueRequest request =>
          exact ((hvalue _).append (balanced_queueRequest _ _ request)).append hend

theorem balanced_dbProcess (readback : Option RecordId) (processed : List Processing) :
    Balanced (dbProcess port interruptAccept readback processed) :=
  Balanced.flatMap (fun processing => balanced_process port interruptAccept _ processing) _

theorem balanced_code (op : Operation) : Balanced (code port op) := by
  cases op with
  | update interruptAccept calls => exact balanced_driverMethod _ _ _
  | outputCallback interruptAccept r processed notProcessed =>
      exact (((balanced_dbProcess _ _ _ _).append (balanced_value _ r)).locked _).locked _
  | process interruptAccept r processed => exact (balanced_dbProcess _ _ _ _).locked _

end Brackets

/-! ## What is taken under what -/

/-- The records that a method of the driver calls back. -/
def callees (port : Port) (calls : List ParamCallbacks) : List RecordId :=
  calls.flatMap fun call => call.flags.flatMap fun flag =>
    (clientsOf port flag.type flag.index call.addr).map Client.record

/-- The methods of the driver that a processing calls. -/
def Processing.methods (processing : Processing) : List (List ParamCallbacks) :=
  match processing.branch with
  | .queueRequest (.accepted calls) => [calls]
  | _ => []

def Operation.methods : Operation → List (List ParamCallbacks)
  | .update _ calls => [calls]
  | .outputCallback _ _ processed _ => processed.flatMap Processing.methods
  | .process _ _ processed => processed.flatMap Processing.methods

section Nestings

variable {port : Port} {interruptAccept : Bool} {l l' : Lock}

theorem not_nested_callback {auxStatus : Bool} {r : RecordId} :
    ¬ Nested (callback port interruptAccept auxStatus r) l l' := by
  intro hnested
  unfold callback at hnested
  cases hdevice : port.device r with
  | devAsynInt32 =>
      rw [hdevice] at hnested
      simp only [interruptCallbackOutput] at hnested
      split at hnested
      · exact not_nested_locked_nil hnested
      · exact not_nested_nil hnested
  | devAsynOctet ringSize =>
      rw [hdevice] at hnested
      simp only [interruptCallback] at hnested
      split at hnested
      · rcases nested_append (balanced_nil.locked _) hnested with hfirst | hlast
        · rcases nested_append (balanced_nil.locked _) hfirst with hfirst | hscan
          · exact not_nested_locked_nil hfirst
          · exact not_nested_locked_nil hscan
        · exact not_nested_locked_nil hlast
      · exact not_nested_locked_nil hnested

theorem not_nested_calls {calls : List ParamCallbacks} :
    ¬ Nested (calls.flatMap (callParamCallbacks port interruptAccept)) l l' := by
  intro hnested
  obtain ⟨call, -, hcall⟩ := nested_flatMap (balanced_callParamCallbacks _ _) hnested
  unfold callParamCallbacks callCallbacks at hcall
  split at hcall
  · obtain ⟨flag, -, hflag⟩ := nested_flatMap (fun flag => by
      rw [flagCallback_eq]
      exact balanced_paramCallback _ _ _ _ _ _) hcall
    rw [flagCallback_eq] at hflag
    obtain ⟨client, -, hclient⟩ :=
      nested_flatMap (fun client : Client => balanced_callback _ _ _ client.record) hflag
    exact not_nested_callback hclient
  · exact not_nested_nil hcall

/-- A callback takes the `devPvtLock` of its own record only, and none of the driver's locks. -/
theorem acquire_mem_callback {auxStatus : Bool} {r : RecordId}
    (hmem : .acquire l ∈ callback port interruptAccept auxStatus r) :
    l = .devPvtLock r ∨ l = .dbScanLock (port.lockSet r) := by
  unfold callback at hmem
  cases hdevice : port.device r with
  | devAsynInt32 =>
      rw [hdevice] at hmem
      simp only [interruptCallbackOutput] at hmem
      split at hmem
      · exact .inl ((acquire_mem_locked.mp hmem).resolve_right (nomatch ·))
      · exact nomatch hmem
  | devAsynOctet ringSize =>
      rw [hdevice] at hmem
      simp only [interruptCallback] at hmem
      split at hmem
      · rcases List.mem_append.mp hmem with hmem | hlast
        · rcases List.mem_append.mp hmem with hfirst | hscan
          · exact .inl ((acquire_mem_locked.mp hfirst).resolve_right (nomatch ·))
          · exact .inr ((acquire_mem_locked.mp hscan).resolve_right (nomatch ·))
        · exact .inl ((acquire_mem_locked.mp hlast).resolve_right (nomatch ·))
      · exact .inl ((acquire_mem_locked.mp hmem).resolve_right (nomatch ·))

theorem acquire_mem_calls {calls : List ParamCallbacks}
    (hmem : .acquire l ∈ calls.flatMap (callParamCallbacks port interruptAccept)) :
    ∃ r ∈ callees port calls, l = .devPvtLock r ∨ l = .dbScanLock (port.lockSet r) := by
  obtain ⟨call, hcall, hmem⟩ := List.mem_flatMap.mp hmem
  unfold callParamCallbacks callCallbacks at hmem
  split at hmem
  · obtain ⟨flag, hflag, hmem⟩ := List.mem_flatMap.mp hmem
    rw [flagCallback_eq] at hmem
    obtain ⟨client, hclient, hmem⟩ := List.mem_flatMap.mp hmem
    refine ⟨client.record, ?_, acquire_mem_callback hmem⟩
    refine List.mem_flatMap.mpr ⟨call, hcall, List.mem_flatMap.mpr ⟨flag, hflag, ?_⟩⟩
    exact List.mem_map_of_mem hclient
  · exact nomatch hmem

theorem nested_driverMethod {calls : List ParamCallbacks}
    (hnested : Nested (driverMethod port interruptAccept calls) l l') :
    l = .driverLock ∧ ∃ r ∈ callees port calls, l' = .devPvtLock r ∨ l' = .dbScanLock (port.lockSet r) := by
  obtain ⟨-, ⟨hl, hmem⟩ | hinner⟩ := nested_locked (balanced_calls _ _ _) hnested
  · exact ⟨hl, acquire_mem_calls hmem⟩
  · exact absurd hinner not_nested_calls

theorem nested_queueRequest {request : Request}
    (hnested : Nested (queueRequest port interruptAccept request) l l') :
    ∃ calls, request = .accepted calls ∧ (l = .synchronousLock ∨
      l = .driverLock ∧ ∃ r ∈ callees port calls, l' = .devPvtLock r ∨ l' = .dbScanLock (port.lockSet r)) := by
  cases request with
  | refused => exact absurd hnested not_nested_nil
  | accepted calls =>
      refine ⟨calls, rfl, ?_⟩
      obtain ⟨-, ⟨hl, -⟩ | hinner⟩ := nested_locked (balanced_driverMethod _ _ _) hnested
      · exact .inl hl
      · exact .inr (nested_driverMethod hinner)

theorem acquire_mem_value {p : Prop} [Decidable p] {r : RecordId}
    (hmem : .acquire l ∈ if p then getCallbackValue r else []) : l = .devPvtLock r := by
  split at hmem
  · exact (acquire_mem_locked.mp hmem).resolve_right (nomatch ·)
  · exact nomatch hmem

/-- A processing holds its `devPvtLock` around nothing else. -/
theorem nested_process {newOutputCallbackValue : Bool} {processing : Processing}
    (hnested : Nested (process port interruptAccept newOutputCallbackValue processing) l l') :
    ∃ request, processing.branch = .queueRequest request ∧
      Nested (queueRequest port interruptAccept request) l l' := by
  obtain ⟨r, branch⟩ := processing
  have hvalue : ∀ (p : Prop) [Decidable p],
      ¬ Nested (locked (.devPvtLock r) (if p then getCallbackValue r else [])) l l' :=
    fun p _ => not_nested_locked (balanced_value p r) fun _ hmem => acquire_mem_value hmem
  have hrequest : ∀ (p : Prop) [Decidable p] request,
      Nested (locked (.devPvtLock r) (if p then getCallbackValue r else []) ++
        queueRequest port interruptAccept request ++ locked (.devPvtLock r) []) l l' →
      Nested (queueRequest port interruptAccept request) l l' := by
    intro p _ request hnested
    rcases nested_append (balanced_nil.locked _) hnested with hnested | hlast
    · rcases nested_append (balanced_queueRequest _ _ _) hnested with hfirst | hrequest
      · exact absurd hfirst (hvalue p)
      · exact hrequest
    · exact absurd hlast not_nested_locked_nil
  unfold process at hnested
  simp only at hnested
  cases hdevice : port.device r with
  | devAsynInt32 =>
      rw [hdevice] at hnested
      cases branch with
      | gotCallbackData => exact absurd hnested (hvalue _)
      | active => exact absurd hnested (hvalue _)
      | queueRequest request => exact ⟨request, rfl, hrequest _ request hnested⟩
  | devAsynOctet ringSize =>
      rw [hdevice] at hnested
      cases branch with
      | gotCallbackData =>
          refine absurd hnested (not_nested_locked ?_ ?_)
          · refine (balanced_value _ r).append ?_
            split
            · exact balanced_nil
            · exact balanced_nil.locked _
          · intro l' hmem
            rcases List.mem_append.mp hmem with hvalue | hcopy
            · exact acquire_mem_value hvalue
            · split at hcopy
              · cases hcopy
              · exact (acquire_mem_locked.mp hcopy).resolve_right List.not_mem_nil
      | active => exact absurd hnested (hvalue _)
      | queueRequest request => exact ⟨request, rfl, hrequest _ request hnested⟩

theorem nested_dbProcess {readback : Option RecordId} {processed : List Processing}
    (hnested : Nested (dbProcess port interruptAccept readback processed) l l') :
    l = .synchronousLock ∨ l = .driverLock ∧ ∃ calls ∈ processed.flatMap Processing.methods,
      ∃ r ∈ callees port calls, l' = .devPvtLock r ∨ l' = .dbScanLock (port.lockSet r) := by
  obtain ⟨processing, hprocessing, hnested⟩ :=
    nested_flatMap (fun processing => balanced_process _ _ _ processing) hnested
  obtain ⟨request, hbranch, hrequest⟩ := nested_process hnested
  obtain ⟨calls, rfl, hl | ⟨hl, hcallee⟩⟩ := nested_queueRequest hrequest
  · exact .inl hl
  · refine .inr ⟨hl, calls, List.mem_flatMap.mpr ⟨processing, hprocessing, ?_⟩, hcallee⟩
    unfold Processing.methods
    rw [hbranch]
    exact List.mem_singleton_self _

/-- Only a readback takes another lock with a `devPvtLock` held, that of its record; with the driver's own
lock held only the callbacks take any. -/
theorem nested_code {op : Operation} (hnested : Nested (code port op) l l') :
    (∃ lockSet, l = .dbScanLock lockSet) ∨
    (∃ interruptAccept r processed notProcessed,
      op = .outputCallback interruptAccept r processed notProcessed ∧ l = .devPvtLock r ∧
        l' ≠ .devPvtLock r ∧ .acquire l' ∈ dbProcess port interruptAccept (some r) processed) ∨
    l = .synchronousLock ∨
    l = .driverLock ∧ ∃ calls ∈ op.methods, ∃ r ∈ callees port calls,
      l' = .devPvtLock r ∨ l' = .dbScanLock (port.lockSet r) := by
  cases op with
  | update interruptAccept calls =>
      obtain ⟨hl, hcallee⟩ := nested_driverMethod hnested
      exact .inr (.inr (.inr ⟨hl, calls, List.mem_singleton_self _, hcallee⟩))
  | outputCallback interruptAccept r processed notProcessed =>
      have hinside := (balanced_dbProcess port interruptAccept (some r) processed).append
        (balanced_value (notProcessed = true) r)
      obtain ⟨-, ⟨hscan, -⟩ | hnested⟩ := nested_locked (hinside.locked _) hnested
      · exact .inl ⟨_, hscan⟩
      · obtain ⟨hne, ⟨hl, hmem⟩ | hnested⟩ := nested_locked hinside hnested
        · refine .inr (.inl ⟨interruptAccept, r, processed, notProcessed, rfl, hl, hne, ?_⟩)
          exact (List.mem_append.mp hmem).resolve_right fun h => hne (acquire_mem_value h)
        · rcases nested_append (balanced_value _ _) hnested with hprocess | hvalue
          · exact .inr (.inr (nested_dbProcess hprocess))
          · split at hvalue
            · exact absurd hvalue not_nested_locked_nil
            · exact absurd hvalue not_nested_nil
  | process interruptAccept r processed =>
      obtain ⟨-, ⟨hscan, -⟩ | hnested⟩ := nested_locked (balanced_dbProcess _ _ _ _) hnested
      · exact .inl ⟨_, hscan⟩
      · exact .inr (.inr (nested_dbProcess hnested))

/-- A processing that does not write takes its `devPvtLock` only. -/
theorem acquire_mem_process {newOutputCallbackValue : Bool} {processing : Processing}
    (hmem : .acquire l ∈ process port interruptAccept newOutputCallbackValue processing)
    (hnone : processing.methods = []) : l = .devPvtLock processing.record := by
  obtain ⟨r, branch⟩ := processing
  have hvalue : ∀ (p : Prop) [Decidable p],
      .acquire l ∈ locked (.devPvtLock r) (if p then getCallbackValue r else []) →
        l = .devPvtLock r :=
    fun p _ hmem => (acquire_mem_locked.mp hmem).elim id acquire_mem_value
  have hend : .acquire l ∈ locked (.devPvtLock r) [] → l = .devPvtLock r :=
    fun hmem => (acquire_mem_locked.mp hmem).resolve_right (nomatch ·)
  have hrefused : ∀ (p : Prop) [Decidable p],
      .acquire l ∈ locked (.devPvtLock r) (if p then getCallbackValue r else []) ++ [] ++
        locked (.devPvtLock r) [] → l = .devPvtLock r := by
    intro p _ hmem
    rw [List.append_nil] at hmem
    exact (List.mem_append.mp hmem).elim (hvalue p) hend
  unfold process at hmem
  simp only at hmem
  cases hdevice : port.device r with
  | devAsynInt32 =>
      rw [hdevice] at hmem
      cases branch with
      | gotCallbackData => exact hvalue _ hmem
      | active => exact hvalue _ hmem
      | queueRequest request =>
          cases request with
          | refused => exact hrefused _ hmem
          | accepted calls => exact nomatch hnone
  | devAsynOctet ringSize =>
      rw [hdevice] at hmem
      cases branch with
      | gotCallbackData =>
          rcases acquire_mem_locked.mp hmem with hl | hmem
          · exact hl
          · rcases List.mem_append.mp hmem with hmem | hcopy
            · exact acquire_mem_value hmem
            · split at hcopy
              · exact nomatch hcopy
              · exact hend hcopy
      | active => exact hvalue _ hmem
      | queueRequest request =>
          cases request with
          | refused => exact hrefused _ hmem
          | accepted calls => exact nomatch hnone

/-- Two operations cross at the driver's lock only where one is a readback that writes, to whichever record,
and the other one calls back the record of the readback. -/
theorem crossing_code {op op' : Operation} {r : RecordId}
    (hcrossing : Crossing (code port op) (code port op') (.devPvtLock r) .driverLock) :
    (∃ interruptAccept processed notProcessed,
      op = .outputCallback interruptAccept r processed notProcessed ∧ op.methods ≠ []) ∧
    ∃ calls ∈ op'.methods, r ∈ callees port calls := by
  constructor
  · rcases nested_code hcrossing.nested_left with ⟨_, hl⟩ | hreadback | hl | ⟨hl, -⟩
    · exact nomatch hl
    · obtain ⟨interruptAccept, r', processed, notProcessed, rfl, hr, -, hmem⟩ := hreadback
      cases hr
      refine ⟨interruptAccept, processed, notProcessed, rfl, ?_⟩
      intro hnone
      obtain ⟨processing, hprocessing, hmem⟩ := List.mem_flatMap.mp hmem
      exact nomatch acquire_mem_process hmem (List.flatMap_eq_nil_iff.mp hnone _ hprocessing)
    · exact nomatch hl
    · exact nomatch hl
  · rcases nested_code hcrossing.nested_right with ⟨_, hl⟩ | hreadback | hl | ⟨-, calls, hcalls, hcallee⟩
    · exact nomatch hl
    · obtain ⟨_, _, _, _, -, hl, -⟩ := hreadback
      exact nomatch hl
    · exact nomatch hl
    · obtain ⟨r', hr, hl | hl⟩ := hcallee
      · cases hl
        exact ⟨calls, hcalls, hr⟩
      · exact nomatch hl

end Nestings

/-! ## The results -/

/-- In every run whose operations do not cross at the lock, no thread with the `devPvtLock` of a record
waits for the lock while the lock's owner waits for this `devPvtLock`. -/
theorem no_readback_deadlock (port : Port) (l : Lock) (s : State Lock ThreadId)
    (hreach : (machine port).Reachable (Admissible port l) s) : ¬ ReadbackDeadlock l s := by
  rintro ⟨t, u, r, hwait, hback⟩
  exact not_waitsAt_of_reachable (balanced_code port) hreach ⟨rfl, r, rfl⟩ hwait hback

/-- Records 0 and 1 with readbacks of the parameters 0 and 1; record 1 is linked to record 0. -/
def linkedRecords (device : Device) : Port where
  device := fun _ => device
  lockSet := fun _ => 0
  clientList := fun
    | .asynParamInt32 => if device = .devAsynInt32 then [⟨0, 0, -1⟩, ⟨1, 1, -1⟩] else []
    | .asynParamOctet => if device = .devAsynInt32 then [] else [⟨0, 0, -1⟩, ⟨1, 1, -1⟩]

/-- The driver calls back for a parameter. -/
def updated (device : Device) (index : Int) : List ParamCallbacks :=
  [⟨0, [⟨if device = .devAsynInt32 then .asynParamInt32 else .asynParamOctet, index, true⟩]⟩]

/-- The readback of record 0, and the write of record 1. -/
def readback (device : Device) : Operation :=
  .outputCallback true 0 [⟨0, .gotCallbackData⟩, ⟨1, .queueRequest (.accepted (updated device 1))⟩] false

def after (device : Device) (actions : List (Action Operation ThreadId)) : State Lock ThreadId :=
  ((machine (linkedRecords device)).exec .start actions).getD .start

/-- The two threads 0 and 1 start operations that do not cross. -/
def uncrossed (s : State Lock ThreadId) : Action Operation ThreadId → Bool
  | .start t op => t < 2 && !crosses (code (linkedRecords .devAsynInt32) op) (s.program (1 - t)) &&
      !crosses (s.program (1 - t)) (code (linkedRecords .devAsynInt32) op)
  | .run _ => true

theorem other_thread {t u : Nat} (ht : t < 2) (hu : u < 2) (hne : u ≠ t) : 1 - t = u := by
  omega

/-- An update of parameter 0, then its readback, which waits for the driver's lock: an update of parameter
1 has it. -/
theorem no_readback_deadlock_example :
    ∃ s, (machine (linkedRecords .devAsynInt32)).Reachable
        (Admissible (linkedRecords .devAsynInt32) .driverLock) s ∧
      WaitsAt s 1 .driverLock 0 ∧ ¬ ReadbackDeadlock .driverLock s := by
  let actions : List (Action Operation ThreadId) :=
    Action.start 0 (Operation.update true (updated .devAsynInt32 0)) :: List.replicate 4 (Action.run 0) ++
      Action.start 1 (readback .devAsynInt32) :: List.replicate 9 (Action.run 1) ++
      [Action.start 0 (Operation.update true (updated .devAsynInt32 1)), .run 0]
  have hreach : (machine (linkedRecords .devAsynInt32)).Reachable
      (Admissible (linkedRecords .devAsynInt32) .driverLock) (after .devAsynInt32 actions) := by
    have hrun : (machine (linkedRecords .devAsynInt32)).execGuarded uncrossed .start actions =
        some (after .devAsynInt32 actions) := rfl
    refine Machine.reachable_of_execGuarded (I := fun s => ∀ t, 2 ≤ t → s.program t = [])
      ?_ ?_ rfl (fun _ _ => rfl) hrun
    · intro s a hidle hcheck
      cases a with
      | run t => exact trivial
      | start t op =>
          intro u hne l l' _
          simp only [uncrossed, Bool.and_eq_true, decide_eq_true_eq, Bool.not_eq_true'] at hcheck
          obtain ⟨⟨ht, hleft⟩, hright⟩ := hcheck
          by_cases hu : u < 2
          · have hother : 1 - t = u := other_thread ht hu hne
            rw [hother] at hleft hright
            exact ⟨fun h => Bool.eq_false_iff.mp hleft h.crosses,
              fun h => Bool.eq_false_iff.mp hright h.crosses⟩
          · rw [hidle u (Nat.le_of_not_lt hu)]
            exact ⟨fun h => not_nested_nil h.nested_right, fun h => not_nested_nil h.nested_left⟩
    · intro s a s' hidle hcheck hmachine u hu
      have hstep : LockOrder.step (code (linkedRecords .devAsynInt32)) s a = some s' := hmachine
      cases a with
      | start t op =>
          simp only [uncrossed, Bool.and_eq_true, decide_eq_true_eq] at hcheck
          obtain ⟨-, rfl⟩ := step_start hstep
          have hne : u ≠ t := Nat.ne_of_gt (Nat.lt_of_lt_of_le hcheck.1.1 hu)
          simp only [Function.update_of_ne hne]
          exact hidle u hu
      | run t =>
          obtain ⟨i, rest, lock, hprogram, -, rfl⟩ := step_run hstep
          have hne : u ≠ t := by
            rintro rfl
            exact nomatch (hidle u hu).symm.trans hprogram
          simp only [Function.update_of_ne hne]
          exact hidle u hu
  exact ⟨_, hreach, ⟨⟨_, rfl⟩, ⟨0, rfl⟩, by decide⟩, no_readback_deadlock _ _ _ hreach⟩

/-- A readback deadlock that is reached and never ends. -/
def BlockForEver (device : Device) (actions : List (Action Operation ThreadId)) : Prop :=
  (machine (linkedRecords device)).Reachable Machine.Unguarded (after device actions) ∧
    ReadbackDeadlock .driverLock (after device actions) ∧
    ∀ s', (machine (linkedRecords device)).Path Machine.Unguarded (after device actions) s' → Deadlock s'

theorem blockForEver_of_waits {device : Device} {actions : List (Action Operation ThreadId)}
    (hrun : (machine (linkedRecords device)).exec .start actions = some (after device actions))
    (hwait : WaitsAt (after device actions) 1 .driverLock 0)
    (hback : WaitsAt (after device actions) 0 (.devPvtLock 0) 1) : BlockForEver device actions := by
  have hdead : Deadlock (after device actions) :=
    ⟨1, .tail (.single ⟨_, hwait⟩) ⟨_, hback⟩⟩
  exact ⟨Machine.reachable_of_exec rfl hrun, ⟨1, 0, 0, hwait, hback⟩,
    fun s' hpath => deadlock_lasts hdead hpath⟩

/-- An update of parameter 0, and its readback together with another update of the parameter. -/
theorem readback_deadlock :
    BlockForEver .devAsynInt32
      (Action.start 0 (Operation.update true (updated .devAsynInt32 0)) :: List.replicate 4 (Action.run 0) ++
        Action.start 1 (readback .devAsynInt32) :: List.replicate 9 (Action.run 1) ++
        [Action.start 0 (Operation.update true (updated .devAsynInt32 0)), .run 0]) ∧
    BlockForEver (.devAsynOctet 1)
      (Action.start 0 (Operation.update true (updated (.devAsynOctet 1) 0)) ::
          List.replicate 4 (Action.run 0) ++
        Action.start 1 (readback (.devAsynOctet 1)) :: List.replicate 11 (Action.run 1) ++
        [Action.start 0 (Operation.update true (updated (.devAsynOctet 1) 0)), .run 0]) := by
  constructor
  · refine blockForEver_of_waits rfl ?_ ?_
    · exact ⟨⟨_, rfl⟩, ⟨0, rfl⟩, by decide⟩
    · exact ⟨⟨_, rfl⟩, ⟨0, rfl⟩, by decide⟩
  · refine blockForEver_of_waits rfl ?_ ?_
    · exact ⟨⟨_, rfl⟩, ⟨0, rfl⟩, by decide⟩
    · exact ⟨⟨_, rfl⟩, ⟨0, rfl⟩, by decide⟩

end ReadbackLocks
end DevEpics
end AsynDriver
