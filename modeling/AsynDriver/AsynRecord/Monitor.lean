import Mathlib.Data.Fin.Basic
import AsynDriver.AsynRecord.Options
import AsynDriver.Library.Machine
import AsynDriver.Library.Posting
import AsynDriver.PortDriver.ParamVal

/-!
# What the record of `asynRecord.c` posts

The record writes its fields in `process`, in `special` and in callbacks of the port thread.  `monitor`,
`monitorStatus`, `getOptions` and `getEos` post the fields that are new.

* `Field`, `Value` — the fields that are posted, and those that decide what is written.
* `monitorStatus`, `getOptions`, `getEos`, `asynCallbackProcess`, `monitor` — the functions.
* `Action`, `step` — puts of clients (`dbPut` stores, calls `special` and posts the one field),
  exceptions, processing and callbacks, in any order.

`interruptAccept` is set.  Every callback is one step; those of `special` run beside a put, for they do
not take the lock of the record.  They call `monitorStatus` without it, too: the runs are those in which
no two calls of `monitorStatus` overlap.  `AINP`, `TINP`, `BINP` and `ERRS` are left out.  `state` and
`gotValue` are left open: a processing takes any branch of `process`.
-/

namespace AsynDriver
namespace AsynRecord
namespace Monitor

open Library.Posting
open Options (OptionField)
open PortDriver (EpicsFloat64)

inductive Field
  | tmsk
  | tb (bit : Fin 6)
  | tiom
  | tib (bit : Fin 3)
  | tinm
  | tinb (bit : Fin 4)
  | tsiz
  | tfil
  | auct
  | cnct
  | enbl
  | option (f : OptionField)
  | lbaud
  | hostinfo
  | ieos
  | oeos
  | pcnct
  | reason
  | drvinfo
  | octetiv
  | optioniv
  | gpibiv
  | i32iv
  | ui32iv
  | f64iv
  | ucmd
  | acmd
  | nowt
  | nrrd
  | nord
  | nawt
  | spr
  | eomr
  | i32inp
  | ui32inp
  | f64inp
  | port
  | addr
  | tmod
  | iface
  | ofmt
  | ifmt
  deriving DecidableEq, Repr

inductive Value
  | int (v : Int)
  | text (s : String)
  | float (x : EpicsFloat64)
  deriving DecidableEq

namespace Value

/-- `!=`, or `strcmp` for a text. -/
def differ : Value → Value → Bool
  | .int x, .int y => decide (x ≠ y)
  | .text x, .text y => decide (x ≠ y)
  | .float x, .float y => !x.equals y
  | _, _ => true

def toInt : Value → Int
  | .int v => v
  | _ => 0

def toText : Value → String
  | .text s => s
  | _ => ""

def bit (b : Bool) : Value := .int (if b = true then 1 else 0)

theorem equals_iff {x y : EpicsFloat64} :
    x.equals y = true ↔
      x.isNaN = false ∧ y.isNaN = false ∧ (x = y ∨ x.isZero = true ∧ y.isZero = true) := by
  have hbits : (x.bits == y.bits) = true ↔ x = y := by
    rw [beq_iff_eq]
    exact ⟨fun hbits => congrArg EpicsFloat64.mk hbits, fun heq => heq ▸ rfl⟩
  simp only [EpicsFloat64.equals, Bool.and_eq_true, Bool.or_eq_true, Bool.not_eq_true', hbits,
    and_assoc]

theorem equals_symm {x y : EpicsFloat64} (hequals : x.equals y = true) : y.equals x = true := by
  obtain ⟨hx, hy, heq | ⟨hzero, hzero'⟩⟩ := equals_iff.mp hequals
  · exact equals_iff.mpr ⟨hy, hx, Or.inl heq.symm⟩
  · exact equals_iff.mpr ⟨hy, hx, Or.inr ⟨hzero', hzero⟩⟩

theorem equals_trans {x y z : EpicsFloat64} (hfirst : x.equals y = true) (hsecond : y.equals z = true) :
    x.equals z = true := by
  obtain ⟨hx, -, heq | ⟨hzero, -⟩⟩ := equals_iff.mp hfirst
  · rw [heq]
    exact hsecond
  · obtain ⟨-, hz, heq' | ⟨-, hzero'⟩⟩ := equals_iff.mp hsecond
    · rw [← heq']
      exact hfirst
    · exact equals_iff.mpr ⟨hx, hz, Or.inr ⟨hzero, hzero'⟩⟩

theorem differ_symm (x y : Value) (hsame : x.differ y = false) : y.differ x = false := by
  cases x <;> cases y
  case int.int x y => exact decide_eq_false (not_not.mpr (of_not_not (of_decide_eq_false hsame)).symm)
  case text.text x y => exact decide_eq_false (not_not.mpr (of_not_not (of_decide_eq_false hsame)).symm)
  case float.float x y =>
    have hequals : x.equals y = true := by rwa [differ, Bool.not_eq_false'] at hsame
    rw [differ, equals_symm hequals, Bool.not_true]
  all_goals cases hsame

theorem differ_trans (x y z : Value) (hfirst : x.differ y = false) (hsecond : y.differ z = false) :
    x.differ z = false := by
  cases x <;> cases y <;> cases z
  case int.int.int x y z =>
    have hxy : x = y := of_not_not (of_decide_eq_false hfirst)
    rw [hxy]
    exact hsecond
  case text.text.text x y z =>
    have hxy : x = y := of_not_not (of_decide_eq_false hfirst)
    rw [hxy]
    exact hsecond
  case float.float.float x y z =>
    have hxy : x.equals y = true := by rwa [differ, Bool.not_eq_false'] at hfirst
    have hyz : y.equals z = true := by rwa [differ, Bool.not_eq_false'] at hsecond
    rw [differ, equals_trans hxy hyz, Bool.not_true]
  all_goals first | cases hfirst | cases hsecond

def comparison : Comparison Value := ⟨differ, differ_symm, differ_trans⟩

end Value

/-- The fields of a record, with what is remembered of each in `old` and what the clients see. -/
abbrev RecordFields := Fields Field Value

/-- The fields that `monitorStatus` remembers and writes. -/
def statusFields : List Field :=
  [.tmsk, .tb 0, .tb 1, .tb 2, .tb 3, .tb 4, .tb 5, .tiom, .tib 0, .tib 1, .tib 2, .tinm, .tinb 0,
    .tinb 1, .tinb 2, .tinb 3, .tsiz, .auct, .cnct, .enbl]

/-- What `monitorStatus` posts before it looks at the trace file. -/
def traceOrder : List Field :=
  [.tmsk, .tb 0, .tb 1, .tb 2, .tb 3, .tb 4, .tb 5, .tiom, .tib 0, .tib 1, .tib 2, .tinm, .tinb 0,
    .tinb 1, .tinb 2, .tinb 3, .tsiz]

def connectOrder : List Field :=
  [.auct, .cnct, .pcnct, .reason, .drvinfo, .enbl, .octetiv, .optioniv, .gpibiv, .i32iv, .ui32iv, .f64iv]

/-- The fields that `getOptions` remembers, writes and posts. -/
def optionOrder : List Field :=
  [.option .baud, .lbaud, .option .prty, .option .sbit, .option .dbit, .option .mctl, .option .fctl,
    .option .ixon, .option .ixoff, .option .ixany, .option .drto, .hostinfo]

/-- The fields that `process` remembers. -/
def processFields : List Field := [.ucmd, .acmd, .nowt, .nrrd]

/-- What `monitor` posts. -/
def monitorOrder : List Field :=
  [.nrrd, .nord, .nowt, .nawt, .spr, .ucmd, .acmd, .eomr, .i32inp, .ui32inp, .f64inp]

/-! ## `monitorStatus` -/

/-- What `monitorStatus` is told: a call for one of the last three may fail. -/
structure Status where
  traceMask : BitVec 32
  traceIOMask : BitVec 32
  traceInfoMask : BitVec 32
  truncateSize : Int
  traceFile : Nat
  isAutoConnect : Option Int
  isConnected : Option Int
  isEnabled : Option Int

def Status.write (status : Status) (value : Field → Value) : Field → Value
  | .tmsk => .int status.traceMask.toInt
  | .tb bit => .bit (status.traceMask.getLsbD bit)
  | .tiom => .int status.traceIOMask.toInt
  | .tib bit => .bit (status.traceIOMask.getLsbD bit)
  | .tinm => .int status.traceInfoMask.toInt
  | .tinb bit => .bit (status.traceInfoMask.getLsbD bit)
  | .tsiz => .int status.truncateSize
  | .auct => .int (status.isAutoConnect.getD 0)
  | .cnct => .int (status.isConnected.getD 0)
  | .enbl => .int (status.isEnabled.getD 0)
  | f => value f

/-- A put: `bout` and `binp` store an array of `n` elements. -/
inductive Put
  | field (f : Field) (v : Value)
  | bout (n : Int)
  | binp (n : Int)
  deriving DecidableEq

/-- How far `dbPut` is; `connecting` is `connectDevice` behind its first `monitorStatus`. -/
inductive Stage
  | stored (p : Put)
  | connecting (p : Put)
  | special (p : Put)
  deriving DecidableEq

def Stage.target : Stage → Put
  | stored p => p
  | connecting p => p
  | special p => p

/-- `traceFd` is `old.traceFd`; `queued` says that the request of `process` waits for its callback. -/
structure State where
  fields : RecordFields
  traceFd : Nat
  put : Option Stage
  pact : Bool
  queued : Bool

namespace State

def assign (s : State) (value : Field → Value) : State :=
  { s with fields := s.fields.assign value }

def postAll (s : State) (order : List Field) : State :=
  { s with fields := s.fields.postAll Value.comparison order }

/-- Some other thread has changed the trace file. -/
def postTraceFile (s : State) (status : Status) : State :=
  if status.traceFile ≠ s.traceFd then
    { s with
      traceFd := status.traceFile
      fields :=
        (s.fields.assign (Function.update s.fields.value .tfil (.text "Unknown"))).post .tfil }
  else s

def monitorStatus (s : State) (status : Status) : State :=
  let s := { s with fields := (s.fields.remember statusFields).assign (status.write s.fields.value) }
  ((s.postAll traceOrder).postTraceFile status).postAll connectOrder

end State

/-! ## The callbacks of the port thread -/

structure OptionAnswers where
  answers : String → Options.Answer
  optbuff : String
  hostbuff : String

def optionFields (value : Field → Value) : Options.Fields where
  optioniv := decide ((value .optioniv).toInt ≠ 0)
  option f := (value (.option f)).toInt.toNat
  lbaud := (value .lbaud).toInt
  hostinfo := (value .hostinfo).toText

def writeOptions (options : Options.Fields) (value : Field → Value) : Field → Value
  | .option f => .int (options.option f)
  | .lbaud => .int options.lbaud
  | .hostinfo => .text options.hostinfo
  | f => value f

def getOptions (s : RecordFields) (a : OptionAnswers) : RecordFields :=
  let options := optionFields s.value
  if options.optioniv = true then
    let new := (Options.getOptions options a.answers a.optbuff a.hostbuff true).1
    ((s.remember optionOrder).assign (writeOptions new s.value)).postAll Value.comparison optionOrder
  else s

/-- The strings come with their escapes. -/
def getEos (s : RecordFields) (inputEos outputEos : String) : RecordFields :=
  let valid := decide ((s.value .octetiv).toInt ≠ 0)
  let inputEos := if valid = true then inputEos else ""
  let outputEos := if valid = true then outputEos else ""
  (s.postChanged Value.comparison .ieos (.text inputEos)).postChanged Value.comparison .oeos
    (.text outputEos)

/-- The setting of options and of the EOS, and a connect, write no field themselves. -/
inductive CallbackType
  | options (a : OptionAnswers)
  | eos (inputEos outputEos : String)
  | connect

def asynCallbackSpecial (s : State) (type : CallbackType) (status : Status) : State :=
  match type with
  | .options a => { s with fields := getOptions s.fields a }.monitorStatus status
  | .eos inputEos outputEos => { s with fields := getEos s.fields inputEos outputEos }.monitorStatus status
  | .connect => s.monitorStatus status

structure Sizes where
  omax : Int
  imax : Int

/-- `sizeof(pasynRec->ainp)` -/
def ainpSize : Int := 40

/-- What the driver stores in the variables it is given; `none` where it stores nothing. -/
structure Io where
  written : Nat
  read : Nat
  eomReason : Int
  int32 : Option Int
  uint32 : BitVec 32
  float64 : Option EpicsFloat64
  serialPoll : Option (BitVec 8)

/-- `(int)nbytesTransferred` -/
def bytes (n : Nat) : Value := .int ((n : Int).bmod 4294967296)

/-- `asynTMOD_Write_Read` and so on. -/
def tmodWrites (value : Field → Value) : Prop := (value .tmod).toInt = 0 ∨ (value .tmod).toInt = 1

instance (value : Field → Value) : Decidable (tmodWrites value) :=
  inferInstanceAs (Decidable (_ ∨ _))

def tmodReads (value : Field → Value) : Prop := (value .tmod).toInt = 0 ∨ (value .tmod).toInt = 2

instance (value : Field → Value) : Decidable (tmodReads value) :=
  inferInstanceAs (Decidable (_ ∨ _))

/-- A limit on a number of bytes. -/
def clip (f : Field) (limit : Int) (value : Field → Value) : Field → Value :=
  if limit < (value f).toInt then Function.update value f (.int limit) else value

def performOctetIO (sizes : Sizes) (io : Io) (value : Field → Value) : Field → Value :=
  -- `asynFMT_Binary` is 2 and `asynFMT_ASCII` 0.
  let value := if (value .ofmt).toInt = 2 then clip .nowt sizes.omax value else value
  let value := clip .nrrd (if (value .ifmt).toInt = 0 then ainpSize else sizes.imax) value
  let value := if tmodWrites value then Function.update value .nawt (bytes io.written) else value
  if tmodReads value then
    Function.update (Function.update value .eomr (.int (io.eomReason.emod 65536))) .nord
      (bytes io.read)
  else value

/-- A read of one of the registers. -/
def readRegister (f : Field) (v : Option Value) (value : Field → Value) : Field → Value :=
  match v with
  | some v => if tmodReads value then Function.update value f v else value
  | none => value

def performIO (sizes : Sizes) (io : Io) (value : Field → Value) : Field → Value :=
  let valid (f : Field) : Bool := decide ((value f).toInt ≠ 0)
  match (value .iface).toInt with
  | 0 => if valid .octetiv = true then performOctetIO sizes io value else value
  | 1 => if valid .i32iv = true then readRegister .i32inp (io.int32.map .int) value else value
  | 2 =>
      if valid .ui32iv = true then readRegister .ui32inp (some (.int io.uint32.toNat)) value else value
  | 3 => if valid .f64iv = true then readRegister .f64inp (io.float64.map .float) value else value
  | _ => value

/-- Only a serial poll, which is command 5, reads. -/
def gpibAddressedCmd (io : Io) (value : Field → Value) : Field → Value :=
  if (value .gpibiv).toInt ≠ 0 ∧ (value .acmd).toInt = 5 then
    match io.serialPoll with
    | some response => Function.update value .spr (.int response.toNat)
    | none => value
  else value

def asynCallbackProcess (sizes : Sizes) (io : Io) (value : Field → Value) : Field → Value :=
  if (value .ucmd).toInt ≠ 0 then Function.update value .ucmd (.int 0)
  else if (value .acmd).toInt ≠ 0 then
    Function.update (gpibAddressedCmd io value) .acmd (.int 0)
  -- `asynTMOD_NoIO` is 4.
  else if (value .tmod).toInt ≠ 4 then performIO sizes io value
  else value

def monitor (s : State) : State := s.postAll monitorOrder

/-! ## `special` and `process` -/

/-- How far `connectDevice` comes.  `reason` is what `create` of asynDrvUser stores: `some none` where it
fails or is not called, `none` where the interface is missing. -/
inductive Connection
  | refused
  | found (option octet int32 uint32Digital float64 gpib : Bool) (reason : Option (Option Int))

def Connection.write (value : Field → Value) : Connection → Field → Value
  | .refused => Function.update value .pcnct (.int 0)
  | .found option octet int32 uint32Digital float64 gpib reason => fun f =>
      match f with
      | .optioniv => .bit option
      | .octetiv => .bit octet
      | .i32iv => .bit int32
      | .ui32iv => .bit uint32Digital
      | .f64iv => .bit float64
      | .gpibiv => .bit gpib
      | .reason =>
          match reason with
          | some (some reason) => .int reason
          | some none => value .reason
          | none => .int 0
      | f => value f

/-- What `special` is told; `traceFd` is the file for `TFIL`, if it can be opened. -/
structure Answers where
  connection : Connection
  status : Status
  traceFd : Option Nat

namespace State

/-- The puts for which `special` calls `connectDevice`. -/
def connects (s : State) : Put → Prop
  | .field .port _ => True
  | .field .addr _ => True
  | .field .drvinfo _ => True
  | .field .pcnct _ => s.fields.value .pcnct ≠ .int 0
  | _ => False

instance (s : State) (p : Put) : Decidable (s.connects p) := by
  unfold connects
  split <;> infer_instance

def connectDevice (s : State) (p : Put) (answers : Answers) : State :=
  let s := (s.assign (answers.connection.write s.fields.value)).monitorStatus answers.status
  match answers.connection with
  | .refused => { s with put := some (.special p) }
  | .found .. => { s with put := some (.connecting p) }

def special (s : State) (p : Put) (answers : Answers) : State :=
  if s.connects p then s.connectDevice p answers
  else
    let s := { s with put := some (.special p) }
    match p with
    | .field .reason _ =>
        (s.assign (Function.update s.fields.value .drvinfo (.text ""))).monitorStatus answers.status
    | .field .tfil _ => { s with traceFd := answers.traceFd.getD s.traceFd }
    | _ => s

/-- `dbPut` stores the value; `put_array_info` stores the number of elements of an array. -/
def store (s : State) (p : Put) : State :=
  let s := { s with put := some (.stored p) }
  match p with
  | .field f v => s.assign (Function.update s.fields.value f v)
  | .bout n => s.assign (Function.update s.fields.value .nowt (.int n))
  | .binp n => s.assign (Function.update s.fields.value .nord (.int n))

/-- `dbPut` posts the field that has been put; an array has no field here. -/
def dbPost (s : State) (p : Put) : State :=
  let s := { s with put := none }
  match p with
  | .field f _ => { s with fields := s.fields.post f }
  | _ => s

end State

/-- `SPC_NOMOD` -/
def noMod : List Field := [.nord, .spr, .eomr, .i32inp, .ui32inp, .f64inp]

/-- The branches of `process` for a record that is not active. -/
inductive Branch
  | notIdle
  | gotValue
  | notQueued
  | synchronous (io : Io)
  | queued

def process (sizes : Sizes) (s : State) : Branch → State
  | .notIdle => monitor s
  | branch =>
      let s := { s with fields := s.fields.remember processFields }
      match branch with
      | .synchronous io => monitor (s.assign (asynCallbackProcess sizes io s.fields.value))
      | .queued => { s with pact := true, queued := true }
      | _ => monitor s

/-- The fields of the callbacks for interrupts. -/
inductive Register
  | i32inp
  | ui32inp
  | f64inp

def Register.field : Register → Field
  | i32inp => .i32inp
  | ui32inp => .ui32inp
  | f64inp => .f64inp

inductive Action
  | put (p : Put)
  | special (answers : Answers)
  | connected (status : Status)
  | post
  | exceptCallback (status : Status)
  | asynCallbackSpecial (type : CallbackType) (status : Status)
  | process (branch : Branch)
  | asynCallbackProcess (io : Io)
  | finishProcess
  | callbackInterrupt (r : Register) (v : Value)

def step (sizes : Sizes) (s : State) : Action → Option State
  | .put p =>
      match s.put, p with
      | none, .field f _ => if f ∈ noMod then none else some (s.store p)
      | none, _ => some (s.store p)
      | some _, _ => none
  | .special answers =>
      match s.put with
      | some (.stored p) => some (s.special p answers)
      | _ => none
  | .connected status =>
      match s.put with
      | some (.connecting p) =>
          let s := s.assign (Function.update s.fields.value .pcnct (.int 1))
          some { s.monitorStatus status with put := some (.special p) }
      | _ => none
  | .post =>
      match s.put with
      | some (.special p) => some (s.dbPost p)
      | _ => none
  | .exceptCallback status => some (s.monitorStatus status)
  | .asynCallbackSpecial type status => some (asynCallbackSpecial s type status)
  | .process branch => if s.put = none ∧ s.pact = false then some (process sizes s branch) else none
  | .asynCallbackProcess io =>
      if s.queued = true then
        some { s.assign (asynCallbackProcess sizes io s.fields.value) with queued := false }
      else none
  -- A request that has been cancelled or timed out ends without its callback.
  | .finishProcess =>
      if s.put = none ∧ s.pact = true then
        some { monitor s with pact := false, queued := false }
      else none
  | .callbackInterrupt r v => some (s.assign (Function.update s.fields.value r.field v))

def validFields : List Field := [.octetiv, .optioniv, .gpibiv, .i32iv, .ui32iv, .f64iv]

/-- The fields that `connectDevice` and a put of `REASON` write. -/
def connectFields : List Field := [.pcnct, .reason, .drvinfo] ++ validFields

/-- The fields that are written during I/O and posted by `monitor` alone. -/
def ioFields : List Field := .nawt :: noMod

/-- The clients see the initial values.  `connectDevice` has been called for the first time, and the rest
of what is remembered is 0. -/
def State.Initial (s : State) : Prop :=
  s.put = none ∧ s.pact = false ∧ s.queued = false ∧ s.fields.view = s.fields.value ∧
    ∀ f, f ∈ connectFields ∨ f ∈ ioFields → s.fields.value f = s.fields.old f

def machine (sizes : Sizes) : Library.Machine State Action := ⟨State.Initial, step sizes⟩

/-! ## When the clients are up to date -/

/-- The rules for the puts that concern a field. -/
def Rule (f : Field) (s : State) : Action → Prop
  | .put (.field g _) =>
      (f = .nawt ∨ f ∈ validFields → g ≠ f) ∧
      (f ∈ processFields → g = f → s.pact = false)
  | .put (.bout n) => f = .nowt → s.fields.value .nowt = .int n
  | _ => True

instance (f : Field) (s : State) (a : Action) : Decidable (Rule f s a) := by
  unfold Rule
  split <;> infer_instance

/-- The clients see what is in the field. -/
abbrev State.Shown (s : State) (f : Field) : Prop := s.fields.Shown Value.comparison f

/-- The field is being put. -/
def State.Puts (s : State) (f : Field) : Prop :=
  ∃ stage v, s.put = some stage ∧ stage.target = .field f v

/-- Something is under way that ends with a post of the field, if it has changed. -/
def State.Pending (s : State) (f : Field) : Prop :=
  s.Puts f ∨ (f ∈ processFields ∧ s.pact = true) ∨ f ∈ ioFields

/-- The actions that end with `monitor`. -/
def Action.Monitors : Action → Prop
  | .finishProcess => True
  | .process .queued => False
  | .process _ => True
  | _ => False

end Monitor
end AsynRecord
end AsynDriver
