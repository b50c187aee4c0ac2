import AsynDriver.Library.Machine
import AsynDriver.PortDriver.ParamList
import Mathlib.Data.List.Nodup

/-!
# Who is told of a change

What `callParamCallbacks` announces, against the history of the calls of setters since the previous
`callParamCallbacks`.

* `Change`, `ParamVal.change` — what a call of a setter alters, by the value it gives and the value held.
* `Tracked`, `Tracks` — what `flags` and `uInt32CallbackMask` know of the history.
* `callFlagged_eq` — the callbacks of one dispatch, parameter by parameter.
* `callbacks_of_changes` — who is called back in every run.

In between two dispatches only the union of the changes counts: a value that is set and set back has
been changed.
-/

namespace AsynDriver
namespace PortDriver

open Library
open Manager (AsynStatus)

/-! ## Changes -/

/-- What has happened to a parameter. -/
structure Change where
  /-- Bits of `uival` that were given another value, or named in an `interruptMask`. -/
  bits : BitVec 32
  /-- The value of another type differed. -/
  value : Bool
  /-- The status or a field of the alarm differed. -/
  status : Bool
  defined : Bool
  deriving DecidableEq

namespace Change

def none : Change := ⟨0, false, false, false⟩

def merge (h k : Change) : Change :=
  ⟨h.bits ||| k.bits, h.value || k.value, h.status || k.status, h.defined || k.defined⟩

def any (h : Change) : Bool := h.bits != 0 || h.value || h.status || h.defined

@[simp] theorem any_none : none.any = false := by decide

theorem eq_none {h : Change} (hany : h.any = false) : h = none := by
  obtain ⟨bits, value, status, defined⟩ := h
  simp only [any, Bool.or_eq_false_iff, bne_eq_false_iff_eq] at hany
  obtain ⟨⟨⟨rfl, rfl⟩, rfl⟩, rfl⟩ := hany
  rfl

theorem any_merge (h k : Change) : (h.merge k).any = (h.any || k.any) := by
  have hbits : (h.bits ||| k.bits != 0) = (h.bits != 0 || k.bits != 0) := by
    rw [Bool.eq_iff_iff]
    simp only [Bool.or_eq_true, bne_iff_ne, ne_eq]
    constructor
    · intro hne
      by_contra hboth
      simp only [not_or, not_not] at hboth
      exact hne (by rw [hboth.1, hboth.2]; rfl)
    · intro hne hzero
      obtain ⟨hh, hk⟩ := BitVec.or_eq_zero_iff.mp hzero
      rcases hne with hne | hne
      · exact hne hh
      · exact hne hk
  simp only [any, merge, hbits]
  cases h.bits != 0 <;> cases h.value <;> cases h.status <;> cases h.defined <;> simp

end Change

namespace ParamVal

/-- What a call of a setter alters. -/
def change (p : ParamVal) : Setter → Change
  | .setInteger value => ⟨0, p.ival != value, false, !p.isDefined⟩
  | .setInteger64 value => ⟨0, p.i64val != value, false, !p.isDefined⟩
  | .setUInt32 value valueMask interruptMask =>
      ⟨((p.uival ^^^ value) &&& valueMask) ||| interruptMask, false, false, !p.isDefined⟩
  | .setDouble value => ⟨0, !p.dval.equals value, false, !p.isDefined⟩
  | .setString value => ⟨0, p.sval != value, false, !p.isDefined⟩
  | .setStatus status => ⟨0, false, p.status_ != status, false⟩
  | .setAlarmStatus alarmStatus => ⟨0, false, p.alarmStatus_ != alarmStatus, false⟩
  | .setAlarmSeverity alarmSeverity => ⟨0, false, p.alarmSeverity_ != alarmSeverity, false⟩

variable {p p' : ParamVal} {a : Setter}

/-- What a setter does, by its change.  The callback mask is that of a `UInt32Digital`. -/
structure Sets (p p' : ParamVal) (k : Change) : Prop where
  type : p'.type = p.type
  name : p'.name = p.name
  defined : p'.valueDefined = (p.valueDefined || k.defined)
  changed : p'.valueChanged = (p.valueChanged || k.any)
  mask : p.type = .asynParamUInt32Digital → p'.uInt32CallbackMask =
    if k.status then 0xFFFFFFFF#32 else p.uInt32CallbackMask ||| k.bits
  zero : p'.valueDefined = false → p'.uival = 0
  typed : p.type ≠ .asynParamUInt32Digital → k.bits = 0

/-- The bits that `setUInt32` merges into the value. -/
theorem merged_eq_xor (u v m : BitVec 32) :
    (u &&& ~~~m) ||| (v &&& m) = u ^^^ ((u ^^^ v) &&& m) := by
  ext i hi
  simp only [BitVec.getElem_or, BitVec.getElem_and, BitVec.getElem_not, BitVec.getElem_xor]
  cases u[i] <;> cases v[i] <;> cases m[i] <;> rfl

theorem xor_xor_self_left (u x : BitVec 32) : u ^^^ (u ^^^ x) = x := by
  rw [← BitVec.xor_assoc, BitVec.xor_self, BitVec.zero_xor]

theorem eq_xor_iff (u x : BitVec 32) : u = u ^^^ x ↔ x = 0 := by
  constructor
  · intro h
    have hx := xor_xor_self_left u x
    rw [← h, BitVec.xor_self] at hx
    exact hx.symm
  · rintro rfl
    exact (BitVec.xor_zero).symm

/-- `setUInt32` without its branches. -/
theorem setUInt32_eq (htype : p.type = .asynParamUInt32Digital)
    (hzero : p.valueDefined = false → p.uival = 0) (value valueMask interruptMask : BitVec 32) :
    p.setUInt32 value valueMask interruptMask = .ok
      { p with
        uInt32CallbackMask := p.uInt32CallbackMask |||
          ((p.change (.setUInt32 value valueMask interruptMask)).bits)
        uival := p.uival ^^^ ((p.uival ^^^ value) &&& valueMask)
        valueDefined := true
        valueChanged := p.valueChanged ||
          (p.change (.setUInt32 value valueMask interruptMask)).any } := by
  obtain ⟨type, mask, status, alarmStatus, alarmSeverity, defined, changed, name, sval, ival, i64val,
    uival, dval⟩ := p
  have htype : type = .asynParamUInt32Digital := htype
  subst htype
  cases defined with
  | true =>
      simp only [setUInt32, isDefined, ne_eq, not_true, if_false, if_true, merged_eq_xor,
        eq_xor_iff, xor_xor_self_left, change, Change.any]
      by_cases hx : (uival ^^^ value) &&& valueMask = 0#32
      · by_cases hmask : interruptMask = 0#32
        · simp [hx, hmask]
        · simp [hx, hmask]
      · by_cases hmask : interruptMask = 0#32
        · simp [hx, hmask]
        · have hboth : ((uival ^^^ value) &&& valueMask) ||| interruptMask ≠ 0#32 :=
            fun h => hmask (BitVec.or_eq_zero_iff.mp h).2
          simp [hx, hmask, hboth, BitVec.or_assoc]
  | false =>
      have huival : uival = 0 := hzero rfl
      subst huival
      simp only [setUInt32, isDefined, ne_eq, not_true, if_false, Bool.false_eq_true, merged_eq_xor,
        eq_xor_iff, xor_xor_self_left, change, Change.any]
      by_cases hx : value &&& valueMask = 0#32
      · by_cases hmask : interruptMask = 0#32
        · simp [hx, hmask]
        · simp [hx, hmask]
      · by_cases hmask : interruptMask = 0#32
        · simp [hx, hmask]
        · simp [hx, hmask, BitVec.or_assoc]

theorem setTyped_sets {type : AsynParamType} {differs : Bool} {stored : ParamVal}
    (hzero : p.valueDefined = false → p.uival = 0) (htype : type ≠ .asynParamUInt32Digital)
    (hstoredType : stored.type = p.type) (hstoredName : stored.name = p.name)
    (hset : p.setTyped type differs stored = .ok p') :
    Sets p p' ⟨0, differs, false, !p.isDefined⟩ := by
  unfold setTyped at hset
  split at hset
  case isTrue => exact nomatch hset
  case isFalse hsame =>
    have hother : p.type ≠ .asynParamUInt32Digital := by
      rw [not_not.mp hsame]
      exact htype
    split at hset
    case isTrue hchange =>
      cases hset
      refine ⟨hstoredType, hstoredName, ?_, ?_, fun h => absurd h hother, (fun h => nomatch h),
        fun _ => rfl⟩
      · cases hdefined : p.valueDefined <;> simp [isDefined, hdefined]
      · have hany : (Change.any ⟨0, differs, false, !p.isDefined⟩) = true := by
          simpa [Change.any, Bool.or_comm] using hchange
        show true = (p.valueChanged || _)
        rw [hany, Bool.or_true]
    case isFalse hkept =>
      cases hset
      have hkept : p.isDefined = true ∧ differs = false := by simpa using hkept
      refine ⟨rfl, rfl, ?_, ?_, fun h => absurd h hother, hzero, fun _ => rfl⟩
      · simp [hkept.1]
      · simp [Change.any, hkept.1, hkept.2]

theorem setField_sets {differs : Bool} {stored : ParamVal}
    (hzero : p.valueDefined = false → p.uival = 0) (hstoredType : stored.type = p.type)
    (hstoredName : stored.name = p.name) (hdefined : stored.valueDefined = p.valueDefined)
    (huival : stored.uival = p.uival) :
    Sets p (p.setField differs stored) ⟨0, false, differs, false⟩ := by
  unfold setField
  cases differs with
  | false =>
      refine ⟨rfl, rfl, by simp, by simp [Change.any], fun _ => ?_, hzero, fun _ => rfl⟩
      exact (BitVec.or_zero).symm
  | true =>
      refine ⟨hstoredType, hstoredName, by simp [hdefined], by simp [Change.any], ?_, ?_, fun _ => rfl⟩
      · intro htype
        simp [htype]
      · intro hundefined
        exact huival.trans (hzero (hdefined.symm.trans hundefined))

/-- Every setter is described by its change. -/
theorem set_sets (hzero : p.valueDefined = false → p.uival = 0) (hset : p.set a = .ok p') :
    Sets p p' (p.change a) := by
  cases a with
  | setInteger value =>
      have hset : p.setTyped .asynParamInt32 (p.ival != value) { p with ival := value } = .ok p' := hset
      refine setTyped_sets hzero ?_ ?_ ?_ hset
      · decide
      · rfl
      · rfl
  | setInteger64 value =>
      have hset : p.setTyped .asynParamInt64 (p.i64val != value) { p with i64val := value } = .ok p' := hset
      refine setTyped_sets hzero ?_ ?_ ?_ hset
      · decide
      · rfl
      · rfl
  | setDouble value =>
      have hset : p.setTyped .asynParamFloat64 (!p.dval.equals value) { p with dval := value } = .ok p' := hset
      refine setTyped_sets hzero ?_ ?_ ?_ hset
      · decide
      · rfl
      · rfl
  | setString value =>
      have hset : p.setTyped .asynParamOctet (p.sval != value) { p with sval := value } = .ok p' := hset
      refine setTyped_sets hzero ?_ ?_ ?_ hset
      · decide
      · rfl
      · rfl
  | setUInt32 value valueMask interruptMask =>
      have htype : p.type = .asynParamUInt32Digital := by
        by_contra hother
        have hset : p.setUInt32 value valueMask interruptMask = .ok p' := hset
        simp [setUInt32, hother] at hset
      have heq := setUInt32_eq htype hzero value valueMask interruptMask
      have hset : p.setUInt32 value valueMask interruptMask = .ok p' := hset
      rw [heq, Except.ok.injEq] at hset
      subst hset
      refine ⟨rfl, rfl, ?_, rfl, fun _ => rfl, (fun h => nomatch h), fun h => absurd htype h⟩
      cases hdefined : p.valueDefined <;> simp [change, isDefined, hdefined]
  | setStatus status =>
      cases hset
      exact setField_sets hzero rfl rfl rfl rfl
  | setAlarmStatus alarmStatus =>
      cases hset
      exact setField_sets hzero rfl rfl rfl rfl
  | setAlarmSeverity alarmSeverity =>
      cases hset
      exact setField_sets hzero rfl rfl rfl rfl

end ParamVal

/-! ## What the lists know -/

/-- What one parameter knows of its history. -/
structure Tracked (p : ParamVal) (h : Change) : Prop where
  settled : p.valueChanged = false
  zero : p.valueDefined = false → p.uival = 0
  defined : h.defined = true → p.valueDefined = true
  status : p.type = .asynParamUInt32Digital → h.status = true →
    p.uInt32CallbackMask = 0xFFFFFFFF#32
  bits : p.type = .asynParamUInt32Digital → h.bits &&& p.uInt32CallbackMask = h.bits
  exact : p.type = .asynParamUInt32Digital → p.valueDefined = true → h.defined = false →
    h.status = false → p.uInt32CallbackMask = h.bits
  typed : p.type ≠ .asynParamUInt32Digital → h.bits = 0

section Tracked

variable {p p' : ParamVal} {h k : Change}

theorem Tracked.new (name : String) (type : AsynParamType) (memory : BitVec 32) :
    Tracked (.new name type memory) .none where
  settled := rfl
  zero := fun _ => rfl
  defined := fun h => nomatch h
  status := fun _ h => nomatch h
  bits := fun _ => BitVec.zero_and
  exact := fun _ h => nomatch h
  typed := fun _ => rfl

theorem Tracked.set {a : ParamVal.Setter} (htracked : Tracked p h) (hset : p.set a = .ok p') :
    p'.valueChanged = (p.change a).any ∧
      Tracked { p' with valueChanged := false } (h.merge (p.change a)) := by
  have hsets := ParamVal.set_sets htracked.zero hset
  have hchanged := hsets.changed
  rw [htracked.settled, Bool.false_or] at hchanged
  refine ⟨hchanged, ⟨rfl, hsets.zero, ?_, ?_, ?_, ?_, ?_⟩⟩
  · intro hdefined
    show p'.valueDefined = true
    rw [hsets.defined]
    rcases Bool.or_eq_true_iff.mp hdefined with hbefore | hnow
    · rw [htracked.defined hbefore, Bool.true_or]
    · rw [hnow, Bool.or_true]
  · intro htype hstatus
    have htype : p.type = .asynParamUInt32Digital := hsets.type.symm.trans htype
    show p'.uInt32CallbackMask = _
    rw [hsets.mask htype]
    split
    case isTrue => rfl
    case isFalse hnow =>
      -- an earlier change of the status has set all bits
      have hbefore : h.status = true := by
        rcases Bool.or_eq_true_iff.mp hstatus with hbefore | hstatus
        · exact hbefore
        · exact absurd hstatus hnow
      rw [htracked.status htype hbefore]
      exact BitVec.allOnes_or
  · intro htype
    have htype : p.type = .asynParamUInt32Digital := hsets.type.symm.trans htype
    show (h.bits ||| (p.change a).bits) &&& p'.uInt32CallbackMask = _
    rw [hsets.mask htype]
    split
    case isTrue => exact BitVec.and_allOnes
    case isFalse =>
      have hbits := htracked.bits htype
      show (h.bits ||| (p.change a).bits) &&& _ = h.bits ||| (p.change a).bits
      ext i hi
      have hi' := congrArg (fun b => b[i]) hbits
      simp only [BitVec.getElem_and, BitVec.getElem_or] at hi' ⊢
      cases hh : h.bits[i] <;> cases hm : p.uInt32CallbackMask[i] <;> simp_all
  · intro htype hdefined hnew hstatus
    have htype : p.type = .asynParamUInt32Digital := hsets.type.symm.trans htype
    obtain ⟨hbefore, hnow⟩ := Bool.or_eq_false_iff.mp hnew
    obtain ⟨hstatusBefore, hstatusNow⟩ := Bool.or_eq_false_iff.mp hstatus
    have hdefined : p'.valueDefined = true := hdefined
    rw [hsets.defined, hnow, Bool.or_false] at hdefined
    show p'.uInt32CallbackMask = h.bits ||| (p.change a).bits
    rw [hsets.mask htype, hstatusNow, htracked.exact htype hdefined hbefore hstatusBefore]
    rfl
  · intro htype
    have htype : p.type ≠ .asynParamUInt32Digital := fun h => htype (hsets.type.trans h)
    show h.bits ||| (p.change a).bits = 0
    rw [htracked.typed htype, hsets.typed htype]
    rfl

end Tracked

namespace ParamList

variable {l : ParamList} {i : Nat} {p p' : ParamVal} {a : ParamVal.Setter}

/-- A successful setter, with `registerParameterChange`. -/
theorem set_ok (hparam : l.vals[i]? = some p) (hset : p.set a = .ok p') :
    l.set i a =
      ({ flags := if p'.valueChanged && !l.flags.contains i then l.flags ++ [i] else l.flags
         vals := l.vals.set i { p' with valueChanged := false } }, .asynSuccess) := by
  unfold ParamList.set
  rw [getParameter_natCast, hparam]
  simp only [hset, Int.toNat_natCast, registerParameterChange]
  cases hchanged : p'.valueChanged with
  | false =>
      have hsame : { p' with valueChanged := false } = p' := by rw [← hchanged]
      simp only [Bool.false_eq_true, if_false, Bool.false_and, hsame]
      rfl
  | true =>
      simp only [if_true, Bool.true_and, setFlag, put]
      by_cases hflag : i ∈ l.flags
      · simp [hflag]
      · simp [hflag]

/-- The history after a call of a setter. -/
def history (l : ParamList) (h : Nat → Change) (index : Int) (a : ParamVal.Setter) : Nat → Change :=
  match l.getParameter index with
  | none => h
  | some p =>
      match p.set a with
      | .error _ => h
      | .ok _ => Function.update h index.toNat ((h index.toNat).merge (p.change a))

end ParamList

/-- `flags` and the parameters of a list against the history since its last dispatch. -/
structure Tracks (l : ParamList) (h : Nat → Change) : Prop where
  nodup : l.flags.Nodup
  param : ∀ i p, l.vals[i]? = some p → Tracked p (h i)
  flagged : ∀ i, i ∈ l.flags ↔ (h i).any = true
  beyond : ∀ i, l.vals.length ≤ i → h i = .none

section Tracks

variable {l : ParamList} {h : Nat → Change}

theorem Tracks.lt_of_mem (htracks : Tracks l h) {i : Nat} (hmem : i ∈ l.flags) :
    i < l.vals.length := by
  by_contra hnot
  have hany := (htracks.flagged i).mp hmem
  rw [htracks.beyond i (by omega)] at hany
  exact absurd hany (by decide)

theorem Tracks.empty : Tracks .empty fun _ => .none where
  nodup := List.nodup_nil
  param := fun _ _ hparam => nomatch hparam
  flagged := fun i => by simp [ParamList.empty]
  beyond := fun _ _ => rfl

theorem Tracks.createParam (htracks : Tracks l h) (name : String) (type : AsynParamType)
    (memory : BitVec 32) : Tracks (l.createParam name type memory).1 h := by
  unfold ParamList.createParam
  simp only
  split
  · exact htracks
  · refine ⟨htracks.nodup, ?_, htracks.flagged, ?_⟩
    · intro i p hparam
      have hparam : (l.vals ++ [ParamVal.new name type memory])[i]? = some p := hparam
      by_cases hi : i < l.vals.length
      · rw [List.getElem?_append_left hi] at hparam
        exact htracks.param i p hparam
      · rw [List.getElem?_append_right (by omega)] at hparam
        have hi : i = l.vals.length := by
          have hlt := (List.getElem?_eq_some_iff.mp hparam).1
          rw [List.length_singleton] at hlt
          omega
        subst hi
        rw [Nat.sub_self] at hparam
        cases hparam
        rw [htracks.beyond _ (Nat.le_refl _)]
        exact Tracked.new name type memory
    · intro i hi
      have hi : (l.vals ++ [ParamVal.new name type memory]).length ≤ i := hi
      rw [List.length_append] at hi
      exact htracks.beyond i (by omega)

/-- A step of the history is a step of the list. -/
theorem Tracks.set (htracks : Tracks l h) (index : Int) (a : ParamVal.Setter) :
    Tracks (l.set index a).1 (l.history h index a) := by
  cases hparam : l.getParameter index with
  | none =>
      simp only [ParamList.set, ParamList.history, hparam]
      exact htracks
  | some p =>
      obtain ⟨i, rfl, hi⟩ := ParamList.getParameter_eq_some hparam
      cases hset : p.set a with
      | error e =>
          simp only [ParamList.set, ParamList.history, hparam, hset]
          exact htracks
      | ok p' =>
          obtain ⟨hchanged, htracked⟩ := (htracks.param i p hi).set hset
          have hlt : i < l.vals.length := (List.getElem?_eq_some_iff.mp hi).1
          rw [ParamList.set_ok hi hset]
          simp only [ParamList.history, hparam, hset, Int.toNat_natCast]
          refine ⟨?_, ?_, ?_, ?_⟩
          · show (if _ then l.flags ++ [i] else l.flags).Nodup
            split
            case isTrue hnew =>
              refine List.nodup_append.mpr ⟨htracks.nodup, List.nodup_singleton i, ?_⟩
              intro x hx y hy hxy
              rw [List.mem_singleton.mp hy] at hxy
              subst hxy
              simp [hx] at hnew
            case isFalse => exact htracks.nodup
          · intro j q hq
            have hq : (l.vals.set i { p' with valueChanged := false })[j]? = some q := hq
            by_cases hj : i = j
            · subst hj
              rw [List.getElem?_set_self hlt, Option.some.injEq] at hq
              subst hq
              rw [Function.update_self]
              exact htracked
            · rw [List.getElem?_set_ne hj] at hq
              rw [Function.update_of_ne (fun heq => hj heq.symm)]
              exact htracks.param j q hq
          · intro j
            show j ∈ (if _ then l.flags ++ [i] else l.flags) ↔ _
            rw [hchanged]
            have hold := htracks.flagged j
            by_cases hj : j = i
            · subst hj
              rw [Function.update_self, Change.any_merge]
              cases hany : (p.change a).any with
              | false => simpa using hold
              | true =>
                  by_cases hmem : j ∈ l.flags
                  · simp [hmem]
                  · simp [hmem]
            · rw [Function.update_of_ne hj, ← hold]
              split
              · simp [hj]
              · rfl
          · intro j hj
            have hj : (l.vals.set i { p' with valueChanged := false }).length ≤ j := hj
            rw [List.length_set] at hj
            rw [Function.update_of_ne (by omega)]
            exact htracks.beyond j hj

end Tracks

/-! ## One dispatch -/

/-- A parameter after its callbacks. -/
def ParamVal.announced (p : ParamVal) : ParamVal :=
  if p.isDefined && decide (p.type = .asynParamUInt32Digital) then
    { p with uInt32CallbackMask := 0 }
  else p

/-- The value that a client of an interface is given. -/
def ParamVal.valueFor (p : ParamVal) (c : Client) : Value :=
  match c.interface with
  | .int32 => .int32 p.ival
  | .int64 => .int64 p.i64val
  | .uInt32Digital => .uInt32Digital (c.mask &&& p.uival)
  | .float64 => .float64 p.dval
  | .octet => .octet (cString p.sval) ((cString p.sval).length + 1) ParamList.eomEnd

/-- A callback with the current value, status and alarm. -/
def ParamVal.callbackFor (p : ParamVal) (timeStamp : Nat) (c : Client) : Callback where
  client := c
  auxStatus := p.status_
  alarmStatus := p.alarmStatus_
  alarmSeverity := p.alarmSeverity_
  timestamp := timeStamp
  value := p.valueFor c

/-- The client is registered for the parameter at an index and for an address. -/
def ParamVal.registered (p : ParamVal) (index : Nat) (addr : Int) (c : Client) : Bool :=
  p.type.interface == some c.interface && (c.reason == index && c.address == addr)

/-- The test of the callback functions. -/
def ParamVal.reaches (p : ParamVal) (index : Nat) (addr : Int) (c : Client) : Bool :=
  p.isDefined && p.registered index addr c &&
    (p.type != .asynParamUInt32Digital || c.mask &&& p.uInt32CallbackMask != 0)

namespace ParamList

variable (pInterfaces : AsynStandardInterfaces) (timeStamp : Nat) (addr : Int)

def callbacksOf (l : ParamList) (index : Nat) : List Callback :=
  match l.vals[index]? with
  | none => []
  | some p =>
      if p.isDefined then (l.callback pInterfaces timeStamp index addr p).2.1 else []

/-- Without an interrupt source there are no clients. -/
theorem callClients_eq (l : ParamList) (interface : Interface) (command : Int)
    (status : AsynStatus) (wanted : Client → Bool) (value : Client → Value) :
    (l.callClients pInterfaces timeStamp interface command addr status wanted value).1 =
      (pInterfaces.clients.filter fun c =>
        c.interface == interface && (c.reason == command && c.address == addr && wanted c)).map
      fun c =>
        { client := c
          auxStatus := status
          alarmStatus := l.getAlarmStatus command
          alarmSeverity := l.getAlarmSeverity command
          timestamp := timeStamp
          value := value c } := by
  unfold callClients
  split
  case isFalse => rfl
  case isTrue hnone =>
    symm
    rw [List.map_eq_nil_iff, List.filter_eq_nil_iff]
    intro c hc hboth
    obtain ⟨hinterface, -⟩ := Bool.and_eq_true_iff.mp hboth
    have hregistered := pInterfaces.registered c hc
    rw [beq_iff_eq.mp hinterface] at hregistered
    simp [hregistered] at hnone

variable {l l' : ParamList} {i : Nat} {p : ParamVal}

/-- The callbacks of a parameter only look at this parameter. -/
theorem callback_congr (hsame : l.vals[i]? = l'.vals[i]?) :
    (l.callback pInterfaces timeStamp i addr p).2 =
      (l'.callback pInterfaces timeStamp i addr p).2 := by
  have hparam : l.getParameter i = l'.getParameter i := by
    rw [getParameter_natCast, getParameter_natCast, hsame]
  unfold callback
  cases p.type <;>
    simp only [int32Callback, int64Callback, uint32Callback, float64Callback, octetCallback,
      getInteger, getInteger64, getUInt32, getDouble, get, callClients, getAlarmStatus,
      getAlarmSeverity, getField, hparam]

theorem callback_list (hparam : l.vals[i]? = some p) (hdefined : p.isDefined = true) :
    (l.callback pInterfaces timeStamp i addr p).1 =
      { l with vals := l.vals.set i p.announced } := by
  have hkept : l = { l with vals := l.vals.set i p } := by
    obtain ⟨hlt, hget⟩ := List.getElem?_eq_some_iff.mp hparam
    rw [← hget, List.set_getElem_self hlt]
  unfold callback ParamVal.announced
  cases htype : p.type <;> simp [hdefined, put, ← hkept]

/-- The clients of the interface of a defined parameter. -/
theorem callClients_reaches {interface : Interface} {wanted : Client → Bool}
    {value : Client → Value} (hparam : l.getParameter i = some p) (hdefined : p.isDefined = true)
    (hinterface : p.type.interface = some interface)
    (hwanted : ∀ c, wanted c =
      (p.type != .asynParamUInt32Digital || c.mask &&& p.uInt32CallbackMask != 0))
    (hvalue : ∀ c, c.interface = interface → value c = p.valueFor c) :
    (l.callClients pInterfaces timeStamp interface i addr p.status_ wanted value).1 =
      (pInterfaces.clients.filter (p.reaches i addr)).map (p.callbackFor timeStamp) := by
  rw [callClients_eq]
  have hfilter : (fun c : Client => c.interface == interface &&
      (c.reason == i && c.address == addr && wanted c)) = p.reaches i addr := by
    funext c
    have hcomm : (interface == c.interface) = (c.interface == interface) := by
      rw [Bool.eq_iff_iff, beq_iff_eq, beq_iff_eq, eq_comm]
    simp only [ParamVal.reaches, ParamVal.registered, hdefined, hinterface, hwanted,
      Option.some_beq_some, Bool.true_and, hcomm, Bool.and_assoc]
  rw [hfilter]
  refine List.map_congr_left ?_
  intro c hc
  have hreaches : p.reaches i addr c = true := (List.mem_filter.mp hc).2
  have hsame : c.interface = interface := by
    rw [ParamVal.reaches, ParamVal.registered, hinterface] at hreaches
    simp only [Bool.and_eq_true, beq_iff_eq, Option.some.injEq] at hreaches
    exact hreaches.1.2.1.symm
  simp only [ParamVal.callbackFor, getAlarmStatus, getAlarmSeverity, getField, hparam, hvalue c hsame]

theorem callbacksOf_eq (hparam : l.vals[i]? = some p) :
    l.callbacksOf pInterfaces timeStamp addr i =
      (pInterfaces.clients.filter (p.reaches i addr)).map (p.callbackFor timeStamp) := by
  have hget : l.getParameter i = some p := (getParameter_natCast l i).trans hparam
  unfold callbacksOf
  rw [hparam]
  simp only
  cases hdefined : p.isDefined with
  | false =>
      have hnone : pInterfaces.clients.filter (p.reaches i addr) = [] := by
        rw [List.filter_eq_nil_iff]
        intro c _
        simp [ParamVal.reaches, hdefined]
      rw [hnone]
      rfl
  | true =>
      have hother : p.type.interface = none → pInterfaces.clients.filter (p.reaches i addr) = [] := by
        intro hnone
        rw [List.filter_eq_nil_iff]
        intro c _
        simp [ParamVal.reaches, ParamVal.registered, hnone]
      cases htype : p.type with
      | asynParamInt32 =>
          have hvalue : l.getInteger i = (p.status_, p.ival) := by
            simp [getInteger, ParamVal.getInteger, get, hget, ParamVal.getTyped, htype, hdefined]
          simp only [if_true, callback, htype, int32Callback, hvalue]
          refine callClients_reaches pInterfaces timeStamp addr hget hdefined (by rw [htype]; rfl) ?_ ?_
          · simp [htype]
          · intro c hc
            simp [ParamVal.valueFor, hc]
      | asynParamInt64 =>
          have hvalue : l.getInteger64 i = (p.status_, p.i64val) := by
            simp [getInteger64, ParamVal.getInteger64, get, hget, ParamVal.getTyped, htype, hdefined]
          simp only [if_true, callback, htype, int64Callback, hvalue]
          refine callClients_reaches pInterfaces timeStamp addr hget hdefined (by rw [htype]; rfl) ?_ ?_
          · simp [htype]
          · intro c hc
            simp [ParamVal.valueFor, hc]
      | asynParamUInt32Digital =>
          have hvalue : l.getUInt32 i 0xFFFFFFFF#32 = (p.status_, p.uival) := by
            have hall : p.uival &&& 0xFFFFFFFF#32 = p.uival := BitVec.and_allOnes
            simp [getUInt32, ParamVal.getUInt32, get, hget, ParamVal.getTyped, htype, hdefined, hall]
          simp only [if_true, callback, htype, uint32Callback, hvalue]
          refine callClients_reaches pInterfaces timeStamp addr hget hdefined (by rw [htype]; rfl) ?_ ?_
          · simp [htype]
          · intro c hc
            simp [ParamVal.valueFor, hc]
      | asynParamFloat64 =>
          have hvalue : l.getDouble i = (p.status_, p.dval) := by
            simp [getDouble, ParamVal.getDouble, get, hget, ParamVal.getTyped, htype, hdefined]
          simp only [if_true, callback, htype, float64Callback, hvalue]
          refine callClients_reaches pInterfaces timeStamp addr hget hdefined (by rw [htype]; rfl) ?_ ?_
          · simp [htype]
          · intro c hc
            simp [ParamVal.valueFor, hc]
      | asynParamOctet =>
          have hvalue : l.get i ParamVal.getString [] = (p.status_, p.sval) := by
            simp [ParamVal.getString, get, hget, ParamVal.getTyped, htype, hdefined]
          simp only [if_true, callback, htype, octetCallback, hvalue]
          refine callClients_reaches pInterfaces timeStamp addr hget hdefined (by rw [htype]; rfl) ?_ ?_
          · simp [htype]
          · intro c hc
            simp [ParamVal.valueFor, hc]
      | _ =>
          rw [hother (by rw [htype]; rfl)]
          simp [callback, htype]

/-- The callbacks of the flagged parameters, one after the other: what is announced of one does not
change what is announced of another. -/
theorem callFlagged_eq (rest : List Nat) (status : AsynStatus) (hnodup : rest.Nodup)
    (hvalid : ∀ i ∈ rest, i < l.vals.length) :
    (callFlagged pInterfaces timeStamp addr rest l status).1 =
        { flags := [], vals := l.vals.mapIdx fun j p => if j ∈ rest then p.announced else p } ∧
      (callFlagged pInterfaces timeStamp addr rest l status).2.1 =
        rest.flatMap (l.callbacksOf pInterfaces timeStamp addr) := by
  induction rest generalizing l status with
  | nil =>
      refine ⟨?_, rfl⟩
      have hsame : (l.vals.mapIdx fun j p => if j ∈ ([] : List Nat) then p.announced else p) =
          l.vals := by
        apply List.ext_getElem?
        intro j
        simp
      rw [hsame]
      rfl
  | cons index rest ih =>
      obtain ⟨hnew, hrest⟩ := List.nodup_cons.mp hnodup
      have hlt : index < l.vals.length := hvalid index List.mem_cons_self
      have hparam : l.vals[index]? = some l.vals[index] := List.getElem?_eq_getElem hlt
      have hget : l.getParameter index = some l.vals[index] :=
        (getParameter_natCast l index).trans hparam
      generalize l.vals[index] = p at hparam hget
      unfold callFlagged
      simp only [hget]
      cases hdefined : p.isDefined with
      | false =>
          obtain ⟨hlist, hcallbacks⟩ := ih status hrest
            fun i hi => hvalid i (List.mem_cons_of_mem _ hi)
          have hkept : p.announced = p := by simp [ParamVal.announced, hdefined]
          simp only [Bool.not_false, if_true]
          refine ⟨hlist.trans ?_, hcallbacks.trans ?_⟩
          · congr 1
            apply List.ext_getElem?
            intro j
            by_cases hj : j = index
            · subst hj
              simp [hparam, hnew, hkept]
            · simp [hj]
          · rw [List.flatMap_cons]
            simp [callbacksOf, hparam, hdefined]
      | true =>
          have hlist₁ := callback_list pInterfaces timeStamp addr hparam hdefined
          simp only [Bool.not_true, Bool.false_eq_true, if_false]
          rw [hlist₁]
          have hlength : (l.vals.set index p.announced).length = l.vals.length := List.length_set
          have hvalid₁ : ∀ i ∈ rest, i < (l.vals.set index p.announced).length := by
            intro i hi
            rw [hlength]
            exact hvalid i (List.mem_cons_of_mem _ hi)
          obtain ⟨hlist, hcallbacks⟩ := ih (l := { l with vals := l.vals.set index p.announced })
            ((l.callback pInterfaces timeStamp index addr p).2.2.getD status) hrest hvalid₁
          refine ⟨hlist.trans ?_, ?_⟩
          · congr 1
            apply List.ext_getElem?
            intro j
            by_cases hj : j = index
            · subst hj
              rw [List.getElem?_mapIdx, List.getElem?_mapIdx, List.getElem?_set_self hlt, hparam]
              simp [hnew]
            · have hne : ¬index = j := fun h => hj h.symm
              simp [hj, List.getElem?_set_ne hne]
          · rw [hcallbacks, List.flatMap_cons]
            have hfirst : l.callbacksOf pInterfaces timeStamp addr index =
                (l.callback pInterfaces timeStamp index addr p).2.1 := by
              simp [callbacksOf, hparam, hdefined]
            rw [hfirst]
            congr 1
            refine List.flatMap_congr ?_
            intro i hi
            have hne : index ≠ i := fun h => hnew (h ▸ hi)
            have hsame : (l.vals.set index p.announced)[i]? = l.vals[i]? :=
              List.getElem?_set_ne hne
            unfold callbacksOf
            simp only [hsame]
            cases l.vals[i]? with
            | none => rfl
            | some q =>
                by_cases hq : q.isDefined = true
                · simp only [hq, if_true]
                  rw [callback_congr (l := { l with vals := l.vals.set index p.announced })
                      pInterfaces timeStamp addr hsame]
                · simp only [hq]
                  rfl

end ParamList

/-- After a dispatch nothing has happened yet. -/
theorem Tracks.callCallbacks {l : ParamList} {h : Nat → Change} (htracks : Tracks l h)
    (pInterfaces : AsynStandardInterfaces) (timeStamp : Nat) (addr : Int) :
    Tracks (l.callCallbacks pInterfaces timeStamp true addr).1 fun _ => .none := by
  obtain ⟨hlist, -⟩ := ParamList.callFlagged_eq pInterfaces timeStamp addr l.flags .asynSuccess
    htracks.nodup fun i => htracks.lt_of_mem
  have hlist : (l.callCallbacks pInterfaces timeStamp true addr).1 = _ := hlist
  rw [hlist]
  refine ⟨List.nodup_nil, ?_, fun i => by simp, fun _ _ => rfl⟩
  intro i q hq
  have hq : (l.vals.mapIdx fun j p => if j ∈ l.flags then p.announced else p)[i]? = some q := hq
  rw [List.getElem?_mapIdx, Option.map_eq_some_iff] at hq
  obtain ⟨p, hp, rfl⟩ := hq
  have htracked := htracks.param i p hp
  by_cases hflag : i ∈ l.flags
  · rw [if_pos hflag]
    unfold ParamVal.announced
    split
    case isTrue hboth =>
      obtain ⟨hdefined, -⟩ := Bool.and_eq_true_iff.mp hboth
      have hdefined : p.valueDefined = true := hdefined
      refine ⟨htracked.settled, htracked.zero, (fun h => nomatch h), (fun _ h => nomatch h), ?_, ?_,
        fun _ => rfl⟩
      · intro _
        exact BitVec.zero_and
      · intro _ _ _ _
        rfl
    case isFalse hneither =>
      refine ⟨htracked.settled, htracked.zero, (fun h => nomatch h), (fun _ h => nomatch h), ?_, ?_,
        fun _ => rfl⟩
      · intro _
        exact BitVec.zero_and
      · intro htype hdefined
        have hdefined : p.isDefined = true := hdefined
        simp [htype, hdefined] at hneither
  · -- it has not been set since the dispatch before
    rw [if_neg hflag]
    have hnone : h i = .none := by
      apply Change.eq_none
      apply eq_false_of_ne_true
      intro hany
      exact hflag ((htracks.flagged i).mpr hany)
    rw [hnone] at htracked
    exact htracked

/-! ## Runs -/

/-- The lists of a driver, with the history of every parameter since the last dispatch of its list. -/
structure State where
  driver : AsynPortDriver
  history : Nat → Nat → Change

inductive Action
  | createParam (list : Int) (name : String) (type : AsynParamType) (memory : BitVec 32)
  | setParam (list index : Int) (a : ParamVal.Setter)
  | callParamCallbacks (pInterfaces : AsynStandardInterfaces) (timeStamp : Nat)
      (interruptAccept : Bool) (list addr : Int)

/-- `callCallbacks` does nothing without `interruptAccept`, so that is no dispatch. -/
def step (s : State) : Action → Option State
  | .createParam list name type memory =>
      some { s with driver := (s.driver.createParam list name type memory 0).1 }
  | .setParam list index a =>
      some
        { driver := (s.driver.setParam list index a).1
          history :=
            match s.driver.getParamList list with
            | none => s.history
            | some pList => Function.update s.history list.toNat
                (pList.history (s.history list.toNat) index a) }
  | .callParamCallbacks pInterfaces timeStamp interruptAccept list addr =>
      some
        { driver :=
            (s.driver.callParamCallbacks pInterfaces timeStamp interruptAccept list addr).1
          history :=
            if interruptAccept && (s.driver.getParamList list).isSome then
              Function.update s.history list.toNat fun _ => .none
            else s.history }

def State.start (maxAddr : Int) : State := ⟨.new maxAddr, fun _ _ => .none⟩

def machine (maxAddr : Int) : Machine State Action := ⟨(· = .start maxAddr), step⟩

/-- Every list tracks its history. -/
def AllTrack (s : State) : Prop :=
  ∀ (list : Nat) (l : ParamList), s.driver.params[list]? = some l → Tracks l (s.history list)

/-- One list and its history are replaced. -/
theorem AllTrack.put {s : State} (hall : AllTrack s) {i : Nat} {l : ParamList}
    {h : Nat → Change} {d : AsynPortDriver} {history : Nat → Nat → Change}
    (hd : d = s.driver.putParamList i l) (hhistory : history = Function.update s.history i h)
    (htracks : Tracks l h) : AllTrack ⟨d, history⟩ := by
  intro j m hm
  subst hd hhistory
  have hm : (s.driver.params.set i l)[j]? = some m := hm
  show Tracks m (Function.update s.history i h j)
  by_cases hj : i = j
  · subst hj
    have hlt : i < s.driver.params.length := by
      have hlt := (List.getElem?_eq_some_iff.mp hm).1
      rwa [List.length_set] at hlt
    rw [List.getElem?_set_self hlt, Option.some.injEq] at hm
    subst hm
    rw [Function.update_self]
    exact htracks
  · rw [List.getElem?_set_ne hj] at hm
    rw [Function.update_of_ne (fun heq => hj heq.symm)]
    exact hall j m hm

theorem AllTrack.step {s s' : State} {action : Action} (hall : AllTrack s)
    (hstep : step s action = some s') : AllTrack s' := by
  cases action with
  | createParam list name type memory =>
      cases hstep
      cases hlist : s.driver.getParamList list with
      | none =>
          simp only [AsynPortDriver.createParam, hlist]
          exact hall
      | some l =>
          obtain ⟨i, rfl, hi⟩ := AsynPortDriver.getParamList_eq_some hlist
          simp only [AsynPortDriver.createParam, hlist]
          exact hall.put rfl (Function.update_eq_self i s.history).symm
            ((hall i l hi).createParam name type memory)
  | setParam list index a =>
      cases hstep
      cases hlist : s.driver.getParamList list with
      | none =>
          simp only [AsynPortDriver.setParam, hlist]
          exact hall
      | some l =>
          obtain ⟨i, rfl, hi⟩ := AsynPortDriver.getParamList_eq_some hlist
          simp only [AsynPortDriver.setParam, hlist, Int.toNat_natCast]
          exact hall.put rfl rfl ((hall i l hi).set index a)
  | callParamCallbacks pInterfaces timeStamp interruptAccept list addr =>
      cases hstep
      cases hlist : s.driver.getParamList list with
      | none =>
          simp only [AsynPortDriver.callParamCallbacks, hlist, Option.isSome_none, Bool.and_false,
            Bool.false_eq_true, if_false]
          exact hall
      | some l =>
          obtain ⟨i, rfl, hi⟩ := AsynPortDriver.getParamList_eq_some hlist
          simp only [AsynPortDriver.callParamCallbacks, hlist, Int.toNat_natCast, Option.isSome_some,
            Bool.and_true]
          cases interruptAccept with
          | true =>
              exact hall.put rfl rfl ((hall i l hi).callCallbacks pInterfaces timeStamp addr)
          | false =>
              exact hall.put rfl (Function.update_eq_self i s.history).symm (hall i l hi)

theorem AllTrack.reachable {maxAddr : Int} {s : State}
    (hreach : (machine maxAddr).Reachable Machine.Unguarded s) : AllTrack s := by
  refine hreach.invariant ?_ fun s a s' _ hall hstep => hall.step hstep
  intro s hinit list l hl
  rw [show s = .start maxAddr from hinit] at hl ⊢
  have hl : (List.replicate (if maxAddr < 1 then 1 else maxAddr.toNat) ParamList.empty)[list]? =
      some l := hl
  obtain ⟨hlt, hget⟩ := List.getElem?_eq_some_iff.mp hl
  rw [List.getElem_replicate] at hget
  rw [← hget]
  exact Tracks.empty

/-! ## Who is told -/

theorem flatMap_of_unique {α : Type} {flags : List Nat} {i : Nat} {f : Nat → List α} {x : List α}
    (hnodup : flags.Nodup) (hself : f i = x) (hother : ∀ j, j ≠ i → f j = []) :
    flags.flatMap f = if i ∈ flags then x else [] := by
  induction flags with
  | nil => rfl
  | cons j rest ih =>
      obtain ⟨hnew, hrest⟩ := List.nodup_cons.mp hnodup
      rw [List.flatMap_cons, ih hrest]
      by_cases hj : j = i
      · subst hj
        simp [hself, hnew]
      · have hne : ¬i = j := fun h => hj h.symm
        simp [hother j hj, hne]

/-- What one client is told in a dispatch. -/
theorem Tracks.told {l : ParamList} {h : Nat → Change} (htracks : Tracks l h)
    (pInterfaces : AsynStandardInterfaces) (timeStamp : Nat) (addr : Int) {i : Nat} {p : ParamVal}
    (hparam : l.vals[i]? = some p) {c : Client} (hclient : c ∈ pInterfaces.clients)
    (hregistered : p.registered i addr c = true) :
    ((l.callCallbacks pInterfaces timeStamp true addr).2.1.filter fun cb => cb.client = c) =
      if (h i).any && p.reaches i addr c then [p.callbackFor timeStamp c] else [] := by
  obtain ⟨-, hcallbacks⟩ := ParamList.callFlagged_eq pInterfaces timeStamp addr l.flags
    .asynSuccess htracks.nodup fun i => htracks.lt_of_mem
  have hcallbacks : (l.callCallbacks pInterfaces timeStamp true addr).2.1 = _ := hcallbacks
  have hreason : c.reason = i := by
    simp only [ParamVal.registered, Bool.and_eq_true, beq_iff_eq] at hregistered
    exact hregistered.2.1
  have hof : ∀ j q, l.vals[j]? = some q →
      ((l.callbacksOf pInterfaces timeStamp addr j).filter fun cb => cb.client = c) =
        if q.reaches j addr c then [q.callbackFor timeStamp c] else [] := by
    intro j q hq
    rw [ParamList.callbacksOf_eq pInterfaces timeStamp addr hq, List.filter_map]
    have hcomp : ((fun cb : Callback => decide (cb.client = c)) ∘ q.callbackFor timeStamp) =
        fun c' => decide (c' = c) := rfl
    rw [hcomp, List.filter_filter]
    have hswap : (pInterfaces.clients.filter fun c' => decide (c' = c) && q.reaches j addr c') =
        (pInterfaces.clients.filter fun c' => decide (c' = c)).filter fun _ => q.reaches j addr c := by
      rw [List.filter_filter]
      refine List.filter_congr ?_
      intro c' _
      by_cases hc : c' = c
      · simp [hc]
      · simp [hc]
    rw [hswap, List.filter_eq, List.count_eq_one_of_mem pInterfaces.nodup hclient]
    cases q.reaches j addr c <;> rfl
  have hself := hof i p hparam
  have hother : ∀ j, j ≠ i →
      ((l.callbacksOf pInterfaces timeStamp addr j).filter fun cb => cb.client = c) = [] := by
    intro j hj
    cases hq : l.vals[j]? with
    | none =>
        unfold ParamList.callbacksOf
        rw [hq]
        rfl
    | some q =>
        rw [hof j q hq]
        have hnot : q.reaches j addr c = false := by
          have hreason' : (c.reason == (j : Int)) = false := by
            rw [hreason, beq_eq_false_iff_ne]
            intro heq
            omega
          simp [ParamVal.reaches, ParamVal.registered, hreason']
        rw [hnot]
        rfl
  rw [hcallbacks, List.filter_flatMap, flatMap_of_unique htracks.nodup hself hother]
  have hflag := htracks.flagged i
  by_cases hmem : i ∈ l.flags
  · rw [if_pos hmem, hflag.mp hmem, Bool.true_and]
  · have hany : (h i).any = false := eq_false_of_ne_true fun hany => hmem (hflag.mpr hany)
    rw [if_neg hmem, hany]
    rfl

/-- The value has been changed, for a `UInt32Digital` in a bit that the client looks at or an
`interruptMask` has named, or the status or the alarm has been changed. -/
def ParamVal.hasChanged (p : ParamVal) (h : Change) (c : Client) : Prop :=
  if p.type = .asynParamUInt32Digital then
    h.bits &&& c.mask ≠ 0 ∨ h.status = true ∧ c.mask ≠ 0
  else h.value = true ∨ h.status = true ∨ h.defined = true

section HasChanged

variable {p : ParamVal} {h : Change} {c : Client} {i : Nat} {addr : Int}

theorem Tracked.reaches_of_hasChanged (htracked : Tracked p h) (hdefined : p.isDefined = true)
    (hregistered : p.registered i addr c = true) (hchanged : p.hasChanged h c) :
    (h.any && p.reaches i addr c) = true := by
  unfold ParamVal.hasChanged at hchanged
  simp only [ParamVal.reaches, hdefined, hregistered, Bool.true_and]
  split at hchanged
  case isTrue htype =>
    have hmask : (c.mask &&& p.uInt32CallbackMask != 0) = true := by
      rw [bne_iff_ne]
      rcases hchanged with hbits | ⟨hstatus, hmask⟩
      · intro hzero
        apply hbits
        rw [← htracked.bits htype, BitVec.and_assoc, BitVec.and_comm p.uInt32CallbackMask, hzero]
        exact BitVec.and_zero
      · rw [htracked.status htype hstatus]
        intro hzero
        exact hmask (BitVec.and_allOnes.symm.trans hzero)
    have hany : h.any = true := by
      rcases hchanged with hbits | ⟨hstatus, -⟩
      · have hne : h.bits ≠ 0#32 := by
          intro hzero
          rw [hzero] at hbits
          exact hbits BitVec.zero_and
        simp [Change.any, hne]
      · simp [Change.any, hstatus]
    rw [hany, hmask, Bool.or_true, Bool.and_self]
  case isFalse htype =>
    have htyped : (p.type != .asynParamUInt32Digital) = true := bne_iff_ne.mpr htype
    rw [htyped, Bool.true_or, Bool.and_true]
    rcases hchanged with hvalue | hstatus | hdefined
    · simp [Change.any, hvalue]
    · simp [Change.any, hstatus]
    · simp [Change.any, hdefined]

theorem Tracked.not_reaches (htracked : Tracked p h) (hchanged : ¬p.hasChanged h c)
    (hnew : h.defined = false) : (h.any && p.reaches i addr c) = false := by
  unfold ParamVal.hasChanged at hchanged
  apply eq_false_of_ne_true
  intro hboth
  simp only [ParamVal.reaches, Bool.and_eq_true] at hboth
  obtain ⟨hany, ⟨hdefined, -⟩, hmask⟩ := hboth
  split at hchanged
  case isTrue htype =>
    simp only [htype, bne_self_eq_false, Bool.false_or, bne_iff_ne] at hmask
    apply hchanged
    cases hstatus : h.status with
    | true =>
        -- all bits are set, so the client's mask is not empty
        refine .inr ⟨rfl, ?_⟩
        intro hzero
        rw [hzero] at hmask
        exact hmask BitVec.zero_and
    | false =>
        left
        rw [htracked.exact htype hdefined hnew hstatus] at hmask
        rw [BitVec.and_comm]
        exact hmask
  case isFalse htype =>
    simp only [Change.any, htracked.typed htype, bne_self_eq_false, Bool.false_or,
      Bool.or_eq_true] at hany
    rcases hany with (hvalue | hstatus) | hdefined
    · exact hchanged (.inl hvalue)
    · exact hchanged (.inr (.inl hstatus))
    · exact hchanged (.inr (.inr hdefined))

end HasChanged

/-- Nobody else is told. -/
theorem Tracks.registered_of_told {l : ParamList} {h : Nat → Change} (htracks : Tracks l h)
    (pInterfaces : AsynStandardInterfaces) (timeStamp : Nat) (addr : Int) {cb : Callback}
    (hcb : cb ∈ (l.callCallbacks pInterfaces timeStamp true addr).2.1) :
    ∃ (i : Nat) (p : ParamVal), l.vals[i]? = some p ∧ p.registered i addr cb.client = true ∧
      cb = p.callbackFor timeStamp cb.client := by
  obtain ⟨-, hcallbacks⟩ := ParamList.callFlagged_eq pInterfaces timeStamp addr l.flags
    .asynSuccess htracks.nodup fun i => htracks.lt_of_mem
  have hcallbacks : (l.callCallbacks pInterfaces timeStamp true addr).2.1 = _ := hcallbacks
  rw [hcallbacks] at hcb
  obtain ⟨i, hi, hcb⟩ := List.mem_flatMap.mp hcb
  have hlt := htracks.lt_of_mem hi
  have hparam : l.vals[i]? = some l.vals[i] := List.getElem?_eq_getElem hlt
  rw [ParamList.callbacksOf_eq pInterfaces timeStamp addr hparam] at hcb
  obtain ⟨c, hc, rfl⟩ := List.mem_map.mp hcb
  have hreaches := (List.mem_filter.mp hc).2
  simp only [ParamVal.reaches, Bool.and_eq_true] at hreaches
  exact ⟨i, _, hparam, hreaches.1.2, rfl⟩

/-- In a dispatch every client registered for a defined parameter is told its value, status and alarm
once if they have been changed since the dispatch before, and not at all if they have not and the
parameter has not become defined. -/
theorem callbacks_of_changes {maxAddr : Int} {s : State}
    (hreach : (machine maxAddr).Reachable Machine.Unguarded s) {list : Nat} {l : ParamList}
    (hlist : s.driver.getParamList list = some l) (pInterfaces : AsynStandardInterfaces)
    (timeStamp : Nat) (addr : Int) :
    (∀ (i : Nat) (p : ParamVal) (c : Client), l.vals[i]? = some p → c ∈ pInterfaces.clients → p.registered i addr c = true →
      ∀ told, told = ((s.driver.callParamCallbacks pInterfaces timeStamp true list addr).2.1.filter
          fun cb => cb.client = c) →
        (told = [] ∨ told = [p.callbackFor timeStamp c]) ∧
        (p.isDefined = true → p.hasChanged (s.history list i) c →
          told = [p.callbackFor timeStamp c]) ∧
        (p.isDefined = false ∨
            ¬p.hasChanged (s.history list i) c ∧ (s.history list i).defined = false →
          told = [])) ∧
    ∀ cb ∈ (s.driver.callParamCallbacks pInterfaces timeStamp true list addr).2.1,
      ∃ (i : Nat) (p : ParamVal), l.vals[i]? = some p ∧ p.registered i addr cb.client = true ∧
        cb = p.callbackFor timeStamp cb.client := by
  obtain ⟨k, hk, hl⟩ := AsynPortDriver.getParamList_eq_some hlist
  obtain rfl : list = k := by omega
  have htracks := AllTrack.reachable hreach list l hl
  have hcall : (s.driver.callParamCallbacks pInterfaces timeStamp true list addr).2.1 =
      (l.callCallbacks pInterfaces timeStamp true addr).2.1 := by
    simp [AsynPortDriver.callParamCallbacks, hlist]
  rw [hcall]
  constructor
  · intro i p c hparam hclient hregistered told htold
    rw [htracks.told pInterfaces timeStamp addr hparam hclient hregistered] at htold
    have htracked := htracks.param i p hparam
    refine ⟨?_, ?_, ?_⟩
    · rw [htold]
      split
      · exact .inr rfl
      · exact .inl rfl
    · intro hdefined hchanged
      rw [htold, htracked.reaches_of_hasChanged hdefined hregistered hchanged, if_pos rfl]
    · intro hnone
      have hnot : ((s.history list i).any && p.reaches i addr c) = false := by
        rcases hnone with hundefined | ⟨hchanged, hnew⟩
        · simp [ParamVal.reaches, hundefined]
        · exact htracked.not_reaches hchanged hnew
      rw [htold, hnot]
      rfl
  · intro cb hcb
    exact htracks.registered_of_told pInterfaces timeStamp addr hcb

/-- A client for each of the first three parameters. -/
def threeClients : AsynStandardInterfaces where
  interruptPvt := fun _ => true
  clients := [⟨0, .int32, 0, -1, 0⟩, ⟨1, .uInt32Digital, 1, -1, 1⟩, ⟨2, .float64, 2, -1, 0⟩]
  nodup := by decide
  registered := fun _ _ => rfl

/-- Two parameters with a value that has been announced, and one without a value. -/
def announcedOnce : List Action :=
  [.createParam 0 "a" .asynParamInt32 0, .createParam 0 "b" .asynParamUInt32Digital 0,
    .createParam 0 "c" .asynParamFloat64 0, .setParam 0 0 (.setInteger 1),
    .setParam 0 1 (.setUInt32 1 1 0), .callParamCallbacks threeClients 0 true 0 0]

/-- Another value and the old one again, an `interruptMask`, and a status without a value. -/
def setBack : List Action :=
  [.setParam 0 0 (.setInteger 2), .setParam 0 0 (.setInteger 1), .setParam 0 1 (.setUInt32 1 1 1),
    .setParam 0 2 (.setStatus .asynTimeout)]

/-- The clients that are told, in order. -/
def State.toldClients (s : State) : List Nat :=
  (s.driver.callParamCallbacks threeClients 1 true 0 0).2.1.map fun cb => cb.client.node

/-- An `Int32` with the value 1. -/
def definedParam : ParamVal :=
  { ParamVal.new "a" .asynParamInt32 0 with ival := 1, valueDefined := true }

/-- The new value 1 of the first parameter is announced. -/
theorem callbacks_of_changes_first : ∃ s, (machine 1).Reachable Machine.Unguarded s ∧
    ∃ (l : ParamList) (p : ParamVal), l.vals[0]? = some p ∧ p.ival = 1 ∧
      (s.driver.callParamCallbacks threeClients 0 true 0 0).2.1.filter
          (fun cb => cb.client = ⟨0, .int32, 0, -1, 0⟩) =
        [p.callbackFor 0 ⟨0, .int32, 0, -1, 0⟩] := by
  obtain ⟨s, hreach, hvalue⟩ := Machine.exists_reachable_of_exec (M := machine 1)
    (fun s => (s.driver.getParamList 0, s.history 0 0))
    [.createParam 0 "a" .asynParamInt32 0, .setParam 0 0 (.setInteger 1)] rfl
    (show _ = some (some ⟨[0], [definedParam]⟩, ⟨0, true, false, true⟩) from by decide +kernel)
  obtain ⟨hlist, hhistory⟩ := Prod.mk.inj hvalue
  refine ⟨s, hreach, ⟨[0], [definedParam]⟩, definedParam, rfl, rfl, ?_⟩
  refine ((callbacks_of_changes hreach hlist threeClients 0 0).1 0 _ ⟨0, .int32, 0, -1, 0⟩ rfl
    (by decide) (by decide) _ rfl).2.1 rfl ?_
  rw [show s.history (0 : Nat) (0 : Nat) = _ from hhistory]
  exact .inl rfl

/-- The parameters, up to what the next dispatch is about. -/
def State.held (s : State) : List ParamVal :=
  (s.driver.params.flatMap ParamList.vals).map fun p => { p with uInt32CallbackMask := 0 }

/-- Two clients are told although nothing differs from the dispatch before, and one is not told of a
status that differs. -/
theorem told_of_setBack : ∃ s₁ s₂ : State, (machine 1).exec (.start 1) announcedOnce = some s₁ ∧
    (machine 1).exec s₁ setBack = some s₂ ∧ s₂.held.take 2 = s₁.held.take 2 ∧
    s₁.held[2]?.map ParamVal.status_ = some .asynSuccess ∧
    s₂.held[2]?.map ParamVal.status_ = some .asynTimeout ∧ s₂.toldClients = [0, 1] := by
  have hruns : (((machine 1).exec (.start 1) announcedOnce).bind fun s₁ =>
      ((machine 1).exec s₁ setBack).map fun s₂ =>
        (decide (s₂.held.take 2 = s₁.held.take 2), s₁.held[2]?.map ParamVal.status_,
          s₂.held[2]?.map ParamVal.status_, s₂.toldClients)) =
      some (true, some .asynSuccess, some .asynTimeout, [0, 1]) := by decide +kernel
  obtain ⟨s₁, hfirst, hruns⟩ := Option.bind_eq_some_iff.mp hruns
  obtain ⟨s₂, hsecond, hvalue⟩ := Option.map_eq_some_iff.mp hruns
  simp only [Prod.mk.injEq, decide_eq_true_eq] at hvalue
  obtain ⟨hheld, hbefore, hafter, htold⟩ := hvalue
  exact ⟨s₁, s₂, hfirst, hsecond, hheld, hbefore, hafter, htold⟩

end PortDriver
end AsynDriver
