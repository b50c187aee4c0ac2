import AsynDriver.PortDriver.ChangedParams
import AsynDriver.PortDriver.DefaultMethods

/-!
# What a read gives back of a write

The default methods against the parameter that the `asynUser` denotes.

* `ParamVal.SameValue`, `ParamList.Keeps`, `AsynPortDriver.Keeps` — what a call leaves of the
  parameters: callbacks touch `uInt32CallbackMask` and `valueChanged` only.
* `Kept` — runs of the driver that do not set one parameter.
* `Write.Holds`, `Write.ReadsBack` — the parameter and a read after a write.
* `write_then_read` — the writes of every kind, from every state.

The status that a read returns is the one stored with `setParamStatus`.
-/

namespace AsynDriver
namespace PortDriver

open Library
open Manager (AsynStatus)

/-! ## Parameters that keep their value -/

/-- The two differ in what `callParamCallbacks` changes at most. -/
def ParamVal.SameValue (p q : ParamVal) : Prop :=
  q = { p with uInt32CallbackMask := q.uInt32CallbackMask, valueChanged := q.valueChanged }

namespace ParamVal.SameValue

theorem refl (p : ParamVal) : p.SameValue p := rfl

theorem trans {p q r : ParamVal} (hpq : p.SameValue q) (hqr : q.SameValue r) : p.SameValue r := by
  unfold SameValue at *
  rw [hqr, hpq]

end ParamVal.SameValue

namespace ParamList

variable {l l' l'' : ParamList} {kept : Nat → Prop}

/-- The parameters of `l` are still there, those in `kept` with their value. -/
def Keeps (l l' : ParamList) (kept : Nat → Prop) : Prop :=
  ∀ (i : Nat) (p : ParamVal), l.vals[i]? = some p →
    ∃ p', l'.vals[i]? = some p' ∧ (kept i → p.SameValue p')

theorem Keeps.refl (l : ParamList) (kept : Nat → Prop) : l.Keeps l kept :=
  fun _ p hp => ⟨p, hp, fun _ => .refl p⟩

theorem Keeps.trans (hfirst : l.Keeps l' kept) (hsecond : l'.Keeps l'' kept) :
    l.Keeps l'' kept := by
  intro i p hp
  obtain ⟨p', hp', hsame'⟩ := hfirst i p hp
  obtain ⟨p'', hp'', hsame''⟩ := hsecond i p' hp'
  exact ⟨p'', hp'', fun hi => (hsame' hi).trans (hsame'' hi)⟩

/-- A parameter that is replaced is not in `kept`, or is replaced by one of the same value. -/
theorem keeps_set {flags : List Nat} {i : Nat} {p q : ParamVal} (hp : l.vals[i]? = some p)
    (hsame : kept i → p.SameValue q) : l.Keeps ⟨flags, l.vals.set i q⟩ kept := by
  intro j r hr
  by_cases hj : i = j
  · subst hj
    rw [hp] at hr
    cases hr
    exact ⟨q, List.getElem?_set_self (List.getElem?_eq_some_iff.mp hp).1, hsame⟩
  · exact ⟨r, (List.getElem?_set_ne hj).trans hr, fun _ => .refl r⟩

theorem createParam_keeps (l : ParamList) (name : String) (type : AsynParamType)
    (memory : BitVec 32) (kept : Nat → Prop) : l.Keeps (l.createParam name type memory).1 kept := by
  unfold createParam
  simp only
  split
  case isTrue => exact Keeps.refl l kept
  case isFalse =>
    intro i p hp
    have hlt : i < l.vals.length := (List.getElem?_eq_some_iff.mp hp).1
    exact ⟨p, (List.getElem?_append_left hlt).trans hp, fun _ => .refl p⟩

/-- A setter replaces one parameter at most. -/
theorem set_keeps (l : ParamList) (index : Int) (a : ParamVal.Setter)
    (hkept : ∀ i : Nat, kept i → (i : Int) ≠ index) : l.Keeps (l.set index a).1 kept := by
  cases hparam : l.getParameter index with
  | none =>
      simp only [set, hparam]
      exact Keeps.refl l kept
  | some p =>
      obtain ⟨i, rfl, hi⟩ := getParameter_eq_some hparam
      cases hset : p.set a with
      | error e =>
          simp only [set, hparam, hset]
          exact Keeps.refl l kept
      | ok p' =>
          rw [set_ok hi hset]
          exact keeps_set hi fun h => absurd rfl (hkept i h)

variable (pInterfaces : AsynStandardInterfaces) (timeStamp : Nat) (addr : Int)

theorem callFlagged_keeps (kept : Nat → Prop) (rest : List Nat) (l : ParamList)
    (status : AsynStatus) :
    l.Keeps (callFlagged pInterfaces timeStamp addr rest l status).1 kept := by
  induction rest generalizing l status with
  | nil => exact fun i p hp => ⟨p, hp, fun _ => .refl p⟩
  | cons index rest ih =>
      unfold callFlagged
      rw [getParameter_natCast]
      cases hp : l.vals[index]? with
      | none => exact Keeps.refl l kept
      | some p =>
          simp only
          cases hdefined : p.isDefined with
          | false => exact ih l status
          | true =>
              simp only [Bool.not_true, Bool.false_eq_true, if_false]
              rw [callback_list pInterfaces timeStamp addr hp hdefined]
              refine Keeps.trans (keeps_set hp fun _ => ?_) (ih _ _)
              unfold ParamVal.announced ParamVal.SameValue
              split <;> rfl

theorem callCallbacks_keeps (l : ParamList) (interruptAccept : Bool) (kept : Nat → Prop) :
    l.Keeps (l.callCallbacks pInterfaces timeStamp interruptAccept addr).1 kept := by
  unfold callCallbacks
  cases interruptAccept with
  | false => exact Keeps.refl l kept
  | true => exact callFlagged_keeps pInterfaces timeStamp addr kept l.flags l .asynSuccess

end ParamList

namespace AsynPortDriver

variable {d d' d'' : AsynPortDriver} {kept : Nat → Nat → Prop}

/-- The parameters of all lists are still there, those in `kept` with their value. -/
def Keeps (d d' : AsynPortDriver) (kept : Nat → Nat → Prop) : Prop :=
  d'.params.length = d.params.length ∧
    ∀ (list : Nat) (l : ParamList), d.params[list]? = some l →
      ∃ l', d'.params[list]? = some l' ∧ l.Keeps l' (kept list)

theorem Keeps.refl (d : AsynPortDriver) (kept : Nat → Nat → Prop) : d.Keeps d kept :=
  ⟨rfl, fun list l hl => ⟨l, hl, .refl l (kept list)⟩⟩

theorem Keeps.trans (hfirst : d.Keeps d' kept) (hsecond : d'.Keeps d'' kept) : d.Keeps d'' kept := by
  refine ⟨hsecond.1.trans hfirst.1, ?_⟩
  intro list l hl
  obtain ⟨l', hl', hkeeps'⟩ := hfirst.2 list l hl
  obtain ⟨l'', hl'', hkeeps''⟩ := hsecond.2 list l' hl'
  exact ⟨l'', hl'', hkeeps'.trans hkeeps''⟩

theorem putParamList_keeps {list : Nat} {l l' : ParamList} (hl : d.params[list]? = some l)
    (hkeeps : l.Keeps l' (kept list)) : d.Keeps (d.putParamList list l') kept := by
  refine ⟨List.length_set, ?_⟩
  intro j k hk
  by_cases hj : list = j
  · subst hj
    rw [hl] at hk
    cases hk
    exact ⟨l', List.getElem?_set_self (List.getElem?_eq_some_iff.mp hl).1, hkeeps⟩
  · exact ⟨k, (List.getElem?_set_ne hj).trans hk, .refl k (kept j)⟩

theorem createParam_keeps (d : AsynPortDriver) (list : Int) (name : String) (type : AsynParamType)
    (memory : BitVec 32) (index : Int) (kept : Nat → Nat → Prop) :
    d.Keeps (d.createParam list name type memory index).1 kept := by
  unfold createParam
  cases hlist : d.getParamList list with
  | none => exact Keeps.refl d kept
  | some l =>
      obtain ⟨i, rfl, hl⟩ := getParamList_eq_some hlist
      exact putParamList_keeps hl (l.createParam_keeps name type memory (kept i))

theorem createFrom_keeps (name : String) (type : AsynParamType) (memory : Nat → BitVec 32)
    (kept : Nat → Nat → Prop) (remaining list : Nat) (d : AsynPortDriver) (index : Int) :
    d.Keeps (createFrom name type memory remaining list d index).1 kept := by
  induction remaining generalizing list d index with
  | zero => exact Keeps.refl d kept
  | succ remaining ih =>
      have hfirst := d.createParam_keeps list name type (memory list) index kept
      unfold createFrom
      simp only
      split
      case isTrue => exact hfirst
      case isFalse => exact hfirst.trans (ih _ _ _)

theorem setParam_keeps (d : AsynPortDriver) (list index : Int) (a : ParamVal.Setter)
    (hkept : ∀ j i : Nat, kept j i → ¬((j : Int) = list ∧ (i : Int) = index)) :
    d.Keeps (d.setParam list index a).1 kept := by
  unfold setParam
  cases hlist : d.getParamList list with
  | none => exact Keeps.refl d kept
  | some l =>
      obtain ⟨j, rfl, hl⟩ := getParamList_eq_some hlist
      exact putParamList_keeps hl (l.set_keeps index a fun i hi heq => hkept j i hi ⟨rfl, heq⟩)

theorem callParamCallbacks_keeps (d : AsynPortDriver) (pInterfaces : AsynStandardInterfaces)
    (timeStamp : Nat) (interruptAccept : Bool) (list addr : Int) (kept : Nat → Nat → Prop) :
    d.Keeps (d.callParamCallbacks pInterfaces timeStamp interruptAccept list addr).1 kept := by
  unfold callParamCallbacks
  cases hlist : d.getParamList list with
  | none => exact Keeps.refl d kept
  | some l =>
      obtain ⟨j, rfl, hl⟩ := getParamList_eq_some hlist
      exact putParamList_keeps hl
        (ParamList.callCallbacks_keeps pInterfaces timeStamp addr l interruptAccept (kept j))

/-! ## Runs that do not set a parameter -/

/-- What is done to a driver. -/
inductive Operation
  | createParam (list : Int) (name : String) (type : AsynParamType) (memory : BitVec 32)
      (index : Int)
  | createParamInAll (name : String) (type : AsynParamType) (memory : Nat → BitVec 32) (index : Int)
  | setParam (list index : Int) (a : ParamVal.Setter)
  | callParamCallbacks (pInterfaces : AsynStandardInterfaces) (timeStamp : Nat)
      (interruptAccept : Bool) (list addr : Int)

def operate (d : AsynPortDriver) : Operation → AsynPortDriver
  | .createParam list name type memory index => (d.createParam list name type memory index).1
  | .createParamInAll name type memory index => (d.createParamInAll name type memory index).1
  | .setParam list index a => (d.setParam list index a).1
  | .callParamCallbacks pInterfaces timeStamp interruptAccept list addr =>
      (d.callParamCallbacks pInterfaces timeStamp interruptAccept list addr).1

def operations (maxAddrIn : Int) : Machine AsynPortDriver Operation :=
  ⟨(· = new maxAddrIn), fun d o => some (d.operate o)⟩

/-- No set of a parameter; the writes of the interfaces are sets followed by callbacks. -/
def NotSet (list index : Nat) (_ : AsynPortDriver) : Operation → Prop
  | .setParam list' index' _ => ¬((list : Int) = list' ∧ (index : Int) = index')
  | _ => True

/-- A run that does not set a parameter keeps its value. -/
theorem path_keeps {maxAddrIn : Int} {list index : Nat}
    (hpath : (operations maxAddrIn).Path (NotSet list index) d d') :
    d.Keeps d' fun j i => j = list ∧ i = index := by
  refine Machine.Path.invariant (I := fun t => d.Keeps t fun j i => j = list ∧ i = index) ?_ hpath
    (Keeps.refl d _)
  intro t o t' hok hkeeps hstep
  cases hstep
  refine hkeeps.trans ?_
  cases o with
  | createParam list' name type memory index' =>
      exact t.createParam_keeps list' name type memory index' _
  | createParamInAll name type memory index' =>
      exact createFrom_keeps name type memory _ t.maxAddr 0 t index'
  | setParam list' index' a =>
      refine t.setParam_keeps list' index' a ?_
      rintro j i ⟨rfl, rfl⟩
      exact hok
  | callParamCallbacks pInterfaces timeStamp interruptAccept list' addr =>
      exact t.callParamCallbacks_keeps pInterfaces timeStamp interruptAccept list' addr _

/-! ## The `asynUser` of a parameter -/

/-- The address depends on the number of lists only. -/
theorem getAddress_congr (hlength : d'.params.length = d.params.length) (addr : Int) :
    d'.getAddress addr = d.getAddress addr := by
  unfold getAddress maxAddr
  rw [hlength]

/-- The `asynUser` denotes a parameter: the address is that of a list, and list 0 has the index. -/
structure Denotes (d : AsynPortDriver) (pasynUser : AsynUser) (list index : Nat) : Prop where
  address : d.getAddress pasynUser.addr = (.asynSuccess, (list : Int))
  reason : pasynUser.reason = index
  first : ∃ l p, d.params[0]? = some l ∧ l.vals[index]? = some p

theorem Denotes.parseAsynUser {pasynUser : AsynUser} {list index : Nat}
    (hdenotes : d.Denotes pasynUser list index) :
    (d.parseAsynUser pasynUser).1 = .asynSuccess ∧ (d.parseAsynUser pasynUser).2.1 = list := by
  obtain ⟨l, p, hl, hp⟩ := hdenotes.first
  have hlist : d.getParamList 0 = some l := (d.getParamList_natCast 0).trans hl
  have hparam : l.getParameter pasynUser.reason = some p := by
    rw [hdenotes.reason, ParamList.getParameter_natCast]
    exact hp
  simp only [AsynPortDriver.parseAsynUser, hdenotes.address, getParamName, hlist, hparam, ne_eq,
    not_true_eq_false, if_false, and_self]

theorem Denotes.keeps {pasynUser : AsynUser} {list index : Nat}
    (hdenotes : d.Denotes pasynUser list index) (hkeeps : d.Keeps d' kept) :
    d'.Denotes pasynUser list index := by
  obtain ⟨l, p, hl, hp⟩ := hdenotes.first
  obtain ⟨l', hl', hlist⟩ := hkeeps.2 0 l hl
  obtain ⟨p', hp', -⟩ := hlist index p hp
  exact ⟨(getAddress_congr hkeeps.1 _).trans hdenotes.address, hdenotes.reason, l', p', hl', hp'⟩

end AsynPortDriver

/-! ## The parameter after a write -/

theorem take_cString (s : List UInt8) : s.take (cString s).length = cString s :=
  (List.prefix_iff_eq_take.mp (List.takeWhile_prefix _)).symm

@[simp] theorem cString_cString (s : List UInt8) : cString (cString s) = cString s := by
  unfold cString
  exact List.takeWhile_idem

/-- The value of a `UInt32Digital` after a write under a mask. -/
def ParamVal.merged (p : ParamVal) (value mask : BitVec 32) : BitVec 32 :=
  ((if p.isDefined then p.uival else 0) &&& ~~~mask) ||| (value &&& mask)

namespace Write

variable {p p' before : ParamVal}

/-- The value that was written is in the parameter, which was `before`.  Of a string the first
`nChars` characters are meant where the C string has that length. -/
def Holds (before p : ParamVal) : Write → Prop
  | .int32 value => p.ival = value
  | .int64 value => p.i64val = value
  | .uInt32Digital value mask => p.uival = before.merged value mask
  | .float64 value => p.dval = value ∨ p.dval.equals value = true
  | .octet value nChars => nChars = (cString value).length → p.sval = value.take nChars

/-- What the read of the same kind returns: the written value with the status of the parameter. -/
def ReadsBack (d : AsynPortDriver) (pasynUser : AsynUser) (before : ParamVal) (status : AsynStatus) :
    Write → Prop
  | .int32 value => ∀ (timeStamp : Nat) (old : Int32),
      (d.readInt32 pasynUser timeStamp old).value = value ∧
        (d.readInt32 pasynUser timeStamp old).status = status
  | .int64 value => ∀ (timeStamp : Nat) (old : Int64),
      (d.readInt64 pasynUser timeStamp old).value = value ∧
        (d.readInt64 pasynUser timeStamp old).status = status
  | .uInt32Digital value mask => ∀ (timeStamp : Nat) (readMask old : BitVec 32),
      (d.readUInt32Digital pasynUser timeStamp readMask old).value =
          before.merged value mask &&& readMask ∧
        (d.readUInt32Digital pasynUser timeStamp readMask old).status = status
  | .float64 value => ∀ (timeStamp : Nat) (old : EpicsFloat64),
      ((d.readFloat64 pasynUser timeStamp old).value = value ∨
          (d.readFloat64 pasynUser timeStamp old).value.equals value = true) ∧
        (d.readFloat64 pasynUser timeStamp old).status = status
  | .octet value nChars => nChars = (cString value).length →
      ∀ (timeStamp maxChars : Nat) (old : List UInt8), 0 < maxChars → maxChars < 2 ^ 31 →
        (d.readOctet pasynUser timeStamp maxChars old).result.value =
            (value.take nChars).take (maxChars - 1) ∧
          (d.readOctet pasynUser timeStamp maxChars old).result.status = status

theorem set_wrongType {w : Write} (htype : p.type ≠ w.type) :
    p.set w.setter = .error .wrongType := by
  cases w <;>
    simp only [type] at htype <;>
    simp [setter, ParamVal.set, ParamVal.setInteger, ParamVal.setInteger64, ParamVal.setUInt32,
      ParamVal.setDouble, ParamVal.setString, ParamVal.setTyped, htype]

/-- A setter that stores a value, or finds it stored. -/
theorem setTyped_holds {type : AsynParamType} {differs : Bool} {stored : ParamVal}
    (held : ParamVal → Prop) (htype : p.type = type) (hstored : stored.type = p.type)
    (hstatus : stored.status_ = p.status_)
    (hheld : held { stored with valueDefined := true, valueChanged := true })
    (hkept : differs = false → held p) :
    ∃ p', p.setTyped type differs stored = .ok p' ∧ held p' ∧ p'.type = p.type ∧
      p'.isDefined = true ∧ p'.status_ = p.status_ := by
  unfold ParamVal.setTyped
  rw [if_neg (not_not.mpr htype)]
  split
  case isTrue => exact ⟨_, rfl, hheld, hstored, rfl, hstatus⟩
  case isFalse hsame =>
    rw [Bool.or_eq_true, not_or] at hsame
    refine ⟨p, rfl, hkept (Bool.eq_false_iff.mpr hsame.2), rfl, ?_, rfl⟩
    simpa using hsame.1

theorem setUInt32_holds (htype : p.type = .asynParamUInt32Digital) (value mask : BitVec 32) :
    ∃ p', p.setUInt32 value mask 0 = .ok p' ∧ p'.uival = p.merged value mask ∧ p'.type = p.type ∧
      p'.isDefined = true ∧ p'.status_ = p.status_ := by
  unfold ParamVal.setUInt32 ParamVal.merged
  rw [if_neg (not_not.mpr htype)]
  refine ⟨_, rfl, ?_⟩
  simp only [ne_eq, not_true_eq_false, if_false]
  cases hdefined : p.isDefined with
  | true =>
      simp only [if_true]
      split
      case isTrue => exact ⟨rfl, rfl, hdefined, rfl⟩
      case isFalse hsame => exact ⟨not_not.mp hsame, rfl, hdefined, rfl⟩
  | false =>
      simp only [Bool.false_eq_true, if_false]
      split
      case isTrue => exact ⟨rfl, rfl, rfl, rfl⟩
      case isFalse hsame => exact ⟨not_not.mp hsame, rfl, rfl, rfl⟩

theorem set_holds {w : Write} (htype : p.type = w.type) :
    ∃ p', p.set w.setter = .ok p' ∧ w.Holds p p' ∧ p'.type = p.type ∧ p'.isDefined = true ∧
      p'.status_ = p.status_ := by
  cases w with
  | int32 value =>
      refine setTyped_holds (fun q => q.ival = value) htype rfl rfl rfl fun hsame => ?_
      simpa using hsame
  | int64 value =>
      refine setTyped_holds (fun q => q.i64val = value) htype rfl rfl rfl fun hsame => ?_
      simpa using hsame
  | uInt32Digital value mask => exact setUInt32_holds htype value mask
  | float64 value =>
      refine setTyped_holds (fun q => q.dval = value ∨ q.dval.equals value = true) htype rfl rfl
        (.inl rfl) fun hsame => .inr ?_
      simpa using hsame
  | octet value nChars =>
      have hholds := @setTyped_holds p _ (p.sval != cString value) { p with sval := cString value }
        (fun q => q.sval = cString value) htype rfl rfl rfl fun hsame => by simpa using hsame
      obtain ⟨p', hset, hval, hrest⟩ := hholds
      refine ⟨p', hset, ?_, hrest⟩
      rintro rfl
      rw [take_cString]
      exact hval

end Write

namespace ParamVal

theorem getTyped_ok {α : Type} {p : ParamVal} {type : AsynParamType} (htype : p.type = type)
    (hdefined : p.isDefined = true) (value : α) : p.getTyped type value = .ok value := by
  unfold getTyped
  rw [if_neg (not_not.mpr htype), hdefined]
  rfl

/-- What is read of a parameter does not depend on the fields that callbacks touch. -/
theorem SameValue.holds {p q before : ParamVal} (hsame : p.SameValue q) {w : Write}
    (hholds : w.Holds before p) : w.Holds before q := by
  unfold SameValue at hsame
  rw [hsame]
  cases w <;> exact hholds

end ParamVal

namespace AsynPortDriver

variable {d : AsynPortDriver} {pasynUser : AsynUser} {list index : Nat} {l : ParamList}
  {p : ParamVal}

/-- A read of a parameter that gives a value. -/
theorem read_eq {α : Type} (hdenotes : d.Denotes pasynUser list index)
    (hl : d.params[list]? = some l) (hp : l.vals[index]? = some p)
    (value : ParamVal → Except ParamException α) {v : α} (hvalue : value p = .ok v) (zero : α)
    (timeStamp : Nat) (functionName : String) (printed : AsynStatus → α → Printed) (old : α) :
    (d.read pasynUser timeStamp functionName (fun l => l.get pasynUser.reason value zero) printed
        old).value = v ∧
      (d.read pasynUser timeStamp functionName (fun l => l.get pasynUser.reason value zero) printed
        old).status = p.status_ := by
  obtain ⟨hstatus, haddress⟩ := hdenotes.parseAsynUser
  have hlist : d.getParamList list = some l := (d.getParamList_natCast list).trans hl
  have hparam : l.getParameter pasynUser.reason = some p := by
    rw [hdenotes.reason, ParamList.getParameter_natCast]
    exact hp
  unfold read
  simp only [hstatus, haddress, getParam, hlist, ParamList.get, hparam, hvalue, ne_eq,
    not_true_eq_false, if_false, and_self]

theorem toInt_of_lt {maxChars : Nat} (hlt : maxChars < 2 ^ 31) : toInt maxChars = maxChars := by
  unfold toInt
  exact Int.bmod_eq_of_le (by omega) (by omega)

/-- Where a value is held a read returns it. -/
theorem readsBack (hdenotes : d.Denotes pasynUser list index) (hl : d.params[list]? = some l)
    (hp : l.vals[index]? = some p) {w : Write} {before : ParamVal} (hholds : w.Holds before p)
    (htype : p.type = w.type) (hdefined : p.isDefined = true) :
    w.ReadsBack d pasynUser before p.status_ := by
  cases w with
  | int32 value =>
      intro timeStamp old
      have hread := read_eq hdenotes hl hp ParamVal.getInteger
        (ParamVal.getTyped_ok htype hdefined p.ival) 0 timeStamp "readInt32"
        (fun _ value => .int32 value) old
      exact ⟨hread.1.trans hholds, hread.2⟩
  | int64 value =>
      intro timeStamp old
      have hread := read_eq hdenotes hl hp ParamVal.getInteger64
        (ParamVal.getTyped_ok htype hdefined p.i64val) 0 timeStamp "readInt64"
        (fun _ value => .int64 value) old
      exact ⟨hread.1.trans hholds, hread.2⟩
  | uInt32Digital value mask =>
      intro timeStamp readMask old
      have hread := read_eq hdenotes hl hp (fun p => p.getUInt32 readMask)
        (ParamVal.getTyped_ok htype hdefined (p.uival &&& readMask)) 0 timeStamp
        "readUInt32Digital" (fun _ value => .uInt32Digital value readMask) old
      exact ⟨hread.1.trans (congrArg (· &&& readMask) hholds), hread.2⟩
  | float64 value =>
      intro timeStamp old
      have hread := read_eq hdenotes hl hp ParamVal.getDouble
        (ParamVal.getTyped_ok htype hdefined p.dval) ⟨0⟩ timeStamp "readFloat64"
        (fun status value =>
          if status = .asynParamUndefined then .undefined else .float64 value) old
      refine ⟨?_, hread.2⟩
      rw [show (d.readFloat64 pasynUser timeStamp old).value = p.dval from hread.1]
      exact hholds
  | octet value nChars =>
      intro hlength timeStamp maxChars old hpos hlt
      have hstored : p.sval = value.take nChars := hholds hlength
      have hstring : cString (value.take nChars) = value.take nChars := by
        rw [hlength, take_cString, cString_cString]
      have hget : p.getString = .ok (value.take nChars) :=
        hstored ▸ ParamVal.getTyped_ok htype hdefined p.sval
      have hread := read_eq hdenotes hl hp
        (fun p => p.getString.map fun s => (cString s).take (maxChars - 1))
        (v := (value.take nChars).take (maxChars - 1))
        (by rw [hget, ← hstring]; simp [Except.map]) old timeStamp "readOctet"
        (fun _ value => .octet value) old
      have hsame : (fun l : ParamList => l.getString pasynUser.reason (toInt maxChars) old) =
          fun l => l.get pasynUser.reason
            (fun p => p.getString.map fun s => (cString s).take (maxChars - 1)) old := by
        funext l
        have hchars : ((maxChars : Int) - 1).toNat = maxChars - 1 := by omega
        rw [ParamList.getString, toInt_of_lt hlt, if_pos (by omega), hchars]
      unfold readOctet
      simp only [hdenotes.parseAsynUser.1, ne_eq, not_true_eq_false, if_false, hsame]
      exact hread

/-! ## The writes -/

section DoWrite

variable (pInterfaces : AsynStandardInterfaces) (timeStamp : Nat) (interruptAccept : Bool) (w : Write)

/-- A write that `parseAsynUser` refuses. -/
theorem doWrite_refused (hparse : (d.parseAsynUser pasynUser).1 ≠ .asynSuccess) :
    (d.doWrite pInterfaces timeStamp interruptAccept pasynUser w).driver = d ∧
      (d.doWrite pInterfaces timeStamp interruptAccept pasynUser w).status =
        (d.parseAsynUser pasynUser).1 := by
  cases w <;>
    simp [doWrite, writeInt32, writeInt64, writeUInt32Digital, writeFloat64, writeOctet, write,
      hparse]

variable {pInterfaces timeStamp interruptAccept w}

/-- Otherwise it is a set followed by callbacks. -/
theorem doWrite_driver (hdenotes : d.Denotes pasynUser list index) :
    (d.doWrite pInterfaces timeStamp interruptAccept pasynUser w).driver =
      ((d.setParam list index w.setter).1.callParamCallbacks pInterfaces timeStamp interruptAccept
        list list).1 := by
  obtain ⟨hstatus, haddress⟩ := hdenotes.parseAsynUser
  have hreason := hdenotes.reason
  cases w <;>
    simp only [doWrite, writeInt32, writeInt64, writeUInt32Digital, writeFloat64, writeOctet, write,
      hstatus, haddress, hreason, ne_eq, not_true_eq_false, if_false, Write.setter]

theorem doWrite_float64 (hdenotes : d.Denotes pasynUser list index)
    (htype : w.type = .asynParamFloat64) :
    (d.doWrite pInterfaces timeStamp interruptAccept pasynUser w).status =
      (d.setParam list index w.setter).2 := by
  obtain ⟨hstatus, haddress⟩ := hdenotes.parseAsynUser
  have hreason := hdenotes.reason
  cases w with
  | float64 value =>
      simp only [doWrite, writeFloat64, hstatus, haddress, hreason, ne_eq, not_true_eq_false,
        if_false, Write.setter]
  | _ => exact nomatch htype

/-- A set of a parameter that is missing or of another type. -/
theorem setParam_refused (hl : d.params[list]? = some l)
    (hwrong : ∀ p, l.vals[index]? = some p → p.type ≠ w.type) :
    (d.setParam list index w.setter).1 = d ∧ (d.setParam list index w.setter).2 ≠ .asynSuccess := by
  have hlist : d.getParamList list = some l := (d.getParamList_natCast list).trans hl
  cases hp : l.vals[index]? with
  | none =>
      simp only [setParam, hlist, ParamList.set, ParamList.getParameter_natCast, hp]
      exact ⟨putParamList_self hl, by decide⟩
  | some p =>
      simp only [setParam, hlist, ParamList.set, ParamList.getParameter_natCast, hp,
        Write.set_wrongType (hwrong p hp)]
      exact ⟨putParamList_self hl, by decide⟩

/-- A set of a parameter of the type of the write. -/
theorem setParam_holds (hl : d.params[list]? = some l) (hp : l.vals[index]? = some p)
    (htype : p.type = w.type) :
    ∃ l' p', (d.setParam list index w.setter).1.params[list]? = some l' ∧
      l'.vals[index]? = some p' ∧ w.Holds p p' ∧ p'.type = w.type ∧ p'.isDefined = true ∧
        p'.status_ = p.status_ := by
  have hlist : d.getParamList list = some l := (d.getParamList_natCast list).trans hl
  obtain ⟨q, hset, hholds, hsame, hdefined, hstatus⟩ := Write.set_holds htype
  unfold setParam
  rw [hlist]
  simp only [ParamList.set_ok hp hset, putParamList, Int.toNat_natCast]
  have hvalue : q.SameValue { q with valueChanged := false } := rfl
  exact ⟨_, { q with valueChanged := false },
    List.getElem?_set_self (List.getElem?_eq_some_iff.mp hl).1,
    List.getElem?_set_self (List.getElem?_eq_some_iff.mp hp).1, hvalue.holds hholds,
    hsame.trans htype, hdefined, hstatus⟩

end DoWrite

/-- A write with a wrong address, or an index that list 0 has not, is an error and changes nothing;
one for a parameter that the list of the address has not, or has with another type, leaves all
parameters their values, and `writeFloat64` then returns an error.  Otherwise the value is in the
parameter afterwards, and after any run that does not set this parameter again the read of the same
kind returns it with the status of the parameter. -/
theorem write_then_read (d : AsynPortDriver) (pInterfaces : AsynStandardInterfaces)
    (timeStamp : Nat) (interruptAccept : Bool) (pasynUser : AsynUser) (w : Write) (maxAddrIn : Int) :
    (∀ address, d.getAddress pasynUser.addr = (.asynError, address) →
      (d.doWrite pInterfaces timeStamp interruptAccept pasynUser w).driver = d ∧
        (d.doWrite pInterfaces timeStamp interruptAccept pasynUser w).status = .asynError) ∧
    (∀ address, d.getAddress pasynUser.addr = (.asynSuccess, address) →
      (∀ l, d.params[0]? = some l → l.getParameter pasynUser.reason = none) →
        (d.doWrite pInterfaces timeStamp interruptAccept pasynUser w).driver = d ∧
          (d.doWrite pInterfaces timeStamp interruptAccept pasynUser w).status =
            .asynParamBadIndex) ∧
    (∀ (list index : Nat) (l : ParamList), d.Denotes pasynUser list index →
      d.params[list]? = some l → (∀ p, l.vals[index]? = some p → p.type ≠ w.type) →
        d.Keeps (d.doWrite pInterfaces timeStamp interruptAccept pasynUser w).driver
            (fun _ _ => True) ∧
          (w.type = .asynParamFloat64 →
            (d.doWrite pInterfaces timeStamp interruptAccept pasynUser w).status ≠ .asynSuccess)) ∧
    ∀ (list index : Nat) (l : ParamList) (p : ParamVal), d.Denotes pasynUser list index →
      d.params[list]? = some l → l.vals[index]? = some p → p.type = w.type →
        (∃ l' p',
          (d.doWrite pInterfaces timeStamp interruptAccept pasynUser w).driver.params[list]? =
              some l' ∧
            l'.vals[index]? = some p' ∧ w.Holds p p') ∧
        ∀ (d' : AsynPortDriver) (pasynUser' : AsynUser),
          (operations maxAddrIn).Path (NotSet list index)
              (d.doWrite pInterfaces timeStamp interruptAccept pasynUser w).driver d' →
            d'.getAddress pasynUser'.addr = (.asynSuccess, (list : Int)) →
              pasynUser'.reason = index → w.ReadsBack d' pasynUser' p p.status_ := by
  refine ⟨?_, ?_, ?_, ?_⟩
  · intro address haddress
    have hparse : (d.parseAsynUser pasynUser).1 = .asynError := by
      simp [parseAsynUser, haddress]
    obtain ⟨hdriver, hstatus⟩ := doWrite_refused pInterfaces timeStamp interruptAccept w
      (show (d.parseAsynUser pasynUser).1 ≠ .asynSuccess by rw [hparse]; decide)
    exact ⟨hdriver, hstatus.trans hparse⟩
  · intro address haddress hindex
    obtain ⟨first, hfirst⟩ : ∃ first, d.params[0]? = some first :=
      ⟨_, List.getElem?_eq_getElem d.maxAddr_pos⟩
    have hlist : d.getParamList 0 = some first := (d.getParamList_natCast 0).trans hfirst
    have hparse : (d.parseAsynUser pasynUser).1 = .asynParamBadIndex := by
      simp [parseAsynUser, haddress, getParamName, hlist, hindex first hfirst]
    obtain ⟨hdriver, hstatus⟩ := doWrite_refused pInterfaces timeStamp interruptAccept w
      (show (d.parseAsynUser pasynUser).1 ≠ .asynSuccess by rw [hparse]; decide)
    exact ⟨hdriver, hstatus.trans hparse⟩
  · intro list index l hdenotes hl hwrong
    obtain ⟨hdriver, hstatus⟩ := setParam_refused hl hwrong
    refine ⟨?_, ?_⟩
    · rw [doWrite_driver hdenotes, hdriver]
      exact d.callParamCallbacks_keeps pInterfaces timeStamp interruptAccept list list _
    · intro htype
      rw [doWrite_float64 hdenotes htype]
      exact hstatus
  · intro list index l p hdenotes hl hp htype
    obtain ⟨l₁, p₁, hl₁, hp₁, hholds₁, htype₁, hdefined₁, hstatus₁⟩ := setParam_holds hl hp htype
    rw [doWrite_driver hdenotes]
    have hset : d.Keeps (d.setParam list index w.setter).1 fun _ _ => False :=
      d.setParam_keeps list index w.setter fun _ _ hfalse => hfalse.elim
    generalize (d.setParam list index w.setter).1 = d₁ at hl₁ hset
    have hcalled := d₁.callParamCallbacks_keeps pInterfaces timeStamp interruptAccept list list
      fun j i => j = list ∧ i = index
    generalize (d₁.callParamCallbacks pInterfaces timeStamp interruptAccept list list).1 = d₂
      at hcalled
    refine ⟨?_, ?_⟩
    · obtain ⟨l₂, hl₂, hlist₂⟩ := hcalled.2 list l₁ hl₁
      obtain ⟨p₂, hp₂, hsame₂⟩ := hlist₂ index p₁ hp₁
      exact ⟨l₂, p₂, hl₂, hp₂, (hsame₂ ⟨rfl, rfl⟩).holds hholds₁⟩
    · intro d' pasynUser' hpath haddress hreason
      have hkeeps := hcalled.trans (path_keeps hpath)
      obtain ⟨l', hl', hlist'⟩ := hkeeps.2 list l₁ hl₁
      obtain ⟨p', hp', hsame'⟩ := hlist' index p₁ hp₁
      have hsame := hsame' ⟨rfl, rfl⟩
      have hfirst := ((hdenotes.keeps hset).keeps hkeeps).first
      have hback := readsBack ⟨haddress, hreason, hfirst⟩ hl' hp'
        (hsame.holds hholds₁)
      unfold ParamVal.SameValue at hsame
      rw [hsame] at hback
      rw [← hstatus₁]
      exact hback htype₁ hdefined₁

/-- Interrupt sources for all interfaces, and no client. -/
def noClients : AsynStandardInterfaces := ⟨fun _ => true, [], List.nodup_nil, by simp⟩

/-- A driver with a number and a string, of which the number has a status. -/
def sampleDriver : AsynPortDriver :=
  ((((new 1).createParamInAll "GAIN" .asynParamInt32 (fun _ => 0) 0).1.createParamInAll "NAME"
    .asynParamOctet (fun _ => 0) 0).1.setParam 0 0 (.setStatus .asynTimeout)).1

def sampleUser (reason : Int) : AsynUser := ⟨reason, 0, 0, 0, 0, none⟩

/-- The number is read back, after a set of the string, with the status that was stored for it. -/
theorem write_then_read_number :
    let d := (sampleDriver.doWrite noClients 0 true (sampleUser 0) (.int32 5)).driver.operate
      (.setParam 0 1 (.setString [65]))
    (d.readInt32 (sampleUser 0) 0 0).value = 5 ∧
      (d.readInt32 (sampleUser 0) 0 0).status = .asynTimeout := by
  have hparam : ((sampleDriver.params[0]?.bind fun l => l.vals[0]?).map fun p => (p.type, p.status_)) =
      some (.asynParamInt32, .asynTimeout) := by decide +kernel
  obtain ⟨p, hbind, hstored⟩ := Option.map_eq_some_iff.mp hparam
  obtain ⟨l, hl, hp⟩ := Option.bind_eq_some_iff.mp hbind
  simp only [Prod.mk.injEq] at hstored
  obtain ⟨htype, hstatus⟩ := hstored
  obtain ⟨-, -, -, hwrite⟩ := write_then_read sampleDriver noClients 0 true (sampleUser 0) (.int32 5) 1
  obtain ⟨-, hread⟩ := hwrite 0 0 l p ⟨by decide +kernel, rfl, l, p, hl, hp⟩ hl hp htype
  rw [hstatus] at hread
  refine hread _ (sampleUser 0) (Machine.Path.single (a := .setParam 0 1 (.setString [65])) ?_ rfl)
    (by decide +kernel) rfl 0 0
  rintro ⟨-, hindex⟩
  exact absurd hindex (by decide)

/-- A successful write whose read returns another status; one whose read is cut off; a number that is
written to a string and reported as a success; and a string of which two characters were to be
written. -/
theorem write_then_read_differs :
    (let r := sampleDriver.writeInt32 noClients 0 true (sampleUser 0) 5
     r.status = .asynSuccess ∧
       (r.driver.readInt32 (sampleUser 0) 0 0).status = .asynTimeout ∧
         (r.driver.readInt32 (sampleUser 0) 0 0).value = 5) ∧
    (let r := (sampleDriver.writeOctet noClients 0 true (sampleUser 1) [104, 101, 108, 108, 111, 0] 5).1
     r.status = .asynSuccess ∧
       (r.driver.readOctet (sampleUser 1) 0 3 []).result.status = .asynSuccess ∧
         (r.driver.readOctet (sampleUser 1) 0 3 []).result.value = [104, 101]) ∧
    (let r := sampleDriver.writeInt32 noClients 0 true (sampleUser 1) 5
     r.status = .asynSuccess ∧
       (r.driver.readInt32 (sampleUser 1) 0 0).status = .asynParamWrongType) ∧
    let r := (sampleDriver.writeOctet noClients 0 true (sampleUser 1) [104, 101, 108, 108, 111, 0] 2).1
    r.status = .asynSuccess ∧
      (r.driver.readOctet (sampleUser 1) 0 40 []).result.value = [104, 101, 108, 108, 111] := by
  decide +kernel

end AsynPortDriver
end PortDriver
end AsynDriver
