import AsynDriver.Library.Machine
import AsynDriver.PortDriver.ParamList

/-!
# The names and the indices of the parameters

`createParam` for all lists calls `createParam` for each of them in turn, stops at the first that has
the name already, and returns the index that the last one gave.

* `ParamList.Has`, `ParamList.NamesDistinct` — the names of one list.
* `AsynPortDriver.createFrom_…` — the loop: what it does before and after the first list with the name.
* `AllOrNothing` — the parameter has been created in every list under one index, or nowhere.
* `allOrNothing_iff` — when that is so, in every reachable state.

Lists that were extended one by one need not have the same length, and a list that has the name is
noticed when the lists before it have been extended.
-/

namespace AsynDriver
namespace PortDriver

open Library
open Manager (AsynStatus)

theorem ParamVal.nameEquals_self (p : ParamVal) : p.nameEquals p.name = true := by
  unfold ParamVal.nameEquals
  exact beq_self_eq_true _

/-- Two names of one parameter are the same name. -/
theorem ParamVal.nameEquals_trans {p q : ParamVal} {name : String}
    (hp : p.nameEquals name = true) (hq : q.nameEquals name = true) :
    p.nameEquals q.name = true := by
  unfold ParamVal.nameEquals at *
  rw [beq_iff_eq] at *
  exact hq.symm.trans hp

/-! ## One list -/

namespace ParamList

variable {l : ParamList} {name : String}

/-- A parameter of the list has the name. -/
def Has (l : ParamList) (name : String) : Prop := ∃ p ∈ l.vals, p.nameEquals name = true

instance (l : ParamList) (name : String) : Decidable (l.Has name) :=
  inferInstanceAs (Decidable (∃ p ∈ l.vals, p.nameEquals name = true))

/-- The list with one more parameter. -/
def append (l : ParamList) (p : ParamVal) : ParamList := { l with vals := l.vals ++ [p] }

/-- No two parameters have the same name. -/
def NamesDistinct (l : ParamList) : Prop :=
  l.vals.Pairwise fun p q => p.nameEquals q.name = false

theorem findIdx_of_not_has (hnot : ¬l.Has name) :
    (l.vals.findIdx? fun p => p.nameEquals name) = none := by
  rw [List.findIdx?_eq_none_iff]
  intro p hp
  rw [Bool.eq_false_iff]
  exact fun hname => hnot ⟨p, hp, hname⟩

theorem findParam_of_not_has (hnot : ¬l.Has name) :
    l.findParam name = (.asynParamNotFound, -1) := by
  rw [findParam, findIdx_of_not_has hnot]

/-- What `findParam` finds is the first parameter with the name. -/
theorem findParam_eq_success {index : Int} (hfind : l.findParam name = (.asynSuccess, index)) :
    ∃ (i : Nat) (p : ParamVal), index = i ∧ l.vals[i]? = some p ∧ p.nameEquals name = true := by
  unfold findParam at hfind
  cases hidx : l.vals.findIdx? fun p => p.nameEquals name with
  | none =>
      rw [hidx] at hfind
      exact nomatch hfind
  | some i =>
      rw [hidx] at hfind
      obtain ⟨hlt, hname, -⟩ := List.findIdx?_eq_some_iff_getElem.mp hidx
      exact ⟨i, l.vals[i], (congrArg Prod.snd hfind).symm, List.getElem?_eq_getElem hlt, hname⟩

theorem findParam_of_has (hhas : l.Has name) : (l.findParam name).1 = .asynSuccess := by
  unfold findParam
  cases hidx : l.vals.findIdx? fun p => p.nameEquals name with
  | none =>
      obtain ⟨p, hp, hname⟩ := hhas
      rw [List.findIdx?_eq_none_iff] at hidx
      exact absurd hname (Bool.eq_false_iff.mp (hidx p hp))
  | some i => rfl

/-- The name of a new parameter is found at the end. -/
theorem findParam_append (hnot : ¬l.Has name) {p : ParamVal} (hname : p.nameEquals name = true) :
    (l.append p).findParam name = (.asynSuccess, (l.vals.length : Int)) := by
  unfold findParam append
  simp only [List.findIdx?_append, findIdx_of_not_has hnot, Option.none_or, List.findIdx?_cons, hname, if_true,
    Option.map_some, Nat.zero_add]

/-- In a list of different names every parameter is found under its name. -/
theorem NamesDistinct.findParam (hnames : l.NamesDistinct) {i : Nat} {p : ParamVal}
    (hp : l.vals[i]? = some p) (hname : p.nameEquals name = true) :
    l.findParam name = (.asynSuccess, (i : Int)) := by
  have hidx : (l.vals.findIdx? fun p => p.nameEquals name) = some i := by
    obtain ⟨hlt, hget⟩ := List.getElem?_eq_some_iff.mp hp
    rw [List.findIdx?_eq_some_iff_getElem]
    refine ⟨hlt, by rw [hget]; exact hname, ?_⟩
    intro j hj hother
    -- An earlier parameter with this name would have the name of `p`.
    have hdiffer := List.pairwise_iff_getElem.mp hnames j i (by omega) hlt hj
    rw [hget, ParamVal.nameEquals_trans hother hname] at hdiffer
    exact nomatch hdiffer
  rw [ParamList.findParam, hidx]

theorem NamesDistinct.append (hnames : l.NamesDistinct) (hnot : ¬l.Has name) {p : ParamVal}
    (hname : p.name = name) : (l.append p).NamesDistinct := by
  unfold NamesDistinct ParamList.append
  rw [List.pairwise_append]
  refine ⟨hnames, List.pairwise_singleton _ _, ?_⟩
  intro q hq r hr
  rw [List.mem_singleton] at hr
  rw [hr, hname, Bool.eq_false_iff]
  exact fun hsame => hnot ⟨q, hq, hsame⟩

variable {type : AsynParamType} {memory : BitVec 32}

theorem createParam_of_has (hhas : l.Has name) :
    l.createParam name type memory = (l, .asynParamAlreadyExists, (l.findParam name).2) := by
  simp only [createParam, findParam_of_has hhas, if_true]

theorem createParam_of_not_has (hnot : ¬l.Has name) :
    l.createParam name type memory =
      (l.append (.new name type memory), .asynSuccess, (l.vals.length : Int)) := by
  simp only [createParam, findParam_of_not_has hnot, reduceCtorEq, if_false, append]

end ParamList

/-! ## All lists -/

namespace AsynPortDriver

variable {d : AsynPortDriver} {name : String} {type : AsynParamType}

theorem createParam_of_has {memory : BitVec 32} {index : Int} {i : Nat} {l : ParamList}
    (hl : d.params[i]? = some l) (hhas : l.Has name) :
    d.createParam i name type memory index = (d, .asynError, (l.findParam name).2) := by
  have hlist : d.getParamList i = some l := (d.getParamList_natCast i).trans hl
  simp only [createParam, hlist, ParamList.createParam_of_has hhas, if_true, putParamList_self hl]

theorem createParam_of_not_has {memory : BitVec 32} {index : Int} {i : Nat} {l : ParamList}
    (hl : d.params[i]? = some l) (hnot : ¬l.Has name) :
    d.createParam i name type memory index =
      (d.putParamList i (l.append (.new name type memory)), .asynSuccess, (l.vals.length : Int)) := by
  have hlist : d.getParamList i = some l := (d.getParamList_natCast i).trans hl
  simp only [createParam, hlist, ParamList.createParam_of_not_has hnot, reduceCtorEq, if_false]

/-- A failed `createParam` for one list changes nothing. -/
theorem createParam_failed {list index : Int} {memory : BitVec 32}
    (hfailed : (d.createParam list name type memory index).2.1 ≠ .asynSuccess) :
    (d.createParam list name type memory index).1 = d := by
  cases hlist : d.getParamList list with
  | none => simp only [createParam, hlist]
  | some l =>
      obtain ⟨i, rfl, hl⟩ := getParamList_eq_some hlist
      by_cases hhas : l.Has name
      · rw [createParam_of_has hl hhas]
      · rw [createParam_of_not_has hl hhas] at hfailed
        exact absurd rfl hfailed

variable {memory : Nat → BitVec 32} {remaining start : Nat} {index : Int}

/-- The loop stops at once at a list that has the name. -/
theorem createFrom_of_has {l : ParamList} (hl : d.params[start]? = some l) (hhas : l.Has name) :
    createFrom name type memory (remaining + 1) start d index =
      (d, .asynError, (l.findParam name).2) := by
  simp only [createFrom, createParam_of_has hl hhas, ne_eq, reduceCtorEq, not_false_eq_true, if_true]

/-- The loop goes on behind a list that has not. -/
theorem createFrom_of_not_has {l : ParamList} (hl : d.params[start]? = some l)
    (hnot : ¬l.Has name) :
    createFrom name type memory (remaining + 1) start d index =
      createFrom name type memory remaining (start + 1)
        (d.putParamList start (l.append (.new name type (memory start)))) l.vals.length := by
  simp only [createFrom, createParam_of_not_has hl hnot, ne_eq, not_true_eq_false, if_false]

/-- The loop does not touch the lists before it. -/
theorem createFrom_before {d : AsynPortDriver} (hrange : start + remaining ≤ d.params.length)
    {j : Nat} (hj : j < start) :
    (createFrom name type memory remaining start d index).1.params[j]? = d.params[j]? := by
  induction remaining generalizing start d index with
  | zero => rfl
  | succ remaining ih =>
      have hl : d.params[start]? = some d.params[start] := List.getElem?_eq_getElem (by omega)
      by_cases hhas : (d.params[start]).Has name
      · rw [createFrom_of_has hl hhas]
      · rw [createFrom_of_not_has hl hhas, ih (by simp; omega) (by omega), params_putParamList,
          List.getElem?_set_ne (by omega)]

variable (type memory index)

/-- Where a list has the name the loop fails. -/
theorem createFrom_error {d : AsynPortDriver} (hrange : start + remaining ≤ d.params.length)
    {j : Nat} (hstart : start ≤ j) (hend : j < start + remaining) {l : ParamList}
    (hl : d.params[j]? = some l) (hhas : l.Has name) :
    (createFrom name type memory remaining start d index).2.1 = .asynError := by
  induction remaining generalizing start d index with
  | zero => omega
  | succ remaining ih =>
      have hfirst : d.params[start]? = some d.params[start] := List.getElem?_eq_getElem (by omega)
      by_cases hnow : (d.params[start]).Has name
      · rw [createFrom_of_has hfirst hnow]
      · have hne : start ≠ j := by
          rintro rfl
          rw [hfirst] at hl
          cases hl
          exact hnow hhas
        rw [createFrom_of_not_has hfirst hnow]
        refine ih _ (by simp; omega) (by omega) (by omega) ?_
        rw [params_putParamList, List.getElem?_set_ne hne]
        exact hl

/-- Where no list has the name the loop creates it in all of them. -/
theorem createFrom_success {d : AsynPortDriver} (hrange : start + remaining = d.params.length)
    (hnot : ∀ (j : Nat) (l : ParamList), start ≤ j → d.params[j]? = some l → ¬l.Has name) :
    (createFrom name type memory remaining start d index).2.1 = .asynSuccess ∧
      (∀ j : Nat, start ≤ j →
        (createFrom name type memory remaining start d index).1.params[j]? =
          (d.params[j]?).map fun l => l.append (.new name type (memory j))) ∧
      (0 < remaining → ∃ (j : Nat) (l : ParamList), start ≤ j ∧ d.params[j]? = some l ∧
        (createFrom name type memory remaining start d index).2.2 = l.vals.length) := by
  induction remaining generalizing start d index with
  | zero =>
      refine ⟨rfl, ?_, fun h => absurd h (by omega)⟩
      intro j hj
      have hnone : d.params[j]? = none := List.getElem?_eq_none (by omega)
      show d.params[j]? = _
      rw [hnone, Option.map_none]
  | succ remaining ih =>
      have hlt : start < d.params.length := by omega
      have hl : d.params[start]? = some d.params[start] := List.getElem?_eq_getElem hlt
      rw [createFrom_of_not_has hl (hnot start _ le_rfl hl)]
      have hrest : ∀ (j : Nat) (l : ParamList), start + 1 ≤ j →
          (d.putParamList start
            ((d.params[start]).append (.new name type (memory start)))).params[j]? = some l →
          ¬l.Has name := by
        intro j l hj hget
        rw [params_putParamList, List.getElem?_set_ne (by omega)] at hget
        exact hnot j l (by omega) hget
      obtain ⟨hstatus, hparams, hindex⟩ :=
        ih (d.params[start]).vals.length (by simp; omega) hrest
      refine ⟨hstatus, ?_, ?_⟩
      · intro j hj
        rcases Nat.eq_or_lt_of_le hj with rfl | hj
        · rw [createFrom_before (by simp; omega) (Nat.lt_succ_self start), params_putParamList,
            List.getElem?_set_self hlt, hl, Option.map_some]
        · rw [hparams j hj, params_putParamList, List.getElem?_set_ne (by omega)]
      · intro _
        rcases Nat.eq_zero_or_pos remaining with rfl | hpos
        · exact ⟨start, d.params[start], le_rfl, hl, rfl⟩
        · obtain ⟨j, l, hj, hget, hvalue⟩ := hindex hpos
          rw [params_putParamList, List.getElem?_set_ne (by omega)] at hget
          exact ⟨j, l, by omega, hget, hvalue⟩

variable {type memory index}

/-! ## One index in all lists -/

/-- What `createParam` for all lists leaves behind: after a success the name is found under the
returned index, with the type, in every list, and after a failure the driver is what it was. -/
def AllOrNothing (d : AsynPortDriver) (name : String) (type : AsynParamType)
    (r : AsynPortDriver × AsynStatus × Int) : Prop :=
  (r.2.1 = .asynSuccess → ∀ (list : Nat) (old : Int) (oldType : AsynParamType), list < d.maxAddr →
    r.1.findParam list name old = (.asynSuccess, r.2.2) ∧
      r.1.getParamType list r.2.2 oldType = .ok (.asynSuccess, type)) ∧
    (r.2.1 ≠ .asynSuccess → r.1 = d)

/-- List 0 has the name, or no list has it and all lists have the same number of parameters. -/
def Uniform (d : AsynPortDriver) (name : String) : Prop :=
  (∃ l, d.params[0]? = some l ∧ l.Has name) ∨
    (∀ l ∈ d.params, ¬l.Has name) ∧
      ∀ l ∈ d.params, ∀ l' ∈ d.params, l.vals.length = l'.vals.length

/-- After a success every list has the parameter at its end. -/
theorem findParam_createParamInAll (hnot : ∀ l ∈ d.params, ¬l.Has name) {j : Nat} {l : ParamList}
    (hl : d.params[j]? = some l) (old : Int) :
    (d.createParamInAll name type memory index).1.findParam j name old =
      (.asynSuccess, (l.vals.length : Int)) := by
  obtain ⟨-, hparams, -⟩ := createFrom_success type memory index
    (Nat.zero_add d.params.length) fun j l _ hl => hnot l (List.mem_of_getElem? hl)
  have hlist : (d.createParamInAll name type memory index).1.getParamList j =
      some (l.append (.new name type (memory j))) := by
    rw [getParamList_natCast]
    refine (hparams j (Nat.zero_le j)).trans ?_
    rw [hl, Option.map_some]
  simp only [findParam, hlist]
  exact ParamList.findParam_append (hnot l (List.mem_of_getElem? hl))
    (ParamVal.nameEquals_self (.new name type (memory j)))

theorem getParamType_createParamInAll (hnot : ∀ l ∈ d.params, ¬l.Has name) {j : Nat}
    {l : ParamList} (hl : d.params[j]? = some l) (oldType : AsynParamType) :
    (d.createParamInAll name type memory index).1.getParamType j l.vals.length oldType =
      .ok (.asynSuccess, type) := by
  obtain ⟨-, hparams, -⟩ := createFrom_success type memory index
    (Nat.zero_add d.params.length) fun j l _ hl => hnot l (List.mem_of_getElem? hl)
  have hlist : (d.createParamInAll name type memory index).1.getParamList j =
      some (l.append (.new name type (memory j))) := by
    rw [getParamList_natCast]
    refine (hparams j (Nat.zero_le j)).trans ?_
    rw [hl, Option.map_some]
  have hparam : (l.append (.new name type (memory j))).getParameter l.vals.length =
      some (.new name type (memory j)) := by
    rw [ParamList.getParameter_natCast]
    exact List.getElem?_concat_length
  simp only [getParamType, hlist, hparam]
  rfl

theorem allOrNothing_of_uniform (huniform : d.Uniform name) :
    d.AllOrNothing name type (d.createParamInAll name type memory index) := by
  rcases huniform with ⟨l, hl, hhas⟩ | ⟨hnot, hsame⟩
  · have hfailed : d.createParamInAll name type memory index =
        (d, .asynError, (l.findParam name).2) := by
      unfold createParamInAll maxAddr
      obtain ⟨n, hn⟩ := Nat.exists_eq_succ_of_ne_zero (Nat.ne_of_gt d.maxAddr_pos)
      rw [hn]
      exact createFrom_of_has hl hhas
    rw [hfailed]
    exact And.intro (fun hsuccess => nomatch hsuccess) fun _ => rfl
  · obtain ⟨hstatus, -, hindex⟩ := createFrom_success type memory index
      (Nat.zero_add d.params.length)
      fun j l _ hl => hnot l (List.mem_of_getElem? hl)
    refine ⟨?_, fun hfailed => absurd hstatus hfailed⟩
    intro _ list old oldType hlist
    obtain ⟨j, last, -, hlast, hvalue⟩ := hindex d.maxAddr_pos
    have hl : d.params[list]? = some d.params[list] := List.getElem?_eq_getElem hlist
    have hreturned : (d.createParamInAll name type memory index).2.2 =
        (d.params[list]).vals.length := by
      rw [hsame _ (List.mem_of_getElem? hl) last (List.mem_of_getElem? hlast)]
      exact hvalue
    rw [hreturned]
    exact ⟨findParam_createParamInAll hnot hl old, getParamType_createParamInAll hnot hl oldType⟩

theorem uniform_of_allOrNothing
    (hall : d.AllOrNothing name type (d.createParamInAll name type memory index)) :
    d.Uniform name := by
  obtain ⟨hsuccess, hfailure⟩ := hall
  obtain ⟨first, hfirst⟩ : ∃ first, d.params[0]? = some first :=
    ⟨_, List.getElem?_eq_getElem d.maxAddr_pos⟩
  by_cases hhas : first.Has name
  · exact .inl ⟨first, hfirst, hhas⟩
  · right
    -- List 0 has been extended, so this is not a failure that leaves the driver as it was.
    have hextended : (d.createParamInAll name type memory index).1.params[0]? =
        some (first.append (.new name type (memory 0))) := by
      unfold createParamInAll maxAddr
      obtain ⟨n, hn⟩ := Nat.exists_eq_succ_of_ne_zero (Nat.ne_of_gt d.maxAddr_pos)
      rw [hn, createFrom_of_not_has hfirst hhas,
        createFrom_before (by rw [params_putParamList, List.length_set]; omega)
          (Nat.lt_succ_self 0),
        params_putParamList, List.getElem?_set_self d.maxAddr_pos]
    have hstatus : (d.createParamInAll name type memory index).2.1 = .asynSuccess := by
      by_contra hfailed
      rw [hfailure hfailed, hfirst] at hextended
      have hlength := congrArg (fun l => l.vals.length) (Option.some.inj hextended)
      simp [ParamList.append] at hlength
    have hnot : ∀ l ∈ d.params, ¬l.Has name := by
      intro l hmem hhas
      obtain ⟨j, hj⟩ := List.mem_iff_getElem?.mp hmem
      have hlt : j < d.params.length := (List.getElem?_eq_some_iff.mp hj).1
      have herror := createFrom_error type memory index
        (Nat.le_of_eq (Nat.zero_add d.params.length)) (Nat.zero_le j) (by omega) hj hhas
      exact nomatch herror.symm.trans hstatus
    refine ⟨hnot, ?_⟩
    have hlength : ∀ l ∈ d.params,
        (l.vals.length : Int) = (d.createParamInAll name type memory index).2.2 := by
      intro l hmem
      obtain ⟨j, hj⟩ := List.mem_iff_getElem?.mp hmem
      have hlt : j < d.params.length := (List.getElem?_eq_some_iff.mp hj).1
      have hfound := (hsuccess hstatus j 0 type hlt).1
      rw [findParam_createParamInAll hnot hj] at hfound
      exact congrArg Prod.snd hfound
    intro l hl l' hl'
    have hequal := (hlength l hl).trans (hlength l' hl').symm
    omega

theorem allOrNothing_iff :
    d.AllOrNothing name type (d.createParamInAll name type memory index) ↔ d.Uniform name :=
  ⟨uniform_of_allOrNothing, allOrNothing_of_uniform⟩

/-! ## Sequences of calls -/

def NamesDistinct (d : AsynPortDriver) : Prop := ∀ l ∈ d.params, l.NamesDistinct

theorem NamesDistinct.new (maxAddrIn : Int) : (new maxAddrIn).NamesDistinct := by
  intro l hl
  rw [List.eq_of_mem_replicate hl]
  exact List.Pairwise.nil

theorem NamesDistinct.createParam (hnames : d.NamesDistinct) (list : Int) (name : String)
    (type : AsynParamType) (memory : BitVec 32) (index : Int) :
    (d.createParam list name type memory index).1.NamesDistinct := by
  cases hlist : d.getParamList list with
  | none =>
      simp only [AsynPortDriver.createParam, hlist]
      exact hnames
  | some l =>
      obtain ⟨i, rfl, hl⟩ := getParamList_eq_some hlist
      by_cases hhas : l.Has name
      · rw [createParam_of_has hl hhas]
        exact hnames
      · rw [createParam_of_not_has hl hhas]
        intro l' hl'
        rcases List.mem_or_eq_of_mem_set hl' with hold | rfl
        · exact hnames l' hold
        · exact (hnames l (List.mem_of_getElem? hl)).append hhas rfl

theorem NamesDistinct.createFrom (hnames : d.NamesDistinct) (name : String) (type : AsynParamType)
    (memory : Nat → BitVec 32) (remaining start : Nat) (index : Int) :
    (createFrom name type memory remaining start d index).1.NamesDistinct := by
  induction remaining generalizing d start index with
  | zero => exact hnames
  | succ remaining ih =>
      have hnext := hnames.createParam start name type (memory start) index
      unfold AsynPortDriver.createFrom
      simp only
      split
      case isTrue => exact hnext
      case isFalse => exact ih hnext (start + 1) _

/-- A call of one of the two `createParam`; `memory` and `index` are what the caller's memory holds. -/
inductive Call
  | createParam (list : Int) (name : String) (type : AsynParamType) (memory : BitVec 32)
      (index : Int)
  | createParamInAll (name : String) (type : AsynParamType) (memory : Nat → BitVec 32) (index : Int)

def call (d : AsynPortDriver) : Call → AsynPortDriver
  | .createParam list name type memory index => (d.createParam list name type memory index).1
  | .createParamInAll name type memory index => (d.createParamInAll name type memory index).1

def machine (maxAddrIn : Int) : Machine AsynPortDriver Call :=
  ⟨(· = new maxAddrIn), fun d c => some (d.call c)⟩

theorem NamesDistinct.reachable {maxAddrIn : Int}
    (hreach : (machine maxAddrIn).Reachable Machine.Unguarded d) : d.NamesDistinct := by
  refine Machine.Reachable.invariant (I := NamesDistinct) ?_ ?_ hreach
  · intro d hinit
    rw [show d = AsynPortDriver.new maxAddrIn from hinit]
    exact NamesDistinct.new maxAddrIn
  · intro d c d' _ hnames hstep
    cases hstep
    cases c with
    | createParam list name type memory index =>
        exact hnames.createParam list name type memory index
    | createParamInAll name type memory index =>
        exact hnames.createFrom name type memory d.maxAddr 0 index

/-- The parameter that an index denotes for an address: the first two conjuncts say how it is
reached from the address of the `asynUser`. -/
theorem drvUserCreate_eq_success {addr reason index : Int} {drvInfo : String}
    (huser : d.drvUserCreate addr drvInfo reason = (.asynSuccess, index)) :
    ∃ (address : Int) (l : ParamList) (p : ParamVal),
      d.getAddress addr = (.asynSuccess, address) ∧ d.getParamList address = some l ∧
        l.getParameter index = some p ∧ p.nameEquals drvInfo = true := by
  rcases haddress : d.getAddress addr with ⟨status, address⟩
  unfold drvUserCreate at huser
  simp only [haddress] at huser
  by_cases hok : status = .asynSuccess
  · subst hok
    simp only [ne_eq, not_true_eq_false, if_false] at huser
    split at huser
    case isTrue hfailed => exact absurd (congrArg Prod.fst huser) hfailed
    case isFalse hfound =>
      have hfound := not_not.mp hfound
      cases hlist : d.getParamList address with
      | none =>
          simp only [findParam, hlist] at hfound
          exact nomatch hfound
      | some l =>
          simp only [findParam, hlist] at hfound huser
          have hparam : l.findParam drvInfo = (.asynSuccess, index) :=
            Prod.ext hfound (Prod.mk.inj huser).2
          obtain ⟨i, p, rfl, hp, hname⟩ := ParamList.findParam_eq_success hparam
          exact ⟨address, l, p, rfl, hlist, (l.getParameter_natCast i).trans hp, hname⟩
  · simp only [ne_eq, hok, not_false_eq_true, if_true] at huser
    exact absurd (congrArg Prod.fst huser) hok

/-- After every sequence of calls, `createParam` for all lists leaves all or nothing behind exactly
where the lists are uniform for the name; `createParam` for one list always does; names and indices
correspond one-to-one, and so do the reasons that `drvUserCreate` assigns at any address. -/
theorem createParam_uniform {maxAddrIn : Int}
    (hreach : (machine maxAddrIn).Reachable Machine.Unguarded d) :
    (∀ (name : String) (type : AsynParamType) (memory : Nat → BitVec 32) (index : Int),
      d.AllOrNothing name type (d.createParamInAll name type memory index) ↔ d.Uniform name) ∧
    (∀ (list : Int) (name : String) (type : AsynParamType) (memory : BitVec 32) (index : Int),
      (d.createParam list name type memory index).2.1 ≠ .asynSuccess →
        (d.createParam list name type memory index).1 = d) ∧
    (∀ l ∈ d.params, ∀ (i : Nat) (p : ParamVal), l.vals[i]? = some p →
      l.findParam p.name = (.asynSuccess, (i : Int))) ∧
    ∀ (addr reason index : Int) (drvInfo : String),
      d.drvUserCreate addr drvInfo reason = (.asynSuccess, index) →
        ∃ (address : Int) (l : ParamList) (p : ParamVal),
          d.getAddress addr = (.asynSuccess, address) ∧ d.getParamList address = some l ∧
            l.getParameter index = some p ∧ p.nameEquals drvInfo = true ∧
              ∀ (i : Nat) (q : ParamVal), l.vals[i]? = some q → q.nameEquals drvInfo = true →
                index = i := by
  have hnames := NamesDistinct.reachable hreach
  refine ⟨fun _ _ _ _ => allOrNothing_iff, fun _ _ _ _ _ => createParam_failed, ?_, ?_⟩
  · intro l hl i p hp
    exact (hnames l hl).findParam hp p.nameEquals_self
  · intro addr reason index drvInfo huser
    obtain ⟨address, l, p, haddress, hlist, hparam, hname⟩ := drvUserCreate_eq_success huser
    refine ⟨address, l, p, haddress, hlist, hparam, hname, ?_⟩
    intro i q hq hother
    obtain ⟨k, rfl, hp⟩ := ParamList.getParameter_eq_some hparam
    obtain ⟨j, -, hl⟩ := getParamList_eq_some hlist
    have hdistinct := hnames l (List.mem_of_getElem? hl)
    have hsame := (hdistinct.findParam hp hname).symm.trans (hdistinct.findParam hq hother)
    exact congrArg Prod.snd hsame

/-- Two lists, of which the second has a parameter that the first has not. -/
def unequal : AsynPortDriver :=
  (new 2).call (.createParam 1 "GAIN" .asynParamInt32 0 0)

theorem unequal_reachable : (machine 2).Reachable Machine.Unguarded unequal :=
  .step (.init rfl) trivial (a := .createParam 1 "GAIN" .asynParamInt32 0 0) rfl

theorem createParam_uniform_unequal :
    unequal.AllOrNothing "OFFSET" .asynParamFloat64
      (unequal.createParamInAll "OFFSET" .asynParamFloat64 (fun _ => 0) 0) ↔
      unequal.Uniform "OFFSET" :=
  (createParam_uniform unequal_reachable).1 "OFFSET" .asynParamFloat64 (fun _ => 0) 0

/-- The second list gives index 1 where the first gives index 0; and a name that the second list has
is left behind in the first. -/
theorem createParam_disagrees :
    (machine 2).Reachable Machine.Unguarded unequal ∧
      ¬unequal.AllOrNothing "OFFSET" .asynParamFloat64
        (unequal.createParamInAll "OFFSET" .asynParamFloat64 (fun _ => 0) 0) ∧
      ¬unequal.AllOrNothing "GAIN" .asynParamInt32
        (unequal.createParamInAll "GAIN" .asynParamInt32 (fun _ => 0) 0) := by
  refine ⟨unequal_reachable, ?_, ?_⟩
  · rintro ⟨hsuccess, -⟩
    have hreturned : (unequal.createParamInAll "OFFSET" .asynParamFloat64 (fun _ => 0) 0).2 =
        (.asynSuccess, (1 : Int)) := by decide +kernel
    have hfirst : (unequal.createParamInAll "OFFSET" .asynParamFloat64 (fun _ => 0) 0).1.findParam
        (0 : Nat) "OFFSET" 0 = (.asynSuccess, (0 : Int)) := by decide +kernel
    have hfound := (hsuccess (congrArg Prod.fst hreturned) 0 0 .asynParamFloat64 (by decide)).1
    rw [hfirst, hreturned] at hfound
    exact nomatch hfound
  · rintro ⟨-, hfailure⟩
    have hfailed : (unequal.createParamInAll "GAIN" .asynParamInt32 (fun _ => 0) 0).2.1 =
        .asynError := by decide +kernel
    have hbefore : unequal.findParam 0 "GAIN" 0 = (.asynParamNotFound, (-1 : Int)) := by
      decide +kernel
    have hafter : (unequal.createParamInAll "GAIN" .asynParamInt32 (fun _ => 0) 0).1.findParam
        0 "GAIN" 0 = (.asynSuccess, (0 : Int)) := by decide +kernel
    rw [hfailure (by rw [hfailed]; decide), hbefore] at hafter
    exact nomatch hafter

end AsynPortDriver
end PortDriver
end AsynDriver
