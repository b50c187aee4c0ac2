import AsynDriver.PortDriver.ChangedParams
import Mathlib.Data.List.Perm.Subperm

/-!
# Clients that set parameters

`callCallbacks` when the clients it calls set parameters of the same list and call it again: the port's
mutex is recursive, so all of this is one thread.

* `Frame`, `Nesting` — the calls of `callCallbacks` that are under way, innermost first, and what has
  been changed since it was announced last.
* `step` — one action of the driver, of a client or of the innermost loop.
* `Nesting.inSight` — the entries of `flags` that the innermost loop has still to visit.
* `Nesting.comesTo` — a parameter that is set now is flagged where the innermost loop has still to come.
* `SetsInSight` — the guard: so it is for every change made in a callback.
* `no_change_lost` — what is recorded when the outermost call has returned.
-/

namespace AsynDriver
namespace PortDriver

open Library
open Manager (AsynStatus)

/-! ## Changes of a value -/

def ParamVal.changedBits (p : ParamVal) : Setter → BitVec 32
  | .setUInt32 value valueMask _ => (p.uival ^^^ value) &&& valueMask
  | _ => 0

/-- The setter gives another value, or a first one. -/
def ParamVal.changesValue (p : ParamVal) (a : Setter) : Bool :=
  (p.change a).value || (p.change a).defined || p.changedBits a != 0

namespace ParamList

def changedBits (l : ParamList) (index : Int) (a : ParamVal.Setter) : BitVec 32 :=
  match l.getParameter index with
  | none => 0
  | some p =>
      match p.set a with
      | .error _ => 0
      | .ok _ => p.changedBits a

def changesValue (l : ParamList) (index : Int) (a : ParamVal.Setter) : Bool :=
  match l.getParameter index with
  | none => false
  | some p =>
      match p.set a with
      | .error _ => false
      | .ok _ => p.changesValue a

/-- `this->vals[index]->uInt32CallbackMask = 0` after `uint32Callback`. -/
def afterCallback (l : ParamList) (index : Nat) : ParamList :=
  match l.vals[index]? with
  | none => l
  | some p =>
      if p.type = .asynParamUInt32Digital then l.put index { p with uInt32CallbackMask := 0 } else l

end ParamList

/-! ## The calls under way -/

/-- A call of `callCallbacks`: `i`, and `index` while the clients are called. -/
structure Frame where
  addr : Int
  i : Nat
  announcing : Option Nat
  deriving DecidableEq

structure Nesting where
  list : ParamList
  frames : List Frame
  /-- The value has been changed since the callbacks for it were last begun. -/
  pending : Nat → Bool
  /-- Bits of a `UInt32Digital` that have been changed since a client was last called for them. -/
  pendingBits : Nat → BitVec 32

namespace Nesting

def announcing (s : Nesting) : Option Nat := s.frames.head?.bind Frame.announcing

/-- The driver may act, or a client that is called. -/
def mayAct (s : Nesting) : Bool := s.frames.isEmpty || s.announcing.isSome

/-- What the innermost loop, or the next one, has still to visit. -/
def inSight (s : Nesting) : List Nat :=
  match s.frames with
  | [] => s.list.flags
  | f :: _ => s.list.flags.drop (if f.announcing.isSome then f.i + 1 else f.i)

/-- Where the innermost loop would come to a parameter that is flagged now: its flag lies behind, or it
has none and `flags` has not been cleared under the loop. -/
def comesTo (s : Nesting) (index : Nat) : Prop :=
  index ∈ s.inSight ∨ index ∉ s.list.flags ∧ ∀ f ∈ s.frames.head?, f.i < s.list.flags.length

instance (s : Nesting) (index : Nat) : Decidable (s.comesTo index) :=
  inferInstanceAs (Decidable (_ ∨ _ ∧ _))

def set (s : Nesting) (index : Int) (a : ParamVal.Setter) : Nesting :=
  { s with
    list := (s.list.set index a).1
    pending :=
      if s.list.changesValue index a then Function.update s.pending index.toNat true else s.pending
    pendingBits := Function.update s.pendingBits index.toNat
      (s.pendingBits index.toNat ||| s.list.changedBits index a) }

/-- The loop comes to `flags[i]`, or ends. -/
def loop (s : Nesting) (f : Frame) (rest : List Frame) : Nesting :=
  match s.list.flags[f.i]? with
  | none => { s with list := { s.list with flags := [] }, frames := rest }
  | some index =>
      match s.list.vals[index]? with
      -- the exception leaves `flags` as they are
      | none => { s with frames := rest }
      | some p =>
          if !p.isDefined then { s with frames := { f with i := f.i + 1 } :: rest }
          else
            { s with
              frames := { f with announcing := some index } :: rest
              pending := Function.update s.pending index false
              pendingBits := Function.update s.pendingBits index
                (s.pendingBits index &&& ~~~p.uInt32CallbackMask) }

end Nesting

namespace Nested

inductive Action
  | createParam (name : String) (type : AsynParamType) (memory : BitVec 32)
  | set (index : Int) (a : ParamVal.Setter)
  | callCallbacks (interruptAccept : Bool) (addr : Int)
  | loop
  /-- The last client has returned. -/
  | returned

def step (s : Nesting) : Action → Option Nesting
  | .createParam name type memory =>
      if s.frames.isEmpty then some { s with list := (s.list.createParam name type memory).1 }
      else none
  | .set index a => if s.mayAct then some (s.set index a) else none
  | .callCallbacks interruptAccept addr =>
      if s.mayAct then
        some (if interruptAccept then { s with frames := ⟨addr, 0, none⟩ :: s.frames } else s)
      else none
  | .loop =>
      match s.frames with
      | [] => none
      | f :: rest => if f.announcing.isSome then none else some (s.loop f rest)
  | .returned =>
      match s.frames with
      | [] => none
      | f :: rest =>
          f.announcing.map fun index =>
            { s with
              list := s.list.afterCallback index
              frames := { f with i := f.i + 1, announcing := none } :: rest }

def start : Nesting := ⟨.empty, [], fun _ => false, fun _ => 0⟩

def machine : Machine Nesting Action := ⟨(· = start), step⟩

/-- The innermost loop comes to a parameter whose value a client changes, and the bits of a
`UInt32Digital` are not changed in its own callbacks. -/
def SetsInSight (s : Nesting) : Action → Prop
  | .set index a =>
      s.list.changesValue index a = true → s.frames ≠ [] →
        s.comesTo index.toNat ∧
          (s.list.changedBits index a ≠ 0 → s.announcing ≠ some index.toNat)
  | _ => True

instance (s : Nesting) (action : Action) : Decidable (SetsInSight s action) := by
  cases action <;> unfold SetsInSight <;> infer_instance

/-- The loops read `flags` and `vals` within their bounds, and `flags` does not outgrow the room that
`createParam` has reserved. -/
structure InBounds (s : Nesting) : Prop where
  flags : s.list.flags.length ≤ s.list.vals.length
  index : ∀ i ∈ s.list.flags, i < s.list.vals.length
  announcing : ∀ f ∈ s.frames, ∀ i, f.announcing = some i → i < s.list.vals.length

/-- Every changed value is recorded, and every changed bit of a `UInt32Digital` as well. -/
structure Recorded (s : Nesting) : Prop where
  flags : ∀ i, s.pending i = true → i ∈ s.list.flags
  bits : ∀ (i : Nat) (p : ParamVal), s.list.vals[i]? = some p → s.pendingBits i ≠ 0 →
    i ∈ s.list.flags ∧ s.pendingBits i &&& p.uInt32CallbackMask = s.pendingBits i

/-! ## The list -/

/-- A list between two calls of its methods. -/
structure Settled (l : ParamList) : Prop where
  nodup : l.flags.Nodup
  index : ∀ i ∈ l.flags, i < l.vals.length
  changed : ∀ (i : Nat) (p : ParamVal), l.vals[i]? = some p → p.valueChanged = false
  zero : ∀ (i : Nat) (p : ParamVal), l.vals[i]? = some p → p.valueDefined = false → p.uival = 0

variable {l l' : ParamList} {s s' : Nesting}

theorem Settled.length_flags (hsettled : Settled l) : l.flags.length ≤ l.vals.length := by
  have hsubset : l.flags ⊆ List.range l.vals.length := by
    intro i hi
    exact List.mem_range.mpr (hsettled.index i hi)
  have hlength := (List.subperm_of_subset hsettled.nodup hsubset).length_le
  rwa [List.length_range] at hlength

theorem Settled.clear (hsettled : Settled l) : Settled { l with flags := [] } where
  nodup := List.nodup_nil
  index := fun _ hi => nomatch hi
  changed := hsettled.changed
  zero := hsettled.zero

theorem Settled.createParam (hsettled : Settled l) (name : String) (type : AsynParamType)
    (memory : BitVec 32) : Settled (l.createParam name type memory).1 := by
  unfold ParamList.createParam
  simp only
  split
  · exact hsettled
  · have hnew : ∀ (i : Nat) (p : ParamVal),
        (l.vals ++ [ParamVal.new name type memory])[i]? = some p →
          l.vals[i]? = some p ∨ p = ParamVal.new name type memory := by
      intro i p hp
      by_cases hi : i < l.vals.length
      · rw [List.getElem?_append_left hi] at hp
        exact .inl hp
      · rw [List.getElem?_append_right (by omega)] at hp
        exact .inr (List.mem_singleton.mp (List.mem_of_getElem? hp))
    refine ⟨hsettled.nodup, ?_, ?_, ?_⟩
    · intro i hi
      have hlt := hsettled.index i hi
      show i < (l.vals ++ [_]).length
      rw [List.length_append]
      omega
    · intro i p hp
      rcases hnew i p hp with hold | rfl
      · exact hsettled.changed i p hold
      · rfl
    · intro i p hp
      rcases hnew i p hp with hold | rfl
      · exact hsettled.zero i p hold
      · exact fun _ => rfl

theorem afterCallback_flags (l : ParamList) (index : Nat) :
    (l.afterCallback index).flags = l.flags := by
  unfold ParamList.afterCallback
  split
  · rfl
  · split <;> rfl

/-- Only the callback mask of the parameter changes. -/
theorem afterCallback_vals {index i : Nat} {p : ParamVal}
    (hp : (l.afterCallback index).vals[i]? = some p) :
    ∃ q, l.vals[i]? = some q ∧ p.type = q.type ∧ p.valueDefined = q.valueDefined ∧
      p.valueChanged = q.valueChanged ∧ p.uival = q.uival ∧
      (i ≠ index → p.uInt32CallbackMask = q.uInt32CallbackMask) := by
  unfold ParamList.afterCallback at hp
  split at hp
  case h_1 => exact ⟨p, hp, rfl, rfl, rfl, rfl, fun _ => rfl⟩
  case h_2 q hq =>
    split at hp
    case isFalse => exact ⟨p, hp, rfl, rfl, rfl, rfl, fun _ => rfl⟩
    case isTrue =>
      have hp : (l.vals.set index { q with uInt32CallbackMask := 0 })[i]? = some p := hp
      by_cases hi : index = i
      · subst hi
        rw [List.getElem?_set_self (List.getElem?_eq_some_iff.mp hq).1, Option.some.injEq] at hp
        subst hp
        exact ⟨q, hq, rfl, rfl, rfl, rfl, fun hne => absurd rfl hne⟩
      · rw [List.getElem?_set_ne hi] at hp
        exact ⟨p, hp, rfl, rfl, rfl, rfl, fun _ => rfl⟩

theorem afterCallback_length (l : ParamList) (index : Nat) :
    (l.afterCallback index).vals.length = l.vals.length := by
  unfold ParamList.afterCallback
  split
  · rfl
  · split
    · exact List.length_set
    · rfl

theorem Settled.afterCallback (hsettled : Settled l) (index : Nat) :
    Settled (l.afterCallback index) := by
  refine ⟨?_, ?_, ?_, ?_⟩
  · rw [afterCallback_flags]
    exact hsettled.nodup
  · rw [afterCallback_flags, afterCallback_length]
    exact hsettled.index
  · intro i p hp
    obtain ⟨q, hq, -, -, hchanged, -⟩ := afterCallback_vals hp
    exact hchanged.trans (hsettled.changed i q hq)
  · intro i p hp hundefined
    obtain ⟨q, hq, -, hdefined, -, huival, -⟩ := afterCallback_vals hp
    exact huival.trans (hsettled.zero i q hq (hdefined.symm.trans hundefined))

theorem changedBits_of_typed {p p' : ParamVal} {a : ParamVal.Setter} (hset : p.set a = .ok p')
    (htype : p.type ≠ .asynParamUInt32Digital) : p.changedBits a = 0 := by
  cases a with
  | setUInt32 value valueMask interruptMask =>
      have hset : p.setUInt32 value valueMask interruptMask = .ok p' := hset
      simp [ParamVal.setUInt32, htype] at hset
  | _ => rfl

/-- What a setter that is called with an index does. -/
structure SetParam (l l' : ParamList) (i : Nat) (a : ParamVal.Setter) (p p' : ParamVal) : Prop where
  before : l.vals[i]? = some p
  after : l'.vals = l.vals.set i p'
  sets : ParamVal.Sets p { p' with valueChanged := (p.change a).any } (p.change a)
  changed : p'.valueChanged = false
  flags : l'.flags = if (p.change a).any && !l.flags.contains i then l.flags ++ [i] else l.flags
  typed : p.type ≠ .asynParamUInt32Digital → p.changedBits a = 0

/-- A setter fails and changes nothing, or it sets one parameter. -/
theorem Settled.set_cases (hsettled : Settled l) (index : Int) (a : ParamVal.Setter) :
    ((l.set index a).1 = l ∧ l.changesValue index a = false ∧ l.changedBits index a = 0) ∨
    ∃ (i : Nat) (p p' : ParamVal), index = i ∧ SetParam l (l.set index a).1 i a p p' ∧
      l.changesValue index a = p.changesValue a ∧ l.changedBits index a = p.changedBits a := by
  cases hparam : l.getParameter index with
  | none =>
      left
      simp [ParamList.set, ParamList.changesValue, ParamList.changedBits, hparam]
  | some p =>
      obtain ⟨i, rfl, hi⟩ := ParamList.getParameter_eq_some hparam
      cases hset : p.set a with
      | error e =>
          left
          simp [ParamList.set, ParamList.changesValue, ParamList.changedBits, hparam, hset]
      | ok p' =>
          right
          have hsets := ParamVal.set_sets (hsettled.zero i p hi) hset
          have hchanged := hsets.changed
          rw [hsettled.changed i p hi, Bool.false_or] at hchanged
          refine ⟨i, p, { p' with valueChanged := false }, rfl,
            ⟨hi, ?_, ?_, rfl, ?_, changedBits_of_typed hset⟩, ?_, ?_⟩
          · rw [ParamList.set_ok hi hset]
          · show ParamVal.Sets p { p' with valueChanged := (p.change a).any } (p.change a)
            rw [← hchanged]
            exact hsets
          · rw [ParamList.set_ok hi hset, hchanged]
          · simp [ParamList.changesValue, hparam, hset]
          · simp [ParamList.changedBits, hparam, hset]

theorem SetParam.settled {i : Nat} {a : ParamVal.Setter} {p p' : ParamVal}
    (hsettled : Settled l) (hset : SetParam l l' i a p p') : Settled l' := by
  have hlt : i < l.vals.length := (List.getElem?_eq_some_iff.mp hset.before).1
  have hlength : l'.vals.length = l.vals.length := by rw [hset.after, List.length_set]
  have hvals : ∀ (j : Nat) (q : ParamVal), l'.vals[j]? = some q →
      (j = i ∧ q = p') ∨ l.vals[j]? = some q := by
    intro j q hq
    rw [hset.after] at hq
    by_cases hj : i = j
    · subst hj
      rw [List.getElem?_set_self hlt, Option.some.injEq] at hq
      exact .inl ⟨rfl, hq.symm⟩
    · rw [List.getElem?_set_ne hj] at hq
      exact .inr hq
  refine ⟨?_, ?_, ?_, ?_⟩
  · rw [hset.flags]
    split
    case isTrue hnew =>
      refine List.nodup_append.mpr ⟨hsettled.nodup, List.nodup_singleton i, ?_⟩
      intro x hx y hy hxy
      rw [List.mem_singleton.mp hy] at hxy
      subst hxy
      simp [hx] at hnew
    case isFalse => exact hsettled.nodup
  · intro j hj
    rw [hlength]
    rw [hset.flags] at hj
    split at hj
    case isTrue =>
      rcases List.mem_append.mp hj with hold | hnew
      · exact hsettled.index j hold
      · rw [List.mem_singleton.mp hnew]
        exact hlt
    case isFalse => exact hsettled.index j hj
  · intro j q hq
    rcases hvals j q hq with ⟨-, rfl⟩ | hold
    · exact hset.changed
    · exact hsettled.changed j q hold
  · intro j q hq
    rcases hvals j q hq with ⟨-, rfl⟩ | hold
    · exact hset.sets.zero
    · exact hsettled.zero j q hold

theorem Settled.set (hsettled : Settled l) (index : Int) (a : ParamVal.Setter) :
    Settled (l.set index a).1 := by
  rcases hsettled.set_cases index a with ⟨hsame, -, -⟩ | ⟨i, p, p', -, hset, -, -⟩
  · rw [hsame]
    exact hsettled
  · exact hset.settled hsettled

theorem length_set_list (hsettled : Settled l) (index : Int) (a : ParamVal.Setter) :
    (l.set index a).1.vals.length = l.vals.length := by
  rcases hsettled.set_cases index a with ⟨hsame, -, -⟩ | ⟨i, p, p', -, hset, -, -⟩
  · rw [hsame]
  · rw [hset.after, List.length_set]

/-! ## Every run -/

/-- The list is settled, and the calls under way are at parameters that exist. -/
structure Sound (s : Nesting) : Prop where
  settled : Settled s.list
  announcing : ∀ f ∈ s.frames, ∀ i, f.announcing = some i → i < s.list.vals.length

theorem Sound.inBounds (hsound : Sound s) : InBounds s :=
  ⟨hsound.settled.length_flags, hsound.settled.index, hsound.announcing⟩

theorem Sound.loop (hsound : Sound s) {f : Frame} {rest : List Frame}
    (hframes : s.frames = f :: rest) : Sound (s.loop f rest) := by
  have hrest : ∀ g ∈ rest, ∀ i, g.announcing = some i → i < s.list.vals.length := by
    intro g hg
    exact hsound.announcing g (hframes ▸ List.mem_cons_of_mem _ hg)
  unfold Nesting.loop
  split
  case h_1 => exact ⟨hsound.settled.clear, hrest⟩
  case h_2 index hindex =>
    split
    case h_1 => exact ⟨hsound.settled, hrest⟩
    case h_2 p hp =>
      split
      case isTrue =>
        refine ⟨hsound.settled, ?_⟩
        intro g hg i hi
        rcases List.mem_cons.mp hg with rfl | hg
        · exact hsound.announcing f (hframes ▸ List.mem_cons_self) i hi
        · exact hrest g hg i hi
      case isFalse =>
        refine ⟨hsound.settled, ?_⟩
        intro g hg i hi
        rcases List.mem_cons.mp hg with rfl | hg
        · cases hi
          exact (List.getElem?_eq_some_iff.mp hp).1
        · exact hrest g hg i hi

theorem Sound.step {action : Action} (hsound : Sound s) (hstep : step s action = some s') :
    Sound s' := by
  cases action with
  | createParam name type memory =>
      simp only [Nested.step] at hstep
      split at hstep
      case isFalse => exact nomatch hstep
      case isTrue hnone =>
        cases hstep
        refine ⟨hsound.settled.createParam name type memory, ?_⟩
        intro f hf
        rw [List.isEmpty_iff.mp hnone] at hf
        exact nomatch hf
  | set index a =>
      simp only [Nested.step] at hstep
      split at hstep
      case isFalse => exact nomatch hstep
      case isTrue =>
        cases hstep
        refine ⟨hsound.settled.set index a, ?_⟩
        intro f hf i hi
        show i < (s.list.set index a).1.vals.length
        rw [length_set_list hsound.settled]
        exact hsound.announcing f hf i hi
  | callCallbacks interruptAccept addr =>
      simp only [Nested.step] at hstep
      split at hstep
      case isFalse => exact nomatch hstep
      case isTrue =>
        cases hstep
        split
        · refine ⟨hsound.settled, ?_⟩
          intro f hf i hi
          rcases List.mem_cons.mp hf with rfl | hf
          · exact nomatch hi
          · exact hsound.announcing f hf i hi
        · exact hsound
  | loop =>
      simp only [Nested.step] at hstep
      split at hstep
      case h_1 => exact nomatch hstep
      case h_2 f rest hframes =>
        split at hstep
        · exact nomatch hstep
        · cases hstep
          exact hsound.loop hframes
  | returned =>
      simp only [Nested.step] at hstep
      split at hstep
      case h_1 => exact nomatch hstep
      case h_2 f rest hframes =>
        obtain ⟨index, -, rfl⟩ := Option.map_eq_some_iff.mp hstep
        refine ⟨hsound.settled.afterCallback index, ?_⟩
        intro g hg i hi
        show i < (s.list.afterCallback index).vals.length
        rw [afterCallback_length]
        rcases List.mem_cons.mp hg with rfl | hg
        · exact nomatch hi
        · exact hsound.announcing g (hframes ▸ List.mem_cons_of_mem _ hg) i hi

theorem Sound.start : Sound start where
  settled := ⟨List.nodup_nil, (fun _ hi => nomatch hi), (fun _ _ hp => nomatch hp),
    (fun _ _ hp => nomatch hp)⟩
  announcing := fun _ hf => nomatch hf

/-- The loops stay within their bounds in every run. -/
theorem inBounds_of_reachable (hreach : machine.Reachable Machine.Unguarded s) : InBounds s := by
  have hsound : Sound s := hreach.invariant (fun _ hinit => hinit ▸ Sound.start)
    fun _ _ _ _ hsound hstep => hsound.step hstep
  exact hsound.inBounds

/-! ## Runs that meet the guard -/

/-- A changed value is one that the innermost loop, or the next one, will come to. -/
structure Kept (s : Nesting) : Prop where
  sound : Sound s
  suspended : ∀ f ∈ s.frames.tail, f.announcing.isSome = true
  defined : ∀ i, s.pending i = true → ∃ p, s.list.vals[i]? = some p ∧ p.isDefined = true
  inSight : ∀ i, s.pending i = true → i ∈ s.inSight
  bits : ∀ i, s.pendingBits i ≠ 0 → s.pending i = true
  typed : ∀ (i : Nat) (p : ParamVal), s.list.vals[i]? = some p →
    p.type ≠ .asynParamUInt32Digital → s.pendingBits i = 0
  covered : ∀ (i : Nat) (p : ParamVal), s.list.vals[i]? = some p →
    s.pendingBits i &&& p.uInt32CallbackMask = s.pendingBits i
  quiet : ∀ i, s.announcing = some i → s.pendingBits i = 0

theorem Kept.none_of_not_pending (hkept : Kept s) {i : Nat} (hnot : s.pending i ≠ true) :
    s.pendingBits i = 0 := by
  by_contra hbits
  exact hnot (hkept.bits i hbits)

theorem Kept.recorded (hkept : Kept s) (hframes : s.frames = []) : Recorded s := by
  have hflags : s.inSight = s.list.flags := by
    unfold Nesting.inSight
    rw [hframes]
  refine ⟨?_, ?_⟩
  · intro i hpending
    rw [← hflags]
    exact hkept.inSight i hpending
  · intro i p hp hbits
    refine ⟨?_, hkept.covered i p hp⟩
    rw [← hflags]
    exact hkept.inSight i (hkept.bits i hbits)

theorem Kept.start : Kept start where
  sound := Sound.start
  suspended := fun _ hf => nomatch hf
  defined := fun _ hpending => nomatch hpending
  inSight := fun _ hpending => nomatch hpending
  bits := fun _ hbits => absurd rfl hbits
  typed := fun _ _ _ _ => rfl
  covered := fun _ _ _ => BitVec.zero_and
  quiet := fun _ _ => rfl

theorem and_not_of_covered {x m : BitVec 32} (hcovered : x &&& m = x) : x &&& ~~~m = 0 := by
  rw [← hcovered, BitVec.and_assoc]
  have hnone : m &&& ~~~m = 0 := BitVec.and_not_self m
  rw [hnone]
  exact BitVec.and_zero

theorem and_or_self_right (x y : BitVec 32) : x &&& (x ||| y) = x := by
  ext i hi
  simp only [BitVec.getElem_and, BitVec.getElem_or]
  cases x[i] <;> simp

/-- The changed bits are among those that the callback mask is told of. -/
theorem changedBits_le (p : ParamVal) (a : ParamVal.Setter) :
    p.changedBits a &&& (p.change a).bits = p.changedBits a := by
  cases a with
  | setUInt32 value valueMask interruptMask => exact and_or_self_right _ _
  | _ => exact BitVec.zero_and

theorem any_of_changesValue {p : ParamVal} {a : ParamVal.Setter}
    (hchanges : p.changesValue a = true) : (p.change a).any = true := by
  simp only [ParamVal.changesValue, Bool.or_eq_true, bne_iff_ne] at hchanges
  rcases hchanges with (hvalue | hdefined) | hbits
  · simp [Change.any, hvalue]
  · simp [Change.any, hdefined]
  · have hne : (p.change a).bits ≠ 0#32 := by
      intro hzero
      have hle := changedBits_le p a
      rw [hzero] at hle
      exact hbits (hle.symm.trans BitVec.and_zero)
    simp [Change.any, hne]

/-- A value that is set makes the parameter defined. -/
theorem defined_of_changesValue {p : ParamVal} {a : ParamVal.Setter}
    (hchanges : p.changesValue a = true) : (p.valueDefined || (p.change a).defined) = true := by
  cases hdefined : p.valueDefined with
  | true => rfl
  | false =>
      cases a with
      | setStatus status => exact nomatch hchanges
      | setAlarmStatus alarmStatus => exact nomatch hchanges
      | setAlarmSeverity alarmSeverity => exact nomatch hchanges
      | _ => simp [ParamVal.change, ParamVal.isDefined, hdefined]

theorem covered_or {x y m n : BitVec 32} (hx : x &&& m = x) (hy : y &&& n = y) :
    (x ||| y) &&& (m ||| n) = x ||| y := by
  ext i hi
  have hx := congrArg (fun b => b[i]) hx
  have hy := congrArg (fun b => b[i]) hy
  simp only [BitVec.getElem_and, BitVec.getElem_or] at hx hy ⊢
  cases hxi : x[i] <;> cases hyi : y[i] <;> simp_all

theorem Kept.loop (hkept : Kept s) {f : Frame} {rest : List Frame}
    (hframes : s.frames = f :: rest) (hidle : f.announcing = none) : Kept (s.loop f rest) := by
  have hsound := hkept.sound.loop hframes
  have hsuspended : ∀ g ∈ rest, g.announcing.isSome = true := by
    intro g hg
    refine hkept.suspended g ?_
    rw [hframes]
    exact hg
  have hsight : s.inSight = s.list.flags.drop f.i := by
    unfold Nesting.inSight
    rw [hframes]
    simp [hidle]
  have hpending : ∀ i, s.pending i = true → i ∈ s.list.flags.drop f.i := by
    intro i hi
    rw [← hsight]
    exact hkept.inSight i hi
  unfold Nesting.loop at hsound ⊢
  cases hindex : s.list.flags[f.i]? with
  | none =>
      -- all of `flags` has been visited
      simp only [hindex] at hsound ⊢
      have hnone : ∀ i, s.pending i ≠ true := by
        intro i hi
        have hmem := hpending i hi
        rw [List.drop_eq_nil_of_le (List.getElem?_eq_none_iff.mp hindex)] at hmem
        exact nomatch hmem
      have hzero : ∀ i, s.pendingBits i = 0 := fun i => hkept.none_of_not_pending (hnone i)
      exact
        { sound := hsound
          suspended := fun g hg => hsuspended g (List.mem_of_mem_tail hg)
          defined := fun i hi => absurd hi (hnone i)
          inSight := fun i hi => absurd hi (hnone i)
          bits := fun i hi => absurd (hzero i) hi
          typed := fun i _ _ _ => hzero i
          covered := hkept.covered
          quiet := fun i _ => hzero i }
  | some index =>
      obtain ⟨hlt, hget⟩ := List.getElem?_eq_some_iff.mp hindex
      have hmem : index ∈ s.list.flags := List.mem_of_getElem? hindex
      have hdrop : s.list.flags.drop f.i = index :: s.list.flags.drop (f.i + 1) := by
        rw [List.drop_eq_getElem_cons hlt, hget]
      have hvalid := hkept.sound.settled.index index hmem
      have hp : s.list.vals[index]? = some s.list.vals[index] := List.getElem?_eq_getElem hvalid
      generalize s.list.vals[index] = p at hp
      have hbehind : ∀ i, s.pending i = true → i ≠ index → i ∈ s.list.flags.drop (f.i + 1) := by
        intro i hi hne
        have hmem := hpending i hi
        rw [hdrop] at hmem
        exact (List.mem_cons.mp hmem).resolve_left hne
      simp only [hindex, hp] at hsound ⊢
      cases hdefined : p.isDefined with
      | false =>
          simp only [hdefined, Bool.not_false, if_true] at hsound ⊢
          refine
            { sound := hsound
              suspended := hsuspended
              defined := hkept.defined
              inSight := ?_
              bits := hkept.bits
              typed := hkept.typed
              covered := hkept.covered
              quiet := fun i hi => ?_ }
          · intro i hi
            have hne : i ≠ index := by
              rintro rfl
              obtain ⟨q, hq, hqdefined⟩ := hkept.defined i hi
              rw [hp, Option.some.injEq] at hq
              subst hq
              rw [hdefined] at hqdefined
              exact nomatch hqdefined
            simpa [Nesting.inSight, hidle] using hbehind i hi hne
          · have hi : f.announcing = some i := hi
            rw [hidle] at hi
            exact nomatch hi
      | true =>
          simp only [hdefined, Bool.not_true, Bool.false_eq_true, if_false] at hsound ⊢
          have hself : s.pendingBits index &&& ~~~p.uInt32CallbackMask = 0 :=
            and_not_of_covered (hkept.covered index p hp)
          have hbits : ∀ i, Function.update s.pendingBits index
              (s.pendingBits index &&& ~~~p.uInt32CallbackMask) i =
                if i = index then 0 else s.pendingBits i := by
            intro i
            by_cases hi : i = index
            · subst hi
              rw [Function.update_self, hself, if_pos rfl]
            · rw [Function.update_of_ne hi, if_neg hi]
          have hpend : ∀ i, Function.update s.pending index false i = true →
              i ≠ index ∧ s.pending i = true := by
            intro i hi
            by_cases hne : i = index
            · subst hne
              rw [Function.update_self] at hi
              exact nomatch hi
            · rw [Function.update_of_ne hne] at hi
              exact ⟨hne, hi⟩
          refine
            { sound := hsound
              suspended := hsuspended
              defined := fun i hi => hkept.defined i (hpend i hi).2
              inSight := ?_
              bits := ?_
              typed := ?_
              covered := ?_
              quiet := ?_ }
          · intro i hi
            obtain ⟨hne, hi⟩ := hpend i hi
            simpa [Nesting.inSight] using hbehind i hi hne
          · intro i hi
            show Function.update s.pending index false i = true
            have hi : Function.update s.pendingBits index _ i ≠ 0 := hi
            rw [hbits] at hi
            split at hi
            case isTrue => exact absurd rfl hi
            case isFalse hne =>
              rw [Function.update_of_ne hne]
              exact hkept.bits i hi
          · intro i q hq htype
            show Function.update s.pendingBits index _ i = 0
            rw [hbits, hkept.typed i q hq htype]
            split <;> rfl
          · intro i q hq
            show Function.update s.pendingBits index _ i &&& _ = Function.update s.pendingBits index _ i
            rw [hbits]
            split
            · exact BitVec.zero_and
            · exact hkept.covered i q hq
          · intro i hi
            show Function.update s.pendingBits index _ i = 0
            have hi : some index = some i := hi
            rw [hbits, if_pos (Option.some.inj hi).symm]

/-- The flags of `s` are a prefix of those after a setter. -/
theorem mem_inSight_of_prefix {i : Nat} {flags : List Nat} (hstart : s.list.flags <+: flags)
    (hmem : i ∈ s.inSight) : i ∈ ({ s with list := { s.list with flags := flags } }).inSight := by
  obtain ⟨added, rfl⟩ := hstart
  unfold Nesting.inSight at hmem ⊢
  split at hmem
  case h_1 hframes =>
    simp only [hframes]
    exact List.mem_append_left _ hmem
  case h_2 f rest hframes =>
    simp only [hframes]
    rw [List.drop_append]
    exact List.mem_append_left _ hmem

/-- A flag that is appended lies behind the entry that is announced. -/
theorem mem_inSight_of_append {i : Nat} {flags : List Nat} (hflags : flags = s.list.flags ++ [i])
    (hlength : ∀ f ∈ s.frames.head?, f.i < s.list.flags.length) :
    i ∈ ({ s with list := { s.list with flags := flags } }).inSight := by
  subst hflags
  unfold Nesting.inSight
  cases hframes : s.frames with
  | nil => exact List.mem_append_right _ (List.mem_singleton.mpr rfl)
  | cons f rest =>
      have hlt : f.i < s.list.flags.length := hlength f (by rw [hframes]; rfl)
      show i ∈ (s.list.flags ++ [i]).drop (if f.announcing.isSome then f.i + 1 else f.i)
      rw [List.drop_append_of_le_length (by split <;> omega)]
      exact List.mem_append_right _ (List.mem_singleton.mpr rfl)

theorem Kept.set (hkept : Kept s) {index : Int} {a : ParamVal.Setter}
    (hguard : SetsInSight s (.set index a)) (hsound : Sound (s.set index a)) :
    Kept (s.set index a) := by
  rcases hkept.sound.settled.set_cases index a with
    ⟨hsame, hvalue, hbits⟩ | ⟨i, p, p', rfl, hset, hvalue, hbits⟩
  · -- nothing has been set
    have hnothing : s.set index a = s := by
      unfold Nesting.set
      rw [hsame, hvalue, hbits]
      have hor : s.pendingBits index.toNat ||| 0 = s.pendingBits index.toNat := BitVec.or_zero
      simp only [Bool.false_eq_true, if_false, hor, Function.update_eq_self]
    rw [hnothing]
    exact hkept
  · have hlt : i < s.list.vals.length := (List.getElem?_eq_some_iff.mp hset.before).1
    have hlist : (s.set i a).list = (s.list.set i a).1 := rfl
    -- only index `i` changes: each field of the invariant is checked there and kept elsewhere
    have hvals : ∀ (j : Nat) (q : ParamVal), (s.set i a).list.vals[j]? = some q →
        j = i ∧ q = p' ∨ j ≠ i ∧ s.list.vals[j]? = some q := by
      intro j q hq
      rw [hlist, hset.after] at hq
      by_cases hj : i = j
      · subst hj
        rw [List.getElem?_set_self hlt, Option.some.injEq] at hq
        exact .inl ⟨rfl, hq.symm⟩
      · rw [List.getElem?_set_ne hj] at hq
        exact .inr ⟨fun h => hj h.symm, hq⟩
    have hpendingOther : ∀ j, j ≠ i → (s.set i a).pending j = s.pending j := by
      intro j hj
      show (if _ then Function.update s.pending (Int.toNat i) true else s.pending) j = _
      rw [Int.toNat_natCast]
      split
      · exact Function.update_of_ne hj _ _
      · rfl
    have hpendingSelf : (s.set i a).pending i = (p.changesValue a || s.pending i) := by
      show (if s.list.changesValue i a then Function.update s.pending (Int.toNat i) true
        else s.pending) i = _
      rw [Int.toNat_natCast, hvalue]
      cases p.changesValue a with
      | false => rfl
      | true => exact Function.update_self i true s.pending
    have hbitsOther : ∀ j, j ≠ i → (s.set i a).pendingBits j = s.pendingBits j := by
      intro j hj
      show Function.update s.pendingBits (Int.toNat i) _ j = _
      rw [Int.toNat_natCast]
      exact Function.update_of_ne hj _ _
    have hbitsSelf : (s.set i a).pendingBits i = s.pendingBits i ||| p.changedBits a := by
      show Function.update s.pendingBits (Int.toNat i) (s.pendingBits (Int.toNat i) |||
        s.list.changedBits i a) i = _
      rw [Int.toNat_natCast, hbits]
      exact Function.update_self _ _ _
    have hprefix : s.list.flags <+: (s.list.set i a).1.flags := by
      rw [hset.flags]
      split
      · exact List.prefix_append _ _
      · exact List.prefix_refl _
    have hold : ∀ j, j ∈ s.inSight → j ∈ (s.set i a).inSight := fun j hj =>
      mem_inSight_of_prefix hprefix hj
    refine
      { sound := hsound
        suspended := hkept.suspended
        defined := ?_
        inSight := ?_
        bits := ?_
        typed := ?_
        covered := ?_
        quiet := ?_ }
    · intro j hj
      by_cases hji : j = i
      · subst hji
        refine ⟨p', ?_, ?_⟩
        · rw [hlist, hset.after, List.getElem?_set_self hlt]
        · show p'.valueDefined = true
          have hdefined : p'.valueDefined = _ := hset.sets.defined
          rw [hdefined]
          rw [hpendingSelf, Bool.or_eq_true] at hj
          rcases hj with hchanges | hbefore
          · exact defined_of_changesValue hchanges
          · obtain ⟨q, hq, hqdefined⟩ := hkept.defined j hbefore
            rw [hset.before, Option.some.injEq] at hq
            subst hq
            have hqdefined : p.valueDefined = true := hqdefined
            rw [hqdefined, Bool.true_or]
      · rw [hpendingOther j hji] at hj
        obtain ⟨q, hq, hqdefined⟩ := hkept.defined j hj
        refine ⟨q, ?_, hqdefined⟩
        rw [hlist, hset.after, List.getElem?_set_ne (fun h => hji h.symm)]
        exact hq
    · intro j hj
      by_cases hji : j = i
      · subst hji
        rw [hpendingSelf, Bool.or_eq_true] at hj
        rcases hj with hchanges | hbefore
        -- outside of all loops the whole of `flags` is in sight, and within one the guard asks for it
        · by_cases hframes : s.frames = []
          · have hsight : (s.set j a).inSight = (s.list.set j a).1.flags := by
              unfold Nesting.inSight
              rw [show (s.set j a).frames = [] from hframes]
              rfl
            rw [hsight, hset.flags, any_of_changesValue hchanges]
            by_cases hmem : j ∈ s.list.flags
            · simp [hmem]
            · simp [hmem]
          · have hcomes := (hguard (hvalue.trans hchanges) hframes).1
            rw [Int.toNat_natCast] at hcomes
            rcases hcomes with hbehind | ⟨hnot, hlength⟩
            · exact hold j hbehind
            · refine mem_inSight_of_append ?_ hlength
              show (s.list.set j a).1.flags = _
              rw [hset.flags, any_of_changesValue hchanges]
              simp [hnot]
        · exact hold j (hkept.inSight j hbefore)
      · rw [hpendingOther j hji] at hj
        exact hold j (hkept.inSight j hj)
    · intro j hj
      by_cases hji : j = i
      · subst hji
        rw [hpendingSelf, Bool.or_eq_true]
        rw [hbitsSelf] at hj
        by_cases hbefore : s.pendingBits j = 0
        · left
          rw [hbefore] at hj
          have hne : p.changedBits a ≠ 0 := fun hzero => hj (by rw [hzero]; rfl)
          simp only [ParamVal.changesValue, bne_iff_ne.mpr hne, Bool.or_true]
        · exact .inr (hkept.bits j hbefore)
      · rw [hpendingOther j hji]
        rw [hbitsOther j hji] at hj
        exact hkept.bits j hj
    · intro j q hq htype
      rcases hvals j q hq with ⟨rfl, rfl⟩ | ⟨hji, hq⟩
      · have htype : p.type ≠ .asynParamUInt32Digital := by
          have hsame : q.type = p.type := hset.sets.type
          rwa [hsame] at htype
        rw [hbitsSelf, hset.typed htype, hkept.typed j p hset.before htype]
        rfl
      · rw [hbitsOther j hji]
        exact hkept.typed j q hq htype
    · intro j q hq
      rcases hvals j q hq with ⟨rfl, rfl⟩ | ⟨hji, hq⟩
      · rw [hbitsSelf]
        by_cases htype : p.type = .asynParamUInt32Digital
        · have hmask : q.uInt32CallbackMask = _ := hset.sets.mask htype
          rw [hmask]
          split
          · exact BitVec.and_allOnes
          · exact covered_or (hkept.covered j p hset.before) (changedBits_le p a)
        · rw [hset.typed htype, hkept.typed j p hset.before htype]
          exact BitVec.zero_and
      · rw [hbitsOther j hji]
        exact hkept.covered j q hq
    · intro j hj
      have hj : s.announcing = some j := hj
      by_cases hji : j = i
      · subst hji
        rw [hbitsSelf, hkept.quiet j hj]
        -- a change of bits of the announced index is what the guard excludes
        have hframes : s.frames ≠ [] := by
          intro hnil
          have hj : s.frames.head?.bind Frame.announcing = some j := hj
          rw [hnil] at hj
          exact nomatch hj
        by_contra hne
        have hne : p.changedBits a ≠ 0 := fun hzero => hne (by rw [hzero]; rfl)
        have hchanges : p.changesValue a = true := by
          simp only [ParamVal.changesValue, bne_iff_ne.mpr hne, Bool.or_true]
        have hother := (hguard (hvalue.trans hchanges) hframes).2 (by rwa [hbits])
        rw [Int.toNat_natCast] at hother
        exact hother hj
      · rw [hbitsOther j hji]
        exact hkept.quiet j hj

theorem Kept.step {action : Action} (hkept : Kept s) (hguard : SetsInSight s action)
    (hstep : step s action = some s') : Kept s' := by
  have hsound := hkept.sound.step hstep
  cases action with
  | createParam name type memory =>
      simp only [Nested.step] at hstep
      split at hstep
      case isFalse => exact nomatch hstep
      case isTrue hnone =>
        cases hstep
        -- an index that `createParam` adds was not there before, and nothing can be pending of it
        have hcreated : ∀ (i : Nat) (q : ParamVal),
            (s.list.createParam name type memory).1.vals[i]? = some q →
              s.list.vals[i]? = some q ∨ s.list.vals[i]? = none := by
          intro i q hq
          unfold ParamList.createParam at hq
          simp only at hq
          split at hq
          · exact .inl hq
          · by_cases hi : i < s.list.vals.length
            · rw [List.getElem?_append_left hi] at hq
              exact .inl hq
            · exact .inr (List.getElem?_eq_none (by omega))
        have hkeeps : ∀ (i : Nat) (q : ParamVal), s.list.vals[i]? = some q →
            (s.list.createParam name type memory).1.vals[i]? = some q := by
          intro i q hq
          unfold ParamList.createParam
          simp only
          split
          · exact hq
          · show (s.list.vals ++ _)[i]? = _
            rw [List.getElem?_append_left (List.getElem?_eq_some_iff.mp hq).1]
            exact hq
        have hflags : (s.list.createParam name type memory).1.flags = s.list.flags := by
          unfold ParamList.createParam
          simp only
          split <;> rfl
        have hfresh : ∀ i, s.list.vals[i]? = none → s.pendingBits i = 0 := by
          intro i hi
          refine hkept.none_of_not_pending ?_
          intro hpending
          obtain ⟨q, hq, -⟩ := hkept.defined i hpending
          rw [hi] at hq
          exact nomatch hq
        refine
          { sound := hsound
            suspended := hkept.suspended
            defined := ?_
            inSight := ?_
            bits := hkept.bits
            typed := ?_
            covered := ?_
            quiet := hkept.quiet }
        · intro i hi
          obtain ⟨q, hq, hdefined⟩ := hkept.defined i hi
          exact ⟨q, hkeeps i q hq, hdefined⟩
        · intro i hi
          have hsame := hkept.inSight i hi
          unfold Nesting.inSight at hsame ⊢
          simp only [hflags]
          exact hsame
        · intro i q hq htype
          rcases hcreated i q hq with hold | hnew
          · exact hkept.typed i q hold htype
          · exact hfresh i hnew
        · intro i q hq
          rcases hcreated i q hq with hold | hnew
          · exact hkept.covered i q hold
          · show s.pendingBits i &&& _ = s.pendingBits i
            rw [hfresh i hnew]
            exact BitVec.zero_and
  | set index a =>
      simp only [Nested.step] at hstep
      split at hstep
      case isFalse => exact nomatch hstep
      case isTrue =>
        cases hstep
        exact hkept.set hguard hsound
  | callCallbacks interruptAccept addr =>
      simp only [Nested.step] at hstep
      split at hstep
      case isFalse => exact nomatch hstep
      case isTrue hact =>
        cases hstep
        cases interruptAccept with
        | false => exact hkept
        | true =>
            refine
              { sound := hsound
                suspended := ?_
                defined := hkept.defined
                inSight := ?_
                bits := hkept.bits
                typed := hkept.typed
                covered := hkept.covered
                quiet := fun _ hi => nomatch hi }
            · intro f hf
              have hf : f ∈ s.frames := hf
              -- the loop that becomes suspended is announcing: a driver acts from within a callback
              cases hframes : s.frames with
              | nil =>
                  rw [hframes] at hf
                  exact nomatch hf
              | cons g rest =>
                  rw [hframes] at hf
                  rcases List.mem_cons.mp hf with rfl | hf
                  · simpa [Nesting.mayAct, Nesting.announcing, hframes] using hact
                  · exact hkept.suspended f (by rw [hframes]; exact hf)
            · intro i hi
              have hmem := hkept.inSight i hi
              -- the new loop starts at the head of `flags`, with all of the list in sight
              show i ∈ s.list.flags.drop 0
              rw [List.drop_zero]
              unfold Nesting.inSight at hmem
              split at hmem
              · exact hmem
              · exact List.mem_of_mem_drop hmem
  | loop =>
      simp only [Nested.step] at hstep
      split at hstep
      case h_1 => exact nomatch hstep
      case h_2 f rest hframes =>
        split at hstep
        case isTrue => exact nomatch hstep
        case isFalse hidle =>
          cases hstep
          exact hkept.loop hframes (by simpa using hidle)
  | returned =>
      simp only [Nested.step] at hstep
      split at hstep
      case h_1 => exact nomatch hstep
      case h_2 f rest hframes =>
        obtain ⟨index, hindex, rfl⟩ := Option.map_eq_some_iff.mp hstep
        have hannouncing : s.announcing = some index := by
          rw [Nesting.announcing, hframes]
          exact hindex
        refine
          { sound := hsound
            suspended := ?_
            defined := ?_
            inSight := ?_
            bits := hkept.bits
            typed := ?_
            covered := ?_
            quiet := fun _ hi => nomatch hi }
        · intro g hg
          exact hkept.suspended g (by rw [hframes]; exact hg)
        · intro i hi
          obtain ⟨q, hq, hdefined⟩ := hkept.defined i hi
          have hlt : i < (s.list.afterCallback index).vals.length := by
            rw [afterCallback_length]
            exact (List.getElem?_eq_some_iff.mp hq).1
          have hget := List.getElem?_eq_getElem hlt
          obtain ⟨q', hq', -, hsame, -⟩ := afterCallback_vals hget
          rw [hq, Option.some.injEq] at hq'
          subst hq'
          exact ⟨_, hget, hsame.trans hdefined⟩
        · intro i hi
          -- the loop goes on one place further than the index it has announced
          have hmem := hkept.inSight i hi
          unfold Nesting.inSight at hmem
          rw [hframes] at hmem
          simp only [hindex, Option.isSome_some, if_true] at hmem
          show i ∈ (s.list.afterCallback index).flags.drop (f.i + 1)
          rw [afterCallback_flags]
          exact hmem
        · intro i p hp htype
          obtain ⟨q, hq, hsame, -⟩ := afterCallback_vals hp
          exact hkept.typed i q hq (hsame ▸ htype)
        · intro i p hp
          show s.pendingBits i &&& _ = s.pendingBits i
          by_cases hi : i = index
          · -- nothing has been set in its own callbacks
            subst hi
            rw [hkept.quiet i hannouncing]
            exact BitVec.zero_and
          · obtain ⟨q, hq, -, -, -, -, hmask⟩ := afterCallback_vals hp
            rw [hmask hi]
            exact hkept.covered i q hq

theorem Kept.reachable (hreach : machine.Reachable SetsInSight s) : Kept s :=
  hreach.invariant (fun _ hinit => hinit ▸ Kept.start)
    fun _ _ _ hguard hkept hstep => hkept.step hguard hstep

/-- The loops stay within their bounds in every run.  Where every change made in a callback is flagged
behind the entry that the innermost loop is at, every changed value is still recorded when the outermost
call has returned. -/
theorem no_change_lost (s : Nesting) :
    (machine.Reachable Machine.Unguarded s → InBounds s) ∧
    (machine.Reachable SetsInSight s → s.frames = [] → Recorded s) :=
  ⟨inBounds_of_reachable, fun hreach => (Kept.reachable hreach).recorded⟩

/-- A client that is called for one parameter sets another one. -/
def setOther : List Action :=
  [.createParam "a" .asynParamInt32 0, .createParam "b" .asynParamInt32 0, .set 0 (.setInteger 1),
    .callCallbacks true 0, .loop, .set 1 (.setInteger 2), .returned, .loop, .returned, .loop]

/-- The loop has come to that one, too. -/
theorem no_change_lost_other :
    ∃ s, s.frames = [] ∧ s.list.changesValue 1 (.setInteger 2) = false ∧ s.pending 1 = false ∧
      InBounds s ∧ Recorded s := by
  obtain ⟨s, hreach, hvalue⟩ := Machine.exists_reachable_of_execGuarded (M := machine)
    (fun s => (s.frames, s.list.changesValue 1 (.setInteger 2), s.pending 1))
    (fun s a (hcheck : decide (SetsInSight s a) = true) => of_decide_eq_true hcheck)
    setOther rfl (show _ = some ([], false, false) from by decide +kernel)
  simp only [Prod.mk.injEq] at hvalue
  obtain ⟨hframes, hset, hpending⟩ := hvalue
  obtain ⟨hbounds, hrecorded⟩ := no_change_lost s
  exact ⟨s, hframes, hset, hpending, hbounds (hreach.mono fun _ _ _ => trivial),
    hrecorded hreach hframes⟩

/-- A client sets the parameter for which it is called. -/
def setInCallback : List Action :=
  [.createParam "a" .asynParamInt32 0, .set 0 (.setInteger 1), .callCallbacks true 0, .loop,
    .set 0 (.setInteger 2), .returned, .loop]

/-- Its value is then lost. -/
theorem change_lost : ∃ s, machine.Reachable Machine.Unguarded s ∧ s.frames = [] ∧ InBounds s ∧
    ¬Recorded s := by
  obtain ⟨s, hreach, hvalue⟩ := Machine.exists_reachable_of_exec (M := machine)
    (fun s => (s.frames, s.list.flags, s.pending 0)) setInCallback rfl
    (show _ = some ([], [], true) from by decide +kernel)
  simp only [Prod.mk.injEq] at hvalue
  obtain ⟨hframes, hflags, hpending⟩ := hvalue
  refine ⟨s, hreach, hframes, inBounds_of_reachable hreach, ?_⟩
  intro hrecorded
  have hmem := hrecorded.flags 0 hpending
  rw [hflags] at hmem
  exact nomatch hmem

/-! ## Clients that do not set parameters -/

theorem afterCallback_eq {index : Nat} {p : ParamVal} (hp : l.vals[index]? = some p)
    (hdefined : p.isDefined = true) :
    l.afterCallback index = { l with vals := l.vals.set index p.announced } := by
  unfold ParamList.afterCallback
  rw [hp]
  simp only
  split
  case isTrue htype => simp [ParamVal.announced, hdefined, htype, ParamList.put]
  case isFalse htype =>
    obtain ⟨hlt, hget⟩ := List.getElem?_eq_some_iff.mp hp
    have hkept : p.announced = p := by simp [ParamVal.announced, htype]
    rw [hkept, ← hget, List.set_getElem_self hlt]

/-- The loop from an entry on, without actions of the clients. -/
theorem loop_callFlagged (pInterfaces : AsynStandardInterfaces) (timeStamp : Nat) (addr : Int)
    (status : AsynStatus) {i : Nat} {rest : List Frame} (remaining : List Nat)
    (hframes : s.frames = ⟨addr, i, none⟩ :: rest) (hremaining : s.list.flags.drop i = remaining)
    (hvalid : ∀ j ∈ remaining, j < s.list.vals.length) :
    ∃ s', machine.Path Machine.Unguarded s s' ∧ s'.frames = rest ∧
      s'.list =
        (ParamList.callFlagged pInterfaces timeStamp addr remaining s.list status).1 := by
  -- the flags that the loop has still to come to are the recursion of `callFlagged`
  induction remaining generalizing s i status with
  | nil =>
      have hend : s.list.flags[i]? = none := by
        rw [List.getElem?_eq_none_iff]
        exact List.drop_eq_nil_iff.mp hremaining
      refine ⟨s.loop ⟨addr, i, none⟩ rest, Machine.Path.single (a := .loop) trivial ?_, ?_, ?_⟩
      · show Nested.step s .loop = _
        simp [Nested.step, hframes]
      · unfold Nesting.loop
        rw [hend]
      · unfold Nesting.loop
        rw [hend]
        rfl
  | cons index remaining ih =>
      have hindex : s.list.flags[i]? = some index := by
        have hhead := congrArg (fun l => l[0]?) hremaining
        simpa [List.getElem?_drop] using hhead
      have hnext : s.list.flags.drop (i + 1) = remaining := by
        rw [← List.tail_drop, hremaining]
        rfl
      have hlt := hvalid index List.mem_cons_self
      have hp : s.list.vals[index]? = some s.list.vals[index] := List.getElem?_eq_getElem hlt
      generalize s.list.vals[index] = p at hp
      have hget : s.list.getParameter index = some p :=
        (ParamList.getParameter_natCast s.list index).trans hp
      have hloop : machine.step s .loop = some (s.loop ⟨addr, i, none⟩ rest) := by
        show Nested.step s .loop = _
        simp [Nested.step, hframes]
      have hrest : ∀ j ∈ remaining, j < s.list.vals.length := fun j hj =>
        hvalid j (List.mem_cons_of_mem _ hj)
      unfold ParamList.callFlagged
      simp only [hget]
      cases hdefined : p.isDefined with
      | false =>
          -- an undefined value: the loop only goes on
          have hskip : s.loop ⟨addr, i, none⟩ rest =
              { s with frames := ⟨addr, i + 1, none⟩ :: rest } := by
            simp [Nesting.loop, hindex, hp, hdefined]
          obtain ⟨s', hpath, hdone, hlist⟩ := ih (s := s.loop ⟨addr, i, none⟩ rest) status
            (by rw [hskip]) (by rw [hskip]; exact hnext) (by rw [hskip]; exact hrest)
          refine ⟨s', (Machine.Path.single trivial hloop).trans hpath, hdone, ?_⟩
          rw [hlist, hskip]
          simp
      | true =>
          -- a defined value: the callback begins and, with no step of its own, returns
          have hbegin : s.loop ⟨addr, i, none⟩ rest =
              { s with
                frames := ⟨addr, i, some index⟩ :: rest
                pending := Function.update s.pending index false
                pendingBits := Function.update s.pendingBits index
                  (s.pendingBits index &&& ~~~p.uInt32CallbackMask) } := by
            simp [Nesting.loop, hindex, hp, hdefined]
          have hreturned : machine.step (s.loop ⟨addr, i, none⟩ rest) .returned =
              some { s.loop ⟨addr, i, none⟩ rest with
                list := s.list.afterCallback index
                frames := ⟨addr, i + 1, none⟩ :: rest } := by
            rw [hbegin]
            rfl
          obtain ⟨s', hpath, hdone, hlist⟩ := ih (s := { s.loop ⟨addr, i, none⟩ rest with
              list := s.list.afterCallback index
              frames := ⟨addr, i + 1, none⟩ :: rest })
            ((s.list.callback pInterfaces timeStamp index addr p).2.2.getD status) rfl
            (by
              show (s.list.afterCallback index).flags.drop (i + 1) = _
              rw [afterCallback_flags]
              exact hnext)
            (by
              show ∀ j ∈ remaining, j < (s.list.afterCallback index).vals.length
              rw [afterCallback_length]
              exact hrest)
          refine ⟨s', ((Machine.Path.single trivial hloop).trans
            (Machine.Path.single trivial hreturned)).trans hpath, hdone, ?_⟩
          rw [hlist]
          simp only [Bool.not_true, Bool.false_eq_true, if_false]
          rw [ParamList.callback_list pInterfaces timeStamp addr hp hdefined,
            afterCallback_eq hp hdefined]

/-- Without actions of the clients the nested calls are those of `callCallbacks`. -/
theorem callCallbacks_path (pInterfaces : AsynStandardInterfaces) (timeStamp : Nat) (addr : Int)
    (hsound : Sound s) (hact : s.mayAct = true) :
    ∃ s', machine.Path Machine.Unguarded s s' ∧ s'.frames = s.frames ∧
      s'.list = (s.list.callCallbacks pInterfaces timeStamp true addr).1 := by
  have hbegin : machine.step s (.callCallbacks true addr) =
      some { s with frames := ⟨addr, 0, none⟩ :: s.frames } := by
    show Nested.step s (.callCallbacks true addr) = _
    simp [Nested.step, hact]
  obtain ⟨s', hpath, hframes, hlist⟩ := loop_callFlagged
    (s := { s with frames := ⟨addr, 0, none⟩ :: s.frames }) pInterfaces timeStamp addr .asynSuccess
    s.list.flags rfl (List.drop_zero) hsound.settled.index
  exact ⟨s', (Machine.Path.single trivial hbegin).trans hpath, hframes, hlist⟩

end Nested
end PortDriver
end AsynDriver
