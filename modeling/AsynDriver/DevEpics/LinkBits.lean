import AsynDriver.DevEpics.ScalarInput
import AsynDriver.Library.BitField
import Mathlib.Data.Int.ModEq

/-!
# The number of bits in a link of `devAsynInt32`

A link `@asynMask(port,addr,nbits,timeout)` gives the values of a record `nbits` bits; with a negative
`nbits` they are signed.

* `initCommon` — `mask`, `signBit`, `deviceLow` and `deviceHigh` from `nbits`.
* `initAi` — without a range of its own the record takes that of `getBounds`.
* `convert_link` — what the mask makes of a value.
* `ValueSound` — the value that a record has from a callback or from a read.
* `value_sound_iff` — when it has; the most negative value is below `deviceLow`.

The shifts `~0 << nbits` and `1 << (nbits-1)` are those of the processor: with a count of 32 or more
it takes the count modulo 32, or shifts all bits out (`wraps`).
-/

namespace AsynDriver
namespace DevEpics
namespace LinkBits

open Library.BitField
open Manager (AsynStatus)

/-- `x << n` for an `int`. -/
def shiftLeft (wraps : Bool) (x : BitVec 32) (n : Nat) : BitVec 32 :=
  if n < 32 then x <<< n else if wraps then x <<< (n % 32) else 0

/-- What `initCommon` sets from the link. -/
structure LinkRange extends Int32Mask where
  deviceLow : BitVec 32
  deviceHigh : BitVec 32

/-- "Parse nbits if it was specified". -/
def initCommon (wraps : Bool) (mask : BitVec 32) : LinkRange :=
  let nbits := mask.toInt
  if nbits = 0 then ⟨⟨0, false, 0⟩, 0, 0⟩
  else
    let bipolar := decide (nbits < 0)
    let nbits := nbits.natAbs
    let signBit := shiftLeft wraps 1 (nbits - 1)
    let mask := ~~~ shiftLeft wraps (~~~ 0) nbits
    if bipolar then ⟨⟨mask, bipolar, signBit⟩, ~~~ mask.sdiv 2 + 1, mask.sdiv 2⟩
    else ⟨⟨mask, bipolar, signBit⟩, 0, mask⟩

/-- The range after `initAi`, or `initAo`; `bounds` is what `getBounds` of the driver returns. -/
def initAi (bounds : BitVec 32 × BitVec 32) (r : LinkRange) : LinkRange :=
  if r.deviceLow = 0 ∧ r.deviceHigh = 0 then { r with deviceLow := bounds.1, deviceHigh := bounds.2 }
  else r

/-- `nbits` as it stands in the link, with a sign for a bipolar one. -/
def linkMask (bipolar : Bool) (nbits : Nat) : BitVec 32 :=
  if bipolar then BitVec.ofInt 32 (-nbits) else BitVec.ofNat 32 nbits

/-- The record of a link. -/
def link (wraps bipolar : Bool) (nbits : Nat) (bounds : BitVec 32 × BitVec 32) : LinkRange :=
  initAi bounds (initCommon wraps (linkMask bipolar nbits))

/-! ## The value of a record -/

variable {ringSize : Nat}

/-- `rval` of an `ai` record that processes after a callback with this value. -/
def rvalOfCallback (r : LinkRange) (p : DevPvt (BitVec 32) ringSize) (pr : InputRecord (BitVec 32))
    (value : BitVec 32) (pasynUser : InterruptUser) (request : QueueRequest (BitVec 32)) : BitVec 32 :=
  let sup := Int32.processAi r.toInt32Mask
  let p := (sup.interruptCallbackInput p value pasynUser true).1
  (sup.process p pr request).2.1.value

/-- `rval` of an `ai` record that processes and reads, at once or, on a port that can block, in
`processCallbackInput`. -/
def rvalOfRead (r : LinkRange) (p : DevPvt (BitVec 32) ringSize) (pr : InputRecord (BitVec 32))
    (reading : RingBufferElement (BitVec 32)) : BitVec 32 :=
  let sup := Int32.processAi r.toInt32Mask
  let request : QueueRequest (BitVec 32) := ⟨.asynSuccess, reading⟩
  if p.canBlock then
    (sup.process (sup.processCallbackInput p reading) { pr with pact := true } request).2.1.value
  else (sup.process p { pr with pact := false } request).2.1.value

/-- The value of a record with a link of `nbits` bits, from a callback and from a read of one value. -/
structure ValueSound (r : LinkRange) (bipolar : Bool) (nbits : Nat) (value called read : BitVec 32) :
    Prop where
  same : called = read
  congruent : bipolar = true → read.toInt ≡ value.toInt [ZMOD 2 ^ nbits]
  inRange : bipolar = true → -2 ^ (nbits - 1) ≤ read.toInt ∧ read.toInt < 2 ^ (nbits - 1)
  inBounds : bipolar = true → r.deviceLow.toInt ≤ read.toInt ∧ read.toInt ≤ r.deviceHigh.toInt
  masked : bipolar = false → read.toNat = value.toNat % 2 ^ nbits

theorem finish_value (sup : InputSupport (BitVec 32) (BitVec 32)) {p : DevPvt (BitVec 32) ringSize}
    (hstatus : p.result.status = .asynSuccess) (pr : InputRecord (BitVec 32)) :
    (sup.finish p pr).2.1.value = sup.store p.result.value pr.value pr.udf := by
  unfold InputSupport.finish
  simp only [hstatus, if_true]

theorem rvalOfCallback_eq (r : LinkRange) {p : DevPvt (BitVec 32) (ringSize + 1)}
    (hempty : p.ring.contents = []) (pr : InputRecord (BitVec 32)) (value : BitVec 32)
    {pasynUser : InterruptUser} (hstatus : pasynUser.auxStatus = .asynSuccess)
    (request : QueueRequest (BitVec 32)) :
    rvalOfCallback r p pr value pasynUser request = r.toInt32Mask.convert value := by
  let e := RingBufferElement.ofCallback (r.toInt32Mask.convert value) pasynUser
  have hcount : p.ring.count = 0 := by rw [← Library.Ring.length_contents, hempty]; rfl
  have hcontents : (p.ring.push e).1.contents = [e] := by
    rw [Library.Ring.contents_push (by omega), hempty]
    rfl
  obtain ⟨slot, ring, hpop⟩ : ∃ slot ring, (p.ring.push e).1.pop = some (slot, ring) := by
    cases hpop : (p.ring.push e).1.pop with
    | none =>
        rw [Library.Ring.pop_eq_none_iff, hcontents] at hpop
        exact nomatch hpop
    | some r => exact ⟨r.1, r.2, rfl⟩
  have hslot : (p.ring.push e).1.slots slot = e := by
    obtain ⟨hhead, -⟩ := Library.Ring.contents_pop hpop
    rw [hcontents] at hhead
    exact (List.cons.inj hhead).1.symm
  have hgot := DevPvt.getCallbackValue_of_pop (p := (p.pushCallbackValue e).1) hpop
  have hpushed : (Int32.processAi r.toInt32Mask).interruptCallbackInput p value pasynUser true =
      ((p.pushCallbackValue e).1, !(p.pushCallbackValue e).2) := rfl
  unfold rvalOfCallback InputSupport.process
  simp only [hpushed, hgot, Bool.not_true, Bool.false_and, Bool.false_eq_true, if_false]
  rw [finish_value _ (by rw [show (p.pushCallbackValue e).1.ring.slots slot = e from hslot]; exact hstatus)]
  exact congrArg RingBufferElement.value hslot

theorem rvalOfRead_eq (r : LinkRange) {p : DevPvt (BitVec 32) ringSize} (hempty : p.ring.contents = [])
    (pr : InputRecord (BitVec 32)) {reading : RingBufferElement (BitVec 32)}
    (hstatus : reading.status = .asynSuccess) :
    rvalOfRead r p pr reading = r.toInt32Mask.convert reading.value := by
  have hnone := DevPvt.getCallbackValue_of_empty (Library.Ring.pop_eq_none_iff.mpr hempty)
  have hread := DevPvt.getCallbackValue_of_empty
    (p := (Int32.processAi r.toInt32Mask).processCallbackInput p reading)
    (Library.Ring.pop_eq_none_iff.mpr hempty)
  unfold rvalOfRead InputSupport.process
  cases hblock : p.canBlock with
  | true =>
      simp only [hread, if_true, Bool.not_true, Bool.and_false, Bool.false_eq_true, if_false]
      exact finish_value _ hstatus _
  | false =>
      simp only [hnone, Bool.not_false, Bool.and_self, Bool.false_eq_true, and_false, if_true,
        if_false]
      exact finish_value _ hstatus _

/-! ## The mask -/

theorem toInt_linkMask {nbits : Nat} (hpos : 1 ≤ nbits) (hle : nbits ≤ 32) (bipolar : Bool) :
    (linkMask bipolar nbits).toInt = if bipolar then -(nbits : Int) else nbits := by
  unfold linkMask
  cases bipolar with
  | true =>
      simp only [if_true, BitVec.toInt_ofInt]
      rw [Int.bmod_eq_of_le_mul_two] <;> omega
  | false =>
      simp only [Bool.false_eq_true, if_false]
      rw [BitVec.toInt_ofNat', Int.bmod_eq_of_le_mul_two] <;> omega

/-- `mask` of a link. -/
def maskOf (wraps : Bool) (nbits : Nat) : BitVec 32 := ~~~ shiftLeft wraps (~~~ 0) nbits

theorem initCommon_linkMask {nbits : Nat} (hpos : 1 ≤ nbits) (hle : nbits ≤ 32) (wraps bipolar : Bool) :
    initCommon wraps (linkMask bipolar nbits) =
      ⟨⟨maskOf wraps nbits, bipolar, shiftLeft wraps 1 (nbits - 1)⟩,
        if bipolar then ~~~ (maskOf wraps nbits).sdiv 2 + 1 else 0,
        if bipolar then (maskOf wraps nbits).sdiv 2 else maskOf wraps nbits⟩ := by
  unfold initCommon
  simp only [toInt_linkMask hpos hle bipolar]
  cases bipolar with
  | true =>
      have hne : -(nbits : Int) ≠ 0 := by omega
      have hneg : -(nbits : Int) < 0 := by omega
      simp only [if_true, hne, if_false, hneg, decide_true, Int.natAbs_neg, Int.natAbs_natCast]
      rfl
  | false =>
      have hne : (nbits : Int) ≠ 0 := by omega
      have hneg : ¬ (nbits : Int) < 0 := by omega
      simp only [Bool.false_eq_true, if_false, hne, hneg, decide_false, Int.natAbs_natCast]
      rfl

theorem maskOf_eq {nbits : Nat} (hlt : nbits < 32) (wraps : Bool) :
    maskOf wraps nbits = ~~~ (BitVec.allOnes 32 <<< nbits) := by
  unfold maskOf shiftLeft
  rw [if_pos hlt]
  rfl

theorem getLsbD_maskOf {nbits : Nat} (hlt : nbits < 32) (wraps : Bool) {i : Nat} (hi : i < 32) :
    (maskOf wraps nbits).getLsbD i = decide (i < nbits) := by
  rw [maskOf_eq hlt]
  exact getLsbD_lowMask nbits hi

theorem maskOf_ne_zero {nbits : Nat} (hpos : 1 ≤ nbits) (hlt : nbits < 32) (wraps : Bool) :
    maskOf wraps nbits ≠ 0 := by
  intro hzero
  have hbit := getLsbD_maskOf hlt wraps (Nat.succ_pos 31)
  rw [hzero] at hbit
  simp at hbit
  omega

theorem convert_unipolar {nbits : Nat} (hpos : 1 ≤ nbits) (hlt : nbits < 32) (wraps : Bool)
    (signBit value : BitVec 32) :
    Int32Mask.convert ⟨maskOf wraps nbits, false, signBit⟩ value = (value.setWidth nbits).setWidth 32 := by
  unfold Int32Mask.convert
  simp only [maskOf_ne_zero hpos hlt wraps, ne_eq, not_false_eq_true, if_true, Bool.false_and,
    Bool.false_eq_true, if_false]
  rw [maskOf_eq hlt]
  exact and_lowMask value nbits

theorem convert_bipolar {nbits : Nat} (hpos : 1 ≤ nbits) (hlt : nbits < 32) (wraps : Bool)
    (value : BitVec 32) :
    Int32Mask.convert ⟨maskOf wraps nbits, true, shiftLeft wraps 1 (nbits - 1)⟩ value =
      (value.setWidth nbits).signExtend 32 := by
  have hsign : shiftLeft wraps 1 (nbits - 1) = 1#32 <<< (nbits - 1) := if_pos (by omega)
  have hmsb : (value.setWidth nbits).msb = value.getLsbD (nbits - 1) := by
    rw [BitVec.msb_setWidth, decide_eq_true (show 0 < nbits from hpos), Bool.true_and]
  have hmasked : value &&& maskOf wraps nbits = (value.setWidth nbits).setWidth 32 := by
    rw [maskOf_eq hlt]
    exact and_lowMask value nbits
  have hbit : ((value.setWidth nbits).setWidth 32).getLsbD (nbits - 1) = value.getLsbD (nbits - 1) := by
    have h₁ : nbits - 1 < 32 := by omega
    have h₂ : nbits - 1 < nbits := by omega
    simp [h₁, h₂]
  unfold Int32Mask.convert
  simp only [maskOf_ne_zero hpos hlt wraps, ne_eq, not_false_eq_true, if_true, Bool.true_and, hsign,
    hmasked, bne_iff_ne]
  have htest : ¬ (value.setWidth nbits).setWidth 32 &&& 1#32 <<< (nbits - 1) = 0 ↔
      value.getLsbD (nbits - 1) = true := by
    rw [← hbit]
    exact and_one_shiftLeft_ne_zero _ (by omega)
  rw [if_congr htest rfl rfl]
  refine BitVec.eq_of_getLsbD_eq fun i hi => ?_
  rw [BitVec.getLsbD_signExtend, decide_eq_true hi, Bool.true_and, hmsb]
  -- below the sign both are the bits of the value, and above it the sign
  cases hset : value.getLsbD (nbits - 1) with
  | false =>
      simp only [Bool.false_eq_true, if_false]
      rw [BitVec.getLsbD_setWidth, decide_eq_true hi, Bool.true_and]
      split
      case isTrue => rfl
      case isFalse hge => exact BitVec.getLsbD_of_ge _ _ (Nat.not_lt.mp hge)
  | true =>
      simp only [if_true]
      rw [BitVec.getLsbD_or, BitVec.getLsbD_not, getLsbD_maskOf hlt wraps hi, BitVec.getLsbD_setWidth,
        decide_eq_true hi, Bool.true_and, Bool.true_and]
      split
      case isTrue hlow => rw [decide_eq_true hlow, Bool.not_true, Bool.or_false]
      case isFalse hge => rw [decide_eq_false hge, Bool.not_false, Bool.or_true]

/-- With 32 bits the mask is 0 or has all bits, and leaves a value as it is. -/
theorem convert_full (wraps bipolar : Bool) (signBit value : BitVec 32) :
    Int32Mask.convert ⟨maskOf wraps 32, bipolar, signBit⟩ value = value := by
  cases wraps with
  | true => rfl
  | false =>
      have hall : maskOf false 32 = BitVec.allOnes 32 := rfl
      unfold Int32Mask.convert
      simp only [hall, BitVec.and_allOnes, BitVec.not_allOnes, BitVec.or_zero, ite_self]

/-! ## The range -/

/-- `mask / 2` is 0 for one bit and for 32 bits. -/
theorem sdiv_maskOf_eq_zero {nbits : Nat} (hnbits : nbits = 1 ∨ nbits = 32) (wraps : Bool) :
    (maskOf wraps nbits).sdiv 2 = 0 := by
  rcases hnbits with rfl | rfl <;> cases wraps <;> decide

/-- For the bits between it is the highest value, and `deviceLow` is one above the lowest. -/
theorem sdiv_maskOf : ∀ nbits, nbits < 32 → 2 ≤ nbits → ∀ wraps,
    (maskOf wraps nbits).sdiv 2 ≠ 0 ∧
      (~~~ (maskOf wraps nbits).sdiv 2 + 1).toInt = -(2 ^ (nbits - 1) - 1) ∧
      ((maskOf wraps nbits).sdiv 2).toInt = 2 ^ (nbits - 1) - 1 := by
  decide

variable {nbits : Nat} {bounds : BitVec 32 × BitVec 32} {wraps bipolar : Bool} {value : BitVec 32}

theorem toInt32Mask_initAi (r : LinkRange) : (initAi bounds r).toInt32Mask = r.toInt32Mask := by
  unfold initAi
  split <;> rfl

/-- The mask of a link keeps the low bits of a value, with their sign in a bipolar one. -/
theorem convert_link (hpos : 1 ≤ nbits) (hle : nbits ≤ 32) :
    (link wraps bipolar nbits bounds).toInt32Mask.convert value =
      if bipolar then (value.setWidth nbits).signExtend 32 else (value.setWidth nbits).setWidth 32 := by
  unfold link
  rw [toInt32Mask_initAi, initCommon_linkMask hpos hle]
  rcases Nat.lt_or_eq_of_le hle with hlt | rfl
  · cases bipolar with
    | true => exact convert_bipolar hpos hlt wraps value
    | false => exact convert_unipolar hpos hlt wraps _ value
  · rw [convert_full]
    cases bipolar <;> simp

theorem toInt_convert_link (hpos : 1 ≤ nbits) (hle : nbits ≤ 32) :
    ((link wraps true nbits bounds).toInt32Mask.convert value).toInt =
      Int.bmod value.toNat (2 ^ nbits) := by
  rw [convert_link hpos hle, if_pos rfl, BitVec.toInt_signExtend_of_le hle, BitVec.toInt_setWidth]

theorem toNat_convert_link (hpos : 1 ≤ nbits) (hle : nbits ≤ 32) :
    ((link wraps false nbits bounds).toInt32Mask.convert value).toNat = value.toNat % 2 ^ nbits := by
  have hmod : value.toNat % 2 ^ nbits < 2 ^ 32 :=
    (Nat.mod_lt _ (Nat.two_pow_pos nbits)).trans_le (Nat.pow_le_pow_right (by decide) hle)
  rw [convert_link hpos hle]
  simp only [Bool.false_eq_true, if_false, BitVec.toNat_setWidth]
  exact Nat.mod_eq_of_lt hmod

/-- The range of the linear conversion of a bipolar link. -/
theorem range_link (hpos : 1 ≤ nbits) (hle : nbits ≤ 32) :
    (link wraps true nbits bounds).deviceLow.toInt =
        (if nbits = 1 ∨ nbits = 32 then bounds.1.toInt else -(2 ^ (nbits - 1) - 1)) ∧
      (link wraps true nbits bounds).deviceHigh.toInt =
        (if nbits = 1 ∨ nbits = 32 then bounds.2.toInt else 2 ^ (nbits - 1) - 1) := by
  unfold link initAi
  rw [initCommon_linkMask hpos hle]
  by_cases hnbits : nbits = 1 ∨ nbits = 32
  · have hzero : (~~~ (0 : BitVec 32) + 1 : BitVec 32) = 0 := by decide
    simp only [if_true, sdiv_maskOf_eq_zero hnbits, hzero, and_self, hnbits]
  · obtain ⟨hne, hlow, hhigh⟩ := sdiv_maskOf nbits (by omega) (by omega) wraps
    simp only [if_true, hne, and_false, if_false, hnbits]
    exact ⟨hlow, hhigh⟩

/-- What a bipolar link of `nbits` bits can show of the value is in the range that is used for the linear
conversion. -/
def InDeviceRange (bounds : BitVec 32 × BitVec 32) (nbits : Nat) (value : BitVec 32) : Prop :=
  if nbits = 1 ∨ nbits = 32 then
    bounds.1.toInt ≤ Int.bmod value.toNat (2 ^ nbits) ∧ Int.bmod value.toNat (2 ^ nbits) ≤ bounds.2.toInt
  else value.toNat % 2 ^ nbits ≠ 2 ^ (nbits - 1)

theorem two_pow_pred (hpos : 1 ≤ nbits) : 2 ^ nbits = 2 * 2 ^ (nbits - 1) := by
  obtain ⟨n, rfl⟩ := Nat.exists_eq_add_of_le' hpos
  rw [Nat.add_sub_cancel, Nat.pow_succ, Nat.mul_comm]

/-- The most negative value of `nbits` bits. -/
theorem bmod_eq_neg_iff (hpos : 1 ≤ nbits) :
    Int.bmod value.toNat (2 ^ nbits) = -2 ^ (nbits - 1) ↔ value.toNat % 2 ^ nbits = 2 ^ (nbits - 1) := by
  have hpow : (2 : Int) ^ nbits = 2 * 2 ^ (nbits - 1) := by exact_mod_cast two_pow_pred hpos
  have hmod : (value.toNat : Int) % 2 ^ nbits = ((value.toNat % 2 ^ nbits : Nat) : Int) := by push_cast; rfl
  have hlt := Nat.mod_lt value.toNat (Nat.two_pow_pos nbits)
  have hhalf : (0 : Int) < 2 ^ (nbits - 1) := Int.pow_pos (by decide)
  unfold Int.bmod
  push_cast
  rw [hmod, hpow]
  have hlt : ((value.toNat % 2 ^ nbits : Nat) : Int) < 2 * 2 ^ (nbits - 1) := by
    rw [← hpow]
    exact_mod_cast hlt
  have hcast : value.toNat % 2 ^ nbits = 2 ^ (nbits - 1) ↔
      ((value.toNat % 2 ^ nbits : Nat) : Int) = 2 ^ (nbits - 1) := by
    rw [← Int.natCast_inj]
    push_cast
    rfl
  rw [hcast]
  split <;> omega

/-- The two's complement range of `nbits` bits. -/
theorem bmod_inRange (value : BitVec 32) (hpos : 1 ≤ nbits) :
    -2 ^ (nbits - 1) ≤ Int.bmod value.toNat (2 ^ nbits) ∧
      Int.bmod value.toNat (2 ^ nbits) < 2 ^ (nbits - 1) := by
  have hpow : (2 : Int) ^ nbits = 2 * 2 ^ (nbits - 1) := by exact_mod_cast two_pow_pred hpos
  have hlow := Int.le_bmod (x := (value.toNat : Int)) (Nat.two_pow_pos nbits)
  have hhigh := Int.bmod_lt (x := (value.toNat : Int)) (Nat.two_pow_pos nbits)
  push_cast at hlow hhigh
  rw [hpow] at hlow hhigh
  omega

/-- The value is in the range of the link exactly if it is in the range of the conversion; outside of it
is only the lowest one, or, for one bit and for 32 bits, what the driver's `getBounds` leaves out. -/
theorem inBounds_iff (hpos : 1 ≤ nbits) (hle : nbits ≤ 32) :
    ((link wraps true nbits bounds).deviceLow.toInt ≤ Int.bmod value.toNat (2 ^ nbits) ∧
        Int.bmod value.toNat (2 ^ nbits) ≤ (link wraps true nbits bounds).deviceHigh.toInt) ↔
      InDeviceRange bounds nbits value := by
  rw [(range_link hpos hle).1, (range_link hpos hle).2]
  unfold InDeviceRange
  by_cases hnbits : nbits = 1 ∨ nbits = 32
  · rw [if_pos hnbits, if_pos hnbits, if_pos hnbits]
  · obtain ⟨hlow, hhigh⟩ := bmod_inRange value hpos
    rw [if_neg hnbits, if_neg hnbits, if_neg hnbits, Ne, ← bmod_eq_neg_iff hpos]
    omega

/-- A bipolar link of at most 32 bits keeps the value modulo `2 ^ nbits`. -/
theorem bmod_modEq (value : BitVec 32) (hle : nbits ≤ 32) :
    Int.bmod value.toNat (2 ^ nbits) ≡ value.toInt [ZMOD 2 ^ nbits] := by
  have hbmod : Int.bmod value.toNat (2 ^ nbits) ≡ value.toNat [ZMOD 2 ^ nbits] := by
    have hemod := Int.bmod_emod (x := (value.toNat : Int)) (m := 2 ^ nbits)
    push_cast at hemod
    exact hemod
  have hword : value.toInt ≡ value.toNat [ZMOD 2 ^ 32] := by
    rw [BitVec.toInt_eq_toNat_bmod]
    exact Int.bmod_emod
  have hdvd : (2 : Int) ^ nbits ∣ 2 ^ 32 := pow_dvd_pow 2 hle
  exact hbmod.trans (hword.of_dvd hdvd).symm

/-- A record without values in its ring, which reads at once. -/
def idle : DevPvt (BitVec 32) 10 := .new (0 : BitVec 32) 10 false

theorem contents_idle : idle.ring.contents = [] := rfl

end LinkBits
end DevEpics
end AsynDriver
