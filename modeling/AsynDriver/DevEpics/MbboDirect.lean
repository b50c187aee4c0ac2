import AsynDriver.DevEpics.ScalarOutput
import AsynDriver.Library.BitField

/-!
# The `mbboDirect` record of `devAsynUInt32Digital`

`initMbboDirect` and `processMbboDirect` both make `val` and the fields `B0` to `BF` from a value of the
driver, the one at initialisation and the other from an output callback.

* `MbboDirectRecord` — the fields of the record; `w` is the width of `val`, 16 or 32 as EPICS base has it.
* `initMbboDirect`, `processMbboDirect` — with the loops over the sixteen fields, which are bytes.
* `SameAsInit` — what the two make of one value is the same.
* `same_as_init_iff` — this is so if no bit of `val` above bit 7 is set: `processMbboDirect` stores the
  masked bit itself, and a byte has no place for it.

For a mask of 0 the shift is 32, which C leaves open for a word of 32 bits; the word is 0 then, and 0 is
taken for the result.
-/

namespace AsynDriver
namespace DevEpics
namespace MbboDirect

open Library.BitField
open Manager (AsynStatus)
open ReadBack (OutputSupport State Cause)

/-- The loop of `computeShift`. -/
def shiftLoop (mask : BitVec 32) : Nat → BitVec 32 → Nat → Nat
  | 0, _, i => i
  | n + 1, bit, i => if mask &&& bit ≠ 0 then i else shiftLoop mask n (bit <<< 1) (i + 1)

def computeShift (mask : BitVec 32) : Nat := shiftLoop mask 32 1 0

/-- `b` are the fields `b0` to `bf`. -/
structure MbboDirectRecord (w : Nat) where
  mask : BitVec 32
  shft : Nat
  rval : BitVec 32
  val : BitVec w
  b : List UInt8
  udf : Bool

variable {w : Nat}

/-- `for (i = 0; i < n; i++) { *pBn++ = !! (value & 1); value >>= 1; }` -/
def initLoop : Nat → BitVec 32 → List UInt8
  | 0, _ => []
  | n + 1, value => (if value &&& 1 ≠ 0 then 1 else 0) :: initLoop n (value >>> 1)

/-- `initMbboDirect` after `initCommon`: `pr` with `mask` and `shft`, and with what the driver has read. -/
def initMbboDirect (mask : BitVec 32) (status : AsynStatus) (value : BitVec 32)
    (pr : MbboDirectRecord w) : MbboDirectRecord w :=
  let pr := { pr with mask := mask, shft := computeShift mask }
  if status = .asynSuccess then
    let value := value &&& pr.mask
    let value := if pr.shft > 0 then value >>> pr.shft else value
    { pr with val := (value.setWidth 16).setWidth w, udf := false, b := initLoop 16 value }
  else pr

/-- `for (i = 0; i < n; i++, offset <<= 1, bit++) *bit = pr->val & offset;` -/
def processLoop (val : BitVec w) : Nat → BitVec 32 → List UInt8
  | 0, _ => []
  | n + 1, offset =>
      UInt8.ofBitVec ((val.setWidth 32 &&& offset).setWidth 8) :: processLoop val n (offset <<< 1)

/-- What `processMbboDirect` makes of the value of a callback. -/
def storeCallback (value : BitVec 32) (pr : MbboDirectRecord w) : MbboDirectRecord w :=
  let rval := value &&& pr.mask
  let shifted := if pr.shft > 0 then rval >>> pr.shft else rval
  let val := shifted.setWidth w
  { pr with rval := rval, val := val, b := processLoop val 16 1 }

/-- The record in the machine of the output records. -/
def processMbboDirect : OutputSupport (BitVec 32) (MbboDirectRecord w) where
  convert := id
  store value pr := (storeCallback value pr, true)
  output pr := pr.rval

/-! ## The two readings of one value -/

/-- `Bi` is not zero. -/
def MbboDirectRecord.isSet (pr : MbboDirectRecord w) (i : Nat) : Prop := ∃ x, pr.b[i]? = some x ∧ x ≠ 0

/-- The bits of the mask are among sixteen that follow each other. -/
def Spans16 (mask : BitVec 32) : Prop := ∃ k, ∀ i, mask.getLsbD i = true → k ≤ i ∧ i < k + 16

/-- The masked value, shifted to the right. -/
def shifted (mask value : BitVec 32) : BitVec 32 := (value &&& mask) >>> computeShift mask

/-- The record after an output callback, and the record after an initialisation, with one value. -/
structure SameAsInit (mask value : BitVec 32) (processed initialised : MbboDirectRecord w) : Prop where
  val : processed.val = initialised.val
  bits : ∀ i, i < 16 → (processed.isSet i ↔ initialised.isSet i)
  shifted : processed.val = (shifted mask value).setWidth w
  ofVal : ∀ i, i < 16 → (processed.isSet i ↔ processed.val.getLsbD i = true)

/-! ## The shift -/

theorem shiftLoop_spec (mask : BitVec 32) (n i : Nat) (hn : n + i = 32)
    (hbefore : ∀ j, j < i → mask.getLsbD j = false) :
    (∀ j, j < shiftLoop mask n (1#32 <<< i) i → mask.getLsbD j = false) ∧
      (mask = 0 ∨ mask.getLsbD (shiftLoop mask n (1#32 <<< i) i) = true) := by
  induction n generalizing i with
  | zero =>
      refine ⟨hbefore, .inl ?_⟩
      refine BitVec.eq_of_getLsbD_eq fun j hj => ?_
      rw [hbefore j (by omega)]
      simp
  | succ n ih =>
      have hi : i < 32 := by omega
      unfold shiftLoop
      split
      case isTrue hset => exact ⟨hbefore, .inr ((and_one_shiftLeft_ne_zero mask hi).mp hset)⟩
      case isFalse hclear =>
        have hnot : mask.getLsbD i = false := by
          rw [← Bool.not_eq_true]
          exact mt (and_one_shiftLeft_ne_zero mask hi).mpr hclear
        have hnext : (1#32 <<< i) <<< 1 = 1#32 <<< (i + 1) := (BitVec.shiftLeft_add _ _ _).symm
        have hpassed : ∀ j, j < i + 1 → mask.getLsbD j = false := by
          intro j hj
          rcases Nat.lt_succ_iff_lt_or_eq.mp hj with hlt | rfl
          · exact hbefore j hlt
          · exact hnot
        have hrest := ih (i + 1) (by omega) hpassed
        rw [← hnext] at hrest
        exact hrest

/-- The masked and shifted value has sixteen bits. -/
theorem getLsbD_shifted {mask : BitVec 32} (hspan : Spans16 mask) (value : BitVec 32) {i : Nat}
    (hi : 16 ≤ i) : ((value &&& mask) >>> computeShift mask).getLsbD i = false := by
  obtain ⟨k, hk⟩ := hspan
  obtain ⟨-, hzero | hset⟩ := shiftLoop_spec mask 32 0 rfl (fun j hj => absurd hj (Nat.not_lt_zero j))
  · rw [hzero]
    simp
  · have hset : mask.getLsbD (computeShift mask) = true := hset
    have hlow := (hk _ hset).1
    rw [BitVec.getLsbD_ushiftRight, BitVec.getLsbD_and]
    cases hbit : mask.getLsbD (computeShift mask + i) with
    | false => exact Bool.and_false _
    | true =>
        have hhigh := (hk _ hbit).2
        omega

/-! ## The loops -/

theorem getElem?_initLoop (n : Nat) (value : BitVec 32) {i : Nat} (hi : i < n) (hn : n ≤ 32) :
    (initLoop n value)[i]? = some (if value.getLsbD i then 1 else 0) := by
  induction n generalizing value i with
  | zero => exact absurd hi (Nat.not_lt_zero i)
  | succ n ih =>
      cases i with
      | zero =>
          have hone := and_one_shiftLeft_ne_zero value (Nat.succ_pos 31)
          simp only [initLoop, List.getElem?_cons_zero, Option.some.injEq]
          exact if_congr hone rfl rfl
      | succ i =>
          rw [initLoop, List.getElem?_cons_succ, ih (value >>> 1) (by omega) (by omega),
            BitVec.getLsbD_ushiftRight, Nat.add_comm]

theorem getElem?_processLoop (val : BitVec w) (n k : Nat) {i : Nat} (hi : i < n) :
    (processLoop val n (1#32 <<< k))[i]? =
      some (UInt8.ofBitVec ((val.setWidth 32 &&& 1#32 <<< (k + i)).setWidth 8)) := by
  induction n generalizing k i with
  | zero => exact absurd hi (Nat.not_lt_zero i)
  | succ n ih =>
      cases i with
      | zero => rfl
      | succ i =>
          have hnext : (1#32 <<< k) <<< 1 = 1#32 <<< (k + 1) := (BitVec.shiftLeft_add _ _ _).symm
          rw [processLoop, List.getElem?_cons_succ]
          show (processLoop val n ((1#32 <<< k) <<< 1))[i]? = _
          rw [hnext, ih (k + 1) (by omega), Nat.add_assoc, Nat.add_comm 1 i]

/-- Only the low eight bits get into a byte. -/
theorem masked_byte_ne_zero (x : BitVec 32) {i : Nat} (hi : i < 16) :
    UInt8.ofBitVec ((x &&& 1#32 <<< i).setWidth 8) ≠ 0 ↔ i < 8 ∧ x.getLsbD i = true := by
  have hbyte : ∀ i, i < 16 → (UInt8.ofBitVec ((1#32 <<< i).setWidth 8) ≠ 0 ↔ i < 8) := by decide
  rw [and_one_shiftLeft]
  cases x.getLsbD i with
  | false => simp
  | true => simpa using hbyte i hi

/-! ## What each of the two makes of a value -/

/-- Bit `i` of the field `Bi`, from a loop that has stored `x i` there. -/
theorem isSet_iff {pr : MbboDirectRecord w} {i : Nat} {x : UInt8} (hget : pr.b[i]? = some x) :
    pr.isSet i ↔ x ≠ 0 := by
  constructor
  · rintro ⟨y, hy, hne⟩
    cases hget.symm.trans hy
    exact hne
  · exact fun hne => ⟨x, hget, hne⟩

theorem shift_if_pos (x : BitVec 32) (n : Nat) : (if n > 0 then x >>> n else x) = x >>> n := by
  split
  case isTrue => rfl
  case isFalse hzero =>
    obtain rfl : n = 0 := by omega
    exact (BitVec.ushiftRight_zero x).symm

variable {mask value : BitVec 32}

/-- After an initialisation `Bi` is not zero exactly if bit `i` is set. -/
theorem isSet_initMbboDirect (pr : MbboDirectRecord w) {i : Nat} (hi : i < 16) :
    (initMbboDirect mask .asynSuccess value pr).isSet i ↔ (shifted mask value).getLsbD i = true := by
  have hget : (initMbboDirect mask .asynSuccess value pr).b[i]? =
      some (if (shifted mask value).getLsbD i then 1 else 0) := by
    unfold initMbboDirect
    simp only [if_true, shift_if_pos]
    exact getElem?_initLoop 16 _ hi (by omega)
  rw [isSet_iff hget]
  cases (shifted mask value).getLsbD i <;> simp

/-- After an output callback `Bi` is not zero exactly if `i` is below 8 and bit `i` is set. -/
theorem isSet_storeCallback (hw : 16 ≤ w) {pr : MbboDirectRecord w} (hmask : pr.mask = mask)
    (hshft : pr.shft = computeShift mask) {i : Nat} (hi : i < 16) :
    (storeCallback value pr).isSet i ↔ i < 8 ∧ (shifted mask value).getLsbD i = true := by
  have hget : (storeCallback value pr).b[i]? =
      some (UInt8.ofBitVec ((((shifted mask value).setWidth w).setWidth 32 &&& 1#32 <<< i).setWidth 8)) := by
    unfold storeCallback
    simp only [hmask, hshft, shift_if_pos]
    have hloop := getElem?_processLoop ((shifted mask value).setWidth w) 16 0 hi
    rw [Nat.zero_add] at hloop
    exact hloop
  have hbit : (((shifted mask value).setWidth w).setWidth 32).getLsbD i =
      (shifted mask value).getLsbD i := by
    have h₁ : i < 32 := by omega
    have h₂ : i < w := by omega
    simp [h₁, h₂]
  rw [isSet_iff hget, masked_byte_ne_zero _ hi, hbit]

theorem val_initMbboDirect (hspan : Spans16 mask) (pr : MbboDirectRecord w) :
    (initMbboDirect mask .asynSuccess value pr).val = (shifted mask value).setWidth w := by
  unfold initMbboDirect
  simp only [if_true, shift_if_pos]
  show ((shifted mask value).setWidth 16).setWidth w = _
  refine BitVec.eq_of_getLsbD_eq fun i hi => ?_
  rw [BitVec.getLsbD_setWidth, BitVec.getLsbD_setWidth, BitVec.getLsbD_setWidth]
  by_cases hlow : i < 16
  · simp [hlow]
  · have hzero := getLsbD_shifted hspan value (Nat.not_lt.mp hlow)
    have hzero : (shifted mask value).getLsbD i = false := hzero
    simp [hzero]

theorem val_storeCallback {pr : MbboDirectRecord w} (hmask : pr.mask = mask)
    (hshft : pr.shft = computeShift mask) :
    (storeCallback value pr).val = (shifted mask value).setWidth w := by
  unfold storeCallback
  simp only [hmask, hshft, shift_if_pos]
  rfl

/-! ## The record after a callback -/

/-- A processing that takes a value of the ring stores it in the record. -/
theorem process_of_callback {ringSize : Nat} {s : State (BitVec 32) (MbboDirectRecord w) ringSize}
    (cause : Cause) (hnew : s.pPvt.newOutputCallbackValue = true) (hgot : (s.getCallbackValue cause).1 = true)
    (hstatus : (s.getCallbackValue cause).2.pPvt.result.status = .asynSuccess) :
    (s.process processMbboDirect cause).record.value =
      storeCallback (s.getCallbackValue cause).2.pPvt.result.value
        (s.getCallbackValue cause).2.record.value := by
  unfold State.process
  simp only [hnew, if_true, hgot, hstatus]
  rfl

theorem record_getCallbackValue {ringSize : Nat}
    (s : State (BitVec 32) (MbboDirectRecord w) ringSize) (cause : Cause) :
    (s.getCallbackValue cause).2.record = s.record := by
  unfold State.getCallbackValue
  simp only
  split <;> rfl

/-- The value has no bit of the mask more than seven places above the lowest one. -/
def LowByte (mask value : BitVec 32) : Prop :=
  ∀ i, mask.getLsbD i = true → value.getLsbD i = true → i < computeShift mask + 8

theorem getLsbD_shifted_eq_true {i : Nat} :
    (shifted mask value).getLsbD i = true ↔
      value.getLsbD (computeShift mask + i) = true ∧ mask.getLsbD (computeShift mask + i) = true := by
  unfold shifted
  rw [BitVec.getLsbD_ushiftRight, BitVec.getLsbD_and, Bool.and_eq_true]

/-- Bits 8 to 15 of the masked and shifted value are clear. -/
theorem lowByte_iff (hspan : Spans16 mask) :
    LowByte mask value ↔ ∀ i, i < 16 → (shifted mask value).getLsbD i = true → i < 8 := by
  constructor
  · intro hlow i _ hset
    obtain ⟨hvalue, hmask⟩ := getLsbD_shifted_eq_true.mp hset
    have hlt := hlow _ hmask hvalue
    omega
  · intro hbits i hmask hvalue
    by_contra hge
    obtain ⟨j, rfl⟩ := Nat.exists_eq_add_of_le (Nat.not_lt.mp hge)
    have hset : (shifted mask value).getLsbD (8 + j) = true := by
      rw [getLsbD_shifted_eq_true, ← Nat.add_assoc]
      exact ⟨hvalue, hmask⟩
    have hsmall : 8 + j < 16 := by
      by_contra hlarge
      have hzero : (shifted mask value).getLsbD (8 + j) = false :=
        getLsbD_shifted hspan value (by omega)
      exact nomatch hset.symm.trans hzero
    have hlt := hbits _ hsmall hset
    omega

/-- An output callback gives the record what an initialisation with its value would, exactly if the value
has no bit of the mask more than seven places above the lowest one. -/
theorem same_as_init_iff (hw : 16 ≤ w) (mask value : BitVec 32) (hspan : Spans16 mask) {ringSize : Nat}
    (s : State (BitVec 32) (MbboDirectRecord w) ringSize) (cause : Cause)
    (hnew : s.pPvt.newOutputCallbackValue = true) (hgot : (s.getCallbackValue cause).1 = true)
    (hstatus : (s.getCallbackValue cause).2.pPvt.result.status = .asynSuccess)
    (hvalue : (s.getCallbackValue cause).2.pPvt.result.value = value)
    (hmask : s.record.value.mask = mask) (hshft : s.record.value.shft = computeShift mask)
    (initial : MbboDirectRecord w) :
    SameAsInit mask value (s.process processMbboDirect cause).record.value
        (initMbboDirect mask .asynSuccess value initial) ↔ LowByte mask value := by
  rw [process_of_callback cause hnew hgot hstatus, hvalue, record_getCallbackValue, lowByte_iff hspan]
  have hprocessed : ∀ i, i < 16 → ((storeCallback value s.record.value).isSet i ↔
      i < 8 ∧ (shifted mask value).getLsbD i = true) := fun i hi =>
    isSet_storeCallback hw hmask hshft hi
  have hinitialised : ∀ i, i < 16 → ((initMbboDirect mask .asynSuccess value initial).isSet i ↔
      (shifted mask value).getLsbD i = true) := fun i hi => isSet_initMbboDirect initial hi
  have hval : (storeCallback value s.record.value).val = (shifted mask value).setWidth w :=
    val_storeCallback hmask hshft
  constructor
  · intro hsame i hi hset
    exact ((hprocessed i hi).mp ((hsame.bits i hi).mpr ((hinitialised i hi).mpr hset))).1
  · intro hlow
    have hbit : ∀ i, i < 16 → ((storeCallback value s.record.value).isSet i ↔
        (shifted mask value).getLsbD i = true) := by
      intro i hi
      rw [hprocessed i hi]
      exact and_iff_right_of_imp (hlow i hi)
    refine ⟨hval.trans (val_initMbboDirect hspan initial).symm, ?_, hval, ?_⟩
    · intro i hi
      rw [hbit i hi, hinitialised i hi]
    · intro i hi
      have hwidth : i < w := by omega
      rw [hbit i hi, hval, BitVec.getLsbD_setWidth, decide_eq_true hwidth, Bool.true_and]

/-! ## A record with sixteen bits -/

/-- An idle record that was initialised with the mask `0xFFFF` and the value 0, between the callback of
the driver and the processing of the record. -/
def afterCallback (value : BitVec 32) : State (BitVec 32) (MbboDirectRecord 16) 10 :=
  let pr : MbboDirectRecord 16 := initMbboDirect 0xFFFF .asynSuccess 0 ⟨0, 0, 0, 0, [], true⟩
  let s := ReadBack.interruptCallbackOutput processMbboDirect (.start (.new 0 10 false) ⟨pr, false, (0, 0)⟩)
    value ⟨0, .asynSuccess, 0, 0⟩ true
  { s with pPvt := { s.pPvt with newOutputCallbackValue := true } }

/-- The value `0x5A` is read back as it is initialised. -/
theorem same_as_init_example :
    SameAsInit 0xFFFF 0x5A ((afterCallback 0x5A).process processMbboDirect .outputCallback).record.value
      (initMbboDirect 0xFFFF .asynSuccess 0x5A ⟨0, 0, 0, 0, [], true⟩) := by
  have hspan : Spans16 0xFFFF := by
    have hbits : ∀ i, i < 32 → (0xFFFF#32).getLsbD i = true → 0 ≤ i ∧ i < 0 + 16 := by decide
    refine ⟨0, fun i hi => hbits i ?_ hi⟩
    exact BitVec.lt_of_getLsbD hi
  have hlow : LowByte 0xFFFF 0x5A := by
    have hbits : ∀ i, i < 32 → (0xFFFF#32).getLsbD i = true → (0x5A#32).getLsbD i = true →
        i < computeShift 0xFFFF + 8 := by decide
    intro i hmask hvalue
    exact hbits i (BitVec.lt_of_getLsbD hmask) hmask hvalue
  exact (same_as_init_iff (by decide) 0xFFFF 0x5A hspan (afterCallback 0x5A) .outputCallback rfl rfl rfl
    rfl rfl rfl _).mpr hlow

/-- The value `0x100` sets `B8` at initialisation, and clears it when it is called back. -/
theorem upper_bits_lost :
    ¬ SameAsInit 0xFFFF 0x100
      ((afterCallback 0x100).process processMbboDirect .outputCallback).record.value
      (initMbboDirect 0xFFFF .asynSuccess 0x100 ⟨0, 0, 0, 0, [], true⟩) := by
  intro hsame
  have hinitialised : (initMbboDirect (w := 16) 0xFFFF .asynSuccess 0x100 ⟨0, 0, 0, 0, [], true⟩).isSet 8 :=
    ⟨1, rfl, by decide⟩
  obtain ⟨x, hx, hne⟩ := (hsame.bits 8 (by decide)).mpr hinitialised
  cases hx
  exact hne rfl

end MbboDirect
end DevEpics
end AsynDriver
