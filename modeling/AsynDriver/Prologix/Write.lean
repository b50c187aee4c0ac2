import Mathlib.Data.List.Basic
import Mathlib.Tactic.Common
import AsynDriver.Library.Machine
import AsynDriver.Prologix.Driver

/-!
# `prologixWrite` of `drvPrologixGPIB.c`

A write escapes its data into `buf`, and asks `resizeBuffer` for more where the data or the command
comes near to the capacity.

* `stashAll_fits`, `stashAll_full` — the command is built where all of it but the last character leaves
  three bytes of the capacity, and is refused otherwise, since `stashChar` asks for no more than there is.
* `resize_grows` — where `resizeBuffer` does get memory, it counts the size that was asked for twice.
* `WriteSound` — the capacity is no more than what is allocated, no store is behind it, and where
  `realloc` does not fail the device gets the escaped data.
* `prologixWrite_sound_iff` — along the runs without the two cases the capacity stays what it was, and a
  write is sound if and only if it has neither.
-/

namespace AsynDriver
namespace Prologix

open Library Library.Escape
open Manager (AsynStatus)

/-! ## The memory -/

section
variable {p p' : DPvt} {cs ds : List UInt8} {cells : List Cell} {realloc : Realloc}

/-- The variables that no store changes. -/
structure SameSize (p p' : DPvt) : Prop where
  allocated : p'.allocated = p.allocated
  bufCapacity : p'.bufCapacity = p.bufCapacity
  eos : p'.eos = p.eos

theorem SameSize.refl (p : DPvt) : SameSize p p := ⟨rfl, rfl, rfl⟩

theorem SameSize.trans {p'' : DPvt} (h : SameSize p p') (h' : SameSize p' p'') : SameSize p p'' :=
  ⟨h'.allocated.trans h.allocated, h'.bufCapacity.trans h.bufCapacity, h'.eos.trans h.eos⟩

open DPvt

theorem sameSize_pushAll (cells : List Cell) (p : DPvt) : SameSize p (pushAll cells p) := by
  induction cells generalizing p with
  | nil => exact SameSize.refl p
  | cons c rest ih =>
      have hpush : SameSize p (p.push c) := ⟨rfl, rfl, rfl⟩
      exact hpush.trans (ih (p.push c))

@[simp] theorem pushAll_bufCount (cells : List Cell) (p : DPvt) :
    (pushAll cells p).bufCount = p.bufCount + cells.length := by
  induction cells generalizing p with
  | nil => rfl
  | cons c rest ih =>
      rw [pushAll, ih, List.length_cons]
      simp only [DPvt.push]
      omega

theorem pushAll_append (cells others : List Cell) (p : DPvt) :
    pushAll (cells ++ others) p = pushAll others (pushAll cells p) := by
  induction cells generalizing p with
  | nil => rfl
  | cons c rest ih => exact ih (p.push c)

/-- Nothing below the count is touched, and the cells follow it. -/
theorem pushAll_buf (cells : List Cell) (p : DPvt) (i : Nat) :
    (pushAll cells p).buf i =
      if i < p.bufCount then p.buf i else (cells[i - p.bufCount]?).getD (p.buf i) := by
  induction cells generalizing p with
  | nil =>
      rw [pushAll, List.getElem?_nil, Option.getD_none]
      split <;> rfl
  | cons c rest ih =>
      have hcount : (p.push c).bufCount = p.bufCount + 1 := rfl
      have hbuf : (p.push c).buf i = if i = p.bufCount then c else p.buf i := rfl
      rw [pushAll, ih, hbuf]
      rcases Nat.lt_trichotomy i p.bufCount with hlt | heq | hgt
      · rw [if_pos (by omega), if_neg (by omega), if_pos hlt]
      · subst heq
        rw [if_pos (by omega), if_pos rfl, if_neg (Nat.lt_irrefl _), Nat.sub_self,
          List.getElem?_cons_zero, Option.getD_some]
      · obtain ⟨k, hk⟩ : ∃ k, i = p.bufCount + 1 + k := ⟨i - (p.bufCount + 1), by omega⟩
        have hsub : i - (p.push c).bufCount = k := by omega
        have hsub' : i - p.bufCount = k + 1 := by omega
        rw [if_neg (by omega), if_neg (by omega), if_neg (by omega), hsub, hsub',
          List.getElem?_cons_succ]

theorem pushAll_fault (hle : p.bufCount + cells.length ≤ p.allocated) :
    (pushAll cells p).fault = p.fault := by
  induction cells generalizing p with
  | nil => rfl
  | cons c rest ih =>
      rw [List.length_cons] at hle
      have hlt : ¬ p.allocated ≤ p.bufCount := by omega
      rw [pushAll, ih (by simp only [DPvt.push, DPvt.store]; omega)]
      simp only [DPvt.push, DPvt.store, hlt, decide_false, Bool.or_false]

/-- What was pushed is what the buffer holds. -/
theorem bytes_pushAll (cs : List UInt8) (hempty : p.bufCount = 0) :
    (pushAll (cs.map fun c => ⟨c, none⟩) p).bytes cs.length = cs := by
  apply List.ext_getElem
  · simp only [DPvt.bytes, List.length_map, List.length_range]
  · intro i hi hi'
    simp only [DPvt.bytes, List.getElem_map, List.getElem_range, pushAll_buf, hempty,
      Nat.not_lt_zero, if_false, Nat.sub_zero, List.getElem?_map, List.getElem?_eq_getElem hi',
      Option.map_some, Option.getD_some]

/-! ## The characters of a command -/

/-- The cells of an escaped text. -/
def escaped (cs : List UInt8) : List Cell :=
  (escape isEscaped esc cs).map fun c => ⟨c, none⟩

theorem escaped_cons (c : UInt8) (cs : List UInt8) : escaped (c :: cs) = escaped [c] ++ escaped cs := by
  have happend := escape_append isEscaped esc [c] cs
  rw [List.singleton_append] at happend
  rw [escaped, happend, List.map_append]
  rfl

theorem length_escaped_singleton (c : UInt8) : (escaped [c]).length ≤ 2 := by
  have hle := length_escape_le isEscaped esc [c]
  rw [escaped, List.length_map]
  exact hle

/-- The length before the last character, which is where it is stashed. -/
theorem length_dropLast_cons (c d : UInt8) (rest : List UInt8) :
    (escape isEscaped esc (c :: d :: rest).dropLast).length =
      (escaped [c]).length + (escape isEscaped esc (d :: rest).dropLast).length := by
  rw [List.dropLast_cons_cons, ← List.singleton_append, escape_append, List.length_append, escaped,
    List.length_map]

/-- `stashChar` asks for the capacity that there is already. -/
theorem stashChar_full (hfull : p.bufCapacity - 3 ≤ p.bufCount) (c : UInt8) (realloc : Realloc) :
    stashChar p c realloc = (p, .asynError) := by
  have hresize : resizeBuffer p p.bufCapacity realloc = (p, .asynError) := by
    rw [resizeBuffer, if_pos (Or.inl (Nat.le_refl _))]
  simp only [stashChar, hfull, if_true, hresize, ne_eq, reduceCtorEq, not_false_eq_true]

theorem stashChar_fits (hfits : p.bufCount < p.bufCapacity - 3) (c : UInt8) (realloc : Realloc) :
    stashChar p c realloc = (pushAll (escaped [c]) p, .asynSuccess) := by
  have hroom : ¬ p.bufCapacity - 3 ≤ p.bufCount := by omega
  simp only [stashChar, hroom, if_false, ne_eq, not_true_eq_false, escaped, escape_cons, escape_nil,
    List.append_nil]
  split <;> rfl

/-- The command fits, with three bytes to spare before its last character. -/
theorem stashAll_fits (hfits : cs = [] ∨
    p.bufCount + (escape isEscaped esc cs.dropLast).length < p.bufCapacity - 3) :
    stashAll realloc cs p = (pushAll (escaped cs) p, .asynSuccess) := by
  induction cs generalizing p with
  | nil => rfl
  | cons c rest ih =>
      have hfits := hfits.resolve_left (List.cons_ne_nil c rest)
      rw [stashAll, stashChar_fits (by omega)]
      simp only [ne_eq, not_true_eq_false, if_false]
      rw [escaped_cons c rest, pushAll_append]
      apply ih
      cases rest with
      | nil => exact Or.inl rfl
      | cons d rest =>
          right
          have hsize := sameSize_pushAll (escaped [c]) p
          have hlength := length_dropLast_cons c d rest
          rw [pushAll_bufCount, hsize.bufCapacity]
          omega

theorem stashAll_full (hne : cs ≠ [])
    (hfull : p.bufCapacity - 3 ≤ p.bufCount + (escape isEscaped esc cs.dropLast).length) :
    (stashAll realloc cs p).2 = .asynError := by
  induction cs generalizing p with
  | nil => exact absurd rfl hne
  | cons c rest ih =>
      rw [stashAll]
      by_cases hroom : p.bufCount < p.bufCapacity - 3
      · rw [stashChar_fits hroom]
        simp only [ne_eq, not_true_eq_false, if_false]
        cases rest with
        | nil =>
            rw [List.dropLast_singleton, escape_nil, List.length_nil] at hfull
            omega
        | cons d rest =>
            have hsize := sameSize_pushAll (escaped [c]) p
            have hlength := length_dropLast_cons c d rest
            apply ih (List.cons_ne_nil d rest)
            rw [pushAll_bufCount, hsize.bufCapacity]
            omega
      · rw [stashChar_full (by omega)]
        simp only [ne_eq, reduceCtorEq, not_false_eq_true, if_true]

/-- Whatever comes of it, what has been stashed leaves a byte of the capacity. -/
theorem exists_stashed (hroom : p.bufCount < p.bufCapacity) (cs : List UInt8) (realloc : Realloc) :
    ∃ cells, (stashAll realloc cs p).1 = pushAll cells p ∧
      p.bufCount + cells.length < p.bufCapacity := by
  induction cs generalizing p with
  | nil => exact ⟨[], rfl, hroom⟩
  | cons c rest ih =>
      rw [stashAll]
      by_cases hfits : p.bufCount < p.bufCapacity - 3
      · rw [stashChar_fits hfits]
        simp only [ne_eq, not_true_eq_false, if_false]
        have hsize := sameSize_pushAll (escaped [c]) p
        have htwo := length_escaped_singleton c
        have hnext : (pushAll (escaped [c]) p).bufCount < (pushAll (escaped [c]) p).bufCapacity := by
          rw [pushAll_bufCount, hsize.bufCapacity]
          omega
        obtain ⟨cells, hstashed, hlt⟩ := ih hnext
        refine ⟨escaped [c] ++ cells, ?_, ?_⟩
        · rw [hstashed, pushAll_append]
        · rw [pushAll_bufCount, hsize.bufCapacity] at hlt
          rw [List.length_append]
          omega
      · rw [stashChar_full (by omega)]
        simp only [ne_eq, reduceCtorEq, not_false_eq_true, if_true]
        exact ⟨[], rfl, hroom⟩

/-! ## States in which nothing has gone wrong -/

/-- The capacity is what is allocated, and no store has been behind it. -/
structure Safe (p : DPvt) : Prop where
  allocated : p.allocated = p.bufCapacity
  capacity : 4096 ≤ p.bufCapacity
  fault : p.fault = false

theorem safe_configured (eos : Option UInt8) : Safe (.configured eos) :=
  ⟨rfl, Nat.le_refl _, rfl⟩

theorem Safe.pushAll (hp : Safe p) (hle : p.bufCount + cells.length ≤ p.bufCapacity) :
    Safe (pushAll cells p) := by
  have hsize := sameSize_pushAll cells p
  refine ⟨?_, ?_, ?_⟩
  · rw [hsize.allocated, hsize.bufCapacity, hp.allocated]
  · rw [hsize.bufCapacity]
    exact hp.capacity
  · rw [pushAll_fault (hp.allocated ▸ hle), hp.fault]

theorem Safe.withCount (hp : Safe p) (n : Nat) : Safe { p with bufCount := n } :=
  ⟨hp.allocated, hp.capacity, hp.fault⟩

theorem Safe.print (hp : Safe p) (text : List UInt8) : Safe (p.print text) := by
  have hcapacity := hp.capacity
  refine ((hp.withCount 0).pushAll ?_).withCount p.bufCount
  simp only [List.length_map, List.length_append, List.length_take, List.length_singleton]
  omega

theorem sameSize_print (p : DPvt) (text : List UInt8) : SameSize p (p.print text) := by
  have h := sameSize_pushAll ((text.take (p.bufCapacity - 1) ++ [0]).map fun b => (⟨b, none⟩ : Cell))
    { p with bufCount := 0 }
  exact ⟨h.allocated, h.bufCapacity, h.eos⟩

/-! ## The parts of a write -/

theorem sameSize_setAddress (p : DPvt) (address : Int) (answer : Manager.AsynStatus) :
    SameSize p (setAddress p address answer).pvt := by
  have hprint := sameSize_print p
    (addrCommand (splitAddress address).1 (splitAddress address).2)
  simp only [setAddress]
  split
  · exact SameSize.refl p
  split
  · exact SameSize.refl p
  split
  · exact ⟨hprint.allocated, hprint.bufCapacity, hprint.eos⟩
  · exact ⟨hprint.allocated, hprint.bufCapacity, hprint.eos⟩

theorem Safe.setAddress (hp : Safe p) (address : Int) (answer : Manager.AsynStatus) :
    Safe (setAddress p address answer).pvt := by
  have hprint := hp.print (addrCommand (splitAddress address).1 (splitAddress address).2)
  simp only [Prologix.setAddress]
  split
  · exact hp
  split
  · exact hp
  split
  · exact ⟨hprint.allocated, hprint.capacity, hprint.fault⟩
  · exact ⟨hprint.allocated, hprint.capacity, hprint.fault⟩

theorem setAddress_succeeds (p : DPvt) {address : Int} (hlegal : LegalAddress address) :
    (setAddress p address .asynSuccess).status = .asynSuccess := by
  simp only [setAddress, hlegal, not_true_eq_false, if_false, ne_eq]
  split <;> rfl

variable {w : Write}

/-- Nothing is allocated: the data is not longer than the capacity, or there is no memory. -/
def Write.KeepsBuffer (p : DPvt) (w : Write) : Prop :=
  w.realloc = .fails ∨ w.data.length ≤ p.bufCapacity

theorem resize_of_lt (hlt : w.data.length < p.bufCapacity) : w.resize p = (p, .asynSuccess) := by
  rw [Write.resize, if_neg (by omega)]

theorem resize_refused (hkeeps : w.KeepsBuffer p) (hle : p.bufCapacity ≤ w.data.length) :
    w.resize p = (p, .asynError) := by
  rw [Write.resize, if_pos hle, resizeBuffer]
  rcases hkeeps with hfails | hshort
  · rw [if_pos (Or.inr (Or.inr hfails))]
  · rw [if_pos (Or.inl hshort)]

theorem Write.KeepsBuffer.resize_fst (hkeeps : w.KeepsBuffer p) : (w.resize p).1 = p := by
  by_cases hlt : w.data.length < p.bufCapacity
  · rw [resize_of_lt hlt]
  · rw [resize_refused hkeeps (by omega)]

/-- The size that was asked for is in the capacity twice, and in the memory once. -/
theorem resize_grows (hgrows : w.realloc ≠ .fails) (hlt : p.bufCapacity < w.data.length) :
    w.resize p =
      ({ p with
        allocated := w.data.length + 4096
        bufCapacity := w.data.length + (w.data.length + 4096) }, .asynSuccess) := by
  have hnot : ¬ (w.data.length ≤ p.bufCapacity ∨ w.data.length + 4096 ≤ p.bufCapacity ∨
      w.realloc = .fails) := by
    rintro (hle | hle | hfails)
    · omega
    · omega
    · exact hgrows hfails
  rw [Write.resize, if_pos (Nat.le_of_lt hlt), resizeBuffer, if_neg hnot]

theorem sameSize_stashAll (realloc : Realloc) (cs : List UInt8) (hroom : p.bufCount < p.bufCapacity) :
    SameSize p (stashAll realloc cs p).1 := by
  obtain ⟨cells, hstashed, -⟩ := exists_stashed hroom cs realloc
  rw [hstashed]
  exact sameSize_pushAll cells p

theorem sameSize_send {addressed : Outcome} (hcapacity : 0 < addressed.pvt.bufCapacity) :
    SameSize addressed.pvt (w.send addressed).pvt := by
  have hstash : SameSize addressed.pvt
      (stashAll w.realloc (w.text addressed.pvt) { addressed.pvt with bufCount := 0 }).1 := by
    have h := sameSize_stashAll w.realloc (w.text addressed.pvt)
      (show DPvt.bufCount { addressed.pvt with bufCount := 0 } < _ from hcapacity)
    exact ⟨h.allocated, h.bufCapacity, h.eos⟩
  unfold Write.send
  dsimp only
  split <;> exact ⟨hstash.allocated, hstash.bufCapacity, hstash.eos⟩

theorem Safe.send {addressed : Outcome} (hp : Safe addressed.pvt) : Safe (w.send addressed).pvt := by
  have hcapacity := hp.capacity
  have hempty : Safe { addressed.pvt with bufCount := 0 } := hp.withCount 0
  have hroom : DPvt.bufCount { addressed.pvt with bufCount := 0 } <
      DPvt.bufCapacity { addressed.pvt with bufCount := 0 } := by
    dsimp only
    omega
  obtain ⟨cells, hstashed, hlt⟩ := exists_stashed hroom (w.text addressed.pvt) w.realloc
  have hsafe := hempty.pushAll (Nat.le_of_lt hlt)
  have hsize := sameSize_pushAll cells { addressed.pvt with bufCount := 0 }
  have hcommand : Safe ((DPvt.pushAll cells { addressed.pvt with bufCount := 0 }).push ⟨lf, none⟩) := by
    have hone : (DPvt.pushAll cells { addressed.pvt with bufCount := 0 }).bufCount +
        [(⟨lf, none⟩ : Cell)].length ≤
          (DPvt.pushAll cells { addressed.pvt with bufCount := 0 }).bufCapacity := by
      rw [pushAll_bufCount, hsize.bufCapacity]
      exact hlt
    exact hsafe.pushAll hone
  unfold Write.send
  dsimp only
  rw [hstashed]
  split
  · exact hsafe.withCount 0
  · exact hcommand.withCount 0

/-! ## A write -/

theorem sameSize_write (hcapacity : 0 < (w.resize p).1.bufCapacity) :
    SameSize (w.resize p).1 (prologixWrite p w).pvt := by
  unfold prologixWrite
  dsimp only
  split
  · exact SameSize.refl _
  have haddress := sameSize_setAddress (w.resize p).1 w.address w.addressAnswer
  split
  · exact haddress
  · refine haddress.trans (sameSize_send ?_)
    rw [haddress.bufCapacity]
    exact hcapacity

theorem Safe.write (hp : Safe p) (hkeeps : w.KeepsBuffer p) : Safe (prologixWrite p w).pvt := by
  unfold prologixWrite
  dsimp only
  rw [hkeeps.resize_fst]
  split
  · exact hp
  have haddress := hp.setAddress w.address w.addressAnswer
  split
  · exact haddress
  · exact haddress.send

/-- The adapter takes both commands, for a device that there can be. -/
structure Write.Reaches (w : Write) : Prop where
  legal : LegalAddress w.address
  addressAnswer : w.addressAnswer = .asynSuccess
  answer : w.answer = .asynSuccess

/-- The data is shorter than the capacity, and the command leaves three bytes of it before its last
character. -/
structure Write.HasRoom (p : DPvt) (w : Write) : Prop where
  data : w.data.length < p.bufCapacity
  command : (escape isEscaped esc (w.text p).dropLast).length < p.bufCapacity - 3

/-- A write that reaches its device comes to `send`. -/
theorem write_eq_send (hlt : w.data.length < p.bufCapacity) (hreaches : w.Reaches) :
    prologixWrite p w = w.send (setAddress p w.address .asynSuccess) := by
  have hstatus := setAddress_succeeds p hreaches.legal
  unfold prologixWrite
  dsimp only
  rw [resize_of_lt hlt, hreaches.addressAnswer]
  simp only [ne_eq, not_true_eq_false, if_false, hstatus]

structure WriteSound (p : DPvt) (w : Write) : Prop where
  capacity : (prologixWrite p w).pvt.bufCapacity ≤ (prologixWrite p w).pvt.allocated
  inside : (prologixWrite p w).pvt.fault = false
  succeeds : w.realloc ≠ .fails → w.Reaches →
    (prologixWrite p w).status = .asynSuccess ∧
      (prologixWrite p w).nbytesTransferred = some w.data.length ∧
      ∃ command, (prologixWrite p w).sent.getLast? = some command ∧
        command = escape isEscaped esc (w.text p) ++ [lf] ∧
        unescape esc lf command = some (w.text p, [])

theorem not_sound_of_grows (hgrows : w.realloc ≠ .fails) (hlt : p.bufCapacity < w.data.length) :
    ¬ WriteSound p w := by
  intro hsound
  have hcapacity := hsound.capacity
  have hresize := resize_grows hgrows hlt
  have hpos : 0 < (w.resize p).1.bufCapacity := by
    rw [hresize]
    exact Nat.add_pos_left (by omega) _
  have hsize := sameSize_write hpos
  rw [hsize.bufCapacity, hsize.allocated, hresize] at hcapacity
  dsimp only at hcapacity
  omega

theorem not_sound_of_full (hp : Safe p) (hgrows : w.realloc ≠ .fails) (hreaches : w.Reaches)
    (hle : w.data.length ≤ p.bufCapacity) (hfull : ¬ w.HasRoom p) : ¬ WriteSound p w := by
  intro hsound
  obtain ⟨hstatus, -⟩ := hsound.succeeds hgrows hreaches
  by_cases hlt : w.data.length < p.bufCapacity
  · rw [write_eq_send hlt hreaches] at hstatus
    have hsize := sameSize_setAddress p w.address .asynSuccess
    have htext : w.text (setAddress p w.address .asynSuccess).pvt = w.text p := by
      rw [Write.text, Write.text, hsize.eos]
    have hlong : p.bufCapacity - 3 ≤ (escape isEscaped esc (w.text p).dropLast).length := by
      by_contra hshort
      exact hfull ⟨hlt, by omega⟩
    have hcapacity := hp.capacity
    have hne : w.text p ≠ [] := by
      intro hnil
      rw [hnil, List.dropLast_nil, escape_nil, List.length_nil] at hlong
      omega
    have herror : (stashAll w.realloc (w.text p)
        { (setAddress p w.address .asynSuccess).pvt with bufCount := 0 }).2 = .asynError := by
      apply stashAll_full hne
      dsimp only
      rw [hsize.bufCapacity]
      omega
    unfold Write.send at hstatus
    dsimp only at hstatus
    rw [htext, herror] at hstatus
    simp only [ne_eq, reduceCtorEq, not_false_eq_true, if_true] at hstatus
  · unfold prologixWrite at hstatus
    rw [resize_refused (Or.inr hle) (by omega)] at hstatus
    cases hstatus

/-- The command of a write that has room. -/
theorem write_of_room (hreaches : w.Reaches) (hroom : w.HasRoom p) :
    (prologixWrite p w).status = .asynSuccess ∧
      (prologixWrite p w).nbytesTransferred = some w.data.length ∧
      (prologixWrite p w).sent.getLast? = some (escape isEscaped esc (w.text p) ++ [lf]) := by
  have hsize := sameSize_setAddress p w.address .asynSuccess
  have htext : w.text (setAddress p w.address .asynSuccess).pvt = w.text p := by
    rw [Write.text, Write.text, hsize.eos]
  have hstash : stashAll w.realloc (w.text p)
      { (setAddress p w.address .asynSuccess).pvt with bufCount := 0 } =
        (DPvt.pushAll (escaped (w.text p))
          { (setAddress p w.address .asynSuccess).pvt with bufCount := 0 }, .asynSuccess) := by
    apply stashAll_fits
    right
    dsimp only
    rw [hsize.bufCapacity, Nat.zero_add]
    exact hroom.command
  have hcommand : ∀ q : DPvt, q.bufCount = 0 →
      ((DPvt.pushAll (escaped (w.text p)) q).push ⟨lf, none⟩).bytes
        ((DPvt.pushAll (escaped (w.text p)) q).push ⟨lf, none⟩).bufCount =
          escape isEscaped esc (w.text p) ++ [lf] := by
    intro q hq
    have hbytes := bytes_pushAll (escape isEscaped esc (w.text p) ++ [lf]) hq
    rw [List.map_append, pushAll_append] at hbytes
    have hcount : ((DPvt.pushAll (escaped (w.text p)) q).push ⟨lf, none⟩).bufCount =
        (escape isEscaped esc (w.text p) ++ [lf]).length := by
      rw [List.length_append, List.length_singleton]
      simp only [DPvt.push, pushAll_bufCount, hq, escaped, List.length_map, Nat.zero_add]
    rw [hcount]
    exact hbytes
  rw [write_eq_send hroom.data hreaches]
  unfold Write.send
  simp only [htext, hstash, hreaches.answer, ne_eq, not_true_eq_false, if_false, if_true,
    List.getLast?_append, List.getLast?_singleton, Option.some_or, true_and, Option.some.injEq]
  exact hcommand _ rfl

theorem sound_of_room (hp : Safe p) (hkeeps : w.KeepsBuffer p)
    (hroom : w.realloc ≠ .fails → w.Reaches → w.HasRoom p) : WriteSound p w := by
  have hsafe := hp.write hkeeps
  refine ⟨Nat.le_of_eq hsafe.allocated.symm, hsafe.fault, ?_⟩
  intro hgrows hreaches
  obtain ⟨hstatus, hcount, hsent⟩ := write_of_room hreaches (hroom hgrows hreaches)
  exact ⟨hstatus, hcount, _, hsent, rfl, unescape_escape rfl rfl (by decide) _ _⟩

/-! ## Runs -/

/-- Where there is memory, the data is not longer than the capacity, and a write that reaches its device
has room. -/
def Fits (p : DPvt) (w : Write) : Prop :=
  w.realloc ≠ .fails → w.data.length ≤ p.bufCapacity ∧ (w.Reaches → w.HasRoom p)

theorem Fits.keepsBuffer (hfits : Fits p w) : w.KeepsBuffer p := by
  by_cases hfails : w.realloc = .fails
  · exact Or.inl hfails
  · exact Or.inr (hfits hfails).1

/-- Any writes, one after the other. -/
def writes : Machine DPvt Write where
  init p := ∃ eos, p = .configured eos
  step p w := some (prologixWrite p w).pvt

theorem safe_of_reachable (hreach : writes.Reachable Fits p) : Safe p := by
  refine hreach.invariant ?_ ?_
  · rintro p ⟨eos, rfl⟩
    exact safe_configured eos
  · intro p w p' hfits hp hstep
    cases hstep
    exact hp.write hfits.keepsBuffer

end

/-- After writes that all fit, a write is sound if and only if it fits. -/
theorem prologixWrite_sound_iff (p : DPvt) (hreach : writes.Reachable Fits p) (w : Write) :
    WriteSound p w ↔ Fits p w := by
  have hp := safe_of_reachable hreach
  constructor
  · intro hsound hgrows
    have hle : w.data.length ≤ p.bufCapacity := by
      by_contra hlt
      exact not_sound_of_grows hgrows (Nat.not_le.mp hlt) hsound
    refine ⟨hle, ?_⟩
    intro hreaches
    by_contra hfull
    exact not_sound_of_full hp hgrows hreaches hle hfull hsound
  · intro hfits
    exact sound_of_room hp hfits.keepsBuffer fun hgrows => (hfits hgrows).2

/-! ## Writes near to the capacity -/

/-- A write of `n` characters `A` to address 5. -/
def writeOf (n : Nat) : Write := ⟨5, List.replicate n 65, .grows false, .asynSuccess, .asynSuccess⟩

theorem prologixWrite_sound_example : WriteSound (.configured (some 10)) (writeOf 3) := by
  refine (prologixWrite_sound_iff _ (Machine.Reachable.init ⟨some 10, rfl⟩) _).mpr fun _ => ⟨?_, ?_⟩
  · decide
  · intro _
    exact ⟨by decide, by decide⟩

/-- With 4095 characters there is "no memory"; with 4097 there is less than the driver takes it for. -/
theorem capacity_mistaken :
    ¬ WriteSound (.configured none) (writeOf 4095) ∧ ¬ WriteSound (.configured none) (writeOf 4097) := by
  constructor
  · have hlong : ¬ (writeOf 4095).HasRoom (.configured none) := by
      intro hroom
      have hcommand := hroom.command
      have hlength := length_le_escape isEscaped esc ((writeOf 4095).text (.configured none)).dropLast
      simp only [Write.text, writeOf, DPvt.configured, Option.toList_none, List.append_nil,
        List.length_dropLast, List.length_replicate] at hcommand hlength
      omega
    apply not_sound_of_full (safe_configured none) (by decide) ⟨by decide, rfl, rfl⟩ ?_ hlong
    simp only [writeOf, DPvt.configured, List.length_replicate]
    omega
  · apply not_sound_of_grows (by decide)
    simp only [writeOf, DPvt.configured, List.length_replicate]
    omega

end Prologix
end AsynDriver
