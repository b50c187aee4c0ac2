import AsynDriver.Library.Machine
import AsynDriver.Miscellaneous.EosEnd
import AsynDriver.Miscellaneous.EosTerminators

/-!
# The places that `asynInterposeEos` writes to

A layer that processes input, with `inBuf` as an array and its two indices.  A `readIt` goes pass by
pass; while it is in the read of the lower driver that driver may also connect.

* `advance`, `answer` — a pass of the loop, and what follows a read of the lower driver.
* `Bounds` — the indices, the matcher and what a call has returned.
* `StoresInside` — a step stores nothing outside the caller's buffer, whatever is there.
* `Fits` — the lower driver keeps to `inBufSize`, and where a terminator is complete.
* `kept_iff_fits` — a step keeps to its places if and only if it fits.
* `readIt_path` — the passes of a read are those of `readIt` on lists.
-/

namespace AsynDriver
namespace Miscellaneous
namespace EosMemory

open Library
open Manager (AsynStatus)

/-- The fields of an `eosPvt` that `readIt` uses; `inBufSize` is `inputSize`. -/
structure Layer where
  inBuf : Nat → UInt8
  inBufHead : Nat
  inBufTail : Nat
  eosIn : UInt8 × UInt8
  eosInLen : Nat
  eosInMatch : Nat

/-- A `readIt` that has not returned; `waiting` if it is in `poctet->read`. -/
structure Reading where
  maxchars : Nat
  memory : Int → UInt8
  data : Int
  nRead : Nat
  eom : EomReason
  waiting : Bool

/-- What the last `readIt` has returned. -/
structure Returned where
  maxchars : Nat
  status : AsynStatus
  nbytesTransferred : Nat
  eomReason : EomReason
  memory : Int → UInt8

structure State where
  layer : Layer
  reading : Option Reading
  returned : Option Returned

/-- What `poctet->read` returns, and what is in `inBuf` then. -/
structure LowerAnswer where
  status : AsynStatus
  thisRead : Nat
  inBuf : Nat → UInt8
  eom : EomReason

/-! ## A call of `readIt` -/

def Reading.cursor (c : Reading) (eosInMatch : Nat) : Cursor :=
  ⟨c.memory, c.data, c.nRead, eosInMatch⟩

/-- What follows the loop. -/
def finish (p : Layer) (c : Reading) (k : Cursor) (status : AsynStatus) (eom : EomReason) : State :=
  let k := if k.nRead < c.maxchars then k.store 0 0 else k
  { layer := { p with eosInMatch := k.eosInMatch }
    reading := none
    returned := some ⟨c.maxchars, status, k.nRead, eom, k.memory⟩ }

/-- A pass of the loop, up to the call of `poctet->read`. -/
def advance (p : Layer) (c : Reading) : State :=
  if p.inBufTail ≠ p.inBufHead then
    let p' := { p with inBufTail := (p.inBufTail + 1) % 2 ^ 32 }
    match scanChar p.eosIn p.eosInLen c.maxchars (c.cursor p.eosInMatch) (p.inBuf p.inBufTail) with
    | (k, some .eos) => finish p' c k .asynSuccess { c.eom with eos := true }
    | (k, some .cnt) => finish p' c k .asynSuccess ⟨true, false, false⟩
    | (k, none) =>
        { layer := { p' with eosInMatch := k.eosInMatch }
          reading := some { c with memory := k.memory, data := k.data, nRead := k.nRead }
          returned := none }
  else if c.eom.any then finish p c (c.cursor p.eosInMatch) .asynSuccess c.eom
  else ⟨p, some { c with waiting := true }, none⟩

/-- The rest of the pass, after `poctet->read`. -/
def answer (p : Layer) (c : Reading) (r : LowerAnswer) : State :=
  let eom := if r.status = .asynSuccess then { r.eom with cnt := false } else r.eom
  let p := { p with inBuf := r.inBuf }
  if r.status ≠ .asynSuccess ∨ r.thisRead = 0 then
    finish p c (c.cursor p.eosInMatch) r.status eom
  else
    { layer := { p with inBufTail := 0, inBufHead := r.thisRead % 2 ^ 32 }
      reading := some { c with eom := eom, waiting := false }
      returned := none }

/-! ## Runs -/

inductive Action
  | readIt (c : ReadCall)
  | advance
  | answer (r : LowerAnswer)
  | flushIt
  | setInputEos (eos : List UInt8)
  | exceptionConnect

/-- `flushIt` and `eosInExceptionHandler` -/
def Layer.reset (p : Layer) : Layer := { p with inBufHead := 0, inBufTail := 0, eosInMatch := 0 }

def Layer.setInputEos (p : Layer) (eos : List UInt8) : Layer :=
  match storeEos p.eosIn eos with
  | none => p
  | some eosIn => { p with eosIn := eosIn, eosInLen := eos.length, eosInMatch := 0 }

def step (s : State) (a : Action) : Option State :=
  match s.reading, a with
  | none, .readIt c => some ⟨s.layer, some ⟨c.maxchars, c.memory, 0, 0, .zero, false⟩, none⟩
  | none, .flushIt => some { s with layer := s.layer.reset }
  | none, .setInputEos eos => some { s with layer := s.layer.setInputEos eos }
  | none, .exceptionConnect => some { s with layer := s.layer.reset }
  | some c, .advance => if c.waiting then none else some (advance s.layer c)
  | some c, .answer r => if c.waiting then some (answer s.layer c r) else none
  | some c, .exceptionConnect => if c.waiting then some { s with layer := s.layer.reset } else none
  | _, _ => none

/-- After `asynInterposeEosConfig`. -/
def start : State where
  layer := ⟨fun _ => 0, 0, 0, (0, 0), 0, 0⟩
  reading := none
  returned := none

def machine : Machine State Action where
  init := fun s => s = start
  step := step

/-! ## The places -/

structure Bounds (s : State) : Prop where
  tail : s.layer.inBufTail ≤ s.layer.inBufHead
  head : s.layer.inBufHead ≤ inputSize
  eosInMatch : s.layer.eosInMatch < max s.layer.eosInLen 1
  returned : ∀ r, s.returned = some r → r.nbytesTransferred ≤ r.maxchars

/-- The memory around the buffer of the read that goes on, or that has just returned. -/
def State.memory (s : State) : Int → UInt8 :=
  match s.reading, s.returned with
  | some c, _ => c.memory
  | none, some r => r.memory
  | none, none => fun _ => 0

def State.withMemory (s : State) (memory : Int → UInt8) : State :=
  { s with reading := s.reading.map fun c => { c with memory := memory } }

/-- A step of a read changes nothing outside the buffer, whatever is there. -/
def StoresInside (s : State) (a : Action) : Prop :=
  ∀ c memory s', s.reading = some c → step (s.withMemory memory) a = some s' →
    ∀ i : Int, i < 0 ∨ c.maxchars ≤ i → s'.memory i = memory i

structure Kept (s : State) (a : Action) (s' : State) : Prop where
  bounds : Bounds s'
  inside : StoresInside s a

/-- A character completes the terminator. -/
def Layer.Completes (p : Layer) (c : UInt8) : Prop :=
  0 < p.eosInLen ∧ c = charAt p.eosIn p.eosInMatch ∧ p.eosInMatch + 1 = p.eosInLen

/-- A terminator is complete within the characters of the call, and one of a single character before
the last place; the lower driver does not report more characters than `inBuf` has places. -/
def Fits (s : State) : Action → Prop
  | .advance => ∀ c, s.reading = some c → s.layer.inBufTail ≠ s.layer.inBufHead →
      s.layer.Completes (s.layer.inBuf s.layer.inBufTail) →
      (s.layer.eosInLen ≤ c.nRead + 1 ∨ c.maxchars + 1 = sizeRange) ∧
        c.nRead + 2 < c.maxchars + s.layer.eosInLen
  | .answer r => r.status = .asynSuccess → r.thisRead % 2 ^ 32 ≤ inputSize
  | _ => True

/-- The pointer of a read is where it has counted to, and there is room. -/
structure Inv (s : State) : Prop where
  bounds : Bounds s
  eosInLen : s.layer.eosInLen ≤ 2
  data : ∀ c, s.reading = some c → c.data = c.nRead
  room : ∀ c, s.reading = some c → c.nRead < c.maxchars
  size : ∀ c, s.reading = some c → c.maxchars < sizeRange

theorem inv_start : Inv start where
  bounds := ⟨Nat.le_refl 0, Nat.zero_le _, Nat.zero_lt_one, nofun⟩
  eosInLen := Nat.zero_le _
  data := nofun
  room := nofun
  size := nofun

/-! ## A character -/

section
variable {eosIn : UInt8 × UInt8} {eosInLen eosInMatch maxchars : Nat} {k : Cursor} {c : UInt8}

theorem matchStep_lt {m : Nat} (hlen : eosInLen ≤ 2) (hmatch : eosInMatch < max eosInLen 1)
    (hstep : matchStep eosIn eosInLen eosInMatch c = some m) : m < max eosInLen 1 := by
  unfold matchStep at hstep
  split at hstep
  · cases hstep
  · next hnot =>
      split at hstep
      · next hpos =>
          split at hstep
          · next hchar =>
              cases hstep
              have hne : eosInMatch + 1 ≠ eosInLen := fun h => hnot ⟨hpos, hchar, h⟩
              omega
          · next hother =>
              split at hstep
              · next hfirst =>
                  cases hstep
                  -- a single character has been compared with its first one
                  have hne : eosInLen ≠ 1 := by
                    rintro rfl
                    obtain rfl : eosInMatch = 0 := by omega
                    exact hother hfirst
                  omega
              · cases hstep
                omega
      · cases hstep
        exact hmatch

theorem matchStep_eq_none_iff : matchStep eosIn eosInLen eosInMatch c = none ↔
    0 < eosInLen ∧ c = charAt eosIn eosInMatch ∧ eosInMatch + 1 = eosInLen := by
  unfold matchStep
  split
  · next hcomplete => simp [hcomplete]
  · next hnot =>
      refine ⟨?_, fun h => absurd h hnot⟩
      intro hnone
      split at hnone
      · split at hnone
        · cases hnone
        · split at hnone <;> cases hnone
      · cases hnone

/-- A store changes its own place. -/
theorem store_memory_of_ne {offset i : Int} (hne : i ≠ k.data + offset) :
    (k.store offset c).memory i = k.memory i :=
  Function.update_of_ne hne _ _

theorem store_memory_self (offset : Int) : (k.store offset c).memory (k.data + offset) = c :=
  Function.update_self _ _ _

end

/-! ## The end of a call -/

section
variable (p : Layer) (c : Reading) (k : Cursor) (status : AsynStatus) (eom : EomReason)

theorem finish_count : ∃ r, (finish p c k status eom).returned = some r ∧ r.maxchars = c.maxchars ∧
    r.nbytesTransferred = k.nRead := by
  refine ⟨_, rfl, rfl, ?_⟩
  dsimp only
  split <;> rfl

theorem finish_eosInMatch : (finish p c k status eom).layer.eosInMatch = k.eosInMatch := by
  unfold finish
  dsimp only
  split <;> rfl

variable {p c k status eom}

theorem finish_inv (htail : p.inBufTail ≤ p.inBufHead) (hhead : p.inBufHead ≤ inputSize)
    (hlen : p.eosInLen ≤ 2) (hmatch : k.eosInMatch < max p.eosInLen 1)
    (hcount : k.nRead ≤ c.maxchars) : Inv (finish p c k status eom) where
  bounds := by
    refine ⟨htail, hhead, ?_, ?_⟩
    · rw [finish_eosInMatch]
      exact hmatch
    · intro r hr
      obtain ⟨r', hr', hmaxchars, hread⟩ := finish_count p c k status eom
      cases hr.symm.trans hr'
      rw [hmaxchars, hread]
      exact hcount
  eosInLen := hlen
  data := nofun
  room := nofun
  size := nofun

/-- The terminating null is the only store. -/
theorem finish_memory {i : Int} (hne : k.nRead < c.maxchars → i ≠ k.data) :
    (finish p c k status eom).memory i = k.memory i := by
  change (if k.nRead < c.maxchars then k.store 0 0 else k).memory i = k.memory i
  split
  · next hroom =>
      apply store_memory_of_ne
      rw [Int.add_zero]
      exact hne hroom
  · rfl

theorem finish_memory_zero {i : Int} (hzero : k.memory i = 0) :
    (finish p c k status eom).memory i = 0 := by
  change (if k.nRead < c.maxchars then k.store 0 0 else k).memory i = 0
  split
  · by_cases hi : i = k.data + 0
    · rw [hi]
      exact store_memory_self 0
    · rw [store_memory_of_ne hi, hzero]
  · exact hzero

end

/-! ## A pass -/

section
variable {p : Layer} {c : Reading}

/-- The next character of `inBuf`. -/
def Layer.next (p : Layer) : UInt8 := p.inBuf p.inBufTail

/-- The layer after it is taken. -/
def Layer.taken (p : Layer) : Layer := { p with inBufTail := (p.inBufTail + 1) % 2 ^ 32 }

/-- The cursor after a character that does not complete a terminator. -/
def Reading.afterChar (p : Layer) (c : Reading) (eosInMatch : Nat) : Cursor :=
  { (c.cursor p.eosInMatch).take p.next with eosInMatch := eosInMatch }

/-- The cursor after one that does. -/
def Reading.afterEos (p : Layer) (c : Reading) : Cursor :=
  ((c.cursor p.eosInMatch).take p.next).retract p.eosInLen

/-- The body of the loop for the next character. -/
theorem scan_next (p : Layer) (c : Reading) :
    scanChar p.eosIn p.eosInLen c.maxchars (c.cursor p.eosInMatch) p.next =
      match matchStep p.eosIn p.eosInLen p.eosInMatch p.next with
      | none => (c.afterEos p, some .eos)
      | some m => (c.afterChar p m, if c.maxchars ≤ c.nRead + 1 then some .cnt else none) :=
  scanChar_eq (c.cursor p.eosInMatch) p.next

theorem advance_of_step {m : Nat} (hne : p.inBufTail ≠ p.inBufHead)
    (hstep : matchStep p.eosIn p.eosInLen p.eosInMatch p.next = some m) :
    advance p c =
      if c.maxchars ≤ c.nRead + 1 then
        finish p.taken c (c.afterChar p m) .asynSuccess ⟨true, false, false⟩
      else
        { layer := { p.taken with eosInMatch := m }
          reading := some { c with
            memory := (c.afterChar p m).memory, data := (c.afterChar p m).data, nRead := c.nRead + 1 }
          returned := none } := by
  have hscan := scan_next p c
  rw [hstep] at hscan
  unfold advance
  rw [if_pos hne]
  change (match scanChar p.eosIn p.eosInLen c.maxchars (c.cursor p.eosInMatch) p.next with
    | (k, some .eos) => _
    | (k, some .cnt) => _
    | (k, none) => _) = _
  rw [hscan]
  by_cases hfull : c.maxchars ≤ c.nRead + 1
  · simp only [hfull, if_true]
    rfl
  · simp only [hfull, if_false]
    rfl

theorem advance_of_complete (hne : p.inBufTail ≠ p.inBufHead)
    (hstep : matchStep p.eosIn p.eosInLen p.eosInMatch p.next = none) :
    advance p c = finish p.taken c (c.afterEos p) .asynSuccess { c.eom with eos := true } := by
  have hscan := scan_next p c
  rw [hstep] at hscan
  unfold advance
  rw [if_pos hne]
  change (match scanChar p.eosIn p.eosInLen c.maxchars (c.cursor p.eosInMatch) p.next with
    | (k, some .eos) => _
    | (k, some .cnt) => _
    | (k, none) => _) = _
  rw [hscan]
  rfl

theorem afterChar_memory {m : Nat} {i : Int} (hne : i ≠ c.data) :
    (c.afterChar p m).memory i = c.memory i := by
  apply store_memory_of_ne (k := c.cursor p.eosInMatch)
  change i ≠ c.data + 0
  rw [Int.add_zero]
  exact hne

theorem afterEos_data : (c.afterEos p).data = c.data + 1 - p.eosInLen := rfl

theorem afterEos_nRead :
    (c.afterEos p).nRead = (c.nRead + 1 + sizeRange - p.eosInLen) % sizeRange := rfl

/-- The store behind the place that the pointer comes back to. -/
theorem afterEos_memory_self : (c.afterEos p).memory (c.data + 1 - p.eosInLen + 1) = 0 :=
  Function.update_self _ _ _

theorem afterEos_memory {i : Int} (hne : i ≠ c.data) (hback : i ≠ c.data + 1 - p.eosInLen + 1) :
    (c.afterEos p).memory i = c.memory i :=
  (Function.update_of_ne hback _ _).trans (afterChar_memory (m := 0) hne)

end

section
variable {s s' : State} {c : Reading}

theorem taken_le (hs : Inv s) (hne : s.layer.inBufTail ≠ s.layer.inBufHead) :
    s.layer.taken.inBufTail ≤ s.layer.taken.inBufHead := by
  have htail := hs.bounds.tail
  have hhead := hs.bounds.head
  unfold inputSize at hhead
  change (s.layer.inBufTail + 1) % 2 ^ 32 ≤ s.layer.inBufHead
  omega

/-- The count and the pointer after a terminator that fits. -/
theorem complete_room (hs : Inv s) (hreading : s.reading = some c) (hpos : 0 < s.layer.eosInLen)
    (hcount : s.layer.eosInLen ≤ c.nRead + 1 ∨ c.maxchars + 1 = sizeRange)
    (hplace : c.nRead + 2 < c.maxchars + s.layer.eosInLen) :
    (c.afterEos s.layer).nRead ≤ c.maxchars ∧
      0 ≤ (c.afterEos s.layer).data + 1 ∧ (c.afterEos s.layer).data + 1 < c.maxchars ∧
      ((c.afterEos s.layer).nRead < c.maxchars → 0 ≤ (c.afterEos s.layer).data) := by
  have hdata := hs.data c hreading
  have hroom := hs.room c hreading
  have hsize := hs.size c hreading
  have hlen := hs.eosInLen
  rw [afterEos_nRead, afterEos_data]
  unfold sizeRange at *
  refine ⟨?_, ?_, ?_, ?_⟩ <;> omega

theorem advance_inv (hs : Inv s) (hreading : s.reading = some c) (hfits : Fits s .advance) :
    Inv (advance s.layer c) := by
  have hdata := hs.data c hreading
  have hroom := hs.room c hreading
  have hmatch := hs.bounds.eosInMatch
  have hsize := hs.size c hreading
  by_cases hne : s.layer.inBufTail ≠ s.layer.inBufHead
  · have htail := taken_le hs hne
    cases hstep : matchStep s.layer.eosIn s.layer.eosInLen s.layer.eosInMatch s.layer.next with
    | none =>
        have hcomplete := matchStep_eq_none_iff.mp hstep
        obtain ⟨hcount, hplace⟩ := hfits c hreading hne hcomplete
        rw [advance_of_complete hne hstep]
        refine finish_inv htail hs.bounds.head hs.eosInLen ?_ ?_
        · exact Nat.lt_of_lt_of_le Nat.zero_lt_one (Nat.le_max_right _ _)
        · exact (complete_room hs hreading hcomplete.1 hcount hplace).1
    | some m =>
        have hm := matchStep_lt hs.eosInLen hmatch hstep
        rw [advance_of_step hne hstep]
        split
        · exact finish_inv htail hs.bounds.head hs.eosInLen hm hroom
        · next hmore =>
            refine ⟨⟨htail, hs.bounds.head, hm, nofun⟩, hs.eosInLen, ?_, ?_, ?_⟩
            · rintro _ ⟨⟩
              change c.data + 1 = ((c.nRead + 1 : Nat) : Int)
              omega
            · rintro _ ⟨⟩
              exact Nat.lt_of_not_le hmore
            · rintro _ ⟨⟩
              exact hsize
  · have hempty : advance s.layer c = if c.eom.any then
        finish s.layer c (c.cursor s.layer.eosInMatch) .asynSuccess c.eom
        else ⟨s.layer, some { c with waiting := true }, none⟩ := if_neg hne
    rw [hempty]
    split
    · exact finish_inv hs.bounds.tail hs.bounds.head hs.eosInLen hmatch (Nat.le_of_lt hroom)
    · refine ⟨⟨hs.bounds.tail, hs.bounds.head, hmatch, nofun⟩, hs.eosInLen, ?_, ?_, ?_⟩
      · rintro _ ⟨⟩
        exact hdata
      · rintro _ ⟨⟩
        exact hroom
      · rintro _ ⟨⟩
        exact hsize

theorem advance_memory (hs : Inv s) (hreading : s.reading = some c) (hfits : Fits s .advance)
    {i : Int} (hout : i < 0 ∨ c.maxchars ≤ i) : (advance s.layer c).memory i = c.memory i := by
  have hdata := hs.data c hreading
  have hroom := hs.room c hreading
  have hchar : i ≠ c.data := by omega
  by_cases hne : s.layer.inBufTail ≠ s.layer.inBufHead
  · cases hstep : matchStep s.layer.eosIn s.layer.eosInLen s.layer.eosInMatch s.layer.next with
    | none =>
        have hcomplete := matchStep_eq_none_iff.mp hstep
        obtain ⟨hcount, hplace⟩ := hfits c hreading hne hcomplete
        obtain ⟨-, hlow, hhigh, hnull⟩ := complete_room hs hreading hcomplete.1 hcount hplace
        rw [afterEos_data] at hlow hhigh
        rw [advance_of_complete hne hstep, finish_memory, afterEos_memory hchar (by omega)]
        intro hlt
        have hnonneg := hnull hlt
        rw [afterEos_data] at hnonneg ⊢
        omega
    | some m =>
        rw [advance_of_step hne hstep]
        split
        · next hfull =>
            rw [finish_memory, afterChar_memory hchar]
            intro hlt
            exact absurd hlt (Nat.not_lt.mpr hfull)
        · exact afterChar_memory (m := m) hchar
  · have hempty : advance s.layer c = if c.eom.any then
        finish s.layer c (c.cursor s.layer.eosInMatch) .asynSuccess c.eom
        else ⟨s.layer, some { c with waiting := true }, none⟩ := if_neg hne
    rw [hempty]
    split
    · exact finish_memory fun _ => hchar
    · rfl

/-! ## The other steps -/

theorem answer_inv {r : LowerAnswer} (hs : Inv s) (hreading : s.reading = some c)
    (hfits : Fits s (.answer r)) : Inv (answer s.layer c r) := by
  have hroom := hs.room c hreading
  have hmatch := hs.bounds.eosInMatch
  unfold answer
  dsimp only
  split
  · exact finish_inv (p := { s.layer with inBuf := r.inBuf }) hs.bounds.tail hs.bounds.head
      hs.eosInLen hmatch (Nat.le_of_lt hroom)
  · next hmore =>
      have hsuccess : r.status = .asynSuccess := by
        by_contra hnot
        exact hmore (.inl hnot)
      refine ⟨⟨Nat.zero_le _, hfits hsuccess, hmatch, nofun⟩, hs.eosInLen, ?_, ?_, ?_⟩
      · rintro _ ⟨⟩
        exact hs.data c hreading
      · rintro _ ⟨⟩
        exact hroom
      · rintro _ ⟨⟩
        exact hs.size c hreading

theorem answer_memory {r : LowerAnswer} (hs : Inv s) (hreading : s.reading = some c) {i : Int}
    (hout : i < 0 ∨ c.maxchars ≤ i) : (answer s.layer c r).memory i = c.memory i := by
  have hdata := hs.data c hreading
  have hroom := hs.room c hreading
  unfold answer
  dsimp only
  split
  · apply finish_memory
    intro _
    change i ≠ c.data
    omega
  · rfl

theorem reset_inv (hs : Inv s) : Inv { s with layer := s.layer.reset } where
  bounds := ⟨Nat.le_refl 0, Nat.zero_le _, Nat.lt_of_lt_of_le Nat.zero_lt_one (Nat.le_max_right _ _),
    hs.bounds.returned⟩
  eosInLen := hs.eosInLen
  data := hs.data
  room := hs.room
  size := hs.size

theorem setInputEos_inv (hs : Inv s) (eos : List UInt8) :
    Inv { s with layer := s.layer.setInputEos eos } := by
  unfold Layer.setInputEos
  split
  · exact hs
  · next chars hstore =>
      have hlen := (storeEos_eq_some hstore).2.1
      refine ⟨⟨hs.bounds.tail, hs.bounds.head, ?_, hs.bounds.returned⟩, hlen, hs.data, hs.room, hs.size⟩
      exact Nat.lt_of_lt_of_le Nat.zero_lt_one (Nat.le_max_right _ _)

theorem readIt_inv (hs : Inv s) (call : ReadCall) :
    Inv ⟨s.layer, some ⟨call.maxchars, call.memory, 0, 0, .zero, false⟩, none⟩ where
  bounds := ⟨hs.bounds.tail, hs.bounds.head, hs.bounds.eosInMatch, nofun⟩
  eosInLen := hs.eosInLen
  data := by
    rintro _ ⟨⟩
    rfl
  room := by
    rintro _ ⟨⟩
    exact call.positive
  size := by
    rintro _ ⟨⟩
    exact call.size

/-- What a step is, while a read goes on and otherwise. -/
theorem eq_of_step_reading {a : Action} (hreading : s.reading = some c) (hstep : step s a = some s') :
    (a = .advance ∧ s' = advance s.layer c) ∨ (∃ r, a = .answer r ∧ s' = answer s.layer c r) ∨
      (a = .exceptionConnect ∧ s' = { s with layer := s.layer.reset }) := by
  unfold step at hstep
  rw [hreading] at hstep
  cases a with
  | advance =>
      simp only at hstep
      split at hstep
      · cases hstep
      · exact .inl ⟨rfl, (Option.some.inj hstep).symm⟩
  | answer r =>
      simp only at hstep
      split at hstep
      · exact .inr (.inl ⟨r, rfl, (Option.some.inj hstep).symm⟩)
      · cases hstep
  | exceptionConnect =>
      simp only at hstep
      split at hstep
      · refine .inr (.inr ⟨rfl, ?_⟩)
        rw [hreading]
        exact (Option.some.inj hstep).symm
      · cases hstep
  | readIt call => cases hstep
  | flushIt => cases hstep
  | setInputEos eos => cases hstep

theorem eq_of_step_idle {a : Action} (hidle : s.reading = none) (hstep : step s a = some s') :
    (∃ call : ReadCall, s' =
        ⟨s.layer, some ⟨call.maxchars, call.memory, 0, 0, .zero, false⟩, none⟩) ∨
      s' = { s with layer := s.layer.reset } ∨
      ∃ eos, s' = { s with layer := s.layer.setInputEos eos } := by
  obtain ⟨layer, reading, returned⟩ := s
  obtain rfl : reading = none := hidle
  cases a with
  | readIt call => exact .inl ⟨call, (Option.some.inj hstep).symm⟩
  | flushIt => exact .inr (.inl (Option.some.inj hstep).symm)
  | setInputEos eos => exact .inr (.inr ⟨eos, (Option.some.inj hstep).symm⟩)
  | exceptionConnect => exact .inr (.inl (Option.some.inj hstep).symm)
  | advance => cases hstep
  | answer r => cases hstep

theorem step_inv {a : Action} (hs : Inv s) (hfits : Fits s a) (hstep : step s a = some s') : Inv s' := by
  cases hreading : s.reading with
  | none =>
      rcases eq_of_step_idle hreading hstep with ⟨call, rfl⟩ | rfl | ⟨eos, rfl⟩
      · exact readIt_inv hs call
      · exact reset_inv hs
      · exact setInputEos_inv hs eos
  | some c =>
      rcases eq_of_step_reading hreading hstep with ⟨rfl, rfl⟩ | ⟨r, rfl, rfl⟩ | ⟨rfl, rfl⟩
      · exact advance_inv hs hreading hfits
      · exact answer_inv hs hreading hfits
      · exact reset_inv hs

/-- A step of a read that fits stores in the buffer. -/
theorem step_memory {a : Action} (hs : Inv s) (hfits : Fits s a) (hreading : s.reading = some c)
    (hstep : step s a = some s') {i : Int} (hout : i < 0 ∨ c.maxchars ≤ i) :
    s'.memory i = c.memory i := by
  rcases eq_of_step_reading hreading hstep with ⟨rfl, rfl⟩ | ⟨r, rfl, rfl⟩ | ⟨rfl, rfl⟩
  · exact advance_memory hs hreading hfits hout
  · exact answer_memory hs hreading hout
  · unfold State.memory
    simp only [hreading]

/-! ## The memory around the buffer is any -/

theorem withMemory_reading (hreading : s.reading = some c) (memory : Int → UInt8) :
    (s.withMemory memory).reading = some { c with memory := memory } := by
  unfold State.withMemory
  rw [hreading]
  rfl

theorem inv_withMemory (hs : Inv s) (hreading : s.reading = some c) (memory : Int → UInt8) :
    Inv (s.withMemory memory) := by
  have hnew := withMemory_reading hreading memory
  refine ⟨⟨hs.bounds.tail, hs.bounds.head, hs.bounds.eosInMatch, hs.bounds.returned⟩, hs.eosInLen, ?_,
    ?_, ?_⟩
  · intro c' hc'
    cases hc'.symm.trans hnew
    exact hs.data c hreading
  · intro c' hc'
    cases hc'.symm.trans hnew
    exact hs.room c hreading
  · intro c' hc'
    cases hc'.symm.trans hnew
    exact hs.size c hreading

theorem fits_withMemory {a : Action} (hfits : Fits s a) (hreading : s.reading = some c)
    (memory : Int → UInt8) : Fits (s.withMemory memory) a := by
  have hnew := withMemory_reading hreading memory
  cases a with
  | advance =>
      intro c' hc'
      cases hc'.symm.trans hnew
      exact hfits c hreading
  | answer r => exact hfits
  | readIt call => trivial
  | flushIt => trivial
  | setInputEos eos => trivial
  | exceptionConnect => trivial

theorem storesInside_of_fits {a : Action} (hs : Inv s) (hfits : Fits s a) : StoresInside s a := by
  intro c memory s' hreading hstep i hout
  have hnew := withMemory_reading hreading memory
  exact step_memory (inv_withMemory hs hreading memory) (fits_withMemory hfits hreading memory) hnew
    hstep hout

/-! ## A step that does not fit -/

/-- A terminator that is complete at another place leaves the buffer, or the count is too large. -/
theorem advance_fits_of_kept (hs : Inv s) (hreading : s.reading = some c) (hwaiting : c.waiting = false)
    (hkept : Kept s .advance (advance s.layer c)) : Fits s .advance := by
  intro c' hc' hne hcomplete
  obtain rfl : c' = c := Option.some.inj (hc'.symm.trans hreading)
  have hstep : matchStep s.layer.eosIn s.layer.eosInLen s.layer.eosInMatch s.layer.next = none :=
    matchStep_eq_none_iff.mpr hcomplete
  have hlen := hs.eosInLen
  have hsize := hs.size c' hreading
  have hroom := hs.room c' hreading
  have hdata := hs.data c' hreading
  constructor
  · by_contra hnot
    obtain ⟨r, hr, hmaxchars, hread⟩ := finish_count s.layer.taken c' (c'.afterEos s.layer)
      .asynSuccess { c'.eom with eos := true }
    rw [advance_of_complete hne hstep] at hkept
    have hcount := hkept.bounds.returned r hr
    rw [hmaxchars, hread, afterEos_nRead] at hcount
    unfold sizeRange at *
    omega
  · by_contra hnot
    -- a place behind the buffer that contains a 1
    have hinside := hkept.inside c' (fun _ => 1) (advance s.layer { c' with memory := fun _ => 1 })
      hreading ?_ (c'.data + 1 - s.layer.eosInLen + 1) (by omega)
    · rw [advance_of_complete hne hstep] at hinside
      rw [finish_memory_zero] at hinside
      · exact absurd hinside (by decide)
      · exact afterEos_memory_self (c := { c' with memory := fun _ => 1 })
    · unfold step
      rw [withMemory_reading hreading]
      simp only [hwaiting, Bool.false_eq_true, if_false]
      rfl

theorem fits_of_kept {a : Action} (hs : Inv s) (hstep : step s a = some s') (hkept : Kept s a s') :
    Fits s a := by
  cases a with
  | advance =>
      cases hreading : s.reading with
      | none =>
          intro c hc
          cases hc.symm.trans hreading
      | some c =>
          have hwaiting : c.waiting = false := by
            unfold step at hstep
            rw [hreading] at hstep
            simp only at hstep
            split at hstep
            · cases hstep
            · next hnot => exact (Bool.not_eq_true _).mp hnot
          rcases eq_of_step_reading hreading hstep with ⟨-, rfl⟩ | ⟨r, h, -⟩ | ⟨h, -⟩
          · exact advance_fits_of_kept hs hreading hwaiting hkept
          · cases h
          · cases h
  | answer r =>
      intro hsuccess
      cases hreading : s.reading with
      | none =>
          unfold step at hstep
          rw [hreading] at hstep
          cases hstep
      | some c =>
          rcases eq_of_step_reading hreading hstep with ⟨h, -⟩ | ⟨r', h, heq⟩ | ⟨h, -⟩
          · cases h
          · cases h
            by_cases hzero : r.thisRead = 0
            · rw [hzero]
              exact Nat.zero_le _
            · have hhead := hkept.bounds.head
              rw [heq] at hhead
              unfold answer at hhead
              dsimp only at hhead
              rw [if_neg] at hhead
              · exact hhead
              · rintro (hnot | hzero')
                · exact hnot hsuccess
                · exact hzero hzero'
          · cases h
  | readIt call => trivial
  | flushIt => trivial
  | setInputEos eos => trivial
  | exceptionConnect => trivial

/-- In every run of calls that fit, the layer keeps to its places; and a next step does if and only if
it fits. -/
theorem kept_iff_fits (s : State) (hreach : machine.Reachable Fits s) :
    Bounds s ∧ ∀ a s', machine.step s a = some s' → (Kept s a s' ↔ Fits s a) := by
  have hall : Inv s ∧ ∀ a s', machine.step s a = some s' → (Kept s a s' ↔ Fits s a) := by
    refine Machine.Reachable.guard_iff ?_ ?_ ?_ hreach
    · rintro s rfl
      exact inv_start
    · intro s a s' hs hstep hkept
      exact step_inv hs (fits_of_kept hs hstep hkept) hstep
    · intro s a s' hs hstep
      constructor
      · exact fits_of_kept hs hstep
      · intro hfits
        exact ⟨(step_inv hs hfits hstep).bounds, storesInside_of_fits hs hfits⟩
  exact ⟨hall.1.bounds, hall.2⟩

end

/-! ## The passes of a read -/

section
variable {p : Layer} {c : Reading}

/-- The characters between the two indices. -/
def Layer.pending (p : Layer) : List UInt8 :=
  (List.range' p.inBufTail (p.inBufHead - p.inBufTail)).map p.inBuf

theorem pending_nil (hempty : p.inBufTail = p.inBufHead) : p.pending = [] := by
  unfold Layer.pending
  rw [hempty, Nat.sub_self]
  rfl

theorem pending_cons (hlt : p.inBufTail < p.inBufHead) (hhead : p.inBufHead ≤ inputSize) :
    p.pending = p.next :: p.taken.pending := by
  obtain ⟨n, hn⟩ : ∃ n, p.inBufHead - p.inBufTail = n + 1 := ⟨p.inBufHead - p.inBufTail - 1, by omega⟩
  have htail : p.taken.inBufTail = p.inBufTail + 1 := by
    unfold inputSize at hhead
    change (p.inBufTail + 1) % 2 ^ 32 = _
    omega
  unfold Layer.pending
  rw [hn, List.range'_succ, List.map_cons, htail]
  rw [show p.taken.inBufHead - (p.inBufTail + 1) = n by
    change p.inBufHead - (p.inBufTail + 1) = n
    omega]
  rfl

/-- The read with the variables of a cursor. -/
def Reading.moved (c : Reading) (k : Cursor) : Reading :=
  { c with memory := k.memory, data := k.data, nRead := k.nRead }

/-- The layer with another tail and another match. -/
def Layer.moved (p : Layer) (tail eosInMatch : Nat) : Layer :=
  { p with inBufTail := tail, eosInMatch := eosInMatch }

/-- `eom` when the loop stops at a character. -/
def eomOfStop (eom : EomReason) : Stop → EomReason
  | .eos => { eom with eos := true }
  | .cnt => ⟨true, false, false⟩

theorem path_advance (hwaiting : c.waiting = false) :
    machine.Path Machine.Unguarded ⟨p, some c, none⟩ (advance p c) := by
  refine Machine.Path.single (a := .advance) trivial ?_
  change (if c.waiting then none else some (advance p c)) = some (advance p c)
  rw [hwaiting]
  rfl

/-- The passes up to the end of `inBuf`, or up to the character at which the loop stops. -/
theorem drain_path (htail : p.inBufTail ≤ p.inBufHead) (hhead : p.inBufHead ≤ inputSize)
    (hwaiting : c.waiting = false) {rest : List UInt8} {k : Cursor} {stop : Option Stop}
    (hdrain : drain p.eosIn p.eosInLen c.maxchars p.pending (c.cursor p.eosInMatch) =
      (rest, k, stop)) :
    match stop with
    | none => machine.Path Machine.Unguarded ⟨p, some c, none⟩
        ⟨p.moved p.inBufHead k.eosInMatch, some (c.moved k), none⟩
    | some stop => ∃ tail, tail ≤ p.inBufHead ∧ (p.moved tail 0).pending = rest ∧
        machine.Path Machine.Unguarded ⟨p, some c, none⟩
          (finish (p.moved tail 0) c k .asynSuccess (eomOfStop c.eom stop)) := by
  generalize hn : p.inBufHead - p.inBufTail = n
  induction n generalizing p c with
  | zero =>
      have hempty : p.inBufTail = p.inBufHead := by omega
      rw [pending_nil hempty] at hdrain
      cases hdrain
      have hsame : p.moved p.inBufHead p.eosInMatch = p := by
        rw [← hempty]
        rfl
      change machine.Path Machine.Unguarded _ ⟨p.moved p.inBufHead p.eosInMatch, some c, none⟩
      rw [hsame]
      exact Machine.Path.refl _
  | succ n ih =>
      have hlt : p.inBufTail < p.inBufHead := by omega
      have hne : p.inBufTail ≠ p.inBufHead := Nat.ne_of_lt hlt
      have htaken : p.taken.inBufTail = p.inBufTail + 1 := by
        unfold inputSize at hhead
        change (p.inBufTail + 1) % 2 ^ 32 = _
        omega
      have hpath := path_advance (p := p) hwaiting
      rw [pending_cons hlt hhead, drain, scan_next] at hdrain
      cases hstep : matchStep p.eosIn p.eosInLen p.eosInMatch p.next with
      | none =>
          rw [hstep] at hdrain
          cases hdrain
          rw [advance_of_complete hne hstep] at hpath
          refine ⟨p.taken.inBufTail, ?_, rfl, hpath⟩
          rw [htaken]
          exact hlt
      | some m =>
          rw [hstep] at hdrain
          rw [advance_of_step hne hstep] at hpath
          by_cases hfull : c.maxchars ≤ c.nRead + 1
          · rw [if_pos hfull] at hpath
            simp only [if_pos hfull] at hdrain
            cases hdrain
            refine ⟨p.taken.inBufTail, ?_, rfl, hpath⟩
            rw [htaken]
            exact hlt
          · rw [if_neg hfull] at hpath
            simp only [if_neg hfull] at hdrain
            have hrest := ih (p := p.moved p.taken.inBufTail m) (c := c.moved (c.afterChar p m)) ?_ hhead
              hwaiting hdrain ?_
            · cases stop with
              | none => exact hpath.trans hrest
              | some stop =>
                  obtain ⟨tail, hle, hpending, hafter⟩ := hrest
                  exact ⟨tail, hle, hpending, hpath.trans hafter⟩
            · change p.taken.inBufTail ≤ p.inBufHead
              rw [htaken]
              exact hlt
            · change p.inBufHead - p.taken.inBufTail = n
              rw [htaken]
              omega

/-- A read of the lower driver, as it leaves `inBuf`. -/
def lowerAnswer (r : LowerRead) : LowerAnswer where
  status := r.status
  thisRead := r.bytes.length
  inBuf := fun i => r.bytes.getD i 0
  eom := r.eom

theorem path_answer (hwaiting : c.waiting = true) (r : LowerAnswer) :
    machine.Path Machine.Unguarded ⟨p, some c, none⟩ (answer p c r) := by
  refine Machine.Path.single (a := .answer r) trivial ?_
  change (if c.waiting then some (answer p c r) else none) = some (answer p c r)
  rw [hwaiting]
  rfl

theorem pending_lowerAnswer {r : LowerRead} (hsize : r.bytes.length ≤ inputSize) (eosInMatch : Nat) :
    Layer.pending { p with
      inBuf := (lowerAnswer r).inBuf, inBufTail := 0, inBufHead := (lowerAnswer r).thisRead % 2 ^ 32,
      eosInMatch := eosInMatch } = r.bytes := by
  have hlength : r.bytes.length % 2 ^ 32 = r.bytes.length := by
    unfold inputSize at hsize
    omega
  change (List.range' 0 (r.bytes.length % 2 ^ 32 - 0)).map (fun i => r.bytes.getD i 0) = r.bytes
  rw [hlength, Nat.sub_zero, ← List.range_eq_range']
  refine List.ext_getElem (by simp) ?_
  intro i hi hi'
  rw [List.getElem_map, List.getElem_range, List.getD_eq_getElem?_getD, List.getElem?_eq_getElem hi']
  rfl

/-- `eom` after the read of the lower driver. -/
def eomOfRead (r : LowerRead) : EomReason :=
  if r.status = .asynSuccess then { r.eom with cnt := false } else r.eom

theorem answer_of_last {r : LowerRead} (hlast : r.status ≠ .asynSuccess ∨ r.bytes = []) :
    answer p c (lowerAnswer r) =
      finish { p with inBuf := (lowerAnswer r).inBuf } c (c.cursor p.eosInMatch) r.status
        (eomOfRead r) := by
  apply if_pos
  exact hlast.imp_right fun hnil => List.length_eq_zero_iff.mpr hnil

theorem answer_of_more {r : LowerRead} (hmore : ¬ (r.status ≠ .asynSuccess ∨ r.bytes = [])) :
    answer p c (lowerAnswer r) =
      { layer := { p with
          inBuf := (lowerAnswer r).inBuf, inBufTail := 0
          inBufHead := (lowerAnswer r).thisRead % 2 ^ 32 }
        reading := some { c with eom := eomOfRead r, waiting := false }
        returned := none } := by
  apply if_neg
  exact fun h => hmore (h.imp_right List.length_eq_zero_iff.mp)

/-- The loop has ended in a read that began as `c`, with this rest of `inBuf`. -/
def Ends (p : Layer) (c : Reading) (inBuf : List UInt8) (k : Cursor) (status : AsynStatus)
    (eom : EomReason) : Prop :=
  ∃ p' c', machine.Path Machine.Unguarded ⟨p, some c, none⟩ (finish p' c' k status eom) ∧
    c'.maxchars = c.maxchars ∧ p'.pending = inBuf ∧ p'.eosIn = p.eosIn ∧ p'.eosInLen = p.eosInLen

theorem ends_of_stop {rest : List UInt8} {k : Cursor} {stop : Stop}
    (htail : p.inBufTail ≤ p.inBufHead) (hhead : p.inBufHead ≤ inputSize)
    (hwaiting : c.waiting = false)
    (hdrain : drain p.eosIn p.eosInLen c.maxchars p.pending (c.cursor p.eosInMatch) =
      (rest, k, some stop)) : Ends p c rest k .asynSuccess (eomOfStop c.eom stop) := by
  obtain ⟨tail, -, hpending, hpath⟩ := drain_path htail hhead hwaiting hdrain
  exact ⟨p.moved tail 0, c, hpath, rfl, hpending, rfl, rfl⟩

/-- The pass with which `inBuf` is found empty. -/
theorem drained_path {rest : List UInt8} {k : Cursor} (htail : p.inBufTail ≤ p.inBufHead)
    (hhead : p.inBufHead ≤ inputSize) (hwaiting : c.waiting = false)
    (hdrain : drain p.eosIn p.eosInLen c.maxchars p.pending (c.cursor p.eosInMatch) =
      (rest, k, none)) :
    machine.Path Machine.Unguarded ⟨p, some c, none⟩
      (if c.eom.any then
        finish (p.moved p.inBufHead k.eosInMatch) (c.moved k) k .asynSuccess c.eom
      else ⟨p.moved p.inBufHead k.eosInMatch, some { c.moved k with waiting := true }, none⟩) := by
  have hpath := drain_path htail hhead hwaiting hdrain
  have hlast := path_advance (p := p.moved p.inBufHead k.eosInMatch) (c := c.moved k) hwaiting
  have hadvance : advance (p.moved p.inBufHead k.eosInMatch) (c.moved k) =
      if c.eom.any then finish (p.moved p.inBufHead k.eosInMatch) (c.moved k) k .asynSuccess c.eom
      else ⟨p.moved p.inBufHead k.eosInMatch, some { c.moved k with waiting := true }, none⟩ :=
    if_neg fun h => h rfl
  rw [hadvance] at hlast
  exact Machine.Path.trans hpath hlast

theorem ends_of_eom {rest : List UInt8} {k : Cursor} (htail : p.inBufTail ≤ p.inBufHead)
    (hhead : p.inBufHead ≤ inputSize) (hwaiting : c.waiting = false)
    (hdrain : drain p.eosIn p.eosInLen c.maxchars p.pending (c.cursor p.eosInMatch) =
      (rest, k, none)) (hany : c.eom.any = true) : Ends p c [] k .asynSuccess c.eom := by
  have hpath := drained_path htail hhead hwaiting hdrain
  rw [if_pos hany] at hpath
  exact ⟨_, _, hpath, rfl, pending_nil rfl, rfl, rfl⟩

/-- The loop on lists is a run of passes, with the answers of the lower driver. -/
theorem readLoop_ends {lower : List LowerRead} (hsize : ∀ r ∈ lower, r.bytes.length ≤ inputSize)
    (htail : p.inBufTail ≤ p.inBufHead) (hhead : p.inBufHead ≤ inputSize)
    (hwaiting : c.waiting = false) {e : LoopEnd}
    (hloop : readLoop p.eosIn p.eosInLen c.maxchars lower p.pending (c.cursor p.eosInMatch) c.eom =
      some e) : Ends p c e.inBuf e.cursor e.status e.eom := by
  induction lower generalizing p c with
  | nil =>
      cases hdrain : drain p.eosIn p.eosInLen c.maxchars p.pending (c.cursor p.eosInMatch) with
      | mk rest result =>
          obtain ⟨k, stop⟩ := result
          rw [readLoop, hdrain] at hloop
          cases stop with
          | some stop =>
              have hends := ends_of_stop htail hhead hwaiting hdrain
              cases stop <;> cases hloop <;> exact hends
          | none =>
              simp only at hloop
              split at hloop
              · next hany =>
                  cases hloop
                  exact ends_of_eom htail hhead hwaiting hdrain hany
              · cases hloop
  | cons r lower ih =>
      cases hdrain : drain p.eosIn p.eosInLen c.maxchars p.pending (c.cursor p.eosInMatch) with
      | mk rest result =>
          obtain ⟨k, stop⟩ := result
          rw [readLoop, hdrain] at hloop
          cases stop with
          | some stop =>
              have hends := ends_of_stop htail hhead hwaiting hdrain
              cases stop <;> cases hloop <;> exact hends
          | none =>
              simp only at hloop
              split at hloop
              · next hany =>
                  cases hloop
                  exact ends_of_eom htail hhead hwaiting hdrain hany
              · next hnot =>
                  have hdrained := drained_path htail hhead hwaiting hdrain
                  rw [if_neg hnot] at hdrained
                  have hanswer := path_answer (p := p.moved p.inBufHead k.eosInMatch)
                    (c := { c.moved k with waiting := true }) rfl (lowerAnswer r)
                  have hpath := hdrained.trans hanswer
                  by_cases hlast : r.status ≠ .asynSuccess ∨ r.bytes = []
                  · rw [if_pos hlast] at hloop
                    cases hloop
                    rw [answer_of_last hlast] at hpath
                    exact ⟨_, _, hpath, rfl, pending_nil rfl, rfl, rfl⟩
                  · rw [if_neg hlast] at hloop
                    rw [answer_of_more hlast] at hpath
                    have hlength := hsize r List.mem_cons_self
                    have hpending := pending_lowerAnswer (p := p) hlength k.eosInMatch
                    have hrest := ih (p := { p with
                        inBuf := (lowerAnswer r).inBuf, inBufTail := 0
                        inBufHead := (lowerAnswer r).thisRead % 2 ^ 32, eosInMatch := k.eosInMatch })
                      (c := { c.moved k with eom := eomOfRead r, waiting := false })
                      (fun r' hr' => hsize r' (List.mem_cons_of_mem r hr')) (Nat.zero_le _)
                      (Nat.le_trans (Nat.mod_le _ _) hlength) rfl
                    rw [hpending] at hrest
                    obtain ⟨p', c', hafter, hends⟩ := hrest hloop
                    exact ⟨p', c', hpath.trans hafter, hends⟩

/-- The `eosPvt` whose `inBuf` is a list. -/
def Layer.toPvt (p : Layer) (processEosOut : Bool) (eosOut : UInt8 × UInt8) (eosOutLen : Nat) : EosPvt where
  processEosIn := true
  inBuf := p.pending
  eosIn := p.eosIn
  eosInLen := p.eosInLen
  eosInMatch := p.eosInMatch
  processEosOut := processEosOut
  eosOut := eosOut
  eosOutLen := eosOutLen

/-- A `readIt` on lists is a run of passes that returns the same. -/
theorem readIt_path {s : State} (hs : Bounds s) (hidle : s.reading = none) {lower lower' : List LowerRead}
    (hsize : ∀ r ∈ lower, r.bytes.length ≤ inputSize) (call : ReadCall) {processEosOut : Bool}
    {eosOut : UInt8 × UInt8} {eosOutLen : Nat} {r : ReadResult} {pvt : EosPvt}
    (hread : readIt (s.layer.toPvt processEosOut eosOut eosOutLen) lower call.memory call.maxchars =
      some (r, pvt, lower')) :
    ∃ s', machine.Path Machine.Unguarded s s' ∧ s'.reading = none ∧
      s'.returned = some ⟨call.maxchars, r.status, r.nbytesTransferred, r.eomReason, r.memory⟩ ∧
      s'.layer.toPvt processEosOut eosOut eosOutLen = pvt := by
  have hin : (s.layer.toPvt processEosOut eosOut eosOutLen).processEosIn = true := rfl
  unfold readIt at hread
  rw [if_pos hin, Option.map_eq_some_iff] at hread
  obtain ⟨e, hloop, heq⟩ := hread
  obtain ⟨p', c', hpath, hmaxchars, hpending, heosIn, hlen⟩ := readLoop_ends (p := s.layer)
    (c := ⟨call.maxchars, call.memory, 0, 0, .zero, false⟩) hsize hs.tail hs.head rfl hloop
  have hbegin : machine.Path Machine.Unguarded s
      ⟨s.layer, some ⟨call.maxchars, call.memory, 0, 0, .zero, false⟩, none⟩ := by
    refine Machine.Path.single (a := .readIt call) trivial ?_
    obtain ⟨layer, reading, returned⟩ := s
    obtain rfl : reading = none := hidle
    rfl
  cases heq
  refine ⟨_, hbegin.trans hpath, rfl, ?_, ?_⟩
  · unfold finish
    rw [hmaxchars]
  · unfold finish Layer.toPvt
    rw [hmaxchars]
    simp only [← hpending, heosIn, hlen]
    rfl

end

/-! ## A terminator in one read of the lower driver -/

/-- The layer waits with a line feed in `inBuf`, in a read of `maxchars` characters. -/
def lineFeed (call : ReadCall) : State where
  layer := ⟨fun i => [10].getD i 0, 1, 0, (10, 0), 1, 0⟩
  reading := some ⟨call.maxchars, call.memory, 0, 0, .zero, false⟩
  returned := none

theorem lineFeed_reachable (call : ReadCall) : machine.Reachable Fits (lineFeed call) := by
  have hinit : machine.Reachable Fits start := Machine.Reachable.init rfl
  have hset := hinit.step (a := Action.setInputEos [10]) trivial rfl
  have hread := hset.step (a := Action.readIt call) trivial rfl
  have hwaits := hread.step (a := Action.advance) (fun _ _ hne => absurd rfl hne) rfl
  exact hwaits.step (a := Action.answer (lowerAnswer ⟨.asynSuccess, [10], .zero⟩)) (fun _ => by decide) rfl

def ones (maxchars : Nat) (hpositive : 0 < maxchars) (hsize : maxchars < sizeRange) : ReadCall :=
  ⟨maxchars, fun _ => 1, hpositive, hsize⟩

/-- With two places the null behind the terminator is in the buffer. -/
theorem lineFeed_kept :
    Bounds (lineFeed (ones 2 (by decide) (by decide))) ∧
      Kept (lineFeed (ones 2 (by decide) (by decide))) .advance
        (advance (lineFeed (ones 2 (by decide) (by decide))).layer
          ⟨2, fun _ => 1, 0, 0, .zero, false⟩) := by
  obtain ⟨hbounds, hiff⟩ := kept_iff_fits _ (lineFeed_reachable (ones 2 (by decide) (by decide)))
  refine ⟨hbounds, (hiff .advance _ rfl).mpr ?_⟩
  rintro _ ⟨⟩ - -
  exact ⟨.inl (by decide), by decide⟩

/-- `A` and the first character of the terminator are read, and then its second one. -/
def crlfSplit : List Action :=
  [.setInputEos [13, 10], .readIt (ones 2 (by decide) (by decide)), .advance,
    .answer (lowerAnswer ⟨.asynSuccess, [65, 13, 10], .zero⟩), .advance, .advance,
    .readIt (ones 2 (by decide) (by decide)), .advance]

/-- A line feed that is the last character that fits, and a terminator that began in another call. -/
theorem places_left :
    (∃ s, machine.Reachable Machine.Unguarded s ∧ ¬ StoresInside s .advance) ∧
      ¬ ∀ s, machine.Reachable Machine.Unguarded s → Bounds s := by
  constructor
  · refine ⟨lineFeed (ones 1 (by decide) (by decide)),
      (lineFeed_reachable _).mono (fun _ _ _ => trivial), ?_⟩
    intro hinside
    have hplace := hinside _ (fun _ => 1) _ rfl rfl 1 (.inr (by decide))
    exact absurd hplace (by decide)
  · intro hbounds
    obtain ⟨s, hreach, hcount⟩ := Machine.exists_reachable_of_exec (M := machine)
      (fun s => s.returned.map fun r => (r.maxchars, r.nbytesTransferred)) (s := start)
      (b := some (2, 2 ^ 64 - 1)) crlfSplit rfl (by decide)
    obtain ⟨r, hr, hvalue⟩ := Option.map_eq_some_iff.mp hcount
    have hle := (hbounds s hreach).returned r hr
    obtain ⟨hmaxchars, hread⟩ := Prod.mk.inj hvalue
    rw [hmaxchars, hread] at hle
    exact absurd hle (by decide)

end EosMemory
end Miscellaneous
end AsynDriver
