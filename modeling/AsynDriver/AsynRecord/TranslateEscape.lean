import Mathlib.Algebra.Group.Int.Defs
import Mathlib.Algebra.Group.Nat.Defs
import Mathlib.Data.List.Basic
import Mathlib.Data.List.TakeWhile
import Mathlib.Tactic.Common

/-!
# The buffers for `dbTranslateEscape`

`asynRecord.c` translates the escapes of AOUT, of BOUT in hybrid mode and of the terminators IEOS and OEOS,
and `devAsynOctet.c` those of the command string of a CmdResponse link.  Each use has a buffer of its own
size: OMAX, `EOS_SIZE`, and the length of the command string.

* `Source`, `dbTranslateEscape` — a field with the memory behind it, and what the function does to both.
* `performOctetIO`, `setEos`, `initCmdBuffer` — the uses, with the bytes that go to the device.
* `Sound`, `Effect.Sound` — source and buffer suffice, and the device gets the complete translation.
* `sound_iff_fits` — for each use, exactly which contents are translated soundly; `buffers_too_small` — a
  content for each use that is not.

The translation itself is a parameter: of what it does to a text it is assumed that it does not lengthen it.
-/

namespace AsynDriver
namespace AsynRecord
namespace TranslateEscape

/-- A field, and what follows it in memory. -/
structure Source where
  field : List UInt8
  behind : List UInt8
  deriving DecidableEq, Repr

/-- The bytes before the first NUL. -/
def text (bytes : List UInt8) : List UInt8 := bytes.takeWhile (· ≠ 0)

/-- `stored` is the translation with its NUL, and `returned` its length. -/
structure Translated where
  stored : List UInt8
  returned : Nat
  overread : Bool
  overflow : Bool
  deriving DecidableEq, Repr

/-- `dbTranslateEscape` with a destination of `size` bytes. -/
def dbTranslateEscape (translate : List UInt8 → List UInt8) (size : Nat) (src : Source) : Translated :=
  let raw := translate (text (src.field ++ src.behind))
  { stored := raw ++ [0]
    returned := raw.length
    overread := decide (0 ∉ src.field)
    overflow := decide (size < raw.length + 1) }

/-- What goes to the device, or to the driver as a terminator. -/
structure Sent where
  bytes : List UInt8
  overread : Bool
  overflow : Bool
  deriving DecidableEq, Repr

/-- The first `n` bytes of the destination. -/
def Translated.send (t : Translated) (n : Nat) : Sent := ⟨t.stored.take n, t.overread, t.overflow⟩

/-! ## `asynRecord.c` -/

/-- `MAX_STRING_SIZE`, which is also the size of AOUT, IEOS and OEOS. -/
def maxStringSize : Nat := 40

/-- `EOS_SIZE` -/
def eosSize : Nat := 10

/-- OMAX after `init_record`. -/
def initOmax (omax : Int) : Nat := if omax ≤ 0 then maxStringSize else omax.toNat

inductive Format
  | ascii
  | hybrid
  | binary
  deriving DecidableEq, Repr

/-- The output fields of a record, where `init_record` has found `configured` in OMAX. -/
structure Output where
  configured : Int
  aout : Vector UInt8 maxStringSize
  bout : Vector UInt8 (initOmax configured)
  ieos : Vector UInt8 maxStringSize
  oeos : Vector UInt8 maxStringSize
  nowt : Int

namespace Output

variable (translate : List UInt8 → List UInt8) (rec : Output) (behind : List UInt8)

/-- The size of BOUT and of `outbuff`. -/
def omax : Nat := initOmax rec.configured

/-- A number as a `size_t`. -/
def sizeT (n : Int) : Nat := (n % 2 ^ 64).toNat

/-- The output of `performOctetIO`; `behind` is what follows the field. -/
def performOctetIO : Format → Sent
  | .ascii =>
      let t := dbTranslateEscape translate rec.omax ⟨rec.aout.toList, behind⟩
      t.send t.returned
  | .hybrid =>
      let t := dbTranslateEscape translate rec.omax ⟨rec.bout.toList, behind⟩
      t.send t.returned
  | .binary =>
      let nwrite := sizeT (if (rec.omax : Int) < rec.nowt then rec.omax else rec.nowt)
      ⟨(rec.bout.toList ++ behind).take nwrite, decide (rec.omax < nwrite), false⟩

inductive EosField
  | ieos
  | oeos
  deriving DecidableEq, Repr

def eosField : EosField → List UInt8
  | .ieos => rec.ieos.toList
  | .oeos => rec.oeos.toList

/-- The terminator for the driver, and the text that is reported; `commAlarm` is `COMM_ALARM`. -/
structure EosOutcome where
  sent : Option Sent
  report : Option String
  commAlarm : Bool
  deriving DecidableEq, Repr

/-- `driver` is the answer of `setInputEos` or `setOutputEos`, with the message of a failure. -/
def setEos (octetiv : Bool) (field : EosField) (driver : Except String Unit) : EosOutcome :=
  if ¬ octetiv = true then ⟨none, some "No asynOctet interface", true⟩
  else
    let t := dbTranslateEscape translate eosSize ⟨rec.eosField field, behind⟩
    match driver with
    | .ok () => ⟨some (t.send t.returned), none, false⟩
    | .error message =>
        let setting :=
          match field with
          | .ieos => "Error setting input eos, "
          | .oeos => "Error setting output eos, "
        ⟨some (t.send t.returned), some (setting ++ message), false⟩

end Output

/-! ## `devAsynOctet.c` -/

/-- `bufSize` and what the callbacks write. -/
structure CmdBuffer where
  bufSize : Nat
  sent : Sent
  deriving DecidableEq, Repr

/-- `initError` has the message of `INIT_ERROR`. -/
inductive CmdInit
  | nullRead
  | initError (message : String)
  | ok (buffer : CmdBuffer)
  deriving DecidableEq, Repr

/-- `initCmdBuffer`: `bufLen` is what `strlen` finds in the buffer. -/
def initCmdBuffer (translate : List UInt8 → List UInt8) : Option (List UInt8) → CmdInit
  -- `parseLink` leaves a null pointer in `userParam` where nothing follows the parenthesis.
  | none => .nullRead
  | some userParam =>
      let len := (text userParam).length
      if len = 0 then .initError "no userParam"
      else
        let t := dbTranslateEscape translate len ⟨userParam ++ [0], []⟩
        let bufLen := (text t.stored).length
        .ok ⟨len, t.send bufLen⟩

/-! ## What is sound -/

inductive Use
  | aout
  | hybrid
  | ieos
  | oeos
  | cmdResponse
  deriving DecidableEq, Repr

/-- Nothing goes to the device where a use is refused. -/
inductive Effect
  | refused
  | nullRead
  | sends (sent : Sent)
  deriving DecidableEq, Repr

def Effect.ofSent : Option Sent → Effect
  | none => .refused
  | some sent => .sends sent

def CmdInit.effect : CmdInit → Effect
  | .nullRead => .nullRead
  | .initError _ => .refused
  | .ok buffer => .sends buffer.sent

section
variable (translate : List UInt8 → List UInt8) (rec : Output) (behind : List UInt8)
  (userParam : Option (List UInt8))

/-- The field of a use; the command string has its NUL behind it, and may be missing. -/
def Use.field : Use → List UInt8
  | aout => rec.aout.toList
  | hybrid => rec.bout.toList
  | ieos => rec.ieos.toList
  | oeos => rec.oeos.toList
  | cmdResponse => (userParam.map (· ++ [0])).getD []

def Use.effect : Use → Effect
  | aout => .sends (rec.performOctetIO translate behind .ascii)
  | hybrid => .sends (rec.performOctetIO translate behind .hybrid)
  | ieos => .ofSent (rec.setEos translate behind true .ieos (.ok ())).sent
  | oeos => .ofSent (rec.setEos translate behind true .oeos (.ok ())).sent
  | cmdResponse => (initCmdBuffer translate userParam).effect

/-- The translation of a field is complete, and inside its buffer; nothing behind the field is read. -/
structure Sound (field : List UInt8) (sent : Sent) : Prop where
  fits : sent.overflow = false
  inside : sent.overread = false
  complete : sent.bytes = translate (text field)

def Effect.Sound (field : List UInt8) : Effect → Prop
  | refused => True
  | nullRead => False
  | sends sent => TranslateEscape.Sound translate field sent

/-- The command strings that `initCmdBuffer` refuses, or for which its buffer suffices. -/
def CommandFits : Option (List UInt8) → Prop
  | none => False
  | some command => text command = [] ∨
      (translate (text command)).length < (text command).length ∧ 0 ∉ translate (text command)

/-- The contents that are translated soundly. -/
def Use.Fits : Use → Prop
  | aout => 0 ∈ rec.aout.toList ∧ (translate (text rec.aout.toList)).length < rec.omax
  | hybrid => 0 ∈ rec.bout.toList
  | ieos => 0 ∈ rec.ieos.toList ∧ (translate (text rec.ieos.toList)).length < eosSize
  | oeos => 0 ∈ rec.oeos.toList ∧ (translate (text rec.oeos.toList)).length < eosSize
  | cmdResponse => CommandFits translate userParam

instance (translate : List UInt8 → List UInt8) (userParam : Option (List UInt8)) :
    Decidable (CommandFits translate userParam) :=
  match userParam with
  | none => inferInstanceAs (Decidable False)
  | some _ => inferInstanceAs (Decidable (_ ∨ _))

instance (translate : List UInt8 → List UInt8) (rec : Output) (userParam : Option (List UInt8))
    (use : Use) : Decidable (use.Fits translate rec userParam) :=
  match use with
  | .aout => inferInstanceAs (Decidable (_ ∧ _))
  | .hybrid => inferInstanceAs (Decidable (_ ∈ _))
  | .ieos => inferInstanceAs (Decidable (_ ∧ _))
  | .oeos => inferInstanceAs (Decidable (_ ∧ _))
  | .cmdResponse => inferInstanceAs (Decidable (CommandFits translate userParam))

end

/-! ## A text in memory -/

section
variable {translate : List UInt8 → List UInt8} {bytes field behind userParam : List UInt8} {size n : Nat}

/-- Behind the first NUL nothing is read. -/
theorem text_append (hnul : 0 ∈ field) (behind : List UInt8) : text (field ++ behind) = text field := by
  induction field with
  | nil => cases hnul
  | cons b rest ih =>
      unfold text at ih ⊢
      rw [List.cons_append]
      by_cases hb : b = 0
      · rw [List.takeWhile_cons_of_neg (by simp [hb]), List.takeWhile_cons_of_neg (by simp [hb])]
      · have hrest : 0 ∈ rest := (List.mem_cons.mp hnul).resolve_left (Ne.symm hb)
        rw [List.takeWhile_cons_of_pos (by simp [hb]), List.takeWhile_cons_of_pos (by simp [hb]),
          ih hrest]

theorem text_eq_self (hnul : 0 ∉ bytes) : text bytes = bytes := by
  refine List.takeWhile_eq_self_iff.mpr fun b hb => decide_eq_true ?_
  rintro rfl
  exact hnul hb

theorem text_concat_nul (bytes : List UInt8) : text (bytes ++ [0]) = text bytes := by
  induction bytes with
  | nil => rfl
  | cons b rest ih =>
      unfold text at ih ⊢
      rw [List.cons_append, List.takeWhile_cons, List.takeWhile_cons, ih]

/-- A text with a NUL behind it does not fill its memory. -/
theorem length_text_lt (hnul : 0 ∈ bytes) : (text bytes).length < bytes.length := by
  induction bytes with
  | nil => cases hnul
  | cons b rest ih =>
      unfold text at ih ⊢
      by_cases hb : b = 0
      · rw [List.takeWhile_cons_of_neg (by simp [hb])]
        exact Nat.succ_pos _
      · have hrest : 0 ∈ rest := (List.mem_cons.mp hnul).resolve_left (Ne.symm hb)
        rw [List.takeWhile_cons_of_pos (by simp [hb]), List.length_cons, List.length_cons]
        exact Nat.succ_lt_succ (ih hrest)

/-! ## The uses -/

/-- A use that sends all that `dbTranslateEscape` returns. -/
theorem sound_send_iff :
    Sound translate field
        ((dbTranslateEscape translate size ⟨field, behind⟩).send
          (dbTranslateEscape translate size ⟨field, behind⟩).returned) ↔
      0 ∈ field ∧ (translate (text field)).length < size := by
  constructor
  · intro h
    have hnul : 0 ∈ field := not_not.mp (of_decide_eq_false h.inside)
    have hfits := of_decide_eq_false h.fits
    rw [text_append hnul] at hfits
    exact ⟨hnul, by omega⟩
  · rintro ⟨hnul, hlt⟩
    refine ⟨decide_eq_false ?_, decide_eq_false (not_not.mpr hnul), ?_⟩
    · rw [text_append hnul]
      omega
    · simp only [Translated.send, dbTranslateEscape, text_append hnul, List.take_left]

/-- The text that `strlen` finds again is the whole translation where that has no NUL. -/
theorem sound_initCmdBuffer_iff :
    Sound translate (userParam ++ [0])
        ((dbTranslateEscape translate (text userParam).length ⟨userParam ++ [0], []⟩).send
          (text (dbTranslateEscape translate (text userParam).length ⟨userParam ++ [0], []⟩).stored).length) ↔
      (translate (text userParam)).length < (text userParam).length ∧ 0 ∉ translate (text userParam) := by
  have hnul : (0 : UInt8) ∈ userParam ++ [0] := List.mem_append_right _ List.mem_cons_self
  have hsource : text (userParam ++ [0] ++ []) = text userParam := by
    rw [List.append_nil, text_concat_nul]
  constructor
  · intro h
    have hfits := of_decide_eq_false h.fits
    have hbytes := h.complete
    simp only [Translated.send, dbTranslateEscape, hsource, text_concat_nul] at hfits hbytes
    refine ⟨by omega, ?_⟩
    intro hzero
    have hlength := congrArg List.length hbytes
    have hlt := length_text_lt hzero
    rw [List.length_take] at hlength
    omega
  · rintro ⟨hlt, hzero⟩
    refine ⟨decide_eq_false ?_, decide_eq_false (not_not.mpr hnul), ?_⟩
    · rw [hsource]
      omega
    · simp only [Translated.send, dbTranslateEscape, hsource, text_concat_nul, text_eq_self hzero,
        List.take_left]

end

/-- Each use is sound for every content exactly where it fits. -/
theorem sound_iff_fits (translate : List UInt8 → List UInt8)
    (hshort : ∀ bytes, (translate bytes).length ≤ bytes.length) (rec : Output)
    (behind : List UInt8) (userParam : Option (List UInt8)) (use : Use) :
    (use.effect translate rec behind userParam).Sound translate (use.field rec userParam) ↔
      use.Fits translate rec userParam := by
  cases use with
  | aout => exact sound_send_iff
  | hybrid =>
      refine sound_send_iff.trans ⟨fun h => h.1, fun hnul => ⟨hnul, ?_⟩⟩
      -- BOUT and `outbuff` have the same size.
      have hlt := length_text_lt hnul
      rw [Vector.length_toList] at hlt
      exact Nat.lt_of_le_of_lt (hshort _) hlt
  | ieos => exact sound_send_iff
  | oeos => exact sound_send_iff
  | cmdResponse =>
      cases userParam with
      | none => exact Iff.rfl
      | some command =>
          simp only [Use.effect, Use.Fits, CommandFits, initCmdBuffer]
          by_cases hempty : text command = []
          · simp only [hempty, List.length_nil, if_true, CmdInit.effect, Effect.Sound, true_or]
          · have hlength : ¬ (text command).length = 0 := fun h => hempty (List.length_eq_zero_iff.mp h)
            simp only [hlength, if_false, CmdInit.effect, Effect.Sound, hempty, false_or]
            exact sound_initCmdBuffer_iff

/-! ## Texts without escapes -/

/-- A record whose AOUT has three characters, and whose terminators have ten; BOUT is full. -/
def filled : Output where
  configured := 3
  aout := Vector.ofFn fun i => if i.val < 3 then 65 else 0
  bout := Vector.ofFn fun _ => 65
  ieos := Vector.ofFn fun i => if i.val < 10 then 65 else 0
  oeos := Vector.ofFn fun i => if i.val < 10 then 65 else 0
  nowt := 3

/-- A text without escapes is its own translation. -/
def plain (bytes : List UInt8) : List UInt8 := bytes

theorem sound_iff_fits_example :
    (Use.effect plain { filled with aout := Vector.ofFn fun i => if i.val < 2 then 65 else 0 } [] none
        .aout).Sound plain
      (Use.field { filled with aout := Vector.ofFn fun i => if i.val < 2 then 65 else 0 } none .aout) :=
  (sound_iff_fits plain (fun bytes => Nat.le_refl bytes.length)
    { filled with aout := Vector.ofFn fun i => if i.val < 2 then 65 else 0 } [] none .aout).mpr (by decide)

/-- What a use sends is not the complete translation, or does not fit; or there is nothing to translate. -/
def Use.Unsound (translate : List UInt8 → List UInt8) (rec : Output) (behind : List UInt8)
    (userParam : Option (List UInt8)) (use : Use) : Prop :=
  ¬ (use.effect translate rec behind userParam).Sound translate (use.field rec userParam)

/-- "ID?" as a command string needs four bytes, and has three; a missing one is read all the same. -/
theorem buffers_too_small :
    Use.aout.Unsound plain filled [0] none ∧ Use.hybrid.Unsound plain filled [0] none ∧
      Use.ieos.Unsound plain filled [0] none ∧ Use.oeos.Unsound plain filled [0] none ∧
      Use.cmdResponse.Unsound plain filled [0] (some [73, 68, 63]) ∧
      Use.cmdResponse.Unsound plain filled [0] none := by
  refine ⟨?_, ?_, ?_, ?_, ?_, id⟩
  case refine_5 =>
    intro hsound
    exact absurd (sound_initCmdBuffer_iff.mp hsound).1 (by decide)
  all_goals
    intro hsound
    exact absurd (sound_send_iff.mp hsound) (by decide)

end TranslateEscape
end AsynRecord
end AsynDriver
