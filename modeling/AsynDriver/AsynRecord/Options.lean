import Mathlib.Data.List.Basic
import Mathlib.Data.List.GetD
import Mathlib.Logic.Function.Basic
import Mathlib.Tactic.Common
import AsynDriver.Library.CString

/-!
# `setOption` and `getOptions` of `asynRecord.c`

`getOptions` asks the driver for ten keys and the host, and compares each answer with the choices of a menu.
The answers come into one buffer, which nothing clears, and their status is ignored: after a query that
leaves the buffer alone, the answer to an earlier key is compared, or, before the first answer, what was in
the memory.

* `OptionField` — the menu fields, with the key and the choices of each.
* `getOptions`, `setOption` — the record afterwards, with what is posted; the call of the driver.
* `shownFor` — what a field has to show, from the answer to its own key.
* `getOptions_sound_iff` — exactly where no string that is left in the buffer is a choice of a field whose
  query leaves it there; `another_answer_shown` — a serial line behind a terminal server, with IXOFF.

The driver is a parameter: a call of `getOptions` asks each key once.
-/

namespace AsynDriver
namespace AsynRecord
namespace Options

open Library

/-- The menu fields that show an option. -/
inductive OptionField
  | baud
  | prty
  | sbit
  | dbit
  | mctl
  | fctl
  | ixon
  | ixoff
  | ixany
  | drto
  deriving DecidableEq, Repr

namespace OptionField

def key : OptionField → String
  | baud => "baud"
  | prty => "parity"
  | sbit => "stop"
  | dbit => "bits"
  | mctl => "clocal"
  | fctl => "crtscts"
  | ixon => "ixon"
  | ixoff => "ixoff"
  | ixany => "ixany"
  | drto => "disconnectOnReadTimeout"

/-- `baud_choices` and its siblings. -/
def choices : OptionField → List String
  | baud =>
      ["Unknown", "300", "600", "1200", "2400", "4800", "9600", "19200", "38400", "57600", "115200",
        "230400", "460800", "576000", "921600", "1152000"]
  | prty => ["Unknown", "none", "even", "odd"]
  | sbit => ["Unknown", "1", "2"]
  | dbit => ["Unknown", "5", "6", "7", "8"]
  | mctl => ["Unknown", "Y", "N"]
  | fctl => ["Unknown", "N", "Y"]
  | ixon => ["Unknown", "N", "Y"]
  | ixoff => ["Unknown", "N", "Y"]
  | ixany => ["Unknown", "N", "Y"]
  | drto => ["Unknown", "N", "Y"]

end OptionField

/-- The fields in the order of their queries. -/
def queryOrder : List OptionField :=
  [.baud, .prty, .sbit, .dbit, .mctl, .fctl, .ixon, .ixoff, .ixany, .drto]

/-- The fields that the functions read and change.  A menu field is the index of its choice. -/
structure Fields where
  optioniv : Bool
  option : OptionField → Nat
  lbaud : Int
  hostinfo : String

/-- What `getOption` of the driver does: it fails in two ways. -/
inductive Answer
  | returns (text : String)
  | empties
  | ignores
  deriving DecidableEq, Repr

def Answer.store (optbuff : String) : Answer → String
  | .returns text => text
  | .empties => ""
  | .ignores => optbuff

/-- The loop over the choices, with the field set to 0 before it. -/
def choiceOf (choices : List String) (optbuff : String) : Nat :=
  -- The loop does not stop at the first choice that is equal.
  (List.range choices.length).foldl
    (fun field i => if choices[i]? = some optbuff then i else field) 0

/-- The buffer and the record after a query. -/
def query (answers : String → Answer) (s : String × Fields) (f : OptionField) : String × Fields :=
  let optbuff := (answers f.key).store s.1
  (optbuff,
    { s.2 with
      option := Function.update s.2.option f (choiceOf f.choices optbuff)
      lbaud :=
        -- `sscanf` stands behind the first query only.
        if f = .baud then ((scanInt32 optbuff.toList).getD s.2.lbaud) else s.2.lbaud })

inductive Posted
  | option (f : OptionField)
  | lbaud
  | hostinfo
  deriving DecidableEq, Repr

/-- The test of `POST_IF_NEW`. -/
def Posted.isNew (old new : Fields) : Posted → Bool
  | .option f => decide (new.option f ≠ old.option f)
  | .lbaud => decide (new.lbaud ≠ old.lbaud)
  | .hostinfo => decide (new.hostinfo ≠ old.hostinfo)

def postOrder : List Posted :=
  .option .baud :: .lbaud :: (queryOrder.tail.map .option ++ [.hostinfo])

/-- `strncpy` into `hostinfo`. -/
def hostSize : Nat := 40

/-- `optbuff` and `hostbuff` are what is in the buffers at the beginning, up to the first NUL. -/
def getOptions (rec : Fields) (answers : String → Answer) (optbuff hostbuff : String)
    (interruptAccept : Bool) : Fields × List Posted :=
  if ¬ rec.optioniv = true then (rec, [])
  else
    let queried := (queryOrder.foldl (query answers) (optbuff, rec)).2
    -- The host has a buffer of its own.
    let host := (answers "hostinfo").store hostbuff
    let new := { queried with hostinfo := String.ofList (host.toList.take hostSize) }
    (new, if interruptAccept then postOrder.filter (Posted.isNew rec new) else [])

/-! ## `setOption` -/

/-- `pmsg->fieldIndex` -/
inductive SetField
  | option (f : OptionField)
  | lbaud
  | hostinfo
  deriving DecidableEq, Repr

/-- The key and the value for the driver. -/
def setCall (rec : Fields) : SetField → String × String
  | .option f => (f.key, f.choices.getD (rec.option f) "")
  | .lbaud => ("baud", String.ofList (decimal rec.lbaud))
  | .hostinfo => ("hostInfo", rec.hostinfo)

/-- The call of the driver, and the text that is reported; `commAlarm` is `COMM_ALARM`. -/
structure SetOutcome where
  call : Option (String × String)
  report : Option String
  commAlarm : Bool
  deriving DecidableEq, Repr

/-- `driver` is whether `setOption` of the driver succeeds, and its message where it does not. -/
def setOption (rec : Fields) (field : SetField) (driver : String → String → Except String Unit) :
    SetOutcome :=
  if ¬ rec.optioniv = true then ⟨none, some "No asynOption interface", true⟩
  else
    let call := setCall rec field
    match driver call.1 call.2 with
    | .ok () => ⟨some call, none, false⟩
    | .error message => ⟨some call, some ("Error setting option, " ++ message), false⟩

/-! ## What the fields have to show -/

/-- The choice that the driver has returned for the key, and `Unknown`, which is 0, for any other
answer. -/
def shownFor (f : OptionField) : Answer → Nat
  | .returns text => if text ∈ f.choices then f.choices.idxOf text else 0
  | .empties => 0
  | .ignores => 0

structure Sound (rec : Fields) (answers : String → Answer) (optbuff hostbuff : String)
    (interruptAccept : Bool) : Prop where
  shown : ∀ f, (getOptions rec answers optbuff hostbuff interruptAccept).1.option f =
    shownFor f (answers f.key)
  /-- A listed choice that `setOption` has sent, and that the driver returns, is shown again. -/
  roundTrip : ∀ f driver key value, rec.option f < f.choices.length →
    (setOption rec (.option f) driver).call = some (key, value) → answers key = .returns value →
      (getOptions rec answers optbuff hostbuff interruptAccept).1.option f = rec.option f

/-- What the driver has left in the buffer before the query of the field. -/
def leftover (answers : String → Answer) (optbuff : String) (f : OptionField) : String :=
  (queryOrder.takeWhile (· ≠ f)).foldl (fun buff g => (answers g.key).store buff) optbuff

/-- What a query leaves in the buffer is no choice of its field, but `Unknown`. -/
def NothingLeft (answers : String → Answer) (optbuff : String) : Prop :=
  ∀ f, answers (OptionField.key f) = .ignores → leftover answers optbuff f ∉ f.choices.tail

/-! ## The loop over the choices -/

theorem choices_nodup (f : OptionField) : f.choices.Nodup := by
  cases f <;> decide

theorem choices_eq (f : OptionField) : f.choices = "Unknown" :: f.choices.tail := by
  cases f <;> rfl

/-- Where one index alone is right, the loop finds it. -/
theorem foldl_range_single {p : Nat → Prop} [DecidablePred p] {k : Nat} (hp : ∀ i, p i ↔ i = k)
    (n : Nat) :
    (List.range n).foldl (fun field i => if p i then i else field) 0 = if k < n then k else 0 := by
  -- On the number of choices that have been compared.
  induction n with
  | zero => rfl
  | succ n ih =>
      rw [List.range_succ, List.foldl_append, ih, List.foldl_cons, List.foldl_nil]
      by_cases heq : n = k
      · rw [if_pos ((hp n).mpr heq), if_pos (by omega), heq]
      · rw [if_neg fun h => heq ((hp n).mp h)]
        by_cases hlt : k < n
        · rw [if_pos hlt, if_pos (by omega)]
        · rw [if_neg hlt, if_neg (by omega)]

theorem foldl_range_none {p : Nat → Prop} [DecidablePred p] (hp : ∀ i, ¬ p i) (n : Nat) :
    (List.range n).foldl (fun field i => if p i then i else field) 0 = 0 := by
  induction n with
  | zero => rfl
  | succ n ih => rw [List.range_succ, List.foldl_append, ih, List.foldl_cons, List.foldl_nil, if_neg (hp n)]

/-- In a list without repetitions the last index that the loop finds is the only one. -/
theorem choiceOf_eq {choices : List String} (hnodup : choices.Nodup) (text : String) :
    choiceOf choices text = if text ∈ choices then choices.idxOf text else 0 := by
  unfold choiceOf
  by_cases hmem : text ∈ choices
  · rw [if_pos hmem]
    have hlt : choices.idxOf text < choices.length := List.idxOf_lt_length_of_mem hmem
    have hget : choices[choices.idxOf text]? = some text := List.getElem?_idxOf hmem
    -- no other index has the text
    have honly : ∀ i, choices[i]? = some text ↔ i = choices.idxOf text := by
      intro i
      constructor
      · intro hi
        have hbound : i < choices.length := (List.getElem?_eq_some_iff.mp hi).1
        exact (List.getElem?_inj hbound hnodup).mp (hi.trans hget.symm)
      · rintro rfl
        exact hget
    rw [foldl_range_single honly, if_pos hlt]
  · rw [if_neg hmem]
    apply foldl_range_none
    intro i hi
    exact hmem (List.mem_of_getElem? hi)

/-- A text is shown as `Unknown` exactly where it is none of the choices behind it. -/
theorem choiceOf_eq_zero_iff (f : OptionField) (text : String) :
    choiceOf f.choices text = 0 ↔ text ∉ f.choices.tail := by
  have hnodup := choices_nodup f
  rw [choiceOf_eq hnodup]
  rw [choices_eq f] at hnodup ⊢
  rw [List.tail_cons]
  by_cases heq : text = "Unknown"
  · rw [heq, List.idxOf_cons_self, ite_self]
    exact iff_of_true rfl (List.nodup_cons.mp hnodup).1
  · have hidx := List.idxOf_cons_ne f.choices.tail (Ne.symm heq)
    simp only [hidx, List.mem_cons, heq, false_or]
    by_cases hmem : text ∈ f.choices.tail
    · simp only [hmem, if_true, Nat.succ_ne_zero, not_true_eq_false]
    · simp only [hmem, if_false, not_false_eq_true]

/-! ## The queries -/

section
variable {answers : String → Answer} {rec : Fields} {optbuff hostbuff : String} {interruptAccept : Bool}

theorem foldl_query_fst (fields : List OptionField) (s : String × Fields) :
    (fields.foldl (query answers) s).1 =
      fields.foldl (fun buff f => (answers f.key).store buff) s.1 := by
  induction fields generalizing s with
  | nil => rfl
  | cons f rest ih => exact ih (query answers s f)

theorem foldl_query_option {fields : List OptionField} {f : OptionField} (hnot : f ∉ fields)
    (s : String × Fields) : (fields.foldl (query answers) s).2.option f = s.2.option f := by
  induction fields generalizing s with
  | nil => rfl
  | cons g rest ih =>
      rw [List.mem_cons, not_or] at hnot
      -- A query writes the field of its own key only.
      rw [List.foldl_cons, ih hnot.2]
      exact Function.update_of_ne hnot.1 _ _

theorem queryOrder_split (f : OptionField) :
    ∃ rest, queryOrder = queryOrder.takeWhile (· ≠ f) ++ f :: rest ∧ f ∉ rest := by
  cases f <;> exact ⟨_, rfl, by decide⟩

/-- A field shows what is in the buffer after its query. -/
theorem option_getOptions (hopt : rec.optioniv = true) (f : OptionField) :
    (getOptions rec answers optbuff hostbuff interruptAccept).1.option f =
      choiceOf f.choices ((answers f.key).store (leftover answers optbuff f)) := by
  obtain ⟨rest, hsplit, hnot⟩ := queryOrder_split f
  have hqueried : (queryOrder.foldl (query answers) (optbuff, rec)).2.option f =
      choiceOf f.choices ((answers f.key).store (leftover answers optbuff f)) := by
    rw [leftover]
    -- The queries before the field fill the buffer, and those behind it leave the field.
    generalize queryOrder.takeWhile (· ≠ f) = before at *
    rw [hsplit, List.foldl_append, List.foldl_cons, foldl_query_option hnot]
    dsimp only [query]
    rw [Function.update_self, foldl_query_fst]
  rw [getOptions, if_neg (not_not.mpr hopt)]
  exact hqueried

theorem shownFor_returns (f : OptionField) (text : String) :
    shownFor f (.returns text) = choiceOf f.choices text :=
  (choiceOf_eq (choices_nodup f) text).symm

theorem empty_not_choice (f : OptionField) : "" ∉ f.choices.tail := by
  cases f <;> decide

/-- A field is right unless its query leaves a choice in the buffer. -/
theorem shown_iff (hopt : rec.optioniv = true) (f : OptionField) :
    (getOptions rec answers optbuff hostbuff interruptAccept).1.option f = shownFor f (answers f.key) ↔
      (answers f.key = .ignores → leftover answers optbuff f ∉ f.choices.tail) := by
  rw [option_getOptions hopt]
  cases hanswer : answers f.key with
  | returns text =>
      rw [shownFor_returns]
      exact iff_of_true rfl nofun
  | empties => exact iff_of_true ((choiceOf_eq_zero_iff f _).mpr (empty_not_choice f)) nofun
  | ignores =>
      simp only [forall_const]
      exact choiceOf_eq_zero_iff f _

theorem roundTrip_getOptions (f : OptionField) {driver : String → String → Except String Unit}
    {key value : String} (hlisted : rec.option f < f.choices.length)
    (hset : (setOption rec (.option f) driver).call = some (key, value))
    (hanswer : answers key = .returns value) :
    (getOptions rec answers optbuff hostbuff interruptAccept).1.option f = rec.option f := by
  unfold setOption at hset
  split at hset
  · cases hset
  next hopt =>
  have hcall : setCall rec (.option f) = (key, value) := by
    dsimp only at hset
    split at hset <;> exact Option.some.inj hset
  cases hcall
  rw [option_getOptions (not_not.mp hopt), hanswer]
  -- The choice that was sent is the one at the index of the field.
  have hvalue : f.choices.getD (rec.option f) "" = f.choices[rec.option f] :=
    List.getD_eq_getElem f.choices "" hlisted
  rw [Answer.store, hvalue, choiceOf_eq (choices_nodup f), if_pos (List.getElem_mem hlisted)]
  exact (choices_nodup f).idxOf_getElem _ hlisted

end

/-- The fields are right if and only if nothing is left in the buffer that could be taken for an answer. -/
theorem getOptions_sound_iff (rec : Fields) (answers : String → Answer) (optbuff hostbuff : String)
    (interruptAccept : Bool) (hopt : rec.optioniv = true) :
    Sound rec answers optbuff hostbuff interruptAccept ↔ NothingLeft answers optbuff := by
  constructor
  · intro hsound f
    exact (shown_iff hopt f).mp (hsound.shown f)
  · intro hleft
    exact ⟨fun f => (shown_iff hopt f).mpr (hleft f),
      fun f driver key value hlisted hset hanswer => roundTrip_getOptions f hlisted hset hanswer⟩

/-! ## A terminal server -/

/-- `getOption` of `asynInterposeCom` at 9600 baud, where the driver below it has no options. -/
def comAnswers (key : String) : Answer :=
  if key = "baud" then .returns "9600"
  else if key = "bits" then .returns "8"
  else if key = "parity" then .returns "none"
  else if key = "stop" then .returns "1"
  else if key = "crtscts" then .returns "N"
  else if key = "ixon" then .returns "N"
  else .ignores

def unknownFields : Fields := ⟨true, fun _ => 0, 0, ""⟩

/-- A driver for all keys. -/
def allAnswers (key : String) : Answer := if key = "baud" then .returns "9600" else .returns "N"

theorem getOptions_sound_example : Sound unknownFields allAnswers "" "" true := by
  refine (getOptions_sound_iff unknownFields allAnswers "" "" true rfl).mpr ?_
  intro f hignores
  unfold allAnswers at hignores
  split at hignores <;> cases hignores

/-- The answer to `ixon` is shown by IXOFF, IXANY and DRTO, of which the driver knows nothing. -/
theorem another_answer_shown :
    comAnswers (OptionField.key .ixoff) = .ignores ∧
      (getOptions unknownFields comAnswers "" "" true).1.option .ixoff = 1 ∧
      ¬ Sound unknownFields comAnswers "" "" true := by
  have hshown : (getOptions unknownFields comAnswers "" "" true).1.option .ixoff = 1 := by
    decide
  refine ⟨by decide, hshown, ?_⟩
  intro hsound
  have hzero := hsound.shown .ixoff
  rw [hshown] at hzero
  revert hzero
  decide

end Options
end AsynRecord
end AsynDriver
