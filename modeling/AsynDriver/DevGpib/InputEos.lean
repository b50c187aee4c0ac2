import Mathlib.Logic.Basic
import Mathlib.Tactic.Common

/-!
# The input EOS of a transaction

`setEos` saves the input EOS of the device in `saveEos` of the `deviceInstance` and sets that of the
command; `restoreEos` sets what `saveEos` holds.  There is one `saveEos`, and `writeIt` saves and
restores too when it reads a response.

* `EosState` — the input EOS of the device and the saved one.
* `Outcomes` — what the driver, the start function, the queue and the SRQ wait answer in one transaction.
* `transaction` — a work function with `gpibRead`, up to the call of `finish`; the flag is the failure
  that `finish` is called with.
* `KeepsEos` — when `finish` finds the input EOS that the transaction found (`eos_kept_iff`).

A `setInputEos` that fails leaves the EOS of the device alone.  `convert` and `start` are functions of
the device support that leave it as they found it.
-/

namespace AsynDriver
namespace DevGpib
namespace InputEos

abbrev Eos := List UInt8

/-- The types of which `prepareToRead` and `gpibWrite` know, and all others. -/
inductive CmdType
  | gpibRead
  | gpibWrite
  | gpibCvtio
  | gpibCmd
  | gpibAcmd
  | gpibReadw
  | gpibRawread
  | gpibEfasto
  | gpibEfasti
  | gpibEfastiw
  | other
  deriving DecidableEq, Repr

/-- `cmd` and the entries of the table `P3` count with their length. -/
structure GpibCmd where
  type : CmdType
  cmd : Option Nat
  P3 : List Nat
  rspLen : Int
  msgLen : Int
  eos : Option Eos
  deriving DecidableEq, Repr

/-- An empty `eos` of the command is a NUL. -/
def GpibCmd.inputEos (c : GpibCmd) : Option Eos :=
  c.eos.map fun eos => if eos = [] then [0] else eos

/-- `getInputEos` fails with what it leaves in `saveEos`. -/
inductive GetStatus
  | success
  | failure (left : Eos)
  deriving DecidableEq, Repr

/-- `failure`: the work function is called after a queue timeout or in the time window; the response
read of `writeIt` has calls of its own. -/
structure Outcomes where
  failure : Bool
  start : Bool
  getInputEos : GetStatus
  setInputEos : Bool
  flush : Bool
  sent : Int
  rspGetInputEos : GetStatus
  rspSetInputEos : Bool
  rspRestore : Bool
  srqReadWait : Bool
  waitFailure : Bool
  read : Bool
  restore : Bool
  convert : Option Int
  addressedCmd : Int
  msgLength : Nat
  efastVal : Nat
  deriving DecidableEq, Repr

structure EosState where
  eos : Eos
  saveEos : Eos
  deriving DecidableEq, Repr

/-- `sizeof(saveEos)` -/
def saveEosSize : Nat := 2

/-- What `getInputEos` leaves in `saveEos` when it does not succeed; it refuses a longer EOS. -/
def GetStatus.left (get : GetStatus) (s : EosState) : Option Eos :=
  match get with
  | .success => if s.eos.length ≤ saveEosSize then none else some s.saveEos
  | .failure left => some left

def setInputEos (s : EosState) (eos : Eos) (ok : Bool) : EosState :=
  if ok then { s with eos := eos } else s

def setEos (c : GpibCmd) (s : EosState) (get : GetStatus) (set : Bool) : EosState × Bool :=
  match c.inputEos with
  | none => (s, true)
  | some eos =>
      match get.left s with
      | some left => ({ s with saveEos := left }, false)
      | none => (setInputEos { s with saveEos := s.eos } eos set, set)

def restoreEos (c : GpibCmd) (s : EosState) (set : Bool) : EosState :=
  match c.inputEos with
  | none => s
  | some _ => setInputEos s s.saveEos set

/-- `writeIt` reads a response. -/
def GpibCmd.responds (c : GpibCmd) (respond2Writes : Int) : Bool :=
  decide (0 ≤ respond2Writes ∧ 0 < c.rspLen)

def writeIt (c : GpibCmd) (respond2Writes : Int) (o : Outcomes) (s : EosState) : EosState × Int :=
  if c.responds respond2Writes then
    match setEos c s o.rspGetInputEos o.rspSetInputEos with
    | (s, false) => (s, -1)
    | (s, true) => (restoreEos c s o.rspRestore, o.sent)
  else (s, o.sent)

/-- `gpibRead` up to `finish`. -/
def gpibRead (c : GpibCmd) (o : Outcomes) (s : EosState) (failure : Bool) : EosState × Bool :=
  (restoreEos c s o.restore,
    failure || (decide (c.type ≠ .gpibCvtio) && (decide (c.msgLen ≤ 0) || !o.read)))

def prepareToRead (c : GpibCmd) (respond2Writes : Int) (o : Outcomes) (s : EosState) :
    EosState × Bool :=
  if o.failure || !o.start then gpibRead c o s true
  else if c.type = .gpibCvtio then gpibRead c o s false
  else
    match setEos c s o.getInputEos o.setInputEos with
    | (s, false) => gpibRead c o s true
    | (s, true) =>
        match c.type with
        | .gpibReadw | .gpibEfastiw | .gpibRead | .gpibEfasti =>
            match c.cmd with
            | none => gpibRead c o s true
            | some lenmsg =>
                if o.flush then
                  let (s, nchars) := writeIt c respond2Writes o s
                  if nchars ≠ lenmsg then gpibRead c o s true
                  else if c.type = .gpibReadw ∨ c.type = .gpibEfastiw then
                    -- `readAfterWait` calls `gpibRead` later
                    if o.srqReadWait then gpibRead c o s o.waitFailure else gpibRead c o s true
                  else gpibRead c o s false
                else gpibRead c o s true
        | .gpibRawread => gpibRead c o s false
        | _ => gpibRead c o s true

/-- What `gpibWrite` does for a command: `writeIt` with a message of some length, something else with
the `lenMessage` and the `nchars` that it then compares, or nothing. -/
inductive Message
  | write (lenMessage : Int)
  | compare (lenMessage nchars : Int)
  | none
  deriving DecidableEq, Repr

def Message.writes : Message → Bool
  | .write _ => true
  | _ => false

def gpibWriteMessage (c : GpibCmd) (o : Outcomes) : Message :=
  let lenMessage := o.convert.getD 0
  match c.type with
  | .gpibWrite =>
      if c.msgLen ≤ 0 then .compare lenMessage 0
      else .write (if lenMessage = 0 then o.msgLength else lenMessage)
  | .gpibCmd =>
      match c.cmd with
      | none => .compare lenMessage 0
      | some cmd => .write (if lenMessage = 0 then cmd else lenMessage)
  | .gpibAcmd =>
      match c.cmd with
      | none => .compare lenMessage 0
      -- the status of `addressedCmd` is taken as the number of characters
      | some cmd => .compare (if lenMessage = 0 then cmd else lenMessage) o.addressedCmd
  | .gpibEfasto =>
      match c.P3[o.efastVal]? with
      | none => .compare lenMessage 0
      | some efasto =>
          let prefixed := efasto + c.cmd.getD 0
          if c.cmd ≠ none ∧ c.msgLen ≤ prefixed then .compare lenMessage 0
          else if prefixed = 0 then .compare 0 0
          else .write prefixed
  | _ => .none

def gpibWrite (c : GpibCmd) (respond2Writes : Int) (o : Outcomes) (s : EosState) :
    EosState × Bool :=
  if o.failure || !o.start then (s, true)
  else if o.convert = some (-1) then (s, true)
  else
    match gpibWriteMessage c o with
    | .none => (s, false)
    | .compare lenMessage nchars => (s, decide (nchars ≠ lenMessage))
    | .write lenMessage =>
        let (s, nchars) := writeIt c respond2Writes o s
        (s, decide (nchars ≠ lenMessage))

inductive WorkFunction
  | prepareToRead
  | gpibWrite
  deriving DecidableEq, Repr

def transaction : WorkFunction → GpibCmd → Int → Outcomes → EosState → EosState × Bool
  | .prepareToRead => prepareToRead
  | .gpibWrite => gpibWrite

/-! ## When the EOS is kept -/

/-- `gpibRead` restores `saved` and finds `eos`. -/
def Restores (o : Outcomes) (e₀ eos saved : Eos) : Prop :=
  if o.restore then saved = e₀ else eos = e₀

/-- `prepareToRead` comes to the call of `writeIt` when `setEos` has succeeded. -/
def GpibCmd.writesBeforeRead (c : GpibCmd) (o : Outcomes) : Bool :=
  o.flush && c.cmd.isSome &&
    (c.type == .gpibReadw || c.type == .gpibEfastiw || c.type == .gpibRead || c.type == .gpibEfasti)

/-- The condition for a read with the EOS `eos` of its own.  Without `setEos`, or when its
`getInputEos` fails, what `saveEos` held before or was left with is restored.  After `setEos` the EOS is
restored unless the response read has overwritten `saveEos` with the EOS of the command. -/
def KeepsEosOnRead (c : GpibCmd) (respond2Writes : Int) (o : Outcomes) (s : EosState) (eos : Eos) :
    Prop :=
  if o.failure || !o.start || c.type == .gpibCvtio then Restores o s.eos s.eos s.saveEos
  else
    match o.getInputEos.left s with
    | some left => Restores o s.eos s.eos left
    | none =>
        if o.setInputEos then
          if c.writesBeforeRead o && c.responds respond2Writes then
            match o.rspGetInputEos.left ⟨eos, s.eos⟩ with
            | some left => Restores o s.eos eos left
            | none => eos = s.eos
          else Restores o s.eos eos s.eos
        else True

/-- The condition for a write: only the response read sets the EOS, and restores it once. -/
def KeepsEosOnWrite (c : GpibCmd) (respond2Writes : Int) (o : Outcomes) (s : EosState) (eos : Eos) :
    Prop :=
  o.failure = false → o.start = true → o.convert ≠ some (-1) →
    (gpibWriteMessage c o).writes = true → c.responds respond2Writes = true →
      o.rspGetInputEos.left s = none → o.rspSetInputEos = true →
        o.rspRestore = true ∨ eos = s.eos

def KeepsEos (work : WorkFunction) (c : GpibCmd) (respond2Writes : Int) (o : Outcomes)
    (s : EosState) : Prop :=
  ∀ eos, c.inputEos = some eos →
    match work with
    | .prepareToRead => KeepsEosOnRead c respond2Writes o s eos
    | .gpibWrite => KeepsEosOnWrite c respond2Writes o s eos

variable {c : GpibCmd} {respond2Writes : Int} {o : Outcomes} {s : EosState} {eos : Eos}

theorem setEos_of_eos (heos : c.inputEos = some eos) (get : GetStatus) (set : Bool) :
    setEos c s get set =
      match get.left s with
      | some left => (⟨s.eos, left⟩, false)
      | none => (⟨if set then eos else s.eos, s.eos⟩, set) := by
  simp only [setEos, heos, setInputEos]
  cases get.left s with
  | some left => rfl
  | none => cases set <;> rfl

theorem restoreEos_of_eos (heos : c.inputEos = some eos) (set : Bool) :
    restoreEos c s set = ⟨if set then s.saveEos else s.eos, s.saveEos⟩ := by
  simp only [restoreEos, heos, setInputEos]
  cases set <;> rfl

/-- The EOS and the save slot after `writeIt`. -/
theorem writeIt_of_eos (heos : c.inputEos = some eos) :
    (writeIt c respond2Writes o s).1 =
      if c.responds respond2Writes then
        match o.rspGetInputEos.left s with
        | some left => ⟨s.eos, left⟩
        | none =>
            if o.rspSetInputEos = true ∧ o.rspRestore = false then ⟨eos, s.eos⟩
            else ⟨s.eos, s.eos⟩
      else s := by
  unfold writeIt
  split
  · rw [setEos_of_eos heos]
    cases o.rspGetInputEos.left s with
    | some left => rfl
    | none =>
        cases hset : o.rspSetInputEos with
        | false => simp
        | true =>
            simp only [if_true, restoreEos_of_eos heos]
            cases o.rspRestore <;> simp
  · rfl

theorem gpibRead_fst (failure : Bool) : (gpibRead c o s failure).1 = restoreEos c s o.restore :=
  rfl

theorem afterWrite_fst (p q : Prop) [Decidable p] [Decidable q] :
    (if p then gpibRead c o s true
      else if q then
        if o.srqReadWait then gpibRead c o s o.waitFailure else gpibRead c o s true
      else gpibRead c o s false).1 = restoreEos c s o.restore := by
  split
  · rfl
  · split
    · split <;> rfl
    · rfl

/-- The state in which `gpibRead` is called. -/
def stateAtRead (c : GpibCmd) (respond2Writes : Int) (o : Outcomes) (s : EosState) : EosState :=
  if o.failure || !o.start || c.type == .gpibCvtio then s
  else
    let (s, ok) := setEos c s o.getInputEos o.setInputEos
    if ok && c.writesBeforeRead o then (writeIt c respond2Writes o s).1 else s

/-- However it goes, `prepareToRead` ends with `gpibRead`, and that with `restoreEos`. -/
theorem prepareToRead_fst :
    (prepareToRead c respond2Writes o s).1 =
      restoreEos c (stateAtRead c respond2Writes o s) o.restore := by
  unfold prepareToRead stateAtRead
  by_cases hfailure : (o.failure || !o.start) = true
  · simp only [hfailure, Bool.true_or, if_true, gpibRead_fst]
  by_cases hcvtio : c.type = .gpibCvtio
  · simp only [hcvtio, beq_self_eq_true, Bool.or_true, if_true, hfailure, Bool.false_eq_true,
      if_false, gpibRead_fst]
  have hreaches : ¬ (o.failure || !o.start || c.type == .gpibCvtio) = true := by
    simp only [Bool.or_eq_true, beq_iff_eq, not_or] at hfailure ⊢
    exact ⟨hfailure, hcvtio⟩
  rw [if_neg hfailure, if_neg hcvtio, if_neg hreaches]
  obtain ⟨s₁, ok⟩ := setEos c s o.getInputEos o.setInputEos
  cases ok with
  | false => rfl
  | true =>
      rcases hwrite : writeIt c respond2Writes o s₁ with ⟨s₂, nchars⟩
      cases htype : c.type with
      | gpibReadw | gpibEfastiw | gpibRead | gpibEfasti =>
          cases hcmd : c.cmd with
          | none => simp [GpibCmd.writesBeforeRead, hcmd, gpibRead_fst]
          | some lenmsg =>
              cases hflush : o.flush with
              | false => simp [GpibCmd.writesBeforeRead, hflush, gpibRead_fst]
              | true =>
                  have hafter : c.writesBeforeRead o = true := by
                    simp [GpibCmd.writesBeforeRead, hflush, hcmd, htype]
                  simp only [hwrite, hafter, Bool.and_self, if_true]
                  exact afterWrite_fst _ _
      | gpibRawread | gpibWrite | gpibCvtio | gpibCmd | gpibAcmd | gpibEfasto | other =>
          simp [GpibCmd.writesBeforeRead, htype, gpibRead_fst]

theorem gpibWrite_fst :
    (gpibWrite c respond2Writes o s).1 =
      if o.failure = false ∧ o.start = true ∧ o.convert ≠ some (-1) ∧
          (gpibWriteMessage c o).writes = true then
        (writeIt c respond2Writes o s).1
      else s := by
  unfold gpibWrite
  cases hfailure : o.failure with
  | true => simp
  | false =>
      cases hstart : o.start with
      | false => simp
      | true =>
          by_cases hconvert : o.convert = some (-1)
          · simp [hconvert]
          · cases hmessage : gpibWriteMessage c o with
            | none => simp [hconvert, Message.writes]
            | compare lenMessage nchars => simp [hconvert, Message.writes]
            | write lenMessage => simp [hconvert, Message.writes]

/-- Commands without an EOS of their own leave the device and the save slot alone. -/
theorem transaction_of_no_eos (work : WorkFunction) (heos : c.inputEos = none) :
    (transaction work c respond2Writes o s).1 = s := by
  have hset : ∀ s get set, setEos c s get set = (s, true) := by
    intro s get set
    simp only [setEos, heos]
  have hrestore : ∀ s set, restoreEos c s set = s := by
    intro s set
    simp only [restoreEos, heos]
  have hwrite : ∀ s, (writeIt c respond2Writes o s).1 = s := by
    intro s
    simp only [writeIt, hset, hrestore, ite_self]
  cases work with
  | prepareToRead =>
      change (prepareToRead c respond2Writes o s).1 = s
      rw [prepareToRead_fst, hrestore]
      simp only [stateAtRead, hset, hwrite, ite_self]
  | gpibWrite =>
      change (gpibWrite c respond2Writes o s).1 = s
      rw [gpibWrite_fst, hwrite, ite_self]

theorem restoreEos_eq_iff (heos : c.inputEos = some eos) (e₀ : Eos) :
    (restoreEos c s o.restore).eos = e₀ ↔ Restores o e₀ s.eos s.saveEos := by
  rw [restoreEos_of_eos heos, Restores]
  cases o.restore <;> simp

theorem read_eos_iff (heos : c.inputEos = some eos) :
    (prepareToRead c respond2Writes o s).1.eos = s.eos ↔
      KeepsEosOnRead c respond2Writes o s eos := by
  rw [prepareToRead_fst, restoreEos_eq_iff heos]
  unfold stateAtRead KeepsEosOnRead
  split
  · exact Iff.rfl
  · rw [setEos_of_eos heos]
    cases o.getInputEos.left s with
    | some left => simp
    | none =>
        cases hset : o.setInputEos with
        | false => simp [Restores]
        | true =>
            cases hafter : c.writesBeforeRead o with
            | false => simp
            | true =>
                simp only [if_true, Bool.and_self, Bool.true_and, writeIt_of_eos heos]
                cases c.responds respond2Writes with
                | false => simp
                | true =>
                    simp only [if_true]
                    cases o.rspGetInputEos.left ⟨eos, s.eos⟩ with
                    | some left => exact Iff.rfl
                    | none =>
                        -- the slot now holds the EOS of the command
                        split <;> simp [Restores]

theorem write_eos_iff (heos : c.inputEos = some eos) :
    (gpibWrite c respond2Writes o s).1.eos = s.eos ↔
      KeepsEosOnWrite c respond2Writes o s eos := by
  rw [gpibWrite_fst]
  unfold KeepsEosOnWrite
  split
  · next hwrites =>
      obtain ⟨hfailure, hstart, hconvert, hmessage⟩ := hwrites
      rw [writeIt_of_eos heos]
      cases c.responds respond2Writes with
      | false => simp
      | true =>
          cases o.rspGetInputEos.left s with
          | some left => simp
          | none =>
              cases o.rspSetInputEos with
              | false => simp
              | true => cases o.rspRestore <;> simp [hfailure, hstart, hconvert, hmessage]
  · next hnot =>
      constructor
      · intro _ hfailure hstart hconvert hmessage
        exact absurd ⟨hfailure, hstart, hconvert, hmessage⟩ hnot
      · intro _
        rfl

/-- `finish` finds the input EOS of before exactly under the condition. -/
theorem eos_kept_iff (work : WorkFunction) (c : GpibCmd) (respond2Writes : Int) (o : Outcomes)
    (s : EosState) :
    (transaction work c respond2Writes o s).1.eos = s.eos ↔ KeepsEos work c respond2Writes o s := by
  cases heos : c.inputEos with
  | none =>
      rw [transaction_of_no_eos work heos]
      simp [KeepsEos, heos]
  | some eos =>
      have hcondition : KeepsEos work c respond2Writes o s ↔
          match work with
          | .prepareToRead => KeepsEosOnRead c respond2Writes o s eos
          | .gpibWrite => KeepsEosOnWrite c respond2Writes o s eos := by
        simp [KeepsEos, heos]
      rw [hcondition]
      cases work with
      | prepareToRead => exact read_eos_iff heos
      | gpibWrite => exact write_eos_iff heos

/-! ## Failing transactions -/

/-- A read with the EOS LF and a response read to each write. -/
def readCmd : GpibCmd := ⟨.gpibRead, some 5, [], 10, 80, some [10]⟩

/-- Everything succeeds. -/
def allWell : Outcomes where
  failure := false
  start := true
  getInputEos := .success
  setInputEos := true
  flush := true
  sent := 5
  rspGetInputEos := .success
  rspSetInputEos := true
  rspRestore := true
  srqReadWait := true
  waitFailure := false
  read := true
  restore := true
  convert := none
  addressedCmd := 0
  msgLength := 0
  efastVal := 0

/-- A queue timeout restores what an earlier transaction saved; a response read loses the EOS of the
device even when nothing fails. -/
theorem eos_lost :
    (transaction .prepareToRead { readCmd with rspLen := 0 } (-1) { allWell with failure := true }
        ⟨[13, 10], [59]⟩).1.eos = [59] ∧
      (transaction .prepareToRead readCmd 0 allWell ⟨[13, 10], []⟩) = (⟨[10], [10]⟩, false) ∧
      ¬ ∀ work c respond2Writes o s,
        (transaction work c respond2Writes o s).1.eos = s.eos := by
  refine ⟨by decide, by decide, ?_⟩
  intro hkept
  have hlost := hkept .prepareToRead readCmd 0 allWell ⟨[13, 10], []⟩
  exact absurd hlost (by decide)

end InputEos
end DevGpib
end AsynDriver
