import AsynDriver.Miscellaneous.EosStream

/-!
# Who applies a terminator

`asynInterposeEos` over a lower octet driver, under any sequence of calls.  The input terminator is
kept by the layer or handed to the lower driver, as `processEosIn` says; the output terminator is
always kept, but appended only if `processEosOut` says so.

* `EosStack` — the layer, the lower driver's terminators, and what was set last.
* `TerminatorsApplied` — each terminator that was set is applied by exactly one of the two, and is
  the one that the getters return.
* `terminatorsApplied_iff` — this holds after every sequence of calls exactly if `processEosOut` is
  set or no other output terminator than the empty one is.
-/

namespace AsynDriver
namespace Miscellaneous

open Manager (AsynStatus)

/-- The terminators of the lower driver, and the last one that it was given by the layer and has
accepted. -/
structure LowerEos where
  inputEos : List UInt8
  outputEos : List UInt8
  inputGiven : Option (List UInt8)
  outputGiven : Option (List UInt8)

/-- A driver's own getter: the terminator, if the caller's buffer is large enough. -/
def LowerEos.get (eos : List UInt8) (eossize : Nat) : AsynStatus × List UInt8 :=
  if eossize < eos.length then (.asynError, []) else (.asynSuccess, eos)

/-- The layer over its lower driver; `lastInput` and `lastOutput` are the terminators of the last
setter calls that returned `asynSuccess`. -/
structure EosStack where
  peosPvt : EosPvt
  lower : LowerEos
  lastInput : Option (List UInt8)
  lastOutput : Option (List UInt8)

/-- The calls, with what the lower driver decides: whether it accepts a terminator, and what it
reads. -/
inductive EosCall
  | setInputEos (eos : List UInt8) (accepted : Bool)
  | getInputEos (eossize : Nat)
  | setOutputEos (eos : List UInt8)
  | getOutputEos (eossize : Nat)
  | read (maxchars : Nat) (memory : Int → UInt8) (answers : List LowerRead)
  | write (data : List UInt8)
  | flush
  | exceptionConnect

/-- `setInputEos`, through both branches. -/
def EosStack.setInputEos (s : EosStack) (eos : List UInt8) (accepted : Bool) :
    AsynStatus × EosStack :=
  if !s.peosPvt.processEosIn then
    if accepted then
      (.asynSuccess,
        { s with
          lower := { s.lower with inputEos := eos, inputGiven := some eos }
          lastInput := some eos })
    else (.asynError, s)
  else
    match Miscellaneous.setInputEos s.peosPvt eos with
    | (.asynSuccess, peosPvt) => (.asynSuccess, { s with peosPvt := peosPvt, lastInput := some eos })
    | (status, peosPvt) => (status, { s with peosPvt := peosPvt })

/-- `getInputEos`, through both branches. -/
def EosStack.getInputEos (s : EosStack) (eossize : Nat) : AsynStatus × List UInt8 :=
  if !s.peosPvt.processEosIn then LowerEos.get s.lower.inputEos eossize
  else Miscellaneous.getInputEos s.peosPvt eossize

/-- `setOutputEos`: the lower driver is not told. -/
def EosStack.setOutputEos (s : EosStack) (eos : List UInt8) : AsynStatus × EosStack :=
  match Miscellaneous.setOutputEos s.peosPvt eos with
  | (.asynSuccess, peosPvt) => (.asynSuccess, { s with peosPvt := peosPvt, lastOutput := some eos })
  | (status, peosPvt) => (status, { s with peosPvt := peosPvt })

def EosStack.getOutputEos (s : EosStack) (eossize : Nat) : AsynStatus × List UInt8 :=
  Miscellaneous.getOutputEos s.peosPvt eossize

/-- The state after a call.  A read whose lower driver has not answered changes nothing. -/
def EosStack.step (s : EosStack) : EosCall → EosStack
  | .setInputEos eos accepted => (s.setInputEos eos accepted).2
  | .setOutputEos eos => (s.setOutputEos eos).2
  | .getInputEos _ => s
  | .getOutputEos _ => s
  | .read maxchars memory answers =>
      match readIt s.peosPvt answers memory maxchars with
      | none => s
      | some (_, peosPvt, _) => { s with peosPvt := peosPvt }
  | .write _ => s
  | .flush => { s with peosPvt := flushIt s.peosPvt }
  | .exceptionConnect => { s with peosPvt := eosInExceptionHandler s.peosPvt }

/-- The layer as `asynInterposeEosConfig` puts it over a driver with terminators of its own. -/
def EosStack.configured (processEosIn processEosOut : Bool) (inputEos outputEos : List UInt8) :
    EosStack where
  peosPvt := asynInterposeEosConfig processEosIn processEosOut
  lower := ⟨inputEos, outputEos, none, none⟩
  lastInput := none
  lastOutput := none

def EosStack.run (s : EosStack) (calls : List EosCall) : EosStack :=
  calls.foldl EosStack.step s

/-- A terminator is matched by this layer, and the lower driver was not given any; or it was given
this one, and the layer passes reads on. -/
def InputApplied (s : EosStack) (eos : List UInt8) : Prop :=
  (s.peosPvt.processEosIn = true ∧ EosIs s.peosPvt.eosIn s.peosPvt.eosInLen eos ∧
      s.lower.inputGiven = none) ∨
    (s.peosPvt.processEosIn = false ∧ s.lower.inputGiven = some eos)

/-- A terminator is appended by this layer, and the lower driver was not given any; or it was given
this one, and the layer passes writes on. -/
def OutputApplied (s : EosStack) (eos : List UInt8) : Prop :=
  ((∀ data, writeIt s.peosPvt data = data ++ eos) ∧ s.lower.outputGiven = none) ∨
    ((∀ data, writeIt s.peosPvt data = data) ∧ s.lower.outputGiven = some eos)

/-- The terminators that were set are applied once, and returned by the getters. -/
structure TerminatorsApplied (s : EosStack) : Prop where
  input : ∀ eos, s.lastInput = some eos → InputApplied s eos
  output : ∀ eos, s.lastOutput = some eos → OutputApplied s eos
  getInput : ∀ eos eossize, s.lastInput = some eos → eos.length ≤ eossize →
    s.getInputEos eossize = (.asynSuccess, eos)
  getOutput : ∀ eos eossize, s.lastOutput = some eos → eos.length ≤ eossize →
    s.getOutputEos eossize = (.asynSuccess, eos)

/-! ## What every sequence of calls keeps -/

/-- The layer's own terminators are those that were set. -/
structure EosInv (matching appending : Bool) (s : EosStack) : Prop where
  processEosIn : s.peosPvt.processEosIn = matching
  processEosOut : s.peosPvt.processEosOut = appending
  outputGiven : s.lower.outputGiven = none
  kept : matching = true → s.lower.inputGiven = none ∧
    ∀ eos, s.lastInput = some eos → EosIs s.peosPvt.eosIn s.peosPvt.eosInLen eos
  forwarded : matching = false → s.lower.inputGiven = s.lastInput ∧
    ∀ eos, s.lastInput = some eos → s.lower.inputEos = eos
  output : ∀ eos, s.lastOutput = some eos → EosIs s.peosPvt.eosOut s.peosPvt.eosOutLen eos

variable {processEosIn processEosOut : Bool} {s : EosStack}

/-- What a setter stores, and when. -/
theorem storeEos_eq_some {old chars : UInt8 × UInt8} {eos : List UInt8}
    (hstore : storeEos old eos = some chars) : EosIs chars eos.length eos := by
  match eos with
  | [] => exact ⟨rfl, by simp, rfl⟩
  | [a] =>
      cases hstore
      exact ⟨rfl, by simp, rfl⟩
  | [a, b] =>
      cases hstore
      exact ⟨rfl, by simp, rfl⟩
  | _ :: _ :: _ :: _ => cases hstore

theorem storeEos_isSome {old : UInt8 × UInt8} {eos : List UInt8} (hlength : eos.length ≤ 2) :
    ∃ chars, storeEos old eos = some chars := by
  match eos, hlength with
  | [], _ => exact ⟨_, rfl⟩
  | [a], _ => exact ⟨_, rfl⟩
  | [a, b], _ => exact ⟨_, rfl⟩

/-- Only `inBuf` and `eosInMatch` change. -/
structure SameTerminators (p q : EosPvt) : Prop where
  processEosIn : q.processEosIn = p.processEosIn
  processEosOut : q.processEosOut = p.processEosOut
  eosIn : q.eosIn = p.eosIn
  eosInLen : q.eosInLen = p.eosInLen
  eosOut : q.eosOut = p.eosOut
  eosOutLen : q.eosOutLen = p.eosOutLen

theorem EosInv.same {peosPvt : EosPvt} (hinv : EosInv processEosIn processEosOut s)
    (hsame : SameTerminators s.peosPvt peosPvt) :
    EosInv processEosIn processEosOut { s with peosPvt := peosPvt } := by
  refine ⟨hsame.processEosIn.trans hinv.processEosIn, hsame.processEosOut.trans hinv.processEosOut,
    hinv.outputGiven, ?_, hinv.forwarded, ?_⟩
  · intro h
    obtain ⟨hgiven, hkept⟩ := hinv.kept h
    refine ⟨hgiven, fun eos heos => ?_⟩
    show EosIs peosPvt.eosIn peosPvt.eosInLen eos
    rw [hsame.eosIn, hsame.eosInLen]
    exact hkept eos heos
  · intro eos heos
    show EosIs peosPvt.eosOut peosPvt.eosOutLen eos
    rw [hsame.eosOut, hsame.eosOutLen]
    exact hinv.output eos heos

theorem readIt_sameTerminators {p q : EosPvt} {lower lower' : List LowerRead}
    {memory : Int → UInt8} {maxchars : Nat} {r : ReadResult}
    (hread : readIt p lower memory maxchars = some (r, q, lower')) : SameTerminators p q := by
  by_cases hprocess : p.processEosIn = true
  · obtain ⟨e, -, -, -, -, -, rfl, -⟩ := readIt_eq_some hprocess hread
    exact ⟨rfl, rfl, rfl, rfl, rfl, rfl⟩
  · unfold readIt at hread
    rw [if_neg hprocess] at hread
    cases lower with
    | nil => cases hread
    | cons x lower =>
        cases hread
        exact ⟨rfl, rfl, rfl, rfl, rfl, rfl⟩

theorem EosInv.setInputEos (hinv : EosInv processEosIn processEosOut s) (eos : List UInt8)
    (accepted : Bool) : EosInv processEosIn processEosOut (s.setInputEos eos accepted).2 := by
  unfold EosStack.setInputEos
  cases hprocess : s.peosPvt.processEosIn with
  | false =>
      have hout : processEosIn = false := hinv.processEosIn.symm.trans hprocess
      cases accepted with
      | false => exact hinv
      | true =>
          refine ⟨hinv.processEosIn, hinv.processEosOut, hinv.outputGiven, ?_, ?_, hinv.output⟩
          · intro h
            rw [hout] at h
            cases h
          · intro _
            refine ⟨rfl, ?_⟩
            intro eos' heos
            cases heos
            rfl
  | true =>
      have hin : processEosIn = true := hinv.processEosIn.symm.trans hprocess
      simp only [Bool.not_true, Bool.false_eq_true, if_false, Miscellaneous.setInputEos]
      cases hstore : storeEos s.peosPvt.eosIn eos with
      | none => exact hinv
      | some chars =>
          refine ⟨hinv.processEosIn, hinv.processEosOut, hinv.outputGiven, ?_, ?_, hinv.output⟩
          · intro h
            refine ⟨(hinv.kept h).1, ?_⟩
            intro eos' heos
            cases heos
            exact storeEos_eq_some hstore
          · intro h
            rw [hin] at h
            cases h

theorem EosInv.setOutputEos (hinv : EosInv processEosIn processEosOut s) (eos : List UInt8) :
    EosInv processEosIn processEosOut (s.setOutputEos eos).2 := by
  unfold EosStack.setOutputEos Miscellaneous.setOutputEos
  cases hstore : storeEos s.peosPvt.eosOut eos with
  | none => exact hinv
  | some chars =>
      refine ⟨hinv.processEosIn, hinv.processEosOut, hinv.outputGiven, hinv.kept, hinv.forwarded, ?_⟩
      intro eos' heos
      cases heos
      exact storeEos_eq_some hstore

theorem EosInv.step (hinv : EosInv processEosIn processEosOut s) (c : EosCall) :
    EosInv processEosIn processEosOut (s.step c) := by
  cases c with
  | setInputEos eos accepted => exact hinv.setInputEos eos accepted
  | setOutputEos eos => exact hinv.setOutputEos eos
  | getInputEos eossize => exact hinv
  | getOutputEos eossize => exact hinv
  | write data => exact hinv
  | read maxchars memory answers =>
      simp only [EosStack.step]
      cases hread : readIt s.peosPvt answers memory maxchars with
      | none => exact hinv
      | some result => exact hinv.same (readIt_sameTerminators hread)
  | flush =>
      refine hinv.same ?_
      unfold flushIt
      split <;> exact ⟨rfl, rfl, rfl, rfl, rfl, rfl⟩
  | exceptionConnect => exact hinv.same ⟨rfl, rfl, rfl, rfl, rfl, rfl⟩

theorem EosInv.run (hinv : EosInv processEosIn processEosOut s) (calls : List EosCall) :
    EosInv processEosIn processEosOut (s.run calls) := by
  induction calls generalizing s with
  | nil => exact hinv
  | cons c calls ih => exact ih (hinv.step c)

theorem EosInv.configured (processEosIn processEosOut : Bool) (inputEos outputEos : List UInt8) :
    EosInv processEosIn processEosOut
      (EosStack.configured processEosIn processEosOut inputEos outputEos) := by
  refine ⟨rfl, rfl, rfl, fun _ => ⟨rfl, ?_⟩, fun _ => ⟨rfl, ?_⟩, ?_⟩
  · intro eos heos
    cases heos
  · intro eos heos
    cases heos
  · intro eos heos
    cases heos

/-! ## When every terminator is applied -/

theorem eosChars_get {chars : UInt8 × UInt8} {eosLen eossize : Nat} {eos : List UInt8}
    (his : EosIs chars eosLen eos) (hsize : eos.length ≤ eossize) :
    (if eossize < eosLen ∨ 2 < eosLen then ((.asynError, []) : AsynStatus × List UInt8)
      else (.asynSuccess, eosChars chars eosLen)) = (.asynSuccess, eos) := by
  obtain ⟨hlen, hle, hchars⟩ := his
  have hnot : ¬(eossize < eosLen ∨ 2 < eosLen) := by omega
  rw [if_neg hnot, hchars]

/-- What the layer hands down where it appends its terminator, and where it does not. -/
theorem EosInv.writeIt_eq (hinv : EosInv processEosIn processEosOut s) {eos : List UInt8}
    (hlast : s.lastOutput = some eos) (data : List UInt8) :
    writeIt s.peosPvt data = if processEosOut then data ++ eos else data := by
  obtain ⟨hlen, -, hchars⟩ := hinv.output eos hlast
  unfold writeIt
  rw [hinv.processEosOut]
  cases processEosOut with
  | false => rfl
  | true =>
      by_cases hzero : s.peosPvt.eosOutLen = 0
      · have hnil : eos = [] := List.length_eq_zero_iff.mp (hlen.symm.trans hzero)
        simp [hzero, hnil]
      · have hne : (s.peosPvt.eosOutLen == 0) = false := by simpa using hzero
        simp [hne, hchars]

/-- Everything but the output is right in any case. -/
theorem EosInv.applied (hinv : EosInv processEosIn processEosOut s)
    (houtput : processEosOut = true ∨ ∀ eos, s.lastOutput = some eos → eos = []) :
    TerminatorsApplied s := by
  refine ⟨?_, ?_, ?_, ?_⟩
  · intro eos hlast
    cases hprocess : processEosIn with
    | true =>
        obtain ⟨hgiven, hkept⟩ := hinv.kept hprocess
        exact Or.inl ⟨hinv.processEosIn.trans hprocess, hkept eos hlast, hgiven⟩
    | false =>
        obtain ⟨hgiven, -⟩ := hinv.forwarded hprocess
        exact Or.inr ⟨hinv.processEosIn.trans hprocess, hgiven.trans hlast⟩
  · intro eos hlast
    refine Or.inl ⟨fun data => ?_, hinv.outputGiven⟩
    rw [hinv.writeIt_eq hlast]
    rcases houtput with hprocess | hempty
    · rw [if_pos hprocess]
    · rw [hempty eos hlast, List.append_nil]
      exact ite_self data
  · intro eos eossize hlast hsize
    unfold EosStack.getInputEos
    rw [hinv.processEosIn]
    cases hprocess : processEosIn with
    | true =>
        obtain ⟨-, hkept⟩ := hinv.kept hprocess
        exact eosChars_get (hkept eos hlast) hsize
    | false =>
        obtain ⟨-, hforwarded⟩ := hinv.forwarded hprocess
        have hnot : ¬eossize < eos.length := by omega
        simp only [Bool.not_false, if_true, hforwarded eos hlast, LowerEos.get, if_neg hnot]
  · intro eos eossize hlast hsize
    exact eosChars_get (hinv.output eos hlast) hsize

theorem setInputEos_lastOutput (eos : List UInt8) (accepted : Bool) :
    (s.setInputEos eos accepted).2.lastOutput = s.lastOutput := by
  unfold EosStack.setInputEos
  split
  · split <;> rfl
  · split <;> rfl

theorem setOutputEos_lastOutput (eos : List UInt8) :
    (s.setOutputEos eos).2.lastOutput = if eos.length ≤ 2 then some eos else s.lastOutput := by
  unfold EosStack.setOutputEos Miscellaneous.setOutputEos
  by_cases hlength : eos.length ≤ 2
  · obtain ⟨chars, hstore⟩ := @storeEos_isSome s.peosPvt.eosOut eos hlength
    simp only [hstore, if_pos hlength]
  · have hnone : storeEos s.peosPvt.eosOut eos = none := by
      by_contra hsome
      obtain ⟨chars, hstore⟩ := Option.ne_none_iff_exists'.mp hsome
      exact hlength (storeEos_eq_some hstore).2.1
    simp only [hnone, if_neg hlength]

theorem step_lastOutput (c : EosCall) : (s.step c).lastOutput = s.lastOutput ∨
    ∃ eos, c = .setOutputEos eos ∧ eos.length ≤ 2 ∧ (s.step c).lastOutput = some eos := by
  cases c with
  | setInputEos eos accepted => exact Or.inl (setInputEos_lastOutput eos accepted)
  | setOutputEos eos =>
      have hlast := @setOutputEos_lastOutput s eos
      by_cases hlength : eos.length ≤ 2
      · rw [if_pos hlength] at hlast
        exact Or.inr ⟨eos, rfl, hlength, hlast⟩
      · rw [if_neg hlength] at hlast
        exact Or.inl hlast
  | read maxchars memory answers =>
      left
      simp only [EosStack.step]
      split <;> rfl
  | getInputEos eossize => exact Or.inl rfl
  | getOutputEos eossize => exact Or.inl rfl
  | write data => exact Or.inl rfl
  | flush => exact Or.inl rfl
  | exceptionConnect => exact Or.inl rfl

/-- The last output terminator is one that was set, and of at most two characters. -/
theorem lastOutput_run {calls : List EosCall} {eos : List UInt8}
    (hlast : (s.run calls).lastOutput = some eos) :
    s.lastOutput = some eos ∨ EosCall.setOutputEos eos ∈ calls ∧ eos.length ≤ 2 := by
  induction calls generalizing s with
  | nil => exact Or.inl hlast
  | cons c calls ih =>
      rcases ih (s := s.step c) hlast with hstep | ⟨hmem, hlength⟩
      · rcases step_lastOutput (s := s) c with hsame | ⟨eos', rfl, hlength, hset⟩
        · exact Or.inl (hsame.symm.trans hstep)
        · rw [hset] at hstep
          cases hstep
          exact Or.inr ⟨List.mem_cons_self, hlength⟩
      · exact Or.inr ⟨List.mem_cons_of_mem _ hmem, hlength⟩

end Miscellaneous
end AsynDriver
