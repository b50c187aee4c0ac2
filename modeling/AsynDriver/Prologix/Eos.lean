import AsynDriver.Prologix.Read

/-!
# `prologixSetEos` and `prologixGetEos` of `drvPrologixGPIB.c`

The terminator of a port is in `eos` of the driver, and in the mode `eot_enable` of its adapter, which puts
a marker behind a reply where there is no terminator.  `prologixSetEos` tells the adapter about the
terminator that was there before, and does not store the new one.

* `Port` — a driver with its adapter, and the terminator that the last successful `prologixSetEos` has
  asked for.
* `InForce` — a terminator that all operations agree on.
* `eos_in_force_iff` — after calls that have not set a terminator, the next one leaves what was asked for in
  force exactly when it does not set one either; `terminator_not_set` — the shortest run in which it does.
-/

namespace AsynDriver
namespace Prologix

open Library Library.Escape
open Manager (AsynStatus)

/-- `eotEnable` is `none` until the adapter has been told. -/
structure Port extends State where
  eotEnable : Option Bool
  asked : Option UInt8

/-- `prologixGPIBConfigure` sets no terminator. -/
def Port.configured : Port where
  toState := .configured none
  eotEnable := none
  asked := none

/-- `*eos`, where it is stored, and `*eoslen`. -/
def prologixGetEos (p : DPvt) (eossize : Int) : Option UInt8 × Nat :=
  match p.eos with
  | none => (none, 0)
  | some c => (if 0 < eossize then some c else none, 1)

/-- A call of `prologixSetEos`: `eos` is the first byte of the terminator, `answer` what the write to the
adapter returns, and `told` whether the adapter has taken a command whose write fails. -/
structure SetEos where
  eos : UInt8
  eoslen : Int
  answer : AsynStatus
  told : Bool
  deriving DecidableEq, Repr

/-- `newEos`, or `none` for "Invalid EOS". -/
def SetEos.newEos (c : SetEos) : Option (Option UInt8) :=
  -- A length below 0, or above 1, is refused.
  if c.eoslen = 0 then some none else if c.eoslen = 1 then some (some c.eos) else none

def eotEnableCommand (on : Bool) : List UInt8 :=
  ascii ("++eot_enable " ++ (if on then "1" else "0") ++ "\n")

/-- The mode of the adapter after a command. -/
def modeAfter (eotEnable : Option Bool) (on : Bool) (answer : AsynStatus) (told : Bool) : Option Bool :=
  if answer = .asynSuccess ∨ told = true then some on else eotEnable

namespace Port

def setEos (s : Port) (c : SetEos) : Port × AsynStatus :=
  match c.newEos with
  | none => (s, .asynError)
  | some newEos =>
      if s.pvt.eos = newEos then ({ s with asked := newEos }, .asynSuccess)
      else
        -- The mode is that of the old terminator, and `eos` stays as it is.
        ({ s with
            pvt := s.pvt.print (eotEnableCommand s.pvt.eos.isNone)
            owner := none
            eotEnable := modeAfter s.eotEnable s.pvt.eos.isNone c.answer c.told
            asked := if c.answer = .asynSuccess then newEos else s.asked }, c.answer)

/-- `answer` is what the write of `connectCommands` returns. -/
def connect (s : Port) (address : Int) (connected : Bool) (answer : AsynStatus) (told : Bool) : Port :=
  { s with
    toState := s.toState.connect address connected
    eotEnable :=
      if address < 0 ∧ connected = true then modeAfter s.eotEnable true answer told else s.eotEnable }

inductive Action
  | setEos (c : SetEos)
  | getEos (eossize : Int)
  | write (w : Write)
  | read (r : Read)
  | flush
  | connect (address : Int) (connected : Bool) (answer : AsynStatus) (told : Bool)
  deriving DecidableEq

def step (s : Port) : Action → Option Port
  | .setEos c => some (s.setEos c).1
  | .getEos _ => some s
  | .write w => some { s with toState := s.toState.write w }
  | .read r => (prologixRead s.toState r).map fun read => { s with toState := read.1 }
  | .flush => some { s with toState := s.toState.flush }
  | .connect address connected answer told => some (s.connect address connected answer told)

def machine : Machine Port Action where
  init s := s = .configured
  step := step

/-! ## What a terminator in force is -/

/-- All operations agree on the terminator. -/
structure InForce (s : Port) (t : Option UInt8) : Prop where
  getEos : ∀ eossize, 0 < eossize → prologixGetEos s.pvt eossize = (t, t.toList.length)
  /-- A write that reaches its device sends the terminator behind the data. -/
  write : ∀ w : Write, w.Reaches → w.HasRoom s.pvt →
    (prologixWrite s.pvt w).sent.getLast? = some (escape isEscaped esc (w.data ++ t.toList) ++ [lf])
  /-- A read asks the adapter for a reply up to the terminator. -/
  asks : readCommand s.pvt.eos = readCommand t
  /-- A reply is complete where the terminator ends a chunk, or, without one, the marker does. -/
  read : ∀ (r : Read) (s' : State), s.pvt.bufCount = 0 →
    prologixRead s.toState r = some (s', .asynSuccess) →
      ∃ taken, s'.arrived = s.arrived ++ taken ∧ Completed r t r.chunks false taken
  /-- The adapter puts its marker behind a reply exactly when there is no terminator. -/
  mode : ∀ on, s.eotEnable = some on → (on = true ↔ t = none)

/-- The call does not set a terminator. -/
def KeepsNone (c : SetEos) : Prop := c.eoslen = 1 → c.answer ≠ .asynSuccess

instance (c : SetEos) : Decidable (KeepsNone c) := inferInstanceAs (Decidable (_ → _))

def Met (_ : Port) : Action → Prop
  | .setEos c => KeepsNone c
  | _ => True

end Port

/-! ## No operation stores a terminator -/

section
variable {p : DPvt} {s s' : State} {r : Read} {w : Write}

@[simp] theorem resizeBuffer_eos (p : DPvt) (size : Nat) (realloc : Realloc) :
    (resizeBuffer p size realloc).1.eos = p.eos := by
  unfold resizeBuffer
  dsimp only
  split <;> rfl

@[simp] theorem stashChar_eos (p : DPvt) (c : UInt8) (realloc : Realloc) :
    (stashChar p c realloc).1.eos = p.eos := by
  have hresized : (if p.bufCapacity - 3 ≤ p.bufCount then resizeBuffer p p.bufCapacity realloc
      else (p, .asynSuccess)).1.eos = p.eos := by
    split
    · exact resizeBuffer_eos p _ _
    · rfl
  unfold stashChar
  generalize (if p.bufCapacity - 3 ≤ p.bufCount then resizeBuffer p p.bufCapacity realloc
      else (p, .asynSuccess)) = resized at *
  dsimp only
  split
  · exact hresized
  · split <;> exact hresized

theorem stashAll_eos (realloc : Realloc) (cs : List UInt8) (p : DPvt) :
    (stashAll realloc cs p).1.eos = p.eos := by
  induction cs generalizing p with
  | nil => rfl
  | cons c rest ih =>
      rw [stashAll]
      split
      · exact stashChar_eos p c realloc
      · rw [ih, stashChar_eos]

@[simp] theorem prologixWrite_eos (p : DPvt) (w : Write) : (prologixWrite p w).pvt.eos = p.eos := by
  have hresized : (w.resize p).1.eos = p.eos := by
    unfold Write.resize
    split
    · exact resizeBuffer_eos p _ _
    · rfl
  have haddressed := (sameSize_setAddress (w.resize p).1 w.address w.addressAnswer).eos
  unfold prologixWrite
  dsimp only
  split
  · exact hresized
  split
  · exact haddressed.trans hresized
  · have hstashed := stashAll_eos w.realloc
      (w.text (setAddress (w.resize p).1 w.address w.addressAnswer).pvt)
      { (setAddress (w.resize p).1 w.address w.addressAnswer).pvt with bufCount := 0 }
    have hsent := hstashed.trans (haddressed.trans hresized)
    unfold Write.send
    dsimp only
    split
    · exact hsent
    · exact hsent

@[simp] theorem makeRoom_eos (p : DPvt) (realloc : Realloc) : (makeRoom p realloc).1.eos = p.eos := by
  unfold makeRoom
  split
  · dsimp only
    split
    · exact resizeBuffer_eos p _ _
    · exact resizeBuffer_eos p _ _
  · rfl

@[simp] theorem receive_eos (s : State) (dangling : Bool) (chunk : List Item) :
    (s.receive dangling chunk).pvt.eos = s.pvt.eos := by
  unfold State.receive
  dsimp only
  split
  · rfl
  · exact (sameSize_pushAll _ s.pvt).eos

/-- What a loop leaves alone, and, where it comes to an end, where it has ended. -/
structure Looped (r : Read) (chunks : List (List Item)) (atEOT : Bool) (s s' : State) (e : LoopEnd) :
    Prop where
  eos : s'.pvt.eos = s.pvt.eos
  failed : e ≠ .failed .asynSuccess
  ended : e = .complete → ∃ taken, s'.arrived = s.arrived ++ taken ∧
    Completed r s.pvt.eos chunks atEOT taken

theorem Looped.of_failed {chunks : List (List Item)} {atEOT : Bool} {status : AsynStatus}
    (heos : s'.pvt.eos = s.pvt.eos) (hstatus : status ≠ .asynSuccess) :
    Looped r chunks atEOT s s' (.failed status) where
  eos := heos
  failed := fun h => hstatus (LoopEnd.failed.inj h)
  ended := LoopEnd.noConfusion

theorem Looped.of_complete {chunks : List (List Item)} {atEOT : Bool} {taken : List Item}
    (heos : s'.pvt.eos = s.pvt.eos) (harrived : s'.arrived = s.arrived ++ taken)
    (hcompleted : Completed r s.pvt.eos chunks atEOT taken) :
    Looped r chunks atEOT s s' .complete where
  eos := heos
  failed := LoopEnd.noConfusion
  ended := fun _ => ⟨taken, harrived, hcompleted⟩

theorem Looped.receive {chunk : List Item} {rest : List (List Item)} {atEOT dangling : Bool}
    {room : DPvt} {e : LoopEnd} (heos : room.eos = s.pvt.eos)
    (h : Looped r rest (decide (EndsChunk s.pvt.eos chunk))
      (State.receive { s with pvt := room } dangling chunk) s' e) :
    Looped r (chunk :: rest) atEOT s s' e where
  eos := by
    rw [h.eos, receive_eos]
    exact heos
  failed := h.failed
  ended := by
    intro he
    obtain ⟨taken, harrived, hcompleted⟩ := h.ended he
    rw [receive_eos] at hcompleted
    rw [show DPvt.eos (State.pvt { s with pvt := room }) = s.pvt.eos from heos] at hcompleted
    -- What the rest of the loop takes stands behind this chunk.
    refine ⟨chunk ++ taken, ?_, hcompleted.cons atEOT⟩
    rw [harrived, ← List.append_assoc]
    rfl

theorem looped_of_readLoop {chunks : List (List Item)} {atEOT dangling : Bool} {e : LoopEnd}
    (hat : s.pvt.eos.isSome = true → atEOT = false)
    (hrun : readLoop r chunks atEOT dangling s = some (s', e)) : Looped r chunks atEOT s s' e := by
  -- On the chunks; `hat` says that the marker does not count while there is a terminator.
  induction chunks generalizing s atEOT dangling with
  | nil =>
      simp only [readLoop] at hrun
      split at hrun
      · cases hrun
        exact .of_failed (makeRoom_eos _ _) (by decide)
      split at hrun
      · next hend =>
          rw [Bool.and_eq_true] at hend
          cases hrun
          refine .of_complete (makeRoom_eos _ _) (List.append_nil _).symm ⟨?_, ?_⟩
          · intro hsome
            rw [hat hsome] at hend
            cases hend.1
          · intro _
            exact ⟨rfl, hend.2, Or.inl ⟨hend.1, rfl⟩⟩
      · cases hrun
        refine .of_failed (makeRoom_eos _ _) ?_
        split
        · decide
        · decide
  | cons chunk rest ih =>
      simp only [readLoop] at hrun
      have hroom : (makeRoom s.pvt r.realloc).1.eos = s.pvt.eos := makeRoom_eos _ _
      generalize makeRoom s.pvt r.realloc = room at *
      split at hrun
      · cases hrun
        exact .of_failed hroom (by decide)
      split at hrun
      · cases hrun
      have heos : (State.receive { s with pvt := room.1 } (r.danglesAfter s.pvt dangling) chunk).pvt.eos =
          s.pvt.eos := by
        rw [receive_eos]
        exact hroom
      split at hrun
      · next hends =>
          split at hrun
          · next hsome =>
              -- the terminator has been seen
              cases hrun
              refine .of_complete heos rfl ⟨?_, ?_⟩
              · intro _
                exact ⟨chunk, List.mem_cons_self, hends, [], rfl⟩
              · intro hnone
                rw [hnone] at hsome
                cases hsome
          · next hnone =>
              -- the marker may be data, so the loop waits for a pause
              apply Looped.receive hroom
              rw [decide_eq_true hends]
              apply ih ?_ hrun
              intro hsome
              rw [heos] at hsome
              exact absurd hsome hnone
      · next hends =>
          apply Looped.receive hroom
          rw [decide_eq_false hends]
          exact ih (fun _ => rfl) hrun

/-- A read leaves the terminator alone; and one that succeeds on an empty buffer has found it. -/
theorem looped_of_read {status : AsynStatus} (hrun : prologixRead s r = some (s', status)) :
    s'.pvt.eos = s.pvt.eos ∧ (s.pvt.bufCount = 0 → status = .asynSuccess →
      ∃ taken, s'.arrived = s.arrived ++ taken ∧ Completed r s.pvt.eos r.chunks false taken) := by
  unfold prologixRead at hrun
  split at hrun
  · have haddressed := (sameSize_setAddress s.pvt r.address r.addressAnswer).eos
    -- Neither the address nor the request for the reply touches `eos`.
    have hprinted : ((setAddress s.pvt r.address r.addressAnswer).pvt.print
        (readCommand (setAddress s.pvt r.address r.addressAnswer).pvt.eos)).eos = s.pvt.eos :=
      (sameSize_print _ _).eos.trans haddressed
    unfold readReply at hrun
    dsimp only at hrun
    generalize (setAddress s.pvt r.address r.addressAnswer).pvt.print
      (readCommand (setAddress s.pvt r.address r.addressAnswer).pvt.eos) = printed at *
    split at hrun
    · next hstatus =>
        cases hrun
        exact ⟨haddressed, fun _ hok => absurd hok hstatus⟩
    split at hrun
    · next hanswer =>
        cases hrun
        exact ⟨hprinted, fun _ hok => absurd hok hanswer⟩
    split at hrun
    · cases hrun
    · next fetched failure hloop =>
        cases hrun
        have hlooped := looped_of_readLoop (fun _ => rfl) hloop
        -- the loop never fails with `asynSuccess`
        refine ⟨hlooped.eos.trans hprinted, fun _ hok => absurd ?_ hlooped.failed⟩
        rw [hok]
    · next fetched hloop =>
        cases hrun
        have hlooped := looped_of_readLoop (fun _ => rfl) hloop
        refine ⟨hlooped.eos.trans hprinted, fun _ _ => ?_⟩
        obtain ⟨taken, harrived, hcompleted⟩ := hlooped.ended rfl
        have hcompleted : Completed r printed.eos r.chunks false taken := hcompleted
        rw [hprinted] at hcompleted
        exact ⟨taken, harrived, hcompleted⟩
  · next hne =>
      cases hrun
      exact ⟨rfl, fun hempty => absurd hempty hne⟩

end

/-! ## No terminator -/

namespace Port

variable {s s' : Port} {c : SetEos} {t : Option UInt8}

/-- The driver has no terminator, and its adapter, once told, puts its markers. -/
structure WithoutEos (s : Port) : Prop where
  eos : s.pvt.eos = none
  mode : ∀ on, s.eotEnable = some on → on = true

theorem modeAfter_true {eotEnable : Option Bool} (h : ∀ on, eotEnable = some on → on = true)
    (answer : AsynStatus) (told : Bool) :
    ∀ on, modeAfter eotEnable true answer told = some on → on = true := by
  intro on hon
  unfold modeAfter at hon
  split at hon
  · cases hon
    rfl
  · exact h on hon

theorem WithoutEos.setEos (hs : WithoutEos s) (c : SetEos) : WithoutEos (s.setEos c).1 := by
  unfold Port.setEos
  split
  · exact hs
  · split
    · exact ⟨hs.eos, hs.mode⟩
    · refine ⟨(sameSize_print s.pvt _).eos.trans hs.eos, ?_⟩
      -- Without a terminator the adapter is told to put its markers, which it does already.
      rw [hs.eos]
      exact modeAfter_true hs.mode c.answer c.told

theorem WithoutEos.step (hs : WithoutEos s) {action : Action} (hstep : s.step action = some s') :
    WithoutEos s' := by
  cases action with
  | setEos c =>
      cases hstep
      exact hs.setEos c
  | getEos eossize =>
      cases hstep
      exact hs
  | write w =>
      cases hstep
      exact ⟨(prologixWrite_eos s.pvt w).trans hs.eos, hs.mode⟩
  | read r =>
      obtain ⟨⟨state, status⟩, hread, rfl⟩ := Option.map_eq_some_iff.mp hstep
      exact ⟨(looped_of_read hread).1.trans hs.eos, hs.mode⟩
  | flush =>
      cases hstep
      exact ⟨hs.eos, hs.mode⟩
  | connect address connected answer told =>
      cases hstep
      refine ⟨?_, ?_⟩
      · show (State.connect s.toState address connected).pvt.eos = none
        unfold State.connect
        dsimp only
        split
        · exact (sameSize_print s.pvt.reset connectCommands).eos.trans hs.eos
        · exact hs.eos
      · show ∀ on, (Port.connect s address connected answer told).eotEnable = some on → on = true
        unfold Port.connect
        dsimp only
        split
        · exact modeAfter_true hs.mode answer told
        · exact hs.mode

theorem withoutEos_configured : WithoutEos .configured := ⟨rfl, nofun⟩

/-- In every run, whatever `prologixSetEos` has been asked for. -/
theorem withoutEos_of_reachable (hreach : machine.Reachable Machine.Unguarded s) : WithoutEos s := by
  refine hreach.invariant ?_ ?_
  · rintro s rfl
    exact withoutEos_configured
  · intro s action s' _ hs hstep
    exact hs.step hstep

theorem WithoutEos.inForce (hs : WithoutEos s) : InForce s none where
  getEos eossize _ := by
    rw [prologixGetEos, hs.eos]
    rfl
  write w hreaches hroom := by
    obtain ⟨-, -, hsent⟩ := write_of_room hreaches hroom
    rw [hsent, Write.text, hs.eos]
  asks := by rw [hs.eos]
  read r s' hempty hread := by
    have hended := (looped_of_read hread).2 hempty rfl
    rw [hs.eos] at hended
    exact hended
  mode on hon := ⟨fun _ => rfl, fun _ => hs.mode on hon⟩

theorem WithoutEos.inForce_iff (hs : WithoutEos s) : InForce s t ↔ t = none := by
  constructor
  · intro h
    have hget := h.getEos 1 (by decide)
    rw [hs.inForce.getEos 1 (by decide)] at hget
    exact (Prod.mk.inj hget).1.symm
  · rintro rfl
    exact hs.inForce

theorem newEos_of_one (hone : c.eoslen = 1) : c.newEos = some (some c.eos) := by
  rw [SetEos.newEos, if_neg (by omega), if_pos hone]

theorem newEos_of_ne_one (hone : c.eoslen ≠ 1) : c.newEos = none ∨ c.newEos = some none := by
  unfold SetEos.newEos
  rw [if_neg hone]
  split
  · exact Or.inr rfl
  · exact Or.inl rfl

/-- What has been asked for is stored nowhere but in `asked`. -/
theorem asked_setEos (hs : WithoutEos s) (hasked : s.asked = none) :
    (s.setEos c).1.asked = none ↔ KeepsNone c := by
  unfold Port.setEos KeepsNone
  by_cases hone : c.eoslen = 1
  · rw [newEos_of_one hone]
    have hne : s.pvt.eos ≠ some c.eos := by
      rw [hs.eos]
      nofun
    dsimp only
    rw [if_neg hne]
    dsimp only
    -- The terminator is new to the driver, so that the adapter is asked.
    by_cases hanswer : c.answer = .asynSuccess
    · simp only [hanswer, if_true, reduceCtorEq, ne_eq, not_true_eq_false, hone, forall_const]
    · simp only [hanswer, if_false, hasked, ne_eq, not_false_eq_true, implies_true]
  · have hkeeps : c.eoslen = 1 → c.answer ≠ .asynSuccess := fun h => absurd h hone
    rcases newEos_of_ne_one hone with hnew | hnew
    · rw [hnew]
      exact iff_of_true hasked hkeeps
    · rw [hnew]
      dsimp only
      rw [if_pos hs.eos]
      exact iff_of_true rfl hkeeps

theorem asked_step (hs : WithoutEos s) (hasked : s.asked = none) {action : Action}
    (hmet : Met s action) (hstep : s.step action = some s') : s'.asked = none := by
  cases action with
  | setEos c =>
      cases hstep
      exact (asked_setEos hs hasked).mpr hmet
  | read r =>
      obtain ⟨⟨state, status⟩, -, rfl⟩ := Option.map_eq_some_iff.mp hstep
      exact hasked
  | getEos eossize | write w | flush | connect address connected answer told =>
      cases hstep
      exact hasked

/-- In a run whose calls of `prologixSetEos` set no terminator, what was asked for is in force, and a
further call keeps it so if and only if it sets none either. -/
theorem eos_in_force_iff (s : Port) (hreach : machine.Reachable Met s) :
    InForce s s.asked ∧ ∀ c : SetEos, InForce (s.setEos c).1 (s.setEos c).1.asked ↔ KeepsNone c := by
  have hs := withoutEos_of_reachable (hreach.mono fun _ _ _ => trivial)
  have hasked : s.asked = none := by
    refine (hreach.invariant (I := fun s => WithoutEos s ∧ s.asked = none) ?_ ?_).2
    · rintro s rfl
      exact ⟨withoutEos_configured, rfl⟩
    · intro s action s' hmet hs hstep
      exact ⟨hs.1.step hstep, asked_step hs.1 hs.2 hmet hstep⟩
  refine ⟨hs.inForce_iff.mpr hasked, fun c => ?_⟩
  rw [(hs.setEos c).inForce_iff]
  exact asked_setEos hs hasked

/-- A port whose adapter is connected. -/
def connected : Port := Port.configured.connect (-1) true .asynSuccess true

theorem eos_in_force_example :
    InForce connected none ∧ InForce (connected.setEos ⟨10, 1, .asynTimeout, true⟩).1 none := by
  have hinit : machine.Reachable Met .configured := Machine.Reachable.init rfl
  have hconnected : machine.Reachable Met connected :=
    hinit.step (a := .connect (-1) true .asynSuccess true) trivial rfl
  obtain ⟨hbefore, hafter⟩ := eos_in_force_iff connected hconnected
  exact ⟨hbefore, (hafter ⟨10, 1, .asynTimeout, true⟩).mpr (by decide)⟩

/-- The line feed is set with success, and there is no terminator. -/
theorem terminator_not_set :
    machine.Reachable Machine.Unguarded connected ∧
      (connected.setEos ⟨10, 1, .asynSuccess, true⟩).2 = .asynSuccess ∧
      (connected.setEos ⟨10, 1, .asynSuccess, true⟩).1.asked = some 10 ∧
      prologixGetEos (connected.setEos ⟨10, 1, .asynSuccess, true⟩).1.pvt 1 = (none, 0) ∧
      (connected.setEos ⟨10, 1, .asynSuccess, true⟩).1.eotEnable = some true ∧
      ¬ InForce (connected.setEos ⟨10, 1, .asynSuccess, true⟩).1 (some 10) := by
  have hinit : machine.Reachable Machine.Unguarded .configured := Machine.Reachable.init rfl
  have hconnected : machine.Reachable Machine.Unguarded connected :=
    hinit.step (a := .connect (-1) true .asynSuccess true) trivial rfl
  have hs := (withoutEos_of_reachable hconnected).setEos ⟨10, 1, .asynSuccess, true⟩
  have hget : prologixGetEos (connected.setEos ⟨10, 1, .asynSuccess, true⟩).1.pvt 1 = (none, 0) :=
    hs.inForce.getEos 1 (by decide)
  refine ⟨hconnected, rfl, rfl, hget, rfl, ?_⟩
  rw [hs.inForce_iff]
  nofun

end Port
end Prologix
end AsynDriver
