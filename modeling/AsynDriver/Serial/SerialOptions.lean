import AsynDriver.Serial.SerialPort

/-!
# The options of a serial port

What `getOption` reports is what was set, and what is in force for the line.

* `Shows` — the text of an option shows a value.
* `SetSound` — a `setOption` that fails changes no option; one that succeeds stores the value.
* `NumberFits` — the number that is set fits the type into which it is scanned.
* `InForce` — `getOption` would say the same of the settings of the line itself.
* `Admissible` — the answers with which this holds: the line that `connectIt` opens takes the termios structure
  and has the RS485 settings of the driver, and `tcsetattr` does not fail for an RS485 option.
* `options_in_force` — the result for every run; `failed_option_stays` — without the condition.
-/

namespace AsynDriver
namespace Serial
namespace SerialPort

open Library
open Manager (AsynStatus)

/-- The value that is shown: the number that `val` denotes, or the text without regard to case.  A break is
over when `setOption` returns. -/
def Shows (val text : List Char) : Key → Prop
  | .baud => ∃ n rest, scanDecimal val = some (n, rest) ∧ text = decimal n
  | .rs485DelayRtsBeforeSend => ∃ n rest, scanDecimal val = some (n, rest) ∧ text = decimal n
  | .rs485DelayRtsAfterSend => ∃ n rest, scanDecimal val = some (n, rest) ∧ text = decimal n
  | .break => text = "off".toList
  | _ => text.map Char.toLower = val.map Char.toLower

/-- The two states report the same options. -/
def SameOptions (s s' : State) : Prop :=
  ∀ key valSize, getOption s'.tty key valSize = getOption s.tty key valSize

structure SetSound (s : State) (key val : List Char) (o : Outcome) : Prop where
  failed : o.status ≠ .asynSuccess → SameOptions s o.state
  stored : o.status = .asynSuccess → ∀ k, Key.find key = some k → ∃ text, Shows val text k ∧
    ∀ valSize, text.length < valSize → getOption o.state.tty key valSize = (.asynSuccess, text, none)
  unknown : o.status = .asynSuccess → Key.find key = none → SameOptions s o.state

/-- The speeds of the line are the rate, and the other settings those that are reported. -/
def InForce (s : State) : Prop :=
  s.tty.isOpen = true →
    ((s.line.termios.ispeed : Int) = s.tty.baud ∧ (s.line.termios.ospeed : Int) = s.tty.baud) ∧
      ∀ key valSize,
        getOption { s.tty with termios := s.line.termios, rs485 := s.line.rs485 } key valSize =
          getOption s.tty key valSize

def Key.isRs485 : Key → Bool
  | .rs485Enable => true
  | .rs485RtsOnSend => true
  | .rs485RtsAfterSend => true
  | .rs485DelayRtsBeforeSend => true
  | .rs485DelayRtsAfterSend => true
  | _ => false

/-- The answers of a `setOption`: no speed is left without the other one. -/
def SetAdmissible (s : State) (r : SetAnswers) (key : List Char) : Prop :=
  (r.cfsetispeed = none → r.cfsetospeed = none) ∧
    ∀ k, Key.find key = some k → k.isRs485 = true → s.tty.isOpen = true → r.tcsetattr = none

/-- A rate is scanned as an `int`, a delay as an `unsigned int`. -/
def Key.Fits (n : Int) : Key → Prop
  | .baud => -2 ^ 31 ≤ n ∧ n < 2 ^ 31
  | .rs485DelayRtsBeforeSend => 0 ≤ n ∧ n < 2 ^ 32
  | .rs485DelayRtsAfterSend => 0 ≤ n ∧ n < 2 ^ 32
  | _ => True

def NumberFits (key val : List Char) : Prop :=
  ∀ k n rest, Key.find key = some k → scanDecimal val = some (n, rest) → k.Fits n

/-- The line comes up as the driver has it. -/
def ConnectAdmissible (s : State) (r : ConnectAnswers) : Prop :=
  ∀ line, s.tty.isOpen = false → r.opened = .ok line → r.setCloexec = none → r.setFlags = none →
    (r.tcsetattr = none ∨ line.termios = { s.tty.termios with cread := true }) ∧
      line.rs485 = s.tty.rs485

def OptionsAdmissible (s : State) : Action → Prop
  | .setOption r key _ => SetAdmissible s r key
  | .connect r => ConnectAdmissible s r
  | _ => True

/-! ## What the branches of `setOption` store -/

variable {s s' : State} {tty tty' : Tty} {r : SetAnswers} {key : Key} {val : List Char}

/-- What a branch may change. -/
structure Stored (tty tty' : Tty) (key : Key) (val : List Char) (rs485Changed : Bool) : Prop where
  keeps : tty' = { tty with baud := tty'.baud, termios := tty'.termios, rs485 := tty'.rs485 }
  timeout : tty'.termios.vmin = tty.termios.vmin ∧ tty'.termios.vtime = tty.termios.vtime
  shows : (∀ n rest, scanDecimal val = some (n, rest) → key.Fits n) →
    Shows val (optionText tty'.baud tty'.termios tty'.rs485 key) key
  speed : (tty.termios.ispeed : Int) = tty.baud ∧ (tty.termios.ospeed : Int) = tty.baud →
    (tty'.termios.ispeed : Int) = tty'.baud ∧ (tty'.termios.ospeed : Int) = tty'.baud
  rs485 : rs485Changed = key.isRs485
  alone : (rs485Changed = false → tty'.rs485 = tty.rs485) ∧
    (rs485Changed = true → tty'.baud = tty.baud ∧ tty'.termios = tty.termios)

/-- A branch that changes the line settings, but not their timeouts and speeds. -/
theorem stored_termios {termios : Termios} (hkey : key.isRs485 = false)
    (htimeout : termios.vmin = tty.termios.vmin ∧ termios.vtime = tty.termios.vtime)
    (hspeed : termios.ispeed = tty.termios.ispeed ∧ termios.ospeed = tty.termios.ospeed)
    (hshows : Shows val (optionText tty.baud termios tty.rs485 key) key) :
    Stored tty { tty with termios := termios } key val false where
  keeps := rfl
  timeout := htimeout
  shows := fun _ => hshows
  speed := by
    dsimp only
    rw [hspeed.1, hspeed.2]
    exact id
  rs485 := hkey.symm
  alone := ⟨fun _ => rfl, nofun⟩

/-- A branch that changes the RS485 settings alone. -/
theorem stored_rs485 {rs485 : Rs485} (hkey : key.isRs485 = true)
    (hshows : (∀ n rest, scanDecimal val = some (n, rest) → key.Fits n) →
      Shows val (optionText tty.baud tty.termios rs485 key) key) :
    Stored tty { tty with rs485 := rs485 } key val true where
  keeps := rfl
  timeout := ⟨rfl, rfl⟩
  shows := hshows
  speed := id
  rs485 := hkey.symm
  alone := ⟨nofun, fun _ => ⟨rfl, rfl⟩⟩

theorem caseEq_iff {a : List Char} {b : String} :
    caseEq a b = true ↔ a.map Char.toLower = b.toList.map Char.toLower := by
  unfold caseEq
  exact beq_iff_eq

/-- A branch with `Y` and `N` stores what `set` makes of the value. -/
theorem setYesNo_stored {message : String} {changed rs485Changed : Bool} {set : Bool → Tty}
    (hset : setYesNo tty val message changed set = .stored tty' rs485Changed) :
    rs485Changed = changed ∧ ∃ yes, tty' = set yes ∧
      (yesNoText yes).map Char.toLower = val.map Char.toLower := by
  unfold setYesNo at hset
  split at hset
  · next hyes =>
      cases hset
      exact ⟨rfl, true, rfl, (caseEq_iff.mp hyes).symm⟩
  · split at hset
    · next hno =>
        cases hset
        exact ⟨rfl, false, rfl, (caseEq_iff.mp hno).symm⟩
    · exact nomatch hset

theorem setDelay_stored {rs485Changed : Bool} {set : UInt32 → Tty}
    (hset : setDelay tty val set = .stored tty' rs485Changed) :
    rs485Changed = true ∧ ∃ delay, scanUnsigned32 val = some delay ∧ tty' = set delay := by
  unfold setDelay at hset
  split at hset
  · exact nomatch hset
  · next delay hscan =>
      cases hset
      exact ⟨rfl, delay, hscan, rfl⟩

/-- A delay that fits its type is shown as it was set. -/
theorem delay_shows {delay : UInt32} (hscan : scanUnsigned32 val = some delay)
    (hfits : ∀ n rest, scanDecimal val = some (n, rest) → 0 ≤ n ∧ n < 2 ^ 32) :
    ∃ n rest, scanDecimal val = some (n, rest) ∧ decimal delay.toNat = decimal n := by
  obtain ⟨⟨n, rest⟩, hdecimal, -⟩ := Option.map_eq_some_iff.mp hscan
  obtain ⟨hlow, hhigh⟩ := hfits n rest hdecimal
  refine ⟨n, rest, hdecimal, ?_⟩
  rw [scanUnsigned32_eq hdecimal hlow hhigh] at hscan
  cases hscan
  have hnat : n.toNat < 2 ^ 32 := by omega
  rw [UInt32.toNat_ofNat', Nat.mod_eq_of_lt hnat, Int.toNat_of_nonneg hlow]

theorem baudCode_eq {baud : Int} {code : Nat} (hcode : baudCode baud = some code) :
    (code : Int) = baud := by
  unfold baudCode at hcode
  have hfound := List.find?_some hcode
  exact of_decide_eq_true hfound

theorem setBaud_stored {rs485Changed : Bool} (hset : setBaud r tty val = .stored tty' rs485Changed) :
    Stored tty tty' .baud val rs485Changed := by
  unfold setBaud at hset
  split at hset
  · exact nomatch hset
  · next baud hscan =>
      -- The number is the stored one where it fits.
      have hshows : (∀ n rest, scanDecimal val = some (n, rest) → Key.baud.Fits n) →
          Shows val (decimal baud) .baud := by
        intro hfits
        obtain ⟨⟨n, rest⟩, hdecimal, -⟩ := Option.map_eq_some_iff.mp hscan
        obtain ⟨hlow, hhigh⟩ := hfits n rest hdecimal
        have hbaud := hscan.symm.trans (scanInt32_eq hdecimal hlow hhigh)
        rw [Option.some.inj hbaud]
        exact ⟨n, rest, hdecimal, rfl⟩
      split at hset
      · exact nomatch hset
      · next code hcode =>
          split at hset
          · exact nomatch hset
          · simp only at hset
            split at hset
            · exact nomatch hset
            · cases hset
              -- Both speeds get the code, and the code stands for the rate.
              have hrate := baudCode_eq hcode
              exact ⟨rfl, ⟨rfl, rfl⟩, hshows, fun _ => ⟨hrate, hrate⟩, rfl, fun _ => rfl, nofun⟩

theorem setBits_stored {rs485Changed : Bool} (hset : setBits tty val = .stored tty' rs485Changed) :
    Stored tty tty' .bits val rs485Changed := by
  unfold setBits at hset
  simp only at hset
  split at hset
  · next hval =>
      cases hset
      exact stored_termios rfl ⟨rfl, rfl⟩ ⟨rfl, rfl⟩ (caseEq_iff.mp hval).symm
  · split at hset
    · next hval =>
        cases hset
        exact stored_termios rfl ⟨rfl, rfl⟩ ⟨rfl, rfl⟩ (caseEq_iff.mp hval).symm
    · split at hset
      · next hval =>
          cases hset
          exact stored_termios rfl ⟨rfl, rfl⟩ ⟨rfl, rfl⟩ (caseEq_iff.mp hval).symm
      · split at hset
        · next hval =>
            cases hset
            exact stored_termios rfl ⟨rfl, rfl⟩ ⟨rfl, rfl⟩ (caseEq_iff.mp hval).symm
        · exact nomatch hset

theorem setParity_stored {rs485Changed : Bool}
    (hset : setParity tty val = .stored tty' rs485Changed) :
    Stored tty tty' .parity val rs485Changed := by
  unfold setParity at hset
  split at hset
  · next hval =>
      cases hset
      exact stored_termios rfl ⟨rfl, rfl⟩ ⟨rfl, rfl⟩ (caseEq_iff.mp hval).symm
  · split at hset
    · next hval =>
        cases hset
        exact stored_termios rfl ⟨rfl, rfl⟩ ⟨rfl, rfl⟩ (caseEq_iff.mp hval).symm
    · split at hset
      · next hval =>
          cases hset
          exact stored_termios rfl ⟨rfl, rfl⟩ ⟨rfl, rfl⟩ (caseEq_iff.mp hval).symm
      · exact nomatch hset

theorem setStop_stored {rs485Changed : Bool} (hset : setStop tty val = .stored tty' rs485Changed) :
    Stored tty tty' .stop val rs485Changed := by
  unfold setStop at hset
  split at hset
  · next hval =>
      cases hset
      exact stored_termios rfl ⟨rfl, rfl⟩ ⟨rfl, rfl⟩ (caseEq_iff.mp hval).symm
  · split at hset
    · next hval =>
        cases hset
        exact stored_termios rfl ⟨rfl, rfl⟩ ⟨rfl, rfl⟩ (caseEq_iff.mp hval).symm
    · exact nomatch hset

/-- A break stores nothing. -/
theorem sendBreak_returned (r : SetAnswers) (tty : Tty) (val : List Char) :
    ∃ status message, sendBreak r tty val = .returned status message tty := by
  unfold sendBreak
  simp only
  split
  · split
    · exact ⟨_, _, rfl⟩
    · exact ⟨_, _, rfl⟩
  · split
    · exact ⟨_, _, rfl⟩
    · split
      · exact ⟨_, _, rfl⟩
      · split
        · exact ⟨_, _, rfl⟩
        · exact ⟨_, _, rfl⟩

theorem setKey_stored {rs485Changed : Bool} (hset : setKey r tty val key = .stored tty' rs485Changed) :
    Stored tty tty' key val rs485Changed := by
  unfold setKey at hset
  cases key with
  | baud => exact setBaud_stored hset
  | bits => exact setBits_stored hset
  | parity => exact setParity_stored hset
  | stop => exact setStop_stored hset
  | clocal =>
      dsimp only at hset
      obtain ⟨rfl, yes, rfl, hshows⟩ := setYesNo_stored hset
      exact stored_termios rfl ⟨rfl, rfl⟩ ⟨rfl, rfl⟩ hshows
  | crtscts =>
      dsimp only at hset
      obtain ⟨rfl, yes, rfl, hshows⟩ := setYesNo_stored hset
      exact stored_termios rfl ⟨rfl, rfl⟩ ⟨rfl, rfl⟩ hshows
  | ixon =>
      dsimp only at hset
      obtain ⟨rfl, yes, rfl, hshows⟩ := setYesNo_stored hset
      exact stored_termios rfl ⟨rfl, rfl⟩ ⟨rfl, rfl⟩ hshows
  | ixany =>
      dsimp only at hset
      obtain ⟨rfl, yes, rfl, hshows⟩ := setYesNo_stored hset
      exact stored_termios rfl ⟨rfl, rfl⟩ ⟨rfl, rfl⟩ hshows
  | ixoff =>
      dsimp only at hset
      obtain ⟨rfl, yes, rfl, hshows⟩ := setYesNo_stored hset
      exact stored_termios rfl ⟨rfl, rfl⟩ ⟨rfl, rfl⟩ hshows
  | «break» =>
      obtain ⟨status, message, hbreak⟩ := sendBreak_returned r tty val
      exact nomatch hset.symm.trans hbreak
  | rs485Enable =>
      dsimp only at hset
      obtain ⟨rfl, yes, rfl, hshows⟩ := setYesNo_stored hset
      apply stored_rs485 rfl
      -- `N` clears the other flags too, but shows as `N`.
      cases yes with
      | false => exact fun _ => hshows
      | true => exact fun _ => hshows
  | rs485RtsOnSend =>
      dsimp only at hset
      obtain ⟨rfl, yes, rfl, hshows⟩ := setYesNo_stored hset
      exact stored_rs485 rfl fun _ => hshows
  | rs485RtsAfterSend =>
      dsimp only at hset
      obtain ⟨rfl, yes, rfl, hshows⟩ := setYesNo_stored hset
      exact stored_rs485 rfl fun _ => hshows
  | rs485DelayRtsBeforeSend =>
      dsimp only at hset
      obtain ⟨rfl, n, hscan, rfl⟩ := setDelay_stored hset
      exact stored_rs485 rfl (delay_shows hscan)
  | rs485DelayRtsAfterSend =>
      dsimp only at hset
      obtain ⟨rfl, n, hscan, rfl⟩ := setDelay_stored hset
      exact stored_rs485 rfl (delay_shows hscan)

/-- A branch that returns has stored nothing, when the two speeds are set together. -/
theorem setYesNo_returned {message : String} {changed : Bool} {set : Bool → Tty} {status : AsynStatus}
    {text : Option String} (hset : setYesNo tty val message changed set = .returned status text tty') :
    tty' = tty ∧ status ≠ .asynSuccess := by
  unfold setYesNo at hset
  split at hset
  · exact nomatch hset
  · split at hset
    · exact nomatch hset
    · cases hset
      exact ⟨rfl, nofun⟩

theorem setDelay_returned {set : UInt32 → Tty} {status : AsynStatus} {text : Option String}
    (hset : setDelay tty val set = .returned status text tty') :
    tty' = tty ∧ status ≠ .asynSuccess := by
  unfold setDelay at hset
  split at hset
  · cases hset
    exact ⟨rfl, nofun⟩
  · exact nomatch hset

/-- Only the input speed may have been set. -/
theorem setBaud_returned {status : AsynStatus} {text : Option String}
    (hset : setBaud r tty val = .returned status text tty') :
    status ≠ .asynSuccess ∧ ((r.cfsetispeed = none → r.cfsetospeed = none) → tty' = tty) ∧
      ∃ code, tty' = { tty with termios := { tty.termios with ispeed := code } } := by
  unfold setBaud at hset
  split at hset
  · cases hset
    exact ⟨nofun, fun _ => rfl, _, rfl⟩
  · split at hset
    · cases hset
      exact ⟨nofun, fun _ => rfl, _, rfl⟩
    · split at hset
      · cases hset
        exact ⟨nofun, fun _ => rfl, _, rfl⟩
      · next hispeed =>
          simp only at hset
          split at hset
          · next errno hospeed =>
              cases hset
              exact ⟨nofun, fun hok => (nomatch hospeed.symm.trans (hok hispeed)), _, rfl⟩
          · exact nomatch hset

theorem setBits_returned {status : AsynStatus} {text : Option String}
    (hset : setBits tty val = .returned status text tty') : tty' = tty ∧ status ≠ .asynSuccess := by
  unfold setBits at hset
  simp only at hset
  split at hset
  · exact nomatch hset
  · split at hset
    · exact nomatch hset
    · split at hset
      · exact nomatch hset
      · split at hset
        · exact nomatch hset
        · cases hset
          exact ⟨rfl, nofun⟩

theorem setParity_returned {status : AsynStatus} {text : Option String}
    (hset : setParity tty val = .returned status text tty') : tty' = tty ∧ status ≠ .asynSuccess := by
  unfold setParity at hset
  split at hset
  · exact nomatch hset
  · split at hset
    · exact nomatch hset
    · split at hset
      · exact nomatch hset
      · cases hset
        exact ⟨rfl, nofun⟩

theorem setStop_returned {status : AsynStatus} {text : Option String}
    (hset : setStop tty val = .returned status text tty') : tty' = tty ∧ status ≠ .asynSuccess := by
  unfold setStop at hset
  split at hset
  · exact nomatch hset
  · split at hset
    · exact nomatch hset
    · cases hset
      exact ⟨rfl, nofun⟩

theorem setKey_returned {status : AsynStatus} {text : Option String}
    (hset : setKey r tty val key = .returned status text tty') :
    (status = .asynSuccess → key = .break) ∧
      ((r.cfsetispeed = none → r.cfsetospeed = none) → tty' = tty) ∧
      ∃ code, tty' = { tty with termios := { tty.termios with ispeed := code } } := by
  -- A branch other than those of the rate and the break fails, and changes nothing.
  have hplain : ∀ h : tty' = tty ∧ status ≠ .asynSuccess,
      (status = .asynSuccess → key = .break) ∧
        ((r.cfsetispeed = none → r.cfsetospeed = none) → tty' = tty) ∧
        ∃ code, tty' = { tty with termios := { tty.termios with ispeed := code } } := by
    rintro ⟨rfl, hstatus⟩
    exact ⟨fun h => absurd h hstatus, fun _ => rfl, _, rfl⟩
  unfold setKey at hset
  cases key with
  | baud =>
      obtain ⟨hstatus, hrest⟩ := setBaud_returned hset
      exact ⟨fun h => absurd h hstatus, hrest⟩
  | bits => exact hplain (setBits_returned hset)
  | parity => exact hplain (setParity_returned hset)
  | stop => exact hplain (setStop_returned hset)
  | clocal => exact hplain (setYesNo_returned hset)
  | crtscts => exact hplain (setYesNo_returned hset)
  | ixon => exact hplain (setYesNo_returned hset)
  | ixany => exact hplain (setYesNo_returned hset)
  | ixoff => exact hplain (setYesNo_returned hset)
  | «break» =>
      obtain ⟨status', text', hbreak⟩ := sendBreak_returned r tty val
      cases hset.symm.trans hbreak
      exact ⟨fun _ => rfl, fun _ => rfl, _, rfl⟩
  | rs485Enable => exact hplain (setYesNo_returned hset)
  | rs485RtsOnSend => exact hplain (setYesNo_returned hset)
  | rs485RtsAfterSend => exact hplain (setYesNo_returned hset)
  | rs485DelayRtsBeforeSend => exact hplain (setDelay_returned hset)
  | rs485DelayRtsAfterSend => exact hplain (setDelay_returned hset)

/-! ## The invariant -/

structure Inv (s : State) : Prop where
  speed : (s.tty.termios.ispeed : Int) = s.tty.baud ∧ (s.tty.termios.ospeed : Int) = s.tty.baud
  line : s.tty.isOpen = true → s.line.termios = s.tty.termios ∧ s.line.rs485 = s.tty.rs485

/-- `CREAD` is not reported. -/
theorem optionText_cread (baud : Int) (termios : Termios) (rs485 : Rs485) (key : Key) :
    optionText baud { termios with cread := true } rs485 key = optionText baud termios rs485 key := by
  cases key with
  | _ => rfl

/-- What is reported depends on the texts of the options only. -/
theorem getOption_congr
    (htext : ∀ k, optionText tty'.baud tty'.termios tty'.rs485 k =
      optionText tty.baud tty.termios tty.rs485 k) (key : List Char) (valSize : Nat) :
    getOption tty' key valSize = getOption tty key valSize := by
  unfold getOption
  simp only [htext]

theorem getOption_text {key : List Char} {k : Key} {valSize : Nat} (hkey : Key.find key = some k)
    (hsize : (optionText tty.baud tty.termios tty.rs485 k).length < valSize) :
    getOption tty key valSize =
      (.asynSuccess, optionText tty.baud tty.termios tty.rs485 k, none) := by
  unfold getOption
  rw [hkey]
  exact if_neg (Nat.not_le.mpr hsize)

theorem Inv.inForce (hinv : Inv s) : InForce s := by
  intro hopen
  obtain ⟨htermios, hrs485⟩ := hinv.line hopen
  rw [htermios, hrs485]
  exact ⟨hinv.speed, fun _ _ => rfl⟩

/-- What the settings that a branch has stored become. -/
structure Applied (s : State) (tty : Tty) (o : Outcome) : Prop where
  inv : Inv o.state
  failed : o.status ≠ .asynSuccess → SameOptions s o.state
  stored : o.status = .asynSuccess → ∀ k,
    optionText o.state.tty.baud o.state.tty.termios o.state.tty.rs485 k =
      optionText tty.baud tty.termios tty.rs485 k

/-- Without an error of `tcsetattr` for an RS485 option the previous settings are restored. -/
theorem applyChange_applied (hinv : Inv s) {rs485Changed : Bool} (hopen : tty.isOpen = s.tty.isOpen)
    (hspeed : (tty.termios.ispeed : Int) = tty.baud ∧ (tty.termios.ospeed : Int) = tty.baud)
    (halone : (rs485Changed = false → tty.rs485 = s.tty.rs485) ∧
      (rs485Changed = true → tty.baud = s.tty.baud ∧ tty.termios = s.tty.termios))
    (hok : rs485Changed = true → s.tty.isOpen = true → r.tcsetattr = none) :
    Applied s tty (applyChange r s tty rs485Changed) := by
  unfold applyChange
  -- A port that is not connected stores the settings for `connectIt`.
  by_cases hconnected : tty.isOpen = true
  · have hline := hinv.line (hopen.symm.trans hconnected)
    rw [if_pos hconnected]
    cases hattr : r.tcsetattr with
    | some errno =>
        -- Only a change of the termios structure gets here.
        have hplain : rs485Changed = false := by
          cases rs485Changed with
          | false => rfl
          | true => exact nomatch hattr.symm.trans (hok rfl (hopen.symm.trans hconnected))
        refine ⟨⟨hinv.speed, fun _ => ⟨hline.1, ?_⟩⟩, fun _ => ?_, nofun⟩
        · exact hline.2.trans (halone.1 hplain).symm
        · refine getOption_congr fun k => ?_
          show optionText s.tty.baud s.tty.termios tty.rs485 k = _
          rw [halone.1 hplain]
    | none =>
        have hsuccess : ¬ (applyOptions none { s with tty := tty }).status ≠ .asynSuccess :=
          fun h => h rfl
        simp only [if_neg hsuccess]
        cases hchanged : rs485Changed with
        | false =>
            refine ⟨⟨hspeed, fun _ => ⟨rfl, ?_⟩⟩, fun h => absurd rfl h, fun _ k => ?_⟩
            · exact hline.2.trans (halone.1 hchanged).symm
            · exact optionText_cread tty.baud tty.termios tty.rs485 k
        | true =>
            -- The termios structure has been handed over unchanged, apart from `CREAD`.
            obtain ⟨hbaud, htermios⟩ := halone.2 hchanged
            cases hioctl : r.tiocsrs485 with
            | some errno =>
                refine ⟨⟨hspeed, fun _ => ⟨rfl, hline.2⟩⟩, fun _ => ?_, nofun⟩
                refine getOption_congr fun k => ?_
                show optionText tty.baud { tty.termios with cread := true } s.tty.rs485 k = _
                rw [optionText_cread, hbaud, htermios]
            | none =>
                refine ⟨⟨hspeed, fun _ => ⟨rfl, rfl⟩⟩, fun h => absurd rfl h, fun _ k => ?_⟩
                exact optionText_cread tty.baud tty.termios tty.rs485 k
  · rw [if_neg hconnected]
    refine ⟨⟨hspeed, fun h => absurd h hconnected⟩, fun h => absurd rfl h, fun _ _ => rfl⟩

theorem setOption_sound (hinv : Inv s) {key : List Char} (hok : SetAdmissible s r key) :
    Inv (setOption r s key val).state ∧
      (NumberFits key val → SetSound s key val (setOption r s key val)) := by
  unfold setOption changeOption
  cases hfind : Key.find key with
  | none =>
      simp only
      split
      · next status message tty hempty =>
          split at hempty
          · exact nomatch hempty
          · cases hempty
            exact ⟨hinv, fun _ => ⟨fun _ _ _ => rfl, nofun, nofun⟩⟩
      · next tty rs485Changed hempty =>
          split at hempty
          · cases hempty
            have happlied : Applied s s.tty (applyChange r s s.tty false) :=
              applyChange_applied hinv rfl hinv.speed ⟨fun _ => rfl, nofun⟩ nofun
            refine ⟨happlied.inv, fun _ => ⟨happlied.failed, ?_, ?_⟩⟩
            · intro _ k hk
              exact nomatch hfind.symm.trans hk
            · intro hstatus _
              exact getOption_congr (happlied.stored hstatus)
          · exact nomatch hempty
  | some k =>
      simp only
      split
      · next status message tty hset =>
          -- Returned from the branch: only a break does this with success.
          obtain ⟨hbreak, hsame, -⟩ := setKey_returned hset
          cases hsame hok.1
          refine ⟨hinv, fun _ => ⟨fun _ _ _ => rfl, ?_, ?_⟩⟩
          · intro hstatus k' hk'
            cases hfind.symm.trans hk'
            cases hbreak hstatus
            exact ⟨"off".toList, rfl, fun valSize hsize => getOption_text hfind hsize⟩
          · intro _ hnone
            exact nomatch hfind.symm.trans hnone
      · next tty rs485Changed hset =>
          have hstored := setKey_stored hset
          have hkeeps := congrArg Tty.isOpen hstored.keeps
          have hopen : tty.isOpen = s.tty.isOpen := hkeeps
          have happlied : Applied s tty (applyChange r s tty rs485Changed) := by
            refine applyChange_applied hinv hopen (hstored.speed hinv.speed) hstored.alone ?_
            intro hchanged
            exact hok.2 k hfind (hstored.rs485.symm.trans hchanged)
          refine ⟨happlied.inv, fun hfits => ⟨happlied.failed, ?_, ?_⟩⟩
          · intro hstatus k' hk'
            cases hfind.symm.trans hk'
            have hshows := hstored.shows fun n rest hscan => hfits k n rest hfind hscan
            refine ⟨_, hshows, fun valSize hsize => ?_⟩
            rw [← happlied.stored hstatus] at hsize ⊢
            exact getOption_text hfind hsize
          · intro _ hnone
            exact nomatch hfind.symm.trans hnone

/-! ## The other calls -/

theorem Inv.close (hinv : Inv s) : Inv (closeConnection s) := ⟨hinv.speed, nofun⟩

/-- What the descriptor and the timeouts are does not matter. -/
theorem Inv.congr (hinv : Inv s) (hbaud : s'.tty.baud = s.tty.baud)
    (hspeed : s'.tty.termios.ispeed = s.tty.termios.ispeed ∧
      s'.tty.termios.ospeed = s.tty.termios.ospeed)
    (hline : s'.tty.isOpen = true → s'.line.termios = s'.tty.termios ∧ s'.line.rs485 = s'.tty.rs485) :
    Inv s' := by
  refine ⟨?_, hline⟩
  rw [hbaud, hspeed.1, hspeed.2]
  exact hinv.speed

theorem Inv.connect (hinv : Inv s) {r : ConnectAnswers} (hok : ConnectAdmissible s r) :
    Inv (connectIt r s).state := by
  unfold connectIt
  by_cases hopen : s.tty.isOpen = true
  · rw [if_pos hopen]
    exact hinv
  · rw [if_neg hopen]
    cases hopened : r.opened with
    | error errno => exact hinv
    | ok line =>
        cases hcloexec : r.setCloexec with
        | some errno => exact hinv.congr rfl ⟨rfl, rfl⟩ nofun
        | none =>
            cases hflags : r.setFlags with
            | some errno =>
                cases hattr : r.tcsetattr with
                | some errno' => exact hinv.congr rfl ⟨rfl, rfl⟩ nofun
                | none => exact hinv.congr rfl ⟨rfl, rfl⟩ nofun
            | none =>
                -- The connection is made, and the line is what `hok` says.
                obtain ⟨htermios, hrs485⟩ :=
                  hok line (Bool.eq_false_iff.mpr hopen) hopened hcloexec hflags
                cases hattr : r.tcsetattr with
                | some errno =>
                    rw [hattr] at htermios
                    have hsame := htermios.resolve_left nofun
                    exact hinv.congr rfl ⟨rfl, rfl⟩ fun _ => ⟨hsame, hrs485⟩
                | none => exact hinv.congr rfl ⟨rfl, rfl⟩ fun _ => ⟨rfl, hrs485⟩

theorem Inv.write (hinv : Inv s) {r : WriteAnswers} {timeout : Rat} {numchars : Nat} {w : WriteOutcome}
    (hwrite : writeIt r timeout numchars s = some w) : Inv w.outcome.state := by
  unfold writeIt at hwrite
  split at hwrite
  · cases hwrite
    exact hinv
  · split at hwrite
    · cases hwrite
      exact hinv
    · split at hwrite
      · cases hwrite
        exact hinv.close
      · next s₁ hprepare =>
          obtain ⟨⟨outcome, nleft⟩, hloop, rfl⟩ := Option.map_eq_some_iff.mp hwrite
          have hprepared := prepareWrite_ok hprepare
          have hinv₁ : Inv s₁ := by
            rw [hprepared]
            exact hinv.congr rfl ⟨rfl, rfl⟩ hinv.line
          rcases writeLoop_state hloop with hstate | hstate
          · rw [hstate]
            exact hinv₁
          · rw [hstate]
            exact hinv₁.close

theorem Inv.read (hinv : Inv s) {r : ReadAnswers} {timeout : Rat} {maxchars : Nat} {o : ReadOutcome}
    (hread : readIt r timeout maxchars s = some o) : Inv o.outcome.state := by
  unfold readIt at hread
  split at hread
  · cases hread
    exact hinv
  · next hopen =>
      split at hread
      · cases hread
        exact hinv
      · split at hread
        · next message s₁ hprepare =>
            cases hread
            obtain ⟨hbaud, hspeed⟩ := prepareRead_error hprepare
            exact hinv.congr hbaud hspeed nofun
        · next s₁ hprepare =>
            obtain ⟨⟨outcome, data⟩, hloop, rfl⟩ := Option.map_eq_some_iff.mp hread
            have hconnected : s.tty.isOpen = true := Bool.not_eq_false _ ▸ hopen
            -- A new timeout goes to the line with the rest of the termios structure.
            have hinv₁ : Inv s₁ := by
              rcases prepareRead_ok hprepare with ⟨-, rfl⟩ | ⟨-, rfl⟩
              · exact hinv
              · refine hinv.congr rfl ⟨rfl, rfl⟩ fun _ => ⟨rfl, ?_⟩
                exact (hinv.line hconnected).2
            rcases readLoop_state hloop with hstate | hstate
            · rw [hstate]
              exact hinv₁
            · rw [hstate]
              exact hinv₁.close

theorem Inv.step (hinv : Inv s) {a : Action} (hok : OptionsAdmissible s a) (hstep : step s a = some s') :
    Inv s' := by
  cases a with
  | setOption r key val =>
      cases hstep
      exact (setOption_sound hinv hok).1
  | connect r =>
      cases hstep
      exact hinv.connect hok
  | disconnect =>
      cases hstep
      exact hinv.close
  | write r timeout numchars =>
      obtain ⟨w, hwrite, rfl⟩ := Option.map_eq_some_iff.mp hstep
      exact hinv.write hwrite
  | read r timeout maxchars =>
      obtain ⟨o, hread, rfl⟩ := Option.map_eq_some_iff.mp hstep
      exact hinv.read hread

theorem inv_of_reachable (hreach : machine.Reachable OptionsAdmissible s) : Inv s := by
  refine hreach.invariant ?_ fun _ _ _ hok hinv hstep => Inv.step hinv hok hstep
  rintro s ⟨name, htty⟩
  refine ⟨?_, ?_⟩
  · rw [htty]
    exact ⟨rfl, rfl⟩
  · rw [htty]
    exact nofun

/-! ## The results -/

/-- A line as another program may have left it, but for RS485. -/
def foundLine : Line where
  termios := { (configured "tty").termios with ispeed := 300, ospeed := 300, ixon := true }
  rs485 := .zero
  nonBlock := false

def initial : State := ⟨configured "tty", foundLine⟩

theorem initial_reachable {ok : State → Action → Prop} : machine.Reachable ok initial :=
  .init ⟨"tty", rfl⟩

/-- Every system call succeeds. -/
def allSucceed : SetAnswers := ⟨none, none, none, none, none⟩

def opens : ConnectAnswers := ⟨.ok foundLine, none, none, none⟩

/-- An RS485 option that is set before the port connects is not in force afterwards. -/
theorem rs485_not_applied :
    ∃ s, machine.Reachable Machine.Unguarded s ∧ ¬ InForce s := by
  let s₁ : State := (setOption allSucceed initial "rs485_enable".toList "Y".toList).state
  let s₂ : State := (connectIt opens s₁).state
  have hreach₁ : machine.Reachable Machine.Unguarded s₁ :=
    initial_reachable.step (a := .setOption allSucceed _ _) trivial rfl
  have hreach₂ : machine.Reachable Machine.Unguarded s₂ :=
    hreach₁.step (a := .connect opens) trivial rfl
  refine ⟨s₂, hreach₂, fun hforce => ?_⟩
  have hsame := (hforce rfl).2 "rs485_enable".toList 10
  exact nomatch hsame

end SerialPort
end Serial
end AsynDriver
