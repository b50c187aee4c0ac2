import AsynDriver.Library.Machine
import AsynDriver.Manager.Types

/-!
# Shutting a port down

`shutdownPort`, `enable`, `lockPort`, `queueLockPort`, `queueRequest` and `findInterface` on one port, by
any threads.

* `Call` — the methods; the `asynUser` appears through its `pdevice`.
* `refusal`, `effect` — the first critical section of a call: how it is refused, and what it writes.
* `enterCall`, `lockCall`, `finishCall`, `leaveCall` — a call, with the calls of the other threads
  between; `late` says that it began after `shutdownPort` had returned `asynSuccess`.
* `ShutDown` — what the callers of `shutdownPort` rely on; `refused_after_shutdown`.

What `queueRequest`, `queueLockPort` and `findInterface` do after their tests of `enabled` and
`defunct` is left to the action.
-/

namespace AsynDriver
namespace Manager
namespace Shutdown

open Library

/-- `portName` and the attributes of the port. -/
structure PortAttributes where
  portName : String
  multiDevice : Bool
  canBlock : Bool
  destructible : Bool

/-- The methods; `checkPortConnect` is false for a request with `asynQueuePriorityConnect` for the port,
or for one with `ASYN_REASON_QUEUE_EVEN_IF_NOT_CONNECTED`. -/
inductive Call
  | shutdownPort (d : Device)
  | enable (d : Device) (yesNo : Bool)
  | lockPort (d : Device)
  | queueLockPort (d : Device)
  | queueRequest (d : Device) (checkPortConnect : Bool)
  | findInterface (d : Device)
  deriving DecidableEq, Repr

def Call.device : Call → Device
  | .shutdownPort d => d
  | .enable d _ => d
  | .lockPort d => d
  | .queueLockPort d => d
  | .queueRequest d _ => d
  | .findInterface d => d

/-- A call other than `shutdownPort`. -/
def Call.uses : Call → Bool
  | .shutdownPort _ => false
  | _ => true

/-- A call that is refused, with the text for `errorMessage`, or one that went on; the null pointer
that `findInterface` returns is `asynError` here. -/
inductive Answer
  | refused (status : AsynStatus) (message : String)
  | done (status : AsynStatus)
  deriving DecidableEq, Repr

inductive CallPc
  | idle
  | entered (c : Call) (late : Bool)
  | working (c : Call) (late : Bool)
  | returned (c : Call) (late : Bool) (answer : Answer)
  deriving DecidableEq, Repr

/-- `drvPvt`: the interfaces of the port have their `drvPvt`; `pasynLockPortNotify`: it is not null. -/
structure State where
  dpCommon : Device → DpCommon
  drvPvt : Bool
  pasynLockPortNotify : Bool
  thread : ThreadId → CallPc
  /-- A `shutdownPort` has returned `asynSuccess`. -/
  shutDown : Bool

def State.setThread (s : State) (t : ThreadId) (pc : CallPc) : State :=
  { s with thread := Function.update s.thread t pc }

/-! ## The first critical section -/

def defunctTest (dpc : DpCommon) (status : AsynStatus) (message : String) : Option Answer :=
  if dpc.defunct then some (.refused status message) else none

def enabledTest (p : PortAttributes) (dpc : DpCommon) : Option Answer :=
  if dpc.enabled then none else some (.refused .asynDisabled ("port " ++ p.portName ++ " disabled"))

/-- The tests of `queueRequest`. -/
def queueRequestRefusal (p : PortAttributes) (dp : Device → DpCommon) (d : Device)
    (checkPortConnect : Bool) : Option Answer :=
  match enabledTest p (dp none) with
  | some answer => some answer
  | none =>
      if checkPortConnect ∧ (dp none).connected = false then
        some (.refused .asynDisconnected ("port " ++ p.portName ++ " not connected"))
      else
        match d with
        | none => none
        | some addr =>
            if p.canBlock = false ∧ (dp d).enabled = false then
              some (.refused .asynDisabled
                ("port " ++ p.portName ++ "  or device " ++ toString addr ++ " not enabled"))
            else none

/-- How a call is refused under `asynManagerLock`. -/
def refusal (p : PortAttributes) (dp : Device → DpCommon) : Call → Option Answer
  | .shutdownPort d =>
      if (dp d).defunct ∨ p.destructible then none
      else some (.refused .asynError "asynManager:shutdownPort: port does not support shutting down")
  | .enable d _ => defunctTest (dp d) .asynDisabled "asynManager:enable: port has been shut down"
  | .lockPort d => defunctTest (dp d) .asynDisabled "asynManager:lockPort: port has been shut down"
  | .queueLockPort _ => enabledTest p (dp none)
  | .queueRequest d checkPortConnect => queueRequestRefusal p dp d checkPortConnect
  | .findInterface _ => defunctTest (dp none) .asynError "asynManager:findInterface: port shut down"

/-- What a call that is not refused writes there. -/
def effect (s : State) : Call → State
  | .shutdownPort d =>
      if (s.dpCommon d).defunct then s
      else
        { s with
          dpCommon := Function.update s.dpCommon d
            { s.dpCommon d with enabled := false, defunct := true }
          drvPvt := false
          pasynLockPortNotify := false }
  | .enable d yesNo =>
      { s with dpCommon := Function.update s.dpCommon d { s.dpCommon d with enabled := yesNo } }
  | _ => s

/-! ## The calls -/

/-- Only a port with `ASYN_MULTIDEVICE` has devices. -/
def enterCall (p : PortAttributes) (s : State) (t : ThreadId) (c : Call) : Option State :=
  if s.thread t = .idle ∧ (p.multiDevice = true ∨ c.device = none) then
    some (s.setThread t (.entered c s.shutDown))
  else none

def lockCall (p : PortAttributes) (s : State) (t : ThreadId) : Option State :=
  match s.thread t with
  | .entered c late =>
      match refusal p s.dpCommon c with
      | some answer => some (s.setThread t (.returned c late answer))
      | none => some ((effect s c).setThread t (.working c late))
  | _ => none

/-- The status that a call returns in the end; some are sure to succeed. -/
def Call.mayReturn (c : Call) (status : AsynStatus) : Bool :=
  match c with
  | .shutdownPort _ => status == .asynSuccess
  | .enable _ _ => status == .asynSuccess
  | .lockPort _ => status == .asynSuccess
  | _ => true

def finishCall (s : State) (t : ThreadId) (status : AsynStatus) : Option State :=
  match s.thread t with
  | .working c late =>
      if c.mayReturn status then
        some { s.setThread t (.returned c late (.done status)) with
          shutDown := s.shutDown || !c.uses }
      else none
  | _ => none

def leaveCall (s : State) (t : ThreadId) : Option State :=
  match s.thread t with
  | .returned _ _ _ => some (s.setThread t .idle)
  | _ => none

inductive Action
  | enterCall (t : ThreadId) (c : Call)
  | lockCall (t : ThreadId)
  | finishCall (t : ThreadId) (status : AsynStatus)
  | leaveCall (t : ThreadId)
  /-- `exceptionConnect` and `exceptionDisconnect`. -/
  | connect (d : Device) (yesNo : Bool)
  deriving DecidableEq, Repr

def step (p : PortAttributes) (s : State) : Action → Option State
  | .enterCall t c => enterCall p s t c
  | .lockCall t => lockCall p s t
  | .finishCall t status => finishCall s t status
  | .leaveCall t => leaveCall s t
  | .connect d yesNo =>
      some { s with
        dpCommon := Function.update s.dpCommon d { s.dpCommon d with connected := yesNo } }

/-- The registered port; a device is as `dpCommonInit` makes it when it is first connected to. -/
def State.start (autoConnect : Bool) : State where
  dpCommon := fun _ => dpCommonInit autoConnect
  drvPvt := true
  pasynLockPortNotify := true
  thread := fun _ => .idle
  shutDown := false

def machine (p : PortAttributes) : Machine State Action :=
  ⟨fun s => ∃ autoConnect, s = .start autoConnect, step p⟩

/-! ## After a shutdown -/

/-- Once `shutdownPort` has returned, the port is disabled, and no call that begins then gets past its
tests. -/
structure ShutDown (s : State) : Prop where
  disabled : s.shutDown = true → (s.dpCommon none).enabled = false
  refused : ∀ t c answer, s.thread t = .returned c true answer → c.uses = true →
    ∃ status message, answer = .refused status message ∧ status ≠ .asynSuccess
  notWorking : ∀ t c, s.thread t = .working c true → c.uses = false

/-- Runs in which the port is shut down through its own `dpCommon`, and `enable` and `lockPort` are not
called afterwards for a device that has not been shut down too. -/
def ThroughPort (s : State) : Action → Prop
  | .lockCall t =>
      match s.thread t with
      | .entered (.shutdownPort d) _ => d = none ∨ (s.dpCommon none).defunct = true
      | .entered (.enable d _) _ => (s.dpCommon none).defunct = true → (s.dpCommon d).defunct = true
      | .entered (.lockPort d) _ => (s.dpCommon none).defunct = true → (s.dpCommon d).defunct = true
      | _ => True
  | _ => True

instance (s : State) (a : Action) : Decidable (ThroughPort s a) := by
  unfold ThroughPort
  cases a with
  | lockCall t => dsimp only; split <;> infer_instance
  | _ => infer_instance

variable {p : PortAttributes} {s s' : State}

/-- `shutDown` is recorded when `shutdownPort` returns, `defunct` is set before. -/
structure DefunctInv (s : State) : Prop where
  disabled : ∀ d, (s.dpCommon d).defunct = true → (s.dpCommon d).enabled = false
  shutDown : s.shutDown = true → (s.dpCommon none).defunct = true
  late : ∀ t c, s.thread t = .entered c true → s.shutDown = true
  shutting : ∀ t c late, s.thread t = .working c late → c.uses = false →
    (s.dpCommon none).defunct = true
  notWorking : ∀ t c, s.thread t = .working c true → c.uses = false
  refused : ∀ t c answer, s.thread t = .returned c true answer → c.uses = true →
    ∃ status message, answer = .refused status message ∧ status ≠ .asynSuccess

theorem setThread_cases {t t' : ThreadId} {pc pc' : CallPc} (hpc : (s.setThread t pc).thread t' = pc') :
    pc = pc' ∨ s.thread t' = pc' := by
  change Function.update s.thread t pc t' = pc' at hpc
  by_cases ht : t' = t
  · subst ht
    rw [Function.update_self] at hpc
    exact Or.inl hpc
  · rw [Function.update_of_ne ht] at hpc
    exact Or.inr hpc

theorem DefunctInv.setThread {pc : CallPc} (hinv : DefunctInv s) (t : ThreadId)
    (hlate : ∀ c, pc = .entered c true → s.shutDown = true)
    (hshutting : ∀ c late, pc = .working c late → c.uses = false → (s.dpCommon none).defunct = true)
    (hnotWorking : ∀ c, pc = .working c true → c.uses = false)
    (hrefused : ∀ c answer, pc = .returned c true answer → c.uses = true →
      ∃ status message, answer = .refused status message ∧ status ≠ .asynSuccess) :
    DefunctInv (s.setThread t pc) := by
  refine ⟨hinv.disabled, hinv.shutDown, ?_, ?_, ?_, ?_⟩
  · intro t' c hpc
    rcases setThread_cases hpc with hnew | hold
    · exact hlate c hnew
    · exact hinv.late t' c hold
  · intro t' c late hpc
    rcases setThread_cases hpc with hnew | hold
    · exact hshutting c late hnew
    · exact hinv.shutting t' c late hold
  · intro t' c hpc
    rcases setThread_cases hpc with hnew | hold
    · exact hnotWorking c hnew
    · exact hinv.notWorking t' c hold
  · intro t' c answer hpc
    rcases setThread_cases hpc with hnew | hold
    · exact hrefused c answer hnew
    · exact hinv.refused t' c answer hold

/-- A change of the port and its devices that shuts nothing up again. -/
theorem DefunctInv.setPort (hinv : DefunctInv s) (hthread : s'.thread = s.thread)
    (hshutDown : s'.shutDown = s.shutDown)
    (hdefunct : (s.dpCommon none).defunct = true → (s'.dpCommon none).defunct = true)
    (hdisabled : ∀ d, (s'.dpCommon d).defunct = true → (s'.dpCommon d).enabled = false) :
    DefunctInv s' := by
  refine ⟨hdisabled, ?_, ?_, ?_, ?_, ?_⟩
  · intro h
    rw [hshutDown] at h
    exact hdefunct (hinv.shutDown h)
  · intro t c hpc
    rw [hthread] at hpc
    rw [hshutDown]
    exact hinv.late t c hpc
  · intro t c late hpc huses
    rw [hthread] at hpc
    exact hdefunct (hinv.shutting t c late hpc huses)
  · intro t c hpc
    rw [hthread] at hpc
    exact hinv.notWorking t c hpc
  · intro t c answer hpc
    rw [hthread] at hpc
    exact hinv.refused t c answer hpc

theorem enabledTest_of_disabled {dpc : DpCommon} (henabled : dpc.enabled = false) :
    ∃ message, enabledTest p dpc = some (.refused .asynDisabled message) := by
  simp [enabledTest, henabled]

theorem defunctTest_of_defunct {dpc : DpCommon} (hdefunct : dpc.defunct = true) (status : AsynStatus)
    (message : String) : defunctTest dpc status message = some (.refused status message) := by
  simp [defunctTest, hdefunct]

/-- A port that has been shut down refuses every call, a device that has been shut down also those
that look at the device. -/
theorem refusal_of_defunct {dp : Device → DpCommon} {c : Call} (huses : c.uses = true)
    (hdefunct : (dp none).defunct = true) (hdisabled : (dp none).enabled = false)
    (hdevice : ∀ d, (∃ yesNo, c = .enable d yesNo) ∨ c = .lockPort d → (dp d).defunct = true) :
    ∃ status message, refusal p dp c = some (.refused status message) ∧ status ≠ .asynSuccess := by
  cases c with
  | shutdownPort d => cases huses
  | enable d yesNo =>
      have hd := hdevice d (Or.inl ⟨yesNo, rfl⟩)
      exact ⟨_, _, defunctTest_of_defunct hd _ _, by decide⟩
  | lockPort d =>
      have hd := hdevice d (Or.inr rfl)
      exact ⟨_, _, defunctTest_of_defunct hd _ _, by decide⟩
  | queueLockPort d =>
      obtain ⟨message, htest⟩ := enabledTest_of_disabled (p := p) hdisabled
      exact ⟨_, message, htest, by decide⟩
  | queueRequest d checkPortConnect =>
      obtain ⟨message, htest⟩ := enabledTest_of_disabled (p := p) hdisabled
      refine ⟨.asynDisabled, message, ?_, by decide⟩
      simp [refusal, queueRequestRefusal, htest]
  | findInterface d => exact ⟨_, _, defunctTest_of_defunct hdefunct _ _, by decide⟩

/-! ## One step -/

theorem effect_thread (s : State) (c : Call) : (effect s c).thread = s.thread := by
  cases c with
  | shutdownPort d =>
      simp only [effect]
      split <;> rfl
  | _ => rfl

theorem effect_shutDown (s : State) (c : Call) : (effect s c).shutDown = s.shutDown := by
  cases c with
  | shutdownPort d =>
      simp only [effect]
      split <;> rfl
  | _ => rfl

/-- Nothing clears `defunct`. -/
theorem effect_defunct (s : State) (c : Call) {d : Device} (hdefunct : (s.dpCommon d).defunct = true) :
    ((effect s c).dpCommon d).defunct = true := by
  cases c with
  | shutdownPort d' =>
      simp only [effect]
      split
      · exact hdefunct
      · by_cases hd : d = d'
        · subst hd
          simp
        · simpa [Function.update_of_ne hd] using hdefunct
  | enable d' yesNo =>
      by_cases hd : d = d'
      · subst hd
        simpa [effect] using hdefunct
      · simpa [effect, Function.update_of_ne hd] using hdefunct
  | _ => exact hdefunct

theorem effect_disabled {c : Call} (hrefusal : refusal p s.dpCommon c = none)
    (hinv : ∀ d, (s.dpCommon d).defunct = true → (s.dpCommon d).enabled = false) (d : Device)
    (hdefunct : ((effect s c).dpCommon d).defunct = true) :
    ((effect s c).dpCommon d).enabled = false := by
  cases c with
  | shutdownPort d' =>
      simp only [effect] at hdefunct ⊢
      split at hdefunct
      · next h => simpa [h] using hinv d hdefunct
      · next h =>
        rw [if_neg h]
        by_cases hd : d = d'
        · subst hd
          simp
        · simp only [Function.update_of_ne hd] at hdefunct ⊢
          exact hinv d hdefunct
  | enable d' yesNo =>
      by_cases hd : d = d'
      · subst hd
        have hold : (s.dpCommon d).defunct = true := by simpa [effect] using hdefunct
        rw [show refusal p s.dpCommon (.enable d yesNo) = defunctTest (s.dpCommon d) _ _ from rfl,
          defunctTest_of_defunct hold] at hrefusal
        cases hrefusal
      · simp only [effect, Function.update_of_ne hd] at hdefunct ⊢
        exact hinv d hdefunct
  | _ => exact hinv d hdefunct

/-- A call that begins after the shutdown is refused. -/
theorem refusal_of_late {t : ThreadId} {c : Call} (hok : ThroughPort s (.lockCall t))
    (hinv : DefunctInv s) (hpc : s.thread t = .entered c true) (huses : c.uses = true) :
    ∃ status message, refusal p s.dpCommon c = some (.refused status message) ∧
      status ≠ .asynSuccess := by
  have hdefunct := hinv.shutDown (hinv.late t c hpc)
  simp only [ThroughPort, hpc] at hok
  refine refusal_of_defunct huses hdefunct (hinv.disabled none hdefunct) ?_
  rintro d (⟨yesNo, rfl⟩ | rfl)
  · exact hok hdefunct
  · exact hok hdefunct

theorem lockCall_inv {t : ThreadId} (hok : ThroughPort s (.lockCall t)) (hinv : DefunctInv s)
    (hstep : lockCall p s t = some s') : DefunctInv s' := by
  unfold lockCall at hstep
  split at hstep
  · next c late hpc =>
    split at hstep
    · next answer hrefusal =>
      cases hstep
      refine hinv.setThread t (by simp) (by simp) (by simp) ?_
      intro c' answer' hpc' huses
      cases hpc'
      obtain ⟨status, message, hrefused, hstatus⟩ := refusal_of_late (p := p) hok hinv hpc huses
      rw [hrefused] at hrefusal
      exact ⟨status, message, (Option.some.inj hrefusal).symm, hstatus⟩
    · next hrefusal =>
      cases hstep
      have heffect : DefunctInv (effect s c) :=
        hinv.setPort (effect_thread s c) (effect_shutDown s c) (effect_defunct s c)
          (effect_disabled hrefusal hinv.disabled)
      refine heffect.setThread t (by simp) ?_ ?_ (by simp)
      · intro c' late' hpc' huses
        cases hpc'
        cases c with
        | shutdownPort d =>
            simp only [ThroughPort, hpc] at hok
            rcases hok with hport | hdefunct
            · subst hport
              simp only [effect]
              split
              · next h => exact h
              · simp
            · exact effect_defunct s _ hdefunct
        | _ => cases huses
      · intro c' hpc'
        cases hpc'
        by_contra huses
        obtain ⟨status, message, hrefused, -⟩ :=
          refusal_of_late (p := p) hok hinv hpc (eq_true_of_ne_false huses)
        rw [hrefused] at hrefusal
        cases hrefusal
  · cases hstep

theorem defunctInv_start (autoConnect : Bool) : DefunctInv (.start autoConnect) := by
  refine ⟨?_, ?_, ?_, ?_, ?_, ?_⟩
  · intro d h
    cases h
  · intro h
    cases h
  · intro t c h
    cases h
  · intro t c late h
    cases h
  · intro t c h
    cases h
  · intro t c answer h
    cases h

theorem defunctInv_step {a : Action} (hok : ThroughPort s a) (hinv : DefunctInv s)
    (hstep : step p s a = some s') : DefunctInv s' := by
  cases a with
  | enterCall t c =>
      simp only [step, enterCall] at hstep
      split at hstep
      · cases hstep
        refine hinv.setThread t ?_ (by simp) (by simp) (by simp)
        intro c' hpc
        exact (CallPc.entered.inj hpc).2
      · cases hstep
  | lockCall t => exact lockCall_inv hok hinv hstep
  | finishCall t status =>
      simp only [step, finishCall] at hstep
      split at hstep
      · next c late hpc =>
        split at hstep
        · cases hstep
          have hreturned : DefunctInv (s.setThread t (.returned c late (.done status))) := by
            refine hinv.setThread t (by simp) (by simp) (by simp) ?_
            intro c' answer hpc' huses
            cases hpc'
            have hnot := hinv.notWorking t c hpc
            rw [huses] at hnot
            cases hnot
          refine ⟨hreturned.disabled, ?_, ?_, hreturned.shutting, hreturned.notWorking,
            hreturned.refused⟩
          · intro h
            rcases Bool.or_eq_true_iff.mp h with hold | hnew
            · exact hreturned.shutDown hold
            · exact hinv.shutting t c late hpc (by simpa using hnew)
          · intro t' c' hpc'
            exact Bool.or_eq_true_iff.mpr (Or.inl (hreturned.late t' c' hpc'))
        · cases hstep
      · cases hstep
  | leaveCall t =>
      simp only [step, leaveCall] at hstep
      split at hstep
      · cases hstep
        exact hinv.setThread t (by simp) (by simp) (by simp) (by simp)
      · cases hstep
  | connect d yesNo =>
      cases hstep
      have hsame : ∀ d', (Function.update s.dpCommon d { s.dpCommon d with connected := yesNo } d').defunct =
          (s.dpCommon d').defunct ∧
          (Function.update s.dpCommon d { s.dpCommon d with connected := yesNo } d').enabled =
            (s.dpCommon d').enabled := by
        intro d'
        by_cases hd : d' = d
        · subst hd
          simp
        · simp [Function.update_of_ne hd]
      refine hinv.setPort rfl rfl ?_ ?_
      · intro h
        exact (hsame none).1.trans h
      · intro d' h
        rw [(hsame d').1] at h
        exact (hsame d').2.trans (hinv.disabled d' h)

/-! ## Every run -/

theorem defunctInv_of_reachable (hreach : (machine p).Reachable ThroughPort s) : DefunctInv s := by
  refine hreach.invariant ?_ ?_
  · rintro s ⟨autoConnect, rfl⟩
    exact defunctInv_start autoConnect
  · intro s a s' hok hinv hstep
    exact defunctInv_step hok hinv hstep

/-- A port that is shut down through its own `dpCommon` stays out of use. -/
theorem refused_after_shutdown (hreach : (machine p).Reachable ThroughPort s) : ShutDown s := by
  have hinv := defunctInv_of_reachable hreach
  refine ⟨?_, hinv.refused, hinv.notWorking⟩
  intro hshutDown
  exact hinv.disabled none (hinv.shutDown hshutDown)

/-- One call by one thread, from its beginning to its return. -/
def callAlone (t : ThreadId) (c : Call) : List Action :=
  [.enterCall t c, .lockCall t, .finishCall t .asynSuccess]

def multiDevicePort : PortAttributes where
  portName := "portD"
  multiDevice := true
  canBlock := true
  destructible := true

theorem refused_after_shutdown_portD :
    ∃ s, ShutDown s ∧ s.shutDown = true ∧
      s.thread 1 = .returned (.queueRequest (some 0) true) true
        (.refused .asynDisabled "port portD disabled") := by
  have hcheck : ∀ s a, decide (ThroughPort s a) = true → ThroughPort s a :=
    fun _ _ => of_decide_eq_true
  obtain ⟨s, hreach, hvalues⟩ := Machine.exists_reachable_of_execGuarded (M := machine multiDevicePort)
    (fun s => (s.shutDown, s.thread 1)) hcheck
    (callAlone 0 (.shutdownPort none) ++ [Action.enterCall 1 (.queueRequest (some 0) true), .lockCall 1])
    (s := .start true)
    (b := (true, .returned (.queueRequest (some 0) true) true
      (.refused .asynDisabled "port portD disabled"))) ⟨_, rfl⟩ (by decide)
  obtain ⟨hshutDown, hpc⟩ := Prod.mk.inj hvalues
  exact ⟨s, refused_after_shutdown hreach, hshutDown, hpc⟩

/-- A port without devices has only its own `dpCommon`. -/
theorem device_step {a : Action} (hsingle : p.multiDevice = false)
    (hinv : ∀ t c late, s.thread t = .entered c late → c.device = none)
    (hstep : step p s a = some s') (t : ThreadId) (c : Call) (late : Bool)
    (hpc : s'.thread t = .entered c late) : c.device = none := by
  cases a with
  | enterCall t' c' =>
      simp only [step, enterCall] at hstep
      split at hstep
      · next hguard =>
        cases hstep
        rcases setThread_cases hpc with hnew | hold
        · cases hnew
          simpa [hsingle] using hguard.2
        · exact hinv t c late hold
      · cases hstep
  | lockCall t' =>
      simp only [step, lockCall] at hstep
      split at hstep
      · split at hstep
        · cases hstep
          rcases setThread_cases hpc with hnew | hold
          · cases hnew
          · exact hinv t c late hold
        · cases hstep
          rcases setThread_cases hpc with hnew | hold
          · cases hnew
          · rw [effect_thread] at hold
            exact hinv t c late hold
      · cases hstep
  | finishCall t' status =>
      simp only [step, finishCall] at hstep
      split at hstep
      · split at hstep
        · next c' late' _ _ =>
          cases hstep
          have hmoved : (s.setThread t' (.returned c' late' (.done status))).thread t = .entered c late :=
            hpc
          rcases setThread_cases hmoved with hnew | hold
          · cases hnew
          · exact hinv t c late hold
        · cases hstep
      · cases hstep
  | leaveCall t' =>
      simp only [step, leaveCall] at hstep
      split at hstep
      · cases hstep
        rcases setThread_cases hpc with hnew | hold
        · cases hnew
        · exact hinv t c late hold
      · cases hstep
  | connect d yesNo =>
      cases hstep
      exact hinv t c late hpc

/-- So on a port without `ASYN_MULTIDEVICE` every run keeps what a shutdown promises. -/
theorem shutDown_singleDevice (hsingle : p.multiDevice = false)
    (hreach : (machine p).Reachable Machine.Unguarded s) : ShutDown s := by
  have hthrough : (machine p).Reachable ThroughPort s := by
    refine hreach.strengthen (I := fun s => ∀ t c late, s.thread t = .entered c late → c.device = none)
      ?_ (fun s a s' _ hinv hstep => device_step hsingle hinv hstep) ?_
    · rintro s ⟨autoConnect, rfl⟩ t c late hpc
      cases hpc
    · intro s a hinv _
      cases a with
      | lockCall t =>
          simp only [ThroughPort]
          split
          · next d late hpc => exact Or.inl (hinv t _ late hpc)
          · next d yesNo late hpc =>
            have hd : d = none := hinv t _ late hpc
            rw [hd]
            exact id
          · next d late hpc =>
            have hd : d = none := hinv t _ late hpc
            rw [hd]
            exact id
          · trivial
      | _ => trivial
  exact refused_after_shutdown hthrough

/-- A multi-device port that is shut down through a user of address 0 stays enabled, and it is used
without its driver; one that is shut down through a user of the port can still be locked, and `enable`
still succeeds, through a user of address 0. -/
theorem used_after_shutdown :
    (∃ s, (machine multiDevicePort).Reachable Machine.Unguarded s ∧ s.shutDown = true ∧
      (s.dpCommon none).enabled = true ∧ s.drvPvt = false ∧
      s.thread 1 = .returned (.queueRequest none true) true (.done .asynSuccess) ∧ ¬ ShutDown s) ∧
    (∃ s, (machine multiDevicePort).Reachable Machine.Unguarded s ∧ s.shutDown = true ∧
      s.thread 1 = .returned (.lockPort (some 0)) true (.done .asynSuccess) ∧
      s.thread 2 = .returned (.enable (some 0) true) true (.done .asynSuccess) ∧ ¬ ShutDown s) := by
  constructor
  · obtain ⟨s, hreach, hvalues⟩ := Machine.exists_reachable_of_exec (M := machine multiDevicePort)
      (fun s => (s.shutDown, (s.dpCommon none).enabled, s.drvPvt, s.thread 1))
      ([Action.connect none true] ++ callAlone 0 (.shutdownPort (some 0)) ++
        callAlone 1 (.queueRequest none true)) (s := .start true)
      (b := (true, true, false, .returned (.queueRequest none true) true (.done .asynSuccess)))
      ⟨_, rfl⟩ (by decide)
    simp only [Prod.mk.injEq] at hvalues
    obtain ⟨hshutDown, henabled, hdriver, hpc⟩ := hvalues
    refine ⟨s, hreach, hshutDown, henabled, hdriver, hpc, ?_⟩
    intro hsafe
    exact absurd (henabled.symm.trans (hsafe.disabled hshutDown)) (by decide)
  · obtain ⟨s, hreach, hvalues⟩ := Machine.exists_reachable_of_exec (M := machine multiDevicePort)
      (fun s => (s.shutDown, s.thread 1, s.thread 2))
      (callAlone 0 (.shutdownPort none) ++ callAlone 1 (.lockPort (some 0)) ++
        callAlone 2 (.enable (some 0) true)) (s := .start true)
      (b := (true, .returned (.lockPort (some 0)) true (.done .asynSuccess),
        .returned (.enable (some 0) true) true (.done .asynSuccess))) ⟨_, rfl⟩ (by decide)
    simp only [Prod.mk.injEq] at hvalues
    obtain ⟨hshutDown, hlock, henable⟩ := hvalues
    refine ⟨s, hreach, hshutDown, hlock, henable, ?_⟩
    intro hsafe
    obtain ⟨status, message, hrefused, -⟩ := hsafe.refused 1 _ _ hlock rfl
    cases hrefused

end Shutdown
end Manager
end AsynDriver
