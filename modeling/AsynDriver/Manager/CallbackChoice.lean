import AsynDriver.Manager.QueueSteps

/-!
# Which callback `portThread` invokes

`portThread` decides between `processUser` and `timeoutUser` with the local variable
`callTimeoutUser`.  The variable is cleared once, before the scan of the High, Medium and Low
queues, and is set at every enabled entry that is disconnected and has a `timeoutUser`, also when
that entry is then left on its queue because it is blocked.  A request found later in the same scan
inherits the flag.

* `ChoosesOwnCallback` — the callback of a request depends on the request and its `dpCommon` only.
* `NothingLeftBehind` — the guard: no scan passes a blocked entry that has set the flag.
* `choosesOwnCallback_of_nothingLeftBehind` — under the guard the choice is right, because the flag
  is clear at every entry (`FlagClear`).
* `not_choosesOwnCallback_blocked_entry` — a run in which a request on a connected device, with a
  null `timeoutUser`, is answered with its timeout callback.
-/

namespace AsynDriver
namespace Manager
namespace Queue

open Library
open Library.LinkedList

variable {config : PortId → PortConfig} {s s' : State}

/-- The two callbacks of an `asynUser`. -/
inductive Callback
  | processUser
  | timeoutUser
  deriving DecidableEq, Repr

/-- `if(callTimeoutUser) … else …`. -/
def Callback.ofFlag (callTimeoutUser : Bool) : Callback :=
  if callTimeoutUser then .timeoutUser else .processUser

/-- The callback that the port thread executes, and whose it is. -/
def PortPc.callback : PortPc → Option (UserId × Callback)
  | .connectRunning u => some (u, .processUser)
  | .running u _ callTimeoutUser => some (u, .ofFlag callTimeoutUser)
  | _ => none

/-- What the request of `u` calls for: `timeoutUser` exactly when its own `dpCommon` is
disconnected and it has a `timeoutUser`. -/
def ownCallback (s : State) (dp : DpRef) (u : UserId) : Callback :=
  .ofFlag (!(s.dpCommon dp).connected && (s.userPvt u).timeoutUser)

/-- The port thread does not come back from a callback. -/
def InService (p : PortId) (s : State) (a : Action) : Prop :=
  a = .portThread p → (s.portThread p).executes = none

/-- In the runs admitted by `ok`, a step of the port thread that removes the request of `u` from
the High, Medium or Low queue is followed by the callback that this request calls for. -/
def ChoosesOwnCallback (config : PortId → PortConfig) (ok : State → Action → Prop) : Prop :=
  ∀ s s₁ s₂ p i u v callback, (machine config).Reachable ok s → ok s (.portThread p) →
    step config s (.portThread p) = some s₁ → i ≠ .connect → u ∈ (s.port p).queueList i →
    u ∉ (s₁.port p).queueList i →
    (machine config).Path (fun s a => ok s a ∧ InService p s a) s₁ s₂ →
    (s₂.portThread p).callback = some (v, callback) →
    ∃ dp, findDpCommon config (s.userPvt u) = some dp ∧ v = u ∧ callback = ownCallback s dp u

/-- The port thread does not pass a blocked entry that is disconnected and has a `timeoutUser`. -/
def NothingLeftBehind (s : State) : Action → Prop
  | .portThread p =>
      match s.portThread p with
      | .tested _ u dp _ => (s.dpCommon dp).connected = false → (s.userPvt u).timeoutUser = true →
          unblocked s p dp u = true
      | _ => True
  | _ => True

/-- `callTimeoutUser` is clear wherever the port thread stands in its scan. -/
def FlagClear : PortPc → Prop
  | .visit _ _ flag => flag = false
  | .tested _ _ _ flag => flag = false
  | .attempt (.entry _ _ _ flag) _ => flag = false
  | _ => True

theorem scanLists_flagClear (q : Port) (lists : List AsynQueuePriority) :
    FlagClear (scanLists q false lists) := by
  induction lists with
  | nil => trivial
  | cons i rest ih =>
      unfold scanLists
      split
      · exact rfl
      · split
        · trivial
        · exact ih

theorem scanNext_flagClear (q : Port) (i : AsynQueuePriority) (u : UserId) :
    FlagClear (scanNext q i u false) := by
  unfold scanNext
  split
  · exact rfl
  · split
    · trivial
    · exact scanLists_flagClear q _

theorem portResume_flagClear {p : PortId} {k : AutoConnectCont} {r : State × AutoConnectResult}
    (hclear : ∀ tried, FlagClear (.attempt k tried)) :
    FlagClear ((portResume p k r).portThread p) := by
  obtain ⟨s₁, tried | connected⟩ := r
  · simpa [portResume] using hclear tried
  · cases k with
    | connectLoop => cases connected <;> simp [portResume, FlagClear]
    | entry i u dp flag =>
        have hflag : flag = false := hclear dp
        simp only [portResume, State.setPortThread_portThread, Function.update_self]
        split
        · trivial
        · exact hflag

/-- The port thread's own step keeps its flag clear if it leaves nothing behind. -/
theorem portThreadStep_flagClear {p : PortId} (hclear : FlagClear (s.portThread p))
    (hguard : NothingLeftBehind s (.portThread p)) (hstep : portThreadStep config s p = some s') :
    FlagClear (s'.portThread p) := by
  unfold portThreadStep at hstep
  unfold NothingLeftBehind at hguard
  split at hstep
  · cases hstep
  cases hpc : s.portThread p with
  | connectLoop =>
      simp only [hpc] at hstep
      split at hstep
      · cases hstep
        simp [FlagClear]
      · split at hstep
        · cases hstep
          simp [FlagClear]
        · cases hstep
          exact portResume_flagClear fun _ => trivial
  | attempt k tried =>
      simp only [hpc, Option.some.injEq] at hstep
      subst hstep
      rw [hpc] at hclear
      refine portResume_flagClear fun tried' => ?_
      cases k with
      | connectLoop => trivial
      | entry i u dp flag => exact hclear
  | scanTop =>
      simp only [hpc, Option.some.injEq] at hstep
      subst hstep
      simpa using scanLists_flagClear _ _
  | visit i u flag =>
      rw [hpc] at hclear
      obtain rfl : flag = false := hclear
      simp only [hpc] at hstep
      split at hstep
      · cases hstep
      · split at hstep
        · cases hstep
          simpa using scanNext_flagClear _ i u
        · split at hstep
          · cases hstep
            exact portResume_flagClear fun _ => rfl
          · cases hstep
            simp [FlagClear]
  | tested i u dp flag =>
      rw [hpc] at hclear
      obtain rfl : flag = false := hclear
      simp only [hpc, Option.some.injEq] at hstep hguard
      subst hstep
      unfold portTest
      simp only
      split
      · simp [FlagClear]
      · next hblocked =>
        -- the entry is left on its queue, so the guard says that it has not set the flag
        have hunset : (!(s.dpCommon dp).connected && (s.userPvt u).timeoutUser) = false := by
          by_contra hset
          simp only [Bool.not_eq_false, Bool.and_eq_true, Bool.not_eq_true'] at hset
          exact hblocked (hguard hset.1 hset.2)
        simpa [hunset] using scanNext_flagClear _ i u
  | returned u dp =>
      simp only [hpc, Option.some.injEq] at hstep
      subst hstep
      unfold portFinish
      simp only [State.setPortThread_portThread, Function.update_self]
      split <;> trivial
  | waiting =>
      simp only [hpc, Option.ite_none_right_eq_some, Option.some.injEq] at hstep
      obtain ⟨-, rfl⟩ := hstep
      simp [FlagClear]
  | woken =>
      simp only [hpc, Option.some.injEq] at hstep
      subst hstep
      simp only [State.setPortThread_portThread, Function.update_self]
      split <;> trivial
  | connectDispatch u timeout | dispatch u dp flag timeout =>
      simp only [hpc, Option.map_eq_some_iff] at hstep
      obtain ⟨s₁, -, rfl⟩ := hstep
      simp [FlagClear]
  | connectRunning u | connectReturned u | running u dp flag =>
      simp only [hpc, Option.some.injEq] at hstep
      subst hstep
      simp [FlagClear]

/-- The guard of the runs in which the choice of the callback is right. -/
def CallbackGuard (s : State) (a : Action) : Prop :=
  Undisturbed s a ∧ NothingLeftBehind s a

theorem flagClear_reachable (hreach : (machine config).Reachable CallbackGuard s) (p : PortId) :
    FlagClear (s.portThread p) := by
  refine Machine.Reachable.invariant_of_reachable (M := machine config)
    (I := fun s => FlagClear (s.portThread p)) ?_ ?_ hreach
  · rintro s ⟨now, rfl⟩
    trivial
  · intro s a s' hs hguard hclear hstep
    by_cases ha : a = .portThread p
    · subst ha
      exact portThreadStep_flagClear hclear hguard.2 hstep
    · have hinv := QueueInv.reachable (hs.mono fun _ _ h => h.1)
      rw [step_portThread_of_ne hinv ha hstep]
      exact hclear

/-- Between the removal and the end of the callback the port thread keeps the request and the
flag. -/
theorem callback_of_dispatch {ok : State → Action → Prop}
    (hok : ∀ s a, ok s a → Undisturbed s a) {p : PortId} {u : UserId} {dp : DpRef} {flag : Bool}
    {timeout : Int} {s₁ s₂ : State} (hreach : (machine config).Reachable ok s₁)
    (hpc : s₁.portThread p = .dispatch u dp flag timeout)
    (hpath : (machine config).Path (fun s a => ok s a ∧ InService p s a) s₁ s₂) :
    s₂.portThread p = .dispatch u dp flag timeout ∨ s₂.portThread p = .running u dp flag := by
  induction hpath with
  | refl => exact Or.inl hpc
  | @tail s s' a hrun hguard hstep ih =>
      have hs := hreach.path (hrun.mono fun _ _ h => h.1)
      have hinv := QueueInv.reachable (hs.mono hok)
      by_cases ha : a = .portThread p
      · subst ha
        rcases ih with hdispatch | hrunning
        · unfold machine step portThreadStep at hstep
          simp only [hdispatch] at hstep
          split at hstep
          · cases hstep
          · obtain ⟨s₃, -, rfl⟩ := Option.map_eq_some_iff.mp hstep
            exact Or.inr (by simp)
        · have hexecutes := hguard.2 rfl
          simp [hrunning, PortPc.executes] at hexecutes
      · rw [step_portThread_of_ne hinv ha hstep]
        exact ih

/-- In every run in which no scan passes a blocked, disconnected entry with a `timeoutUser`, the
callback depends only on the request and its own `dpCommon`. -/
theorem choosesOwnCallback_of_nothingLeftBehind (config : PortId → PortConfig) :
    ChoosesOwnCallback config CallbackGuard := by
  intro s s₁ s₂ p i u v callback hreach hguard hstep hi hmem hgone hpath hcallback
  have hinv := QueueInv.reachable (hreach.mono fun _ _ h => h.1)
  obtain ⟨dp, flag, flag', hpc, -, hflag, hdispatch⟩ :=
    (portThreadStep_cases hstep).removes hi hmem hgone
  have hclear := flagClear_reachable hreach p
  have hok := hinv.port p
  rw [hpc] at hclear hok
  obtain rfl : flag = false := hclear
  have hreach₁ : (machine config).Reachable CallbackGuard s₁ := hreach.step hguard hstep
  refine ⟨dp, hok.2.2, ?_⟩
  rcases callback_of_dispatch (fun _ _ h => h.1) hreach₁ hdispatch hpath with hd | hr
  · simp [hd, PortPc.callback] at hcallback
  · simp only [hr, PortPc.callback, Option.some.injEq, Prod.mk.injEq] at hcallback
    refine ⟨hcallback.1.symm, ?_⟩
    rw [← hcallback.2, hflag, Bool.false_or]
    rfl

/-- One multi-device port that can block. -/
def multiPort : PortConfig where
  multiDevice := true
  canBlock := true
  autoConnect := false

/-- `asynUser` 0 and 1 are connected to device 0, which is disconnected, 2 to device 1, which is
connected; only 1 has a `timeoutUser`.  The `processUser` of 0 blocks device 0 and both 1 and 2 are
queued; in the next scan the port thread has passed 1 and stands at 2. -/
def blockedEntryRun : List Action :=
  [Action.call 0 (.createAsynUser true false), .client 0, .call 0 (.createAsynUser true true), .client 0,
    .call 0 (.createAsynUser true false), .client 0, .call 0 (.createAsynUser true false),
    .client 0,
    .call 0 (.connectDevice 0 0 0), .client 0, .client 0,
    .call 0 (.connectDevice 1 0 0), .client 0, .client 0,
    .call 0 (.connectDevice 2 0 1), .client 0, .client 0,
    .call 0 (.connectDevice 3 0 (-1)), .client 0, .client 0,
    .call 0 (.exceptionConnect 3), .client 0, .client 0, .client 0, .client 0,
    .call 0 (.exceptionConnect 2), .client 0, .client 0, .client 0, .client 0,
    .call 0 (.queueRequest 0 .low 0), .client 0, .client 0, .client 0] ++
  List.replicate 7 (Action.portThread 0) ++
  [Action.call 0 (.blockProcessCallback 0 false), .client 0, .client 0,
    .call 0 (.queueRequest 1 .low 0), .client 0, .client 0, .client 0,
    .call 0 (.queueRequest 2 .low 0), .client 0, .client 0, .client 0] ++
  List.replicate 9 (Action.portThread 0)

/-- The next two steps of port thread 0 take `u` off the Low queue and invoke its `callback`. -/
def serves (s : State) (u : UserId) (callback : Callback) : Bool :=
  match step (fun _ => multiPort) s (.portThread 0) with
  | none => false
  | some s₁ =>
      decide (u ∉ (s₁.port 0).queueList .low) && decide ((s₁.portThread 0).executes = none) &&
        match step (fun _ => multiPort) s₁ (.portThread 0) with
        | none => false
        | some s₂ => decide ((s₂.portThread 0).callback = some (u, callback))

/-- What `serves` has evaluated, as steps of the machine. -/
theorem steps_of_serves {u : UserId} {callback : Callback} (hserves : serves s u callback = true) :
    ∃ s₁ s₂, step (fun _ => multiPort) s (.portThread 0) = some s₁ ∧
      u ∉ (s₁.port 0).queueList .low ∧ (s₁.portThread 0).executes = none ∧
      step (fun _ => multiPort) s₁ (.portThread 0) = some s₂ ∧
      (s₂.portThread 0).callback = some (u, callback) := by
  unfold serves at hserves
  split at hserves
  · cases hserves
  · next s₁ hfirst =>
    rw [Bool.and_eq_true, Bool.and_eq_true] at hserves
    obtain ⟨⟨hgone, hexecutes⟩, hsecond⟩ := hserves
    split at hsecond
    · cases hsecond
    · next s₂ hnext =>
      exact ⟨s₁, s₂, hfirst, of_decide_eq_true hgone, of_decide_eq_true hexecutes, hnext,
        of_decide_eq_true hsecond⟩

/-- The flag that the blocked entry of `asynUser` 1 leaves behind makes the port thread call the
null `timeoutUser` of `asynUser` 2, whose device is connected. -/
theorem not_choosesOwnCallback_blocked_entry :
    ¬ ∀ config, ChoosesOwnCallback config Machine.Unguarded := by
  intro hclaim
  obtain ⟨s, hreach, hvalue⟩ := Machine.exists_reachable_of_exec
    (M := machine fun _ => multiPort) (b := true)
    (fun s => decide (2 ∈ (s.port 0).queueList .low) &&
      decide (findDpCommon (fun _ => multiPort) (s.userPvt 2) = some (.device 0 1)) &&
      decide (ownCallback s (.device 0 1) 2 = .processUser) && serves s 2 .timeoutUser)
    blockedEntryRun ⟨0, rfl⟩ (by decide +kernel)
  simp only [Bool.and_eq_true, decide_eq_true_eq] at hvalue
  obtain ⟨⟨⟨hmem, hfind⟩, hown⟩, hserves⟩ := hvalue
  obtain ⟨s₁, s₂, hfirst, hgone, hexecutes, hsecond, hcallback⟩ := steps_of_serves hserves
  obtain ⟨dp, hdp, -, hwrong⟩ := hclaim _ s s₁ s₂ 0 .low 2 2 .timeoutUser hreach trivial hfirst
    (by decide) hmem hgone
    (Machine.Path.single (a := .portThread 0) ⟨trivial, fun _ => hexecutes⟩ hsecond) hcallback
  rw [hfind] at hdp
  cases hdp
  rw [hown] at hwrong
  cases hwrong

/-- `CallbackGuard`, as a test. -/
def callbackCheck (s : State) (a : Action) : Bool :=
  undisturbedCheck s a &&
    match a with
    | .portThread p =>
        match s.portThread p with
        | .tested _ u dp _ => (s.dpCommon dp).connected || !(s.userPvt u).timeoutUser ||
            unblocked s p dp u
        | _ => true
    | _ => true

theorem callbackGuard_of_check (s : State) (a : Action) (hcheck : callbackCheck s a = true) :
    CallbackGuard s a := by
  unfold callbackCheck at hcheck
  rw [Bool.and_eq_true] at hcheck
  refine ⟨undisturbed_of_check s a hcheck.1, ?_⟩
  have hscan := hcheck.2
  unfold NothingLeftBehind
  split
  · next p =>
    simp only at hscan
    split
    · next hpc =>
      simp only [hpc] at hscan
      intro hconnected htimeout
      simpa [hconnected, htimeout] using hscan
    · trivial
  · trivial

/-- The request of `asynUser` 0, whose device is disconnected and which has no `timeoutUser`, is
answered by its `processUser`. -/
theorem ownCallback_first_request : ∃ s dp, (machine fun _ => multiPort).Reachable CallbackGuard s ∧
    findDpCommon (fun _ => multiPort) (s.userPvt 0) = some dp ∧
    Callback.processUser = ownCallback s dp 0 := by
  obtain ⟨s, hreach, hvalue⟩ := Machine.exists_reachable_of_execGuarded
    (M := machine fun _ => multiPort) (b := true)
    (fun s => decide (0 ∈ (s.port 0).queueList .low) && callbackCheck s (.portThread 0) &&
      serves s 0 .processUser &&
      (match step (fun _ => multiPort) s (.portThread 0) with
        | none => false
        | some s₁ => callbackCheck s₁ (.portThread 0)))
    callbackGuard_of_check (blockedEntryRun.take 39) ⟨0, rfl⟩ (by decide +kernel)
  simp only [Bool.and_eq_true, decide_eq_true_eq] at hvalue
  obtain ⟨⟨⟨hmem, hcheck⟩, hserves⟩, hcheck₁⟩ := hvalue
  obtain ⟨s₁, s₂, hfirst, hgone, hexecutes, hsecond, hcallback⟩ := steps_of_serves hserves
  rw [hfirst] at hcheck₁
  have hpath : (machine fun _ => multiPort).Path
      (fun s a => CallbackGuard s a ∧ InService 0 s a) s₁ s₂ :=
    Machine.Path.single (a := .portThread 0)
      ⟨callbackGuard_of_check _ _ hcheck₁, fun _ => hexecutes⟩ hsecond
  obtain ⟨dp, hfind, -, hown⟩ := choosesOwnCallback_of_nothingLeftBehind _ s s₁ s₂ 0 .low 0 0
    .processUser hreach (callbackGuard_of_check _ _ hcheck) hfirst (by decide) hmem hgone hpath
    hcallback
  exact ⟨s, dp, hreach, hfind, hown⟩

end Queue
end Manager
end AsynDriver
