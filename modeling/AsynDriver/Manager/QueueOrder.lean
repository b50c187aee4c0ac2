import AsynDriver.Manager.CallbackChoice
import AsynDriver.Manager.QueuePlaces

/-!
# The order in which requests are served

`portThread` walks along the High, Medium and Low queues and takes the first entry that is enabled
and not blocked.  It drops the lock in the middle of the walk for a connection attempt, and goes on
where it was unless `queueStateChange` has been set.

`unblockProcessCallback` does not set `queueStateChange`, and `enable` sets it in a second critical
section.  An entry that the walk has passed can therefore become eligible while the lock is dropped,
and an entry behind it, or on a lower queue, is served first.  A Connect request that arrives during
the connection attempt before the walk is overtaken as well, because `queueStateChange` is cleared
when the walk starts.

* `FirstComeFirstServed`, `HighestFirst` — the order that is claimed.
* `OrderGuard` — no walk is overtaken in these ways.
* `KeptBack`, `ScanOk` — every entry that the walk has passed is still blocked or disabled.
* `QueueStep` — what a step does to the queues of a port.
* `queueOrder_of_orderGuard`, `not_queueOrder_released` — the order under the guard, and a run in
  which a Low request is served before an eligible High one.
-/

namespace AsynDriver
namespace Manager
namespace Queue

open Library
open Library.LinkedList

variable {config : PortId → PortConfig} {s s' : State}

/-! ## Requests in their order -/

/-- `u` blocks the port or the `dpCommon`. -/
def Holds (s : State) (p : PortId) (dp : DpRef) (u : UserId) : Prop :=
  (s.port p).pblockProcessHolder = some u ∨ (s.dpCommon dp).pblockProcessHolder = some u

def BothQueued (s : State) (p : PortId) (i : AsynQueuePriority) (a b : UserId) : Prop :=
  a ∈ (s.port p).queueList i ∧ b ∈ (s.port p).queueList i

/-- A request of `b`, accepted while one of `a` for the same device waits on the same queue, is not
taken off the queue by the port thread as long as that one waits, unless `b` is a block holder. -/
def FirstComeFirstServed (config : PortId → PortConfig) (ok : State → Action → Prop) : Prop :=
  ∀ s s₁ s₂ s₃ t p i timeout dp check a b dp', (machine config).Reachable ok s → i ≠ .connect →
    s.client t = .queueRequest b i timeout p dp check → ok s (.client t) →
    step config s (.client t) = some s₁ → a ∈ (s.port p).queueList i →
    b ∉ (s.port p).queueList i → ¬Holds s p dp b →
    (machine config).Path (fun s x => ok s x ∧ BothQueued s p i a b) s₁ s₂ →
    BothQueued s₂ p i a b → findDpCommon config (s₂.userPvt a) = some dp' →
    findDpCommon config (s₂.userPvt b) = some dp' → ¬Holds s₂ p dp' b →
    step config s₂ (.portThread p) = some s₃ → b ∈ (s₃.port p).queueList i

/-- The device of the request is enabled and nobody else blocks it. -/
def Eligible (config : PortId → PortConfig) (s : State) (p : PortId) (u : UserId) : Prop :=
  ∃ dp, findDpCommon config (s.userPvt u) = some dp ∧ (s.dpCommon dp).enabled = true ∧
    unblocked s p dp u = true

/-- When the port thread takes a request off a queue, no queue of higher priority has an eligible
one. -/
def HighestFirst (config : PortId → PortConfig) (ok : State → Action → Prop) : Prop :=
  ∀ s s' p i u, (machine config).Reachable ok s → step config s (.portThread p) = some s' →
    u ∈ (s.port p).queueList i → u ∉ (s'.port p).queueList i →
    ∀ j v, i.rank < j.rank → v ∈ (s.port p).queueList j → ¬Eligible config s p v

structure QueueOrder (config : PortId → PortConfig) (ok : State → Action → Prop) : Prop where
  first : FirstComeFirstServed config ok
  highest : HighestFirst config ok

/-! ## The guard -/

/-- The port thread is in the middle of its walk along the queues. -/
def PortPc.scans : PortPc → Bool
  | .visit _ _ _ => true
  | .tested _ _ _ _ => true
  | .attempt (.entry _ _ _ _) _ => true
  | _ => false

/-- The critical section of `unblockProcessCallback` of `u`, which has read port `p`, releases port
`q` or one of its devices. -/
def Releases (config : PortId → PortConfig) (s : State) (u : UserId) (allDevices : Bool)
    (p q : PortId) : Prop :=
  (s.userPvt u).isQueued = false ∧
    if allDevices then
      p = q ∧ (s.userPvt u).blockPortCount ≤ 1 ∧ (s.port p).pblockProcessHolder = some u
    else
      let dp := (findDpCommon config (s.userPvt u)).getD (.port p)
      dp.pport = q ∧ (s.userPvt u).blockDeviceCount ≤ 1 ∧
        (s.dpCommon dp).pblockProcessHolder = some u

structure OrderGuard (config : PortId → PortConfig) (s : State) (a : Action) : Prop where
  undisturbed : Undisturbed s a
  release : ∀ t u allDevices p q, a = .client t →
    s.client t = .unblockProcessCallback u allDevices p → (s.portThread q).scans = true →
    ¬Releases config s u allDevices p q
  enable : ∀ t u dp, a = .client t → s.client t = .enable u true dp →
    (s.portThread dp.pport).scans = true → (s.dpCommon dp).enabled = true
  connect : ∀ p, a = .portThread p → s.portThread p = .scanTop → (s.port p).queueList .connect = []

/-! ## What a step does to the queues of a port -/

/-- The queues stay as they are, a request is accepted, or one is removed; another thread than the
port thread needs the lock for this and sets `queueStateChange`. -/
inductive QueueStep (s : State) (a : Action) (s' : State) (p : PortId) : Prop
  | same (hlist : (s'.port p).queueList = (s.port p).queueList)
      (hchange : a ≠ .portThread p → (s.port p).queueStateChange = true →
        (s'.port p).queueStateChange = true)
  | accept (i : AsynQueuePriority) (u : UserId) (front : Bool) (hlock : s.lockFree p = true)
      (hqueued : (s.userPvt u).isQueued = false)
      (hlist : (s'.port p).queueList = Function.update (s.port p).queueList i
        (if front then u :: (s.port p).queueList i else (s.port p).queueList i ++ [u]))
      (hchange : (s'.port p).queueStateChange = true)
  | remove (i : AsynQueuePriority) (u : UserId)
      (hlist : (s'.port p).queueList = Function.update (s.port p).queueList i
        (((s.port p).queueList i).erase u))
      (hother : a ≠ .portThread p → s.lockFree p = true ∧ (s'.port p).queueStateChange = true)

variable {a : Action} {p : PortId}

theorem QueueStep.of_port (hport : s'.port p = s.port p) : QueueStep s a s' p :=
  .same (by rw [hport]) (by rw [hport]; exact fun _ => id)

theorem QuietFrame.queueStep {s₁ : State} (hframe : QuietFrame s s₁)
    (hport : s'.port = s₁.port) : QueueStep s a s' p := by
  refine .same ?_ fun _ => ?_
  · rw [hport, hframe.queueList]
  · rw [hport]
    exact hframe.stateChange p

/-- A removal by a thread that is not the port thread. -/
theorem QueueStep.of_dequeue {q : PortId} {i : AsynQueuePriority} {u : UserId}
    (hlock : s.lockFree q = true) (hport : s'.port = ((s.dequeue q i u).stateChanged q).port) :
    QueueStep s a s' p := by
  by_cases hp : p = q
  · subst hp
    refine .remove i u ?_ fun _ => ⟨hlock, ?_⟩
    · rw [hport, ← dequeue_queueList]
      simp [State.stateChanged]
    · simp [hport, State.stateChanged]
  · apply QueueStep.of_port
    rw [hport]
    simp [State.stateChanged, hp, dequeue_port_of_ne hp]

theorem ClientStep.queueStep {t : ThreadId} (hstep : ClientStep config s t s') :
    QueueStep s a s' p := by
  cases hstep with
  | quiet s₁ pc hframe hmove => exact hframe.queueStep rfl
  | syncStart s₁ u priority timeout hstarts hframe => exact hframe.queueStep rfl
  | connectNew u q addr b hpc hnew =>
      by_cases hp : p = q
      · subst hp
        exact .same (by simp [State.ret]) (fun _ => by simp [State.ret])
      · exact .of_port (by simp [State.ret, hp])
  | enqueue u priority timeout q dp check hpc hlock hblock hrefused hqueued htimeout =>
      by_cases hp : p = q
      · subst hp
        refine .accept priority u (addToFront s u p dp) hlock hqueued ?_ ?_
        · rw [State.setClient_port, enqueue_queueList]
        · rw [State.setClient_port, enqueue_stateChange]
      · apply QueueStep.of_port
        rw [State.setClient_port, enqueue_port_of_ne _ _ hp]
  | cancelQueued u q i hpc hlock hmem => exact .of_dequeue hlock rfl
  | unblockPort u q hpc hqueued hcount hlast hholder =>
      by_cases hp : p = q
      · subst hp
        exact .same (by simp) (fun _ => by simp)
      · exact .of_port (by simp [hp])
  | _ => exact .of_port rfl

theorem CallStep.queueStep {t : ThreadId} (hstep : CallStep s t s') : QueueStep s a s' p := by
  cases hstep with
  | create s₁ u process timeout hframe hphase => exact hframe.queueStep rfl
  | _ => exact .of_port rfl

theorem TimerStep.queueStep (hstep : TimerStep s s') : QueueStep s a s' p := by
  cases hstep with
  | drop u q i hpc hlock hmem => exact .of_dequeue hlock rfl
  | start u q i hpc hlock hmem htimeout => exact .of_dequeue hlock rfl
  | finish u q hpc =>
      apply QueueStep.of_port
      rw [State.setTimerThread_port, finishCallback_port]
  | signal u q hpc => exact (QuietFrame.notify s q true).queueStep rfl
  | _ => exact .of_port rfl

/-- The start of a service removes one request from one queue of the thread's own port. -/
theorem QueueStep.of_startService {q : PortId} {i : AsynQueuePriority} {u : UserId}
    (hport : s'.port = (s.startService q i u).port) : QueueStep s (.portThread q) s' p := by
  by_cases hp : p = q
  · subst hp
    refine .remove i u ?_ fun h => absurd rfl h
    rw [hport, ← dequeue_queueList]
    rfl
  · apply QueueStep.of_port
    rw [hport]
    exact dequeue_port_of_ne hp

theorem PortStep.queueStep {q : PortId} (hstep : PortStep config s q s') :
    QueueStep s (.portThread q) s' p := by
  cases hstep with
  | quiet s₁ pc hframe hold hnew => exact hframe.queueStep rfl
  | scan pc hpc hnew =>
      by_cases hp : p = q
      · subst hp
        exact .same (by simp) fun h => absurd rfl h
      · exact .of_port (by simp [hp])
  | serveConnect u hpc hhead => exact .of_startService rfl
  | serve i u dp flag flag' hpc hunblocked hflag => exact .of_startService rfl
  | startConnect s₁ u timeout hpc hcancel | start s₁ u dp flag timeout hpc hcancel =>
      rcases State.cancelTimer_cases hcancel with rfl | rfl
      · exact .of_port rfl
      · exact .of_port rfl
  | finishConnect u hpc =>
      apply QueueStep.of_port
      rw [State.setPortThread_port, finishCallback_port]
  | finish u dp hpc =>
      refine .same ?_ fun _ h => ?_
      · rw [portFinish_port]
      · rwa [portFinish_port]
  | returnsConnect u hpc | returns u dp flag hpc => exact .of_port rfl

theorem step_queueStep (hqueue : QueueInv config s) (hstep : step config s a = some s') :
    QueueStep s a s' p := by
  cases a with
  | call t c =>
      simp only [step, Option.ite_none_right_eq_some, Option.some.injEq] at hstep
      obtain ⟨hallowed, rfl⟩ := hstep
      exact (startCall_cases hqueue hallowed).queueStep
  | client t => exact (clientStep_cases hqueue hstep).queueStep
  | timerExpire u =>
      simp only [step, timerExpire, Option.ite_none_right_eq_some, Option.some.injEq] at hstep
      obtain ⟨-, rfl⟩ := hstep
      exact .of_port rfl
  | timerThread => exact (timerStep_cases hqueue hstep).queueStep
  | portThread q => exact (portThreadStep_cases hstep).queueStep
  | tick =>
      simp only [step, Option.some.injEq] at hstep
      subst hstep
      exact .of_port rfl
  | setReason u b | setExceptionUser u b =>
      simp only [step, Option.ite_none_right_eq_some, Option.some.injEq] at hstep
      obtain ⟨-, rfl⟩ := hstep
      exact .of_port rfl

/-! ## What a step does to `enabled` -/

/-- Only `enable` writes the flag of a `dpCommon` that exists, under the lock of its port. -/
def EnabledStep (s : State) (a : Action) (s' : State) (dp : DpRef) : Prop :=
  (s'.dpCommon dp).enabled = (s.dpCommon dp).enabled ∨
    ∃ t u yesNo, a = .client t ∧ s.client t = .enable u yesNo dp ∧
      s.lockFree dp.pport = true ∧ (s'.dpCommon dp).enabled = yesNo

theorem EnabledStep.of_dpCommon {dp : DpRef} (hdp : s'.dpCommon = s.dpCommon) :
    EnabledStep s a s' dp :=
  Or.inl (by rw [hdp])

theorem ClientStep.enabledStep {t : ThreadId} (hstep : ClientStep config s t s') {dp : DpRef}
    (hexists : DpExists s dp) : EnabledStep s (.client t) s' dp := by
  cases hstep with
  | quiet s₁ pc hframe hmove => exact Or.inl (hframe.enabled dp)
  | syncStart s₁ u priority timeout hstarts hframe => exact Or.inl (hframe.enabled dp)
  | enable u yesNo dp' hpc hlock =>
      by_cases hdp : dp = dp'
      · subst hdp
        exact Or.inr ⟨t, u, yesNo, rfl, hpc, hlock, by simp⟩
      · left
        simp [hdp]
  | connectNew u p addr b hpc hnew =>
      have hne : dp ≠ .device p b := by
        rintro rfl
        exact hnew (hexists b rfl)
      left
      simp [State.ret, hne]
  | unblockDevice u p dp' hpc hqueued hcount hlast hfind hholder =>
      left
      by_cases hdp : dp = dp'
      · subst hdp
        simp
      · simp [hdp]
  | _ => exact .of_dpCommon rfl

theorem CallStep.enabledStep {t : ThreadId} (hstep : CallStep s t s') {dp : DpRef} :
    EnabledStep s a s' dp := by
  cases hstep with
  | create s₁ u process timeout hframe hphase => exact Or.inl (hframe.enabled dp)
  | _ => exact .of_dpCommon rfl

theorem TimerStep.enabledStep (hstep : TimerStep s s') {dp : DpRef} : EnabledStep s a s' dp := by
  cases hstep with
  | finish u p hpc => exact .of_dpCommon (finishCallback_dpCommon s u)
  | _ => exact .of_dpCommon rfl

theorem PortStep.enabledStep {q : PortId} (hstep : PortStep config s q s') {dp : DpRef} :
    EnabledStep s a s' dp := by
  cases hstep with
  | quiet s₁ pc hframe hold hnew => exact Or.inl (hframe.enabled dp)
  | startConnect s₁ u timeout hpc hcancel | start s₁ u dp' flag timeout hpc hcancel =>
      rcases State.cancelTimer_cases hcancel with rfl | rfl
      · exact .of_dpCommon rfl
      · exact .of_dpCommon rfl
  | finishConnect u hpc => exact .of_dpCommon (finishCallback_dpCommon s u)
  | finish u dp' hpc =>
      left
      rw [portFinish_dpCommon]
  | _ => exact .of_dpCommon rfl

theorem step_enabledStep (hqueue : QueueInv config s) (hstep : step config s a = some s')
    {dp : DpRef} (hexists : DpExists s dp) : EnabledStep s a s' dp := by
  cases a with
  | call t c =>
      simp only [step, Option.ite_none_right_eq_some, Option.some.injEq] at hstep
      obtain ⟨hallowed, rfl⟩ := hstep
      exact (startCall_cases hqueue hallowed).enabledStep
  | client t => exact (clientStep_cases hqueue hstep).enabledStep hexists
  | timerExpire u =>
      simp only [step, timerExpire, Option.ite_none_right_eq_some, Option.some.injEq] at hstep
      obtain ⟨-, rfl⟩ := hstep
      exact .of_dpCommon rfl
  | timerThread => exact (timerStep_cases hqueue hstep).enabledStep
  | portThread q => exact (portThreadStep_cases hstep).enabledStep
  | tick =>
      simp only [step, Option.some.injEq] at hstep
      subst hstep
      exact .of_dpCommon rfl
  | setReason u b | setExceptionUser u b =>
      simp only [step, Option.ite_none_right_eq_some, Option.some.injEq] at hstep
      obtain ⟨-, rfl⟩ := hstep
      exact .of_dpCommon rfl

/-! ## The entries that the walk has passed -/

/-- The request of `v` is blocked, or its device is disabled and is not the one that the port thread
is looking at. -/
def KeptBack (config : PortId → PortConfig) (s : State) (p : PortId) (current : Option DpRef)
    (v : UserId) : Prop :=
  ∀ dp, findDpCommon config (s.userPvt v) = some dp →
    current = some dp ∨ (s.dpCommon dp).enabled = true → unblocked s p dp v = false

/-- The walk that stands at the entry of `u` on `queueList[i]` has passed the entry of `v`. -/
def Passed (q : Port) (i : AsynQueuePriority) (u v : UserId) : Prop :=
  (∃ j, i.rank < j.rank ∧ v ∈ q.queueList j) ∨ v ∈ before (q.queueList i) u

/-- Every entry that the port thread has passed is kept back, unless the walk is about to be given
up. -/
def ScanOk (config : PortId → PortConfig) (s : State) (p : PortId) : PortPc → Prop
  | .visit i u _ => ∀ v, Passed (s.port p) i u v → KeptBack config s p none v
  | .tested i u dp _ => ∀ v, Passed (s.port p) i u v → KeptBack config s p (some dp) v
  | .attempt (.entry i u dp _) _ => (s.port p).queueStateChange = true ∨
      ∀ v, Passed (s.port p) i u v → KeptBack config s p (some dp) v
  | _ => True

theorem KeptBack.not_eligible {v : UserId} {current : Option DpRef}
    (hkept : KeptBack config s p current v) : ¬Eligible config s p v := by
  rintro ⟨dp, hfind, henabled, hunblocked⟩
  have hblocked := hkept dp hfind (Or.inr henabled)
  rw [hunblocked] at hblocked
  cases hblocked

theorem KeptBack.weaken {v : UserId} {current : Option DpRef}
    (hkept : KeptBack config s p current v) : KeptBack config s p none v := by
  intro dp hfind hcurrent
  rcases hcurrent with hnone | henabled
  · cases hnone
  · exact hkept dp hfind (Or.inr henabled)

/-- At an enabled device the entries of that device have been passed because they are blocked. -/
theorem KeptBack.at_enabled {v : UserId} {dp : DpRef} (hkept : KeptBack config s p none v)
    (henabled : (s.dpCommon dp).enabled = true) : KeptBack config s p (some dp) v := by
  intro dp' hfind hcurrent
  rcases hcurrent with hsame | henabled'
  · obtain rfl : dp = dp' := Option.some.inj hsame
    exact hkept dp hfind (Or.inr henabled)
  · exact hkept dp' hfind (Or.inr henabled')

/-- Nothing that this predicate reads has changed. -/
theorem KeptBack.congr {v : UserId} {current : Option DpRef}
    (hkept : KeptBack config s p current v) (huser : s'.userPvt = s.userPvt)
    (henabled : ∀ dp, (s'.dpCommon dp).enabled = (s.dpCommon dp).enabled)
    (hport : (s'.port p).pblockProcessHolder = (s.port p).pblockProcessHolder)
    (hdp : ∀ dp, (s'.dpCommon dp).pblockProcessHolder = (s.dpCommon dp).pblockProcessHolder) :
    KeptBack config s' p current v := by
  intro dp hfind hcurrent
  rw [huser] at hfind
  rw [henabled] at hcurrent
  have hblocked := hkept dp hfind hcurrent
  unfold unblocked at hblocked ⊢
  rwa [hport, hdp]

/-! ## The walk itself -/

section Walk

variable {q : Port} {P : UserId → Prop}

/-- Every entry that was passed on the way to `pc` satisfies `P`. -/
def WalkOk (q : Port) (P : UserId → Prop) : PortPc → Prop
  | .visit i u _ => ∀ v, Passed q i u v → P v
  | .waiting => True
  | _ => False

theorem scanLists_cons_walkOk {i : AsynQueuePriority} {rest : List AsynQueuePriority} {flag : Bool}
    (hpassed : ∀ j v, i.rank < j.rank → v ∈ q.queueList j → P v)
    (hrest : (∀ j v, i.rank ≤ j.rank → v ∈ q.queueList j → P v) →
      WalkOk q P (scanLists q flag rest)) : WalkOk q P (scanLists q flag (i :: rest)) := by
  unfold scanLists
  split
  · next u l hlist =>
    intro v hv
    rcases hv with ⟨j, hj, hmem⟩ | hbefore
    · exact hpassed j v hj hmem
    · rw [before_of_head? (by rw [hlist]; rfl)] at hbefore
      simp at hbefore
  · next hlist =>
    split
    · trivial
    · refine hrest fun j v hj hmem => ?_
      by_cases hrank : i.rank < j.rank
      · exact hpassed j v hrank hmem
      · have hsame : j = i := by
          cases i <;> cases j <;> simp [AsynQueuePriority.rank] at hj hrank <;> rfl
        subst hsame
        simp [hlist] at hmem

/-- The walk goes on with the lists below `j`, all others having been passed. -/
theorem scanLists_walkOk (j : AsynQueuePriority) {flag : Bool}
    (hpassed : ∀ k v, j.rank ≤ k.rank → v ∈ q.queueList k → P v) :
    WalkOk q P (scanLists q flag (lowerPriorities j)) := by
  have hlow : WalkOk q P (scanLists q flag (lowerPriorities .low)) := trivial
  have hmedium : (∀ k v, AsynQueuePriority.rank .medium ≤ k.rank → v ∈ q.queueList k → P v) →
      WalkOk q P (scanLists q flag (lowerPriorities .medium)) := fun h =>
    scanLists_cons_walkOk (fun k v hk => h k v (Nat.succ_le_of_lt hk)) fun _ => hlow
  have hhigh : (∀ k v, AsynQueuePriority.rank .high ≤ k.rank → v ∈ q.queueList k → P v) →
      WalkOk q P (scanLists q flag (lowerPriorities .high)) := fun h =>
    scanLists_cons_walkOk (fun k v hk => h k v (Nat.succ_le_of_lt hk)) hmedium
  cases j with
  | low => exact hlow
  | medium => exact hmedium hpassed
  | high => exact hhigh hpassed
  | connect => exact scanLists_cons_walkOk (fun k v hk => hpassed k v (Nat.succ_le_of_lt hk)) hhigh

theorem scanNext_walkOk {i : AsynQueuePriority} {u : UserId} {flag : Bool}
    (hnodup : (q.queueList i).Nodup) (hmem : u ∈ q.queueList i)
    (hpassed : ∀ v, Passed q i u v → P v) (hself : P u) :
    WalkOk q P (scanNext q i u flag) := by
  unfold scanNext
  split
  · next w hnext =>
    intro v hv
    rcases hv with hhigher | hbefore
    · exact hpassed v (Or.inl hhigher)
    · rw [before_of_nextAfter hnodup hnext, List.mem_append, List.mem_singleton] at hbefore
      rcases hbefore with hold | rfl
      · exact hpassed v (Or.inr hold)
      · exact hself
  · next hend =>
    split
    · trivial
    · refine scanLists_walkOk i fun k v hk hv => ?_
      by_cases hrank : i.rank < k.rank
      · exact hpassed v (Or.inl ⟨k, hrank, hv⟩)
      · have hsame : k = i := by
          cases i <;> cases k <;> simp [AsynQueuePriority.rank] at hk hrank <;> rfl
        subst hsame
        rw [eq_before_append_of_nextAfter_none hmem hend, List.mem_append,
          List.mem_singleton] at hv
        rcases hv with hold | rfl
        · exact hpassed v (Or.inr hold)
        · exact hself

end Walk

/-! ## The steps keep the walk in order -/

theorem AttemptFrame.keptBack (hframe : AttemptFrame s s') {v : UserId} {current : Option DpRef}
    (hkept : KeptBack config s p current v) : KeptBack config s' p current v := by
  have hquiet := hframe.quiet
  exact hkept.congr hquiet.userPvt hquiet.enabled (hquiet.portHolder p) hquiet.dpHolder

theorem WalkOk.scanOk {pc : PortPc} (hwalk : WalkOk (s.port p) (KeptBack config s p none) pc) :
    ScanOk config s p pc := by
  cases pc with
  | visit i u flag => exact hwalk
  | waiting => trivial
  | _ => exact hwalk.elim

theorem ScanOk.setPortThread {x : PortPc} (hok : ScanOk config s p x) :
    ScanOk config (s.setPortThread p x) p ((s.setPortThread p x).portThread p) := by
  rw [State.setPortThread_portThread, Function.update_self]
  exact hok

/-- `autoConnectDevice` leaves the passed entries alone; if it has dropped the lock in between, the
walk goes on only while `queueStateChange` is clear. -/
theorem portResume_scanOk {k : AutoConnectCont} {r : State × AutoConnectResult}
    (hframe : AttemptFrame s r.1) (hok : ∀ tried, ScanOk config s p (.attempt k tried)) :
    ScanOk config (portResume p k r) p ((portResume p k r).portThread p) := by
  obtain ⟨s₁, result⟩ := r
  cases k with
  | connectLoop =>
      cases result with
      | attempt tried => exact ScanOk.setPortThread (x := .attempt .connectLoop tried) trivial
      | done connected => cases connected <;> exact ScanOk.setPortThread trivial
  | entry i u dp flag =>
      have hpassed : (s₁.port p).queueStateChange = true ∨
          ∀ v, Passed (s₁.port p) i u v → KeptBack config s₁ p (some dp) v := by
        rw [hframe.port]
        exact (hok dp).imp_right fun h v hv => hframe.keptBack (h v hv)
      cases result with
      | attempt tried => exact ScanOk.setPortThread (x := .attempt _ tried) hpassed
      | done connected =>
          unfold portResume
          simp only
          split
          · exact ScanOk.setPortThread trivial
          · next hchange =>
            exact ScanOk.setPortThread (x := .tested i u dp flag) (hpassed.resolve_left hchange)

theorem portThreadStep_scanOk (hqueue : QueueInv config s) (hok : ScanOk config s p (s.portThread p))
    (hconnect : s.portThread p = .scanTop → (s.port p).queueList .connect = [])
    (hstep : portThreadStep config s p = some s') : ScanOk config s' p (s'.portThread p) := by
  have hport := hqueue.port p
  have hnodup := fun i => queueList_nodup (hqueue.node.nodup p) i
  unfold portThreadStep at hstep
  split at hstep
  · cases hstep
  cases hpc : s.portThread p with
  | waiting =>
      simp only [hpc, Option.ite_none_right_eq_some, Option.some.injEq] at hstep
      obtain ⟨-, rfl⟩ := hstep
      exact ScanOk.setPortThread trivial
  | woken =>
      simp only [hpc, Option.some.injEq] at hstep
      subst hstep
      split <;> exact ScanOk.setPortThread trivial
  | connectLoop =>
      simp only [hpc] at hstep
      split at hstep
      · cases hstep
        exact ScanOk.setPortThread trivial
      · split at hstep
        · cases hstep
          exact ScanOk.setPortThread trivial
        · cases hstep
          exact portResume_scanOk (autoConnectDevice_frame s _) fun _ => trivial
  | attempt k tried =>
      simp only [hpc, Option.some.injEq] at hstep
      subst hstep
      rw [hpc] at hok
      refine portResume_scanOk (autoConnectResume_frame s _ tried) fun tried' => ?_
      cases k with
      | connectLoop => trivial
      | entry i u dp flag => exact hok
  | scanTop =>
      simp only [hpc, Option.some.injEq] at hstep
      subst hstep
      -- no Connect request is waiting, so the walk starts having passed nothing
      refine ScanOk.setPortThread (WalkOk.scanOk ?_)
      refine scanLists_walkOk .connect fun k v hk hv => ?_
      have hempty := hconnect hpc
      cases k with
      | connect => simp [hempty] at hv
      | _ => simp [AsynQueuePriority.rank] at hk
  | visit i u flag =>
      rw [hpc] at hport hok
      obtain ⟨-, hmem⟩ := hport
      simp only [hpc] at hstep
      split at hstep
      · cases hstep
      · next dp hfind =>
        split at hstep
        · next hdisabled =>
          cases hstep
          refine ScanOk.setPortThread (scanNext_walkOk (hnodup i) hmem hok ?_).scanOk
          intro dp' hfind' hcurrent
          obtain rfl : dp = dp' := Option.some.inj (hfind.symm.trans hfind')
          rcases hcurrent with hnone | henabled
          · cases hnone
          · simp [henabled] at hdisabled
        · next henabled =>
          have hkept : ∀ v, Passed (s.port p) i u v → KeptBack config s p (some dp) v :=
            fun v hv => (hok v hv).at_enabled (by simpa using henabled)
          split at hstep
          · cases hstep
            exact portResume_scanOk (autoConnectDevice_frame s dp) fun _ => Or.inr hkept
          · cases hstep
            exact ScanOk.setPortThread (x := .tested i u dp flag) hkept
  | tested i u dp flag =>
      rw [hpc] at hport hok
      obtain ⟨-, hmem, hfind⟩ := hport
      simp only [hpc, Option.some.injEq] at hstep
      subst hstep
      unfold portTest
      simp only
      split
      · exact ScanOk.setPortThread trivial
      · next hblocked =>
        refine ScanOk.setPortThread (scanNext_walkOk (hnodup i) hmem
          (fun v hv => (hok v hv).weaken) ?_).scanOk
        intro dp' hfind' _
        obtain rfl : dp = dp' := Option.some.inj (hfind.symm.trans hfind')
        simpa using hblocked
  | connectDispatch u timeout | dispatch u dp flag timeout =>
      simp only [hpc, Option.map_eq_some_iff] at hstep
      obtain ⟨s₁, -, rfl⟩ := hstep
      exact ScanOk.setPortThread trivial
  | connectRunning u | connectReturned u | running u dp flag =>
      simp only [hpc, Option.some.injEq] at hstep
      subst hstep
      exact ScanOk.setPortThread trivial
  | returned u dp =>
      simp only [hpc, Option.some.injEq] at hstep
      subst hstep
      unfold portFinish
      simp only
      refine ScanOk.setPortThread ?_
      by_cases hchange : (s.port p).queueStateChange = true
      · rw [if_pos hchange]
        trivial
      · rw [if_neg hchange]
        trivial

theorem Passed.mem {q : Port} {i : AsynQueuePriority} {u v : UserId} (hpassed : Passed q i u v) :
    ∃ j, v ∈ q.queueList j := by
  rcases hpassed with ⟨j, -, hmem⟩ | hbefore
  · exact ⟨j, hmem⟩
  · exact ⟨i, before_subset _ _ hbefore⟩

/-- While the walk of the port thread goes on, no other thread makes a blocked entry eligible. -/
theorem step_blocked (hplace : PlaceInv s) (hguard : OrderGuard config s a)
    (ha : a ≠ .portThread p) (hscans : (s.portThread p).scans = true) {dp : DpRef} {v : UserId}
    (hdp : dp.pport = p) (hexists : DpExists s dp) (hblocked : unblocked s p dp v = false)
    (hstep : HolderStep config s a s') : unblocked s' p dp v = false := by
  -- both holders are what they were
  have hkeep : (s'.port p).pblockProcessHolder = (s.port p).pblockProcessHolder →
      (s'.dpCommon dp).pblockProcessHolder = (s.dpCommon dp).pblockProcessHolder →
      unblocked s' p dp v = false := by
    intro hportHolder hdpHolder
    unfold unblocked at hblocked ⊢
    rwa [hportHolder, hdpHolder]
  cases hstep with
  | same hportHolder hdpHolder => exact hkeep (hportHolder p) (hdpHolder dp hexists)
  | releasePort t u q hclient hpc hqueued hlast hholder _ hportHolder hdpHolder =>
      have hq : p ≠ q := by
        rintro rfl
        refine hguard.release t u true p p hclient hpc hscans ⟨hqueued, ?_⟩
        rw [if_pos rfl]
        exact ⟨rfl, by omega, hholder⟩
      exact hkeep (hportHolder p hq) (hdpHolder dp)
  | releaseDevice t u q dp' hclient hpc hqueued hlast hfind hholder _ hportHolder hdpHolder =>
      have hne : dp ≠ dp' := by
        rintro rfl
        refine hguard.release t u false q p hclient hpc hscans ⟨hqueued, ?_⟩
        rw [if_neg Bool.false_ne_true, ← hfind]
        exact ⟨hdp, by omega, hholder⟩
      exact hkeep (hportHolder p) (hdpHolder dp hne)
  | finish q u dp' hthread hpc hportHolder hdpHolder =>
      have hq : p ≠ q := by
        rintro rfl
        exact ha hthread
      have hne : dp ≠ dp' := by
        rintro rfl
        exact hq (hdp.symm.trans (hplace.service_port q u dp (by rw [hpc]; rfl)))
      refine hkeep ?_ ?_
      · rw [hportHolder, if_neg fun h => hq h.1]
      · rw [hdpHolder, if_neg fun h => hne h.1]

theorem step_keptBack (hqueue : QueueInv config s) (hplace : PlaceInv s)
    (hguard : OrderGuard config s a) (ha : a ≠ .portThread p)
    (hscans : (s.portThread p).scans = true) (hstep : step config s a = some s')
    {j : AsynQueuePriority} {v : UserId} (hmem : v ∈ (s.port p).queueList j)
    {current : Option DpRef} (hkept : KeptBack config s p current v) :
    KeptBack config s' p current v := by
  intro dp hfind hcurrent
  have hblockStep := step_blockStep hqueue hguard.undisturbed hstep
  obtain ⟨hqueued, hport⟩ := hqueue.node.queued_of_mem hmem
  rw [hblockStep.findDpCommon_of_queued hqueue.node hqueued] at hfind
  have hexists := hplace.dpExists hfind
  have hdp : dp.pport = p := by
    rw [findDpCommon_pport hfind] at hport
    exact Option.some.inj hport
  refine step_blocked hplace hguard ha hscans hdp hexists (hkept dp hfind ?_) hblockStep.holders
  rcases hcurrent with hcurrent | henabled
  · exact Or.inl hcurrent
  · right
    rcases step_enabledStep hqueue hstep hexists with hsame | ⟨t, u, yesNo, hclient, hpc, -, hset⟩
    · rwa [hsame] at henabled
    · obtain rfl : yesNo = true := hset.symm.trans henabled
      exact hguard.enable t u dp hclient hpc (by rw [hdp]; exact hscans)

theorem step_scanOk_of_ne (hqueue : QueueInv config s) (hplace : PlaceInv s)
    (hguard : OrderGuard config s a) (ha : a ≠ .portThread p)
    (hok : ScanOk config s p (s.portThread p)) (hstep : step config s a = some s') :
    ScanOk config s' p (s.portThread p) := by
  have hkept : (s.portThread p).scans = true → (s'.port p).queueList = (s.port p).queueList →
      ∀ i u current, (∀ v, Passed (s.port p) i u v → KeptBack config s p current v) →
        ∀ v, Passed (s'.port p) i u v → KeptBack config s' p current v := by
    intro hscans hlist i u current hall v hpassed
    unfold Passed at hpassed
    rw [hlist] at hpassed
    obtain ⟨j, hmem⟩ := Passed.mem (q := s.port p) hpassed
    exact step_keptBack hqueue hplace hguard ha hscans hstep hmem (hall v hpassed)
  -- a thread that holds the lock keeps the others off its queues
  have hlocked : (s.portThread p).locked = true →
      (s'.port p).queueList = (s.port p).queueList := by
    intro hlocked
    cases step_queueStep (p := p) hqueue hstep with
    | same hlist _ => exact hlist
    | accept i u front hlock _ _ _ => simp [State.lockFree, hlocked] at hlock
    | remove i u _ hother => simp [State.lockFree, hlocked] at hother; exact absurd hother ha
  cases hpc : s.portThread p with
  | visit i u flag =>
      rw [hpc] at hok hkept hlocked
      exact hkept rfl (hlocked rfl) i u none hok
  | tested i u dp flag =>
      rw [hpc] at hok hkept hlocked
      exact hkept rfl (hlocked rfl) i u (some dp) hok
  | attempt k tried =>
      cases k with
      | connectLoop => trivial
      | entry i u dp flag =>
          rw [hpc] at hok hkept
          cases step_queueStep (p := p) hqueue hstep with
          | same hlist hchange =>
              exact hok.imp (hchange ha) (hkept rfl hlist i u (some dp))
          | accept _ _ _ _ _ _ hchange => exact Or.inl hchange
          | remove _ _ _ hother => exact Or.inl (hother ha).2
  | _ => trivial

theorem scanOk_reachable (hreach : (machine config).Reachable (OrderGuard config) s) (p : PortId) :
    ScanOk config s p (s.portThread p) := by
  refine Machine.Reachable.invariant_of_reachable (M := machine config)
    (I := fun s => ScanOk config s p (s.portThread p)) ?_ ?_ hreach
  · rintro s ⟨now, rfl⟩
    trivial
  · intro s a s' hs hguard hok hstep
    have hundisturbed := hs.mono fun _ _ h => OrderGuard.undisturbed h
    have hqueue := QueueInv.reachable hundisturbed
    by_cases ha : a = .portThread p
    · subst ha
      exact portThreadStep_scanOk hqueue hok (hguard.connect p rfl) hstep
    · rw [step_portThread_of_ne hqueue ha hstep]
      exact step_scanOk_of_ne hqueue (placeInv_reachable hundisturbed) hguard ha hok hstep

/-! ## The order -/

theorem highestFirst (config : PortId → PortConfig) :
    HighestFirst config (OrderGuard config) := by
  intro s s' p i u hreach hstep hmem hgone j v hrank hv
  have hok := scanOk_reachable hreach p
  have hi : i ≠ .connect := by
    rintro rfl
    cases j <;> simp [AsynQueuePriority.rank] at hrank
  obtain ⟨dp, flag, flag', hpc, -⟩ := (portThreadStep_cases hstep).removes hi hmem hgone
  rw [hpc] at hok
  exact (hok v (Or.inl ⟨j, hrank, hv⟩)).not_eligible

/-- Two requests that stay on a queue stay in their order. -/
theorem QueueStep.sublist (hstep : QueueStep s a s' p) (hnodup : ∀ i, ((s.port p).queueList i).Nodup)
    {i : AsynQueuePriority} {x y : UserId} (hboth : BothQueued s' p i x y)
    (horder : [x, y].Sublist ((s.port p).queueList i)) :
    [x, y].Sublist ((s'.port p).queueList i) := by
  obtain ⟨hx, hy⟩ := hboth
  cases hstep with
  | same hlist _ => rwa [hlist]
  | accept j u front _ _ hlist _ =>
      rw [hlist]
      by_cases hij : i = j
      · subst hij
        rw [Function.update_self]
        split
        · exact horder.cons u
        · exact horder.trans (List.sublist_append_left _ _)
      · rwa [Function.update_of_ne hij]
  | remove j u hlist _ =>
      rw [hlist] at hx hy ⊢
      by_cases hij : i = j
      · subst hij
        rw [Function.update_self] at hx hy ⊢
        have hux : u ≠ x := fun h => (hnodup i).not_mem_erase (h ▸ hx)
        have huy : u ≠ y := fun h => (hnodup i).not_mem_erase (h ▸ hy)
        exact pair_sublist_erase horder hux huy
      · rwa [Function.update_of_ne hij]

/-- A request that is accepted while it does not block the device goes to the end of the queue. -/
theorem accepted_sublist {t : ThreadId} {u x : UserId} {i : AsynQueuePriority} {timeout : Int}
    {dp : DpRef} {check : Bool} (hqueue : QueueInv config s)
    (hpc : s.client t = .queueRequest u i timeout p dp check)
    (hstep : step config s (.client t) = some s') (hfree : ¬Holds s p dp u)
    (hx : x ∈ (s.port p).queueList i) (hold : u ∉ (s.port p).queueList i)
    (hnew : u ∈ (s'.port p).queueList i) : [x, u].Sublist ((s'.port p).queueList i) := by
  have hback : addToFront s u p dp = false := by
    unfold Holds at hfree
    rw [not_or] at hfree
    simp [addToFront, hfree]
  cases clientStep_cases hqueue hstep with
  | enqueue v priority timeout' q dp' check' hpc' hlock hblock hrefused hqueued htimeout =>
      rw [hpc] at hpc'
      cases hpc'
      rw [State.setClient_port, enqueue_queueList, hback, Function.update_self]
      exact pair_sublist_append_self hx
  | quiet s₁ pc hframe hmove =>
      rw [State.setClient_port, hframe.queueList] at hnew
      exact absurd hnew hold
  | syncStart s₁ v priority timeout' hstarts hframe =>
      rw [State.setClient_port, hframe.queueList] at hnew
      exact absurd hnew hold
  | _ => simp_all

theorem firstComeFirstServed (config : PortId → PortConfig) :
    FirstComeFirstServed config (OrderGuard config) := by
  intro s s₁ s₂ s₃ t p i timeout dp check a b dp' hreach hi hpc hguard haccept ha hold hfree hpath
    hboth hfindA hfindB hfree₂ hstep
  have hnodup : ∀ s, (machine config).Reachable (OrderGuard config) s →
      ∀ i, ((s.port p).queueList i).Nodup := fun s hs i =>
    queueList_nodup ((QueueInv.reachable (hs.mono fun _ _ h => h.undisturbed)).node.nodup p) i
  have hreach₁ := hreach.step hguard haccept
  have hqueue := QueueInv.reachable (hreach.mono fun _ _ h => OrderGuard.undisturbed h)
  -- carried along the path: as long as both are queued, `a` stands before `b`
  have horder : BothQueued s₂ p i a b → [a, b].Sublist ((s₂.port p).queueList i) := by
    clear hboth hfindA hfindB hfree₂ hstep
    induction hpath with
    | refl =>
        intro hboth
        exact accepted_sublist hqueue hpc haccept hfree ha hold hboth.2
    | @tail s' s'' x hrun hok hnext ih =>
        intro hboth
        have hs := hreach₁.path (hrun.mono fun _ _ h => h.1)
        have hqueue' := QueueInv.reachable (hs.mono fun _ _ h => OrderGuard.undisturbed h)
        exact (step_queueStep hqueue' hnext).sublist (hnodup s' hs) hboth (ih hok.2)
  by_contra hgone
  have hreach₂ := hreach₁.path (hpath.mono fun _ _ h => h.1)
  have hscan := scanOk_reachable hreach₂ p
  have hport := (QueueInv.reachable (hreach₂.mono fun _ _ h => OrderGuard.undisturbed h)).port p
  obtain ⟨dp₂, flag, flag', htested, hunblocked, -⟩ :=
    (portThreadStep_cases hstep).removes hi hboth.2 hgone
  rw [htested] at hscan hport
  obtain rfl : dp₂ = dp' := Option.some.inj (hport.2.2.symm.trans hfindB)
  -- the walk has passed `a`, which is at the same device and so must be blocked
  have hpassed : Passed (s₂.port p) i b a :=
    Or.inr (mem_before_of_sublist (hnodup s₂ hreach₂ i) (horder hboth))
  have hblocked := hscan a hpassed dp₂ hfindA (Or.inl rfl)
  -- but `b` is not blocked and holds nothing, so nobody does
  unfold Holds at hfree₂
  rw [not_or] at hfree₂
  obtain ⟨hportHolder, hdpHolder⟩ := unblocked_iff.mp hunblocked
  have hnone : unblocked s₂ p dp₂ a = true := unblocked_iff.mpr
    ⟨Or.inl (hportHolder.resolve_right hfree₂.1), Or.inl (hdpHolder.resolve_right hfree₂.2)⟩
  rw [hnone] at hblocked
  cases hblocked

/-- In every run that meets the guard the requests of a queue are served in their order, and the
queues in the order of their priority. -/
theorem queueOrder_of_orderGuard (config : PortId → PortConfig) :
    QueueOrder config (OrderGuard config) :=
  ⟨firstComeFirstServed config, highestFirst config⟩

/-- `asynUser` 0 blocks device 0; 1 is queued for that device at High priority, 2 for device 1 at Low
priority.  The port thread has passed the entry of 1 and tries to connect device 1 when 0 unblocks
device 0; then it goes on to the second test of the entry of 2. -/
def releasedRun : List Action :=
  [Action.call 0 (.createAsynUser true false), .client 0, .call 0 (.createAsynUser true false), .client 0,
    .call 0 (.createAsynUser true false), .client 0, .call 0 (.createAsynUser true false),
    .client 0,
    .call 0 (.connectDevice 0 0 0), .client 0, .client 0,
    .call 0 (.connectDevice 1 0 0), .client 0, .client 0,
    .call 0 (.connectDevice 2 0 1), .client 0, .client 0,
    .call 0 (.connectDevice 3 0 (-1)), .client 0, .client 0,
    .call 0 (.exceptionConnect 3), .client 0, .client 0, .client 0, .client 0,
    .call 0 (.autoConnect 2 true), .client 0, .client 0, .client 0, .client 0,
    .call 0 (.queueRequest 0 .low 0), .client 0, .client 0, .client 0] ++
  List.replicate 7 (Action.portThread 0) ++
  [Action.call 0 (.blockProcessCallback 0 false), .client 0, .client 0,
    .call 0 (.queueRequest 1 .high 0), .client 0, .client 0, .client 0,
    .call 0 (.queueRequest 2 .low 0), .client 0, .client 0, .client 0] ++
  List.replicate 9 (Action.portThread 0) ++
  [Action.call 0 (.unblockProcessCallback 0 false), .client 0, .portThread 0]

/-- The Low request of 2 is taken although the High request of 1 has become eligible. -/
theorem not_queueOrder_released : ¬ ∀ config, QueueOrder config Machine.Unguarded := by
  intro hclaim
  obtain ⟨s, hreach, hvalue⟩ := Machine.exists_reachable_of_exec
    (M := machine fun _ => multiPort) (b := (true, some true))
    (fun s => (decide (1 ∈ (s.port 0).queueList .high) && decide (2 ∈ (s.port 0).queueList .low) &&
        decide (findDpCommon (fun _ => multiPort) (s.userPvt 1) = some (.device 0 0)) &&
        (s.dpCommon (.device 0 0)).enabled && unblocked s 0 (.device 0 0) 1,
      (step (fun _ => multiPort) s (.portThread 0)).map fun s' : State =>
        decide (2 ∉ (s'.port 0).queueList .low)))
    releasedRun ⟨2000, rfl⟩ (by decide +kernel)
  obtain ⟨hnow, hnext⟩ := Prod.mk.inj hvalue
  simp only [Bool.and_eq_true, decide_eq_true_eq] at hnow
  obtain ⟨⟨⟨⟨hhigh, hlow⟩, hfind⟩, henabled⟩, hunblocked⟩ := hnow
  obtain ⟨s', hstep, hgone⟩ := Option.map_eq_some_iff.mp hnext
  exact (hclaim _).highest s s' 0 .low 2 hreach hstep hlow (of_decide_eq_true hgone) .high 1
    (by decide) hhigh ⟨.device 0 0, hfind, henabled, hunblocked⟩

/-! ## A guarded run -/

/-- `OrderGuard`, as a test that allows no `disconnect`, `unblockProcessCallback` or `enable`. -/
def orderCheck (s : State) (a : Action) : Bool :=
  undisturbedCheck s a &&
    match a with
    | .client t =>
        match s.client t with
        | .unblockProcessCallback _ _ _ => false
        | .enable _ _ _ => false
        | _ => true
    | .portThread p =>
        match s.portThread p with
        | .scanTop => ((s.port p).queueList .connect).isEmpty
        | _ => true
    | _ => true

theorem orderGuard_of_check (s : State) (a : Action) (hcheck : orderCheck s a = true) :
    OrderGuard config s a := by
  unfold orderCheck at hcheck
  rw [Bool.and_eq_true] at hcheck
  obtain ⟨hundisturbed, hcheck⟩ := hcheck
  constructor
  case undisturbed => exact undisturbed_of_check s a hundisturbed
  case release =>
    rintro t u allDevices p q rfl hpc
    simp [hpc] at hcheck
  case enable =>
    rintro t u dp rfl hpc
    simp [hpc] at hcheck
  case connect =>
    rintro p rfl hpc
    simpa [hpc] using hcheck

/-- `orderCheck`, while 0 and 1 are both queued at Low priority. -/
def waitingCheck (s : State) (a : Action) : Bool :=
  orderCheck s a && decide (0 ∈ (s.port 0).queueList .low) &&
    decide (1 ∈ (s.port 0).queueList .low)

theorem bothQueued_of_check (s : State) (a : Action) (hcheck : waitingCheck s a = true) :
    OrderGuard config s a ∧ BothQueued s 0 .low 0 1 := by
  unfold waitingCheck at hcheck
  simp only [Bool.and_eq_true, decide_eq_true_eq] at hcheck
  exact ⟨orderGuard_of_check s a hcheck.1.1, hcheck.1.2, hcheck.2⟩

/-- `asynUser` 0 is queued at Low priority, and `queueRequest` of 1 is before its critical
section. -/
def twoRequestsRun : List Action :=
  [.call 0 (.createAsynUser true false), .client 0, .call 0 (.createAsynUser true false), .client 0,
    .call 0 (.connectDevice 0 0 0), .client 0, .client 0,
    .call 0 (.connectDevice 1 0 0), .client 0, .client 0,
    .call 0 (.exceptionConnect 0), .client 0, .client 0, .client 0, .client 0,
    .call 0 (.queueRequest 0 .low 0), .client 0, .client 0, .client 0,
    .call 0 (.queueRequest 1 .low 0)]

/-- The port thread serves the first of two requests. -/
theorem queueOrder_two_requests : ∃ s s' : State, BothQueued s 0 .low 0 1 ∧
    step (fun _ => simplePort) s (.portThread 0) = some s' ∧
    0 ∉ (s'.port 0).queueList .low ∧ 1 ∈ (s'.port 0).queueList .low := by
  obtain ⟨s, hreach, hvalue⟩ := Machine.exists_reachable_of_execGuarded
    (M := machine fun _ => simplePort) (b := (true, some (true, some true)))
    (fun s => (decide (s.client 0 = .queueRequest 1 .low 0 0 (.port 0) true) &&
        orderCheck s (.client 0) && decide (0 ∈ (s.port 0).queueList .low) &&
        decide (1 ∉ (s.port 0).queueList .low) &&
        decide ((s.port 0).pblockProcessHolder ≠ some 1) &&
        decide ((s.dpCommon (.port 0)).pblockProcessHolder ≠ some 1),
      ((step (fun _ => simplePort) s (.client 0)).bind fun s₁ : State =>
        (machine fun _ => simplePort).execGuarded waitingCheck s₁
          (List.replicate 5 (.portThread 0))).map fun s₂ : State =>
        (decide (0 ∈ (s₂.port 0).queueList .low) && decide (1 ∈ (s₂.port 0).queueList .low) &&
          decide (findDpCommon (fun _ => simplePort) (s₂.userPvt 0) = some (.port 0)) &&
          decide (findDpCommon (fun _ => simplePort) (s₂.userPvt 1) = some (.port 0)) &&
          decide ((s₂.port 0).pblockProcessHolder ≠ some 1) &&
          decide ((s₂.dpCommon (.port 0)).pblockProcessHolder ≠ some 1),
          (step (fun _ => simplePort) s₂ (.portThread 0)).map fun s₃ : State =>
            decide (0 ∉ (s₃.port 0).queueList .low))))
    (@orderGuard_of_check fun _ => simplePort) twoRequestsRun ⟨0, rfl⟩ (by decide +kernel)
  obtain ⟨hnow, hnext⟩ := Prod.mk.inj hvalue
  simp only [Bool.and_eq_true, decide_eq_true_eq] at hnow
  obtain ⟨⟨⟨⟨⟨hpc, hcheck⟩, hfirst⟩, hnew⟩, hport⟩, hdp⟩ := hnow
  obtain ⟨s₂, hsegment, hlast⟩ := Option.map_eq_some_iff.mp hnext
  obtain ⟨s₁, haccept, hrun⟩ := Option.bind_eq_some_iff.mp hsegment
  obtain ⟨hthen, hfinal⟩ := Prod.mk.inj hlast
  simp only [Bool.and_eq_true, decide_eq_true_eq] at hthen
  obtain ⟨⟨⟨⟨⟨hqueued₀, hqueued₁⟩, hfind₀⟩, hfind₁⟩, hport₂⟩, hdp₂⟩ := hthen
  obtain ⟨s₃, hstep, hserved⟩ := Option.map_eq_some_iff.mp hfinal
  refine ⟨s₂, s₃, ⟨hqueued₀, hqueued₁⟩, hstep, of_decide_eq_true hserved, ?_⟩
  have hpath : (machine fun _ => simplePort).Path
      (fun s x => OrderGuard (fun _ => simplePort) s x ∧ BothQueued s 0 .low 0 1) s₁ s₂ :=
    Machine.path_of_execGuarded (I := fun _ => True)
      (fun s x _ => bothQueued_of_check s x) (fun _ _ _ _ _ _ => trivial) trivial hrun
  exact (queueOrder_of_orderGuard fun _ => simplePort).first s s₁ s₂ s₃ 0 0 .low 0 (.port 0) true 0
    1 (.port 0) hreach (by decide) hpc (orderGuard_of_check s _ hcheck) haccept hfirst hnew
    (by simp [Holds, hport, hdp]) hpath ⟨hqueued₀, hqueued₁⟩ hfind₀ hfind₁
    (by simp [Holds, hport₂, hdp₂]) hstep

end Queue
end Manager
end AsynDriver
