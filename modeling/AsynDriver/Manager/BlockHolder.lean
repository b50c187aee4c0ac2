import AsynDriver.Manager.CallbackChoice
import AsynDriver.Manager.QueuePlaces

/-!
# Blocking a port or a device

`blockProcessCallback` counts in the `userPvt`; only after the callback does `portThread` write the
holder pointer, of the port and of the `dpCommon` that it computed *before* the callback.
`unblockProcessCallback` looks up the `dpCommon` again and clears the pointer when the count reaches
zero.

A callback that disconnects, connects elsewhere and then blocks makes the thread write a holder that
its own unblocking never clears; and the Connect queue is served without writing a holder at all.

* `HoldersValid` — every holder is connected to what it holds, and its count is positive, so that
  the `unblockProcessCallback` that brings the count to zero has released it.
* `KeepsPortBlocked`, `KeepsDeviceBlocked` — after a `processUser` has returned with a positive
  count, no callback of another `asynUser` starts until the count is zero.
* `BlocksApart` — the guard; `BlockInv` — the invariant; `blocking_of_blocksApart`.
* `not_blocking_reconnected` — a callback that blocks after it has connected elsewhere.
-/

namespace AsynDriver
namespace Manager
namespace Queue

open Library
open Library.LinkedList

variable {config : PortId → PortConfig} {s s' : State}

/-! ## Holders -/

/-- Every non-null `pblockProcessHolder` is connected to the port or device that it holds, and the
count that its `unblockProcessCallback` lowers is positive. -/
structure HoldersValid (config : PortId → PortConfig) (s : State) : Prop where
  port : ∀ p u, (s.port p).pblockProcessHolder = some u →
    (s.userPvt u).pport = some p ∧ 0 < (s.userPvt u).blockPortCount
  device : ∀ dp u, (s.dpCommon dp).pblockProcessHolder = some u →
    findDpCommon config (s.userPvt u) = some dp ∧ 0 < (s.userPvt u).blockDeviceCount

/-- From the return of the `processUser` of `u` with a positive `blockPortCount` until that count
is zero, the port thread executes no other callback from the High, Medium or Low queue. -/
def KeepsPortBlocked (config : PortId → PortConfig) (ok : State → Action → Prop) : Prop :=
  ∀ s s₁ s₂ p u, (machine config).Reachable ok s → ok s (.portThread p) →
    (s.portThread p).callback = some (u, .processUser) →
    step config s (.portThread p) = some s₁ →
    (machine config).Path (fun s a => ok s a ∧ 0 < (s.userPvt u).blockPortCount) s₁ s₂ →
    0 < (s₂.userPvt u).blockPortCount →
    ∀ v dp flag, s₂.portThread p = .running v dp flag → v = u

/-- The same for `blockDeviceCount`, and for the requests of that device. -/
def KeepsDeviceBlocked (config : PortId → PortConfig) (ok : State → Action → Prop) : Prop :=
  ∀ s s₁ s₂ p u dp, (machine config).Reachable ok s → ok s (.portThread p) →
    (s.portThread p).callback = some (u, .processUser) →
    step config s (.portThread p) = some s₁ →
    findDpCommon config (s₁.userPvt u) = some dp →
    (machine config).Path (fun s a => ok s a ∧ 0 < (s.userPvt u).blockDeviceCount) s₁ s₂ →
    0 < (s₂.userPvt u).blockDeviceCount →
    ∀ q v flag, s₂.portThread q = .running v dp flag → v = u

/-- The three together, for the runs admitted by `ok`. -/
structure Blocking (config : PortId → PortConfig) (ok : State → Action → Prop) : Prop where
  holders : ∀ s, (machine config).Reachable ok s → HoldersValid config s
  port : KeepsPortBlocked config ok
  device : KeepsDeviceBlocked config ok

/-! ## The guard -/

/-- Every port thread that serves `u` has computed the port and `dpCommon` to which `u` is
connected. -/
def ServedWhereConnected (config : PortId → PortConfig) (s : State) (u : UserId) : Prop :=
  ∀ q dp, (s.portThread q).inService = some (u, dp) →
    (s.userPvt u).pport = some q ∧ findDpCommon config (s.userPvt u) = some dp

structure BlocksApart (config : PortId → PortConfig) (s : State) (a : Action) : Prop where
  undisturbed : Undisturbed s a
  disconnect : ∀ t u p, a = .client t →
    s.client t = .disconnect u p ∨ s.client t = .freeDisconnect u p →
    disconnectRefused (s.userPvt u) = false → ∀ t', (s.client t').unblocks ≠ some u
  block : ∀ t u allDevices p, a = .client t →
    s.client t = .blockProcessCallback u allDevices p → (s.userPvt u).isQueued = false →
    ServedWhereConnected config s u ∧
      blockCount allDevices (s.userPvt u) + 1 < unsignedIntRange
  connectReturn : ∀ p u, a = .portThread p → s.portThread p = .connectRunning u →
    (0 < (s.userPvt u).blockPortCount → (s.port p).pblockProcessHolder = some u) ∧
      (0 < (s.userPvt u).blockDeviceCount → ∀ dp, findDpCommon config (s.userPvt u) = some dp →
        (s.dpCommon dp).pblockProcessHolder = some u)

/-! ## The invariant -/

/-- `u` blocks its port or its device. -/
def Blocks (v : UserPvt) : Prop :=
  0 < v.blockPortCount ∨ 0 < v.blockDeviceCount

structure BlockInv (config : PortId → PortConfig) (s : State) : Prop where
  blocks_port : ∀ u, Blocks (s.userPvt u) → ∃ p, (s.userPvt u).pport = some p
  holders : HoldersValid config s
  unblock_port : ∀ t u allDevices p, s.client t = .unblockProcessCallback u allDevices p →
    (s.userPvt u).pport = some p
  service_blocks : ∀ p u dp, (s.portThread p).inService = some (u, dp) → Blocks (s.userPvt u) →
    (s.userPvt u).pport = some p ∧ findDpCommon config (s.userPvt u) = some dp
  service_unblocked : ∀ p u dp, (s.portThread p).inService = some (u, dp) →
    unblocked s p dp u = true

theorem SameBlocking.blocks {v w : UserPvt} (hsame : SameBlocking v w) : Blocks w ↔ Blocks v := by
  unfold Blocks
  rw [hsame.blockPortCount, hsame.blockDeviceCount]

/-- The shared state is the same for blocking, and the threads have only moved away from where they
block something. -/
theorem BlockInv.congr (hinv : BlockInv config s) (hframe : BlockFrame s s')
    (hclient : ∀ t u allDevices p, s'.client t = .unblockProcessCallback u allDevices p →
      (s.userPvt u).pport = some p)
    (hservice : ∀ p x, (s'.portThread p).inService = some x →
      (s.portThread p).inService = some x) : BlockInv config s' where
  blocks_port u hblocks := by
    rw [(hframe.user u).pport]
    exact hinv.blocks_port u ((hframe.user u).blocks.mp hblocks)
  holders := {
    port := by
      intro p u h
      rw [hframe.portHolder] at h
      rw [(hframe.user u).pport, (hframe.user u).blockPortCount]
      exact hinv.holders.port p u h
    device := by
      intro dp u h
      rw [hframe.dpHolder] at h
      rw [(hframe.user u).findDpCommon, (hframe.user u).blockDeviceCount]
      exact hinv.holders.device dp u h }
  unblock_port t u allDevices p h := by
    rw [(hframe.user u).pport]
    exact hclient t u allDevices p h
  service_blocks p u dp h hblocks := by
    rw [(hframe.user u).pport, (hframe.user u).findDpCommon]
    exact hinv.service_blocks p u dp (hservice p _ h) ((hframe.user u).blocks.mp hblocks)
  service_unblocked p u dp h := by
    rw [unblocked_iff, hframe.portHolder, hframe.dpHolder]
    exact unblocked_iff.mp (hinv.service_unblocked p u dp (hservice p _ h))

/-- The change of one `asynUser`: what has to be shown for it, and for the rest that no holder and
no service is added. -/
theorem BlockInv.changeUser (hinv : BlockInv config s) (u : UserId)
    (hother : ∀ v, v ≠ u → SameBlocking (s.userPvt v) (s'.userPvt v))
    (hblocks : Blocks (s'.userPvt u) → ∃ p, (s'.userPvt u).pport = some p)
    (hholderPort : ∀ p, (s'.port p).pblockProcessHolder = some u →
      (s'.userPvt u).pport = some p ∧ 0 < (s'.userPvt u).blockPortCount)
    (hholderDevice : ∀ dp, (s'.dpCommon dp).pblockProcessHolder = some u →
      findDpCommon config (s'.userPvt u) = some dp ∧ 0 < (s'.userPvt u).blockDeviceCount)
    (hunblock : ∀ t allDevices p, s'.client t = .unblockProcessCallback u allDevices p →
      (s'.userPvt u).pport = some p)
    (hserved : ∀ p dp, (s.portThread p).inService = some (u, dp) → Blocks (s'.userPvt u) →
      (s'.userPvt u).pport = some p ∧ findDpCommon config (s'.userPvt u) = some dp)
    (hport : ∀ p, (s'.port p).pblockProcessHolder = (s.port p).pblockProcessHolder ∨
      (s'.port p).pblockProcessHolder = none)
    (hdp : ∀ dp, (s'.dpCommon dp).pblockProcessHolder = (s.dpCommon dp).pblockProcessHolder ∨
      (s'.dpCommon dp).pblockProcessHolder = none)
    (hclient : ∀ t v allDevices p, s'.client t = .unblockProcessCallback v allDevices p →
      s.client t = .unblockProcessCallback v allDevices p)
    (hservice : s'.portThread = s.portThread) : BlockInv config s' := by
  have hport' : ∀ p v, (s'.port p).pblockProcessHolder = some v →
      (s.port p).pblockProcessHolder = some v := by
    intro p v h
    rcases hport p with hsame | hnone
    · rwa [hsame] at h
    · simp [hnone] at h
  have hdp' : ∀ dp v, (s'.dpCommon dp).pblockProcessHolder = some v →
      (s.dpCommon dp).pblockProcessHolder = some v := by
    intro dp v h
    rcases hdp dp with hsame | hnone
    · rwa [hsame] at h
    · simp [hnone] at h
  constructor
  case blocks_port =>
    intro v hb
    by_cases hv : v = u
    · subst hv
      exact hblocks hb
    · rw [(hother v hv).pport]
      exact hinv.blocks_port v ((hother v hv).blocks.mp hb)
  case holders =>
    constructor
    · intro p v h
      by_cases hv : v = u
      · subst hv
        exact hholderPort p h
      · rw [(hother v hv).pport, (hother v hv).blockPortCount]
        exact hinv.holders.port p v (hport' p v h)
    · intro dp v h
      by_cases hv : v = u
      · subst hv
        exact hholderDevice dp h
      · rw [(hother v hv).findDpCommon, (hother v hv).blockDeviceCount]
        exact hinv.holders.device dp v (hdp' dp v h)
  case unblock_port =>
    intro t v allDevices p h
    by_cases hv : v = u
    · subst hv
      exact hunblock t allDevices p h
    · rw [(hother v hv).pport]
      exact hinv.unblock_port t v allDevices p (hclient t v allDevices p h)
  case service_blocks =>
    intro p v dp h hb
    rw [hservice] at h
    by_cases hv : v = u
    · subst hv
      exact hserved p dp h hb
    · rw [(hother v hv).pport, (hother v hv).findDpCommon]
      exact hinv.service_blocks p v dp h ((hother v hv).blocks.mp hb)
  case service_unblocked =>
    intro p v dp h
    rw [hservice] at h
    obtain ⟨hfirst, hsecond⟩ := unblocked_iff.mp (hinv.service_unblocked p v dp h)
    refine unblocked_iff.mpr ⟨?_, ?_⟩
    · rcases hport p with hsame | hnone
      · rwa [hsame]
      · exact Or.inl hnone
    · rcases hdp dp with hsame | hnone
      · rwa [hsame]
      · exact Or.inl hnone

section Client

variable {t : ThreadId} {pc : ClientPc} {u : UserId}

/-- A client that has moved to `pc` has not begun to unblock. -/
theorem unblock_of_setClient {s₁ : State} (hclient : s₁.client = s.client)
    (hpc : pc.unblocks = none) (t' : ThreadId) (v : UserId) (allDevices : Bool) (p : PortId)
    (h : (s₁.setClient t pc).client t' = .unblockProcessCallback v allDevices p) :
    s.client t' = .unblockProcessCallback v allDevices p := by
  by_cases ht : t' = t
  · subst ht
    obtain rfl : pc = .unblockProcessCallback v allDevices p := by simpa using h
    simp [ClientPc.unblocks] at hpc
  · simpa [ht, hclient] using h

/-- A client moves on, and nothing changes for blocking. -/
theorem BlockInv.clientMove (hinv : BlockInv config s) {r : State} (hframe : BlockFrame s r)
    (hclient : r.client = s.client) (hthread : r.portThread = s.portThread)
    (hpc : pc.unblocks = none) : BlockInv config (r.setClient t pc) := by
  have hframe' : BlockFrame s (r.setClient t pc) :=
    ⟨hframe.user, hframe.deviceList, hframe.portHolder, hframe.dpHolder⟩
  refine hinv.congr hframe' (fun t' v allDevices p h => ?_) (fun p x h => ?_)
  · exact hinv.unblock_port t' v allDevices p (unblock_of_setClient hclient hpc t' v allDevices p h)
  · rwa [State.setClient_portThread, hthread] at h

/-- The pointers of an `asynUser` that blocks nothing are changed. -/
theorem BlockInv.reconnect (hinv : BlockInv config s) {s₁ : State}
    (hclient : s₁.client = s.client) (hthread : s₁.portThread = s.portThread)
    (hpc : pc.unblocks = none) (hfree : ¬Blocks (s.userPvt u))
    (hunblocks : ∀ t', (s.client t').unblocks ≠ some u)
    (hother : ∀ v, v ≠ u → s₁.userPvt v = s.userPvt v)
    (hport' : (s₁.userPvt u).blockPortCount = (s.userPvt u).blockPortCount)
    (hdevice' : (s₁.userPvt u).blockDeviceCount = (s.userPvt u).blockDeviceCount)
    (hport : ∀ p, (s₁.port p).pblockProcessHolder = (s.port p).pblockProcessHolder)
    (hdp : ∀ dp, (s₁.dpCommon dp).pblockProcessHolder = (s.dpCommon dp).pblockProcessHolder ∨
      (s₁.dpCommon dp).pblockProcessHolder = none) :
    BlockInv config (s₁.setClient t pc) := by
  have hfree' : ¬Blocks (s₁.userPvt u) := by
    unfold Blocks
    rw [hport', hdevice']
    exact hfree
  refine hinv.changeUser u (fun v hv => .of_eq (hother v hv)) (fun h => absurd h hfree')
    (fun p h => ?_) (fun dp h => ?_) (fun t' allDevices p h => ?_)
    (fun _ _ _ h => absurd h hfree') (fun p => Or.inl (hport p)) hdp
    (unblock_of_setClient hclient hpc) hthread
  · rw [State.setClient_port, hport] at h
    exact absurd (Or.inl (hinv.holders.port p u h).2) hfree
  · rw [State.setClient_dpCommon] at h
    rcases hdp dp with hsame | hcleared
    · rw [hsame] at h
      exact absurd (Or.inr (hinv.holders.device dp u h).2) hfree
    · simp [hcleared] at h
  · have hold := unblock_of_setClient hclient hpc t' u allDevices p h
    exact absurd (by rw [hold]; rfl) (hunblocks t')

theorem not_blocks_of_not_refused {v : UserPvt} (hrefused : disconnectRefused v = false) :
    ¬Blocks v := by
  unfold disconnectRefused at hrefused
  simp only [Bool.or_eq_false_iff, decide_eq_false_iff_not] at hrefused
  rintro (h | h)
  · exact hrefused.1.2.1 h
  · exact hrefused.1.2.2 h

/-- While `pport` is null the `asynUser` blocks nothing and no client is about to unblock it. -/
theorem BlockInv.of_port_none (hinv : BlockInv config s) (hnone : (s.userPvt u).pport = none) :
    ¬Blocks (s.userPvt u) ∧ ∀ t', (s.client t').unblocks ≠ some u := by
  constructor
  · intro hblocks
    obtain ⟨p, hp⟩ := hinv.blocks_port u hblocks
    simp [hnone] at hp
  · intro t' h
    cases hpc : s.client t' with
    | unblockProcessCallback v allDevices p =>
        obtain rfl : v = u := by simpa [hpc, ClientPc.unblocks] using h
        simp [hinv.unblock_port t' v allDevices p hpc] at hnone
    | _ => simp [hpc, ClientPc.unblocks] at h

theorem disconnectUser_blockInv (hinv : BlockInv config s) {s₁ : State}
    (huser : s₁.userPvt = (s.disconnectUser u).userPvt) (hports : s₁.port = s.port)
    (hdps : s₁.dpCommon = s.dpCommon) (hclient : s₁.client = s.client)
    (hthread : s₁.portThread = s.portThread) (hpc : pc.unblocks = none)
    (hrefused : disconnectRefused (s.userPvt u) = false)
    (hunblocks : ∀ t', (s.client t').unblocks ≠ some u) : BlockInv config (s₁.setClient t pc) := by
  have hself : s₁.userPvt u = { s.userPvt u with pport := none, pdevice := none } := by
    rw [huser]
    simp [State.disconnectUser]
  refine hinv.reconnect hclient hthread hpc (not_blocks_of_not_refused hrefused) hunblocks
    (fun v hv => ?_) (by rw [hself]) (by rw [hself]) (by simp [hports]) (by simp [hdps])
  rw [huser]
  simp [State.disconnectUser, hv]

/-- The count of `u` changes, and holders are at most cleared. -/
theorem BlockInv.recount (hinv : BlockInv config s) {s₁ : State}
    (hclient : s₁.client = s.client) (hthread : s₁.portThread = s.portThread)
    (hpc : pc.unblocks = none) (hother : ∀ v, v ≠ u → s₁.userPvt v = s.userPvt v)
    (hpport : (s₁.userPvt u).pport = (s.userPvt u).pport)
    (hpdevice : (s₁.userPvt u).pdevice = (s.userPvt u).pdevice)
    (hblocks : Blocks (s₁.userPvt u) → ∃ p, (s.userPvt u).pport = some p)
    (hholderPort : ∀ p, (s₁.port p).pblockProcessHolder = some u →
      0 < (s₁.userPvt u).blockPortCount)
    (hholderDevice : ∀ dp, (s₁.dpCommon dp).pblockProcessHolder = some u →
      0 < (s₁.userPvt u).blockDeviceCount)
    (hserved : ∀ p dp, (s.portThread p).inService = some (u, dp) → Blocks (s₁.userPvt u) →
      (s.userPvt u).pport = some p ∧ findDpCommon config (s.userPvt u) = some dp)
    (hport : ∀ p, (s₁.port p).pblockProcessHolder = (s.port p).pblockProcessHolder ∨
      (s₁.port p).pblockProcessHolder = none)
    (hdp : ∀ dp, (s₁.dpCommon dp).pblockProcessHolder = (s.dpCommon dp).pblockProcessHolder ∨
      (s₁.dpCommon dp).pblockProcessHolder = none) :
    BlockInv config (s₁.setClient t pc) := by
  have hfind : findDpCommon config (s₁.userPvt u) = findDpCommon config (s.userPvt u) :=
    findDpCommon_congr hpport hpdevice
  refine hinv.changeUser u (fun v hv => .of_eq (hother v hv)) ?_ ?_ ?_ ?_ ?_ hport hdp
    (unblock_of_setClient hclient hpc) hthread
  · rw [State.setClient_userPvt, hpport]
    exact hblocks
  · intro p h
    rw [State.setClient_userPvt, hpport]
    refine ⟨?_, hholderPort p h⟩
    rcases hport p with hsame | hcleared
    · exact (hinv.holders.port p u (hsame ▸ h)).1
    · simp [hcleared] at h
  · intro dp h
    rw [State.setClient_userPvt, hfind]
    refine ⟨?_, hholderDevice dp h⟩
    rcases hdp dp with hsame | hcleared
    · exact (hinv.holders.device dp u (hsame ▸ h)).1
    · simp [hcleared] at h
  · intro t' allDevices p h
    rw [State.setClient_userPvt, hpport]
    exact hinv.unblock_port t' u allDevices p
      (unblock_of_setClient hclient hpc t' u allDevices p h)
  · rw [State.setClient_userPvt, hpport, hfind]
    exact hserved

theorem blocks_of_decrement {allDevices : Bool} {v : UserPvt}
    (hblocks : Blocks (blockCountDecrement allDevices v)) : Blocks v := by
  cases allDevices with
  | true => exact hblocks.imp_left fun h => Nat.lt_of_lt_of_le h (Nat.sub_le _ 1)
  | false => exact hblocks.imp_right fun h => Nat.lt_of_lt_of_le h (Nat.sub_le _ 1)

theorem ClientStep.blockInv (hstep : ClientStep config s t s') (hqueue : QueueInv config s)
    (hinv : BlockInv config s) (hguard : BlocksApart config s (.client t)) :
    BlockInv config s' := by
  have hok := hqueue.client t
  cases hstep with
  | quiet s₁ pc hframe hmove =>
      exact hinv.clientMove hframe.blocking hframe.client hframe.portThread hmove.unblocks
  | enable u yesNo dp hpc hlock =>
      exact hinv.clientMove (.enable s dp yesNo) rfl rfl rfl
  | connect u p addr pdevice hpc hdevice =>
      have hnone : (s.userPvt u).pport = none := by
        have h := hguard.undisturbed
        simpa [Undisturbed, hpc] using h
      obtain ⟨hfree, hunblocks⟩ := hinv.of_port_none hnone
      exact hinv.reconnect rfl rfl rfl hfree hunblocks (fun v hv => by simp [hv]) (by simp)
        (by simp) (fun _ => rfl) (fun _ => Or.inl rfl)
  | connectNew u p addr a hpc hnew =>
      have hnone : (s.userPvt u).pport = none := by
        have h := hguard.undisturbed
        simpa [Undisturbed, hpc] using h
      obtain ⟨hfree, hunblocks⟩ := hinv.of_port_none hnone
      have hports : ∀ q, ((s.modPort p fun q => { q with deviceList := q.deviceList ++ [a] }).port
          q).pblockProcessHolder = (s.port q).pblockProcessHolder := by
        intro q
        by_cases hq : q = p
        · subst hq
          simp
        · simp [hq]
      refine hinv.reconnect rfl rfl rfl hfree hunblocks (fun v hv => by simp [hv]) (by simp)
        (by simp) hports (fun dp => ?_)
      by_cases hdp : dp = .device p a
      · subst hdp
        right
        simp [dpCommonInit]
      · left
        simp [hdp]
  | disconnect u p hpc hrefused =>
      exact disconnectUser_blockInv hinv rfl rfl rfl rfl rfl rfl hrefused
        (hguard.disconnect t u p rfl (Or.inl hpc) hrefused)
  | freeRefused u p hpc =>
      exact hinv.clientMove (r := s.setPhase u .live) (.of_fields rfl rfl rfl) rfl rfl rfl
  | freeDisconnect u p hpc hrefused =>
      exact disconnectUser_blockInv hinv rfl rfl rfl rfl rfl rfl hrefused
        (hguard.disconnect t u p rfl (Or.inr hpc) hrefused)
  | freeList u hpc hidle =>
      have hlist : BlockInv config (State.setClient { s.setPhase u .free with
          asynUserFreeList := s.asynUserFreeList ++ [u] } t
            (.ret (.freeAsynUser u) (.status .asynSuccess))) :=
        hinv.clientMove (.of_fields rfl rfl rfl) rfl rfl rfl
      exact hlist
  | freeLater u hpc hbusy =>
      have hframe := BlockFrame.modUser s u (fun v => { v with freeAfterCallback := true })
        ⟨rfl, rfl, rfl, rfl⟩
      exact hinv.clientMove (r := (s.modUser u _).setPhase u .deferred)
        (hframe.trans (.of_fields rfl rfl rfl)) rfl rfl rfl
  | enqueue u priority timeout p dp check hpc hlock hblock hrefused hqueued htimeout =>
      exact hinv.clientMove (.enqueue s p priority u _ timeout) rfl rfl rfl
  | syncStart s₁ u priority timeout hstarts hframe =>
      exact hinv.clientMove hframe.blocking hframe.client hframe.portThread rfl
  | cancelActive u p hpc hqueued hactive =>
      exact hinv.clientMove (.modUser s u _ ⟨rfl, rfl, rfl, rfl⟩) rfl rfl rfl
  | cancelIdle u p hpc hqueued hactive => exact hinv.clientMove (.refl s) rfl rfl rfl
  | cancelQueued u p i hpc hlock hmem =>
      exact hinv.clientMove (.dequeue_stateChanged s p i u) rfl rfl rfl
  | cancelDone u hpc hdone =>
      exact hinv.clientMove (.modUser s u _ ⟨rfl, rfl, rfl, rfl⟩) rfl rfl rfl
  | cancelTimer u p timeout hpc =>
      exact hinv.clientMove (.modUser s u _ ⟨rfl, rfl, rfl, rfl⟩) rfl rfl rfl
  | block u allDevices p hpc hqueued =>
      rw [hpc] at hok
      obtain ⟨hserved, hbound⟩ := hguard.block t u allDevices p rfl hpc hqueued
      -- neither count is zero after the increment if it was positive before
      have hcounts : 0 < (s.userPvt u).blockPortCount →
          0 < (blockCountIncrement allDevices (s.userPvt u)).blockPortCount := by
        intro hpos
        cases allDevices with
        | true =>
            simp only [blockCountIncrement, blockCount, if_true] at hbound ⊢
            rw [Nat.mod_eq_of_lt hbound]
            omega
        | false => simpa [blockCountIncrement] using hpos
      have hcounts' : 0 < (s.userPvt u).blockDeviceCount →
          0 < (blockCountIncrement allDevices (s.userPvt u)).blockDeviceCount := by
        intro hpos
        cases allDevices with
        | true => simpa [blockCountIncrement] using hpos
        | false =>
            simp only [blockCountIncrement, blockCount, Bool.false_eq_true, if_false] at hbound ⊢
            rw [Nat.mod_eq_of_lt hbound]
            omega
      have hpointers := blockCountIncrement_pointers allDevices (s.userPvt u)
      refine hinv.recount rfl rfl rfl (u := u) (fun v hv => by simp [hv]) (by simp [hpointers.1])
        (by simp [hpointers.2]) (fun _ => ⟨p, hok⟩) (fun q h => ?_) (fun dp h => ?_)
        (fun q dp h _ => hserved q dp h) (fun _ => Or.inl rfl) (fun _ => Or.inl rfl)
      · simpa using hcounts (hinv.holders.port q u h).2
      · simpa using hcounts' (hinv.holders.device dp u h).2
  | unblock u allDevices p hpc hcount hkeep =>
      have hport := hinv.unblock_port t u allDevices p hpc
      obtain ⟨hpport, hpdevice⟩ := blockCountDecrement_pointers allDevices (s.userPvt u)
      refine hinv.recount rfl rfl rfl (u := u) (fun v hv => by simp [hv]) (by simp [hpport])
        (by simp [hpdevice]) (fun _ => ⟨p, hport⟩) (fun q h => ?_) (fun dp h => ?_)
        (fun q dp h hblocks => hinv.service_blocks q u dp h
          (blocks_of_decrement (by simpa using hblocks)))
        (fun _ => Or.inl rfl) (fun _ => Or.inl rfl)
      · obtain ⟨hq, hpos⟩ := hinv.holders.port q u h
        obtain rfl : q = p := Option.some.inj (hq.symm.trans hport)
        cases allDevices with
        | true =>
            have hmore : (s.userPvt u).blockPortCount - 1 ≠ 0 := fun hlast => hkeep ⟨hlast, h⟩
            simpa [blockCountDecrement] using Nat.pos_of_ne_zero hmore
        | false => simpa [blockCountDecrement] using hpos
      · obtain ⟨hdp, hpos⟩ := hinv.holders.device dp u h
        cases allDevices with
        | true => simpa [blockCountDecrement] using hpos
        | false =>
            have hmore : (s.userPvt u).blockDeviceCount - 1 ≠ 0 := by
              intro hlast
              refine hkeep ⟨hlast, ?_⟩
              rw [hdp]
              exact h
            simpa [blockCountDecrement] using Nat.pos_of_ne_zero hmore
  | unblockPort u p hpc hqueued hcount hlast hholder =>
      have hport := hinv.unblock_port t u true p hpc
      refine hinv.recount rfl rfl rfl (u := u) (fun v hv => by simp [hv])
        (by simp [blockCountDecrement]) (by simp [blockCountDecrement]) (fun _ => ⟨p, hport⟩)
        (fun q h => ?_) (fun dp h => ?_)
        (fun q dp h hblocks => hinv.service_blocks q u dp h
          (blocks_of_decrement (by simpa using hblocks)))
        (fun q => ?_) (fun _ => Or.inl rfl)
      · -- the only port that `u` can hold is the one that has just been released
        by_cases hq : q = p
        · subst hq
          simp at h
        · have hold := (hinv.holders.port q u (by simpa [hq] using h)).1
          exact absurd (Option.some.inj (hold.symm.trans hport)) hq
      · simpa [blockCountDecrement] using (hinv.holders.device dp u h).2
      · by_cases hq : q = p
        · subst hq
          right
          simp
        · left
          simp [hq]
  | unblockDevice u p dp hpc hqueued hcount hlast hdp hholder =>
      have hport := hinv.unblock_port t u false p hpc
      have hfind := (hinv.holders.device dp u hholder).1
      refine hinv.recount rfl rfl rfl (u := u) (fun v hv => by simp [hv])
        (by simp [blockCountDecrement]) (by simp [blockCountDecrement]) (fun _ => ⟨p, hport⟩)
        (fun q h => ?_) (fun dp' h => ?_)
        (fun q dp h hblocks => hinv.service_blocks q u dp h
          (blocks_of_decrement (by simpa using hblocks)))
        (fun _ => Or.inl rfl) (fun dp' => ?_)
      · simpa [blockCountDecrement] using (hinv.holders.port q u h).2
      · -- the only device that `u` can hold is the one that has just been released
        by_cases hdp' : dp' = dp
        · subst hdp'
          simp at h
        · have hold := (hinv.holders.device dp' u (by simpa [hdp'] using h)).1
          exact absurd (Option.some.inj (hold.symm.trans hfind)) hdp'
      · by_cases hdp' : dp' = dp
        · subst hdp'
          right
          simp
        · left
          simp [hdp']

theorem CallStep.blockInv (hstep : CallStep s t s') (hinv : BlockInv config s) :
    BlockInv config s' := by
  cases hstep with
  | create s₁ u process timeout hframe hphase =>
      have hfields := BlockFrame.modUser s₁ u (fun v =>
        { v with
          processUser := process
          timeoutUser := timeout
          timeout := 0
          state := .callbackIdle
          isQueued := false
          queueEvenIfNotConnected := false }) ⟨rfl, rfl, rfl, rfl⟩
      exact hinv.clientMove (r := (s₁.modUser u _).setPhase u .live)
        ((hframe.blocking.trans hfields).trans (.of_fields rfl rfl rfl)) hframe.client
        hframe.portThread rfl
  | freeRetire u hphase hport =>
      exact hinv.clientMove (r := s.setPhase u .retired) (.of_fields rfl rfl rfl) rfl rfl rfl
  | freeStart u p hphase =>
      exact hinv.clientMove (r := s.setPhase u .freeing) (.of_fields rfl rfl rfl) rfl rfl rfl
  | unblock u allDevices p hport =>
      refine hinv.congr (.of_fields rfl rfl rfl) (fun t' v allDevices' q h => ?_) (fun _ _ => id)
      by_cases ht : t' = t
      · subst ht
        obtain ⟨rfl, -, rfl⟩ : u = v ∧ allDevices = allDevices' ∧ p = q := by simpa using h
        exact hport
      · exact hinv.unblock_port t' v allDevices' q (by simpa [ht] using h)
  | move pc hmove hcancels => exact hinv.clientMove (.refl s) rfl rfl hmove.unblocks

end Client

/-! ## The steps of the timer thread and of a port thread -/

theorem BlockInv.timerMove (hinv : BlockInv config s) {s₁ : State} {pc : TimerPc}
    (hframe : BlockFrame s s₁) (hclient : s₁.client = s.client)
    (hthread : s₁.portThread = s.portThread) : BlockInv config (s₁.setTimerThread pc) := by
  refine hinv.congr (hframe.trans (.of_fields rfl rfl rfl)) (fun t u allDevices p h => ?_)
    (fun p x h => ?_)
  · rw [State.setTimerThread_client, hclient] at h
    exact hinv.unblock_port t u allDevices p h
  · rwa [State.setTimerThread_portThread, hthread] at h

theorem TimerStep.blockInv (hstep : TimerStep s s') (hinv : BlockInv config s) :
    BlockInv config s' := by
  cases hstep with
  | stale u p hpc hqueued => exact hinv.timerMove (.refl s) rfl rfl
  | drop u p i hpc hlock hmem =>
      exact hinv.timerMove (.dequeue_stateChanged s p i u) rfl rfl
  | start u p i hpc hlock hmem htimeout =>
      exact hinv.timerMove ((BlockFrame.dequeue_stateChanged s p i u).trans
        (.modUser _ u _ ⟨rfl, rfl, rfl, rfl⟩)) rfl rfl
  | returns u p hpc => exact hinv.timerMove (.refl s) rfl rfl
  | finish u p hpc =>
      exact hinv.timerMove (.finishCallback s u) (finishCallback_client s u)
        (finishCallback_portThread s u)
  | signal u p hpc => exact hinv.timerMove (QuietFrame.notify s p true).blocking rfl rfl

/-- A port thread moves on in the service of the same request or of none. -/
theorem BlockInv.portMove (hinv : BlockInv config s) {s₁ : State} {p : PortId} {pc : PortPc}
    (hframe : BlockFrame s s₁) (hclient : s₁.client = s.client)
    (hthread : s₁.portThread = s.portThread)
    (hpc : pc.inService = none ∨ pc.inService = (s.portThread p).inService) :
    BlockInv config (s₁.setPortThread p pc) := by
  refine hinv.congr (hframe.trans (.of_fields rfl rfl rfl)) (fun t u allDevices q h => ?_)
    (fun q x h => ?_)
  · rw [State.setPortThread_client, hclient] at h
    exact hinv.unblock_port t u allDevices q h
  · by_cases hq : q = p
    · subst hq
      rw [State.setPortThread_portThread, Function.update_self] at h
      rcases hpc with hnone | hsame
      · simp [hnone] at h
      · rwa [hsame] at h
    · simpa [hq, hthread] using h

/-- A port thread takes the request of an entry that it found unblocked. -/
theorem BlockInv.serve (hinv : BlockInv config s) {s₁ : State} {p : PortId} {u : UserId}
    {dp : DpRef} {pc : PortPc} (hframe : BlockFrame s s₁) (hclient : s₁.client = s.client)
    (hthread : s₁.portThread = s.portThread) (hpc : pc.inService = some (u, dp))
    (hport : (s.userPvt u).pport = some p) (hfind : findDpCommon config (s.userPvt u) = some dp)
    (hunblocked : unblocked s p dp u = true) : BlockInv config (s₁.setPortThread p pc) := by
  -- with the thread between two entries the invariant is known; only its new service is added
  have hquiet : BlockInv config (s₁.setPortThread p .scanTop) :=
    hinv.portMove hframe hclient hthread (Or.inl rfl)
  have hservice : ∀ q x, ((s₁.setPortThread p pc).portThread q).inService = some x →
      (q = p ∧ x = (u, dp)) ∨
        ((s₁.setPortThread p .scanTop).portThread q).inService = some x := by
    intro q x h
    by_cases hq : q = p
    · subst hq
      rw [State.setPortThread_portThread, Function.update_self, hpc] at h
      exact Or.inl ⟨rfl, (Option.some.inj h).symm⟩
    · right
      simpa [hq] using h
  refine ⟨hquiet.blocks_port, ⟨hquiet.holders.port, hquiet.holders.device⟩, hquiet.unblock_port,
    fun q v dp' h hblocks => ?_, fun q v dp' h => ?_⟩
  · rcases hservice q _ h with ⟨rfl, heq⟩ | hold
    · obtain ⟨rfl, rfl⟩ := Prod.mk.inj heq
      rw [State.setPortThread_userPvt, (hframe.user v).pport, (hframe.user v).findDpCommon]
      exact ⟨hport, hfind⟩
    · exact hquiet.service_blocks q v dp' hold hblocks
  · rcases hservice q _ h with ⟨rfl, heq⟩ | hold
    · obtain ⟨rfl, rfl⟩ := Prod.mk.inj heq
      rw [unblocked_iff, State.setPortThread_port, State.setPortThread_dpCommon,
        hframe.portHolder, hframe.dpHolder]
      exact unblocked_iff.mp hunblocked
    · exact hquiet.service_unblocked q v dp' hold

/-- The holders are set for the request in service, which is unblocked and, if it blocks, connected
to what it was served for. -/
theorem BlockInv.holdersSet (hinv : BlockInv config s) (hplace : PlaceInv s) {p : PortId}
    {u : UserId} {dp : DpRef}
    (hservice : (s.portThread p).inService = some (u, dp)) :
    BlockInv config (holdersSet s p u dp) := by
  have huser := holdersSet_userPvt s p u dp
  obtain ⟨hthread, hclient, -⟩ := holdersSet_threads s p u dp
  constructor
  case blocks_port =>
    rw [huser]
    exact hinv.blocks_port
  case holders =>
    constructor
    · intro q v h
      rw [holdersSet_port] at h
      simp only at h
      rw [huser]
      split at h
      · next hset =>
        obtain ⟨rfl, hcount⟩ := hset
        obtain rfl : u = v := Option.some.inj h
        exact ⟨(hinv.service_blocks q u dp hservice (Or.inl hcount)).1, hcount⟩
      · exact hinv.holders.port q v h
    · intro dp' v h
      rw [holdersSet_dpCommon] at h
      simp only at h
      rw [huser]
      split at h
      · next hset =>
        obtain ⟨rfl, hcount⟩ := hset
        obtain rfl : u = v := Option.some.inj h
        exact ⟨(hinv.service_blocks p u dp' hservice (Or.inr hcount)).2, hcount⟩
      · exact hinv.holders.device dp' v h
  case unblock_port =>
    rw [hclient, huser]
    exact hinv.unblock_port
  case service_blocks =>
    rw [hthread, huser]
    exact hinv.service_blocks
  case service_unblocked =>
    intro q v dp' h
    rw [hthread] at h
    obtain ⟨hportHolder, hdpHolder⟩ := unblocked_iff.mp (hinv.service_unblocked q v dp' h)
    rw [unblocked_iff, holdersSet_port, holdersSet_dpCommon]
    by_cases hq : q = p
    · subst hq
      obtain ⟨rfl, rfl⟩ := Prod.mk.inj (Option.some.inj (hservice.symm.trans h))
      constructor
      · split
        · exact Or.inr rfl
        · exact hportHolder
      · split
        · exact Or.inr rfl
        · exact hdpHolder
    · -- the other port threads serve devices of other ports
      have hdp : dp' ≠ dp := by
        rintro rfl
        exact hq ((hplace.service_port q v dp' h).symm.trans
          (hplace.service_port p u dp' hservice))
      simpa [hq, hdp] using ⟨hportHolder, hdpHolder⟩

theorem PortStep.blockInv {p : PortId} (hstep : PortStep config s p s')
    (hqueue : QueueInv config s) (hplace : PlaceInv s) (hinv : BlockInv config s) : BlockInv config s' := by
  have hok := hqueue.port p
  cases hstep with
  | quiet s₁ pc hframe hold hnew =>
      exact hinv.portMove hframe.blocking hframe.client hframe.portThread
        (Or.inl (PortPc.inService_of_serves hnew))
  | scan pc hpc hnew =>
      exact hinv.portMove (.clearStateChange s p) rfl rfl
        (Or.inl (PortPc.inService_of_serves hnew))
  | serveConnect u hpc hhead =>
      exact hinv.portMove (.startService s p .connect u) rfl rfl (Or.inl rfl)
  | serve i u dp flag flag' hpc hunblocked hflag =>
      rw [hpc] at hok
      obtain ⟨-, hmem, hfind⟩ := hok
      exact hinv.serve (.startService s p i u) rfl rfl rfl (hqueue.node.queued_of_mem hmem).2 hfind
        hunblocked
  | startConnect s₁ u timeout hpc hcancel =>
      obtain ⟨hframe, hclient, hthread⟩ := BlockFrame.cancelTimer hcancel
      exact hinv.portMove hframe hclient hthread (Or.inl rfl)
  | start s₁ u dp flag timeout hpc hcancel =>
      obtain ⟨hframe, hclient, hthread⟩ := BlockFrame.cancelTimer hcancel
      exact hinv.portMove hframe hclient hthread (Or.inr (by rw [hpc]; rfl))
  | returnsConnect u hpc => exact hinv.portMove (.refl _) rfl rfl (Or.inl rfl)
  | returns u dp flag hpc => exact hinv.portMove (.refl _) rfl rfl (Or.inr (by rw [hpc]; rfl))
  | finishConnect u hpc =>
      exact hinv.portMove (.finishCallback s u) (finishCallback_client s u)
        (finishCallback_portThread s u) (Or.inl rfl)
  | finish u dp hpc =>
      obtain ⟨pc, heq, hserves⟩ := portFinish_eq s p u dp
      have hservice : (s.portThread p).inService = some (u, dp) := by
        rw [hpc]
        rfl
      have hset := hinv.holdersSet hplace hservice
      rw [heq]
      exact hset.portMove (.finishCallback _ u) (finishCallback_client _ u)
        (finishCallback_portThread _ u) (Or.inl (PortPc.inService_of_serves hserves))

theorem step_blockInv (hqueue : QueueInv config s) (hplace : PlaceInv s)
    (hinv : BlockInv config s) {a : Action}
    (hguard : BlocksApart config s a) (hstep : step config s a = some s') :
    BlockInv config s' := by
  cases a with
  | call t c =>
      simp only [step, Option.ite_none_right_eq_some, Option.some.injEq] at hstep
      obtain ⟨hallowed, rfl⟩ := hstep
      exact (startCall_cases hqueue hallowed).blockInv hinv
  | client t => exact (clientStep_cases hqueue hstep).blockInv hqueue hinv hguard
  | timerExpire u =>
      simp only [step, timerExpire, Option.ite_none_right_eq_some, Option.some.injEq] at hstep
      obtain ⟨-, rfl⟩ := hstep
      exact hinv.timerMove (.modUser s u _ ⟨rfl, rfl, rfl, rfl⟩) rfl rfl
  | timerThread => exact (timerStep_cases hqueue hstep).blockInv hinv
  | portThread p => exact (portThreadStep_cases hstep).blockInv hqueue hplace hinv
  | tick =>
      simp only [step, Option.some.injEq] at hstep
      subst hstep
      exact hinv.congr (.of_fields rfl rfl rfl) hinv.unblock_port (fun _ _ => id)
  | setReason u b | setExceptionUser u b =>
      simp only [step, Option.ite_none_right_eq_some, Option.some.injEq] at hstep
      obtain ⟨-, rfl⟩ := hstep
      exact hinv.congr (.modUser s u _ ⟨rfl, rfl, rfl, rfl⟩) hinv.unblock_port (fun _ _ => id)

theorem BlockInv.initial (now : Nat) : BlockInv config (State.initial config now) where
  blocks_port := by simp [State.initial, UserPvt.zero, Blocks]
  holders := ⟨by simp [State.initial, Port.registered], by simp [State.initial, dpCommonInit]⟩
  unblock_port := by simp [State.initial]
  service_blocks := by simp [State.initial, PortPc.inService]
  service_unblocked := by simp [State.initial, PortPc.inService]

theorem blockInv_reachable (hreach : (machine config).Reachable (BlocksApart config) s) :
    BlockInv config s := by
  refine Machine.Reachable.invariant_of_reachable (M := machine config)
    (I := fun s => BlockInv config s) ?_ ?_ hreach
  · rintro s ⟨now, rfl⟩
    exact BlockInv.initial now
  · intro s a s' hs hguard hinv hstep
    have hundisturbed := hs.mono fun _ _ h => BlocksApart.undisturbed h
    exact step_blockInv (QueueInv.reachable hundisturbed) (placeInv_reachable hundisturbed) hinv
      hguard hstep

/-! ## From the return of a callback to its unblocking -/

/-- A port thread whose callback has returned ends it next. -/
theorem step_returned {p : PortId} {u : UserId} {dp : DpRef}
    (hpc : s.portThread p = .returned u dp)
    (hstep : step config s (.portThread p) = some s') : s' = portFinish s p u dp := by
  unfold step portThreadStep at hstep
  simp only [hpc] at hstep
  split at hstep
  · cases hstep
  · exact (Option.some.inj hstep).symm

/-- `u` keeps the port blocked: it is the holder, or it is about to become the holder. -/
def HoldsPort (s : State) (p : PortId) (u : UserId) : Prop :=
  (s.port p).pblockProcessHolder = some u ∨ ∃ dp, s.portThread p = .returned u dp

/-- `u` keeps the device blocked. -/
def HoldsDevice (s : State) (dp : DpRef) (u : UserId) : Prop :=
  (s.dpCommon dp).pblockProcessHolder = some u ∨ s.portThread dp.pport = .returned u dp

section Segment

variable {a : Action} {u : UserId}

/-- While its count is positive, `u` goes on holding the port. -/
theorem step_holdsPort (hqueue : QueueInv config s) (hinv : BlockInv config s)
    (hguard : Undisturbed s a) {p : PortId} (hholds : HoldsPort s p u)
    (hcount : 0 < (s.userPvt u).blockPortCount) (hcount' : 0 < (s'.userPvt u).blockPortCount)
    (hstep : step config s a = some s') : HoldsPort s' p u := by
  rcases hholds with hholder | ⟨dp, hpc⟩
  · left
    cases (step_blockStep hqueue hguard hstep).holders with
    | same hport _ => rw [hport, hholder]
    | releasePort _ v q _ _ _ _ hheld hzero hport _ =>
        by_cases hq : p = q
        · subst hq
          obtain rfl : v = u := Option.some.inj (hheld.symm.trans hholder)
          omega
        · rw [hport p hq, hholder]
    | releaseDevice _ _ _ _ _ _ _ _ _ _ _ hport _ => rw [hport, hholder]
    | finish q v dp _ hpc hport _ =>
        rw [hport]
        split
        · next hset =>
          obtain ⟨rfl, -⟩ := hset
          have hserved := hinv.service_unblocked p v dp (by rw [hpc]; rfl)
          rw [eq_of_unblocked_port hserved hholder]
        · exact hholder
  · by_cases ha : a = .portThread p
    · subst ha
      left
      rw [step_returned hpc hstep, portFinish_port]
      exact if_pos ⟨rfl, hcount⟩
    · right
      exact ⟨dp, by rw [step_portThread_of_ne hqueue ha hstep, hpc]⟩

/-- While its count is positive, `u` goes on holding the device. -/
theorem step_holdsDevice (hqueue : QueueInv config s) (hplace : PlaceInv s)
    (hinv : BlockInv config s) (hguard : Undisturbed s a) {dp : DpRef} (hholds : HoldsDevice s dp u)
    (hcount : 0 < (s.userPvt u).blockDeviceCount)
    (hcount' : 0 < (s'.userPvt u).blockDeviceCount)
    (hstep : step config s a = some s') : HoldsDevice s' dp u := by
  rcases hholds with hholder | hpc
  · left
    cases (step_blockStep hqueue hguard hstep).holders with
    | same _ hdp => rw [hdp dp (hplace.dpExists (hinv.holders.device dp u hholder).1), hholder]
    | releasePort _ _ _ _ _ _ _ _ _ _ hdp => rw [hdp, hholder]
    | releaseDevice _ v _ dp' _ _ _ _ _ hheld hzero _ hdp =>
        by_cases hsame : dp = dp'
        · subst hsame
          obtain rfl : v = u := Option.some.inj (hheld.symm.trans hholder)
          omega
        · rw [hdp dp hsame, hholder]
    | finish q v dp' _ hpc _ hdp =>
        rw [hdp]
        split
        · next hset =>
          obtain ⟨rfl, -⟩ := hset
          have hserved := hinv.service_unblocked q v dp (by rw [hpc]; rfl)
          rw [eq_of_unblocked_device hserved hholder]
        · exact hholder
  · by_cases ha : a = .portThread dp.pport
    · subst ha
      left
      rw [step_returned hpc hstep, portFinish_dpCommon]
      exact if_pos ⟨rfl, hcount⟩
    · right
      rw [step_portThread_of_ne hqueue ha hstep, hpc]

end Segment

/-- The port thread comes back from a `processUser`. -/
theorem step_of_processUser {p : PortId} {u : UserId}
    (hcallback : (s.portThread p).callback = some (u, .processUser))
    (hstep : step config s (.portThread p) = some s') :
    s'.port = s.port ∧ s'.dpCommon = s.dpCommon ∧ s'.userPvt = s.userPvt ∧
      (s.portThread p = .connectRunning u ∨
        ∃ dp, s.portThread p = .running u dp false ∧ s'.portThread p = .returned u dp) := by
  unfold step portThreadStep at hstep
  cases hpc : s.portThread p with
  | connectRunning v =>
      obtain rfl : v = u := by simpa [hpc, PortPc.callback] using hcallback
      simp only [hpc] at hstep
      split at hstep
      · cases hstep
      · cases hstep
        exact ⟨rfl, rfl, rfl, Or.inl rfl⟩
  | running v dp flag =>
      simp only [hpc, PortPc.callback, Option.some.injEq, Prod.mk.injEq] at hcallback
      obtain ⟨rfl, hflag⟩ := hcallback
      have hclear : flag = false := by
        cases flag with
        | false => rfl
        | true => simp [Callback.ofFlag] at hflag
      subst hclear
      simp only [hpc] at hstep
      split at hstep
      · cases hstep
      · cases hstep
        exact ⟨rfl, rfl, rfl, Or.inr ⟨dp, rfl, by simp⟩⟩
  | _ => simp [hpc, PortPc.callback] at hcallback

theorem keepsPortBlocked (config : PortId → PortConfig) :
    KeepsPortBlocked config (BlocksApart config) := by
  intro s s₁ s₂ p u hreach hguard hcallback hstep hpath
  have hreach₁ := hreach.step hguard hstep
  obtain ⟨hports, -, husers, hreturn⟩ := step_of_processUser hcallback hstep
  -- carried along the path: `u` holds the port as long as its count is positive
  have hholds : 0 < (s₂.userPvt u).blockPortCount → HoldsPort s₂ p u := by
    induction hpath with
    | refl =>
        intro hcount
        rcases hreturn with hconnect | ⟨dp, -, hpc⟩
        · left
          rw [husers] at hcount
          rw [hports]
          exact (hguard.connectReturn p u rfl hconnect).1 hcount
        · exact Or.inr ⟨dp, hpc⟩
    | @tail s' s'' a hrun hok hnext ih =>
        intro hcount
        have hs := hreach₁.path (hrun.mono fun _ _ h => h.1)
        exact step_holdsPort (QueueInv.reachable (hs.mono fun _ _ h => h.undisturbed))
          (blockInv_reachable hs) hok.1.undisturbed (ih hok.2) hok.2 hcount hnext
  intro hlast v dp flag hrunning
  have hs := hreach₁.path (hpath.mono fun _ _ h => h.1)
  rcases hholds hlast with hholder | ⟨dp', hpc⟩
  · exact eq_of_unblocked_port
      ((blockInv_reachable hs).service_unblocked p v dp (by rw [hrunning]; rfl)) hholder
  · rw [hpc] at hrunning
    cases hrunning

theorem keepsDeviceBlocked (config : PortId → PortConfig) :
    KeepsDeviceBlocked config (BlocksApart config) := by
  intro s s₁ s₂ p u dp hreach hguard hcallback hstep hfind hpath
  have hreach₁ := hreach.step hguard hstep
  obtain ⟨-, hdps, husers, hreturn⟩ := step_of_processUser hcallback hstep
  have hholds : 0 < (s₂.userPvt u).blockDeviceCount → HoldsDevice s₂ dp u := by
    induction hpath with
    | refl =>
        intro hcount
        rcases hreturn with hconnect | ⟨dp', -, hpc⟩
        · left
          rw [husers] at hcount hfind
          rw [hdps]
          exact (hguard.connectReturn p u rfl hconnect).2 hcount dp hfind
        · -- the device it was served for is the one it is connected to
          have hinv := blockInv_reachable hreach₁
          have hplace := placeInv_reachable (hreach₁.mono fun _ _ h => BlocksApart.undisturbed h)
          have hservice : (s₁.portThread p).inService = some (u, dp') := by rw [hpc]; rfl
          have hserved := (hinv.service_blocks p u dp' hservice (Or.inr hcount)).2
          obtain rfl : dp' = dp := Option.some.inj (hserved.symm.trans hfind)
          right
          rw [hplace.service_port p u dp' hservice, hpc]
    | @tail s' s'' a hrun hok hnext ih =>
        intro hcount
        have hs := hreach₁.path (hrun.mono fun _ _ h => h.1)
        have hundisturbed := hs.mono fun _ _ h => BlocksApart.undisturbed h
        exact step_holdsDevice (QueueInv.reachable hundisturbed) (placeInv_reachable hundisturbed)
          (blockInv_reachable hs) hok.1.undisturbed (ih hok.2) hok.2 hcount hnext
  intro hlast q v flag hrunning
  have hs := hreach₁.path (hpath.mono fun _ _ h => h.1)
  have hinv := blockInv_reachable hs
  have hservice : (s₂.portThread q).inService = some (v, dp) := by rw [hrunning]; rfl
  rcases hholds hlast with hholder | hpc
  · exact eq_of_unblocked_device (hinv.service_unblocked q v dp hservice) hholder
  · have hplace := placeInv_reachable (hs.mono fun _ _ h => BlocksApart.undisturbed h)
    rw [hplace.service_port q v dp hservice, hrunning] at hpc
    cases hpc

/-- In every run that meets the guard blocking works: holders are valid, and a port or device stays
blocked from the return of the callback until the count is zero. -/
theorem blocking_of_blocksApart (config : PortId → PortConfig) :
    Blocking config (BlocksApart config) where
  holders _ hreach := (blockInv_reachable hreach).holders
  port := keepsPortBlocked config
  device := keepsDeviceBlocked config

/-- `asynUser` 0 is connected to device 0 of a connected port and its `processUser` is
executing. -/
def processingRun : List Action :=
  [Action.call 0 (.createAsynUser true false), .client 0, .call 0 (.createAsynUser true false), .client 0,
    .call 0 (.connectDevice 0 0 0), .client 0, .client 0,
    .call 0 (.connectDevice 1 0 (-1)), .client 0, .client 0,
    .call 0 (.exceptionConnect 1), .client 0, .client 0, .client 0, .client 0,
    .call 0 (.queueRequest 0 .low 0), .client 0, .client 0, .client 0] ++
  List.replicate 7 (Action.portThread 0)

/-- The callback of `processingRun` connects to device 1 and blocks that device. -/
def reconnectedRun : List Action :=
  processingRun ++
  [Action.call 0 (.disconnect 0), .client 0, .client 0,
    .call 0 (.connectDevice 0 0 1), .client 0, .client 0,
    .call 0 (.blockProcessCallback 0 false), .client 0, .client 0,
    .portThread 0, .portThread 0]

/-- The port thread writes the holder into device 0, which `asynUser` 0 has left. -/
theorem not_blocking_reconnected : ¬ ∀ config, Blocking config Machine.Unguarded := by
  intro hclaim
  obtain ⟨s, hreach, hvalue⟩ := Machine.exists_reachable_of_exec
    (M := machine fun _ => multiPort) (b := true)
    (fun s => decide ((s.dpCommon (.device 0 0)).pblockProcessHolder = some 0) &&
      decide (findDpCommon (fun _ => multiPort) (s.userPvt 0) = some (.device 0 1)))
    reconnectedRun ⟨0, rfl⟩ (by decide +kernel)
  simp only [Bool.and_eq_true, decide_eq_true_eq] at hvalue
  have hvalid := ((hclaim _).holders s hreach).device _ _ hvalue.1
  rw [hvalue.2] at hvalid
  cases hvalid.1

/-! ## A guarded run -/

/-- Only the port thread of port 0 has moved. -/
structure OnePort (config : PortId → PortConfig) (s : State) : Prop where
  queueInv : QueueInv config s
  waiting : ∀ p : Nat, p ≠ 0 → s.portThread p = .waiting

theorem OnePort.initial (now : Nat) : OnePort config (State.initial config now) :=
  ⟨QueueInv.initial now, fun _ _ => rfl⟩

/-- `BlocksApart`, as a test that allows no `disconnect` and lets only port thread 0 move. -/
def blocksCheck (config : PortId → PortConfig) (s : State) (a : Action) : Bool :=
  undisturbedCheck s a &&
    match a with
    | .client t =>
        match s.client t with
        | .blockProcessCallback u allDevices _ =>
            (match (s.portThread 0).inService with
              | none => true
              | some (v, dp) => decide (v ≠ u) || (decide ((s.userPvt u).pport = some 0) &&
                  decide (findDpCommon config (s.userPvt u) = some dp))) &&
              decide (blockCount allDevices (s.userPvt u) + 1 < unsignedIntRange)
        | _ => true
    | .portThread p =>
        decide (p = 0) &&
          match s.portThread p with
          | .connectRunning u => decide ((s.userPvt u).blockPortCount = 0) &&
              decide ((s.userPvt u).blockDeviceCount = 0)
          | _ => true
    | _ => true

theorem blocksApart_of_check (s : State) (a : Action) (hone : OnePort config s)
    (hcheck : blocksCheck config s a = true) : BlocksApart config s a := by
  unfold blocksCheck at hcheck
  rw [Bool.and_eq_true] at hcheck
  obtain ⟨hundisturbed, hcheck⟩ := hcheck
  constructor
  case undisturbed => exact undisturbed_of_check s a hundisturbed
  case disconnect =>
    rintro t u p rfl (hpc | hpc) _
    · simp [undisturbedCheck, hpc] at hundisturbed
    · simp [undisturbedCheck, hpc] at hundisturbed
  case block =>
    rintro t u allDevices p rfl hpc -
    simp only [hpc, Bool.and_eq_true, decide_eq_true_eq] at hcheck
    refine ⟨fun q dp hservice => ?_, hcheck.2⟩
    by_cases hq : q = 0
    · subst hq
      have hserved := hcheck.1
      rw [hservice] at hserved
      simpa using hserved
    · rw [hone.waiting q hq] at hservice
      cases hservice
  case connectReturn =>
    rintro p u rfl hpc
    simp only [hpc, Bool.and_eq_true, decide_eq_true_eq] at hcheck
    exact ⟨fun h => absurd hcheck.2.1 (Nat.ne_of_gt h), fun h => absurd hcheck.2.2 (Nat.ne_of_gt h)⟩

theorem onePort_of_check (s : State) (a : Action) (s' : State) (hone : OnePort config s)
    (hcheck : blocksCheck config s a = true) (hstep : (machine config).step s a = some s') :
    OnePort config s' := by
  have hguard := blocksApart_of_check s a hone hcheck
  refine ⟨step_inv hone.queueInv hguard.undisturbed hstep, fun p hp => ?_⟩
  have ha : a ≠ .portThread p := by
    rintro rfl
    simp [blocksCheck, hp] at hcheck
  rw [step_portThread_of_ne hone.queueInv ha hstep]
  exact hone.waiting p hp

/-- A callback that blocks the device it was served for becomes its holder. -/
theorem blocking_after_callback : ∃ s : State,
    (s.dpCommon (.device 0 0)).pblockProcessHolder = some 0 ∧
      HoldersValid (fun _ => multiPort) s := by
  obtain ⟨s, hreach, hvalue⟩ := Machine.exists_reachable_of_execGuarded_inv
    (M := machine fun _ => multiPort) (b := some 0)
    (fun s => (s.dpCommon (.device 0 0)).pblockProcessHolder) blocksApart_of_check
    onePort_of_check (processingRun ++
      [Action.call 0 (.blockProcessCallback 0 false), .client 0, .client 0, .portThread 0, .portThread 0])
    ⟨0, rfl⟩ (.initial 0) (by decide +kernel)
  exact ⟨s, hvalue, (blocking_of_blocksApart _).holders s hreach⟩

end Queue
end Manager
end AsynDriver
