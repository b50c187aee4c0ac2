import AsynDriver.Manager.QueueInvariant

/-!
# The critical sections keep the nodes in place

Each critical section of the methods is taken on its own: connecting and disconnecting an
`asynUser`, allocating and freeing it, the two halves of `autoConnectDevice`, `queueRequest`,
`cancelRequest`, `blockProcessCallback` and `unblockProcessCallback`.  What a section needs to know
about the thread that executes it (the lock it holds, the local copies that are still right) is a
hypothesis here; `QueueOwnership` supplies it from the thread's position.
-/

namespace AsynDriver
namespace Manager
namespace Queue

open Library
open Library.LinkedList

variable {config : PortId → PortConfig}

section Sections

variable {s : State} {p : PortId} {u : UserId}

/-! ## Changing the connection of an `asynUser` -/

/-- The pointers of `u` change while it is on no queue. -/
theorem NodeInv.reconnect (hnode : NodeInv s) (hqueued : (s.userPvt u).isQueued = false)
    (f : UserPvt → UserPvt) (hkeep : ∀ v, (f v).isQueued = v.isQueued)
    (hfree : ∀ v, (f v).freeAfterCallback = v.freeAfterCallback)
    (hretired : (s.phase u).alive = false → (f (s.userPvt u)).pport = none) :
    NodeInv (s.modUser u f) where
  nodup := hnode.nodup
  mem_iff p' v := by
    by_cases hv : v = u
    · subst hv
      have hnot := hnode.mem_iff p' v
      simp [hqueued] at hnot
      simp [hkeep, hqueued, hnot]
    · simpa [hv] using hnode.mem_iff p' v
  queued_port v hqueued' := by
    by_cases hv : v = u
    · subst hv
      simp [hkeep, hqueued] at hqueued'
    · simpa [hv] using hnode.queued_port v (by simpa [hv] using hqueued')
  retired_port v hv := by
    by_cases hvu : v = u
    · subst hvu
      simpa using hretired hv
    · simpa [hvu] using hnode.retired_port v hv
  free_nodup := hnode.free_nodup
  free_phase := hnode.free_phase
  deferred_phase v hv := by
    by_cases hvu : v = u
    · subst hvu
      exact hnode.deferred_phase v (by simpa [hfree] using hv)
    · exact hnode.deferred_phase v (by simpa [hvu] using hv)
  fresh_phase := hnode.fresh_phase

/-- No call and no expired timer has a copy of `puserPvt->pport`. -/
def NoCopy (s : State) (u : UserId) : Prop :=
  (∀ t, (s.client t).heldPort ≠ some u) ∧ ∀ p, s.timerThread ≠ .fired u p

theorem QueueInv.reconnect (hinv : QueueInv config s) (hqueued : (s.userPvt u).isQueued = false)
    (hcopy : ∀ t, (s.client t).heldPort = some u → ∃ q addr, s.client t = .connectDevice u q addr)
    (htimer : ∀ p, s.timerThread ≠ .fired u p)
    (f : UserPvt → UserPvt) (hkeep : ∀ v, (f v).isQueued = v.isQueued)
    (hfree : ∀ v, (f v).freeAfterCallback = v.freeAfterCallback)
    (hretired : (s.phase u).alive = false → (f (s.userPvt u)).pport = none) :
    QueueInv config (s.modUser u f) where
  node := hinv.node.reconnect hqueued f hkeep hfree hretired
  client t := by
    show ClientOk _ (s.client t)
    by_cases hheld : (s.client t).heldPort = some u
    · obtain ⟨q, addr, hpc⟩ := hcopy t hheld
      have hok := hinv.client t
      rw [hpc] at hok ⊢
      exact hok
    · have hother : ∀ v, (s.client t).heldPort = some v →
          ((s.modUser u f).userPvt v).pport = (s.userPvt v).pport := by
        intro v hv
        have hne : v ≠ u := fun h => hheld (h ▸ hv)
        simp [hne]
      exact (hinv.client t).congr hother (fun _ _ => rfl) (fun _ _ => rfl)
  frees_unique := hinv.frees_unique
  timer := by
    show TimerOk _ s.timerThread
    have hok := hinv.timer
    cases hpc : s.timerThread with
    | fired v p' =>
        have hne : v ≠ u := by
          rintro rfl
          exact htimer p' hpc
        rw [hpc] at hok
        simpa [TimerOk, hne] using hok
    | _ => trivial
  port p' := by
    have hother : ∀ j v, v ∈ (s.port p').queueList j →
        findDpCommon config ((s.modUser u f).userPvt v) = findDpCommon config (s.userPvt v) := by
      intro j v hmem
      have hne : v ≠ u := by
        rintro rfl
        simp [(hinv.node.queued_of_mem hmem).1] at hqueued
      simp [hne]
    exact (hinv.port p').congr rfl id hother
  noLogicError := hinv.noLogicError

/-! ## Phases and the free list -/

/-- The phase of `u`, whose connection is null, moves on to one in which no client has it. -/
theorem QueueInv.setPhase (hinv : QueueInv config s) (phase : Phase)
    (hport : phase.alive = false → (s.userPvt u).pport = none)
    (hfree : u ∉ s.asynUserFreeList) (hdeferred : (s.userPvt u).freeAfterCallback = false)
    (hfresh : u < s.allocated)
    (hconnect : ∀ t q addr, s.client t = .connectDevice u q addr → phase.alive = true)
    (hfrees : ∀ t, (s.client t).frees ≠ some u) : QueueInv config (s.setPhase u phase) where
  node := {
    nodup := hinv.node.nodup
    mem_iff := hinv.node.mem_iff
    queued_port := hinv.node.queued_port
    retired_port := by
      intro v hv
      by_cases hvu : v = u
      · subst hvu
        exact hport (by simpa using hv)
      · exact hinv.node.retired_port v (by simpa [hvu] using hv)
    free_nodup := hinv.node.free_nodup
    free_phase := by
      intro v hv
      have hvu : v ≠ u := by
        rintro rfl
        exact hfree hv
      simpa [hvu] using hinv.node.free_phase v hv
    deferred_phase := by
      intro v hv
      have hvu : v ≠ u := by
        rintro rfl
        exact absurd hv (by simpa using hdeferred)
      simpa [hvu] using hinv.node.deferred_phase v hv
    fresh_phase := by
      intro v hv
      have hvu : v ≠ u := by
        rintro rfl
        exact absurd hfresh (Nat.not_lt.mpr hv)
      simpa [hvu] using hinv.node.fresh_phase v hv }
  client t := by
    show ClientOk _ (s.client t)
    have hok := hinv.client t
    have hne := hfrees t
    cases hpc : s.client t with
    | connectDevice v q addr =>
        rw [hpc] at hok
        by_cases hvu : v = u
        · subst hvu
          simpa [ClientOk] using hconnect t q addr hpc
        · simpa [ClientOk, hvu] using hok
    | freeDisconnect v q =>
        rw [hpc] at hok hne
        have hvu : v ≠ u := fun h => hne (h ▸ rfl)
        simpa [ClientOk, hvu] using hok
    | freeList v =>
        rw [hpc] at hok hne
        have hvu : v ≠ u := fun h => hne (h ▸ rfl)
        simpa [ClientOk, hvu] using hok
    | _ =>
        rw [hpc] at hok
        exact hok
  frees_unique := hinv.frees_unique
  timer := hinv.timer
  port := hinv.port
  noLogicError := hinv.noLogicError

theorem QueueInv.frees_ne (hinv : QueueInv config s) (hfreeing : s.phase u ≠ .freeing)
    (hretired : s.phase u ≠ .retired) (t : ThreadId) : (s.client t).frees ≠ some u := by
  intro hfrees
  have hok := hinv.client t
  cases hpc : s.client t with
  | freeDisconnect v q =>
      rw [hpc] at hok hfrees
      obtain rfl : v = u := by simpa [ClientPc.frees] using hfrees
      exact hfreeing hok
  | freeList v =>
      rw [hpc] at hok hfrees
      obtain rfl : v = u := by simpa [ClientPc.frees] using hfrees
      exact hretired hok
  | _ => simp [hpc, ClientPc.frees] at hfrees

theorem NodeInv.lt_allocated (hnode : NodeInv s) (hphase : s.phase u ≠ .unallocated) :
    u < s.allocated := by
  by_contra hge
  exact hphase (hnode.fresh_phase u (Nat.not_lt.mp hge))

theorem NodeInv.not_free_of_phase (hnode : NodeInv s) (hphase : s.phase u ≠ .free) :
    u ∉ s.asynUserFreeList :=
  fun hmem => hphase (hnode.free_phase u hmem)

theorem NodeInv.not_deferred_of_phase (hnode : NodeInv s) (hphase : s.phase u ≠ .deferred) :
    (s.userPvt u).freeAfterCallback = false := by
  by_contra hset
  exact hphase (hnode.deferred_phase u (by simpa using hset))

/-- `ellAdd(&pasynBase->asynUserFreeList, &puserPvt->node)`. -/
theorem QueueInv.addFree (hinv : QueueInv config s) (hphase : s.phase u = .free)
    (hmem : u ∉ s.asynUserFreeList) :
    QueueInv config { s with asynUserFreeList := s.asynUserFreeList ++ [u] } where
  node := {
    nodup := hinv.node.nodup
    mem_iff := hinv.node.mem_iff
    queued_port := hinv.node.queued_port
    retired_port := hinv.node.retired_port
    free_nodup := by
      have hdisjoint : ∀ a ∈ s.asynUserFreeList, ∀ b ∈ [u], a ≠ b := by
        intro a ha b hb heq
        obtain rfl : b = u := by simpa using hb
        exact hmem (heq ▸ ha)
      exact List.nodup_append.mpr ⟨hinv.node.free_nodup, by simp, hdisjoint⟩
    free_phase := by
      intro v hv
      rcases List.mem_append.mp hv with hold | hnew
      · exact hinv.node.free_phase v hold
      · obtain rfl : v = u := by simpa using hnew
        exact hphase
    deferred_phase := hinv.node.deferred_phase
    fresh_phase := hinv.node.fresh_phase }
  client t := (hinv.client t).congr (fun _ _ => rfl) (fun _ _ => rfl) (fun _ _ => rfl)
  frees_unique := hinv.frees_unique
  timer := hinv.timer.congr fun _ => rfl
  port p' := (hinv.port p').congr rfl id fun _ _ _ => rfl
  noLogicError := hinv.noLogicError

/-- A `userPvt` in the hands of no client moves to a free list. -/
theorem QueueInv.setFree (hinv : QueueInv config s) (hport : (s.userPvt u).pport = none)
    (hmem : u ∉ s.asynUserFreeList) (hdeferred : (s.userPvt u).freeAfterCallback = false)
    (hfresh : u < s.allocated) (hretired : (s.phase u).alive = false)
    (hfrees : ∀ t, (s.client t).frees ≠ some u) :
    QueueInv config
      { s.setPhase u .free with asynUserFreeList := s.asynUserFreeList ++ [u] } := by
  have hphase : QueueInv config (s.setPhase u .free) := by
    refine hinv.setPhase .free (fun _ => hport) hmem hdeferred hfresh (fun t q addr hpc => ?_) hfrees
    have hok := hinv.client t
    rw [hpc] at hok
    exact absurd hok (by simp [ClientOk, hretired])
  exact hphase.addFree (by simp) hmem

theorem QueueInv.finishCallback (hinv : QueueInv config s) :
    QueueInv config (s.finishCallback u) := by
  have hidle := hinv.modUser u (fun v =>
    { v with
      callbackDone := if v.state = .callbackCanceled then true else v.callbackDone
      state := .callbackIdle
      freeAfterCallback := false }) rfl rfl rfl (by simp)
  unfold State.finishCallback
  simp only
  split
  · next hset =>
    have hphase := hinv.node.deferred_phase u hset
    have hretired : (s.phase u).alive = false := by simp [hphase, Phase.alive]
    exact hidle.setFree (by simpa using hinv.node.retired_port u hretired)
      (hinv.node.not_free_of_phase (by simp [hphase])) (by simp)
      (hinv.node.lt_allocated (by simp [hphase])) hretired
      (hinv.frees_ne (by simp [hphase]) (by simp [hphase]))
  · exact hidle

theorem QueueInv.createAsynUser (hinv : QueueInv config s) (t : ThreadId) (process timeout : Bool) :
    QueueInv config (createAsynUser s t process timeout) := by
  -- both branches initialise a `userPvt` that no client has
  have hinit : ∀ {s' : State} {v : UserId}, QueueInv config s' → (s'.phase v).alive = false →
      s'.phase v ≠ .retired → v ∉ s'.asynUserFreeList →
      (s'.userPvt v).freeAfterCallback = false → v < s'.allocated →
      QueueInv config (((s'.modUser v fun v =>
        { v with
          processUser := process
          timeoutUser := timeout
          timeout := 0
          state := .callbackIdle
          isQueued := false
          queueEvenIfNotConnected := false }).setPhase v .live).setClient t
        (.ret (.createAsynUser process timeout) (.user v))) := by
    intro s' v hinv' hdead hretired hmem hdeferred hfresh
    have hqueued : false = (s'.userPvt v).isQueued :=
      (hinv'.node.not_queued_of_retired hdead).symm
    have hfreeing : s'.phase v ≠ .freeing := by
      intro h
      simp [h, Phase.alive] at hdead
    refine QueueInv.goto ?_ t trivial rfl
    exact (hinv'.modUser v _ hqueued rfl rfl Or.inl).setPhase .live (by simp [Phase.alive]) hmem
      (by simpa using hdeferred) hfresh (fun _ _ _ _ => rfl) (hinv'.frees_ne hfreeing hretired)
  unfold Queue.createAsynUser
  simp only
  split
  · have hphase := hinv.node.fresh_phase s.allocated le_rfl
    have hgrow : QueueInv config { s with allocated := s.allocated + 1 } := {
      node := { hinv.node with
        fresh_phase := fun v hv => hinv.node.fresh_phase v (Nat.le_of_succ_le hv) }
      client := fun t => (hinv.client t).congr (fun _ _ => rfl) (fun _ _ => rfl) (fun _ _ => rfl)
      frees_unique := hinv.frees_unique
      timer := hinv.timer.congr fun _ => rfl
      port := fun p' => (hinv.port p').congr rfl id fun _ _ _ => rfl
      noLogicError := hinv.noLogicError }
    exact hinit hgrow (by simp [hphase, Phase.alive]) (by simp [hphase])
      (hinv.node.not_free_of_phase (by simp [hphase]))
      (hinv.node.not_deferred_of_phase (by simp [hphase])) (Nat.lt_succ_self _)
  · next v rest hlist =>
    have hphase : s.phase v = .free := hinv.node.free_phase v (by simp [hlist])
    have hnodup := hinv.node.free_nodup
    rw [hlist] at hnodup
    have hpop : QueueInv config { s with asynUserFreeList := rest } := {
      node := { hinv.node with
        free_nodup := (List.nodup_cons.mp hnodup).2
        free_phase := fun w hw => hinv.node.free_phase w (by simp [hlist, hw]) }
      client := fun t => (hinv.client t).congr (fun _ _ => rfl) (fun _ _ => rfl) (fun _ _ => rfl)
      frees_unique := hinv.frees_unique
      timer := hinv.timer.congr fun _ => rfl
      port := fun p' => (hinv.port p').congr rfl id fun _ _ _ => rfl
      noLogicError := hinv.noLogicError }
    exact hinit hpop (by simp [hphase, Phase.alive]) (by simp [hphase])
      (List.nodup_cons.mp hnodup).1 (hinv.node.not_deferred_of_phase (by simp [hphase]))
      (hinv.node.lt_allocated (by simp [hphase]))

/-- `locateDevice` adds at most a device. -/
theorem locateDevice_frame (config : PortId → PortConfig) (s : State) (p : PortId) (addr : Nat) :
    (locateDevice config s p addr).1 = s ∨
      (locateDevice config s p addr).1 =
        (s.modPort p fun q => { q with deviceList := q.deviceList ++ [addr] }).modDp
          (.device p addr) fun _ => dpCommonInit (s.dpCommon (.port p)).autoConnect := by
  unfold locateDevice
  split
  · exact Or.inl rfl
  · split
    · exact Or.inl rfl
    · exact Or.inr rfl

theorem connectDeviceLocked_inv (hinv : QueueInv config s) (t : ThreadId) (addr : Int)
    (hnone : (s.userPvt u).pport = none) (halive : (s.phase u).alive = true)
    (hcopy : ∀ t, (s.client t).heldPort = some u → ∃ q addr, s.client t = .connectDevice u q addr)
    (htimer : ∀ p, s.timerThread ≠ .fired u p) :
    QueueInv config (connectDeviceLocked config s t u p addr) := by
  have hqueued := hinv.node.not_queued_of_port_none hnone
  unfold connectDeviceLocked
  refine QueueInv.goto ?_ t trivial rfl
  split
  · rcases locateDevice_frame config s p addr.toNat with hlocate | hlocate
    · simp only [hlocate]
      exact hinv.reconnect hqueued hcopy htimer _ (fun _ => rfl) (fun _ => rfl) (by simp [halive])
    · simp only [hlocate]
      have hdevice := (hinv.modPort p (fun q =>
        { q with deviceList := q.deviceList ++ [addr.toNat] }) (fun _ => rfl) (fun _ => id)).modDp
          (.device p addr.toNat) fun _ => dpCommonInit (s.dpCommon (.port p)).autoConnect
      exact hdevice.reconnect hqueued hcopy htimer _ (fun _ => rfl) (fun _ => rfl)
        (by simp [halive])
  · exact hinv.reconnect hqueued hcopy htimer _ (fun _ => rfl) (fun _ => rfl) (by simp [halive])

theorem not_queued_of_not_refused {v : UserPvt} (hrefused : disconnectRefused v = false) :
    v.isQueued = false := by
  unfold disconnectRefused at hrefused
  simp only [Bool.or_eq_false_iff] at hrefused
  exact hrefused.1.1

theorem disconnectUser_inv (hinv : QueueInv config s)
    (hrefused : disconnectRefused (s.userPvt u) = false) (hcopy : NoCopy s u) :
    QueueInv config (s.disconnectUser u) :=
  hinv.reconnect (not_queued_of_not_refused hrefused) (fun t hheld => absurd hheld (hcopy.1 t))
    hcopy.2 _ (fun _ => rfl) (fun _ => rfl) (fun _ => rfl)

theorem disconnectLocked_inv (hinv : QueueInv config s) (t : ThreadId)
    (hcopy : disconnectRefused (s.userPvt u) = false → NoCopy s u) :
    QueueInv config (disconnectLocked s t u) := by
  unfold disconnectLocked
  split
  · exact hinv.goto t trivial rfl
  · next hrefused =>
    have hrefused' : disconnectRefused (s.userPvt u) = false := by simpa using hrefused
    exact (disconnectUser_inv hinv hrefused' (hcopy hrefused')).goto t trivial rfl

/-- The thread that frees `u` leaves the place where it frees it. -/
theorem QueueInv.released (hinv : QueueInv config s) {t : ThreadId}
    (hfrees : (s.client t).frees = some u) :
    QueueInv config (s.setClient t .idle) ∧
      ∀ t', ((s.setClient t .idle).client t').frees ≠ some u := by
  refine ⟨hinv.goto t trivial rfl, fun t' hfrees' => ?_⟩
  by_cases ht : t' = t
  · subst ht
    simp [ClientPc.frees] at hfrees'
  · exact ht (hinv.frees_unique t' t u (by simpa [ht] using hfrees') hfrees)

theorem freeDisconnectLocked_inv (hinv : QueueInv config s) {t : ThreadId}
    (hpc : s.client t = .freeDisconnect u p)
    (hcopy : disconnectRefused (s.userPvt u) = false → NoCopy s u) :
    QueueInv config (freeDisconnectLocked s t u) := by
  have hphase : s.phase u = .freeing := by simpa [hpc, ClientOk] using hinv.client t
  have hmem := hinv.node.not_free_of_phase (u := u) (by simp [hphase])
  have hdeferred := hinv.node.not_deferred_of_phase (u := u) (by simp [hphase])
  have hfresh := hinv.node.lt_allocated (u := u) (by simp [hphase])
  obtain ⟨hidle, hothers⟩ := hinv.released (by rw [hpc]; rfl)
  unfold freeDisconnectLocked
  split
  · have hlive := hidle.setPhase .live (by simp [Phase.alive]) hmem hdeferred hfresh
      (fun _ _ _ _ => rfl) hothers
    have hret := hlive.ret t (.freeAsynUser u) .asynError
    simpa [State.ret, State.setPhase, State.setClient] using hret
  · next hrefused =>
    have hrefused' : disconnectRefused (s.userPvt u) = false := by simpa using hrefused
    have hgone := hcopy hrefused'
    have hcopy' : NoCopy (s.setClient t .idle) u := by
      refine ⟨fun t' => ?_, hgone.2⟩
      by_cases ht : t' = t
      · subst ht
        simp [ClientPc.heldPort]
      · simpa [ht] using hgone.1 t'
    have hnone := disconnectUser_inv hidle hrefused' hcopy'
    have hretired := hnone.setPhase .retired (u := u) (by simp [State.disconnectUser])
      hmem (by simpa [State.disconnectUser] using hdeferred) hfresh
      (fun t' q addr hconnect => absurd (congrArg ClientPc.heldPort hconnect) (hcopy'.1 t'))
      hothers
    have hlist := hretired.setClient t (.freeList u) (by simp [ClientOk])
      (fun v hv t' _ => by
        obtain rfl : u = v := by simpa [ClientPc.frees] using hv
        exact hothers t')
    simpa [State.disconnectUser, State.modUser, State.setPhase, State.setClient] using hlist

theorem freeListLocked_inv (hinv : QueueInv config s) {t : ThreadId}
    (hpc : s.client t = .freeList u) : QueueInv config (freeListLocked s t u) := by
  have hphase : s.phase u = .retired := by simpa [hpc, ClientOk] using hinv.client t
  have hmem := hinv.node.not_free_of_phase (u := u) (by simp [hphase])
  have hdeferred := hinv.node.not_deferred_of_phase (u := u) (by simp [hphase])
  have hfresh := hinv.node.lt_allocated (u := u) (by simp [hphase])
  have hdead : (s.phase u).alive = false := by simp [hphase, Phase.alive]
  have hport := hinv.node.retired_port u hdead
  obtain ⟨hidle, hothers⟩ := hinv.released (by rw [hpc]; rfl)
  unfold freeListLocked
  split
  · have hfree := hidle.setFree hport hmem hdeferred hfresh hdead hothers
    have hret := hfree.ret t (.freeAsynUser u) .asynSuccess
    simpa [State.ret, State.setPhase, State.setClient] using hret
  · have hlater : QueueInv config ((s.setClient t .idle).setPhase u .deferred) := by
      refine hidle.setPhase .deferred (fun _ => hport) hmem hdeferred hfresh (fun t' q addr hconnect => ?_)
        hothers
      have hok := hidle.client t'
      rw [hconnect] at hok
      exact absurd hok (by simp [ClientOk, hdead])
    have hset := hlater.modUser u (fun v => { v with freeAfterCallback := true }) rfl rfl rfl
      (fun _ => Or.inr (by simp))
    have hret := hset.ret t (.freeAsynUser u) .asynSuccess
    simpa [State.ret, State.modUser, State.setPhase, State.setClient] using hret

/-! ## `autoConnectDevice` -/

/-- `autoConnectDevice` writes only `autoConnectActive` and `lastConnectDisconnect`. -/
structure AttemptFrame (s s' : State) : Prop where
  rest : ∃ f, s' = { s with dpCommon := f }
  enabled : ∀ dp, (s'.dpCommon dp).enabled = (s.dpCommon dp).enabled
  connected : ∀ dp, (s'.dpCommon dp).connected = (s.dpCommon dp).connected
  holder : ∀ dp, (s'.dpCommon dp).pblockProcessHolder = (s.dpCommon dp).pblockProcessHolder

theorem AttemptFrame.refl (s : State) : AttemptFrame s s :=
  ⟨⟨s.dpCommon, rfl⟩, fun _ => rfl, fun _ => rfl, fun _ => rfl⟩

theorem AttemptFrame.modDp (s : State) (dp : DpRef) (f : DpCommon → DpCommon)
    (henabled : ∀ d, (f d).enabled = d.enabled) (hconnected : ∀ d, (f d).connected = d.connected)
    (hholder : ∀ d, (f d).pblockProcessHolder = d.pblockProcessHolder) :
    AttemptFrame s (s.modDp dp f) := by
  constructor
  case rest => exact ⟨_, rfl⟩
  all_goals
    intro dp'
    by_cases hdp : dp' = dp
    · subst hdp
      simp [henabled, hconnected, hholder]
    · simp [hdp]

theorem AttemptFrame.start (s : State) (dp : DpRef) :
    AttemptFrame s (s.modDp dp fun d => { d with autoConnectActive := true }) :=
  AttemptFrame.modDp s dp _ (fun _ => rfl) (fun _ => rfl) (fun _ => rfl)

theorem AttemptFrame.trans {s s' s'' : State} (hfirst : AttemptFrame s s')
    (hsecond : AttemptFrame s' s'') : AttemptFrame s s'' where
  rest := by
    obtain ⟨f, rfl⟩ := hfirst.rest
    obtain ⟨g, rfl⟩ := hsecond.rest
    exact ⟨g, rfl⟩
  enabled dp := (hsecond.enabled dp).trans (hfirst.enabled dp)
  connected dp := (hsecond.connected dp).trans (hfirst.connected dp)
  holder dp := (hsecond.holder dp).trans (hfirst.holder dp)

theorem autoConnectDeviceTail_frame (s : State) (dp : DpRef) :
    AttemptFrame s (autoConnectDeviceTail s dp).1 := by
  unfold autoConnectDeviceTail
  split
  · exact .refl s
  · split
    · exact .refl s
    · simp only
      split
      · split
        · exact .refl s
        · exact AttemptFrame.start s _
      · exact .refl s

theorem autoConnectDevice_frame (s : State) (dp : DpRef) :
    AttemptFrame s (autoConnectDevice s dp).1 := by
  unfold autoConnectDevice
  simp only
  split
  · split
    · exact .refl s
    · exact AttemptFrame.start s _
  · exact autoConnectDeviceTail_frame s dp

theorem autoConnectResume_frame (s : State) (dp tried : DpRef) :
    AttemptFrame s (autoConnectResume s dp tried).1 := by
  have hresume := AttemptFrame.modDp s tried
    (fun d => { d with lastConnectDisconnect := s.now, autoConnectActive := false })
    (fun _ => rfl) (fun _ => rfl) (fun _ => rfl)
  unfold autoConnectResume
  cases tried with
  | port _ => exact hresume.trans (autoConnectDeviceTail_frame _ _)
  | device _ _ => exact hresume

theorem AttemptFrame.port {s' : State} (hframe : AttemptFrame s s') : s'.port = s.port := by
  obtain ⟨f, rfl⟩ := hframe.rest
  rfl

theorem AttemptFrame.userPvt {s' : State} (hframe : AttemptFrame s s') : s'.userPvt = s.userPvt := by
  obtain ⟨f, rfl⟩ := hframe.rest
  rfl

theorem AttemptFrame.queueInv {s' : State} (hframe : AttemptFrame s s')
    (hinv : QueueInv config s) : QueueInv config s' := by
  obtain ⟨f, rfl⟩ := hframe.rest
  exact hinv.congr (SameNodes.of_fields rfl rfl rfl rfl rfl rfl) rfl rfl rfl

/-! ## The critical sections -/

theorem queueRequestSyncEnd_inv (t : ThreadId) (priority : AsynQueuePriority) (timeout : Int)
    (dp : DpRef) {r : State × AutoConnectResult} (hinv : QueueInv config r.1) :
    QueueInv config (queueRequestSyncEnd t u priority timeout dp r) := by
  obtain ⟨s', _ | _ | _⟩ := r
  · exact hinv.goto t trivial rfl
  · exact hinv.goto t trivial rfl
  · exact hinv.goto t trivial rfl

theorem queueRequestLocked_inv (hinv : QueueInv config s) (t : ThreadId)
    (priority : AsynQueuePriority) (timeout : Int) (dp : DpRef) (check : Bool)
    (hport : (s.userPvt u).pport = some p) (hlock : s.lockFree p = true) :
    QueueInv config (queueRequestLocked config s t u priority timeout p dp check) := by
  unfold queueRequestLocked
  split
  · exact hinv.goto t trivial rfl
  · split
    · unfold queueRequestBlocking
      simp only
      split
      · exact hinv.goto t trivial rfl
      · next hqueued =>
        split
        · exact hinv.goto t trivial rfl
        · exact (hinv.enqueue _ timeout hport (by simpa using hqueued) hlock).goto t trivial rfl
    · unfold queueRequestSync
      simp only
      split
      · exact hinv.goto t trivial rfl
      · split
        · exact queueRequestSyncEnd_inv t priority timeout _
            ((autoConnectDevice_frame s _).queueInv hinv)
        · exact hinv.goto t trivial rfl

theorem locateQueue_of_queued (hinv : QueueInv config s) (hport : (s.userPvt u).pport = some p)
    (hqueued : (s.userPvt u).isQueued = true) :
    ∃ i, locateQueue (s.port p) u = some i ∧ u ∈ (s.port p).queueList i := by
  have hmem : u ∈ allQueued (s.port p).queueList := (hinv.node.mem_iff p u).mpr ⟨hqueued, hport⟩
  obtain ⟨i, hlocate⟩ := locateQueue_isSome hmem
  exact ⟨i, hlocate, locateQueue_mem hlocate⟩

theorem cancelRequestLocked_inv (hinv : QueueInv config s) (t : ThreadId)
    (hport : (s.userPvt u).pport = some p) (hlock : s.lockFree p = true) :
    QueueInv config (cancelRequestLocked s t u p) := by
  unfold cancelRequestLocked
  simp only
  split
  · split
    · exact (hinv.modUser u _ rfl rfl rfl Or.inl).goto t trivial rfl
    · exact hinv.goto t trivial rfl
  · next hqueued =>
    obtain ⟨i, hlocate, hmem⟩ := locateQueue_of_queued hinv hport (by simpa using hqueued)
    rw [hlocate]
    exact (hinv.dequeue_stateChanged hmem hlock).goto t trivial rfl

theorem blockProcessCallbackLocked_inv (hinv : QueueInv config s) (t : ThreadId)
    (allDevices : Bool) : QueueInv config (blockProcessCallbackLocked s t u allDevices) := by
  unfold blockProcessCallbackLocked
  simp only
  split
  · exact hinv.goto t trivial rfl
  · refine (hinv.modUser u _ ?_ ?_ ?_ ?_).goto t trivial rfl
    all_goals cases allDevices
    all_goals first | rfl | exact Or.inl

theorem unblockProcessCallbackLocked_inv (hinv : QueueInv config s) (t : ThreadId)
    (allDevices : Bool) :
    QueueInv config (unblockProcessCallbackLocked config s t u allDevices p) := by
  unfold unblockProcessCallbackLocked
  simp only
  split
  · exact hinv.goto t trivial rfl
  · split
    · exact hinv.goto t trivial rfl
    · split
      · have hcount := hinv.modUser u (fun v => { v with blockPortCount := v.blockPortCount - 1 })
          rfl rfl rfl Or.inl
        unfold unblockPort
        simp only
        split
        · exact (hcount.modPort p (fun q => { q with pblockProcessHolder := none })
            (fun _ => rfl) (fun _ => id)).goto t trivial rfl
        · exact hcount.goto t trivial rfl
      · have hcount := hinv.modUser u
          (fun v => { v with blockDeviceCount := v.blockDeviceCount - 1 }) rfl rfl rfl Or.inl
        unfold unblockDevice
        simp only
        split
        · exact (hcount.modDp _ _).goto t trivial rfl
        · exact hcount.goto t trivial rfl

end Sections

end Queue
end Manager
end AsynDriver
