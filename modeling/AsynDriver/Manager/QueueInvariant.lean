import AsynDriver.Manager.QueueMachine

/-!
# Where the list nodes are

The node inside a `userPvt` serves the four `queueList`s of whatever port the user is connected to,
and `asynUserFreeList`.  `QueueInv` says where each node is: on exactly one queue of its own port
while `isQueued` is set, on the free list only when no client has the `asynUser`, and nowhere else.

* `NodeInv` — the nodes, the flags and the phases.
* `ClientOk`, `TimerOk`, `PortOk` — what the local copies of a thread say about the shared state.
* `SameNodes` — the frame: a change that touches none of this keeps the invariant
  (`QueueInv.congr`), so most writes of the methods are covered by `QueueInv.modUser`,
  `QueueInv.modDp` and `QueueInv.modPort`.
* `QueueInv.enqueue`, `QueueInv.dequeue_stateChanged`, `QueueInv.startService` — the three ways in
  which a node moves.
-/

namespace AsynDriver
namespace Manager
namespace Queue

open Library
open Library.LinkedList

variable {config : PortId → PortConfig}

/-! ## Four lists as one -/

theorem allQueued_perm_cons {queueList : AsynQueuePriority → List UserId}
    {i : AsynQueuePriority} {u : UserId} {l : List UserId} (hperm : (queueList i).Perm (u :: l)) :
    (allQueued queueList).Perm (u :: allQueued (Function.update queueList i l)) := by
  rw [List.perm_iff_count] at hperm ⊢
  intro a
  have hcount := hperm a
  cases i <;> simp [allQueued, List.count_append, List.count_cons] at hcount ⊢ <;> omega

theorem mem_allQueued {queueList : AsynQueuePriority → List UserId} {u : UserId} :
    u ∈ allQueued queueList ↔ ∃ i, u ∈ queueList i := by
  constructor
  · intro hmem
    simp only [allQueued, List.mem_append] at hmem
    rcases hmem with h | h | h | h
    · exact ⟨_, h⟩
    · exact ⟨_, h⟩
    · exact ⟨_, h⟩
    · exact ⟨_, h⟩
  · rintro ⟨i, hi⟩
    cases i <;> simp [allQueued, hi]

/-- In a duplicate-free family of queues a node is on one queue, once. -/
theorem allQueued_unique {queueList : AsynQueuePriority → List UserId}
    (hnodup : (allQueued queueList).Nodup) {i j : AsynQueuePriority} {u : UserId}
    (hi : u ∈ queueList i) (hj : u ∈ queueList j) : i = j := by
  by_contra hne
  have hcount := List.nodup_iff_count_le_one.mp hnodup u
  have hci := List.count_pos_iff.mpr hi
  have hcj := List.count_pos_iff.mpr hj
  simp only [allQueued, List.count_append] at hcount
  cases i <;> cases j <;> first | exact hne rfl | omega

theorem queueList_nodup {queueList : AsynQueuePriority → List UserId}
    (hnodup : (allQueued queueList).Nodup) (i : AsynQueuePriority) : (queueList i).Nodup := by
  refine List.nodup_iff_count_le_one.mpr fun u => ?_
  have hcount := List.nodup_iff_count_le_one.mp hnodup u
  simp only [allQueued, List.count_append] at hcount
  cases i <;> omega

theorem locateQueue_mem {q : Port} {u : UserId} {i : AsynQueuePriority}
    (hlocate : locateQueue q u = some i) : u ∈ q.queueList i := by
  unfold locateQueue at hlocate
  split at hlocate
  · next h => cases hlocate; exact h
  · split at hlocate
    · next h => cases hlocate; exact h
    · split at hlocate
      · next h => cases hlocate; exact h
      · split at hlocate
        · next h => cases hlocate; exact h
        · cases hlocate

theorem locateQueue_isSome {q : Port} {u : UserId} (hmem : u ∈ allQueued q.queueList) :
    ∃ i, locateQueue q u = some i := by
  unfold locateQueue
  split
  · exact ⟨_, rfl⟩
  · split
    · exact ⟨_, rfl⟩
    · split
      · exact ⟨_, rfl⟩
      · split
        · exact ⟨_, rfl⟩
        · next h1 h2 h3 h4 => simp [allQueued, h1, h2, h3, h4] at hmem

/-! ## The invariant -/

/-- The `asynUser` whose `pport` a call has read and not used yet; for `connectDevice` the pointer
it has found null. -/
def ClientPc.heldPort : ClientPc → Option UserId
  | .connectDevice u _ _ => some u
  | .queueRequest u _ _ _ _ _ => some u
  | .cancelRequest u _ => some u
  | .blockProcessCallback u _ _ => some u
  | _ => none

/-- The `asynUser` that a `freeAsynUser` in progress is about to free. -/
def ClientPc.frees : ClientPc → Option UserId
  | .freeDisconnect u _ => some u
  | .freeList u => some u
  | _ => none

/-- Where the nodes are. -/
structure NodeInv (s : State) : Prop where
  nodup : ∀ p, (allQueued (s.port p).queueList).Nodup
  mem_iff : ∀ p u, u ∈ allQueued (s.port p).queueList ↔
    (s.userPvt u).isQueued = true ∧ (s.userPvt u).pport = some p
  queued_port : ∀ u, (s.userPvt u).isQueued = true → ∃ p, (s.userPvt u).pport = some p
  retired_port : ∀ u, (s.phase u).alive = false → (s.userPvt u).pport = none
  free_nodup : s.asynUserFreeList.Nodup
  free_phase : ∀ u ∈ s.asynUserFreeList, s.phase u = .free
  deferred_phase : ∀ u, (s.userPvt u).freeAfterCallback = true → s.phase u = .deferred
  fresh_phase : ∀ u, s.allocated ≤ u → s.phase u = .unallocated

/-- What the local copies of a client say about the shared state. -/
def ClientOk (s : State) : ClientPc → Prop
  | .connectDevice u _ _ => (s.phase u).alive = true
  | .queueRequest u _ _ p _ _ => (s.userPvt u).pport = some p
  | .cancelRequest u p => (s.userPvt u).pport = some p
  | .blockProcessCallback u _ p => (s.userPvt u).pport = some p
  | .freeDisconnect u _ => s.phase u = .freeing
  | .freeList u => s.phase u = .retired
  | _ => True

def TimerOk (s : State) : TimerPc → Prop
  | .fired u p => (s.userPvt u).pport = some p
  | _ => True

/-- The entry at which the port thread stands is on the list, unless the queues have changed while
the lock was dropped. -/
def PortOk (config : PortId → PortConfig) (s : State) (p : PortId) : PortPc → Prop
  | .visit i u _ => i ≠ .connect ∧ u ∈ (s.port p).queueList i
  | .tested i u dp _ => i ≠ .connect ∧ u ∈ (s.port p).queueList i ∧
      findDpCommon config (s.userPvt u) = some dp
  | .attempt (.entry i u dp _) _ => i ≠ .connect ∧ ((s.port p).queueStateChange = true ∨
      (u ∈ (s.port p).queueList i ∧ findDpCommon config (s.userPvt u) = some dp))
  | _ => True

structure QueueInv (config : PortId → PortConfig) (s : State) : Prop where
  node : NodeInv s
  client : ∀ t, ClientOk s (s.client t)
  frees_unique : ∀ t t' u, (s.client t).frees = some u → (s.client t').frees = some u → t = t'
  timer : TimerOk s s.timerThread
  port : ∀ p, PortOk config s p (s.portThread p)
  noLogicError : s.logicError = false

theorem NodeInv.not_queued_of_port_none {s : State} (hnode : NodeInv s) {u : UserId}
    (hport : (s.userPvt u).pport = none) : (s.userPvt u).isQueued = false := by
  by_contra hqueued
  obtain ⟨p, hp⟩ := hnode.queued_port u (by simpa using hqueued)
  simp [hport] at hp

theorem NodeInv.not_queued_of_retired {s : State} (hnode : NodeInv s) {u : UserId}
    (hretired : (s.phase u).alive = false) : (s.userPvt u).isQueued = false :=
  hnode.not_queued_of_port_none (hnode.retired_port u hretired)

theorem NodeInv.alive_of_port {s : State} (hnode : NodeInv s) {u : UserId} {p : PortId}
    (hport : (s.userPvt u).pport = some p) : (s.phase u).alive = true := by
  by_contra hretired
  have hnone := hnode.retired_port u (by simpa using hretired)
  simp [hport] at hnone

theorem NodeInv.queued_of_mem {s : State} (hnode : NodeInv s) {p : PortId}
    {i : AsynQueuePriority} {u : UserId} (hmem : u ∈ (s.port p).queueList i) :
    (s.userPvt u).isQueued = true ∧ (s.userPvt u).pport = some p :=
  (hnode.mem_iff p u).mp (mem_allQueued.mpr ⟨i, hmem⟩)

/-! ## Frames -/

/-- Two states with the same lists, flags, connections and phases; `queueStateChange` may have been
set. -/
structure SameNodes (s s' : State) : Prop where
  queueList : ∀ p, (s'.port p).queueList = (s.port p).queueList
  stateChange : ∀ p, (s.port p).queueStateChange = true → (s'.port p).queueStateChange = true
  isQueued : ∀ u, (s'.userPvt u).isQueued = (s.userPvt u).isQueued
  pport : ∀ u, (s'.userPvt u).pport = (s.userPvt u).pport
  pdevice : ∀ u, (s'.userPvt u).pdevice = (s.userPvt u).pdevice
  freeAfterCallback : ∀ u, (s'.userPvt u).freeAfterCallback = true →
    (s.userPvt u).freeAfterCallback = true ∨ s.phase u = .deferred
  phase : s'.phase = s.phase
  freeList : s'.asynUserFreeList = s.asynUserFreeList
  allocated : s'.allocated = s.allocated
  logicError : s'.logicError = s.logicError

theorem SameNodes.of_fields {s s' : State} (hport : s'.port = s.port)
    (huser : s'.userPvt = s.userPvt) (hphase : s'.phase = s.phase)
    (hlist : s'.asynUserFreeList = s.asynUserFreeList) (hallocated : s'.allocated = s.allocated)
    (hlogic : s'.logicError = s.logicError) : SameNodes s s' where
  queueList p := by rw [hport]
  stateChange p hset := by rwa [hport]
  isQueued u := by rw [huser]
  pport u := by rw [huser]
  pdevice u := by rw [huser]
  freeAfterCallback u hset := Or.inl (by rwa [huser] at hset)
  phase := hphase
  freeList := hlist
  allocated := hallocated
  logicError := hlogic

theorem SameNodes.modUser (s : State) (u : UserId) (f : UserPvt → UserPvt)
    (hqueued : (f (s.userPvt u)).isQueued = (s.userPvt u).isQueued)
    (hport : (f (s.userPvt u)).pport = (s.userPvt u).pport)
    (hdevice : (f (s.userPvt u)).pdevice = (s.userPvt u).pdevice)
    (hfree : (f (s.userPvt u)).freeAfterCallback = true →
      (s.userPvt u).freeAfterCallback = true ∨ s.phase u = .deferred) :
    SameNodes s (s.modUser u f) := by
  constructor
  case isQueued | pport | pdevice =>
    intro v
    by_cases hv : v = u
    · subst hv
      simp [hqueued, hport, hdevice]
    · simp [hv]
  case freeAfterCallback =>
    intro v hset
    by_cases hv : v = u
    · subst hv
      exact hfree (by simpa using hset)
    · exact Or.inl (by simpa [hv] using hset)
  all_goals simp [State.modUser]

theorem SameNodes.modDp (s : State) (dp : DpRef) (f : DpCommon → DpCommon) :
    SameNodes s (s.modDp dp f) :=
  SameNodes.of_fields rfl rfl rfl rfl rfl rfl

theorem SameNodes.modPort (s : State) (p : PortId) (f : Port → Port)
    (hlist : ∀ q, (f q).queueList = q.queueList)
    (hchange : ∀ q, q.queueStateChange = true → (f q).queueStateChange = true) :
    SameNodes s (s.modPort p f) := by
  constructor
  case queueList =>
    intro q
    by_cases hq : q = p
    · subst hq
      simp [hlist]
    · simp [hq]
  case stateChange =>
    intro q hset
    by_cases hq : q = p
    · subst hq
      simpa using hchange _ hset
    · simpa [hq] using hset
  case freeAfterCallback => exact fun _ => Or.inl
  all_goals simp [State.modPort]

theorem findDpCommon_congr {v w : UserPvt} (hport : w.pport = v.pport)
    (hdevice : w.pdevice = v.pdevice) : findDpCommon config w = findDpCommon config v := by
  unfold findDpCommon
  rw [hport, hdevice]

theorem ClientOk.congr {s s' : State} {pc : ClientPc} (hok : ClientOk s pc)
    (hport : ∀ u, pc.heldPort = some u → (s'.userPvt u).pport = (s.userPvt u).pport)
    (halive : ∀ u, pc.heldPort = some u → (s'.phase u).alive = (s.phase u).alive)
    (hfrees : ∀ u, pc.frees = some u → s'.phase u = s.phase u) : ClientOk s' pc := by
  cases pc <;> simp_all [ClientOk, ClientPc.heldPort, ClientPc.frees]

theorem TimerOk.congr {s s' : State} {pc : TimerPc} (hok : TimerOk s pc)
    (hport : ∀ u, (s'.userPvt u).pport = (s.userPvt u).pport) : TimerOk s' pc := by
  cases pc <;> simp_all [TimerOk]

theorem PortOk.congr {s s' : State} {p : PortId} {pc : PortPc} (hok : PortOk config s p pc)
    (hlist : (s'.port p).queueList = (s.port p).queueList)
    (hchange : (s.port p).queueStateChange = true → (s'.port p).queueStateChange = true)
    (hdp : ∀ i u, u ∈ (s.port p).queueList i →
      findDpCommon config (s'.userPvt u) = findDpCommon config (s.userPvt u)) :
    PortOk config s' p pc := by
  unfold PortOk at hok ⊢
  split at hok
  · rw [hlist]
    exact hok
  · obtain ⟨hi, hmem, hfind⟩ := hok
    rw [hlist, hdp _ _ hmem]
    exact ⟨hi, hmem, hfind⟩
  · obtain ⟨hi, hset | ⟨hmem, hfind⟩⟩ := hok
    · exact ⟨hi, Or.inl (hchange hset)⟩
    · rw [hlist, hdp _ _ hmem]
      exact ⟨hi, Or.inr ⟨hmem, hfind⟩⟩
  · trivial

/-- A thread that does not hold the lock only has to know that the queues have changed. -/
theorem PortOk.of_stateChange {s s' : State} {p : PortId} {pc : PortPc}
    (hok : PortOk config s p pc) (hunlocked : pc.locked = false)
    (hset : (s'.port p).queueStateChange = true) : PortOk config s' p pc := by
  unfold PortOk at hok ⊢
  split at hok
  · simp [PortPc.locked] at hunlocked
  · simp [PortPc.locked] at hunlocked
  · exact ⟨hok.1, Or.inl hset⟩
  · trivial

theorem NodeInv.congr {s s' : State} (hnode : NodeInv s) (hsame : SameNodes s s') : NodeInv s' where
  nodup p := by
    rw [hsame.queueList]
    exact hnode.nodup p
  mem_iff p u := by
    rw [hsame.queueList, hsame.isQueued, hsame.pport]
    exact hnode.mem_iff p u
  queued_port u := by
    rw [hsame.isQueued, hsame.pport]
    exact hnode.queued_port u
  retired_port u := by
    rw [hsame.phase, hsame.pport]
    exact hnode.retired_port u
  free_nodup := by
    rw [hsame.freeList]
    exact hnode.free_nodup
  free_phase := by
    rw [hsame.freeList, hsame.phase]
    exact hnode.free_phase
  deferred_phase u hset := by
    rw [hsame.phase]
    rcases hsame.freeAfterCallback u hset with hset | hphase
    · exact hnode.deferred_phase u hset
    · exact hphase
  fresh_phase := by
    rw [hsame.allocated, hsame.phase]
    exact hnode.fresh_phase

/-- A change that leaves the nodes alone keeps the invariant. -/
theorem QueueInv.congr {s s' : State} (hinv : QueueInv config s) (hsame : SameNodes s s')
    (hclient : s'.client = s.client) (hport : s'.portThread = s.portThread)
    (htimer : s'.timerThread = s.timerThread) : QueueInv config s' where
  node := hinv.node.congr hsame
  client t := by
    rw [hclient]
    exact (hinv.client t).congr (fun u _ => hsame.pport u) (fun u _ => by rw [hsame.phase])
      (fun u _ => by rw [hsame.phase])
  frees_unique := by
    rw [hclient]
    exact hinv.frees_unique
  timer := by
    rw [htimer]
    exact hinv.timer.congr hsame.pport
  port p := by
    rw [hport]
    exact (hinv.port p).congr (hsame.queueList p) (hsame.stateChange p)
      (fun _ u _ => findDpCommon_congr (hsame.pport u) (hsame.pdevice u))
  noLogicError := by
    rw [hsame.logicError]
    exact hinv.noLogicError

theorem QueueInv.modUser {s : State} (hinv : QueueInv config s) (u : UserId)
    (f : UserPvt → UserPvt) (hqueued : (f (s.userPvt u)).isQueued = (s.userPvt u).isQueued)
    (hport : (f (s.userPvt u)).pport = (s.userPvt u).pport)
    (hdevice : (f (s.userPvt u)).pdevice = (s.userPvt u).pdevice)
    (hfree : (f (s.userPvt u)).freeAfterCallback = true →
      (s.userPvt u).freeAfterCallback = true ∨ s.phase u = .deferred) :
    QueueInv config (s.modUser u f) :=
  hinv.congr (SameNodes.modUser s u f hqueued hport hdevice hfree) rfl rfl rfl

theorem QueueInv.modDp {s : State} (hinv : QueueInv config s) (dp : DpRef)
    (f : DpCommon → DpCommon) : QueueInv config (s.modDp dp f) :=
  hinv.congr (SameNodes.modDp s dp f) rfl rfl rfl

theorem QueueInv.modPort {s : State} (hinv : QueueInv config s) (p : PortId) (f : Port → Port)
    (hlist : ∀ q, (f q).queueList = q.queueList)
    (hchange : ∀ q, q.queueStateChange = true → (f q).queueStateChange = true) :
    QueueInv config (s.modPort p f) :=
  hinv.congr (SameNodes.modPort s p f hlist hchange) rfl rfl rfl

/-- A client moves on; what it frees there, if anything, no other client frees. -/
theorem QueueInv.setClient {s : State} (hinv : QueueInv config s) (t : ThreadId) (pc : ClientPc)
    (hok : ClientOk s pc)
    (hfrees : ∀ u, pc.frees = some u → ∀ t', t' ≠ t → (s.client t').frees ≠ some u) :
    QueueInv config (s.setClient t pc) where
  node := hinv.node.congr (SameNodes.of_fields rfl rfl rfl rfl rfl rfl)
  client t' := by
    have hkeep : ∀ {pc'}, ClientOk s pc' → ClientOk (s.setClient t pc) pc' := fun h =>
      h.congr (fun _ _ => rfl) (fun _ _ => rfl) (fun _ _ => rfl)
    by_cases ht : t' = t
    · subst ht
      simpa using hkeep hok
    · simpa [ht] using hkeep (hinv.client t')
  frees_unique t₁ t₂ u h₁ h₂ := by
    by_cases ht₁ : t₁ = t
    · by_cases ht₂ : t₂ = t
      · rw [ht₁, ht₂]
      · rw [ht₁] at h₁
        exact absurd (by simpa [ht₂] using h₂) (hfrees u (by simpa using h₁) t₂ ht₂)
    · by_cases ht₂ : t₂ = t
      · rw [ht₂] at h₂
        exact absurd (by simpa [ht₁] using h₁) (hfrees u (by simpa using h₂) t₁ ht₁)
      · exact hinv.frees_unique t₁ t₂ u (by simpa [ht₁] using h₁) (by simpa [ht₂] using h₂)
  timer := hinv.timer
  port := hinv.port
  noLogicError := hinv.noLogicError

/-- A client moves on to a place where it has nothing to free. -/
theorem QueueInv.goto {s : State} (hinv : QueueInv config s) (t : ThreadId) {pc : ClientPc}
    (hok : ClientOk s pc) (hfrees : pc.frees = none) : QueueInv config (s.setClient t pc) :=
  hinv.setClient t pc hok fun u hu => by simp [hfrees] at hu

theorem QueueInv.ret {s : State} (hinv : QueueInv config s) (t : ThreadId) (c : Call)
    (st : AsynStatus) : QueueInv config (s.ret t c st) :=
  hinv.goto t trivial rfl

theorem QueueInv.setTimerThread {s : State} (hinv : QueueInv config s) {pc : TimerPc}
    (hok : TimerOk s pc) : QueueInv config (s.setTimerThread pc) where
  node := hinv.node.congr (SameNodes.of_fields rfl rfl rfl rfl rfl rfl)
  client := hinv.client
  frees_unique := hinv.frees_unique
  timer := hok
  port := hinv.port
  noLogicError := hinv.noLogicError

theorem QueueInv.setPortThread {s : State} (hinv : QueueInv config s) (p : PortId) {pc : PortPc}
    (hok : PortOk config s p pc) : QueueInv config (s.setPortThread p pc) where
  node := hinv.node.congr (SameNodes.of_fields rfl rfl rfl rfl rfl rfl)
  client := hinv.client
  frees_unique := hinv.frees_unique
  timer := hinv.timer
  port p' := by
    have hkeep : ∀ {pc'}, PortOk config s p' pc' → PortOk config (s.setPortThread p pc) p' pc' :=
      fun h => h.congr rfl id (fun _ _ _ => rfl)
    by_cases hp : p' = p
    · subst hp
      simpa using hkeep hok
    · simpa [hp] using hkeep (hinv.port p')
  noLogicError := hinv.noLogicError

/-! ## Putting a node on a queue and taking it off -/

section Effects

variable {s : State} {p : PortId} {i : AsynQueuePriority} {u : UserId}

theorem enqueue_queueList (front : Bool) (timeout : Int) :
    ((s.enqueue p i u front timeout).port p).queueList =
      Function.update (s.port p).queueList i
        (if front then u :: (s.port p).queueList i else (s.port p).queueList i ++ [u]) := by
  simp [State.enqueue, State.setQueue, State.stateChanged]

theorem enqueue_stateChange (front : Bool) (timeout : Int) :
    ((s.enqueue p i u front timeout).port p).queueStateChange = true := by
  simp [State.enqueue, State.setQueue, State.stateChanged]

theorem enqueue_port_of_ne (front : Bool) (timeout : Int) {p' : PortId} (hne : p' ≠ p) :
    (s.enqueue p i u front timeout).port p' = s.port p' := by
  simp [State.enqueue, State.setQueue, State.stateChanged, hne]

theorem enqueue_userPvt_of_ne (front : Bool) (timeout : Int) {v : UserId} (hne : v ≠ u) :
    (s.enqueue p i u front timeout).userPvt v = s.userPvt v := by
  simp [State.enqueue, State.setQueue, State.stateChanged, hne]

theorem enqueue_isQueued (front : Bool) (timeout : Int) :
    ((s.enqueue p i u front timeout).userPvt u).isQueued = true := by
  simp [State.enqueue]

theorem enqueue_pport (front : Bool) (timeout : Int) (v : UserId) :
    ((s.enqueue p i u front timeout).userPvt v).pport = (s.userPvt v).pport := by
  by_cases hv : v = u
  · subst hv
    simp [State.enqueue, State.setQueue, State.stateChanged]
  · rw [enqueue_userPvt_of_ne front timeout hv]

theorem enqueue_pdevice (front : Bool) (timeout : Int) (v : UserId) :
    ((s.enqueue p i u front timeout).userPvt v).pdevice = (s.userPvt v).pdevice := by
  by_cases hv : v = u
  · subst hv
    simp [State.enqueue, State.setQueue, State.stateChanged]
  · rw [enqueue_userPvt_of_ne front timeout hv]

theorem enqueue_freeAfterCallback (front : Bool) (timeout : Int) (v : UserId) :
    ((s.enqueue p i u front timeout).userPvt v).freeAfterCallback =
      (s.userPvt v).freeAfterCallback := by
  by_cases hv : v = u
  · subst hv
    simp [State.enqueue, State.setQueue, State.stateChanged]
  · rw [enqueue_userPvt_of_ne front timeout hv]

/-- Adding a node permutes "the node, then everything else" into the new queues. -/
theorem enqueue_perm (front : Bool) (timeout : Int) :
    (allQueued ((s.enqueue p i u front timeout).port p).queueList).Perm
      (u :: allQueued (s.port p).queueList) := by
  rw [enqueue_queueList]
  have hlist : (Function.update (s.port p).queueList i
      (if front then u :: (s.port p).queueList i else (s.port p).queueList i ++ [u]) i).Perm
      (u :: (s.port p).queueList i) := by
    cases front
    · simp [List.perm_append_singleton]
    · simp
  simpa using allQueued_perm_cons hlist

theorem NodeInv.enqueue (hnode : NodeInv s) (front : Bool) (timeout : Int)
    (hport : (s.userPvt u).pport = some p) (hqueued : (s.userPvt u).isQueued = false) :
    NodeInv (s.enqueue p i u front timeout) where
  nodup p' := by
    by_cases hp : p' = p
    · subst hp
      have hnot : u ∉ allQueued (s.port p').queueList := by
        rw [hnode.mem_iff, hqueued]
        simp
      exact (enqueue_perm front timeout).nodup_iff.mpr (List.nodup_cons.mpr ⟨hnot, hnode.nodup p'⟩)
    · rw [enqueue_port_of_ne front timeout hp]
      exact hnode.nodup p'
  mem_iff p' v := by
    rw [enqueue_pport]
    by_cases hv : v = u
    · subst hv
      rw [enqueue_isQueued, hport]
      by_cases hp : p' = p
      · subst hp
        simp [(enqueue_perm front timeout).mem_iff]
      · rw [enqueue_port_of_ne front timeout hp, hnode.mem_iff, hport]
        simp [hqueued, Ne.symm hp]
    · rw [enqueue_userPvt_of_ne front timeout hv, ← hnode.mem_iff]
      by_cases hp : p' = p
      · subst hp
        simp [(enqueue_perm front timeout).mem_iff, hv]
      · rw [enqueue_port_of_ne front timeout hp]
  queued_port v hv := by
    rw [enqueue_pport]
    by_cases hvu : v = u
    · exact ⟨p, by rw [hvu, hport]⟩
    · rw [enqueue_userPvt_of_ne front timeout hvu] at hv
      exact hnode.queued_port v hv
  retired_port v hv := by
    rw [enqueue_pport]
    exact hnode.retired_port v hv
  free_nodup := hnode.free_nodup
  free_phase := hnode.free_phase
  deferred_phase v := by
    rw [enqueue_freeAfterCallback]
    exact hnode.deferred_phase v
  fresh_phase := hnode.fresh_phase

theorem dequeue_queueList :
    ((s.dequeue p i u).port p).queueList =
      Function.update (s.port p).queueList i (((s.port p).queueList i).erase u) := by
  simp [State.dequeue, State.setQueue]

theorem dequeue_port_of_ne {p' : PortId} (hne : p' ≠ p) : (s.dequeue p i u).port p' = s.port p' := by
  simp [State.dequeue, State.setQueue, hne]

theorem dequeue_userPvt_of_ne {v : UserId} (hne : v ≠ u) :
    (s.dequeue p i u).userPvt v = s.userPvt v := by
  simp [State.dequeue, State.setQueue, hne]

theorem dequeue_userPvt_self :
    (s.dequeue p i u).userPvt u = { s.userPvt u with isQueued := false } := by
  simp [State.dequeue, State.setQueue]

theorem dequeue_pport (v : UserId) :
    ((s.dequeue p i u).userPvt v).pport = (s.userPvt v).pport := by
  by_cases hv : v = u
  · subst hv
    rw [dequeue_userPvt_self]
  · rw [dequeue_userPvt_of_ne hv]

theorem dequeue_pdevice (v : UserId) :
    ((s.dequeue p i u).userPvt v).pdevice = (s.userPvt v).pdevice := by
  by_cases hv : v = u
  · subst hv
    rw [dequeue_userPvt_self]
  · rw [dequeue_userPvt_of_ne hv]

theorem dequeue_freeAfterCallback (v : UserId) :
    ((s.dequeue p i u).userPvt v).freeAfterCallback = (s.userPvt v).freeAfterCallback := by
  by_cases hv : v = u
  · subst hv
    rw [dequeue_userPvt_self]
  · rw [dequeue_userPvt_of_ne hv]

theorem dequeue_perm (hmem : u ∈ (s.port p).queueList i) :
    (allQueued (s.port p).queueList).Perm
      (u :: allQueued ((s.dequeue p i u).port p).queueList) := by
  rw [dequeue_queueList]
  exact allQueued_perm_cons (List.perm_cons_erase hmem)

theorem NodeInv.dequeue (hnode : NodeInv s) (hmem : u ∈ (s.port p).queueList i) :
    NodeInv (s.dequeue p i u) := by
  obtain ⟨hqueued, hport⟩ := hnode.queued_of_mem hmem
  have hnodup := (dequeue_perm hmem).nodup_iff.mp (hnode.nodup p)
  exact {
    nodup := by
      intro p'
      by_cases hp : p' = p
      · subst hp
        exact (List.nodup_cons.mp hnodup).2
      · rw [dequeue_port_of_ne hp]
        exact hnode.nodup p'
    mem_iff := by
      intro p' v
      rw [dequeue_pport]
      by_cases hv : v = u
      · subst hv
        rw [dequeue_userPvt_self, hport]
        by_cases hp : p' = p
        · subst hp
          simp [(List.nodup_cons.mp hnodup).1]
        · rw [dequeue_port_of_ne hp, hnode.mem_iff, hport]
          simp [Ne.symm hp]
      · rw [dequeue_userPvt_of_ne hv, ← hnode.mem_iff]
        by_cases hp : p' = p
        · subst hp
          simp [(dequeue_perm hmem).mem_iff, hv]
        · rw [dequeue_port_of_ne hp]
    queued_port := by
      intro v hv
      rw [dequeue_pport]
      by_cases hvu : v = u
      · exact ⟨p, by rw [hvu, hport]⟩
      · rw [dequeue_userPvt_of_ne hvu] at hv
        exact hnode.queued_port v hv
    retired_port := by
      intro v hv
      rw [dequeue_pport]
      exact hnode.retired_port v hv
    free_nodup := hnode.free_nodup
    free_phase := hnode.free_phase
    deferred_phase := by
      intro v
      rw [dequeue_freeAfterCallback]
      exact hnode.deferred_phase v
    fresh_phase := hnode.fresh_phase }

theorem startService_pport (v : UserId) :
    ((s.startService p i u).userPvt v).pport = (s.userPvt v).pport := by
  by_cases hv : v = u
  · subst hv
    simp [State.startService, dequeue_pport]
  · simp [State.startService, hv, dequeue_pport]

theorem startService_pdevice (v : UserId) :
    ((s.startService p i u).userPvt v).pdevice = (s.userPvt v).pdevice := by
  by_cases hv : v = u
  · subst hv
    simp [State.startService, dequeue_pdevice]
  · simp [State.startService, hv, dequeue_pdevice]

theorem locked_of_lockFree (hlock : s.lockFree p = true) : (s.portThread p).locked = false := by
  simpa [State.lockFree] using hlock

theorem QueueInv.enqueue (hinv : QueueInv config s) (front : Bool) (timeout : Int)
    (hport : (s.userPvt u).pport = some p) (hqueued : (s.userPvt u).isQueued = false)
    (hlock : s.lockFree p = true) : QueueInv config (s.enqueue p i u front timeout) where
  node := hinv.node.enqueue front timeout hport hqueued
  client t := (hinv.client t).congr (fun v _ => enqueue_pport front timeout v)
    (fun _ _ => rfl) (fun _ _ => rfl)
  frees_unique := hinv.frees_unique
  timer := hinv.timer.congr (enqueue_pport front timeout)
  port p' := by
    show PortOk config _ p' (s.portThread p')
    by_cases hp : p' = p
    · subst hp
      exact (hinv.port p').of_stateChange (locked_of_lockFree hlock)
        (enqueue_stateChange front timeout)
    · exact (hinv.port p').congr (by rw [enqueue_port_of_ne front timeout hp])
        (by rw [enqueue_port_of_ne front timeout hp]; exact id)
        (fun _ v _ => findDpCommon_congr (enqueue_pport front timeout v)
          (enqueue_pdevice front timeout v))
  noLogicError := hinv.noLogicError

/-- A node is taken off by a thread that holds the lock and makes sure that the port thread, if it
has dropped the lock, will look at the queues again. -/
theorem QueueInv.dequeue_stateChanged (hinv : QueueInv config s)
    (hmem : u ∈ (s.port p).queueList i) (hlock : s.lockFree p = true) :
    QueueInv config ((s.dequeue p i u).stateChanged p) where
  node := (hinv.node.dequeue hmem).congr (SameNodes.modPort _ _ _ (fun _ => rfl) (fun _ _ => rfl))
  client t := (hinv.client t).congr (fun v _ => dequeue_pport v) (fun _ _ => rfl) (fun _ _ => rfl)
  frees_unique := hinv.frees_unique
  timer := hinv.timer.congr dequeue_pport
  port p' := by
    show PortOk config _ p' (s.portThread p')
    by_cases hp : p' = p
    · subst hp
      exact (hinv.port p').of_stateChange (locked_of_lockFree hlock)
        (by simp [State.stateChanged])
    · have hsame : ((s.dequeue p i u).stateChanged p).port p' = s.port p' := by
        simp [State.stateChanged, hp, dequeue_port_of_ne hp]
      exact (hinv.port p').congr (by rw [hsame]) (by rw [hsame]; exact id)
        (fun _ v _ => findDpCommon_congr (dequeue_pport v) (dequeue_pdevice v))
  noLogicError := hinv.noLogicError

/-- The port thread takes a node off and moves on to its service. -/
theorem QueueInv.startService (hinv : QueueInv config s) (hmem : u ∈ (s.port p).queueList i)
    {pc : PortPc} (hpc : ∀ s', PortOk config s' p pc) :
    QueueInv config ((s.startService p i u).setPortThread p pc) where
  node := by
    have hservice : NodeInv (s.startService p i u) :=
      (hinv.node.dequeue hmem).congr
        (SameNodes.modUser _ u _ rfl rfl rfl Or.inl)
    exact hservice.congr (SameNodes.of_fields rfl rfl rfl rfl rfl rfl)
  client t := (hinv.client t).congr (fun v _ => startService_pport v) (fun _ _ => rfl)
    (fun _ _ => rfl)
  frees_unique := hinv.frees_unique
  timer := hinv.timer.congr startService_pport
  port p' := by
    by_cases hp : p' = p
    · subst hp
      simpa using hpc _
    · have hsame : ((s.startService p i u).setPortThread p pc).port p' = s.port p' := by
        simp [State.startService, dequeue_port_of_ne hp]
      have hthread : ((s.startService p i u).setPortThread p pc).portThread p' =
          s.portThread p' := by
        simp [State.setPortThread, hp]
        rfl
      rw [hthread]
      exact (hinv.port p').congr (by rw [hsame]) (by rw [hsame]; exact id)
        (fun _ v _ => findDpCommon_congr (startService_pport v) (startService_pdevice v))
  noLogicError := hinv.noLogicError

end Effects

end Queue
end Manager
end AsynDriver
