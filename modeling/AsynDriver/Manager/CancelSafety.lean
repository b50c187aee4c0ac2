import AsynDriver.Manager.CallbackChoice

/-!
# Cancelling a request

`userPvt.state` is one field for two sources of callbacks, the port thread and the timer thread,
and a port that cannot block runs `processUser` in the caller without touching it.  `cancelRequest`
trusts the field: it returns at once unless the state is Active, and then waits for the one event
`callbackDone`.

The field says less than that when a request is requeued while its callback is still executing: a
timeout then starts a second callback, and a cancellation takes the new request off the queue and
returns while the old callback executes.  A second canceller finds the state Canceled and returns at
once.

* `CancelSafe` — a successful cancellation leaves no request on a queue and no callback executing,
  and no two callbacks of one `asynUser` execute together.
* `CallbacksApart` — the guard: callbacks start, requests are accepted and cancellations are made
  only in states that the field describes fully.
* `CallbackInv` — what the field means then; `callbackInv_step` checks it against every step.
* `cancelSafe_of_callbacksApart`, and `not_cancelSafe_requeued` for a run that breaks it.
-/

namespace AsynDriver
namespace Manager
namespace Queue

open Library
open Library.LinkedList

variable {config : PortId → PortConfig} {s s' : State}

/-! ## What a cancel answers for -/

/-- The threads that execute callbacks. -/
inductive Executor
  | port (p : PortId)
  | timer
  | client (t : ThreadId)
  deriving DecidableEq, Repr

/-- The `asynUser` whose callback a thread executes. -/
def executing (s : State) : Executor → Option UserId
  | .port p => (s.portThread p).executes
  | .timer => s.timerThread.executes
  | .client t => (s.client t).executes

structure CancelSafe (s : State) : Prop where
  /-- when `cancelRequest` returns `asynSuccess` the request is on no queue and no callback of it
  is executing -/
  cancelled : ∀ t u wasQueued,
    s.client t = .ret (.cancelRequest u) (.cancelled .asynSuccess wasQueued) →
    (∀ p i, u ∉ (s.port p).queueList i) ∧ ∀ x, executing s x ≠ some u
  /-- no two callbacks of one `asynUser` execute at the same time -/
  apart : ∀ x y u, executing s x = some u → executing s y = some u → x = y

/-! ## The guard -/

/-- The `asynUser` whose callback the step starts. -/
def starts (config : PortId → PortConfig) (s : State) : Action → Option UserId
  | .client t => syncStarts config s (s.client t)
  | .timerThread =>
      match s.timerThread with
      | .fired u _ => if (s.userPvt u).isQueued ∧ (s.userPvt u).timeoutUser then some u else none
      | _ => none
  | .portThread p =>
      match s.portThread p with
      | .connectLoop => ((s.port p).queueList .connect).head?
      | .tested _ u dp _ => if unblocked s p dp u then some u else none
      | _ => none
  | _ => none

/-- The `asynUser` whose request the step puts on a queue. -/
def accepts (config : PortId → PortConfig) (s : State) : Action → Option UserId
  | .client t =>
      match s.client t with
      | .queueRequest u _ timeout p _ check =>
          if (config p).canBlock ∧ queueRequestRefused s p check = none ∧
              (s.userPvt u).isQueued = false ∧
              ¬(0 < timeout ∧ (s.userPvt u).timeoutUser = false) then some u
          else none
      | _ => none
  | _ => none

/-- `state` says that no callback of `u` is in progress, and it is right. -/
def NoCallback (s : State) (u : UserId) : Prop :=
  (s.userPvt u).state = .callbackIdle ∧ ∀ t, (s.client t).executes ≠ some u

/-- No cancellation of `u` is in progress. -/
def NoCancel (s : State) (u : UserId) : Prop :=
  ∀ t, (s.client t).cancels ≠ some u

/-- The state of `u` tells `cancelRequest` what is in progress: no request is queued beside an
unfinished callback, no other canceller is waiting, no callback executes unseen. -/
def Cancellable (s : State) (u : UserId) : Prop :=
  (∀ t, (s.client t).executes ≠ some u) ∧ (s.userPvt u).state ≠ .callbackCanceled ∧
    ((s.userPvt u).isQueued = true → (s.userPvt u).state = .callbackIdle)

/-- The guard. -/
structure CallbacksApart (config : PortId → PortConfig) (s : State) (a : Action) : Prop where
  undisturbed : Undisturbed s a
  starts : ∀ u, starts config s a = some u → NoCallback s u
  requests : ∀ u, accepts config s a = some u → NoCancel s u
  syncRequests : ∀ t u, a = .client t → syncStarts config s (s.client t) = some u → NoCancel s u
  cancel : ∀ t u p, a = .client t → s.client t = .cancelRequest u p → Cancellable s u

/-! ## The invariant -/

/-- The threads that set `state` to Active: a port thread, or the timer thread. -/
inductive Server
  | port (p : PortId)
  | timer
  deriving DecidableEq, Repr

/-- The `asynUser` whose request a thread has taken off a queue and not finished. -/
def served (s : State) : Server → Option UserId
  | .port p => (s.portThread p).serves
  | .timer => s.timerThread.serves

/-- What `state` and `callbackDone` of `u` and the places of the threads say about each other. -/
structure UserInv (s : State) (u : UserId) : Prop where
  server_unique : ∀ x y, served s x = some u → served s y = some u → x = y
  active_iff : (s.userPvt u).state ≠ .callbackIdle ↔ ∃ x, served s x = some u
  idle_of_free : s.phase u = .free ∨ s.phase u = .unallocated →
    (s.userPvt u).state = .callbackIdle
  wait_unique : ∀ t t', (s.client t).waits = some u → (s.client t').waits = some u → t = t'
  wait_state : ∀ t, (s.client t).waits = some u →
    ((s.userPvt u).state = .callbackCanceled ∧ (s.userPvt u).callbackDone = false) ∨
      ((s.userPvt u).state = .callbackIdle ∧ (s.userPvt u).callbackDone = true)
  waited : (s.userPvt u).state = .callbackCanceled ∨ (s.userPvt u).callbackDone = true →
    ∃ t, (s.client t).waits = some u
  cancels_not_queued : ∀ t, (s.client t).cancels = some u → (s.userPvt u).isQueued = false
  cancels_idle : ∀ t, (s.client t).cancels = some u → (s.client t).waits ≠ some u →
    (s.userPvt u).state = .callbackIdle
  cancels_sync : ∀ t t', (s.client t).cancels = some u → (s.client t').executes ≠ some u
  sync_idle : ∀ t, (s.client t).executes = some u → (s.userPvt u).state = .callbackIdle
  sync_unique : ∀ t t', (s.client t).executes = some u → (s.client t').executes = some u → t = t'

theorem ClientPc.cancels_of_waits {pc : ClientPc} {u : UserId} (hwaits : pc.waits = some u) :
    pc.cancels = some u := by
  cases pc <;> simp_all [ClientPc.waits, ClientPc.cancels]

theorem PortPc.serves_of_executes {pc : PortPc} {u : UserId} (hexecutes : pc.executes = some u) :
    pc.serves = some u := by
  cases pc <;> simp_all [PortPc.executes, PortPc.serves]

theorem TimerPc.serves_of_executes {pc : TimerPc} {u : UserId} (hexecutes : pc.executes = some u) :
    pc.serves = some u := by
  cases pc <;> simp_all [TimerPc.executes, TimerPc.serves]

section User

variable {u : UserId}

theorem UserInv.not_served (hinv : UserInv s u)
    (hidle : (s.userPvt u).state = .callbackIdle) (x : Server) : served s x ≠ some u :=
  fun hserved => hinv.active_iff.mpr ⟨x, hserved⟩ hidle

/-- A queued request is not being cancelled. -/
theorem UserInv.noCancel_of_queued (hinv : UserInv s u)
    (hqueued : (s.userPvt u).isQueued = true) : NoCancel s u := by
  intro t hcancels
  simp [hinv.cancels_not_queued t hcancels] at hqueued

theorem NoCancel.not_waits (hno : NoCancel s u) (t : ThreadId) : (s.client t).waits ≠ some u :=
  fun hwaits => hno t (ClientPc.cancels_of_waits hwaits)

/-! ## Quiet changes -/

/-- Nothing is added to what concerns `u`. -/
structure UserQuiet (s s' : State) (u : UserId) : Prop where
  state : (s'.userPvt u).state = (s.userPvt u).state
  callbackDone : (s'.userPvt u).callbackDone = (s.userPvt u).callbackDone
  queued : (s'.userPvt u).isQueued = true → (s.userPvt u).isQueued = true ∨ NoCancel s u
  free : s'.phase u = .free ∨ s'.phase u = .unallocated → (s.userPvt u).state = .callbackIdle
  served : ∀ x, served s' x = some u ↔ served s x = some u
  waits : ∀ t, (s'.client t).waits = some u ↔ (s.client t).waits = some u
  cancels : ∀ t, (s'.client t).cancels = some u → (s.client t).cancels = some u
  executes : ∀ t, (s'.client t).executes = some u → (s.client t).executes = some u

theorem UserInv.quiet (hinv : UserInv s u) (hquiet : UserQuiet s s' u) : UserInv s' u := by
  constructor
  case cancels_not_queued =>
    intro t h
    have hold := hquiet.cancels t h
    by_contra hset
    rcases hquiet.queued (by simpa using hset) with hqueued | hno
    · simp [hinv.cancels_not_queued t hold] at hqueued
    · exact hno t hold
  case idle_of_free =>
    intro hfree
    rw [hquiet.state]
    exact hquiet.free hfree
  case cancels_sync =>
    exact fun t t' h h' => hinv.cancels_sync t t' (hquiet.cancels t h) (hquiet.executes t' h')
  case sync_unique =>
    exact fun t t' h h' => hinv.sync_unique t t' (hquiet.executes t h) (hquiet.executes t' h')
  all_goals simp only [hquiet.state, hquiet.callbackDone, hquiet.served, hquiet.waits, ne_eq]
  · exact hinv.server_unique
  · exact hinv.active_iff
  · exact hinv.wait_unique
  · exact hinv.wait_state
  · exact hinv.waited
  · exact fun t h => hinv.cancels_idle t (hquiet.cancels t h)
  · exact fun t h => hinv.sync_idle t (hquiet.executes t h)

/-- Client `t` has moved to `pc`, and no other thread has moved. -/
structure ClientMoved (s s' : State) (t : ThreadId) (pc : ClientPc) : Prop where
  client : ∀ t', s'.client t' = if t' = t then pc else s.client t'
  served : ∀ x, served s' x = served s x

theorem ClientMoved.of_setClient {s₁ : State} {t : ThreadId} {pc : ClientPc}
    (hport : s₁.portThread = s.portThread) (htimer : s₁.timerThread = s.timerThread)
    (hclient : s₁.client = s.client) : ClientMoved s (s₁.setClient t pc) t pc where
  client t' := by
    by_cases ht : t' = t
    · simp [ht]
    · simp [ht, hclient]
  served x := by
    cases x with
    | port p => simp [Queue.served, hport]
    | timer => simp [Queue.served, htimer]

theorem ClientMoved.of_ne {t t' : ThreadId} {pc : ClientPc} (hmoved : ClientMoved s s' t pc)
    (ht : t' ≠ t) : s'.client t' = s.client t' := by
  rw [hmoved.client, if_neg ht]

theorem ClientMoved.self {t : ThreadId} {pc : ClientPc} (hmoved : ClientMoved s s' t pc) :
    s'.client t = pc := by
  rw [hmoved.client, if_pos rfl]

/-- A client's move that adds nothing for `u`. -/
theorem ClientMoved.quiet {t : ThreadId} {pc : ClientPc} (hmoved : ClientMoved s s' t pc)
    (hstate : (s'.userPvt u).state = (s.userPvt u).state)
    (hdone : (s'.userPvt u).callbackDone = (s.userPvt u).callbackDone)
    (hqueued : (s'.userPvt u).isQueued = true → (s.userPvt u).isQueued = true ∨ NoCancel s u)
    (hfree : s'.phase u = .free ∨ s'.phase u = .unallocated →
      (s.userPvt u).state = .callbackIdle)
    (hwaits : pc.waits = some u ↔ (s.client t).waits = some u)
    (hcancels : pc.cancels = some u → (s.client t).cancels = some u)
    (hexecutes : pc.executes = some u → (s.client t).executes = some u) : UserQuiet s s' u where
  state := hstate
  callbackDone := hdone
  queued := hqueued
  free := hfree
  served x := by rw [hmoved.served]
  waits t' := by
    by_cases ht : t' = t
    · rw [ht, hmoved.self, hwaits]
    · rw [hmoved.of_ne ht]
  cancels t' := by
    by_cases ht : t' = t
    · rw [ht, hmoved.self]
      exact hcancels
    · rw [hmoved.of_ne ht]
      exact id
  executes t' := by
    by_cases ht : t' = t
    · rw [ht, hmoved.self]
      exact hexecutes
    · rw [hmoved.of_ne ht]
      exact id

/-! ## A client takes on a callback or a cancellation of `u` -/

variable {t : ThreadId} {pc : ClientPc}

/-- It starts `processUser` on a port that cannot block. -/
theorem UserInv.syncStart (hinv : UserInv s u) (hmoved : ClientMoved s s' t pc)
    (hwaits : pc.waits = none) (hcancels : pc.cancels = none)
    (huser : s'.userPvt u = s.userPvt u) (hphase : s'.phase u = s.phase u)
    (hcallback : NoCallback s u) (hno : NoCancel s u) : UserInv s' u := by
  have hnowait : ∀ t', (s'.client t').waits ≠ some u := by
    intro t'
    by_cases ht : t' = t
    · simp [ht, hmoved.self, hwaits]
    · rw [hmoved.of_ne ht]
      exact hno.not_waits t'
  have hnocancel : ∀ t', (s'.client t').cancels ≠ some u := by
    intro t'
    by_cases ht : t' = t
    · simp [ht, hmoved.self, hcancels]
    · rw [hmoved.of_ne ht]
      exact hno t'
  have hself : ∀ t', (s'.client t').executes = some u → t' = t := by
    intro t' h
    by_contra ht
    rw [hmoved.of_ne ht] at h
    exact hcallback.2 t' h
  constructor
  case sync_idle =>
    intro _ _
    rw [huser]
    exact hcallback.1
  case sync_unique => exact fun t' t'' h h' => (hself t' h).trans (hself t'' h').symm
  case waited =>
    intro h
    rw [huser] at h
    obtain ⟨t', ht'⟩ := hinv.waited h
    exact absurd ht' (hno.not_waits t')
  case wait_unique => exact fun t' _ h => absurd h (hnowait t')
  case wait_state => exact fun t' h => absurd h (hnowait t')
  case cancels_not_queued => exact fun t' h => absurd h (hnocancel t')
  case cancels_idle => exact fun t' h => absurd h (hnocancel t')
  case cancels_sync => exact fun t' _ h => absurd h (hnocancel t')
  all_goals simp only [hmoved.served, huser, hphase]
  · exact hinv.server_unique
  · exact hinv.active_iff
  · exact hinv.idle_of_free

/-- It has found out that nothing of `u` is queued or in progress, and reports it. -/
theorem UserInv.cancelled (hinv : UserInv s u) (hmoved : ClientMoved s s' t pc)
    (hwaits : pc.waits = none) (hexecutes : pc.executes = none)
    (hstate : (s'.userPvt u).state = .callbackIdle) (hsame : (s.userPvt u).state = .callbackIdle)
    (hdone : (s'.userPvt u).callbackDone = true →
      ∃ t', t' ≠ t ∧ (s.client t').waits = some u)
    (hwaited : ∀ t', t' ≠ t → (s.client t').waits = some u →
      (s'.userPvt u).callbackDone = (s.userPvt u).callbackDone)
    (hqueued : (s'.userPvt u).isQueued = false)
    (hsync : ∀ t', (s.client t').executes ≠ some u) : UserInv s' u := by
  have hwaits' : ∀ t', (s'.client t').waits = some u → t' ≠ t ∧ (s.client t').waits = some u := by
    intro t' h
    by_cases ht : t' = t
    · simp [ht, hmoved.self, hwaits] at h
    · rw [hmoved.of_ne ht] at h
      exact ⟨ht, h⟩
  have hnosync : ∀ t', (s'.client t').executes ≠ some u := by
    intro t'
    by_cases ht : t' = t
    · simp [ht, hmoved.self, hexecutes]
    · rw [hmoved.of_ne ht]
      exact hsync t'
  constructor
  case server_unique =>
    simp only [hmoved.served]
    exact hinv.server_unique
  case active_iff =>
    simp only [hmoved.served, hstate, ← hinv.active_iff, hsame]
  case idle_of_free => exact fun _ => hstate
  case wait_unique =>
    exact fun t' t'' h h' => hinv.wait_unique t' t'' (hwaits' t' h).2 (hwaits' t'' h').2
  case wait_state =>
    intro t' h
    obtain ⟨ht, hold⟩ := hwaits' t' h
    have hstill := hinv.wait_state t' hold
    rw [hsame] at hstill
    rw [hstate, hwaited t' ht hold]
    exact hstill
  case waited =>
    intro h
    simp only [hstate, reduceCtorEq, false_or] at h
    obtain ⟨t', ht, hold⟩ := hdone h
    exact ⟨t', by rw [hmoved.of_ne ht]; exact hold⟩
  case cancels_not_queued => exact fun _ _ => hqueued
  case cancels_idle => exact fun _ _ _ => hstate
  case cancels_sync => exact fun _ t'' _ => hnosync t''
  case sync_idle => exact fun _ _ => hstate
  case sync_unique => exact fun t' _ h => absurd h (hnosync t')

/-- It has found the callback of `u` in progress and waits for its end. -/
theorem UserInv.cancelActive (hinv : UserInv s u) (hmoved : ClientMoved s s' t pc)
    (hwaits : pc.waits = some u) (hexecutes : pc.executes = none)
    (huser : s'.userPvt u = { s.userPvt u with state := .callbackCanceled })
    (hphase : s'.phase u = s.phase u) (hqueued : (s.userPvt u).isQueued = false)
    (hactive : (s.userPvt u).state = .callbackActive)
    (hsync : ∀ t', (s.client t').executes ≠ some u) : UserInv s' u := by
  -- nobody else is waiting, or the state would not be Active
  have halone : ∀ t', (s.client t').waits ≠ some u := by
    intro t' h
    rcases hinv.wait_state t' h with ⟨h, -⟩ | ⟨h, -⟩ <;> simp [hactive] at h
  have hdone : (s.userPvt u).callbackDone = false := by
    by_contra h
    obtain ⟨t', ht'⟩ := hinv.waited (Or.inr (by simpa using h))
    exact halone t' ht'
  have hself : ∀ t', (s'.client t').waits = some u → t' = t := by
    intro t' h
    by_contra ht
    rw [hmoved.of_ne ht] at h
    exact halone t' h
  have hnosync : ∀ t', (s'.client t').executes ≠ some u := by
    intro t'
    by_cases ht : t' = t
    · simp [ht, hmoved.self, hexecutes]
    · rw [hmoved.of_ne ht]
      exact hsync t'
  constructor
  case server_unique =>
    simp only [hmoved.served]
    exact hinv.server_unique
  case active_iff =>
    simpa [hmoved.served, huser, hactive] using hinv.active_iff
  case idle_of_free =>
    intro hfree
    rw [hphase] at hfree
    simp [hinv.idle_of_free hfree] at hactive
  case wait_unique => exact fun t' t'' h h' => (hself t' h).trans (hself t'' h').symm
  case wait_state =>
    intro _ _
    rw [huser]
    exact Or.inl ⟨rfl, hdone⟩
  case waited => exact fun _ => ⟨t, by rw [hmoved.self, hwaits]⟩
  case cancels_not_queued =>
    intro _ _
    rw [huser]
    exact hqueued
  case cancels_idle =>
    intro t' h hnot
    have ht : t' ≠ t := by
      rintro rfl
      exact hnot (by rw [hmoved.self, hwaits])
    rw [hmoved.of_ne ht] at h hnot
    simp [hinv.cancels_idle t' h hnot] at hactive
  case cancels_sync => exact fun _ t'' _ => hnosync t''
  case sync_idle => exact fun t' h => absurd h (hnosync t')
  case sync_unique => exact fun t' _ h => absurd h (hnosync t')

/-! ## A port thread or the timer thread serves `u` -/

/-- Server `x` has moved, and no other thread. -/
structure ServerMoved (s s' : State) (x : Server) : Prop where
  client : s'.client = s.client
  served : ∀ y, y ≠ x → served s' y = served s y

variable {x : Server}

/-- A server's move that adds nothing for `u`. -/
theorem ServerMoved.quiet (hmoved : ServerMoved s s' x)
    (hstate : (s'.userPvt u).state = (s.userPvt u).state)
    (hdone : (s'.userPvt u).callbackDone = (s.userPvt u).callbackDone)
    (hqueued : (s'.userPvt u).isQueued = true → (s.userPvt u).isQueued = true)
    (hfree : s'.phase u = .free ∨ s'.phase u = .unallocated →
      (s.userPvt u).state = .callbackIdle)
    (hserved : Queue.served s' x = some u ↔ Queue.served s x = some u) : UserQuiet s s' u where
  state := hstate
  callbackDone := hdone
  queued h := Or.inl (hqueued h)
  free := hfree
  served y := by
    by_cases hy : y = x
    · rw [hy, hserved]
    · rw [hmoved.served y hy]
  waits t := by rw [hmoved.client]
  cancels t := by
    rw [hmoved.client]
    exact id
  executes t := by
    rw [hmoved.client]
    exact id

/-- The request is taken off its queue and its callback is about to start. -/
theorem UserInv.serve (hinv : UserInv s u) (hmoved : ServerMoved s s' x)
    (hserved : Queue.served s' x = some u)
    (hactive : (s'.userPvt u).state = .callbackActive)
    (hdone : (s'.userPvt u).callbackDone = (s.userPvt u).callbackDone)
    (hphase : s'.phase u = s.phase u) (halive : (s.phase u).alive = true)
    (hqueued : (s.userPvt u).isQueued = true) (hcallback : NoCallback s u) : UserInv s' u := by
  have hno := hinv.noCancel_of_queued hqueued
  have honly : ∀ y, Queue.served s' y = some u → y = x := by
    intro y h
    by_contra hy
    rw [hmoved.served y hy] at h
    exact hinv.not_served hcallback.1 y h
  constructor
  case server_unique => exact fun y z hy hz => (honly y hy).trans (honly z hz).symm
  case active_iff => exact ⟨fun _ => ⟨x, hserved⟩, fun _ => by simp [hactive]⟩
  case idle_of_free =>
    intro hfree
    rw [hphase] at hfree
    rcases hfree with h | h <;> simp [h, Phase.alive] at halive
  case waited =>
    intro h
    simp only [hactive, hdone, reduceCtorEq, false_or] at h
    obtain ⟨t, ht⟩ := hinv.waited (Or.inr h)
    exact absurd ht (hno.not_waits t)
  all_goals simp only [hmoved.client]
  · exact hinv.wait_unique
  · exact fun t h => absurd h (hno.not_waits t)
  · exact fun t h => absurd h (hno t)
  · exact fun t h => absurd h (hno t)
  · exact fun t _ h => absurd h (hno t)
  · exact fun t h => absurd h (hcallback.2 t)
  · exact hinv.sync_unique

/-- The callback has ended and the canceller, if there is one, is woken. -/
theorem UserInv.finish (hinv : UserInv s u) (hmoved : ServerMoved s s' x)
    (hold : Queue.served s x = some u) (hnew : Queue.served s' x ≠ some u)
    (hidle : (s'.userPvt u).state = .callbackIdle)
    (hdone : (s'.userPvt u).callbackDone =
      if (s.userPvt u).state = .callbackCanceled then true else (s.userPvt u).callbackDone)
    (hqueued : (s'.userPvt u).isQueued = (s.userPvt u).isQueued) : UserInv s' u := by
  have hactive := hinv.active_iff.mpr ⟨x, hold⟩
  have hnone : ∀ y, Queue.served s' y ≠ some u := by
    intro y h
    by_cases hy : y = x
    · exact hnew (hy ▸ h)
    · rw [hmoved.served y hy] at h
      exact hy (hinv.server_unique y x h hold)
  constructor
  case server_unique => exact fun y _ h => absurd h (hnone y)
  case active_iff => exact ⟨fun h => absurd hidle h, fun ⟨y, hy⟩ => absurd hy (hnone y)⟩
  case idle_of_free => exact fun _ => hidle
  case wait_state =>
    intro t h
    rw [hmoved.client] at h
    rcases hinv.wait_state t h with ⟨hcanceled, -⟩ | ⟨h, -⟩
    · exact Or.inr ⟨hidle, by rw [hdone, if_pos hcanceled]⟩
    · exact absurd h hactive
  case waited =>
    intro h
    simp only [hidle, hdone, reduceCtorEq, false_or] at h
    rw [hmoved.client]
    by_cases hcanceled : (s.userPvt u).state = .callbackCanceled
    · exact hinv.waited (Or.inl hcanceled)
    · rw [if_neg hcanceled] at h
      exact hinv.waited (Or.inr h)
  all_goals simp only [hmoved.client, hidle, hqueued]
  · exact hinv.wait_unique
  · exact hinv.cancels_not_queued
  · exact fun _ _ _ => trivial
  · exact hinv.cancels_sync
  · exact fun _ _ => trivial
  · exact hinv.sync_unique

end User

/-! ## Every step keeps the invariant -/

/-- The fields of a `userPvt` that the invariant reads are the same. -/
structure SameCallbacks (v w : UserPvt) : Prop where
  state : w.state = v.state
  callbackDone : w.callbackDone = v.callbackDone
  queued : w.isQueued = true → v.isQueued = true

theorem SameCallbacks.refl (v : UserPvt) : SameCallbacks v v :=
  ⟨rfl, rfl, id⟩

theorem SameCallbacks.of_eq {v w : UserPvt} (heq : w = v) : SameCallbacks v w := by
  subst heq
  exact .refl w

theorem SameCallbacks.modUser (s : State) (u : UserId) (f : UserPvt → UserPvt)
    (hsame : SameCallbacks (s.userPvt u) (f (s.userPvt u))) (v : UserId) :
    SameCallbacks (s.userPvt v) ((s.modUser u f).userPvt v) := by
  by_cases hv : v = u
  · subst hv
    simpa using hsame
  · exact .of_eq (by simp [hv])

theorem SameCallbacks.dequeue (s : State) (p : PortId) (i : AsynQueuePriority) (u v : UserId) :
    SameCallbacks (s.userPvt v) ((s.dequeue p i u).userPvt v) := by
  by_cases hv : v = u
  · subst hv
    rw [dequeue_userPvt_self]
    exact ⟨rfl, rfl, fun h => by simp at h⟩
  · exact .of_eq (dequeue_userPvt_of_ne hv)

section Steps

variable {t : ThreadId} {pc : ClientPc} {v : UserId}

/-- A client goes from a place where it waits for nothing to one where it has nothing to do with
callbacks. -/
theorem UserInv.plainMove (hcb : UserInv s v) {s₁ : State} (hold : (s.client t).waits = none)
    (hport : s₁.portThread = s.portThread) (htimer : s₁.timerThread = s.timerThread)
    (hclient : s₁.client = s.client) (hwaits : pc.waits = none) (hexecutes : pc.executes = none)
    (hcancels : pc.cancels = none) (hsame : SameCallbacks (s.userPvt v) (s₁.userPvt v))
    (hfree : s₁.phase v = .free ∨ s₁.phase v = .unallocated →
      (s.userPvt v).state = .callbackIdle) : UserInv (s₁.setClient t pc) v := by
  have hmoved : ClientMoved s (s₁.setClient t pc) t pc := .of_setClient hport htimer hclient
  exact hcb.quiet (hmoved.quiet hsame.state hsame.callbackDone (fun h => Or.inl (hsame.queued h))
    hfree (by simp [hold, hwaits]) (by simp [hcancels]) (by simp [hexecutes]))

theorem syncStarts_waits {u : UserId} (hstarts : syncStarts config s pc = some u) :
    pc.waits = none := by
  cases pc <;> simp_all [syncStarts, ClientPc.waits]

theorem ClientStep.userInv (hstep : ClientStep config s t s') (hinv : QueueInv config s)
    (hcb : UserInv s v) (hguard : CallbacksApart config s (.client t)) : UserInv s' v := by
  cases hstep with
  | quiet s₁ pc hframe hmove =>
      have hmoved : ClientMoved s (s₁.setClient t pc) t pc :=
        .of_setClient hframe.portThread hframe.timerThread hframe.client
      have hsame : SameCallbacks (s.userPvt v) (s₁.userPvt v) := .of_eq (by rw [hframe.userPvt])
      refine hcb.quiet (hmoved.quiet hsame.state hsame.callbackDone
        (fun h => Or.inl (hsame.queued h)) ?_ ?_ ?_ ?_)
      · intro hfree
        rw [State.setClient_phase, hframe.phase] at hfree
        exact hcb.idle_of_free hfree
      · simp [hmove.waits, hmove.old_waits]
      · intro h
        rcases hmove.cancels with hnone | hsame
        · simp [hnone] at h
        · rwa [← hsame]
      · simp [hmove.executes]
  | enable u yesNo dp hpc hlock =>
      exact hcb.plainMove (by rw [hpc]; rfl) rfl rfl rfl rfl rfl rfl (.refl _) hcb.idle_of_free
  | connect u p addr pdevice hpc hdevice =>
      exact hcb.plainMove (by rw [hpc]; rfl) rfl rfl rfl rfl rfl rfl (.modUser s u _ ⟨rfl, rfl, id⟩ v)
        hcb.idle_of_free
  | connectNew u p addr a hpc hnew =>
      exact hcb.plainMove (by rw [hpc]; rfl) rfl rfl rfl rfl rfl rfl
        (.modUser s u (fun v => { v with pport := some p, pdevice := some a }) ⟨rfl, rfl, id⟩ v)
        hcb.idle_of_free
  | disconnect u p hpc hrefused =>
      exact hcb.plainMove (by rw [hpc]; rfl) rfl rfl rfl rfl rfl rfl (.modUser s u _ ⟨rfl, rfl, id⟩ v)
        hcb.idle_of_free
  | freeRefused u p hpc =>
      refine hcb.plainMove (by rw [hpc]; rfl) rfl rfl rfl rfl rfl rfl (.refl _) fun hfree => ?_
      by_cases hv : v = u
      · subst hv
        simp at hfree
      · exact hcb.idle_of_free (by simpa [hv] using hfree)
  | freeDisconnect u p hpc hrefused =>
      refine hcb.plainMove (by rw [hpc]; rfl) rfl rfl rfl rfl rfl rfl
        (.modUser s u (fun v => { v with pport := none, pdevice := none }) ⟨rfl, rfl, id⟩ v)
        fun hfree => ?_
      by_cases hv : v = u
      · subst hv
        simp at hfree
      · exact hcb.idle_of_free (by simpa [hv, State.disconnectUser] using hfree)
  | freeList u hpc hidle =>
      have hlist : UserInv (State.setClient { s.setPhase u .free with
          asynUserFreeList := s.asynUserFreeList ++ [u] } t
            (.ret (.freeAsynUser u) (.status .asynSuccess))) v := by
        refine hcb.plainMove (by rw [hpc]; rfl) rfl rfl rfl rfl rfl rfl (.refl _) fun hfree => ?_
        by_cases hv : v = u
        · subst hv
          exact hidle
        · exact hcb.idle_of_free (by simpa [hv] using hfree)
      exact hlist
  | freeLater u hpc hbusy =>
      refine hcb.plainMove (by rw [hpc]; rfl) rfl rfl rfl rfl rfl rfl
        (.modUser s u (fun v => { v with freeAfterCallback := true }) ⟨rfl, rfl, id⟩ v)
        fun hfree => ?_
      by_cases hv : v = u
      · subst hv
        simp at hfree
      · exact hcb.idle_of_free (by simpa [hv] using hfree)
  | enqueue u priority timeout p dp check hpc hlock hblock hrefused hqueued htimeout =>
      -- Queued again while nobody cancels it: this is what `CallbacksApart` is for.
      have hno : NoCancel s u := hguard.requests u (by
        simp only [accepts, hpc]
        rw [if_pos ⟨hblock, hrefused, hqueued, htimeout⟩])
      have hmoved : ClientMoved s ((s.enqueue p priority u (addToFront s u p dp) timeout).setClient
          t (.signal (.queueRequest u priority timeout) p (.status .asynSuccess))) t _ :=
        .of_setClient rfl rfl rfl
      by_cases hv : v = u
      · subst hv
        refine hcb.quiet (hmoved.quiet ?_ ?_ (fun _ => Or.inr hno) hcb.idle_of_free ?_ ?_ ?_)
        · simp [State.enqueue, State.setQueue, State.stateChanged]
        · simp [State.enqueue, State.setQueue, State.stateChanged]
        · simp [hpc, ClientPc.waits]
        · simp [ClientPc.cancels, cancelReturn]
        · simp [ClientPc.executes]
      · exact hcb.plainMove (by rw [hpc]; rfl) rfl rfl rfl rfl rfl rfl
          (.of_eq (enqueue_userPvt_of_ne _ timeout hv)) hcb.idle_of_free
  | syncStart s₁ u priority timeout hstarts hframe =>
      have hmoved : ClientMoved s (s₁.setClient t (.syncRunning u priority timeout)) t _ :=
        .of_setClient hframe.portThread hframe.timerThread hframe.client
      have huser : (s₁.setClient t (.syncRunning u priority timeout)).userPvt v = s.userPvt v := by
        rw [State.setClient_userPvt, hframe.userPvt]
      have hphase : (s₁.setClient t (.syncRunning u priority timeout)).phase v = s.phase v := by
        rw [State.setClient_phase, hframe.phase]
      by_cases hv : v = u
      · subst hv
        exact hcb.syncStart hmoved rfl rfl huser hphase (hguard.starts v hstarts)
          (hguard.syncRequests t v rfl hstarts)
      · refine hcb.quiet (hmoved.quiet (by rw [huser]) (by rw [huser])
          (fun h => Or.inl (huser ▸ h)) (fun hfree => hcb.idle_of_free (hphase ▸ hfree)) ?_ ?_ ?_)
        · rw [syncStarts_waits hstarts]
          simp [ClientPc.waits]
        · simp [ClientPc.cancels]
        · simp [ClientPc.executes, Ne.symm hv]
  | cancelActive u p hpc hqueued hactive =>
      have hmoved : ClientMoved s ((s.modUser u fun v =>
          { v with state := .callbackCanceled }).setClient t (.cancelWait u)) t _ :=
        .of_setClient rfl rfl rfl
      by_cases hv : v = u
      · subst hv
        -- The callback runs, and its canceller has to wait for its end.
        exact hcb.cancelActive hmoved rfl rfl (by simp) rfl hqueued hactive
          (hguard.cancel t v p rfl hpc).1
      · refine hcb.quiet (hmoved.quiet (by simp [hv]) (by simp [hv]) (fun h => Or.inl ?_)
          hcb.idle_of_free ?_ ?_ ?_)
        · simpa [hv] using h
        · simp [ClientPc.waits, hpc, Ne.symm hv]
        · simp [ClientPc.cancels, Ne.symm hv]
        · simp [ClientPc.executes]
  | cancelIdle u p hpc hqueued hactive =>
      have hmoved : ClientMoved s (s.setClient t
          (.ret (.cancelRequest u) (.cancelled .asynSuccess false))) t _ :=
        .of_setClient rfl rfl rfl
      have hold : (s.client t).waits = none := by rw [hpc]; rfl
      by_cases hv : v = u
      · subst hv
        -- Neither active nor canceled: the callback is over, or has not begun.
        obtain ⟨hsync, hcanceled, -⟩ := hguard.cancel t v p rfl hpc
        have hidle : (s.userPvt v).state = .callbackIdle := by
          cases hstate : (s.userPvt v).state with
          | callbackIdle => rfl
          | callbackActive => exact absurd hstate hactive
          | callbackCanceled => exact absurd hstate hcanceled
        refine hcb.cancelled hmoved rfl rfl hidle hidle (fun hdone => ?_) (fun _ _ _ => rfl)
          hqueued hsync
        obtain ⟨t', ht'⟩ := hcb.waited (Or.inr hdone)
        exact ⟨t', fun ht => by simp [ht, hold] at ht', ht'⟩
      · refine hcb.quiet (hmoved.quiet rfl rfl Or.inl hcb.idle_of_free ?_ ?_ ?_)
        · simp [ClientPc.waits, hpc]
        · simp [ClientPc.cancels, cancelReturn, Ne.symm hv]
        · simp [ClientPc.executes]
  | cancelQueued u p i hpc hlock hmem =>
      have hmoved : ClientMoved s (((s.dequeue p i u).stateChanged p).setClient t
          (.cancelTimer u p (s.userPvt u).timeout)) t _ :=
        .of_setClient rfl rfl rfl
      have hold : (s.client t).waits = none := by rw [hpc]; rfl
      have hsame := SameCallbacks.dequeue s p i u v
      by_cases hv : v = u
      · subst hv
        have hqueued : (s.userPvt v).isQueued = true := (hinv.node.queued_of_mem hmem).1
        obtain ⟨hsync, -, hidle⟩ := hguard.cancel t v p rfl hpc
        refine hcb.cancelled hmoved rfl rfl (hsame.state.trans (hidle hqueued)) (hidle hqueued)
          (fun hdone => ?_) (fun _ _ _ => hsame.callbackDone) ?_ hsync
        · obtain ⟨t', ht'⟩ := hcb.waited (Or.inr (hsame.callbackDone ▸ hdone))
          exact ⟨t', fun ht => by simp [ht, hold] at ht', ht'⟩
        · show ((s.dequeue p i v).userPvt v).isQueued = false
          rw [dequeue_userPvt_self]
      · refine hcb.quiet (hmoved.quiet hsame.state hsame.callbackDone
          (fun h => Or.inl (hsame.queued h)) hcb.idle_of_free ?_ ?_ ?_)
        · simp [ClientPc.waits, hpc]
        · simp [ClientPc.cancels, Ne.symm hv]
        · simp [ClientPc.executes]
  | cancelDone u hpc hdone =>
      have hmoved : ClientMoved s ((s.modUser u fun v => { v with callbackDone := false }).setClient
          t (.ret (.cancelRequest u) (.cancelled .asynSuccess false))) t _ :=
        .of_setClient rfl rfl rfl
      by_cases hv : v = u
      · subst hv
        have hwaits : (s.client t).waits = some v := by rw [hpc]; rfl
        have hcancels := ClientPc.cancels_of_waits hwaits
        have hidle : (s.userPvt v).state = .callbackIdle := by
          -- The canceller waits for an event that is full, so that the callback has been finished.
          rcases hcb.wait_state t hwaits with ⟨-, h⟩ | ⟨h, -⟩
          · simp [hdone] at h
          · exact h
        refine hcb.cancelled hmoved rfl rfl (by simpa using hidle) hidle (by simp)
          (fun t' ht h => absurd (hcb.wait_unique t' t h hwaits) ht) ?_
          (fun t' => hcb.cancels_sync t t' hcancels)
        simpa using hcb.cancels_not_queued t hcancels
      · refine hcb.quiet (hmoved.quiet (by simp [hv]) (by simp [hv]) (fun h => Or.inl ?_)
          hcb.idle_of_free ?_ ?_ ?_)
        · simpa [hv] using h
        · simp [ClientPc.waits, hpc, Ne.symm hv]
        · simp [ClientPc.cancels, cancelReturn, Ne.symm hv]
        · simp [ClientPc.executes]
  | cancelTimer u p timeout hpc =>
      have hmoved : ClientMoved s ((s.modUser u fun v => { v with timer := false }).setClient t
          (.signal (.cancelRequest u) p (.cancelled .asynSuccess true))) t _ :=
        .of_setClient rfl rfl rfl
      have hsame : SameCallbacks (s.userPvt v) _ :=
        .modUser s u (fun v => { v with timer := false }) ⟨rfl, rfl, id⟩ v
      refine hcb.quiet (hmoved.quiet hsame.state hsame.callbackDone
        (fun h => Or.inl (hsame.queued h)) hcb.idle_of_free ?_ ?_ ?_)
      · simp [ClientPc.waits, hpc]
      · simp [ClientPc.cancels, cancelReturn, hpc]
      · simp [ClientPc.executes]
  | block u allDevices p hpc hqueued =>
      refine hcb.plainMove (by rw [hpc]; rfl) rfl rfl rfl rfl rfl rfl
        (.modUser s u _ ?_ v) hcb.idle_of_free
      cases allDevices <;> exact ⟨rfl, rfl, id⟩
  | unblock u allDevices p hpc hcount hkeep =>
      refine hcb.plainMove (by rw [hpc]; rfl) rfl rfl rfl rfl rfl rfl
        (.modUser s u _ ?_ v) hcb.idle_of_free
      cases allDevices <;> exact ⟨rfl, rfl, id⟩
  | unblockPort u p hpc hqueued hcount hlast hholder =>
      exact hcb.plainMove (by rw [hpc]; rfl) rfl rfl rfl rfl rfl rfl
        (.modUser s u (blockCountDecrement true) ⟨rfl, rfl, id⟩ v) hcb.idle_of_free
  | unblockDevice u p dp hpc hqueued hcount hlast hdp hholder =>
      exact hcb.plainMove (by rw [hpc]; rfl) rfl rfl rfl rfl rfl rfl
        (.modUser s u (blockCountDecrement false) ⟨rfl, rfl, id⟩ v) hcb.idle_of_free

theorem CallStep.userInv (hstep : CallStep s t s') (hcb : UserInv s v)
    (hidle : s.client t = .idle) : UserInv s' v := by
  have hold : (s.client t).waits = none := by rw [hidle]; rfl
  cases hstep with
  | create s₁ u process timeout hframe hphase =>
      have huser := hframe.userPvt
      refine hcb.plainMove hold hframe.portThread hframe.timerThread hframe.client rfl rfl rfl ?_
        fun hfree => ?_
      · by_cases hv : v = u
        · subst hv
          have hstate := hcb.idle_of_free hphase
          refine ⟨?_, ?_, ?_⟩
          · simp [hstate]
          · simp [huser]
          · simp
        · exact .of_eq (by simp [hv, huser])
      · by_cases hv : v = u
        · subst hv
          simp at hfree
        · exact hcb.idle_of_free (by simpa [hv, hframe.phase] using hfree)
  | freeRetire u hphase hport | freeStart u p hphase =>
      refine hcb.plainMove hold rfl rfl rfl rfl rfl rfl (.refl _) fun hfree => ?_
      by_cases hv : v = u
      · subst hv
        simp at hfree
      · exact hcb.idle_of_free (by simpa [hv] using hfree)
  | unblock u allDevices p hport =>
      exact hcb.plainMove hold rfl rfl rfl rfl rfl rfl (.refl _) hcb.idle_of_free
  | move pc hmove hcancels =>
      exact hcb.plainMove hold rfl rfl rfl hmove.waits hmove.executes hcancels (.refl _)
        hcb.idle_of_free

theorem ServerMoved.timer {s₁ : State} {pc : TimerPc} (hport : s₁.portThread = s.portThread)
    (hclient : s₁.client = s.client) : ServerMoved s (s₁.setTimerThread pc) .timer where
  client := hclient
  served y hy := by
    cases y with
    | port p => simp [Queue.served, hport]
    | timer => exact absurd rfl hy

theorem ServerMoved.port {s₁ : State} {p : PortId} {pc : PortPc}
    (hport : s₁.portThread = s.portThread) (htimer : s₁.timerThread = s.timerThread)
    (hclient : s₁.client = s.client) : ServerMoved s (s₁.setPortThread p pc) (.port p) where
  client := hclient
  served y hy := by
    cases y with
    | port q =>
        have hq : q ≠ p := fun h => hy (h ▸ rfl)
        simp [Queue.served, hq, hport]
    | timer => simp [Queue.served, htimer]

/-- The end of a callback, for every `asynUser`. -/
theorem UserInv.finishCallback {u : UserId} {x : Server} (hcb : UserInv s v)
    (hmoved : ServerMoved s s' x) (hold : Queue.served s x = some u)
    (hnew : Queue.served s' x = none) (huser : s'.userPvt = (s.finishCallback u).userPvt)
    (hphase : s'.phase = (s.finishCallback u).phase) : UserInv s' v := by
  by_cases hv : v = u
  · subst hv
    refine hcb.finish hmoved hold (by simp [hnew]) ?_ ?_ ?_
    · rw [huser, finishCallback_userPvt_self]
    · rw [huser, finishCallback_userPvt_self]
    · rw [huser, finishCallback_userPvt_self]
  · have hsame : s'.userPvt v = s.userPvt v := by
      rw [huser, finishCallback_userPvt_of_ne s hv]
    refine hcb.quiet (hmoved.quiet (by rw [hsame]) (by rw [hsame]) (by rw [hsame]; exact id)
      (fun hfree => ?_) (by simp [hnew, hold, Ne.symm hv]))
    rw [hphase, finishCallback_phase_of_ne s hv] at hfree
    exact hcb.idle_of_free hfree

theorem TimerStep.userInv (hstep : TimerStep s s') (hinv : QueueInv config s) (hcb : UserInv s v)
    (hguard : CallbacksApart config s .timerThread) : UserInv s' v := by
  cases hstep with
  | stale u p hpc hqueued =>
      have hmoved : ServerMoved s (s.setTimerThread .idle) .timer := .timer rfl rfl
      exact hcb.quiet (hmoved.quiet rfl rfl id hcb.idle_of_free (by simp [served, hpc, TimerPc.serves]))
  | drop u p i hpc hlock hmem =>
      have hmoved : ServerMoved s (((s.dequeue p i u).stateChanged p).setTimerThread
          (.signal u p)) .timer := .timer rfl rfl
      have hsame := SameCallbacks.dequeue s p i u v
      exact hcb.quiet (hmoved.quiet hsame.state hsame.callbackDone hsame.queued hcb.idle_of_free
        (by simp [served, hpc, TimerPc.serves]))
  | start u p i hpc hlock hmem htimeout =>
      have hmoved : ServerMoved s ((((s.dequeue p i u).stateChanged p).modUser u fun v =>
          { v with state := .callbackActive }).setTimerThread (.running u p)) .timer :=
        .timer rfl rfl
      obtain ⟨hqueued, hport⟩ := hinv.node.queued_of_mem hmem
      by_cases hv : v = u
      · subst hv
        have hcallback := hguard.starts v (by simp [starts, hpc, hqueued, htimeout])
        refine hcb.serve hmoved rfl (by simp) ?_ rfl (hinv.node.alive_of_port hport) hqueued
          hcallback
        simp [State.stateChanged, dequeue_userPvt_self]
      · have hsame : (((s.dequeue p i u).stateChanged p).modUser u fun v =>
            { v with state := .callbackActive }).userPvt v = s.userPvt v := by
          simp [hv, State.stateChanged, dequeue_userPvt_of_ne hv]
        refine hcb.quiet (hmoved.quiet ?_ ?_ ?_ hcb.idle_of_free ?_)
        · rw [State.setTimerThread_userPvt, hsame]
        · rw [State.setTimerThread_userPvt, hsame]
        · rw [State.setTimerThread_userPvt, hsame]
          exact id
        · simp [served, hpc, TimerPc.serves, Ne.symm hv]
  | returns u p hpc =>
      have hmoved : ServerMoved s (s.setTimerThread (.returned u p)) .timer := .timer rfl rfl
      exact hcb.quiet (hmoved.quiet rfl rfl id hcb.idle_of_free (by simp [served, hpc, TimerPc.serves]))
  | finish u p hpc =>
      have hmoved : ServerMoved s ((s.finishCallback u).setTimerThread (.signal u p)) .timer :=
        .timer (finishCallback_portThread s u) (finishCallback_client s u)
      exact hcb.finishCallback hmoved (by simp [served, hpc, TimerPc.serves]) rfl rfl rfl
  | signal u p hpc =>
      have hmoved : ServerMoved s ((s.notify p).setTimerThread .idle) .timer := .timer rfl rfl
      exact hcb.quiet (hmoved.quiet rfl rfl id hcb.idle_of_free (by simp [served, hpc, TimerPc.serves]))

/-- A port thread takes a request off a queue. -/
theorem UserInv.startService {p : PortId} {i : AsynQueuePriority} {u : UserId} {pc : PortPc}
    (hcb : UserInv s v) (hinv : QueueInv config s) (hmem : u ∈ (s.port p).queueList i)
    (hold : (s.portThread p).serves = none) (hnew : pc.serves = some u)
    (hcallback : NoCallback s u) :
    UserInv ((s.startService p i u).setPortThread p pc) v := by
  have hmoved : ServerMoved s ((s.startService p i u).setPortThread p pc) (.port p) :=
    .port rfl rfl rfl
  have hserved : Queue.served ((s.startService p i u).setPortThread p pc) (.port p) = some u := by
    simp [Queue.served, hnew]
  obtain ⟨hqueued, hport⟩ := hinv.node.queued_of_mem hmem
  by_cases hv : v = u
  · subst hv
    refine hcb.serve hmoved hserved ?_ ?_ rfl (hinv.node.alive_of_port hport) hqueued hcallback
    · simp [State.startService]
    · simp [State.startService, dequeue_userPvt_self]
  · have hsame : (s.startService p i u).userPvt v = s.userPvt v := by
      simp [State.startService, hv, dequeue_userPvt_of_ne hv]
    refine hcb.quiet (hmoved.quiet ?_ ?_ ?_ hcb.idle_of_free ?_)
    · rw [State.setPortThread_userPvt, hsame]
    · rw [State.setPortThread_userPvt, hsame]
    · rw [State.setPortThread_userPvt, hsame]
      exact id
    · rw [hserved]
      simp [Queue.served, hold, Ne.symm hv]

/-- A port thread moves on without taking or finishing a request. -/
theorem UserInv.portMove {p : PortId} {pc : PortPc} {s₁ : State} (hcb : UserInv s v)
    (hport : s₁.portThread = s.portThread) (htimer : s₁.timerThread = s.timerThread)
    (hclient : s₁.client = s.client) (hphase : s₁.phase = s.phase)
    (hserves : pc.serves = (s.portThread p).serves)
    (hsame : SameCallbacks (s.userPvt v) (s₁.userPvt v)) :
    UserInv (s₁.setPortThread p pc) v := by
  have hmoved : ServerMoved s (s₁.setPortThread p pc) (.port p) := .port hport htimer hclient
  refine hcb.quiet (hmoved.quiet hsame.state hsame.callbackDone hsame.queued (fun hfree => ?_) ?_)
  · exact hcb.idle_of_free (by simpa [hphase] using hfree)
  · simp [Queue.served, hserves]

theorem PortStep.userInv {p : PortId} (hstep : PortStep config s p s') (hinv : QueueInv config s)
    (hcb : UserInv s v) (hguard : CallbacksApart config s (.portThread p)) : UserInv s' v := by
  have hok := hinv.port p
  cases hstep with
  | quiet s₁ pc hframe hold hnew =>
      exact hcb.portMove hframe.portThread hframe.timerThread hframe.client hframe.phase
        (by rw [hold, hnew]) (.of_eq (by rw [hframe.userPvt]))
  | scan pc hpc hnew =>
      exact hcb.portMove rfl rfl rfl rfl (by rw [hpc, hnew]; rfl) (.refl _)
  | serveConnect u hpc hhead =>
      exact hcb.startService hinv (List.mem_of_mem_head? hhead) (by rw [hpc]; rfl) rfl
        (hguard.starts u (by simp [starts, hpc, hhead]))
  | serve i u dp flag flag' hpc hunblocked hflag =>
      rw [hpc] at hok
      exact hcb.startService hinv hok.2.1 (by rw [hpc]; rfl) rfl
        (hguard.starts u (by simp [starts, hpc, hunblocked]))
  | startConnect s₁ u timeout hpc hcancel | start s₁ u dp flag timeout hpc hcancel =>
      rcases State.cancelTimer_cases hcancel with rfl | rfl
      · exact hcb.portMove rfl rfl rfl rfl (by rw [hpc]; rfl) (.refl _)
      · exact hcb.portMove rfl rfl rfl rfl (by rw [hpc]; rfl)
          (.modUser _ u (fun v => { v with timer := false }) ⟨rfl, rfl, id⟩ v)
  | returnsConnect u hpc | returns u dp flag hpc =>
      exact hcb.portMove rfl rfl rfl rfl (by rw [hpc]; rfl) (.refl _)
  | finishConnect u hpc =>
      have hmoved : ServerMoved s ((s.finishCallback u).setPortThread p .connectLoop) (.port p) :=
        .port (finishCallback_portThread s u) (finishCallback_timerThread s u)
          (finishCallback_client s u)
      exact hcb.finishCallback hmoved (by simp [served, hpc, PortPc.serves])
        (by simp [served, PortPc.serves]) rfl rfl
  | finish u dp hpc =>
      obtain ⟨pc, heq, hnew⟩ := portFinish_eq s p u dp
      obtain ⟨hport, hclient, htimer⟩ := holdersSet_threads s p u dp
      have huser := holdersSet_userPvt s p u dp
      have hphase := holdersSet_phase s p u dp
      rw [heq]
      -- setting the holders touches nothing of this invariant
      have hholders : UserInv (holdersSet s p u dp) v := by
        refine hcb.quiet ⟨by rw [huser], by rw [huser], fun h => Or.inl (by rwa [huser] at h),
          fun h => hcb.idle_of_free (by rwa [hphase] at h), fun x => ?_, by simp [hclient],
          by simp [hclient], by simp [hclient]⟩
        cases x with
        | port q => simp [served, hport]
        | timer => simp [served, htimer]
      have hmoved : ServerMoved (holdersSet s p u dp)
          (((holdersSet s p u dp).finishCallback u).setPortThread p pc) (.port p) :=
        .port (finishCallback_portThread _ u) (finishCallback_timerThread _ u)
          (finishCallback_client _ u)
      exact hholders.finishCallback hmoved (by simp [served, hport, hpc, PortPc.serves])
        (by simp [served, hnew]) rfl rfl

theorem step_userInv (hinv : QueueInv config s) (hcb : UserInv s v) {a : Action}
    (hguard : CallbacksApart config s a) (hstep : step config s a = some s') : UserInv s' v := by
  cases a with
  | call t c =>
      simp only [step, Option.ite_none_right_eq_some, Option.some.injEq] at hstep
      obtain ⟨hallowed, rfl⟩ := hstep
      exact (startCall_cases hinv hallowed).userInv hcb (callAllowed_idle hallowed)
  | client t => exact (clientStep_cases hinv hstep).userInv hinv hcb hguard
  | timerExpire u =>
      simp only [step, timerExpire, Option.ite_none_right_eq_some, Option.some.injEq] at hstep
      obtain ⟨⟨-, hidle⟩, rfl⟩ := hstep
      have hsame := SameCallbacks.modUser s u (fun v => { v with timer := false }) ⟨rfl, rfl, id⟩ v
      have hmoved : ∀ pc, ServerMoved s ((s.modUser u fun v =>
          { v with timer := false }).setTimerThread pc) .timer := fun _ => .timer rfl rfl
      refine hcb.quiet ((hmoved _).quiet hsame.state hsame.callbackDone hsame.queued
        hcb.idle_of_free ?_)
      simp only [served, hidle, State.setTimerThread_timerThread]
      split <;> simp [TimerPc.serves]
  | timerThread => exact (timerStep_cases hinv hstep).userInv hinv hcb hguard
  | portThread p => exact (portThreadStep_cases hstep).userInv hinv hcb hguard
  | tick =>
      simp only [step, Option.some.injEq] at hstep
      subst hstep
      exact hcb.quiet ⟨rfl, rfl, Or.inl, hcb.idle_of_free, fun x => by cases x <;> rfl,
        fun _ => Iff.rfl, fun _ => id, fun _ => id⟩
  | setReason u b =>
      simp only [step, Option.ite_none_right_eq_some, Option.some.injEq] at hstep
      obtain ⟨-, rfl⟩ := hstep
      have hsame := SameCallbacks.modUser s u (fun v => { v with queueEvenIfNotConnected := b })
        ⟨rfl, rfl, id⟩ v
      exact hcb.quiet ⟨hsame.state, hsame.callbackDone, fun h => Or.inl (hsame.queued h),
        hcb.idle_of_free, fun x => by cases x <;> rfl, fun _ => Iff.rfl, fun _ => id, fun _ => id⟩
  | setExceptionUser u b =>
      simp only [step, Option.ite_none_right_eq_some, Option.some.injEq] at hstep
      obtain ⟨-, rfl⟩ := hstep
      have hsame := SameCallbacks.modUser s u (fun v => { v with pexceptionUser := b })
        ⟨rfl, rfl, id⟩ v
      exact hcb.quiet ⟨hsame.state, hsame.callbackDone, fun h => Or.inl (hsame.queued h),
        hcb.idle_of_free, fun x => by cases x <;> rfl, fun _ => Iff.rfl, fun _ => id, fun _ => id⟩

theorem UserInv.initial (now : Nat) : UserInv (State.initial config now) v := by
  constructor
  case active_iff =>
    refine ⟨fun h => absurd rfl h, ?_⟩
    rintro ⟨x, hx⟩
    cases x <;> simp [served, State.initial, PortPc.serves, TimerPc.serves] at hx
  case server_unique =>
    intro x y hx
    cases x <;> simp [served, State.initial, PortPc.serves, TimerPc.serves] at hx
  all_goals simp [State.initial, UserPvt.zero, ClientPc.waits, ClientPc.cancels, ClientPc.executes]

theorem userInv_reachable (hreach : (machine config).Reachable (CallbacksApart config) s) :
    UserInv s v := by
  refine Machine.Reachable.invariant_of_reachable (M := machine config)
    (I := fun s => UserInv s v) ?_ ?_ hreach
  · rintro s ⟨now, rfl⟩
    exact UserInv.initial now
  · intro s a s' hs hguard hcb hstep
    exact step_userInv (QueueInv.reachable (hs.mono fun _ _ h => h.undisturbed)) hcb hguard hstep

end Steps

/-! ## Cancellation is safe in the guarded runs -/

/-- A thread that executes a callback of `u` keeps every cancellation of `u` from its end. -/
theorem UserInv.not_executing (hcb : UserInv s u) {t : ThreadId}
    (hcancels : (s.client t).cancels = some u) (hwaits : (s.client t).waits ≠ some u)
    (x : Executor) : executing s x ≠ some u := by
  have hidle := hcb.cancels_idle t hcancels hwaits
  intro h
  cases x with
  | port p => exact hcb.not_served hidle (.port p) (PortPc.serves_of_executes h)
  | timer => exact hcb.not_served hidle .timer (TimerPc.serves_of_executes h)
  | client t' => exact hcb.cancels_sync t t' hcancels h

theorem UserInv.executor_unique (hcb : UserInv s u) {x y : Executor}
    (hx : executing s x = some u) (hy : executing s y = some u) : x = y := by
  have hserver : ∀ z, executing s z = some u →
      (∃ w, served s w = some u ∧ z = match w with | .port p => .port p | .timer => .timer) ∨
        ∃ t, z = .client t ∧ (s.client t).executes = some u := by
    intro z hz
    cases z with
    | port p => exact Or.inl ⟨.port p, PortPc.serves_of_executes hz, rfl⟩
    | timer => exact Or.inl ⟨.timer, TimerPc.serves_of_executes hz, rfl⟩
    | client t => exact Or.inr ⟨t, rfl, hz⟩
  rcases hserver x hx with ⟨w, hw, rfl⟩ | ⟨t, rfl, ht⟩
  · rcases hserver y hy with ⟨w', hw', rfl⟩ | ⟨t', rfl, ht'⟩
    · rw [hcb.server_unique w w' hw hw']
    · exact absurd hw (hcb.not_served (hcb.sync_idle t' ht') w)
  · rcases hserver y hy with ⟨w', hw', rfl⟩ | ⟨t', rfl, ht'⟩
    · exact absurd hw' (hcb.not_served (hcb.sync_idle t ht) w')
    · rw [hcb.sync_unique t t' ht ht']

/-- In every run in which the state of an `asynUser` describes what is in progress whenever a
callback starts, a request is accepted or a cancellation is made, cancelling is safe. -/
theorem cancelSafe_of_callbacksApart
    (hreach : (machine config).Reachable (CallbacksApart config) s) : CancelSafe s := by
  have hinv := QueueInv.reachable (hreach.mono fun _ _ h => h.undisturbed)
  refine ⟨fun t u wasQueued hpc => ?_, fun x y u => (userInv_reachable hreach).executor_unique⟩
  have hcb : UserInv s u := userInv_reachable hreach
  have hcancels : (s.client t).cancels = some u := by rw [hpc]; rfl
  have hwaits : (s.client t).waits ≠ some u := by simp [hpc, ClientPc.waits]
  refine ⟨fun p i hmem => ?_, hcb.not_executing hcancels hwaits⟩
  have hqueued := hcb.cancels_not_queued t hcancels
  simp [(hinv.node.queued_of_mem hmem).1] at hqueued

/-- A request with a `timeoutUser` is queued and its `processUser` is executing; it has been queued
again, and a second thread cancels it. -/
def requeuedRun : List Action :=
  [Action.call 0 (.createAsynUser true true), .client 0,
    .call 0 (.connectDevice 0 0 0), .client 0, .client 0,
    .call 0 (.queueRequest 0 .connect 0), .client 0, .client 0, .client 0] ++
  List.replicate 4 (Action.portThread 0) ++
  [Action.call 0 (.queueRequest 0 .connect 0), .client 0, .client 0, .client 0,
    .call 1 (.cancelRequest 0), .client 1, .client 1, .client 1]

/-- `cancelRequest` takes the second request off the queue and returns while the callback of the
first is still executing. -/
theorem not_cancelSafe_requeued :
    ¬ ∀ (config : PortId → PortConfig) (s : State),
      (machine config).Reachable Machine.Unguarded s → CancelSafe s := by
  intro hclaim
  obtain ⟨s, hreach, hvalue⟩ := Machine.exists_reachable_of_exec
    (M := machine fun _ => simplePort) (b := true)
    (fun s => decide (s.client 1 = .ret (.cancelRequest 0) (.cancelled .asynSuccess true)) &&
      decide (executing s (.port 0) = some 0))
    requeuedRun ⟨0, rfl⟩ (by decide +kernel)
  simp only [Bool.and_eq_true, decide_eq_true_eq] at hvalue
  exact ((hclaim _ s hreach).cancelled 1 0 true hvalue.1).2 (.port 0) hvalue.2

/-! ## A guarded run -/

/-- Only client threads 0 and 1 are in a call. -/
structure TwoClients (config : PortId → PortConfig) (s : State) : Prop where
  queueInv : QueueInv config s
  idle : ∀ t : Nat, 2 ≤ t → s.client t = .idle

/-- The action is one of clients 0 and 1, or of no client. -/
def ofTwoClients : Action → Bool
  | .call t _ => decide (t < 2)
  | .client t => decide (t < 2)
  | _ => true

/-- A property of the clients' places, tested at clients 0 and 1. -/
def bothClients (s : State) (test : ClientPc → Bool) : Bool :=
  test (s.client 0) && test (s.client 1)

theorem TwoClients.all (htwo : TwoClients config s) {test : ClientPc → Bool}
    (hidle : test .idle = true) (hboth : bothClients s test = true) (t : ThreadId) :
    test (s.client t) = true := by
  unfold bothClients at hboth
  rw [Bool.and_eq_true] at hboth
  rcases t with _ | _ | t
  · exact hboth.1
  · exact hboth.2
  · rw [htwo.idle (t + 2) (by omega)]
    exact hidle

/-- `CallbacksApart` for two clients, as a test. -/
def apartCheck (config : PortId → PortConfig) (s : State) (a : Action) : Bool :=
  undisturbedCheck s a && ofTwoClients a &&
    (match starts config s a with
      | none => true
      | some u => decide ((s.userPvt u).state = .callbackIdle) &&
          bothClients s (fun pc => decide (pc.executes ≠ some u) && decide (pc.cancels ≠ some u))) &&
    (match accepts config s a with
      | none => true
      | some u => bothClients s fun pc => decide (pc.cancels ≠ some u)) &&
    match a with
    | .client t =>
        match s.client t with
        | .cancelRequest u _ => bothClients s (fun pc => decide (pc.executes ≠ some u)) &&
            decide ((s.userPvt u).state = .callbackIdle)
        | _ => true
    | _ => true

theorem callbacksApart_of_check (s : State) (a : Action) (htwo : TwoClients config s)
    (hcheck : apartCheck config s a = true) : CallbacksApart config s a := by
  unfold apartCheck at hcheck
  simp only [Bool.and_eq_true] at hcheck
  obtain ⟨⟨⟨⟨hundisturbed, -⟩, hstarts⟩, haccepts⟩, hcancel⟩ := hcheck
  have hcallback : ∀ u, starts config s a = some u → NoCallback s u ∧ NoCancel s u := by
    intro u hu
    simp only [hu, Bool.and_eq_true, decide_eq_true_eq] at hstarts
    have hall := htwo.all (by simp [ClientPc.executes, ClientPc.cancels]) hstarts.2
    simp only [Bool.and_eq_true, decide_eq_true_eq] at hall
    exact ⟨⟨hstarts.1, fun t => (hall t).1⟩, fun t => (hall t).2⟩
  constructor
  case undisturbed => exact undisturbed_of_check s a hundisturbed
  case starts => exact fun u hu => (hcallback u hu).1
  case requests =>
    intro u hu t
    simp only [hu] at haccepts
    have hall := htwo.all (by simp [ClientPc.cancels]) haccepts t
    simpa using hall
  case syncRequests =>
    rintro t u rfl hu
    exact (hcallback u hu).2
  case cancel =>
    rintro t u p rfl hpc
    simp only [hpc, Bool.and_eq_true, decide_eq_true_eq] at hcancel
    have hall := htwo.all (by simp [ClientPc.executes]) hcancel.1
    refine ⟨fun t' => by simpa using hall t', ?_, fun _ => hcancel.2⟩
    simp [hcancel.2]

theorem twoClients_of_check (s : State) (a : Action) (s' : State) (htwo : TwoClients config s)
    (hcheck : apartCheck config s a = true) (hstep : (machine config).step s a = some s') :
    TwoClients config s' := by
  unfold apartCheck at hcheck
  simp only [Bool.and_eq_true] at hcheck
  obtain ⟨⟨⟨⟨hundisturbed, hthread⟩, -⟩, -⟩, -⟩ := hcheck
  refine ⟨step_inv htwo.queueInv (undisturbed_of_check s a hundisturbed) hstep, fun t ht => ?_⟩
  have hcall : ∀ c, a ≠ .call t c := by
    rintro c rfl
    simp only [ofTwoClients, decide_eq_true_eq] at hthread
    exact Nat.not_lt.mpr ht hthread
  have hclient : a ≠ .client t := by
    rintro rfl
    simp only [ofTwoClients, decide_eq_true_eq] at hthread
    exact Nat.not_lt.mpr ht hthread
  rw [step_client_of_ne htwo.queueInv hcall hclient hstep]
  exact htwo.idle t ht

theorem TwoClients.initial (now : Nat) : TwoClients config (State.initial config now) :=
  ⟨QueueInv.initial now, fun _ _ => rfl⟩

/-- A queued request is cancelled before the port thread runs. -/
theorem cancelSafe_queued_request : ∃ s : State,
    s.client 1 = .ret (.cancelRequest 0) (.cancelled .asynSuccess true) ∧ CancelSafe s := by
  obtain ⟨s, hreach, hvalue⟩ := Machine.exists_reachable_of_execGuarded_inv
    (M := machine fun _ => simplePort)
    (b := ClientPc.ret (.cancelRequest 0) (.cancelled .asynSuccess true))
    (fun s => s.client 1) callbacksApart_of_check twoClients_of_check
    (requeuedRun.take 9 ++ [Action.call 1 (.cancelRequest 0), .client 1, .client 1, .client 1]) ⟨0, rfl⟩
    (.initial 0) (by decide +kernel)
  exact ⟨s, hvalue, cancelSafe_of_callbacksApart hreach⟩

end Queue
end Manager
end AsynDriver
