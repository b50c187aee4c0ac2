import AsynDriver.Manager.PortConnect

/-!
# A port with `autoConnect` is not left disconnected

* `Pc.retries` — the threads that are going to start the timer, to queue the connect request, or to
  find that the port need not be connected.
* `Keeps` — steps that leave the timer, the queue and the threads alone; `inv_of_moved`, one thread moves.
* `reconnectScheduled_of_reachable` — if no request of the timer is refused, a reconnection is always
  scheduled; `left_disconnected` has a run in which one is refused.
-/

namespace AsynDriver
namespace Manager
namespace PortConnect

open Library

def Pc.retries : Pc → Bool
  | .timerConnected => true
  | .timerAutoConnect => true
  | .timerRequest => true
  | .processTest => true
  | .processConnect => true
  | .processFailed => true
  | .disconnectConnected _ => true
  | .disconnectAutoConnect _ => true
  | .disconnectTimer _ => true
  | .autoConnectConnected d => d.isNone
  | .autoConnectTest d => d.isNone
  | .autoConnectTimer => true
  | _ => false

/-- The port should be connected and is not. -/
structure Wants (s : State) : Prop where
  connected : (s.dpCommon none).connected = false
  autoConnect : (s.dpCommon none).autoConnect = true
  defunct : (s.dpCommon none).defunct = false

def Scheduled (s : State) : Prop :=
  s.connectTimer = true ∨ Request.pconnectUser ∈ s.connectQueue ∨ ∃ t, (s.thread t).retries = true

def Inv (s : State) : Prop := Wants s → Scheduled s

variable {p : Attributes} {s s' : State} {t : Thread} {pc : Pc}

theorem scheduled_of_retries (hthread : s'.thread = Function.update s.thread t pc)
    (hpc : pc.retries = true) : Scheduled s' := by
  refine Or.inr (Or.inr ⟨t, ?_⟩)
  rw [hthread, Function.update_self]
  exact hpc

/-! ## Steps that do not concern the retries -/

structure Keeps (s s' : State) : Prop where
  wants : Wants s' → Wants s
  timer : s'.connectTimer = s.connectTimer
  queue : s'.connectQueue = s.connectQueue
  thread : s'.thread = s.thread

theorem Keeps.refl (s : State) : Keeps s s := ⟨fun h => h, rfl, rfl, rfl⟩

theorem Keeps.trans {s'' : State} (hfirst : Keeps s s') (hsecond : Keeps s' s'') : Keeps s s'' :=
  ⟨fun h => hfirst.wants (hsecond.wants h), hsecond.timer.trans hfirst.timer,
    hsecond.queue.trans hfirst.queue, hsecond.thread.trans hfirst.thread⟩

theorem modDp_none (s : State) {d : Device} (f : DpCommon → DpCommon) (hne : none ≠ d) :
    (s.modDp d f).dpCommon none = s.dpCommon none := Function.update_of_ne hne _ _

theorem keeps_modDp (s : State) (d : Device) (f : DpCommon → DpCommon)
    (hconnected : ∀ x, (f x).connected = false → x.connected = false)
    (hautoConnect : ∀ x, (f x).autoConnect = x.autoConnect)
    (hdefunct : ∀ x, (f x).defunct = false → x.defunct = false) : Keeps s (s.modDp d f) := by
  refine ⟨?_, rfl, rfl, rfl⟩
  intro hwants
  by_cases hd : none = d
  · subst hd
    obtain ⟨hc, ha, hf⟩ := hwants
    simp only [State.modDp, Function.update_self] at hc ha hf
    exact ⟨hconnected _ hc, (hautoConnect _).symm.trans ha, hdefunct _ hf⟩
  · obtain ⟨hc, ha, hf⟩ := hwants
    rw [modDp_none s f hd] at hc ha hf
    exact ⟨hc, ha, hf⟩

theorem keeps_signal (s : State) : Keeps s (s.signal p) :=
  ⟨fun h => ⟨h.connected, h.autoConnect, h.defunct⟩, rfl, rfl, rfl⟩

theorem keeps_connected (s : State) (d : Device) : Keeps s (s.modDp d connected) :=
  keeps_modDp s d connected (fun _ h => absurd h Bool.noConfusion) (fun _ => rfl) (fun _ h => h)

theorem keeps_connect (s : State) (d : Device) : Keeps s (s.connect p d) := by
  unfold State.connect
  split
  · exact Keeps.refl s
  · exact (keeps_connected s d).trans (keeps_signal _)

theorem keeps_activate (s : State) (d : Device) : Keeps s (s.activate d) :=
  keeps_modDp s d _ (fun _ h => h) (fun _ => rfl) (fun _ h => h)

theorem keeps_autoConnectDeviceTail (s : State) (d : Device) :
    Keeps s (autoConnectDeviceTail s d).1 := by
  unfold autoConnectDeviceTail
  split
  · split
    · exact Keeps.refl s
    · split
      · split
        · exact Keeps.refl s
        · exact keeps_activate s _
      · exact Keeps.refl s
  · exact Keeps.refl s

theorem keeps_autoConnectDevice (s : State) (d : Device) : Keeps s (autoConnectDevice s d).1 := by
  unfold autoConnectDevice
  split
  · split
    · exact Keeps.refl s
    · exact keeps_activate s _
  · exact keeps_autoConnectDeviceTail s d

theorem keeps_autoConnectResume (s : State) (d tried : Device) :
    Keeps s (autoConnectResume s d tried).1 := by
  have htime : Keeps s (s.modDp tried fun x =>
      { x with lastConnectDisconnect := s.now, autoConnectActive := false }) :=
    keeps_modDp s tried _ (fun _ h => h) (fun _ => rfl) (fun _ h => h)
  unfold autoConnectResume
  split
  · exact htime.trans (keeps_autoConnectDeviceTail _ d)
  · exact htime

/-! ## One thread moves -/

/-- A thread that is no longer going to retry must have found that the port need not be connected. -/
theorem inv_of_moved (hinv : Inv s) (hkeeps : Keeps s s')
    (hpc : Wants s' → (s.thread t).retries = true → pc.retries = true) : Inv (s'.setThread t pc) := by
  intro hwants
  have hwants' : Wants s' := ⟨hwants.connected, hwants.autoConnect, hwants.defunct⟩
  rcases hinv (hkeeps.wants hwants') with htimer | hqueue | ⟨t', ht'⟩
  · exact Or.inl (hkeeps.timer.trans htimer)
  · refine Or.inr (Or.inl ?_)
    show Request.pconnectUser ∈ s'.connectQueue
    rw [hkeeps.queue]
    exact hqueue
  · by_cases heq : t' = t
    · subst heq
      exact scheduled_of_retries rfl (hpc hwants' ht')
    · refine Or.inr (Or.inr ⟨t', ?_⟩)
      show (Function.update s'.thread t pc t').retries = true
      rw [Function.update_of_ne heq, hkeeps.thread]
      exact ht'

/-- The thread that moves was not going to retry. -/
theorem inv_of_quiet (hinv : Inv s) (hkeeps : Keeps s s') (hquiet : (s.thread t).retries = false) :
    Inv (s'.setThread t pc) := by
  refine inv_of_moved hinv hkeeps ?_
  intro _ hretries
  rw [hquiet] at hretries
  cases hretries

theorem inv_of_keeps (hinv : Inv s) (hkeeps : Keeps s s') : Inv s' := by
  intro hwants
  rcases hinv (hkeeps.wants hwants) with htimer | hqueue | ⟨t, ht⟩
  · exact Or.inl (hkeeps.timer.trans htimer)
  · exact Or.inr (Or.inl (by rw [hkeeps.queue]; exact hqueue))
  · exact Or.inr (Or.inr ⟨t, by rw [hkeeps.thread]; exact ht⟩)

theorem inv_of_retries (hpc : pc.retries = true) : Inv (s.setThread t pc) :=
  fun _ => scheduled_of_retries rfl hpc

theorem inv_of_timer (htimer : s.connectTimer = true) : Inv (s.setThread t pc) :=
  fun _ => Or.inl htimer

theorem inv_finishAutoConnect {c : Caller} {d : Device} {r : State × AutoConnectResult} (hinv : Inv s)
    (hkeeps : Keeps s r.1) (hquiet : (s.thread t).retries = false) :
    Inv (finishAutoConnect t c d r) := by
  obtain ⟨s₁, result⟩ := r
  cases result with
  | attempt tried => exact inv_of_quiet hinv hkeeps hquiet
  | done isConnected => exact inv_of_quiet hinv hkeeps hquiet

/-! ## Every step -/

theorem not_wants_of_connected (hconnected : (s.dpCommon none).connected = true) : ¬ Wants s := by
  intro hwants
  exact absurd (hwants.connected.symm.trans hconnected) (by decide)

theorem not_wants_of_autoConnect (hauto : ¬ (s.dpCommon none).autoConnect = true) : ¬ Wants s :=
  fun hwants => hauto hwants.autoConnect

theorem inv_exceptionStep (hinv : Inv s) (hstep : exceptionStep s t = some s') : Inv s' := by
  unfold exceptionStep at hstep
  split at hstep
  · next d hpc =>
    cases hstep
    refine inv_of_quiet hinv (keeps_connected s d) ?_
    rw [hpc]
    rfl
  · cases hstep
    exact inv_of_retries rfl
  · next d hpc =>
    cases hstep
    split
    · next hconnected =>
      refine inv_of_moved hinv (Keeps.refl s) ?_
      intro hwants
      exact absurd hwants (not_wants_of_connected hconnected)
    · exact inv_of_retries rfl
  · next d hpc =>
    cases hstep
    split
    · exact inv_of_retries rfl
    · next hauto =>
      refine inv_of_moved hinv (Keeps.refl s) ?_
      intro hwants
      exact absurd hwants (not_wants_of_autoConnect hauto)
  · cases hstep
    exact inv_of_timer rfl
  · next d hpc =>
    cases hstep
    refine inv_of_quiet hinv (keeps_modDp s d _ (fun _ h => h) (fun _ => rfl) (fun _ h => h)) ?_
    rw [hpc]
    rfl
  · cases hstep

theorem inv_autoConnectStep (hinv : Inv s) (hstep : autoConnectStep s t = some s') : Inv s' := by
  unfold autoConnectStep at hstep
  split at hstep
  · next d hpc =>
    cases hstep
    split
    · next hconnected =>
      refine inv_of_moved hinv (Keeps.refl s) ?_
      intro hwants hretries
      -- Only the port's own `autoConnect` has been promised a retry.
      have hd : d = none := by
        rw [hpc] at hretries
        exact Option.isNone_iff_eq_none.mp hretries
      rw [hd] at hconnected
      exact absurd hwants (not_wants_of_connected hconnected)
    · refine inv_of_moved hinv (Keeps.refl s) ?_
      intro _ hretries
      rw [hpc] at hretries
      exact hretries
  · next d hpc =>
    cases hstep
    split
    · exact inv_of_retries rfl
    · next hauto =>
      refine inv_of_moved hinv (Keeps.refl s) ?_
      intro hwants hretries
      have hd : d = none := by
        rw [hpc] at hretries
        exact Option.isNone_iff_eq_none.mp hretries
      rw [hd] at hauto
      exact absurd hwants (not_wants_of_autoConnect hauto)
  · cases hstep
    exact inv_of_timer rfl
  · cases hstep

theorem inv_autoConnectAsyn {d : Device} {yesNo : Bool} (hinv : Inv s)
    (hstep : autoConnectAsyn p s t d yesNo = some s') : Inv s' := by
  unfold autoConnectAsyn at hstep
  split at hstep
  · next hguard =>
    cases hstep
    cases d with
    | none => exact inv_of_retries rfl
    | some addr =>
        have hkeeps : Keeps s (s.modDp (some addr) fun x => { x with autoConnect := yesNo }) := by
          have hne : none ≠ some addr := (Option.some_ne_none addr).symm
          refine ⟨?_, rfl, rfl, rfl⟩
          rintro ⟨hc, ha, hf⟩
          rw [modDp_none s _ hne] at hc ha hf
          exact ⟨hc, ha, hf⟩
        refine inv_of_quiet hinv hkeeps ?_
        rw [hguard.1]
        rfl
  · cases hstep

theorem inv_portConnectTimerCallback (hinv : Inv s)
    (haccepted : Accepted s (.portConnectTimerCallback t))
    (hstep : portConnectTimerCallback p s t = some s') : Inv s' := by
  unfold portConnectTimerCallback at hstep
  split at hstep
  · cases hstep
    split
    · next hconnected =>
      refine inv_of_moved hinv (Keeps.refl s) ?_
      intro hwants
      exact absurd hwants (not_wants_of_connected hconnected)
    · exact inv_of_retries rfl
  · cases hstep
    split
    · exact inv_of_retries rfl
    · next hauto =>
      refine inv_of_moved hinv (Keeps.refl s) ?_
      intro hwants
      exact absurd hwants (not_wants_of_autoConnect hauto)
  · next hpc =>
    cases hstep
    unfold queueConnectRequest
    split
    · split
      · split
        · next hqueued =>
          intro _
          exact Or.inr (Or.inl hqueued)
        · intro _
          refine Or.inr (Or.inl ?_)
          exact List.mem_append_right _ (List.mem_singleton_self _)
      · exact inv_of_retries rfl
    · next henabled =>
      -- The request is refused: that is the step the guard is about.
      refine inv_of_moved hinv (Keeps.refl s) ?_
      intro hwants
      rcases haccepted hpc with htrue | hdefunct
      · exact absurd htrue henabled
      · exact absurd (hwants.defunct.symm.trans hdefunct) (by decide)
  · cases hstep

theorem connect_connected (s : State) (d : Device) : ((s.connect p d).dpCommon d).connected = true := by
  unfold State.connect
  split
  · next hconnected => exact hconnected
  · show (Function.update s.dpCommon d (connected (s.dpCommon d)) d).connected = true
    rw [Function.update_self]
    rfl

theorem inv_portConnectProcessCallback {success : Bool} (hinv : Inv s)
    (hstep : portConnectProcessCallback p s t success = some s') : Inv s' := by
  unfold portConnectProcessCallback at hstep
  split at hstep
  · cases hstep
    split
    · next hconnected =>
      refine inv_of_moved hinv (Keeps.refl s) ?_
      intro hwants
      exact absurd hwants (not_wants_of_connected hconnected)
    · exact inv_of_retries rfl
  · cases hstep
    split
    · refine inv_of_moved hinv (keeps_connect s none) ?_
      intro hwants
      exact absurd hwants (not_wants_of_connected (connect_connected s none))
    · exact inv_of_retries rfl
  · cases hstep
    exact inv_of_timer rfl
  · cases hstep

theorem inv_connectAttempt {success : Bool} (hinv : Inv s)
    (hstep : connectAttempt p s t success = some s') : Inv s' := by
  unfold connectAttempt at hstep
  split at hstep
  · next c d tried hpc =>
    have hquiet : (s.thread t).retries = false := by
      rw [hpc]
      rfl
    split at hstep
    · cases hstep
      exact inv_of_quiet hinv (Keeps.refl s) hquiet
    · cases hstep
      exact inv_of_quiet hinv (Keeps.refl s) hquiet
  · next c d tried hpc =>
    cases hstep
    refine inv_of_quiet hinv ?_ ?_
    · split
      · exact keeps_connect s tried
      · exact Keeps.refl s
    · rw [hpc]
      rfl
  · next c d tried hpc =>
    cases hstep
    refine inv_finishAutoConnect hinv (keeps_autoConnectResume s d tried) ?_
    rw [hpc]
    rfl
  · cases hstep

/-- The connect requests: the port's own is processed, the others come off the queue. -/
theorem inv_connectLoop (hinv : Inv s) (hquiet : (s.thread .portThread).retries = false) :
    Inv (connectLoop s) := by
  unfold connectLoop
  split
  · exact inv_of_retries rfl
  · next u rest hqueue =>
    have hrest : Inv { s with connectQueue := rest } := by
      intro hwants
      rcases hinv ⟨hwants.connected, hwants.autoConnect, hwants.defunct⟩ with htimer | hmem | hretries
      · exact Or.inl htimer
      · rw [hqueue] at hmem
        have hne : Request.pconnectUser ≠ .other u := Request.noConfusion
        exact Or.inr (Or.inl (List.mem_of_ne_of_mem hne hmem))
      · exact Or.inr (Or.inr hretries)
    exact inv_of_quiet hrest (Keeps.refl _) hquiet
  · split
    · exact inv_of_quiet hinv (Keeps.refl s) hquiet
    · exact inv_finishAutoConnect hinv (keeps_autoConnectDevice s none) hquiet

theorem inv_portThread (hinv : Inv s) (hstep : portThread s = some s') : Inv s' := by
  unfold portThread at hstep
  split at hstep
  · next hpc =>
    have hquiet : (s.thread .portThread).retries = false := by
      rw [hpc]
      rfl
    cases hstep
    split
    · exact inv_connectLoop hinv hquiet
    · exact inv_of_quiet hinv (Keeps.refl s) hquiet
  · next hpc =>
    cases hstep
    apply inv_connectLoop hinv
    rw [hpc]
    rfl
  · next u hpc =>
    cases hstep
    refine inv_of_quiet hinv (Keeps.refl s) ?_
    rw [hpc]
    rfl
  · cases hstep

/-- The queue grows or loses requests of other users. -/
theorem inv_of_queue {queue : List Request} (hinv : Inv s)
    (hqueue : Request.pconnectUser ∈ s.connectQueue → Request.pconnectUser ∈ queue) :
    Inv { s with connectQueue := queue, notifyPortThread := true } := by
  intro hwants
  rcases hinv ⟨hwants.connected, hwants.autoConnect, hwants.defunct⟩ with htimer | hmem | hretries
  · exact Or.inl htimer
  · exact Or.inr (Or.inl (hqueue hmem))
  · exact Or.inr (Or.inr hretries)

theorem quiet_of_idle (hidle : s.thread t = .idle) : (s.thread t).retries = false := by
  rw [hidle]
  rfl

theorem inv_step {a : Action} (haccepted : Accepted s a) (hinv : Inv s) (hstep : step p s a = some s') :
    Inv s' := by
  cases a with
  | exceptionConnect t d =>
      simp only [step, exceptionConnect] at hstep
      split at hstep
      · next hguard =>
        cases hstep
        exact inv_of_quiet hinv (Keeps.refl s) (quiet_of_idle hguard.1)
      · cases hstep
  | exceptionDisconnect t d =>
      simp only [step, exceptionDisconnect] at hstep
      split at hstep
      · next hguard =>
        cases hstep
        exact inv_of_quiet hinv (Keeps.refl s) (quiet_of_idle hguard.1)
      · cases hstep
  | exceptionStep t => exact inv_exceptionStep hinv hstep
  | announce t =>
      simp only [step, announce] at hstep
      split at hstep
      · next hpc =>
        cases hstep
        refine inv_of_quiet hinv (keeps_signal s) ?_
        rw [hpc]
        rfl
      · cases hstep
  | enable t d yesNo =>
      simp only [step, enable] at hstep
      split at hstep
      · next hguard =>
        cases hstep
        have hkeeps := keeps_modDp s d (fun x => { x with enabled := yesNo }) (fun _ h => h)
          (fun _ => rfl) (fun _ h => h)
        exact inv_of_quiet hinv hkeeps (quiet_of_idle hguard.1)
      · cases hstep
  | autoConnectAsyn t d yesNo => exact inv_autoConnectAsyn hinv hstep
  | autoConnectStep t => exact inv_autoConnectStep hinv hstep
  | shutdownPort t d =>
      simp only [step, shutdownPort] at hstep
      split at hstep
      · next hguard =>
        cases hstep
        have hkeeps := keeps_modDp s d (fun x => { x with enabled := false, defunct := true })
          (fun _ h => h) (fun _ => rfl) (fun _ h => absurd h Bool.noConfusion)
        exact inv_of_quiet hinv hkeeps (quiet_of_idle hguard.1)
      · cases hstep
  | timerExpire =>
      simp only [step, timerExpire] at hstep
      split at hstep
      · cases hstep
        exact inv_of_retries rfl
      · cases hstep
  | portConnectTimerCallback t => exact inv_portConnectTimerCallback hinv haccepted hstep
  | portConnectProcessCallback t success => exact inv_portConnectProcessCallback hinv hstep
  | connectAttempt t success => exact inv_connectAttempt hinv hstep
  | queueRequestSync t d =>
      simp only [step, queueRequestSync] at hstep
      split at hstep
      · next hguard =>
        cases hstep
        exact inv_finishAutoConnect hinv (keeps_autoConnectDevice s d) (quiet_of_idle hguard.1)
      · cases hstep
  | portWake =>
      simp only [step, portWake] at hstep
      split at hstep
      · next hguard =>
        cases hstep
        have hkeeps : Keeps s { s with notifyPortThread := false } :=
          ⟨fun h => ⟨h.connected, h.autoConnect, h.defunct⟩, rfl, rfl, rfl⟩
        exact inv_of_quiet hinv hkeeps (quiet_of_idle hguard.2.1)
      · cases hstep
  | portThread => exact inv_portThread hinv hstep
  | portScan d =>
      simp only [step, portScan] at hstep
      split at hstep
      · next hguard =>
        cases hstep
        refine inv_finishAutoConnect hinv (keeps_autoConnectDevice s d) ?_
        rw [hguard.1]
        rfl
      · cases hstep
  | portScanEnd =>
      simp only [step, portScanEnd] at hstep
      split at hstep
      · next hpc =>
        cases hstep
        refine inv_of_quiet hinv (Keeps.refl s) ?_
        rw [hpc]
        rfl
      · cases hstep
  | queueRequest u =>
      simp only [step, queueRequest] at hstep
      split at hstep
      · cases hstep
        exact inv_of_queue hinv (List.mem_append_left _)
      · cases hstep
  | cancelRequest u =>
      simp only [step, cancelRequest] at hstep
      split at hstep
      · cases hstep
        -- a user cancels its own request, never that of `pconnectUser`
        have hne : Request.pconnectUser ≠ .other u := Request.noConfusion
        exact inv_of_queue hinv (List.mem_erase_of_ne hne).mpr
      · cases hstep
  | signal =>
      cases hstep
      exact inv_of_keeps hinv (keeps_signal s)
  | tick elapsed =>
      cases hstep
      exact inv_of_keeps hinv ⟨fun h => ⟨h.connected, h.autoConnect, h.defunct⟩, rfl, rfl, rfl⟩

theorem inv_of_reachable (hreach : (machine p).Reachable Accepted s) : Inv s := by
  refine hreach.invariant ?_ ?_
  · intro s hs _
    refine Or.inr (Or.inr ⟨.client 0, ?_⟩)
    rw [hs.thread, Function.update_self]
    rfl
  · intro s a s' hok hinv hstep
    exact inv_step hok hinv hstep

/-- If no request of the timer is refused, a reconnection is always scheduled. -/
theorem reconnectScheduled_of_reachable (hreach : (machine p).Reachable Accepted s)
    (hleft : LeftDisconnected s) : ReconnectScheduled s := by
  rcases inv_of_reachable hreach ⟨hleft.connected, hleft.autoConnect, hleft.defunct⟩ with
    htimer | hqueue | ⟨t, hretries⟩
  · exact Or.inl htimer
  · exact Or.inr (Or.inl hqueue)
  · rw [hleft.idle t] at hretries
    cases hretries

/-! ## A refused request -/

/-- A port with `autoConnect` right after the registration of its `asynCommon` interface. -/
def State.registered : State where
  dpCommon := fun _ => dpCommonInit true
  now := 0
  connectTimer := false
  connectQueue := []
  notifyPortThread := false
  thread := Function.update (fun _ => Pc.idle) (.client 0) .timerConnected

theorem registered_init (p : Attributes) : (machine p).init .registered :=
  ⟨rfl, List.not_mem_nil, rfl⟩

/-- A port of one device, with a thread of its own. -/
def blockingPort : Attributes := ⟨false, true⟩

/-- The first connect request is processed and fails. -/
def failedConnect : List Action :=
  [.portConnectTimerCallback (.client 0), .portConnectTimerCallback (.client 0),
    .portConnectTimerCallback (.client 0), .portWake, .portThread,
    .portConnectProcessCallback .portThread false, .portConnectProcessCallback .portThread false,
    .portConnectProcessCallback .portThread false, .portThread]

/-- The timer expires while the port is disabled; after `enable` the port thread tries once more, and
fails. -/
def refusedRun : List Action :=
  failedConnect ++
    [Action.enable 1 none false, .announce (.client 1), .portWake, .portThread, .timerExpire,
      .portConnectTimerCallback .timerThread, .portConnectTimerCallback .timerThread,
      .portConnectTimerCallback .timerThread, .tick 20000, .enable 1 none true, .announce (.client 1),
      .portWake, .portThread, .connectAttempt .portThread false, .connectAttempt .portThread false,
      .connectAttempt .portThread false]

/-- What the threads do, each of the ones a run names and all the others. -/
def State.threads (s : State) : (Pc × Pc × Pc × Pc) × (ThreadId → Pc) :=
  ((s.thread .timerThread, s.thread .portThread, s.thread (.client 0), s.thread (.client 1)),
    fun t => s.thread (.client (t + 2)))

theorem idle_of_threads (hthreads : s.threads = ((.idle, .idle, .idle, .idle), fun _ => .idle))
    (t : Thread) : s.thread t = .idle := by
  obtain ⟨hnamed, hothers⟩ := Prod.mk.inj hthreads
  obtain ⟨htimer, hrest⟩ := Prod.mk.inj hnamed
  obtain ⟨hport, hclients⟩ := Prod.mk.inj hrest
  obtain ⟨hzero, hone⟩ := Prod.mk.inj hclients
  match t with
  | .timerThread => exact htimer
  | .portThread => exact hport
  | .client 0 => exact hzero
  | .client 1 => exact hone
  | .client (t + 2) => exact congrFun hothers t

/-- The four flags of the port that `LeftDisconnected` reads. -/
def State.flags (s : State) : Bool × Bool × Bool × Bool :=
  ((s.dpCommon none).enabled, (s.dpCommon none).defunct, (s.dpCommon none).autoConnect,
    (s.dpCommon none).connected)

theorem leftDisconnected_of_flags
    (hthreads : s.threads = ((.idle, .idle, .idle, .idle), fun _ => .idle))
    (hflags : s.flags = (true, false, true, false)) : LeftDisconnected s := by
  obtain ⟨henabled, hrest⟩ := Prod.mk.inj hflags
  obtain ⟨hdefunct, hrest⟩ := Prod.mk.inj hrest
  obtain ⟨hauto, hconnected⟩ := Prod.mk.inj hrest
  exact ⟨idle_of_threads hthreads, henabled, hdefunct, hauto, hconnected⟩

theorem reconnectScheduled_failedConnect :
    ∃ s, (machine blockingPort).Reachable Accepted s ∧ LeftDisconnected s ∧ ReconnectScheduled s := by
  have hrun : ∃ s, (machine blockingPort).Reachable Accepted s ∧ (s.threads, s.flags) =
      (((.idle, .idle, .idle, .idle), fun _ => .idle), (true, false, true, false)) := by
    have hcheck : ∀ s a, decide (Accepted s a) = true → Accepted s a := fun _ _ => of_decide_eq_true
    exact Machine.exists_reachable_of_execGuarded _ hcheck failedConnect (s := .registered)
      (registered_init _) rfl
  obtain ⟨s, hreach, hvalues⟩ := hrun
  obtain ⟨hthreads, hflags⟩ := Prod.mk.inj hvalues
  have hleft := leftDisconnected_of_flags hthreads hflags
  exact ⟨s, hreach, hleft, reconnectScheduled_of_reachable hreach hleft⟩

/-- An enabled port with `autoConnect` can be left disconnected with nothing that will retry. -/
theorem left_disconnected :
    ∃ s, (machine blockingPort).Reachable Machine.Unguarded s ∧ LeftDisconnected s ∧
      ¬ ReconnectScheduled s := by
  obtain ⟨s, hreach, hvalues⟩ := Machine.exists_reachable_of_exec (M := machine blockingPort)
    (fun s => ((s.threads, s.flags), s.connectTimer, s.connectQueue, s.notifyPortThread))
    (s := .registered)
    (b := ((((.idle, .idle, .idle, .idle), fun _ => .idle), (true, false, true, false)),
      false, [], false)) refusedRun (registered_init _) rfl
  obtain ⟨hquiet, hrest⟩ := Prod.mk.inj hvalues
  obtain ⟨hthreads, hflags⟩ := Prod.mk.inj hquiet
  obtain ⟨htimer, hrest⟩ := Prod.mk.inj hrest
  obtain ⟨hqueue, hnotify⟩ := Prod.mk.inj hrest
  refine ⟨s, hreach, leftDisconnected_of_flags hthreads hflags, ?_⟩
  rintro (h | h | h)
  · rw [htimer] at h
    cases h
  · rw [hqueue] at h
    cases h
  · rw [hnotify] at h
    cases h

end PortConnect
end Manager
end AsynDriver
