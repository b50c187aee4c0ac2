import AsynDriver.Manager.WaitConnectSteps

/-!
# What `waitConnect` returns

* `HistoryInv` — `wasConnected` records every connection since the call began: in every run.
* `EventInv` — an event is signalled only after a connection during the call.
* `PendingInv` — while the port or device is connected, an announcement of it is ahead of each call
  that waits: no wake-up is lost.
* `waitSafe_of_reachable` — timely runs are `WaitSafe`; `waitConnect_wrong` has three that are not.
-/

namespace AsynDriver
namespace Manager
namespace WaitConnect

open Library

variable {connect : CallId → Bool} {ok : Prop} {v v' : WaitView}

/-! ## Since the call began -/

structure HistoryInv (v : WaitView) : Prop where
  bound : v.wait.pc ≠ .idle → v.wait.connectsBefore ≤ v.numberConnects
  connected : v.wait.pc ≠ .idle → v.connected = true → v.wasConnected = true

theorem wasConnected_of_before (hbefore : v.wait.connectedBefore = true) : v.wasConnected = true := by
  unfold WaitView.wasConnected
  rw [hbefore]
  rfl

theorem wasConnected_of_lt (hlt : v.wait.connectsBefore < v.numberConnects) : v.wasConnected = true := by
  unfold WaitView.wasConnected
  rw [decide_eq_true hlt, Bool.or_true]

theorem entered_of_pc {pc : WaitPc} (hpc : v.wait.pc = pc) (hne : pc ≠ .idle) : v.wait.pc ≠ .idle := by
  rw [hpc]
  exact hne

theorem history_step (hstep : WaitStep connect ok v v') (hinv : HistoryInv v) : HistoryInv v' := by
  cases hstep with
  | unpassed stage hstage => exact ⟨hinv.bound, hinv.connected⟩
  | entered hpc => exact ⟨fun _ => le_rfl, fun _ hconnected => wasConnected_of_before hconnected⟩
  | found hpc hok =>
      have hentered := entered_of_pc hpc (by decide)
      exact ⟨fun _ => hinv.bound hentered, fun _ => hinv.connected hentered⟩
  | notFound hpc =>
      have hentered := entered_of_pc hpc (by decide)
      exact ⟨fun _ => hinv.bound hentered, fun _ => hinv.connected hentered⟩
  | added stage hpc hstage hannounced hquiet =>
      have hentered := entered_of_pc hpc (by decide)
      exact ⟨fun _ => hinv.bound hentered, fun _ => hinv.connected hentered⟩
  | woken hpc hevent =>
      have hentered := entered_of_pc hpc (by decide)
      exact ⟨fun _ => hinv.bound hentered, fun _ => hinv.connected hentered⟩
  | expired hpc hevent hok =>
      have hentered := entered_of_pc hpc (by decide)
      exact ⟨fun _ => hinv.bound hentered, fun _ => hinv.connected hentered⟩
  | removed stage isConnected hpc =>
      have hentered := entered_of_pc hpc (by simp)
      exact ⟨fun _ => hinv.bound hentered, fun _ => hinv.connected hentered⟩
  | tested k hstage hconnected => exact ⟨hinv.bound, hinv.connected⟩
  | changed k hstage hok =>
      cases hconnect : connect k with
      | true =>
          refine ⟨fun hentered => Nat.le_succ_of_le (hinv.bound hentered), ?_⟩
          intro hentered _
          exact wasConnected_of_lt (Nat.lt_succ_of_le (hinv.bound hentered))
      | false =>
          refine ⟨hinv.bound, ?_⟩
          intro _ hconnected
          cases hconnected
  | walking k stage hstage hwalk hlisted => exact ⟨hinv.bound, hinv.connected⟩
  | called k hlisted hstage => exact ⟨hinv.bound, hinv.connected⟩
  | ended k hstage => exact ⟨hinv.bound, hinv.connected⟩

/-! ## The event -/

/-- No announcement under way can signal the event. -/
def Quiet (connect : CallId → Bool) (stage : CallId → Stage) : Prop :=
  ∀ k, stage k = .away ∨ (connect k = true ∧ stage k = .tested)

structure EventInv (connect : CallId → Bool) (v : WaitView) : Prop where
  unsignalled : v.wait.pc = .adding → v.wait.connectEvent = false
  quiet : v.wait.pc.listed = true → v.wasConnected = true ∨ Quiet connect v.stage
  signalled : v.wait.pc.listed = true → v.wait.connectEvent = true → v.wasConnected = true
  woken : v.wait.pc = .removing true → v.wasConnected = true

theorem Quiet.unpassed {stage stage' : CallId → Stage} (hquiet : Quiet connect stage)
    (hunpassed : Unpassed stage stage') : Quiet connect stage' := by
  intro k
  rcases hunpassed k with hsame | ⟨hbehind, -⟩
  · rw [hsame]
    exact hquiet k
  · rcases hquiet k with haway | ⟨-, htested⟩
    · exact absurd (hbehind.symm.trans haway) (by decide)
    · exact absurd (hbehind.symm.trans htested) (by decide)

/-- An announcement that is past its test is not quiet. -/
theorem Quiet.elim {stage : CallId → Stage} {k : CallId} (hquiet : Quiet connect stage)
    (haway : stage k ≠ .away) (htested : stage k ≠ .tested) : False := by
  rcases hquiet k with h | ⟨-, h⟩
  · exact haway h
  · exact htested h

/-- A connection, or a call that found the port connected, makes up for what comes. -/
theorem wasConnected_or_quiet_changed {k : CallId} (hhistory : HistoryInv v)
    (hentered : v.wait.pc ≠ .idle) (hold : v.wasConnected = true ∨ Quiet connect v.stage)
    (hstage : v.stage k = .tested) :
    { v with
      connected := connect k
      numberConnects := if connect k then v.numberConnects + 1 else v.numberConnects
      stage := Function.update v.stage k .changed }.wasConnected = true := by
  cases hconnect : connect k with
  | true => exact wasConnected_of_lt (Nat.lt_succ_of_le (hhistory.bound hentered))
  | false =>
      rcases hold with hwas | hquiet
      · exact hwas
      · rcases hquiet k with haway | ⟨htrue, -⟩
        · exact absurd (hstage.symm.trans haway) (by decide)
        · exact absurd (hconnect.symm.trans htrue) (by decide)

theorem wasConnected_changed {k : CallId} {stage : CallId → Stage} (hwas : v.wasConnected = true) :
    { v with
      connected := connect k
      numberConnects := if connect k then v.numberConnects + 1 else v.numberConnects
      stage := stage }.wasConnected = true := by
  unfold WaitView.wasConnected at hwas ⊢
  rcases Bool.or_eq_true_iff.mp hwas with hbefore | hlt
  · exact Bool.or_eq_true_iff.mpr (Or.inl hbefore)
  · refine Bool.or_eq_true_iff.mpr (Or.inr (decide_eq_true ?_))
    have hless := of_decide_eq_true hlt
    show v.wait.connectsBefore < if connect k then v.numberConnects + 1 else v.numberConnects
    split
    · exact Nat.lt_succ_of_lt hless
    · exact hless

theorem entered_of_listed (hlisted : v.wait.pc.listed = true) : v.wait.pc ≠ .idle := by
  intro h
  rw [h] at hlisted
  cases hlisted

theorem event_step (hok : ok) (hstep : WaitStep connect ok v v') (hhistory : HistoryInv v)
    (hinv : EventInv connect v) : EventInv connect v' := by
  cases hstep with
  | unpassed stage hstage =>
      refine ⟨hinv.unsignalled, ?_, hinv.signalled, hinv.woken⟩
      intro hlisted
      exact (hinv.quiet hlisted).imp id fun hquiet => hquiet.unpassed hstage
  | entered hpc =>
      refine ⟨?_, ?_, ?_, ?_⟩ <;> intro h <;> cases h
  | found hpc hguard =>
      refine ⟨?_, ?_, ?_, ?_⟩ <;> intro h <;> cases h
  | notFound hpc =>
      refine ⟨fun _ => rfl, ?_, ?_, ?_⟩ <;> intro h <;> cases h
  | added stage hpc hstage hannounced hquiet =>
      refine ⟨?_, ?_, ?_, ?_⟩
      · intro h
        cases h
      · intro _
        exact (hquiet hok).imp id fun hquiet => Quiet.unpassed hquiet hstage
      · intro _ hevent
        exact absurd hevent (by rw [hinv.unsignalled hpc]; decide)
      · intro h
        cases h
  | woken hpc hevent =>
      have hlisted : v.wait.pc.listed = true := by
        rw [hpc]
        rfl
      have hwas := hinv.signalled hlisted hevent
      exact ⟨(fun h => nomatch h), fun _ => Or.inl hwas, fun _ _ => hwas, fun _ => hwas⟩
  | expired hpc hevent hguard =>
      have hlisted : v.wait.pc.listed = true := by
        rw [hpc]
        rfl
      exact ⟨(fun h => nomatch h), fun _ => hinv.quiet hlisted, fun _ => hinv.signalled hlisted,
        (fun h => nomatch h)⟩
  | removed stage isConnected hpc =>
      refine ⟨?_, ?_, ?_, ?_⟩ <;> intro h <;> cases h
  | tested k hstage hconnected =>
      refine ⟨hinv.unsignalled, ?_, hinv.signalled, hinv.woken⟩
      intro hlisted
      rcases hinv.quiet hlisted with hwas | hquiet
      · exact Or.inl hwas
      · -- A disconnection can begin only where there is a connection.
        cases hconnect : connect k with
        | true =>
            right
            intro k'
            by_cases heq : k' = k
            · subst heq
              exact Or.inr ⟨hconnect, Function.update_self ..⟩
            · show Function.update v.stage k .tested k' = .away ∨ _ ∧ Function.update v.stage k .tested k' = .tested
              rw [Function.update_of_ne heq]
              exact hquiet k'
        | false =>
            rw [hconnect] at hconnected
            have htrue : v.connected = true := eq_true_of_ne_false hconnected
            exact Or.inl (hhistory.connected (entered_of_listed hlisted) htrue)
  | changed k hstage hguard =>
      refine ⟨hinv.unsignalled, ?_, ?_, ?_⟩
      · intro hlisted
        exact Or.inl (wasConnected_or_quiet_changed hhistory (entered_of_listed hlisted)
          (hinv.quiet hlisted) hstage)
      · intro hlisted hevent
        exact wasConnected_changed (hinv.signalled hlisted hevent)
      · intro hpc
        exact wasConnected_changed (hinv.woken hpc)
  | walking k stage hstage hwalk hlisted =>
      refine ⟨hinv.unsignalled, ?_, hinv.signalled, hinv.woken⟩
      intro hlisted
      rcases hinv.quiet hlisted with hwas | hquiet
      · exact Or.inl hwas
      · exact (hquiet.elim (by rw [hstage]; decide) (by rw [hstage]; decide)).elim
  | called k hlisted hstage =>
      have hwas : v.wasConnected = true := by
        rcases hinv.quiet hlisted with hwas | hquiet
        · exact hwas
        · exact (hquiet.elim (by rw [hstage]; decide) (by rw [hstage]; decide)).elim
      refine ⟨?_, fun _ => Or.inl hwas, fun _ _ => hwas, fun _ => hwas⟩
      intro hpc
      change v.wait.pc = .adding at hpc
      rw [hpc] at hlisted
      cases hlisted
  | ended k hstage =>
      refine ⟨hinv.unsignalled, ?_, hinv.signalled, hinv.woken⟩
      intro hlisted
      rcases hinv.quiet hlisted with hwas | hquiet
      · exact Or.inl hwas
      · exact (hquiet.elim (by rw [hstage]; decide) (by rw [hstage]; decide)).elim

/-! ## No wake-up is lost -/

/-- An `exceptionConnect` that will signal the event. -/
def Promised (connect : CallId → Bool) (stage : CallId → Stage) : Prop :=
  ∃ k, connect k = true ∧ (stage k = .changed ∨ stage k = .ahead)

structure PendingInv (connect : CallId → Bool) (v : WaitView) : Prop where
  promised : v.wait.pc = .waiting → v.wait.connectEvent = false → v.connected = true →
    Promised connect v.stage
  expired : v.wait.pc = .removing false → v.connected = false

theorem Promised.unpassed {stage stage' : CallId → Stage} (hpromised : Promised connect stage)
    (hunpassed : Unpassed stage stage') : Promised connect stage' := by
  obtain ⟨k, hconnect, hstage⟩ := hpromised
  refine ⟨k, hconnect, ?_⟩
  rcases hunpassed k with hsame | ⟨hbehind, hahead⟩
  · rw [hsame]
    exact hstage
  · exact Or.inr hahead

/-- Another announcement moves. -/
theorem Promised.update {stage : CallId → Stage} {k : CallId} {new : Stage}
    (hpromised : Promised connect stage)
    (hother : (stage k ≠ .changed ∧ stage k ≠ .ahead) ∨ new = .ahead ∨ new = .changed) :
    Promised connect (Function.update stage k new) := by
  obtain ⟨k', hconnect, hstage⟩ := hpromised
  refine ⟨k', hconnect, ?_⟩
  by_cases heq : k' = k
  · subst heq
    rw [Function.update_self]
    rcases hother with ⟨hchanged, hahead⟩ | hnew | hnew
    · rcases hstage with h | h
      · exact absurd h hchanged
      · exact absurd h hahead
    · exact Or.inr hnew
    · exact Or.inl hnew
  · rw [Function.update_of_ne heq]
    exact hstage

theorem pending_step (hok : ok) (hstep : WaitStep connect ok v v') (hinv : PendingInv connect v) : PendingInv connect v' := by
  cases hstep with
  | unpassed stage hstage =>
      refine ⟨?_, hinv.expired⟩
      intro hpc hunsignalled hconnected
      exact (hinv.promised hpc hunsignalled hconnected).unpassed hstage
  | entered hpc => exact ⟨(fun h => nomatch h), (fun h => nomatch h)⟩
  | found hpc hguard => exact ⟨(fun h => nomatch h), (fun h => nomatch h)⟩
  | notFound hpc => exact ⟨(fun h => nomatch h), (fun h => nomatch h)⟩
  | added stage hpc hstage hannounced hquiet =>
      refine ⟨?_, (fun h => nomatch h)⟩
      intro _ _ hconnected
      obtain ⟨k, hconnect, hchanged⟩ := hannounced hok hconnected
      exact Promised.unpassed ⟨k, hconnect, Or.inl hchanged⟩ hstage
  | woken hpc hsignalled => exact ⟨(fun h => nomatch h), (fun h => nomatch h)⟩
  | expired hpc hunsignalled hguard =>
      refine ⟨(fun h => nomatch h), ?_⟩
      intro _
      by_contra hconnected
      obtain ⟨k, hconnect, hstage⟩ :=
        hinv.promised hpc hunsignalled (eq_true_of_ne_false hconnected)
      rcases hguard hok k hconnect with haway | htested
      · rcases hstage with h | h <;> exact absurd (h.symm.trans haway) (by decide)
      · rcases hstage with h | h <;> exact absurd (h.symm.trans htested) (by decide)
  | removed stage isConnected hpc => exact ⟨(fun h => nomatch h), (fun h => nomatch h)⟩
  | tested k hstage hconnected =>
      refine ⟨?_, hinv.expired⟩
      intro hpc hunsignalled htrue
      refine (hinv.promised hpc hunsignalled htrue).update (Or.inl ?_)
      rw [hstage]
      decide
  | changed k hstage hguard =>
      refine ⟨?_, ?_⟩
      · intro hpc hunsignalled hconnect
        exact ⟨k, hconnect, Or.inl (Function.update_self ..)⟩
      · intro hpc
        cases hconnect : connect k with
        | true => exact absurd hpc (hguard hok hconnect)
        | false => rfl
  | walking k stage hstage hwalk hlisted =>
      refine ⟨?_, hinv.expired⟩
      intro hpc hunsignalled hconnected
      refine (hinv.promised hpc hunsignalled hconnected).update (Or.inr (Or.inl (hlisted ?_)))
      have hwaiting : v.wait.pc = .waiting := hpc
      rw [hwaiting]
      rfl
  | called k hlisted hstage => exact ⟨(fun _ h => nomatch h), hinv.expired⟩
  | ended k hstage =>
      refine ⟨?_, hinv.expired⟩
      intro hpc hunsignalled hconnected
      refine (hinv.promised hpc hunsignalled hconnected).update (Or.inl ?_)
      rw [hstage]
      decide

/-! ## The result -/

def ReturnInv (v : WaitView) : Prop :=
  ∀ r, v.wait.pc = .returned r →
    (r.status = .asynSuccess → r.wasConnected = true) ∧
      (r.status ≠ .asynSuccess → r.connectedAtEnd = false)

theorem return_step (hok : ok) (hstep : WaitStep connect ok v v') (hhistory : HistoryInv v)
    (hevent : EventInv connect v) (hpending : PendingInv connect v) (hinv : ReturnInv v) :
    ReturnInv v' := by
  cases hstep with
  | found hpc hguard =>
      rintro r hr
      cases hr
      have hentered := entered_of_pc hpc (by decide)
      exact ⟨fun _ => hhistory.connected hentered (hguard hok), fun h => absurd rfl h⟩
  | removed stage isConnected hpc =>
      rintro r hr
      cases hr
      cases isConnected with
      | true => exact ⟨fun _ => hevent.woken hpc, fun h => absurd rfl h⟩
      | false => exact ⟨(fun h => nomatch h), fun _ => hpending.expired hpc⟩
  | unpassed stage hstage => exact hinv
  | tested k hstage hconnected => exact hinv
  | changed k hstage hguard => exact hinv
  | walking k stage hstage hwalk hlisted => exact hinv
  | called k hlisted hstage => exact hinv
  | ended k hstage => exact hinv
  | _ => exact (fun r hr => nomatch hr)

structure WaitInv (connect : CallId → Bool) (v : WaitView) : Prop where
  history : HistoryInv v
  event : EventInv connect v
  pending : PendingInv connect v
  result : ReturnInv v

theorem inv_start (c : Calls) (connected : Device → Bool) (w : CallId) :
    WaitInv c.connect (State.view c (.start connected) w) := by
  refine ⟨⟨?_, ?_⟩, ⟨?_, ?_, ?_, ?_⟩, ⟨?_, ?_⟩, fun r hr => by cases hr⟩
  · exact fun h => absurd rfl h
  · exact fun h => absurd rfl h
  all_goals
    intro h
    cases h

/-- In every timely run `waitConnect` returns what it should. -/
theorem waitSafe_of_reachable {c : Calls} {s : State} (hreach : (machine c).Reachable (Timely c) s) :
    WaitSafe s := by
  intro w
  have hinv : WaitInv c.connect (s.view c w) := by
    refine view_invariant (inv_start c) ?_ hreach w
    intro s a v v' hok hstep hinv
    exact ⟨history_step hstep hinv.history, event_step hok hstep hinv.history hinv.event,
      pending_step hok hstep hinv.pending,
      return_step hok hstep hinv.history hinv.event hinv.pending hinv.result⟩
  exact hinv.result

/-- Two announcements of the port, first an `exceptionConnect`, and `waitConnect` for the port or a
device. -/
def twoCalls (device : Device) (connect : CallId → Bool) : Calls where
  waitDevice := fun _ => device
  device := fun _ => none
  connect := connect

/-- An announcement from its test to its walk along the list. -/
def announce (k : CallId) : List Action :=
  [.testConnected k, .changeConnected k, .startAnnouncement k, .walkAnnouncement k]

/-- The port connects while `waitConnect` waits. -/
def wokenRun : List Action :=
  [Action.enterWait 0, .testWait 0, .addWait 0] ++ announce 0 ++
    [Action.walkAnnouncement 0, .walkAnnouncement 0, .endAnnouncement 0, .wakeWait 0, .removeWait 0]

theorem waitSafe_wokenRun :
    ∃ s, WaitSafe s ∧ (s.wait 0).pc = .returned ⟨.asynSuccess, true, true⟩ := by
  have hcheck : ∀ s a, decide (Timely (twoCalls none fun _ => true) s a) = true →
      Timely (twoCalls none fun _ => true) s a := fun _ _ => of_decide_eq_true
  obtain ⟨s, hreach, hpc⟩ := Machine.exists_reachable_of_execGuarded
    (M := machine (twoCalls none fun _ => true)) (fun s => (s.wait 0).pc) hcheck wokenRun
    (s := .start fun _ => false) (b := .returned ⟨.asynSuccess, true, true⟩) ⟨_, rfl⟩ (by decide)
  exact ⟨s, waitSafe_of_reachable hreach, hpc⟩

/-- The announcement of a connection is over before the callback is on the list. -/
def lateRun : List Action :=
  [Action.enterWait 0, .testWait 0] ++ announce 0 ++
    [Action.endAnnouncement 0, .addWait 0, .expireWait 0, .removeWait 0]

/-- The announcement of a disconnection comes to the callback of a later `waitConnect`. -/
def staleRun : List Action :=
  [.testConnected 0, .changeConnected 0, .enterWait 0, .testWait 0, .addWait 0, .startAnnouncement 0,
    .walkAnnouncement 0, .walkAnnouncement 0, .walkAnnouncement 0, .endAnnouncement 0, .wakeWait 0,
    .removeWait 0]

/-- `waitConnect` fails although the port has been connected since it was called; it succeeds for a port
that is disconnected all the time; and it succeeds for a device that is disconnected all the time, when
the port is connected. -/
theorem waitConnect_wrong :
    (∃ s, (machine (twoCalls none fun _ => true)).Reachable Machine.Unguarded s ∧
      (s.wait 0).pc = .returned ⟨.asynError, true, true⟩ ∧ ¬ WaitSafe s) ∧
    (∃ s, (machine (twoCalls none fun _ => false)).Reachable Machine.Unguarded s ∧
      (s.wait 0).pc = .returned ⟨.asynSuccess, false, false⟩ ∧ ¬ WaitSafe s) ∧
    (∃ s, (machine (twoCalls (some 0) fun _ => true)).Reachable Machine.Unguarded s ∧
      (s.wait 0).pc = .returned ⟨.asynSuccess, false, false⟩ ∧ ¬ WaitSafe s) := by
  have hsuccess : ∀ s : State, (s.wait 0).pc = .returned ⟨.asynSuccess, false, false⟩ → ¬ WaitSafe s := by
    intro s hpc hsafe
    exact absurd ((hsafe 0 _ hpc).1 rfl) (by decide)
  refine ⟨?_, ?_, ?_⟩
  · obtain ⟨s, hreach, hpc⟩ := Machine.exists_reachable_of_exec
      (M := machine (twoCalls none fun _ => true)) (fun s => (s.wait 0).pc) lateRun
      (s := .start fun _ => false) (b := .returned ⟨.asynError, true, true⟩) ⟨_, rfl⟩ (by decide)
    refine ⟨s, hreach, hpc, ?_⟩
    intro hsafe
    exact absurd ((hsafe 0 _ hpc).2 (by decide)) (by decide)
  · obtain ⟨s, hreach, hpc⟩ := Machine.exists_reachable_of_exec
      (M := machine (twoCalls none fun _ => false)) (fun s => (s.wait 0).pc) staleRun
      (s := .start fun _ => true) (b := .returned ⟨.asynSuccess, false, false⟩) ⟨_, rfl⟩ (by decide)
    exact ⟨s, hreach, hpc, hsuccess s hpc⟩
  · obtain ⟨s, hreach, hpc⟩ := Machine.exists_reachable_of_exec
      (M := machine (twoCalls (some 0) fun _ => true)) (fun s => (s.wait 0).pc) [.enterWait 0, .testWait 0]
      (s := .start fun d => d.isNone) (b := .returned ⟨.asynSuccess, false, false⟩) ⟨_, rfl⟩ (by decide)
    exact ⟨s, hreach, hpc, hsuccess s hpc⟩

end WaitConnect
end Manager
end AsynDriver
