import AsynDriver.Manager.WaitConnectView

/-!
# Every step, for one call of `waitConnect`

`step_view`: in a reachable state each step of the machine is a `WaitStep` of the view of each call.
One lemma for each kind of step that moves an announcement or the list.
-/

namespace AsynDriver
namespace Manager
namespace WaitConnect

open Library

variable {c : Calls} {s s' : State} {w k : CallId} {ok : Prop}

/-! ## Announcements -/

theorem not_announcing_stage (hbook : Bookkeeping c s) (hnot : k ∉ s.announcing) :
    s.stage c w k = .away := by
  by_cases hdevice : c.device k = c.waitDevice w
  · rw [stage_of_device s hdevice]
    rw [hbook.announcing] at hnot
    cases hpc : s.announcement k <;> simp_all [Announcement.stage]
  · exact stage_of_device_ne s hdevice

theorem testConnected_view (hstep : testConnected c s k = some s') (w : CallId) :
    WaitStep c.connect ok (s.view c w) (s'.view c w) := by
  unfold testConnected at hstep
  split at hstep
  · next hpc =>
    split at hstep
    · cases hstep
      refine waitStep_of_eq (view_setAnnouncement_same s ?_)
      rw [hpc]
      rfl
    · next hconnected =>
      cases hstep
      by_cases hdevice : c.device k = c.waitDevice w
      · rw [view_setAnnouncement _ _ hdevice]
        refine .tested k ?_ ?_
        · show s.stage c w k = .away
          rw [stage_of_device s hdevice, hpc]
          rfl
        · rw [hdevice] at hconnected
          exact hconnected
      · exact waitStep_of_eq (view_setAnnouncement_of_ne _ _ hdevice)
  · cases hstep

theorem changeConnected_view (hbook : Bookkeeping c s) (hstep : changeConnected c s k = some s')
    (w : CallId) : WaitStep c.connect (Timely c s (.changeConnected k)) (s.view c w) (s'.view c w) := by
  simp only [changeConnected] at hstep
  split at hstep
  · next hpc =>
    cases hstep
    by_cases hdevice : c.device k = c.waitDevice w
    · rw [hdevice, view_setDpc_self, view_setAnnouncement _ _ hdevice]
      · refine .changed k ?_ ?_
        · show s.stage c w k = .tested
          rw [stage_of_device s hdevice, hpc]
          rfl
        · intro hok hconnect hexpired
          exact hok hconnect w ((hbook.expired w).mpr hexpired) hdevice.symm
      · rfl
    · refine waitStep_of_eq ?_
      rw [view_setDpc_of_ne _ _ (Ne.symm hdevice), view_setAnnouncement_of_ne _ _ hdevice]
  · cases hstep

theorem startAnnouncement_view (hstep : startAnnouncement c s k = some s') (w : CallId) :
    WaitStep c.connect ok (s.view c w) (s'.view c w) := by
  unfold startAnnouncement at hstep
  split at hstep
  · next hpc =>
    cases hstep
    have hmoved : (s.setAnnouncement k .started).view c w = s.view c w := by
      refine view_setAnnouncement_same s ?_
      rw [hpc]
      rfl
    apply waitStep_of_eq
    by_cases hdevice : c.device k = c.waitDevice w
    · rw [hdevice, view_setDpc_self, hmoved] <;> rfl
    · rw [view_setDpc_of_ne _ _ (Ne.symm hdevice), hmoved]
  · cases hstep

theorem endAnnouncement_view (hstep : endAnnouncement c s k = some s') (w : CallId) :
    WaitStep c.connect ok (s.view c w) (s'.view c w) := by
  unfold endAnnouncement at hstep
  split at hstep
  · next hpc =>
    cases hstep
    by_cases hdevice : c.device k = c.waitDevice w
    · rw [hdevice, view_setDpc_self, view_setAnnouncement _ _ hdevice]
      · refine .ended k ?_
        show s.stage c w k = .behind
        rw [stage_of_device s hdevice, hpc]
        rfl
      · rfl
    · refine waitStep_of_eq ?_
      rw [view_setDpc_of_ne _ _ (Ne.symm hdevice), view_setAnnouncement_of_ne _ _ hdevice]
      rfl
  · cases hstep

/-- The walk begins in front of every node. -/
theorem stage_first {l : List CallId} (w : CallId) :
    ((Announcement.atNode l.head?).stage l w = .ahead ∨ (Announcement.atNode l.head?).stage l w = .behind) ∧
      (w ∈ l → (Announcement.atNode l.head?).stage l w = .ahead) := by
  cases hhead : l.head? with
  | none =>
      refine ⟨Or.inr rfl, ?_⟩
      intro hmem
      rw [List.head?_eq_none_iff.mp hhead] at hmem
      cases hmem
  | some x =>
      have hbefore := LinkedList.before_of_head? hhead
      constructor
      · simp only [Announcement.atNode, Announcement.stage]
        split
        · exact Or.inl rfl
        · exact Or.inr rfl
      · intro hmem
        refine if_pos ?_
        intro _
        rw [hbefore]
        exact ⟨hmem, List.not_mem_nil⟩

/-- A step along the list passes only the node that it leaves. -/
theorem stage_next {l : List CallId} {x : CallId} (hnodup : l.Nodup) (hmem : x ∈ l) (w : CallId) :
    (Announcement.atNode (LinkedList.nextAfter l x)).stage l w = (Announcement.called x).stage l w := by
  cases hnext : LinkedList.nextAfter l x with
  | none =>
      have hall := LinkedList.eq_before_append_of_nextAfter_none hmem hnext
      symm
      refine if_neg ?_
      intro hreach
      obtain ⟨hw, hnot⟩ := hreach hmem
      rw [← hall] at hnot
      exact hnot hw
  | some y =>
      have hy := LinkedList.mem_of_nextAfter hnext
      have hreach : Reaches l (LinkedList.before l y) y w ↔
          Reaches l (LinkedList.before l x ++ [x]) x w := by
        rw [LinkedList.before_of_nextAfter hnodup hnext]
        exact ⟨fun h _ => h hy, fun h _ => h hmem⟩
      simp only [Announcement.atNode, Announcement.stage, hreach]

/-- The callback of another call. -/
theorem stage_called_of_ne {l : List CallId} {x : CallId} (hne : w ≠ x) :
    (Announcement.called x).stage l w = (Announcement.calling x).stage l w := by
  have hreach : Reaches l (LinkedList.before l x ++ [x]) x w ↔
      Reaches l (LinkedList.before l x) x w := by
    simp [Reaches, hne]
  simp only [Announcement.stage, hreach]

theorem stage_calling_self {l : List CallId} (hmem : w ∈ l) :
    (Announcement.calling w).stage l w = .ahead :=
  if_pos fun _ => ⟨hmem, LinkedList.not_mem_before l w⟩

theorem stage_called_self {l : List CallId} (hmem : w ∈ l) :
    (Announcement.called w).stage l w = .behind := by
  refine if_neg ?_
  intro hreach
  exact (hreach hmem).2 (List.mem_append_right _ (List.mem_singleton_self w))

theorem walkAnnouncement_view (hbook : Bookkeeping c s) (hstep : walkAnnouncement c s k = some s')
    (w : CallId) : WaitStep c.connect ok (s.view c w) (s'.view c w) := by
  simp only [walkAnnouncement] at hstep
  split at hstep
  · next hpc =>
    cases hstep
    by_cases hdevice : c.device k = c.waitDevice w
    · rw [view_setAnnouncement _ _ hdevice, hdevice]
      obtain ⟨hwalk, hahead⟩ := stage_first (l := (s.dpc (c.waitDevice w)).exceptionUserList) w
      refine .walking k _ ?_ hwalk ?_
      · show s.stage c w k = .changed
        rw [stage_of_device s hdevice, hpc]
        rfl
      · intro hlisted
        exact hahead ((hbook.listed _ w).mpr ⟨rfl, hlisted⟩)
    · exact waitStep_of_eq (view_setAnnouncement_of_ne _ _ hdevice)
  · next x hpc =>
    split at hstep
    · next hmem =>
      cases hstep
      obtain ⟨hdevice, hlisted⟩ := (hbook.listed _ x).mp hmem
      by_cases hw : w = x
      · subst hw
        rw [← hdevice] at hmem
        rw [view_setWait_self, view_setAnnouncement _ _ hdevice.symm, stage_called_self hmem]
        refine .called k hlisted ?_
        show s.stage c w k = .ahead
        rw [stage_of_device s hdevice.symm, hpc, stage_calling_self hmem]
      · rw [view_setWait_of_ne _ _ hw]
        refine waitStep_of_eq (view_setAnnouncement_same s ?_)
        rw [hpc, stage_called_of_ne hw]
    · cases hstep
  · next x hpc =>
    split at hstep
    · next hmem =>
      cases hstep
      by_cases hdevice : c.device k = c.waitDevice w
      · rw [hdevice] at hmem ⊢
        refine waitStep_of_eq (view_setAnnouncement_same s ?_)
        rw [hpc, stage_next (hbook.nodup _) hmem]
      · exact waitStep_of_eq (view_setAnnouncement_of_ne _ _ hdevice)
    · cases hstep
  · cases hstep

/-! ## Calls of `waitConnect` -/

/-- A step of a call that changes no list. -/
theorem waitStep_setWait {w' : CallId} {x : Wait}
    (hown : WaitStep c.connect ok (s.view c w') { s.view c w' with wait := x }) (w : CallId) :
    WaitStep c.connect ok (s.view c w) ((s.setWait w' x).view c w) := by
  by_cases hw : w = w'
  · subst hw
    rw [view_setWait_self]
    exact hown
  · exact waitStep_of_eq (view_setWait_of_ne s x hw)

/-- The view of a call when another puts its callback on a list, or takes it off. -/
theorem waitStep_setDpc {d : Device} {x : Dpc}
    (hconnected : x.connected = (s.dpc d).connected)
    (hnumber : x.numberConnects = (s.dpc d).numberConnects)
    (hunpassed : c.waitDevice w = d → Unpassed (s.stage c w) ((s.setDpc d x).stage c w)) :
    WaitStep c.connect ok (s.view c w) ((s.setDpc d x).view c w) := by
  by_cases hd : c.waitDevice w = d
  · have hview : (s.setDpc d x).view c w =
        { s.view c w with stage := (s.setDpc d x).stage c w } := by
      subst hd
      have hdpc : (s.setDpc (c.waitDevice w) x).dpc (c.waitDevice w) = x := Function.update_self ..
      simp only [State.view, hdpc, hconnected, hnumber]
      rfl
    rw [hview]
    exact .unpassed _ (hunpassed hd)
  · exact waitStep_of_eq (view_setDpc_of_ne s x hd)

/-- The view of a call that changes the list itself. -/
theorem view_setWait_setDpc (s : State) (x : Wait) {y : Dpc}
    (hconnected : y.connected = (s.dpc (c.waitDevice w)).connected)
    (hnumber : y.numberConnects = (s.dpc (c.waitDevice w)).numberConnects) :
    ((s.setWait w x).setDpc (c.waitDevice w) y).view c w =
      { s.view c w with wait := x, stage := (s.setDpc (c.waitDevice w) y).stage c w } := by
  simp only [State.view, State.setDpc, State.setWait, Function.update_self, hconnected, hnumber]
  rfl

theorem addWait_view {w' : CallId} (hbook : Bookkeeping c s) (hstep : addWait c s w' = some s')
    (w : CallId) : WaitStep c.connect (Timely c s (.addWait w')) (s.view c w) (s'.view c w) := by
  simp only [addWait] at hstep
  split at hstep
  · next hguard =>
    cases hstep
    have hearly : (s.wait w').pc.early = true := by
      rw [hguard.1]
      rfl
    by_cases hw : w = w'
    · subst hw
      have hview := view_setWait_setDpc (c := c) s { s.wait w with pc := .waiting }
        (y := { s.dpc (c.waitDevice w) with
          exceptionUserList := (s.dpc (c.waitDevice w)).exceptionUserList ++ [w] }) rfl rfl
      rw [hview]
      refine .added _ hguard.1 (unpassed_append w hbook hearly rfl) ?_ ?_
      · rintro ⟨hannounced, -⟩ hconnected
        obtain ⟨k, -, hdevice, hconnect, hpc⟩ := hannounced hconnected
        refine ⟨k, hconnect, ?_⟩
        show s.stage c w k = .changed
        rw [stage_of_device s hdevice]
        rcases hpc with hpc | hpc <;> rw [hpc] <;> rfl
      · rintro ⟨-, hwas | hquiet⟩
        · exact Or.inl hwas
        · right
          intro k
          by_cases hmem : k ∈ s.announcing
          · by_cases hdevice : c.device k = c.waitDevice w
            · obtain ⟨hconnect, hpc⟩ := hquiet k hmem hdevice
              refine Or.inr ⟨hconnect, ?_⟩
              show s.stage c w k = .tested
              rw [stage_of_device s hdevice, hpc]
              rfl
            · exact Or.inl (stage_of_device_ne s hdevice)
          · exact Or.inl (not_announcing_stage hbook hmem)
    · have hsame := view_setWait_of_ne (c := c) s { s.wait w' with pc := .waiting } hw
      rw [← hsame]
      refine waitStep_setDpc rfl rfl ?_
      intro hd
      have hunpassed := unpassed_append (c := c) (w := w)
        (x := { s.dpc (c.waitDevice w') with
          exceptionUserList := (s.dpc (c.waitDevice w')).exceptionUserList ++ [w'] }) w' hbook hearly (by rw [hd])
      rw [hd] at hunpassed
      exact hunpassed
  · cases hstep

theorem removeWait_view {w' : CallId} (hbook : Bookkeeping c s) (hstep : removeWait c s w' = some s')
    (w : CallId) : WaitStep c.connect ok (s.view c w) (s'.view c w) := by
  simp only [removeWait] at hstep
  split at hstep
  · next isConnected hpc =>
    split at hstep
    · cases hstep
      by_cases hw : w = w'
      · subst hw
        have hview := view_setWait_setDpc (c := c) { s with expired := s.expired.erase w }
          ((s.wait w).return (s.dpc (c.waitDevice w)) (if isConnected then .asynSuccess else .asynError))
          (y := { s.dpc (c.waitDevice w) with
            exceptionUserList := (s.dpc (c.waitDevice w)).exceptionUserList.erase w }) rfl rfl
        rw [hview]
        exact .removed _ isConnected hpc
      · have hsame : (State.setWait { s with expired := s.expired.erase w' } w'
            ((s.wait w').return (s.dpc (c.waitDevice w'))
              (if isConnected then .asynSuccess else .asynError))).view c w = s.view c w :=
          view_setWait_of_ne _ _ hw
        rw [← hsame]
        refine waitStep_setDpc rfl rfl ?_
        intro hd
        have hunpassed := unpassed_erase (c := c) (w := w)
          (x := { s.dpc (c.waitDevice w') with
            exceptionUserList := (s.dpc (c.waitDevice w')).exceptionUserList.erase w' }) w' hbook hw
          (by rw [hd])
        rw [hd] at hunpassed
        exact hunpassed
    · cases hstep
  · cases hstep

/-- In a reachable state, a step of the machine is a step of each view. -/
theorem step_view {a : Action} (hbook : Bookkeeping c s) (hstep : step c s a = some s') (w : CallId) :
    WaitStep c.connect (Timely c s a) (s.view c w) (s'.view c w) := by
  cases a with
  | testConnected k => exact testConnected_view hstep w
  | changeConnected k => exact changeConnected_view hbook hstep w
  | startAnnouncement k => exact startAnnouncement_view hstep w
  | walkAnnouncement k => exact walkAnnouncement_view hbook hstep w
  | endAnnouncement k => exact endAnnouncement_view hstep w
  | enterWait w' =>
      simp only [step, enterWait] at hstep
      split at hstep
      · next hpc =>
        cases hstep
        exact waitStep_setWait (.entered hpc) w
      · cases hstep
  | testWait w' =>
      simp only [step, testWait] at hstep
      split at hstep
      · next hpc =>
        split at hstep
        · next hconnected =>
          cases hstep
          refine waitStep_setWait (.found hpc ?_) w
          intro hok
          exact hok hconnected
        · cases hstep
          exact waitStep_setWait (.notFound hpc) w
      · cases hstep
  | addWait w' => exact addWait_view hbook hstep w
  | wakeWait w' =>
      simp only [step, wakeWait] at hstep
      split at hstep
      · next hguard =>
        cases hstep
        exact waitStep_setWait (.woken hguard.1 hguard.2) w
      · cases hstep
  | expireWait w' =>
      simp only [step, expireWait] at hstep
      split at hstep
      · next hguard =>
        cases hstep
        refine waitStep_setWait (s := s) (.expired hguard.1 hguard.2 ?_) w
        intro hok k hconnect
        by_cases hmem : k ∈ s.announcing
        · by_cases hdevice : c.device k = c.waitDevice w'
          · right
            show s.stage c w' k = .tested
            rw [stage_of_device s hdevice, hok k hmem hdevice hconnect]
            rfl
          · exact Or.inl (stage_of_device_ne s hdevice)
        · exact Or.inl (not_announcing_stage hbook hmem)
      · cases hstep
  | removeWait w' => exact removeWait_view hbook hstep w

/-- What holds of every call at the start and is kept by its steps holds in every run. -/
theorem view_invariant {guard : State → Action → Prop} {I : WaitView → Prop}
    (hinit : ∀ connected w, I (State.view c (.start connected) w))
    (hkeep : ∀ s a v v', guard s a → WaitStep c.connect (Timely c s a) v v' → I v → I v')
    (hreach : (machine c).Reachable guard s) (w : CallId) : I (s.view c w) := by
  refine Machine.Reachable.invariant_of_reachable (I := fun s => ∀ w, I (s.view c w)) ?_ ?_ hreach w
  · rintro s ⟨connected, rfl⟩ w
    exact hinit connected w
  · intro s a s' hs hok ih hstep w
    exact hkeep s a _ _ hok (step_view (bookkeeping_of_reachable hs) hstep w) (ih w)

end WaitConnect
end Manager
end AsynDriver
