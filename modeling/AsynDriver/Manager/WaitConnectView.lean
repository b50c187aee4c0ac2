import AsynDriver.Manager.WaitConnect

/-!
# One call of `waitConnect`

What a step of the machine can mean for one call of `waitConnect`.

* `Bookkeeping` — who is on `exceptionUserList`, `announcing` and `expired`; in every run.
* `Stage` — how far an announcement is with the call: `ahead` if its walk will still reach the node of
  the call, unless it reads a node that has been freed.
* `WaitView`, `WaitStep`, `step_view`.
-/

namespace AsynDriver
namespace Manager
namespace WaitConnect

open Library

/-- The callback of the call is on `exceptionUserList`. -/
def WaitPc.listed : WaitPc → Bool
  | .waiting => true
  | .removing _ => true
  | _ => false

/-- The callback of the call has not been on `exceptionUserList`. -/
def WaitPc.early : WaitPc → Bool
  | .idle => true
  | .entered => true
  | .adding => true
  | _ => false

inductive Stage
  | away
  | tested
  | changed
  | ahead
  | behind
  deriving DecidableEq, Repr

/-- The walk is at a node `x` and has passed some nodes. -/
def Reaches (l passed : List CallId) (x w : CallId) : Prop := x ∈ l → w ∈ l ∧ w ∉ passed

instance (l passed : List CallId) (x w : CallId) : Decidable (Reaches l passed x w) :=
  inferInstanceAs (Decidable (_ → _))

def Announcement.stage (l : List CallId) (w : CallId) : Announcement → Stage
  | .idle => .away
  | .tested => .tested
  | .changed => .changed
  | .started => .changed
  | .calling x => if Reaches l (LinkedList.before l x) x w then .ahead else .behind
  | .called x => if Reaches l (LinkedList.before l x ++ [x]) x w then .ahead else .behind
  | .ended => .behind
  | .done => .away

/-- How far an announcement is with a call of `waitConnect`. -/
def State.stage (c : Calls) (s : State) (w k : CallId) : Stage :=
  if c.device k = c.waitDevice w then
    (s.announcement k).stage (s.dpc (c.waitDevice w)).exceptionUserList w
  else .away

structure WaitView where
  wait : Wait
  connected : Bool
  numberConnects : Nat
  stage : CallId → Stage

def State.view (c : Calls) (s : State) (w : CallId) : WaitView where
  wait := s.wait w
  connected := (s.dpc (c.waitDevice w)).connected
  numberConnects := (s.dpc (c.waitDevice w)).numberConnects
  stage := s.stage c w

def WaitView.wasConnected (v : WaitView) : Bool :=
  v.wait.connectedBefore || decide (v.wait.connectsBefore < v.numberConnects)

def WaitView.return (v : WaitView) (status : AsynStatus) : Wait :=
  { v.wait with pc := .returned ⟨status, v.wasConnected, v.connected⟩ }

/-- The walks come no further; one of them may have lost its node. -/
def Unpassed (stage stage' : CallId → Stage) : Prop :=
  ∀ k, stage' k = stage k ∨ (stage k = .behind ∧ stage' k = .ahead)

/-- What a step does to one call of `waitConnect`; `ok` says that the step is timely. -/
inductive WaitStep (connect : CallId → Bool) (ok : Prop) (v : WaitView) : WaitView → Prop
  | unpassed (stage : CallId → Stage) (hstage : Unpassed v.stage stage) :
      WaitStep connect ok v { v with stage := stage }
  | entered (hpc : v.wait.pc = .idle) :
      WaitStep connect ok v
        { v with
          wait := { v.wait with
            pc := .entered
            connectedBefore := v.connected
            connectsBefore := v.numberConnects } }
  | found (hpc : v.wait.pc = .entered) (hok : ok → v.connected = true) :
      WaitStep connect ok v { v with wait := v.return .asynSuccess }
  | notFound (hpc : v.wait.pc = .entered) :
      WaitStep connect ok v { v with wait := { v.wait with pc := .adding, connectEvent := false } }
  | added (stage : CallId → Stage) (hpc : v.wait.pc = .adding) (hstage : Unpassed v.stage stage)
      (hannounced : ok → v.connected = true → ∃ k, connect k = true ∧ v.stage k = .changed)
      (hquiet : ok → v.wasConnected = true ∨
        ∀ k, v.stage k = .away ∨ (connect k = true ∧ v.stage k = .tested)) :
      WaitStep connect ok v { v with wait := { v.wait with pc := .waiting }, stage := stage }
  | woken (hpc : v.wait.pc = .waiting) (hevent : v.wait.connectEvent = true) :
      WaitStep connect ok v
        { v with wait := { v.wait with pc := .removing true, connectEvent := false } }
  | expired (hpc : v.wait.pc = .waiting) (hevent : v.wait.connectEvent = false)
      (hok : ok → ∀ k, connect k = true → v.stage k = .away ∨ v.stage k = .tested) :
      WaitStep connect ok v { v with wait := { v.wait with pc := .removing false } }
  | removed (stage : CallId → Stage) (isConnected : Bool) (hpc : v.wait.pc = .removing isConnected) :
      WaitStep connect ok v
        { v with
          wait := v.return (if isConnected then .asynSuccess else .asynError)
          stage := stage }
  | tested (k : CallId) (hstage : v.stage k = .away) (hconnected : v.connected ≠ connect k) :
      WaitStep connect ok v { v with stage := Function.update v.stage k .tested }
  | changed (k : CallId) (hstage : v.stage k = .tested)
      (hok : ok → connect k = true → v.wait.pc ≠ .removing false) :
      WaitStep connect ok v
        { v with
          connected := connect k
          numberConnects := if connect k then v.numberConnects + 1 else v.numberConnects
          stage := Function.update v.stage k .changed }
  | walking (k : CallId) (stage : Stage) (hstage : v.stage k = .changed)
      (hwalk : stage = .ahead ∨ stage = .behind)
      (hlisted : v.wait.pc.listed = true → stage = .ahead) :
      WaitStep connect ok v { v with stage := Function.update v.stage k stage }
  | called (k : CallId) (hlisted : v.wait.pc.listed = true) (hstage : v.stage k = .ahead) :
      WaitStep connect ok v
        { v with
          wait := { v.wait with connectEvent := true }
          stage := Function.update v.stage k .behind }
  | ended (k : CallId) (hstage : v.stage k = .behind) :
      WaitStep connect ok v { v with stage := Function.update v.stage k .away }

theorem waitStep_of_eq {connect : CallId → Bool} {ok : Prop} {v v' : WaitView} (heq : v' = v) :
    WaitStep connect ok v v' := by
  rw [heq]
  exact .unpassed v.stage fun _ => Or.inl rfl

/-! ## Bookkeeping -/

structure Bookkeeping (c : Calls) (s : State) : Prop where
  listed : ∀ d w, w ∈ (s.dpc d).exceptionUserList ↔
    c.waitDevice w = d ∧ (s.wait w).pc.listed = true
  nodup : ∀ d, (s.dpc d).exceptionUserList.Nodup
  walking : ∀ k w, s.announcement k = .calling w ∨ s.announcement k = .called w →
    (s.wait w).pc.early = false
  announcing : ∀ k, k ∈ s.announcing ↔ s.announcement k ≠ .idle ∧ s.announcement k ≠ .done
  announcingNodup : s.announcing.Nodup
  expired : ∀ w, w ∈ s.expired ↔ (s.wait w).pc = .removing false
  expiredNodup : s.expired.Nodup

variable {c : Calls} {s s' : State} {w k : CallId}

theorem bookkeeping_start (connected : Device → Bool) : Bookkeeping c (.start connected) := by
  constructor
  · intro d w
    simp [State.start, Dpc.start, Wait.start, WaitPc.listed]
  · intro d
    exact List.nodup_nil
  · rintro k w (h | h) <;> cases h
  · intro k
    simp [State.start]
  · exact List.nodup_nil
  · intro w
    simp [State.start, Wait.start]
  · exact List.nodup_nil

theorem WaitPc.not_early_of_listed {pc : WaitPc} (hlisted : pc.listed = true) : pc.early = false := by
  cases pc <;> first | rfl | cases hlisted

theorem Bookkeeping.not_early (hbook : Bookkeeping c s) {d : Device}
    (hmem : w ∈ (s.dpc d).exceptionUserList) : (s.wait w).pc.early = false :=
  WaitPc.not_early_of_listed ((hbook.listed d w).mp hmem).2

/-- A step of a call of `waitConnect`, with the lists that it changes. -/
theorem Bookkeeping.setWait {x : Wait} {y : Dpc} (expired : List CallId) (hbook : Bookkeeping c s)
    (hlisted : ∀ w', w' ∈ y.exceptionUserList ↔
      if w' = w then x.pc.listed = true else w' ∈ (s.dpc (c.waitDevice w)).exceptionUserList)
    (hnodup : y.exceptionUserList.Nodup)
    (hearly : (s.wait w).pc.early = false → x.pc.early = false)
    (hexpired : ∀ w', w' ∈ expired ↔ if w' = w then x.pc = .removing false else w' ∈ s.expired)
    (hexpiredNodup : expired.Nodup) :
    Bookkeeping c (({ s with expired := expired }.setWait w x).setDpc (c.waitDevice w) y) := by
  refine ⟨?_, ?_, ?_, hbook.announcing, hbook.announcingNodup, ?_, hexpiredNodup⟩
  · intro d w'
    show w' ∈ (Function.update s.dpc (c.waitDevice w) y d).exceptionUserList ↔
      c.waitDevice w' = d ∧ (Function.update s.wait w x w').pc.listed = true
    by_cases hd : d = c.waitDevice w
    · subst hd
      rw [Function.update_self, hlisted]
      by_cases hw : w' = w
      · subst hw
        simp
      · rw [if_neg hw, Function.update_of_ne hw]
        exact hbook.listed _ w'
    · rw [Function.update_of_ne hd]
      by_cases hw : w' = w
      · subst hw
        have hnot : w' ∉ (s.dpc d).exceptionUserList := by
          rw [hbook.listed]
          exact fun h => hd h.1.symm
        simp [hnot, Ne.symm hd]
      · rw [Function.update_of_ne hw]
        exact hbook.listed d w'
  · intro d
    show (Function.update s.dpc (c.waitDevice w) y d).exceptionUserList.Nodup
    by_cases hd : d = c.waitDevice w
    · rw [hd, Function.update_self]
      exact hnodup
    · rw [Function.update_of_ne hd]
      exact hbook.nodup d
  · intro k w' hk
    show (Function.update s.wait w x w').pc.early = false
    have hold := hbook.walking k w' hk
    by_cases hw : w' = w
    · subst hw
      rw [Function.update_self]
      exact hearly hold
    · rw [Function.update_of_ne hw]
      exact hold
  · intro w'
    show w' ∈ expired ↔ (Function.update s.wait w x w').pc = .removing false
    rw [hexpired]
    by_cases hw : w' = w
    · subst hw
      simp
    · rw [if_neg hw, Function.update_of_ne hw]
      exact hbook.expired w'

theorem setDpc_self (s : State) (d : Device) : s.setDpc d (s.dpc d) = s := by
  show { s with dpc := Function.update s.dpc d (s.dpc d) } = s
  rw [Function.update_eq_self]

/-- A step that leaves the call on or off the lists. -/
theorem Bookkeeping.setWait_same {x : Wait} (hbook : Bookkeeping c s)
    (hlisted : x.pc.listed = (s.wait w).pc.listed)
    (hearly : (s.wait w).pc.early = false → x.pc.early = false)
    (hexpired : x.pc = .removing false ↔ (s.wait w).pc = .removing false) :
    Bookkeeping c (s.setWait w x) := by
  have hstep := hbook.setWait (w := w) (x := x) (y := s.dpc (c.waitDevice w)) s.expired
    ?_ (hbook.nodup _) hearly ?_ hbook.expiredNodup
  · rw [← setDpc_self (s.setWait w x) (c.waitDevice w)]
    exact hstep
  · intro w'
    by_cases hw : w' = w
    · subst hw
      simp [hbook.listed, hlisted]
    · rw [if_neg hw]
  · intro w'
    by_cases hw : w' = w
    · subst hw
      rw [if_pos rfl, hexpired]
      exact hbook.expired w'
    · rw [if_neg hw]

/-- A change of `dpCommon` that keeps the list. -/
theorem Bookkeeping.setDpc {d : Device} {x : Dpc} (hbook : Bookkeeping c s)
    (hlist : x.exceptionUserList = (s.dpc d).exceptionUserList) : Bookkeeping c (s.setDpc d x) := by
  have hsame : ∀ d', ((s.setDpc d x).dpc d').exceptionUserList = (s.dpc d').exceptionUserList := by
    intro d'
    show (Function.update s.dpc d x d').exceptionUserList = _
    by_cases hd : d' = d
    · subst hd
      rw [Function.update_self, hlist]
    · rw [Function.update_of_ne hd]
  refine ⟨?_, ?_, hbook.walking, hbook.announcing, hbook.announcingNodup, hbook.expired,
    hbook.expiredNodup⟩
  · intro d' w'
    rw [hsame d']
    exact hbook.listed d' w'
  · intro d'
    rw [hsame d']
    exact hbook.nodup d'

/-- A step of an announcement. -/
theorem Bookkeeping.setAnnouncement {pc : Announcement} {announcing : List CallId}
    (hbook : Bookkeeping c s)
    (hmem : ∀ k', k' ∈ announcing ↔ if k' = k then pc ≠ .idle ∧ pc ≠ .done else k' ∈ s.announcing)
    (hnodup : announcing.Nodup)
    (hwalking : ∀ w, pc = .calling w ∨ pc = .called w → (s.wait w).pc.early = false) :
    Bookkeeping c ({ s with announcing := announcing }.setAnnouncement k pc) := by
  refine ⟨hbook.listed, hbook.nodup, ?_, ?_, hnodup, hbook.expired, hbook.expiredNodup⟩
  · intro k' w hk
    change Function.update s.announcement k pc k' = _ ∨ Function.update s.announcement k pc k' = _ at hk
    by_cases heq : k' = k
    · subst heq
      rw [Function.update_self] at hk
      exact hwalking w hk
    · rw [Function.update_of_ne heq] at hk
      exact hbook.walking k' w hk
  · intro k'
    show k' ∈ announcing ↔ Function.update s.announcement k pc k' ≠ _ ∧
      Function.update s.announcement k pc k' ≠ _
    rw [hmem]
    by_cases heq : k' = k
    · subst heq
      rw [if_pos rfl, Function.update_self]
    · rw [if_neg heq, Function.update_of_ne heq]
      exact hbook.announcing k'

/-- A step of an announcement between its test and its end. -/
theorem Bookkeeping.setAnnouncement_same {pc : Announcement} (hbook : Bookkeeping c s)
    (hbefore : s.announcement k ≠ .idle ∧ s.announcement k ≠ .done) (hafter : pc ≠ .idle ∧ pc ≠ .done)
    (hwalking : ∀ w, pc = .calling w ∨ pc = .called w → (s.wait w).pc.early = false) :
    Bookkeeping c (s.setAnnouncement k pc) := by
  refine hbook.setAnnouncement ?_ hbook.announcingNodup hwalking
  intro k'
  by_cases heq : k' = k
  · subst heq
    rw [if_pos rfl, hbook.announcing]
    exact ⟨fun _ => hafter, fun _ => hbefore⟩
  · rw [if_neg heq]

theorem walking_atNode {next : Option CallId} (hnext : ∀ w, next = some w → (s.wait w).pc.early = false)
    (w : CallId) (hpc : Announcement.atNode next = .calling w ∨ Announcement.atNode next = .called w) :
    (s.wait w).pc.early = false := by
  cases next with
  | none => rcases hpc with h | h <;> cases h
  | some w' =>
      rcases hpc with h | h
      · cases h
        exact hnext w rfl
      · cases h

theorem Announcement.atNode_ne (next : Option CallId) :
    Announcement.atNode next ≠ .idle ∧ Announcement.atNode next ≠ .done := by
  cases next <;> simp [Announcement.atNode]

theorem walkAnnouncement_bookkeeping (hbook : Bookkeeping c s)
    (hstep : walkAnnouncement c s k = some s') : Bookkeeping c s' := by
  simp only [walkAnnouncement] at hstep
  split at hstep
  · next hpc =>
    cases hstep
    refine hbook.setAnnouncement_same (by simp [hpc]) (Announcement.atNode_ne _) (walking_atNode ?_)
    intro w hw
    exact hbook.not_early (List.mem_of_mem_head? hw)
  · next w hpc =>
    split at hstep
    · next hmem =>
      cases hstep
      have hmoved : Bookkeeping c (s.setAnnouncement k (.called w)) := by
        refine hbook.setAnnouncement_same (by simp [hpc]) (by simp) ?_
        rintro w' (h | h)
        · cases h
        · cases h
          exact hbook.not_early hmem
      exact hmoved.setWait_same rfl (fun h => h) Iff.rfl
    · cases hstep
  · next w hpc =>
    split at hstep
    · cases hstep
      refine hbook.setAnnouncement_same (by simp [hpc]) (Announcement.atNode_ne _) (walking_atNode ?_)
      intro w' hw'
      exact hbook.not_early (LinkedList.mem_of_nextAfter hw')
    · cases hstep
  · cases hstep

theorem bookkeeping_step {a : Action} (hbook : Bookkeeping c s) (hstep : step c s a = some s') :
    Bookkeeping c s' := by
  cases a with
  | testConnected k =>
      simp only [step, testConnected] at hstep
      split at hstep
      · next hpc =>
        have hnot : k ∉ s.announcing := by
          rw [hbook.announcing]
          exact fun h => h.1 hpc
        split at hstep
        · cases hstep
          -- the state is the requested one already: the thread returns without an announcement
          refine hbook.setAnnouncement ?_ hbook.announcingNodup (by simp)
          intro k'
          by_cases heq : k' = k
          · subst heq
            simp [hnot]
          · rw [if_neg heq]
        · cases hstep
          refine hbook.setAnnouncement ?_ (List.nodup_cons.mpr ⟨hnot, hbook.announcingNodup⟩) (by simp)
          intro k'
          by_cases heq : k' = k <;> simp [heq]
      · cases hstep
  | changeConnected k =>
      simp only [step, changeConnected] at hstep
      split at hstep
      · next hpc =>
        cases hstep
        exact (hbook.setAnnouncement_same (by simp [hpc]) (by simp) (by simp)).setDpc rfl
      · cases hstep
  | startAnnouncement k =>
      simp only [step, startAnnouncement] at hstep
      split at hstep
      · next hpc =>
        cases hstep
        exact (hbook.setAnnouncement_same (by simp [hpc]) (by simp) (by simp)).setDpc rfl
      · cases hstep
  | walkAnnouncement k => exact walkAnnouncement_bookkeeping hbook hstep
  | endAnnouncement k =>
      simp only [step, endAnnouncement] at hstep
      split at hstep
      · cases hstep
        refine (hbook.setAnnouncement ?_ (hbook.announcingNodup.erase k) (by simp)).setDpc rfl
        intro k'
        rw [hbook.announcingNodup.mem_erase_iff]
        by_cases heq : k' = k <;> simp [heq]
      · cases hstep
  | enterWait w =>
      simp only [step, enterWait] at hstep
      split at hstep
      · next hpc =>
        cases hstep
        exact hbook.setWait_same (by rw [hpc]; rfl) (by rw [hpc]; exact id) (by simp [hpc])
      · cases hstep
  | testWait w =>
      simp only [step, testWait] at hstep
      split at hstep
      · next hpc =>
        split at hstep
        · cases hstep
          exact hbook.setWait_same (by rw [hpc]; rfl) (fun _ => rfl) (by simp [hpc, Wait.return])
        · cases hstep
          exact hbook.setWait_same (by rw [hpc]; rfl) (by rw [hpc]; exact id) (by simp [hpc])
      · cases hstep
  | addWait w =>
      simp only [step, addWait] at hstep
      split at hstep
      · next hguard =>
        cases hstep
        -- a thread that is about to add itself is on no list
        have hnot : w ∉ (s.dpc (c.waitDevice w)).exceptionUserList := by
          rw [hbook.listed, hguard.1]
          exact fun h => nomatch h.2
        have hnodup := (hbook.nodup (c.waitDevice w)).concat hnot
        rw [List.concat_eq_append] at hnodup
        refine hbook.setWait _ ?_ hnodup (fun _ => rfl) ?_ hbook.expiredNodup
        · intro w'
          by_cases hw : w' = w <;> simp [hw, WaitPc.listed]
        · intro w'
          by_cases hw : w' = w
          · subst hw
            simp [hbook.expired, hguard.1]
          · rw [if_neg hw]
      · cases hstep
  | wakeWait w =>
      simp only [step, wakeWait] at hstep
      split at hstep
      · next hguard =>
        cases hstep
        exact hbook.setWait_same (by rw [hguard.1]; rfl) (fun _ => rfl) (by simp [hguard.1])
      · cases hstep
  | expireWait w =>
      simp only [step, expireWait] at hstep
      split at hstep
      · next hguard =>
        cases hstep
        have hnot : w ∉ s.expired := by
          rw [hbook.expired, hguard.1]
          exact fun h => nomatch h
        -- a timeout leaves the user on the list until `exceptionCallbackRemove`
        have hmem : w ∈ (s.dpc (c.waitDevice w)).exceptionUserList := by
          rw [hbook.listed, hguard.1]
          exact ⟨rfl, rfl⟩
        have hbook' := hbook.setWait (w := w) (x := { s.wait w with pc := .removing false })
          (y := s.dpc (c.waitDevice w)) (w :: s.expired) ?_ (hbook.nodup _) (fun _ => rfl) ?_
          (List.nodup_cons.mpr ⟨hnot, hbook.expiredNodup⟩)
        · rw [← setDpc_self (State.setWait { s with expired := w :: s.expired } w _) (c.waitDevice w)]
          exact hbook'
        · intro w'
          by_cases hw : w' = w
          · subst hw
            simp [hmem, WaitPc.listed]
          · rw [if_neg hw]
        · intro w'
          by_cases hw : w' = w <;> simp [hw]
      · cases hstep
  | removeWait w =>
      simp only [step, removeWait] at hstep
      split at hstep
      · next isConnected hpc =>
        split at hstep
        · cases hstep
          refine hbook.setWait _ ?_ ((hbook.nodup _).erase w) (fun _ => rfl) ?_
            (hbook.expiredNodup.erase w)
          · intro w'
            rw [(hbook.nodup _).mem_erase_iff]
            by_cases hw : w' = w <;> simp [hw, Wait.return, WaitPc.listed]
          · intro w'
            rw [hbook.expiredNodup.mem_erase_iff]
            by_cases hw : w' = w <;> simp [hw, Wait.return]
        · cases hstep
      · cases hstep

theorem bookkeeping_of_reachable {guard : State → Action → Prop}
    (hreach : (machine c).Reachable guard s) : Bookkeeping c s := by
  refine hreach.invariant ?_ ?_
  · rintro s ⟨connected, rfl⟩
    exact bookkeeping_start connected
  · intro s a s' _ hbook hstep
    exact bookkeeping_step hbook hstep

/-! ## Frame lemmas -/

theorem view_setWait_self (s : State) (w : CallId) (x : Wait) :
    (s.setWait w x).view c w = { s.view c w with wait := x } := by
  show (⟨Function.update s.wait w x w, _, _, _⟩ : WaitView) = _
  rw [Function.update_self]
  rfl

theorem view_setWait_of_ne (s : State) {w w' : CallId} (x : Wait) (hne : w ≠ w') :
    (s.setWait w' x).view c w = s.view c w := by
  show (⟨Function.update s.wait w' x w, _, _, _⟩ : WaitView) = _
  rw [Function.update_of_ne hne]
  rfl

theorem view_setDpc_of_ne (s : State) {d : Device} (x : Dpc) (hne : c.waitDevice w ≠ d) :
    (s.setDpc d x).view c w = s.view c w := by
  have hdpc : (s.setDpc d x).dpc (c.waitDevice w) = s.dpc (c.waitDevice w) := Function.update_of_ne hne ..
  have hstage : (s.setDpc d x).stage c w = s.stage c w := by
    funext k
    show (if c.device k = c.waitDevice w then
      (s.announcement k).stage ((s.setDpc d x).dpc (c.waitDevice w)).exceptionUserList w else _) = _
    rw [hdpc]
    rfl
  show (⟨s.wait w, _, _, _⟩ : WaitView) = _
  rw [hstage, hdpc]
  rfl

/-- A change of the `dpCommon` of the call that keeps the list. -/
theorem view_setDpc_self (s : State) {x : Dpc}
    (hlist : x.exceptionUserList = (s.dpc (c.waitDevice w)).exceptionUserList) :
    (s.setDpc (c.waitDevice w) x).view c w =
      { s.view c w with connected := x.connected, numberConnects := x.numberConnects } := by
  have hdpc : (s.setDpc (c.waitDevice w) x).dpc (c.waitDevice w) = x := Function.update_self ..
  have hstage : (s.setDpc (c.waitDevice w) x).stage c w = s.stage c w := by
    funext k
    show (if c.device k = c.waitDevice w then (s.announcement k).stage
      ((s.setDpc (c.waitDevice w) x).dpc (c.waitDevice w)).exceptionUserList w else _) = _
    rw [hdpc, hlist]
    rfl
  show (⟨s.wait w, _, _, _⟩ : WaitView) = _
  rw [hstage, hdpc]
  rfl

theorem stage_of_device_ne (s : State) (hne : c.device k ≠ c.waitDevice w) :
    s.stage c w k = .away := if_neg hne

theorem stage_of_device (s : State) (hdevice : c.device k = c.waitDevice w) :
    s.stage c w k = (s.announcement k).stage (s.dpc (c.waitDevice w)).exceptionUserList w :=
  if_pos hdevice

theorem view_setAnnouncement_of_ne (s : State) (pc : Announcement) (hne : c.device k ≠ c.waitDevice w) :
    (s.setAnnouncement k pc).view c w = s.view c w := by
  have hstage : (s.setAnnouncement k pc).stage c w = s.stage c w := by
    funext k'
    by_cases heq : k' = k
    · subst heq
      rw [stage_of_device_ne _ hne, stage_of_device_ne _ hne]
    · show (if c.device k' = c.waitDevice w then (Function.update s.announcement k pc k').stage _ w
        else _) = _
      rw [Function.update_of_ne heq]
      rfl
  show (⟨s.wait w, _, _, _⟩ : WaitView) = _
  rw [hstage]
  rfl

theorem view_setAnnouncement (s : State) (pc : Announcement) (hdevice : c.device k = c.waitDevice w) :
    (s.setAnnouncement k pc).view c w =
      { s.view c w with
        stage := Function.update (s.stage c w) k
          (pc.stage (s.dpc (c.waitDevice w)).exceptionUserList w) } := by
  have hstage : (s.setAnnouncement k pc).stage c w = Function.update (s.stage c w) k
      (pc.stage (s.dpc (c.waitDevice w)).exceptionUserList w) := by
    funext k'
    by_cases heq : k' = k
    · subst heq
      rw [Function.update_self, stage_of_device _ hdevice]
      show (Function.update s.announcement k' pc k').stage _ w = _
      rw [Function.update_self]
      rfl
    · rw [Function.update_of_ne heq]
      show (if c.device k' = c.waitDevice w then (Function.update s.announcement k pc k').stage _ w
        else _) = _
      rw [Function.update_of_ne heq]
      rfl
  show (⟨s.wait w, _, _, _⟩ : WaitView) = _
  rw [hstage]
  rfl

/-- A step of an announcement that comes no further with the call. -/
theorem view_setAnnouncement_same (s : State) {pc : Announcement}
    (hstage : pc.stage (s.dpc (c.waitDevice w)).exceptionUserList w =
      (s.announcement k).stage (s.dpc (c.waitDevice w)).exceptionUserList w) :
    (s.setAnnouncement k pc).view c w = s.view c w := by
  by_cases hdevice : c.device k = c.waitDevice w
  · rw [view_setAnnouncement s pc hdevice, hstage, ← stage_of_device s hdevice,
      Function.update_eq_self]
    rfl
  · exact view_setAnnouncement_of_ne s pc hdevice

/-! ## The list -/

theorem ahead_or_behind_of_imp {p q : Prop} [Decidable p] [Decidable q] (himp : p → q) :
    (if q then Stage.ahead else .behind) = (if p then .ahead else .behind) ∨
      ((if p then Stage.ahead else .behind) = .behind ∧ (if q then Stage.ahead else .behind) = .ahead) := by
  by_cases hp : p
  · left
    rw [if_pos hp, if_pos (himp hp)]
  · by_cases hq : q
    · right
      exact ⟨if_neg hp, if_pos hq⟩
    · left
      rw [if_neg hp, if_neg hq]

/-- A change of the list that leaves the call in front of every walk that was before it. -/
theorem unpassed_setDpc {x : Dpc} (hbook : Bookkeeping c s)
    (hreach : ∀ node passed, (s.wait node).pc.early = false →
      Reaches (s.dpc (c.waitDevice w)).exceptionUserList
        (LinkedList.before (s.dpc (c.waitDevice w)).exceptionUserList node ++ passed) node w →
      Reaches x.exceptionUserList (LinkedList.before x.exceptionUserList node ++ passed) node w) :
    Unpassed (s.stage c w) ((s.setDpc (c.waitDevice w) x).stage c w) := by
  intro k
  have hdpc : (s.setDpc (c.waitDevice w) x).dpc (c.waitDevice w) = x := Function.update_self ..
  by_cases hdevice : c.device k = c.waitDevice w
  · rw [stage_of_device _ hdevice, stage_of_device _ hdevice, hdpc]
    show (s.announcement k).stage x.exceptionUserList w = _ ∨
      (_ ∧ (s.announcement k).stage x.exceptionUserList w = _)
    cases hpc : s.announcement k with
    | calling node =>
        have hkeep := hreach node [] (hbook.walking k node (Or.inl hpc))
        rw [List.append_nil, List.append_nil] at hkeep
        exact ahead_or_behind_of_imp hkeep
    | called node =>
        exact ahead_or_behind_of_imp (hreach node [node] (hbook.walking k node (Or.inr hpc)))
    | _ => exact Or.inl rfl
  · left
    rw [stage_of_device_ne _ hdevice, stage_of_device_ne _ hdevice]

theorem reaches_append {l passed : List CallId} {node w' : CallId} (hne : node ≠ w')
    (hreach : Reaches l (LinkedList.before l node ++ passed) node w) :
    Reaches (l ++ [w']) (LinkedList.before (l ++ [w']) node ++ passed) node w := by
  intro hmem
  have hnode : node ∈ l := by
    rcases List.mem_append.mp hmem with h | h
    · exact h
    · exact absurd (List.mem_singleton.mp h) hne
  obtain ⟨hw, hnot⟩ := hreach hnode
  rw [LinkedList.before_append_of_mem hnode]
  exact ⟨List.mem_append_left _ hw, hnot⟩

theorem reaches_erase {l passed : List CallId} {node w' : CallId} (hnodup : l.Nodup) (hne : w ≠ w')
    (hreach : Reaches l (LinkedList.before l node ++ passed) node w) :
    Reaches (l.erase w') (LinkedList.before (l.erase w') node ++ passed) node w := by
  intro hmem
  obtain ⟨hnode, hold⟩ := hnodup.mem_erase_iff.mp hmem
  obtain ⟨hw, hnot⟩ := hreach hold
  rw [LinkedList.before_erase (Ne.symm hnode)]
  refine ⟨hnodup.mem_erase_iff.mpr ⟨hne, hw⟩, ?_⟩
  intro hpassed
  rcases List.mem_append.mp hpassed with h | h
  · exact hnot (List.mem_append_left _ (List.mem_of_mem_erase h))
  · exact hnot (List.mem_append_right _ h)

/-- The list with the call at its end. -/
theorem unpassed_append {x : Dpc} (w' : CallId) (hbook : Bookkeeping c s)
    (hearly : (s.wait w').pc.early = true)
    (hlist : x.exceptionUserList = (s.dpc (c.waitDevice w)).exceptionUserList ++ [w']) :
    Unpassed (s.stage c w) ((s.setDpc (c.waitDevice w) x).stage c w) := by
  refine unpassed_setDpc hbook ?_
  intro node passed hlate hreach
  have hne : node ≠ w' := by
    intro h
    rw [h, hearly] at hlate
    cases hlate
  rw [hlist]
  exact reaches_append hne hreach

theorem unpassed_erase {x : Dpc} (w' : CallId) (hbook : Bookkeeping c s) (hne : w ≠ w')
    (hlist : x.exceptionUserList = (s.dpc (c.waitDevice w)).exceptionUserList.erase w') :
    Unpassed (s.stage c w) ((s.setDpc (c.waitDevice w) x).stage c w) := by
  refine unpassed_setDpc hbook ?_
  intro node passed _ hreach
  rw [hlist]
  exact reaches_erase (hbook.nodup _) hne hreach

end WaitConnect
end Manager
end AsynDriver
