import AsynDriver.DevEpics.TimeSeries
import AsynDriver.Manager.InterruptListSafety

/-!
# The private lock and the traversal

* `ListChange` — what a call of `addInterruptUser` or `removeInterruptUser` can do to the list up to its
  wait or return.
* `Inv` — the invariant of admissible runs; `no_deadlock` is read off from it.
* `Stuck.path` — a deadlock that has been reached stays; `stop_during_traversal` reaches one.
-/

namespace AsynDriver
namespace DevEpics
namespace TimeSeries

open Library
open Manager (AsynStatus ThreadId)
open Manager.InterruptList (NodeId Call)

/-! ## Calls of the list's functions -/

/-- The thread is neither in the wait nor behind it. -/
def Outside (pc : Manager.InterruptList.Pc) : Prop :=
  ∀ call n, pc ≠ .waiting call n ∧ pc ≠ .woken call n

theorem outside_idle : Outside .idle := fun _ _ => ⟨nofun, nofun⟩

theorem outside_returned (status : AsynStatus) : Outside (.returned status) :=
  fun _ _ => ⟨nofun, nofun⟩

/-- A thread comes to the test of the loop: it returns, or it waits for the traversal that is active. -/
structure ListChange (l l' : Manager.InterruptList.State) (t : ThreadId) (call : Call) (n : NodeId) :
    Prop where
  thread : ∃ pc, l'.thread = Function.update l.thread t pc ∧
    (Outside pc ∨
      pc = .waiting call n ∧ l.callbackActive = true ∧ n ∈ l'.addRemoveList ∧ l'.listModified = true)
  active : l'.callbackActive = l.callbackActive
  done : ∀ m, (l'.node m).callbackDone = (l.node m).callbackDone
  queued : l.addRemoveList ⊆ l'.addRemoveList
  modified : l.listModified = true → l'.listModified = true

variable {l l' : Manager.InterruptList.State} {t : ThreadId} {call : Call} {n : NodeId}

theorem modNode_done {f : Manager.InterruptList.InterruptNode → Manager.InterruptList.InterruptNode}
    (hf : ∀ x, (f x).callbackDone = x.callbackDone) (m : NodeId) :
    ((l.modNode n f).node m).callbackDone = (l.node m).callbackDone := by
  show (Function.update l.node n (f (l.node n)) m).callbackDone = _
  by_cases hm : m = n
  · subst hm
    rw [Function.update_self, hf]
  · rw [Function.update_of_ne hm]

theorem loopHead_change : ListChange l (Manager.InterruptList.loopHead l t call n) t call n := by
  unfold Manager.InterruptList.loopHead
  split
  case isTrue hactive =>
    split
    case isTrue =>
      exact ⟨⟨_, rfl, .inl (outside_returned _)⟩, rfl, modNode_done fun _ => rfl, List.Subset.refl _, id⟩
    case isFalse =>
      refine ⟨⟨_, rfl, .inr ⟨rfl, hactive, ?_, rfl⟩⟩, rfl, modNode_done fun _ => rfl, ?_, fun _ => rfl⟩
      · exact List.mem_append_right _ (List.mem_singleton_self n)
      · exact List.subset_append_left _ _
  case isFalse =>
    exact ⟨⟨_, rfl, .inl (outside_returned _)⟩, rfl, modNode_done fun _ => rfl, List.Subset.refl _, id⟩

theorem changeInterruptUser_change
    (hstep : Manager.InterruptList.changeInterruptUser l t call n = some l') :
    ListChange l l' t call n ∧
      (l.defunct = true → ∃ status, l'.thread = Function.update l.thread t (.returned status)) := by
  unfold Manager.InterruptList.changeInterruptUser at hstep
  split at hstep
  case isFalse => exact nomatch hstep
  case isTrue =>
    split at hstep
    case isTrue =>
      cases hstep
      exact ⟨⟨⟨_, rfl, .inl (outside_returned _)⟩, rfl, fun _ => rfl, List.Subset.refl _, id⟩, fun _ => ⟨_, rfl⟩⟩
    case isFalse hdefunct =>
      refine ⟨?_, fun h => absurd h hdefunct⟩
      split at hstep
      · cases hstep
        exact ⟨⟨_, rfl, .inl (outside_returned _)⟩, rfl, fun _ => rfl, List.Subset.refl _, id⟩
      · cases hstep
        exact loopHead_change

theorem relock_change (hstep : Manager.InterruptList.relock l t = some l') :
    ∃ call n, l.thread t = .woken call n ∧ ListChange l l' t call n := by
  unfold Manager.InterruptList.relock at hstep
  split at hstep
  case h_1 call n hwoken =>
    cases hstep
    exact ⟨call, n, hwoken, loopHead_change⟩
  case h_2 => exact nomatch hstep

/-! ## The invariant -/

section Safety

variable {α : Type} {zero : α} {owner : NodeId → RecordId} {s s' : State α} {r : RecordId}

/-- The record's thread is inside a function of the list. -/
def Pc.ofCall : Call → NodeId → Pc
  | .addInterruptUser, n => .registering n
  | .removeInterruptUser, n => .cancelling n

structure Inv (owner : NodeId → RecordId) (s : State α) : Prop where
  owned : ∀ r call n, (s.record r).pc = .ofCall call n → owner n = r
  registrar : ∀ r n, (s.record r).registrarPvt = some n → owner n = r
  waiting : ∀ r call n, s.list.thread (recordThread r) = .waiting call n →
    (s.record r).pc = .ofCall call n
  woken : ∀ r call n, s.list.thread (recordThread r) = .woken call n →
    (s.record r).pc = .ofCall call n
  /-- Who waits has been signalled, or the traversal will do so at its end. -/
  signalled : ∀ r call n, s.list.thread (recordThread r) = .waiting call n →
    (s.list.node n).callbackDone = true ∨
      n ∈ s.list.addRemoveList ∧ s.list.listModified = true ∧ s.list.callbackActive = true
  active : s.list.callbackActive = true → ∃ w, s.list.thread driver = .walking w
  resting : (∀ w, s.list.thread driver ≠ .walking w) → s.ahead = [] ∧ s.inside = none
  /-- The traversal has nothing more to do for a record whose thread waits for its end. -/
  passed : ∀ r n, s.list.thread (recordThread r) = .waiting .removeInterruptUser n →
    (s.list.node n).callbackDone = false → ¬ ToCome owner s r

theorem Inv.start (nelm : RecordId → Nat) : Inv owner (State.start zero nelm) where
  owned := fun _ call _ hpc => by cases call <;> exact nomatch hpc
  registrar := fun _ _ hnone => nomatch hnone
  waiting := fun _ _ _ hwait => nomatch hwait
  woken := fun _ _ _ hwoken => nomatch hwoken
  signalled := fun _ _ _ hwait => nomatch hwait
  active := fun hactive => nomatch hactive
  resting := fun _ => ⟨rfl, rfl⟩
  passed := fun _ _ hwait => nomatch hwait

theorem setRecord_self (p : DevAsynWf α) : (s.setRecord r p).record r = p :=
  Function.update_self _ _ _

theorem setRecord_of_ne {r₁ : RecordId} (hne : r₁ ≠ r) (p : DevAsynWf α) :
    (s.setRecord r p).record r₁ = s.record r₁ :=
  Function.update_of_ne hne _ _

theorem recordThread_ne_driver : recordThread r ≠ driver := Nat.succ_ne_zero r

theorem recordThread_inj {r' : RecordId} : recordThread r = recordThread r' ↔ r = r' :=
  Nat.succ_inj

/-- A record changes whose thread is outside of the wait. -/
theorem Inv.of_record (hinv : Inv owner s) {p : DevAsynWf α} {created : NodeId → Bool}
    (houtside : Outside (s.list.thread (recordThread r)))
    (hpc : ∀ call n, p.pc = .ofCall call n → owner n = r)
    (hregistrar : ∀ n, p.registrarPvt = some n → owner n = r) :
    Inv owner { s.setRecord r p with created := created } where
  owned := by
    intro r₁ call n h
    by_cases hr : r₁ = r
    · subst hr
      exact hpc call n ((congrArg DevAsynWf.pc (setRecord_self p)).symm.trans h)
    · exact hinv.owned r₁ call n ((congrArg DevAsynWf.pc (setRecord_of_ne hr p)).symm.trans h)
  registrar := by
    intro r₁ n h
    by_cases hr : r₁ = r
    · subst hr
      exact hregistrar n ((congrArg DevAsynWf.registrarPvt (setRecord_self p)).symm.trans h)
    · exact hinv.registrar r₁ n
        ((congrArg DevAsynWf.registrarPvt (setRecord_of_ne hr p)).symm.trans h)
  waiting := by
    intro r₁ call n hwait
    by_cases hr : r₁ = r
    · subst hr
      exact absurd hwait (houtside call n).1
    · exact (congrArg DevAsynWf.pc (setRecord_of_ne hr p)).trans (hinv.waiting r₁ call n hwait)
  woken := by
    intro r₁ call n hwoken
    by_cases hr : r₁ = r
    · subst hr
      exact absurd hwoken (houtside call n).2
    · exact (congrArg DevAsynWf.pc (setRecord_of_ne hr p)).trans (hinv.woken r₁ call n hwoken)
  signalled := hinv.signalled
  active := hinv.active
  resting := hinv.resting
  passed := hinv.passed

/-- A thread of a record comes to the test of the loop; before a removal waits, the traversal must have
passed the record. -/
theorem Inv.of_change (hinv : Inv owner s) {call : Call} {n : NodeId}
    (hpc : l'.thread (recordThread r) = .waiting call n → (s.record r).pc = .ofCall call n)
    (hchange : ListChange s.list l' (recordThread r) call n)
    (hpassed : l'.thread (recordThread r) = .waiting .removeInterruptUser n → ¬ ToCome owner s r) :
    Inv owner { s with list := l' } := by
  obtain ⟨⟨pc, hthread, hcases⟩, hactive, hdone, hqueued, hmodified⟩ := hchange
  have hself : l'.thread (recordThread r) = pc := by rw [hthread, Function.update_self]
  have hother : ∀ t, t ≠ recordThread r → l'.thread t = s.list.thread t := by
    intro t hne
    rw [hthread, Function.update_of_ne hne]
  have hdriver := hother driver recordThread_ne_driver.symm
  refine ⟨hinv.owned, hinv.registrar, ?_, ?_, ?_, ?_, ?_, ?_⟩
  · intro r₁ call₁ n₁ hwait
    by_cases hr : r₁ = r
    · subst hr
      rcases hcases with houtside | ⟨rfl, -⟩
      · exact absurd (hself.symm.trans hwait) (houtside call₁ n₁).1
      · cases hself.symm.trans hwait
        exact hpc hwait
    · rw [hother _ (mt recordThread_inj.mp hr)] at hwait
      exact hinv.waiting r₁ call₁ n₁ hwait
  · intro r₁ call₁ n₁ hwoken
    by_cases hr : r₁ = r
    · subst hr
      rcases hcases with houtside | ⟨rfl, -⟩
      · exact absurd (hself.symm.trans hwoken) (houtside call₁ n₁).2
      · exact nomatch hself.symm.trans hwoken
    · rw [hother _ (mt recordThread_inj.mp hr)] at hwoken
      exact hinv.woken r₁ call₁ n₁ hwoken
  · intro r₁ call₁ n₁ hwait
    by_cases hr : r₁ = r
    · subst hr
      rcases hcases with houtside | ⟨rfl, hwas, hmem, hmod⟩
      · exact absurd (hself.symm.trans hwait) (houtside call₁ n₁).1
      · cases hself.symm.trans hwait
        exact .inr ⟨hmem, hmod, hactive.trans hwas⟩
    · rw [hother _ (mt recordThread_inj.mp hr)] at hwait
      rcases hinv.signalled r₁ call₁ n₁ hwait with hfull | ⟨hmem, hmod, hwas⟩
      · exact .inl ((hdone n₁).trans hfull)
      · exact .inr ⟨hqueued hmem, hmodified hmod, hactive.trans hwas⟩
  · intro hwas
    obtain ⟨w, hwalk⟩ := hinv.active (hactive.symm.trans hwas)
    exact ⟨w, hdriver.trans hwalk⟩
  · intro hnone
    apply hinv.resting
    intro w hwalk
    exact hnone w (hdriver.trans hwalk)
  · intro r₁ n₁ hwait hempty
    by_cases hr : r₁ = r
    · subst hr
      rcases hcases with houtside | ⟨rfl, -⟩
      · exact absurd (hself.symm.trans hwait) (houtside _ n₁).1
      · cases hself.symm.trans hwait
        exact hpassed hwait
    · rw [hother _ (mt recordThread_inj.mp hr)] at hwait
      exact hinv.passed r₁ n₁ hwait ((hdone n₁).symm.trans hempty)

theorem Inv.owner_eq (hinv : Inv owner s) {call : Call} {n : NodeId}
    (hwait : s.list.thread (recordThread r) = .waiting call n) : owner n = r :=
  hinv.owned r call n (hinv.waiting r call n hwait)

/-- What `epicsEventMustWait` leaves alone when it returns. -/
theorem wake_change (hstep : Manager.InterruptList.wake l t = some l') :
    ∃ call n, l.thread t = .waiting call n ∧ (l.node n).callbackDone = true ∧
      l'.thread = Function.update l.thread t (.woken call n) ∧ (∀ m, m ≠ n → l'.node m = l.node m) ∧
      l'.addRemoveList = l.addRemoveList ∧ l'.listModified = l.listModified ∧
      l'.callbackActive = l.callbackActive := by
  unfold Manager.InterruptList.wake at hstep
  split at hstep
  case h_2 => exact nomatch hstep
  case h_1 call n hwait =>
    split at hstep
    case isFalse => exact nomatch hstep
    case isTrue hfull =>
      cases hstep
      exact ⟨call, n, hwait, hfull, rfl, fun m hm => Function.update_of_ne hm _ _, rfl, rfl, rfl⟩

/-- The event is emptied by the only thread that waits for it. -/
theorem Inv.wake (hinv : Inv owner s)
    (hstep : Manager.InterruptList.wake s.list (recordThread r) = some l') :
    Inv owner { s with list := l' } := by
  obtain ⟨call, n, hwait, -, hthread, hnode, hqueued, hmodified, hactive⟩ := wake_change hstep
  have howner := hinv.owner_eq hwait
  have hself : l'.thread (recordThread r) = .woken call n := by rw [hthread, Function.update_self]
  have hother : ∀ t, t ≠ recordThread r → l'.thread t = s.list.thread t := by
    intro t hne
    rw [hthread, Function.update_of_ne hne]
  have hdriver := hother driver recordThread_ne_driver.symm
  -- A record that waits is another one, and waits for another node.
  have hwaits : ∀ r₁ call₁ n₁, l'.thread (recordThread r₁) = .waiting call₁ n₁ →
      s.list.thread (recordThread r₁) = .waiting call₁ n₁ ∧ l'.node n₁ = s.list.node n₁ := by
    intro r₁ call₁ n₁ hwait₁
    by_cases hr : r₁ = r
    · subst hr
      exact nomatch hself.symm.trans hwait₁
    · rw [hother _ (mt recordThread_inj.mp hr)] at hwait₁
      refine ⟨hwait₁, hnode n₁ ?_⟩
      rintro rfl
      exact hr ((hinv.owner_eq hwait₁).symm.trans howner)
  refine ⟨hinv.owned, hinv.registrar, ?_, ?_, ?_, ?_, ?_, ?_⟩
  · intro r₁ call₁ n₁ hwait₁
    exact hinv.waiting r₁ call₁ n₁ (hwaits r₁ call₁ n₁ hwait₁).1
  · intro r₁ call₁ n₁ hwoken₁
    by_cases hr : r₁ = r
    · subst hr
      cases hself.symm.trans hwoken₁
      exact hinv.waiting r₁ call n hwait
    · exact hinv.woken r₁ call₁ n₁ ((hother _ (mt recordThread_inj.mp hr)).symm.trans hwoken₁)
  · intro r₁ call₁ n₁ hwait₁
    obtain ⟨hwas, hsame⟩ := hwaits r₁ call₁ n₁ hwait₁
    show (l'.node n₁).callbackDone = true ∨
      n₁ ∈ l'.addRemoveList ∧ l'.listModified = true ∧ l'.callbackActive = true
    rw [hsame, hqueued, hmodified, hactive]
    exact hinv.signalled r₁ call₁ n₁ hwas
  · intro htrue
    obtain ⟨w, hwalk⟩ := hinv.active (hactive.symm.trans htrue)
    exact ⟨w, hdriver.trans hwalk⟩
  · intro hnone
    apply hinv.resting
    intro w hwalk
    exact hnone w (hdriver.trans hwalk)
  · intro r₁ n₁ hwait₁ hempty
    obtain ⟨hwas, hsame⟩ := hwaits r₁ .removeInterruptUser n₁ hwait₁
    exact hinv.passed r₁ n₁ hwas ((congrArg _ hsame).symm.trans hempty)

/-! ### The traversal -/

/-- When a traversal starts, everybody who still waits has been signalled. -/
theorem Inv.interruptStart (hinv : Inv owner s) {calls : NodeId → Bool}
    (hstep : interruptStart s calls = some s') : Inv owner s' := by
  obtain ⟨l, hlist, rfl⟩ := Option.map_eq_some_iff.mp hstep
  unfold Manager.InterruptList.interruptStart at hlist
  split at hlist
  case isFalse => exact nomatch hlist
  case isTrue hidle =>
    cases hlist
    have hother : ∀ r pc, Function.update s.list.thread driver
        (.walking s.list.callbackList) (recordThread r) = pc → s.list.thread (recordThread r) = pc := by
      intro r pc hpc
      rwa [Function.update_of_ne recordThread_ne_driver] at hpc
    have hfull : ∀ r call n, s.list.thread (recordThread r) = .waiting call n →
        (s.list.node n).callbackDone = true := by
      intro r call n hwait
      rcases hinv.signalled r call n hwait with hfull | ⟨-, -, hactive⟩
      · exact hfull
      · obtain ⟨w, hwalk⟩ := hinv.active hactive
        exact nomatch hidle.symm.trans hwalk
    refine ⟨hinv.owned, hinv.registrar, ?_, ?_, ?_, ?_, ?_, ?_⟩
    · intro r call n hwait
      exact hinv.waiting r call n (hother r _ hwait)
    · intro r call n hwoken
      exact hinv.woken r call n (hother r _ hwoken)
    · intro r call n hwait
      exact .inl (hfull r call n (hother r _ hwait))
    · intro _
      exact ⟨s.list.callbackList, Function.update_self driver _ s.list.thread⟩
    · intro hnone
      exact absurd (Function.update_self driver _ s.list.thread) (hnone s.list.callbackList)
    · intro r n hwait hempty
      exact nomatch (hfull r _ n (hother r _ hwait)).symm.trans hempty

/-- The walk has less to come. -/
theorem Inv.of_walk (hinv : Inv owner s) {ahead : List NodeId} {inside : Option NodeId}
    {record : RecordId → DevAsynWf α} (hpc : ∀ r, (record r).pc = (s.record r).pc)
    (hregistrar : ∀ r, (record r).registrarPvt = (s.record r).registrarPvt)
    (hsub : ∀ m, inside = some m ∨ m ∈ ahead → s.inside = some m ∨ m ∈ s.ahead) :
    Inv owner { s with record := record, ahead := ahead, inside := inside } where
  owned := by
    intro r call n h
    exact hinv.owned r call n ((hpc r).symm.trans h)
  registrar := by
    intro r n h
    exact hinv.registrar r n ((hregistrar r).symm.trans h)
  waiting := by
    intro r call n hwait
    exact (hpc r).trans (hinv.waiting r call n hwait)
  woken := by
    intro r call n hwoken
    exact (hpc r).trans (hinv.woken r call n hwoken)
  signalled := hinv.signalled
  active := hinv.active
  resting := by
    intro hnone
    obtain ⟨hahead, hinside⟩ := hinv.resting hnone
    rw [hahead, hinside] at hsub
    constructor
    · apply List.eq_nil_iff_forall_not_mem.mpr
      intro m hm
      rcases hsub m (.inr hm) with h | h
      · exact nomatch h
      · exact nomatch h
    · cases inside with
      | none => rfl
      | some m =>
          rcases hsub m (.inl rfl) with h | h
          · exact nomatch h
          · exact nomatch h
  passed := by
    intro r n hwait hempty
    rintro ⟨m, hm, howner⟩
    exact hinv.passed r n hwait hempty ⟨m, hsub m hm, howner⟩

theorem Inv.enterCallback (hinv : Inv owner s) (hstep : enterCallback s = some s') :
    Inv owner s' := by
  unfold TimeSeries.enterCallback at hstep
  split at hstep
  case h_2 => exact nomatch hstep
  case h_1 n rest _ hahead =>
    cases hstep
    refine hinv.of_walk (fun _ => rfl) (fun _ => rfl) ?_
    rintro m (hm | hm)
    · cases hm
      rw [hahead]
      exact .inr List.mem_cons_self
    · rw [hahead]
      exact .inr (List.mem_cons_of_mem _ hm)

theorem interruptCallback_frame (p : DevAsynWf α) (value : α) (auxStatus : AsynStatus) :
    (p.interruptCallback value auxStatus).1.pc = p.pc ∧
      (p.interruptCallback value auxStatus).1.registrarPvt = p.registrarPvt := by
  unfold DevAsynWf.interruptCallback
  simp only
  split
  · split <;> exact ⟨rfl, rfl⟩
  · exact ⟨rfl, rfl⟩

theorem Inv.interruptCallback (hinv : Inv owner s) {value : α} {auxStatus : AsynStatus}
    (hstep : interruptCallback owner s value auxStatus = some s') : Inv owner s' := by
  unfold TimeSeries.interruptCallback at hstep
  split at hstep
  case h_2 => exact nomatch hstep
  case h_1 n _ =>
    simp only at hstep
    split at hstep
    case isFalse => exact nomatch hstep
    case isTrue =>
      cases hstep
      refine hinv.of_walk ?_ ?_ ?_
      · intro r
        by_cases hr : r = owner n
        · subst hr
          rw [setRecord_self, (interruptCallback_frame _ _ _).1]
        · rw [setRecord_of_ne hr]
      · intro r
        by_cases hr : r = owner n
        · subst hr
          rw [setRecord_self, (interruptCallback_frame _ _ _).2]
        · rw [setRecord_of_ne hr]
      · rintro m (hm | hm)
        · exact nomatch hm
        · exact .inr hm

/-- The end of the traversal signals everybody on `addRemoveList`. -/
theorem Inv.interruptEnd (hinv : Inv owner s) (hstep : interruptEnd s = some s') : Inv owner s' := by
  unfold TimeSeries.interruptEnd at hstep
  split at hstep
  case isFalse => exact nomatch hstep
  case isTrue hend =>
    obtain ⟨l, hlist, rfl⟩ := Option.map_eq_some_iff.mp hstep
    have hnone : ∀ r, ¬ ToCome owner s r := by
      rintro r ⟨m, hm | hm, -⟩
      · exact nomatch hend.1.symm.trans hm
      · rw [hend.2] at hm
        exact nomatch hm
    have heffect : l.callbackActive = false ∧
        (∀ t, t ≠ driver → l.thread t = s.list.thread t) ∧
        ∀ n, (s.list.node n).callbackDone = true ∨ n ∈ s.list.addRemoveList ∧
          s.list.listModified = true → (l.node n).callbackDone = true := by
      unfold Manager.InterruptList.interruptEnd at hlist
      split at hlist
      case h_2 => exact nomatch hlist
      case h_1 =>
        split at hlist
        case isTrue =>
          cases hlist
          refine ⟨rfl, fun t ht => Function.update_of_ne ht _ _, ?_⟩
          intro n hn
          show (Manager.InterruptList.signalAll s.list.node s.list.addRemoveList n).callbackDone = true
          rw [Manager.InterruptList.signalAll_eq]
          split
          · next hmem => exact hn.resolve_right fun h => List.count_eq_zero.mp hmem h.1
          · rfl
        case isFalse hmodified =>
          cases hlist
          exact ⟨rfl, fun t ht => Function.update_of_ne ht _ _,
            fun n hn => hn.resolve_right fun h => hmodified h.2⟩
    obtain ⟨hactive, hthread, hdone⟩ := heffect
    have hother : ∀ r, (l.setThread driver .idle).thread (recordThread r) =
        s.list.thread (recordThread r) := by
      intro r
      exact (Function.update_of_ne recordThread_ne_driver .idle l.thread).trans
        (hthread _ recordThread_ne_driver)
    refine ⟨hinv.owned, hinv.registrar, ?_, ?_, ?_, ?_, ?_, ?_⟩
    · intro r call n hwait
      exact hinv.waiting r call n ((hother r).symm.trans hwait)
    · intro r call n hwoken
      exact hinv.woken r call n ((hother r).symm.trans hwoken)
    · intro r call n hwait
      refine .inl (hdone n ?_)
      rcases hinv.signalled r call n ((hother r).symm.trans hwait) with hfull | ⟨hmem, hmod, -⟩
      · exact .inl hfull
      · exact .inr ⟨hmem, hmod⟩
    · intro htrue
      exact nomatch hactive.symm.trans htrue
    · intro _
      exact ⟨hend.2, hend.1⟩
    · intro r n _ _
      exact hnone r

/-! ### The records -/

/-- `process` comes to a call for the node it was given or for that of the registration. -/
theorem start_pc {p p' : DevAsynWf α} {n : NodeId} (hstart : p.start zero n = some p') :
    (p'.registrarPvt = p.registrarPvt ∨ p'.registrarPvt = some n) ∧
      (p'.pc = .finishing ∨ ∃ call m, p'.pc = .ofCall call m ∧ p'.registrarPvt = some m) := by
  have hregistrar : (p.arm zero).1.registrarPvt = p.registrarPvt := by
    unfold DevAsynWf.arm
    split <;> rfl
  unfold DevAsynWf.start at hstart
  simp only at hstart
  split at hstart
  · cases hstart
    exact ⟨.inl hregistrar, .inl rfl⟩
  · split at hstart
    · cases hstart
      exact ⟨.inr rfl, .inr ⟨.addInterruptUser, n, rfl, rfl⟩⟩
    · obtain ⟨m, hm, rfl⟩ := Option.map_eq_some_iff.mp hstart
      exact ⟨.inl hregistrar, .inr ⟨.removeInterruptUser, m, rfl, hm⟩⟩

/-- Where the record is not in a call, its thread is outside of the wait. -/
theorem Inv.outside (hinv : Inv owner s) (hpc : ∀ call n, (s.record r).pc ≠ .ofCall call n) :
    Outside (s.list.thread (recordThread r)) :=
  fun call n => ⟨fun hwait => hpc call n (hinv.waiting r call n hwait),
    fun hwoken => hpc call n (hinv.woken r call n hwoken)⟩

theorem ofCall_inj {call call' : Call} {n n' : NodeId}
    (hpc : Pc.ofCall call n = Pc.ofCall call' n') : n = n' := by
  cases call <;> cases call' <;> cases hpc <;> rfl

theorem Inv.process (hinv : Inv owner s) {rarm : Nat} {n : NodeId}
    (hstep : process zero owner s r rarm n = some s') : Inv owner s' := by
  unfold TimeSeries.process at hstep
  simp only at hstep
  split at hstep
  case isFalse => exact nomatch hstep
  case isTrue hguard =>
    obtain ⟨p', hstart, rfl⟩ := Option.map_eq_some_iff.mp hstep
    obtain ⟨hidle, howner, -⟩ := hguard
    obtain ⟨hregistrar, hpc⟩ := start_pc hstart
    have hnode : ∀ m, p'.registrarPvt = some m → owner m = r := by
      intro m hm
      rcases hregistrar with hsame | hnew
      · exact hinv.registrar r m (hsame.symm.trans hm)
      · cases hnew.symm.trans hm
        exact howner
    refine hinv.of_record (hinv.outside ?_) ?_ hnode
    · intro call m hcall
      cases call <;> exact nomatch hidle.symm.trans hcall
    · intro call₁ n₁ h
      rcases hpc with hfinish | ⟨call, m, hcall, hm⟩
      · cases call₁ <;> exact nomatch hfinish.symm.trans h
      · rw [ofCall_inj (h.symm.trans hcall)]
        exact hnode m hm

theorem Inv.resetStatus (hinv : Inv owner s) (hstep : resetStatus s r = some s') : Inv owner s' := by
  unfold TimeSeries.resetStatus at hstep
  split at hstep
  case isFalse => exact nomatch hstep
  case isTrue hreporting =>
    cases hstep
    refine hinv.of_record (hinv.outside ?_) ?_ (hinv.registrar r)
    · intro call m hcall
      cases call <;> exact nomatch hreporting.symm.trans hcall
    · intro call m hcall
      cases call <;> exact nomatch hcall

/-- The thread leaves the list, and the record its lock. -/
theorem Inv.release (hinv : Inv owner s) (hstep : release s r = some s') : Inv owner s' := by
  unfold TimeSeries.release at hstep
  split at hstep
  case isFalse => exact nomatch hstep
  case isTrue =>
    cases hstep
    have hself : (s.list.setThread (recordThread r) .idle).thread (recordThread r) = .idle :=
      Function.update_self _ _ _
    have hleft : Inv owner { s with list := s.list.setThread (recordThread r) .idle } := by
      have hchange : ListChange s.list (s.list.setThread (recordThread r) .idle) (recordThread r)
          .addInterruptUser 0 :=
        ⟨⟨_, rfl, .inl outside_idle⟩, rfl, fun _ => rfl, List.Subset.refl _, id⟩
      refine hinv.of_change ?_ hchange ?_
      · intro hwait
        exact nomatch hself.symm.trans hwait
      · intro hwait
        exact nomatch hself.symm.trans hwait
    refine Inv.of_record (p := (s.record r).release) hleft ?_ ?_ ?_
    · rw [hself]
      exact outside_idle
    · intro call m hcall
      cases call <;> exact nomatch hcall
    · exact hinv.registrar r

/-- Every admissible step keeps the invariant. -/
theorem Inv.step (hinv : Inv owner s) {a : Action α} (hok : Admissible owner s a)
    (hstep : step zero owner s a = some s') : Inv owner s' := by
  cases a with
  | process r rarm n => exact hinv.process hstep
  | addInterruptUser r =>
      simp only [TimeSeries.step, TimeSeries.addInterruptUser] at hstep
      split at hstep
      case h_2 => exact nomatch hstep
      case h_1 n hpc =>
        obtain ⟨l, hlist, rfl⟩ := Option.map_eq_some_iff.mp hstep
        have hchange := (changeInterruptUser_change hlist).1
        refine hinv.of_change (fun _ => hpc) hchange ?_
        intro hwait
        -- The thread may wait, but not for a removal.
        obtain ⟨⟨pc, hthread, houtside | ⟨rfl, -⟩⟩, -⟩ := hchange
        · rw [hthread, Function.update_self] at hwait
          exact absurd hwait (houtside _ n).1
        · rw [hthread, Function.update_self] at hwait
          exact nomatch hwait
  | removeInterruptUser r =>
      simp only [TimeSeries.step, TimeSeries.removeInterruptUser] at hstep
      split at hstep
      case h_2 => exact nomatch hstep
      case h_1 n hpc =>
        obtain ⟨l, hlist, rfl⟩ := Option.map_eq_some_iff.mp hstep
        obtain ⟨hchange, hdefunct⟩ := changeInterruptUser_change hlist
        refine hinv.of_change (fun _ => hpc) hchange ?_
        intro hwait
        apply hok
        rw [← Bool.not_eq_true]
        intro htrue
        obtain ⟨status, hreturned⟩ := hdefunct htrue
        rw [hreturned, Function.update_self] at hwait
        exact nomatch hwait
  | wake r =>
      obtain ⟨l, hlist, rfl⟩ := Option.map_eq_some_iff.mp hstep
      exact hinv.wake hlist
  | relock r =>
      obtain ⟨l, hlist, rfl⟩ := Option.map_eq_some_iff.mp hstep
      obtain ⟨call, n, hwoken, hchange⟩ := relock_change hlist
      have hpc := hinv.woken r call n hwoken
      refine hinv.of_change (fun _ => hpc) hchange ?_
      intro hwait
      apply hok
      obtain ⟨⟨pc, hthread, houtside | ⟨rfl, -⟩⟩, -⟩ := hchange
      · rw [hthread, Function.update_self] at hwait
        exact absurd hwait (houtside _ n).1
      · rw [hthread, Function.update_self] at hwait
        cases hwait
        exact ⟨n, hpc⟩
  | release r => exact hinv.release hstep
  | resetStatus r => exact hinv.resetStatus hstep
  | interruptStart calls => exact hinv.interruptStart hstep
  | enterCallback => exact hinv.enterCallback hstep
  | interruptCallback value auxStatus => exact hinv.interruptCallback hstep
  | interruptEnd => exact hinv.interruptEnd hstep
  | shutdownPort =>
      cases hstep
      exact { hinv with }

/-- In no run of admissible steps does a record's thread wait, with the lock, for a driver that waits for
that lock. -/
theorem no_deadlock (zero : α) (owner : NodeId → RecordId) (s : State α)
    (hreach : (machine zero owner).Reachable (Admissible owner) s) (r : RecordId) (n : NodeId) :
    ¬ Deadlocked owner s r n := by
  have hinv : Inv owner s := by
    refine hreach.invariant ?_ ?_
    · rintro s ⟨nelm, rfl⟩
      exact Inv.start nelm
    · intro s a s' hok hinv hstep
      exact hinv.step hok hstep
  intro hdead
  obtain ⟨m, hm, howner⟩ := hdead.inside
  exact hinv.passed r n hdead.waiting hdead.empty ⟨m, .inl hm, howner⟩

/-! ## A deadlock lasts -/

/-- The driver is in the traversal in which the deadlock is. -/
structure Stuck (owner : NodeId → RecordId) (s : State α) (r : RecordId) (n : NodeId) : Prop
    extends Deadlocked owner s r n where
  walking : ∃ w, s.list.thread driver = .walking w

theorem Stuck.of_record {n : NodeId} (hstuck : Stuck owner s r n) {r' : RecordId} (hne : r' ≠ r)
    (p : DevAsynWf α) (created : NodeId → Bool) :
    Stuck owner { s.setRecord r' p with created := created } r n where
  cancelling := (congrArg DevAsynWf.pc (setRecord_of_ne hne.symm p)).trans hstuck.cancelling
  waiting := hstuck.waiting
  empty := hstuck.empty
  lock := (congrArg DevAsynWf.lock (setRecord_of_ne hne.symm p)).trans hstuck.lock
  inside := hstuck.inside
  walking := hstuck.walking

/-- Another record's thread moves in the list. -/
theorem Stuck.of_list {n : NodeId} (hstuck : Stuck owner s r n)
    (hthread : l'.thread (recordThread r) = s.list.thread (recordThread r))
    (hdriver : l'.thread driver = s.list.thread driver)
    (hdone : (l'.node n).callbackDone = (s.list.node n).callbackDone) :
    Stuck owner { s with list := l' } r n where
  cancelling := hstuck.cancelling
  waiting := hthread.trans hstuck.waiting
  empty := hdone.trans hstuck.empty
  lock := hstuck.lock
  inside := hstuck.inside
  walking := by
    obtain ⟨w, hwalk⟩ := hstuck.walking
    exact ⟨w, hdriver.trans hwalk⟩

theorem Stuck.of_change {n n' : NodeId} {call : Call} (hstuck : Stuck owner s r n) {r' : RecordId}
    (hne : r' ≠ r) (hchange : ListChange s.list l' (recordThread r') call n') :
    Stuck owner { s with list := l' } r n := by
  obtain ⟨⟨pc, hthread, -⟩, -, hdone, -, -⟩ := hchange
  refine hstuck.of_list ?_ ?_ (hdone n)
  · rw [hthread, Function.update_of_ne (mt recordThread_inj.mp hne.symm)]
  · rw [hthread, Function.update_of_ne recordThread_ne_driver.symm]

theorem changeInterruptUser_idle (hstep : Manager.InterruptList.changeInterruptUser l t call n = some l') :
    l.thread t = .idle := by
  unfold Manager.InterruptList.changeInterruptUser at hstep
  split at hstep
  case isTrue hidle => exact hidle
  case isFalse => exact nomatch hstep

/-- Neither the record's thread nor the driver can move, and nobody else ends their waits. -/
theorem Stuck.step {n : NodeId} (hstuck : Stuck owner s r n) {a : Action α}
    (hstep : step zero owner s a = some s') : Stuck owner s' r n := by
  obtain ⟨w, hwalk⟩ := hstuck.walking
  obtain ⟨m, hinside, howner⟩ := hstuck.inside
  cases a with
  | process r' rarm n' =>
      simp only [TimeSeries.step, process] at hstep
      split at hstep
      case isFalse => exact nomatch hstep
      case isTrue hguard =>
        obtain ⟨p', -, rfl⟩ := Option.map_eq_some_iff.mp hstep
        refine hstuck.of_record ?_ p' _
        -- the stuck record is cancelling, so this is another record
        rintro rfl
        exact nomatch hguard.1.symm.trans hstuck.cancelling
  | addInterruptUser r' =>
      simp only [TimeSeries.step, addInterruptUser] at hstep
      split at hstep
      case h_2 => exact nomatch hstep
      case h_1 =>
        obtain ⟨l, hlist, rfl⟩ := Option.map_eq_some_iff.mp hstep
        refine hstuck.of_change ?_ (changeInterruptUser_change hlist).1
        rintro rfl
        exact nomatch (changeInterruptUser_idle hlist).symm.trans hstuck.waiting
  | removeInterruptUser r' =>
      simp only [TimeSeries.step, removeInterruptUser] at hstep
      split at hstep
      case h_2 => exact nomatch hstep
      case h_1 =>
        obtain ⟨l, hlist, rfl⟩ := Option.map_eq_some_iff.mp hstep
        refine hstuck.of_change ?_ (changeInterruptUser_change hlist).1
        rintro rfl
        exact nomatch (changeInterruptUser_idle hlist).symm.trans hstuck.waiting
  | wake r' =>
      obtain ⟨l, hlist, rfl⟩ := Option.map_eq_some_iff.mp hstep
      obtain ⟨call, n', hwait, hfull, hthread, hnode, -⟩ := wake_change hlist
      -- the node that the record waits for is not signalled: the thread that wakes waits for another
      have hn : n ≠ n' := by
        rintro rfl
        exact nomatch hstuck.empty.symm.trans hfull
      have hr : r ≠ r' := by
        rintro rfl
        cases hwait.symm.trans hstuck.waiting
        exact hn rfl
      refine hstuck.of_list ?_ ?_ (congrArg _ (hnode n hn))
      · rw [hthread, Function.update_of_ne (mt recordThread_inj.mp hr)]
      · rw [hthread, Function.update_of_ne recordThread_ne_driver.symm]
  | relock r' =>
      obtain ⟨l, hlist, rfl⟩ := Option.map_eq_some_iff.mp hstep
      obtain ⟨call, n', hwoken, hchange⟩ := relock_change hlist
      refine hstuck.of_change ?_ hchange
      rintro rfl
      exact nomatch hwoken.symm.trans hstuck.waiting
  | release r' =>
      simp only [TimeSeries.step, release] at hstep
      split at hstep
      case isFalse => exact nomatch hstep
      case isTrue hreturned =>
        have hne : r' ≠ r := by
          rintro rfl
          unfold returned at hreturned
          rw [hstuck.cancelling, hstuck.waiting] at hreturned
          exact nomatch hreturned
        cases hstep
        have hlist : Stuck owner { s with list := s.list.setThread (recordThread r') .idle } r n := by
          refine hstuck.of_list ?_ ?_ rfl
          · exact Function.update_of_ne (mt recordThread_inj.mp hne.symm) .idle s.list.thread
          · exact Function.update_of_ne (Nat.succ_ne_zero r').symm .idle s.list.thread
        exact hlist.of_record hne _ s.created
  | resetStatus r' =>
      simp only [TimeSeries.step, resetStatus] at hstep
      split at hstep
      case isFalse => exact nomatch hstep
      case isTrue hreporting =>
        cases hstep
        refine hstuck.of_record ?_ _ s.created
        rintro rfl
        exact nomatch hreporting.symm.trans hstuck.cancelling
  | interruptStart calls =>
      -- the driver is in the middle of its walk over the list
      obtain ⟨l, hlist, -⟩ := Option.map_eq_some_iff.mp hstep
      unfold Manager.InterruptList.interruptStart at hlist
      rw [hwalk, if_neg nofun] at hlist
      exact nomatch hlist
  | enterCallback =>
      simp only [TimeSeries.step, enterCallback, hinside] at hstep
      exact nomatch hstep
  | interruptCallback value auxStatus =>
      -- the callback needs the lock of the record that waits for it
      simp only [TimeSeries.step, interruptCallback, hinside, howner, hstuck.lock] at hstep
      exact nomatch hstep
  | interruptEnd =>
      simp only [TimeSeries.step, interruptEnd, hinside] at hstep
      exact nomatch hstep
  | shutdownPort =>
      cases hstep
      exact { hstuck with }

theorem Stuck.path {n : NodeId} (hstuck : Stuck owner s r n) {ok : State α → Action α → Prop}
    (hpath : (machine zero owner).Path ok s s') : Stuck owner s' r n := by
  refine hpath.invariant (I := fun s => Stuck owner s r n) ?_ hstuck
  intro s a s' _ hstuck hstep
  exact hstuck.step hstep

end Safety

/-! ## Runs with and without -/

/-- All nodes are for the record 0. -/
def oneOwner : NodeId → RecordId := fun _ => 0

/-- The record is started, a traversal fills its array of one element, and the next finds it full. -/
def acquire : List (Action Nat) :=
  [.process 0 1 0, .addInterruptUser 0, .release 0, .resetStatus 0,
    .interruptStart (fun _ => true), .enterCallback, .interruptCallback 7 .asynSuccess, .interruptEnd,
    .interruptStart (fun _ => true), .enterCallback, .interruptCallback 8 .asynSuccess]

/-- The record is processed before that traversal ends. -/
def stopAfterCallback : List (Action Nat) := acquire ++ [Action.process 0 0 1, .removeInterruptUser 0]

/-- The next traversal has started when the record is processed. -/
def stopDuringTraversal : List (Action Nat) :=
  acquire ++ [Action.interruptEnd, .interruptStart (fun _ => true), .process 0 0 1, .removeInterruptUser 0,
    .enterCallback]

def stateAfter (run : List (Action Nat)) : State Nat :=
  ((machine 0 oneOwner).exec (State.start 0 fun _ => 1) run).getD (State.start 0 fun _ => 1)

/-- No traversal has anything before it when a removal tests for one. -/
def quiet (s : State Nat) : Action Nat → Bool
  | .removeInterruptUser _ | .relock _ => s.inside.isNone && s.ahead.isEmpty
  | _ => true

theorem admissible_of_quiet (s : State Nat) (a : Action Nat) (hquiet : quiet s a = true) :
    Admissible oneOwner s a := by
  have hnone : (s.inside.isNone && s.ahead.isEmpty) = true → ∀ r, ¬ ToCome oneOwner s r := by
    intro h r
    obtain ⟨hinside, hahead⟩ := Bool.and_eq_true_iff.mp h
    rw [Option.isNone_iff_eq_none] at hinside
    rw [List.isEmpty_iff] at hahead
    rintro ⟨m, hm | hm, -⟩
    · exact nomatch hinside.symm.trans hm
    · rw [hahead] at hm
      exact nomatch hm
  cases a with
  | removeInterruptUser r => exact fun _ => hnone hquiet r
  | relock r => exact fun _ => hnone hquiet r
  | _ => trivial

/-- A stop because the array is full, in which the record's thread waits for the end of a traversal that
has passed the record. -/
theorem no_deadlock_example :
    ∃ s : State Nat, (s.list.thread 1, (s.record 0).lock) = (.waiting .removeInterruptUser 0, true) ∧
      ∀ r n, ¬ Deadlocked oneOwner s r n := by
  obtain ⟨s, hreach, hwait⟩ := Machine.exists_reachable_of_execGuarded (M := machine 0 oneOwner)
    (fun s => (s.list.thread 1, (s.record 0).lock)) admissible_of_quiet
    (s := State.start 0 fun _ => 1) stopAfterCallback
    (b := (.waiting .removeInterruptUser 0, true)) ⟨_, rfl⟩ rfl
  exact ⟨s, hwait, no_deadlock 0 oneOwner s hreach⟩

/-- The stop falls into a traversal that has not come to the record: the two wait for each other, and
whatever happens they go on doing so. -/
theorem stop_during_traversal :
    ∃ s : State Nat, (machine 0 oneOwner).Reachable Machine.Unguarded s ∧ Deadlocked oneOwner s 0 0 ∧
      ∀ s', (machine 0 oneOwner).Path Machine.Unguarded s s' → Deadlocked oneOwner s' 0 0 := by
  have hrun : (machine 0 oneOwner).exec (State.start 0 fun _ => 1) stopDuringTraversal =
      some (stateAfter stopDuringTraversal) := rfl
  have hstuck : Stuck oneOwner (stateAfter stopDuringTraversal) 0 0 :=
    ⟨⟨rfl, rfl, rfl, rfl, 0, rfl, rfl⟩, [0], rfl⟩
  refine ⟨_, Machine.reachable_of_exec ⟨_, rfl⟩ hrun, hstuck.toDeadlocked, ?_⟩
  intro s' hpath
  exact (hstuck.path hpath).toDeadlocked

end TimeSeries
end DevEpics
end AsynDriver
