import Mathlib.Data.List.Nodup
import Mathlib.Data.Set.Function
import Mathlib.Tactic.Common
import AsynDriver.Gpib.PollTable

/-!
# What the passes of `srqPoll` poll

`visited` lists the nodes with `pollIt` in the order of the two loops; a pass is the sequence of their
`pollOne`.  `Consistent` ties the nodes to the log of `pollAddr` calls, for addresses that `getAddr`
keeps apart.  A device that is disabled, or not connected and not to be connected, is skipped.
-/

namespace AsynDriver
namespace Gpib
namespace PollTable

open Manager (AsynStatus)

variable {port : Port} {pollList : PollList} {t : Try} {r : NodeRef}

/-! ## One pass, node by node -/

theorem flatMap_ite {α β : Type} (p : α → Bool) (f : α → List β) (l : List α) :
    (l.flatMap fun x => if p x then f x else []) = (l.filter p).flatMap f := by
  induction l with
  | nil => rfl
  | cons x l ih =>
      cases hx : p x with
      | false => simp [hx, ih]
      | true => simp [hx, ih]

/-- The nodes that the loops of `srqPoll` hand to `pollOne`. -/
def PollList.visited (pollList : PollList) : List NodeRef :=
  (List.range numGpibAddresses).flatMap fun p =>
    (if (pollList p).primary.pollIt then [.primary p] else []) ++
    (if (pollList p).pollSecondary then
      ((List.range numGpibAddresses).filter fun s => ((pollList p).secondary s).pollIt).map
        (.secondary p)
    else [])

def pollNode (port : Port) (pollList : PollList) (t : Try) (r : NodeRef) : List PollEvent :=
  pollOne port t (pollList.node r) r.addr

theorem pollPass_eq :
    pollPass port pollList t =
      .serialPollBegin :: pollList.visited.flatMap (pollNode port pollList t) ++
        [.serialPollEnd] := by
  have hloops : ∀ p,
      (if (pollList p).primary.pollIt then pollOne port t (pollList p).primary p else []) ++
        (if (pollList p).pollSecondary then
          (List.range numGpibAddresses).flatMap fun s =>
            if ((pollList p).secondary s).pollIt then
              pollOne port t ((pollList p).secondary s) (p * 100 + s)
            else []
        else []) =
      ((if (pollList p).primary.pollIt then [NodeRef.primary p] else []) ++
        (if (pollList p).pollSecondary then
          ((List.range numGpibAddresses).filter fun s => ((pollList p).secondary s).pollIt).map
            (NodeRef.secondary p)
        else [])).flatMap (pollNode port pollList t) := by
    intro p
    rw [List.flatMap_append]
    congr 1
    · cases (pollList p).primary.pollIt with
      | false => rfl
      | true => simp [pollNode, PollList.node, NodeRef.addr]
    · cases (pollList p).pollSecondary with
      | false => rfl
      | true =>
          simp only [if_true]
          rw [flatMap_ite (fun s => ((pollList p).secondary s).pollIt), List.flatMap_map]
          rfl
  simp only [pollPass, hloops, PollList.visited, List.flatMap_assoc]

theorem mem_visited :
    r ∈ pollList.visited ↔
      r.inTable ∧ (pollList.node r).pollIt = true ∧ pollList.looksAt r = true := by
  simp only [PollList.visited, List.mem_flatMap, List.mem_range, List.mem_append]
  constructor
  · rintro ⟨p, hp, hprimary | hsecondary⟩
    · split at hprimary
      · next hon =>
          rw [List.mem_singleton] at hprimary
          subst hprimary
          exact ⟨hp, hon, rfl⟩
      · cases hprimary
    · split at hsecondary
      · next hopen =>
          obtain ⟨s, hs, rfl⟩ := List.mem_map.mp hsecondary
          obtain ⟨hs, hon⟩ := List.mem_filter.mp hs
          exact ⟨⟨hp, List.mem_range.mp hs⟩, hon, hopen⟩
      · cases hsecondary
  · rintro ⟨htable, hon, hlooks⟩
    cases r with
    | primary p =>
        have hon : (pollList p).primary.pollIt = true := hon
        exact ⟨p, htable, .inl (by simp [hon])⟩
    | secondary p s =>
        have hopen : (pollList p).pollSecondary = true := hlooks
        have hon : ((pollList p).secondary s).pollIt = true := hon
        exact ⟨p, htable.1, .inr (by simp [hopen, hon, htable.2])⟩

/-- The primary part of the position of a node. -/
def NodeRef.first : NodeRef → Nat
  | .primary p => p
  | .secondary p _ => p

theorem visited_nodup : pollList.visited.Nodup := by
  unfold PollList.visited
  have hfirst : ∀ p, ∀ r ∈
      (if (pollList p).primary.pollIt then [NodeRef.primary p] else []) ++
        (if (pollList p).pollSecondary then
          ((List.range numGpibAddresses).filter fun s => ((pollList p).secondary s).pollIt).map
            (NodeRef.secondary p)
        else []), r.first = p := by
    intro p r hr
    rcases List.mem_append.mp hr with hr | hr
    · split at hr
      · rw [List.mem_singleton.mp hr]
        rfl
      · cases hr
    · split at hr
      · obtain ⟨s, -, rfl⟩ := List.mem_map.mp hr
        rfl
      · cases hr
  rw [List.nodup_flatMap]
  constructor
  · intro p _
    apply List.Nodup.append
    · split
      · exact List.nodup_singleton _
      · exact List.nodup_nil
    · split
      · apply List.Nodup.map
        · intro s s' hs
          cases hs
          rfl
        · exact List.nodup_range.filter _
      · exact List.nodup_nil
    · intro r hprimary hsecondary
      split at hprimary
      · split at hsecondary
        · obtain ⟨s, -, rfl⟩ := List.mem_map.mp hsecondary
          cases List.mem_singleton.mp hprimary
        · cases hsecondary
      · cases hprimary
  · apply List.nodup_range.imp
    intro p p' hne r hr hr'
    exact hne ((hfirst p r hr).symm.trans (hfirst p' r hr'))

/-! ## Polls and callbacks of one pass -/

/-- `pollOne` comes to `serialPoll`. -/
def reached (t : Try) (node : PollNode) : Bool :=
  match node.pasynUser with
  | none => false
  | some user => t.devices.reachable user

theorem polled_callClients (addr : Nat) :
    (callClients port t addr).filterMap PollEvent.polled = [] := by
  unfold callClients
  split
  · rfl
  · split
    · simp [List.filterMap_map, PollEvent.polled, Function.comp_def]
    · rfl

theorem polled_pollNode :
    (pollNode port pollList t r).filterMap PollEvent.polled =
      if reached t (pollList.node r) then [r.addr] else [] := by
  unfold pollNode pollOne reached
  cases (pollList.node r).pasynUser with
  | none => rfl
  | some user =>
      cases hreachable : t.devices.reachable user with
      | false => simp [hreachable]
      | true => simp [hreachable, PollEvent.polled, polled_callClients]

theorem addr_legal (hmulti : port.multiDevice = true) (htable : r.inTable) :
    if port.multiDevice then
      r.addr < numGpibAddresses ∨
        100 ≤ r.addr ∧ r.addr / 100 < numGpibAddresses ∧ r.addr % 100 < numGpibAddresses
    else r.addr = 0 := by
  rw [if_pos hmulti]
  cases r with
  | primary p => exact .inl htable
  | secondary p s =>
      have hp : p < 32 := htable.1
      have hs : s < 32 := htable.2
      simp only [NodeRef.addr, numGpibAddresses]
      omega

theorem getAddr_device {addr userAddr : Nat} {r' : NodeRef} (hmulti : port.multiDevice = true)
    (haddr : getAddr port (.device addr) = .ok (userAddr, r')) : userAddr = addr := by
  simp only [getAddr, managerGetAddr, hmulti, if_true] at haddr
  split at haddr
  · split at haddr
    · cases haddr
    · cases haddr
      rfl
  · split at haddr
    · cases haddr
    · cases haddr
      rfl

/-- `getAddr` accepts every address that `srqPoll` builds, so the test in the client loop asks for
the clients of that address. -/
theorem isCalled_eq (htable : r.inTable) (client : Client) :
    isCalled port r.addr client = Client.registeredFor port r.addr client := by
  cases hmulti : port.multiDevice with
  | false =>
      cases hconnection : client.connection <;>
        simp [isCalled, Client.registeredFor, Client.address, getAddr, managerGetAddr, hmulti,
          hconnection]
  | true =>
      cases hconnection : client.connection with
      | notConnected =>
          simp [isCalled, Client.registeredFor, Client.address, getAddr, managerGetAddr,
            hconnection]
      | port =>
          simp [isCalled, Client.registeredFor, Client.address, getAddr, managerGetAddr, hmulti,
            hconnection]
      | device addr =>
          by_cases haddr : addr = r.addr
          · have hlegal := getAddr_user (⟨r.addr, addr_legal hmulti htable⟩ : Address port)
            have huser : (⟨r.addr, addr_legal hmulti htable⟩ : Address port).user =
                .device r.addr := if_pos hmulti
            rw [huser] at hlegal
            simp [isCalled, Client.registeredFor, Client.address, hconnection, hmulti, haddr,
              hlegal]
          · unfold isCalled
            rw [hconnection]
            split
            · simp [Client.registeredFor, Client.address, hconnection, hmulti, haddr]
            · next userAddr r' hget =>
                have hsame := getAddr_device hmulti hget
                simp [Client.registeredFor, Client.address, hconnection, hmulti, hsame]

theorem called_callClients (htable : r.inTable) :
    (callClients port t r.addr).filterMap PollEvent.called = deliveries port t r.addr := by
  unfold callClients deliveries
  rw [funext (isCalled_eq htable)]
  split
  · rfl
  · split
    · simp [List.filterMap_map, PollEvent.called, Function.comp_def]
    · rfl

theorem called_pollNode (htable : r.inTable) :
    (pollNode port pollList t r).filterMap PollEvent.called =
      if reached t (pollList.node r) then deliveries port t r.addr else [] := by
  unfold pollNode pollOne reached
  cases (pollList.node r).pasynUser with
  | none => rfl
  | some user =>
      cases hreachable : t.devices.reachable user with
      | false => simp [hreachable]
      | true =>
          simp only [hreachable, if_true]
          rw [List.filterMap_cons_none rfl, called_callClients htable]

/-- The addresses of a pass: those of the nodes visited and reached, in their order. -/
theorem polled_pollPass :
    (pollPass port pollList t).filterMap PollEvent.polled =
      (pollList.visited.filter fun r => reached t (pollList.node r)).map NodeRef.addr := by
  rw [pollPass_eq]
  simp only [List.filterMap_append, List.filterMap_cons, List.filterMap_nil, PollEvent.polled,
    List.append_nil, List.filterMap_flatMap, polled_pollNode]
  rw [flatMap_ite (fun r => reached t (pollList.node r)), List.map_eq_flatMap]

theorem called_pollPass :
    (pollPass port pollList t).filterMap PollEvent.called =
      ((pollPass port pollList t).filterMap PollEvent.polled).flatMap (deliveries port t) := by
  rw [polled_pollPass, List.flatMap_map, ← flatMap_ite, pollPass_eq]
  simp only [List.filterMap_append, List.filterMap_cons, List.filterMap_nil, PollEvent.called,
    List.append_nil, List.filterMap_flatMap]
  apply List.flatMap_congr
  intro r hr
  exact called_pollNode (mem_visited.mp hr).1

theorem mem_polled {addr : Nat} :
    addr ∈ (pollPass port pollList t).filterMap PollEvent.polled ↔
      ∃ r, r ∈ pollList.visited ∧ reached t (pollList.node r) = true ∧ r.addr = addr := by
  rw [polled_pollPass, List.mem_map]
  simp only [List.mem_filter, and_assoc]

/-! ## The passes of one `srqPoll` -/

theorem srqPollFrom_succ {tries : Nat → Try} (ntrys remaining : Nat) :
    srqPollFrom port pollList tries ntrys (remaining + 1) =
      if (tries ntrys).srqStatus = some true then
        pollPass port pollList (tries ntrys) ::
          srqPollFrom port pollList tries (ntrys + 1) remaining
      else [] := by
  rw [srqPollFrom]
  cases (tries ntrys).srqStatus with
  | none => rfl
  | some pending => cases pending <;> rfl

theorem srqPollFrom_getElem? {tries : Nat → Try} {i : Nat} {pass : List PollEvent}
    (remaining ntrys : Nat) :
    (srqPollFrom port pollList tries ntrys remaining)[i]? = some pass ↔
      (i < remaining ∧ ∀ j ≤ i, (tries (ntrys + j)).srqStatus = some true) ∧
        pollPass port pollList (tries (ntrys + i)) = pass := by
  induction remaining generalizing ntrys i with
  | zero => simp [srqPollFrom]
  | succ remaining ih =>
      rw [srqPollFrom_succ]
      by_cases hpending : (tries ntrys).srqStatus = some true
      · rw [if_pos hpending]
        cases i with
        | zero => simp [hpending]
        | succ i =>
            have hshift : ∀ j, ntrys + 1 + j = ntrys + (j + 1) := by omega
            rw [List.getElem?_cons_succ, ih, hshift]
            simp only [hshift, Nat.add_lt_add_iff_right]
            refine and_congr_left fun _ => and_congr_right fun _ => ?_
            constructor
            · intro hlater j hj
              cases j with
              | zero => exact hpending
              | succ j => exact hlater j (Nat.le_of_succ_le_succ hj)
            · intro hall j hj
              exact hall (j + 1) (Nat.succ_le_succ hj)
      · rw [if_neg hpending]
        constructor
        · intro hget
          cases hget
        · rintro ⟨⟨-, hall⟩, -⟩
          exact absurd (hall 0 (Nat.zero_le i)) hpending

theorem srqPoll_getElem? {tries : Nat → Try} {i : Nat} {pass : List PollEvent} :
    (srqPoll port pollList tries)[i]? = some pass ↔
      Polls tries i ∧ pollPass port pollList (tries i) = pass := by
  unfold srqPoll Polls
  rw [srqPollFrom_getElem?]
  simp only [Nat.zero_add]

/-! ## The nodes after a run of `pollAddr` -/

/-- The nodes that are on belong to addresses whose last successful call was for on, and the other
way round. -/
structure Consistent (S : Set (Address port)) (s : State port) : Prop where
  on : ∀ r, (s.pollList.node r).pollIt = true → s.pollList.looksAt r = true ∧
    ∃ a ∈ S, a.node = r ∧ (s.pollList.node r).pasynUser = some a.val ∧
      s.lastSwitch a.val = some true
  on_of_last : ∀ a ∈ S, s.lastSwitch a.val = some true → (s.pollList.node a.node).pollIt = true

theorem call_switched (s : State port) (c : Call port) :
    ∃ status, (s.call c).log = (c, status) :: s.log ∧
      Switched c.addr.val c.addr.node c.onOff s.pollList (s.call c).pollList status :=
  ⟨_, rfl, pollAddr_switched c.onOff c.answers (getAddr_user c.addr)⟩

theorem lastSwitch_of_log {s s' : State port} {c : Call port} {status : AsynStatus}
    (hlog : s'.log = (c, status) :: s.log) (addr : Nat) :
    s'.lastSwitch addr =
      if c.addr.val = addr ∧ status = .asynSuccess then some c.onOff else s.lastSwitch addr := by
  unfold State.lastSwitch
  rw [hlog]
  by_cases hlast : c.addr.val = addr ∧ status = .asynSuccess
  · simp [hlast]
  · rw [if_neg hlast, List.find?_cons_of_neg]
    simpa using hlast

theorem consistent_init (S : Set (Address port)) : Consistent S State.init where
  on := by
    intro r hon
    rw [State.init, node_empty] at hon
    cases hon
  on_of_last := by
    intro a _ hlast
    cases hlast

theorem Consistent.call {S : Set (Address port)} {s : State port} (hs : Consistent S s)
    (hkept : ∀ a ∈ S, a.kept) {c : Call port} (hc : c.addr ∈ S) : Consistent S (s.call c) := by
  obtain ⟨status, hlog, hswitched⟩ := call_switched s c
  have hlast := lastSwitch_of_log hlog
  -- what is known of an address with another node
  have hother : ∀ a ∈ S, a.node ≠ c.addr.node →
      (s.call c).lastSwitch a.val = s.lastSwitch a.val := by
    intro a _ hne
    rw [hlast, if_neg]
    rintro ⟨hval, -⟩
    apply hne
    rw [Address.node, Address.node, hval]
  rcases hswitched.outcome with ⟨hsuccess, hpollIt, huser⟩ | ⟨hfailed, hnode⟩
  · have hself : (s.call c).lastSwitch c.addr.val = some c.onOff := by
      rw [hlast, if_pos ⟨rfl, hsuccess⟩]
    constructor
    · intro r hon
      by_cases hr : r = c.addr.node
      · subst hr
        have honOff : c.onOff = true := hpollIt.symm.trans hon
        exact ⟨hswitched.looksAt_self, c.addr, hc, rfl, huser honOff, hself.trans (by rw [honOff])⟩
      · rw [hswitched.others r hr] at hon ⊢
        obtain ⟨hlooks, a, ha, rfl, hpasynUser, hlastOn⟩ := hs.on r hon
        exact ⟨hswitched.looksAt_of_looksAt _ hlooks, a, ha, rfl, hpasynUser,
          (hother a ha hr).trans hlastOn⟩
    · intro a ha hlastOn
      by_cases hr : a.node = c.addr.node
      · have hsame : a = c.addr := eq_of_node_eq (hkept a ha) (hkept _ hc) hr
        subst hsame
        rw [hself] at hlastOn
        rw [hpollIt]
        exact Option.some.inj hlastOn
      · rw [hswitched.others _ hr]
        exact hs.on_of_last a ha ((hother a ha hr).symm.trans hlastOn)
  · have hsame : ∀ addr, (s.call c).lastSwitch addr = s.lastSwitch addr := by
      intro addr
      rw [hlast, if_neg]
      exact fun h => hfailed h.2
    -- a node that is on before or after is the same before and after
    have hon_iff : ∀ r, (s.pollList.node r).pollIt = true ∨
        ((s.call c).pollList.node r).pollIt = true →
          (s.call c).pollList.node r = s.pollList.node r := by
      intro r hon
      by_cases hr : r = c.addr.node
      · subst hr
        rcases hnode with heq | ⟨hoff, hoff'⟩
        · exact heq
        · rw [hoff, hoff'] at hon
          rcases hon with hon | hon <;> cases hon
      · exact hswitched.others r hr
    constructor
    · intro r hon
      have heq := hon_iff r (.inr hon)
      rw [heq] at hon ⊢
      obtain ⟨hlooks, a, ha, hr, hpasynUser, hlastOn⟩ := hs.on r hon
      exact ⟨hswitched.looksAt_of_looksAt _ hlooks, a, ha, hr, hpasynUser,
        (hsame _).trans hlastOn⟩
    · intro a ha hlastOn
      have hon := hs.on_of_last a ha ((hsame _).symm.trans hlastOn)
      rw [hon_iff _ (.inl hon)]
      exact hon

theorem run_consistent {S : Set (Address port)} (hkept : ∀ a ∈ S, a.kept)
    {calls : List (Call port)} (hcalls : ∀ c ∈ calls, c.addr ∈ S) : Consistent S (run calls) := by
  unfold run
  apply List.foldlRecOn (motive := Consistent S)
  · exact consistent_init S
  · intro s hs c hc
    exact hs.call hkept (hcalls c hc)

/-! ## Exactness -/

theorem addr_inj {S : Set (Address port)} {s : State port} (hs : Consistent S s)
    (hkept : ∀ a ∈ S, a.kept) {r r' : NodeRef} (hon : (s.pollList.node r).pollIt = true)
    (hon' : (s.pollList.node r').pollIt = true) (haddr : r.addr = r'.addr) : r = r' := by
  obtain ⟨-, a, ha, rfl, -⟩ := hs.on r hon
  obtain ⟨-, b, hb, rfl, -⟩ := hs.on r' hon'
  have hval : a.val = b.val :=
    ((node_addr_eq_iff a).mpr (hkept a ha)).symm.trans
      (haddr.trans ((node_addr_eq_iff b).mpr (hkept b hb)))
  rw [Address.node, Address.node, hval]

/-- What a pass polls when `getAddr` keeps the addresses apart: those that are on and whose device
can be reached. -/
theorem Consistent.mem_polled {S : Set (Address port)} {s : State port} (hs : Consistent S s)
    (hkept : ∀ a ∈ S, a.kept) (addr : Nat) :
    addr ∈ (pollPass port s.pollList t).filterMap PollEvent.polled ↔
      ∃ a ∈ S, a.val = addr ∧ s.lastSwitch addr = some true ∧
        t.devices.reachable addr = true := by
  rw [PollTable.mem_polled]
  constructor
  · rintro ⟨r, hvisited, hreached, rfl⟩
    obtain ⟨-, hon, -⟩ := mem_visited.mp hvisited
    obtain ⟨-, a, ha, rfl, hpasynUser, hlast⟩ := hs.on r hon
    have hval : a.node.addr = a.val := (node_addr_eq_iff a).mpr (hkept a ha)
    have hreachable : t.devices.reachable a.val = true := by
      simpa [reached, hpasynUser] using hreached
    rw [hval]
    exact ⟨a, ha, rfl, hlast, hreachable⟩
  · rintro ⟨a, ha, rfl, hlast, hreachable⟩
    have hon := hs.on_of_last a ha hlast
    obtain ⟨hlooks, b, hb, hnode, hpasynUser, -⟩ := hs.on a.node hon
    have hsame : b = a := eq_of_node_eq (hkept b hb) (hkept a ha) hnode
    subst hsame
    refine ⟨b.node, mem_visited.mpr ⟨node_inTable b, hon, hlooks⟩, ?_,
      (node_addr_eq_iff b).mpr (hkept b hb)⟩
    simpa [reached, hpasynUser] using hreachable

theorem Consistent.polled_nodup {S : Set (Address port)} {s : State port} (hs : Consistent S s)
    (hkept : ∀ a ∈ S, a.kept) :
    ((pollPass port s.pollList t).filterMap PollEvent.polled).Nodup := by
  rw [polled_pollPass]
  apply List.Nodup.map_on
  · intro r hr r' hr' haddr
    have hon := (mem_visited.mp (List.mem_filter.mp hr).1).2.1
    have hon' := (mem_visited.mp (List.mem_filter.mp hr').1).2.1
    exact addr_inj hs hkept hon hon' haddr
  · exact visited_nodup.filter _

theorem Consistent.passExact {S : Set (Address port)} {s : State port} (hs : Consistent S s)
    (hkept : ∀ a ∈ S, a.kept) (hreach : ∀ a ∈ S, t.devices.reachable a.val = true) :
    PassExact s S t (pollPass port s.pollList t) where
  once := hs.polled_nodup hkept
  polled := by
    intro addr
    rw [hs.mem_polled hkept]
    constructor
    · rintro ⟨a, ha, hval, hlast, -⟩
      exact ⟨a, ha, hval, hlast⟩
    · rintro ⟨a, ha, rfl, hlast⟩
      exact ⟨a, ha, rfl, hlast, hreach a ha⟩
  delivered := called_pollPass

/-! ## One address switched on -/

def switchOn (a : Address port) : Call port := ⟨a, true, ⟨true, true⟩⟩

theorem run_switchOn (a : Address port) :
    (run [switchOn a]).lastSwitch a.val = some true ∧
      ∀ r, ((run [switchOn a]).pollList.node r).pollIt = true →
        r = a.node ∧ ((run [switchOn a]).pollList.node r).pasynUser = some a.val := by
  have hcall : run [switchOn a] =
      ⟨(PollList.empty.setPollSecondary a.node).setNode a.node ⟨true, some a.val⟩,
        [(switchOn a, .asynSuccess)]⟩ := by
    simp [run, State.call, State.init, switchOn, pollAddr, getAddr_user]
  rw [hcall]
  constructor
  · simp [State.lastSwitch, switchOn]
  · intro r hon
    by_cases hr : r = a.node
    · subst hr
      exact ⟨rfl, by rw [node_setNode_self]⟩
    · rw [node_setNode_of_ne hr, node_setPollSecondary, node_empty] at hon
      cases hon

/-- A pass that polls the only address switched on has found its node and its device. -/
theorem kept_and_reachable_of_passExact {S : Set (Address port)} {a : Address port} (ha : a ∈ S)
    (hpass : PassExact (run [switchOn a]) S t (pollPass port (run [switchOn a]).pollList t)) :
    a.kept ∧ t.devices.reachable a.val = true := by
  obtain ⟨hlast, hnodes⟩ := run_switchOn a
  have hpolled := (hpass.polled a.val).mpr ⟨a, ha, rfl, hlast⟩
  obtain ⟨r, hvisited, hreached, haddr⟩ := mem_polled.mp hpolled
  obtain ⟨rfl, hpasynUser⟩ := hnodes r (mem_visited.mp hvisited).2.1
  exact ⟨(node_addr_eq_iff a).mp haddr, by simpa [reached, hpasynUser] using hreached⟩

/-- The passes are exact when each secondary address is `101` times its primary, and when the device
of each address can be polled in every pass. -/
theorem polls_exactly_iff (port : Port) (S : Set (Address port)) (tries : Nat → Try)
    (hpending : (tries 0).srqStatus = some true) :
    PollsExactly port S tries ↔
      (∀ a ∈ S, a.kept) ∧
        ∀ i, Polls tries i → ∀ a ∈ S, (tries i).devices.reachable a.val = true := by
  constructor
  · intro hexact
    have hsingle : ∀ i, Polls tries i → ∀ a ∈ S,
        a.kept ∧ (tries i).devices.reachable a.val = true := by
      intro i hi a ha
      have hcalls : ∀ c ∈ [switchOn a], c.addr ∈ S := by
        intro c hc
        rw [List.mem_singleton.mp hc]
        exact ha
      exact kept_and_reachable_of_passExact ha
        (hexact.passes [switchOn a] hcalls i _ (srqPoll_getElem?.mpr ⟨hi, rfl⟩))
    have hfirst : Polls tries 0 := by
      constructor
      · decide
      · intro j hj
        rw [Nat.le_zero.mp hj]
        exact hpending
    exact ⟨fun a ha => (hsingle 0 hfirst a ha).1, fun i hi a ha => (hsingle i hi a ha).2⟩
  · rintro ⟨hkept, hreach⟩
    constructor
    · intro a ha b hb hnode
      rw [nodeOf_eq, nodeOf_eq] at hnode
      exact eq_of_node_eq (hkept a ha) (hkept b hb) (Except.ok.inj hnode)
    · intro calls hcalls i pass hget
      obtain ⟨hi, rfl⟩ := srqPoll_getElem?.mp hget
      exact (run_consistent hkept hcalls).passExact hkept (hreach i hi)

/-! ## Two secondary addresses of one primary -/

def gpibPort : Port := ⟨"L0", true⟩

def secondary1 : Address gpibPort := ⟨501, by decide⟩

def secondary2 : Address gpibPort := ⟨502, by decide⟩

def diagonal : Address gpibPort := ⟨505, by decide⟩

/-- Everything is connected, and every device has the status byte 0x41. -/
def allConnected : Devices where
  isEnabled := fun _ => some true
  isConnected := fun _ => some true
  isAutoConnect := fun _ => some true
  connect := fun _ => true
  isConnectedAfter := fun _ => some true
  serialPoll := fun _ => some 0x41

def srqClient (id addr : Nat) : Client := ⟨id, .device addr, asynReasonSignal⟩

/-- One pass, and the SRQ is gone. -/
def oneTry : Nat → Try
  | 0 => ⟨some true, allConnected, [srqClient 1 501, srqClient 5 505]⟩
  | _ => ⟨some false, allConnected, []⟩

theorem polls_exactly_iff_example :
    (oneTry 0).srqStatus = some true ∧
      (PollsExactly gpibPort {diagonal} oneTry ↔
        (∀ a ∈ ({diagonal} : Set (Address gpibPort)), a.kept) ∧
          ∀ i, Polls oneTry i → ∀ a ∈ ({diagonal} : Set (Address gpibPort)),
            (oneTry i).devices.reachable a.val = true) :=
  ⟨rfl, polls_exactly_iff gpibPort {diagonal} oneTry rfl⟩

/-- Switching on 501 lets `srqPoll` poll 505 and call the client of 505; 502 has the same node. -/
theorem secondary_lost :
    nodeOf secondary1 = nodeOf secondary2 ∧
      srqPoll gpibPort (run [⟨secondary1, true, ⟨true, true⟩⟩]).pollList oneTry =
        [[.serialPollBegin, .serialPoll 505, .callback (srqClient 5 505) 0x41,
          .serialPollEnd]] ∧
      ¬ ∀ port S tries, (tries 0).srqStatus = some true → PollsExactly port S tries := by
  have hsame : nodeOf secondary1 = nodeOf secondary2 := by decide
  refine ⟨hsame, by decide, ?_⟩
  intro hexact
  have hpolls := hexact gpibPort {secondary1, secondary2} oneTry rfl
  have heq := hpolls.injective (.inl rfl) (.inr rfl) hsame
  exact absurd (congrArg Address.val heq) (by decide)

end PollTable
end Gpib
end AsynDriver
