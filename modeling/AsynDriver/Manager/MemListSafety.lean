import AsynDriver.Library.Places
import AsynDriver.Manager.MemList
import Mathlib.Data.List.Pairwise

/-!
# No memory is handed out twice

* `scan_eq_some`, `scan_eq_none_iff` — the loop and the test against the last class agree.
* `State.place` — the addresses of what `malloc` has given out: in a list, with the callers, or with a
  thread inside one of the functions.
* `Inv` — each is in one place, all have the memory that they need, and the `memory` of a node is the
  block behind it; `inv_step` is the case analysis over the steps.
* `memSafe_of_reachable` — every run without a `memFree` of size 0 is `MemSafe`; `free_of_size_zero` has
  one that is not.
-/

namespace AsynDriver
namespace Manager
namespace MemList

open Library

/-! ## The size classes -/

@[simp] theorem nodeSize_eq : nodeSize = 32 := rfl

@[simp] theorem lastSize_eq : lastSize = 4096 := rfl

theorem scan_eq_none_iff {size : Nat} : scan size = none ↔ lastSize < size := by
  unfold scan
  rw [List.findIdx?_eq_none_iff, lastSize_eq]
  simp only [memListSize, List.mem_cons, List.not_mem_nil, or_false, decide_eq_false_iff_not,
    Nat.not_le, forall_eq_or_imp, forall_eq]
  omega

theorem scan_eq_some {size ind : Nat} (hscan : scan size = some ind) : size ≤ classSize ind := by
  obtain ⟨hlt, hsize, -⟩ := List.findIdx?_eq_some_iff_getElem.mp hscan
  unfold classSize
  rw [List.getD_eq_getElem?_getD, List.getElem?_eq_getElem hlt, Option.getD_some]
  exact of_decide_eq_true hsize

theorem classSize_pos {size ind : Nat} (hscan : scan size = some ind) : 0 < classSize ind := by
  obtain ⟨hlt, -, -⟩ := List.findIdx?_eq_some_iff_getElem.mp hscan
  have hpos : ∀ ind, ind < memListSize.length → 0 < classSize ind := by decide
  exact hpos ind hlt

/-! ## Regions -/

instance : Std.Symm Region.Apart := ⟨fun _ _ h => Or.symm h⟩

/-- What `malloc` has given out. -/
structure RegionsOk (regions : List Region) : Prop where
  apart : regions.Pairwise Region.Apart
  nonempty : ∀ r ∈ regions, 0 < r.length

namespace RegionsOk

variable {regions : List Region} {r r' : Region}

theorem apart_of_ne (h : RegionsOk regions) (hr : r ∈ regions) (hr' : r' ∈ regions) (hne : r ≠ r') :
    r.Apart r' :=
  h.apart.forall hr hr' hne

theorem start_ne_of_apart (h : RegionsOk regions) (hr' : r' ∈ regions) (hapart : r.Apart r')
    (hpos : 0 < r.length) : r'.start ≠ r.start := by
  have hpos' := h.nonempty r' hr'
  unfold Region.Apart at hapart
  omega

theorem cons (h : RegionsOk regions) (hfree : ∀ r' ∈ regions, r.Apart r') (hpos : 0 < r.length) :
    RegionsOk (r :: regions) := by
  refine ⟨List.pairwise_cons.mpr ⟨hfree, h.apart⟩, fun r' hr' => ?_⟩
  rcases List.mem_cons.mp hr' with rfl | hr'
  · exact hpos
  · exact h.nonempty r' hr'

theorem filter (h : RegionsOk regions) (p : Region → Bool) : RegionsOk (regions.filter p) :=
  ⟨h.apart.filter p, fun r hr => h.nonempty r (List.mem_filter.mp hr).1⟩

end RegionsOk

/-! ## Places -/

/-- The node that a thread has in its hands. -/
def Pc.held : Pc → List Nat
  | .mallocUnlock _ _ pmemNode | .mallocReturn _ _ pmemNode => [pmemNode]
  | .freeLock _ pmemNode | .freeAdd _ pmemNode => [pmemNode]
  | _ => []

/-- The thread owns `pasynBase->lock`. -/
def Pc.inLock : Pc → Bool
  | .mallocFirst _ _ | .mallocDelete _ _ _ | .mallocNew _ _ | .mallocUnlock _ _ _ => true
  | .freeAdd _ _ | .freeUnlock => true
  | _ => false

inductive Holder
  | list (ind : Nat)
  | client
  | thread (t : ThreadId)
  deriving DecidableEq

def State.place (s : State) : Holder → List Nat
  | .list ind => s.memList ind
  | .client => s.live.map Block.start
  | .thread t => (s.pc t).held

/-- A node of a class. -/
structure NodeOk (s : State) (ind pmemNode : Nat) : Prop where
  region : ⟨pmemNode, nodeSize + classSize ind⟩ ∈ s.regions
  memory : s.memory pmemNode = pmemNode + nodeSize

/-- A block of a caller: behind a node, or from `malloc`. -/
def BlockOk (s : State) (b : Block) : Prop :=
  match scan b.size with
  | some ind => NodeOk s ind b.start ∧ b.pmem = b.start + nodeSize
  | none => ⟨b.pmem, b.size⟩ ∈ s.regions

def PcOk (s : State) : Pc → Prop
  | .idle | .freeUnlock => True
  | .mallocLock size ind | .mallocFirst size ind | .mallocNew size ind => scan size = some ind
  | .mallocDelete size ind pmemNode => scan size = some ind ∧ pmemNode ∈ s.memList ind
  | .mallocUnlock size ind pmemNode | .mallocReturn size ind pmemNode =>
      scan size = some ind ∧ NodeOk s ind pmemNode
  | .freeLock ind pmemNode | .freeAdd ind pmemNode => NodeOk s ind pmemNode
  | .failed => False

structure Inv (s : State) : Prop where
  regions : RegionsOk s.regions
  places : OnePlace s.place
  listed : ∀ ind, ∀ pmemNode ∈ s.memList ind, NodeOk s ind pmemNode
  lent : ∀ b ∈ s.live, BlockOk s b
  locked : ∀ t, (s.pc t).inLock = true → s.lock = some t
  thread : ∀ t, PcOk s (s.pc t)

variable {s s' : State} {t : ThreadId}

/-- The memory of a block. -/
theorem blockOk_region {b : Block} (hblock : BlockOk s b) :
    ∃ r ∈ s.regions, r.start = b.start ∧ b.start ≤ b.pmem ∧ b.pmem < b.start + r.length ∧
      b.pmem + b.size ≤ b.start + r.length := by
  unfold BlockOk at hblock
  cases hscan : scan b.size with
  | some ind =>
      rw [hscan] at hblock
      obtain ⟨hnode, hpmem⟩ := hblock
      have hsize := scan_eq_some hscan
      have hpos := classSize_pos hscan
      refine ⟨_, hnode.region, rfl, by omega, ?_, ?_⟩
      · show b.pmem < b.start + (nodeSize + classSize ind)
        omega
      · show b.pmem + b.size ≤ b.start + (nodeSize + classSize ind)
        omega
  | none =>
      rw [hscan] at hblock
      have hstart : b.start = b.pmem := by
        unfold Block.start
        rw [hscan]
      have hlarge := scan_eq_none_iff.mp hscan
      refine ⟨_, hblock, hstart.symm, Nat.le_of_eq hstart, ?_, ?_⟩
      · show b.pmem < b.start + b.size
        rw [lastSize_eq] at hlarge
        omega
      · show b.pmem + b.size ≤ b.start + b.size
        omega

theorem BlockOk.frame {b : Block} (hblock : BlockOk s b)
    (hnode : ∀ ind, scan b.size = some ind → NodeOk s ind b.start → NodeOk s' ind b.start)
    (hregion : (⟨b.pmem, b.size⟩ : Region) ∈ s.regions → ⟨b.pmem, b.size⟩ ∈ s'.regions) :
    BlockOk s' b := by
  unfold BlockOk at hblock ⊢
  cases hscan : scan b.size with
  | some ind =>
      rw [hscan] at hblock
      exact ⟨hnode ind hscan hblock.1, hblock.2⟩
  | none =>
      rw [hscan] at hblock
      exact hregion hblock

/-- What is in a place has been given out by `malloc`. -/
theorem Inv.region_of_mem (hinv : Inv s) {h : Holder} {n : Nat} (hn : n ∈ s.place h) :
    ∃ r ∈ s.regions, r.start = n := by
  cases h with
  | list ind => exact ⟨_, (hinv.listed ind n hn).region, rfl⟩
  | client =>
      obtain ⟨b, hb, rfl⟩ := List.mem_map.mp hn
      obtain ⟨r, hr, hstart, -⟩ := blockOk_region (hinv.lent b hb)
      exact ⟨r, hr, hstart⟩
  | thread t =>
      have hpc := hinv.thread t
      have hn : n ∈ (s.pc t).held := hn
      cases hcase : s.pc t <;> rw [hcase] at hpc hn <;> try exact absurd hn List.not_mem_nil
      all_goals obtain rfl := List.mem_singleton.mp hn
      case mallocUnlock => exact ⟨_, hpc.2.region, rfl⟩
      case mallocReturn => exact ⟨_, hpc.2.region, rfl⟩
      case freeLock => exact ⟨_, NodeOk.region hpc, rfl⟩
      case freeAdd => exact ⟨_, NodeOk.region hpc, rfl⟩

/-- New memory is in no place. -/
theorem Inv.not_mem_of_free (hinv : Inv s) {r : Region} (hfree : s.Free r) (hpos : 0 < r.length)
    (h : Holder) : r.start ∉ s.place h := by
  intro hmem
  obtain ⟨r', hr', hstart⟩ := hinv.region_of_mem hmem
  exact hinv.regions.start_ne_of_apart hr' (hfree r' hr') hpos hstart

/-- A node in a list, or with a thread, is not one of a caller's block. -/
theorem Inv.ne_start (hinv : Inv s) {h : Holder} {n : Nat} (hn : n ∈ s.place h) (hh : h ≠ .client)
    {b : Block} (hb : b ∈ s.live) : n ≠ b.start := by
  rintro rfl
  exact hh (hinv.places.unique h .client _ hn (List.mem_map_of_mem hb))

theorem Inv.eq_of_start (hinv : Inv s) {b c : Block} (hb : b ∈ s.live) (hc : c ∈ s.live)
    (hstart : b.start = c.start) : b = c :=
  List.inj_on_of_nodup_map (hinv.places.nodup .client) hb hc hstart

/-! ## What a thread knows while others move -/

/-- A thread keeps what it knows if its node is kept and, inside the lock, the lists are. -/
theorem PcOk.frame {pc : Pc} (hpc : PcOk s pc)
    (hnode : ∀ ind n, n ∈ pc.held → NodeOk s ind n → NodeOk s' ind n)
    (hlist : pc.inLock = true → s'.memList = s.memList) : PcOk s' pc := by
  cases pc with
  | idle => trivial
  | freeUnlock => trivial
  | failed => exact hpc
  | mallocLock size ind => exact hpc
  | mallocFirst size ind => exact hpc
  | mallocNew size ind => exact hpc
  | mallocDelete size ind n =>
      refine ⟨hpc.1, ?_⟩
      rw [hlist rfl]
      exact hpc.2
  | mallocUnlock size ind n => exact ⟨hpc.1, hnode ind n List.mem_cons_self hpc.2⟩
  | mallocReturn size ind n => exact ⟨hpc.1, hnode ind n List.mem_cons_self hpc.2⟩
  | freeLock ind n => exact hnode ind n List.mem_cons_self hpc
  | freeAdd ind n => exact hnode ind n List.mem_cons_self hpc

/-- What a step of `t` does to the other threads. -/
structure Moves (s s' : State) (t : ThreadId) : Prop where
  pc : ∀ t', t' ≠ t → s'.pc t' = s.pc t'
  lock : s'.lock = s.lock ∨ s.lock = none ∨ s.lock = some t ∧ (s.pc t).inLock = true
  memList : s'.memList = s.memList ∨ (s.pc t).inLock = true
  node : ∀ t' ind n, t' ≠ t → n ∈ (s.pc t').held → NodeOk s ind n → NodeOk s' ind n

/-- The other threads are not inside the lock when `t` is, or when it is free. -/
theorem Moves.others (hmoves : Moves s s' t) (hinv : Inv s) {t' : ThreadId} (ht' : t' ≠ t) :
    ((s'.pc t').inLock = true → s'.lock = some t') ∧ PcOk s' (s'.pc t') := by
  rw [hmoves.pc t' ht']
  refine ⟨fun hlock => ?_, (hinv.thread t').frame (fun ind n => hmoves.node t' ind n ht') fun hlock => ?_⟩
  · have hheld := hinv.locked t' hlock
    rcases hmoves.lock with heq | hnone | ⟨hsome, -⟩
    · rw [heq, hheld]
    · exact nomatch hheld.symm.trans hnone
    · exact absurd (Option.some.inj (hheld.symm.trans hsome)) ht'
  · rcases hmoves.memList with heq | hin
    · exact heq
    · have hsame := (hinv.locked t' hlock).symm.trans (hinv.locked t hin)
      exact absurd (Option.some.inj hsame) ht'

/-- The invariant after a step of `t`, from what the step does to the places and from `t` itself. -/
theorem Inv.of_moves (hinv : Inv s) (hmoves : Moves s s' t) (hregions : RegionsOk s'.regions)
    (hplaces : OnePlace s'.place) (hlisted : ∀ ind, ∀ n ∈ s'.memList ind, NodeOk s' ind n)
    (hlent : ∀ b ∈ s'.live, BlockOk s' b) (hlocked : (s'.pc t).inLock = true → s'.lock = some t)
    (hthread : PcOk s' (s'.pc t)) : Inv s' where
  regions := hregions
  places := hplaces
  listed := hlisted
  lent := hlent
  locked t' := by
    by_cases ht' : t' = t
    · rw [ht']
      exact hlocked
    · exact (hmoves.others hinv ht').1
  thread t' := by
    by_cases ht' : t' = t
    · rw [ht']
      exact hthread
    · exact (hmoves.others hinv ht').2

/-! ## Steps that move nothing -/

@[simp] theorem setPc_pc_self (pc : Pc) : (s.setPc t pc).pc t = pc := by
  unfold State.setPc
  exact Function.update_self t pc s.pc

theorem setPc_pc_of_ne (pc : Pc) {t' : ThreadId} (ht' : t' ≠ t) : (s.setPc t pc).pc t' = s.pc t' := by
  unfold State.setPc
  exact Function.update_of_ne ht' pc s.pc

/-- Only the thread and the lock change. -/
theorem Inv.setPc {lock : Option ThreadId} {pc : Pc} (hinv : Inv s)
    (hlock : lock = s.lock ∨ s.lock = none ∨ s.lock = some t ∧ (s.pc t).inLock = true)
    (hheld : pc.held = (s.pc t).held) (hpc : PcOk s pc) (hlocked : pc.inLock = true → lock = some t) :
    Inv ({ s with lock := lock }.setPc t pc) := by
  have hplace : ({ s with lock := lock }.setPc t pc).place = s.place := by
    funext h
    cases h with
    | list ind => rfl
    | client => rfl
    | thread t' =>
        by_cases ht' : t' = t
        · subst ht'
          exact (congrArg Pc.held (setPc_pc_self pc)).trans hheld
        · exact congrArg Pc.held (setPc_pc_of_ne pc ht')
  have hnode : ∀ ind n, NodeOk s ind n → NodeOk ({ s with lock := lock }.setPc t pc) ind n :=
    fun _ _ h => ⟨h.region, h.memory⟩
  refine hinv.of_moves (t := t) ⟨fun t' ht' => setPc_pc_of_ne pc ht', hlock, .inl rfl,
    fun _ ind n _ _ => hnode ind n⟩ hinv.regions ?_ (fun ind n hn => hnode ind n (hinv.listed ind n hn))
    ?_ ?_ ?_
  · rw [hplace]
    exact hinv.places
  · exact fun b hb => (hinv.lent b hb).frame (fun ind _ => hnode ind _) id
  · rw [setPc_pc_self]
    exact hlocked
  · rw [setPc_pc_self]
    exact hpc.frame (fun ind n _ => hnode ind n) fun _ => rfl

/-! ## Steps that move a node or a block -/

/-- The places after a step that changes one list and what the thread has in its hands. -/
theorem place_setPc_list {memList : Nat → List Nat} {pc : Pc} {ind : Nat}
    (hother : ∀ k, k ≠ ind → memList k = s.memList k) (h : Holder) (hlist : h ≠ .list ind)
    (hthread : h ≠ .thread t) :
    ({ s with memList := memList }.setPc t pc).place h = s.place h := by
  cases h with
  | list k => exact hother k fun hk => hlist (by rw [hk])
  | client => rfl
  | thread t' => exact congrArg Pc.held (setPc_pc_of_ne pc fun ht => hthread (by rw [ht]))

theorem inv_mallocDelete {size ind n : Nat} (hinv : Inv s) (hpc : s.pc t = .mallocDelete size ind n) :
    Inv ({ s with memList := Function.update s.memList ind ((s.memList ind).erase n) }.setPc t
      (.mallocUnlock size ind n)) := by
  obtain ⟨hscan, hmem⟩ : PcOk s (.mallocDelete size ind n) := hpc ▸ hinv.thread t
  have hlock : (s.pc t).inLock = true := by rw [hpc]; rfl
  have hself : Function.update s.memList ind ((s.memList ind).erase n) ind = (s.memList ind).erase n :=
    Function.update_self _ _ _
  have hother : ∀ k, k ≠ ind →
      Function.update s.memList ind ((s.memList ind).erase n) k = s.memList k := fun k hk =>
    Function.update_of_ne hk _ _
  generalize Function.update s.memList ind ((s.memList ind).erase n) = memList at hself hother
  have hnode : ∀ k m, NodeOk s k m → NodeOk ({ s with memList := memList }.setPc t
      (.mallocUnlock size ind n)) k m := fun _ _ h => ⟨h.region, h.memory⟩
  refine hinv.of_moves (t := t) ⟨fun t' ht' => setPc_pc_of_ne _ ht', .inl rfl, .inr hlock,
    fun _ k m _ _ => hnode k m⟩ hinv.regions ?_ ?_
    (fun b hb => (hinv.lent b hb).frame (fun k _ => hnode k _) id) (fun _ => hinv.locked t hlock) ?_
  · refine hinv.places.move (x := n) (i := .list ind) (j := .thread t) nofun ?_ ?_
      fun h hlist hthread => place_setPc_list hother h hlist hthread
    · show (s.memList ind).Perm (n :: memList ind)
      rw [hself]
      exact List.perm_cons_erase hmem
    · show (Pc.held _).Perm (n :: (s.pc t).held)
      rw [setPc_pc_self, hpc]
      exact List.Perm.refl [n]
  · intro k m hm
    change m ∈ memList k at hm
    refine hnode k m (hinv.listed k m ?_)
    by_cases hk : k = ind
    · subst hk
      rw [hself] at hm
      exact List.mem_of_mem_erase hm
    · rw [hother k hk] at hm
      exact hm
  · rw [setPc_pc_self]
    exact ⟨hscan, hnode ind n (hinv.listed ind n hmem)⟩

theorem inv_freeAdd {ind n : Nat} (hinv : Inv s) (hpc : s.pc t = .freeAdd ind n) :
    Inv ({ s with memList := Function.update s.memList ind (s.memList ind ++ [n]) }.setPc t
      .freeUnlock) := by
  have hn : NodeOk s ind n := by
    have hthread := hinv.thread t
    rw [hpc] at hthread
    exact hthread
  have hlock : (s.pc t).inLock = true := by rw [hpc]; rfl
  have hself : Function.update s.memList ind (s.memList ind ++ [n]) ind = s.memList ind ++ [n] :=
    Function.update_self _ _ _
  have hother : ∀ k, k ≠ ind →
      Function.update s.memList ind (s.memList ind ++ [n]) k = s.memList k := fun k hk =>
    Function.update_of_ne hk _ _
  generalize Function.update s.memList ind (s.memList ind ++ [n]) = memList at hself hother
  have hnode : ∀ k m, NodeOk s k m → NodeOk ({ s with memList := memList }.setPc t .freeUnlock) k m :=
    fun _ _ h => ⟨h.region, h.memory⟩
  refine hinv.of_moves (t := t) ⟨fun t' ht' => setPc_pc_of_ne _ ht', .inl rfl, .inr hlock,
    fun _ k m _ _ => hnode k m⟩ hinv.regions ?_ ?_
    (fun b hb => (hinv.lent b hb).frame (fun k _ => hnode k _) id) (fun _ => hinv.locked t hlock) ?_
  · refine hinv.places.move (x := n) (i := .thread t) (j := .list ind) nofun ?_ ?_
      fun h hthread hlist => place_setPc_list hother h hlist hthread
    · show (s.pc t).held.Perm (n :: Pc.held _)
      rw [setPc_pc_self, hpc]
      exact List.Perm.refl [n]
    · show (memList ind).Perm (n :: s.memList ind)
      rw [hself]
      exact List.perm_append_singleton n _
  · intro k m hm
    change m ∈ memList k at hm
    by_cases hk : k = ind
    · subst hk
      rw [hself, List.mem_append] at hm
      rcases hm with hm | hm
      · exact hnode k m (hinv.listed k m hm)
      · obtain rfl := List.mem_singleton.mp hm
        exact hnode k m hn
    · rw [hother k hk] at hm
      exact hnode k m (hinv.listed k m hm)
  · rw [setPc_pc_self]
    trivial

theorem inv_mallocReturn {size ind n : Nat} (hinv : Inv s) (hpc : s.pc t = .mallocReturn size ind n) :
    Inv ({ s with live := ⟨s.memory n, size⟩ :: s.live }.setPc t .idle) := by
  obtain ⟨hscan, hn⟩ : PcOk s (.mallocReturn size ind n) := hpc ▸ hinv.thread t
  have hstart : (⟨s.memory n, size⟩ : Block).start = n := by
    unfold Block.start
    simp only [hscan, hn.memory]
    omega
  have hnode : ∀ k m, NodeOk s k m →
      NodeOk ({ s with live := ⟨s.memory n, size⟩ :: s.live }.setPc t .idle) k m :=
    fun _ _ h => ⟨h.region, h.memory⟩
  refine hinv.of_moves (t := t) ⟨fun t' ht' => setPc_pc_of_ne _ ht', .inl rfl, .inl rfl,
    fun _ k m _ _ => hnode k m⟩ hinv.regions ?_ (fun k m hm => hnode k m (hinv.listed k m hm)) ?_ ?_ ?_
  · refine hinv.places.move (x := n) (i := .thread t) (j := .client) nofun ?_ ?_ ?_
    · show (s.pc t).held.Perm (n :: Pc.held _)
      rw [setPc_pc_self, hpc]
      exact List.Perm.refl [n]
    · show (Block.start ⟨s.memory n, size⟩ :: s.live.map Block.start).Perm (n :: s.live.map Block.start)
      rw [hstart]
    · intro h hthread _
      cases h with
      | list k => rfl
      | client => contradiction
      | thread t' => exact congrArg Pc.held (setPc_pc_of_ne .idle fun ht => hthread (by rw [ht]))
  · intro b hb
    rcases List.mem_cons.mp hb with rfl | hb
    · unfold BlockOk
      simp only [hscan]
      rw [hstart]
      exact ⟨hnode ind n hn, hn.memory⟩
    · exact (hinv.lent b hb).frame (fun k _ => hnode k _) id
  · rw [setPc_pc_self]
    nofun
  · rw [setPc_pc_self]
    trivial

/-! ## Memory from `malloc` -/

/-- The places after a call that changes what the callers have. -/
theorem place_live {live : List Block} {regions : List Region} (h : Holder) (hh : h ≠ .client) :
    State.place { s with live := live, regions := regions } h = s.place h := by
  cases h with
  | list ind => rfl
  | client => exact absurd rfl hh
  | thread t => rfl

theorem inv_mallocNew {size ind fresh : Nat} (hinv : Inv s) (hpc : s.pc t = .mallocNew size ind)
    (hfree : s.Free ⟨fresh, nodeSize + classSize ind⟩) :
    Inv ({ s with
      regions := ⟨fresh, nodeSize + classSize ind⟩ :: s.regions
      memory := Function.update s.memory fresh (fresh + nodeSize) }.setPc t
        (.mallocUnlock size ind fresh)) := by
  have hscan : PcOk s (.mallocNew size ind) := hpc ▸ hinv.thread t
  have hlock : (s.pc t).inLock = true := by rw [hpc]; rfl
  have hpos : 0 < (⟨fresh, nodeSize + classSize ind⟩ : Region).length := by
    show 0 < nodeSize + classSize ind
    rw [nodeSize_eq]
    omega
  have hnode : ∀ k m, NodeOk s k m → NodeOk ({ s with
      regions := ⟨fresh, nodeSize + classSize ind⟩ :: s.regions
      memory := Function.update s.memory fresh (fresh + nodeSize) }.setPc t
        (.mallocUnlock size ind fresh)) k m := by
    intro k m h
    have hne : m ≠ fresh := hinv.regions.start_ne_of_apart h.region (hfree _ h.region) hpos
    refine ⟨List.mem_cons_of_mem _ h.region, ?_⟩
    show Function.update s.memory fresh (fresh + nodeSize) m = m + nodeSize
    rw [Function.update_of_ne hne]
    exact h.memory
  have hnew := hinv.not_mem_of_free hfree hpos
  refine hinv.of_moves (t := t) ⟨fun t' ht' => setPc_pc_of_ne _ ht', .inl rfl, .inl rfl,
    fun _ k m _ _ => hnode k m⟩ (hinv.regions.cons hfree hpos) ?_
    (fun k m hm => hnode k m (hinv.listed k m hm))
    (fun b hb => (hinv.lent b hb).frame (fun k _ => hnode k _) (List.mem_cons_of_mem _))
    (fun _ => hinv.locked t hlock) ?_
  · refine hinv.places.add (x := fresh) (i := .thread t) hnew ?_ ?_
    · show (Pc.held _).Perm (fresh :: (s.pc t).held)
      rw [setPc_pc_self, hpc]
      exact List.Perm.refl [fresh]
    · intro h hthread
      cases h with
      | list k => rfl
      | client => rfl
      | thread t' =>
          exact congrArg Pc.held (setPc_pc_of_ne (.mallocUnlock size ind fresh) fun ht =>
            hthread (by rw [ht]))
  · rw [setPc_pc_self]
    exact ⟨hscan, List.mem_cons_self, Function.update_self _ _ _⟩

theorem inv_malloc {size fresh : Nat} (hinv : Inv s) (hscan : scan size = none)
    (hfree : s.Free ⟨fresh, size⟩) :
    Inv { s with regions := ⟨fresh, size⟩ :: s.regions, live := ⟨fresh, size⟩ :: s.live } := by
  have hlarge := scan_eq_none_iff.mp hscan
  have hpos : 0 < (⟨fresh, size⟩ : Region).length := Nat.lt_of_le_of_lt (Nat.zero_le _) hlarge
  have hstart : (⟨fresh, size⟩ : Block).start = fresh := by
    unfold Block.start
    simp only [hscan]
  have hnode : ∀ k m, NodeOk s k m → NodeOk
      { s with regions := ⟨fresh, size⟩ :: s.regions, live := ⟨fresh, size⟩ :: s.live } k m :=
    fun _ _ h => ⟨List.mem_cons_of_mem _ h.region, h.memory⟩
  constructor
  · exact hinv.regions.cons hfree hpos
  · refine hinv.places.add (x := fresh) (i := .client) (hinv.not_mem_of_free hfree hpos) ?_
      fun h hh => place_live h hh
    show (Block.start ⟨fresh, size⟩ :: s.live.map Block.start).Perm (fresh :: s.live.map Block.start)
    rw [hstart]
  · exact fun k m hm => hnode k m (hinv.listed k m hm)
  · intro b hb
    rcases List.mem_cons.mp hb with rfl | hb
    · unfold BlockOk
      simp only [hscan]
      exact List.mem_cons_self
    · exact (hinv.lent b hb).frame (fun k _ => hnode k _) (List.mem_cons_of_mem _)
  · exact hinv.locked
  · exact fun t => (hinv.thread t).frame (fun k m _ => hnode k m) fun _ => rfl

/-! ## `memFree` -/

theorem perm_live {b : Block} (hb : b ∈ s.live) :
    (s.live.map Block.start).Perm (b.start :: (s.live.erase b).map Block.start) :=
  (List.perm_cons_erase hb).map Block.start

theorem inv_freeLarge {b : Block} (hinv : Inv s) (hb : b ∈ s.live) (hscan : scan b.size = none) :
    Inv { s with
      live := s.live.erase b
      regions := s.regions.filter fun r => decide (r.start ≠ b.pmem) } := by
  have hstart : b.start = b.pmem := by
    unfold Block.start
    rw [hscan]
  have hkept : ∀ r ∈ s.regions, r.start ≠ b.start →
      r ∈ s.regions.filter fun r => decide (r.start ≠ b.pmem) := fun r hr hne =>
    List.mem_filter.mpr ⟨hr, decide_eq_true (hstart ▸ hne)⟩
  have hnode : ∀ k m, m ≠ b.start → NodeOk s k m → NodeOk { s with
      live := s.live.erase b
      regions := s.regions.filter fun r => decide (r.start ≠ b.pmem) } k m :=
    fun _ _ hne h => ⟨hkept _ h.region hne, h.memory⟩
  constructor
  · exact hinv.regions.filter _
  · exact hinv.places.remove (x := b.start) (i := .client) (perm_live hb) fun h hh => place_live h hh
  · exact fun k m hm => hnode k m (hinv.ne_start (h := .list k) hm nofun hb) (hinv.listed k m hm)
  · intro c hc
    have hnodup : s.live.Nodup := (hinv.places.nodup .client).of_map Block.start
    obtain ⟨hne, hc⟩ := hnodup.mem_erase_iff.mp hc
    have hcstart : c.start ≠ b.start := fun h => hne (hinv.eq_of_start hc hb h)
    have hblock := hinv.lent c hc
    unfold BlockOk at hblock ⊢
    cases hcscan : scan c.size with
    | some ind =>
        rw [hcscan] at hblock
        exact ⟨hnode ind _ hcstart hblock.1, hblock.2⟩
    | none =>
        rw [hcscan] at hblock
        have hcpmem : c.start = c.pmem := by
          unfold Block.start
          rw [hcscan]
        refine hkept _ hblock ?_
        rw [← hcpmem]
        exact hcstart
  · exact hinv.locked
  · intro t
    refine (hinv.thread t).frame (fun k m hm => hnode k m ?_) fun _ => rfl
    exact hinv.ne_start (h := .thread t) hm nofun hb

theorem inv_freeSmall {b : Block} {ind : Nat} (hinv : Inv s) (hpc : s.pc t = .idle) (hb : b ∈ s.live)
    (hscan : scan b.size = some ind) :
    s.memory (b.pmem - nodeSize) = b.pmem ∧
      Inv ({ s with live := s.live.erase b }.setPc t (.freeLock ind (b.pmem - nodeSize))) := by
  have hblock := hinv.lent b hb
  unfold BlockOk at hblock
  rw [hscan] at hblock
  obtain ⟨hn, hpmem⟩ := hblock
  have hstart : b.pmem - nodeSize = b.start := by omega
  rw [hstart]
  refine ⟨hn.memory.trans hpmem.symm, ?_⟩
  have hnode : ∀ k m, NodeOk s k m →
      NodeOk ({ s with live := s.live.erase b }.setPc t (.freeLock ind b.start)) k m :=
    fun _ _ h => ⟨h.region, h.memory⟩
  refine hinv.of_moves (t := t) ⟨fun t' ht' => setPc_pc_of_ne _ ht', .inl rfl, .inl rfl,
    fun _ k m _ _ => hnode k m⟩ hinv.regions ?_ (fun k m hm => hnode k m (hinv.listed k m hm))
    (fun c hc => (hinv.lent c (List.mem_of_mem_erase hc)).frame (fun k _ => hnode k _) id) ?_ ?_
  · refine hinv.places.move (x := b.start) (i := .client) (j := .thread t) nofun (perm_live hb) ?_ ?_
    · show (Pc.held _).Perm (b.start :: (s.pc t).held)
      rw [setPc_pc_self, hpc]
      exact List.Perm.refl [b.start]
    · intro h hclient hthread
      cases h with
      | list k => rfl
      | client => contradiction
      | thread t' =>
          exact congrArg Pc.held (setPc_pc_of_ne (.freeLock ind b.start) fun ht => hthread (by rw [ht]))
  · rw [setPc_pc_self]
    nofun
  · rw [setPc_pc_self]
    exact hnode ind _ hn

/-! ## Writing in a block -/

theorem inv_write {b : Block} {address : Nat} {value : Nat → Nat} (hinv : Inv s) (hb : b ∈ s.live)
    (hlow : b.pmem ≤ address) (hhigh : address < b.pmem + b.size) :
    Inv { s with memory := fun pmemNode =>
      if pmemNode ≤ address ∧ address < pmemNode + nodeSize then value pmemNode
      else s.memory pmemNode } := by
  obtain ⟨r, hr, hstart, hfrom, -, hto⟩ := blockOk_region (hinv.lent b hb)
  have hnode : ∀ k m, m ≠ b.start ∨ scan b.size = some k → NodeOk s k m → NodeOk { s with
      memory := fun pmemNode => if pmemNode ≤ address ∧ address < pmemNode + nodeSize then value pmemNode
        else s.memory pmemNode } k m := by
    intro k m hother h
    -- the byte is not in the node: it is in another region, or behind the node of its own
    have hout : ¬ (m ≤ address ∧ address < m + nodeSize) := by
      by_cases hm : m = b.start
      · have hscan := hother.resolve_left fun hne => hne hm
        have hblock := hinv.lent b hb
        unfold BlockOk at hblock
        rw [hscan] at hblock
        have hpmem := hblock.2
        omega
      · have hne : (⟨m, nodeSize + classSize k⟩ : Region) ≠ r := by
          rintro rfl
          exact hm hstart
        have hapart := hinv.regions.apart_of_ne h.region hr hne
        unfold Region.Apart at hapart
        simp only [hstart] at hapart
        omega
    refine ⟨h.region, ?_⟩
    show (if m ≤ address ∧ address < m + nodeSize then value m else s.memory m) = m + nodeSize
    rw [if_neg hout]
    exact h.memory
  constructor
  · exact hinv.regions
  · exact hinv.places
  · exact fun k m hm =>
      hnode k m (.inl (hinv.ne_start (h := .list k) hm nofun hb)) (hinv.listed k m hm)
  · intro c hc
    refine (hinv.lent c hc).frame (fun k hk => hnode k _ ?_) id
    by_cases hcb : c = b
    · rw [← hcb]
      exact .inr hk
    · exact .inl fun h => hcb (hinv.eq_of_start hc hb h)
  · exact hinv.locked
  · intro t
    refine (hinv.thread t).frame (fun k m hm => hnode k m (.inl ?_)) fun _ => rfl
    exact hinv.ne_start (h := .thread t) hm nofun hb

/-! ## Every step -/

theorem inv_start : Inv State.start where
  regions := ⟨List.Pairwise.nil, fun _ hr => absurd hr List.not_mem_nil⟩
  places := by
    have hempty : ∀ h, State.start.place h = [] := by
      intro h
      cases h <;> rfl
    refine ⟨fun h => ?_, fun h h' n hn => ?_⟩
    · rw [hempty h]
      exact List.nodup_nil
    · rw [hempty h] at hn
      exact absurd hn List.not_mem_nil
  listed _ _ hn := absurd hn List.not_mem_nil
  lent _ hb := absurd hb List.not_mem_nil
  locked _ hlock := nomatch hlock
  thread _ := trivial

theorem inv_memMalloc {size fresh : Nat} (hinv : Inv s) (hstep : memMalloc s t size fresh = some s') :
    Inv s' := by
  unfold memMalloc at hstep
  split at hstep
  case isFalse => exact nomatch hstep
  case isTrue hidle =>
    split at hstep
    case h_1 ind hscan =>
      obtain rfl := Option.some.inj hstep
      exact hinv.setPc (.inl rfl) (by rw [hidle]; rfl) hscan nofun
    case h_2 hscan =>
      split at hstep
      case isFalse => exact nomatch hstep
      case isTrue hfree =>
        obtain rfl := Option.some.inj hstep
        exact inv_malloc hinv hscan hfree

theorem inv_memFree {b : Block} (hinv : Inv s) (hb : b ∈ s.live) (hpos : 0 < b.size)
    (hstep : memFree s t b = some s') : Inv s' := by
  unfold memFree at hstep
  split at hstep
  case isFalse => exact nomatch hstep
  case isTrue hidle =>
    simp only [Nat.pos_iff_ne_zero.mp hpos, if_false] at hstep
    cases hscan : scan b.size with
    | none =>
        simp only [scan_eq_none_iff.mp hscan, if_true] at hstep
        obtain rfl := Option.some.inj hstep
        exact inv_freeLarge hinv hb hscan
    | some ind =>
        have hsmall : ¬ lastSize < b.size := fun h => nomatch (scan_eq_none_iff.mpr h).symm.trans hscan
        obtain ⟨hassert, hinv'⟩ := inv_freeSmall hinv hidle hb hscan
        simp only [hsmall, if_false, hscan, hassert, if_true] at hstep
        obtain rfl := Option.some.inj hstep
        exact hinv'

/-- The lock is taken by a thread when it is free, and then by no other. -/
theorem inv_next {fresh : Nat} (hinv : Inv s) (hstep : next s t fresh = some s') : Inv s' := by
  have hpcOk := hinv.thread t
  unfold next at hstep
  cases hpc : s.pc t with
  | idle =>
      rw [hpc] at hstep
      exact nomatch hstep
  | failed =>
      rw [hpc] at hstep
      exact nomatch hstep
  | mallocLock size ind =>
      rw [hpc] at hstep hpcOk
      simp only at hstep
      split at hstep
      case isFalse => exact nomatch hstep
      case isTrue hnone =>
        obtain rfl := Option.some.inj hstep
        exact hinv.setPc (.inr (.inl hnone)) (by rw [hpc]; rfl) hpcOk fun _ => rfl
  | mallocFirst size ind =>
      rw [hpc] at hstep hpcOk
      have hlock : s.lock = some t := hinv.locked t (by rw [hpc]; rfl)
      simp only at hstep
      split at hstep
      case h_1 hnil =>
        obtain rfl := Option.some.inj hstep
        exact hinv.setPc (.inl rfl) (by rw [hpc]; rfl) hpcOk fun _ => hlock
      case h_2 n rest hcons =>
        obtain rfl := Option.some.inj hstep
        refine hinv.setPc (.inl rfl) (by rw [hpc]; rfl) ⟨hpcOk, ?_⟩ fun _ => hlock
        rw [hcons]
        exact List.mem_cons_self
  | mallocDelete size ind n =>
      rw [hpc] at hstep
      obtain rfl := Option.some.inj hstep
      exact inv_mallocDelete hinv hpc
  | mallocNew size ind =>
      rw [hpc] at hstep
      simp only at hstep
      split at hstep
      case isFalse => exact nomatch hstep
      case isTrue hfree =>
        obtain rfl := Option.some.inj hstep
        exact inv_mallocNew hinv hpc hfree
  | mallocUnlock size ind n =>
      rw [hpc] at hstep hpcOk
      have hin : (s.pc t).inLock = true := by rw [hpc]; rfl
      obtain rfl := Option.some.inj hstep
      exact hinv.setPc (.inr (.inr ⟨hinv.locked t hin, hin⟩)) (by rw [hpc]; rfl) hpcOk nofun
  | mallocReturn size ind n =>
      rw [hpc] at hstep
      obtain rfl := Option.some.inj hstep
      exact inv_mallocReturn hinv hpc
  | freeLock ind n =>
      rw [hpc] at hstep hpcOk
      simp only at hstep
      split at hstep
      case isFalse => exact nomatch hstep
      case isTrue hnone =>
        obtain rfl := Option.some.inj hstep
        exact hinv.setPc (.inr (.inl hnone)) (by rw [hpc]; rfl) hpcOk fun _ => rfl
  | freeAdd ind n =>
      rw [hpc] at hstep
      obtain rfl := Option.some.inj hstep
      exact inv_freeAdd hinv hpc
  | freeUnlock =>
      rw [hpc] at hstep
      have hin : (s.pc t).inLock = true := by rw [hpc]; rfl
      obtain rfl := Option.some.inj hstep
      exact hinv.setPc (.inr (.inr ⟨hinv.locked t hin, hin⟩)) (by rw [hpc]; rfl) trivial nofun

theorem inv_step {a : Action} (hok : FreedOnceNonempty s a) (hinv : Inv s)
    (hstep : step s a = some s') : Inv s' := by
  cases a with
  | memMalloc t size fresh => exact inv_memMalloc hinv hstep
  | memFree t b => exact inv_memFree hinv hok.1 hok.2 hstep
  | next t fresh => exact inv_next hinv hstep
  | write b address value =>
      unfold step write at hstep
      simp only at hstep
      split at hstep
      case isFalse => exact nomatch hstep
      case isTrue hin =>
        obtain rfl := Option.some.inj hstep
        exact inv_write hinv hin.1 hin.2.1 hin.2.2

/-! ## What the callers get -/

/-- Two blocks have no byte in common, and are not at the same address either if one is empty. -/
theorem Inv.blocks_apart (hinv : Inv s) {b c : Block} (hb : b ∈ s.live) (hc : c ∈ s.live)
    (hne : b.start ≠ c.start) :
    b.pmem ≠ c.pmem ∧ Region.Apart ⟨b.pmem, b.size⟩ ⟨c.pmem, c.size⟩ := by
  obtain ⟨r, hr, hrstart, hbfrom, hbin, hbto⟩ := blockOk_region (hinv.lent b hb)
  obtain ⟨r', hr', hrstart', hcfrom, hcin, hcto⟩ := blockOk_region (hinv.lent c hc)
  have hrne : r ≠ r' := by
    rintro rfl
    exact hne (hrstart.symm.trans hrstart')
  have hapart := hinv.regions.apart_of_ne hr hr' hrne
  unfold Region.Apart at hapart ⊢
  simp only
  omega

theorem Inv.memSafe (hinv : Inv s) : MemSafe s where
  room b hb := by
    obtain ⟨r, hr, hstart, hfrom, -, hto⟩ := blockOk_region (hinv.lent b hb)
    rw [← hstart] at hfrom hto
    exact ⟨r, hr, hfrom, hto⟩
  once := by
    have hnodup : (s.live.map Block.start).Nodup := hinv.places.nodup .client
    rw [List.Nodup, List.pairwise_map] at hnodup
    exact hnodup.imp_of_mem fun hb hc hne => hinv.blocks_apart hb hc hne
  reused t size ind n hpc := by
    obtain ⟨hscan, hn⟩ : PcOk s (.mallocUnlock size ind n) := hpc ▸ hinv.thread t
    have hsize := scan_eq_some hscan
    refine ⟨⟨_, hn.region, rfl, Nat.add_le_add_left hsize nodeSize⟩, fun b hb hstart => ?_⟩
    have hheld : n ∈ s.place (.thread t) := by
      show n ∈ (s.pc t).held
      rw [hpc]
      exact List.mem_cons_self
    exact hinv.ne_start hheld nofun hb hstart.symm
  notLive ind n hn b hb hstart := hinv.ne_start (h := .list ind) hn nofun hb hstart.symm
  asserts t hfailed := by
    have hpc := hinv.thread t
    rw [hfailed] at hpc
    exact hpc

/-- In every run in which each block is freed once, with its size, and no empty block is freed, a block
has room for its size, no memory is with two callers, and no assertion fails. -/
theorem memSafe_of_reachable (hreach : machine.Reachable FreedOnceNonempty s) : MemSafe s := by
  refine (hreach.invariant (I := Inv) ?_ fun _ _ _ hok hinv hstep => inv_step hok hinv hstep).memSafe
  rintro _ rfl
  exact inv_start

/-! ## Two runs -/

/-- The test of a run's actions. -/
def freedOnce (least : Nat) (s : State) : Action → Bool
  | .memFree _ b => decide (b ∈ s.live ∧ least ≤ b.size)
  | _ => true

theorem freedOnceNonempty_of_check (s : State) (a : Action) (hcheck : freedOnce 1 s a = true) :
    FreedOnceNonempty s a := by
  cases a with
  | memFree t b =>
      have hlive : b ∈ s.live ∧ 1 ≤ b.size := of_decide_eq_true hcheck
      exact hlive
  | memMalloc t size fresh => trivial
  | next t fresh => trivial
  | write b address value => trivial

theorem freedOnce_of_check (s : State) (a : Action) (hcheck : freedOnce 0 s a = true) :
    FreedOnce s a := by
  cases a with
  | memFree t b =>
      have hlive : b ∈ s.live ∧ 0 ≤ b.size := of_decide_eq_true hcheck
      exact hlive.1
  | memMalloc t size fresh => trivial
  | next t fresh => trivial
  | write b address value => trivial

/-- A block of 16 bytes is freed, and a request of 10 bytes by another thread gets it. -/
def reuseRun : List Action :=
  [.memMalloc 0 16 1000, .next 0 1000, .next 0 1000, .next 0 1000, .next 0 1000, .next 0 1000,
    .memFree 0 ⟨1032, 16⟩, .next 0 0, .next 0 0, .next 0 0,
    .memMalloc 1 10 0, .next 1 0, .next 1 0, .next 1 0, .next 1 0, .next 1 0]

theorem memSafe_reuse : ∃ s, MemSafe s ∧ s.live = [⟨1032, 10⟩] := by
  have hrun : (machine.execGuarded (freedOnce 1) .start reuseRun).map State.live = some [⟨1032, 10⟩] := by
    decide
  obtain ⟨s, hreach, hlive⟩ := Machine.exists_reachable_of_execGuarded State.live
    (M := machine) freedOnceNonempty_of_check reuseRun rfl hrun
  exact ⟨s, memSafe_of_reachable hreach, hlive⟩

/-- `memMalloc(0)` returns a block, and `memFree` of it fails its first `assert`. -/
theorem free_of_size_zero : ¬ ∀ s, machine.Reachable FreedOnce s → MemSafe s := by
  intro hsafe
  have hrun : (machine.execGuarded (freedOnce 0) .start
      [.memMalloc 0 0 1000, .next 0 1000, .next 0 1000, .next 0 1000, .next 0 1000, .next 0 1000,
        .memFree 0 ⟨1032, 0⟩]).map (fun s => s.pc 0) = some .failed := by
    decide
  obtain ⟨s, hreach, hfailed⟩ := Machine.exists_reachable_of_execGuarded (fun s => s.pc 0)
    (M := machine) freedOnce_of_check _ rfl hrun
  exact (hsafe s hreach).asserts 0 hfailed

end MemList
end Manager
end AsynDriver
