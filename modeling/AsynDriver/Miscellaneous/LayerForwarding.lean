import AsynDriver.Miscellaneous.InterposeLayers

/-!
# What the layers pass on

Which saved pointers of the layers in a run of installations are those of the interface below, and
where the calls that no layer implements end.

* `Layer.savedTable`, `Layer.savedPvt` — the pointers that a layer has for a method.
* `Linked` — every layer has the table of the interface below it, every interposed interface belongs
  to a layer, and the layers below are older.
* `Installs` — what one installation changes.
* `forwards_iff_reliable` — the calls that are passed on as they are.
* `Linked.call_reaches_driver` — a method that no layer implements reaches the driver.
-/

namespace AsynDriver
namespace Miscellaneous
namespace InterposeLayers

open Library
open Manager (AsynStatus)
open Manager.Interpose (AsynInterface Stack registeredPort findInterfaceAt interposeInterface
  locateInterfaceNode setInterfaceNode target)

/-! ## The saved pointers -/

/-- The `asynInterface` with a method in the private data at `a`. -/
def Method.place (m : Method) (a : Nat) : AsynInterface :=
  if m.isOption then optionAt a else octetAt a

def Layer.savedTable (l : Layer) (m : Method) : Option Table :=
  match l with
  | .eos p => some p.poctet
  | .com p => if m.isOption then p.pasynOptionDrv else some p.pasynOctetDrv
  | .echo p => some p.pasynOctetDrv
  | .delay p => if m.isOption then p.pasynOptionDrv else some p.pasynOctetDrv

def Layer.savedPvt (l : Layer) (m : Method) : Ptr :=
  match l with
  | .eos p => p.octetPvt
  | .com p => if m.isOption then p.drvOptionPvt else p.drvOctetPvt
  | .echo p => p.drvPvt
  | .delay p => if m.isOption then p.optionPvt else p.octetPvt

/-- The status of the layer below is replaced. -/
def Layer.replaces (l : Layer) (m : Method) : Option String :=
  match l, m with
  | .com _, .getOption key valSize =>
      if 0 ≥ valSize then some ("Value buffer for key '" ++ key ++ "' is too small.") else none
  | _, _ => none

variable {d : Driver} {s s' : State} {a : Nat} {l : Layer} {m : Method} {pif : AsynInterface}

theorem octetType_ne_optionType : asynOctetType ≠ asynOptionType := by decide

/-- A method that the layer does not implement is called through the saved pointers. -/
theorem behaviour_eq_lower {table : Table} (hprovides : l.provides m = true)
    (himplements : l.implements m = false) (hsaved : l.savedTable m = some table) :
    l.behaviour m = .lower table (l.savedPvt m) m (l.replaces m) := by
  cases l with
  | eos p =>
      have htable : p.poctet = table := by simpa [Layer.savedTable] using hsaved
      subst htable
      cases m <;> simp_all [Layer.provides, Layer.implements, Layer.behaviour, eosOctet,
        Layer.savedPvt, Layer.replaces, Method.isOption]
  | com p =>
      cases m <;> simp_all [Layer.implements, Layer.behaviour, comOctet, comOption,
        Layer.savedTable, Layer.savedPvt, Layer.replaces, Method.isOption]
  | echo p =>
      have htable : p.pasynOctetDrv = table := by simpa [Layer.savedTable] using hsaved
      subst htable
      cases m <;> simp_all [Layer.provides, Layer.implements, Layer.behaviour, echoOctet,
        Layer.savedPvt, Layer.replaces, Method.isOption]
  | delay p =>
      cases m <;> simp_all [Layer.implements, Layer.behaviour, delayOctet, delayOption,
        Layer.savedTable, Layer.savedPvt, Layer.replaces, Method.isOption]

/-! ## One installation -/

/-- The list `interposed dp` of the port. -/
def State.interposed (s : State) (dp : Option Nat) : List AsynInterface := s.stack.pport.interposed dp

theorem mem_setInterfaceNode {plist : List AsynInterface} {x : AsynInterface}
    (hmem : x ∈ setInterfaceNode plist pif) : x = pif ∨ x ∈ plist := by
  induction plist with
  | nil => exact .inl (List.mem_singleton.mp hmem)
  | cons head rest ih =>
      unfold setInterfaceNode at hmem
      split at hmem
      · rcases List.mem_cons.mp hmem with hx | hx
        · exact .inl hx
        · exact .inr (List.mem_cons_of_mem _ hx)
      · rcases List.mem_cons.mp hmem with hx | hx
        · exact .inr (hx ▸ List.mem_cons_self)
        · rcases ih hx with hnew | hold
          · exact .inl hnew
          · exact .inr (List.mem_cons_of_mem _ hold)

section Interpose

variable (s : State) (addr : Int) (pif : AsynInterface)

theorem interpose_port : (s.interpose addr pif).1.stack.pport.interfaceList =
      s.stack.pport.interfaceList ∧
    (s.interpose addr pif).1.stack.pport.defunct = s.stack.pport.defunct := by
  obtain ⟨-, hdefunct, hlist⟩ :=
    Manager.Interpose.interposeInterface_fields s.stack.pport addr pif
  exact ⟨hlist, hdefunct⟩

theorem interpose_mem {dp : Option Nat} {x : AsynInterface}
    (hmem : x ∈ (s.interpose addr pif).1.interposed dp) : x = pif ∨ x ∈ s.interposed dp := by
  have hlist : (s.interpose addr pif).1.interposed dp = _ :=
    Manager.Interpose.interposeInterface_interposed s.stack.pport addr pif dp
  rw [hlist] at hmem
  split at hmem
  · exact mem_setInterfaceNode hmem
  · exact .inr hmem

theorem interpose_prev_self : (s.interpose addr pif).1.stack.prev pif =
    (interposeInterface s.stack.pport addr pif).2 :=
  Function.update_self _ _ _

theorem interpose_prev_of_ne {x : AsynInterface} (hne : x ≠ pif) :
    (s.interpose addr pif).1.stack.prev x = s.stack.prev x :=
  Function.update_of_ne hne _ _

theorem interpose_previous : (s.interpose addr pif).2 =
    (interposeInterface s.stack.pport addr pif).2.map fun prev => s.interfaces prev.address := by
  show ((s.interpose addr pif).1.stack.prev pif).map _ = _
  rw [interpose_prev_self]

/-- The previous interface has the same type and was on one of the lists. -/
theorem previous_mem {x : AsynInterface}
    (hprev : (interposeInterface s.stack.pport addr pif).2 = some x) :
    x.interfaceType = pif.interfaceType ∧
      (x ∈ s.stack.pport.interfaceList ∨ ∃ dp, x ∈ s.interposed dp) := by
  rw [Manager.Interpose.interposeInterface_prev] at hprev
  rcases Option.or_eq_some_iff.mp hprev with hfound | ⟨-, hfound⟩
  · exact ⟨by simpa using List.find?_some hfound, .inr ⟨_, List.mem_of_find?_eq_some hfound⟩⟩
  · exact ⟨by simpa using List.find?_some hfound, .inl (List.mem_of_find?_eq_some hfound)⟩

/-- On a port with both of the driver's interfaces there always is a previous one. -/
theorem previous_isSome (hdriver : s.stack.pport.interfaceList = driverInterfaces)
    (htype : pif.interfaceType = asynOctetType ∨ pif.interfaceType = asynOptionType) :
    ∃ x, (interposeInterface s.stack.pport addr pif).2 = some x := by
  rw [Manager.Interpose.interposeInterface_prev, hdriver]
  have hregistered : ∃ x, locateInterfaceNode driverInterfaces pif.interfaceType = some x := by
    rcases htype with h | h
    · exact ⟨octetAt 0, by rw [h]; rfl⟩
    · exact ⟨optionAt 0, by rw [h]; rfl⟩
  obtain ⟨x, hx⟩ := hregistered
  rw [hx]
  cases locateInterfaceNode (s.stack.pport.interposed (target s.stack.pport.multiDevice addr))
      pif.interfaceType with
  | none => exact ⟨x, rfl⟩
  | some found => exact ⟨found, rfl⟩

end Interpose

/-! ## The invariant -/

/-- An interface of the driver, or of a layer whose private data are below `b`. -/
def Installed (s : State) (b : Nat) (pif : AsynInterface) : Prop :=
  pif ∈ driverInterfaces ∨
    ∃ a table, a < b ∧ (s.layer a).map Layer.table = some table ∧
      (pif = octetAt a ∨ pif = optionAt a ∧ (table = .com ∨ table = .delay))

/-- The layer has the table of the interface below it, and the private pointer too, except that
`asynInterposeDelay` has none for options. -/
structure Saved (s : State) (a : Nat) (l : Layer) (m : Method) (pif : AsynInterface) : Prop where
  prev : s.stack.prev (m.place a) = some pif
  interfaceType : pif.interfaceType = m.interfaceType
  installed : Installed s a pif
  table : l.savedTable m = some (s.interfaces pif.address).pinterface
  pvt : l.savedPvt m =
    if l.table = .delay ∧ m.isOption = true then none else (s.interfaces pif.address).drvPvt

structure Linked (d : Driver) (s : State) : Prop where
  registered : s.stack.pport.interfaceList = driverInterfaces
  inService : s.stack.pport.defunct = false
  driverOctet : s.interfaces 0 = ⟨.driver, d.octetPvt⟩
  driverOption : s.interfaces 1 = ⟨.driver, d.optionPvt⟩
  room : 2 ≤ s.next
  bound : ∀ a l, s.layer a = some l → 2 ≤ a ∧ a + 2 ≤ s.next
  own : ∀ a l, s.layer a = some l → s.interfaces a = ⟨l.table, some a⟩ ∧
    s.interfaces (a + 1) = ⟨l.table, some a⟩
  interposed : ∀ dp pif, pif ∈ s.interposed dp → Installed s s.next pif
  saved : ∀ a l m, s.layer a = some l → l.provides m = true → ∃ pif, Saved s a l m pif

/-! ## The steps -/

theorem place_ne_octetAt {b : Nat} (hne : b ≠ a) : m.place b ≠ octetAt a := by
  unfold Method.place
  cases m.isOption
  · simpa [octetAt] using hne
  · simp [octetAt, optionAt, octetType_ne_optionType.symm]

theorem place_ne_optionAt {b : Nat} (hne : b ≠ a) : m.place b ≠ optionAt a := by
  unfold Method.place
  cases m.isOption
  · simp [octetAt, optionAt, octetType_ne_optionType]
  · simpa [optionAt] using hne

theorem octetAt_ne_optionAt (a b : Nat) : octetAt a ≠ optionAt b := by
  simp [octetAt, optionAt, octetType_ne_optionType]

/-- `s'` is `s` with the layer `l`, whose private data are the next ones allocated. -/
structure Installs (s s' : State) (l : Layer) : Prop where
  registered : s'.stack.pport.interfaceList = s.stack.pport.interfaceList
  inService : s'.stack.pport.defunct = s.stack.pport.defunct
  next : s'.next = s.next + 2
  interfaces : ∀ b, b < s.next → s'.interfaces b = s.interfaces b
  own : s'.interfaces s.next = ⟨l.table, some s.next⟩ ∧
    s'.interfaces (s.next + 1) = ⟨l.table, some s.next⟩
  layer : s'.layer = Function.update s.layer s.next (some l)
  prev : ∀ b (m : Method), b ≠ s.next → s'.stack.prev (m.place b) = s.stack.prev (m.place b)
  interposed : ∀ dp x, x ∈ s'.interposed dp → x ∈ s.interposed dp ∨ x = octetAt s.next ∨
    x = optionAt s.next ∧ (l.table = .com ∨ l.table = .delay)
  saved : ∀ m : Method, l.provides m = true → ∃ pif,
    s'.stack.prev (m.place s.next) = some pif ∧ pif.interfaceType = m.interfaceType ∧
    (pif ∈ s.stack.pport.interfaceList ∨ ∃ dp, pif ∈ s.interposed dp) ∧
    l.savedTable m = some (s'.interfaces pif.address).pinterface ∧
    l.savedPvt m =
      if l.table = .delay ∧ m.isOption = true then none else (s'.interfaces pif.address).drvPvt

/-- A layer with `asynOctet` only. -/
theorem installs_octet {table : Table} {addr : Int} {lower : Interface}
    (hprev : ((s.allocate table).interpose addr (octetAt s.next)).2 = some lower)
    (htable : l.table = table)
    (hprovides : ∀ m : Method, l.provides m = true → m.isOption = false ∧
      l.savedTable m = some lower.pinterface ∧ l.savedPvt m = lower.drvPvt) :
    Installs s (((s.allocate table).interpose addr (octetAt s.next)).1.setLayer s.next l) l := by
  obtain ⟨hregistered, hdefunct⟩ := interpose_port (s.allocate table) addr (octetAt s.next)
  rw [interpose_previous] at hprev
  obtain ⟨x, hx, hlower⟩ := Option.map_eq_some_iff.mp hprev
  obtain ⟨htype, hmem⟩ := previous_mem (s.allocate table) addr (octetAt s.next) hx
  refine
    { registered := hregistered
      inService := hdefunct
      next := rfl
      interfaces := ?_
      own := ?_
      layer := rfl
      prev := ?_
      interposed := ?_
      saved := ?_ }
  · intro b hb
    show Function.update (Function.update s.interfaces _ _) _ _ b = _
    rw [Function.update_of_ne (by omega), Function.update_of_ne (by omega)]
  · subst htable
    constructor
    · show Function.update (Function.update s.interfaces _ _) _ _ s.next = _
      rw [Function.update_of_ne (by omega), Function.update_self]
    · exact Function.update_self _ _ _
  · intro b m hb
    exact interpose_prev_of_ne (s.allocate table) addr _ (place_ne_octetAt hb)
  · intro dp y hy
    rcases interpose_mem (s.allocate table) addr _ hy with hnew | hold
    · exact .inr (.inl hnew)
    · exact .inl hold
  · intro m hm
    obtain ⟨hoctet, hsavedTable, hsavedPvt⟩ := hprovides m hm
    have hplace : m.place s.next = octetAt s.next := by simp [Method.place, hoctet]
    refine ⟨x, ?_, ?_, hmem, ?_, ?_⟩
    · rw [hplace]
      exact (interpose_prev_self (s.allocate table) addr _).trans hx
    · rw [htype]
      simp [octetAt, Method.interfaceType, hoctet]
    · rw [hsavedTable, ← hlower]
      rfl
    · rw [hsavedPvt, ← hlower]
      simp [hoctet]
      rfl

/-- A layer with `asynOctet` and `asynOption`. -/
theorem installs_both {table : Table} {addr : Int} {lower lowerOption : Interface} {s₁ s₂ : State}
    (hfirst : (s.allocate table).interpose addr (octetAt s.next) = (s₁, some lower))
    (hsecond : s₁.interpose addr (optionAt s.next) = (s₂, some lowerOption))
    (htable : l.table = table) (hboth : table = .com ∨ table = .delay)
    (hoctet : ∀ m : Method, m.isOption = false →
      l.savedTable m = some lower.pinterface ∧ l.savedPvt m = lower.drvPvt)
    (hoption : ∀ m : Method, m.isOption = true →
      l.savedTable m = some lowerOption.pinterface ∧
        l.savedPvt m = if table = .delay then none else lowerOption.drvPvt) :
    Installs s (s₂.setLayer s.next l) l := by
  have hs₁ : s₁ = ((s.allocate table).interpose addr (octetAt s.next)).1 := by rw [hfirst]
  have hs₂ : s₂ = (s₁.interpose addr (optionAt s.next)).1 := by rw [hsecond]
  have hinterfaces : s₂.interfaces = (s.allocate table).interfaces := by
    rw [hs₂, hs₁]
    rfl
  obtain ⟨hregistered₁, hdefunct₁⟩ := interpose_port (s.allocate table) addr (octetAt s.next)
  obtain ⟨hregistered₂, hdefunct₂⟩ := interpose_port s₁ addr (optionAt s.next)
  rw [← hs₁] at hregistered₁ hdefunct₁
  rw [← hs₂] at hregistered₂ hdefunct₂
  -- the two interfaces below
  have hprev₁ := interpose_previous (s.allocate table) addr (octetAt s.next)
  rw [hfirst] at hprev₁
  obtain ⟨x, hx, hlower⟩ := Option.map_eq_some_iff.mp hprev₁.symm
  obtain ⟨hxtype, hxmem⟩ := previous_mem (s.allocate table) addr (octetAt s.next) hx
  have hprev₂ := interpose_previous s₁ addr (optionAt s.next)
  rw [hsecond] at hprev₂
  obtain ⟨y, hy, hlowerOption⟩ := Option.map_eq_some_iff.mp hprev₂.symm
  obtain ⟨hytype, hymem⟩ := previous_mem s₁ addr (optionAt s.next) hy
  refine
    { registered := hregistered₂.trans hregistered₁
      inService := hdefunct₂.trans hdefunct₁
      next := by rw [hs₂, hs₁]; rfl
      interfaces := ?_
      own := ?_
      layer := by rw [hs₂, hs₁]; rfl
      prev := ?_
      interposed := ?_
      saved := ?_ }
  · intro b hb
    show s₂.interfaces b = _
    rw [hinterfaces]
    show Function.update (Function.update s.interfaces _ _) _ _ b = _
    rw [Function.update_of_ne (by omega), Function.update_of_ne (by omega)]
  · show s₂.interfaces s.next = _ ∧ s₂.interfaces (s.next + 1) = _
    rw [hinterfaces]
    subst htable
    constructor
    · show Function.update (Function.update s.interfaces _ _) _ _ s.next = _
      rw [Function.update_of_ne (by omega), Function.update_self]
    · exact Function.update_self _ _ _
  · intro b m hb
    show s₂.stack.prev _ = _
    rw [hs₂, interpose_prev_of_ne s₁ addr _ (place_ne_optionAt hb), hs₁]
    exact interpose_prev_of_ne (s.allocate table) addr _ (place_ne_octetAt hb)
  · intro dp z hz
    have hz₂ : z ∈ (s₁.interpose addr (optionAt s.next)).1.interposed dp := by
      rw [← hs₂]
      exact hz
    rcases interpose_mem s₁ addr _ hz₂ with hnew | hold
    · exact .inr (.inr ⟨hnew, htable ▸ hboth⟩)
    · rw [hs₁] at hold
      rcases interpose_mem (s.allocate table) addr _ hold with hnew | hold
      · exact .inr (.inl hnew)
      · exact .inl hold
  · intro m _
    by_cases hm : m.isOption = true
    · obtain ⟨hsavedTable, hsavedPvt⟩ := hoption m hm
      have hplace : m.place s.next = optionAt s.next := by simp [Method.place, hm]
      refine ⟨y, ?_, ?_, ?_, ?_, ?_⟩
      · show s₂.stack.prev _ = _
        rw [hplace, hs₂]
        exact (interpose_prev_self s₁ addr _).trans hy
      · rw [hytype]
        simp [optionAt, Method.interfaceType, hm]
      · -- the layer's own `asynOctet` has another type
        rcases hymem with hdriver | ⟨dp, hdp⟩
        · exact .inl (hregistered₁ ▸ hdriver)
        · rw [hs₁] at hdp
          rcases interpose_mem (s.allocate table) addr _ hdp with hnew | hold
          · rw [hnew] at hytype
            exact absurd hytype octetType_ne_optionType
          · exact .inr ⟨dp, hold⟩
      · show _ = some (s₂.interfaces y.address).pinterface
        rw [hsavedTable, ← hlowerOption, hs₂]
        rfl
      · show _ = if _ then none else (s₂.interfaces y.address).drvPvt
        rw [hsavedPvt, ← hlowerOption, hs₂, htable]
        simp [hm]
        rfl
    · have hfalse : m.isOption = false := eq_false_of_ne_true hm
      obtain ⟨hsavedTable, hsavedPvt⟩ := hoctet m hfalse
      have hplace : m.place s.next = octetAt s.next := by simp [Method.place, hfalse]
      refine ⟨x, ?_, ?_, hxmem, ?_, ?_⟩
      · show s₂.stack.prev _ = _
        rw [hplace, hs₂, interpose_prev_of_ne s₁ addr _ (octetAt_ne_optionAt _ _), hs₁]
        exact (interpose_prev_self (s.allocate table) addr _).trans hx
      · rw [hxtype]
        simp [octetAt, Method.interfaceType, hfalse]
      · show _ = some (s₂.interfaces x.address).pinterface
        rw [hsavedTable, ← hlower, hinterfaces]
      · show _ = if _ then none else (s₂.interfaces x.address).drvPvt
        rw [hsavedPvt, ← hlower, hinterfaces]
        simp [hfalse]

/-- There is an option interface below every layer. -/
theorem interpose_option (hlinked : Linked d s) (table : Table) (addr : Int) :
    ∃ lower, (((s.allocate table).interpose addr (octetAt s.next)).1.interpose addr
      (optionAt s.next)).2 = some lower := by
  obtain ⟨hregistered, -⟩ := interpose_port (s.allocate table) addr (octetAt s.next)
  obtain ⟨x, hx⟩ := previous_isSome ((s.allocate table).interpose addr (octetAt s.next)).1 addr
    (optionAt s.next) (hregistered.trans hlinked.registered) (.inr rfl)
  rw [interpose_previous, hx]
  exact ⟨_, rfl⟩

/-- Each of the four functions installs a layer. -/
theorem installs_step {action : Action} (hlinked : Linked d s)
    (hstep : step s action = some s') (hnot : ∀ a eoslen, action ≠ .setOutputEos a eoslen) :
    ∃ l, Installs s s' l := by
  cases action with
  | asynInterposeEosConfig addr processEosIn processEosOut =>
      obtain ⟨lower, hprev, rfl⟩ := Option.map_eq_some_iff.mp hstep
      refine ⟨_, installs_octet hprev rfl ?_⟩
      intro m hm
      exact ⟨by simpa [Layer.provides] using hm, rfl, rfl⟩
  | asynInterposeEcho addr =>
      obtain ⟨lower, hprev, rfl⟩ := Option.map_eq_some_iff.mp hstep
      refine ⟨_, installs_octet hprev rfl ?_⟩
      intro m hm
      exact ⟨by simpa [Layer.provides] using hm, rfl, rfl⟩
  | asynInterposeCOM =>
      obtain ⟨lower, hprev, rfl⟩ := Option.map_eq_some_iff.mp hstep
      obtain ⟨lowerOption, hoption⟩ := interpose_option hlinked .com (-1)
      simp only [hoption]
      refine ⟨_, installs_both (Prod.ext rfl hprev) (Prod.ext rfl hoption) rfl (.inl rfl) ?_ ?_⟩
      · intro m hm
        simp [Layer.savedTable, Layer.savedPvt, hm]
      · intro m hm
        simp [Layer.savedTable, Layer.savedPvt, hm]
  | asynInterposeDelay addr =>
      obtain ⟨lower, hprev, rfl⟩ := Option.map_eq_some_iff.mp hstep
      obtain ⟨lowerOption, hoption⟩ := interpose_option hlinked .delay addr
      simp only [hoption]
      refine ⟨_, installs_both (Prod.ext rfl hprev) (Prod.ext rfl hoption) rfl (.inr rfl) ?_ ?_⟩
      · intro m hm
        simp [Layer.savedTable, Layer.savedPvt, hm]
      · intro m hm
        simp [Layer.savedTable, Layer.savedPvt, hm]
  | setOutputEos a eoslen => exact absurd rfl (hnot a eoslen)

theorem Linked.start (d : Driver) : Linked d (.start d) where
  registered := rfl
  inService := rfl
  driverOctet := rfl
  driverOption := rfl
  room := Nat.le_refl 2
  bound := fun _ _ hlayer => nomatch hlayer
  own := fun _ _ hlayer => nomatch hlayer
  interposed := by
    intro dp pif hmem
    cases dp <;> exact nomatch hmem
  saved := fun _ _ _ hlayer => nomatch hlayer

/-- What is on the lists has an address below `next`. -/
theorem Linked.listed (hlinked : Linked d s) {x : AsynInterface}
    (hmem : x ∈ s.stack.pport.interfaceList ∨ ∃ dp, x ∈ s.interposed dp) :
    Installed s s.next x := by
  rcases hmem with hdriver | ⟨dp, hdp⟩
  · exact .inl (hlinked.registered ▸ hdriver)
  · exact hlinked.interposed dp x hdp

theorem Linked.address_lt (hlinked : Linked d s) {x : AsynInterface} {b : Nat}
    (hinstalled : Installed s b x) : x.address < s.next := by
  have hroom := hlinked.room
  rcases hinstalled with hdriver | ⟨a, table, -, htable, hx⟩
  · rcases List.mem_cons.mp hdriver with rfl | hsecond
    · show 0 < _
      omega
    · rw [List.mem_singleton.mp hsecond]
      show 1 < _
      omega
  · obtain ⟨l, hl, -⟩ := Option.map_eq_some_iff.mp htable
    have hbound := (hlinked.bound a l hl).2
    rcases hx with rfl | ⟨rfl, -⟩
    · show a < _
      omega
    · show a + 1 < _
      omega

theorem Linked.installs (hlinked : Linked d s) (hinstalls : Installs s s' l) : Linked d s' := by
  have hroom := hlinked.room
  have hnext := hinstalls.next
  have hold : ∀ a l', s'.layer a = some l' → a ≠ s.next → s.layer a = some l' := by
    intro a l' hl' hne
    rw [hinstalls.layer, Function.update_of_ne hne] at hl'
    exact hl'
  have hkept : ∀ a, a < s.next → s'.layer a = s.layer a := by
    intro a ha
    rw [hinstalls.layer, Function.update_of_ne (by omega)]
  have hmono : ∀ b b' x, b ≤ b' → b ≤ s.next → Installed s b x → Installed s' b' x := by
    intro b b' x hb hnew hinstalled
    rcases hinstalled with hdriver | ⟨a, table, ha, htable, hx⟩
    · exact .inl hdriver
    · exact .inr ⟨a, table, by omega, by rw [hkept a (by omega)]; exact htable, hx⟩
  have hself : s'.layer s.next = some l := by
    rw [hinstalls.layer, Function.update_self]
  refine
    { registered := hinstalls.registered.trans hlinked.registered
      inService := hinstalls.inService.trans hlinked.inService
      driverOctet := (hinstalls.interfaces 0 (by omega)).trans hlinked.driverOctet
      driverOption := (hinstalls.interfaces 1 (by omega)).trans hlinked.driverOption
      room := by omega
      bound := ?_
      own := ?_
      interposed := ?_
      saved := ?_ }
  · intro a l' hl'
    by_cases ha : a = s.next
    · omega
    · have hbound := hlinked.bound a l' (hold a l' hl' ha)
      omega
  · intro a l' hl'
    by_cases ha : a = s.next
    · subst ha
      rw [hself] at hl'
      cases hl'
      exact hinstalls.own
    · have hbound := hlinked.bound a l' (hold a l' hl' ha)
      rw [hinstalls.interfaces a (by omega), hinstalls.interfaces (a + 1) (by omega)]
      exact hlinked.own a l' (hold a l' hl' ha)
  · intro dp x hx
    rcases hinstalls.interposed dp x hx with hx | hnew
    · exact hmono _ _ x (by omega) (Nat.le_refl _) (hlinked.interposed dp x hx)
    · exact .inr ⟨s.next, l.table, by omega, by rw [hself]; rfl, hnew⟩
  · intro a l' m hl' hm
    by_cases ha : a = s.next
    · subst ha
      rw [hself] at hl'
      cases hl'
      obtain ⟨x, hprev, htype, hmem, htable, hpvt⟩ := hinstalls.saved m hm
      exact ⟨x, hprev, htype, hmono _ _ x (Nat.le_refl _) (Nat.le_refl _) (hlinked.listed hmem),
        htable, hpvt⟩
    · obtain ⟨x, hsaved⟩ := hlinked.saved a l' m (hold a l' hl' ha) hm
      have hbound := hlinked.bound a l' (hold a l' hl' ha)
      have haddress := hlinked.address_lt hsaved.installed
      refine ⟨x, ⟨?_, hsaved.interfaceType, ?_, ?_, ?_⟩⟩
      · rw [hinstalls.prev a m ha]
        exact hsaved.prev
      · exact hmono _ _ x (Nat.le_refl _) (by omega) hsaved.installed
      · rw [hinstalls.interfaces _ haddress]
        exact hsaved.table
      · rw [hinstalls.interfaces _ haddress]
        exact hsaved.pvt

/-- `setOutputEos` leaves the pointers of the layer as they are. -/
theorem Linked.setOutputEos {eoslen : Nat} (hlinked : Linked d s)
    (hstep : setOutputEos s a eoslen = some s') : Linked d s' := by
  unfold InterposeLayers.setOutputEos at hstep
  split at hstep
  case h_2 => exact nomatch hstep
  case h_1 p hlayer =>
    split at hstep
    case isFalse => exact nomatch hstep
    case isTrue =>
      cases hstep
      -- the layer at `b`, before the call
      have hbefore : ∀ b l', (s.setLayer a (.eos { p with eosOutLen := eoslen })).layer b = some l' →
          ∃ l'', s.layer b = some l'' ∧ l''.table = l'.table ∧
            ∀ m, l''.provides m = l'.provides m ∧ l''.savedTable m = l'.savedTable m ∧
              l''.savedPvt m = l'.savedPvt m := by
        intro b l' hl'
        by_cases hb : b = a
        · subst hb
          have hself : _ = some l' := (Function.update_self b _ s.layer).symm.trans hl'
          cases hself
          exact ⟨.eos p, hlayer, rfl, fun _ => ⟨rfl, rfl, rfl⟩⟩
        · have hother : s.layer b = some l' := (Function.update_of_ne hb _ s.layer).symm.trans hl'
          exact ⟨l', hother, rfl, fun _ => ⟨rfl, rfl, rfl⟩⟩
      have hinstalled : ∀ b x, Installed s b x →
          Installed (s.setLayer a (.eos { p with eosOutLen := eoslen })) b x := by
        intro b x hinst
        rcases hinst with hdriver | ⟨c, table, hc, htable, hx⟩
        · exact .inl hdriver
        · refine .inr ⟨c, table, hc, ?_, hx⟩
          by_cases hca : c = a
          · subst hca
            rw [hlayer] at htable
            show ((Function.update s.layer c _) c).map _ = _
            rw [Function.update_self]
            exact htable
          · show ((Function.update s.layer a _) c).map _ = _
            rw [Function.update_of_ne hca]
            exact htable
      refine
        { registered := hlinked.registered
          inService := hlinked.inService
          driverOctet := hlinked.driverOctet
          driverOption := hlinked.driverOption
          room := hlinked.room
          bound := ?_
          own := ?_
          interposed := fun dp x hx => hinstalled _ _ (hlinked.interposed dp x hx)
          saved := ?_ }
      · intro b l' hl'
        obtain ⟨l'', hl'', -⟩ := hbefore b l' hl'
        exact hlinked.bound b l'' hl''
      · intro b l' hl'
        obtain ⟨l'', hl'', htable, -⟩ := hbefore b l' hl'
        rw [← htable]
        exact hlinked.own b l'' hl''
      · intro b l' m hl' hm
        obtain ⟨l'', hl'', htable, hsame⟩ := hbefore b l' hl'
        obtain ⟨hprovides, hsavedTable, hsavedPvt⟩ := hsame m
        obtain ⟨x, hsaved⟩ := hlinked.saved b l'' m hl'' (hprovides.trans hm)
        refine ⟨x, ⟨hsaved.prev, hsaved.interfaceType, hinstalled _ _ hsaved.installed, ?_, ?_⟩⟩
        · rw [← hsavedTable]
          exact hsaved.table
        · rw [← hsavedPvt, ← htable]
          exact hsaved.pvt

theorem Linked.step {action : Action} (hlinked : Linked d s)
    (hstep : step s action = some s') : Linked d s' := by
  by_cases hset : ∃ a eoslen, action = .setOutputEos a eoslen
  · obtain ⟨a, eoslen, rfl⟩ := hset
    exact hlinked.setOutputEos hstep
  · have hnot : ∀ a eoslen, action ≠ .setOutputEos a eoslen := by
      intro a eoslen h
      exact hset ⟨a, eoslen, h⟩
    obtain ⟨l, hinstalls⟩ := installs_step hlinked hstep hnot
    exact hlinked.installs hinstalls

theorem Linked.reachable (hreach : (machine d).Reachable Machine.Unguarded s) : Linked d s :=
  hreach.invariant (fun _ hinit => hinit ▸ Linked.start d)
    fun _ _ _ _ hlinked hstep => hlinked.step hstep

/-! ## What is passed on -/

section Forwarding

variable (hlinked : Linked d s) (hlayer : s.layer a = some l) (hprovides : l.provides m = true)
  (himplements : l.implements m = false)

include hlinked hlayer hprovides himplements

/-- The call that a layer makes, and of what. -/
theorem Linked.behaviour : ∃ x, s.lower a m = some (s.interfaces x.address) ∧
    Installed s a x ∧ x.interfaceType = m.interfaceType ∧
    l.behaviour m = .lower (s.interfaces x.address).pinterface
      (if l.table = .delay ∧ m.isOption = true then none else (s.interfaces x.address).drvPvt) m
      (l.replaces m) := by
  obtain ⟨x, hsaved⟩ := hlinked.saved a l m hlayer hprovides
  refine ⟨x, ?_, hsaved.installed, hsaved.interfaceType, ?_⟩
  · show (s.stack.prev (m.place a)).map _ = _
    rw [hsaved.prev]
    rfl
  · rw [behaviour_eq_lower hprovides himplements hsaved.table, hsaved.pvt]

theorem Linked.forwards_iff : Forwards s a l m ↔ Reliable s a l m := by
  obtain ⟨x, hlower, -, -, hbehaviour⟩ := hlinked.behaviour hlayer hprovides himplements
  have hforwards : Forwards s a l m ↔
      (if l.table = .delay ∧ m.isOption = true then none
        else (s.interfaces x.address).drvPvt) = (s.interfaces x.address).drvPvt ∧
      l.replaces m = none := by
    unfold Forwards
    rw [hlower, hbehaviour]
    simp
  rw [hforwards]
  cases l with
  | eos p => simp [Layer.table, Layer.replaces, Reliable]
  | echo p => simp [Layer.table, Layer.replaces, Reliable]
  | com p => cases m <;> simp [Layer.table, Layer.replaces, Reliable]
  | delay p =>
      -- only the options have lost their private pointer
      cases m <;> simp [Layer.table, Layer.replaces, Reliable, Method.isOption, hlower, eq_comm]

end Forwarding

/-- `drvPvt` of the interface that the driver has registered for a method. -/
theorem Linked.driver_interface (hlinked : Linked d s) (hdriver : pif ∈ driverInterfaces)
    (htype : pif.interfaceType = m.interfaceType) :
    s.interfaces pif.address = ⟨.driver, d.drvPvt m⟩ := by
  unfold Method.interfaceType at htype
  rcases List.mem_cons.mp hdriver with rfl | hsecond
  · cases hm : m.isOption with
    | false =>
        rw [Driver.drvPvt, hm]
        exact hlinked.driverOctet
    | true => exact absurd htype (by simp [hm, octetAt, octetType_ne_optionType])
  · obtain rfl := List.mem_singleton.mp hsecond
    cases hm : m.isOption with
    | false => exact absurd htype (by simp [hm, optionAt, octetType_ne_optionType.symm])
    | true =>
        rw [Driver.drvPvt, hm]
        exact hlinked.driverOption

/-- The calls go down from layer to layer; the private data of each are older. -/
theorem Linked.call_reaches_driver (hlinked : Linked d s)
    (hall : ∀ a l, s.layer a = some l → l.provides m = true →
      l.implements m = false ∧ Reliable s a l m)
    (drv : Ptr → Method → Answer) {fuel : Nat} (hfuel : 0 < fuel) {pif : AsynInterface}
    (hinstalled : Installed s fuel pif) (htype : pif.interfaceType = m.interfaceType) :
    call s drv fuel (s.interfaces pif.address) m = some (drv (d.drvPvt m) m) := by
  induction fuel using Nat.strongRecOn generalizing pif with
  | ind fuel ih =>
      obtain ⟨k, rfl⟩ : ∃ k, fuel = k + 1 := ⟨fuel - 1, by omega⟩
      rcases hinstalled with hdriver | ⟨a, table, ha, htable, hpif⟩
      · rw [hlinked.driver_interface hdriver htype]
        rfl
      · obtain ⟨l, hlayer, htable⟩ := Option.map_eq_some_iff.mp htable
        obtain ⟨howned, hownedOption⟩ := hlinked.own a l hlayer
        have hinterface : s.interfaces pif.address = ⟨l.table, some a⟩ := by
          rcases hpif with rfl | ⟨rfl, -⟩
          · exact howned
          · exact hownedOption
        have hprovides : l.provides m = true := by
          unfold Method.interfaceType at htype
          rcases hpif with rfl | ⟨rfl, hboth⟩
          · cases hm : m.isOption with
            | false => cases l <;> simp [Layer.provides, hm]
            | true => exact absurd htype (by simp [hm, octetAt, octetType_ne_optionType])
          · subst htable
            cases l <;> simp_all [Layer.provides, Layer.table]
        obtain ⟨himplements, hreliable⟩ := hall a l hlayer hprovides
        obtain ⟨x, hlower, hbelow, hxtype, -⟩ := hlinked.behaviour hlayer hprovides himplements
        obtain ⟨lower, hlower', hbehaviour⟩ :=
          (hlinked.forwards_iff hlayer hprovides himplements).mpr hreliable
        rw [hlower, Option.some.injEq] at hlower'
        subst hlower'
        have hbound := (hlinked.bound a l hlayer).1
        have hk : Installed s k x := by
          rcases hbelow with hdriver | ⟨b, t, hb, hrest⟩
          · exact .inl hdriver
          · exact .inr ⟨b, t, by omega, hrest⟩
        have hnext := ih k (by omega) (by omega) hk hxtype
        have htableNe : l.table ≠ .driver := by
          cases l <;> simp [Layer.table]
        rw [hinterface]
        simp only [call, htableNe, if_false, Option.bind_some, hlayer, if_true, hbehaviour]
        rw [hnext]
        rfl

/-- What `findInterface` finds for a method. -/
theorem Linked.find (hlinked : Linked d s) (addr : Int) (m : Method) :
    ∃ pif, findInterfaceAt s.stack.pport addr m.interfaceType = some pif ∧
      pif.interfaceType = m.interfaceType ∧ Installed s s.next pif := by
  rw [Manager.Interpose.findInterfaceAt_eq _ _ _ hlinked.inService]
  have hregistered : ∃ x, locateInterfaceNode s.stack.pport.interfaceList m.interfaceType =
      some x := by
    rw [hlinked.registered]
    unfold Method.interfaceType
    cases m.isOption
    · exact ⟨octetAt 0, rfl⟩
    · exact ⟨optionAt 0, rfl⟩
  have hfound : ∀ {plist : List AsynInterface} {x : AsynInterface},
      locateInterfaceNode plist m.interfaceType = some x → x.interfaceType = m.interfaceType := by
    intro plist x hx
    simpa using List.find?_some hx
  cases hdevice : locateInterfaceNode (s.stack.pport.interposed
      (target s.stack.pport.multiDevice addr)) m.interfaceType with
  | some x =>
      exact ⟨x, rfl, hfound hdevice,
        hlinked.interposed _ x (Manager.Interpose.mem_of_locateInterfaceNode hdevice)⟩
  | none =>
      cases hport : locateInterfaceNode (s.stack.pport.interposed none) m.interfaceType with
      | some x =>
          exact ⟨x, rfl, hfound hport,
            hlinked.interposed _ x (Manager.Interpose.mem_of_locateInterfaceNode hport)⟩
      | none =>
          obtain ⟨x, hx⟩ := hregistered
          rw [hx]
          exact ⟨x, rfl, hfound hx,
            hlinked.listed (.inl (Manager.Interpose.mem_of_locateInterfaceNode hx))⟩

/-- A layer passes a method on exactly when it is `Reliable`, and a method that all layers pass on
reaches the driver with the driver's own private pointer. -/
theorem forwards_iff_reliable (d : Driver) (m : Method)
    (hreach : (machine d).Reachable Machine.Unguarded s) :
    (∀ a l, s.layer a = some l → l.provides m = true → l.implements m = false →
      (Forwards s a l m ↔ Reliable s a l m)) ∧
    ((∀ a l, s.layer a = some l → l.provides m = true →
        l.implements m = false ∧ Reliable s a l m) →
      ∀ drv addr, ∃ pif, findInterfaceAt s.stack.pport addr m.interfaceType = some pif ∧
        call s drv s.next (s.interfaces pif.address) m = some (drv (d.drvPvt m) m)) := by
  have hlinked := Linked.reachable hreach
  constructor
  · intro a l hlayer hprovides himplements
    exact hlinked.forwards_iff hlayer hprovides himplements
  · intro hall drv addr
    obtain ⟨pif, hfind, htype, hinstalled⟩ := hlinked.find addr m
    have hroom := hlinked.room
    exact ⟨pif, hfind, hlinked.call_reaches_driver hall drv (by omega) hinstalled htype⟩

/-- Through two layers `flush` comes to the driver. -/
theorem forwards_iff_reliable_flush : ∃ s, (machine ⟨false, some 7, some 8⟩).Reachable
    Machine.Unguarded s ∧ ∀ drv addr, ∃ pif,
      findInterfaceAt s.stack.pport addr asynOctetType = some pif ∧
        call s drv s.next (s.interfaces pif.address) .flush = some (drv (some 7) .flush) := by
  obtain ⟨s, hreach, hlayers⟩ := Machine.exists_reachable_of_exec
    (M := machine ⟨false, some 7, some 8⟩) State.layer
    [.asynInterposeEcho (-1), .asynInterposeDelay (-1)] rfl rfl
  refine ⟨s, hreach, (forwards_iff_reliable ⟨false, some 7, some 8⟩ .flush hreach).2 ?_⟩
  intro a l hlayer _
  have hbehind : ∀ b, b ≠ 2 → b ≠ 4 → s.layer b = none := by
    intro b h2 h4
    rw [hlayers]
    exact (Function.update_of_ne h4 _ _).trans (Function.update_of_ne h2 _ _)
  by_cases h4 : a = 4
  · subst h4
    rw [hlayers] at hlayer
    cases hlayer
    exact ⟨rfl, trivial⟩
  · by_cases h2 : a = 2
    · subst h2
      rw [hlayers] at hlayer
      cases hlayer
      exact ⟨rfl, trivial⟩
    · rw [hbehind a h2 h4] at hlayer
      cases hlayer

/-- `asynInterposeDelay` on a driver with options: `setOption("baud")` comes to the driver without
its private pointer. -/
theorem delay_loses_optionPvt : ∃ s, (machine ⟨false, some 7, some 8⟩).Reachable
    Machine.Unguarded s ∧
    (¬∀ a l (m : Method), s.layer a = some l → l.provides m = true → l.implements m = false →
      Forwards s a l m) ∧
    ∀ drv, call s drv s.next ⟨.delay, some 2⟩ (.setOption "baud" "9600") =
      some (drv none (.setOption "baud" "9600")) := by
  obtain ⟨s, hreach, hvalue⟩ := Machine.exists_reachable_of_exec
    (M := machine ⟨false, some 7, some 8⟩)
    (fun s => (s.next, s.layer 2, s.lower 2 (.setOption "baud" "9600")))
    [.asynInterposeDelay (-1)] rfl
    (show _ = some (4, some (.delay ⟨.driver, some 7, some .driver, none⟩),
      some ⟨.driver, some 8⟩) from by decide +kernel)
  simp only [Prod.mk.injEq] at hvalue
  obtain ⟨hnext, hlayer, hlower⟩ := hvalue
  have hkey : sameKey "baud" "delay" = false := by decide +kernel
  refine ⟨s, hreach, ?_, ?_⟩
  · intro hall
    obtain ⟨lower, hlower', hbehaviour⟩ := hall 2 _ (.setOption "baud" "9600") hlayer rfl hkey
    rw [hlower] at hlower'
    cases hlower'
    simp [Layer.behaviour, Method.isOption, delayOption, hkey] at hbehaviour
  · intro drv
    rw [hnext]
    simp [call, hlayer, Layer.table, Layer.behaviour, Method.isOption, delayOption, hkey]

end InterposeLayers
end Miscellaneous
end AsynDriver
