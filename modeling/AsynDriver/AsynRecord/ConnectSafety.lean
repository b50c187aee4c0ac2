import AsynDriver.AsynRecord.Connect

/-!
# The state of the record between puts

* `Outstanding` — a port with a request of the record that has still driver methods to call.
* `Admissible` — which puts are made when.
* `Consistent` — what the state variable, the `asynUser` and the interface pointers say of each other,
  and whose pointers the callbacks use.
* `Inv` — the invariant: between puts the record is `AtRest`, and during one each stage has its own part.
* `consistent` — in every run of admissible puts the record stays consistent.
* `puts_break_consistency` — puts that are not admissible.
-/

namespace AsynDriver
namespace AsynRecord
namespace Connect

open Library

variable {s s' : State}

/-! ## Requests -/

/-- A request of the record on the port has still driver methods to call. -/
inductive Outstanding (s : State) : PortName → Prop
  | queued {name : PortName} {device : Option Int} (hrequest : s.request = .queued)
      (hconnected : s.connected = some (name, device)) : Outstanding s name
  | running {c : Callback} (hrequest : s.request = .running c) (hunfinished : c.Unfinished) :
      Outstanding s c.port
  | specialQueued {id : SpecialId} {name : PortName} {type : CallbackType}
      (hspecial : s.specials id = some (.queued name type)) : Outstanding s name
  | specialRunning {id : SpecialId} {type : CallbackType} {c : Callback}
      (hspecial : s.specials id = some (.running type c)) (hunfinished : c.Unfinished) :
      Outstanding s c.port

/-- `PORT` names a port with the interface `asynCommon`. -/
def Connects (s : State) : Prop :=
  ∃ port, s.ports s.PORT = some port ∧ port.interfaceList .asynCommon = true

/-- Where the put connects, the requests are on the new port, and a put to `PCNCT` finds a state other
than `stateNoDevice`.  Where it does not, the record is active without a process callback to come, or it
has no requests at all. -/
def AdmissibleConnect (s : State) (put : Put) : Prop :=
  (Connects s ∧ (∀ name, Outstanding s name → name = s.PORT) ∧
    (put.pcnct = true → s.state ≠ .stateNoDevice)) ∨
  (¬ Connects s ∧
    (s.pact = true ∧ s.request ≠ .completed ∧
        (s.ports s.PORT = none ∨ ∀ c, s.request ≠ .running c) ∨
      s.pact = false ∧ (∀ id, s.specials id = none) ∧
        (put.pcnct = true → s.state = .stateNoDevice)))

def Admissible (s : State) : Action → Prop
  | .put (.PCNCT false) =>
      s.connected = none ∨ s.request = .queued ∨ s.pact = true ∧ s.request ≠ .completed
  | .put .AQR => s.connected ≠ none ∨ s.pact = true
  | .connect _ _ => ∀ put, s.put = some put →
      match put.stage with
      | .disconnecting => s.request ≠ .queued
      | .connecting => AdmissibleConnect s put
      | _ => True
  | _ => True

/-! ## What the record says of itself -/

/-- The `asynUser` is connected to what `PORT` and `ADDR` name, and the pointers are those of the port. -/
def Connected (s : State) : Prop :=
  (∃ port, s.ports s.PORT = some port ∧ s.connected = some (s.PORT, port.locateDevice s.ADDR)) ∧
    ∀ type, s.pvt type = s.findInterface type

structure Consistent (s : State) : Prop where
  idle : s.put = none → s.pact = false → s.state = .stateIdle → Connected s
  noDevice : s.put = none → s.state = .stateNoDevice → s.connected = none
  calls : ∀ call ∈ s.calls, call.2 = call.1

/-! ## The invariant -/

/-- The `asynUser` is connected, and all pointers but those in `rest` are those of the port. -/
structure Assigned (s : State) (pcnct : Bool) (rest : List InterfaceType) : Prop where
  connected : ∃ port, s.ports s.PORT = some port ∧
    s.connected = some (s.PORT, port.locateDevice s.ADDR)
  pointers : ∀ type, type ∉ rest → s.pvt type = s.findInterface type
  outstanding : ∀ name, Outstanding s name → name = s.PORT
  state : pcnct = true → s.state ≠ .stateNoDevice

/-- Nothing will set `stateIdle` while the record is not active and not connected. -/
def Detached (s : State) (pcnct : Bool) : Prop :=
  s.pact = true ∧ s.request ≠ .completed ∧ (s.connected = none ∨ ∀ c, s.request ≠ .running c) ∨
    s.pact = false ∧ (∀ id, s.specials id = none) ∧ (pcnct = true → s.state = .stateNoDevice)

def AtRest (s : State) : Prop :=
  s.connected = none ∧ Detached s true ∨ Assigned s true []

def Phase (s : State) : Prop :=
  match s.put with
  | none => AtRest s
  | some ⟨_, .disconnecting⟩ => True
  | some ⟨_, .connecting⟩ => s.connected = none
  | some ⟨pcnct, .assigning rest⟩ => Assigned s pcnct rest
  | some ⟨pcnct, .requesting⟩ => Assigned s pcnct []
  | some ⟨pcnct, .bad⟩ => s.request ≠ .queued ∧ Detached s pcnct

/-- What does not depend on the put in progress. -/
structure Core (s : State) : Prop where
  calls : ∀ call ∈ s.calls, call.2 = call.1
  active : s.request ≠ .idle → s.pact = true
  queued : s.request = .queued → s.connected ≠ none
  pointers : ∀ name, Outstanding s name → ∀ type port, s.pvt type = some port → port = name
  copy : ∀ c, s.request = .running c → ∀ port, c.copy = some port → port = c.port
  specialCopy : ∀ id type c, s.specials id = some (.running type c) →
    ∀ port, c.copy = some port → port = c.port

structure Inv (s : State) : Prop extends Core s where
  phase : Phase s

theorem Inv.consistency (hinv : Inv s) : Consistent s := by
  have hphase := hinv.phase
  constructor
  · intro hput hpact hstate
    rw [Phase, hput] at hphase
    rcases hphase with ⟨-, ⟨hactive, -⟩ | ⟨-, -, hnoDevice⟩⟩ | hassigned
    · exact absurd (hpact.symm.trans hactive) nofun
    · exact absurd (hstate.symm.trans (hnoDevice rfl)) nofun
    · exact ⟨hassigned.connected, fun type => hassigned.pointers type List.not_mem_nil⟩
  · intro hput hstate
    rw [Phase, hput] at hphase
    rcases hphase with ⟨hnone, -⟩ | hassigned
    · exact hnone
    · exact absurd hstate (hassigned.state rfl)
  · exact hinv.calls

theorem inv_initial (hinitial : s.Initial) : Inv s := by
  obtain ⟨hpact, hstate, hconnected, hpvt, hrequest, hspecials, hput, hcalls⟩ := hinitial
  refine ⟨⟨?_, ?_, ?_, ?_, ?_, ?_⟩, ?_⟩
  · simp [hcalls]
  · exact fun hactive => absurd hrequest hactive
  · intro hqueued
    exact nomatch hrequest.symm.trans hqueued
  · intro name _ type port hport
    exact nomatch (hpvt type).symm.trans hport
  · intro c hrunning
    exact nomatch hrequest.symm.trans hrunning
  · intro id type c hspecial
    exact nomatch (hspecials id).symm.trans hspecial
  · rw [Phase, hput]
    exact .inl ⟨hconnected, .inr ⟨hpact, hspecials, fun _ => hstate⟩⟩

/-! ## Callbacks -/

/-- What a statement leaves in the copy was there or is a pointer. -/
theorem run_copy {pvt : Pointers} {copy : Option PortName} {stmt : Stmt} {port : PortName}
    (hcopy : (stmt.run pvt copy).1 = some port) : copy = some port ∨ ∃ type, pvt type = some port := by
  cases stmt with
  | copyGpib => exact .inr ⟨.asynGpib, hcopy⟩
  | ifValid type calls => exact .inl hcopy
  | always calls => exact .inl hcopy

theorem drvPvt_eq_some {pvt : Pointers} {copy : Option PortName} {call : Call} {port : PortName}
    (hpvt : drvPvt pvt copy call = some port) :
    copy = some port ∨ ∃ type, pvt type = some port := by
  cases call with
  | pvt type => exact .inr ⟨type, hpvt⟩
  | copy => exact .inl hpvt

structure NextSpec (pvt : Pointers) (c c' : Callback) (ports : List PortName) : Prop where
  unfinished : c.Unfinished
  port : c'.port = c.port
  copy : ∀ port, c'.copy = some port → c.copy = some port ∨ ∃ type, pvt type = some port
  ports : ∀ port ∈ ports, c.copy = some port ∨ ∃ type, pvt type = some port

theorem next_spec {pvt : Pointers} {c c' : Callback} {ports : List PortName}
    (hnext : c.next pvt = some (c', ports)) : NextSpec pvt c c' ports := by
  unfold Callback.next at hnext
  split at hnext
  case h_1 call calls hcalls =>
    obtain ⟨port, hpvt, hpair⟩ := Option.map_eq_some_iff.mp hnext
    cases hpair
    refine ⟨.inl ?_, rfl, fun _ hcopy => .inl hcopy, ?_⟩
    · rw [hcalls]
      exact List.cons_ne_nil _ _
    · intro port' hport
      cases List.mem_singleton.mp hport
      exact drvPvt_eq_some hpvt
  case h_2 =>
    split at hnext
    case h_1 => exact nomatch hnext
    case h_2 stmt rest hrest =>
      cases hnext
      refine ⟨.inr ?_, rfl, fun _ hcopy => run_copy hcopy, fun _ hport => nomatch hport⟩
      rw [hrest]
      exact List.cons_ne_nil _ _

theorem mem_execute {pvt : Pointers} {copy : Option PortName} {stmts : List Stmt} {port : PortName}
    (hmem : some port ∈ execute pvt copy stmts) :
    copy = some port ∨ ∃ type, pvt type = some port := by
  induction stmts generalizing copy with
  | nil => exact nomatch hmem
  | cons stmt rest ih =>
      have hcopy : (stmt.run pvt copy).1 = some port →
          copy = some port ∨ ∃ type, pvt type = some port := run_copy
      rcases List.mem_append.mp hmem with hhead | htail
      · obtain ⟨call, -, hcall⟩ := List.mem_map.mp hhead
        exact (drvPvt_eq_some hcall).elim hcopy .inr
      · exact (ih htail).elim hcopy .inr

/-! ## Steps of ports and timers -/

/-- What only the holder of the record's lock changes. -/
structure Frame (s s' : State) : Prop where
  ports : s'.ports = s.ports
  PORT : s'.PORT = s.PORT
  ADDR : s'.ADDR = s.ADDR
  pact : s'.pact = s.pact
  connected : s'.connected = s.connected
  pvt : s'.pvt = s.pvt
  put : s'.put = s.put

/-- Requests come nearer to their ends, and a duplicated `asynUser` may set `stateIdle`. -/
structure Progress (s s' : State) : Prop extends Frame s s' where
  state : s'.state = s.state ∨ s'.state = .stateIdle ∧ ∃ id, s.specials id ≠ none
  specials : ∀ id, s.specials id = none → s'.specials id = none
  outstanding : ∀ name, Outstanding s' name → Outstanding s name
  active : s'.request ≠ .idle → s.request ≠ .idle
  queued : s'.request = .queued → s.request = .queued
  completed : s'.request = .completed → s.request = .completed ∨
    s.connected ≠ none ∧ (s.request = .queued ∨ ∃ c, s.request = .running c)
  running : ∀ c, s'.request = .running c → s.request = .queued ∨ ∃ c, s.request = .running c

theorem Frame.findInterface (hframe : Frame s s') (type : InterfaceType) :
    s'.findInterface type = s.findInterface type := by
  unfold State.findInterface
  rw [hframe.connected, hframe.ports]

theorem Assigned.progress {pcnct : Bool} {rest : List InterfaceType} (hassigned : Assigned s pcnct rest)
    (hprogress : Progress s s') : Assigned s' pcnct rest where
  connected := by
    rw [hprogress.ports, hprogress.PORT, hprogress.ADDR, hprogress.connected]
    exact hassigned.connected
  pointers := by
    intro type htype
    rw [hprogress.pvt, hprogress.toFrame.findInterface]
    exact hassigned.pointers type htype
  outstanding := by
    intro name houtstanding
    rw [hprogress.PORT]
    exact hassigned.outstanding name (hprogress.outstanding name houtstanding)
  state := by
    intro hpcnct
    rcases hprogress.state with hsame | ⟨hidle, -⟩
    · rw [hsame]
      exact hassigned.state hpcnct
    · rw [hidle]
      exact nofun

theorem Detached.progress {pcnct : Bool} (hdetached : Detached s pcnct) (hprogress : Progress s s')
    (hqueued : s.connected = none ∨ s.request ≠ .queued) : Detached s' pcnct := by
  rcases hdetached with ⟨hpact, hcompleted, hrunning⟩ | ⟨hpact, hspecials, hstate⟩
  · refine .inl ⟨hprogress.pact.trans hpact, ?_, ?_⟩
    -- the request was not to complete before, and could only get there by way of the queue or a callback
    · intro hcompleted'
      rcases hprogress.completed hcompleted' with hbefore | ⟨hconnected, hqueued' | ⟨c, hc⟩⟩
      · exact hcompleted hbefore
      · exact hqueued.elim hconnected fun h => h hqueued'
      · exact hrunning.elim hconnected fun h => h c hc
    · rw [hprogress.connected]
      rcases hqueued with hnone | hqueued
      · exact .inl hnone
      · refine hrunning.imp_right fun hrunning c hc => ?_
        exact (hprogress.running c hc).elim hqueued fun ⟨c', hc'⟩ => hrunning c' hc'
  · refine .inr ⟨hprogress.pact.trans hpact, fun id => hprogress.specials id (hspecials id), ?_⟩
    intro hpcnct
    -- only a duplicated `asynUser` sets `stateIdle`, and there is none
    rcases hprogress.state with hsame | ⟨-, id, hid⟩
    · exact hsame.trans (hstate hpcnct)
    · exact absurd (hspecials id) hid

theorem Phase.progress (hphase : Phase s) (hprogress : Progress s s') : Phase s' := by
  unfold Phase at hphase ⊢
  rw [hprogress.put]
  split at hphase
  case h_1 =>
    rcases hphase with ⟨hnone, hdetached⟩ | hassigned
    · exact .inl ⟨hprogress.connected.trans hnone, hdetached.progress hprogress (.inl hnone)⟩
    · exact .inr (hassigned.progress hprogress)
  case h_2 => trivial
  case h_3 => exact hprogress.connected.trans hphase
  case h_4 => exact hphase.progress hprogress
  case h_5 => exact hphase.progress hprogress
  case h_6 =>
    exact ⟨fun hqueued => hphase.1 (hprogress.queued hqueued),
      hphase.2.progress hprogress (.inr hphase.1)⟩

theorem Inv.progress (hinv : Inv s) (hprogress : Progress s s')
    (hcalls : ∀ call ∈ s'.calls, call.2 = call.1)
    (hcopy : ∀ c, s'.request = .running c → ∀ port, c.copy = some port → port = c.port)
    (hspecialCopy : ∀ id type c, s'.specials id = some (.running type c) →
      ∀ port, c.copy = some port → port = c.port) : Inv s' where
  calls := hcalls
  active := by
    intro hactive
    rw [hprogress.pact]
    exact hinv.active (hprogress.active hactive)
  queued := by
    intro hqueued
    rw [hprogress.connected]
    exact hinv.queued (hprogress.queued hqueued)
  pointers := by
    intro name houtstanding
    rw [hprogress.pvt]
    exact hinv.pointers name (hprogress.outstanding name houtstanding)
  copy := hcopy
  specialCopy := hspecialCopy
  phase := hinv.phase.progress hprogress

/-- The request of the record's `asynUser` is taken from the queue, runs on or ends. -/
theorem progress_request {request : Request} {calls : List (PortName × PortName)}
    (hbefore : s.request = .queued ∨ ∃ c, s.request = .running c)
    (hrunning : ∀ c, request = .running c → c.Unfinished → Outstanding s c.port)
    (hqueued : request ≠ .queued) (hcompleted : request = .completed → s.connected ≠ none) :
    Progress s { s with request := request, calls := calls } where
  toFrame := ⟨rfl, rfl, rfl, rfl, rfl, rfl, rfl⟩
  state := .inl rfl
  specials := fun _ hnone => hnone
  outstanding := by
    intro name houtstanding
    cases houtstanding with
    | queued hrequest _ => exact absurd hrequest hqueued
    | running hrequest hunfinished => exact hrunning _ hrequest hunfinished
    | specialQueued hspecial => exact .specialQueued hspecial
    | specialRunning hspecial hunfinished => exact .specialRunning hspecial hunfinished
  active := by
    rintro - hidle
    rcases hbefore with hrequest | ⟨c, hrequest⟩
    · exact nomatch hidle.symm.trans hrequest
    · exact nomatch hidle.symm.trans hrequest
  queued := fun hrequest => absurd hrequest hqueued
  completed := fun hrequest => .inr ⟨hcompleted hrequest, hbefore⟩
  running := fun _ _ => hbefore

/-- A duplicated user after a step of one of them is that one or was there before. -/
theorem specials_update {id id' : SpecialId} {special : Option Special} {x : Special}
    (hspecial : Function.update s.specials id special id' = some x) :
    special = some x ∨ s.specials id' = some x := by
  by_cases hid : id' = id
  · rw [hid, Function.update_self] at hspecial
    exact .inl hspecial
  · rw [Function.update_of_ne hid] at hspecial
    exact .inr hspecial

/-- The request of a duplicated `asynUser` is taken from the queue, runs on or ends. -/
theorem progress_special {id : SpecialId} {special : Option Special} {state : CallbackState}
    {calls : List (PortName × PortName)} (hbefore : s.specials id ≠ none)
    (hqueued : ∀ name type, special ≠ some (.queued name type))
    (hrunning : ∀ type c, special = some (.running type c) → c.Unfinished → Outstanding s c.port)
    (hstate : state = s.state ∨ state = .stateIdle) :
    Progress s { s with
      specials := Function.update s.specials id special, state := state, calls := calls } where
  toFrame := ⟨rfl, rfl, rfl, rfl, rfl, rfl, rfl⟩
  state := hstate.imp_right fun hidle => ⟨hidle, id, hbefore⟩
  specials := by
    intro id' hnone
    have hne : id' ≠ id := by
      rintro rfl
      exact hbefore hnone
    exact (Function.update_of_ne hne _ _).trans hnone
  outstanding := by
    intro name houtstanding
    cases houtstanding with
    | queued hrequest hconnected => exact .queued hrequest hconnected
    | running hrequest hunfinished => exact .running hrequest hunfinished
    | specialQueued hspecial =>
        rcases specials_update hspecial with hnew | hold
        · exact absurd hnew (hqueued _ _)
        · exact .specialQueued hold
    | specialRunning hspecial hunfinished =>
        rcases specials_update hspecial with hnew | hold
        · exact hrunning _ _ hnew hunfinished
        · exact .specialRunning hold hunfinished
  active := fun hrequest => hrequest
  queued := fun hrequest => hrequest
  completed := fun hrequest => .inl hrequest
  running := fun c hrequest => .inr ⟨c, hrequest⟩

/-- The copies of the duplicated users after a step of one of them. -/
theorem Core.specialCopy_update (hcore : Core s) {id : SpecialId} {special : Option Special}
    (hcopy : ∀ type c, special = some (.running type c) → ∀ port, c.copy = some port → port = c.port) :
    ∀ id' type c, Function.update s.specials id special id' = some (.running type c) →
      ∀ port, c.copy = some port → port = c.port := by
  intro id' type c hspecial
  rcases specials_update hspecial with hnew | hold
  · exact hcopy type c hnew
  · exact hcore.specialCopy id' type c hold

/-- What a step of a callback uses is of its port. -/
theorem Core.next (hcore : Core s) {c c' : Callback} {ports : List PortName}
    (hnext : NextSpec s.pvt c c' ports) (houtstanding : Outstanding s c.port)
    (hcopy : ∀ port, c.copy = some port → port = c.port) :
    (∀ call ∈ s.calls ++ ports.map fun port => (c.port, port), call.2 = call.1) ∧
      ∀ port, c'.copy = some port → port = c'.port := by
  have hown : ∀ port, (c.copy = some port ∨ ∃ type, s.pvt type = some port) → port = c.port := by
    rintro port (hport | ⟨type, hport⟩)
    · exact hcopy port hport
    · exact hcore.pointers _ houtstanding type port hport
  constructor
  · intro call hcall
    rcases List.mem_append.mp hcall with hold | hnew
    · exact hcore.calls call hold
    · obtain ⟨port, hport, rfl⟩ := List.mem_map.mp hnew
      exact hown port (hnext.ports port hport)
  · intro port hport
    rw [hnext.port]
    exact hown port (hnext.copy port hport)

/-! ## Steps of the holder of the lock -/

theorem Outstanding.congr {name : PortName} (houtstanding : Outstanding s' name)
    (hconnected : s.request = .queued → s'.connected = s.connected) (hrequest : s'.request = s.request)
    (hspecials : s'.specials = s.specials) : Outstanding s name := by
  cases houtstanding with
  | queued hqueued hdevice =>
      rw [hrequest] at hqueued
      exact .queued hqueued ((hconnected hqueued).symm.trans hdevice)
  | running hrunning hunfinished => exact .running (hrequest ▸ hrunning) hunfinished
  | specialQueued hspecial => exact .specialQueued (hspecials ▸ hspecial)
  | specialRunning hspecial hunfinished => exact .specialRunning (hspecials ▸ hspecial) hunfinished

/-- Where the calls have their own port, the rest of the state is read in five fields. -/
theorem Core.of_calls (hcore : Core s) (hcalls : ∀ call ∈ s'.calls, call.2 = call.1)
    (hpact : s'.pact = s.pact) (hconnected : s'.connected = s.connected) (hpvt : s'.pvt = s.pvt)
    (hrequest : s'.request = s.request) (hspecials : s'.specials = s.specials) : Core s' where
  calls := hcalls
  active := by
    rw [hrequest, hpact]
    exact hcore.active
  queued := by
    rw [hrequest, hconnected]
    exact hcore.queued
  pointers := by
    intro name houtstanding
    rw [hpvt]
    exact hcore.pointers name (houtstanding.congr (fun _ => hconnected) hrequest hspecials)
  copy := hrequest ▸ hcore.copy
  specialCopy := hspecials ▸ hcore.specialCopy

theorem Core.congr (hcore : Core s) (hcalls : s'.calls = s.calls) (hpact : s'.pact = s.pact)
    (hconnected : s'.connected = s.connected) (hpvt : s'.pvt = s.pvt)
    (hrequest : s'.request = s.request) (hspecials : s'.specials = s.specials) : Core s' :=
  hcore.of_calls (hcalls ▸ hcore.calls) hpact hconnected hpvt hrequest hspecials

theorem isQueued_iff : s.isQueued = true ↔ s.request = .queued := by
  unfold State.isQueued
  split
  case h_1 hrequest => simp [hrequest]
  case h_2 hrequest =>
    constructor
    · exact nofun
    · intro hqueued
      exact absurd hqueued hrequest

theorem disconnect_of_queued (hqueued : s.request = .queued) : s.disconnect = s :=
  if_pos (isQueued_iff.mpr hqueued)

theorem disconnect_of_not_queued (hqueued : s.request ≠ .queued) :
    s.disconnect = { s with connected := none } :=
  if_neg fun h => hqueued (isQueued_iff.mp h)

theorem Core.disconnect (hcore : Core s) : Core s.disconnect := by
  by_cases hqueued : s.request = .queued
  · rw [disconnect_of_queued hqueued]
    exact hcore
  · rw [disconnect_of_not_queued hqueued]
    exact ⟨hcore.calls, hcore.active, fun h => absurd h hqueued,
      fun name h => hcore.pointers name (h.congr (fun h => absurd h hqueued) rfl rfl), hcore.copy,
      hcore.specialCopy⟩

theorem Assigned.pointer {pcnct : Bool} (hassigned : Assigned s pcnct []) {name : PortName}
    {device : Option Int} (hconnected : s.connected = some (name, device)) {type : InterfaceType}
    {port : PortName} (hpvt : s.pvt type = some port) : port = name := by
  rw [hassigned.pointers type List.not_mem_nil, State.findInterface, hconnected] at hpvt
  simp only at hpvt
  split at hpvt
  case h_1 => exact nomatch hpvt
  case h_2 =>
    split at hpvt
    case isTrue => exact (Option.some.inj hpvt).symm
    case isFalse => exact nomatch hpvt

theorem Core.synchronous (hcore : Core s) {pcnct : Bool} (hassigned : Assigned s pcnct [])
    {name : PortName} {device : Option Int} (hconnected : s.connected = some (name, device))
    {stmts : List Stmt} (hsync : s.synchronous name stmts = some s') :
    ∃ calls, s' = { s with calls := calls } ∧ ∀ call ∈ calls, call.2 = call.1 := by
  unfold State.synchronous at hsync
  split at hsync
  case isTrue => exact nomatch hsync
  case isFalse =>
    cases hsync
    refine ⟨_, rfl, ?_⟩
    intro call hcall
    rcases List.mem_append.mp hcall with hold | hnew
    · exact hcore.calls call hold
    · obtain ⟨used, hused, hmap⟩ := List.mem_filterMap.mp hnew
      obtain ⟨port, rfl, rfl⟩ := Option.map_eq_some_iff.mp hmap
      rcases mem_execute hused with hnone | ⟨type, hpvt⟩
      · exact nomatch hnone
      · exact hassigned.pointer hconnected hpvt

theorem outstanding_queued {id : SpecialId} {name name' : PortName} {type : CallbackType}
    (houtstanding : Outstanding { s with
      specials := Function.update s.specials id (some (.queued name type)) } name') :
    name' = name ∨ Outstanding s name' := by
  cases houtstanding with
  | queued hrequest hconnected => exact .inr (.queued hrequest hconnected)
  | running hrequest hunfinished => exact .inr (.running hrequest hunfinished)
  | specialQueued hspecial =>
      rcases specials_update hspecial with hnew | hold
      · cases hnew
        exact .inl rfl
      · exact .inr (.specialQueued hold)
  | specialRunning hspecial hunfinished =>
      rcases specials_update hspecial with hnew | hold
      · exact nomatch hnew
      · exact .inr (.specialRunning hold hunfinished)

/-- A put changes neither the request nor the port of the record by its calls alone. -/
theorem Assigned.congr {pcnct : Bool} {rest : List InterfaceType} (hassigned : Assigned s pcnct rest)
    (hframe : Frame s s') (houtstanding : ∀ name, Outstanding s' name → name = s.PORT)
    (hstate : pcnct = true → s'.state ≠ .stateNoDevice) : Assigned s' pcnct rest where
  connected := by
    rw [hframe.ports, hframe.PORT, hframe.ADDR, hframe.connected]
    exact hassigned.connected
  pointers := by
    intro type htype
    rw [hframe.pvt, hframe.findInterface]
    exact hassigned.pointers type htype
  outstanding := by
    rw [hframe.PORT]
    exact houtstanding
  state := hstate

/-- A duplicated user is queued on the port of the record, or called at once. -/
theorem Core.queueSpecial (hcore : Core s) {pcnct : Bool} (hassigned : Assigned s pcnct [])
    {id : SpecialId} {type : CallbackType} {accepted : Bool}
    (hqueue : s.queueSpecial id type accepted = some s') :
    Core s' ∧ Assigned s' pcnct [] ∧ s'.put = s.put := by
  unfold State.queueSpecial at hqueue
  split at hqueue
  case h_1 =>
    cases hqueue
    exact ⟨hcore, hassigned, rfl⟩
  case h_2 name device hconnected =>
    have hname : name = s.PORT := by
      obtain ⟨port, -, hport⟩ := hassigned.connected
      cases hconnected.symm.trans hport
      rfl
    split at hqueue
    case h_1 => exact nomatch hqueue
    case h_2 port hport =>
      split at hqueue
      case isTrue =>
        cases hqueue
        exact ⟨hcore, hassigned, rfl⟩
      case isFalse =>
        split at hqueue
        case isTrue =>
          split at hqueue
          case h_2 => exact nomatch hqueue
          case h_1 =>
            cases hqueue
            refine ⟨⟨hcore.calls, hcore.active, hcore.queued, ?_, hcore.copy,
              hcore.specialCopy_update nofun⟩, ?_, rfl⟩
            · intro name' houtstanding type' port' hpvt
              rcases outstanding_queued houtstanding with rfl | hold
              · exact hassigned.pointer hconnected hpvt
              · exact hcore.pointers name' hold type' port' hpvt
            · refine hassigned.congr ⟨rfl, rfl, rfl, rfl, rfl, rfl, rfl⟩ ?_ hassigned.state
              intro name' houtstanding
              rcases outstanding_queued houtstanding with hnew | hold
              · exact hnew.trans hname
              · exact hassigned.outstanding name' hold
        case isFalse =>
          obtain ⟨t, hsync, rfl⟩ := Option.map_eq_some_iff.mp hqueue
          obtain ⟨calls, rfl, hcalls⟩ := hcore.synchronous hassigned hconnected hsync
          -- The callback may set `stateIdle`, and nothing else.
          have hstate : ∀ state, (state = s.state ∨ state = .stateIdle) →
              let t := { s with calls := calls, state := state }
              Core t ∧ Assigned t pcnct [] ∧ t.put = s.put := by
            intro state hstate
            have hsame : ∀ name, Outstanding { s with calls := calls, state := state } name →
                Outstanding s name := fun name houtstanding => houtstanding.congr (fun _ => rfl) rfl rfl
            refine ⟨hcore.of_calls hcalls rfl rfl rfl rfl rfl, ?_, rfl⟩
            refine hassigned.congr ⟨rfl, rfl, rfl, rfl, rfl, rfl, rfl⟩
              (fun name h => hassigned.outstanding name (hsame name h)) ?_
            intro hpcnct
            rcases hstate with rfl | rfl
            · exact hassigned.state hpcnct
            · exact nofun
          split
          · exact hstate .stateIdle (.inr rfl)
          · exact hstate s.state (.inl rfl)

/-! ## `connectDevice` -/

theorem Core.finish (hcore : Core s) {pcnct succeeds : Bool} : Core (s.finish pcnct succeeds) :=
  hcore.congr rfl rfl rfl rfl rfl rfl

/-- Behind the last request `special` sets `stateIdle`, but not for `PCNCT`. -/
theorem Assigned.finish {pcnct : Bool} (hassigned : Assigned s pcnct []) :
    Assigned (s.finish pcnct true) true [] where
  connected := hassigned.connected
  pointers := hassigned.pointers
  outstanding := fun name h => hassigned.outstanding name (h.congr (fun _ => rfl) rfl rfl)
  state := by
    rintro -
    cases pcnct with
    | true => exact hassigned.state rfl
    | false => exact nofun

theorem atRest_finish {pcnct : Bool} (hnone : s.connected = none) (hdetached : Detached s pcnct) :
    AtRest (s.finish pcnct false) := by
  refine .inl ⟨hnone, ?_⟩
  rcases hdetached with hactive | ⟨hpact, hspecials, hstate⟩
  · exact .inl hactive
  · refine .inr ⟨hpact, hspecials, ?_⟩
    rintro -
    cases pcnct with
    | true => exact hstate rfl
    | false => rfl

theorem Detached.disconnect {pcnct : Bool} (hdetached : Detached s pcnct)
    (hqueued : s.request ≠ .queued) :
    s.disconnect.connected = none ∧ Detached s.disconnect pcnct := by
  rw [disconnect_of_not_queued hqueued]
  exact ⟨rfl, hdetached.imp_left fun ⟨hpact, hcompleted, _⟩ => ⟨hpact, hcompleted, .inl rfl⟩⟩

/-- One assignment takes its interface from those that are left. -/
theorem Assigned.assign {pcnct : Bool} {type : InterfaceType} {rest : List InterfaceType}
    (hassigned : Assigned s pcnct (type :: rest)) {put : Option Put} :
    Assigned { s with pvt := Function.update s.pvt type (s.findInterface type), put := put } pcnct rest where
  connected := hassigned.connected
  pointers := by
    intro type' htype'
    by_cases htype : type' = type
    · subst htype
      exact Function.update_self _ _ _
    · refine (Function.update_of_ne htype _ _).trans (hassigned.pointers type' ?_)
      rw [List.mem_cons]
      exact not_or_intro htype htype'
  outstanding := fun name h => hassigned.outstanding name (h.congr (fun _ => rfl) rfl rfl)
  state := hassigned.state

theorem findInterface_eq_some {type : InterfaceType} {port : PortName}
    (hfind : s.findInterface type = some port) : ∃ device, s.connected = some (port, device) := by
  unfold State.findInterface at hfind
  split at hfind
  case h_1 => exact nomatch hfind
  case h_2 name device hconnected =>
    split at hfind
    case h_1 => exact nomatch hfind
    case h_2 =>
      split at hfind
      case isTrue =>
        cases hfind
        exact ⟨device, hconnected⟩
      case isFalse => exact nomatch hfind

/-- A pointer that changes is one of a port with all the requests. -/
theorem Core.assign (hcore : Core s) {type : InterfaceType} {pointer : Option PortName}
    {put : Option Put} {connected : Option (PortName × Option Int)}
    (hqueued : s.request = .queued → connected = s.connected)
    (hpointer : ∀ port, pointer = some port → ∀ name, Outstanding s name → port = name) :
    Core { s with pvt := Function.update s.pvt type pointer, put := put, connected := connected } := by
  have hsame : ∀ name, Outstanding { s with
      pvt := Function.update s.pvt type pointer, put := put, connected := connected } name →
      Outstanding s name := fun name houtstanding => houtstanding.congr hqueued rfl rfl
  refine ⟨hcore.calls, hcore.active, ?_, ?_, hcore.copy, hcore.specialCopy⟩
  · intro hrequest
    have hconnected : s.connected ≠ none := hcore.queued hrequest
    rwa [← hqueued hrequest] at hconnected
  · intro name houtstanding type' port hpvt
    by_cases htype : type' = type
    · rw [htype] at hpvt
      simp only [Function.update_self] at hpvt
      exact hpointer port hpvt name (hsame name houtstanding)
    · simp only [Function.update_of_ne htype] at hpvt
      exact hcore.pointers name (hsame name houtstanding) type' port hpvt

/-- The port is looked up, and the record connects to it or not. -/
theorem Inv.connecting (hinv : Inv s) (hnone : s.connected = none) {pcnct : Bool} {id : SpecialId}
    {accepted : Bool} (hok : AdmissibleConnect s ⟨pcnct, .connecting⟩)
    (hstep : s.connectDevice ⟨pcnct, .connecting⟩ id accepted = some s') : Inv s' := by
  have hqueued : s.request ≠ .queued := fun hrequest => hinv.queued hrequest hnone
  unfold State.connectDevice at hstep
  simp only at hstep
  split at hstep
  case h_1 port hport _ =>
    split at hstep
    case isTrue hcommon =>
      cases hstep
      obtain ⟨-, honPort, hstate⟩ | ⟨hnot, -⟩ := hok
      · have hpointer : ∀ port, some s.PORT = some port → ∀ name, Outstanding s name → port = name := by
          intro port hsome name houtstanding
          exact (Option.some.inj hsome).symm.trans (honPort name houtstanding).symm
        have hcore : Core { s with
            connected := some (s.PORT, port.locateDevice s.ADDR)
            pvt := Function.update s.pvt .asynCommon (some s.PORT)
            put := some ⟨pcnct, .assigning [.asynOption, .asynOctet, .asynInt32, .asynUInt32Digital,
              .asynFloat64, .asynGpib, .asynDrvUser]⟩ } :=
          hinv.toCore.assign (fun h => absurd h hqueued) hpointer
        refine ⟨hcore, ⟨port, hport, rfl⟩, ?_, ?_, hstate⟩
        · intro type htype
          cases type with
          | asynCommon =>
              show Function.update s.pvt .asynCommon (some s.PORT) .asynCommon = _
              simp [State.findInterface, hport, hcommon]
          | _ => exact absurd (by simp) htype
        · intro name houtstanding
          exact honPort name (houtstanding.congr (fun h => absurd h hqueued) rfl rfl)
      · exact absurd ⟨port, hport, hcommon⟩ hnot
    case isFalse hcommon =>
      cases hstep
      obtain ⟨⟨port', hport', hcommon'⟩, -⟩ | ⟨-, hdetached⟩ := hok
      · cases hport.symm.trans hport'
        exact absurd hcommon' hcommon
      · refine ⟨hinv.toCore.assign (fun h => absurd h hqueued) nofun, hqueued, ?_⟩
        rcases hdetached with ⟨hpact, hcompleted, hnoPort | hrunning⟩ | hidle
        · exact nomatch hport.symm.trans hnoPort
        · exact .inl ⟨hpact, hcompleted, .inr hrunning⟩
        · exact .inr hidle
  case h_2 hnoPort =>
    cases hstep
    obtain ⟨⟨port, hport, -⟩, -⟩ | ⟨-, hdetached⟩ := hok
    · exact absurd hnone (hnoPort port hport)
    · refine ⟨hinv.toCore.congr rfl rfl rfl rfl rfl rfl, hqueued, ?_⟩
      exact hdetached.imp_left fun ⟨hpact, hcompleted, _⟩ => ⟨hpact, hcompleted, .inl hnone⟩

theorem Inv.connectDevice (hinv : Inv s) {put : Put} (hput : s.put = some put) {id : SpecialId}
    {accepted : Bool} (hok : Admissible s (.connect id accepted))
    (hstep : s.connectDevice put id accepted = some s') : Inv s' := by
  have hok := hok put hput
  have hphase := hinv.phase
  obtain ⟨pcnct, stage⟩ := put
  rw [Phase, hput] at hphase
  cases stage with
  | disconnecting =>
      cases hstep
      rw [disconnect_of_not_queued hok]
      have hcore := hinv.toCore.disconnect
      rw [disconnect_of_not_queued hok] at hcore
      exact ⟨hcore.congr rfl rfl rfl rfl rfl rfl, rfl⟩
  | connecting => exact hinv.connecting hphase hok hstep
  | assigning rest =>
      cases rest with
      | cons type rest =>
          cases hstep
          refine ⟨hinv.toCore.assign (fun _ => rfl) ?_, hphase.assign⟩
          intro port hport name houtstanding
          obtain ⟨device, hconnected⟩ := findInterface_eq_some hport
          obtain ⟨-, hname⟩ := hphase.connected.choose_spec
          cases hconnected.symm.trans hname
          exact (hphase.outstanding name houtstanding).symm
      | nil =>
          have hnext : ∀ t, Core t → Assigned t pcnct [] →
              Inv { t with put := some ⟨pcnct, .requesting⟩ } := by
            intro t hcore hassigned
            refine ⟨hcore.congr rfl rfl rfl rfl rfl rfl, ?_⟩
            exact ⟨hassigned.connected, hassigned.pointers,
              fun name h => hassigned.outstanding name (h.congr (fun _ => rfl) rfl rfl), hassigned.state⟩
          unfold State.connectDevice at hstep
          simp only at hstep
          split at hstep
          case isTrue =>
            obtain ⟨t, hqueue, rfl⟩ := Option.map_eq_some_iff.mp hstep
            obtain ⟨hcore, hassigned, -⟩ := hinv.toCore.queueSpecial hphase hqueue
            exact hnext t hcore hassigned
          case isFalse =>
            cases hstep
            exact hnext s hinv.toCore hphase
  | requesting =>
      unfold State.connectDevice at hstep
      simp only at hstep
      split at hstep
      case isTrue =>
        obtain ⟨t, hqueue, rfl⟩ := Option.map_eq_some_iff.mp hstep
        obtain ⟨hcore, hassigned, -⟩ := hinv.toCore.queueSpecial hphase hqueue
        exact ⟨hcore.finish, .inr hassigned.finish⟩
      case isFalse =>
        cases hstep
        exact ⟨hinv.toCore.finish, .inr hphase.finish⟩
  | bad =>
      cases hstep
      obtain ⟨hnone, hdetached⟩ := hphase.2.disconnect hphase.1
      exact ⟨hinv.toCore.disconnect.finish, atRest_finish hnone hdetached⟩

/-! ## The other steps with the record locked -/

theorem Inv.atRest (hinv : Inv s) (hput : s.put.isNone = true) : AtRest s := by
  have hphase := hinv.phase
  rw [Phase, Option.isNone_iff_eq_none.mp hput] at hphase
  exact hphase

theorem Inv.of_atRest (hcore : Core s) (hput : s.put.isNone = true) (hrest : AtRest s) : Inv s := by
  refine ⟨hcore, ?_⟩
  rw [Phase, Option.isNone_iff_eq_none.mp hput]
  exact hrest

theorem Inv.registerPort (hinv : Inv s) {name : PortName} (hnone : s.ports name = none) (port : Port) :
    Inv { s with ports := Function.update s.ports name (some port) } := by
  let t : State := { s with ports := Function.update s.ports name (some port) }
  have hold : ∀ name' port', s.ports name' = some port' → t.ports name' = some port' := by
    intro name' port' hport'
    have hne : name' ≠ name := by
      rintro rfl
      exact nomatch hnone.symm.trans hport'
    exact (Function.update_of_ne hne _ _).trans hport'
  have hassigned : ∀ {pcnct rest}, Assigned s pcnct rest → Assigned t pcnct rest := by
    intro pcnct rest h
    obtain ⟨port', hport', hconnected⟩ := h.connected
    refine ⟨⟨port', hold _ _ hport', hconnected⟩, ?_, ?_, h.state⟩
    · intro type htype
      refine (h.pointers type htype).trans ?_
      have hconnected' : t.connected = some (s.PORT, port'.locateDevice s.ADDR) := hconnected
      simp only [State.findInterface, hconnected, hconnected', hport', hold _ _ hport']
    · intro name' houtstanding
      exact h.outstanding name' (houtstanding.congr (fun _ => rfl) rfl rfl)
  refine ⟨hinv.toCore.congr rfl rfl rfl rfl rfl rfl, ?_⟩
  have hphase := hinv.phase
  unfold Phase at hphase ⊢
  show match s.put with
    | none => AtRest t
    | some ⟨_, .disconnecting⟩ => True
    | some ⟨_, .connecting⟩ => s.connected = none
    | some ⟨pcnct, .assigning rest⟩ => Assigned t pcnct rest
    | some ⟨pcnct, .requesting⟩ => Assigned t pcnct []
    | some ⟨pcnct, .bad⟩ => t.request ≠ .queued ∧ Detached t pcnct
  split at hphase
  case h_1 => exact hphase.imp_right hassigned
  case h_2 => trivial
  case h_3 => exact hphase
  case h_4 => exact hassigned hphase
  case h_5 => exact hassigned hphase
  case h_6 => exact hphase

/-- `PCNCT` is set to 0. -/
theorem Inv.disconnect (hinv : Inv s) (hput : s.put.isNone = true)
    (hok : s.connected = none ∨ s.request = .queued ∨ s.pact = true ∧ s.request ≠ .completed) :
    Inv s.disconnect := by
  by_cases hqueued : s.request = .queued
  · rw [disconnect_of_queued hqueued]
    exact hinv
  · have hcore := hinv.toCore.disconnect
    rw [disconnect_of_not_queued hqueued] at hcore ⊢
    refine Inv.of_atRest hcore hput (.inl ⟨rfl, ?_⟩)
    rcases hok with hnone | hrequest | ⟨hpact, hcompleted⟩
    · rcases hinv.atRest hput with ⟨-, hdetached⟩ | hassigned
      · exact hdetached.imp_left fun ⟨hpact, hcompleted, _⟩ => ⟨hpact, hcompleted, .inl rfl⟩
      · obtain ⟨port, -, hconnected⟩ := hassigned.connected
        exact nomatch hnone.symm.trans hconnected
    · exact absurd hrequest hqueued
    · exact .inl ⟨hpact, hcompleted, .inl rfl⟩

/-- What is connected stays so where only the state variable becomes `stateIdle` and the request
changes. -/
theorem AtRest.idle (hrest : AtRest s) (hok : s.connected ≠ none ∨ s.pact = true) :
    AtRest { s with state := .stateIdle } := by
  rcases hrest with ⟨hnone, ⟨hpact, hcompleted, hrunning⟩ | ⟨hpact, -⟩⟩ | hassigned
  · exact .inl ⟨hnone, .inl ⟨hpact, hcompleted, hrunning⟩⟩
  · exact hok.elim (absurd hnone) fun hactive => absurd (hpact.symm.trans hactive) nofun
  · exact .inr ⟨hassigned.connected, hassigned.pointers,
      fun name h => hassigned.outstanding name (h.congr (fun _ => rfl) rfl rfl), nofun⟩

theorem Inv.cancelRequest (hinv : Inv s) (hput : s.put.isNone = true)
    (hok : s.connected ≠ none ∨ s.pact = true) (hstep : s.cancelRequest = some s') : Inv s' := by
  have hidle : Inv { s with state := .stateIdle } :=
    Inv.of_atRest (hinv.toCore.congr rfl rfl rfl rfl rfl rfl) hput ((hinv.atRest hput).idle hok)
  unfold State.cancelRequest at hstep
  split at hstep
  case h_1 => exact nomatch hstep
  case h_2 hconnected hrequest =>
    cases hstep
    have hprogress : Progress { s with state := .stateIdle }
        { s with request := .completed, state := .stateIdle } :=
      progress_request (.inl hrequest) nofun nofun fun _ => (by
        show s.connected ≠ none
        rw [hconnected]
        exact nofun)
    exact hidle.progress hprogress hinv.calls nofun hinv.specialCopy
  case h_3 =>
    cases hstep
    exact hidle

theorem Inv.putSpecial (hinv : Inv s) (hput : s.put.isNone = true) {id : SpecialId}
    {type : CallbackType} {accepted : Bool} (hstep : s.queueSpecial id type accepted = some s') :
    Inv s' := by
  rcases hinv.atRest hput with ⟨hnone, -⟩ | hassigned
  · unfold State.queueSpecial at hstep
    rw [hnone] at hstep
    cases hstep
    exact hinv
  · obtain ⟨hcore, hassigned, hput'⟩ := hinv.toCore.queueSpecial hassigned hstep
    exact Inv.of_atRest hcore (hput' ▸ hput) (.inr hassigned)

/-- The record queues its request and becomes active. -/
theorem Inv.queueRequest (hinv : Inv s) (hput : s.put.isNone = true) (hassigned : Assigned s true []) :
    Inv { s with request := .queued, state := .stateIo, pact := true } := by
  obtain ⟨port, hport, hconnected⟩ := hassigned.connected
  have hrequests : ∀ name, Outstanding { s with request := .queued, state := .stateIo, pact := true } name →
      name = s.PORT := by
    intro name houtstanding
    cases houtstanding with
    | queued _ hdevice =>
        cases hconnected.symm.trans hdevice
        rfl
    | running hrequest _ => exact nomatch hrequest
    | specialQueued hspecial => exact hassigned.outstanding _ (.specialQueued hspecial)
    | specialRunning hspecial hunfinished =>
        exact hassigned.outstanding _ (.specialRunning hspecial hunfinished)
  refine Inv.of_atRest ⟨hinv.calls, fun _ => rfl, ?_, ?_, nofun, hinv.specialCopy⟩ hput (.inr ?_)
  · rintro -
    show s.connected ≠ none
    rw [hconnected]
    exact nofun
  · intro name houtstanding type port' hpvt
    rw [hrequests name houtstanding]
    exact hassigned.pointer hconnected hpvt
  · exact ⟨⟨port, hport, hconnected⟩, hassigned.pointers, hrequests, nofun⟩

theorem Inv.process (hinv : Inv s) (hput : s.put.isNone = true) (hpact : s.pact = false)
    {gotValue : Bool} {work : Work} {accepted : Bool}
    (hstep : s.process gotValue work accepted = some s') : Inv s' := by
  unfold State.process at hstep
  rw [if_neg (by rw [hpact]; exact Bool.false_ne_true)] at hstep
  split at hstep
  case h_2 =>
    cases hstep
    exact hinv
  case h_1 name device _ hconnected =>
    have hassigned : Assigned s true [] := by
      rcases hinv.atRest hput with ⟨hnone, -⟩ | hassigned
      · exact nomatch hnone.symm.trans hconnected
      · exact hassigned
    split at hstep
    case h_1 => exact nomatch hstep
    case h_2 port _ =>
      split at hstep
      case isTrue =>
        cases hstep
        exact hinv
      case isFalse =>
        split at hstep
        case isTrue =>
          split at hstep
          case h_1 =>
            cases hstep
            exact hinv.queueRequest hput hassigned
          case h_2 =>
            cases hstep
            exact hinv
        case isFalse =>
          -- a port that cannot block: the callback is over when `queueRequest` returns
          obtain ⟨calls, rfl, hcalls⟩ := hinv.toCore.synchronous hassigned hconnected hstep
          have hsame : ∀ name, Outstanding { s with calls := calls } name → Outstanding s name :=
            fun name h => h.congr (fun _ => rfl) rfl rfl
          refine Inv.of_atRest (hinv.toCore.of_calls hcalls rfl rfl rfl rfl rfl) hput (.inr ?_)
          exact ⟨hassigned.connected, hassigned.pointers,
            fun name h => hassigned.outstanding name (hsame name h), hassigned.state⟩

/-- The process callback finds the record active and connected. -/
theorem Inv.complete (hinv : Inv s) (hput : s.put.isNone = true) (hrequest : s.request = .completed)
    (hstep : { s with request := .idle }.process false .noIo false = some s') : Inv s' := by
  have hpact : s.pact = true := hinv.active (by rw [hrequest]; exact nofun)
  -- a record that is not connected awaits no process callback
  have hassigned : Assigned s true [] := by
    rcases hinv.atRest hput with ⟨-, ⟨-, hcompleted, -⟩ | ⟨hinactive, -⟩⟩ | hassigned
    · exact absurd hrequest hcompleted
    · exact absurd (hpact.symm.trans hinactive) nofun
    · exact hassigned
  unfold State.process at hstep
  rw [if_pos hpact] at hstep
  cases hstep
  have hsame : ∀ name, Outstanding { s with request := .idle, state := .stateIdle, pact := false } name →
      Outstanding s name := by
    intro name houtstanding
    cases houtstanding with
    | queued hrequest _ => exact nomatch hrequest
    | running hrequest _ => exact nomatch hrequest
    | specialQueued hspecial => exact .specialQueued hspecial
    | specialRunning hspecial hunfinished => exact .specialRunning hspecial hunfinished
  refine Inv.of_atRest ⟨hinv.calls, fun hactive => absurd rfl hactive, nofun,
    fun name h => hinv.pointers name (hsame name h), nofun, hinv.specialCopy⟩ hput (.inr ?_)
  exact ⟨hassigned.connected, hassigned.pointers,
    fun name h => hassigned.outstanding name (hsame name h), nofun⟩

/-! ## The steps of the threads of ports and of timers -/

theorem Inv.startProcess (hinv : Inv s) {name : PortName} {device : Option Int} {stmts : List Stmt}
    (hrequest : s.request = .queued) (hconnected : s.connected = some (name, device)) :
    Inv { s with request := .running (.start name stmts) } := by
  have hprogress : Progress s { s with request := .running (.start name stmts), calls := s.calls } := by
    refine progress_request (.inl hrequest) ?_ nofun nofun
    intro c hc _
    cases hc
    exact .queued hrequest hconnected
  refine hinv.progress hprogress hinv.calls ?_ hinv.specialCopy
  intro c hc port hport
  cases hc
  exact nomatch hport

theorem Inv.runProcess (hinv : Inv s) {c c' : Callback} {ports : List PortName}
    (hrequest : s.request = .running c) (hnext : c.next s.pvt = some (c', ports)) :
    Inv { s with
      request := .running c', calls := s.calls ++ ports.map fun port => (c.port, port) } := by
  have hspec := next_spec hnext
  have houtstanding : Outstanding s c.port := .running hrequest hspec.unfinished
  obtain ⟨hcalls, hcopy⟩ := hinv.toCore.next hspec houtstanding (hinv.copy c hrequest)
  refine hinv.progress (progress_request (.inr ⟨c, hrequest⟩) ?_ nofun nofun) hcalls ?_ hinv.specialCopy
  · intro c'' hc _
    cases hc
    rw [hspec.port]
    exact houtstanding
  · intro c'' hc
    cases hc
    exact hcopy

/-- Without a connection, or on a port that cannot block, the process callback is not requested. -/
theorem Inv.finishProcess (hinv : Inv s) {c : Callback} (hrequest : s.request = .running c) :
    Inv s.finishProcess := by
  have hidle : Inv { s with request := .idle } := by
    have hprogress : Progress s { s with request := .idle, calls := s.calls } :=
      progress_request (.inr ⟨c, hrequest⟩) nofun nofun nofun
    exact hinv.progress hprogress hinv.calls nofun hinv.specialCopy
  unfold State.finishProcess
  split
  case h_1 => exact hidle
  case h_2 name device hconnected =>
    have hcompleted : Inv { s with request := .completed } := by
      have hprogress : Progress s { s with request := .completed, calls := s.calls } := by
        refine progress_request (.inr ⟨c, hrequest⟩) nofun nofun fun _ => ?_
        rw [hconnected]
        exact nofun
      exact hinv.progress hprogress hinv.calls nofun hinv.specialCopy
    split
    case h_1 => exact hcompleted
    case h_2 => exact hidle

theorem Inv.timeoutProcess (hinv : Inv s) (hrequest : s.request = .queued) :
    Inv { s with request := .completed } := by
  have hprogress : Progress s { s with request := .completed, calls := s.calls } :=
    progress_request (.inl hrequest) nofun nofun fun _ => hinv.queued hrequest
  exact hinv.progress hprogress hinv.calls nofun hinv.specialCopy

theorem Inv.startSpecial (hinv : Inv s) {id : SpecialId} {name : PortName} {type : CallbackType}
    (hspecial : s.specials id = some (.queued name type)) (stmts : List Stmt) :
    Inv { s with
      specials := Function.update s.specials id (some (.running type (.start name stmts))) } := by
  have hprogress : Progress s { s with
      specials := Function.update s.specials id (some (.running type (.start name stmts)))
      state := s.state, calls := s.calls } := by
    refine progress_special (by rw [hspecial]; exact nofun) nofun ?_ (.inl rfl)
    intro type' c hc _
    cases hc
    exact .specialQueued hspecial
  refine hinv.progress hprogress hinv.calls hinv.copy (hinv.toCore.specialCopy_update ?_)
  intro type' c hc port hport
  cases hc
  exact nomatch hport

theorem Inv.runSpecial (hinv : Inv s) {id : SpecialId} {type : CallbackType} {c c' : Callback}
    {ports : List PortName} (hspecial : s.specials id = some (.running type c))
    (hnext : c.next s.pvt = some (c', ports)) :
    Inv { s with
      specials := Function.update s.specials id (some (.running type c'))
      calls := s.calls ++ ports.map fun port => (c.port, port) } := by
  have hspec := next_spec hnext
  have houtstanding : Outstanding s c.port := .specialRunning hspecial hspec.unfinished
  obtain ⟨hcalls, hcopy⟩ := hinv.toCore.next hspec houtstanding (hinv.specialCopy id type c hspecial)
  have hprogress : Progress s { s with
      specials := Function.update s.specials id (some (.running type c'))
      state := s.state, calls := s.calls ++ ports.map fun port => (c.port, port) } := by
    refine progress_special (by rw [hspecial]; exact nofun) nofun ?_ (.inl rfl)
    intro type' c'' hc _
    cases hc
    rw [hspec.port]
    exact houtstanding
  refine hinv.progress hprogress hcalls hinv.copy (hinv.toCore.specialCopy_update ?_)
  intro type' c'' hc
  cases hc
  exact hcopy

/-- The request of a duplicated user ends, by its callback or by its timeout. -/
theorem Inv.endSpecial (hinv : Inv s) {id : SpecialId} {state : CallbackState}
    (hspecial : s.specials id ≠ none) (hstate : state = s.state ∨ state = .stateIdle) :
    Inv { s with specials := Function.update s.specials id none, state := state } := by
  have hprogress : Progress s { s with
      specials := Function.update s.specials id none, state := state, calls := s.calls } :=
    progress_special hspecial nofun nofun hstate
  exact hinv.progress hprogress hinv.calls hinv.copy (hinv.toCore.specialCopy_update nofun)

/-! ## The results -/

theorem Inv.step (hinv : Inv s) {a : Action} (hok : Admissible s a) (hstep : step s a = some s') :
    Inv s' := by
  cases a with
  | registerPort name port =>
      simp only [Connect.step] at hstep
      split at hstep
      case h_2 => exact nomatch hstep
      case h_1 hnone =>
        cases hstep
        exact hinv.registerPort hnone port
  | put field =>
      simp only [Connect.step] at hstep
      split at hstep
      case isFalse => exact nomatch hstep
      case isTrue hput =>
        cases field with
        | PORT name =>
            cases hstep
            exact ⟨hinv.toCore.congr rfl rfl rfl rfl rfl rfl, trivial⟩
        | ADDR addr =>
            cases hstep
            exact ⟨hinv.toCore.congr rfl rfl rfl rfl rfl rfl, trivial⟩
        | DRVINFO =>
            cases hstep
            exact ⟨hinv.toCore.congr rfl rfl rfl rfl rfl rfl, trivial⟩
        | PCNCT yesNo =>
            cases yesNo with
            | true =>
                cases hstep
                exact ⟨hinv.toCore.congr rfl rfl rfl rfl rfl rfl, trivial⟩
            | false =>
                cases hstep
                exact hinv.disconnect hput hok
        | AQR => exact hinv.cancelRequest hput hok hstep
  | putSpecial id type accepted =>
      simp only [Connect.step] at hstep
      split at hstep
      case isFalse => exact nomatch hstep
      case isTrue hput => exact hinv.putSpecial hput hstep
  | connect id accepted =>
      obtain ⟨put, hput, hconnect⟩ := Option.bind_eq_some_iff.mp hstep
      exact hinv.connectDevice hput hok hconnect
  | process gotValue work accepted =>
      simp only [Connect.step] at hstep
      split at hstep
      case isFalse => exact nomatch hstep
      case isTrue hput => exact hinv.process hput.1 hput.2 hstep
  | complete =>
      simp only [Connect.step] at hstep
      split at hstep
      case h_2 => exact nomatch hstep
      case h_1 hrequest =>
        split at hstep
        case isFalse => exact nomatch hstep
        case isTrue hput => exact hinv.complete hput hrequest hstep
  | startProcess work =>
      simp only [Connect.step] at hstep
      split at hstep
      case h_2 => exact nomatch hstep
      case h_1 hrequest hconnected =>
        cases hstep
        exact hinv.startProcess hrequest hconnected
  | runProcess =>
      simp only [Connect.step] at hstep
      split at hstep
      case h_2 => exact nomatch hstep
      case h_1 c hrequest =>
        obtain ⟨⟨c', ports⟩, hnext, rfl⟩ := Option.map_eq_some_iff.mp hstep
        exact hinv.runProcess hrequest hnext
  | finishProcess =>
      simp only [Connect.step] at hstep
      split at hstep
      case h_2 => exact nomatch hstep
      case h_1 c hrequest =>
        split at hstep
        case isTrue => exact nomatch hstep
        case isFalse =>
          cases hstep
          exact hinv.finishProcess hrequest
  | timeoutProcess =>
      simp only [Connect.step] at hstep
      split at hstep
      case isFalse => exact nomatch hstep
      case isTrue hqueued =>
        cases hstep
        exact hinv.timeoutProcess (isQueued_iff.mp hqueued)
  | startSpecial id =>
      simp only [Connect.step] at hstep
      split at hstep
      case h_2 => exact nomatch hstep
      case h_1 hspecial =>
        cases hstep
        exact hinv.startSpecial hspecial _
  | runSpecial id =>
      simp only [Connect.step] at hstep
      split at hstep
      case h_2 => exact nomatch hstep
      case h_1 type c hspecial =>
        obtain ⟨⟨c', ports⟩, hnext, rfl⟩ := Option.map_eq_some_iff.mp hstep
        exact hinv.runSpecial hspecial hnext
  | finishSpecial id =>
      simp only [Connect.step] at hstep
      split at hstep
      case h_2 => exact nomatch hstep
      case h_1 type c hspecial =>
        split at hstep
        case isTrue => exact nomatch hstep
        case isFalse =>
          cases hstep
          refine hinv.endSpecial (by rw [hspecial]; exact nofun) ?_
          split
          · exact .inr rfl
          · exact .inl rfl
  | timeoutSpecial id =>
      simp only [Connect.step] at hstep
      split at hstep
      case h_2 => exact nomatch hstep
      case h_1 hspecial =>
        cases hstep
        exact hinv.endSpecial (by rw [hspecial]; exact nofun) (.inr rfl)

/-- In every run of admissible puts the record stays consistent. -/
theorem consistent (s : State) (hreach : machine.Reachable Admissible s) : Consistent s := by
  have hinv : Inv s := by
    refine hreach.invariant (I := Inv) (fun _ hinitial => inv_initial hinitial) ?_
    intro s a s' hok hinv hstep
    exact hinv.step hok hstep
  exact hinv.consistency

/-! ## Runs -/

/-- A record without a port. -/
def unconnected : State :=
  ⟨fun _ => none, "", 0, false, .stateNoDevice, none, fun _ => none, .idle, fun _ => none, none, []⟩

def after (actions : List Action) : State := (machine.exec unconnected actions).getD unconnected

/-- A port that can block, with all interfaces. -/
def blocking : Port := ⟨true, false, fun _ => true⟩

/-- A put to `PORT` and all steps of its `connectDevice`, whose requests are 0 and 1. -/
def putPORT (name : PortName) (first : SpecialId) : List Action :=
  Action.put (.PORT name) :: List.replicate 10 (Action.connect first true) ++
    [Action.connect (first + 1) true]

/-- The steps that need no condition. -/
def free (s : State) : Action → Bool
  | .put _ => false
  | .connect _ _ =>
      match s.put with
      | some ⟨_, .disconnecting⟩ => false
      | some ⟨_, .connecting⟩ => false
      | _ => true
  | _ => true

theorem admissible_of_free {a : Action} (hfree : free s a = true) : Admissible s a := by
  cases a with
  | put field => exact nomatch hfree
  | connect id accepted =>
      intro put hput
      obtain ⟨pcnct, stage⟩ := put
      unfold free at hfree
      rw [hput] at hfree
      cases stage with
      | disconnecting => exact nomatch hfree
      | connecting => exact nomatch hfree
      | _ => trivial
  | _ => trivial

theorem unconnected_initial : machine.init unconnected :=
  ⟨rfl, rfl, rfl, fun _ => rfl, rfl, fun _ => rfl, rfl, rfl⟩

/-- The record connects, gets the options and the terminators, and reads. -/
theorem consistent_example :
    ∃ s, machine.Reachable Admissible s ∧ Consistent s ∧ Connected s ∧ s.put = none ∧ s.pact = false ∧
      s.state = .stateIdle ∧ s.calls = List.replicate 14 ("A", "A") := by
  let first : List Action := [.registerPort "A" blocking, .put (.PORT "A")]
  let rest : List Action := List.replicate 8 (Action.connect 0 true) ++
    [Action.connect 1 true, .startSpecial 0] ++ List.replicate 12 (Action.runSpecial 0) ++
    [Action.finishSpecial 0, .startSpecial 1] ++ List.replicate 3 (Action.runSpecial 1) ++
    [Action.finishSpecial 1, .process false (.performIo .octet 1) true,
      .startProcess (.performIo .octet 1), .runProcess, .runProcess, .finishProcess, .complete]
  have hconnecting :
      machine.Reachable Admissible (after (first ++ List.replicate 2 (Action.connect 0 true))) := by
    have hregister : machine.Reachable Admissible (after [.registerPort "A" blocking]) :=
      (Machine.Reachable.init unconnected_initial).step (a := .registerPort "A" blocking) trivial rfl
    have hput : machine.Reachable Admissible (after first) :=
      hregister.step (a := .put (.PORT "A")) trivial rfl
    have hdisconnect : machine.Reachable Admissible (after (first ++ [Action.connect 0 true])) := by
      refine hput.step (a := .connect 0 true) ?_ rfl
      intro put hstage
      cases hstage
      exact nofun
    refine hdisconnect.step (a := .connect 0 true) ?_ rfl
    intro put hstage
    cases hstage
    refine .inl ⟨⟨blocking, rfl, rfl⟩, ?_, nofun⟩
    intro name houtstanding
    cases houtstanding with
    | queued hrequest _ => exact nomatch hrequest
    | running hrequest _ => exact nomatch hrequest
    | specialQueued hspecial => exact nomatch hspecial
    | specialRunning hspecial _ => exact nomatch hspecial
  have hrun : machine.execGuarded free (after (first ++ List.replicate 2 (Action.connect 0 true))) rest =
      some (after (first ++ List.replicate 2 (Action.connect 0 true) ++ rest)) := rfl
  have hreach := hconnecting.path (Machine.path_of_execGuarded (I := fun _ => True)
    (fun s a _ hfree => admissible_of_free hfree) (fun _ _ _ _ _ _ => trivial) trivial hrun)
  have hconsistent := consistent _ hreach
  exact ⟨_, hreach, hconsistent, hconsistent.idle rfl rfl rfl, rfl, rfl, rfl, rfl⟩

/-- A run that ends in a state which is not consistent. -/
def Breaks (actions : List Action) : Prop :=
  machine.Reachable Machine.Unguarded (after actions) ∧ ¬ Consistent (after actions)

theorem breaks {actions : List Action} (hrun : machine.exec unconnected actions = some (after actions))
    (hnot : ¬ Consistent (after actions)) : Breaks actions :=
  ⟨Machine.reachable_of_exec unconnected_initial hrun, hnot⟩

/-- Without a connection the record is idle after a put to `PCNCT` or `AQR`; with its request in the
queue it is `stateNoDevice` with a connection; and the request for the options of one port calls the
driver of the next one. -/
theorem puts_break_consistency :
    Breaks (Action.registerPort "A" blocking :: putPORT "A" 0 ++ [Action.put (.PCNCT false)]) ∧
    Breaks [.put .AQR] ∧
    Breaks (Action.registerPort "A" blocking :: putPORT "A" 0 ++
      [Action.process false (.performIo .octet 1) true, .put (.PORT "B"), .connect 2 true, .connect 2 true,
        .connect 2 true]) ∧
    Breaks (Action.registerPort "A" blocking :: .registerPort "B" blocking :: putPORT "A" 0 ++ putPORT "B" 2 ++
      [Action.startSpecial 0, .runSpecial 0, .runSpecial 0]) := by
  refine ⟨breaks rfl ?_, breaks rfl ?_, breaks rfl ?_, breaks rfl ?_⟩
  · intro hconsistent
    obtain ⟨⟨port, -, hconnected⟩, -⟩ := hconsistent.idle rfl rfl rfl
    exact nomatch hconnected
  · intro hconsistent
    obtain ⟨⟨port, -, hconnected⟩, -⟩ := hconsistent.idle rfl rfl rfl
    exact nomatch hconnected
  · intro hconsistent
    exact nomatch hconsistent.noDevice rfl rfl
  · intro hconsistent
    exact absurd (hconsistent.calls ("A", "B") List.mem_cons_self) (by decide)

end Connect
end AsynRecord
end AsynDriver
