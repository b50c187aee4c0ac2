import AsynDriver.AsynRecord.InterruptScan

/-!
# One registration, on what the fields select

* `Admissible` — which puts are made when.
* `Sound` — a registration while `SCAN` is `I/O Intr`, and only then; it is on what the fields select, and
  each one is cancelled by the interface that made it before the next is made.
* `Ready` — what `cancelIOInterruptScan` needs; `Inv` is what holds between puts.
* `interrupt_registrations_sound` — in every run of admissible puts.
* `puts_lose_registration` — puts that are not admissible.
-/

namespace AsynDriver
namespace AsynRecord
namespace InterruptScan

open Library
open Connect (PortName Iface)

variable {s s' : State} {r : Registration}

/-! ## The condition -/

/-- The `asynUser` is connected to what `PORT` and `ADDR` name, with the reason in `REASON`. -/
def Agrees (s : State) : Prop :=
  s.reason = s.REASON ∧
    ∃ port, s.ports s.PORT = some port ∧ s.connected = some (s.PORT, port.locateDevice s.ADDR)

/-- The record keeps the interface of its registration: `disconnect` refuses, or `PORT` and `ADDR` name a
port where the same interface is found. -/
def Keeps (s : State) (env : State.Env) : Prop :=
  env.queued = true ∧ env.stillQueued = true ∨
    env.queued = false ∧ ∃ port, s.ports s.PORT = some port ∧ port.asynCommon = true ∧
      port.findInterface (port.locateDevice s.ADDR) s.IFACE = s.pvt s.IFACE

/-- While `SCAN` is `I/O Intr`, `IFACE` stays and the record keeps its interface.  `SCAN` becomes
`I/O Intr` where the `asynUser` agrees with the fields, or nothing can be registered. -/
def Admissible (s : State) : Action → Prop
  | .SCAN .ioIntr accepted =>
      accepted = true → s.pvt s.IFACE ≠ none → s.connected ≠ none → Agrees s
  | .IFACE iface => s.SCAN = .ioIntr → iface = s.IFACE
  | .DRVINFO _ env => s.SCAN = .ioIntr → Keeps s env
  | .PORT port env => s.SCAN = .ioIntr → Keeps { s with PORT := port } env
  | .ADDR addr env => s.SCAN = .ioIntr → Keeps { s with ADDR := addr } env
  | .PCNCT true env => s.SCAN = .ioIntr → Keeps s env
  | .PCNCT false env => s.SCAN = .ioIntr → env.queued = true
  | _ => True

/-! ## The property -/

/-- The registration is on the interface, port, address, reason and mask that the fields select. -/
def Current (s : State) (r : Registration) : Prop :=
  r.iface = s.IFACE ∧ r.reason = s.REASON ∧ r.mask = s.mask ∧
    ∃ port, s.ports s.PORT = some port ∧ r.port = s.PORT ∧ r.device = port.locateDevice s.ADDR ∧
      port.findInterface r.device s.IFACE = some r.interface

structure Sound (s : State) : Prop where
  one : s.SCAN = .ioIntr → ∃ r, s.registered = [r] ∧ Current s r
  unregistered : s.SCAN ≠ .ioIntr → s.registered = []
  cancelled : ∀ c ∈ s.cancelled, c.2 = (c.1.iface, c.1.interface)
  made : s.made = s.cancelled.map Prod.fst ++ s.registered
  once : (s.made.map Registration.node).Nodup

/-! ## The invariant -/

/-- The registration is the record's only one, and `IFACE` and the `asynUser` are those that cancel it. -/
structure Armed (s : State) (r : Registration) : Prop where
  registered : s.registered = [r]
  interruptPvt : s.interruptPvt = some r.node
  iface : s.IFACE = r.iface
  interface : s.pvt s.IFACE = some r.interface
  connected : s.connected ≠ none

structure Ready (s : State) : Prop where
  armed : s.SCAN = .ioIntr → ∃ r, Armed s r
  unregistered : s.SCAN ≠ .ioIntr → s.registered = []
  cancelled : ∀ c ∈ s.cancelled, c.2 = (c.1.iface, c.1.interface)
  made : s.made = s.cancelled.map Prod.fst ++ s.registered
  once : (s.made.map Registration.node).Nodup
  nodes : ∀ r ∈ s.made, r.node < s.nodes
  found : ∀ name device, s.connected = some (name, device) →
    ∃ port, s.ports name = some port ∧ s.pvt = port.findInterface device

structure Inv (s : State) : Prop extends Ready s where
  current : s.SCAN = .ioIntr → ∀ r ∈ s.registered, Current s r

theorem Inv.sound (hinv : Inv s) : Sound s where
  one := by
    intro hscan
    obtain ⟨r, harmed⟩ := hinv.armed hscan
    refine ⟨r, harmed.registered, hinv.current hscan r ?_⟩
    rw [harmed.registered]
    exact List.mem_cons_self
  unregistered := hinv.unregistered
  cancelled := hinv.cancelled
  made := hinv.made
  once := hinv.once

theorem inv_initial (hinitial : s.Initial) : Inv s := by
  obtain ⟨hscan, hconnected, -, hregistered, hmade, hcancelled⟩ := hinitial
  have hpassive : s.SCAN ≠ .ioIntr := by
    rw [hscan]
    exact nofun
  refine ⟨⟨fun h => absurd h hpassive, fun _ => hregistered, ?_, ?_, ?_, ?_, ?_⟩,
    fun h => absurd h hpassive⟩
  · rw [hcancelled]
    exact nofun
  · rw [hmade, hcancelled, hregistered]
    rfl
  · rw [hmade]
    exact List.nodup_nil
  · rw [hmade]
    exact nofun
  · intro name device hname
    exact nomatch hconnected.symm.trans hname

/-! ## The end of a scan -/

/-- The state when the registration has been cancelled by its own interface. -/
def State.cancelledBy (s : State) (r : Registration) : State :=
  { s with registered := [], cancelled := s.cancelled ++ [(r, r.iface, r.interface)] }

theorem cancelInterrupts_of_armed (harmed : Armed s r) : s.cancelInterrupts = s.cancelledBy r := by
  obtain ⟨user, huser⟩ := Option.ne_none_iff_exists'.mp harmed.connected
  unfold State.cancelInterrupts State.cancelledBy
  rw [harmed.interface, huser, harmed.interruptPvt, harmed.registered]
  simp [harmed.iface]

/-- After `scanDelete` nothing is registered. -/
theorem Ready.scanDelete (hready : Ready s) :
    ∃ cancelled, s.scanDelete = { s with registered := [], cancelled := cancelled } ∧
      (∀ c ∈ cancelled, c.2 = (c.1.iface, c.1.interface)) ∧ s.made = cancelled.map Prod.fst := by
  unfold State.scanDelete
  split
  case isTrue hscan =>
    obtain ⟨r, harmed⟩ := hready.armed hscan
    refine ⟨_, cancelInterrupts_of_armed harmed, ?_, ?_⟩
    · intro c hc
      rcases List.mem_append.mp hc with hold | hnew
      · exact hready.cancelled c hold
      · cases List.mem_singleton.mp hnew
        rfl
    · rw [List.map_append, hready.made, harmed.registered]
      rfl
  case isFalse hscan =>
    have hregistered := hready.unregistered hscan
    have hmade := hready.made
    rw [hregistered, List.append_nil] at hmade
    refine ⟨s.cancelled, ?_, hready.cancelled, hmade⟩
    obtain ⟨⟩ := s
    cases hregistered
    rfl

/-- A record whose registration was cancelled and that is not scanned on `I/O Intr` any more. -/
theorem Ready.cleared (hready : Ready s) (scan : Scan) (hscan : scan ≠ .ioIntr)
    {cancelled : List (Registration × Iface × InterfaceId)}
    (hown : ∀ c ∈ cancelled, c.2 = (c.1.iface, c.1.interface))
    (hmade : s.made = cancelled.map Prod.fst) :
    Inv { s with registered := [], cancelled := cancelled, SCAN := scan } where
  armed := fun h => absurd h hscan
  unregistered := fun _ => rfl
  cancelled := hown
  made := hmade.trans (List.append_nil _).symm
  once := hready.once
  nodes := hready.nodes
  found := hready.found
  current := fun h => absurd h hscan

theorem Ready.cancelIOInterruptScan (hready : Ready s) : Inv s.cancelIOInterruptScan := by
  unfold State.cancelIOInterruptScan
  split
  case isTrue =>
    obtain ⟨cancelled, hdelete, hown, hmade⟩ := hready.scanDelete
    have hinv := hready.cleared .passive nofun hown hmade
    unfold State.putScan State.scanAdd
    rw [hdelete, if_neg nofun]
    exact hinv
  case isFalse hscan => exact ⟨hready, fun h => absurd h hscan⟩

/-! ## Its beginning -/

/-- What `registerInterrupts` registers is what the fields select, where the user agrees with them. -/
theorem current_of_agrees (hready : Ready s) (hagrees : Agrees s) {interface : InterfaceId}
    {name : PortName} {device : Option Int} (hinterface : s.pvt s.IFACE = some interface)
    (hconnected : s.connected = some (name, device)) (node : NodeId) :
    Current s ⟨node, s.IFACE, interface, name, device, s.reason, s.mask⟩ := by
  obtain ⟨hreason, port, hport, hnamed⟩ := hagrees
  cases hconnected.symm.trans hnamed
  obtain ⟨port', hport', hfound⟩ := hready.found _ _ hconnected
  cases hport.symm.trans hport'
  refine ⟨rfl, hreason, rfl, port, hport, rfl, rfl, ?_⟩
  rw [← hinterface, hfound]

/-- A new node is made after all the others. -/
theorem Ready.nodup_node (hready : Ready s) (hnode : r.node = s.nodes) :
    ((s.made ++ [r]).map Registration.node).Nodup := by
  rw [List.map_append, List.nodup_append]
  refine ⟨hready.once, List.pairwise_singleton _ _, ?_⟩
  rintro node hold node' hnew rfl
  obtain ⟨r', hr', hr'node⟩ := List.mem_map.mp hold
  have hlt := hready.nodes r' hr'
  rw [hr'node, List.mem_singleton.mp hnew, hnode] at hlt
  exact Nat.lt_irrefl _ hlt

theorem Ready.nodes_succ (hready : Ready s) : ∀ r ∈ s.made, r.node < s.nodes + 1 :=
  fun r hr => Nat.lt_succ_of_lt (hready.nodes r hr)

/-- Where nothing is registered, `scanAdd` registers the record or makes it passive. -/
theorem Ready.scanAdd (hready : Ready s) {cancelled : List (Registration × Iface × InterfaceId)}
    {accepted : Bool} (hok : Admissible s (.SCAN .ioIntr accepted))
    (hown : ∀ c ∈ cancelled, c.2 = (c.1.iface, c.1.interface))
    (hmade : s.made = cancelled.map Prod.fst) :
    Inv ({ s with registered := [], cancelled := cancelled, SCAN := .ioIntr }.scanAdd accepted) := by
  unfold State.scanAdd
  rw [if_pos rfl]
  unfold State.registerInterrupts
  simp only
  split
  case h_1 t hregister =>
    split at hregister
    case h_2 => exact nomatch hregister
    case h_1 interface name device hinterface hconnected =>
      split at hregister
      case isFalse => exact nomatch hregister
      case isTrue haccepted =>
        cases hregister
        have hnone : s.connected ≠ none := by
          rw [hconnected]
          exact nofun
        have hagrees : Agrees s := by
          refine hok haccepted ?_ hnone
          rw [hinterface]
          exact nofun
        refine ⟨⟨fun _ => ⟨_, rfl, rfl, rfl, hinterface, hnone⟩, fun h => absurd rfl h, hown, ?_,
          hready.nodup_node rfl, ?_, hready.found⟩, ?_⟩
        · show s.made ++ _ = cancelled.map Prod.fst ++ ([] ++ _)
          rw [hmade, List.nil_append]
        · intro r hr
          rcases List.mem_append.mp hr with hold | hnew
          · exact hready.nodes_succ r hold
          · cases List.mem_singleton.mp hnew
            exact Nat.lt_succ_self _
        · rintro - r hr
          cases List.mem_singleton.mp hr
          exact current_of_agrees hready hagrees hinterface hconnected _
  case h_2 t hregister =>
    have hcleared := hready.cleared .passive nofun hown hmade
    split at hregister
    case h_1 =>
      split at hregister
      case isTrue => exact nomatch hregister
      case isFalse =>
        cases hregister
        exact ⟨⟨nofun, fun _ => rfl, hown, hcleared.made, hready.once, hready.nodes_succ, hready.found⟩,
          nofun⟩
    case h_2 =>
      cases hregister
      exact hcleared

theorem Inv.putScan (hinv : Inv s) {scan : Scan} {accepted : Bool}
    (hok : Admissible s (.SCAN scan accepted)) : Inv (s.putScan scan accepted) := by
  obtain ⟨cancelled, hdelete, hown, hmade⟩ := hinv.toReady.scanDelete
  unfold State.putScan
  rw [hdelete]
  by_cases hscan : scan = .ioIntr
  · subst hscan
    exact hinv.toReady.scanAdd hok hown hmade
  · unfold State.scanAdd
    rw [if_neg hscan]
    exact hinv.toReady.cleared scan hscan hown hmade

/-! ## The port -/

/-- Fields that neither the registration nor its cancellation reads. -/
theorem Ready.fields (hready : Ready s) (UI32MASK : Nat) (REASON : Int) (DRVINFO : String)
    (PORT : PortName) (ADDR reason : Int) :
    Ready { s with
      UI32MASK := UI32MASK, REASON := REASON, DRVINFO := DRVINFO, PORT := PORT, ADDR := ADDR
      reason := reason } where
  armed := by
    intro hscan
    obtain ⟨r, harmed⟩ := hready.armed hscan
    exact ⟨r, harmed.registered, harmed.interruptPvt, harmed.iface, harmed.interface, harmed.connected⟩
  unregistered := hready.unregistered
  cancelled := hready.cancelled
  made := hready.made
  once := hready.once
  nodes := hready.nodes
  found := hready.found

/-- Without a registration the connection is free to change. -/
theorem Ready.connected (hready : Ready s) {connected : Option (PortName × Option Int)}
    {pvt : Iface → Option InterfaceId}
    (hfound : ∀ name device, connected = some (name, device) →
      ∃ port, s.ports name = some port ∧ pvt = port.findInterface device)
    (hkeep : s.SCAN = .ioIntr → connected ≠ none ∧ pvt s.IFACE = s.pvt s.IFACE) :
    Ready { s with connected := connected, pvt := pvt } where
  armed := by
    intro hscan
    obtain ⟨r, harmed⟩ := hready.armed hscan
    obtain ⟨hnone, hpvt⟩ := hkeep hscan
    exact ⟨r, harmed.registered, harmed.interruptPvt, harmed.iface, hpvt.trans harmed.interface, hnone⟩
  unregistered := hready.unregistered
  cancelled := hready.cancelled
  made := hready.made
  once := hready.once
  nodes := hready.nodes
  found := hfound

theorem Ready.createDrvUser (hready : Ready s) (port : Port) (create : Option Int) :
    Ready (s.createDrvUser port create) := by
  unfold State.createDrvUser
  split
  · split
    · exact hready
    · split
      · exact hready.fields _ _ _ _ _ _
      · exact hready
  · exact hready.fields _ _ _ _ _ _

/-- Without a registration to cancel the record may lose its port. -/
theorem Ready.disconnected (hready : Ready s) (hscan : s.SCAN ≠ .ioIntr) :
    Ready { s with connected := none } :=
  hready.connected nofun fun h => absurd h hscan

/-- `connectDevice` leaves the record ready, where it keeps the interface of its registration. -/
theorem Ready.connectDevice (hready : Ready s) {env : State.Env}
    (hkeep : s.SCAN = .ioIntr → Keeps s env) : Inv (s.connectDevice env) := by
  unfold State.connectDevice
  simp only
  cases hqueued : env.queued && s.connected.isSome with
  | true =>
      -- The user stays connected, so that `pasynManager->connectDevice` fails.
      obtain ⟨hrequest, hsome⟩ := Bool.and_eq_true_iff.mp hqueued
      have hconnect : (s.disconnect true).connectUser env.create = (s, false) := by
        unfold State.connectUser
        split
        case h_1 hnone =>
          have hnone : s.connected = none := hnone
          rw [hnone] at hsome
          cases hsome
        case h_2 => rfl
      rw [hconnect]
      cases hstill : env.stillQueued with
      | true => exact hready.cancelIOInterruptScan
      | false =>
          have hscan : s.SCAN ≠ .ioIntr := by
            intro hscan
            rcases hkeep hscan with ⟨-, hstill'⟩ | ⟨hrequest', -⟩
            · cases hstill.symm.trans hstill'
            · cases hrequest.symm.trans hrequest'
          exact (hready.disconnected hscan).cancelIOInterruptScan
  | false =>
      have hnamed : s.SCAN = .ioIntr → ∃ port, s.ports s.PORT = some port ∧ port.asynCommon = true ∧
          port.findInterface (port.locateDevice s.ADDR) s.IFACE = s.pvt s.IFACE := by
        intro hscan
        rcases hkeep hscan with ⟨hrequest, -⟩ | ⟨-, hport⟩
        · obtain ⟨r, harmed⟩ := hready.armed hscan
          rw [hrequest, Bool.true_and, Option.isSome_eq_false_iff, Option.isNone_iff_eq_none] at hqueued
          exact absurd hqueued harmed.connected
        · exact hport
      have hlost : s.SCAN ≠ .ioIntr → Inv { s with connected := none }.cancelIOInterruptScan :=
        fun hscan => (hready.disconnected hscan).cancelIOInterruptScan
      have hdisconnect : s.disconnect false = { s with connected := none } := rfl
      rw [hdisconnect]
      unfold State.connectUser
      simp only
      cases hport : s.ports s.PORT with
      | none =>
          refine hlost fun hscan => ?_
          obtain ⟨port, hport', -⟩ := hnamed hscan
          cases hport.symm.trans hport'
      | some port =>
          simp only
          split
          case h_1 t hconnect =>
            split at hconnect
            case isFalse => cases hconnect
            case isTrue =>
              cases hconnect
              refine ((hready.connected ?_ ?_).createDrvUser port env.create).cancelIOInterruptScan
              · intro name device hname
                cases hname
                exact ⟨port, hport, rfl⟩
              · intro hscan
                obtain ⟨port', hport', -, hfind⟩ := hnamed hscan
                cases hport.symm.trans hport'
                exact ⟨Option.some_ne_none _, hfind⟩
          case h_2 t hconnect =>
            split at hconnect
            case isTrue => cases hconnect
            case isFalse hcommon =>
              cases hconnect
              refine hlost fun hscan => ?_
              obtain ⟨port', hport', hcommon', -⟩ := hnamed hscan
              cases hport.symm.trans hport'
              exact hcommon hcommon'

/-! ## The results -/

/-- A new port changes nothing for the ports that are known. -/
theorem Inv.registerPort (hinv : Inv s) {name : PortName} (hnone : s.ports name = none) (port : Port) :
    Inv { s with ports := Function.update s.ports name (some port) } := by
  have hold : ∀ {name' port'}, s.ports name' = some port' →
      Function.update s.ports name (some port) name' = some port' := by
    intro name' port' hport'
    have hne : name' ≠ name := by
      rintro rfl
      exact nomatch hnone.symm.trans hport'
    exact (Function.update_of_ne hne _ _).trans hport'
  refine ⟨⟨?_, hinv.unregistered, hinv.cancelled, hinv.made, hinv.once, hinv.nodes, ?_⟩, ?_⟩
  · intro hscan
    obtain ⟨r, harmed⟩ := hinv.armed hscan
    exact ⟨r, harmed.registered, harmed.interruptPvt, harmed.iface, harmed.interface, harmed.connected⟩
  · intro name' device hname
    obtain ⟨port', hport', hpvt⟩ := hinv.found name' device hname
    exact ⟨port', hold hport', hpvt⟩
  · intro hscan r hr
    obtain ⟨hiface, hreason, hmask, port', hport', hrest⟩ := hinv.current hscan r hr
    exact ⟨hiface, hreason, hmask, port', hold hport', hrest⟩

theorem Ready.iface (hready : Ready s) {iface : Iface} (hsame : s.SCAN = .ioIntr → iface = s.IFACE) :
    Ready { s with IFACE := iface } where
  armed := by
    intro hscan
    obtain ⟨r, harmed⟩ := hready.armed hscan
    have hiface := hsame hscan
    refine ⟨r, harmed.registered, harmed.interruptPvt, hiface.trans harmed.iface, ?_, harmed.connected⟩
    show s.pvt iface = some r.interface
    rw [hiface]
    exact harmed.interface
  unregistered := hready.unregistered
  cancelled := hready.cancelled
  made := hready.made
  once := hready.once
  nodes := hready.nodes
  found := hready.found

/-- `PCNCT` is set to 0. -/
theorem Ready.disconnect (hready : Ready s) {queued : Bool}
    (hqueued : s.SCAN = .ioIntr → queued = true) : Ready (s.disconnect queued) := by
  cases queued with
  | true => exact hready
  | false => exact hready.disconnected fun hscan => nomatch hqueued hscan

theorem Inv.step (hinv : Inv s) {a : Action} (hok : Admissible s a) (hstep : step s a = some s') :
    Inv s' := by
  have hready := hinv.toReady
  cases a with
  | registerPort name port =>
      simp only [InterruptScan.step] at hstep
      split at hstep
      case h_1 hnone =>
        cases hstep
        exact hinv.registerPort hnone port
      case h_2 => exact nomatch hstep
  | SCAN scan accepted =>
      cases hstep
      exact hinv.putScan hok
  | IFACE iface =>
      cases hstep
      exact (hready.iface hok).cancelIOInterruptScan
  | UI32MASK mask =>
      cases hstep
      exact (hready.fields mask _ _ _ _ _).cancelIOInterruptScan
  | REASON reason =>
      cases hstep
      exact (hready.fields _ reason "" _ _ reason).cancelIOInterruptScan
  | DRVINFO drvinfo env =>
      cases hstep
      exact (hready.fields _ _ drvinfo _ _ _).connectDevice hok
  | PORT port env =>
      cases hstep
      exact (hready.fields _ _ _ port _ _).connectDevice hok
  | ADDR addr env =>
      cases hstep
      exact (hready.fields _ _ _ _ addr _).connectDevice hok
  | PCNCT yesNo env =>
      cases yesNo with
      | true =>
          cases hstep
          exact hready.connectDevice hok
      | false =>
          cases hstep
          exact (hready.disconnect hok).cancelIOInterruptScan

/-- In every run of admissible puts the record is registered while `SCAN` is `I/O Intr`, on what the fields
select, and each registration is cancelled by the interface that made it before the next is made. -/
theorem interrupt_registrations_sound (s : State) (hreach : machine.Reachable Admissible s) : Sound s := by
  have hinv : Inv s := by
    refine hreach.invariant (I := Inv) (fun _ hinitial => inv_initial hinitial) ?_
    intro s a s' hok hinv hstep
    exact hinv.step hok hstep
  exact hinv.sound

/-! ## Runs -/

/-- A port with the interfaces `asynOctet` and `asynInt32`. -/
def twoInterfaces (octet int32 : InterfaceId) : Port where
  multiDevice := true
  asynCommon := true
  asynDrvUser := false
  findInterface := fun _ iface =>
    match iface with
    | .octet => some octet
    | .int32 => some int32
    | _ => none

def unconnected : State :=
  ⟨fun _ => none, .passive, .int32, 0xffffffff, 0, "", "", 0, none, 0, fun _ => none, none, 0, [], [], []⟩

theorem unconnected_initial : machine.init unconnected :=
  ⟨rfl, rfl, fun _ => rfl, rfl, rfl, rfl⟩

def after (actions : List Action) : State := (machine.exec unconnected actions).getD unconnected

/-- No request is in a queue, and the driver knows no drvInfo. -/
def quiet : State.Env := ⟨false, false, none⟩

/-- The record is registered on `asynInt32` of the port A. -/
def register : List Action :=
  [.registerPort "A" (twoInterfaces 0 1), .registerPort "B" (twoInterfaces 2 3), .PORT "A" quiet,
    .SCAN .ioIntr true]

/-- The address of a registered record changes, and it is registered again. -/
theorem interrupt_registrations_sound_example :
    ∃ s, machine.Reachable Admissible s ∧ Sound s ∧ s.SCAN = .ioIntr ∧
      s.registered = [⟨1, .int32, 1, "A", some 3, 0, none⟩] ∧
      s.cancelled = [(⟨0, .int32, 1, "A", some 0, 0, none⟩, .int32, 1)] := by
  have hport : machine.Reachable Admissible (after (register.take 3)) := by
    have hA : machine.Reachable Admissible (after (register.take 1)) :=
      (Machine.Reachable.init unconnected_initial).step (a := .registerPort "A" _) trivial rfl
    have hB : machine.Reachable Admissible (after (register.take 2)) :=
      hA.step (a := .registerPort "B" _) trivial rfl
    exact hB.step (a := .PORT "A" quiet) nofun rfl
  have hregister : machine.Reachable Admissible (after register) := by
    refine hport.step (a := .SCAN .ioIntr true) ?_ rfl
    rintro - - -
    exact ⟨rfl, twoInterfaces 0 1, rfl, rfl⟩
  have haddr : machine.Reachable Admissible (after (register ++ [Action.ADDR 3 quiet])) := by
    refine hregister.step (a := .ADDR 3 quiet) ?_ rfl
    rintro -
    exact .inr ⟨rfl, twoInterfaces 0 1, rfl, rfl, rfl⟩
  have hagain : machine.Reachable Admissible (after (register ++ [Action.ADDR 3 quiet, .SCAN .ioIntr true])) := by
    refine haddr.step (a := .SCAN .ioIntr true) ?_ rfl
    rintro - - -
    exact ⟨rfl, twoInterfaces 0 1, rfl, rfl⟩
  exact ⟨_, hagain, interrupt_registrations_sound _ hagain, rfl, rfl, rfl⟩

/-- The run ends in a state of the given kind, which is not sound. -/
def Breaks (actions : List Action) (p : State → Prop) : Prop :=
  machine.Reachable Machine.Unguarded (after actions) ∧ p (after actions) ∧ ¬ Sound (after actions)

theorem breaks {actions : List Action} {p : State → Prop}
    (hrun : machine.exec unconnected actions = some (after actions)) (hp : p (after actions))
    (hnot : p (after actions) → ¬ Sound (after actions)) : Breaks actions p :=
  ⟨Machine.reachable_of_exec unconnected_initial hrun, hp, hnot hp⟩

theorem not_sound_of_cancelled {c : Registration × Iface × InterfaceId} (hcancelled : s.cancelled = [c])
    (hother : c.2 ≠ (c.1.iface, c.1.interface)) : ¬ Sound s := by
  intro hsound
  apply hother
  refine hsound.cancelled c ?_
  rw [hcancelled]
  exact List.mem_cons_self

theorem not_sound_of_passive (hscan : s.SCAN = .passive ∧ s.registered.length = 1) : ¬ Sound s := by
  intro hsound
  have hnone := hsound.unregistered (by rw [hscan.1]; exact nofun)
  rw [hnone] at hscan
  exact nomatch hscan.2

/-- A put to `IFACE` or `PORT` cancels with an interface that did not make the registration.  A put to
`IFACE` that names an interface the port does not have, or a put of 0 to `PCNCT`, leaves the registration of
a passive record, which the next one joins.  A registration may have a reason that `REASON` does not
show. -/
theorem puts_lose_registration :
    Breaks (register ++ [Action.IFACE .octet])
      (fun s => s.cancelled = [(⟨0, .int32, 1, "A", some 0, 0, none⟩, .octet, 0)]) ∧
    Breaks (register ++ [Action.PORT "B" quiet])
      (fun s => s.cancelled = [(⟨0, .int32, 1, "A", some 0, 0, none⟩, .int32, 3)]) ∧
    Breaks (register ++ [Action.IFACE .float64]) (fun s => s.SCAN = .passive ∧ s.registered.length = 1) ∧
    Breaks (register ++ [Action.PCNCT false quiet]) (fun s => s.SCAN = .passive ∧ s.registered.length = 1) ∧
    Breaks (register ++ [Action.PCNCT false quiet, .PCNCT true quiet, .SCAN .ioIntr true])
      (fun s => s.SCAN = .ioIntr ∧ s.registered.length = 2) ∧
    Breaks (Action.REASON 5 :: register)
      (fun s => s.REASON = 0 ∧ s.registered = [⟨0, .int32, 1, "A", some 0, 5, none⟩]) := by
  refine ⟨breaks rfl rfl ?_, breaks rfl rfl ?_, breaks rfl ⟨rfl, rfl⟩ not_sound_of_passive,
    breaks rfl ⟨rfl, rfl⟩ not_sound_of_passive, breaks rfl ⟨rfl, rfl⟩ ?_, breaks rfl ⟨rfl, rfl⟩ ?_⟩
  · exact fun hcancelled => not_sound_of_cancelled hcancelled (by decide)
  · exact fun hcancelled => not_sound_of_cancelled hcancelled (by decide)
  · rintro ⟨hscan, hlength⟩ hsound
    obtain ⟨r, hregistered, -⟩ := hsound.one hscan
    rw [hregistered] at hlength
    exact nomatch hlength
  · rintro ⟨hreason, hregistered⟩ hsound
    obtain ⟨r, hone, -, hsame, -⟩ := hsound.one rfl
    cases hregistered.symm.trans hone
    exact nomatch hsame.trans hreason

end InterruptScan
end AsynRecord
end AsynDriver
