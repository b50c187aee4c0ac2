import Mathlib.Data.List.Nodup
import Mathlib.Data.Set.Function
import Mathlib.Tactic.Common
import AsynDriver.Manager.Types

/-!
# The poll list of `asynGpib.c`

`pollAddr` switches the serial poll of one GPIB address on or off, `srqPoll` polls what is switched on.

* `getAddr` — the address and the poll node of an `asynUser`.
* `pollAddr`, `Port.run` — one call and a sequence of calls with its log.
* `pollOne`, `pollPass`, `srqPoll` — what the low level driver and the interrupt clients see.
* `PollsExactly` — each pass polls what is switched on, and passes each status byte on.

Primary addresses are below `NUM_GPIB_ADDRESSES`, a secondary address is `100 * primary + secondary`.
`getAddr` takes the secondary part from `primary` instead of from `addr`, so that all secondary
addresses of one primary share one node (`polls_exactly_iff`).

Left out: the trace messages, `interruptStart`, which cannot fail, and the `asynUser` that stays
allocated when `connectDevice` has failed.
-/

namespace AsynDriver
namespace Gpib
namespace PollTable

open Manager (AsynStatus)

/-- `NUM_GPIB_ADDRESSES` -/
def numGpibAddresses : Nat := 32

/-- `MAX_POLL` -/
def maxPoll : Nat := 5

/-- `ASYN_REASON_SIGNAL` -/
def asynReasonSignal : Int := -1

/-- `multiDevice`: `attributes` has `ASYN_MULTIDEVICE`. -/
structure Port where
  portName : String
  multiDevice : Bool
  deriving DecidableEq, Repr

/-- What an `asynUser` is connected to. -/
inductive Connection
  | notConnected
  | port
  | device (addr : Nat)
  deriving DecidableEq, Repr

/-- `asynManager.getAddr`; `none` is -1. -/
def managerGetAddr (port : Port) : Connection → Except String (Option Nat)
  | .notConnected => .error "asynManager:getAddr not connected to device"
  | .port => .ok none
  | .device addr => .ok (if port.multiDevice then some addr else none)

/-- The two kinds of `pollNode` in `pollList`. -/
inductive NodeRef
  | primary (primary : Nat)
  | secondary (primary secondary : Nat)
  deriving DecidableEq, Repr

def illegalAddr (port : Port) (addr : Int) : String :=
  port.portName ++ " asynGpib addr " ++ toString addr ++ " is illegal"

/-- The address and the node that `addr`, `primary`, `secondary` and `isPrimary` name. -/
def getAddr (port : Port) (user : Connection) : Except String (Nat × NodeRef) :=
  match managerGetAddr port user with
  | .error message => .error message
  | .ok none =>
      if port.multiDevice then .error (illegalAddr port (-1)) else .ok (0, .primary 0)
  | .ok (some addr) =>
      if addr < 100 then
        if numGpibAddresses ≤ addr then .error (illegalAddr port addr)
        else .ok (addr, .primary addr)
      else
        let primary := addr / 100
        -- the source divides `primary` here, not `addr`
        let secondary := primary % 100
        if numGpibAddresses ≤ primary ∨ numGpibAddresses ≤ secondary then
          .error (illegalAddr port addr)
        else .ok (addr, .secondary primary secondary)

/-- `pasynUser` is the address that the `asynUser` of the node is connected to. -/
structure PollNode where
  pollIt : Bool
  pasynUser : Option Nat
  deriving DecidableEq, Repr

structure PollListPrimary where
  primary : PollNode
  pollSecondary : Bool
  secondary : Nat → PollNode

abbrev PollList := Nat → PollListPrimary

def PollList.empty : PollList := fun _ => ⟨⟨false, none⟩, false, fun _ => ⟨false, none⟩⟩

def PollList.node (pollList : PollList) : NodeRef → PollNode
  | .primary p => (pollList p).primary
  | .secondary p s => (pollList p).secondary s

/-- `srqPoll` looks at secondary nodes only with `pollSecondary`. -/
def PollList.looksAt (pollList : PollList) : NodeRef → Bool
  | .primary _ => true
  | .secondary p _ => (pollList p).pollSecondary

def PollList.setNode (pollList : PollList) (r : NodeRef) (node : PollNode) : PollList :=
  match r with
  | .primary p => Function.update pollList p { pollList p with primary := node }
  | .secondary p s =>
      Function.update pollList p
        { pollList p with secondary := Function.update (pollList p).secondary s node }

/-- `pollSecondary = TRUE` for a secondary address. -/
def PollList.setPollSecondary (pollList : PollList) : NodeRef → PollList
  | .primary _ => pollList
  | .secondary p _ => Function.update pollList p { pollList p with pollSecondary := true }

/-- `connectDevice` and `findInterface` succeed or not. -/
structure SwitchAnswers where
  connectDevice : Bool
  findInterface : Bool
  deriving DecidableEq, Repr

def pollAddr (port : Port) (pollList : PollList) (user : Connection) (onOff : Bool)
    (answers : SwitchAnswers) : PollList × AsynStatus :=
  match getAddr port user with
  | .error _ => (pollList, .asynError)
  | .ok (addr, r) =>
      let pollList := pollList.setPollSecondary r
      if (pollList.node r).pollIt = onOff then (pollList, .asynError)
      else if onOff then
        if !answers.connectDevice then (pollList.setNode r ⟨false, none⟩, .asynError)
        else if !answers.findInterface then (pollList.setNode r ⟨false, some addr⟩, .asynError)
        else (pollList.setNode r ⟨true, some addr⟩, .asynSuccess)
      else (pollList.setNode r ⟨false, none⟩, .asynSuccess)

/-! ## Polling -/

/-- What the manager and the driver answer about a device, by address; `none` is a failure.
`isConnectedAfter` is asked after `connect`. -/
structure Devices where
  isEnabled : Nat → Option Bool
  isConnected : Nat → Option Bool
  isAutoConnect : Nat → Option Bool
  connect : Nat → Bool
  isConnectedAfter : Nat → Option Bool
  serialPoll : Nat → Option Nat

/-- The first half of `pollOne`: the device is enabled and connected, or could be connected. -/
def Devices.reachable (devices : Devices) (addr : Nat) : Bool :=
  match devices.isEnabled addr, devices.isConnected addr, devices.isAutoConnect addr with
  | some isEnabled, some isConnected, some isAutoConnect =>
      if isEnabled && (!isConnected && isAutoConnect) then
        devices.connect addr && devices.isConnectedAfter addr == some true
      else isEnabled && isConnected
  | _, _, _ => false

/-- An interrupt client of the `asynInt32` interface. -/
structure Client where
  id : Nat
  connection : Connection
  reason : Int
  deriving DecidableEq, Repr

inductive PollEvent
  | serialPollBegin
  | serialPoll (addr : Nat)
  | callback (client : Client) (statusByte : Nat)
  | serialPollEnd
  deriving DecidableEq, Repr

/-- One try of `srqPoll`; `srqStatus` is `none` when it fails. -/
structure Try where
  srqStatus : Option Bool
  devices : Devices
  clients : List Client

/-- The test that the loop over the client list makes. -/
def isCalled (port : Port) (addr : Nat) (client : Client) : Bool :=
  match getAddr port client.connection with
  | .error _ => false
  | .ok (userAddr, _) => userAddr == addr && client.reason == asynReasonSignal

/-- The callbacks after `serialPoll` of `addr`. -/
def callClients (port : Port) (t : Try) (addr : Nat) : List PollEvent :=
  match t.devices.serialPoll addr with
  | none => []
  | some statusByte =>
      if statusByte &&& 0x40 ≠ 0 then
        (t.clients.filter (isCalled port addr)).map (.callback · statusByte)
      else []

def pollOne (port : Port) (t : Try) (node : PollNode) (addr : Nat) : List PollEvent :=
  match node.pasynUser with
  | none => []
  | some user =>
      if t.devices.reachable user then .serialPoll addr :: callClients port t addr else []

/-- One `serialPollBegin`, the two loops, and `serialPollEnd`. -/
def pollPass (port : Port) (pollList : PollList) (t : Try) : List PollEvent :=
  .serialPollBegin ::
    ((List.range numGpibAddresses).flatMap fun primary =>
      (if (pollList primary).primary.pollIt then
        pollOne port t (pollList primary).primary primary
      else []) ++
      (if (pollList primary).pollSecondary then
        (List.range numGpibAddresses).flatMap fun secondary =>
          let addr := primary * 100 + secondary
          if ((pollList primary).secondary secondary).pollIt then
            pollOne port t ((pollList primary).secondary secondary) addr
          else []
      else [])) ++
    [.serialPollEnd]

/-- The loop of `srqPoll` with `remaining` tries left. -/
def srqPollFrom (port : Port) (pollList : PollList) (tries : Nat → Try) (ntrys : Nat) :
    Nat → List (List PollEvent)
  | 0 => []
  | remaining + 1 =>
      match (tries ntrys).srqStatus with
      | some true =>
          pollPass port pollList (tries ntrys) ::
            srqPollFrom port pollList tries (ntrys + 1) remaining
      | _ => []

/-- The passes of one `srqPoll`. -/
def srqPoll (port : Port) (pollList : PollList) (tries : Nat → Try) : List (List PollEvent) :=
  srqPollFrom port pollList tries 0 maxPoll

/-! ## Runs of `pollAddr` -/

/-- A GPIB address of the port: primary, or primary and secondary.  A port without
`ASYN_MULTIDEVICE` has address 0 only. -/
structure Address (port : Port) where
  val : Nat
  valid :
    if port.multiDevice then
      val < numGpibAddresses ∨
        100 ≤ val ∧ val / 100 < numGpibAddresses ∧ val % 100 < numGpibAddresses
    else val = 0

variable {port : Port}

/-- The `asynUser` with which the address is switched. -/
def Address.user (a : Address port) : Connection :=
  if port.multiDevice then .device a.val else .port

structure Call (port : Port) where
  addr : Address port
  onOff : Bool
  answers : SwitchAnswers

/-- The poll list, and the calls with their status, the latest first. -/
structure State (port : Port) where
  pollList : PollList
  log : List (Call port × AsynStatus)

def State.init : State port := ⟨.empty, []⟩

def State.call (s : State port) (c : Call port) : State port :=
  let (pollList, status) := pollAddr port s.pollList c.addr.user c.onOff c.answers
  ⟨pollList, (c, status) :: s.log⟩

def run (calls : List (Call port)) : State port := calls.foldl State.call .init

/-- What the last successful `pollAddr` of an address has asked for. -/
def State.lastSwitch (s : State port) (addr : Nat) : Option Bool :=
  (s.log.find? fun entry => entry.1.addr.val == addr && entry.2 == .asynSuccess).map (·.1.onOff)

/-! ## What each pass has to do -/

/-- The address of the client, by its `asynUser`. -/
def Client.address (port : Port) (client : Client) : Option Nat :=
  match client.connection with
  | .notConnected => none
  | .port => if port.multiDevice then none else some 0
  | .device addr => some (if port.multiDevice then addr else 0)

/-- Registered for the SRQs of `addr`. -/
def Client.registeredFor (port : Port) (addr : Nat) (client : Client) : Bool :=
  client.address port == some addr && client.reason == asynReasonSignal

def PollEvent.polled : PollEvent → Option Nat
  | .serialPoll addr => some addr
  | _ => none

def PollEvent.called : PollEvent → Option (Client × Nat)
  | .callback client statusByte => some (client, statusByte)
  | _ => none

/-- A status byte with bit 0x40 goes to the clients registered for the address. -/
def deliveries (port : Port) (t : Try) (addr : Nat) : List (Client × Nat) :=
  match t.devices.serialPoll addr with
  | none => []
  | some statusByte =>
      if statusByte &&& 0x40 ≠ 0 then
        (t.clients.filter (Client.registeredFor port addr)).map (·, statusByte)
      else []

/-- One pass after the calls in `s`. -/
structure PassExact (s : State port) (S : Set (Address port)) (t : Try) (pass : List PollEvent) :
    Prop where
  once : (pass.filterMap PollEvent.polled).Nodup
  polled : ∀ addr, addr ∈ pass.filterMap PollEvent.polled ↔
    ∃ a ∈ S, a.val = addr ∧ s.lastSwitch addr = some true
  delivered : pass.filterMap PollEvent.called =
    (pass.filterMap PollEvent.polled).flatMap (deliveries port t)

/-- The node of an address, as `pollAddr` finds it. -/
def nodeOf (a : Address port) : Except String NodeRef :=
  (getAddr port a.user).map Prod.snd

/-- Different addresses have different nodes, and after every sequence of `pollAddr` calls for the
addresses each pass does what it has to. -/
structure PollsExactly (port : Port) (S : Set (Address port)) (tries : Nat → Try) : Prop where
  injective : Set.InjOn nodeOf S
  passes : ∀ calls : List (Call port), (∀ c ∈ calls, c.addr ∈ S) → ∀ i pass,
    (srqPoll port (run calls).pollList tries)[i]? = some pass →
      PassExact (run calls) S (tries i) pass

/-- The try `i` makes a pass. -/
def Polls (tries : Nat → Try) (i : Nat) : Prop :=
  i < maxPoll ∧ ∀ j ≤ i, (tries j).srqStatus = some true

/-- A primary address, or a secondary one that equals its primary. -/
def Address.kept (a : Address port) : Prop :=
  a.val < 100 ∨ a.val % 100 = a.val / 100

/-! ## The poll list under one call -/

variable {pollList : PollList} {r r' : NodeRef} {n : PollNode}

@[simp]
theorem node_empty : PollList.empty.node r = ⟨false, none⟩ := by
  cases r <;> rfl

@[simp]
theorem node_setPollSecondary : (pollList.setPollSecondary r).node r' = pollList.node r' := by
  cases r with
  | primary p => rfl
  | secondary p s =>
      cases r' with
      | primary p' => by_cases hp : p' = p <;> simp [PollList.setPollSecondary, PollList.node, hp]
      | secondary p' s' =>
          by_cases hp : p' = p <;> simp [PollList.setPollSecondary, PollList.node, hp]

@[simp]
theorem node_setNode_self : (pollList.setNode r n).node r = n := by
  cases r <;> simp [PollList.setNode, PollList.node]

theorem node_setNode_of_ne (hne : r' ≠ r) : (pollList.setNode r n).node r' = pollList.node r' := by
  cases r with
  | primary p =>
      cases r' with
      | primary p' =>
          have hp : p' ≠ p := fun h => hne (by rw [h])
          simp [PollList.setNode, PollList.node, hp]
      | secondary p' s' => by_cases hp : p' = p <;> simp [PollList.setNode, PollList.node, hp]
  | secondary p s =>
      cases r' with
      | primary p' => by_cases hp : p' = p <;> simp [PollList.setNode, PollList.node, hp]
      | secondary p' s' =>
          by_cases hp : p' = p
          · have hs : s' ≠ s := fun h => hne (by rw [hp, h])
            simp [PollList.setNode, PollList.node, hp, hs]
          · simp [PollList.setNode, PollList.node, hp]

@[simp]
theorem looksAt_setNode : (pollList.setNode r n).looksAt r' = pollList.looksAt r' := by
  cases r' with
  | primary p' => rfl
  | secondary p' s' =>
      cases r with
      | primary p => by_cases hp : p' = p <;> simp [PollList.setNode, PollList.looksAt, hp]
      | secondary p s => by_cases hp : p' = p <;> simp [PollList.setNode, PollList.looksAt, hp]

theorem looksAt_setPollSecondary_self : (pollList.setPollSecondary r).looksAt r = true := by
  cases r <;> simp [PollList.setPollSecondary, PollList.looksAt]

theorem looksAt_setPollSecondary (hlooks : pollList.looksAt r' = true) :
    (pollList.setPollSecondary r).looksAt r' = true := by
  cases r with
  | primary p => exact hlooks
  | secondary p s =>
      cases r' with
      | primary p' => rfl
      | secondary p' s' =>
          by_cases hp : p' = p
          · simp [PollList.setPollSecondary, PollList.looksAt, hp]
          · simpa [PollList.setPollSecondary, PollList.looksAt, hp] using hlooks

/-- One `pollAddr` for an address with the node `r`: it says what it has done to that node, and does
nothing to the others. -/
structure Switched (addr : Nat) (r : NodeRef) (onOff : Bool) (pollList pollList' : PollList)
    (status : AsynStatus) : Prop where
  others : ∀ r', r' ≠ r → pollList'.node r' = pollList.node r'
  looksAt_of_looksAt : ∀ r', pollList.looksAt r' = true → pollList'.looksAt r' = true
  looksAt_self : pollList'.looksAt r = true
  outcome :
    status = .asynSuccess ∧ (pollList'.node r).pollIt = onOff ∧
        (onOff = true → (pollList'.node r).pasynUser = some addr) ∨
      status ≠ .asynSuccess ∧
        (pollList'.node r = pollList.node r ∨
          (pollList.node r).pollIt = false ∧ (pollList'.node r).pollIt = false)

theorem switched_setNode {addr : Nat} {onOff : Bool} {status : AsynStatus}
    (houtcome :
      status = .asynSuccess ∧ n.pollIt = onOff ∧ (onOff = true → n.pasynUser = some addr) ∨
        status ≠ .asynSuccess ∧ (pollList.node r).pollIt = false ∧ n.pollIt = false) :
    Switched addr r onOff pollList ((pollList.setPollSecondary r).setNode r n) status where
  others := by
    intro r' hne
    rw [node_setNode_of_ne hne, node_setPollSecondary]
  looksAt_of_looksAt := by
    intro r' hlooks
    rw [looksAt_setNode]
    exact looksAt_setPollSecondary hlooks
  looksAt_self := by
    rw [looksAt_setNode]
    exact looksAt_setPollSecondary_self
  outcome := by
    rw [node_setNode_self]
    rcases houtcome with hsuccess | ⟨hfailed, hoff, hstays⟩
    · exact .inl hsuccess
    · exact .inr ⟨hfailed, .inr ⟨hoff, hstays⟩⟩

theorem pollAddr_switched {user : Connection} {addr : Nat} (onOff : Bool) (answers : SwitchAnswers)
    (haddr : getAddr port user = .ok (addr, r)) :
    Switched addr r onOff pollList (pollAddr port pollList user onOff answers).1
      (pollAddr port pollList user onOff answers).2 := by
  simp only [pollAddr, haddr, node_setPollSecondary]
  by_cases hunchanged : (pollList.node r).pollIt = onOff
  · -- "poll state not changed"
    rw [if_pos hunchanged]
    exact
      { others := fun _ _ => node_setPollSecondary
        looksAt_of_looksAt := fun _ => looksAt_setPollSecondary
        looksAt_self := looksAt_setPollSecondary_self
        outcome := .inr ⟨nofun, .inl node_setPollSecondary⟩ }
  · rw [if_neg hunchanged]
    cases onOff with
    | false => exact switched_setNode (.inl ⟨rfl, rfl, nofun⟩)
    | true =>
        have hoff : (pollList.node r).pollIt = false := Bool.eq_false_iff.mpr hunchanged
        cases answers.connectDevice with
        | false => exact switched_setNode (.inr ⟨nofun, hoff, rfl⟩)
        | true =>
            cases answers.findInterface with
            | false => exact switched_setNode (.inr ⟨nofun, hoff, rfl⟩)
            | true => exact switched_setNode (.inl ⟨rfl, rfl, fun _ => rfl⟩)

/-! ## Addresses and nodes -/

/-- The node that `getAddr` finds for a legal address. -/
def Address.node (a : Address port) : NodeRef :=
  if a.val < 100 then .primary a.val else .secondary (a.val / 100) (a.val / 100 % 100)

theorem getAddr_user (a : Address port) : getAddr port a.user = .ok (a.val, a.node) := by
  have hvalid := a.valid
  cases hmulti : port.multiDevice with
  | false =>
      have hzero : a.val = 0 := by simpa [hmulti] using hvalid
      simp [getAddr, managerGetAddr, Address.user, Address.node, hmulti, hzero]
  | true =>
      simp only [hmulti, if_true, numGpibAddresses] at hvalid
      simp only [getAddr, managerGetAddr, Address.user, Address.node, hmulti, if_true]
      by_cases hprimary : a.val < 100
      · have hbound : ¬ numGpibAddresses ≤ a.val := by
          unfold numGpibAddresses
          omega
        rw [if_pos hprimary, if_neg hbound, if_pos hprimary]
      · have hbound : ¬ (numGpibAddresses ≤ a.val / 100 ∨
            numGpibAddresses ≤ a.val / 100 % 100) := by
          unfold numGpibAddresses
          omega
        rw [if_neg hprimary, if_neg hbound, if_neg hprimary]

theorem nodeOf_eq (a : Address port) : nodeOf a = .ok a.node := by
  rw [nodeOf, getAddr_user]
  rfl

/-- The address that `srqPoll` builds again from the position of a node. -/
def NodeRef.addr : NodeRef → Nat
  | .primary p => p
  | .secondary p s => p * 100 + s

def NodeRef.inTable : NodeRef → Prop
  | .primary p => p < numGpibAddresses
  | .secondary p s => p < numGpibAddresses ∧ s < numGpibAddresses

theorem node_inTable (a : Address port) : a.node.inTable := by
  have hvalid := a.valid
  cases hmulti : port.multiDevice with
  | false =>
      have hzero : a.val = 0 := by simpa [hmulti] using hvalid
      simp [Address.node, hzero, NodeRef.inTable, numGpibAddresses]
  | true =>
      simp only [hmulti, if_true, numGpibAddresses] at hvalid
      unfold Address.node
      split
      · change a.val < 32
        omega
      · change a.val / 100 < 32 ∧ a.val / 100 % 100 < 32
        omega

/-- The position of a node gives back the address exactly when nothing is lost. -/
theorem node_addr_eq_iff (a : Address port) : a.node.addr = a.val ↔ a.kept := by
  have hvalid := a.valid
  cases hmulti : port.multiDevice with
  | false =>
      have hzero : a.val = 0 := by simpa [hmulti] using hvalid
      simp [Address.node, Address.kept, NodeRef.addr, hzero]
  | true =>
      simp only [hmulti, if_true, numGpibAddresses] at hvalid
      unfold Address.node Address.kept
      by_cases hprimary : a.val < 100
      · simp [NodeRef.addr, hprimary]
      · simp only [if_neg hprimary, NodeRef.addr]
        omega

theorem eq_of_node_eq {a b : Address port} (ha : a.kept) (hb : b.kept) (hnode : a.node = b.node) :
    a = b := by
  have hval : a.val = b.val := by
    rw [← (node_addr_eq_iff a).mpr ha, ← (node_addr_eq_iff b).mpr hb, hnode]
  cases a
  cases b
  cases hval
  rfl

end PollTable
end Gpib
end AsynDriver
