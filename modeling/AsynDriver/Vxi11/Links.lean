import Mathlib.Data.List.Basic
import Mathlib.Tactic.Common
import AsynDriver.Manager.Types

/-!
# The device links of `drvVxi11.c`

A port has a link to its server and one to every device that has been connected.  The response that
creates a link announces how many bytes a `device_write` on it may carry; the port keeps one
`maxRecvSize` for all of its links, and keeps it when it disconnects.

* `vxiCreateDeviceLink` — what a `create_link` response does to the port.
* `vxiConnect`, `vxiDisconnect`, `vxiSerialPoll` — the operations that create and destroy links.
* `vxiDisconnectPort` — also called when an RPC fails otherwise than by its timeout.

Left out: the SRQ channel, the termination characters, and the texts of the traces.
-/

namespace AsynDriver
namespace Vxi11

open Manager (AsynStatus)

/-- `NUM_GPIB_ADDRESSES` -/
def numGpibAddresses : Nat := 32

/-- `announced` is the `maxRecvSize` of the response that has created the link.  The source does not
keep it with the link. -/
structure DevLink where
  lid : Int
  connected : Bool
  announced : Nat
  deriving DecidableEq, Repr

/-- `pvxiPort->server`, `primary[p].primary` and `primary[p].secondary[s]` -/
inductive Slot
  | server
  | primary (addr : Nat)
  | secondary (primary secondary : Nat)
  deriving DecidableEq, Repr

structure VxiPort where
  isGpibLink : Bool
  isSingleLink : Bool
  recoverWithIFC : Bool
  ctrlAddr : Int
  maxRecvSize : Nat
  abortPort : Nat
  link : Slot → DevLink

def DevLink.unused : DevLink := ⟨0, false, 0⟩

/-- The port as `vxi11Configure` leaves it. -/
def VxiPort.configured (isGpibLink isSingleLink recoverWithIFC : Bool) : VxiPort where
  isGpibLink := isGpibLink
  isSingleLink := isSingleLink
  recoverWithIFC := recoverWithIFC
  ctrlAddr := 0
  maxRecvSize := 0
  abortPort := 0
  link := fun _ => .unused

namespace VxiPort

variable (p : VxiPort)

def setLink (slot : Slot) (link : DevLink) : VxiPort :=
  { p with link := fun other => if other = slot then link else p.link other }

/-- `vxiIsPortConnected` -/
def isConnected : Bool := (p.link .server).connected

end VxiPort

/-! ## Links -/

/-- What comes of the `create_link` call. -/
inductive CreateLink
  | rpcError
  | error
  | created (lid : Int) (maxRecvSize abortPort : Nat)
  deriving DecidableEq, Repr

/-- `none`: the function returns `FALSE`, and nothing has changed. -/
def vxiCreateDeviceLink (p : VxiPort) : CreateLink → Option (VxiPort × DevLink)
  | .rpcError => none
  | .error => none
  | .created lid maxRecvSize abortPort =>
      some
        ({ p with
          maxRecvSize := if p.maxRecvSize = 0 then maxRecvSize else p.maxRecvSize
          abortPort := if p.abortPort = 0 then abortPort else p.abortPort },
        ⟨lid, true, maxRecvSize⟩)

def vxiGetDevLink (p : VxiPort) (addr : Int) : Option Slot :=
  if p.isSingleLink ∨ addr < 0 then some .server
  else
    let primary := if addr < 100 then addr.toNat else addr.toNat / 100
    let secondary := if addr < 100 then 0 else addr.toNat % 100
    if numGpibAddresses ≤ primary ∨ numGpibAddresses ≤ secondary then none
    else if addr < 100 then some (.primary primary)
    else some (.secondary primary secondary)

/-- The slots that `vxiDisconnectPort` looks at. -/
def VxiPort.isDisconnected (p : VxiPort) : Slot → Bool
  | .server => true
  | .primary addr => !p.isSingleLink && addr < numGpibAddresses
  | .secondary primary secondary =>
      !p.isSingleLink && primary < numGpibAddresses && secondary < numGpibAddresses

def DevLink.disconnect (link : DevLink) : DevLink :=
  if link.connected then { link with lid := 0, connected := false } else link

def vxiDisconnectPort (p : VxiPort) : VxiPort × AsynStatus :=
  if !p.isConnected then (p, .asynError)
  else
    ({ p with
      link := fun slot => if p.isDisconnected slot then (p.link slot).disconnect else p.link slot },
    .asynSuccess)

/-- `clnt_stat` -/
inductive ClntStat
  | success
  | timedOut
  | failed
  deriving DecidableEq, Repr

/-- What `clientCall` and `clientIoCall` do with the port. -/
def clientCall (p : VxiPort) : ClntStat → VxiPort
  | .success => p
  | .timedOut => p
  | .failed => (vxiDisconnectPort p).1

/-! ## The port -/

/-- What `vxiConnectPort` gets: whether there is a client for the RPCs, the answer to `create_link`,
and those of `vxiBusStatus`.  The status of the last one is not used. -/
structure ConnectAnswers where
  client : Bool
  createLink : CreateLink
  busAddress : Except AsynStatus Nat
  systemController : Except AsynStatus Bool
  controllerInCharge : Option Bool

/-- The status if the port is no controller, or cannot be asked. -/
def ConnectAnswers.notController (a : ConnectAnswers) : Option AsynStatus :=
  match a.systemController with
  | .error status => some status
  | .ok true => none
  | .ok false => if a.controllerInCharge = some true then none else some .asynError

def vxiConnectPort (p : VxiPort) (a : ConnectAnswers) : VxiPort × AsynStatus :=
  if p.isConnected then (p, .asynError)
  else if !a.client then (p, .asynError)
  else
    -- the abort port is that of this connection, unlike `maxRecvSize`
    let opened := { p with abortPort := 0 }
    match vxiCreateDeviceLink opened a.createLink with
    | none => (opened, .asynError)
    | some (created, link) =>
        let connected := { created.setLink .server link with ctrlAddr := -1 }
        if !p.isGpibLink then (connected, .asynSuccess)
        else
          match a.busAddress with
          | .error status => ((vxiDisconnectPort connected).1, status)
          | .ok ctrlAddr =>
              let controller :=
                { connected.setLink (.primary ctrlAddr) link with ctrlAddr := ctrlAddr }
              match a.notController with
              | none => (controller, .asynSuccess)
              | some status => ((vxiDisconnectPort controller).1, status)

/-! ## Devices -/

def vxiConnect (p : VxiPort) (addr : Int) (a : ConnectAnswers) (createLink : CreateLink) :
    VxiPort × AsynStatus :=
  match vxiGetDevLink p addr with
  | none => (p, .asynError)
  | some slot =>
      if (p.link slot).connected then (p, .asynError)
      else if addr ≠ -1 ∧ !p.isConnected then (p, .asynSuccess)
      else if addr = -1 then vxiConnectPort p a
      else
        match vxiCreateDeviceLink p createLink with
        | none => (p, .asynError)
        | some (created, link) => (created.setLink slot link, .asynSuccess)

/-- `destroyed` is what `vxiDestroyDevLink` returns. -/
def vxiDisconnect (p : VxiPort) (addr : Int) (destroyed : Bool) : VxiPort × AsynStatus :=
  match vxiGetDevLink p addr with
  | none => (p, .asynError)
  | some slot =>
      if !(p.link slot).connected then (p, .asynError)
      else if addr = -1 then vxiDisconnectPort p
      else
        (p.setLink slot (p.link slot).disconnect, if destroyed then .asynSuccess else .asynError)

/-- The links of `vxiSerialPoll`: a device that is not connected gets its link here. -/
def vxiSerialPoll (p : VxiPort) (addr : Int) (createLink : CreateLink) (readStb : ClntStat) :
    VxiPort :=
  if addr < 0 then p
  else
    match vxiGetDevLink p addr with
    | none => p
    | some slot =>
        if (p.link slot).connected then clientCall p readStb
        else
          match vxiCreateDeviceLink p createLink with
          | none => p
          | some (created, link) => clientCall (created.setLink slot link) readStb

/-! ## One size for all links -/

/-- All connected links have announced `m`, and it is what the port has kept. -/
structure Uniform (m : Nat) (p : VxiPort) : Prop where
  size : p.maxRecvSize = 0 ∨ p.maxRecvSize = m
  link : ∀ slot, (p.link slot).connected = true →
    (p.link slot).announced = m ∧ p.maxRecvSize = m

/-- A response that creates a link announces `m`. -/
def CreateLink.Announces (m : Nat) : CreateLink → Prop
  | .created _ maxRecvSize _ => maxRecvSize = m
  | _ => True

instance (m : Nat) (response : CreateLink) : Decidable (response.Announces m) := by
  cases response <;> unfold CreateLink.Announces <;> infer_instance

section
variable {m : Nat} {p created : VxiPort} {link : DevLink}

theorem uniform_configured (isGpibLink isSingleLink recoverWithIFC : Bool) :
    Uniform m (.configured isGpibLink isSingleLink recoverWithIFC) where
  size := Or.inl rfl
  link := by
    intro slot hconnected
    cases hconnected

theorem disconnect_connected (l : DevLink) : l.disconnect.connected = false := by
  unfold DevLink.disconnect
  split
  · rfl
  · next hnot => exact Bool.not_eq_true _ ▸ hnot

theorem Uniform.setLink (hp : Uniform m p) {slot : Slot} {l : DevLink}
    (hlink : l.connected = true → l.announced = m ∧ p.maxRecvSize = m) :
    Uniform m (p.setLink slot l) where
  size := hp.size
  link := by
    intro other
    simp only [VxiPort.setLink]
    split
    · exact hlink
    · exact hp.link other

theorem Uniform.disconnectPort (hp : Uniform m p) : Uniform m (vxiDisconnectPort p).1 := by
  unfold vxiDisconnectPort
  split
  · exact hp
  · refine ⟨hp.size, ?_⟩
    intro slot
    dsimp only
    split
    · intro hconnected
      rw [disconnect_connected] at hconnected
      cases hconnected
    · exact hp.link slot

theorem Uniform.clientCall (hp : Uniform m p) (stat : ClntStat) :
    Uniform m (clientCall p stat) := by
  cases stat with
  | success => exact hp
  | timedOut => exact hp
  | failed => exact hp.disconnectPort

/-- The first link gives the port its size; the others find it there. -/
theorem Uniform.createDeviceLink (hp : Uniform m p) {response : CreateLink}
    (hannounces : response.Announces m)
    (hcreate : vxiCreateDeviceLink p response = some (created, link)) :
    Uniform m created ∧ link.announced = m ∧ created.maxRecvSize = m := by
  cases response with
  | rpcError => cases hcreate
  | error => cases hcreate
  | created lid maxRecvSize abortPort =>
      cases hcreate
      have hm : maxRecvSize = m := hannounces
      subst hm
      have hsize : (if p.maxRecvSize = 0 then maxRecvSize else p.maxRecvSize) = maxRecvSize := by
        split
        · rfl
        · next hne => exact hp.size.resolve_left hne
      exact ⟨⟨Or.inr hsize, fun slot hconnected => ⟨(hp.link slot hconnected).1, hsize⟩⟩, rfl, hsize⟩

theorem Uniform.connectPort (hp : Uniform m p) {a : ConnectAnswers}
    (hannounces : a.createLink.Announces m) : Uniform m (vxiConnectPort p a).1 := by
  have hopened : Uniform m { p with abortPort := 0 } := ⟨hp.size, hp.link⟩
  unfold vxiConnectPort
  split
  · exact hp
  split
  · exact hp
  dsimp only
  split
  · exact hopened
  · next created link hcreate =>
      obtain ⟨hcreated, hlink⟩ := hopened.createDeviceLink hannounces hcreate
      have hset : Uniform m (created.setLink .server link) := hcreated.setLink fun _ => hlink
      have hserver : Uniform m { created.setLink .server link with ctrlAddr := -1 } :=
        ⟨hset.size, hset.link⟩
      split
      · exact hserver
      split
      · exact hserver.disconnectPort
      · next ctrlAddr _ =>
          have hset : Uniform m (VxiPort.setLink _ (.primary ctrlAddr) link) :=
            hserver.setLink fun _ => hlink
          have hcontroller : Uniform m
              { { created.setLink .server link with ctrlAddr := -1 }.setLink (.primary ctrlAddr)
                link with ctrlAddr := ctrlAddr } := ⟨hset.size, hset.link⟩
          split
          · exact hcontroller
          · exact hcontroller.disconnectPort

theorem Uniform.connect (hp : Uniform m p) {addr : Int} {a : ConnectAnswers}
    {createLink : CreateLink} (hport : a.createLink.Announces m)
    (hdevice : createLink.Announces m) : Uniform m (vxiConnect p addr a createLink).1 := by
  unfold vxiConnect
  split
  · exact hp
  · next slot _ =>
      split
      · exact hp
      split
      · exact hp
      split
      · exact hp.connectPort hport
      split
      · exact hp
      · next created link hcreate =>
          obtain ⟨hcreated, hlink⟩ := hp.createDeviceLink hdevice hcreate
          exact hcreated.setLink fun _ => hlink

theorem Uniform.disconnect (hp : Uniform m p) (addr : Int) (destroyed : Bool) :
    Uniform m (vxiDisconnect p addr destroyed).1 := by
  unfold vxiDisconnect
  split
  · exact hp
  · next slot _ =>
      split
      · exact hp
      split
      · exact hp.disconnectPort
      · refine hp.setLink ?_
        intro hconnected
        rw [disconnect_connected] at hconnected
        cases hconnected

theorem Uniform.serialPoll (hp : Uniform m p) {addr : Int} {createLink : CreateLink}
    {readStb : ClntStat} (hannounces : createLink.Announces m) :
    Uniform m (vxiSerialPoll p addr createLink readStb) := by
  unfold vxiSerialPoll
  split
  · exact hp
  split
  · exact hp
  · next slot _ =>
      split
      · exact hp.clientCall readStb
      split
      · exact hp
      · next created link hcreate =>
          obtain ⟨hcreated, hlink⟩ := hp.createDeviceLink hannounces hcreate
          exact (hcreated.setLink fun _ => hlink).clientCall readStb

end

end Vxi11
end AsynDriver
