import Mathlib.Data.List.Basic
import Mathlib.Tactic.Common
import AsynDriver.Library.Machine
import AsynDriver.Manager.Types

/-!
# The input terminator of `asynGpib.c`

`setInputEos` hands the terminator to the low level driver, which keeps one for each device link, and
keeps it in `gpibPvt` too, where there is one for the whole port.  `getInputEos` and `readIt` go by the
one of the port, and `connect` sends it to whatever address is connected; `getEos` of the driver is
never called.

* `vxiGetDevLink`, `vxiSetEos`, `vxiRead` — the low level driver, by the example of `drvVxi11.c`.
* `setInputEos`, `getInputEos`, `connect`, `readIt` — the methods of `asynGpib.c`.
* `StepSound` — what a call for one address has to do about the terminators.
* `stepSound_iff` — when it does that: no other address has a say.

All methods are called with the port locked, so a run is a sequence of calls.  Left out: the NUL that
`readIt` puts behind the bytes and the call of the interrupt users.
-/

namespace AsynDriver
namespace Gpib
namespace Terminator

open Library
open Manager (AsynStatus)

/-- The address of an `asynUser`; `none` is -1. -/
abbrev Addr := Option Nat

/-! ## The low level driver -/

/-- `NUM_GPIB_ADDRESSES` -/
def numGpibAddresses : Nat := 32

/-- A `devLink` of `vxiPort`. -/
inductive DevLink
  | server
  | primary (primary : Nat)
  | secondary (primary secondary : Nat)
  deriving DecidableEq, Repr

def vxiGetDevLink : Addr → Option DevLink
  | none => some .server
  | some addr =>
      let primary := if addr < 100 then addr else addr / 100
      let secondary := if addr < 100 then 0 else addr % 100
      if numGpibAddresses ≤ primary ∨ numGpibAddresses ≤ secondary then none
      else if addr < 100 then some (.primary addr)
      else some (.secondary primary secondary)

/-- `devLink.eos`; `none` is -1. -/
abbrev Links := DevLink → Option UInt8

/-- `none`: the call fails. -/
def vxiSetEos (links : Links) (addr : Addr) (eos : UInt8) (eoslen : Int) : Option Links :=
  match vxiGetDevLink addr with
  | none => none
  | some l =>
      if eoslen = 1 then some (Function.update links l (some eos))
      else if eoslen = 0 then some (Function.update links l none)
      else none

/-- `eomReason` -/
structure EomReason where
  cnt : Bool
  eos : Bool
  endIndicator : Bool
  deriving DecidableEq, Repr

/-- What the instrument sends.  It gives the reasons `VXI_REQCNT`, `VXI_CHR` and `VXI_ENDR`; the second
only when a termination character was asked for and is the last byte. -/
structure Reply where
  status : AsynStatus
  data : List UInt8
  reqcnt : Bool
  chr : Bool
  endr : Bool
  deriving DecidableEq, Repr

/-- The bytes end with the terminator. -/
def EndsWith (data : List UInt8) (eos : Option UInt8) : Prop :=
  ∃ c, data.getLast? = some c ∧ eos = some c

instance (data : List UInt8) (eos : Option UInt8) : Decidable (EndsWith data eos) :=
  decidable_of_iff (eos.isSome ∧ data.getLast? = eos) (by
    unfold EndsWith
    constructor
    · rintro ⟨hsome, hlast⟩
      obtain ⟨c, rfl⟩ := Option.isSome_iff_exists.mp hsome
      exact ⟨c, hlast, rfl⟩
    · rintro ⟨c, hlast, rfl⟩
      exact ⟨rfl, hlast⟩)

structure ReadResult where
  status : AsynStatus
  data : List UInt8
  nbytesTransferred : Nat
  eomReason : EomReason
  deriving DecidableEq, Repr

def vxiRead (links : Links) (addr : Addr) (reply : Reply) : ReadResult :=
  match vxiGetDevLink addr with
  | none => ⟨.asynError, [], 0, ⟨false, false, false⟩⟩
  | some l =>
      ⟨reply.status, reply.data, reply.data.length,
        ⟨reply.reqcnt, reply.chr && decide (EndsWith reply.data (links l)), reply.endr⟩⟩

/-! ## The port -/

/-- `eoslen` and `eos` of `gpibPvt`, and the links of the driver.  The log has the address and the
terminator of each successful `setInputEos`, the latest first. -/
structure State where
  portName : String
  eoslen : Int
  eos : UInt8
  links : Links
  log : List (Addr × Option UInt8)

def start (portName : String) : State := ⟨portName, 0, 0, fun _ => none, []⟩

/-- The terminator that `eos` and `eoslen` stand for. -/
def terminator (eos : UInt8) (eoslen : Int) : Option UInt8 :=
  if eoslen = 1 then some eos else none

/-- On failure the message, or `none` when the driver has failed. -/
def setInputEos (s : State) (addr : Addr) (eos : UInt8) (eoslen : Int) :
    Except (Option String) State :=
  if 1 < eoslen then
    .error (some (s.portName ++ " asynGpib:setInputEos eoslen " ++ toString eoslen ++
      " too long. only 1 is allowed"))
  else
    match vxiSetEos s.links addr eos eoslen with
    | none => .error none
    | some links =>
        .ok { s with
          eoslen := eoslen
          eos := if eoslen = 1 then eos else s.eos
          links := links
          log := (addr, terminator eos eoslen) :: s.log }

/-- The length, and the buffer of the caller after the call. -/
def getInputEos (s : State) (buffer : Nat → UInt8) (eossize : Int) : Int × (Nat → UInt8) :=
  let len := s.eoslen
  let buffer := if len = 1 then Function.update buffer 0 s.eos else buffer
  (len, if len < eossize then Function.update buffer len.toNat 0 else buffer)

/-- The terminator that the caller of `getInputEos` finds. -/
def terminatorGot (result : Int × (Nat → UInt8)) : List UInt8 :=
  (List.range result.1.toNat).map result.2

/-- `ok`: the driver has connected. -/
def connect (s : State) (addr : Addr) (ok : Bool) : State :=
  if ok && (vxiGetDevLink addr).isSome then
    if s.eoslen = 1 then
      match vxiSetEos s.links addr s.eos s.eoslen with
      | none => s
      | some links => { s with links := links }
    else s
  else s

def readIt (s : State) (addr : Addr) (maxchars : Nat) (reply : Reply) : ReadResult :=
  let r := vxiRead s.links addr reply
  if r.status ≠ .asynSuccess then r
  else
    let strips : Bool := s.eoslen = 1 ∧ EndsWith r.data (some s.eos)
    let nt := if strips then r.nbytesTransferred - 1 else r.nbytesTransferred
    { r with
      nbytesTransferred := nt
      eomReason :=
        { r.eomReason with
          cnt := r.eomReason.cnt || nt = maxchars
          eos := r.eomReason.eos || strips } }

/-! ## Runs -/

inductive Action
  | setInputEos (addr : Addr) (eos : UInt8) (eoslen : Int)
  | getInputEos (addr : Addr) (buffer : Nat → UInt8) (eossize : Int)
  | connect (addr : Addr) (ok : Bool)
  | read (addr : Addr) (maxchars : Nat) (reply : Reply)

def next (s : State) : Action → State
  | .setInputEos addr eos eoslen =>
      match setInputEos s addr eos eoslen with
      | .error _ => s
      | .ok s' => s'
  | .connect addr ok => connect s addr ok
  | .getInputEos _ _ _ | .read _ _ _ => s

def machine : Machine State Action where
  init := fun s => ∃ portName, s = start portName
  step := fun s a => some (next s a)

/-- The terminator last set for the address, none if it was never set. -/
def State.lastSet (s : State) (addr : Addr) : Option UInt8 :=
  (s.log.find? fun entry => entry.1 == addr).bind (·.2)

/-- The terminator last set for any address. -/
def State.lastSetAny (s : State) : Option UInt8 :=
  s.log.head?.bind (·.2)

/-- What the driver goes by at the address. -/
def State.inForce (s : State) (addr : Addr) : Option UInt8 :=
  (vxiGetDevLink addr).bind s.links

/-- `getInputEos` gives the terminator last set for the address; `connect` leaves that in force, and
those of the other addresses alone; a successful read strips the last byte, and reports
`ASYN_EOM_EOS`, exactly when it is the terminator last set for the address. -/
def StepSound (s : State) : Action → Prop
  | .setInputEos _ _ _ => True
  | .getInputEos addr buffer eossize =>
      terminatorGot (getInputEos s buffer eossize) = (s.lastSet addr).toList
  | .connect addr ok =>
      (connect s addr ok).inForce addr = s.lastSet addr ∧
        ∀ other, other ≠ addr → (connect s addr ok).inForce other = s.inForce other
  | .read addr maxchars reply =>
      (readIt s addr maxchars reply).status = .asynSuccess →
        ((readIt s addr maxchars reply).nbytesTransferred + 1 = reply.data.length ↔
            EndsWith reply.data (s.lastSet addr)) ∧
          ((readIt s addr maxchars reply).eomReason.eos = true ↔
            EndsWith reply.data (s.lastSet addr))

/-- The terminator last set on the port is the one last set for the address; or it does not matter:
`connect` sends none when it is empty, and a reply may end with neither of the two. -/
def OwnTerminator (s : State) : Action → Prop
  | .setInputEos _ _ _ => True
  | .getInputEos addr _ _ => s.lastSetAny = s.lastSet addr
  | .connect addr ok =>
      ok = true → vxiGetDevLink addr ≠ none →
        s.lastSetAny = none ∨ s.lastSetAny = s.lastSet addr
  | .read addr _ reply =>
      vxiGetDevLink addr ≠ none → reply.status = .asynSuccess →
        s.lastSetAny = s.lastSet addr ∨
          ¬ EndsWith reply.data s.lastSetAny ∧ ¬ EndsWith reply.data (s.lastSet addr)

/-! ## The links and the log -/

/-- The address that a link is for. -/
def DevLink.addr : DevLink → Addr
  | .server => none
  | .primary p => some p
  | .secondary p s => some (100 * p + s)

variable {s s' : State} {addr : Addr} {links links' : Links} {l : DevLink}

theorem addr_of_vxiGetDevLink (hl : vxiGetDevLink addr = some l) : l.addr = addr := by
  cases addr with
  | none =>
      cases hl
      rfl
  | some a =>
      by_cases hlegal : numGpibAddresses ≤ (if a < 100 then a else a / 100) ∨
          numGpibAddresses ≤ if a < 100 then 0 else a % 100
      · simp only [vxiGetDevLink, if_pos hlegal] at hl
        cases hl
      · simp only [vxiGetDevLink, if_neg hlegal] at hl
        by_cases ha : a < 100
        · simp only [if_pos ha] at hl
          cases hl
          rfl
        · simp only [if_neg ha] at hl
          cases hl
          simp only [DevLink.addr, Option.some.injEq]
          omega

/-- Different addresses have different links. -/
theorem vxiGetDevLink_inj {other : Addr} (hl : vxiGetDevLink addr = some l)
    (hother : vxiGetDevLink other = some l) : other = addr :=
  (addr_of_vxiGetDevLink hother).symm.trans (addr_of_vxiGetDevLink hl)

theorem vxiSetEos_eq_some {eos : UInt8} {eoslen : Int} :
    vxiSetEos links addr eos eoslen = some links' ↔
      ∃ l, vxiGetDevLink addr = some l ∧ (eoslen = 1 ∨ eoslen = 0) ∧
        Function.update links l (terminator eos eoslen) = links' := by
  unfold vxiSetEos terminator
  cases hl : vxiGetDevLink addr with
  | none => simp
  | some l =>
      by_cases hone : eoslen = 1
      · simp [hone]
      · by_cases hzero : eoslen = 0
        · simp [hzero]
        · simp [hone, hzero]

/-- What is in force after the link of one address has been set. -/
theorem inForce_update {portName : String} {eoslen : Int} {eos : UInt8}
    {log : List (Addr × Option UInt8)} (hl : vxiGetDevLink addr = some l) (x : Option UInt8)
    (other : Addr) :
    State.inForce ⟨portName, eoslen, eos, Function.update s.links l x, log⟩ other =
      if other = addr then x else s.inForce other := by
  unfold State.inForce
  by_cases hsame : other = addr
  · simp [hsame, hl]
  · rw [if_neg hsame]
    cases hother : vxiGetDevLink other with
    | none => rfl
    | some l' =>
        have hne : l' ≠ l := by
          rintro rfl
          exact hsame (vxiGetDevLink_inj hl hother)
        simp [hne]

/-- A successful `setInputEos`. -/
theorem setInputEos_ok {eos : UInt8} {eoslen : Int} (hset : setInputEos s addr eos eoslen = .ok s') :
    (eoslen = 1 ∨ eoslen = 0) ∧ s'.eoslen = eoslen ∧
      terminator s'.eos s'.eoslen = terminator eos eoslen ∧
      (∀ other, s'.inForce other =
        if other = addr then terminator eos eoslen else s.inForce other) ∧
      s'.log = (addr, terminator eos eoslen) :: s.log := by
  unfold setInputEos at hset
  split at hset
  · cases hset
  · split at hset
    · cases hset
    · next links hlinks =>
        obtain ⟨l, hl, hlen, rfl⟩ := vxiSetEos_eq_some.mp hlinks
        cases hset
        refine ⟨hlen, rfl, ?_, inForce_update hl _, rfl⟩
        rcases hlen with rfl | rfl
        · rfl
        · rfl

theorem lastSet_of_log {x : Option UInt8} (hlog : s'.log = (addr, x) :: s.log) (other : Addr) :
    s'.lastSet other = if other = addr then x else s.lastSet other := by
  unfold State.lastSet
  rw [hlog]
  by_cases hsame : other = addr
  · simp [hsame]
  · have hne : addr ≠ other := fun h => hsame h.symm
    rw [if_neg hsame, List.find?_cons_of_neg]
    simpa using hne

/-! ## The invariant -/

/-- The port has the terminator last set for any address. -/
structure PortInv (s : State) : Prop where
  eoslen : s.eoslen = 1 ∨ s.eoslen = 0
  terminator : terminator s.eos s.eoslen = s.lastSetAny

/-- And each link that last set for its address. -/
structure Inv (s : State) : Prop extends PortInv s where
  inForce : ∀ addr, s.inForce addr = s.lastSet addr

theorem inv_start (portName : String) : Inv (start portName) where
  eoslen := .inr rfl
  terminator := rfl
  inForce addr := by
    simp [State.inForce, State.lastSet, start]

theorem Inv.setInputEos (hs : Inv s) {eos : UInt8} {eoslen : Int}
    (hset : Terminator.setInputEos s addr eos eoslen = .ok s') : Inv s' := by
  obtain ⟨hlen, hsame, hterminator, hinForce, hlog⟩ := setInputEos_ok hset
  refine ⟨⟨hsame ▸ hlen, ?_⟩, ?_⟩
  · rw [hterminator, State.lastSetAny, hlog]
    rfl
  · intro other
    rw [hinForce, lastSet_of_log hlog, hs.inForce]

theorem connect_of_not (ok : Bool) (hnot : ok = true → vxiGetDevLink addr = none) :
    connect s addr ok = s := by
  unfold connect
  cases ok with
  | false => rfl
  | true => simp [hnot rfl]

/-- `connect` sends the terminator of the port, when there is one. -/
theorem connect_of_ok (hs : PortInv s) (hl : vxiGetDevLink addr = some l) :
    connect s addr true =
      match s.lastSetAny with
      | none => s
      | some c => { s with links := Function.update s.links l (some c) } := by
  rw [← hs.terminator]
  rcases hs.eoslen with hone | hzero
  · have hset : vxiSetEos s.links addr s.eos 1 =
        some (Function.update s.links l (some s.eos)) :=
      vxiSetEos_eq_some.mpr ⟨l, hl, .inl rfl, rfl⟩
    simp [connect, hl, hone, hset, Terminator.terminator]
  · simp [connect, hzero, Terminator.terminator]

/-- What `connect` leaves in force. -/
theorem inForce_connect (hs : PortInv s) (ok : Bool) (other : Addr) :
    (connect s addr ok).inForce other =
      if ok = true ∧ other = addr ∧ vxiGetDevLink addr ≠ none ∧ s.lastSetAny ≠ none then
        s.lastSetAny
      else s.inForce other := by
  cases hl : vxiGetDevLink addr with
  | none =>
      rw [connect_of_not ok fun _ => hl, if_neg]
      exact fun h => h.2.2.1 rfl
  | some l =>
      cases ok with
      | false =>
          rw [connect_of_not false nofun, if_neg]
          exact fun h => Bool.false_ne_true h.1
      | true =>
          rw [connect_of_ok hs hl]
          cases hany : s.lastSetAny with
          | none => simp
          | some c =>
              change State.inForce ⟨_, _, _, Function.update s.links l (some c), _⟩ other = _
              rw [inForce_update hl]
              by_cases hsame : other = addr <;> simp [hsame]

theorem log_connect (ok : Bool) : (connect s addr ok).log = s.log := by
  unfold connect
  split
  · split
    · split <;> rfl
    · rfl
  · rfl

theorem port_connect (ok : Bool) :
    (connect s addr ok).eoslen = s.eoslen ∧ (connect s addr ok).eos = s.eos := by
  unfold connect
  split
  · split
    · split <;> exact ⟨rfl, rfl⟩
    · exact ⟨rfl, rfl⟩
  · exact ⟨rfl, rfl⟩

theorem Inv.connect (hs : Inv s) {ok : Bool} (hown : OwnTerminator s (.connect addr ok)) :
    Inv (connect s addr ok) := by
  have hlog : (Terminator.connect s addr ok).log = s.log := log_connect ok
  have hport : (Terminator.connect s addr ok).eoslen = s.eoslen ∧
      (Terminator.connect s addr ok).eos = s.eos := port_connect ok
  obtain ⟨heoslen, heos⟩ := hport
  refine ⟨⟨heoslen ▸ hs.eoslen, ?_⟩, ?_⟩
  · rw [heoslen, heos, hs.terminator, State.lastSetAny, State.lastSetAny, hlog]
  · intro other
    have hlast : (Terminator.connect s addr ok).lastSet other = s.lastSet other := by
      rw [State.lastSet, State.lastSet, hlog]
    rw [hlast, inForce_connect hs.toPortInv]
    split
    · next hsent =>
        obtain ⟨hok, rfl, hlegal, hany⟩ := hsent
        exact (hown hok hlegal).resolve_left hany
    · exact hs.inForce other

theorem inv_of_reachable (hreach : machine.Reachable OwnTerminator s) : Inv s := by
  apply Machine.Reachable.invariant (I := Inv) _ _ hreach
  · rintro s ⟨portName, rfl⟩
    exact inv_start portName
  · intro s a s' hown hs hstep
    cases hstep
    cases a with
    | setInputEos addr eos eoslen =>
        simp only [next]
        split
        · exact hs
        · next hset => exact hs.setInputEos hset
    | getInputEos addr buffer eossize => exact hs
    | connect addr ok => exact hs.connect hown
    | read addr maxchars reply => exact hs

/-! ## Each call -/

theorem terminatorGot_eq (hs : PortInv s) (buffer : Nat → UInt8) (eossize : Int) :
    terminatorGot (getInputEos s buffer eossize) = s.lastSetAny.toList := by
  rw [← hs.terminator]
  rcases hs.eoslen with hone | hzero
  · have hfirst : (getInputEos s buffer eossize).2 0 = s.eos := by
      simp only [getInputEos, hone, if_true]
      split <;> simp
    simp [terminatorGot, getInputEos, hone, terminator] at hfirst ⊢
    exact hfirst
  · simp [terminatorGot, getInputEos, hzero, terminator]

theorem getInputEos_sound_iff (hs : Inv s) (buffer : Nat → UInt8) (eossize : Int) :
    StepSound s (.getInputEos addr buffer eossize) ↔
      OwnTerminator s (.getInputEos addr buffer eossize) := by
  change terminatorGot (getInputEos s buffer eossize) = _ ↔ s.lastSetAny = s.lastSet addr
  rw [terminatorGot_eq hs.toPortInv]
  constructor
  · intro hlist
    cases hany : s.lastSetAny <;> cases hlast : s.lastSet addr <;> simp_all
  · intro hsame
    rw [hsame]

theorem connect_sound_iff (hs : Inv s) (ok : Bool) :
    StepSound s (.connect addr ok) ↔ OwnTerminator s (.connect addr ok) := by
  change (connect s addr ok).inForce addr = s.lastSet addr ∧ _ ↔
    (ok = true → vxiGetDevLink addr ≠ none → _)
  rw [inForce_connect hs.toPortInv]
  constructor
  · rintro ⟨hself, -⟩ hok hlegal
    by_cases hany : s.lastSetAny = none
    · exact .inl hany
    · rw [if_pos ⟨hok, rfl, hlegal, hany⟩] at hself
      exact .inr hself
  · intro hown
    constructor
    · split
      · next hsent => exact (hown hsent.1 hsent.2.2.1).resolve_left hsent.2.2.2
      · exact hs.inForce addr
    · intro other hne
      rw [inForce_connect hs.toPortInv, if_neg]
      exact fun h => hne h.2.1

/-- What a successful read does: it goes by the terminator of the port, and by that of the link for
what the instrument reports. -/
theorem readIt_eq (hs : Inv s) (hl : vxiGetDevLink addr = some l) (maxchars : Nat) {reply : Reply}
    (hstatus : reply.status = .asynSuccess) :
    ((readIt s addr maxchars reply).nbytesTransferred + 1 = reply.data.length ↔
        EndsWith reply.data s.lastSetAny) ∧
      ((readIt s addr maxchars reply).eomReason.eos = true ↔
        reply.chr = true ∧ EndsWith reply.data (s.lastSet addr) ∨
          EndsWith reply.data s.lastSetAny) := by
  have hlink : s.links l = s.lastSet addr := by
    rw [← hs.inForce addr, State.inForce, hl]
    rfl
  have hstrips : (s.eoslen = 1 ∧ EndsWith reply.data (some s.eos)) ↔
      EndsWith reply.data s.lastSetAny := by
    rw [← hs.terminator, terminator]
    rcases hs.eoslen with hone | hzero
    · simp [hone]
    · simp [hzero, EndsWith]
  simp only [readIt, vxiRead, hl, hstatus, ne_eq, not_true_eq_false, if_false, hstrips, hlink,
    decide_eq_true_eq, Bool.or_eq_true, Bool.and_eq_true, and_true]
  split
  · next hends =>
      have hpos : 0 < reply.data.length := by
        obtain ⟨c, hlast, -⟩ := hends
        cases hdata : reply.data with
        | nil => simp [hdata] at hlast
        | cons a rest => simp
      simp only [hends, iff_true]
      omega
  · next hnot =>
      simp only [hnot, iff_false]
      omega

theorem endsWith_iff_endsWith {data : List UInt8} {x y : Option UInt8} :
    (EndsWith data x ↔ EndsWith data y) ↔
      x = y ∨ ¬ EndsWith data x ∧ ¬ EndsWith data y := by
  constructor
  · intro hiff
    by_cases hx : EndsWith data x
    · obtain ⟨c, hc, rfl⟩ := hiff.mp hx
      obtain ⟨d, hd, rfl⟩ := hx
      exact .inl (hd.symm.trans hc)
    · exact .inr ⟨hx, fun hy => hx (hiff.mpr hy)⟩
  · rintro (rfl | ⟨hx, hy⟩)
    · exact Iff.rfl
    · exact iff_of_false hx hy

theorem read_sound_iff (hs : Inv s) (maxchars : Nat) (reply : Reply) :
    StepSound s (.read addr maxchars reply) ↔ OwnTerminator s (.read addr maxchars reply) := by
  change (_ → _) ↔ (vxiGetDevLink addr ≠ none → reply.status = .asynSuccess → _)
  cases hl : vxiGetDevLink addr with
  | none => simp [readIt, vxiRead, hl]
  | some l =>
      by_cases hstatus : reply.status = .asynSuccess
      · obtain ⟨hstrips, hreports⟩ := readIt_eq hs hl maxchars hstatus
        have hsuccess : (readIt s addr maxchars reply).status = .asynSuccess := by
          simp [readIt, vxiRead, hl, hstatus]
        rw [hstrips, hreports, endsWith_iff_endsWith.symm]
        constructor
        · intro hsound
          exact fun _ _ => (hsound hsuccess).1
        · intro hown _
          have hiff := hown (Option.some_ne_none l) hstatus
          refine ⟨hiff, ?_⟩
          rw [hiff]
          exact or_iff_right_of_imp And.right
      · simp [readIt, vxiRead, hl, hstatus]

/-- In a run that has kept to the condition so far, the next call is sound exactly under it. -/
theorem stepSound_iff (hreach : machine.Reachable OwnTerminator s) (a : Action) :
    StepSound s a ↔ OwnTerminator s a := by
  have hs := inv_of_reachable hreach
  cases a with
  | setInputEos addr eos eoslen => exact Iff.rfl
  | getInputEos addr buffer eossize => exact getInputEos_sound_iff hs buffer eossize
  | connect addr ok => exact connect_sound_iff hs ok
  | read addr maxchars reply => exact read_sound_iff hs maxchars reply

/-! ## Two instruments -/

/-- A line that ends with LF, reported as such. -/
def lineReply : Reply := ⟨.asynSuccess, [65, 10], false, true, false⟩

/-- The instrument at address 3 has LF. -/
def oneTerminator : List Action := [.setInputEos (some 3) 10 1]

/-- The one at address 5 has CR. -/
def twoTerminators : List Action := oneTerminator ++ [.setInputEos (some 5) 13 1]

def stateAfter (calls : List Action) : State :=
  calls.foldl next (start "L0")

theorem stepSound_iff_example :
    (readIt (stateAfter oneTerminator) (some 3) 80 lineReply).nbytesTransferred = 1 ∧
      (StepSound (stateAfter oneTerminator) (.read (some 3) 80 lineReply) ↔
        OwnTerminator (stateAfter oneTerminator) (.read (some 3) 80 lineReply)) := by
  have hinit : machine.Reachable OwnTerminator (start "L0") := Machine.Reachable.init ⟨"L0", rfl⟩
  have hreach : machine.Reachable OwnTerminator (stateAfter oneTerminator) :=
    hinit.step (a := .setInputEos (some 3) 10 1) trivial rfl
  exact ⟨rfl, stepSound_iff hreach _⟩

/-- Address 3 is told CR, gets CR on its link when it is connected, and keeps the LF of its line. -/
theorem other_terminator :
    terminatorGot (getInputEos (stateAfter twoTerminators) (fun _ => 0) 2) = [13] ∧
      (stateAfter twoTerminators).lastSet (some 3) = some 10 ∧
      (stateAfter twoTerminators).inForce (some 3) = some 10 ∧
      (connect (stateAfter twoTerminators) (some 3) true).inForce (some 3) = some 13 ∧
      (readIt (stateAfter twoTerminators) (some 3) 80 lineReply).nbytesTransferred = 2 ∧
      ¬ ∀ s, machine.Reachable Machine.Unguarded s → ∀ a, StepSound s a := by
  refine ⟨rfl, rfl, rfl, rfl, rfl, ?_⟩
  intro hsound
  have hexec : machine.exec (start "L0") twoTerminators = some (stateAfter twoTerminators) := rfl
  have hreach : machine.Reachable Machine.Unguarded (stateAfter twoTerminators) :=
    Machine.reachable_of_exec (M := machine) ⟨"L0", rfl⟩ hexec
  have hgot := hsound _ hreach (.getInputEos (some 3) (fun _ => 0) 2)
  have hcr : [13] = [(10 : UInt8)] := hgot
  exact absurd hcr (by decide)

end Terminator
end Gpib
end AsynDriver
