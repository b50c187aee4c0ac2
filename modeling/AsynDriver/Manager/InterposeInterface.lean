import AsynDriver.Manager.Types
import Mathlib.Data.List.Induction

/-!
# Interposed interfaces

`interposeInterface` and `findInterface` of one port, and the stack of layers that the calls of
`interposeInterface` build: each layer keeps the pointer that its call stored in `*ppPrev` and calls
the layer below through it.

* `interposeInterface`, `findInterface` — the two searches, over the list of the device, the list of
  the port and the list of the driver.
* `CallSequence` — calls of which each brings an `asynInterface` of its own.
* `level_chain` — what the stored pointers lead to, level by level: the layers of a device end at the
  driver's interface, past the layers of the port.
* `interposeChains_iff_oneLevel` — the stored pointers visit all layers of every address exactly if
  no device has layers of its own besides layers of the whole port.
-/

namespace AsynDriver
namespace Manager
namespace Interpose

/-- `asynInterface`, by its type and its address in memory. -/
structure AsynInterface where
  interfaceType : String
  address : Nat
  deriving DecidableEq

/-- `device`, with the list in its `dpCommon`. -/
structure Device where
  addr : Nat
  interposeInterfaceList : List AsynInterface

/-- The fields of `port` that the two searches use; `interposeInterfaceList` and `defunct` are those
of `port->dpc`. -/
structure Port where
  multiDevice : Bool
  defunct : Bool
  deviceList : List Device
  interposeInterfaceList : List AsynInterface
  interfaceList : List AsynInterface

/-- `locateInterfaceNode` without allocation. -/
def locateInterfaceNode (plist : List AsynInterface) (interfaceType : String) :
    Option AsynInterface :=
  plist.find? fun pif => pif.interfaceType == interfaceType

/-- `pinterfaceNode->pasynInterface = pasynInterface` for the node that `locateInterfaceNode` finds
or allocates. -/
def setInterfaceNode : List AsynInterface → AsynInterface → List AsynInterface
  | [], pasynInterface => [pasynInterface]
  | pif :: rest, pasynInterface =>
      if pif.interfaceType = pasynInterface.interfaceType then pasynInterface :: rest
      else pif :: setInterfaceNode rest pasynInterface

/-- `locateDevice(pport, addr, TRUE)`: the address of the device, or null. -/
def locateDevice (pport : Port) (addr : Int) : Port × Option Nat :=
  if !pport.multiDevice || decide (addr < 0) then (pport, none)
  else if pport.deviceList.any fun pdevice => pdevice.addr == addr.toNat then
    (pport, some addr.toNat)
  else
    ({ pport with deviceList := pport.deviceList ++ [⟨addr.toNat, []⟩] }, some addr.toNat)

/-- `interposeInterfaceList` of a device, or of the port where `pdevice` is null. -/
def Port.interposed (pport : Port) : Option Nat → List AsynInterface
  | none => pport.interposeInterfaceList
  | some addr =>
      match pport.deviceList.find? fun pdevice => pdevice.addr == addr with
      | none => []
      | some pdevice => pdevice.interposeInterfaceList

/-- The list of a device on `deviceList` is replaced. -/
def setDevice (addr : Nat) (l : List AsynInterface) : List Device → List Device
  | [] => []
  | pdevice :: rest =>
      if pdevice.addr == addr then { pdevice with interposeInterfaceList := l } :: rest
      else pdevice :: setDevice addr l rest

def Port.setInterposed (pport : Port) (dp : Option Nat) (l : List AsynInterface) : Port :=
  match dp with
  | none => { pport with interposeInterfaceList := l }
  | some addr => { pport with deviceList := setDevice addr l pport.deviceList }

/-- `interposeInterface` for a registered port, with `*ppPrev`. -/
def interposeInterface (pport : Port) (addr : Int) (pasynInterface : AsynInterface) :
    Port × Option AsynInterface :=
  let located := if 0 ≤ addr then locateDevice pport addr else (pport, none)
  let plist := located.1.interposed located.2
  let pPrev :=
    match locateInterfaceNode plist pasynInterface.interfaceType with
    | some pif => some pif
    | none => locateInterfaceNode located.1.interfaceList pasynInterface.interfaceType
  (located.1.setInterposed located.2 (setInterfaceNode plist pasynInterface), pPrev)

/-- `findInterface` for an `asynUser` that is connected to the port. -/
def findInterface (pport : Port) (pdevice : Option Nat) (interfaceType : String)
    (interposeInterfaceOK : Bool) : Option AsynInterface :=
  let registered := locateInterfaceNode pport.interfaceList interfaceType
  if pport.defunct then none
  else if interposeInterfaceOK then
    let ofPort := (locateInterfaceNode pport.interposeInterfaceList interfaceType).or registered
    match pdevice with
    | some addr => (locateInterfaceNode (pport.interposed (some addr)) interfaceType).or ofPort
    | none => ofPort
  else registered

/-- `findInterface(interposeInterfaceOK)` through an `asynUser` that `connectDevice` has connected to
an address. -/
def findInterfaceAt (pport : Port) (addr : Int) (interfaceType : String) : Option AsynInterface :=
  let located := if 0 ≤ addr then locateDevice pport addr else (pport, none)
  findInterface located.1 located.2 interfaceType true

/-! ## The stack of layers -/

/-- A call of `interposeInterface`. -/
structure Call where
  addr : Int
  pasynInterface : AsynInterface

/-- A port and what each layer has stored as the previous interface. -/
structure Stack where
  pport : Port
  prev : AsynInterface → Option AsynInterface

def Stack.interpose (s : Stack) (c : Call) : Stack :=
  let r := interposeInterface s.pport c.addr c.pasynInterface
  { pport := r.1, prev := Function.update s.prev c.pasynInterface r.2 }

/-- A port with the interfaces that its driver has registered. -/
def registeredPort (multiDevice : Bool) (interfaceList : List AsynInterface) : Stack where
  pport :=
    { multiDevice := multiDevice
      defunct := false
      deviceList := []
      interposeInterfaceList := []
      interfaceList := interfaceList }
  prev := fun _ => none

def run (multiDevice : Bool) (interfaceList : List AsynInterface) (calls : List Call) : Stack :=
  calls.foldl Stack.interpose (registeredPort multiDevice interfaceList)

/-- Calls for one port.  Every layer passes an `asynInterface` that it has allocated for this call,
as all interpose modules do. -/
structure CallSequence where
  multiDevice : Bool
  interfaceList : List AsynInterface
  calls : List Call
  distinct : (interfaceList ++ calls.map Call.pasynInterface).Nodup

/-- Where an address leads: to a device of a multi-device port, else to the port itself. -/
def target (multiDevice : Bool) (addr : Int) : Option Nat :=
  if multiDevice && decide (0 ≤ addr) then some addr.toNat else none

/-- The layers of one type that were interposed at one level, newest first. -/
def layersAt (multiDevice : Bool) (calls : List Call) (dp : Option Nat) (interfaceType : String) :
    List AsynInterface :=
  (calls.reverse.filter fun c => target multiDevice c.addr == dp &&
    c.pasynInterface.interfaceType == interfaceType).map Call.pasynInterface

/-- The layers of one type that were interposed for an address or for the whole port, newest
first. -/
def layersFor (multiDevice : Bool) (calls : List Call) (addr : Int) (interfaceType : String) :
    List AsynInterface :=
  (calls.reverse.filter fun c => (target multiDevice c.addr == target multiDevice addr ||
    target multiDevice c.addr == none) &&
    c.pasynInterface.interfaceType == interfaceType).map Call.pasynInterface

/-- Following the stored pointers from an interface visits exactly these interfaces. -/
inductive Follows (prev : AsynInterface → Option AsynInterface) :
    Option AsynInterface → List AsynInterface → Prop
  | last : Follows prev none []
  | next {pif : AsynInterface} {l : List AsynInterface} (h : Follows prev (prev pif) l) :
      Follows prev (some pif) (pif :: l)

/-- Each call is told what `findInterface` would have found for its address, and in the end the
pointers visit, from what `findInterface` finds for an address, every layer of that address and of
the port, newest first, and then the driver's interface. -/
structure InterposeChains (q : CallSequence) : Prop where
  prev : ∀ before c after, q.calls = before ++ c :: after →
    (interposeInterface (run q.multiDevice q.interfaceList before).pport c.addr
        c.pasynInterface).2 =
      findInterfaceAt (run q.multiDevice q.interfaceList before).pport c.addr
        c.pasynInterface.interfaceType
  chain : ∀ addr interfaceType,
    Follows (run q.multiDevice q.interfaceList q.calls).prev
      (findInterfaceAt (run q.multiDevice q.interfaceList q.calls).pport addr interfaceType)
      (layersFor q.multiDevice q.calls addr interfaceType ++
        (locateInterfaceNode q.interfaceList interfaceType).toList)

/-- No device has a layer of its own of a type of which the whole port has one. -/
def OneLevel (q : CallSequence) : Prop :=
  ∀ c ∈ q.calls, ∀ d ∈ q.calls,
    c.pasynInterface.interfaceType = d.pasynInterface.interfaceType →
    target q.multiDevice c.addr = none → target q.multiDevice d.addr = none

/-! ## One call -/

section Lists

variable {plist : List AsynInterface} {pif : AsynInterface} {interfaceType : String}

theorem locateInterfaceNode_set :
    locateInterfaceNode (setInterfaceNode plist pif) interfaceType =
      if pif.interfaceType = interfaceType then some pif
      else locateInterfaceNode plist interfaceType := by
  induction plist with
  | nil =>
      by_cases htype : pif.interfaceType = interfaceType
      · simp [setInterfaceNode, locateInterfaceNode, htype]
      · simp [setInterfaceNode, locateInterfaceNode, htype]
  | cons head rest ih =>
      unfold setInterfaceNode
      by_cases hsame : head.interfaceType = pif.interfaceType
      · rw [if_pos hsame]
        by_cases htype : pif.interfaceType = interfaceType
        · simp [locateInterfaceNode, htype]
        · simp [locateInterfaceNode, htype, hsame]
      · rw [if_neg hsame]
        by_cases hhead : head.interfaceType = interfaceType
        · have htype : ¬pif.interfaceType = interfaceType := by
            intro h
            exact hsame (hhead.trans h.symm)
          simp [locateInterfaceNode, hhead, htype]
        · simpa [locateInterfaceNode, hhead] using ih

theorem mem_of_locateInterfaceNode (hlocate : locateInterfaceNode plist interfaceType = some pif) :
    pif ∈ plist :=
  List.mem_of_find?_eq_some hlocate

theorem interposed_setDevice {addr a : Nat} {l : List AsynInterface} {devices : List Device}
    (hany : devices.any (fun pdevice => pdevice.addr == addr) = true) :
    ((setDevice addr l devices).find? fun pdevice => pdevice.addr == a) =
      if a = addr then some ⟨addr, l⟩ else devices.find? fun pdevice => pdevice.addr == a := by
  induction devices with
  | nil => simp at hany
  | cons head rest ih =>
      unfold setDevice
      by_cases hhead : head.addr = addr
      · subst hhead
        by_cases ha : a = head.addr
        · subst ha
          simp
        · have hne : ¬head.addr = a := fun h => ha h.symm
          simp [ha, hne]
      · have hrest : rest.any (fun pdevice => pdevice.addr == addr) = true := by
          simpa [hhead] using hany
        rw [if_neg (by simpa using hhead)]
        by_cases ha : head.addr = a
        · have hne : ¬a = addr := fun h => hhead (ha.trans h)
          simp [ha, hne]
        · simpa [ha] using ih hrest

end Lists

section Calls

variable (pport : Port) (addr : Int)

/-- The device an address leads to, with the port in which it exists. -/
def located : Port × Option Nat :=
  if 0 ≤ addr then locateDevice pport addr else (pport, none)

theorem located_target : (located pport addr).2 = target pport.multiDevice addr := by
  unfold located locateDevice target
  by_cases haddr : 0 ≤ addr
  · have hnot : ¬addr < 0 := by omega
    cases pport.multiDevice with
    | false => simp [haddr]
    | true =>
        simp only [haddr, hnot, if_true, decide_true, decide_false, Bool.not_true, Bool.or_self,
          Bool.and_self, Bool.false_eq_true, if_false]
        split <;> rfl
  · simp [haddr]

/-- A device that `locateDevice` allocates has an empty list. -/
theorem located_interposed (dp : Option Nat) :
    (located pport addr).1.interposed dp = pport.interposed dp := by
  unfold located
  split
  · unfold locateDevice
    split
    · rfl
    · split
      · rfl
      · next hfresh =>
        cases dp with
        | none => rfl
        | some a =>
            simp only [Port.interposed, List.find?_append]
            cases hfind : pport.deviceList.find? fun pdevice => pdevice.addr == a with
            | some pdevice => rfl
            | none =>
                by_cases ha : addr.toNat = a
                · simp [ha]
                · simp [ha]
  · rfl

theorem located_fields : (located pport addr).1.multiDevice = pport.multiDevice ∧
    (located pport addr).1.defunct = pport.defunct ∧
    (located pport addr).1.interfaceList = pport.interfaceList := by
  unfold located locateDevice
  split
  · split
    · exact ⟨rfl, rfl, rfl⟩
    · split <;> exact ⟨rfl, rfl, rfl⟩
  · exact ⟨rfl, rfl, rfl⟩

/-- The device that an address leads to exists in the located port. -/
theorem located_exists {a : Nat} (htarget : target pport.multiDevice addr = some a) :
    (located pport addr).1.deviceList.any (fun pdevice => pdevice.addr == a) = true := by
  have haddr : 0 ≤ addr := by
    by_contra hneg
    simp [target, hneg] at htarget
  have hmulti : pport.multiDevice = true := by
    by_contra hsingle
    simp [target, hsingle] at htarget
  have ha : addr.toNat = a := by simpa [target, haddr, hmulti] using htarget
  subst ha
  have hnot : ¬addr < 0 := by omega
  unfold located locateDevice
  simp only [haddr, hmulti, hnot, if_true, decide_false, Bool.not_true, Bool.or_self,
    Bool.false_eq_true, if_false]
  split
  · next hany => exact hany
  · simp

theorem interposed_setInterposed {q : Port} {dp dp' : Option Nat} {l : List AsynInterface}
    (hexists : ∀ a, dp = some a → q.deviceList.any (fun pdevice => pdevice.addr == a) = true) :
    (q.setInterposed dp l).interposed dp' = if dp' = dp then l else q.interposed dp' := by
  cases dp with
  | none =>
      cases dp' with
      | none => rfl
      | some a => rfl
  | some a =>
      cases dp' with
      | none => rfl
      | some a' =>
          simp only [Port.setInterposed, Port.interposed, interposed_setDevice (hexists a rfl),
            Option.some.injEq]
          by_cases ha : a' = a
          · simp [ha]
          · simp [ha]

variable (pif : AsynInterface)

/-- What one call does to the lists. -/
theorem interposeInterface_interposed (dp : Option Nat) :
    (interposeInterface pport addr pif).1.interposed dp =
      if dp = target pport.multiDevice addr then setInterfaceNode (pport.interposed dp) pif
      else pport.interposed dp := by
  have hexists : ∀ a, (located pport addr).2 = some a →
      (located pport addr).1.deviceList.any (fun pdevice => pdevice.addr == a) = true := by
    intro a ha
    rw [located_target] at ha
    exact located_exists pport addr ha
  show ((located pport addr).1.setInterposed (located pport addr).2 _).interposed dp = _
  rw [interposed_setInterposed hexists, located_target, located_interposed]
  by_cases hdp : dp = target pport.multiDevice addr
  · subst hdp
    simp only [if_true]
    show setInterfaceNode ((located pport addr).1.interposed (located pport addr).2) pif = _
    rw [located_interposed, located_target]
  · simp only [hdp, if_false]

theorem interposeInterface_fields :
    (interposeInterface pport addr pif).1.multiDevice = pport.multiDevice ∧
    (interposeInterface pport addr pif).1.defunct = pport.defunct ∧
    (interposeInterface pport addr pif).1.interfaceList = pport.interfaceList := by
  obtain ⟨hmulti, hdefunct, hlist⟩ := located_fields pport addr
  unfold interposeInterface Port.setInterposed
  simp only
  split
  · exact ⟨hmulti, hdefunct, hlist⟩
  · exact ⟨hmulti, hdefunct, hlist⟩

/-- `*ppPrev`: the list of the device or of the port is searched, and then the driver's. -/
theorem interposeInterface_prev :
    (interposeInterface pport addr pif).2 =
      (locateInterfaceNode (pport.interposed (target pport.multiDevice addr))
        pif.interfaceType).or (locateInterfaceNode pport.interfaceList pif.interfaceType) := by
  obtain ⟨-, -, hlist⟩ := located_fields pport addr
  show (match locateInterfaceNode ((located pport addr).1.interposed (located pport addr).2)
      pif.interfaceType with
    | some pif => some pif
    | none => locateInterfaceNode (located pport addr).1.interfaceList pif.interfaceType) = _
  rw [located_interposed, located_target, hlist]
  cases locateInterfaceNode (pport.interposed (target pport.multiDevice addr))
      pif.interfaceType with
  | none => rfl
  | some found => rfl

/-- `findInterface` searches the list of the device, of the port, and the driver's. -/
theorem findInterfaceAt_eq (interfaceType : String) (hdefunct : pport.defunct = false) :
    findInterfaceAt pport addr interfaceType =
      (locateInterfaceNode (pport.interposed (target pport.multiDevice addr)) interfaceType).or
        ((locateInterfaceNode (pport.interposed none) interfaceType).or
          (locateInterfaceNode pport.interfaceList interfaceType)) := by
  obtain ⟨-, hdef, hlist⟩ := located_fields pport addr
  have hport := located_interposed pport addr none
  have htarget := located_target pport addr
  show findInterface (located pport addr).1 (located pport addr).2 interfaceType true = _
  unfold findInterface
  rw [hdef, hdefunct, hlist, htarget]
  simp only [Bool.false_eq_true, if_false, if_true]
  cases htgt : target pport.multiDevice addr with
  | none =>
      simp only [Port.interposed] at hport ⊢
      rw [hport]
      cases locateInterfaceNode pport.interposeInterfaceList interfaceType with
      | none => rfl
      | some found => rfl
  | some a =>
      simp only
      rw [located_interposed]
      simp only [Port.interposed] at hport ⊢
      rw [hport]

end Calls

/-! ## The pointers that the calls store -/

section Follows

variable {prev prev' : AsynInterface → Option AsynInterface} {start : Option AsynInterface}
  {l l' : List AsynInterface}

theorem Follows.congr (hfollows : Follows prev start l) (heq : ∀ pif ∈ l, prev' pif = prev pif) :
    Follows prev' start l := by
  induction hfollows with
  | last => exact .last
  | next _ ih =>
      refine .next ?_
      rw [heq _ List.mem_cons_self]
      exact ih fun pif hmem => heq pif (List.mem_cons_of_mem _ hmem)

/-- The pointers determine what is visited. -/
theorem Follows.unique (hfollows : Follows prev start l) (hfollows' : Follows prev start l') :
    l = l' := by
  induction hfollows generalizing l' with
  | last =>
      cases hfollows'
      rfl
  | next _ ih =>
      cases hfollows' with
      | next h => rw [ih h]

end Follows

/-- The layers of one level, newest first, and then the driver's interface. -/
def levelChain (multiDevice : Bool) (interfaceList : List AsynInterface) (calls : List Call)
    (dp : Option Nat) (interfaceType : String) : List AsynInterface :=
  layersAt multiDevice calls dp interfaceType ++
    (locateInterfaceNode interfaceList interfaceType).toList

section Stack

variable {multiDevice : Bool} {interfaceList : List AsynInterface} {calls : List Call}

theorem run_append (c : Call) : run multiDevice interfaceList (calls ++ [c]) =
    (run multiDevice interfaceList calls).interpose c := by
  unfold run
  rw [List.foldl_append]
  rfl

theorem run_fields : (run multiDevice interfaceList calls).pport.multiDevice = multiDevice ∧
    (run multiDevice interfaceList calls).pport.defunct = false ∧
    (run multiDevice interfaceList calls).pport.interfaceList = interfaceList := by
  induction calls using List.reverseRecOn with
  | nil => exact ⟨rfl, rfl, rfl⟩
  | append_singleton calls c ih =>
      rw [run_append]
      obtain ⟨hmulti, hdefunct, hlist⟩ := interposeInterface_fields
        (run multiDevice interfaceList calls).pport c.addr c.pasynInterface
      exact ⟨hmulti.trans ih.1, hdefunct.trans ih.2.1, hlist.trans ih.2.2⟩

theorem layersAt_append (c : Call) (dp : Option Nat) (interfaceType : String) :
    layersAt multiDevice (calls ++ [c]) dp interfaceType =
      if target multiDevice c.addr = dp ∧ c.pasynInterface.interfaceType = interfaceType then
        c.pasynInterface :: layersAt multiDevice calls dp interfaceType
      else layersAt multiDevice calls dp interfaceType := by
  unfold layersAt
  rw [List.reverse_append]
  by_cases hdp : target multiDevice c.addr = dp
  · by_cases htype : c.pasynInterface.interfaceType = interfaceType
    · simp [hdp, htype]
    · simp [htype]
  · simp [hdp]

theorem layersAt_subset {dp : Option Nat} {interfaceType : String} {pif : AsynInterface}
    (hmem : pif ∈ layersAt multiDevice calls dp interfaceType) :
    pif ∈ calls.map Call.pasynInterface := by
  obtain ⟨c, hc, heq⟩ := List.mem_map.mp hmem
  have hcalls : c ∈ calls := List.mem_reverse.mp (List.mem_filter.mp hc).1
  exact List.mem_map.mpr ⟨c, hcalls, heq⟩

/-- The node that is found in the list of a level is its newest layer. -/
theorem locate_interposed (dp : Option Nat) (interfaceType : String) :
    locateInterfaceNode ((run multiDevice interfaceList calls).pport.interposed dp)
      interfaceType = (layersAt multiDevice calls dp interfaceType).head? := by
  induction calls using List.reverseRecOn with
  | nil =>
      cases dp with
      | none => rfl
      | some a => rfl
  | append_singleton calls c ih =>
      rw [run_append, layersAt_append]
      show locateInterfaceNode ((interposeInterface _ c.addr c.pasynInterface).1.interposed dp)
        interfaceType = _
      rw [interposeInterface_interposed, run_fields.1]
      by_cases hdp : dp = target multiDevice c.addr
      · subst hdp
        rw [if_pos rfl, locateInterfaceNode_set]
        by_cases htype : c.pasynInterface.interfaceType = interfaceType
        · simp [htype]
        · simp [htype, ih]
      · have hne : ¬target multiDevice c.addr = dp := fun h => hdp h.symm
        simp [hdp, hne, ih]

theorem head?_append_toList (l : List AsynInterface) (x : Option AsynInterface) :
    (l ++ x.toList).head? = l.head?.or x := by
  cases l with
  | nil => cases x <;> rfl
  | cons head rest => rfl

/-- A call is told the newest layer of its own level, or else the driver's interface. -/
theorem prev_eq_head (c : Call) :
    (interposeInterface (run multiDevice interfaceList calls).pport c.addr c.pasynInterface).2 =
      (levelChain multiDevice interfaceList calls (target multiDevice c.addr)
        c.pasynInterface.interfaceType).head? := by
  obtain ⟨hmulti, -, hlist⟩ := @run_fields multiDevice interfaceList calls
  rw [interposeInterface_prev, hmulti, hlist, locate_interposed, levelChain, head?_append_toList]

theorem findInterfaceAt_run (addr : Int) (interfaceType : String) :
    findInterfaceAt (run multiDevice interfaceList calls).pport addr interfaceType =
      (layersAt multiDevice calls (target multiDevice addr) interfaceType).head?.or
        (levelChain multiDevice interfaceList calls none interfaceType).head? := by
  obtain ⟨hmulti, hdefunct, hlist⟩ := @run_fields multiDevice interfaceList calls
  rw [findInterfaceAt_eq _ _ _ hdefunct, hmulti, hlist, locate_interposed, locate_interposed,
    levelChain, head?_append_toList]

/-- The pointers lead through the layers of one level and from the last of them to the driver: the
new layer points at the top of its level, and no older pointer changes. -/
theorem level_chain (hdistinct : (interfaceList ++ calls.map Call.pasynInterface).Nodup)
    (dp : Option Nat) (interfaceType : String) :
    Follows (run multiDevice interfaceList calls).prev
      (levelChain multiDevice interfaceList calls dp interfaceType).head?
      (levelChain multiDevice interfaceList calls dp interfaceType) := by
  induction calls using List.reverseRecOn generalizing dp interfaceType with
  | nil =>
      show Follows (fun _ => none) _ _
      simp only [levelChain, layersAt, List.reverse_nil, List.filter_nil, List.map_nil,
        List.nil_append]
      cases locateInterfaceNode interfaceList interfaceType with
      | none => exact .last
      | some pif => exact .next .last
  | append_singleton calls c ih =>
      rw [List.map_append, List.map_singleton, ← List.append_assoc] at hdistinct
      obtain ⟨hbefore, -, hapart⟩ := List.nodup_append.mp hdistinct
      have hnew : ∀ dp interfaceType,
          c.pasynInterface ∉ levelChain multiDevice interfaceList calls dp interfaceType := by
        intro dp interfaceType hmem
        refine hapart _ ?_ _ (List.mem_singleton_self _) rfl
        rcases List.mem_append.mp hmem with hlayer | hdriver
        · exact List.mem_append_right _ (layersAt_subset hlayer)
        · exact List.mem_append_left _ (mem_of_locateInterfaceNode (Option.mem_toList.mp hdriver))
      have hold : ∀ dp interfaceType,
          Follows (run multiDevice interfaceList (calls ++ [c])).prev
            (levelChain multiDevice interfaceList calls dp interfaceType).head?
            (levelChain multiDevice interfaceList calls dp interfaceType) := by
        intro dp interfaceType
        refine (ih hbefore dp interfaceType).congr fun pif hmem => ?_
        rw [run_append]
        refine Function.update_of_ne (fun heq => hnew dp interfaceType ?_) _ _
        rw [← heq]
        exact hmem
      by_cases hlevel : target multiDevice c.addr = dp ∧
          c.pasynInterface.interfaceType = interfaceType
      · obtain ⟨rfl, rfl⟩ := hlevel
        have hchain : levelChain multiDevice interfaceList (calls ++ [c])
            (target multiDevice c.addr) c.pasynInterface.interfaceType =
              c.pasynInterface :: levelChain multiDevice interfaceList calls
                (target multiDevice c.addr) c.pasynInterface.interfaceType := by
          simp [levelChain, layersAt_append]
        have hprev : (run multiDevice interfaceList (calls ++ [c])).prev c.pasynInterface =
            (levelChain multiDevice interfaceList calls (target multiDevice c.addr)
              c.pasynInterface.interfaceType).head? := by
          rw [run_append, ← prev_eq_head]
          exact Function.update_self _ _ _
        rw [hchain]
        refine .next ?_
        rw [hprev]
        exact hold _ _
      · have hchain : levelChain multiDevice interfaceList (calls ++ [c]) dp interfaceType =
            levelChain multiDevice interfaceList calls dp interfaceType := by
          simp [levelChain, layersAt_append, hlevel]
        rw [hchain]
        exact hold _ _

end Stack

/-! ## When all layers are visited -/

section Chains

variable {multiDevice : Bool} {calls : List Call} {addr : Int} {interfaceType : String}

theorem layersAt_eq_nil {dp : Option Nat} (hnone : ∀ c ∈ calls,
    c.pasynInterface.interfaceType = interfaceType → target multiDevice c.addr ≠ dp) :
    layersAt multiDevice calls dp interfaceType = [] := by
  unfold layersAt
  rw [List.map_eq_nil_iff, List.filter_eq_nil_iff]
  intro c hc
  have hcalls : c ∈ calls := List.mem_reverse.mp hc
  intro hboth
  simp only [Bool.and_eq_true, beq_iff_eq] at hboth
  exact hnone c hcalls hboth.2 hboth.1

theorem layersAt_ne_nil {c : Call} (hc : c ∈ calls) :
    layersAt multiDevice calls (target multiDevice c.addr) c.pasynInterface.interfaceType ≠ [] := by
  unfold layersAt
  intro hnil
  rw [List.map_eq_nil_iff, List.filter_eq_nil_iff] at hnil
  exact hnil c (List.mem_reverse.mpr hc) (by simp)

theorem layersFor_eq_layersAt {dp : Option Nat}
    (hsame : ∀ c ∈ calls, c.pasynInterface.interfaceType = interfaceType →
      ((target multiDevice c.addr = target multiDevice addr ∨ target multiDevice c.addr = none) ↔
        target multiDevice c.addr = dp)) :
    layersFor multiDevice calls addr interfaceType =
      layersAt multiDevice calls dp interfaceType := by
  unfold layersFor layersAt
  congr 1
  refine List.filter_congr fun c hc => ?_
  have hcalls : c ∈ calls := List.mem_reverse.mp hc
  by_cases htype : c.pasynInterface.interfaceType = interfaceType
  · rw [Bool.eq_iff_iff]
    simp only [Bool.and_eq_true, Bool.or_eq_true, beq_iff_eq, htype, and_true]
    exact hsame c hcalls htype
  · have hfalse : (c.pasynInterface.interfaceType == interfaceType) = false := by simpa using htype
    rw [hfalse, Bool.and_false, Bool.and_false]

/-- All layers of an address count at least those of its own device and those of the port. -/
theorem length_layersFor (htarget : target multiDevice addr ≠ none) :
    (layersFor multiDevice calls addr interfaceType).length =
      (layersAt multiDevice calls (target multiDevice addr) interfaceType).length +
        (layersAt multiDevice calls none interfaceType).length := by
  unfold layersFor layersAt
  simp only [List.length_map]
  induction calls.reverse with
  | nil => rfl
  | cons c rest ih =>
      by_cases htype : c.pasynInterface.interfaceType = interfaceType
      · by_cases hdevice : target multiDevice c.addr = target multiDevice addr
        · simp [hdevice, htype, htarget] at ih ⊢
          omega
        · have hdevice' : ¬target multiDevice addr = target multiDevice c.addr :=
            fun h => hdevice h.symm
          by_cases hport : target multiDevice c.addr = none
          · have hne : ¬none = target multiDevice addr := fun h => htarget h.symm
            simp [hport, htype, hne] at ih ⊢
            omega
          · simp [hdevice, hport, htype] at ih ⊢
            exact ih
      · simpa [htype] using ih

end Chains

variable (q : CallSequence)

theorem OneLevel.prev (hone : OneLevel q) {before after : List Call} {c : Call}
    (hcalls : q.calls = before ++ c :: after) :
    (interposeInterface (run q.multiDevice q.interfaceList before).pport c.addr
        c.pasynInterface).2 =
      findInterfaceAt (run q.multiDevice q.interfaceList before).pport c.addr
        c.pasynInterface.interfaceType := by
  have hc : c ∈ q.calls := by
    rw [hcalls]
    exact List.mem_append_right _ List.mem_cons_self
  rw [prev_eq_head, findInterfaceAt_run]
  unfold levelChain
  rw [head?_append_toList, head?_append_toList]
  cases htarget : target q.multiDevice c.addr with
  | none =>
      cases (layersAt q.multiDevice before none c.pasynInterface.interfaceType).head? with
      | none => rfl
      | some pif => rfl
  | some a =>
      have hport : layersAt q.multiDevice before none c.pasynInterface.interfaceType = [] := by
        refine layersAt_eq_nil fun d hd htype hnone => ?_
        have hd' : d ∈ q.calls := by
          rw [hcalls]
          exact List.mem_append_left _ hd
        have hbad := hone d hd' c hc htype hnone
        rw [htarget] at hbad
        cases hbad
      rw [hport]
      rfl

theorem OneLevel.chain (hone : OneLevel q) (addr : Int) (interfaceType : String) :
    Follows (run q.multiDevice q.interfaceList q.calls).prev
      (findInterfaceAt (run q.multiDevice q.interfaceList q.calls).pport addr interfaceType)
      (layersFor q.multiDevice q.calls addr interfaceType ++
        (locateInterfaceNode q.interfaceList interfaceType).toList) := by
  have hlevel := fun dp => @level_chain q.multiDevice q.interfaceList q.calls q.distinct dp
    interfaceType
  rw [findInterfaceAt_run]
  by_cases hport : ∃ c ∈ q.calls, c.pasynInterface.interfaceType = interfaceType ∧
      target q.multiDevice c.addr = none
  · obtain ⟨c, hc, hctype, hcnone⟩ := hport
    -- the whole port has such a layer, so all of them belong to the whole port
    have hall : ∀ d ∈ q.calls, d.pasynInterface.interfaceType = interfaceType →
        target q.multiDevice d.addr = none :=
      fun d hd htype => hone c hc d hd (hctype.trans htype.symm) hcnone
    have hlayers : layersFor q.multiDevice q.calls addr interfaceType =
        layersAt q.multiDevice q.calls none interfaceType := by
      refine layersFor_eq_layersAt fun d hd htype => ?_
      simp [hall d hd htype]
    rw [hlayers]
    have hchain := hlevel none
    cases htarget : target q.multiDevice addr with
    | none =>
        unfold levelChain at hchain ⊢
        rw [head?_append_toList] at hchain ⊢
        cases hhead : (layersAt q.multiDevice q.calls none interfaceType).head? with
        | none =>
            rw [hhead] at hchain
            exact hchain
        | some pif =>
            rw [hhead] at hchain
            exact hchain
    | some a =>
        have hnil : layersAt q.multiDevice q.calls (some a) interfaceType = [] := by
          refine layersAt_eq_nil fun d hd htype hdevice => ?_
          rw [hall d hd htype] at hdevice
          cases hdevice
        rw [hnil]
        exact hchain
  · have hnil : layersAt q.multiDevice q.calls none interfaceType = [] :=
      layersAt_eq_nil fun d hd htype hnone => hport ⟨d, hd, htype, hnone⟩
    have hlayers : layersFor q.multiDevice q.calls addr interfaceType =
        layersAt q.multiDevice q.calls (target q.multiDevice addr) interfaceType := by
      refine layersFor_eq_layersAt fun d hd htype => ?_
      have hne : target q.multiDevice d.addr ≠ none := fun h => hport ⟨d, hd, htype, h⟩
      simp [hne]
    rw [hlayers]
    have hchain := hlevel (target q.multiDevice addr)
    unfold levelChain at hchain ⊢
    rw [head?_append_toList] at hchain ⊢
    rw [hnil]
    exact hchain

/-- The pointers that `interposeInterface` stores agree with `findInterface`, and visit all layers of
every address, exactly if no device has a layer besides one of the whole port. -/
theorem interposeChains_iff_oneLevel : InterposeChains q ↔ OneLevel q := by
  constructor
  · intro hchains c hc d hd htype hport
    by_contra hdevice
    -- the device's layers end at the driver, so the layer of the port is not visited
    have hlevel := @level_chain q.multiDevice q.interfaceList q.calls q.distinct
      (target q.multiDevice d.addr) d.pasynInterface.interfaceType
    have hchain := hchains.chain d.addr d.pasynInterface.interfaceType
    have hhead : findInterfaceAt (run q.multiDevice q.interfaceList q.calls).pport d.addr
        d.pasynInterface.interfaceType =
          (levelChain q.multiDevice q.interfaceList q.calls (target q.multiDevice d.addr)
            d.pasynInterface.interfaceType).head? := by
      rw [findInterfaceAt_run]
      conv_rhs => rw [levelChain, head?_append_toList]
      cases hcase : layersAt q.multiDevice q.calls (target q.multiDevice d.addr)
          d.pasynInterface.interfaceType with
      | nil => exact absurd hcase (layersAt_ne_nil hd)
      | cons pif rest => rfl
    rw [hhead] at hchain
    have hlength := congrArg List.length (hlevel.unique hchain)
    simp only [levelChain, List.length_append, length_layersFor hdevice] at hlength
    have hlayer : layersAt q.multiDevice q.calls none d.pasynInterface.interfaceType ≠ [] := by
      rw [← hport, ← htype]
      exact layersAt_ne_nil hc
    have hpos := List.length_pos_iff.mpr hlayer
    omega
  · intro hone
    exact ⟨fun before c after hcalls => OneLevel.prev q hone hcalls, OneLevel.chain q hone⟩

/-- A layer for the whole port, and then one for address 0. -/
def portThenDevice : CallSequence where
  multiDevice := true
  interfaceList := [⟨"asynOctet", 0⟩]
  calls := [⟨-1, ⟨"asynOctet", 1⟩⟩, ⟨0, ⟨"asynOctet", 2⟩⟩]
  distinct := by decide

/-- The layer for address 0 is told the driver's interface, where `findInterface` would have found
the layer of the port. -/
theorem not_interposeChains_portThenDevice : ¬InterposeChains portThenDevice := by
  intro hchains
  have hprev := hchains.prev [⟨-1, ⟨"asynOctet", 1⟩⟩] ⟨0, ⟨"asynOctet", 2⟩⟩ [] rfl
  revert hprev
  decide

end Interpose
end Manager
end AsynDriver
