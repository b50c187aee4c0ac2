import Mathlib.Data.List.Basic
import Mathlib.Logic.Function.Basic
import AsynDriver.Library.Machine
import AsynDriver.Library.Settings
import AsynDriver.Manager.Types

/-!
# The settings of `asynTrace`

The masks, the file and the truncate size of every port and device, with the calls that make ports and
devices and connect users to them.

* `TracePvt`, `State` — `pasynBase->trace` and the `trace` of every `dpCommon`, one for each `Place`.
* `setMask`, `getMask` — `setTraceMask` and its two siblings, by `MaskKind`; `setTraceFile`,
  `setTraceIOTruncateSize`.
* `machine` — calls one after the other.  `State.log` records what was asked for, `State.announced` the
  exceptions, and `State.closed` the files that were closed.
* `get_eq_current` — what a user reads is the last setting for its place since there is that place.
-/

namespace AsynDriver
namespace Manager
namespace Trace

open Library
open Library.Settings (Entry current Tracks)

/-- The masks, each with a `set` and a `get` method. -/
inductive MaskKind
  | traceMask
  | traceIOMask
  | traceInfoMask
  deriving DecidableEq, Repr

inductive AsynException
  | asynExceptionTraceMask
  | asynExceptionTraceIOMask
  | asynExceptionTraceInfoMask
  | asynExceptionTraceFile
  | asynExceptionTraceIOTruncateSize
  deriving DecidableEq, Repr

def MaskKind.exception : MaskKind → AsynException
  | .traceMask => .asynExceptionTraceMask
  | .traceIOMask => .asynExceptionTraceIOMask
  | .traceInfoMask => .asynExceptionTraceInfoMask

/-- The name of the `set` method, for its message. -/
def MaskKind.method : MaskKind → String
  | .traceMask => "setTraceMask"
  | .traceIOMask => "setTraceIOMask"
  | .traceInfoMask => "setTraceInfoMask"

/-- A `FILE *`; of `traceFileFP` also the stream. -/
inductive TraceFile
  | traceFileErrlog
  | traceFileStdout
  | traceFileStderr
  | traceFileFP (fp : Nat)
  deriving DecidableEq, Repr

/-- What of a `tracePvt` can be set. -/
structure TraceSettings where
  mask : MaskKind → Int
  file : TraceFile
  traceTruncateSize : Nat

/-- `traceBuffer` is the size of what was allocated. -/
structure TracePvt extends TraceSettings where
  traceBufferSize : Nat
  traceBuffer : Nat

def asynTraceError : Int := 0x0001
def asynTraceInfoTime : Int := 0x0001
def defaultTraceTruncateSize : Nat := 80
def defaultTraceBufferSize : Nat := 80

/-- `tracePvtInit` on memory from `callocMustSucceed` -/
def tracePvtInit : TracePvt where
  mask
    | .traceMask => asynTraceError
    | .traceIOMask => 0
    | .traceInfoMask => asynTraceInfoTime
  file := .traceFileStderr
  traceTruncateSize := defaultTraceTruncateSize
  traceBufferSize := defaultTraceBufferSize
  traceBuffer := defaultTraceBufferSize

/-- What has a `tracePvt`: `pasynBase`, and the `dpCommon` of a port or of a device, both by their
position in their list. -/
inductive Place
  | base
  | port (p : Nat)
  | device (p d : Nat)
  deriving DecidableEq, Repr

/-- Of the devices the addresses. -/
structure Port where
  portName : String
  multiDevice : Bool
  deviceList : List Int
  deriving DecidableEq, Repr

/-- `pport` and `pdevice` of a connected `userPvt` -/
structure Target where
  pport : Nat
  pdevice : Option Nat
  deriving DecidableEq, Repr

/-- What a call asks for. -/
inductive Change
  | mask (k : MaskKind) (mask : Int)
  | file (file : TraceFile)
  | truncateSize (size : Nat)

structure Setting where
  scope : Place
  change : Change

structure State where
  asynPortList : List Port
  trace : Place → TracePvt
  users : UserId → Option Target
  closed : List Nat
  announced : List (Place × AsynException)
  log : List (Entry Place Setting)

/-- `asynInit` -/
def asynInit : State where
  asynPortList := []
  trace _ := tracePvtInit
  users _ := none
  closed := []
  announced := []
  log := []

namespace State

def modTrace (s : State) (c : Place) (f : TracePvt → TracePvt) : State :=
  { s with trace := Function.update s.trace c (f (s.trace c)) }

def announce (s : State) (c : Place) (e : AsynException) : State :=
  { s with announced := s.announced ++ [(c, e)] }

def record (s : State) (e : Entry Place Setting) : State := { s with log := e :: s.log }

end State

/-! ## Ports, devices and users -/

def locatePort (s : State) (portName : String) : Option Nat :=
  s.asynPortList.findIdx? (fun port => port.portName == portName)

/-- `locateDevice` with `allocNew` -/
def locateDevice (s : State) (p : Nat) (port : Port) (addr : Int) : State × Option Nat :=
  if !port.multiDevice || addr < 0 then (s, none)
  else
    match port.deviceList.findIdx? (fun a => a == addr) with
    | some d => (s, some d)
    | none =>
        let d := port.deviceList.length
        (({ s with
            asynPortList :=
              s.asynPortList.set p { port with deviceList := port.deviceList ++ [addr] }
            trace := Function.update s.trace (.device p d) tracePvtInit }).record
          (.created (.device p d)), some d)

/-- `findDpCommon`, and `pasynBase` where it finds none -/
def findTracePvt (s : State) (u : UserId) : Place :=
  match s.users u with
  | none => .base
  | some t =>
      match s.asynPortList[t.pport]?, t.pdevice with
      | some port, some d => if port.multiDevice then .device t.pport d else .port t.pport
      | _, _ => .port t.pport

/-- A status, with the message where the method writes one. -/
abbrev Reply := AsynStatus × Option String

def registerPort (s : State) (portName : String) (multiDevice : Bool) : State × Reply :=
  match locatePort s portName with
  | some _ => (s, .asynError, none)
  | none =>
      let p := s.asynPortList.length
      let port : Port := ⟨portName, multiDevice, []⟩
      (({ s with
          asynPortList := s.asynPortList ++ [port]
          trace := Function.update s.trace (.port p) tracePvtInit }).record (.created (.port p)),
        .asynSuccess, none)

def connectDevice (s : State) (u : UserId) (portName : String) (addr : Int) : State × Reply :=
  match locatePort s portName with
  | none =>
      (s, .asynError, some s!"asynManager:connectDevice port {portName} not found")
  | some p =>
      match s.users u, s.asynPortList[p]? with
      | none, some port =>
          if 0 ≤ addr then
            let (s, pdevice) := locateDevice s p port addr
            ({ s with users := Function.update s.users u (some ⟨p, pdevice⟩) },
              .asynSuccess, none)
          else
            ({ s with users := Function.update s.users u (some ⟨p, none⟩) }, .asynSuccess, none)
      | _, _ => (s, .asynError, some "asynManager:connectDevice already connected to device")

/-- `busy` is the message of a test that refuses to disconnect. -/
def disconnect (s : State) (u : UserId) (busy : Option String) : State × Reply :=
  match s.users u with
  | none => (s, .asynError, some "asynManager::disconnect: not connected")
  | some _ =>
      match busy with
      | some message => (s, .asynError, some message)
      | none => ({ s with users := Function.update s.users u none }, .asynSuccess, none)

/-! ## The `set` and the `get` methods -/

/-- The length of `deviceList`. -/
def deviceCount (s : State) (p : Nat) : Nat :=
  ((s.asynPortList[p]?.map Port.deviceList).getD []).length

def TracePvt.setMask (k : MaskKind) (mask : Int) (t : TracePvt) : TracePvt :=
  { t with mask := Function.update t.mask k mask }

/-- One turn of the loop over the devices, and the same for the port after it. -/
def setMaskAt (k : MaskKind) (mask : Int) (s : State) (c : Place) : State :=
  (s.modTrace c (TracePvt.setMask k mask)).announce c k.exception

/-- `setTraceMask` and its siblings; a null `pasynUser` is `none`. -/
def setMask (k : MaskKind) (s : State) (pasynUser : Option UserId) (mask : Int) : State × Reply :=
  match pasynUser with
  | none =>
      ((s.modTrace .base (TracePvt.setMask k mask)).record (.set ⟨.base, .mask k mask⟩),
        .asynSuccess, none)
  | some u =>
      match s.users u with
      | none => (s, .asynError, some s!"asynManager:{k.method} -- not connected to port.")
      | some ⟨p, some d⟩ =>
          ((setMaskAt k mask s (.device p d)).record (.set ⟨.device p d, .mask k mask⟩),
            .asynSuccess, none)
      | some ⟨p, none⟩ =>
          let s := (List.range (deviceCount s p)).foldl
            (fun s d => setMaskAt k mask s (.device p d)) s
          ((setMaskAt k mask s (.port p)).record (.set ⟨.port p, .mask k mask⟩),
            .asynSuccess, none)

def setTraceMask := setMask .traceMask
def setTraceIOMask := setMask .traceIOMask
def setTraceInfoMask := setMask .traceInfoMask

def getMask (k : MaskKind) (s : State) (u : UserId) : Int := (s.trace (findTracePvt s u)).mask k

def getTraceMask := getMask .traceMask
def getTraceIOMask := getMask .traceIOMask
def getTraceInfoMask := getMask .traceInfoMask

/-- `exceptionOccurred` of a connected user -/
def exceptionOccurred (s : State) (u : UserId) (e : AsynException) : State :=
  match s.users u with
  | none => s
  | some ⟨p, some d⟩ => s.announce (.device p d) e
  | some ⟨p, none⟩ => s.announce (.port p) e

/-- `fcloseError` is the `strerror` of an `fclose` that fails. -/
def setTraceFile (s : State) (u : UserId) (file : TraceFile) (fcloseError : Option String) :
    State × Reply :=
  let c := findTracePvt s u
  let (closed, message) :=
    match (s.trace c).file with
    | .traceFileFP fp =>
        (fp :: s.closed, fcloseError.map ("asynManager:setTraceFile fclose error " ++ ·))
    | _ => (s.closed, none)
  let s := { s with closed := closed }.modTrace c (fun t => { t with file := file })
  ((exceptionOccurred s u .asynExceptionTraceFile).record (.set ⟨c, .file file⟩),
    .asynSuccess, message)

def getTraceFile (s : State) (u : UserId) : TraceFile := (s.trace (findTracePvt s u)).file

/-- `memory` says whether `calloc` finds the memory. -/
def setTraceIOTruncateSize (s : State) (u : UserId) (size : Nat) (memory : Bool) : State × Reply :=
  let c := findTracePvt s u
  if size > (s.trace c).traceBufferSize ∧ memory = false then (s, .asynError, none)
  else
    let s := s.modTrace c (fun t =>
      if size > t.traceBufferSize then { t with traceBuffer := size, traceBufferSize := size }
      else t)
    let s := s.modTrace c (fun t => { t with traceTruncateSize := size })
    ((exceptionOccurred s u .asynExceptionTraceIOTruncateSize).record
      (.set ⟨c, .truncateSize size⟩), .asynSuccess, none)

def getTraceIOTruncateSize (s : State) (u : UserId) : Nat :=
  (s.trace (findTracePvt s u)).traceTruncateSize

/-! ## Calls one after the other -/

inductive Call
  | registerPort (portName : String) (multiDevice : Bool)
  | connectDevice (u : UserId) (portName : String) (addr : Int)
  | disconnect (u : UserId) (busy : Option String)
  | setMask (k : MaskKind) (pasynUser : Option UserId) (mask : Int)
  | setTraceFile (u : UserId) (file : TraceFile) (fcloseError : Option String)
  | setTraceIOTruncateSize (u : UserId) (size : Nat) (memory : Bool)

def Call.run (s : State) : Call → State × Reply
  | .registerPort portName multiDevice => Trace.registerPort s portName multiDevice
  | .connectDevice u portName addr => Trace.connectDevice s u portName addr
  | .disconnect u busy => Trace.disconnect s u busy
  | .setMask k pasynUser mask => Trace.setMask k s pasynUser mask
  | .setTraceFile u file fcloseError => Trace.setTraceFile s u file fcloseError
  | .setTraceIOTruncateSize u size memory => Trace.setTraceIOTruncateSize s u size memory

def machine : Machine State Call where
  init s := s = asynInit
  step s call := some (call.run s).1

/-! ## What there is -/

/-- The place is that of a port or a device that there is. -/
def Live (s : State) : Place → Prop
  | .base => True
  | .port p => p < s.asynPortList.length
  | .device p d => d < deviceCount s p

/-- Users are connected to what there is; a port that is no `ASYN_MULTIDEVICE` has no devices. -/
structure Known (s : State) : Prop where
  target : ∀ u (t : Target), s.users u = some t → t.pport < s.asynPortList.length ∧
    ∀ d, t.pdevice = some d → d < deviceCount s t.pport
  single : ∀ (p : Nat) (port : Port), s.asynPortList[p]? = some port → port.multiDevice = false →
    port.deviceList = []

/-- The place that a user is connected to. -/
def Target.place : Option Target → Place
  | none => .base
  | some ⟨p, some d⟩ => .device p d
  | some ⟨p, none⟩ => .port p

theorem Known.live {s : State} (hknown : Known s) (u : UserId) :
    Live s (Target.place (s.users u)) := by
  cases hu : s.users u with
  | none => exact trivial
  | some t =>
      obtain ⟨p, pdevice⟩ := t
      obtain ⟨hport, hdevice⟩ := hknown.target u _ hu
      cases pdevice with
      | none => exact hport
      | some d => exact hdevice d rfl

/-- `findDpCommon` need not have looked at the attributes. -/
theorem Known.findTracePvt {s : State} (hknown : Known s) (u : UserId) :
    findTracePvt s u = Target.place (s.users u) := by
  unfold Trace.findTracePvt
  cases hu : s.users u with
  | none => rfl
  | some t =>
      obtain ⟨p, pdevice⟩ := t
      obtain ⟨hport, hdevice⟩ := hknown.target u _ hu
      change p < s.asynPortList.length at hport
      have hget : s.asynPortList[p]? = some s.asynPortList[p] := List.getElem?_eq_getElem hport
      cases pdevice with
      | none =>
          simp only [hget]
          rfl
      | some d =>
          simp only [hget]
          cases hmulti : s.asynPortList[p].multiDevice with
          | true => rfl
          | false =>
              have hcount := hdevice d rfl
              have hnil := hknown.single p _ hget hmulti
              simp [deviceCount, hget, hnil] at hcount

/-! ## What the calls leave alone -/

@[simp] theorem setMaskAt_trace (k : MaskKind) (mask : Int) (s : State) (c c' : Place) :
    (setMaskAt k mask s c).trace c' =
      if c' = c then (s.trace c').setMask k mask else s.trace c' := by
  unfold setMaskAt State.modTrace State.announce
  by_cases hc : c' = c
  · subst hc
    simp
  · simp [hc]

/-- The loop over the devices. -/
theorem foldl_setMaskAt (k : MaskKind) (mask : Int) (p n : Nat) (s : State) :
    let s' := (List.range n).foldl (fun s d => setMaskAt k mask s (.device p d)) s
    s'.asynPortList = s.asynPortList ∧ s'.users = s.users ∧ s'.log = s.log ∧
      s'.closed = s.closed ∧
      s'.announced = s.announced ++ (List.range n).map (fun d => (Place.device p d, k.exception)) ∧
      ∀ c, s'.trace c =
        if ∃ d < n, c = Place.device p d then (s.trace c).setMask k mask else s.trace c := by
  induction n with
  | zero => simp
  | succ n ih =>
      obtain ⟨hports, husers, hlog, hclosed, hannounced, htrace⟩ := ih
      simp only [List.range_succ, List.foldl_append, List.foldl_cons, List.foldl_nil]
      refine ⟨hports, husers, hlog, hclosed, ?_, ?_⟩
      · rw [List.map_append, ← List.append_assoc, ← hannounced]
        rfl
      · intro c
        rw [setMaskAt_trace, htrace c]
        by_cases hc : c = .device p n
        · subst hc
          have hnot : ¬ ∃ d < n, Place.device p n = .device p d := by
            rintro ⟨d, hd, heq⟩
            cases heq
            omega
          rw [if_pos rfl, if_neg hnot, if_pos ⟨n, by omega, rfl⟩]
        · rw [if_neg hc]
          have hiff : (∃ d < n + 1, c = .device p d) ↔ ∃ d < n, c = .device p d := by
            constructor
            · rintro ⟨d, hd, rfl⟩
              refine ⟨d, ?_, rfl⟩
              rcases Nat.lt_succ_iff_lt_or_eq.mp hd with h | rfl
              · exact h
              · exact absurd rfl hc
            · rintro ⟨d, hd, rfl⟩
              exact ⟨d, by omega, rfl⟩
          simp only [hiff]

/-! ## The settings as a log -/

/-- A mask of a port is also that of its devices. -/
def covers (x : Setting) (c : Place) : Bool :=
  x.scope == c ||
    match x.change, x.scope, c with
    | .mask _ _, .port p, .device q _ => p == q
    | _, _, _ => false

def Change.apply : Change → TraceSettings → TraceSettings
  | .mask k value, t => { t with mask := Function.update t.mask k value }
  | .file fp, t => { t with file := fp }
  | .truncateSize size, t => { t with traceTruncateSize := size }

/-- The settings of a place by the log. -/
def settings (log : List (Entry Place Setting)) (c : Place) : TraceSettings :=
  current covers (fun x => x.change.apply) tracePvtInit.toTraceSettings log c

/-- Each `tracePvt` is what the log says. -/
def Follows (s : State) : Prop :=
  Tracks covers (fun x => x.change.apply) tracePvtInit.toTraceSettings
    (fun c => (s.trace c).toTraceSettings) (Live s) s.log

/-- Nothing that counts has changed. -/
theorem Follows.congr {s s' : State} (hfollows : Follows s)
    (hports : s'.asynPortList = s.asynPortList) (htrace : s'.trace = s.trace)
    (hlog : s'.log = s.log) : Follows s' := by
  have hlive : ∀ c, Live s' c → Live s c := by
    intro c hc
    cases c <;> simp only [Live, deviceCount, hports] at hc ⊢ <;> exact hc
  unfold Follows at hfollows ⊢
  rw [hlog]
  exact Tracks.congr hfollows hlive (fun c _ => by rw [htrace])

theorem Known.congr {s s' : State} (hknown : Known s) (hports : s'.asynPortList = s.asynPortList)
    (husers : s'.users = s.users) : Known s' := by
  refine ⟨?_, ?_⟩
  · simp only [hports, husers, deviceCount]
    exact hknown.target
  · rw [hports]
    exact hknown.single

theorem live_congr {s s' : State} (hports : s'.asynPortList = s.asynPortList) (c : Place) :
    Live s' c ↔ Live s c := by
  cases c <;> simp only [Live, deviceCount, hports]

/-- A setting is logged as what it does. -/
theorem Follows.set {s s' : State} (hfollows : Follows s) {x : Setting}
    (hports : s'.asynPortList = s.asynPortList) (hlog : s'.log = .set x :: s.log)
    (htrace : ∀ c, Live s c → (s'.trace c).toTraceSettings =
      if covers x c then x.change.apply (s.trace c).toTraceSettings
      else (s.trace c).toTraceSettings) : Follows s' := by
  have hset := Tracks.set hfollows htrace
  unfold Follows
  rw [hlog]
  exact Tracks.congr hset (fun c hc => (live_congr hports c).mp hc) (fun _ _ => rfl)

/-- There is one place more. -/
structure Creates (s s' : State) (q : Place) : Prop where
  fresh : ¬ Live s q
  new : s'.trace q = tracePvtInit
  old : ∀ c, c ≠ q → s'.trace c = s.trace c
  live : ∀ c, Live s' c ↔ c = q ∨ Live s c
  log : s'.log = .created q :: s.log
  closed : s'.closed = s.closed

theorem Creates.follows {s s' : State} {q : Place} (hcreates : Creates s s' q)
    (hfollows : Follows s) : Follows s' := by
  unfold Follows at hfollows ⊢
  rw [hcreates.log]
  refine hfollows.created ?_ ?_ (fun c => (hcreates.live c).mp)
  · rw [hcreates.new]
  · intro c _ hne
    rw [hcreates.old c hne]

/-! ### The `set` methods -/

theorem covers_exact {x : Setting} (hmask : ∀ k mask, x.change ≠ .mask k mask) (c : Place) :
    covers x c = (x.scope == c) := by
  unfold covers
  cases hchange : x.change with
  | mask k mask => exact absurd hchange (hmask k mask)
  | file file => simp
  | truncateSize size => simp

theorem follows_setMaskAt {s : State} (hfollows : Follows s) {k : MaskKind} {mask : Int} {c : Place}
    (hc : ∀ p, c ≠ .port p) :
    Follows ((setMaskAt k mask s c).record (.set ⟨c, .mask k mask⟩)) := by
  refine hfollows.set rfl rfl ?_
  intro c' _
  change (((setMaskAt k mask s c).trace c').toTraceSettings = _)
  have hcovers : covers ⟨c, .mask k mask⟩ c' = (c == c') := by
    cases c with
    | port p => exact absurd rfl (hc p)
    | base => simp [covers]
    | device p d => simp [covers]
  rw [setMaskAt_trace, hcovers]
  by_cases heq : c' = c
  · subst heq
    simp [TracePvt.setMask, Change.apply]
  · have hne : ¬ c = c' := fun h => heq h.symm
    simp [heq, hne]

/-- Ports, devices and users stay. -/
theorem setMask_frame (k : MaskKind) (s : State) (pasynUser : Option UserId) (mask : Int) :
    (setMask k s pasynUser mask).1.asynPortList = s.asynPortList ∧
      (setMask k s pasynUser mask).1.users = s.users := by
  unfold setMask
  split
  · exact ⟨rfl, rfl⟩
  · split
    · exact ⟨rfl, rfl⟩
    · exact ⟨rfl, rfl⟩
    · next p _ =>
        obtain ⟨hports, husers, -⟩ := foldl_setMaskAt k mask p (deviceCount s p) s
        exact ⟨hports, husers⟩

theorem setMask_follows {s : State} (hfollows : Follows s) (k : MaskKind)
    (pasynUser : Option UserId) (mask : Int) : Follows (setMask k s pasynUser mask).1 := by
  unfold setMask
  cases pasynUser with
  | none => exact Follows.congr (follows_setMaskAt hfollows (fun p => Place.noConfusion)) rfl rfl rfl
  | some u =>
      cases hu : s.users u with
      | none =>
          simp only [hu]
          exact hfollows
      | some t =>
          obtain ⟨p, pdevice⟩ := t
          cases pdevice with
          | some d =>
              simp only [hu]
              exact follows_setMaskAt hfollows (fun p => Place.noConfusion)
          | none =>
              simp only [hu]
              have hloop := foldl_setMaskAt k mask p (deviceCount s p) s
              obtain ⟨hports, -, hlog, -, -, htrace⟩ := hloop
              refine Follows.set (x := ⟨.port p, .mask k mask⟩) hfollows hports
                (congrArg _ hlog) ?_
              intro c hc
              change ((setMaskAt k mask _ (.port p)).trace c).toTraceSettings = _
              rw [setMaskAt_trace, htrace c]
              cases c with
              | base => simp [covers]
              | port q =>
                  by_cases hq : q = p
                  · subst hq
                    simp [covers, TracePvt.setMask, Change.apply]
                  · have hne : ¬ p = q := fun h => hq h.symm
                    simp [covers, hq, hne]
              | device q d =>
                  by_cases hq : q = p
                  · subst hq
                    have hd : d < deviceCount s q := hc
                    simp [covers, hd, TracePvt.setMask, Change.apply]
                  · have hne : ¬ p = q := fun h => hq h.symm
                    simp [covers, hq, hne]

/-- One `tracePvt` is changed, and nothing but `closed` besides. -/
structure Changes (s s' : State) (c : Place) (x : Change) : Prop where
  ports : s'.asynPortList = s.asynPortList
  users : s'.users = s.users
  log : s'.log = .set ⟨c, x⟩ :: s.log
  own : (s'.trace c).toTraceSettings = x.apply (s.trace c).toTraceSettings
  other : ∀ c', c' ≠ c → s'.trace c' = s.trace c'

theorem Changes.follows {s s' : State} {c : Place} {x : Change} (hchanges : Changes s s' c x)
    (hfollows : Follows s) (hmask : ∀ k mask, x ≠ .mask k mask) : Follows s' := by
  refine hfollows.set hchanges.ports hchanges.log ?_
  intro c' _
  rw [covers_exact hmask]
  by_cases hc : c' = c
  · subst hc
    simp [hchanges.own]
  · have hne : ¬ c = c' := fun h => hc h.symm
    simp [hchanges.other c' hc, hne]

theorem exceptionOccurred_closed (s : State) (u : UserId) (e : AsynException) :
    (exceptionOccurred s u e).closed = s.closed := by
  unfold exceptionOccurred
  split <;> rfl

theorem changes_exceptionOccurred {s s' : State} {c : Place} {x : Change} (u : UserId)
    (e : AsynException) (hports : s'.asynPortList = s.asynPortList) (husers : s'.users = s.users)
    (hlog : s'.log = s.log)
    (hown : (s'.trace c).toTraceSettings = x.apply (s.trace c).toTraceSettings)
    (hother : ∀ c', c' ≠ c → s'.trace c' = s.trace c') :
    Changes s ((exceptionOccurred s' u e).record (.set ⟨c, x⟩)) c x := by
  unfold exceptionOccurred
  split <;> exact ⟨hports, husers, congrArg _ hlog, hown, hother⟩

theorem setTraceFile_changes (s : State) (u : UserId) (file : TraceFile)
    (fcloseError : Option String) :
    Changes s (setTraceFile s u file fcloseError).1 (findTracePvt s u) (.file file) := by
  refine changes_exceptionOccurred u _ rfl rfl rfl ?_ (fun c' hc => Function.update_of_ne hc _ _)
  simp [State.modTrace, Change.apply]

theorem setTraceIOTruncateSize_cases (s : State) (u : UserId) (size : Nat) (memory : Bool) :
    (setTraceIOTruncateSize s u size memory).1 = s ∨
      Changes s (setTraceIOTruncateSize s u size memory).1 (findTracePvt s u) (.truncateSize size) ∧
        (setTraceIOTruncateSize s u size memory).1.closed = s.closed := by
  unfold setTraceIOTruncateSize
  dsimp only
  split
  · exact Or.inl rfl
  · refine Or.inr ⟨changes_exceptionOccurred u _ rfl rfl rfl ?_ (fun c' hc => ?_),
      exceptionOccurred_closed _ u _⟩
    · by_cases hsize : (s.trace (findTracePvt s u)).traceBufferSize < size <;>
        simp [State.modTrace, Change.apply, hsize]
    · simp [State.modTrace, hc]

/-! ### Ports, devices and users -/

theorem locatePort_lt {s : State} {portName : String} {p : Nat}
    (hp : locatePort s portName = some p) : p < s.asynPortList.length :=
  (List.findIdx?_eq_some_iff_getElem.mp hp).1

theorem deviceCount_append (s : State) (portName : String) (multiDevice : Bool) (q : Nat) :
    (((s.asynPortList ++ [⟨portName, multiDevice, []⟩])[q]?.map Port.deviceList).getD []).length =
      deviceCount s q := by
  unfold deviceCount
  rcases Nat.lt_trichotomy q s.asynPortList.length with hq | hq | hq
  · rw [List.getElem?_append_left hq]
  · subst hq
    simp
  · rw [List.getElem?_eq_none (by simp; omega), List.getElem?_eq_none (by omega)]

theorem registerPort_creates {s : State} {portName : String} (hlocate : locatePort s portName = none)
    (multiDevice : Bool) :
    Creates s (registerPort s portName multiDevice).1 (.port s.asynPortList.length) := by
  unfold registerPort
  rw [hlocate]
  refine ⟨Nat.lt_irrefl _, ?_, ?_, ?_, rfl, rfl⟩
  · change Function.update s.trace _ _ _ = _
    rw [Function.update_self]
  · intro c hne
    change Function.update s.trace _ _ c = _
    rw [Function.update_of_ne hne]
  · intro c
    cases c with
    | base => exact iff_of_true trivial (Or.inr trivial)
    | port q =>
        change q < (s.asynPortList ++ [_]).length ↔ _ ∨ q < s.asynPortList.length
        rw [List.length_append, List.length_singleton, Nat.lt_succ_iff_lt_or_eq, or_comm,
          Place.port.injEq]
    | device q d =>
        change d < (Option.getD (Option.map _ (s.asynPortList ++ [_])[q]?) []).length ↔
          _ ∨ d < deviceCount s q
        rw [deviceCount_append]
        exact ⟨Or.inr, fun h => h.resolve_left Place.noConfusion⟩

theorem registerPort_known {s : State} (hknown : Known s) (portName : String) (multiDevice : Bool) :
    Known (registerPort s portName multiDevice).1 := by
  unfold registerPort
  cases locatePort s portName with
  | some p => exact hknown
  | none =>
      refine ⟨?_, ?_⟩
      · intro u t hu
        obtain ⟨hport, hdevice⟩ := hknown.target u t hu
        refine ⟨?_, fun d hd => ?_⟩
        · change _ < (s.asynPortList ++ [_]).length
          rw [List.length_append]
          omega
        · have hd := hdevice d hd
          change d < (Option.getD (Option.map _ (s.asynPortList ++ [_])[t.pport]?) []).length
          rw [deviceCount_append]
          exact hd
      · intro q port hport hsingle
        change (s.asynPortList ++ [_])[q]? = some port at hport
        rcases Nat.lt_trichotomy q s.asynPortList.length with hq | hq | hq
        · rw [List.getElem?_append_left hq] at hport
          exact hknown.single q port hport hsingle
        · subst hq
          simp at hport
          rw [← hport]
        · rw [List.getElem?_eq_none (by simp; omega)] at hport
          cases hport

theorem deviceCount_set {s : State} {p : Nat} {port : Port} {addr : Int}
    (hport : s.asynPortList[p]? = some port) (q : Nat) :
    (((s.asynPortList.set p { port with deviceList := port.deviceList ++ [addr] })[q]?.map
      Port.deviceList).getD []).length = deviceCount s q + if q = p then 1 else 0 := by
  unfold deviceCount
  by_cases hq : q = p
  · subst hq
    have hlt : q < s.asynPortList.length := (List.getElem?_eq_some_iff.mp hport).1
    rw [List.getElem?_set_self hlt, hport]
    simp
  · rw [List.getElem?_set_ne (fun h => hq h.symm)]
    simp [hq]

/-- The state with the new device. -/
def withDevice (s : State) (p : Nat) (port : Port) (addr : Int) : State :=
  ({ s with
      asynPortList := s.asynPortList.set p { port with deviceList := port.deviceList ++ [addr] }
      trace := Function.update s.trace (.device p (deviceCount s p)) tracePvtInit }).record
    (.created (.device p (deviceCount s p)))

/-- What `locateDevice` does: nothing, or a new device. -/
theorem locateDevice_cases (s : State) {p : Nat} {port : Port}
    (hport : s.asynPortList[p]? = some port) (addr : Int) :
    ((locateDevice s p port addr).1 = s ∧
      ∀ d, (locateDevice s p port addr).2 = some d → d < deviceCount s p) ∨
    (port.multiDevice = true ∧
      locateDevice s p port addr = (withDevice s p port addr, some (deviceCount s p))) := by
  have hlength : port.deviceList.length = deviceCount s p := by
    simp [deviceCount, hport]
  unfold locateDevice
  by_cases hsingle : (!port.multiDevice || decide (addr < 0)) = true
  · rw [if_pos hsingle]
    refine Or.inl ⟨rfl, ?_⟩
    intro d hd
    cases hd
  · rw [if_neg hsingle]
    cases hfind : port.deviceList.findIdx? (fun a => a == addr) with
    | some d =>
        refine Or.inl ⟨rfl, ?_⟩
        intro d' hd'
        cases hd'
        have hd := (List.findIdx?_eq_some_iff_getElem.mp hfind).1
        rw [← hlength]
        exact hd
    | none =>
        have hmulti : port.multiDevice = true := by
          cases hm : port.multiDevice with
          | true => rfl
          | false => simp [hm] at hsingle
        refine Or.inr ⟨hmulti, ?_⟩
        unfold withDevice
        rw [← hlength]

section

variable {s : State} {p : Nat} {port : Port} {addr : Int}

theorem deviceCount_withDevice (hport : s.asynPortList[p]? = some port) (q : Nat) :
    deviceCount (withDevice s p port addr) q = deviceCount s q + if q = p then 1 else 0 :=
  deviceCount_set hport q

theorem withDevice_creates (hport : s.asynPortList[p]? = some port) :
    Creates s (withDevice s p port addr) (.device p (deviceCount s p)) := by
  refine ⟨Nat.lt_irrefl _, ?_, ?_, ?_, rfl, rfl⟩
  · change Function.update s.trace _ _ _ = _
    rw [Function.update_self]
  · intro c hne
    change Function.update s.trace _ _ c = _
    rw [Function.update_of_ne hne]
  · intro c
    cases c with
    | base => exact iff_of_true trivial (Or.inr trivial)
    | port q =>
        change q < (s.asynPortList.set p _).length ↔ _ ∨ q < s.asynPortList.length
        rw [List.length_set]
        exact ⟨Or.inr, fun h => h.resolve_left Place.noConfusion⟩
    | device q d =>
        change d < deviceCount (withDevice s p port addr) q ↔ _ ∨ d < deviceCount s q
        rw [deviceCount_withDevice hport, Place.device.injEq]
        by_cases hq : q = p
        · subst hq
          rw [if_pos rfl]
          omega
        · rw [if_neg hq]
          omega

theorem withDevice_known (hknown : Known s) (hport : s.asynPortList[p]? = some port)
    (hmulti : port.multiDevice = true) : Known (withDevice s p port addr) := by
  have hlt : p < s.asynPortList.length := (List.getElem?_eq_some_iff.mp hport).1
  refine ⟨?_, ?_⟩
  · intro u t hu
    obtain ⟨htarget, hdevice⟩ := hknown.target u t hu
    refine ⟨?_, fun d hd => ?_⟩
    · change _ < (s.asynPortList.set p _).length
      rw [List.length_set]
      exact htarget
    · have hd := hdevice d hd
      rw [deviceCount_withDevice hport]
      omega
  · intro q port' hq hsingle
    change (s.asynPortList.set p _)[q]? = some port' at hq
    by_cases heq : q = p
    · subst heq
      rw [List.getElem?_set_self hlt] at hq
      cases hq
      exact absurd (hmulti.symm.trans hsingle) (by decide)
    · rw [List.getElem?_set_ne (fun h => heq h.symm)] at hq
      exact hknown.single q port' hq hsingle

end

/-- A user is connected to what there is. -/
theorem known_connect {s : State} (hknown : Known s) {u : UserId} {t : Target}
    (hport : t.pport < s.asynPortList.length)
    (hdevice : ∀ d, t.pdevice = some d → d < deviceCount s t.pport) :
    Known { s with users := Function.update s.users u (some t) } := by
  refine ⟨?_, hknown.single⟩
  intro u' t' hu'
  change Function.update s.users u (some t) u' = some t' at hu'
  by_cases heq : u' = u
  · subst heq
    rw [Function.update_self] at hu'
    cases hu'
    exact ⟨hport, hdevice⟩
  · rw [Function.update_of_ne heq] at hu'
    exact hknown.target u' t' hu'

/-- What `connectDevice` does: nothing, or a target for a user, perhaps with a new device. -/
theorem connectDevice_cases {s : State} (hknown : Known s) (u : UserId) (portName : String)
    (addr : Int) :
    (connectDevice s u portName addr).1 = s ∨
      ∃ s₁ t, (connectDevice s u portName addr).1 =
          { s₁ with users := Function.update s₁.users u (some t) } ∧
        Known s₁ ∧ t.pport < s₁.asynPortList.length ∧
        (∀ d, t.pdevice = some d → d < deviceCount s₁ t.pport) ∧
        (s₁ = s ∨ ∃ q, Creates s s₁ q) := by
  unfold connectDevice
  cases hlocate : locatePort s portName with
  | none => exact Or.inl rfl
  | some p =>
      have hlt := locatePort_lt hlocate
      have hget : s.asynPortList[p]? = some s.asynPortList[p] := List.getElem?_eq_getElem hlt
      cases hu : s.users u with
      | some t => exact Or.inl rfl
      | none =>
          simp only [hget]
          by_cases haddr : 0 ≤ addr
          · rw [if_pos haddr]
            rcases locateDevice_cases s hget addr with ⟨hsame, hdevice⟩ | ⟨hmulti, hnew⟩
            · refine Or.inr ⟨_, ⟨p, (locateDevice s p s.asynPortList[p] addr).2⟩, rfl, ?_⟩
              rw [hsame]
              exact ⟨hknown, hlt, hdevice, Or.inl rfl⟩
            · rw [hnew]
              refine Or.inr ⟨withDevice s p s.asynPortList[p] addr, ⟨p, some (deviceCount s p)⟩,
                rfl, withDevice_known hknown hget hmulti, ?_, ?_,
                Or.inr ⟨.device p (deviceCount s p), ?_⟩⟩
              · change p < (s.asynPortList.set p _).length
                rw [List.length_set]
                exact hlt
              · intro d hd
                cases hd
                change deviceCount s p < deviceCount (withDevice s p _ addr) p
                rw [deviceCount_withDevice hget, if_pos rfl]
                omega
              · exact withDevice_creates hget
          · rw [if_neg haddr]
            refine Or.inr ⟨s, ⟨p, none⟩, rfl, hknown, hlt, ?_, Or.inl rfl⟩
            intro d hd
            cases hd

theorem connectDevice_known {s : State} (hknown : Known s) (u : UserId) (portName : String)
    (addr : Int) : Known (connectDevice s u portName addr).1 := by
  rcases connectDevice_cases hknown u portName addr with
    hsame | ⟨s₁, t, hafter, hknown₁, hport, hdevice, -⟩
  · rw [hsame]
    exact hknown
  · rw [hafter]
    exact known_connect hknown₁ hport hdevice

theorem disconnect_known {s : State} (hknown : Known s) (u : UserId) (busy : Option String) :
    Known (disconnect s u busy).1 := by
  unfold disconnect
  cases s.users u with
  | none => exact hknown
  | some t =>
      cases busy with
      | some message => exact hknown
      | none =>
          refine ⟨?_, hknown.single⟩
          intro u' t' hu'
          change Function.update s.users u none u' = some t' at hu'
          by_cases heq : u' = u
          · subst heq
            rw [Function.update_self] at hu'
            cases hu'
          · rw [Function.update_of_ne heq] at hu'
            exact hknown.target u' t' hu'

/-- The calls for ports, devices and users. -/
def Call.Connects : Call → Prop
  | .registerPort _ _ | .connectDevice _ _ _ | .disconnect _ _ => True
  | _ => False

/-- They make at most one place more, and change what the users are connected to. -/
theorem run_connects {P : State → Prop} {s : State} (hknown : Known s) {call : Call}
    (hconnects : call.Connects) (hsame : P s) (hcreates : ∀ s' q, Creates s s' q → P s')
    (husers : ∀ s users, P s → P { s with users := users }) : P (call.run s).1 := by
  cases call with
  | registerPort portName multiDevice =>
      change P (registerPort s portName multiDevice).1
      cases hlocate : locatePort s portName with
      | none => exact hcreates _ _ (registerPort_creates hlocate multiDevice)
      | some p =>
          unfold registerPort
          rw [hlocate]
          exact hsame
  | connectDevice u portName addr =>
      change P (connectDevice s u portName addr).1
      rcases connectDevice_cases hknown u portName addr with
        hnone | ⟨s₁, t, hafter, -, -, -, rfl | ⟨q, hnew⟩⟩
      · rw [hnone]
        exact hsame
      · rw [hafter]
        exact husers _ _ hsame
      · rw [hafter]
        exact husers _ _ (hcreates _ q hnew)
  | disconnect u busy =>
      change P (disconnect s u busy).1
      unfold disconnect
      split
      · exact hsame
      · split
        · exact hsame
        · exact husers _ _ hsame
  | _ => exact hconnects.elim

/-! ## The runs -/

theorem run_known {s : State} (hknown : Known s) (call : Call) : Known (call.run s).1 := by
  cases call with
  | registerPort portName multiDevice => exact registerPort_known hknown portName multiDevice
  | connectDevice u portName addr => exact connectDevice_known hknown u portName addr
  | disconnect u busy => exact disconnect_known hknown u busy
  | setMask k pasynUser mask =>
      obtain ⟨hports, husers⟩ := setMask_frame k s pasynUser mask
      exact hknown.congr hports husers
  | setTraceFile u file fcloseError =>
      have hchanges := setTraceFile_changes s u file fcloseError
      exact hknown.congr hchanges.ports hchanges.users
  | setTraceIOTruncateSize u size memory =>
      change Known (setTraceIOTruncateSize s u size memory).1
      rcases setTraceIOTruncateSize_cases s u size memory with hsame | ⟨hchanges, -⟩
      · rw [hsame]
        exact hknown
      · exact hknown.congr hchanges.ports hchanges.users

theorem run_follows {s : State} (hknown : Known s) (hfollows : Follows s) (call : Call) :
    Follows (call.run s).1 := by
  cases call with
  | registerPort | connectDevice | disconnect =>
      exact run_connects hknown trivial hfollows (fun _ _ hcreates => hcreates.follows hfollows)
        (fun _ _ h => h.congr rfl rfl rfl)
  | setMask k pasynUser mask => exact setMask_follows hfollows k pasynUser mask
  | setTraceFile u file fcloseError =>
      have hchanges := setTraceFile_changes s u file fcloseError
      exact hchanges.follows hfollows (fun k mask => Change.noConfusion)
  | setTraceIOTruncateSize u size memory =>
      change Follows (setTraceIOTruncateSize s u size memory).1
      rcases setTraceIOTruncateSize_cases s u size memory with hsame | ⟨hchanges, -⟩
      · rw [hsame]
        exact hfollows
      · exact hchanges.follows hfollows (fun k mask => Change.noConfusion)

theorem known_init : Known asynInit := by
  refine ⟨?_, ?_⟩
  · intro u t hu
    cases hu
  · intro p port hport
    simp [asynInit] at hport

theorem follows_reachable {s : State} (hreach : machine.Reachable Machine.Unguarded s) :
    Known s ∧ Follows s := by
  refine Machine.Reachable.invariant (I := fun s => Known s ∧ Follows s) ?_ ?_ hreach
  · rintro s rfl
    exact ⟨known_init, Tracks.empty (fun c _ => rfl)⟩
  · intro s call s' _ hinv hstep
    cases hstep
    exact ⟨run_known hinv.1 call, run_follows hinv.1 hinv.2 call⟩

/-- What the `get` methods of a user give is the last that was set for the place that it is connected
to, since there is that place.  A mask that is set for a port is set for the devices that it has then;
a file and a truncate size are not. -/
theorem get_eq_current {s : State} (hreach : machine.Reachable Machine.Unguarded s) (u : UserId) :
    (∀ k, getMask k s u = (settings s.log (Target.place (s.users u))).mask k) ∧
      getTraceFile s u = (settings s.log (Target.place (s.users u))).file ∧
      getTraceIOTruncateSize s u =
        (settings s.log (Target.place (s.users u))).traceTruncateSize := by
  obtain ⟨hknown, hfollows⟩ := follows_reachable hreach
  have hplace := hfollows (Target.place (s.users u)) (hknown.live u)
  rw [← hknown.findTracePvt u] at hplace ⊢
  refine ⟨fun k => ?_, ?_, ?_⟩
  · exact congrFun (congrArg TraceSettings.mask hplace) k
  · exact congrArg TraceSettings.file hplace
  · exact congrArg TraceSettings.traceTruncateSize hplace

/-- A device that is first connected to after the mask of its port has been set. -/
def laterDevice : List Call :=
  [.registerPort "L0" true, .connectDevice 1 "L0" 3, .connectDevice 2 "L0" (-1),
    .setMask .traceMask (some 2) 9, .connectDevice 3 "L0" 4]

theorem get_eq_current_laterDevice :
    ∃ s, machine.Reachable Machine.Unguarded s ∧ getTraceMask s 1 = 9 ∧ getTraceMask s 3 = 1 := by
  have hrun : machine.exec asynInit laterDevice =
      some (laterDevice.foldl (fun s call => (call.run s).1) asynInit) := rfl
  have hreach := Machine.reachable_of_exec rfl hrun
  refine ⟨_, hreach, ?_, ?_⟩
  · exact ((get_eq_current hreach 1).1 .traceMask).trans (by decide)
  · exact ((get_eq_current hreach 3).1 .traceMask).trans (by decide)

end Trace
end Manager
end AsynDriver
