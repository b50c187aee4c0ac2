import AsynDriver.Miscellaneous.Octet
import AsynDriver.Usbtmc.BulkInLimits

/-!
# `vxiRead` of `drvVxi11.c`

A read sends `device_read` calls with what is left of `maxchars` as their `requestSize`, and copies what
a reply contains, whatever its length is.

* `State.reply` — what a read does with a reply.
* `Kept` — a step stays within `maxchars`, and answers a reply that is longer than the request with an
  error.
* `kept_iff` — it does if no reply that is taken is longer than its request.
* `replies_kept_iff` — the limits of the replies to both drivers.

A reply is what `devReadR` contains after `clientIoCall`, also when the RPC has failed.  Left out: the
checks that there is a link, `vxiIfc`, and the other parameters of the call.
-/

namespace AsynDriver
namespace Vxi11
namespace Read

open Library
open Manager (AsynStatus)
open Miscellaneous (EomReason)
open Usbtmc.BulkIn (toInt toInt_of_lt toInt_of_ge)

/-- `VXI_OK` -/
def vxiOk : Int := 0

/-- `VXI_IOTIMEOUT` -/
def vxiIoTimeout : Int := 15

/-- `Device_ReadResp`, with `RPC_SUCCESS` or not; `data_len` is a `u_int`. -/
structure DeviceReadResp where
  rpcSuccess : Bool
  error : Int
  reason : UInt32
  data : List UInt8
  lt : data.length < 2 ^ 32
  deriving DecidableEq

/-- The bits of `reason` as those of `*eomReason`. -/
def eomReason (reason : UInt32) : EomReason where
  cnt := reason &&& 1 != 0
  eos := reason &&& 2 != 0
  endOfMessage := reason &&& 4 != 0

/-- A read, which goes on while there is no `result`.  `requested` is its `maxchars` as a `size_t`,
`maxchars` what is left of it; `ioTimeoutMax` says that `io_timeout` is `UINT_MAX`. -/
structure State where
  requested : Nat
  ioTimeoutMax : Bool
  maxchars : Int
  nRead : Int
  data : List UInt8
  result : Option (AsynStatus × EomReason)
  deriving DecidableEq

/-- The `requestSize` of the call whose reply is waited for. -/
def State.requestSize (s : State) : Nat := (s.maxchars % 2 ^ 32).toNat

/-- `thisRead` -/
def thisRead (r : DeviceReadResp) : Int := toInt r.data.length

/-- What is copied, and how the variables change. -/
def State.copy (s : State) (r : DeviceReadResp) : State :=
  if 0 < thisRead r then
    { s with
      data := s.data ++ r.data.take (thisRead r).toNat
      nRead := (s.nRead + thisRead r).bmod (2 ^ 32)
      maxchars := (s.maxchars - thisRead r).bmod (2 ^ 32) }
  else s

/-- The read ends. -/
def State.done (s : State) (status : AsynStatus) (r : DeviceReadResp) : State :=
  { s with result := some (status, eomReason r.reason) }

def State.reply (s : State) (r : DeviceReadResp) : State :=
  if s.ioTimeoutMax = true ∧ r.error = vxiIoTimeout ∧ r.data = [] then s
  else if r.rpcSuccess = false then s.done .asynError r
  else if r.error ≠ vxiOk then
    s.done (if r.error = vxiIoTimeout then .asynTimeout else .asynError) r
  else if r.reason = 0 ∧ 0 < thisRead r then s.copy r
  else (s.copy r).done .asynSuccess r

inductive Action
  | read (maxchars : Nat) (ioTimeoutMax : Bool)
  | reply (r : DeviceReadResp)

def begin (maxchars : Nat) (ioTimeoutMax : Bool) : State where
  requested := maxchars
  ioTimeoutMax := ioTimeoutMax
  maxchars := toInt maxchars
  nRead := 0
  data := []
  result := none

def step (s : State) : Action → Option State
  | .read maxchars ioTimeoutMax =>
      if s.result.isSome then some (begin maxchars ioTimeoutMax) else none
  | .reply r => if s.result.isSome then none else some (s.reply r)

/-- Before the first read. -/
def start : State := { begin 0 false with result := some (.asynSuccess, .zero) }

def machine : Machine State Action where
  init := fun s => s = start
  step := step

/-! ## The limits of a reply -/

structure WithinLimits (s : State) : Prop where
  stored : s.data.length ≤ s.requested
  nonneg : 0 ≤ s.nRead
  counted : s.nRead ≤ s.requested

/-- A reply that is taken, since the call has succeeded. -/
def Taken (r : DeviceReadResp) : Prop := r.rpcSuccess = true ∧ r.error = vxiOk

/-- A reply that is longer than the request ends the read with an error, and nothing of it is copied. -/
def Answered (s : State) (a : Action) (s' : State) : Prop :=
  match a with
  | .reply r => Taken r → s.requestSize < r.data.length →
      s'.data = s.data ∧ ∃ status eom, s'.result = some (status, eom) ∧ status ≠ .asynSuccess
  | .read _ _ => True

structure Kept (s : State) (a : Action) (s' : State) : Prop where
  limits : WithinLimits s'
  answered : Answered s a s'

/-- A reply that is taken is not longer than its request, and with it the read has fewer than 2^31
bytes. -/
def Limited (s : State) : Action → Prop
  | .reply r => Taken r → r.data.length ≤ s.requestSize ∧
      (r.data.length < 2 ^ 31 → s.data.length + r.data.length < 2 ^ 31)
  | .read _ _ => True

/-- The count is what is stored, and what is left is what is not. -/
structure Inv (s : State) : Prop where
  stored : s.data.length ≤ s.requested
  lt : s.data.length < 2 ^ 31
  counted : s.nRead = s.data.length
  left : s.maxchars % 2 ^ 32 = (s.requested - s.data.length : Int) % 2 ^ 32

theorem begin_left (maxchars : Nat) :
    toInt maxchars % 2 ^ 32 = ((maxchars : Int) - (0 : Nat)) % 2 ^ 32 := by
  have h := Int.bmod_emod (x := (maxchars : Int)) (m := 2 ^ 32)
  unfold toInt
  omega

theorem inv_begin (maxchars : Nat) (ioTimeoutMax : Bool) : Inv (begin maxchars ioTimeoutMax) where
  stored := Nat.zero_le _
  lt := Nat.two_pow_pos 31
  counted := rfl
  left := by
    simp only [begin, List.length_nil]
    exact begin_left maxchars

theorem inv_start : Inv start where
  stored := Nat.zero_le _
  lt := Nat.two_pow_pos 31
  counted := rfl
  left := by decide

section
variable {s s' : State} {r : DeviceReadResp}

theorem Inv.limits (hs : Inv s) : WithinLimits s where
  stored := hs.stored
  nonneg := by
    rw [hs.counted]
    exact Int.natCast_nonneg _
  counted := by
    rw [hs.counted]
    exact Int.ofNat_le.mpr hs.stored

/-- The states differ in what the read has returned. -/
structure SameVariables (s' s : State) : Prop where
  data : s'.data = s.data
  nRead : s'.nRead = s.nRead
  maxchars : s'.maxchars = s.maxchars
  requested : s'.requested = s.requested

theorem done_variables (s : State) (status : AsynStatus) (r : DeviceReadResp) :
    SameVariables (s.done status r) s :=
  ⟨rfl, rfl, rfl, rfl⟩

theorem SameVariables.inv (hsame : SameVariables s' s) (hs : Inv s) : Inv s' := by
  obtain ⟨hdata, hnRead, hmaxchars, hrequested⟩ := hsame
  refine ⟨?_, ?_, ?_, ?_⟩
  · rw [hdata, hrequested]
    exact hs.stored
  · rw [hdata]
    exact hs.lt
  · rw [hdata, hnRead]
    exact hs.counted
  · rw [hdata, hmaxchars, hrequested]
    exact hs.left

/-- There is room for what is requested. -/
theorem Inv.requestSize_le (hs : Inv s) : s.requestSize ≤ s.requested - s.data.length := by
  have hleft := hs.left
  have hstored := hs.stored
  unfold State.requestSize
  omega

theorem copy_requested : (s.copy r).requested = s.requested := by
  unfold State.copy
  split <;> rfl

theorem copy_result : (s.copy r).result = s.result := by
  unfold State.copy
  split <;> rfl

/-- A reply that is not taken leaves the variables. -/
theorem reply_not_taken (hnot : ¬ Taken r) : SameVariables (s.reply r) s := by
  unfold State.reply
  split
  · exact ⟨rfl, rfl, rfl, rfl⟩
  · split
    · exact done_variables s _ r
    · next hsuccess =>
        split
        · exact done_variables s _ r
        · next herror =>
            exact absurd ⟨(Bool.not_eq_false _).mp hsuccess, not_not.mp herror⟩ hnot

theorem reply_taken (htaken : Taken r) :
    s.reply r = if r.reason = 0 ∧ 0 < thisRead r then s.copy r
      else (s.copy r).done .asynSuccess r := by
  obtain ⟨hsuccess, herror⟩ := htaken
  unfold State.reply
  rw [if_neg, if_neg, if_neg (not_not.mpr herror)]
  · rw [hsuccess]
    exact Bool.false_ne_true.symm
  · rintro ⟨-, htimeout, -⟩
    rw [herror] at htimeout
    exact absurd htimeout (by decide)

/-- What the copy does with a length that an `int` can hold, or cannot. -/
theorem copy_of_lt (hlt : r.data.length < 2 ^ 31) :
    (s.copy r).data = s.data ++ r.data ∧
      (s.copy r).nRead % 2 ^ 32 = (s.nRead + r.data.length) % 2 ^ 32 ∧
      (s.copy r).maxchars % 2 ^ 32 = (s.maxchars - r.data.length) % 2 ^ 32 := by
  have hthis : thisRead r = r.data.length := toInt_of_lt hlt
  unfold State.copy
  rw [hthis]
  by_cases hpos : (0 : Int) < r.data.length
  · rw [if_pos hpos]
    refine ⟨?_, Int.bmod_emod, Int.bmod_emod⟩
    rw [Int.toNat_natCast, List.take_length]
  · have hnil : r.data = [] := by
      apply List.eq_nil_of_length_eq_zero
      omega
    rw [if_neg hpos, hnil]
    simp

theorem copy_of_ge (hge : 2 ^ 31 ≤ r.data.length) : s.copy r = s := by
  have hthis : thisRead r = r.data.length - 2 ^ 32 := toInt_of_ge hge r.lt
  have hlt := r.lt
  unfold State.copy
  rw [if_neg (by omega)]

theorem copy_nRead_bounds (hs : Inv s) : -2 ^ 31 ≤ (s.copy r).nRead ∧ (s.copy r).nRead < 2 ^ 31 := by
  unfold State.copy
  split
  · constructor
    · exact Int.le_bmod (by decide)
    · exact Int.bmod_lt (by decide)
  · have hlt := hs.lt
    rw [hs.counted]
    omega

theorem reply_variables (htaken : Taken r) : SameVariables (s.reply r) (s.copy r) := by
  rw [reply_taken htaken]
  split
  · exact ⟨rfl, rfl, rfl, rfl⟩
  · exact done_variables (s.copy r) .asynSuccess r

/-- A reply within the request leaves the invariant. -/
theorem copy_inv (hs : Inv s) (hle : r.data.length ≤ s.requestSize)
    (hlt : r.data.length < 2 ^ 31 → s.data.length + r.data.length < 2 ^ 31) : Inv (s.copy r) := by
  by_cases hlength : r.data.length < 2 ^ 31
  · obtain ⟨hdata, hnRead, hmaxchars⟩ := copy_of_lt (s := s) hlength
    obtain ⟨hlow, hhigh⟩ := copy_nRead_bounds (r := r) hs
    have hroom := hs.requestSize_le
    have hstored := hs.stored
    have hcounted := hs.counted
    have hleft := hs.left
    have hsum := hlt hlength
    have hnew : (s.copy r).data.length = s.data.length + r.data.length := by
      rw [hdata, List.length_append]
    refine ⟨?_, ?_, ?_, ?_⟩
    · rw [hnew, copy_requested]
      omega
    · rw [hnew]
      exact hsum
    · rw [hnew]
      omega
    · rw [hnew, copy_requested]
      omega
  · rw [copy_of_ge (Nat.le_of_not_lt hlength)]
    exact hs

/-- The count of a read with 2^31 bytes is negative. -/
theorem copy_nRead_neg (hs : Inv s) (hlt : r.data.length < 2 ^ 31)
    (hsum : 2 ^ 31 ≤ s.data.length + r.data.length) : (s.copy r).nRead < 0 := by
  obtain ⟨-, hnRead, -⟩ := copy_of_lt (s := s) hlt
  obtain ⟨hlow, hhigh⟩ := copy_nRead_bounds (r := r) hs
  have hcounted := hs.counted
  have hstored := hs.lt
  omega

theorem reply_inv (hs : Inv s) (hlimited : Limited s (.reply r)) : Inv (s.reply r) := by
  by_cases htaken : Taken r
  · obtain ⟨hle, hlt⟩ := hlimited htaken
    exact (reply_variables htaken).inv (copy_inv hs hle hlt)
  · exact (reply_not_taken htaken).inv hs

/-- What a step under the condition does. -/
theorem inv_of_limited {a : Action} (hs : Inv s) (hlimited : Limited s a)
    (hstep : step s a = some s') : Inv s' ∧ Answered s a s' := by
  cases a with
  | read maxchars ioTimeoutMax =>
      unfold step at hstep
      simp only at hstep
      split at hstep
      · cases hstep
        exact ⟨inv_begin maxchars ioTimeoutMax, trivial⟩
      · cases hstep
  | reply r =>
      unfold step at hstep
      simp only at hstep
      split at hstep
      · cases hstep
      · cases hstep
        refine ⟨reply_inv hs hlimited, ?_⟩
        intro htaken hlong
        exact absurd (hlimited htaken).1 (Nat.not_le.mpr hlong)

theorem limited_of_kept {a : Action} (hs : Inv s) (hkept : Kept s a s')
    (hstep : step s a = some s') : Limited s a := by
  cases a with
  | read maxchars ioTimeoutMax => trivial
  | reply r =>
      unfold step at hstep
      simp only at hstep
      split at hstep
      · cases hstep
      · next hwaits =>
          obtain rfl := Option.some.inj hstep
          intro htaken
          have hnRead := (reply_variables (s := s) htaken).nRead
          constructor
          · by_contra hlong
            obtain ⟨-, status, eom, hresult, hstatus⟩ :=
              hkept.answered htaken (Nat.not_le.mp hlong)
            -- a reply that is taken is never answered with an error
            rw [reply_taken htaken] at hresult
            split at hresult
            · rw [copy_result] at hresult
              rw [hresult] at hwaits
              exact hwaits rfl
            · cases hresult
              exact hstatus rfl
          · intro hlt
            by_contra hsum
            have hnegative := copy_nRead_neg hs hlt (Nat.not_lt.mp hsum)
            have hnonneg := hkept.limits.nonneg
            omega

theorem kept_iff (s : State) (hreach : machine.Reachable Limited s) :
    Inv s ∧ ∀ a s', machine.step s a = some s' → (Kept s a s' ↔ Limited s a) := by
  refine Machine.Reachable.guard_iff ?_ ?_ ?_ hreach
  · rintro s rfl
    exact inv_start
  · intro s a s' hs hstep hkept
    exact (inv_of_limited hs (limited_of_kept hs hkept hstep) hstep).1
  · intro s a s' hs hstep
    constructor
    · exact fun hkept => limited_of_kept hs hkept hstep
    · intro hlimited
      obtain ⟨hinv, hanswered⟩ := inv_of_limited hs hlimited hstep
      exact ⟨hinv.limits, hanswered⟩

end

/-! ## Both drivers -/

/-- The runs in which replies are within the limits, and what a next reply has to be. -/
theorem replies_kept_iff (s : Usbtmc.BulkIn.State) (t : State) :
    (Usbtmc.BulkIn.machine.Reachable Usbtmc.BulkIn.Limited s →
        Usbtmc.BulkIn.WithinLimits s ∧ ∀ a s', Usbtmc.BulkIn.machine.step s a = some s' →
          (Usbtmc.BulkIn.Kept s a s' ↔ Usbtmc.BulkIn.Limited s a)) ∧
      (machine.Reachable Limited t →
        WithinLimits t ∧ ∀ a t', machine.step t a = some t' → (Kept t a t' ↔ Limited t a)) := by
  constructor
  · intro hreach
    obtain ⟨hs, hiff⟩ := Usbtmc.BulkIn.kept_iff s hreach
    exact ⟨hs.limits, hiff⟩
  · intro hreach
    obtain ⟨ht, hiff⟩ := kept_iff t hreach
    exact ⟨ht.limits, hiff⟩

/-- A reply of `n` zeros that ends the read. -/
def zeros (n : Nat) (h : n < 2 ^ 32) : DeviceReadResp where
  rpcSuccess := true
  error := vxiOk
  reason := 4
  data := List.replicate n 0
  lt := by
    rw [List.length_replicate]
    exact h

/-- A read of 4 bytes with a reply of 3, and one with the reply of the other driver. -/
theorem replies_kept_example :
    Usbtmc.BulkIn.WithinLimits (Usbtmc.BulkIn.stateAfter [.read 80 false]) ∧
      (Usbtmc.BulkIn.Kept (Usbtmc.BulkIn.stateAfter [.read 80 false])
          (.packet (Usbtmc.BulkIn.endReply 1)) (Usbtmc.BulkIn.stateAfter Usbtmc.BulkIn.readRun)) ∧
      WithinLimits (begin 4 false) ∧
      Kept (begin 4 false) (.reply (zeros 3 (by decide)))
        ((begin 4 false).reply (zeros 3 (by decide))) := by
  obtain ⟨hread, hpacket, -⟩ := Usbtmc.BulkIn.step_readRun
  have hasked : Usbtmc.BulkIn.machine.Reachable Usbtmc.BulkIn.Limited
      (Usbtmc.BulkIn.stateAfter [.read 80 false]) := by
    refine Machine.Reachable.step (a := .read 80 false) (Machine.Reachable.init ⟨none, rfl⟩) ?_ hread
    exact fun hbuffered => absurd rfl hbuffered
  have hbegun : machine.Reachable Limited (begin 4 false) :=
    Machine.Reachable.step (a := .read 4 false) (Machine.Reachable.init rfl) trivial rfl
  obtain ⟨hpackets, hreplies⟩ :=
    replies_kept_iff (Usbtmc.BulkIn.stateAfter [.read 80 false]) (begin 4 false)
  obtain ⟨husb, husbiff⟩ := hpackets hasked
  obtain ⟨hvxi, hvxiiff⟩ := hreplies hbegun
  refine ⟨husb, ?_, hvxi, ?_⟩
  · refine (husbiff _ _ hpacket).mpr ?_
    intro r hr hheader
    have hreading : r.maxchars = 80 := by
      have hwaits : (Usbtmc.BulkIn.stateAfter [.read 80 false]).reading = some ⟨80, false, 1⟩ := by
        decide +kernel
      cases hr.symm.trans hwaits
      rfl
    rw [hreading]
    exact ⟨by decide, fun _ _ => by decide⟩
  · refine (hvxiiff _ _ rfl).mpr ?_
    intro _
    exact ⟨by decide, fun _ => by decide⟩

/-- A packet that claims 2^31 bytes. -/
def topBit : List UInt8 := [2, 1, 254, 0, 0, 0, 0, 128, 1, 0, 0, 0]

/-- A claimed size with the top bit set, and a reply of 5 bytes to a read of 4. -/
theorem replies_not_kept :
    (¬ ∀ s, Usbtmc.BulkIn.machine.Reachable Machine.Unguarded s → Usbtmc.BulkIn.WithinLimits s) ∧
      ¬ ∀ s, machine.Reachable Machine.Unguarded s → WithinLimits s := by
  constructor
  · intro hlimits
    obtain ⟨s, hreach, hfault⟩ := Machine.exists_reachable_of_exec (M := Usbtmc.BulkIn.machine)
      Usbtmc.BulkIn.State.fault (s := Usbtmc.BulkIn.start none) (b := true)
      [.read 80 false, .packet topBit] ⟨none, rfl⟩ (by decide +kernel)
    exact Bool.false_ne_true ((hlimits s hreach).fault.symm.trans hfault)
  · intro hlimits
    obtain ⟨s, hreach, hlong⟩ := Machine.exists_reachable_of_exec (M := machine)
      (fun s => decide (s.requested < s.data.length)) (s := start) (b := true)
      [.read 4 false, .reply (zeros 5 (by decide))] rfl (by decide +kernel)
    exact absurd (hlimits s hreach).stored (Nat.not_le.mpr (of_decide_eq_true hlong))

end Read
end Vxi11
end AsynDriver
