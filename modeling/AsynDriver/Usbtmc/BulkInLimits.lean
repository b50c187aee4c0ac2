import AsynDriver.Usbtmc.BulkIn

/-!
# The limits of a reply to `asynOctetRead`

The size of the payload is made of four bytes that the device sends, as an `int`; the checks compare it
with what the packet contains and with the capacity of `buf`, and both are bounds from above.

* `WithinLimits` — what a read has stored, what it has counted and what is buffered.
* `Bounded` — what every reachable state is.
* `Kept` — a step stays within the limits, and answers a reply that does not with an error.
* `kept_iff` — it does if the reply does not claim a size with the top bit set, and nothing is copied
  with a `maxchars` that is negative as an `int`.
-/

namespace AsynDriver
namespace Usbtmc
namespace BulkIn

open Library

/-- `*nbytesTransferred` of the read that began last, which is also how much it has stored. -/
def nbytesTransferred : List Event → Nat
  | [] => 0
  | .started _ :: _ => 0
  | .copied data :: log => nbytesTransferred log + data.length
  | .received _ _ :: log | .asked _ :: log | .returned _ :: log | .timedOut :: log
  | .failed _ :: log | .discarded :: log => nbytesTransferred log

/-- The `maxchars` of that read. -/
def requested : List Event → Nat
  | [] => 0
  | .started maxchars :: _ => maxchars
  | .copied _ :: log | .received _ _ :: log | .asked _ :: log | .returned _ :: log
  | .timedOut :: log | .failed _ :: log | .discarded :: log => requested log

structure WithinLimits (s : State) : Prop where
  fault : s.fault = false
  stored : nbytesTransferred s.log ≤ requested s.log
  buffered : s.pvt.buffered.length ≤ bulkIoPayloadCapacity

/-- A header that answers the request. -/
def HeaderOk (bTag : UInt8) (io : List UInt8) : Prop :=
  bulkIoHeaderSize ≤ io.length ∧ io.getD 0 0 = messageIdRequestDevDepMsgIn ∧ io.getD 1 0 = bTag ∧
    io.getD 2 0 = ~~~bTag

/-- The size that the header claims is in the packet, and was requested. -/
def SizeOk (io : List UInt8) : Prop :=
  transferSize io ≤ io.length - bulkIoHeaderSize ∧ transferSize io ≤ bulkIoPayloadCapacity

/-- A reply that violates the limits ends the read with an error, and nothing of it is taken. -/
def Answered (s : State) (a : Action) (s' : State) : Prop :=
  match a with
  | .packet io => ∀ r, s.reading = some r → ¬ (HeaderOk r.bTag io ∧ SizeOk io) →
      s'.pvt = s.pvt ∧ s'.reading = none ∧ ∃ message, s'.log = .failed message :: s.log
  | _ => True

structure Kept (s : State) (a : Action) (s' : State) : Prop where
  limits : WithinLimits s'
  answered : Answered s a s'

/-- The top bit of a size is clear; where bytes are to be copied, `maxchars` is not negative as an
`int`. -/
def Limited (s : State) : Action → Prop
  | .read maxchars _ => s.pvt.buffered ≠ [] → 0 ≤ toInt maxchars
  | .packet io => ∀ r, s.reading = some r → HeaderOk r.bTag io →
      transferSize io < 2 ^ 31 ∧ (SizeOk io → 0 < transferSize io → 0 ≤ toInt r.maxchars)
  | _ => True

/-! ## The checks on a packet -/

section
variable {bTag : UInt8} {io : List UInt8}

theorem transferSize_lt (io : List UInt8) : transferSize io < 2 ^ 32 := by
  unfold transferSize
  have h4 := (io.getD 4 0).toNat_lt
  have h5 := (io.getD 5 0).toNat_lt
  have h6 := (io.getD 6 0).toNat_lt
  have h7 := (io.getD 7 0).toNat_lt
  omega

theorem toInt_of_ge {n : Nat} (hge : 2 ^ 31 ≤ n) (hlt : n < 2 ^ 32) : toInt n = n - 2 ^ 32 := by
  unfold toInt
  rw [Int.bmod_neg] <;> omega

theorem toInt_le (n : Nat) : toInt n ≤ n := by
  unfold toInt
  rw [Int.bmod_eq_emod]
  split <;> omega

theorem receive_of_not_header (hheader : ¬ HeaderOk bTag io) :
    ∃ message, receive bTag io = .error message := by
  unfold HeaderOk at hheader
  unfold receive
  by_cases hcount : io.length < bulkIoHeaderSize
  · exact ⟨_, if_pos hcount⟩
  · have hcorrupt : io.getD 0 0 ≠ messageIdRequestDevDepMsgIn ∨ io.getD 1 0 ≠ bTag ∨
        io.getD 2 0 ≠ ~~~bTag := by
      by_contra hnot
      push Not at hnot
      exact hheader ⟨Nat.le_of_not_lt hcount, hnot⟩
    simp only [if_neg hcount, if_pos hcorrupt]
    exact ⟨_, rfl⟩

theorem receive_of_header (hheader : HeaderOk bTag io) :
    receive bTag io =
      if (io.length - bulkIoHeaderSize : Nat) < toInt (transferSize io) then
        .error ("Packet header claims " ++ toString (toInt (transferSize io)) ++
          " sent, but packet contains only " ++ toString (io.length - bulkIoHeaderSize))
      else if bulkIoPayloadCapacity < toInt (transferSize io) then
        .error ("Packet header claims " ++ toString (toInt (transferSize io)) ++
          " sent, but requested only " ++ toString bulkIoPayloadCapacity)
      else if toInt (transferSize io) < 0 then .outside
      else .packet ((io.drop bulkIoHeaderSize).take (toInt (transferSize io)).toNat) (io.getD 8 0) := by
  obtain ⟨hcount, hid, htag, hinverse⟩ := hheader
  unfold receive
  simp only [if_neg (Nat.not_lt.mpr hcount)]
  rw [if_neg]
  rintro (h | h | h)
  · exact h hid
  · exact h htag
  · exact h hinverse

/-- The top bit of a size is a sign that no check finds. -/
theorem receive_of_ge (hheader : HeaderOk bTag io) (hsize : 2 ^ 31 ≤ transferSize io) :
    receive bTag io = .outside := by
  have hint := toInt_of_ge hsize (transferSize_lt io)
  have hlt := transferSize_lt io
  rw [receive_of_header hheader, if_neg (by omega), if_neg (by omega), if_pos (by omega)]

theorem receive_of_not_size (hheader : HeaderOk bTag io) (hlt : transferSize io < 2 ^ 31)
    (hsize : ¬ SizeOk io) : ∃ message, receive bTag io = .error message := by
  unfold SizeOk at hsize
  rw [receive_of_header hheader, toInt_of_lt hlt]
  by_cases hcontains : ((io.length - bulkIoHeaderSize : Nat) : Int) < (transferSize io : Int)
  · exact ⟨_, if_pos hcontains⟩
  · rw [if_neg hcontains, if_pos (by omega)]
    exact ⟨_, rfl⟩

theorem receive_of_size (hheader : HeaderOk bTag io) (hsize : SizeOk io) :
    receive bTag io =
      .packet ((io.drop bulkIoHeaderSize).take (transferSize io)) (io.getD 8 0) := by
  obtain ⟨hcontains, hcapacity⟩ := hsize
  have hlt : transferSize io < 2 ^ 31 := by
    unfold bulkIoPayloadCapacity at hcapacity
    omega
  rw [receive_of_header hheader, toInt_of_lt hlt, if_neg (by omega), if_neg (by omega),
    if_neg (by omega), Int.toNat_natCast]

theorem payload_length (hsize : SizeOk io) :
    ((io.drop bulkIoHeaderSize).take (transferSize io)).length = transferSize io := by
  obtain ⟨hcontains, -⟩ := hsize
  rw [List.length_take, List.length_drop]
  omega

end

/-! ## From the top of the loop -/

/-- Within the limits, and what a read has counted and what is left of its `maxchars` are the
`maxchars` that it began with. -/
structure Bounded (s : State) : Prop where
  limits : WithinLimits s
  left : ∀ r, s.reading = some r → nbytesTransferred s.log + r.maxchars = requested s.log

theorem bounded_start (termChar : Option UInt8) : Bounded (start termChar) where
  limits := ⟨rfl, Nat.le_refl 0, Nat.zero_le _⟩
  left := nofun

section
variable {s s' : State} {maxchars n : Nat} {timeoutZero : Bool}

theorem copy_counts (hn : n ≤ s.pvt.buffered.length) :
    nbytesTransferred (s.copy n).log = nbytesTransferred s.log + n ∧
      requested (s.copy n).log = requested s.log := by
  unfold State.copy
  by_cases hempty : s.pvt.buffered = []
  · have hzero : n = 0 := by
      rw [hempty] at hn
      exact Nat.le_zero.mp hn
    simp only [if_pos hempty, hzero, Nat.add_zero, and_self]
  · simp only [if_neg hempty, nbytesTransferred, requested, List.length_take, Nat.min_eq_left hn,
      and_self]

theorem transfer_bounded (hlimits : WithinLimits s)
    (hleft : nbytesTransferred s.log + maxchars = requested s.log)
    (hn : n ≤ s.pvt.buffered.length) (hroom : n ≤ maxchars) :
    Bounded (s.transfer maxchars timeoutZero n) := by
  obtain ⟨hcount, hrequested⟩ := copy_counts (s := s) hn
  have hbuffered : (s.copy n).pvt.buffered.length ≤ bulkIoPayloadCapacity := by
    have hlength : (s.copy n).pvt.buffered.length = s.pvt.buffered.length - n := List.length_drop
    have hcapacity := hlimits.buffered
    omega
  unfold State.transfer
  by_cases hany : (s.eom maxchars n).any = true
  · rw [if_pos hany]
    refine ⟨⟨hlimits.fault, ?_, hbuffered⟩, nofun⟩
    change nbytesTransferred (s.copy n).log ≤ requested (s.copy n).log
    omega
  · rw [if_neg hany]
    refine ⟨⟨hlimits.fault, ?_, hbuffered⟩, ?_⟩
    · change nbytesTransferred (s.copy n).log ≤ requested (s.copy n).log
      omega
    · intro r hr
      cases hr
      change nbytesTransferred (s.copy n).log + (maxchars - n) = requested (s.copy n).log
      omega

theorem top_bounded (hlimits : WithinLimits s)
    (hleft : nbytesTransferred s.log + maxchars = requested s.log)
    (hmaxchars : s.pvt.buffered ≠ [] → 0 ≤ toInt maxchars) :
    Bounded (s.top maxchars timeoutZero) := by
  unfold State.top
  by_cases hnow : timeoutZero = true ∧ s.pvt.buffered = []
  · rw [if_pos hnow]
    exact ⟨⟨hlimits.fault, hlimits.stored, hlimits.buffered⟩, nofun⟩
  rw [if_neg hnow]
  by_cases hempty : s.pvt.buffered = []
  · rw [if_pos hempty]
    exact transfer_bounded hlimits hleft (Nat.zero_le _) (Nat.zero_le _)
  · have hle := toInt_le maxchars
    have hcopy : nCopy maxchars s.pvt.buffered.length =
        some (min (toInt maxchars).toNat s.pvt.buffered.length) :=
      if_neg (Int.not_lt.mpr (hmaxchars hempty))
    rw [if_neg hempty, hcopy]
    exact transfer_bounded hlimits hleft (Nat.min_le_right _ _) (by omega)

/-- A `memcpy` with a negative `maxchars`. -/
theorem top_fault (hbuffered : s.pvt.buffered ≠ []) (hmaxchars : toInt maxchars < 0) :
    (s.top maxchars timeoutZero).fault = true := by
  have hcopy : nCopy maxchars s.pvt.buffered.length = none := if_pos hmaxchars
  unfold State.top
  rw [if_neg (fun h => hbuffered h.2), if_neg hbuffered, hcopy]

/-! ## Steps and runs -/

theorem eq_of_read (hfault : s.fault = false) (hstep : step s (.read maxchars timeoutZero) = some s') :
    s' = ({ s with log := .started maxchars :: s.log } : State).top maxchars timeoutZero := by
  obtain ⟨pvt, reading, fault, log⟩ := s
  obtain rfl : fault = false := hfault
  cases reading with
  | none => exact (Option.some.inj hstep).symm
  | some r => cases hstep

/-- A reply, as the read that waits for it takes it. -/
theorem eq_of_packet {io : List UInt8} (hfault : s.fault = false)
    (hstep : step s (.packet io) = some s') :
    ∃ r, s.reading = some r ∧ s' =
      match receive r.bTag io with
      | .error message => { s with reading := none, log := .failed message :: s.log }
      | .outside => { s with reading := none, fault := true }
      | .packet payload flags =>
          ({ s with
            pvt := { s.pvt with buffered := payload, bulkInPacketFlags := flags }
            log := .received payload flags :: s.log } : State).top r.maxchars r.timeoutZero := by
  obtain ⟨pvt, reading, fault, log⟩ := s
  obtain rfl : fault = false := hfault
  cases reading with
  | none => cases hstep
  | some r =>
      refine ⟨r, rfl, ?_⟩
      simp only [step, Bool.false_eq_true, if_false] at hstep
      cases hreceive : receive r.bTag io with
      | error message =>
          rw [hreceive] at hstep
          exact (Option.some.inj hstep).symm
      | outside =>
          rw [hreceive] at hstep
          exact (Option.some.inj hstep).symm
      | packet payload flags =>
          rw [hreceive] at hstep
          exact (Option.some.inj hstep).symm

theorem failed_bounded (hs : Bounded s) (message : String) :
    Bounded { s with reading := none, log := .failed message :: s.log } where
  limits := ⟨hs.limits.fault, hs.limits.stored, hs.limits.buffered⟩
  left := nofun

theorem discard_bounded (hs : Bounded s) (hidle : s.reading = none) (bTag : BTag) :
    Bounded (s.discard bTag) where
  limits := ⟨hs.limits.fault, hs.limits.stored, Nat.zero_le _⟩
  left := by
    intro r hr
    exact nomatch hidle.symm.trans hr

/-- A step under the condition stays within the limits, and a reply that does not is answered. -/
theorem bounded_of_limited {a : Action} (hs : Bounded s) (hlimited : Limited s a)
    (hstep : step s a = some s') : Bounded s' ∧ Answered s a s' := by
  have hfault := hs.limits.fault
  cases a with
  | read maxchars timeoutZero =>
      rw [eq_of_read hfault hstep]
      have hbegun : WithinLimits { s with log := .started maxchars :: s.log } :=
        ⟨hfault, Nat.zero_le _, hs.limits.buffered⟩
      exact ⟨top_bounded hbegun (Nat.zero_add maxchars) hlimited, trivial⟩
  | packet io =>
      obtain ⟨r, hreading, heq⟩ := eq_of_packet hfault hstep
      by_cases hok : HeaderOk r.bTag io ∧ SizeOk io
      · obtain ⟨hheader, hsize⟩ := hok
        rw [receive_of_size hheader hsize] at heq
        rw [heq]
        refine ⟨?_, ?_⟩
        · have hpayload := payload_length hsize
          refine top_bounded ⟨hfault, hs.limits.stored, ?_⟩ (hs.left r hreading) ?_
          · exact Nat.le_trans (Nat.le_of_eq hpayload) hsize.2
          · intro hbuffered
            refine (hlimited r hreading hheader).2 hsize ?_
            rw [← hpayload]
            exact List.length_pos_iff.mpr hbuffered
        · intro r' hr' hnot
          obtain rfl : r' = r := Option.some.inj (hr'.symm.trans hreading)
          exact absurd ⟨hheader, hsize⟩ hnot
      · have herror : ∃ message, receive r.bTag io = .error message := by
          by_cases hheader : HeaderOk r.bTag io
          · have hlt := (hlimited r hreading hheader).1
            exact receive_of_not_size hheader hlt fun hsize => hok ⟨hheader, hsize⟩
          · exact receive_of_not_header hheader
        obtain ⟨message, hreceive⟩ := herror
        rw [hreceive] at heq
        rw [heq]
        exact ⟨failed_bounded hs message, fun _ _ _ => ⟨rfl, rfl, message, rfl⟩⟩
  | transferFails message =>
      obtain ⟨pvt, reading, fault, log⟩ := s
      obtain rfl : fault = false := hfault
      cases reading with
      | none => cases hstep
      | some r =>
          cases hstep
          exact ⟨failed_bounded hs message, trivial⟩
  | write messages =>
      obtain ⟨pvt, reading, fault, log⟩ := s
      obtain rfl : fault = false := hfault
      cases reading with
      | none =>
          cases hstep
          exact ⟨discard_bounded hs rfl _, trivial⟩
      | some r => cases hstep
  | flush =>
      obtain ⟨pvt, reading, fault, log⟩ := s
      obtain rfl : fault = false := hfault
      cases reading with
      | none =>
          cases hstep
          exact ⟨discard_bounded hs rfl _, trivial⟩
      | some r => cases hstep
  | setTermChar termChar =>
      obtain ⟨pvt, reading, fault, log⟩ := s
      obtain rfl : fault = false := hfault
      cases reading with
      | none =>
          cases hstep
          exact ⟨⟨⟨rfl, hs.limits.stored, hs.limits.buffered⟩, nofun⟩, trivial⟩
      | some r => cases hstep

/-- Every step outside the condition leaves the limits. -/
theorem limited_of_kept {a : Action} (hs : Bounded s) (hkept : Kept s a s')
    (hstep : step s a = some s') : Limited s a := by
  have hfault := hs.limits.fault
  have hnofault : s'.fault ≠ true := by
    rw [hkept.limits.fault]
    exact Bool.false_ne_true
  cases a with
  | read maxchars timeoutZero =>
      have heq := eq_of_read hfault hstep
      intro hbuffered
      by_contra hnot
      have hnegative : toInt maxchars < 0 := Int.not_le.mp hnot
      apply hnofault
      rw [heq]
      exact top_fault (s := { s with log := .started maxchars :: s.log }) hbuffered hnegative
  | packet io =>
      obtain ⟨r, hreading, heq⟩ := eq_of_packet hfault hstep
      intro r' hr' hheader
      obtain rfl : r' = r := Option.some.inj (hr'.symm.trans hreading)
      have hlt : transferSize io < 2 ^ 31 := by
        by_contra hnot
        rw [receive_of_ge hheader (Nat.le_of_not_lt hnot)] at heq
        apply hnofault
        rw [heq]
      refine ⟨hlt, ?_⟩
      intro hsize hpos
      by_contra hnot
      have hnegative : toInt r'.maxchars < 0 := Int.not_le.mp hnot
      rw [receive_of_size hheader hsize] at heq
      apply hnofault
      rw [heq]
      refine top_fault ?_ hnegative
      apply List.length_pos_iff.mp
      rw [payload_length hsize]
      exact hpos
  | transferFails message => trivial
  | write messages => trivial
  | flush => trivial
  | setTermChar termChar => trivial

theorem kept_iff (s : State) (hreach : machine.Reachable Limited s) :
    Bounded s ∧ ∀ a s', machine.step s a = some s' → (Kept s a s' ↔ Limited s a) := by
  refine Machine.Reachable.guard_iff ?_ ?_ ?_ hreach
  · rintro s ⟨termChar, rfl⟩
    exact bounded_start termChar
  · intro s a s' hs hstep hkept
    exact (bounded_of_limited hs (limited_of_kept hs hkept hstep) hstep).1
  · intro s a s' hs hstep
    constructor
    · exact fun hkept => limited_of_kept hs hkept hstep
    · intro hlimited
      obtain ⟨hbounded, hanswered⟩ := bounded_of_limited hs hlimited hstep
      exact ⟨hbounded.limits, hanswered⟩

end

end BulkIn
end Usbtmc
end AsynDriver
