import AsynDriver.Miscellaneous.EosStream

/-!
# Message boundaries through `asynInterposeEos`

A lower driver of which some reads end with `ASYN_EOM_END`, and any sequence of `readIt` calls.

* `CallReportsEnd` — a call reports an end exactly when it delivers the last byte of a read that
  ended with one, and no read is issued while an end is pending.
* `matchStep`, `firstEos` — the matcher on the bytes alone; `drain_eq` says where the loop stops.
* `EndFits` — a read that ends a message is delivered by the call that issues it.
* `reportsEnds_of_endsFit` — under this condition every end is reported by its own call.  The flag
  is a local variable of `readIt`: a call that stops earlier forgets it, or reports it too early.
-/

namespace AsynDriver
namespace Miscellaneous

open Manager (AsynStatus)

/-- Whether the bytes in `inBuf` after a call come from a read that ended a message; `held` says it
of the bytes before the call, and `issued` are the reads that the call has issued. -/
def lastEnd (held : Bool) (issued : List LowerRead) : Bool :=
  match issued.getLast? with
  | none => held
  | some x => x.eom.endOfMessage

/-- An end is pending after a call. -/
def heldAfter (held : Bool) (issued : List LowerRead) (inBuf : List UInt8) : Bool :=
  lastEnd held issued && !inBuf.isEmpty

/-- What a call has to do with the ends of messages.  A terminator that is complete at the last byte
may be reported instead. -/
structure CallReportsEnd (held : Bool) (issued : List LowerRead) (inBuf : List UInt8)
    (r : ReadResult) : Prop where
  none_pending : held = true → issued = []
  last : ∀ before x after, issued = before ++ x :: after → x.eom.endOfMessage = true → after = []
  reported : lastEnd held issued = true → inBuf = [] → r.eomReason.eos = false →
    r.eomReason.endOfMessage = true
  delivered : r.eomReason.endOfMessage = true → lastEnd held issued = true ∧ inBuf = []

/-- A property of every call of a sequence, with the pending end. -/
def AlongEnds (P : Bool → EosPvt → List LowerRead → ReadCall → Prop) :
    Bool → EosPvt → List LowerRead → List ReadCall → Prop
  | _, _, _, [] => True
  | held, peosPvt, lower, c :: calls =>
      P held peosPvt lower c ∧
        ∀ r peosPvt' lower' issued,
          readIt peosPvt lower c.memory c.maxchars = some (r, peosPvt', lower') →
          lower = issued ++ lower' →
          AlongEnds P (heldAfter held issued peosPvt'.inBuf) peosPvt' lower' calls

def Reports (held : Bool) (peosPvt : EosPvt) (lower : List LowerRead) (c : ReadCall) : Prop :=
  ∀ r peosPvt' lower', readIt peosPvt lower c.memory c.maxchars = some (r, peosPvt', lower') →
    ∃ issued, lower = issued ++ lower' ∧ CallReportsEnd held issued peosPvt'.inBuf r

/-! ## The matcher on the bytes alone -/

/-- `eosInMatch` after a character, or `none` if the character completes the terminator. -/
def matchStep (eosIn : UInt8 × UInt8) (eosInLen eosInMatch : Nat) (c : UInt8) : Option Nat :=
  if 0 < eosInLen ∧ c = charAt eosIn eosInMatch ∧ eosInMatch + 1 = eosInLen then none
  else if 0 < eosInLen then
    if c = charAt eosIn eosInMatch then some (eosInMatch + 1)
    else if c = eosIn.1 then some 1
    else some 0
  else some eosInMatch

/-- How many bytes it takes to complete a terminator. -/
def firstEos (eosIn : UInt8 × UInt8) (eosInLen : Nat) : Nat → List UInt8 → Option Nat
  | _, [] => none
  | eosInMatch, c :: rest =>
      match matchStep eosIn eosInLen eosInMatch c with
      | none => some 1
      | some eosInMatch' => (firstEos eosIn eosInLen eosInMatch' rest).map (· + 1)

/-- A read that hands over bytes and does not make the loop stop when they are used up. -/
def Continues (x : LowerRead) : Prop :=
  x.status = .asynSuccess ∧ x.bytes ≠ [] ∧ x.eom.eos = false ∧ x.eom.endOfMessage = false

/-- Every read that ends a message and that the call gets to is delivered by this call: its last byte
comes before `maxchars` is reached, or it completes the first terminator. -/
def EndFits (peosPvt : EosPvt) (lower : List LowerRead) (maxchars : Nat) : Prop :=
  ∀ before x after, lower = before ++ x :: after → (∀ y ∈ before, Continues y) →
    x.status = .asynSuccess → x.bytes ≠ [] → x.eom.endOfMessage = true →
    let front := peosPvt.inBuf ++ before.flatMap LowerRead.bytes
    let all := front ++ x.bytes
    front.length < maxchars →
    firstEos peosPvt.eosIn peosPvt.eosInLen peosPvt.eosInMatch front = none →
    all.length < maxchars ∧
        firstEos peosPvt.eosIn peosPvt.eosInLen peosPvt.eosInMatch all = none ∨
      all.length ≤ maxchars ∧
        firstEos peosPvt.eosIn peosPvt.eosInLen peosPvt.eosInMatch all = some all.length

/-- Every end of a message is reported by the call that delivers its last byte. -/
def ReportsEnds (eos : Terminator) (processEosOut : Bool) (lower : List LowerRead)
    (calls : List ReadCall) : Prop :=
  AlongEnds Reports false (configuredInput eos processEosOut) lower calls

/-- Every call delivers the whole of the reads that end a message and that it gets to. -/
def EndsFit (eos : Terminator) (processEosOut : Bool) (lower : List LowerRead)
    (calls : List ReadCall) : Prop :=
  AlongEnds (fun _ peosPvt lower c => EndFits peosPvt lower c.maxchars) false
    (configuredInput eos processEosOut) lower calls

/-! ## Where the loop stops -/

variable {eosIn : UInt8 × UInt8} {eosInLen maxchars : Nat}

theorem scanChar_eq (k : Cursor) (c : UInt8) :
    scanChar eosIn eosInLen maxchars k c =
      match matchStep eosIn eosInLen k.eosInMatch c with
      | none => ((k.take c).retract eosInLen, some .eos)
      | some eosInMatch => ({ k.take c with eosInMatch := eosInMatch },
          if maxchars ≤ k.nRead + 1 then some .cnt else none) := by
  have hmatch : (k.take c).eosInMatch = k.eosInMatch := rfl
  have hread : (k.take c).nRead = k.nRead + 1 := rfl
  unfold scanChar matchStep
  simp only [hmatch]
  split
  · rfl
  · split
    · split
      · simp only [hread]
        split <;> rfl
      · split
        · simp only [hread]
          split <;> rfl
        · simp only [hread]
          split <;> rfl
    · simp only [hread]
      split <;> rfl

/-- The matcher after bytes that complete no terminator. -/
def matchAfter (eosIn : UInt8 × UInt8) (eosInLen : Nat) : Nat → List UInt8 → Nat
  | eosInMatch, [] => eosInMatch
  | eosInMatch, c :: rest =>
      matchAfter eosIn eosInLen ((matchStep eosIn eosInLen eosInMatch c).getD 0) rest

theorem firstEos_append {m : Nat} {front rest : List UInt8}
    (hfront : firstEos eosIn eosInLen m front = none) :
    firstEos eosIn eosInLen m (front ++ rest) =
      (firstEos eosIn eosInLen (matchAfter eosIn eosInLen m front) rest).map
        (· + front.length) := by
  induction front generalizing m with
  | nil => simp [matchAfter]
  | cons c front ih =>
      cases hstep : matchStep eosIn eosInLen m c with
      | none => simp [firstEos, hstep] at hfront
      | some m' =>
          have htail : firstEos eosIn eosInLen m' front = none := by
            simpa [firstEos, hstep] using hfront
          have hsum : (fun n : Nat => n + 1) ∘ (fun n => n + front.length) =
              fun n => n + (front.length + 1) := by
            funext n
            simp only [Function.comp_apply]
            omega
          simp only [List.cons_append, firstEos, matchAfter, hstep, ih htail, Option.map_map,
            Option.getD_some, List.length_cons, hsum]

/-- What draining `inBuf` does, in terms of the first terminator and of `maxchars`. -/
inductive DrainedAt (eosIn : UInt8 × UInt8) (eosInLen maxchars : Nat) (inBuf : List UInt8)
    (k : Cursor) : List UInt8 × Cursor × Option Stop → Prop
  | empty (k' : Cursor) (hroom : k.nRead + inBuf.length < maxchars)
      (hfirst : firstEos eosIn eosInLen k.eosInMatch inBuf = none)
      (hread : k'.nRead = k.nRead + inBuf.length)
      (hmatch : k'.eosInMatch = matchAfter eosIn eosInLen k.eosInMatch inBuf) :
      DrainedAt eosIn eosInLen maxchars inBuf k ([], k', none)
  | full (k' : Cursor) (n : Nat) (hfull : k.nRead + n = maxchars) (hn : n ≤ inBuf.length)
      (hfirst : ∀ j, firstEos eosIn eosInLen k.eosInMatch inBuf = some j → n < j) :
      DrainedAt eosIn eosInLen maxchars inBuf k (inBuf.drop n, k', some .cnt)
  | complete (k' : Cursor) (n : Nat) (hroom : k.nRead + n ≤ maxchars)
      (hfirst : firstEos eosIn eosInLen k.eosInMatch inBuf = some n) :
      DrainedAt eosIn eosInLen maxchars inBuf k (inBuf.drop n, k', some .eos)

theorem drain_drainedAt (eosIn : UInt8 × UInt8) (eosInLen : Nat) (inBuf : List UInt8)
    {k : Cursor} (hroom : k.nRead < maxchars) :
    DrainedAt eosIn eosInLen maxchars inBuf k (drain eosIn eosInLen maxchars inBuf k) := by
  induction inBuf generalizing k with
  | nil => exact .empty k (by simpa using hroom) rfl rfl rfl
  | cons c rest ih =>
      simp only [drain, scanChar_eq]
      cases hstep : matchStep eosIn eosInLen k.eosInMatch c with
      | none =>
          refine .complete _ 1 (by omega) ?_
          simp [firstEos, hstep]
      | some m' =>
          by_cases hfull : maxchars ≤ k.nRead + 1
          · simp only [hfull, if_true]
            refine .full _ 1 (by omega) (by simp) fun j hj => ?_
            simp only [firstEos, hstep, Option.map_eq_some_iff] at hj
            obtain ⟨i, hi, rfl⟩ := hj
            have hpos : 0 < i := by
              cases rest with
              | nil => cases hi
              | cons c' rest =>
                  unfold firstEos at hi
                  split at hi
                  · cases hi
                    omega
                  · obtain ⟨i', -, rfl⟩ := Option.map_eq_some_iff.mp hi
                    omega
            omega
          · simp only [hfull, if_false]
            have hroom' : ({ k.take c with eosInMatch := m' } : Cursor).nRead < maxchars := by
              show k.nRead + 1 < maxchars
              omega
            have hread' : ({ k.take c with eosInMatch := m' } : Cursor).nRead = k.nRead + 1 := rfl
            have hrest := ih hroom'
            generalize hdrain : drain eosIn eosInLen maxchars rest
              { k.take c with eosInMatch := m' } = r at hrest ⊢
            cases hrest with
            | empty k' hroom'' hfirst hread hmatch =>
                refine .empty k' ?_ ?_ ?_ ?_
                · rw [List.length_cons]
                  omega
                · simpa [firstEos, hstep] using hfirst
                · rw [List.length_cons]
                  omega
                · simpa [matchAfter, hstep] using hmatch
            | full k' n hfull' hn hfirst =>
                refine .full k' (n + 1) (by omega) (by simpa using hn) fun j hj => ?_
                simp only [firstEos, hstep, Option.map_eq_some_iff] at hj
                obtain ⟨i, hi, rfl⟩ := hj
                have hlt := hfirst i hi
                omega
            | complete k' n hroom'' hfirst =>
                refine .complete k' (n + 1) (by omega) ?_
                simp [firstEos, hstep, hfirst]

/-! ## One call -/

/-- `EndFits` in the middle of a call: `n` bytes have been stored and the matcher is in state `m`. -/
def LoopFits (eosIn : UInt8 × UInt8) (eosInLen maxchars n m : Nat) (inBuf : List UInt8)
    (lower : List LowerRead) : Prop :=
  ∀ before x after, lower = before ++ x :: after → (∀ y ∈ before, Continues y) →
    x.status = .asynSuccess → x.bytes ≠ [] → x.eom.endOfMessage = true →
    let front := inBuf ++ before.flatMap LowerRead.bytes
    let all := front ++ x.bytes
    n + front.length < maxchars → firstEos eosIn eosInLen m front = none →
    n + all.length < maxchars ∧ firstEos eosIn eosInLen m all = none ∨
      n + all.length ≤ maxchars ∧ firstEos eosIn eosInLen m all = some all.length

/-- The loop goes on with the next read. -/
theorem LoopFits.next {n m : Nat} {inBuf : List UInt8} {x : LowerRead} {lower : List LowerRead}
    (hfits : LoopFits eosIn eosInLen maxchars n m inBuf (x :: lower)) (hcontinues : Continues x)
    (hfirst : firstEos eosIn eosInLen m inBuf = none) :
    LoopFits eosIn eosInLen maxchars (n + inBuf.length) (matchAfter eosIn eosInLen m inBuf) x.bytes
      lower := by
  intro before y after hlower hbefore hstatus hbytes hend front all hroom hnone
  have hall : ∀ z ∈ x :: before, Continues z := by
    intro z hz
    rcases List.mem_cons.mp hz with rfl | hz
    · exact hcontinues
    · exact hbefore z hz
  have h := hfits (x :: before) y after (by simp [hlower]) hall hstatus hbytes hend
  have hwhole : inBuf ++ (x :: before).flatMap LowerRead.bytes ++ y.bytes = inBuf ++ all := by
    simp [all, front]
  have hfront : inBuf ++ (x :: before).flatMap LowerRead.bytes = inBuf ++ front := by
    simp [front]
  dsimp only at h
  rw [hwhole, hfront, firstEos_append hfirst, firstEos_append hfirst, hnone] at h
  have hlenFront : (inBuf ++ front).length = inBuf.length + front.length := List.length_append
  have hlenAll : (inBuf ++ all).length = inBuf.length + all.length := List.length_append
  rcases h (by omega) rfl with ⟨hlt, hno⟩ | ⟨hle, hsome⟩
  · left
    exact ⟨by omega, by simpa using hno⟩
  · right
    refine ⟨by omega, ?_⟩
    obtain ⟨j, hj, hsum⟩ := Option.map_eq_some_iff.mp hsome
    have heq : j = all.length := by omega
    rw [hj, heq]

/-- The read that ends a message, when it is the next one. -/
theorem LoopFits.head {n m : Nat} {inBuf : List UInt8} {x : LowerRead} {lower : List LowerRead}
    (hfits : LoopFits eosIn eosInLen maxchars n m inBuf (x :: lower))
    (hstatus : x.status = .asynSuccess) (hbytes : x.bytes ≠ []) (hend : x.eom.endOfMessage = true)
    (hroom : n + inBuf.length < maxchars) (hfirst : firstEos eosIn eosInLen m inBuf = none) :
    let m' := matchAfter eosIn eosInLen m inBuf
    n + inBuf.length + x.bytes.length < maxchars ∧ firstEos eosIn eosInLen m' x.bytes = none ∨
      n + inBuf.length + x.bytes.length ≤ maxchars ∧
        firstEos eosIn eosInLen m' x.bytes = some x.bytes.length := by
  have h := hfits [] x lower rfl (by simp) hstatus hbytes hend
  simp only [List.flatMap_nil, List.append_nil] at h
  rw [firstEos_append hfirst, List.length_append] at h
  rcases h hroom hfirst with ⟨hlt, hno⟩ | ⟨hle, hsome⟩
  · left
    exact ⟨by omega, by simpa using hno⟩
  · right
    refine ⟨by omega, ?_⟩
    obtain ⟨j, hj, hsum⟩ := Option.map_eq_some_iff.mp hsome
    have heq : j = x.bytes.length := by omega
    rw [hj, heq]

/-- What the loop does with the ends of messages. -/
structure LoopReports (issued : List LowerRead) (e : LoopEnd) : Prop where
  last : ∀ before x after, issued = before ++ x :: after → x.eom.endOfMessage = true → after = []
  whole : lastEnd false issued = true → e.inBuf = []
  reported : lastEnd false issued = true → e.eom.eos = false → e.eom.endOfMessage = true
  delivered : e.eom.endOfMessage = true → lastEnd false issued = true

theorem LoopReports.single {x : LowerRead} {e : LoopEnd}
    (hwhole : x.eom.endOfMessage = true → e.inBuf = [])
    (hreported : x.eom.endOfMessage = true → e.eom.eos = false → e.eom.endOfMessage = true)
    (hdelivered : e.eom.endOfMessage = true → x.eom.endOfMessage = true) :
    LoopReports [x] e := by
  refine ⟨?_, hwhole, hreported, hdelivered⟩
  intro before y after heq _
  cases before with
  | nil =>
      cases heq
      rfl
  | cons z before => simp at heq

theorem LoopReports.none {e : LoopEnd} (hend : e.eom.endOfMessage = false) :
    LoopReports [] e := by
  refine ⟨?_, ?_, ?_, ?_⟩
  · intro before x after heq _
    simp at heq
  · intro h
    cases h
  · intro h
    cases h
  · intro h
    rw [hend] at h
    cases h

/-- A read that does not end a message in front of the others. -/
theorem LoopReports.cons {x : LowerRead} {issued : List LowerRead} {e : LoopEnd}
    (hreports : LoopReports issued e) (hend : x.eom.endOfMessage = false) :
    LoopReports (x :: issued) e := by
  have hlast : lastEnd false (x :: issued) = lastEnd false issued := by
    cases issued with
    | nil => exact hend
    | cons y issued => simp [lastEnd, List.getLast?_cons_cons]
  refine ⟨?_, by rw [hlast]; exact hreports.whole, by rw [hlast]; exact hreports.reported,
    by rw [hlast]; exact hreports.delivered⟩
  intro before y after heq hy
  cases before with
  | nil =>
      obtain ⟨rfl, -⟩ := List.cons.inj heq
      rw [hend] at hy
      cases hy
  | cons z before =>
      obtain ⟨-, hrest⟩ := List.cons.inj heq
      exact hreports.last before y after hrest hy

/-- The last read of a call: its bytes are drained with a flag set, so that no other read follows. -/
theorem drain_last {x : LowerRead} {k : Cursor} {lower : List LowerRead} {eom : EomReason}
    {e : LoopEnd} (hroom : k.nRead < maxchars) (hany : eom.any = true)
    (heom : eom.endOfMessage = x.eom.endOfMessage)
    (hfits : x.eom.endOfMessage = true →
      k.nRead + x.bytes.length < maxchars ∧
          firstEos eosIn eosInLen k.eosInMatch x.bytes = none ∨
        k.nRead + x.bytes.length ≤ maxchars ∧
          firstEos eosIn eosInLen k.eosInMatch x.bytes = some x.bytes.length)
    (hloop : readLoop eosIn eosInLen maxchars lower x.bytes k eom = some e) :
    e.lower = lower ∧ LoopReports [x] e := by
  have hdrained := drain_drainedAt eosIn eosInLen x.bytes hroom
  unfold readLoop at hloop
  generalize drain eosIn eosInLen maxchars x.bytes k = r at hdrained hloop
  cases hdrained with
  | empty k' hroom' hfirst hread hmatch =>
      simp only [hany, if_true] at hloop
      cases hloop
      refine ⟨rfl, LoopReports.single (fun _ => rfl) (fun hend _ => ?_) (fun hend => ?_)⟩
      · exact heom.trans hend
      · exact heom.symm.trans hend
  | full k' n hfull hn hfirst =>
      cases hloop
      have hnot : x.eom.endOfMessage = false := by
        by_contra hend
        rw [Bool.not_eq_false] at hend
        rcases hfits hend with ⟨hlt, -⟩ | ⟨hle, hsome⟩
        · omega
        · have := hfirst _ hsome
          omega
      refine ⟨rfl, LoopReports.single (fun hend => ?_) (fun hend => ?_) (fun hend => ?_)⟩
      · rw [hnot] at hend
        cases hend
      · rw [hnot] at hend
        cases hend
      · cases hend
  | complete k' n hroom' hfirst =>
      cases hloop
      refine ⟨rfl, LoopReports.single (fun hend => ?_) (fun _ heos => ?_) (fun hend => ?_)⟩
      · rcases hfits hend with ⟨-, hno⟩ | ⟨-, hsome⟩
        · rw [hno] at hfirst
          cases hfirst
        · rw [hsome] at hfirst
          cases hfirst
          exact List.drop_length
      · cases heos
      · exact heom.symm.trans hend

theorem readLoop_reports {lower : List LowerRead} {inBuf : List UInt8} {k : Cursor} {e : LoopEnd}
    (hroom : k.nRead < maxchars)
    (hfits : LoopFits eosIn eosInLen maxchars k.nRead k.eosInMatch inBuf lower)
    (hloop : readLoop eosIn eosInLen maxchars lower inBuf k .zero = some e) :
    ∃ issued, lower = issued ++ e.lower ∧ LoopReports issued e := by
  induction lower generalizing inBuf k with
  | nil =>
      have hdrained := drain_drainedAt eosIn eosInLen inBuf hroom
      unfold readLoop at hloop
      generalize drain eosIn eosInLen maxchars inBuf k = r at hdrained hloop
      cases hdrained with
      | empty k' hroom' hfirst hread hmatch => cases hloop
      | full k' n hfull hn hfirst =>
          cases hloop
          exact ⟨[], rfl, .none rfl⟩
      | complete k' n hroom' hfirst =>
          cases hloop
          exact ⟨[], rfl, .none rfl⟩
  | cons x lower ih =>
      have hdrained := drain_drainedAt eosIn eosInLen inBuf hroom
      unfold readLoop at hloop
      generalize drain eosIn eosInLen maxchars inBuf k = r at hdrained hloop
      cases hdrained with
      | full k' n hfull hn hfirst =>
          cases hloop
          exact ⟨[], rfl, .none rfl⟩
      | complete k' n hroom' hfirst =>
          cases hloop
          exact ⟨[], rfl, .none rfl⟩
      | empty k' hroom' hfirst hread hmatch =>
          have hzero : EomReason.zero.any = false := rfl
          simp only [hzero, Bool.false_eq_true, if_false] at hloop
          by_cases hbad : x.status ≠ .asynSuccess ∨ x.bytes = []
          · rw [if_pos hbad] at hloop
            cases hloop
            have hsame : (if x.status = .asynSuccess then { x.eom with cnt := false }
                else x.eom).endOfMessage = x.eom.endOfMessage := by
              split <;> rfl
            exact ⟨[x], rfl, .single (fun _ => rfl) (fun hend _ => hsame.trans hend)
              fun hend => hsame.symm.trans hend⟩
          · rw [if_neg hbad] at hloop
            obtain ⟨hstatus, hbytes⟩ : x.status = .asynSuccess ∧ x.bytes ≠ [] := by
              simpa [not_or] using hbad
            rw [if_pos hstatus] at hloop
            have hnext : k'.nRead < maxchars := by omega
            by_cases hany : ({ x.eom with cnt := false } : EomReason).any = true
            · obtain ⟨hlower, hreports⟩ := drain_last (x := x) hnext hany rfl
                (fun hend => by
                  rw [hread, hmatch]
                  exact hfits.head hstatus hbytes hend hroom' hfirst) hloop
              exact ⟨[x], by rw [hlower]; rfl, hreports⟩
            · have hflags : x.eom.eos = false ∧ x.eom.endOfMessage = false := by
                simpa [EomReason.any] using hany
              have heom : ({ x.eom with cnt := false } : EomReason) = .zero := by
                simp [EomReason.zero, hflags]
              rw [heom] at hloop
              have hcontinues : Continues x := ⟨hstatus, hbytes, hflags.1, hflags.2⟩
              have hfits' := hfits.next hcontinues hfirst
              rw [← hread, ← hmatch] at hfits'
              obtain ⟨issued, hissued, hreports⟩ := ih hnext hfits' hloop
              exact ⟨x :: issued, by rw [hissued]; rfl, hreports.cons hflags.2⟩

/-- One call, when no end is pending before it. -/
theorem call_reportsEnd {peosPvt peosPvt' : EosPvt} {lower lower' : List LowerRead}
    {call : ReadCall} {r : ReadResult} (hprocess : peosPvt.processEosIn = true)
    (hfits : EndFits peosPvt lower call.maxchars)
    (hread : readIt peosPvt lower call.memory call.maxchars = some (r, peosPvt', lower')) :
    peosPvt'.processEosIn = true ∧ ∃ issued, lower = issued ++ lower' ∧
      CallReportsEnd false issued peosPvt'.inBuf r ∧
      heldAfter false issued peosPvt'.inBuf = false := by
  obtain ⟨e, hloop, -, heom, -, -, rfl, rfl⟩ := readIt_eq_some hprocess hread
  have hstart : LoopFits peosPvt.eosIn peosPvt.eosInLen call.maxchars 0 peosPvt.eosInMatch
      peosPvt.inBuf lower := by
    intro before x after hlower hbefore hstatus hbytes hend front all hroom hnone
    rw [Nat.zero_add] at hroom ⊢
    exact hfits before x after hlower hbefore hstatus hbytes hend hroom hnone
  obtain ⟨issued, hissued, hreports⟩ := readLoop_reports (k := ⟨call.memory, 0, 0,
    peosPvt.eosInMatch⟩) call.positive hstart hloop
  refine ⟨hprocess, issued, hissued, ⟨?_, hreports.last, ?_, ?_⟩, ?_⟩
  · intro h
    cases h
  · intro hlast _ heos
    rw [heom] at heos ⊢
    exact hreports.reported hlast heos
  · intro hend
    rw [heom] at hend
    have hlast := hreports.delivered hend
    exact ⟨hlast, hreports.whole hlast⟩
  · unfold heldAfter
    cases hlast : lastEnd false issued with
    | false => rfl
    | true => simp [hreports.whole hlast]

/-! ## All calls -/

/-- If every read that ends a message is delivered by the call that issues it, then every end is
reported by the call that delivers its last byte. -/
theorem reportsEnds_of_endsFit (eos : Terminator) (processEosOut : Bool) (lower : List LowerRead)
    (calls : List ReadCall) (hfit : EndsFit eos processEosOut lower calls) :
    ReportsEnds eos processEosOut lower calls := by
  have hprocess : (configuredInput eos processEosOut).processEosIn = true :=
    (configuredInput_ok eos processEosOut).processEosIn
  unfold ReportsEnds EndsFit at *
  generalize configuredInput eos processEosOut = peosPvt at hprocess hfit ⊢
  induction calls generalizing peosPvt lower with
  | nil => trivial
  | cons call calls ih =>
      obtain ⟨hfits, hrest⟩ := hfit
      refine ⟨?_, ?_⟩
      · intro r peosPvt' lower' hread
        obtain ⟨-, issued, hissued, hcall, -⟩ := call_reportsEnd hprocess hfits hread
        exact ⟨issued, hissued, hcall⟩
      · intro r peosPvt' lower' issued hread hissued
        obtain ⟨hprocess', issued', hissued', -, hheld⟩ := call_reportsEnd hprocess hfits hread
        have hsame : issued = issued' := List.append_cancel_right (hissued.symm.trans hissued')
        subst hsame
        have hnext := hrest r peosPvt' lower' issued hread hissued
        rw [hheld] at hnext ⊢
        exact ih lower' peosPvt' hprocess' hnext

/-- No terminator. -/
def noTerminator : Terminator := ⟨[], by decide⟩

/-- `"AB"` in one read of the lower driver, which ends a message. -/
def endRead : LowerRead := ⟨.asynSuccess, [65, 66], ⟨false, false, true⟩⟩

/-- A call with room for the message reports its end. -/
theorem reportsEnds_whole_message :
    ReportsEnds noTerminator false [endRead] [readCall 3 (by decide) (by decide)] := by
  refine reportsEnds_of_endsFit _ _ _ _ ⟨?_, fun _ _ _ _ _ _ => trivial⟩
  intro before x after hlower _ _ _ _
  cases before with
  | nil =>
      cases hlower
      intro _ _ _ _
      left
      exact ⟨by decide, rfl⟩
  | cons y before => simp at hlower

/-- `maxchars = 1` cuts the message in two, and neither call reports its end. -/
theorem not_reportsEnds_cut_message : ¬ReportsEnds noTerminator false [endRead]
    [readCall 1 (by decide) (by decide), readCall 1 (by decide) (by decide)] := by
  rintro ⟨-, hrest⟩
  obtain ⟨hsecond, -⟩ := hrest _ _ _ [endRead] rfl rfl
  obtain ⟨issued, hissued, hcall⟩ := hsecond _ _ _ rfl
  have hnone : issued = [] := by simpa using hissued.symm
  subst hnone
  have hreported := hcall.reported rfl rfl rfl
  cases hreported

end Miscellaneous
end AsynDriver
