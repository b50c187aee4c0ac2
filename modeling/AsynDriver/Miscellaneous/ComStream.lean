import AsynDriver.Miscellaneous.ComXBuf

/-!
# A loop-back through `asynInterposeCom`

Everything that is written through `writeIt` comes back from the lower driver in chunks of any size
and is read through `readIt`.

* `unstuff_encode` — the reader takes a chunk of the doubled data, cut anywhere, back to the bytes.
* `Loopback` — the bytes in transit, what was written and what was delivered.
* `loopsBack_iff_fits` — all written bytes are delivered, exactly if every write fits.
-/

namespace AsynDriver
namespace Miscellaneous

open Manager (AsynStatus)

/-! ## The reader -/

/-- A chunk of `n` bytes of the encoded stream is taken back to the bytes it starts with, whatever
pair the cut falls into. -/
theorem unstuff_encode (t : List UInt8) (n : Nat) :
    ∃ u t' again, unstuff ((encode t).drop n).head? ((encode t).take n) = some (u, again) ∧
      t = u ++ t' ∧ (if again then ((encode t).drop n).tail else (encode t).drop n) = encode t' ∧
      u.length ≤ n ∧ (0 < n → t ≠ [] → u ≠ []) := by
  induction t generalizing n with
  | nil =>
      refine ⟨[], [], false, ?_, rfl, ?_, Nat.zero_le n, ?_⟩
      · simp [encode, unstuff]
      · simp [encode]
      · intro _ hne
        exact absurd rfl hne
  | cons c t ih =>
      by_cases hc : c = cIac
      · subst hc
        rcases n with _ | _ | n
        · exact ⟨[], cIac :: t, false, by simp [unstuff], rfl, by simp, le_rfl, by simp⟩
        · refine ⟨[cIac], t, true, ?_, rfl, ?_, le_rfl, by simp⟩
          · simp [encode, unstuff]
          · simp [encode]
        · obtain ⟨u, t', again, hunstuff, htail, hrest, hlength, -⟩ := ih n
          refine ⟨cIac :: u, t', again, ?_, by rw [htail]; rfl, ?_, ?_, by simp⟩
          · simp only [encode, if_true, List.drop_succ_cons, List.take_succ_cons, unstuff, hunstuff,
              Option.map_some]
          · simpa [encode] using hrest
          · rw [List.length_cons]
            omega
      · rcases n with _ | n
        · exact ⟨[], c :: t, false, by simp [unstuff], rfl, by simp, le_rfl, by simp⟩
        · obtain ⟨u, t', again, hunstuff, htail, hrest, hlength, -⟩ := ih n
          refine ⟨c :: u, t', again, ?_, by rw [htail]; rfl, ?_, ?_, by simp⟩
          · simp only [encode, if_neg hc, List.take_succ_cons, List.drop_succ_cons]
            cases htake : (encode t).take n with
            | nil =>
                rw [htake] at hunstuff
                cases hunstuff
                simp [unstuff, hc]
            | cons d rest =>
                rw [htake] at hunstuff
                simp only [unstuff, if_neg hc, hunstuff, Option.map_some]
          · simpa [encode, hc] using hrest
          · rw [List.length_cons]
            omega

/-! ## The loop-back -/

/-- The layer and the bytes in transit; `written` and `delivered` collect what the calls of `writeIt`
and `readIt` have passed on. -/
structure Loopback where
  xBufCapacity : Nat
  stream : List UInt8
  written : List UInt8
  delivered : List UInt8

/-- The layer as `asynInterposeCOM` makes it. -/
def Loopback.start : Loopback := ⟨0, [], [], []⟩

/-- The lower driver's answer to a `read` of at most `maxchars` bytes, of which it delivers `size`:
it times out when nothing is there. -/
def lowerRead (stream : List UInt8) (maxchars size : Nat) : LowerRead :=
  if stream = [] then ⟨.asynTimeout, [], .zero⟩
  else
    let bytes := stream.take (min (max size 1) maxchars)
    ⟨.asynSuccess, bytes, ⟨decide (bytes.length = maxchars), false, false⟩⟩

/-- What a call of `readIt` returns; the lower driver delivers `size` bytes first. -/
def Loopback.readIt (s : Loopback) (maxchars size : Nat) : ComRead :=
  let r := lowerRead s.stream maxchars size
  comReadIt maxchars r (lowerRead (s.stream.drop r.bytes.length) 1 1)

/-- A call of `writeIt`, or of `readIt` with `maxchars + 1`. -/
inductive LoopCall
  | write (data : List UInt8)
  | read (maxchars size : Nat)

def Loopback.step (s : Loopback) : LoopCall → Option Loopback
  | .write data =>
      (comWriteIt s.xBufCapacity data).map fun (sent, capacity) =>
        { s with
          xBufCapacity := capacity
          stream := s.stream ++ sent
          written := s.written ++ data }
  | .read maxchars size =>
      let r := s.readIt (maxchars + 1) size
      let rest := s.stream.drop (lowerRead s.stream (maxchars + 1) size).bytes.length
      some
        { s with
          stream := if r.readAgain then rest.tail else rest
          delivered := s.delivered ++ if r.status = .asynSuccess then r.bytes else [] }

def Loopback.run (s : Loopback) : List LoopCall → Option Loopback
  | [] => some s
  | c :: calls => (s.step c).bind fun s' => s'.run calls

/-- What the loop-back promises after some calls: what has been delivered is a prefix of what was
written, no read stores more than it may, and as many reads as there are bytes in transit deliver all
the rest. -/
structure LoopedBack (s : Loopback) : Prop where
  delivered : s.delivered <+: s.written
  stored : ∀ maxchars size, (s.readIt (maxchars + 1) size).bytes.length ≤ maxchars + 1
  complete : ∀ reads : List (Nat × Nat), s.stream.length ≤ reads.length →
    ∃ s', s.run (reads.map fun r => .read r.1 r.2) = some s' ∧ s'.delivered = s.written

/-- After every beginning of the calls nothing has been written outside `xBuf`, and the loop-back is
right. -/
def LoopsBack (calls : List LoopCall) : Prop :=
  ∀ front rest, calls = front ++ rest → ∃ s, Loopback.start.run front = some s ∧ LoopedBack s

/-- Every write of the calls fits in `xBuf` as it is then. -/
def WritesFit (calls : List LoopCall) : Prop :=
  ∀ front data rest s, calls = front ++ .write data :: rest →
    Loopback.start.run front = some s → XBufHolds s.xBufCapacity data

/-- The bytes in transit encode what has not been delivered. -/
def Loopback.Ok (s : Loopback) : Prop :=
  ∃ t, s.written = s.delivered ++ t ∧ s.stream = encode t

theorem run_append (s : Loopback) (front rest : List LoopCall) :
    s.run (front ++ rest) = (s.run front).bind fun s' => s'.run rest := by
  induction front generalizing s with
  | nil => rfl
  | cons c front ih =>
      simp only [List.cons_append, Loopback.run]
      cases s.step c with
      | none => rfl
      | some s' => exact ih s'

/-- One read: some bytes are delivered if there are any. -/
theorem Loopback.Ok.read {s : Loopback} (hok : s.Ok) (maxchars size : Nat) :
    ∃ s', s.step (.read maxchars size) = some s' ∧ s'.Ok ∧ s'.written = s.written ∧
      (s.stream ≠ [] → s'.stream.length < s.stream.length) ∧
      (s.readIt (maxchars + 1) size).bytes.length ≤ maxchars + 1 := by
  obtain ⟨t, hwritten, hstream⟩ := hok
  by_cases hempty : s.stream = []
  · have hlower : ∀ n, lowerRead s.stream n size = ⟨.asynTimeout, [], .zero⟩ := by
      intro n
      simp [lowerRead, hempty]
    have hread : s.readIt (maxchars + 1) size = ⟨.asynTimeout, [], .zero, false⟩ := by
      simp only [Loopback.readIt, hlower, comReadIt, ne_eq, reduceCtorEq, not_false_eq_true, if_true]
    refine ⟨s, ?_, ⟨t, hwritten, hstream⟩, rfl, fun h => absurd hempty h, ?_⟩
    · simp [Loopback.step, hread, hlower]
    · rw [hread]
      exact Nat.zero_le _
  · have ht : t ≠ [] := by
      intro hnil
      rw [hnil] at hstream
      exact hempty hstream
    generalize hn : min (max size 1) (maxchars + 1) = n
    have hpos : 0 < n := by omega
    have hlower : lowerRead s.stream (maxchars + 1) size = ⟨.asynSuccess, s.stream.take n,
        ⟨decide ((s.stream.take n).length = maxchars + 1), false, false⟩⟩ := by
      simp [lowerRead, hempty, hn]
    have hdrop : s.stream.drop (s.stream.take n).length = s.stream.drop n := by
      rw [List.length_take]
      by_cases hle : n ≤ s.stream.length
      · rw [Nat.min_eq_left hle]
      · have hge : s.stream.length ≤ n := by omega
        rw [Nat.min_eq_right hge, List.drop_length, List.drop_of_length_le hge]
    have hnext : nextCharOf (lowerRead (s.stream.drop n) 1 1) = (s.stream.drop n).head? := by
      unfold lowerRead
      cases hrest : s.stream.drop n with
      | nil => rfl
      | cons c rest => simp [nextCharOf]
    obtain ⟨u, t', again, hunstuff, htail, hrest, hlength, hsome⟩ := unstuff_encode t n
    rw [← hstream] at hunstuff hrest
    have hu := hsome hpos ht
    have hstatus : (s.readIt (maxchars + 1) size).status = .asynSuccess ∧
        (s.readIt (maxchars + 1) size).bytes = u ∧
        (s.readIt (maxchars + 1) size).readAgain = again := by
      simp only [Loopback.readIt, hlower, hdrop, comReadIt, ne_eq, not_true_eq_false, if_false,
        hnext, hunstuff, and_self]
    obtain ⟨hst, hbytes, hagain⟩ := hstatus
    refine ⟨{ s with
      stream := if again then (s.stream.drop n).tail else s.stream.drop n
      delivered := s.delivered ++ u }, ?_, ⟨t', ?_, hrest⟩, rfl, ?_, ?_⟩
    · simp only [Loopback.step, hst, hbytes, hagain, hlower, hdrop, if_true]
    · rw [hwritten, htail, List.append_assoc]
    · intro _
      have hlen : (encode t').length < (encode t).length := by
        rw [htail, encode_append, List.length_append]
        have hpos' : 0 < (encode u).length := by
          obtain ⟨c, u, rfl⟩ := List.exists_cons_of_ne_nil hu
          unfold encode
          split <;> simp
        omega
      show (if again then (s.stream.drop n).tail else s.stream.drop n).length < s.stream.length
      rw [hrest, hstream]
      exact hlen
    · rw [hbytes]
      omega

theorem Loopback.Ok.write {s s' : Loopback} {data : List UInt8} (hok : s.Ok)
    (hstep : s.step (.write data) = some s') : s'.Ok := by
  obtain ⟨t, hwritten, hstream⟩ := hok
  obtain ⟨⟨sent, capacity⟩, hwrite, rfl⟩ := Option.map_eq_some_iff.mp hstep
  obtain ⟨capacity', heq⟩ := comWriteIt_eq (holds_of_comWriteIt hwrite)
  rw [hwrite] at heq
  cases heq
  refine ⟨t ++ data, ?_, ?_⟩
  · rw [hwritten, List.append_assoc]
  · rw [hstream, encode_append]

theorem Loopback.Ok.run {s s' : Loopback} {calls : List LoopCall} (hok : s.Ok)
    (hrun : s.run calls = some s') : s'.Ok := by
  induction calls generalizing s with
  | nil =>
      cases hrun
      exact hok
  | cons c calls ih =>
      obtain ⟨s₁, hstep, hrest⟩ := Option.bind_eq_some_iff.mp hrun
      refine ih ?_ hrest
      cases c with
      | write data => exact hok.write hstep
      | read maxchars size =>
          obtain ⟨s₂, hread, hok', -⟩ := hok.read maxchars size
          rw [hread] at hstep
          cases hstep
          exact hok'

/-- As many reads as there are bytes in transit empty the stream. -/
theorem Loopback.Ok.complete {s : Loopback} (hok : s.Ok) (reads : List (Nat × Nat))
    (hlength : s.stream.length ≤ reads.length) :
    ∃ s', s.run (reads.map fun r => .read r.1 r.2) = some s' ∧ s'.delivered = s.written := by
  induction reads generalizing s with
  | nil =>
      refine ⟨s, rfl, ?_⟩
      obtain ⟨t, hwritten, hstream⟩ := hok
      have hnil : s.stream = [] := List.length_eq_zero_iff.mp (Nat.le_zero.mp hlength)
      rw [hnil] at hstream
      cases t with
      | nil => rw [hwritten, List.append_nil]
      | cons c t =>
          unfold encode at hstream
          split at hstream <;> cases hstream
  | cons r reads ih =>
      obtain ⟨s₁, hstep, hok', hwritten, hless, -⟩ := hok.read r.1 r.2
      have hlength' : s₁.stream.length ≤ reads.length := by
        rw [List.length_cons] at hlength
        by_cases hempty : s.stream = []
        · obtain ⟨t, -, hstream⟩ := hok
          have hsame : s₁.stream.length ≤ s.stream.length := by
            have hlower : ∀ n, lowerRead s.stream n r.2 = ⟨.asynTimeout, [], .zero⟩ := by
              intro n
              simp [lowerRead, hempty]
            simp only [Loopback.step, Loopback.readIt, hlower, comReadIt, ne_eq, reduceCtorEq,
              not_false_eq_true, if_true, Bool.false_eq_true, if_false, List.length_nil,
              List.drop_zero, Option.some.injEq] at hstep
            rw [← hstep]
          rw [hempty, List.length_nil] at hsame
          omega
        · have := hless hempty
          omega
      obtain ⟨s', hrun, hdelivered⟩ := ih hok' hlength'
      refine ⟨s', ?_, hdelivered.trans hwritten⟩
      simp only [List.map_cons, Loopback.run, hstep]
      exact hrun

theorem Loopback.Ok.loopedBack {s : Loopback} (hok : s.Ok) : LoopedBack s := by
  refine ⟨?_, ?_, hok.complete⟩
  · obtain ⟨t, hwritten, -⟩ := hok
    exact ⟨t, hwritten.symm⟩
  · intro maxchars size
    obtain ⟨-, -, -, -, -, hstored⟩ := hok.read maxchars size
    exact hstored

/-- If every write fits, no call writes outside `xBuf`. -/
theorem run_isSome {calls : List LoopCall} (hfit : WritesFit calls) {front rest : List LoopCall}
    (hcalls : calls = front ++ rest) : ∃ s, Loopback.start.run front = some s := by
  induction front using List.reverseRecOn generalizing rest with
  | nil => exact ⟨_, rfl⟩
  | append_singleton front c ih =>
      rw [List.append_assoc] at hcalls
      obtain ⟨s, hrun⟩ := ih hcalls
      rw [run_append, hrun]
      have hok : s.Ok := Loopback.Ok.run (s := Loopback.start) ⟨[], rfl, rfl⟩ hrun
      cases c with
      | write data =>
          obtain ⟨capacity, hwrite⟩ := comWriteIt_eq (hfit front data rest s hcalls hrun)
          simp [Loopback.run, Loopback.step, hwrite]
      | read maxchars size =>
          obtain ⟨s', hstep, -⟩ := hok.read maxchars size
          simp [Loopback.run, hstep]

/-- Everything that is written is delivered, in order and only once, exactly if every write fits in
`xBuf`. -/
theorem loopsBack_iff_fits (calls : List LoopCall) : LoopsBack calls ↔ WritesFit calls := by
  constructor
  · intro hloops front data rest s hcalls hrun
    obtain ⟨s', hrun', -⟩ := hloops (front ++ [.write data]) rest (by simp [hcalls])
    rw [run_append, hrun] at hrun'
    rw [Option.bind_some] at hrun'
    obtain ⟨s₁, hstep, -⟩ := Option.bind_eq_some_iff.mp hrun'
    obtain ⟨r, hwrite, -⟩ := Option.map_eq_some_iff.mp hstep
    exact holds_of_comWriteIt hwrite
  · intro hfit front rest hcalls
    obtain ⟨s, hrun⟩ := run_isSome hfit hcalls
    have hok : s.Ok := Loopback.Ok.run (s := Loopback.start) ⟨[], rfl, rfl⟩ hrun
    exact ⟨s, hrun, hok.loopedBack⟩

/-! ## A write that does not fit -/

theorem pieces_replicate (n : Nat) :
    pieces (List.replicate n 0 ++ [cIac, cIac]) = [List.replicate n 0 ++ [cIac], [cIac]] := by
  induction n with
  | zero => rfl
  | succ n ih =>
      have hzero : (0 : UInt8) ≠ cIac := by decide
      simp only [List.replicate_succ, List.cons_append, pieces, if_neg hzero, ih]

/-- The first piece fills what is allocated for it, and the second one asks for two bytes of the same
1024 again. -/
theorem comWriteIt_two_iac {n : Nat} (hn : n = 1022) :
    comWriteIt 0 (List.replicate n 0 ++ [cIac, cIac]) = none := by
  have hiac : (List.replicate n 0 ++ [cIac, cIac]).contains cIac = true := by
    simp only [List.contains_iff_mem, List.mem_append, List.mem_cons, true_or, or_true]
  have hfirst : stuffPiece (List.replicate n 0 ++ [cIac]) = List.replicate n 0 ++ [cIac, cIac] := by
    simp [stuffPiece]
  have hgrow : growCapacity (n + 2) 0 (n + 2) = 1024 := by
    simp [growCapacity, hn]
  have hkept : growCapacity (n + 2) 1024 2 = 1024 := by
    simp [growCapacity]
  unfold comWriteIt
  rw [if_pos hiac, pieces_replicate]
  simp only [stuffLoop, hfirst, List.length_append, List.length_replicate, List.length_cons,
    List.length_nil, List.nil_append, Nat.zero_add, Nat.reduceAdd, Nat.add_assoc, hgrow, hkept]
  have hlast : (stuffPiece [cIac]).length = 2 := by decide
  rw [hlast, hn]
  rfl

theorem not_loopsBack_two_iac :
    ¬LoopsBack [.write (List.replicate 1022 0 ++ [cIac, cIac])] := by
  intro hloops
  obtain ⟨s, hrun, -⟩ := hloops [.write (List.replicate 1022 0 ++ [cIac, cIac])] [] rfl
  rw [Loopback.run, Loopback.step, Loopback.start, comWriteIt_two_iac rfl] at hrun
  cases hrun

end Miscellaneous
end AsynDriver
