import AsynDriver.Manager.Trace

/-!
# The files of `asynTrace`

`setTraceFile` closes the stream that it replaces and keeps the new one for its place alone.

* `FilesSafe` — no stream in use has been closed, none is used twice, none is closed twice.
* `Handed` — the streams that are handed over are new ones.
* `filesSafe_iff` — this is what keeps the files safe, and nothing less does.
-/

namespace AsynDriver
namespace Manager
namespace Trace

open Library

/-- The streams that `asynTrace` has got. -/
structure FilesSafe (s : State) : Prop where
  opened : ∀ c, Live s c → ∀ fp, (s.trace c).file = .traceFileFP fp → fp ∉ s.closed
  own : ∀ c c', Live s c → Live s c' → ∀ fp, (s.trace c).file = .traceFileFP fp →
    (s.trace c').file = .traceFileFP fp → c = c'
  once : s.closed.Nodup

/-- A stream that is handed over is neither in use nor closed. -/
def Handed (s : State) : Call → Prop
  | .setTraceFile _ (.traceFileFP fp) _ =>
      fp ∉ s.closed ∧ ∀ c, Live s c → (s.trace c).file ≠ .traceFileFP fp
  | _ => True

/-- Streams are where they were. -/
theorem FilesSafe.kept {s s' : State} (hsafe : FilesSafe s) (hclosed : s'.closed = s.closed)
    (hfile : ∀ c, Live s' c → (s'.trace c).file = .traceFileStderr ∨
      (Live s c ∧ (s'.trace c).file = (s.trace c).file)) : FilesSafe s' := by
  have hold : ∀ c, Live s' c → ∀ fp, (s'.trace c).file = .traceFileFP fp →
      Live s c ∧ (s.trace c).file = .traceFileFP fp := by
    intro c hc fp hfp
    rcases hfile c hc with hstderr | ⟨hlive, hsame⟩
    · rw [hstderr] at hfp
      cases hfp
    · exact ⟨hlive, hsame ▸ hfp⟩
  refine ⟨?_, ?_, ?_⟩
  · intro c hc fp hfp
    obtain ⟨hlive, hfp'⟩ := hold c hc fp hfp
    rw [hclosed]
    exact hsafe.opened c hlive fp hfp'
  · intro c c' hc hc' fp hfp hfp'
    obtain ⟨hlive, hold₁⟩ := hold c hc fp hfp
    obtain ⟨hlive', hold₂⟩ := hold c' hc' fp hfp'
    exact hsafe.own c c' hlive hlive' fp hold₁ hold₂
  · rw [hclosed]
    exact hsafe.once

theorem Creates.filesSafe {s s' : State} {q : Place} (hcreates : Creates s s' q)
    (hsafe : FilesSafe s) : FilesSafe s' := by
  refine hsafe.kept hcreates.closed ?_
  intro c hc
  by_cases hq : c = q
  · subst hq
    rw [hcreates.new]
    exact Or.inl rfl
  · rw [hcreates.old c hq]
    exact Or.inr ⟨((hcreates.live c).mp hc).resolve_left hq, rfl⟩

theorem FilesSafe.congr {s s' : State} (hsafe : FilesSafe s)
    (hports : s'.asynPortList = s.asynPortList) (hclosed : s'.closed = s.closed)
    (hfile : ∀ c, (s'.trace c).file = (s.trace c).file) : FilesSafe s' := by
  refine hsafe.kept hclosed ?_
  intro c hc
  exact Or.inr ⟨(live_congr hports c).mp hc, hfile c⟩

theorem setMaskAt_file (k : MaskKind) (mask : Int) (s : State) (c c' : Place) :
    ((setMaskAt k mask s c).trace c').file = (s.trace c').file := by
  rw [setMaskAt_trace]
  split <;> rfl

theorem setMask_filesSafe {s : State} (hsafe : FilesSafe s) (k : MaskKind)
    (pasynUser : Option UserId) (mask : Int) : FilesSafe (setMask k s pasynUser mask).1 := by
  unfold setMask
  cases pasynUser with
  | none =>
      refine hsafe.congr rfl rfl ?_
      exact setMaskAt_file k mask s .base
  | some u =>
      cases hu : s.users u with
      | none =>
          simp only [hu]
          exact hsafe
      | some t =>
          obtain ⟨p, pdevice⟩ := t
          cases pdevice with
          | some d =>
              simp only [hu]
              exact hsafe.congr rfl rfl (setMaskAt_file k mask s (.device p d))
          | none =>
              simp only [hu]
              obtain ⟨hports, -, -, hclosed, -, htrace⟩ :=
                foldl_setMaskAt k mask p (deviceCount s p) s
              refine hsafe.congr hports hclosed ?_
              intro c
              change ((setMaskAt k mask _ (.port p)).trace c).file = _
              rw [setMaskAt_file, htrace c]
              split <;> rfl

theorem Changes.file {s s' : State} {c : Place} {x : Change} (hchanges : Changes s s' c x)
    (hfile : ∀ file, x ≠ .file file) (c' : Place) : (s'.trace c').file = (s.trace c').file := by
  by_cases hc : c' = c
  · subst hc
    refine (congrArg TraceSettings.file hchanges.own).trans ?_
    cases x with
    | file file => exact absurd rfl (hfile file)
    | _ => rfl
  · rw [hchanges.other c' hc]

/-- The calls that have nothing to do with files. -/
theorem run_filesSafe {s : State} (hknown : Known s) (hsafe : FilesSafe s) {call : Call}
    (hcall : ∀ u file fcloseError, call ≠ .setTraceFile u file fcloseError) :
    FilesSafe (call.run s).1 := by
  cases call with
  | setTraceFile u file fcloseError => exact absurd rfl (hcall u file fcloseError)
  | registerPort | connectDevice | disconnect =>
      exact run_connects hknown trivial hsafe (fun _ _ hcreates => hcreates.filesSafe hsafe)
        (fun _ _ h => h.congr rfl rfl (fun _ => rfl))
  | setMask k pasynUser mask => exact setMask_filesSafe hsafe k pasynUser mask
  | setTraceIOTruncateSize u size memory =>
      change FilesSafe (setTraceIOTruncateSize s u size memory).1
      rcases setTraceIOTruncateSize_cases s u size memory with hsame | ⟨hchanges, hclosed⟩
      · rw [hsame]
        exact hsafe
      · exact hsafe.congr hchanges.ports hclosed (hchanges.file (fun file => Change.noConfusion))

/-! ## `setTraceFile` -/

/-- The stream that is replaced is closed. -/
theorem setTraceFile_closed (s : State) (u : UserId) (file : TraceFile)
    (fcloseError : Option String) :
    (setTraceFile s u file fcloseError).1.closed =
      match (s.trace (findTracePvt s u)).file with
      | .traceFileFP fp => fp :: s.closed
      | _ => s.closed := by
  unfold setTraceFile
  change (exceptionOccurred _ u _).closed = _
  rw [exceptionOccurred_closed]
  change (match (s.trace (findTracePvt s u)).file with
    | .traceFileFP fp => (fp :: s.closed, _)
    | _ => (s.closed, _)).1 = _
  cases (s.trace (findTracePvt s u)).file <;> rfl

theorem setTraceFile_file (s : State) (u : UserId) (file : TraceFile)
    (fcloseError : Option String) (c : Place) :
    ((setTraceFile s u file fcloseError).1.trace c).file =
      if c = findTracePvt s u then file else (s.trace c).file := by
  have hchanges := setTraceFile_changes s u file fcloseError
  by_cases hc : c = findTracePvt s u
  · rw [if_pos hc, hc]
    exact congrArg TraceSettings.file hchanges.own
  · rw [if_neg hc, hchanges.other c hc]

theorem setTraceFile_live (s : State) (u : UserId) (file : TraceFile)
    (fcloseError : Option String) (c : Place) :
    Live (setTraceFile s u file fcloseError).1 c ↔ Live s c :=
  live_congr (setTraceFile_changes s u file fcloseError).ports c

/-- What is closed afterwards. -/
theorem mem_setTraceFile_closed {s : State} {u : UserId} {file : TraceFile}
    {fcloseError : Option String} {fp : Nat} :
    fp ∈ (setTraceFile s u file fcloseError).1.closed ↔
      (s.trace (findTracePvt s u)).file = .traceFileFP fp ∨ fp ∈ s.closed := by
  rw [setTraceFile_closed]
  cases hfile : (s.trace (findTracePvt s u)).file with
  | traceFileFP old =>
      simp only [List.mem_cons, TraceFile.traceFileFP.injEq]
      constructor
      · rintro (rfl | hold)
        · exact Or.inl rfl
        · exact Or.inr hold
      · rintro (rfl | hold)
        · exact Or.inl rfl
        · exact Or.inr hold
  | traceFileErrlog => simp
  | traceFileStdout => simp
  | traceFileStderr => simp

theorem setTraceFile_handed {s : State} (hknown : Known s) {u : UserId} {file : TraceFile}
    {fcloseError : Option String} (hafter : FilesSafe (setTraceFile s u file fcloseError).1) :
    Handed s (.setTraceFile u file fcloseError) := by
  cases file with
  | traceFileErrlog => exact trivial
  | traceFileStdout => exact trivial
  | traceFileStderr => exact trivial
  | traceFileFP fp =>
      have hlive : Live s (findTracePvt s u) := by
        rw [hknown.findTracePvt u]
        exact hknown.live u
      have hlive' := (setTraceFile_live s u (.traceFileFP fp) fcloseError _).mpr hlive
      have hnew : ((setTraceFile s u (.traceFileFP fp) fcloseError).1.trace
          (findTracePvt s u)).file = .traceFileFP fp := by
        rw [setTraceFile_file, if_pos rfl]
      have hopened := hafter.opened _ hlive' fp hnew
      rw [mem_setTraceFile_closed] at hopened
      refine ⟨fun hclosed => hopened (Or.inr hclosed), ?_⟩
      intro c hc hfp
      by_cases heq : c = findTracePvt s u
      · subst heq
        exact hopened (Or.inl hfp)
      · have hsame : ((setTraceFile s u (.traceFileFP fp) fcloseError).1.trace c).file =
            .traceFileFP fp := by
          rw [setTraceFile_file, if_neg heq]
          exact hfp
        exact heq (hafter.own c _ ((setTraceFile_live s u _ fcloseError c).mpr hc) hlive' fp hsame
          hnew)

theorem setTraceFile_filesSafe {s : State} (hknown : Known s) (hsafe : FilesSafe s) {u : UserId}
    {file : TraceFile} {fcloseError : Option String}
    (hhanded : Handed s (.setTraceFile u file fcloseError)) :
    FilesSafe (setTraceFile s u file fcloseError).1 := by
  have hlive : Live s (findTracePvt s u) := by
    rw [hknown.findTracePvt u]
    exact hknown.live u
  have hfresh : ∀ fp, file = .traceFileFP fp →
      fp ∉ s.closed ∧ ∀ c, Live s c → (s.trace c).file ≠ .traceFileFP fp := by
    rintro fp rfl
    exact hhanded
  refine ⟨?_, ?_, ?_⟩
  · intro c hc fp hfp
    rw [setTraceFile_live] at hc
    rw [setTraceFile_file] at hfp
    rw [mem_setTraceFile_closed]
    rintro (hold | hclosed)
    · split at hfp
      · exact (hfresh fp hfp).2 _ hlive hold
      · next hne => exact hne (hsafe.own c _ hc hlive fp hfp hold)
    · split at hfp
      · exact (hfresh fp hfp).1 hclosed
      · exact hsafe.opened c hc fp hfp hclosed
  · intro c c' hc hc' fp hfp hfp'
    rw [setTraceFile_live] at hc hc'
    rw [setTraceFile_file] at hfp hfp'
    by_cases heq : c = findTracePvt s u
    · rw [if_pos heq] at hfp
      by_cases heq' : c' = findTracePvt s u
      · exact heq.trans heq'.symm
      · rw [if_neg heq'] at hfp'
        exact absurd hfp' ((hfresh fp hfp).2 c' hc')
    · rw [if_neg heq] at hfp
      by_cases heq' : c' = findTracePvt s u
      · rw [if_pos heq'] at hfp'
        exact absurd hfp ((hfresh fp hfp').2 c hc)
      · rw [if_neg heq'] at hfp'
        exact hsafe.own c c' hc hc' fp hfp hfp'
  · rw [setTraceFile_closed]
    cases hfile : (s.trace (findTracePvt s u)).file with
    | traceFileFP old =>
        exact List.nodup_cons.mpr ⟨hsafe.opened _ hlive old hfile, hsafe.once⟩
    | traceFileErrlog => exact hsafe.once
    | traceFileStdout => exact hsafe.once
    | traceFileStderr => exact hsafe.once

/-! ## The runs -/

/-- A call leaves the files safe exactly if the stream that it hands over is a new one. -/
theorem run_filesSafe_iff {s : State} (hknown : Known s) (hsafe : FilesSafe s) (call : Call) :
    FilesSafe (call.run s).1 ↔ Handed s call := by
  cases call with
  | setTraceFile u file fcloseError =>
      exact ⟨setTraceFile_handed hknown, setTraceFile_filesSafe hknown hsafe⟩
  | _ =>
      refine iff_of_true (run_filesSafe hknown hsafe ?_) trivial
      intro u file fcloseError heq
      cases heq

/-- In every run in which only new streams are handed to `setTraceFile`, no stream in use has been
closed, none is used in two places and none is closed twice; and any other call breaks this. -/
theorem filesSafe_iff {s : State} (hreach : machine.Reachable Handed s) :
    FilesSafe s ∧ ∀ call, FilesSafe (call.run s).1 ↔ Handed s call := by
  have hinit : ∀ s, machine.init s → Known s ∧ FilesSafe s := by
    rintro s rfl
    refine ⟨known_init, ?_, ?_, List.nodup_nil⟩
    · intro c _ fp hfp
      cases hfp
    · intro c c' _ _ fp hfp
      cases hfp
  have hkeep : ∀ s call s', Known s ∧ FilesSafe s → machine.step s call = some s' →
      FilesSafe s' → Known s' ∧ FilesSafe s' := by
    intro s call s' hs hstep hgood
    cases hstep
    exact ⟨run_known hs.1 call, hgood⟩
  have hiff : ∀ s call s', Known s ∧ FilesSafe s → machine.step s call = some s' →
      (FilesSafe s' ↔ Handed s call) := by
    intro s call s' hs hstep
    cases hstep
    exact run_filesSafe_iff hs.1 hs.2 call
  obtain ⟨hinv, hstep⟩ := Machine.Reachable.guard_iff hinit hkeep hiff hreach
  exact ⟨hinv.2, fun call => hstep call _ rfl⟩

/-- One stream, handed over for the second time. -/
def again : Call := .setTraceFile 0 (.traceFileFP 5) none

theorem filesSafe_iff_again :
    FilesSafe (again.run asynInit).1 ∧ ¬ FilesSafe (again.run (again.run asynInit).1).1 := by
  have hhanded : Handed asynInit again := by
    refine ⟨List.not_mem_nil, ?_⟩
    intro c _ hfp
    cases hfp
  have hreach : machine.Reachable Handed (again.run asynInit).1 :=
    (Machine.Reachable.init rfl).step hhanded rfl
  obtain ⟨hsafe, hiff⟩ := filesSafe_iff hreach
  refine ⟨hsafe, fun hafter => ?_⟩
  exact ((hiff again).mp hafter).2 .base trivial rfl

end Trace
end Manager
end AsynDriver
