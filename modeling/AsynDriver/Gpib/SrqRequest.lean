import Mathlib.Logic.Function.Basic
import Mathlib.Tactic.Common
import AsynDriver.Library.Progress
import AsynDriver.Manager.Types

/-!
# The poll request of `asynGpib.c`

`srqHappened` queues `srqPoll` unless `pollRequestIsQueued` says that this was done; `srqPoll` clears
the flag before it polls.  The flag has a mutex of its own, the queue has `asynManagerLock`, and the
port thread calls `srqPoll` after it has released that lock.

* `State`, `step` — threads in `srqHappened`, the port thread, and the port being enabled, connected
  and shut down, one step for each locked section.
* `At` — where the request is: in a call of `queueRequest`, on the queue, or in the hands of the port
  thread.
* `srqRequest_sound` — while `queueRequest` accepts, the flag says where the request is, and a poll
  starts after every SRQ.

When `queueRequest` refuses, `srqHappened` leaves the flag set.  Then no SRQ is ever polled again
(`Lost`).

The port can block, as all ports that use `asynGpib` do.  The polling itself is in `PollTable`.
-/

namespace AsynDriver
namespace Gpib
namespace SrqRequest

open Library
open Machine (Served Ranking)
open Manager (AsynStatus ThreadId)

/-- A thread outside `srqHappened`, or between its locked section and the end of `queueRequest`. -/
inductive CallPhase
  | outside
  | queueing
  deriving DecidableEq, Repr

/-- `entering`: `srqPoll` is taken off the queue and has not yet cleared the flag; `other` is
everything else that the port thread does. -/
inductive PortPhase
  | other
  | entering
  | polling
  deriving DecidableEq, Repr

/-- `isQueued` is that of `pgpibPvt->pasynUser`; `starts` counts the calls of `srqPoll` that have
cleared the flag. -/
structure State where
  pollRequestIsQueued : Bool
  isQueued : Bool
  enabled : Bool
  connected : Bool
  defunct : Bool
  portThread : PortPhase
  caller : ThreadId → CallPhase
  starts : Nat

inductive Action
  | srqHappened (t : ThreadId)
  | queueRequest (t : ThreadId)
  | portThreadTakes
  | srqPollBegins
  | srqPollReturns
  | enable (yesNo : Bool)
  | setConnected (connected : Bool)
  | shutdownPort
  deriving DecidableEq, Repr

/-- The port thread calls `srqHappened` too, when it connects a device. -/
def portThreadId : ThreadId := 0

/-- `queueRequest` with priority medium and no timeout. -/
def queueRequest (s : State) : State × AsynStatus :=
  if !s.enabled then (s, .asynDisabled)
  else if !s.connected then (s, .asynDisconnected)
  else if s.isQueued then (s, .asynError)
  else ({ s with isQueued := true }, .asynSuccess)

def step (s : State) : Action → Option State
  | .srqHappened t =>
      if s.caller t = .outside ∧ (t = portThreadId → s.portThread ≠ .entering) then
        if s.pollRequestIsQueued then some s
        else
          some { s with
            pollRequestIsQueued := true
            caller := Function.update s.caller t .queueing }
      else none
  | .queueRequest t =>
      if s.caller t = .queueing then
        -- the status is printed only
        let s' := (queueRequest s).1
        some { s' with caller := Function.update s'.caller t .outside }
      else none
  | .portThreadTakes =>
      if s.portThread = .other ∧ s.caller portThreadId = .outside ∧ s.enabled = true ∧
          s.connected = true ∧ s.isQueued = true then
        some { s with isQueued := false, portThread := .entering }
      else none
  | .srqPollBegins =>
      if s.portThread = .entering then
        some { s with
          pollRequestIsQueued := false
          portThread := .polling
          starts := s.starts + 1 }
      else none
  | .srqPollReturns =>
      if s.portThread = .polling ∧ s.caller portThreadId = .outside then
        some { s with portThread := .other }
      else none
  | .enable yesNo => if s.defunct then none else some { s with enabled := yesNo }
  | .setConnected connected => some { s with connected := connected }
  | .shutdownPort => some { s with enabled := false, defunct := true }

def start (enabled connected : Bool) : State where
  pollRequestIsQueued := false
  isQueued := false
  enabled := enabled
  connected := connected
  defunct := false
  portThread := .other
  caller := fun _ => .outside
  starts := 0

def machine : Machine State Action where
  init := fun s => ∃ enabled connected, s = start enabled connected
  step := step

/-- `queueRequest` finds the port enabled and connected. -/
def Accepted (s : State) : Action → Prop
  | .queueRequest _ => s.enabled = true ∧ s.connected = true
  | _ => True

instance (s : State) (a : Action) : Decidable (Accepted s a) := by
  cases a <;> unfold Accepted <;> infer_instance

/-- Outside `srqHappened` the flag means that the request is on the queue, or has been taken off for
the `srqPoll` that is about to begin. -/
def FlagSound (s : State) : Prop :=
  (∀ t, s.caller t = .outside) → s.pollRequestIsQueued = true →
    s.isQueued = true ∨ s.portThread = .entering

/-! ## Where the request is -/

inductive Task
  | caller (t : ThreadId)
  | queue
  | entry
  deriving DecidableEq, Repr

def Task.rank : Task → Nat
  | .caller _ => 2
  | .queue => 1
  | .entry => 0

/-- What has to end for the request to go on. -/
def Task.pending : Task → State → Prop
  | .caller t, s => s.caller t = .queueing
  | .queue, s => s.isQueued = true
  | .entry, s => s.portThread = .entering

/-- The flag, the queue and all threads, by the place of the request. -/
structure At (s : State) (place : Option Task) : Prop where
  flag : s.pollRequestIsQueued = place.isSome
  pending_iff : ∀ i : Task, i.pending s ↔ place = some i

/-- The request stays, is new, goes on, or has come to its poll. -/
inductive Follows : Option Task → Option Task → Prop
  | same (place : Option Task) : Follows place place
  | raised (i : Task) : Follows none (some i)
  | advances {i i' : Task} (hrank : i'.rank < i.rank) : Follows (some i) (some i')
  | ends (i : Task) : Follows (some i) none

variable {s s' : State} {place : Option Task} {a : Action} {t : ThreadId}

theorem At.queueing (hs : At s place) : s.caller t = .queueing ↔ place = some (.caller t) :=
  hs.pending_iff (.caller t)

theorem At.isQueued (hs : At s place) : s.isQueued = true ↔ place = some .queue :=
  hs.pending_iff .queue

theorem At.entering (hs : At s place) : s.portThread = .entering ↔ place = some .entry :=
  hs.pending_iff .entry

theorem At.not_pending (hs : At s place) (i : Task) (hne : place ≠ some i) : ¬ i.pending s :=
  fun hpending => hne ((hs.pending_iff i).mp hpending)

theorem at_start (enabled connected : Bool) : At (start enabled connected) none where
  flag := rfl
  pending_iff i := by
    cases i <;> simp [Task.pending, start]

/-- Steps that touch neither the flag nor the request. -/
theorem At.congr (hs : At s place) (hflag : s'.pollRequestIsQueued = s.pollRequestIsQueued)
    (hqueued : s'.isQueued = s.isQueued)
    (hport : s'.portThread = .entering ↔ s.portThread = .entering)
    (hcaller : s'.caller = s.caller) : At s' place where
  flag := hflag.trans hs.flag
  pending_iff i := by
    rw [← hs.pending_iff i]
    cases i with
    | caller t => simp only [Task.pending, hcaller]
    | queue => simp only [Task.pending, hqueued]
    | entry => exact hport

/-- An SRQ with the flag clear: the thread carries the request. -/
theorem At.raise (hs : At s none) :
    At { s with
      pollRequestIsQueued := true
      caller := Function.update s.caller t .queueing } (some (.caller t)) where
  flag := rfl
  pending_iff i := by
    cases i with
    | caller t' =>
        by_cases ht : t' = t
        · simp [Task.pending, ht]
        · have hnot : ¬ s.caller t' = .queueing := hs.not_pending (.caller t') nofun
          have hne : ¬ t = t' := fun h => ht h.symm
          simp [Task.pending, ht, hnot, hne]
    | queue =>
        have hnot : ¬ s.isQueued = true := hs.not_pending .queue nofun
        simpa [Task.pending] using hnot
    | entry =>
        have hnot : ¬ s.portThread = .entering := hs.not_pending .entry nofun
        simpa [Task.pending] using hnot

/-- Only the thread that carries the request is in `queueRequest`, and the request is not queued. -/
theorem At.queue (hs : At s (some (.caller t))) :
    At { s with isQueued := true, caller := Function.update s.caller t .outside }
      (some .queue) where
  flag := hs.flag
  pending_iff i := by
    cases i with
    | caller t' =>
        by_cases ht : t' = t
        · simp [Task.pending, ht]
        · have hnot : ¬ s.caller t' = .queueing := by
            intro h
            cases hs.queueing.mp h
            exact ht rfl
          simp [Task.pending, ht, hnot]
    | queue => simp [Task.pending]
    | entry =>
        have hnot : ¬ s.portThread = .entering := hs.not_pending .entry nofun
        simpa [Task.pending] using hnot

theorem At.take (hs : At s (some .queue)) :
    At { s with isQueued := false, portThread := .entering } (some .entry) where
  flag := hs.flag
  pending_iff i := by
    cases i with
    | caller t =>
        have hnot : ¬ s.caller t = .queueing := hs.not_pending (.caller t) nofun
        simpa [Task.pending] using hnot
    | queue => simp [Task.pending]
    | entry => simp [Task.pending]

theorem At.begin (hs : At s (some .entry)) (n : Nat) :
    At { s with pollRequestIsQueued := false, portThread := .polling, starts := n } none where
  flag := rfl
  pending_iff i := by
    cases i with
    | caller t =>
        have hnot : ¬ s.caller t = .queueing := hs.not_pending (.caller t) nofun
        simpa [Task.pending] using hnot
    | queue =>
        have hnot : ¬ s.isQueued = true := hs.not_pending .queue nofun
        simpa [Task.pending] using hnot
    | entry => simp [Task.pending]

theorem queueRequest_accepted (henabled : s.enabled = true) (hconnected : s.connected = true)
    (hnot : s.isQueued = false) : queueRequest s = ({ s with isQueued := true }, .asynSuccess) := by
  simp [queueRequest, henabled, hconnected, hnot]

/-- One accepted step. -/
theorem At.step (hs : At s place) (hok : Accepted s a) (hstep : SrqRequest.step s a = some s') :
    ∃ place', At s' place' ∧ Follows place place' := by
  cases a with
  | srqHappened t =>
      simp only [SrqRequest.step] at hstep
      split at hstep
      · split at hstep
        · cases hstep
          exact ⟨place, hs, .same place⟩
        · next hclear =>
            cases hstep
            have hnone : place = none := by
              rw [hs.flag, Option.isSome_iff_ne_none, not_not] at hclear
              exact hclear
            subst hnone
            exact ⟨_, hs.raise, .raised _⟩
      · cases hstep
  | queueRequest t =>
      simp only [SrqRequest.step] at hstep
      split at hstep
      · next hqueueing =>
          have hplace := hs.queueing.mp hqueueing
          subst hplace
          have hnot : s.isQueued = false := by
            cases hqueued : s.isQueued with
            | false => rfl
            | true => cases hs.isQueued.mp hqueued
          rw [queueRequest_accepted hok.1 hok.2 hnot] at hstep
          cases hstep
          have hrank : Task.queue.rank < (Task.caller t).rank := Nat.lt_succ_self 1
          exact ⟨_, hs.queue, .advances hrank⟩
      · cases hstep
  | portThreadTakes =>
      simp only [SrqRequest.step] at hstep
      split at hstep
      · next htakes =>
          have hplace := hs.isQueued.mp htakes.2.2.2.2
          subst hplace
          cases hstep
          exact ⟨_, hs.take, .advances (by decide)⟩
      · cases hstep
  | srqPollBegins =>
      simp only [SrqRequest.step] at hstep
      split at hstep
      · next hentering =>
          have hplace := hs.entering.mp hentering
          subst hplace
          cases hstep
          exact ⟨_, hs.begin _, .ends _⟩
      · cases hstep
  | srqPollReturns =>
      simp only [SrqRequest.step] at hstep
      split at hstep
      · next hpolling =>
          cases hstep
          refine ⟨place, hs.congr rfl rfl ?_ rfl, .same place⟩
          simp [hpolling.1]
      · cases hstep
  | enable yesNo =>
      simp only [SrqRequest.step] at hstep
      split at hstep
      · cases hstep
      · cases hstep
        exact ⟨place, hs.congr rfl rfl Iff.rfl rfl, .same place⟩
  | setConnected connected =>
      cases hstep
      exact ⟨place, hs.congr rfl rfl Iff.rfl rfl, .same place⟩
  | shutdownPort =>
      cases hstep
      exact ⟨place, hs.congr rfl rfl Iff.rfl rfl, .same place⟩

theorem at_of_reachable (hreach : machine.Reachable Accepted s) : ∃ place, At s place := by
  apply Machine.Reachable.invariant (I := fun s => ∃ place, At s place) _ _ hreach
  · rintro s ⟨enabled, connected, rfl⟩
    exact ⟨none, at_start enabled connected⟩
  · rintro s a s' hok ⟨place, hs⟩ hstep
    obtain ⟨place', hs', -⟩ := hs.step hok hstep
    exact ⟨place', hs'⟩

theorem At.flagSound (hs : At s place) : FlagSound s := by
  intro houtside hflag
  rw [hs.flag] at hflag
  obtain ⟨i, rfl⟩ := Option.isSome_iff_exists.mp hflag
  cases i with
  | caller t =>
      have hqueueing := hs.queueing.mpr rfl
      rw [houtside t] at hqueueing
      cases hqueueing
  | queue => exact .inl (hs.isQueued.mpr rfl)
  | entry => exact .inr (hs.entering.mpr rfl)

/-! ## Every SRQ is polled -/

/-- The request goes from a caller to the queue and to the port thread, and the flag is cleared. -/
theorem ranking : Ranking machine Accepted Task.pending (fun s => s.pollRequestIsQueued = true)
    fun s k i => At s (some i) ∧ k = i.rank where
  exists_rank := by
    intro s hreach hflag
    obtain ⟨place, hs⟩ := at_of_reachable hreach
    rw [hs.flag] at hflag
    obtain ⟨i, rfl⟩ := Option.isSome_iff_exists.mp hflag
    exact ⟨i.rank, i, hs, rfl⟩
  pending_of_ranks := by
    rintro s k i ⟨hs, -⟩
    exact (hs.pending_iff i).mpr rfl
  step := by
    rintro s a s' k i - hok ⟨hs, rfl⟩ hstep
    obtain ⟨place', hs', hfollows⟩ := hs.step hok hstep
    cases hfollows with
    | same => exact .inr (.inl ⟨hs', rfl⟩)
    | advances hrank => exact .inr (.inr ⟨_, hrank, _, hs', rfl⟩)
    | ends =>
        left
        intro hflag
        rw [hs'.flag] at hflag
        cases hflag

/-- Only the beginning of a poll clears the flag, and no step takes a beginning back. -/
theorem step_starts (hstep : step s a = some s') :
    s.starts ≤ s'.starts ∧
      (s.pollRequestIsQueued = true → s'.pollRequestIsQueued = true ∨ s.starts < s'.starts) := by
  cases a with
  | srqHappened t =>
      simp only [step] at hstep
      split at hstep
      · split at hstep <;> cases hstep
        · exact ⟨Nat.le_refl _, .inl⟩
        · exact ⟨Nat.le_refl _, fun _ => .inl rfl⟩
      · cases hstep
  | queueRequest t =>
      simp only [step] at hstep
      split at hstep
      · cases hstep
        unfold queueRequest
        split
        · exact ⟨Nat.le_refl _, .inl⟩
        · split
          · exact ⟨Nat.le_refl _, .inl⟩
          · split <;> exact ⟨Nat.le_refl _, .inl⟩
      · cases hstep
  | srqPollBegins =>
      simp only [step] at hstep
      split at hstep
      · cases hstep
        exact ⟨Nat.le_succ _, fun _ => .inr (Nat.lt_succ_self _)⟩
      · cases hstep
  | portThreadTakes | srqPollReturns | enable yesNo =>
      simp only [step] at hstep
      split at hstep <;> cases hstep
      exact ⟨Nat.le_refl _, .inl⟩
  | setConnected connected | shutdownPort =>
      cases hstep
      exact ⟨Nat.le_refl _, .inl⟩

/-- As long as no poll has begun the flag stays set. -/
theorem flag_or_started {trace : Nat → State} (htrace : machine.Trace Accepted trace) {n : Nat}
    (hflag : (trace n).pollRequestIsQueued = true) (d : Nat) :
    (trace n).starts ≤ (trace (n + d)).starts ∧
      ((trace (n + d)).pollRequestIsQueued = true ∨
        (trace n).starts < (trace (n + d)).starts) := by
  induction d with
  | zero => exact ⟨Nat.le_refl _, .inl hflag⟩
  | succ d ih =>
      rw [← Nat.add_assoc]
      rcases htrace.next (n + d) with hstutter | ⟨a, -, hstep⟩
      · rw [hstutter]
        exact ih
      · obtain ⟨hle, hcleared⟩ := step_starts hstep
        obtain ⟨hbefore, hset | hstarted⟩ := ih
        · refine ⟨Nat.le_trans hbefore hle, ?_⟩
          rcases hcleared hset with hset' | hstarted
          · exact .inl hset'
          · exact .inr (Nat.lt_of_le_of_lt hbefore hstarted)
        · exact ⟨Nat.le_trans hbefore hle, .inr (Nat.lt_of_lt_of_le hstarted hle)⟩

theorem srqHappened_flag (hstep : step s (.srqHappened t) = some s') :
    s'.pollRequestIsQueued = true ∧ s'.starts = s.starts := by
  simp only [step] at hstep
  split at hstep
  · split at hstep
    · next hset =>
        cases hstep
        exact ⟨hset, rfl⟩
    · cases hstep
      exact ⟨rfl, rfl⟩
  · cases hstep

/-- The flag is sound in every state of a run, and after every SRQ a poll begins, when callers come
out of `queueRequest` and the port thread takes what is queued and begins what it has taken. -/
theorem srqRequest_sound (trace : ℕ → State) (htrace : machine.Trace Accepted trace) :
    (∀ n, FlagSound (trace n)) ∧
      ((∀ i : Task, Served trace i.pending) →
        ∀ n t, machine.step (trace n) (.srqHappened t) = some (trace (n + 1)) →
          ∃ m, n < m ∧ (trace n).starts < (trace m).starts) := by
  constructor
  · intro n
    obtain ⟨place, hs⟩ := at_of_reachable (htrace.reachable n)
    exact hs.flagSound
  · intro hserved n t hsrq
    obtain ⟨hflag, hstarts⟩ := srqHappened_flag hsrq
    obtain ⟨m, hle, hcleared⟩ := ranking.eventually htrace hserved (n + 1)
    obtain ⟨d, rfl⟩ := Nat.exists_eq_add_of_le hle
    have hstarted := (flag_or_started htrace hflag d).2.resolve_left hcleared
    rw [hstarts] at hstarted
    exact ⟨n + 1 + d, by omega, hstarted⟩

/-! ## A request that is refused -/

/-- The flag is set and nothing will come to clear it. -/
structure Lost (s : State) : Prop where
  flag : s.pollRequestIsQueued = true
  isQueued : s.isQueued = false
  portThread : s.portThread ≠ .entering
  caller : ∀ t, s.caller t = .outside

/-- Whatever the port and the devices do, every later SRQ is ignored and no poll begins. -/
theorem Lost.step (hs : Lost s) (hstep : SrqRequest.step s a = some s') :
    Lost s' ∧ s'.starts = s.starts := by
  cases a with
  | srqHappened t =>
      simp only [SrqRequest.step, hs.flag, if_true] at hstep
      split at hstep <;> cases hstep
      exact ⟨hs, rfl⟩
  | queueRequest t => simp [SrqRequest.step, hs.caller t] at hstep
  | portThreadTakes => simp [SrqRequest.step, hs.isQueued] at hstep
  | srqPollBegins => simp [SrqRequest.step, hs.portThread] at hstep
  | srqPollReturns =>
      simp only [SrqRequest.step] at hstep
      split at hstep <;> cases hstep
      exact ⟨⟨hs.flag, hs.isQueued, nofun, hs.caller⟩, rfl⟩
  | enable yesNo =>
      simp only [SrqRequest.step] at hstep
      split at hstep <;> cases hstep
      exact ⟨⟨hs.flag, hs.isQueued, hs.portThread, hs.caller⟩, rfl⟩
  | setConnected connected | shutdownPort =>
      cases hstep
      exact ⟨⟨hs.flag, hs.isQueued, hs.portThread, hs.caller⟩, rfl⟩

theorem Lost.path (hs : Lost s) (hpath : machine.Path Machine.Unguarded s s') :
    Lost s' ∧ s'.starts = s.starts := by
  apply hpath.invariant (I := fun s' => Lost s' ∧ s'.starts = s.starts) _ ⟨hs, rfl⟩
  rintro s₁ a s₂ - ⟨hlost, hstarts⟩ hstep
  obtain ⟨hlost', hstarts'⟩ := hlost.step hstep
  exact ⟨hlost', hstarts'.trans hstarts⟩

/-! ## Runs -/

/-- Two SRQs, the second one while the first is being polled. -/
def pollRun : List Action :=
  [.srqHappened 1, .queueRequest 1, .portThreadTakes, .srqPollBegins, .srqHappened 2,
    .srqPollReturns, .queueRequest 2, .portThreadTakes, .srqPollBegins, .srqPollReturns]

/-- The state after the first `n` steps of the run. -/
def pollRunState (n : Nat) : State :=
  (machine.exec (start true true) (pollRun.take n)).getD (start true true)

theorem not_pending_pollRunEnd (i : Task) : ¬ i.pending (pollRunState 10) := by
  cases i with
  | caller t =>
      cases t with
      | zero => nofun
      | succ t =>
          cases t with
          | zero => nofun
          | succ t => cases t <;> nofun
  | queue => nofun
  | entry => nofun

/-- The second SRQ of the run is followed by a second poll. -/
theorem srqRequest_sound_example :
    ∃ trace, machine.Trace Accepted trace ∧
      ((trace 2).pollRequestIsQueued, (trace 2).isQueued) = (true, true) ∧ FlagSound (trace 2) ∧
      (trace 4).starts = 1 ∧ ∃ m, 4 < m ∧ (trace 4).starts < (trace m).starts := by
  have hcheck : ∀ s a, decide (Accepted s a) = true → Accepted s a := fun _ _ => of_decide_eq_true
  have hinit : machine.init (start true true) := ⟨true, true, rfl⟩
  have hguarded : machine.execGuarded (fun s a => decide (Accepted s a)) (start true true) pollRun =
      some (pollRunState 10) := rfl
  have hexec : machine.exec (start true true) pollRun = some (pollRunState 10) := rfl
  obtain ⟨trace, htrace, hrun⟩ :=
    Machine.exists_trace_of_execGuarded hcheck pollRun hinit hguarded
  have hsound := srqRequest_sound trace htrace
  have htwo : trace 2 = pollRunState 2 := (Option.some.inj (hrun 2)).symm
  have hfour : trace 4 = pollRunState 4 := (Option.some.inj (hrun 4)).symm
  have hfive : trace 5 = pollRunState 5 := (Option.some.inj (hrun 5)).symm
  refine ⟨trace, htrace, by rw [htwo]; rfl, hsound.1 2, by rw [hfour]; rfl, ?_⟩
  apply hsound.2 _ 4 2
  · rw [hfour, hfive]
    rfl
  · intro i
    exact Machine.served_of_exec hrun hexec (not_pending_pollRunEnd i)

/-- The port is disabled when the first SRQ comes, and enabled again before the second. -/
def refusedRun : List Action :=
  [.enable false, .srqHappened 1, .queueRequest 1, .enable true, .srqHappened 2]

def refusedRunEnd : State :=
  (machine.exec (start true true) refusedRun).getD (start true true)

theorem lost_refusedRunEnd : Lost refusedRunEnd where
  flag := rfl
  isQueued := rfl
  portThread := nofun
  caller t := by
    cases t with
    | zero => rfl
    | succ t => cases t <;> rfl

/-- The flag is set, the queue is empty and the port is enabled; the second SRQ was ignored, and so is
every later one. -/
theorem ignored_after_refused :
    machine.Reachable Machine.Unguarded refusedRunEnd ∧
      (refusedRunEnd.enabled, refusedRunEnd.connected, refusedRunEnd.starts) = (true, true, 0) ∧
      ¬ FlagSound refusedRunEnd ∧
      (∀ s, machine.Path Machine.Unguarded refusedRunEnd s → s.starts = 0) ∧
      ¬ ∀ s, machine.Reachable Machine.Unguarded s → FlagSound s := by
  have hexec : machine.exec (start true true) refusedRun = some refusedRunEnd := rfl
  have hreach : machine.Reachable Machine.Unguarded refusedRunEnd :=
    Machine.reachable_of_exec (M := machine) ⟨true, true, rfl⟩ hexec
  have hunsound : ¬ FlagSound refusedRunEnd := by
    intro hsound
    rcases hsound lost_refusedRunEnd.caller rfl with hqueued | hentering
    · cases hqueued
    · cases hentering
  refine ⟨hreach, rfl, hunsound, ?_, fun hall => hunsound (hall _ hreach)⟩
  intro s hpath
  exact (lost_refusedRunEnd.path hpath).2

end SrqRequest
end Gpib
end AsynDriver
