import Mathlib.Data.List.Basic
import Mathlib.Logic.Function.Basic
import Mathlib.Tactic.Common
import AsynDriver.Library.Machine
import AsynDriver.Manager.Types

/-!
# The flag that tells two kinds of processing apart

A record with `SCAN` set to `I/O Intr`, on a port that can block.  Threads of the driver call
`callbackInterruptInt32`, or one of its siblings, which stores a value, sets `gotValue` and requests a
processing; anybody else requests processings too.

* `State`, `step` — the callbacks test `gotValue` before they take `interruptLock`; `process` reads and
  clears it without that lock, one access in a step.
* `Sound` — each processing does what its requester asked for, and no value is lost between.
* `Admissible` — a callback stores its value while the record is idle, and nobody else processes the record
  between that and the end of the processing which it requests.
* `processings_sound` — in every run of admissible steps; `flag_confused` has runs of others.

The port accepts the requests and calls them back, and `UCMD` and `ACMD` are not set.  `interruptAccept`
is, and a processing of an active record does nothing.
-/

namespace AsynDriver
namespace AsynRecord
namespace GotValue

open Library
open Manager (ThreadId)

variable {α : Type*}

/-! ## The model -/

inductive Tmod
  | writeRead
  | write
  | read
  | flush
  | noIo
  deriving DecidableEq, Repr

/-- The I/O writes the input field, as the callbacks do. -/
def Tmod.reads : Tmod → Bool
  | .writeRead => true
  | .read => true
  | _ => false

/-- An I/O in the thread of the port, with what it read. -/
structure Io (α : Type*) where
  tmod : Tmod
  result : α
  deriving DecidableEq, Repr

/-- Who requested a processing; callbacks are numbered as they store their values. -/
inductive Requester
  | callback (n : Nat)
  | other
  deriving DecidableEq, Repr

/-- A driver thread behind the test of `gotValue`, and behind `interruptLock`. -/
inductive Callback (α : Type*)
  | idle
  | tested (value : α)
  | stored (n : Nat)
  deriving DecidableEq, Repr

/-- Where `process` is, and the value that `monitor` posted. -/
inductive Stage (α : Type*)
  | queueing
  | activating
  | posting
  | releasing (posted : α)
  | clearing (posted : α)
  deriving DecidableEq, Repr

inductive Request
  | idle
  | queued
  | completed
  deriving DecidableEq, Repr

/-- A processing that is over. -/
structure Finished (α : Type*) where
  requester : Requester
  ios : List (Io α)
  posted : α
  deriving DecidableEq, Repr

/-- `inp` is the input field; `requester` and `ios` are those of the processing in progress.  `accepted`
are the values stored by callbacks, `requests` the callbacks whose `scanIoRequest` waits for its processing,
and `dropped` those whose processing found the record active. -/
structure State (α : Type*) where
  TMOD : Tmod
  gotValue : Bool
  inp : α
  pact : Bool
  thread : ThreadId → Callback α
  accepted : List α
  requests : List Nat
  requester : Requester
  stage : Option (Stage α)
  request : Request
  ios : List (Io α)
  log : List (Finished α)
  dropped : List Nat

def State.start (tmod : Tmod) (inp : α) : State α :=
  ⟨tmod, false, inp, false, fun _ => .idle, [], [], .other, none, .idle, [], [], []⟩

inductive Action (α : Type*)
  | test (t : ThreadId) (value : α)
  | store (t : ThreadId)
  | scanIoRequest (t : ThreadId)
  | putTMOD (tmod : Tmod)
  | dbProcess (requester : Requester)
  | process
  | performIo (result : α)
  | complete

/-- A processing takes its request from the queue of `scanIoRequest`. -/
def State.take (s : State α) : Requester → Option (State α)
  | .callback n => if n ∈ s.requests then some { s with requests := s.requests.erase n } else none
  | .other => some s

/-- `dbProcess` of a record that is active does nothing; else `process` tests `gotValue`. -/
def State.dbProcess (s : State α) (requester : Requester) : State α :=
  if s.pact then
    match requester with
    | .callback n => { s with dropped := s.dropped ++ [n] }
    | .other => s
  else
    { s with
      requester := requester, ios := []
      stage := some (if s.gotValue then .posting else .queueing) }

/-- The next access of `process`, with the record locked. -/
def State.process (s : State α) : Option (State α) :=
  match s.stage with
  | none => none
  | some .queueing => some { s with request := .queued, stage := some .activating }
  | some .activating => some { s with pact := true, stage := none }
  | some .posting => some { s with stage := some (.releasing s.inp) }
  | some (.releasing posted) => some { s with pact := false, stage := some (.clearing posted) }
  | some (.clearing posted) =>
      some { s with
        gotValue := false, stage := none, log := s.log ++ [⟨s.requester, s.ios, posted⟩] }

def step (s : State α) : Action α → Option (State α)
  | .test t value =>
      match s.thread t with
      | .idle =>
          if s.gotValue then some s
          else some { s with thread := Function.update s.thread t (.tested value) }
      | _ => none
  | .store t =>
      match s.thread t with
      | .tested value =>
          some { s with
            gotValue := true, inp := value, accepted := s.accepted ++ [value]
            thread := Function.update s.thread t (.stored s.accepted.length) }
      | _ => none
  | .scanIoRequest t =>
      match s.thread t with
      | .stored n =>
          some { s with
            requests := s.requests ++ [n], thread := Function.update s.thread t .idle }
      | _ => none
  | .putTMOD tmod => if s.stage.isNone then some { s with TMOD := tmod } else none
  | .dbProcess requester =>
      if s.stage.isNone then (s.take requester).map fun s => s.dbProcess requester else none
  | .process => s.process
  | .performIo result =>
      if s.request = .queued then
        some { s with
          inp := if s.TMOD.reads then result else s.inp, ios := s.ios ++ [⟨s.TMOD, result⟩]
          request := .completed }
      else none
  | .complete =>
      if s.request = .completed ∧ s.stage.isNone ∧ s.pact then
        some { s with request := .idle, stage := some .posting }
      else none

def machine (tmod : Tmod) (inp : α) : Machine (State α) (Action α) := ⟨(· = .start tmod inp), step⟩

/-! ## The property -/

/-- A processing requested by a callback did no I/O and posted the value of the callback; one requested by
anybody else did one I/O and posted what it read. -/
def Finished.Good (accepted : List α) (f : Finished α) : Prop :=
  match f.requester with
  | .callback n => f.ios = [] ∧ accepted[n]? = some f.posted
  | .other => ∃ i, f.ios = [i] ∧ (i.tmod.reads = true → f.posted = i.result)

/-- The callback has stored its value, and its processing has not yet posted it. -/
def State.Waits (s : State α) (n : Nat) : Prop :=
  (∃ t, s.thread t = .stored n) ∨ n ∈ s.requests ∨
    s.requester = .callback n ∧ s.stage = some .posting

/-- The value of a callback stays until it is posted, while no I/O is in progress, and so does the result
of an I/O. -/
structure Sound (s : State α) : Prop where
  log : ∀ f ∈ s.log, f.Good s.accepted
  dropped : s.dropped = []
  value : ∀ n, s.Waits n → s.accepted[n]? = some s.inp ∧ s.request = .idle
  result : s.request = .completed ∨ s.stage = some .posting →
    ∀ i ∈ s.ios, i.tmod.reads = true → s.inp = i.result

def Admissible (s : State α) : Action α → Prop
  | .store _ => s.gotValue = false ∧ s.pact = false ∧ s.stage = none
  | .dbProcess .other => s.pact = false → s.gotValue = false
  | _ => True

/-! ## The invariant -/

variable {s s' : State α}

/-- No callback has stored a value without its processing. -/
def Quiet (s : State α) : Prop := (∀ t n, s.thread t ≠ .stored n) ∧ s.requests = []

/-- One callback has stored its value, and is on its way to `scanIoRequest` or has passed it. -/
def Stored (s : State α) (n : Nat) : Prop :=
  (∃ t, s.thread t = .stored n ∧ (∀ t' m, s.thread t' = .stored m → t' = t) ∧ s.requests = []) ∨
    (∀ t m, s.thread t ≠ .stored m) ∧ s.requests = [n]

/-- What the record does, and for whom. -/
inductive Phase (s : State α) : Prop
  | idle (hstage : s.stage = none) (hpact : s.pact = false) (hgot : s.gotValue = false)
      (hrequest : s.request = .idle) (hquiet : Quiet s)
  | stored (n : Nat) (hstage : s.stage = none) (hpact : s.pact = false) (hgot : s.gotValue = true)
      (hrequest : s.request = .idle) (hstored : Stored s n) (hvalue : s.accepted[n]? = some s.inp)
  | taking (n : Nat) (hrequester : s.requester = .callback n) (hios : s.ios = [])
      (hgot : s.gotValue = true) (hpact : s.pact = false) (hrequest : s.request = .idle)
      (hquiet : Quiet s)
      (hstage : s.stage = some .posting ∧ s.accepted[n]? = some s.inp ∨
        ∃ v, (s.stage = some (.releasing v) ∨ s.stage = some (.clearing v)) ∧ s.accepted[n]? = some v)
  | queueing (hstage : s.stage = some .queueing) (hrequester : s.requester = .other)
      (hios : s.ios = []) (hpact : s.pact = false) (hgot : s.gotValue = false)
      (hrequest : s.request = .idle) (hquiet : Quiet s)
  | io (hstage : s.stage = some .activating ∧ s.pact = false ∨ s.stage = none ∧ s.pact = true)
      (hrequester : s.requester = .other) (hgot : s.gotValue = false) (hquiet : Quiet s)
      (hio : s.request = .queued ∧ s.ios = [] ∨
        s.request = .completed ∧ ∃ i, s.ios = [i] ∧ (i.tmod.reads = true → s.inp = i.result))
  | finishing (i : Io α) (hrequester : s.requester = .other) (hios : s.ios = [i])
      (hgot : s.gotValue = false) (hrequest : s.request = .idle) (hquiet : Quiet s)
      (hstage : s.stage = some .posting ∧ s.pact = true ∧ (i.tmod.reads = true → s.inp = i.result) ∨
        ∃ v, (s.stage = some (.releasing v) ∧ s.pact = true ∨
          s.stage = some (.clearing v) ∧ s.pact = false) ∧ (i.tmod.reads = true → v = i.result))

structure Inv (s : State α) : Prop where
  log : ∀ f ∈ s.log, f.Good s.accepted
  dropped : s.dropped = []
  phase : Phase s

theorem Quiet.not_waits (hquiet : Quiet s) {n : Nat} (hwaits : s.Waits n) :
    s.requester = .callback n ∧ s.stage = some .posting := by
  rcases hwaits with ⟨t, ht⟩ | hrequests | hposting
  · exact absurd ht (hquiet.1 t n)
  · rw [hquiet.2] at hrequests
    exact nomatch hrequests
  · exact hposting

theorem Stored.eq {m n : Nat} (hstored : Stored s n)
    (hm : (∃ t, s.thread t = .stored m) ∨ m ∈ s.requests) : m = n := by
  rcases hstored with ⟨t, ht, hone, hrequests⟩ | ⟨hnone, hrequests⟩
  · rcases hm with ⟨t', ht'⟩ | hm
    · cases hone t' m ht'
      cases ht.symm.trans ht'
      rfl
    · rw [hrequests] at hm
      exact nomatch hm
  · rcases hm with ⟨t', ht'⟩ | hm
    · exact absurd ht' (hnone t' m)
    · rw [hrequests] at hm
      exact List.mem_singleton.mp hm

theorem Inv.sound (hinv : Inv s) : Sound s where
  log := hinv.log
  dropped := hinv.dropped
  value := by
    intro n hwaits
    cases hinv.phase with
    | idle hstage _ _ _ hquiet => exact nomatch hstage.symm.trans (hquiet.not_waits hwaits).2
    | stored m hstage _ _ hrequest hstored hvalue =>
        have hm : n = m := by
          rcases hwaits with ht | hn | ⟨-, hposting⟩
          · exact hstored.eq (.inl ht)
          · exact hstored.eq (.inr hn)
          · exact nomatch hstage.symm.trans hposting
        subst hm
        exact ⟨hvalue, hrequest⟩
    | taking m hrequester _ _ _ hrequest hquiet hstage =>
        obtain ⟨hrequester', hposting⟩ := hquiet.not_waits hwaits
        cases hrequester.symm.trans hrequester'
        rcases hstage with ⟨-, hvalue⟩ | ⟨v, hstage | hstage, -⟩
        · exact ⟨hvalue, hrequest⟩
        · exact nomatch hstage.symm.trans hposting
        · exact nomatch hstage.symm.trans hposting
    | queueing _ hrequester _ _ _ _ hquiet =>
        exact nomatch hrequester.symm.trans (hquiet.not_waits hwaits).1
    | io _ hrequester _ hquiet _ => exact nomatch hrequester.symm.trans (hquiet.not_waits hwaits).1
    | finishing i hrequester _ _ _ hquiet _ =>
        exact nomatch hrequester.symm.trans (hquiet.not_waits hwaits).1
  result := by
    intro hwhen i hi hreads
    cases hinv.phase with
    | idle hstage _ _ hrequest _ =>
        rcases hwhen with hcompleted | hposting
        · exact nomatch hrequest.symm.trans hcompleted
        · exact nomatch hstage.symm.trans hposting
    | stored m hstage _ _ hrequest _ _ =>
        rcases hwhen with hcompleted | hposting
        · exact nomatch hrequest.symm.trans hcompleted
        · exact nomatch hstage.symm.trans hposting
    | taking m _ hios _ _ _ _ _ =>
        rw [hios] at hi
        exact nomatch hi
    | queueing _ _ hios _ _ _ _ =>
        rw [hios] at hi
        exact nomatch hi
    | io _ _ _ _ hio =>
        rcases hio with ⟨-, hios⟩ | ⟨-, i', hios, hresult⟩
        · rw [hios] at hi
          exact nomatch hi
        · rw [hios] at hi
          cases List.mem_singleton.mp hi
          exact hresult hreads
    | finishing i' _ hios _ hrequest _ hstage =>
        rw [hios] at hi
        cases List.mem_singleton.mp hi
        rcases hstage with ⟨-, -, hresult⟩ | ⟨v, ⟨hreleasing, -⟩ | ⟨hclearing, -⟩, -⟩
        · exact hresult hreads
        · rcases hwhen with hcompleted | hposting
          · exact nomatch hrequest.symm.trans hcompleted
          · exact nomatch hreleasing.symm.trans hposting
        · rcases hwhen with hcompleted | hposting
          · exact nomatch hrequest.symm.trans hcompleted
          · exact nomatch hclearing.symm.trans hposting

theorem inv_start (tmod : Tmod) (inp : α) : Inv (State.start tmod inp) :=
  ⟨nofun, rfl, .idle rfl rfl rfl rfl ⟨fun _ _ => nofun, rfl⟩⟩

/-! ## The steps of the callbacks -/

/-- A thread that passes the test has not stored anything before or after. -/
theorem Quiet.test (hquiet : Quiet s) (t : ThreadId) (value : α) :
    Quiet { s with thread := Function.update s.thread t (.tested value) } := by
  refine ⟨fun t' n ht' => ?_, hquiet.2⟩
  simp only [Function.update_apply] at ht'
  split at ht'
  · exact nomatch ht'
  · exact hquiet.1 t' n ht'

theorem Stored.test {n : Nat} (hstored : Stored s n) {t : ThreadId} (hidle : s.thread t = .idle)
    (value : α) : Stored { s with thread := Function.update s.thread t (.tested value) } n := by
  have hback : ∀ t' m, Function.update s.thread t (.tested value) t' = .stored m →
      s.thread t' = .stored m := by
    intro t' m ht'
    rw [Function.update_apply] at ht'
    split at ht'
    · exact nomatch ht'
    · exact ht'
  rcases hstored with ⟨t₀, ht₀, hone, hrequests⟩ | ⟨hnone, hrequests⟩
  · have hne : t₀ ≠ t := by
      rintro rfl
      exact nomatch hidle.symm.trans ht₀
    exact .inl ⟨t₀, (Function.update_of_ne hne _ _).trans ht₀,
      fun t' m ht' => hone t' m (hback t' m ht'), hrequests⟩
  · exact .inr ⟨fun t' m ht' => hnone t' m (hback t' m ht'), hrequests⟩

theorem Phase.test (hphase : Phase s) {t : ThreadId} (hidle : s.thread t = .idle) (value : α) :
    Phase { s with thread := Function.update s.thread t (.tested value) } := by
  cases hphase with
  | idle hstage hpact hgot hrequest hquiet =>
      exact .idle hstage hpact hgot hrequest (hquiet.test t value)
  | stored n hstage hpact hgot hrequest hstored hvalue =>
      exact .stored n hstage hpact hgot hrequest (hstored.test hidle value) hvalue
  | taking n hrequester hios hgot hpact hrequest hquiet hstage =>
      exact .taking n hrequester hios hgot hpact hrequest (hquiet.test t value) hstage
  | queueing hstage hrequester hios hpact hgot hrequest hquiet =>
      exact .queueing hstage hrequester hios hpact hgot hrequest (hquiet.test t value)
  | io hstage hrequester hgot hquiet hio =>
      exact .io hstage hrequester hgot (hquiet.test t value) hio
  | finishing i hrequester hios hgot hrequest hquiet hstage =>
      exact .finishing i hrequester hios hgot hrequest (hquiet.test t value) hstage

/-- Between two parts of processing the record is idle, waits for the processing of a callback, or has an
I/O in progress. -/
theorem Phase.between (hphase : Phase s) (hstage : s.stage = none) :
    s.pact = false ∧ s.gotValue = false ∧ s.request = .idle ∧ Quiet s ∨
    (s.pact = false ∧ s.gotValue = true ∧ s.request = .idle ∧
      ∃ n, Stored s n ∧ s.accepted[n]? = some s.inp) ∨
    s.pact = true ∧ s.requester = .other ∧ s.gotValue = false ∧ Quiet s ∧
      (s.request = .queued ∧ s.ios = [] ∨
        s.request = .completed ∧ ∃ i, s.ios = [i] ∧ (i.tmod.reads = true → s.inp = i.result)) := by
  cases hphase with
  | idle _ hpact hgot hrequest hquiet => exact .inl ⟨hpact, hgot, hrequest, hquiet⟩
  | stored n _ hpact hgot hrequest hstored hvalue =>
      exact .inr (.inl ⟨hpact, hgot, hrequest, n, hstored, hvalue⟩)
  | taking n _ _ _ _ _ _ hstage' =>
      rcases hstage' with ⟨hstage', -⟩ | ⟨v, hstage' | hstage', -⟩
      · exact nomatch hstage.symm.trans hstage'
      · exact nomatch hstage.symm.trans hstage'
      · exact nomatch hstage.symm.trans hstage'
  | queueing hstage' _ _ _ _ _ _ => exact nomatch hstage.symm.trans hstage'
  | io hstage' hrequester hgot hquiet hio =>
      rcases hstage' with ⟨hstage', -⟩ | ⟨-, hpact⟩
      · exact nomatch hstage.symm.trans hstage'
      · exact .inr (.inr ⟨hpact, hrequester, hgot, hquiet, hio⟩)
  | finishing i _ _ _ _ _ hstage' =>
      rcases hstage' with ⟨hstage', -⟩ | ⟨v, ⟨hstage', -⟩ | ⟨hstage', -⟩, -⟩
      · exact nomatch hstage.symm.trans hstage'
      · exact nomatch hstage.symm.trans hstage'
      · exact nomatch hstage.symm.trans hstage'

theorem Finished.Good.mono {accepted : List α} {f : Finished α} (hgood : f.Good accepted) (value : α) :
    f.Good (accepted ++ [value]) := by
  unfold Finished.Good at *
  split
  · next n hrequester =>
    simp only [hrequester] at hgood
    refine ⟨hgood.1, ?_⟩
    obtain ⟨hlt, -⟩ := List.getElem?_eq_some_iff.mp hgood.2
    rw [List.getElem?_append_left hlt]
    exact hgood.2
  · next hrequester =>
    simp only [hrequester] at hgood
    exact hgood

theorem Inv.store (hinv : Inv s) {t : ThreadId}
    (hok : s.gotValue = false ∧ s.pact = false ∧ s.stage = none) (value : α) :
    Inv { s with
      gotValue := true, inp := value, accepted := s.accepted ++ [value]
      thread := Function.update s.thread t (.stored s.accepted.length) } := by
  obtain ⟨hgot, hpact, hstage⟩ := hok
  have hidle : s.request = .idle ∧ Quiet s := by
    rcases hinv.phase.between hstage with ⟨-, -, hidle⟩ | ⟨-, hgot', -⟩ | ⟨hpact', -⟩
    · exact hidle
    · exact nomatch hgot.symm.trans hgot'
    · exact nomatch hpact.symm.trans hpact'
  obtain ⟨hrequest, hquiet⟩ := hidle
  refine ⟨fun f hf => (hinv.log f hf).mono value, hinv.dropped, ?_⟩
  refine .stored s.accepted.length hstage hpact rfl hrequest (.inl ⟨t, Function.update_self _ _ _, ?_, hquiet.2⟩)
    List.getElem?_concat_length
  intro t' m ht'
  by_contra hne
  exact hquiet.1 t' m ((Function.update_of_ne hne _ _).symm.trans ht')

theorem Phase.scanIoRequest (hphase : Phase s) {t : ThreadId} {n : Nat} (ht : s.thread t = .stored n) :
    Phase { s with requests := s.requests ++ [n], thread := Function.update s.thread t .idle } := by
  cases hphase with
  | idle _ _ _ _ hquiet => exact absurd ht (hquiet.1 t n)
  | stored m hstage hpact hgot hrequest hstored hvalue =>
      cases hstored.eq (.inl ⟨t, ht⟩)
      refine .stored n hstage hpact hgot hrequest (.inr ⟨?_, ?_⟩) hvalue
      · intro t' m ht'
        simp only [Function.update_apply] at ht'
        split at ht'
        case isTrue => exact nomatch ht'
        case isFalse hne =>
          rcases hstored with ⟨t₀, -, hone, -⟩ | ⟨hnone, -⟩
          · exact hne ((hone t' m ht').trans (hone t n ht).symm)
          · exact hnone t' m ht'
      · rcases hstored with ⟨t₀, -, -, hrequests⟩ | ⟨hnone, -⟩
        · show s.requests ++ [n] = [n]
          rw [hrequests]
          rfl
        · exact absurd ht (hnone t n)
  | taking m _ _ _ _ _ hquiet _ => exact absurd ht (hquiet.1 t n)
  | queueing _ _ _ _ _ _ hquiet => exact absurd ht (hquiet.1 t n)
  | io _ _ _ hquiet _ => exact absurd ht (hquiet.1 t n)
  | finishing i _ _ _ _ hquiet _ => exact absurd ht (hquiet.1 t n)

/-! ## The steps of processing -/

theorem Phase.putTMOD (hphase : Phase s) (tmod : Tmod) : Phase { s with TMOD := tmod } := by
  cases hphase with
  | idle hstage hpact hgot hrequest hquiet => exact .idle hstage hpact hgot hrequest hquiet
  | stored n hstage hpact hgot hrequest hstored hvalue =>
      exact .stored n hstage hpact hgot hrequest hstored hvalue
  | taking n hrequester hios hgot hpact hrequest hquiet hstage =>
      exact .taking n hrequester hios hgot hpact hrequest hquiet hstage
  | queueing hstage hrequester hios hpact hgot hrequest hquiet =>
      exact .queueing hstage hrequester hios hpact hgot hrequest hquiet
  | io hstage hrequester hgot hquiet hio => exact .io hstage hrequester hgot hquiet hio
  | finishing i hrequester hios hgot hrequest hquiet hstage =>
      exact .finishing i hrequester hios hgot hrequest hquiet hstage

/-- The processing that a callback requested finds the record as the callback left it. -/
theorem Inv.dbProcess_callback (hinv : Inv s) (hstage : s.stage = none) {n : Nat}
    (hn : n ∈ s.requests) :
    Inv ({ s with requests := s.requests.erase n }.dbProcess (.callback n)) := by
  rcases hinv.phase.between hstage with ⟨-, -, -, hquiet⟩ | ⟨hpact, hgot, hrequest, m, hstored, hvalue⟩ |
    ⟨-, -, -, hquiet, -⟩
  · rw [hquiet.2] at hn
    exact nomatch hn
  · cases hstored.eq (.inr hn)
    have hrequested : (∀ t m, s.thread t ≠ .stored m) ∧ s.requests = [n] := by
      rcases hstored with ⟨-, -, -, hrequests⟩ | hrequested
      · rw [hrequests] at hn
        exact nomatch hn
      · exact hrequested
    have hquiet : Quiet { s with requests := s.requests.erase n } := by
      refine ⟨hrequested.1, ?_⟩
      show s.requests.erase n = []
      rw [hrequested.2, List.erase_cons_head]
    unfold State.dbProcess
    simp only [hpact, hgot, Bool.false_eq_true, if_false, if_true]
    refine ⟨hinv.log, hinv.dropped, ?_⟩
    exact .taking n rfl rfl rfl rfl hrequest hquiet (.inl ⟨rfl, hvalue⟩)
  · rw [hquiet.2] at hn
    exact nomatch hn

theorem Inv.dbProcess_other (hinv : Inv s) (hstage : s.stage = none)
    (hok : s.pact = false → s.gotValue = false) : Inv (s.dbProcess .other) := by
  unfold State.dbProcess
  rcases hinv.phase.between hstage with ⟨hpact, hgot, hrequest, hquiet⟩ | ⟨hpact, hgot, -⟩ | ⟨hpact, -⟩
  · simp only [hpact, hgot, Bool.false_eq_true, if_false]
    exact ⟨hinv.log, hinv.dropped, .queueing rfl rfl rfl rfl rfl hrequest hquiet⟩
  · exact nomatch hgot.symm.trans (hok hpact)
  · rw [if_pos hpact]
    exact hinv

/-- The processing is over, and the flag is clear. -/
theorem Inv.clear (hinv : Inv s) {posted : α} (hgood : Finished.Good s.accepted ⟨s.requester, s.ios, posted⟩)
    (hpact : s.pact = false) (hrequest : s.request = .idle) (hquiet : Quiet s) :
    Inv { s with
      gotValue := false, stage := none, log := s.log ++ [⟨s.requester, s.ios, posted⟩] } := by
  refine ⟨?_, hinv.dropped, .idle rfl hpact rfl hrequest hquiet⟩
  intro f hf
  rcases List.mem_append.mp hf with hold | hnew
  · exact hinv.log f hold
  · cases List.mem_singleton.mp hnew
    exact hgood

theorem Inv.process (hinv : Inv s) (hstep : s.process = some s') : Inv s' := by
  unfold State.process at hstep
  cases hinv.phase with
  | idle hstage _ _ _ _ =>
      rw [hstage] at hstep
      exact nomatch hstep
  | stored n hstage _ _ _ _ _ =>
      rw [hstage] at hstep
      exact nomatch hstep
  | queueing hstage hrequester hios hpact hgot hrequest hquiet =>
      rw [hstage] at hstep
      cases hstep
      exact ⟨hinv.log, hinv.dropped,
        .io (.inl ⟨rfl, hpact⟩) hrequester hgot hquiet (.inl ⟨rfl, hios⟩)⟩
  | io hstage hrequester hgot hquiet hio =>
      rcases hstage with ⟨hstage, -⟩ | ⟨hstage, -⟩
      · rw [hstage] at hstep
        cases hstep
        exact ⟨hinv.log, hinv.dropped, .io (.inr ⟨rfl, rfl⟩) hrequester hgot hquiet hio⟩
      · rw [hstage] at hstep
        exact nomatch hstep
  | taking n hrequester hios hgot hpact hrequest hquiet hstage =>
      rcases hstage with ⟨hstage, hvalue⟩ | ⟨v, hstage | hstage, hvalue⟩
      · rw [hstage] at hstep
        cases hstep
        exact ⟨hinv.log, hinv.dropped,
          .taking n hrequester hios hgot hpact hrequest hquiet (.inr ⟨s.inp, .inl rfl, hvalue⟩)⟩
      · rw [hstage] at hstep
        cases hstep
        exact ⟨hinv.log, hinv.dropped,
          .taking n hrequester hios hgot rfl hrequest hquiet (.inr ⟨v, .inr rfl, hvalue⟩)⟩
      · rw [hstage] at hstep
        cases hstep
        refine hinv.clear ?_ hpact hrequest hquiet
        rw [hrequester, hios]
        exact ⟨rfl, hvalue⟩
  | finishing i hrequester hios hgot hrequest hquiet hstage =>
      rcases hstage with ⟨hstage, hpact, hresult⟩ | ⟨v, ⟨hstage, hpact⟩ | ⟨hstage, hpact⟩, hresult⟩
      · rw [hstage] at hstep
        cases hstep
        exact ⟨hinv.log, hinv.dropped, .finishing i hrequester hios hgot hrequest hquiet
          (.inr ⟨s.inp, .inl ⟨rfl, hpact⟩, hresult⟩)⟩
      · rw [hstage] at hstep
        cases hstep
        exact ⟨hinv.log, hinv.dropped, .finishing i hrequester hios hgot hrequest hquiet
          (.inr ⟨v, .inr ⟨rfl, rfl⟩, hresult⟩)⟩
      · rw [hstage] at hstep
        cases hstep
        refine hinv.clear ?_ hpact hrequest hquiet
        rw [hrequester, hios]
        exact ⟨i, rfl, hresult⟩

/-- The thread of the port does the one I/O of the request. -/
theorem Inv.performIo (hinv : Inv s) (hqueued : s.request = .queued) (result : α) :
    Inv { s with
      inp := if s.TMOD.reads then result else s.inp, ios := s.ios ++ [⟨s.TMOD, result⟩]
      request := .completed } := by
  refine ⟨hinv.log, hinv.dropped, ?_⟩
  cases hinv.phase with
  | idle _ _ _ hrequest _ => exact nomatch hqueued.symm.trans hrequest
  | stored n _ _ _ hrequest _ _ => exact nomatch hqueued.symm.trans hrequest
  | taking n _ _ _ _ hrequest _ _ => exact nomatch hqueued.symm.trans hrequest
  | queueing _ _ _ _ _ hrequest _ => exact nomatch hqueued.symm.trans hrequest
  | finishing i _ _ _ hrequest _ _ => exact nomatch hqueued.symm.trans hrequest
  | io hstage hrequester hgot hquiet hio =>
      rcases hio with ⟨-, hios⟩ | ⟨hcompleted, -⟩
      · refine .io hstage hrequester hgot hquiet (.inr ⟨rfl, ⟨s.TMOD, result⟩, ?_, ?_⟩)
        · show s.ios ++ _ = _
          rw [hios]
          rfl
        · exact fun hreads => if_pos hreads
      · exact nomatch hqueued.symm.trans hcompleted

theorem Inv.complete (hinv : Inv s) (hcompleted : s.request = .completed) (hstage : s.stage = none) :
    Inv { s with request := .idle, stage := some .posting } := by
  refine ⟨hinv.log, hinv.dropped, ?_⟩
  rcases hinv.phase.between hstage with ⟨-, -, hrequest, -⟩ | ⟨-, -, hrequest, -⟩ |
    ⟨hpact, hrequester, hgot, hquiet, ⟨hqueued, -⟩ | ⟨-, i, hios, hresult⟩⟩
  · exact nomatch hcompleted.symm.trans hrequest
  · exact nomatch hcompleted.symm.trans hrequest
  · exact nomatch hcompleted.symm.trans hqueued
  · exact .finishing i hrequester hios hgot rfl hquiet (.inl ⟨rfl, hpact, hresult⟩)

/-! ## The results -/

theorem Inv.step (hinv : Inv s) {a : Action α} (hok : Admissible s a) (hstep : step s a = some s') :
    Inv s' := by
  cases a with
  | test t value =>
      simp only [GotValue.step] at hstep
      split at hstep
      case h_1 hidle =>
        split at hstep
        · cases hstep
          exact hinv
        · cases hstep
          exact ⟨hinv.log, hinv.dropped, hinv.phase.test hidle value⟩
      case h_2 => exact nomatch hstep
  | store t =>
      simp only [GotValue.step] at hstep
      split at hstep
      case h_1 value _ =>
        cases hstep
        exact hinv.store hok value
      case h_2 => exact nomatch hstep
  | scanIoRequest t =>
      simp only [GotValue.step] at hstep
      split at hstep
      case h_1 n ht =>
        cases hstep
        exact ⟨hinv.log, hinv.dropped, hinv.phase.scanIoRequest ht⟩
      case h_2 => exact nomatch hstep
  | putTMOD tmod =>
      simp only [GotValue.step] at hstep
      split at hstep
      · cases hstep
        exact ⟨hinv.log, hinv.dropped, hinv.phase.putTMOD tmod⟩
      · exact nomatch hstep
  | dbProcess requester =>
      simp only [GotValue.step] at hstep
      split at hstep
      case isFalse => exact nomatch hstep
      case isTrue hnone =>
        have hstage : s.stage = none := Option.isNone_iff_eq_none.mp hnone
        obtain ⟨t, htake, rfl⟩ := Option.map_eq_some_iff.mp hstep
        cases requester with
        | callback n =>
            unfold State.take at htake
            simp only at htake
            split at htake
            case isTrue hn =>
              cases htake
              exact hinv.dbProcess_callback hstage hn
            case isFalse => exact nomatch htake
        | other =>
            cases htake
            exact hinv.dbProcess_other hstage hok
  | process => exact hinv.process hstep
  | performIo result =>
      simp only [GotValue.step] at hstep
      split at hstep
      case isTrue hqueued =>
        cases hstep
        exact hinv.performIo hqueued result
      case isFalse => exact nomatch hstep
  | complete =>
      simp only [GotValue.step] at hstep
      split at hstep
      case isTrue hwhen =>
        cases hstep
        exact hinv.complete hwhen.1 (Option.isNone_iff_eq_none.mp hwhen.2.1)
      case isFalse => exact nomatch hstep

/-- In every run of admissible steps each processing does what its requester asked for. -/
theorem processings_sound (tmod : Tmod) (inp : α) (s : State α)
    (hreach : (machine tmod inp).Reachable Admissible s) : Sound s := by
  have hinv : Inv s := by
    refine hreach.invariant (I := Inv) ?_ ?_
    · rintro s rfl
      exact inv_start tmod inp
    · intro s a s' hok hinv hstep
      exact hinv.step hok hstep
  exact hinv.sound

/-! ## Runs -/

def after (actions : List (Action Nat)) : State Nat :=
  ((machine .read 0).exec (.start .read 0) actions).getD (.start .read 0)

/-- The steps of a processing that takes the value of a callback. -/
def takeValue (n : Nat) : List (Action Nat) :=
  [.scanIoRequest n, .dbProcess (.callback n), .process, .process, .process]

def stepAllowed (s : State Nat) : Action Nat → Bool
  | .store _ => s.gotValue = false ∧ s.pact = false ∧ s.stage = none
  | .dbProcess .other => s.pact = false → s.gotValue = false
  | _ => true

/-- A callback is processed; then somebody else processes the record, which reads, while a second callback
is on its way. -/
theorem processings_sound_example :
    ∃ s, (machine .read 0).Reachable Admissible s ∧ Sound s ∧
      s.log = [⟨.callback 0, [], 5⟩, ⟨.other, [⟨.read, 7⟩], 7⟩, ⟨.callback 1, [], 6⟩] := by
  let actions : List (Action Nat) :=
    [Action.test 0 5, .store 0] ++ takeValue 0 ++ [Action.dbProcess .other, .test 1 6, .process, .process,
      .performIo 7, .complete, .process, .process, .process, .store 1] ++ takeValue 1
  have hcheck : ∀ s a, stepAllowed s a = true → Admissible s a := by
    intro s a hcheck
    cases a with
    | store t =>
        have hidle : s.gotValue = false ∧ s.pact = false ∧ s.stage = none := of_decide_eq_true hcheck
        exact hidle
    | dbProcess requester =>
        cases requester with
        | callback n => trivial
        | other =>
            have hclear : s.pact = false → s.gotValue = false := of_decide_eq_true hcheck
            exact hclear
    | _ => trivial
  have hrun : (machine .read 0).execGuarded stepAllowed (.start .read 0) actions =
      some (after actions) := rfl
  have hreach := Machine.reachable_of_execGuarded (I := fun _ => True)
    (fun s a _ hok => hcheck s a hok) (fun _ _ _ _ _ _ => trivial) rfl trivial hrun
  exact ⟨_, hreach, processings_sound .read 0 _ hreach, rfl⟩

/-- A run that leads to a state which is not sound. -/
def Breaks (actions : List (Action Nat)) : Prop :=
  (machine .read 0).Reachable Machine.Unguarded (after actions) ∧ ¬ Sound (after actions)

theorem breaks {actions : List (Action Nat)}
    (hrun : (machine .read 0).exec (.start .read 0) actions = some (after actions))
    (hnot : ¬ Sound (after actions)) : Breaks actions :=
  ⟨Machine.reachable_of_exec rfl hrun, hnot⟩

theorem not_sound_of_log {s : State Nat} {f : Finished Nat} (hlog : f ∈ s.log)
    (hbad : ¬ f.Good s.accepted) : ¬ Sound s :=
  fun hsound => hbad (hsound.log f hlog)

/-- Two callbacks that pass the test together: the first processing posts the second value, and the second
one reads from the device.  A processing by somebody else between a callback and its processing: it does no
I/O, and that of the callback does.  A callback during an I/O: its value is lost, and its processing
dropped. -/
theorem flag_confused :
    Breaks ([Action.test 0 5, .test 1 6, .store 0, .store 1] ++ takeValue 0) ∧
    Breaks ([.test 0 5, .store 0, .scanIoRequest 0, .dbProcess .other, .process, .process, .process]) ∧
    Breaks ([.test 0 5, .store 0, .scanIoRequest 0, .dbProcess .other, .process, .process, .process,
      .dbProcess (.callback 0), .process, .process, .performIo 7, .complete, .process, .process,
      .process]) ∧
    Breaks ([.dbProcess .other, .process, .process, .test 0 5, .store 0, .performIo 7]) ∧
    Breaks ([.dbProcess .other, .process, .process, .test 0 5, .store 0, .scanIoRequest 0,
      .dbProcess (.callback 0)]) := by
  refine ⟨breaks rfl ?_, breaks rfl ?_, breaks rfl ?_, breaks rfl ?_, breaks rfl ?_⟩
  · refine not_sound_of_log (f := ⟨.callback 0, [], 6⟩) (by decide) ?_
    rintro ⟨-, hvalue⟩
    exact nomatch hvalue
  · refine not_sound_of_log (f := ⟨.other, [], 5⟩) (by decide) ?_
    rintro ⟨i, hios, -⟩
    exact nomatch hios
  · refine not_sound_of_log (f := ⟨.callback 0, [⟨.read, 7⟩], 7⟩) (by decide) ?_
    rintro ⟨hios, -⟩
    exact nomatch hios
  · intro hsound
    exact nomatch (hsound.value 0 (.inl ⟨0, rfl⟩)).1
  · intro hsound
    exact nomatch hsound.dropped

end GotValue
end AsynRecord
end AsynDriver
