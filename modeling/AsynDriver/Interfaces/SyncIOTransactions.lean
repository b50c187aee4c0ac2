import AsynDriver.Interfaces.SyncIO

/-!
# Operations of `SyncIO` are transactions

What reaches a port when threads run operations on it.

* `Body.calls` — the calls of an operation that succeeds.
* `Follows` — a program makes calls as long as they succeed; `Ended.of_runs` says how far it is.
* `Transaction` — the calls of one operation, with the timeout that is its own.
* `serial` — a port gets the calls of one operation after the other, in every run in which no two
  threads use one `asynUser` at the same time.
-/

namespace AsynDriver
namespace Interfaces
namespace SyncIO

open Library
open Library.UnderLock (Program Runs Event Outcome Released InOrder Block Phase Action)
open Manager (AsynStatus)
open PortDriver (EpicsFloat64)

/-- A call that the driver has answered. -/
abbrev Call : Type := Event Method Reply EpicsFloat64

/-- The calls of an operation that succeeds. -/
def Body.calls : Body → List Method
  | .single m => [m]
  | .writeRead write_buffer read_buffer_len =>
      [.octet .flush, .octet (.write write_buffer), .octet (.read read_buffer_len)]
  | .writeReadOp pwrite_buffer pread_buffer =>
      [.genericPointer (.write pwrite_buffer), .genericPointer (.read pread_buffer)]

/-! ## Calls as long as they succeed -/

variable {α : Type}

/-- The program makes the calls of a list as long as they succeed, and then returns the status of the
last one. -/
def Follows : List Method → Program Method Reply (AsynStatus × α) → Prop
  | [], p => ∃ v, p = .ret (.asynSuccess, v)
  | m :: plan, p => ∃ k, p = .call m k ∧ ∀ r : Reply m,
      if r.status = .asynSuccess then Follows plan (k r) else ∃ v, k r = .ret (r.status, v)

theorem follows_last {m : Method} (v : Reply m → α) :
    Follows [m] (.call m fun r => .ret (r.status, v r)) := by
  refine ⟨_, rfl, fun r => ?_⟩
  split
  case isTrue hr => exact ⟨v r, by rw [hr]⟩
  case isFalse => exact ⟨v r, rfl⟩

theorem follows_then {m : Method} {plan : List Method} (v : Reply m → α)
    {k : Reply m → Program Method Reply (AsynStatus × α)} (hk : ∀ r, Follows plan (k r)) :
    Follows (m :: plan)
      (.call m fun r => if r.status ≠ .asynSuccess then .ret (r.status, v r) else k r) := by
  refine ⟨_, rfl, fun r => ?_⟩
  split
  case isTrue hr =>
    rw [if_neg (not_not.mpr hr)]
    exact hk r
  case isFalse hr => exact ⟨v r, rfl⟩

theorem Body.follows (b : Body) : Follows b.calls b.program := by
  cases b with
  | single m => exact follows_last fun r => some r.stored
  | writeRead write_buffer read_buffer_len =>
      refine follows_then _ fun flushed => ?_
      refine follows_then _ fun written => ?_
      exact follows_last _
  | writeReadOp pwrite_buffer pread_buffer =>
      refine follows_then _ fun written => ?_
      exact follows_last _

/-- Calls that have succeeded, except for the last one of a program that has ended. -/
inductive Ended (plan : List Method) (calls : List Call)
    (p : Program Method Reply (AsynStatus × α)) : Prop
  | proceeds (rest : List Method) (hplan : plan = calls.map Event.method ++ rest)
      (hcalls : ∀ e ∈ calls, e.reply.status = .asynSuccess) (hrest : Follows rest p)
  | failed (v : α) (status : AsynStatus) (hbegins : calls.map Event.method <+: plan)
      (hstatus : status ≠ .asynSuccess) (hp : p = .ret (status, v))

/-- How far a program is. -/
theorem Ended.of_runs {plan : List Method} {p p' : Program Method Reply (AsynStatus × α)}
    {calls : List Call} (hruns : Runs p calls p') (hfollows : Follows plan p) :
    Ended plan calls p' := by
  induction hruns with
  | nil => exact .proceeds plan rfl (fun e he => absurd he List.not_mem_nil) hfollows
  | @snoc events c k hruns r seen ih =>
      cases ih with
      | failed v status hbegins hstatus hp => cases hp
      | proceeds rest hplan hcalls hrest =>
          cases rest with
          | nil =>
              obtain ⟨v, hv⟩ := hrest
              cases hv
          | cons m rest =>
              obtain ⟨k', hk, hnext⟩ := hrest
              cases hk
              have hnext := hnext r
              have hmap : (events ++ [(⟨c, r, seen⟩ : Call)]).map Event.method =
                  events.map Event.method ++ [c] := List.map_append
              split at hnext
              case isTrue hr =>
                refine .proceeds rest ?_ ?_ hnext
                · rw [hplan, hmap, List.append_assoc]
                  rfl
                · intro e he
                  rcases List.mem_append.mp he with hold | hnew
                  · exact hcalls e hold
                  · rw [List.mem_singleton.mp hnew]
                    exact hr
              case isFalse hr =>
                obtain ⟨v, hv⟩ := hnext
                refine .failed v r.status ?_ hr hv
                rw [hplan, hmap]
                exact ⟨rest, by rw [List.append_assoc]; rfl⟩

/-! ## Transactions -/

section Transactions

variable {ι : Type}

/-- An operation that has released the port, or was refused it. -/
abbrev Record (ι : Type) : Type :=
  Released EpicsFloat64 Operation (fun o => AsynStatus × o.body.Variables) ι Refusal AsynStatus

/-- The calls of one operation: with its own timeout, in its own order, and all of them if it says that
it has succeeded; the caller gets what the last one has replied. -/
structure Transaction (d : Record ι) (calls : List Call) : Prop where
  timeout : ∀ e ∈ calls, e.seen = d.operation.timeout.getD d.before
  order : calls.map Event.method <+: d.operation.body.calls
  succeeded : (d.operation.returns d.outcome).1 = .asynSuccess →
    calls.map Event.method = d.operation.body.calls ∧ ∀ e ∈ calls, e.reply.status = .asynSuccess
  values : ∀ x status, d.outcome = .done x status → Runs d.operation.body.program calls (.ret x)

theorem transaction_of_block {d : Record ι} {calls : List Call}
    (hblock : Block spec (fun o before e => e.seen = spec.store o before) d calls) :
    Transaction d calls := by
  obtain ⟨t, o, before, outcome⟩ := d
  obtain ⟨hseen, hcalls⟩ := hblock
  cases outcome with
  | refused status =>
      have hnone : calls = [] := hcalls
      subst hnone
      refine ⟨hseen, List.nil_prefix, fun hsuccess => absurd hsuccess status.property, ?_⟩
      intro x status' h
      cases h
  | done x unlockStatus =>
      have hruns : Runs o.body.program calls (.ret x) := hcalls
      have hstatus : (o.returns (.done x unlockStatus)).1 = .asynSuccess → x.1 = .asynSuccess := by
        intro hsuccess
        simp only [Operation.returns] at hsuccess
        split at hsuccess
        case isTrue hunlock => exact absurd hsuccess hunlock
        case isFalse => exact hsuccess
      cases Ended.of_runs hruns o.body.follows with
      | proceeds rest hplan hok hrest =>
          cases rest with
          | nil =>
              rw [List.append_nil] at hplan
              refine ⟨hseen, ?_, fun _ => ⟨hplan.symm, hok⟩, ?_⟩
              · exact ⟨[], by rw [List.append_nil, hplan]⟩
              · intro x' status h
                cases h
                exact hruns
          | cons m rest =>
              obtain ⟨k, hk, -⟩ := hrest
              cases hk
      | failed v status hbegins hfailed hx =>
          cases hx
          refine ⟨hseen, hbegins, fun hsuccess => absurd (hstatus hsuccess) hfailed, ?_⟩
          intro x' status' h
          cases h
          exact hruns

/-- A port gets the calls of one operation after the other, in the order in which they release the port, and
then some of the operation that has the lock. -/
theorem serial [DecidableEq ι] {s : State ι}
    (hreach : (UnderLock.machine spec).Reachable (UnderLock.Alone spec) s) :
    ∃ finished current, s.log = finished ++ current ∧ InOrder Transaction s.released finished ∧
      (s.owner = none → current = []) ∧
      ∀ t, s.owner = some t → ∃ o before rest, s.phase t = .inside o before rest ∧
        (∀ e ∈ current, e.seen = o.timeout.getD before) ∧
        current.map Event.method <+: o.body.calls := by
  obtain ⟨finished, current, hlog, hinOrder, hprogress⟩ := UnderLock.accounted_alone hreach
  refine ⟨finished, current, hlog, hinOrder.mono fun d calls => transaction_of_block,
    hprogress.free, ?_⟩
  intro t ht
  obtain ⟨o, before, rest, hinside, hruns, hseen⟩ := hprogress.held t ht
  refine ⟨o, before, rest, hinside, hseen, ?_⟩
  cases Ended.of_runs hruns o.body.follows with
  | proceeds rest' hplan => exact ⟨rest', hplan.symm⟩
  | failed v status hbegins => exact hbegins

end Transactions

/-! ## Two threads -/

/-- What a driver stores that stores nothing. -/
def Method.unchanged : (m : Method) → m.Stored
  | .octet (.write _) => none
  | .octet (.read _) => ⟨[], none, none⟩
  | .octet .flush | .octet (.setInputEos _) | .octet (.setOutputEos _) => ()
  | .octet (.getInputEos _) | .octet (.getOutputEos _) => ([], none)
  | .int32 .read | .int64 .read => none
  | .int32 .getBounds | .int64 .getBounds => (none, none)
  | .int32 (.write _) | .int64 (.write _) => ()
  | .float64 .read => none
  | .float64 (.write _) => ()
  | .uInt32Digital (.read _) | .uInt32Digital (.getInterrupt _) => none
  | .uInt32Digital (.write _ _) | .uInt32Digital (.setInterrupt _ _) => ()
  | .uInt32Digital (.clearInterrupt _) => ()
  | .array _ (.read _) => ([], none)
  | .array _ (.write _) => ()
  | .enum (.read _) => ([], none)
  | .enum (.write _) => ()
  | .genericPointer _ => ()
  | .option (.getOption _ _) => []
  | .option (.setOption _ _) => ()

/-- The driver succeeds. -/
def succeeds (m : Method) : Reply m := ⟨.asynSuccess, m.unchanged⟩

/-- While one thread is in `writeRead`, the other one wants to write. -/
def twoThreads : List (Action Method Reply Operation Bool Refusal AsynStatus) :=
  [.call false ( OctetSyncIO.writeRead 0 [0x3f] 80 ⟨1⟩), .acquire false, .reply false succeeds,
    .call true ( OctetSyncIO.writeIt 1 [0x21] ⟨2⟩), .reply false succeeds, .reply false succeeds,
    .release false .asynSuccess, .acquire true, .reply true succeeds, .release true .asynSuccess]

/-- Whether the other thread uses another `asynUser`. -/
def aloneCheck (s : State Bool) : Action Method Reply Operation Bool Refusal AsynStatus → Bool
  | .call _ o => [false, true].all fun u =>
      match (s.phase u).operation with
      | none => true
      | some (o', _) => o'.pasynUser != o.pasynUser
  | _ => true

theorem alone_of_check (s : State Bool) (a : Action Method Reply Operation Bool Refusal AsynStatus)
    (hcheck : aloneCheck s a = true) : UnderLock.Alone spec s a := by
  cases a with
  | call t o =>
      intro u o' before hu
      have hall := List.all_eq_true.mp hcheck u (by cases u <;> decide)
      rw [hu] at hall
      exact bne_iff_ne.mp hall
  | _ => trivial

theorem serial_twoThreads : ∃ s : State Bool,
    s.log.map Event.method = [.octet .flush, .octet (.write [0x3f]), .octet (.read 80),
      .octet (.write [0x21])] ∧ InOrder Transaction s.released s.log := by
  obtain ⟨s, hreach, hvalue⟩ : ∃ s : State Bool,
      (UnderLock.machine spec).Reachable (UnderLock.Alone spec) s ∧
        (s.owner, s.log.map Event.method) = (none, [.octet .flush, .octet (.write [0x3f]),
          .octet (.read 80), .octet (.write [0x21])]) :=
    Machine.exists_reachable_of_execGuarded (fun s : State Bool => (s.owner, s.log.map Event.method))
      alone_of_check (s := ⟨fun _ => .idle, none, fun _ => ⟨0⟩, [], []⟩) twoThreads
      ⟨fun _ => rfl, rfl, rfl, rfl⟩ rfl
  obtain ⟨finished, current, hlog, hinOrder, hnone, -⟩ := serial hreach
  have howner : s.owner = none := congrArg Prod.fst hvalue
  rw [hnone howner, List.append_nil] at hlog
  refine ⟨s, congrArg Prod.snd hvalue, ?_⟩
  rw [hlog]
  exact hinOrder

/-- Two threads that share an `asynUser`: the write of the first is made with the timeout of the
second. -/
example : ((UnderLock.machine spec).exec (⟨fun _ => .idle, none, fun _ => ⟨0⟩, [], []⟩ : State Bool)
    [.call false ( OctetSyncIO.writeIt 0 [0x3f] ⟨1⟩), .acquire false,
      .call true ( OctetSyncIO.writeIt 0 [0x21] ⟨2⟩), .reply false succeeds]).map
    (fun s => s.log.map Event.seen) = some [⟨2⟩] := rfl

end SyncIO
end Interfaces
end AsynDriver
