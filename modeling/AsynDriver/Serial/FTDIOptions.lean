import Mathlib.Data.List.Basic
import Mathlib.Logic.Function.Basic
import Mathlib.Tactic.Common
import AsynDriver.Library.Machine
import AsynDriver.Serial.FTDIPort

/-!
# The options of an FTDI port

`setOption` and `getOption` of `drvAsynFTDIPort.cpp` over whole runs, with the connection closed and opened
again in between.

* `State` — a port, and the value that each option was last set to with success.
* `InForce` — `getOption` answers each of these options with its value.
* `Answered` — an unsupported key, and any key while the port is disconnected, is answered with an error that
  changes nothing.
* `SoundStep` — a step is answered so, and the options are in force after it.
* `options_in_force_iff` — along runs whose steps all meet `Met` the options are in force; and one more step
  is sound exactly when it meets `Met` too.
* `flow_text_parses` — the text of a flow control is one that `setOption` takes for the same.
* `option_lost` — a parity that is lost with the connection, and the calls that are not answered so.
-/

namespace AsynDriver
namespace Serial
namespace FTDIPort

open Library

/-- `asked` is the value that an option was last set to. -/
structure State where
  port : Port
  asked : Key → Option (List Char)

inductive Action
  | setOption (key val : List Char) (accepts : Bool)
  | getOption (key : List Char) (valSize : Nat)
  | connect (a : ConnectAnswers)
  | disconnect
  | write (numchars : Nat) (a : ConnectAnswers) (status : DriverStatus)
  | read (maxchars : Nat) (a : ConnectAnswers) (status : DriverStatus)
  deriving DecidableEq, Repr

namespace State

/-- A successful `setOption` is remembered; the key without characters belongs to no option. -/
def remember (s : State) (key val : List Char) : Key → Option (List Char) :=
  match Key.find key with
  | none => s.asked
  | some k => Function.update s.asked k (some val)

/-- There is no next state after the dereference of a null pointer. -/
def step (keeps : Keeps) (s : State) : Action → Option State
  | .setOption key val accepts =>
      let set := FTDIPort.setOption keeps s.port key val accepts
      match set.2 with
      | .success () => some ⟨set.1, s.remember key val⟩
      | .error _ => some ⟨set.1, s.asked⟩
      | .nullDriver => none
  | .getOption key valSize =>
      match FTDIPort.getOption s.port key valSize with
      | .nullDriver => none
      | _ => some s
  | .connect a => some { s with port := (connectIt keeps s.port a).1 }
  | .disconnect => some { s with port := s.port.closeConnection }
  | .write numchars a status => some { s with port := writeIt keeps s.port numchars a status }
  | .read maxchars a status => some { s with port := readIt keeps s.port maxchars a status }

end State

/-- A port begins without a connection. -/
def machine (keeps : Keeps) : Machine State Action where
  init s := s.port.driver = none ∧ s.asked = fun _ => none
  step := State.step keeps

/-! ## What has to hold -/

/-- A flow control is the same in every order and spelling of its mechanisms. -/
def Matches (k : Key) (val text : List Char) : Prop :=
  match k with
  | .flow => parseFlow text = parseFlow val
  | _ => text = val

/-- Each option that was set is answered with its value, in any spelling of its key and any buffer that
the text fits in. -/
def InForce (s : State) : Prop :=
  ∀ k val, s.asked k = some val → s.port.driver ≠ none →
    ∃ text, Matches k val text ∧ ∀ key valSize, Key.find key = some k → text.length < valSize →
      getOption s.port key valSize = .success text

/-- `setOption` supports the key. -/
def Settable (key : List Char) : Prop := ∃ k, Key.find key = some k ∧ k ≠ .bits

def Answered (keeps : Keeps) (s : State) : Action → Prop
  | .setOption key val accepts =>
      (s.port.driver = none → (setOption keeps s.port key val accepts).2.IsError) ∧
        (¬ Settable key → (setOption keeps s.port key val accepts).2.IsError ∧
          (setOption keeps s.port key val accepts).1 = s.port)
  | .getOption key valSize =>
      (s.port.driver = none → (getOption s.port key valSize).IsError) ∧
        (Key.find key = none → (getOption s.port key valSize).IsError)
  | _ => True

/-- A step is answered as it should be, and the options are in force after it. -/
def SoundStep (keeps : Keeps) (s : State) (action : Action) : Prop :=
  Answered keeps s action ∧ ∀ s', s.step keeps action = some s' → InForce s'

/-! ## The condition -/

/-- The text of the option after the request. -/
def Request.text (keeps : Keeps) : Request → List Char
  | .baud rate => decimal (keeps rate)
  | .parity p => p.text.toList
  | .stop sbits => sbits.text.toList
  | .break brk => (breakText brk).toList
  | .flow f => f.text.toList

/-- The value is spelled as it is answered; a flow control is not answered at all. -/
def Request.Canonical (keeps : Keeps) (request : Request) (val : List Char) : Prop :=
  request.key ≠ .flow ∧ request.text keeps = val

/-- A port that connects now shows what was set before. -/
def DefaultsAsked (keeps : Keeps) (s : State) : Prop :=
  ∀ k val, s.asked k = some val → k ≠ .flow ∧
    Driver.optionText { s.port.initial with contextBaudrate := keeps s.port.baudrate } k = val

/-- The answers with which a disconnected port is connected afterwards. -/
def Action.Opens : Action → Prop
  | .connect a => a.Accept
  | .write numchars a status => a.Accept ∧ (numchars = 0 ∨ status = .success)
  | .read maxchars a status => a.Accept ∧ (maxchars = 0 ∨ status ≠ .error)
  | _ => False

def Met (keeps : Keeps) (s : State) : Action → Prop
  | .setOption key val accepts =>
      key ≠ [] ∧ ∀ request, parse key val = .ok request →
        s.port.driver ≠ none ∧ (accepts = true → request.Canonical keeps val)
  | .getOption key valSize =>
      match s.port.driver with
      | none => Key.find key = some .flow
      | some d => Key.find key = none → valSize ≤ (d.optionText .flow).length
  | action => s.port.driver = none → action.Opens → DefaultsAsked keeps s

/-! ## The texts -/

section
variable {keeps : Keeps} {s s' : State} {p : Port} {d d' : Driver} {key val : List Char} {k : Key}
  {request : Request} {accepts : Bool} {valSize : Nat} {a : ConnectAnswers}

/-- What is printed for a flow control is parsed to the same, with all its empty tokens. -/
theorem flow_text_parses (f : FlowControl) : parseFlow f.text.toList = some f := by
  obtain ⟨rtsCts, dtrDsr, xonXoff⟩ := f
  cases rtsCts <;> cases dtrDsr <;> cases xonXoff <;> decide

theorem getOption_find (hfind : Key.find key = some k) (hflow : k ≠ .flow) :
    getOption p key valSize = p.printOption key valSize k := by
  unfold getOption
  rw [hfind]
  cases k with
  | flow => exact absurd rfl hflow
  | baud | bits | parity | stop | «break» => rfl

theorem getOption_flow (hfind : Key.find key = some .flow) :
    getOption p key valSize = .error (some (unsupportedKey key)) := by
  unfold getOption
  rw [hfind]

theorem getOption_unsupported (hfind : Key.find key = none) :
    getOption p key valSize = p.printOption key valSize .flow := by
  unfold getOption
  rw [hfind]

theorem printOption_isError_iff (k : Key) :
    (p.printOption key valSize k).IsError ↔
      ∃ d, p.driver = some d ∧ valSize ≤ (d.optionText k).length := by
  unfold Port.printOption
  cases hdriver : p.driver with
  | none =>
      refine iff_of_false id ?_
      rintro ⟨d, hd, -⟩
      cases hd
  | some d =>
      dsimp only
      by_cases hsmall : valSize ≤ (d.optionText k).length
      · rw [if_pos hsmall]
        exact iff_of_true trivial ⟨d, rfl, hsmall⟩
      · rw [if_neg hsmall]
        refine iff_of_false id ?_
        rintro ⟨d', hd', hle⟩
        cases hd'
        exact hsmall hle

/-- A request changes its own option, to its text, and no other. -/
theorem apply_accepts (d : Driver) (keeps : Keeps) (request : Request) :
    ∃ d', d.apply keeps true request = some d' ∧
      d'.optionText request.key = request.text keeps ∧
      ∀ k, k ≠ request.key → d'.optionText k = d.optionText k := by
  cases request with
  | baud | parity | stop | «break» | flow =>
      refine ⟨_, rfl, rfl, ?_⟩
      intro k hk
      cases k <;> first | rfl | exact absurd rfl hk

theorem apply_refuses (d : Driver) (keeps : Keeps) (request : Request) :
    d.apply keeps false request = none := by
  cases request <;> rfl

theorem parse_find (hparse : parse key val = .ok request) : Key.find key = some request.key := by
  unfold parse at hparse
  split at hparse
  all_goals first
    | cases hparse
    | (split at hparse
       all_goals cases hparse
       assumption)

theorem settable_of_parse (hparse : parse key val = .ok request) : Settable key := by
  refine ⟨request.key, parse_find hparse, ?_⟩
  cases request <;> nofun

theorem Key.find_nil : Key.find [] = none := by decide

theorem exists_key (k : Key) : ∃ key, Key.find key = some k := by
  cases k with
  | baud => exact ⟨"baud".toList, by decide⟩
  | bits => exact ⟨"bits".toList, by decide⟩
  | parity => exact ⟨"parity".toList, by decide⟩
  | stop => exact ⟨"stop".toList, by decide⟩
  | «break» => exact ⟨"break".toList, by decide⟩
  | flow => exact ⟨"flow".toList, by decide⟩

/-! ## What is in force -/

/-- The settings of the driver have the texts that were asked for. -/
def Kept (s : State) : Prop :=
  ∀ k val d, s.asked k = some val → s.port.driver = some d → k ≠ .flow ∧ d.optionText k = val

theorem printOption_success (hdriver : p.driver = some d) (hfits : (d.optionText k).length < valSize) :
    p.printOption key valSize k = .success (d.optionText k) := by
  unfold Port.printOption
  rw [hdriver]
  dsimp only
  rw [if_neg (by omega)]

theorem inForce_iff : InForce s ↔ Kept s := by
  constructor
  · intro h k val d hasked hdriver
    have hconnected : s.port.driver ≠ none := by
      rw [hdriver]
      nofun
    obtain ⟨text, hmatches, hget⟩ := h k val hasked hconnected
    obtain ⟨key, hfind⟩ := exists_key k
    -- A buffer that is large enough for either text shows that they are the same.
    have hanswer := hget key (text.length + (d.optionText k).length + 1) hfind (by omega)
    by_cases hflow : k = .flow
    · -- the key is answered with an error
      rw [hflow] at hfind
      rw [getOption_flow hfind] at hanswer
      cases hanswer
    · refine ⟨hflow, ?_⟩
      rw [getOption_find hfind hflow, printOption_success hdriver (by omega)] at hanswer
      have htext : d.optionText k = text := Reply.success.inj hanswer
      have hval : text = val := by
        cases k with
        | flow => exact absurd rfl hflow
        | baud | bits | parity | stop | «break» => exact hmatches
      exact htext.trans hval
  · intro h k val hasked hconnected
    obtain ⟨d, hdriver⟩ := Option.ne_none_iff_exists'.mp hconnected
    obtain ⟨hflow, htext⟩ := h k val d hasked hdriver
    refine ⟨d.optionText k, ?_, ?_⟩
    · cases k with
      | flow => exact absurd rfl hflow
      | baud | bits | parity | stop | «break» => exact htext
    · intro key valSize hfind hfits
      rw [getOption_find hfind hflow]
      exact printOption_success hdriver hfits

theorem inForce_disconnected (hdriver : s.port.driver = none) : InForce s := by
  intro k val _ hconnected
  exact absurd hdriver hconnected

/-! ## The calls -/

theorem getOption_answered_iff (keeps : Keeps) (s : State) (key : List Char) (valSize : Nat) :
    Answered keeps s (.getOption key valSize) ↔ Met keeps s (.getOption key valSize) := by
  unfold Answered Met
  dsimp only
  cases hdriver : s.port.driver with
  | none =>
      dsimp only
      -- Without a driver only the branch for the flow control comes to an end.
      have hnull : ∀ k, ¬ (s.port.printOption key valSize k).IsError := by
        intro k herror
        obtain ⟨d, hd, -⟩ := (printOption_isError_iff k).mp herror
        rw [hdriver] at hd
        cases hd
      constructor
      · rintro ⟨hdisconnected, -⟩
        have herror := hdisconnected rfl
        unfold getOption at herror
        split at herror
        · assumption
        · exact absurd herror (hnull _)
        · exact absurd herror (hnull _)
      · intro hflow
        rw [getOption_flow hflow]
        exact ⟨fun _ => trivial, fun _ => trivial⟩
  | some d =>
      constructor
      · rintro ⟨-, hunsupported⟩ hfind
        have herror := hunsupported hfind
        rw [getOption_unsupported hfind] at herror
        obtain ⟨d', hd', hle⟩ := (printOption_isError_iff _).mp herror
        cases hdriver.symm.trans hd'
        exact hle
      · intro hsmall
        refine ⟨nofun, fun hfind => ?_⟩
        rw [getOption_unsupported hfind]
        exact (printOption_isError_iff _).mpr ⟨d, hdriver, hsmall hfind⟩

theorem setOption_parsed (hkey : key ≠ []) (hparse : parse key val = .ok request)
    (hdriver : p.driver = some d) (keeps : Keeps) :
    setOption keeps p key val false = (p, .error request.refused) ∧
      ∃ d', setOption keeps p key val true = ({ p with driver := some d' }, .success ()) ∧
        d'.optionText request.key = request.text keeps ∧
        ∀ k, k ≠ request.key → d'.optionText k = d.optionText k := by
  obtain ⟨d', happly, htext, hothers⟩ := apply_accepts d keeps request
  unfold setOption
  rw [if_neg hkey, if_neg hkey, hparse]
  dsimp only
  rw [hdriver]
  dsimp only
  rw [happly, apply_refuses]
  exact ⟨rfl, d', rfl, htext, hothers⟩

theorem setOption_null (hkey : key ≠ []) (hparse : parse key val = .ok request)
    (hdriver : p.driver = none) (keeps : Keeps) (accepts : Bool) :
    setOption keeps p key val accepts = (p, .nullDriver) := by
  unfold setOption
  rw [if_neg hkey, hparse]
  dsimp only
  rw [hdriver]

theorem setOption_invalid {message : String} (hkey : key ≠ []) (hparse : parse key val = .error message)
    (keeps : Keeps) (p : Port) (accepts : Bool) :
    setOption keeps p key val accepts = (p, .error (some message)) := by
  unfold setOption
  rw [if_neg hkey, hparse]

/-- An option that has been set is in force exactly when its value is the text that it is answered with. -/
theorem kept_set_iff (hkept : Kept s) (hdriver : s.port.driver = some d)
    (hparse : parse key val = .ok request) (htext : d'.optionText request.key = request.text keeps)
    (hothers : ∀ k, k ≠ request.key → d'.optionText k = d.optionText k) :
    Kept ⟨{ s.port with driver := some d' }, s.remember key val⟩ ↔ request.Canonical keeps val := by
  have hremember : s.remember key val = Function.update s.asked request.key (some val) := by
    unfold State.remember
    rw [parse_find hparse]
  rw [hremember]
  constructor
  · intro h
    obtain ⟨hflow, hval⟩ := h request.key val d' (Function.update_self _ _ _) rfl
    exact ⟨hflow, htext.symm.trans hval⟩
  · rintro ⟨hflow, hval⟩ k v d'' hasked hd''
    cases hd''
    -- The other options have neither a new value nor a new text.
    by_cases hk : k = request.key
    · subst hk
      have hv : some val = some v := (Function.update_self request.key (some val) s.asked).symm.trans hasked
      cases hv
      exact ⟨hflow, htext.trans hval⟩
    · have hasked : s.asked k = some v :=
        (Function.update_of_ne hk (some val) s.asked).symm.trans hasked
      rw [hothers k hk]
      exact hkept k v d hasked hdriver

theorem soundStep_setOption_iff (hs : InForce s) (key val : List Char) (accepts : Bool) :
    SoundStep keeps s (.setOption key val accepts) ↔ Met keeps s (.setOption key val accepts) := by
  unfold SoundStep Answered Met State.step
  dsimp only
  by_cases hkey : key = []
  · -- the key without characters is answered with success
    subst hkey
    refine iff_of_false ?_ fun hmet => hmet.1 rfl
    rintro ⟨⟨-, hunsupported⟩, -⟩
    have hnot : ¬ Settable [] := by
      rintro ⟨k, hfind, -⟩
      rw [Key.find_nil] at hfind
      cases hfind
    exact (hunsupported hnot).1
  cases hparse : parse key val with
  | error message =>
      rw [setOption_invalid hkey hparse]
      refine iff_of_true ⟨⟨fun _ => trivial, fun _ => ⟨trivial, rfl⟩⟩, ?_⟩ ⟨hkey, nofun⟩
      rintro s' hstep
      cases hstep
      exact hs
  | ok request =>
      -- From here on the call needs the driver.
      cases hdriver : s.port.driver with
      | none =>
          rw [setOption_null hkey hparse hdriver]
          refine iff_of_false ?_ fun hmet => (hmet.2 request rfl).1 rfl
          rintro ⟨⟨hdisconnected, -⟩, -⟩
          exact hdisconnected rfl
      | some d =>
          obtain ⟨hrefused, d', hset, htext, hothers⟩ := setOption_parsed hkey hparse hdriver keeps
          have hsettable := settable_of_parse hparse
          cases accepts with
          | false =>
              rw [hrefused]
              refine iff_of_true ⟨⟨nofun, fun hnot => absurd hsettable hnot⟩, ?_⟩ ⟨hkey, ?_⟩
              · intro s' hstep
                cases hstep
                exact hs
              · intro request' _
                exact ⟨nofun, nofun⟩
          | true =>
              rw [hset]
              have hkept := kept_set_iff (inForce_iff.mp hs) hdriver hparse htext hothers
              constructor
              · rintro ⟨-, hforce⟩
                refine ⟨hkey, ?_⟩
                rintro request' hrequest
                cases hrequest
                exact ⟨nofun, fun _ => hkept.mp (inForce_iff.mp (hforce _ rfl))⟩
              · rintro ⟨-, hcanonical⟩
                refine ⟨⟨nofun, fun hnot => absurd hsettable hnot⟩, ?_⟩
                intro s' hstep
                cases hstep
                exact inForce_iff.mpr (hkept.mpr ((hcanonical request rfl).2 rfl))

theorem soundStep_getOption_iff (hs : InForce s) (key : List Char) (valSize : Nat) :
    SoundStep keeps s (.getOption key valSize) ↔ Met keeps s (.getOption key valSize) := by
  rw [← getOption_answered_iff]
  refine ⟨fun h => h.1, fun h => ⟨h, ?_⟩⟩
  intro s' hstep
  unfold State.step at hstep
  dsimp only at hstep
  split at hstep <;> cases hstep
  exact hs

/-! ## The connection -/

/-- The port that `connectIt` leaves behind. -/
def Port.opened (keeps : Keeps) (p : Port) : Port :=
  { p with driver := some { p.initial with contextBaudrate := keeps p.baudrate } }

theorem connectIt_connected (hdriver : p.driver ≠ none) : (connectIt keeps p a).1 = p := by
  unfold connectIt
  rw [if_pos (Option.isSome_iff_ne_none.mpr hdriver)]

/-- The settings pass through all the calls that set them once more. -/
theorem connectFTDI_eq (settings : Settings) (keeps : Keeps) (a : ConnectAnswers) :
    settings.connectFTDI keeps a =
      if a.Accept then some { settings with contextBaudrate := keeps settings.baudrate } else none := by
  obtain ⟨context, opened, baudrate, lineProperties, latency, flowctrl, prepared⟩ := a
  cases context with
  | none => rfl
  | some context =>
      -- the first call that fails decides
      cases opened with
      | false => rfl
      | true =>
          cases baudrate with
          | false => rfl
          | true =>
              cases lineProperties with
              | false => rfl
              | true => cases latency <;> cases flowctrl <;> cases prepared <;> rfl

theorem connectIt_disconnected (hdriver : p.driver = none) :
    connectIt keeps p a =
      if a.Accept then (p.opened keeps, .success ())
      else (p.closeConnection, .error (some ("Can't connect to " ++ p.name))) := by
  have hnot : ¬ p.driver.isSome = true := by
    rw [hdriver]
    nofun
  unfold connectIt
  rw [if_neg hnot, connectFTDI_eq]
  by_cases haccept : a.Accept
  · rw [if_pos haccept, if_pos haccept]
    rfl
  · rw [if_neg haccept, if_neg haccept]

theorem connected_connected (hdriver : p.driver ≠ none) (io : Port → Port) :
    connected keeps p a io = io p := by
  unfold connected
  rw [if_pos (Option.isSome_iff_ne_none.mpr hdriver)]

theorem connected_disconnected (hdriver : p.driver = none) (io : Port → Port) :
    connected keeps p a io = if a.Accept then io (p.opened keeps) else p.closeConnection := by
  have hnot : ¬ p.driver.isSome = true := by
    rw [hdriver]
    nofun
  unfold connected
  rw [if_neg hnot, connectIt_disconnected hdriver]
  by_cases haccept : a.Accept
  · rw [if_pos haccept, if_pos haccept]
  · rw [if_neg haccept, if_neg haccept]

/-- What a step does to the connection: an open one stays or is closed, and a new one has its defaults. -/
structure Reconnected (keeps : Keeps) (opens : Prop) (p q : Port) : Prop where
  kept : p.driver ≠ none → q = p ∨ q = p.closeConnection
  opened : p.driver = none → opens → q = p.opened keeps
  closed : p.driver = none → ¬ opens → q.driver = none

theorem reconnected_connectIt (keeps : Keeps) (p : Port) (a : ConnectAnswers) :
    Reconnected keeps a.Accept p (connectIt keeps p a).1 where
  kept hdriver := Or.inl (connectIt_connected hdriver)
  opened hdriver haccept := by rw [connectIt_disconnected hdriver, if_pos haccept]
  closed hdriver haccept := by
    rw [connectIt_disconnected hdriver, if_neg haccept]
    rfl

/-- An operation that closes the connection, or leaves it alone. -/
theorem reconnected_connected (keeps : Keeps) (p : Port) (a : ConnectAnswers) {io : Port → Port}
    {open' : Prop} (hopen : open' → ∀ q, io q = q) (hclosed : ¬ open' → ∀ q, io q = q.closeConnection) :
    Reconnected keeps (a.Accept ∧ open') p (connected keeps p a io) where
  kept hdriver := by
    rw [connected_connected hdriver]
    by_cases h : open'
    · exact Or.inl (hopen h p)
    · exact Or.inr (hclosed h p)
  opened hdriver hopens := by
    rw [connected_disconnected hdriver, if_pos hopens.1]
    exact hopen hopens.2 _
  closed hdriver hopens := by
    rw [connected_disconnected hdriver]
    by_cases haccept : a.Accept
    -- The connection is made, and closed again by the operation.
    · rw [if_pos haccept, hclosed fun h => hopens ⟨haccept, h⟩]
      rfl
    · rw [if_neg haccept]
      rfl

theorem reconnected_writeIt (keeps : Keeps) (p : Port) (numchars : Nat) (a : ConnectAnswers)
    (status : DriverStatus) :
    Reconnected keeps (a.Accept ∧ (numchars = 0 ∨ status = .success)) p
      (writeIt keeps p numchars a status) := by
  refine reconnected_connected keeps p a ?_ ?_
  · rintro (hzero | hsuccess) q
    · rw [if_pos hzero]
    · rw [if_neg (not_not.mpr hsuccess), ite_self]
  · intro hnot q
    rw [if_neg fun h => hnot (Or.inl h), if_pos fun h => hnot (Or.inr h)]

theorem reconnected_readIt (keeps : Keeps) (p : Port) (maxchars : Nat) (a : ConnectAnswers)
    (status : DriverStatus) :
    Reconnected keeps (a.Accept ∧ (maxchars = 0 ∨ status ≠ .error)) p
      (readIt keeps p maxchars a status) := by
  refine reconnected_connected keeps p a ?_ ?_
  · rintro (hzero | hopen) q
    · rw [if_pos hzero]
    · rw [if_neg hopen, ite_self]
  · intro hnot q
    rw [if_neg fun h => hnot (Or.inl h), if_pos (not_not.mp fun h => hnot (Or.inr h))]

/-- A connection that is opened again shows the defaults. -/
theorem Reconnected.inForce_iff {opens : Prop} {q : Port} (h : Reconnected keeps opens s.port q)
    (hs : InForce s) :
    InForce ⟨q, s.asked⟩ ↔ (s.port.driver = none → opens → DefaultsAsked keeps s) := by
  by_cases hdriver : s.port.driver = none
  · by_cases hopens : opens
    · rw [h.opened hdriver hopens, FTDIPort.inForce_iff]
      constructor
      · intro hkept _ _ k val hasked
        exact hkept k val _ hasked rfl
      · intro hdefaults k val d hasked hd
        cases hd
        exact hdefaults hdriver hopens k val hasked
    · exact iff_of_true (inForce_disconnected (h.closed hdriver hopens)) fun _ hopens' =>
        absurd hopens' hopens
  · refine iff_of_true ?_ fun hnone => absurd hnone hdriver
    rcases h.kept hdriver with hq | hq
    · rw [hq]
      exact hs
    · rw [hq]
      exact inForce_disconnected rfl

/-! ## Runs -/

/-- Every step from a state with its options in force. -/
theorem soundStep_iff (hs : InForce s) (action : Action) :
    SoundStep keeps s action ↔ Met keeps s action := by
  have honly : ∀ q : Port, (∀ s', some (⟨q, s.asked⟩ : State) = some s' → InForce s') ↔
      InForce ⟨q, s.asked⟩ := by
    intro q
    simp only [Option.some.injEq, forall_eq']
  cases action with
  | setOption key val accepts => exact soundStep_setOption_iff hs key val accepts
  | getOption key valSize => exact soundStep_getOption_iff hs key valSize
  | connect a =>
      exact (iff_of_eq (true_and _)).trans ((honly _).trans ((reconnected_connectIt keeps s.port a).inForce_iff hs))
  | disconnect =>
      refine iff_of_true ⟨trivial, (honly _).mpr (inForce_disconnected rfl)⟩ fun _ hopens => ?_
      exact hopens.elim
  | write numchars a status =>
      exact (iff_of_eq (true_and _)).trans
        ((honly _).trans ((reconnected_writeIt keeps s.port numchars a status).inForce_iff hs))
  | read maxchars a status =>
      exact (iff_of_eq (true_and _)).trans
        ((honly _).trans ((reconnected_readIt keeps s.port maxchars a status).inForce_iff hs))

end

/-- In a run whose steps all meet the condition the options are in force; and one more step is answered as
it should be, and keeps them in force, if and only if it meets the condition. -/
theorem options_in_force_iff (keeps : Keeps) (s : State) (hreach : (machine keeps).Reachable (Met keeps) s) :
    InForce s ∧ ∀ action, SoundStep keeps s action ↔ Met keeps s action := by
  have hs : InForce s := by
    refine hreach.invariant ?_ ?_
    · rintro s ⟨hdriver, -⟩
      exact inForce_disconnected hdriver
    -- A step that meets the condition is sound, and so keeps the invariant.
    · intro s action s' hmet hs hstep
      exact ((soundStep_iff hs action).mpr hmet).2 s' hstep
  exact ⟨hs, soundStep_iff hs⟩

/-! ## A parity and its loss -/

def accepted : ConnectAnswers := ⟨some 0, true, true, true, true, true, true⟩

/-- The library keeps the rates that it is given. -/
def sameRate : Keeps := fun rate => rate

/-- A port before its first connection. -/
def unconnected : State := ⟨⟨0x0403, 0x6010, 9600, 2, none⟩, fun _ => none⟩

/-- The port is connected, and its parity is set. -/
def withOdd : State :=
  ⟨⟨0x0403, 0x6010, 9600, 2,
      some { Settings.new with baudrate := 9600, parity := .odd, contextBaudrate := 9600 }⟩,
    Function.update (fun _ => none) .parity (some "odd".toList)⟩

def setOdd : Action := .setOption "parity".toList "odd".toList true

theorem options_in_force_iff_example :
    InForce withOdd ∧ SoundStep sameRate withOdd (.getOption "PARITY".toList 80) := by
  have hinit : (machine sameRate).Reachable (Met sameRate) unconnected :=
    Machine.Reachable.init ⟨rfl, rfl⟩
  have hconnected : (machine sameRate).Reachable (Met sameRate)
      ⟨unconnected.port.opened sameRate, unconnected.asked⟩ :=
    hinit.step (a := .connect accepted) (fun _ _ => nofun) rfl
  have hset : (machine sameRate).Reachable (Met sameRate) withOdd := by
    refine hconnected.step (a := setOdd) ⟨by decide, ?_⟩ rfl
    intro request hparse
    cases hparse
    exact ⟨nofun, fun _ => ⟨nofun, rfl⟩⟩
  obtain ⟨hforce, hstep⟩ := options_in_force_iff sameRate withOdd hset
  refine ⟨hforce, (hstep _).mpr ?_⟩
  intro hfind
  cases hfind

/-- The connection has been closed and opened again. -/
def reopened : State := ⟨unconnected.port.opened sameRate, withOdd.asked⟩

/-- The parity is lost with the connection.  A key that there is not is answered with the flow control, the
key of the flow control with an error, and a port without a connection with a null pointer. -/
theorem option_lost :
    (machine sameRate).Reachable Machine.Unguarded reopened ∧
      (setOption sameRate (unconnected.port.opened sameRate) "parity".toList "odd".toList true).2 =
        .success () ∧
      getOption reopened.port "parity".toList 80 = .success "none".toList ∧ ¬ InForce reopened ∧
      getOption reopened.port "speed".toList 80 = .success "none".toList ∧
      ¬ Answered sameRate reopened (.getOption "speed".toList 80) ∧
      (setOption sameRate reopened.port "flow".toList "none".toList true).2 = .success () ∧
      (getOption reopened.port "flow".toList 80).IsError ∧
      getOption unconnected.port "parity".toList 80 = .nullDriver ∧
      ¬ Answered sameRate unconnected (.getOption "parity".toList 80) := by
  have hexec : (machine sameRate).exec unconnected
      [.connect accepted, setOdd, .disconnect, .connect accepted] = some reopened := rfl
  refine ⟨Machine.reachable_of_exec ⟨rfl, rfl⟩ hexec, rfl, by decide, ?_, by decide, ?_, rfl, trivial, rfl, ?_⟩
  · intro hforce
    obtain ⟨-, htext⟩ := inForce_iff.mp hforce .parity "odd".toList _ rfl rfl
    revert htext
    decide
  · rintro ⟨-, hunsupported⟩
    exact hunsupported (by decide)
  · rintro ⟨hdisconnected, -⟩
    exact hdisconnected rfl

end FTDIPort
end Serial
end AsynDriver
