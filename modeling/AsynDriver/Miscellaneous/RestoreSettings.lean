import Mathlib.Algebra.Order.Field.Rat
import Mathlib.Tactic.NormNum
import AsynDriver.Library.CString
import AsynDriver.Miscellaneous.ComPortReply

/-!
# `restoreSettings` of `asynInterposeCom.c`

When the port has connected again the layer sends its settings to the server: it reads them with its own
`getOption`, and gives the texts to its own `setOption`.

* `willdo`, `negotiate` — the TELNET options that come before.
* `Setting.ofText` — what `setOption` makes of a text.
* `restoreSettings` — with the requests that reach the server.
* `Invisible` — the server has the settings afterwards, and the layer still has them.
* `invisible_iff` — exactly without flow control, and for settings that a reply can show; `flow_lost` — with
  flow control.
-/

namespace AsynDriver
namespace Miscellaneous

open Library

/-! ## TELNET options -/

/-- `C_WILL`, `C_WONT`, `C_DO` and `C_DONT`. -/
def cWill : UInt8 := 251

def cWont : UInt8 := 252

def cDo : UInt8 := 253

def cDont : UInt8 := 254

/-- `WD_TRANSMIT_BINARY`. -/
def wdTransmitBinary : UInt8 := 0

/-- `CPO_SET_MODEMSTATE_MASK`. -/
def cpoSetModemstateMask : UInt8 := 11

inductive RestoreError
  | eof
  | responseToDo (c : UInt8)
  | saysDont (c : UInt8)
  | responseToWill (c : UInt8)
  | saysWont (c : UInt8)
  | unexpected (c : UInt8)
  | option (e : OptionError)
  deriving DecidableEq, Repr

/-- The format `%#x`. -/
def hexTextLower (c : UInt8) : String :=
  if c = 0 then "0" else "0x" ++ String.ofList (Nat.toDigits 16 c.toNat)

def RestoreError.text : RestoreError → Option String
  | .eof => none
  | .responseToDo c => some ("Received response " ++ hexTextLower c ++ " in response to DO.")
  | .saysDont c => some ("Device says DON'T " ++ hexTextLower c ++ ".")
  | .responseToWill c => some ("Received response " ++ hexTextLower c ++ " in response to WILL.")
  | .saysWont c => some ("Device says WON'T " ++ hexTextLower c ++ ".")
  | .unexpected c => some ("Unexpected character " ++ hexTextLower c ++ " in TELNET reply")
  | .option e => e.text

/-- The loop of `willdo` behind its write.  Each round reads a byte. -/
def awaitWillDo (command code : UInt8) : Nat → List UInt8 → Except RestoreError Unit × List UInt8
  | 0, stream => (.error .eof, stream)
  | fuel + 1, stream =>
      match skipToIac stream with
      | none => (.error .eof, [])
      | some [] => (.error .eof, [])
      | some (c :: stream) =>
          if c = cIac ∨ c = cSe then awaitWillDo command code fuel stream
          else if c = cDo ∨ c = cDont then
            match stream with
            | [] => (.error .eof, [])
            | d :: stream =>
                if d ≠ code then awaitWillDo command code fuel stream
                -- A DO is answered with WILL or WON'T, and not with a DO or DON'T of the other side.
                else if command = cDo then (.error (.responseToDo d), stream)
                else if c = cDont then (.error (.saysDont d), stream)
                else (.ok (), stream)
          else if c = cWill ∨ c = cWont then
            match stream with
            | [] => (.error .eof, [])
            | d :: stream =>
                if d ≠ code then awaitWillDo command code fuel stream
                else if command = cWill then (.error (.responseToWill d), stream)
                else if c = cWont then (.error (.saysWont d), stream)
                else (.ok (), stream)
          else if c = cSb then
            match stream with
            | [] => (.error .eof, [])
            | d :: stream =>
                if d ≠ comPort then awaitWillDo command code fuel stream
                else
                  match stream with
                  | [] => (.error .eof, [])
                  | e :: stream =>
                      if e ≠ cpoServerNotifyLinestate ∧ e ≠ cpoServerNotifyModemstate then
                        awaitWillDo command code fuel stream
                      else
                        match stream with
                        | [] => (.error .eof, [])
                        | _ :: stream => awaitWillDo command code fuel stream
          else (.error (.unexpected c), stream)

def willdo (answer : List UInt8 → List UInt8) (command code : UInt8) (stream : List UInt8) :
    Except RestoreError Unit × List UInt8 :=
  let stream := stream ++ answer [cIac, command, code]
  awaitWillDo command code (stream.length + 1) stream

/-- The four calls joined by `||`. -/
def negotiate (answer : List UInt8 → List UInt8) (stream : List UInt8) :
    Except RestoreError Unit × List UInt8 :=
  match willdo answer cDo wdTransmitBinary stream with
  | (.error e, stream) => (.error e, stream)
  | (.ok (), stream) =>
      match willdo answer cWill wdTransmitBinary stream with
      | (.error e, stream) => (.error e, stream)
      | (.ok (), stream) =>
          match willdo answer cWill comPort stream with
          | (.error e, stream) => (.error e, stream)
          | (.ok (), stream) =>
              match sbComPortOption answer cpoSetModemstateMask [0] stream with
              | (.error e, stream) => (.error (.option e), stream)
              | (.ok _, stream) => (.ok (), stream)

/-! ## The texts of the options -/

/-- The value of a finite numeral. -/
def numeralValue : Numeral → Option Rat
  | .finite negative mantissa radix exponent =>
      let magnitude : Rat := mantissa * (radix : Rat) ^ exponent
      some (if negative then -magnitude else magnitude)
  | .infinity _ => none
  | .nan _ => none

/-- What a number is as a `float`, when it is compared with 1 and 2: the numbers next to them round to them. -/
def stopValue (x : Option Rat) : StopValue :=
  match x with
  | none => .other
  | some x =>
      if 1 - 1 / 2 ^ 25 ≤ x ∧ x ≤ 1 + 1 / 2 ^ 24 then .one
      else if 2 - 1 / 2 ^ 24 ≤ x ∧ x ≤ 2 + 1 / 2 ^ 23 then .two
      else .other

def parityOfText (val : List Char) : Option Parity :=
  if caseEq val "none" then some .none
  else if caseEq val "even" then some .even
  else if caseEq val "odd" then some .odd
  else if caseEq val "mark" then some .mark
  else if caseEq val "space" then some .space
  else none

/-- `crtscts` and `ixon`. -/
def yesOfText (val : List Char) : Option Bool :=
  if caseEq val "n" then some false else if caseEq val "y" then some true else none

def breakOfText (val : List Char) : BreakValue :=
  if caseEq val "on" then .on
  else if caseEq val "off" then .off
  else if val = [] ∨ (scanDecimal val).isSome = true then .pulse
  else .badNumber

def intOfText (val : List Char) : Option Int32 := (scanDecimal val).map fun n => Int32.ofInt n.1

def Setting.ofText (key : OptionKey) (val : String) : Setting :=
  match key with
  | .baud => .baud (intOfText val.toList)
  | .bits => .bits (intOfText val.toList)
  | .parity => .parity (parityOfText val.toList)
  | .stop => .stop ((scanFloat val.toList).map fun n => stopValue (numeralValue n.1))
  | .crtscts => .crtscts (yesOfText val.toList)
  | .ixon => .ixon (yesOfText val.toList)
  | .breakLine => .breakLine (breakOfText val.toList)

/-! ## The loop -/

/-- What is sent for one option. -/
abbrev Request := ComCommand × List UInt8

/-- `sizeof val`. -/
def sizeofVal : Nat := 20

/-- The loop over the keys; `val` is left by the round before.  The last component is what reaches the
server. -/
def restoreLoop (answer : List UInt8 → List UInt8) :
    List OptionKey → String → ComPort → Except OptionError Unit × ComPort × List Request
  | [], _, pinterposePvt => (.ok (), pinterposePvt, [])
  | key :: keys, val, pinterposePvt =>
      match getOption pinterposePvt key sizeofVal with
      | .error e => (.error e, pinterposePvt, [])
      | .ok text =>
          -- Where `getOption` writes nothing, the text of the round before is set again.
          let val := text.getD val
          let setting := Setting.ofText key val
          let sent := requests pinterposePvt setting
          match setOption answer pinterposePvt setting with
          | (.error e, pinterposePvt) => (.error e, pinterposePvt, sent)
          | (.ok (), pinterposePvt) =>
              let rest := restoreLoop answer keys val pinterposePvt
              (rest.1, rest.2.1, sent ++ rest.2.2)

def restoreKeys : List OptionKey := [.baud, .bits, .parity, .stop, .crtscts, .ixon]

/-- `restoreSettings`.  The array `val` is not initialized; the first round writes it. -/
def restoreSettings (answer : List UInt8 → List UInt8) (pinterposePvt : ComPort) :
    Except RestoreError Unit × ComPort × List Request :=
  match negotiate answer pinterposePvt.stream with
  | (.error e, stream) => (.error e, { pinterposePvt with stream := stream }, [])
  | (.ok (), stream) =>
      match restoreLoop answer restoreKeys "" { pinterposePvt with stream := stream } with
      | (.error e, restored) => (.error (.option e), restored)
      | (.ok (), restored) => (.ok (), restored)

/-! ## A server that accepts everything -/

/-- It agrees to each TELNET option, and answers each request with its value. -/
def comServer : List UInt8 → List UInt8
  | [c, d, e] =>
      if c = cIac ∧ d = cDo then [cIac, cWill, e]
      else if c = cIac ∧ d = cWill then [cIac, cDo, e]
      else []
  | bytes => echoServer.answer bytes

/-- The settings of the line at the server. -/
structure ServerLine where
  baud : UInt32
  bits : UInt8
  parity : UInt8
  stop : UInt8
  flow : UInt8
  deriving DecidableEq, Repr

/-- What the server does with a request.  The commands for a break are not about flow control. -/
def ServerLine.accept (line : ServerLine) : Request → ServerLine
  | (.setBaudrate, value) => { line with baud := baudOf value }
  | (.setDatasize, value) => { line with bits := value.headD 0 }
  | (.setParity, value) => { line with parity := value.headD 0 }
  | (.setStopsize, value) => { line with stop := value.headD 0 }
  | (.setControl, value) =>
      if value.headD 0 = cpoControlBreakOn ∨ value.headD 0 = cpoControlBreakOff then line
      else { line with flow := value.headD 0 }

/-- The settings of the layer. -/
structure Settings where
  baud : Int32
  bits : Int32
  parity : UInt8
  stop : Int32
  flow : UInt8
  deriving DecidableEq, Repr

def ComPort.settings (pinterposePvt : ComPort) : Settings :=
  ⟨pinterposePvt.baud, pinterposePvt.bits, pinterposePvt.parity, pinterposePvt.stop, pinterposePvt.flow⟩

def Settings.line (settings : Settings) : ServerLine :=
  ⟨settings.baud.toUInt32, settings.bits.toUInt32.toUInt8, settings.parity,
    settings.stop.toUInt32.toUInt8, settings.flow⟩

/-- After a reconnect nothing is unread, and the server has any settings. -/
structure Invisible (pinterposePvt : ComPort) : Prop where
  succeeds : (restoreSettings comServer pinterposePvt.drained).1 = .ok ()
  sent : ∀ line, (restoreSettings comServer pinterposePvt.drained).2.2.foldl ServerLine.accept line =
    pinterposePvt.settings.line
  kept : (restoreSettings comServer pinterposePvt.drained).2.1.settings = pinterposePvt.settings

/-- There is no flow control, and the replies show the settings: no byte of them is `IAC`. -/
structure Restorable (settings : Settings) : Prop where
  flow : settings.flow = cpoControlNoflow
  baud : cIac ∉ baudBytes settings.baud.toUInt32
  bits : settings.bits.toUInt32.toUInt8 ≠ cIac ∧
    settings.bits.toUInt32.toUInt8.toUInt32.toInt32 = settings.bits
  parity : ∃ parity : Parity, settings.parity = parity.code
  stop : settings.stop = 1 ∨ settings.stop = 2

/-! ## Texts -/

theorem toList_toString_int (a : Int) : (toString a).toList = decimal a := by
  unfold decimal
  cases a with
  | ofNat n =>
      have hnonneg : ¬ (Int.ofNat n < 0) := Int.not_lt.mpr (Int.natCast_nonneg n)
      rw [if_neg hnonneg]
      show (toString n).toList = _
      rw [Nat.toString_eq_ofList_toDigits, String.toList_ofList]
      rfl
  | negSucc n =>
      rw [if_pos (Int.negSucc_lt_zero n)]
      show ("-" ++ toString (n + 1)).toList = '-' :: Nat.toDigits 10 (n + 1)
      rw [String.toList_append, Nat.toString_eq_ofList_toDigits, String.toList_ofList,
        String.toList_ofList]
      rfl

/-- A number of the layer is scanned back. -/
theorem intOfText_toString (b : Int32) : intOfText (toString b).toList = some b := by
  have htext : (toString b).toList = decimal b.toInt := toList_toString_int b.toInt
  unfold intOfText
  rw [htext, scanDecimal_decimal, Option.map_some, Int32.ofInt_toInt]

theorem length_toString_lt (b : Int32) : (toString b).length < sizeofVal := by
  have htext : (toString b).toList = decimal b.toInt := toList_toString_int b.toInt
  have hlow := b.le_toInt
  have hhigh := b.toInt_lt
  have hdigits : (Nat.toDigits 10 b.toInt.natAbs).length ≤ 10 := by
    rw [Nat.length_toDigits_le_iff (by decide) (by decide)]
    omega
  rw [← String.length_toList, htext]
  unfold decimal sizeofVal
  split
  · rw [List.length_cons]
    omega
  · omega

theorem stop_ofText_one : Setting.ofText .stop (toString (1 : Int32)) = .stop (some .one) := by
  have hscan : scanFloat (toString (1 : Int32)).toList = some (.finite false 1 10 0, []) := by decide
  unfold Setting.ofText
  simp only [hscan, Option.map_some]
  norm_num [numeralValue, stopValue]

theorem stop_ofText_two : Setting.ofText .stop (toString (2 : Int32)) = .stop (some .two) := by
  have hscan : scanFloat (toString (2 : Int32)).toList = some (.finite false 2 10 0, []) := by decide
  unfold Setting.ofText
  simp only [hscan, Option.map_some]
  norm_num [numeralValue, stopValue]

/-! ## Replies of the server -/

/-- A request is longer than what `willdo` sends. -/
theorem comServer_request (command : UInt8) (value : List UInt8) :
    comServer (comPortRequest (command :: value)) =
      echoServer.answer (comPortRequest (command :: value)) := by
  have hrequest : ∃ d e rest, comPortRequest (command :: value) = cIac :: cSb :: comPort :: d :: e :: rest := by
    unfold comPortRequest stuffOption
    split
    · exact ⟨_, _, _, rfl⟩
    · cases hrest : stuffOption value with
      | nil => exact ⟨_, _, _, rfl⟩
      | cons d rest => exact ⟨_, _, _, rfl⟩
  obtain ⟨d, e, rest, hrequest⟩ := hrequest
  rw [hrequest]
  rfl

theorem sbComPortOption_comServer (command : UInt8) (value : List UInt8) :
    sbComPortOption comServer command value [] =
      sbComPortOption echoServer.answer command value [] := by
  unfold sbComPortOption
  simp only [comServer_request]

variable {pinterposePvt : ComPort} {command : ComCommand} {value : List UInt8}

theorem echoServer_iacFree : echoServer.IacFree command.code value ↔ cIac ∉ value :=
  ⟨fun hfree => hfree.2, fun hfree => ⟨nofun, hfree⟩⟩

/-- An exchange without an `IAC` in the value. -/
theorem exchange_comServer {accept : List UInt8 → ComPort → Except OptionError Unit × ComPort}
    (hstream : pinterposePvt.stream = []) (hfree : cIac ∉ value) :
    pinterposePvt.exchange comServer command value accept = accept value pinterposePvt := by
  have hecho : pinterposePvt.exchange echoServer.answer command value accept =
      accept value pinterposePvt :=
    exchange_stream hstream (echoServer_iacFree.mpr hfree)
  unfold ComPort.exchange at hecho ⊢
  rw [hstream] at hecho ⊢
  rw [sbComPortOption_comServer]
  exact hecho

/-! ### A reply with an `IAC` -/

/-- A list whose front repeats behind some `IAC`s has no other byte. -/
theorem eq_replicate_of_take {k : Nat}
    (htake : value = (List.replicate (k + 1) cIac ++ stuffOption value).take value.length) :
    value = List.replicate value.length cIac := by
  induction value generalizing k with
  | nil => rfl
  | cons c rest ih =>
      rw [List.replicate_succ, List.cons_append, List.length_cons, List.take_succ_cons] at htake
      obtain ⟨rfl, hrest⟩ := List.cons.inj htake
      have hstuff : stuffOption (cIac :: rest) = cIac :: cIac :: stuffOption rest := if_pos rfl
      -- The doubled `IAC` goes to the front, which is one longer for the rest.
      have hmore : List.replicate k cIac ++ stuffOption (cIac :: rest) =
          List.replicate (k + 1 + 1) cIac ++ stuffOption rest := by
        rw [hstuff, List.replicate_succ', List.replicate_succ']
        simp only [List.append_assoc, List.cons_append, List.nil_append]
      rw [hmore] at hrest
      rw [List.length_cons, List.replicate_succ]
      exact congrArg (cIac :: ·) (ih hrest)

theorem stuffOption_replicate (n : Nat) :
    stuffOption (List.replicate n cIac) = List.replicate (n + n) cIac := by
  induction n with
  | zero => rfl
  | succ n ih =>
      have hsum : n + 1 + (n + 1) = n + n + 1 + 1 := by omega
      rw [List.replicate_succ, hsum, List.replicate_succ, List.replicate_succ, ← ih]
      exact if_pos rfl

/-- When the first bytes of the reply are the value, an `IAC` in it leaves two of them behind. -/
theorem drop_stuffOption (hiac : cIac ∈ value)
    (htake : (stuffOption value).take value.length = value) :
    ∃ rest, (stuffOption value).drop value.length ++ [cIac, cSe] = cIac :: cIac :: rest := by
  induction value with
  | nil => exact nomatch hiac
  | cons c rest ih =>
      by_cases hc : c = cIac
      · subst hc
        have hstuff : stuffOption (cIac :: rest) = cIac :: cIac :: stuffOption rest := if_pos rfl
        rw [hstuff, List.length_cons, List.take_succ_cons] at htake
        have hrest : rest = (List.replicate (0 + 1) cIac ++ stuffOption rest).take rest.length :=
          (List.cons.inj htake).2.symm
        have hall := eq_replicate_of_take hrest
        rw [hstuff, List.length_cons, List.drop_succ_cons]
        generalize rest.length = n at hall
        -- All the bytes are `IAC`, and half of the doubled ones are left.
        have hdrop : (cIac :: stuffOption rest).drop n = List.replicate (n + 1) cIac := by
          rw [hall, stuffOption_replicate, ← List.replicate_succ, List.drop_replicate]
          congr 1
          omega
        rw [hdrop]
        cases n with
        | zero => exact ⟨[cSe], rfl⟩
        | succ n => exact ⟨List.replicate n cIac ++ [cIac, cSe], rfl⟩
      · have hstuff : stuffOption (c :: rest) = c :: stuffOption rest := if_neg hc
        rw [hstuff, List.length_cons, List.take_succ_cons] at htake
        rw [hstuff, List.length_cons, List.drop_succ_cons]
        exact ih ((List.mem_cons.mp hiac).resolve_left fun h => hc h.symm) (List.cons.inj htake).2

/-- What is read of a reply. -/
theorem sbComPortOption_ok {rBuf rest : List UInt8}
    (hread : sbComPortOption comServer command.code value [] = (.ok rBuf, rest)) :
    rBuf = (stuffOption value).take value.length ∧
      expectChars [cIac, cSe] ((stuffOption value).drop value.length ++ [cIac, cSe]) =
        (.ok (), rest) := by
  have hfits := (stuffOption_length value).1
  have hsends : sbComPortOption comServer command.code value [] =
      readReply command.code value.length
        (cIac :: cSb :: comPort :: (command.code + 100) :: (stuffOption value ++ [cIac, cSe])) := by
    rw [sbComPortOption_comServer]
    unfold sbComPortOption readReply
    simp only [List.nil_append, Server.answer_request]
    rfl
  have hlength : value.length ≤ (stuffOption value ++ [cIac, cSe]).length := by
    rw [List.length_append]
    exact hfits.trans (Nat.le_add_right _ _)
  rw [hsends, readReply_value _ command.code_low hlength,
    List.take_append_of_le_length hfits, List.drop_append_of_le_length hfits] at hread
  split at hread
  · exact nomatch congrArg Prod.fst hread
  · next rest' hexpect =>
      cases hread
      exact ⟨rfl, hexpect⟩

/-- A value with an `IAC` is not read back. -/
theorem sbComPortOption_iac {rest : List UInt8} (hiac : cIac ∈ value) :
    sbComPortOption comServer command.code value [] ≠ (.ok value, rest) := by
  intro hread
  obtain ⟨htake, hexpect⟩ := sbComPortOption_ok hread
  obtain ⟨rest', hdrop⟩ := drop_stuffOption hiac htake.symm
  rw [hdrop] at hexpect
  exact nomatch congrArg Prod.fst hexpect

/-- The value of four bytes. -/
theorem baudOf_toNat (r₀ r₁ r₂ r₃ : UInt8) : (baudOf [r₀, r₁, r₂, r₃]).toNat =
    r₀.toNat * 2 ^ 24 + (r₁.toNat * 2 ^ 16 + (r₂.toNat * 2 ^ 8 + r₃.toNat)) := by
  have h₀ := r₀.toNat_lt
  have h₁ := r₁.toNat_lt
  have h₂ := r₂.toNat_lt
  have h₃ := r₃.toNat_lt
  simp only [baudOf, UInt32.toNat_or, UInt32.toNat_shiftLeft, UInt8.toNat_toUInt32,
    UInt32.toNat_ofNat, Nat.or_assoc]
  have hlow := @shiftLeft_or_byte r₂.toNat r₃.toNat 8 h₃ (by omega) h₂
  have hmid := @shiftLeft_or_byte r₁.toNat (r₂.toNat * 2 ^ 8 + r₃.toNat) 16 (by omega) (by omega) h₁
  have hhigh := @shiftLeft_or_byte r₀.toNat (r₁.toNat * 2 ^ 16 + (r₂.toNat * 2 ^ 8 + r₃.toNat)) 24
    (by omega) (by omega) h₀
  rw [hlow, hmid, hhigh]

theorem baudOf_inj {a b : List UInt8} (ha : a.length = 4) (hb : b.length = 4)
    (heq : baudOf a = baudOf b) : a = b := by
  match a, b, ha, hb with
  | [a₀, a₁, a₂, a₃], [b₀, b₁, b₂, b₃], _, _ =>
      have hnat := congrArg UInt32.toNat heq
      rw [baudOf_toNat, baudOf_toNat] at hnat
      have ha₁ := a₁.toNat_lt
      have ha₂ := a₂.toNat_lt
      have ha₃ := a₃.toNat_lt
      have hb₁ := b₁.toNat_lt
      have hb₂ := b₂.toNat_lt
      have hb₃ := b₃.toNat_lt
      -- The bytes are the digits of the rate to the base 256.
      have h₀ : a₀ = b₀ := UInt8.toNat.inj (by omega)
      have h₁ : a₁ = b₁ := UInt8.toNat.inj (by omega)
      have h₂ : a₂ = b₂ := UInt8.toNat.inj (by omega)
      have h₃ : a₃ = b₃ := UInt8.toNat.inj (by omega)
      rw [h₀, h₁, h₂, h₃]

/-! ## The calls of `setOption` -/

variable {restored : ComPort}

theorem baudBytes_length (baud : UInt32) : (baudBytes baud).length = 4 := rfl

theorem setOption_baud_iff (hstream : pinterposePvt.stream = []) {b : Int32} :
    setOption comServer pinterposePvt (.baud (some b)) = (.ok (), restored) ↔
      cIac ∉ baudBytes b.toUInt32 ∧ restored = { pinterposePvt with baud := b } := by
  have hback : (baudOf (baudBytes b.toUInt32)).toInt32 = b := by
    rw [baudOf_baudBytes]
    rfl
  constructor
  · intro hset
    by_cases hiac : cIac ∈ baudBytes b.toUInt32
    · -- What is read is not the rate.
      exfalso
      simp only [setOption, setBaud, ComPort.exchange, hstream] at hset
      split at hset
      · cases congrArg Prod.fst hset
      · next rBuf rest hread =>
          split at hset
          · cases congrArg Prod.fst hset
          · next hbaud =>
              have hsame : baudOf rBuf = baudOf (baudBytes b.toUInt32) := by
                have hrate := not_not.mp hbaud
                rw [← hback] at hrate
                exact congrArg Int32.toUInt32 hrate
              have hlength : rBuf.length = 4 := by
                rw [(sbComPortOption_ok hread).1, List.length_take, baudBytes_length]
                exact Nat.min_eq_left (stuffOption_length (baudBytes b.toUInt32)).1
              have hvalue := baudOf_inj hlength (baudBytes_length _) hsame
              rw [hvalue] at hread
              exact sbComPortOption_iac hiac hread
    · refine ⟨hiac, ?_⟩
      simp only [setOption, setBaud, exchange_comServer hstream hiac, hback, ne_eq,
        not_true_eq_false, if_false] at hset
      exact (congrArg Prod.snd hset).symm
  · rintro ⟨hfree, rfl⟩
    simp only [setOption, setBaud, exchange_comServer hstream hfree, hback, ne_eq,
      not_true_eq_false, if_false]

theorem iac_not_mem_singleton {c : UInt8} (hc : c ≠ cIac) : cIac ∉ [c] :=
  fun h => hc (List.mem_singleton.mp h).symm

theorem setOption_bits_iff (hstream : pinterposePvt.stream = []) {b : Int32} :
    setOption comServer pinterposePvt (.bits (some b)) = (.ok (), restored) ↔
      (b.toUInt32.toUInt8 ≠ cIac ∧ b.toUInt32.toUInt8.toUInt32.toInt32 = b) ∧
        restored = { pinterposePvt with bits := b } := by
  constructor
  · intro hset
    by_cases hiac : b.toUInt32.toUInt8 = cIac
    · exfalso
      simp only [setOption, setBits, ComPort.exchange, hstream, hiac] at hset
      split at hset
      · cases congrArg Prod.fst hset
      · next rBuf rest hread =>
          have hvalue : rBuf = [cIac] := (sbComPortOption_ok hread).1
          rw [hvalue] at hread
          exact sbComPortOption_iac (List.mem_singleton.mpr rfl) hread
    · simp only [setOption, setBits, exchange_comServer hstream (iac_not_mem_singleton hiac),
        List.headD_cons] at hset
      by_cases hback : b.toUInt32.toUInt8.toUInt32.toInt32 = b
      · refine ⟨⟨hiac, hback⟩, ?_⟩
        simp only [hback, ne_eq, not_true_eq_false, if_false] at hset
        exact (congrArg Prod.snd hset).symm
      -- The byte that comes back is another number, and the layer refuses it.
      · simp only [hback, ne_eq, not_false_eq_true, if_true] at hset
        cases congrArg Prod.fst hset
  · rintro ⟨⟨hiac, hback⟩, rfl⟩
    simp only [setOption, setBits, exchange_comServer hstream (iac_not_mem_singleton hiac),
      List.headD_cons, hback, ne_eq, not_true_eq_false, if_false]

theorem Parity.code_free (parity : Parity) : cIac ∉ [parity.code] := by
  cases parity with
  | _ => decide

theorem setOption_parity_iff (hstream : pinterposePvt.stream = []) {val : Option Parity} :
    setOption comServer pinterposePvt (.parity val) = (.ok (), restored) ↔
      ∃ parity, val = some parity ∧ restored = { pinterposePvt with parity := parity.code } := by
  cases val with
  | none => exact ⟨fun h => (nomatch congrArg Prod.fst h), fun ⟨_, h, _⟩ => (nomatch h)⟩
  | some parity =>
      simp only [setOption, setParity, exchange_comServer hstream parity.code_free, List.headD_cons]
      constructor
      · intro hset
        exact ⟨parity, rfl, (congrArg Prod.snd hset).symm⟩
      · rintro ⟨_, hparity, rfl⟩
        cases hparity
        rfl

/-- The stop bits that are sent. -/
def stopBits : StopValue → Int32
  | .one => 1
  | .two => 2
  | .other => 0

theorem setOption_stop_iff (hstream : pinterposePvt.stream = []) {val : Option StopValue} :
    setOption comServer pinterposePvt (.stop val) = (.ok (), restored) ↔
      ∃ stop, val = some stop ∧ stop ≠ .other ∧
        restored = { pinterposePvt with stop := stopBits stop } := by
  have hone : cIac ∉ [(1 : UInt8)] := by decide
  have htwo : cIac ∉ [(2 : UInt8)] := by decide
  cases val with
  | none =>
      constructor
      · intro hset
        cases congrArg Prod.fst hset
      · rintro ⟨_, hstop, -⟩
        cases hstop
  | some stop =>
      constructor
      · intro hset
        refine ⟨stop, rfl, ?_⟩
        cases stop with
        | one =>
            simp only [setOption, setStop, exchange_comServer hstream hone] at hset
            exact ⟨StopValue.noConfusion, (congrArg Prod.snd hset).symm⟩
        | two =>
            simp only [setOption, setStop, exchange_comServer hstream htwo] at hset
            exact ⟨StopValue.noConfusion, (congrArg Prod.snd hset).symm⟩
        | other => cases congrArg Prod.fst hset
      · rintro ⟨_, hstop, hother, rfl⟩
        cases hstop
        cases stop with
        | one =>
            simp only [setOption, setStop, exchange_comServer hstream hone]
            rfl
        | two =>
            simp only [setOption, setStop, exchange_comServer hstream htwo]
            rfl
        | other => exact absurd rfl hother

theorem setFlow_comServer (hstream : pinterposePvt.stream = []) {flow : UInt8} (hflow : flow ≠ cIac) :
    setFlow comServer pinterposePvt flow = (.ok (), { pinterposePvt with flow := flow }) := by
  unfold setFlow
  rw [exchange_comServer hstream (iac_not_mem_singleton hflow)]
  rfl

/-- `crtscts` and `ixon` set the flow control, and differ in what they switch on. -/
theorem ok_iff_of_setFlow (set : Option Bool → Except OptionError Unit × ComPort) {on : UInt8}
    (hstream : pinterposePvt.stream = []) (hon : on ≠ cIac) (hnone : (set none).1 ≠ .ok ())
    (hsome : ∀ yes, set (some yes) =
      setFlow comServer pinterposePvt (if yes then on else cpoControlNoflow)) {val : Option Bool} :
    set val = (.ok (), restored) ↔
      ∃ yes, val = some yes ∧
        restored = { pinterposePvt with flow := if yes then on else cpoControlNoflow } := by
  cases val with
  | none => exact ⟨fun h => absurd (congrArg Prod.fst h) hnone, fun ⟨_, h, _⟩ => (nomatch h)⟩
  | some yes =>
      have hflow : (if yes then on else cpoControlNoflow) ≠ cIac := by
        cases yes with
        | false => exact (by decide : cpoControlNoflow ≠ cIac)
        | true => exact hon
      rw [hsome, setFlow_comServer hstream hflow]
      constructor
      · intro hset
        exact ⟨yes, rfl, (congrArg Prod.snd hset).symm⟩
      · rintro ⟨_, hyes, rfl⟩
        cases hyes
        rfl

theorem setOption_crtscts_iff (hstream : pinterposePvt.stream = []) {val : Option Bool} :
    setOption comServer pinterposePvt (.crtscts val) = (.ok (), restored) ↔
      ∃ yes, val = some yes ∧ restored =
        { pinterposePvt with flow := if yes then cpoControlHwflow else cpoControlNoflow } :=
  have hon : cpoControlHwflow ≠ cIac := by decide
  ok_iff_of_setFlow (fun val => setOption comServer pinterposePvt (.crtscts val)) hstream hon nofun
    fun _ => rfl

theorem setOption_ixon_iff (hstream : pinterposePvt.stream = []) {val : Option Bool} :
    setOption comServer pinterposePvt (.ixon val) = (.ok (), restored) ↔
      ∃ yes, val = some yes ∧ restored =
        { pinterposePvt with flow := if yes then cpoControlIxon else cpoControlNoflow } :=
  have hon : cpoControlIxon ≠ cIac := by decide
  ok_iff_of_setFlow (fun val => setOption comServer pinterposePvt (.ixon val)) hstream hon nofun
    fun _ => rfl

/-! ## The loop over the keys -/

variable {answer : List UInt8 → List UInt8} {key : OptionKey} {keys : List OptionKey} {val : String}

theorem restoreLoop_round {text : Option String}
    (hget : getOption pinterposePvt key sizeofVal = .ok text)
    (hset : setOption answer pinterposePvt (Setting.ofText key (text.getD val)) = (.ok (), restored)) :
    restoreLoop answer (key :: keys) val pinterposePvt =
      ((restoreLoop answer keys (text.getD val) restored).1,
        (restoreLoop answer keys (text.getD val) restored).2.1,
        requests pinterposePvt (Setting.ofText key (text.getD val)) ++
          (restoreLoop answer keys (text.getD val) restored).2.2) := by
  conv_lhs => unfold restoreLoop
  simp only [hget, hset]

/-- A round that leaves the layer as it is. -/
theorem restoreLoop_same {text : String} {setting : Setting}
    (hget : getOption pinterposePvt key sizeofVal = .ok (some text))
    (htext : Setting.ofText key text = setting)
    (hset : setOption answer pinterposePvt setting = (.ok (), pinterposePvt)) :
    restoreLoop answer (key :: keys) val pinterposePvt =
      ((restoreLoop answer keys text pinterposePvt).1, (restoreLoop answer keys text pinterposePvt).2.1,
        requests pinterposePvt setting ++ (restoreLoop answer keys text pinterposePvt).2.2) := by
  subst htext
  exact restoreLoop_round hget hset

/-- A loop that succeeds gets through its first round, and its rest ends in the same settings. -/
theorem restoreLoop_ok (hok : (restoreLoop answer (key :: keys) val pinterposePvt).1 = .ok ()) :
    ∃ text restored, getOption pinterposePvt key sizeofVal = .ok text ∧
      setOption answer pinterposePvt (Setting.ofText key (text.getD val)) = (.ok (), restored) ∧
      (restoreLoop answer keys (text.getD val) restored).1 = .ok () ∧
      (restoreLoop answer (key :: keys) val pinterposePvt).2.1 =
        (restoreLoop answer keys (text.getD val) restored).2.1 := by
  cases hget : getOption pinterposePvt key sizeofVal with
  | error e =>
      unfold restoreLoop at hok
      simp only [hget] at hok
      exact nomatch hok
  | ok text =>
      cases hset : setOption answer pinterposePvt (Setting.ofText key (text.getD val)) with
      | mk result restored =>
          cases result with
          | error e =>
              unfold restoreLoop at hok
              simp only [hget, hset] at hok
              exact nomatch hok
          | ok _ =>
              rw [restoreLoop_round hget hset] at hok ⊢
              exact ⟨text, restored, rfl, hset, hok, rfl⟩

theorem getOption_number {b : Int32} (htext : optionText pinterposePvt key = .ok (some (toString b))) :
    getOption pinterposePvt key sizeofVal = .ok (some (toString b)) := by
  unfold getOption
  rw [htext]
  exact if_neg (Nat.not_le.mpr (length_toString_lt b))

/-- The round of a number. -/
theorem round_baud {text : Option String} (hget : getOption pinterposePvt .baud sizeofVal = .ok text) :
    Setting.ofText .baud (text.getD val) = .baud (some pinterposePvt.baud) := by
  have hnumber : getOption pinterposePvt .baud sizeofVal =
      .ok (some (toString pinterposePvt.baud)) := getOption_number rfl
  cases hget.symm.trans hnumber
  exact congrArg Setting.baud (intOfText_toString _)

theorem round_bits {text : Option String} (hget : getOption pinterposePvt .bits sizeofVal = .ok text) :
    Setting.ofText .bits (text.getD val) = .bits (some pinterposePvt.bits) := by
  have hnumber : getOption pinterposePvt .bits sizeofVal =
      .ok (some (toString pinterposePvt.bits)) := getOption_number rfl
  cases hget.symm.trans hnumber
  exact congrArg Setting.bits (intOfText_toString _)

def parityText : Parity → String
  | .none => "none"
  | .even => "even"
  | .odd => "odd"
  | .mark => "mark"
  | .space => "space"

theorem round_parity {parity : Parity} (hparity : pinterposePvt.parity = parity.code) :
    getOption pinterposePvt .parity sizeofVal = .ok (some (parityText parity)) ∧
      Setting.ofText .parity (parityText parity) = .parity (some parity) := by
  unfold getOption optionText
  rw [hparity]
  cases parity with
  | _ => exact ⟨rfl, by decide⟩

theorem round_stop {stop : StopValue} (hother : stop ≠ .other)
    (hstop : pinterposePvt.stop = stopBits stop) :
    getOption pinterposePvt .stop sizeofVal = .ok (some (toString (stopBits stop))) ∧
      Setting.ofText .stop (toString (stopBits stop)) = .stop (some stop) := by
  refine ⟨getOption_number ?_, ?_⟩
  · unfold optionText
    rw [hstop]
  · cases stop with
    | one => exact stop_ofText_one
    | two => exact stop_ofText_two
    | other => exact absurd rfl hother

theorem round_noflow (hflow : pinterposePvt.flow = cpoControlNoflow) :
    (getOption pinterposePvt .crtscts sizeofVal = .ok (some "N") ∧
      Setting.ofText .crtscts "N" = .crtscts (some false)) ∧
    getOption pinterposePvt .ixon sizeofVal = .ok (some "N") ∧
      Setting.ofText .ixon "N" = .ixon (some false) := by
  unfold getOption optionText
  rw [hflow]
  exact ⟨⟨rfl, by decide⟩, rfl, by decide⟩

/-- The request of each key, for settings without flow control. -/
def restoreRequests (settings : Settings) (parity : Parity) (stop : StopValue) : List Request :=
  [(.setBaudrate, baudBytes settings.baud.toUInt32), (.setDatasize, [settings.bits.toUInt32.toUInt8]),
    (.setParity, [parity.code]), (.setStopsize, [(stopBits stop).toUInt32.toUInt8]),
    (.setControl, [cpoControlNoflow]), (.setControl, [cpoControlNoflow])]

theorem foldl_restoreRequests {settings : Settings} {parity : Parity} {stop : StopValue}
    (hflow : settings.flow = cpoControlNoflow) (hparity : settings.parity = parity.code)
    (hstop : settings.stop = stopBits stop) (line : ServerLine) :
    (restoreRequests settings parity stop).foldl ServerLine.accept line = settings.line := by
  have hbaud := baudOf_baudBytes settings.baud.toUInt32
  unfold Settings.line
  rw [← hbaud, hflow, hparity, hstop]
  rfl

/-- Every round leaves the settings as they are. -/
theorem restoreLoop_of_restorable (hstream : pinterposePvt.stream = [])
    (hrestorable : Restorable pinterposePvt.settings) :
    ∃ parity stop, pinterposePvt.parity = parity.code ∧ pinterposePvt.stop = stopBits stop ∧
      restoreLoop comServer restoreKeys "" pinterposePvt =
        (.ok (), pinterposePvt, restoreRequests pinterposePvt.settings parity stop) := by
  obtain ⟨hflow, hbaud, hbits, ⟨parity, hparity⟩, hstop⟩ := hrestorable
  have hflow' : pinterposePvt.flow = cpoControlNoflow := hflow
  have hparity' : pinterposePvt.parity = parity.code := hparity
  obtain ⟨stop, hother, hstop'⟩ : ∃ stop, stop ≠ .other ∧ pinterposePvt.stop = stopBits stop := by
    rcases hstop with hone | htwo
    · exact ⟨.one, nofun, hone⟩
    · exact ⟨.two, nofun, htwo⟩
  refine ⟨parity, stop, hparity', hstop', ?_⟩
  have hgetBaud : getOption pinterposePvt .baud sizeofVal =
      .ok (some (toString pinterposePvt.baud)) := getOption_number rfl
  have hsetBaud : setOption comServer pinterposePvt (.baud (some pinterposePvt.baud)) =
      (.ok (), pinterposePvt) := (setOption_baud_iff hstream).mpr ⟨hbaud, rfl⟩
  have hgetBits : getOption pinterposePvt .bits sizeofVal =
      .ok (some (toString pinterposePvt.bits)) := getOption_number rfl
  have hsetBits : setOption comServer pinterposePvt (.bits (some pinterposePvt.bits)) =
      (.ok (), pinterposePvt) := (setOption_bits_iff hstream).mpr ⟨hbits, rfl⟩
  obtain ⟨hgetParity, htextParity⟩ := round_parity hparity'
  have hsetParity : setOption comServer pinterposePvt (.parity (some parity)) =
      (.ok (), pinterposePvt) := by
    refine (setOption_parity_iff hstream).mpr ⟨parity, rfl, ?_⟩
    rw [← hparity']
  obtain ⟨hgetStop, htextStop⟩ := round_stop hother hstop'
  have hsetStop : setOption comServer pinterposePvt (.stop (some stop)) = (.ok (), pinterposePvt) := by
    refine (setOption_stop_iff hstream).mpr ⟨stop, rfl, hother, ?_⟩
    rw [← hstop']
  obtain ⟨⟨hgetCrtscts, htextCrtscts⟩, hgetIxon, htextIxon⟩ := round_noflow hflow'
  have hsetCrtscts : setOption comServer pinterposePvt (.crtscts (some false)) =
      (.ok (), pinterposePvt) := by
    refine (setOption_crtscts_iff hstream).mpr ⟨false, rfl, ?_⟩
    rw [if_neg Bool.false_ne_true, ← hflow']
  have hsetIxon : setOption comServer pinterposePvt (.ixon (some false)) = (.ok (), pinterposePvt) := by
    refine (setOption_ixon_iff hstream).mpr ⟨false, rfl, ?_⟩
    rw [if_neg Bool.false_ne_true, ← hflow']
  have htextBaud : Setting.ofText .baud (toString pinterposePvt.baud) =
      .baud (some pinterposePvt.baud) := congrArg Setting.baud (intOfText_toString _)
  have htextBits : Setting.ofText .bits (toString pinterposePvt.bits) =
      .bits (some pinterposePvt.bits) := congrArg Setting.bits (intOfText_toString _)
  -- Each round sets what the layer has.
  unfold restoreKeys
  rw [restoreLoop_same hgetBaud htextBaud hsetBaud, restoreLoop_same hgetBits htextBits hsetBits,
    restoreLoop_same hgetParity htextParity hsetParity, restoreLoop_same hgetStop htextStop hsetStop,
    restoreLoop_same hgetCrtscts htextCrtscts hsetCrtscts,
    restoreLoop_same hgetIxon htextIxon hsetIxon]
  cases stop with
  | one => rfl
  | two => rfl
  | other => exact absurd rfl hother

/-! ## The results -/

theorem negotiate_comServer : negotiate comServer [] = (.ok (), []) := rfl

/-- The layer agrees with the server on the TELNET options, and the loop decides. -/
theorem restoreSettings_comServer (pinterposePvt : ComPort) :
    restoreSettings comServer pinterposePvt.drained =
      match restoreLoop comServer restoreKeys "" pinterposePvt.drained with
      | (.error e, restored) => (.error (.option e), restored)
      | (.ok (), restored) => (.ok (), restored) := by
  unfold restoreSettings
  have hstream : pinterposePvt.drained.stream = [] := rfl
  rw [hstream, negotiate_comServer]
  rfl

theorem invisible_of_restorable (hrestorable : Restorable pinterposePvt.settings) :
    Invisible pinterposePvt := by
  have hdrained : Restorable pinterposePvt.drained.settings := hrestorable
  obtain ⟨parity, stop, hparity, hstop, hloop⟩ := restoreLoop_of_restorable rfl hdrained
  have hrestore := restoreSettings_comServer pinterposePvt
  rw [hloop] at hrestore
  refine ⟨?_, fun line => ?_, ?_⟩
  · rw [hrestore]
  · rw [hrestore]
    exact foldl_restoreRequests hrestorable.flow hparity hstop line
  · rw [hrestore]
    rfl

/-- The last round sets the flow control; the one before it has left no XON/XOFF. -/
theorem restorable_of_invisible (hinvisible : Invisible pinterposePvt) :
    Restorable pinterposePvt.settings := by
  have hrestore := restoreSettings_comServer pinterposePvt
  have hok : (restoreLoop comServer restoreKeys "" pinterposePvt.drained).1 = .ok () := by
    have hsucceeds := hinvisible.succeeds
    rw [hrestore] at hsucceeds
    split at hsucceeds
    · exact nomatch hsucceeds
    · next hloop => rw [hloop]
  have hkept : (restoreLoop comServer restoreKeys "" pinterposePvt.drained).2.1.settings =
      pinterposePvt.settings := by
    have hkept := hinvisible.kept
    rw [hrestore] at hkept
    split at hkept
    · next hloop =>
        rw [hloop] at hok
        exact nomatch hok
    · next hloop =>
        rw [hloop]
        exact hkept
  obtain ⟨text₁, restored₁, hget₁, hset₁, hok₁, hsame₁⟩ := restoreLoop_ok hok
  rw [round_baud hget₁] at hset₁
  obtain ⟨hbaud, rfl⟩ := (setOption_baud_iff rfl).mp hset₁
  obtain ⟨text₂, restored₂, hget₂, hset₂, hok₂, hsame₂⟩ := restoreLoop_ok hok₁
  rw [round_bits hget₂] at hset₂
  obtain ⟨hbits, rfl⟩ := (setOption_bits_iff rfl).mp hset₂
  obtain ⟨text₃, restored₃, hget₃, hset₃, hok₃, hsame₃⟩ := restoreLoop_ok hok₂
  obtain ⟨parity, -, rfl⟩ := (setOption_parity_iff rfl).mp hset₃
  obtain ⟨text₄, restored₄, hget₄, hset₄, hok₄, hsame₄⟩ := restoreLoop_ok hok₃
  obtain ⟨stop, -, hother, rfl⟩ := (setOption_stop_iff rfl).mp hset₄
  obtain ⟨text₅, restored₅, hget₅, hset₅, hok₅, hsame₅⟩ := restoreLoop_ok hok₄
  obtain ⟨yes, -, rfl⟩ := (setOption_crtscts_iff rfl).mp hset₅
  obtain ⟨text₆, restored₆, hget₆, hset₆, -, hsame₆⟩ := restoreLoop_ok hok₅
  have hlast := hsame₁.trans (hsame₂.trans (hsame₃.trans (hsame₄.trans (hsame₅.trans hsame₆))))
  have hkeys : restoreKeys = [.baud, .bits, .parity, .stop, .crtscts, .ixon] := rfl
  rw [hkeys, hlast] at hkept
  -- Whatever `crtscts` has set, the flow control is not XON/XOFF now.
  have htext : text₆ = some "N" := by
    cases yes with
    | _ =>
        cases hget₆
        rfl
  subst htext
  obtain ⟨no, hno, rfl⟩ := (setOption_ixon_iff rfl).mp hset₆
  have hplain : no = false := by
    have htextNo : yesOfText "N".toList = some false := by decide
    exact Option.some.inj (hno.symm.trans htextNo)
  subst hplain
  refine ⟨(congrArg Settings.flow hkept).symm, hbaud, hbits,
    ⟨parity, (congrArg Settings.parity hkept).symm⟩, ?_⟩
  have hstop := (congrArg Settings.stop hkept).symm
  cases stop with
  | one => exact .inl hstop
  | two => exact .inr hstop
  | other => exact absurd rfl hother

/-- A reconnect is invisible exactly without flow control, for settings that a reply can show. -/
theorem invisible_iff (pinterposePvt : ComPort) :
    Invisible pinterposePvt ↔ Restorable pinterposePvt.settings :=
  ⟨restorable_of_invisible, invisible_of_restorable⟩

/-- Hardware flow control is set, and is off after a reconnect. -/
theorem flow_lost :
    ∃ pinterposePvt, setOption comServer ComPort.start (.crtscts (some true)) = (.ok (), pinterposePvt) ∧
      (restoreSettings comServer pinterposePvt.drained).2.1.flow = cpoControlNoflow ∧
      ¬ Invisible pinterposePvt := by
  refine ⟨{ ComPort.start with flow := cpoControlHwflow }, rfl, ?_, fun hinvisible => ?_⟩
  · decide +kernel
  · have hflow := (restorable_of_invisible hinvisible).flow
    exact absurd hflow (by decide)

end Miscellaneous
end AsynDriver
