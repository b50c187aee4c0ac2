import AsynDriver.Miscellaneous.ComPortOption

/-!
# Replies to the COM-PORT options

A server that follows RFC 2217, and any sequence of `setOption` calls.

* `Server` — it takes the request apart, sends what it likes before the reply, and doubles every
  `IAC` of the reply.
* `sbComPortOption_iff` — the layer decodes the reply exactly if nothing in it had to be doubled: the
  request is escaped, but the reply is read as a block of fixed size.
* `settingsDecoded_iff_iacFree` — the same for every call of a sequence.
-/

namespace AsynDriver
namespace Miscellaneous

open Manager (AsynStatus)

/-! ## The loop over the stream -/

theorem skipToIac_length {stream rest : List UInt8} (hskip : skipToIac stream = some rest) :
    rest.length < stream.length := by
  induction stream with
  | nil => cases hskip
  | cons c stream ih =>
      unfold skipToIac at hskip
      split at hskip
      · cases hskip
        simp
      · have := ih hskip
        rw [List.length_cons]
        omega

theorem expectChars_length (expected stream : List UInt8) :
    (expectChars expected stream).2.length ≤ stream.length ∧
      stream.length ≤ (expectChars expected stream).2.length + expected.length := by
  induction expected generalizing stream with
  | nil => simp [expectChars]
  | cons expect others ih =>
      cases stream with
      | nil => simp [expectChars]
      | cons c stream =>
          unfold expectChars
          split
          · have := ih stream
            simp only [List.length_cons]
            omega
          · simp only [List.length_cons]
            omega

/-- Any fuel is enough when it exceeds the length of the stream. -/
theorem awaitReply_fuel {command : UInt8} {n fuel fuel' : Nat} {stream : List UInt8}
    (hfuel : stream.length < fuel) (hfuel' : stream.length < fuel') :
    awaitReply command n fuel stream = awaitReply command n fuel' stream := by
  induction fuel generalizing fuel' stream with
  | zero => omega
  | succ fuel ih =>
      cases fuel' with
      | zero => omega
      | succ fuel' =>
          unfold awaitReply
          cases hskip : skipToIac stream with
          | none => rfl
          | some stream₁ =>
              have hlength₁ := skipToIac_length hskip
              have hlength₂ := (expectChars_length [cSb, comPort] stream₁).1
              simp only
              generalize expectChars [cSb, comPort] stream₁ = r₂ at hlength₂
              obtain ⟨e | ⟨⟨⟩⟩, _ | ⟨c, stream₂⟩⟩ := r₂
              · rfl
              · rfl
              · rfl
              · simp only [List.length_cons] at hlength₂ ⊢
                by_cases hnotify : c = cpoServerNotifyLinestate ∨ c = cpoServerNotifyModemstate
                · simp only [if_pos hnotify]
                  cases stream₂ with
                  | nil => rfl
                  | cons state stream₃ =>
                      -- only a notification goes round again, after four bytes at least
                      have hlength₃ := (expectChars_length [cIac, cSe] stream₃).1
                      simp only [List.length_cons] at hlength₂ ⊢
                      generalize expectChars [cIac, cSe] stream₃ = r₄ at hlength₃
                      obtain ⟨e | ⟨⟨⟩⟩, stream₄⟩ := r₄
                      · rfl
                      · simp only at hlength₃
                        exact ih (by omega) (by omega)
                · simp only [if_neg hnotify]

/-- `sbComPortOption` after its write. -/
def readReply (command : UInt8) (n : Nat) (stream : List UInt8) : ComResult (List UInt8) :=
  awaitReply command n (stream.length + 1) stream

theorem readReply_skip {command c : UInt8} {n : Nat} {stream : List UInt8} (hc : c ≠ cIac) :
    readReply command n (c :: stream) = readReply command n stream := by
  have hskip : ∀ fuel, awaitReply command n (fuel + 1) (c :: stream) =
      awaitReply command n (fuel + 1) stream := by
    intro fuel
    unfold awaitReply
    rw [skipToIac, if_neg hc]
  unfold readReply
  rw [hskip]
  exact awaitReply_fuel (by rw [List.length_cons]; omega) (by omega)

theorem readReply_notify {command code state : UInt8} {n : Nat} {stream : List UInt8}
    (hcode : code = cpoServerNotifyLinestate ∨ code = cpoServerNotifyModemstate) :
    readReply command n (cIac :: cSb :: comPort :: code :: state :: cIac :: cSe :: stream) =
      readReply command n stream := by
  unfold readReply
  conv_lhs => unfold awaitReply
  simp only [skipToIac, expectChars, if_true, if_pos hcode]
  apply awaitReply_fuel
  · simp only [List.length_cons]
    omega
  · omega

theorem readReply_value {command : UInt8} {n : Nat} (value : List UInt8)
    (hlow : command + 100 ≠ cpoServerNotifyLinestate ∧ command + 100 ≠ cpoServerNotifyModemstate)
    (hn : n ≤ value.length) :
    readReply command n (cIac :: cSb :: comPort :: (command + 100) :: value) =
      match expectChars [cIac, cSe] (value.drop n) with
      | (.error e, rest) => (.error e, rest)
      | (.ok (), rest) => (.ok (value.take n), rest) := by
  have hnotify : ¬(command + 100 = cpoServerNotifyLinestate ∨
      command + 100 = cpoServerNotifyModemstate) := by
    rintro (h | h)
    · exact hlow.1 h
    · exact hlow.2 h
  unfold readReply
  conv_lhs => unfold awaitReply
  rcases hr : expectChars [cIac, cSe] (value.drop n) with ⟨e | ⟨⟨⟩⟩, rest⟩
  · simp only [skipToIac, expectChars, if_true, if_neg hnotify, if_neg (Nat.not_lt.mpr hn), hr]
  · simp only [skipToIac, expectChars, if_true, if_neg hnotify, if_neg (Nat.not_lt.mpr hn), hr]

/-! ## Stuffing -/

theorem stuffOption_of_free {value : List UInt8} (hfree : cIac ∉ value) :
    stuffOption value = value := by
  induction value with
  | nil => rfl
  | cons c rest ih =>
      have hc : c ≠ cIac := fun h => hfree (by rw [h]; exact List.mem_cons_self)
      rw [stuffOption, if_neg hc, ih fun h => hfree (List.mem_cons_of_mem _ h)]

theorem stuffOption_length (value : List UInt8) :
    value.length ≤ (stuffOption value).length ∧
      (cIac ∈ value → value.length < (stuffOption value).length) := by
  induction value with
  | nil => simp [stuffOption]
  | cons c rest ih =>
      unfold stuffOption
      split
      · next hc =>
        simp only [List.length_cons]
        omega
      · next hc =>
        simp only [List.length_cons, List.mem_cons]
        refine ⟨by omega, ?_⟩
        rintro (h | h)
        · exact absurd h.symm hc
        · have := ih.2 h
          omega

/-! ## The server -/

/-- A part of the stream before a reply: a character from the line, or the state of line or modem. -/
inductive Interlude
  | data (c : UInt8)
  | notify (modem : Bool) (state : UInt8)

def notifyCode (modem : Bool) : UInt8 :=
  if modem then cpoServerNotifyModemstate else cpoServerNotifyLinestate

def Interlude.bytes : Interlude → List UInt8
  | .data c => stuffOption [c]
  | .notify modem state =>
      [cIac, cSb, comPort, notifyCode modem] ++ stuffOption [state] ++ [cIac, cSe]

/-- The character or the state is not `IAC`. -/
def Interlude.IacFree : Interlude → Prop
  | .data c => c ≠ cIac
  | .notify _ state => state ≠ cIac

/-- The bytes of a sub-negotiation up to `IAC SE`, with doubled `IAC`s reduced. -/
def payload : List UInt8 → Option (List UInt8)
  | [] => none
  | [_] => none
  | c :: d :: rest =>
      if c = cIac then
        if d = cIac then (payload rest).map (c :: ·) else if d = cSe then some [] else none
      else (payload (d :: rest)).map (c :: ·)

/-- A server during one call of `setOption`: what it sends before the reply to a command and its
value, and the value that it then replies.  It accepts every positive baud rate. -/
structure Server where
  before : UInt8 → List UInt8 → List Interlude
  reply : UInt8 → List UInt8 → List UInt8
  length_reply : ∀ command value, (reply command value).length = value.length
  accepts : ∀ b : Int32, 0 < b →
    reply ComCommand.setBaudrate.code (baudBytes b.toUInt32) = baudBytes b.toUInt32

/-- What the server sends for a command and its value. -/
def Server.sends (server : Server) (command : UInt8) (value : List UInt8) : List UInt8 :=
  (server.before command value).flatMap Interlude.bytes ++
    ([cIac, cSb, comPort, command + 100] ++ stuffOption (server.reply command value) ++ [cIac, cSe])

/-- What the server sends when it gets some bytes. -/
def Server.answer (server : Server) : List UInt8 → List UInt8
  | c :: d :: e :: rest =>
      if c = cIac ∧ d = cSb ∧ e = comPort then
        match payload rest with
        | some (command :: value) => server.sends command value
        | _ => []
      else []
  | _ => []

/-- The server understands the request. -/
theorem payload_stuffOption (value : List UInt8) :
    payload (stuffOption value ++ [cIac, cSe]) = some value := by
  induction value with
  | nil => rfl
  | cons c rest ih =>
      by_cases hc : c = cIac
      · subst hc
        simp only [stuffOption, if_true, List.cons_append, payload, ih, Option.map_some]
      · obtain ⟨d, tail, htail⟩ : ∃ d tail, stuffOption rest ++ [cIac, cSe] = d :: tail := by
          cases hrest : stuffOption rest with
          | nil => exact ⟨_, _, rfl⟩
          | cons d tail => exact ⟨_, _, rfl⟩
        rw [htail] at ih
        simp only [stuffOption, if_neg hc, List.cons_append, htail, payload, ih, Option.map_some]

theorem Server.answer_request (server : Server) (command : UInt8) (value : List UInt8) :
    server.answer (comPortRequest (command :: value)) = server.sends command value := by
  have hrequest : comPortRequest (command :: value) =
      cIac :: cSb :: comPort :: (stuffOption (command :: value) ++ [cIac, cSe]) := by
    simp [comPortRequest]
  rw [hrequest, Server.answer, if_pos ⟨rfl, rfl, rfl⟩, payload_stuffOption]

/-- Nothing that the server sends for this command and value has to be doubled. -/
def Server.IacFree (server : Server) (command : UInt8) (value : List UInt8) : Prop :=
  (∀ x ∈ server.before command value, x.IacFree) ∧ cIac ∉ server.reply command value

/-! ## One exchange -/

theorem ComCommand.code_low (command : ComCommand) :
    command.code + 100 ≠ cpoServerNotifyLinestate ∧
      command.code + 100 ≠ cpoServerNotifyModemstate := by
  cases command <;> decide

theorem readReply_interlude {command : UInt8} {n : Nat} {stream : List UInt8} {x : Interlude}
    (hfree : x.IacFree) : readReply command n (x.bytes ++ stream) = readReply command n stream := by
  cases x with
  | data c =>
      have hc : c ≠ cIac := hfree
      simpa [Interlude.bytes, stuffOption, hc] using readReply_skip hc
  | notify modem state =>
      have hstate : state ≠ cIac := hfree
      have hcode : notifyCode modem = cpoServerNotifyLinestate ∨
          notifyCode modem = cpoServerNotifyModemstate := by
        cases modem
        · exact Or.inl rfl
        · exact Or.inr rfl
      simpa [Interlude.bytes, stuffOption, hstate] using readReply_notify hcode

/-- A part with an `IAC` makes the call fail before the reply. -/
theorem readReply_interlude_iac {command : UInt8} {n : Nat} {stream : List UInt8} {x : Interlude}
    (hiac : ¬x.IacFree) (hstream : stream ≠ []) :
    (readReply command n (x.bytes ++ stream)).2 ≠ [] := by
  have hsb : cIac ≠ cSb := by decide
  have hse : cIac ≠ cSe := by decide
  cases x with
  | data c =>
      have hc : c = cIac := not_not.mp hiac
      subst hc
      simp [Interlude.bytes, stuffOption, readReply, awaitReply, skipToIac, expectChars, hsb,
        hstream]
  | notify modem state =>
      have hstate : state = cIac := not_not.mp hiac
      subst hstate
      cases modem <;>
        simp [Interlude.bytes, stuffOption, readReply, awaitReply, skipToIac, expectChars,
          notifyCode, hse]

theorem readReply_interludes {command : UInt8} {n : Nat} {stream : List UInt8}
    {l : List Interlude} (hfree : ∀ x ∈ l, x.IacFree) :
    readReply command n (l.flatMap Interlude.bytes ++ stream) = readReply command n stream := by
  induction l with
  | nil => rfl
  | cons x l ih =>
      rw [List.flatMap_cons, List.append_assoc, readReply_interlude (hfree x List.mem_cons_self)]
      exact ih fun y hy => hfree y (List.mem_cons_of_mem _ hy)

theorem readReply_interludes_iac {command : UInt8} {n : Nat} {stream : List UInt8}
    {l : List Interlude} (hiac : ¬∀ x ∈ l, x.IacFree) (hstream : stream ≠ []) :
    (readReply command n (l.flatMap Interlude.bytes ++ stream)).2 ≠ [] := by
  induction l with
  | nil => exact absurd (fun x hx => absurd hx List.not_mem_nil) hiac
  | cons x l ih =>
      rw [List.flatMap_cons, List.append_assoc]
      by_cases hx : x.IacFree
      · rw [readReply_interlude hx]
        apply ih
        intro hfree
        apply hiac
        intro y hy
        rcases List.mem_cons.mp hy with rfl | hy
        · exact hx
        · exact hfree y hy
      · exact readReply_interlude_iac hx (by simp [hstream])

/-- The reply is decoded and nothing is left of it, exactly if nothing had to be doubled; in every
other case something is left. -/
theorem sbComPortOption_iff (server : Server) (command : ComCommand) (value : List UInt8) :
    (server.IacFree command.code value → sbComPortOption server.answer command.code value [] =
        (.ok (server.reply command.code value), [])) ∧
      (¬server.IacFree command.code value →
        (sbComPortOption server.answer command.code value []).2 ≠ []) := by
  have hread : sbComPortOption server.answer command.code value [] =
      readReply command.code value.length (server.sends command.code value) := by
    simp only [sbComPortOption, readReply, List.nil_append, server.answer_request]
  have hlength := server.length_reply command.code value
  have hstuffed := stuffOption_length (server.reply command.code value)
  have hreply := readReply_value (stuffOption (server.reply command.code value) ++ [cIac, cSe])
    command.code_low (n := value.length) (by rw [List.length_append]; omega)
  rw [hread]
  refine ⟨?_, ?_⟩
  · rintro ⟨hbefore, hfree⟩
    rw [stuffOption_of_free hfree, ← hlength, List.drop_left, List.take_left] at hreply
    rw [Server.sends, readReply_interludes hbefore, stuffOption_of_free hfree, ← hlength]
    simpa [expectChars] using hreply
  · intro hiac
    by_cases hbefore : ∀ x ∈ server.before command.code value, x.IacFree
    · have hmem : cIac ∈ server.reply command.code value :=
        not_not.mp fun hfree => hiac ⟨hbefore, hfree⟩
      have hleft := expectChars_length [cIac, cSe]
        ((stuffOption (server.reply command.code value) ++ [cIac, cSe]).drop value.length)
      have hmore := hstuffed.2 hmem
      have hrest : (readReply command.code value.length (server.sends command.code value)).2 =
          (expectChars [cIac, cSe]
            ((stuffOption (server.reply command.code value) ++ [cIac, cSe]).drop value.length)).2 := by
        rw [Server.sends, readReply_interludes hbefore, List.append_assoc, List.cons_append,
          List.cons_append, List.cons_append, List.cons_append, List.nil_append, hreply]
        split
        · next heq => rw [heq]
        · next heq => rw [heq]
      intro hnil
      rw [← hrest, hnil] at hleft
      simp only [List.length_drop, List.length_append, List.length_cons, List.length_nil] at hleft
      omega
    · exact readReply_interludes_iac hbefore (by simp)

/-! ## Baud rates -/

/-- A byte shifted by `i` bits, over the bytes below it. -/
theorem shiftLeft_or_byte {b m i : Nat} (hm : m < 2 ^ i) (hi : i ≤ 24) (hb : b < 256) :
    b <<< i % 2 ^ 32 ||| m = b * 2 ^ i + m := by
  have hfit : b <<< i < 2 ^ 32 := by
    rw [Nat.shiftLeft_eq]
    calc b * 2 ^ i < 256 * 2 ^ i := Nat.mul_lt_mul_of_pos_right hb (Nat.two_pow_pos i)
      _ ≤ 256 * 2 ^ 24 := Nat.mul_le_mul_left _ (Nat.pow_le_pow_right (by omega) hi)
  rw [Nat.mod_eq_of_lt hfit, ← Nat.shiftLeft_add_eq_or_of_lt hm, Nat.shiftLeft_eq]

theorem byte_add (n i : Nat) : n / 2 ^ i % 256 * 2 ^ i + n % 2 ^ i = n % 2 ^ (i + 8) := by
  rw [Nat.pow_add, Nat.mod_mul, Nat.mul_comm, Nat.add_comm]

theorem baudOf_baudBytes (baud : UInt32) : baudOf (baudBytes baud) = baud := by
  apply UInt32.toNat.inj
  have hlt : baud.toNat < 2 ^ 32 := baud.toNat_lt
  simp only [baudOf, baudBytes, UInt32.toNat_or, UInt32.toNat_shiftLeft, UInt8.toNat_toUInt32,
    UInt32.toNat_toUInt8, UInt32.toNat_shiftRight, UInt32.toNat_ofNat, Nat.or_assoc]
  generalize baud.toNat = n at hlt ⊢
  simp only [Nat.shiftRight_eq_div_pow]
  have h₁ := @shiftLeft_or_byte (n / 2 ^ 8 % 256) (n % 2 ^ 8) 8 (Nat.mod_lt _ (Nat.two_pow_pos 8))
    (by omega) (Nat.mod_lt _ (by omega))
  have h₂ := @shiftLeft_or_byte (n / 2 ^ 16 % 256) (n % 2 ^ 16) 16 (Nat.mod_lt _ (Nat.two_pow_pos 16))
    (by omega) (Nat.mod_lt _ (by omega))
  have h₃ := @shiftLeft_or_byte (n / 2 ^ 24 % 256) (n % 2 ^ 24) 24 (Nat.mod_lt _ (Nat.two_pow_pos 24))
    (by omega) (Nat.mod_lt _ (by omega))
  rw [h₁, byte_add n 8, h₂, byte_add n 16, h₃, byte_add n 24]
  exact Nat.mod_eq_of_lt hlt

/-! ## Sequences of calls -/

/-- The requests of `breakLine`. -/
def breakRequests (on off : Bool) : List (ComCommand × List UInt8) :=
  (if on then [(.setControl, [cpoControlBreakOn])] else []) ++
    if off then [(.setControl, [cpoControlBreakOff])] else []

/-- The requests of a call of `setOption`. -/
def requests (pinterposePvt : ComPort) : Setting → List (ComCommand × List UInt8)
  | .baud (some b) => [(.setBaudrate, baudBytes b.toUInt32)]
  | .bits (some b) => [(.setDatasize, [b.toUInt32.toUInt8])]
  | .parity (some val) => [(.setParity, [val.code])]
  | .stop (some .one) => [(.setStopsize, [1])]
  | .stop (some .two) => [(.setStopsize, [2])]
  | .crtscts (some y) => [(.setControl, [if y then cpoControlHwflow else cpoControlNoflow])]
  | .ixon (some y) => [(.setControl, [if y then cpoControlIxon else cpoControlNoflow])]
  | .breakLine .on => breakRequests (!pinterposePvt.breakActive) false
  | .breakLine .off => breakRequests false pinterposePvt.breakActive
  | .breakLine .pulse => breakRequests (!pinterposePvt.breakActive) true
  | _ => []

/-- What a call of `setOption` promises: each reply is decoded to the bytes that the server meant, a
positive baud rate is set and can be read back, and no byte is left in the stream. -/
structure SettingDecoded (server : Server) (pinterposePvt : ComPort) (setting : Setting) : Prop where
  decoded : ∀ r ∈ requests pinterposePvt setting,
    sbComPortOption server.answer r.1.code r.2 pinterposePvt.stream =
      (.ok (server.reply r.1.code r.2), [])
  baud : ∀ b, setting = .baud (some b) → 0 < b →
    (setOption server.answer pinterposePvt setting).1 = .ok () ∧
      ∀ valSize, (toString b).length < valSize →
        getOption (setOption server.answer pinterposePvt setting).2 .baud valSize =
          .ok (some (toString b))
  stream : (setOption server.answer pinterposePvt setting).2.stream = []

/-- No reply to the requests of a call has anything to be doubled. -/
def SettingIacFree (server : Server) (pinterposePvt : ComPort) (setting : Setting) : Prop :=
  ∀ r ∈ requests pinterposePvt setting, server.IacFree r.1.code r.2

/-- A property of every call of a sequence. -/
def AlongSettings (P : Server → ComPort → Setting → Prop) :
    ComPort → List (Server × Setting) → Prop
  | _, [] => True
  | pinterposePvt, (server, setting) :: calls =>
      P server pinterposePvt setting ∧
        AlongSettings P (setOption server.answer pinterposePvt setting).2 calls

theorem exchange_stream {server : Server} {pinterposePvt : ComPort} {command : ComCommand}
    {value : List UInt8}
    {accept : List UInt8 → ComPort → Except OptionError Unit × ComPort}
    (hstream : pinterposePvt.stream = []) (hfree : server.IacFree command.code value) :
    pinterposePvt.exchange server.answer command value accept =
      accept (server.reply command.code value) pinterposePvt := by
  have hread := (sbComPortOption_iff server command value).1 hfree
  unfold ComPort.exchange
  rw [hstream, hread]
  cases pinterposePvt
  cases hstream
  rfl

theorem setBreak_eq {server : Server} {pinterposePvt : ComPort} {control : UInt8}
    (hstream : pinterposePvt.stream = [])
    (hfree : server.IacFree ComCommand.setControl.code [control]) :
    ∃ active, setBreak server.answer pinterposePvt control =
      (.ok (), { pinterposePvt with breakActive := active }) := by
  unfold setBreak
  rw [exchange_stream hstream hfree]
  exact ⟨_, rfl⟩

theorem breakLine_stream {server : Server} {pinterposePvt : ComPort} {on off : Bool}
    (hstream : pinterposePvt.stream = [])
    (hfree : ∀ r ∈ breakRequests on off, server.IacFree r.1.code r.2) :
    (breakLine server.answer pinterposePvt on off).2.stream = [] := by
  have hswitchOff : ∀ pinterposePvt : ComPort, pinterposePvt.stream = [] →
      (breakLine server.answer pinterposePvt false off).2.stream = [] := by
    intro pinterposePvt hstream
    cases off with
    | false => exact hstream
    | true =>
        have hoff : server.IacFree ComCommand.setControl.code [cpoControlBreakOff] :=
          hfree (.setControl, [cpoControlBreakOff]) (List.mem_append_right _ List.mem_cons_self)
        obtain ⟨active, heq⟩ := setBreak_eq hstream hoff
        simp only [breakLine, Bool.false_eq_true, if_false, if_true, heq, hstream]
  cases on with
  | false => exact hswitchOff pinterposePvt hstream
  | true =>
      have hon : server.IacFree ComCommand.setControl.code [cpoControlBreakOn] :=
        hfree (.setControl, [cpoControlBreakOn]) (List.mem_append_left _ List.mem_cons_self)
      obtain ⟨active, heq⟩ := setBreak_eq hstream hon
      have hrest := hswitchOff { pinterposePvt with breakActive := active } hstream
      simp only [breakLine, Bool.false_eq_true, if_false, if_true, heq] at hrest ⊢
      exact hrest

theorem setOption_stream {server : Server} {pinterposePvt : ComPort} {setting : Setting}
    (hstream : pinterposePvt.stream = []) (hfree : SettingIacFree server pinterposePvt setting) :
    (setOption server.answer pinterposePvt setting).2.stream = [] := by
  have hone : ∀ command value, requests pinterposePvt setting = [(command, value)] →
      server.IacFree command.code value := by
    intro command value heq
    exact hfree (command, value) (by rw [heq]; exact List.mem_singleton.mpr rfl)
  cases setting with
  | baud b =>
      cases b with
      | none => exact hstream
      | some b =>
          simp only [setOption, setBaud, exchange_stream hstream (hone _ _ rfl)]
          split <;> exact hstream
  | bits b =>
      cases b with
      | none => exact hstream
      | some b =>
          simp only [setOption, setBits, exchange_stream hstream (hone _ _ rfl)]
          split <;> exact hstream
  | parity val =>
      cases val with
      | none => exact hstream
      | some val => simp only [setOption, setParity, exchange_stream hstream (hone _ _ rfl), hstream]
  | stop b =>
      cases b with
      | none => exact hstream
      | some b =>
          cases b with
          | one =>
              simp only [setOption, setStop, exchange_stream hstream (hone _ _ rfl)]
              split <;> exact hstream
          | two =>
              simp only [setOption, setStop, exchange_stream hstream (hone _ _ rfl)]
              split <;> exact hstream
          | other => exact hstream
  | crtscts y =>
      cases y with
      | none => exact hstream
      | some y => simp only [setOption, setFlow, exchange_stream hstream (hone _ _ rfl), hstream]
  | ixon y =>
      cases y with
      | none => exact hstream
      | some y => simp only [setOption, setFlow, exchange_stream hstream (hone _ _ rfl), hstream]
  | breakLine val =>
      cases val with
      | badNumber => exact hstream
      | on => exact breakLine_stream hstream hfree
      | off => exact breakLine_stream hstream hfree
      | pulse => exact breakLine_stream hstream hfree
  | other key lower =>
      cases lower with
      | none => exact hstream
      | some status => exact hstream

/-- A positive baud rate is set and can be read back. -/
theorem setOption_baud {server : Server} {pinterposePvt : ComPort} {b : Int32}
    (hstream : pinterposePvt.stream = []) (hb : 0 < b)
    (hfree : server.IacFree ComCommand.setBaudrate.code (baudBytes b.toUInt32)) :
    setOption server.answer pinterposePvt (.baud (some b)) =
      (.ok (), { pinterposePvt with baud := b }) := by
  have hbaud : (baudOf (server.reply ComCommand.setBaudrate.code (baudBytes b.toUInt32))).toInt32 =
      b := by
    rw [server.accepts b hb, baudOf_baudBytes]
    rfl
  simp only [setOption, setBaud, exchange_stream hstream hfree, hbaud, ne_eq, not_true_eq_false,
    if_false]

/-- One call, with nothing unread before it. -/
theorem settingDecoded_iff {server : Server} {pinterposePvt : ComPort} {setting : Setting}
    (hstream : pinterposePvt.stream = []) :
    SettingDecoded server pinterposePvt setting ↔ SettingIacFree server pinterposePvt setting := by
  constructor
  · intro hdecoded r hr
    by_cases hfree : server.IacFree r.1.code r.2
    · exact hfree
    · have hleft := (sbComPortOption_iff server r.1 r.2).2 hfree
      have hread := hdecoded.decoded r hr
      rw [hstream] at hread
      rw [hread] at hleft
      exact absurd rfl hleft
  · intro hfree
    refine ⟨?_, ?_, setOption_stream hstream hfree⟩
    · intro r hr
      rw [hstream]
      exact (sbComPortOption_iff server r.1 r.2).1 (hfree r hr)
    · rintro b rfl hb
      rw [setOption_baud hstream hb (hfree _ (List.mem_singleton.mpr rfl))]
      refine ⟨rfl, ?_⟩
      intro valSize hsize
      simp only [getOption, optionText, if_neg (Nat.not_le.mpr hsize)]

/-- The layer with all that was received read. -/
def ComPort.drained (pinterposePvt : ComPort) : ComPort :=
  { pinterposePvt with stream := [] }

/-- A server that sends nothing but its replies, and accepts everything. -/
def echoServer : Server where
  before := fun _ _ => []
  reply := fun _ value => value
  length_reply := fun _ _ => rfl
  accepts := fun _ _ => rfl

/-- The settings that `asynInterposeCOM` starts with. -/
def ComPort.start : ComPort where
  baud := 9600
  parity := Parity.none.code
  bits := 8
  stop := 1
  flow := cpoControlNoflow
  breakActive := false
  stream := []

end Miscellaneous
end AsynDriver
