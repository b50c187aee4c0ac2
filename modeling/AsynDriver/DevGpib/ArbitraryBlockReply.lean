import AsynDriver.DevGpib.ArbitraryBlock

/-!
# Replies with an arbitrary block

What `readArbitraryBlockProgramData` makes of a reply of the device.

* `Reply` — a preamble, `#`, the number of digits, the digits, the payload and the terminator.
* `Kept`, `Exact`, `Meets` — what a call should do.
* `Safe`, `Delivered`, `Misread`, `MeetsWhen` — when it does (`meets_iff`).
-/

namespace AsynDriver
namespace DevGpib
namespace ArbitraryBlock

open Library
open Library.Delimited
open InputEos (Eos)

/-! ## Numbers -/

def value (digits : List (Fin 10)) : Nat := digits.foldl (fun n d => n * 10 + d.val) 0

def digitByte (d : Nat) : UInt8 := UInt8.ofNat (48 + d)

def digitBytes (digits : List (Fin 10)) : List UInt8 := digits.map fun d => digitByte d.val

theorem value_append_singleton (ds : List (Fin 10)) (d : Fin 10) :
    value (ds ++ [d]) = value ds * 10 + d.val := by
  simp [value]

theorem value_take_le (ds : List (Fin 10)) (k : Nat) : value (ds.take k) ≤ value ds := by
  induction ds using List.reverseRecOn with
  | nil => rw [List.take_nil]
  | append_singleton ds d ih =>
      by_cases hk : k ≤ ds.length
      · rw [List.take_append_of_le_length hk, value_append_singleton]
        omega
      · rw [List.take_of_length_le (by rw [List.length_append, List.length_singleton]; omega)]

theorem value_lt (ds : List (Fin 10)) : value ds < 10 ^ ds.length := by
  induction ds using List.reverseRecOn with
  | nil => exact Nat.one_pos
  | append_singleton ds d ih =>
      rw [value_append_singleton, List.length_append, List.length_singleton, Nat.pow_succ]
      have hd := d.isLt
      omega

theorem toNat_digitByte {d : Nat} (hd : d < 10) : (digitByte d).toNat = 48 + d := by
  have hsize : 48 + d < 2 ^ 8 := by omega
  exact UInt8.toNat_ofNat_of_lt' hsize

theorem digitByte_ne_zero (d : Fin 10) : digitByte d.val ≠ 0 := by
  revert d
  decide

theorem char_digitByte (d : Fin 10) : Char.ofNat (digitByte d.val).toNat = d.val.digitChar := by
  revert d
  decide

theorem positional_digits (ds : List (Fin 10)) :
    positional 10 (ds.map fun d => d.val.digitChar) = value ds := by
  induction ds using List.reverseRecOn with
  | nil => rfl
  | append_singleton ds d ih =>
      rw [List.map_append, List.map_singleton, positional_append, ih, digitValue_digitChar d.isLt,
        Option.getD_some, value_append_singleton]

/-- Digits are read as the number they show. -/
theorem number_digitBytes {ds : List (Fin 10)} (hne : ds ≠ []) (hle : ds.length ≤ 9) :
    number (digitBytes ds) = some (value ds : Int) := by
  have hstring : (digitBytes ds).takeWhile (· ≠ 0) = digitBytes ds := by
    rw [List.takeWhile_eq_self_iff]
    intro b hb
    obtain ⟨d, -, rfl⟩ := List.mem_map.mp hb
    exact decide_eq_true (digitByte_ne_zero d)
  have hchars : (digitBytes ds).map (fun b => Char.ofNat b.toNat) =
      ds.map fun d => d.val.digitChar := by
    rw [digitBytes, List.map_map]
    exact List.map_congr_left fun d _ => char_digitByte d
  have hdigits : ∀ c ∈ ds.map (fun d => d.val.digitChar), c.isDigit = true := by
    intro c hc
    obtain ⟨d, -, rfl⟩ := List.mem_map.mp hc
    simp
  have hsign : takeSign ((ds.map fun d => d.val.digitChar).dropWhile isspace) =
      (false, ds.map fun d => d.val.digitChar) := by
    cases ds with
    | nil => exact absurd rfl hne
    | cons d ds => exact takeSign_digits _ (hdigits _ List.mem_cons_self)
  obtain ⟨htake, hdrop⟩ := takeWhile_digits _ [] hdigits (by simp)
  rw [List.append_nil] at htake hdrop
  have hless : value ds < 2 ^ 63 := by
    have hpow : 10 ^ ds.length ≤ 10 ^ 9 := Nat.pow_le_pow_right (by decide) hle
    have hvalue := value_lt ds
    omega
  unfold number
  simp only [hstring, hchars, hsign, htake, hdrop, positional_digits]
  rw [if_neg (by simpa using hne), toLong, if_neg Bool.false_ne_true, if_pos hless]

/-! ## Replies -/

@[ext]
structure Reply where
  preamble : List UInt8
  digits : List (Fin 10)
  payload : List UInt8
  terminator : Eos
  no_hash : hash ∉ preamble
  digits_ne_nil : digits ≠ []
  digits_le : digits.length ≤ 9
  counts : value digits = payload.length
  terminator_length : terminator.length = 1 ∨ terminator.length = 2

/-- The number of digits. -/
def Reply.count (r : Reply) : UInt8 := digitByte r.digits.length

def Reply.block (r : Reply) : List UInt8 :=
  r.preamble ++ hash :: r.count :: (digitBytes r.digits ++ r.payload)

/-- The device has sent the reply, and its terminator is the one that the call works with. -/
structure Reply.Sent (r : Reply) (c : Call) (p : Port) : Prop where
  stream : p.stream = r.block ++ r.terminator
  saveEos : c.saveEos p = some r.terminator

/-- The call has returned the block if there is room for it in `msg`, and else `-1`. -/
structure Exact (r : Reply) (c : Call) (o : Outcome) : Prop where
  fits : r.block.length ≤ c.msgLen → o.result = some r.block.length ∧ o.msg = r.block
  tooLong : c.msgLen < r.block.length → o.result = none

/-- The call has stored to places of `msg` only, and the input EOS of the device is as it was. -/
structure Kept (c : Call) (p : Port) (o : Outcome) : Prop where
  inside : o.top ≤ c.msgLen
  command : o.eosStored = false
  eos : o.port.eos = p.eos

/-- The call ends, keeps to `msg`, and makes the right thing of a reply. -/
def Meets (c : Call) (p : Port) : Prop :=
  ∃ o, Returns c p o ∧ Kept c p o ∧ ∀ r : Reply, r.Sent c p → Exact r c o

/-! ## Conditions -/

/-- There is room for what the device announces, for the NUL behind the digits, and for the NUL that a read
puts behind the first place of an EOS that it finds; no command with an `eos` of its own comes to the
terminator, and this `eos` is that of the device. -/
structure Safe (c : Call) (p : Port) : Prop where
  eos : ∀ eos, c.saveEos p = some eos → eos = p.eos
  preamble : ∀ P, FindsHash c p P → P.length + 1 < c.msgLen
  count : ∀ P q, Begins c p P q → (q.read 1).1.eomEos = true → P.length + 2 < c.msgLen
  digits : ∀ P n d r, Header c p P n d r → P.length + 2 + d.length < c.msgLen
  digitsEnd : ∀ P n d r, Header c p P n d r → DigitsEnd c p P n → P.length + 3 + d.length < c.msgLen
  payload : ∀ P n d r v, Header c p P n d r → Accepts d (c.room P) v →
    P.length + 2 + d.length + min v (r.stream.length + 1) ≤ c.msgLen
  command : ∀ P n d r v, Header c p P n d r → Accepts d (c.room P) v → v ≤ r.stream.length →
    c.eos = none

/-- There is a preamble and a payload, one read gets the preamble and one the digits, and the terminator
is one character that is none of the digits. -/
structure Delivered (r : Reply) (p : Port) : Prop where
  preamble : r.preamble ≠ []
  preamble_read : r.preamble.length ≤ p.chunk 0
  digits_read : r.digits.length ≤ p.chunk 2 + 1
  payload : r.payload ≠ []
  terminator : ∃ t, r.terminator = [t] ∧ t ∉ r.count :: digitBytes r.digits

/-- The read of the digits ends before their last one, with a number `v` of bytes behind which the
terminator stands. -/
structure Misread (r : Reply) (c : Call) (p : Port) (d s : List UInt8) (v : Nat) : Prop where
  preamble : r.preamble ≠ []
  preamble_read : r.preamble.length ≤ p.chunk 0
  count : r.terminator ≠ [r.count]
  room : r.digits.length ≤ c.room r.preamble
  taken : ∃ ended, scan r.terminator (min r.digits.length (p.chunk 2 + 1)) []
    (digitBytes r.digits ++ r.payload ++ r.terminator) = (d, ended, s)
  cut : d.length < r.digits.length
  accepts : Accepts d (c.room r.preamble) v
  closes : Closes r.terminator s v

structure MeetsWhen (c : Call) (p : Port) : Prop where
  safe : Safe c p
  fits : ∀ r : Reply, r.Sent c p → r.block.length ≤ c.msgLen → Delivered r p
  tooLong : ∀ r : Reply, r.Sent c p → c.msgLen < r.block.length → ∀ d s v, ¬ Misread r c p d s v

variable {c : Call} {p : Port} {o : Outcome}

theorem Begins.preamble_room {P P' : List UInt8} {q : Port} (h : Begins c p P q)
    (hroom : P.length + 1 < c.msgLen) (hfinds : FindsHash c p P') : P'.length + 1 < c.msgLen := by
  rw [← hfinds.2.2, h.findsHash.2.2]
  exact hroom

theorem Header.preamble_room {P P' d : List UInt8} {n : UInt8} {r : Port} (h : Header c p P n d r)
    (hfinds : FindsHash c p P') : P'.length + 1 < c.msgLen := by
  obtain ⟨q, hbegins, hroom, -⟩ := h
  exact hbegins.preamble_room hroom hfinds

/-- Where there is a number of digits the terminator is not in its place. -/
theorem Header.count_room {P P' d : List UInt8} {n : UInt8} {r q : Port} (h : Header c p P n d r)
    (hbegins : Begins c p P' q) (hfound : (q.read 1).1.eomEos = true) : P'.length + 2 < c.msgLen :=
  nomatch (h.count_clear hbegins).symm.trans hfound

theorem Course.kept_iff (hcourse : Course c p o) (heos : o.port.eos = (c.saveEos p).getD p.eos) :
    Kept c p o ↔ Safe c p := by
  have heos_iff : o.port.eos = p.eos ↔ ∀ eos, c.saveEos p = some eos → eos = p.eos := by
    rw [heos]
    cases c.saveEos p with
    | none => simp
    | some eos => simp
  have hkept : Kept c p o ↔ (o.top ≤ c.msgLen ∧ o.eosStored = false) ∧ o.port.eos = p.eos :=
    ⟨fun h => ⟨⟨h.inside, h.command⟩, h.eos⟩, fun h => ⟨h.1.1, h.1.2, h.2⟩⟩
  rw [hkept, heos_iff]
  cases hcourse with
  | noPreamble hno htop hstored hresult =>
      have hheader : ∀ {P n d r}, ¬ Header c p P n d r := fun ⟨q, hbegins, _⟩ => hno _ q hbegins
      constructor
      · rintro ⟨⟨hinside, -⟩, hsame⟩
        exact ⟨hsame, htop.mp hinside, fun P q h => absurd h (hno P q), fun P n d r h => absurd h hheader,
          fun P n d r h => absurd h hheader, fun P n d r v h => absurd h hheader,
          fun P n d r v h => absurd h hheader⟩
      · exact fun hsafe => ⟨⟨htop.mpr hsafe.preamble, hstored⟩, hsafe.eos⟩
  | noRoom P q hbegins hroom htop hresult =>
      constructor
      · rintro ⟨⟨hinside, -⟩, -⟩
        exact absurd hinside (Nat.not_le.mpr htop)
      · intro hsafe
        exact absurd (hsafe.preamble P hbegins.findsHash) (by omega)
  | noDigits P q hbegins hroom hno htop hstored hresult =>
      have hheader : ∀ {P n d r}, ¬ Header c p P n d r := by
        rintro P' n d r ⟨q', hbegins', -, hannounces⟩
        obtain ⟨rfl, rfl⟩ := hbegins.unique hbegins'
        exact hno n d r hannounces
      constructor
      · rintro ⟨⟨hinside, -⟩, hsame⟩
        refine ⟨hsame, fun P' h => hbegins.preamble_room hroom h, ?_, fun P n d r h => absurd h hheader,
          fun P n d r h => absurd h hheader, fun P n d r v h => absurd h hheader,
          fun P n d r v h => absurd h hheader⟩
        intro P' q' hbegins'
        obtain ⟨rfl, rfl⟩ := hbegins.unique hbegins'
        exact htop.mp hinside
      · exact fun hsafe => ⟨⟨htop.mpr (hsafe.count P q hbegins), hstored⟩, hsafe.eos⟩
  | noNumber P n d r hheader hno htop hstored hresult =>
      have haccepts : ∀ {P' n' d' r' v}, Header c p P' n' d' r' → ¬ Accepts d' (c.room P') v := by
        intro P' n' d' r' v hheader'
        obtain ⟨rfl, rfl, -⟩ := hheader.unique hheader'
        exact hno v
      constructor
      · rintro ⟨⟨hinside, -⟩, hsame⟩
        obtain ⟨hdigits, hend⟩ := htop.mp hinside
        refine ⟨hsame, fun P' h => hheader.preamble_room h, fun P' q' h => hheader.count_room h, ?_, ?_,
          fun P' n' d' r' v h hv => absurd hv (haccepts h), fun P' n' d' r' v h hv => absurd hv (haccepts h)⟩
        · intro P' n' d' r' hheader'
          obtain ⟨rfl, rfl, -⟩ := hheader.unique hheader'
          exact hdigits
        · intro P' n' d' r' hheader'
          obtain ⟨rfl, rfl, -, rfl⟩ := hheader.unique hheader'
          exact hend
      · intro hsafe
        have hinside := htop.mpr ⟨hsafe.digits P n d r hheader, hsafe.digitsEnd P n d r hheader⟩
        exact ⟨⟨hinside, hstored⟩, hsafe.eos⟩
  | payload P n d r v hheader haccepts htop hstored hclosed hunclosed =>
      constructor
      · rintro ⟨⟨hinside, hcommand⟩, hsame⟩
        obtain ⟨hfits, hend⟩ := htop.mp hinside
        have hpos := haccepts.pos
        refine ⟨hsame, fun P' h => hheader.preamble_room h, fun P' q' h => hheader.count_room h, ?_, ?_, ?_,
          ?_⟩
        · intro P' n' d' r' hheader'
          obtain ⟨rfl, rfl, -⟩ := hheader.unique hheader'
          omega
        · intro P' n' d' r' hheader'
          obtain ⟨rfl, rfl, -, rfl⟩ := hheader.unique hheader'
          exact hend
        · intro P' n' d' r' v' hheader' haccepts'
          obtain ⟨rfl, rfl, rfl, -⟩ := hheader.unique hheader'
          obtain rfl := haccepts.unique haccepts'
          exact hfits
        · intro P' n' d' r' v' hheader' haccepts' hle
          obtain ⟨rfl, rfl, rfl, -⟩ := hheader.unique hheader'
          obtain rfl := haccepts.unique haccepts'
          cases heos' : c.eos with
          | none => rfl
          | some eos =>
              have hyes := hstored.mpr ⟨hle, by rw [heos']; rfl⟩
              exact nomatch hcommand.symm.trans hyes
      · intro hsafe
        have hinside := htop.mpr ⟨hsafe.payload P n d r v hheader haccepts,
          hsafe.digitsEnd P n d r hheader⟩
        refine ⟨⟨hinside, ?_⟩, hsafe.eos⟩
        refine eq_false_of_ne_true fun hyes => ?_
        obtain ⟨hle, hsome⟩ := hstored.mp hyes
        rw [hsafe.command P n d r v hheader haccepts hle] at hsome
        exact nomatch hsome

/-! ## The reads of a reply -/

variable {r : Reply}

/-- The port after the preamble, and after the number of digits. -/
def Reply.afterPreamble (r : Reply) (p : Port) : Port :=
  ⟨r.terminator, r.count :: (digitBytes r.digits ++ r.payload ++ r.terminator), p.endOfMessage,
    fun i => p.chunk (i + 1)⟩

def Reply.afterCount (r : Reply) (p : Port) : Port :=
  ⟨r.terminator, digitBytes r.digits ++ r.payload ++ r.terminator, p.endOfMessage,
    fun i => p.chunk (i + 2)⟩

theorem Reply.Sent.stream_eq (hsent : r.Sent c p) :
    p.stream = r.preamble ++ hash :: (r.afterPreamble p).stream := by
  rw [hsent.stream, Reply.block, Reply.afterPreamble]
  simp

theorem Reply.terminator_ne_nil (r : Reply) : r.terminator ≠ [] := by
  intro hnil
  have hlength := r.terminator_length
  rw [hnil, List.length_nil] at hlength
  omega

theorem Reply.Sent.read_preamble (hsent : r.Sent c p) (hread : r.preamble.length ≤ p.chunk 0)
    (hroom : r.preamble.length < c.msgLen) :
    ∃ eomEnd q, (p.setInputEos [hash]).read c.msgLen = (⟨true, r.preamble, true, eomEnd⟩, q) ∧
      r.afterPreamble p = q.setInputEos r.terminator := by
  have hscan : scan [hash] (min c.msgLen (p.chunk 0 + 1)) [] p.stream =
      (r.preamble, .delimiter, (r.afterPreamble p).stream) := by
    have hlimit : ([] : List UInt8).length + r.preamble.length < min c.msgLen (p.chunk 0 + 1) := by
      rw [List.length_nil]
      omega
    rw [hsent.stream_eq,
      scan_delimiter (clear_singleton r.no_hash) hlimit (by simp) (List.suffix_append _ _)]
    simp
  exact ⟨_, _, Port.read_of_scan (p := p.setInputEos [hash]) (by omega) hscan, rfl⟩

/-- Without the preamble in one read, or without room for `#`, the read does not get to it. -/
theorem Reply.Sent.read_short (hsent : r.Sent c p)
    (hshort : ¬ (r.preamble.length ≤ p.chunk 0 ∧ r.preamble.length < c.msgLen)) :
    ((p.setInputEos [hash]).read c.msgLen).1.eomEos = false := by
  by_cases hzero : c.msgLen = 0
  · rw [Port.read, if_pos hzero]
  have hle : min c.msgLen (p.chunk 0 + 1) ≤ r.preamble.length := by omega
  have hlength : (r.preamble.take (min c.msgLen (p.chunk 0 + 1))).length =
      min c.msgLen (p.chunk 0 + 1) := List.length_take_of_le hle
  have hclear : Clear [hash] [] (r.preamble.take (min c.msgLen (p.chunk 0 + 1))) :=
    clear_singleton fun hmem => r.no_hash (List.mem_of_mem_take hmem)
  have hne : r.preamble.take (min c.msgLen (p.chunk 0 + 1)) ≠ [] := by
    rw [← List.length_pos_iff, hlength]
    omega
  have hscan := scan_full (s := r.preamble.drop (min c.msgLen (p.chunk 0 + 1)) ++
    hash :: (r.afterPreamble p).stream) hclear hne (by rw [hlength, List.length_nil, Nat.zero_add])
  rw [← List.append_assoc, List.take_append_drop, ← hsent.stream_eq] at hscan
  rw [Port.read_of_scan (p := p.setInputEos [hash]) (Nat.pos_of_ne_zero hzero) hscan]
  rfl

theorem Reply.Sent.begins (hsent : r.Sent c p) (hne : r.preamble ≠ [])
    (hread : r.preamble.length ≤ p.chunk 0) (hroom : r.preamble.length < c.msgLen) :
    Begins c p r.preamble (r.afterPreamble p) := by
  obtain ⟨eomEnd, q, hport, hq⟩ := hsent.read_preamble hread hroom
  refine ⟨hsent.saveEos, r.terminator_ne_nil, hne, ?_, q, ⟨?_, ?_, ?_⟩, hq⟩
  · rw [hport]
  · rw [hport]
  · rw [hport]
  · rw [hport]

theorem Reply.Sent.of_begins {P : List UInt8} {q : Port} (hsent : r.Sent c p) (h : Begins c p P q) :
    P = r.preamble ∧ q = r.afterPreamble p ∧ r.preamble ≠ [] ∧ r.preamble.length ≤ p.chunk 0 := by
  by_cases hroom : r.preamble.length ≤ p.chunk 0 ∧ r.preamble.length < c.msgLen
  · obtain ⟨eomEnd, s, hport, -⟩ := hsent.read_preamble hroom.1 hroom.2
    have hP : P = r.preamble := by
      obtain ⟨s', hdelivers, -⟩ := h.delivers
      have hbytes := hdelivers.bytes
      rw [hport] at hbytes
      exact hbytes.symm
    have hne : r.preamble ≠ [] := hP ▸ h.nonempty
    exact ⟨hP, (h.unique (hsent.begins hne hroom.1 hroom.2)).2, hne, hroom.1⟩
  · exact nomatch (hsent.read_short hroom).symm.trans h.found

theorem Reply.toNat_count (r : Reply) : r.count.toNat = 48 + r.digits.length :=
  toNat_digitByte (Nat.lt_succ_of_le r.digits_le)

theorem Reply.digits_pos (r : Reply) : 0 < r.digits.length :=
  List.length_pos_iff.mpr r.digits_ne_nil

@[simp] theorem length_digitBytes (ds : List (Fin 10)) : (digitBytes ds).length = ds.length :=
  List.length_map ..

/-- The number of digits, unless it is the terminator. -/
theorem Reply.read_count (r : Reply) (p : Port) :
    (r.afterPreamble p).Delivers 1 (if r.terminator = [r.count] then [] else [r.count])
      (r.afterCount p) :=
  Port.read_one_cons rfl

/-- What the one read of the digits gets; `limit` is what it may take. -/
theorem Reply.scan_digits (r : Reply) {d s : List UInt8} {ended : Ended} {limit : Nat} (hpos : 0 < limit)
    (hle : limit ≤ r.digits.length)
    (hscan : scan r.terminator limit [] (digitBytes r.digits ++ r.payload ++ r.terminator) =
      (d, ended, s)) :
    ended ≠ .exhausted ∧ d = digitBytes (r.digits.take d.length) ∧ d.length ≤ limit ∧
      (d.length = r.digits.length → s = r.payload ++ r.terminator ∧
        ∀ t, r.terminator = [t] → t ∉ digitBytes r.digits) := by
  have hspec : Taken r.terminator [] limit (digitBytes r.digits ++ r.payload ++ r.terminator) _ :=
    scan_spec hpos
  rw [hscan] at hspec
  have hprefix : ∀ {u v : List UInt8}, digitBytes r.digits ++ r.payload ++ r.terminator = u ++ v →
      u.length ≤ r.digits.length → u = digitBytes (r.digits.take u.length) := by
    intro u v heq hlength
    have htake := congrArg (List.take u.length) heq
    rw [List.append_assoc, List.take_append_of_le_length (by rw [length_digitBytes]; exact hlength),
      List.take_left] at htake
    rw [digitBytes, List.map_take]
    exact htake.symm
  cases hspec with
  | delimiter _ u _ hstream hb hne hlimit =>
      rw [List.nil_append] at hb
      have hlength : d.length + r.terminator.length = u.length := by
        rw [← hb, List.length_append]
      have hpos' := List.length_pos_iff.mpr hne
      rw [List.length_nil, Nat.zero_add] at hlimit
      refine ⟨nofun, hprefix (v := r.terminator ++ s) ?_ (by omega), by omega, fun h => by omega⟩
      rw [hstream, ← hb, List.append_assoc]
  | full u _ hstream hfull hclear =>
      rw [List.nil_append]
      rw [List.length_nil, Nat.zero_add] at hfull
      refine ⟨nofun, hprefix hstream (by omega), by omega, fun hall => ⟨?_, ?_⟩⟩
      · rw [List.append_assoc] at hstream
        exact (List.append_inj_right hstream (by rw [length_digitBytes, hall])).symm
      · rintro t ht
        rw [ht] at hclear
        have hu := hprefix hstream (by omega)
        rw [hall, List.take_length] at hu
        exact hu ▸ hclear.not_mem
  | exhausted hroom =>
      rw [List.length_append, List.length_append, length_digitBytes, List.length_nil] at hroom
      omega

theorem Reply.Sent.of_header {P d : List UInt8} {n : UInt8} {q : Port} (hsent : r.Sent c p)
    (h : Header c p P n d q) :
    P = r.preamble ∧ n = r.count ∧ q.eos = r.terminator ∧ r.preamble ≠ [] ∧
      r.preamble.length ≤ p.chunk 0 ∧ r.terminator ≠ [r.count] ∧ r.digits.length ≤ c.room r.preamble ∧
      ∃ ended, scan r.terminator (min r.digits.length (p.chunk 2 + 1)) []
        (digitBytes r.digits ++ r.payload ++ r.terminator) = (d, ended, q.stream) := by
  obtain ⟨q₁, hbegins, hroom, hannounces⟩ := h
  obtain ⟨rfl, rfl, hne, hread⟩ := hsent.of_begins hbegins
  obtain ⟨s, hfirst, hdigits⟩ := hannounces.delivers
  obtain ⟨hcount, rfl⟩ := hfirst.unique (r.read_count p)
  have hterm : r.terminator ≠ [r.count] := by
    intro heq
    rw [if_pos heq] at hcount
    exact nomatch hcount
  rw [if_neg hterm] at hcount
  obtain rfl := List.singleton_injective hcount
  have hlength : r.count.toNat - 48 = r.digits.length := by
    rw [r.toNat_count]
    omega
  rw [hlength] at hdigits
  refine ⟨rfl, rfl, hdigits.eos, hne, hread, hterm, hlength ▸ hannounces.room, ?_⟩
  cases hscan : scan r.terminator (min r.digits.length (p.chunk 2 + 1)) []
      (digitBytes r.digits ++ r.payload ++ r.terminator) with
  | mk bytes rest =>
  obtain ⟨ended, rest⟩ := rest
  have hport := Port.read_of_scan (p := r.afterCount p) r.digits_pos hscan
  have hbytes := hdigits.bytes
  have hq := hdigits.port
  rw [hport] at hbytes hq
  rw [← hbytes, ← hq]
  exact ⟨ended, rfl⟩

theorem Reply.Sent.header {d s : List UInt8} {ended : Ended} (hsent : r.Sent c p)
    (hne : r.preamble ≠ []) (hread : r.preamble.length ≤ p.chunk 0) (hterm : r.terminator ≠ [r.count])
    (hroom : r.digits.length ≤ c.room r.preamble)
    (hscan : scan r.terminator (min r.digits.length (p.chunk 2 + 1)) []
      (digitBytes r.digits ++ r.payload ++ r.terminator) = (d, ended, s)) :
    ∃ q, Header c p r.preamble r.count d q ∧ q.stream = s ∧ q.eos = r.terminator := by
  have hpos := r.digits_pos
  have hle := r.digits_le
  have hcount := r.toNat_count
  have hlength : r.count.toNat - 48 = r.digits.length := by omega
  have hless : r.preamble.length + 1 < c.msgLen := by
    unfold Call.room at hroom
    omega
  have hended := (r.scan_digits (by omega) (by omega) hscan).1
  have hport := Port.read_of_scan (p := r.afterCount p) hpos hscan
  have hfirst := r.read_count p
  rw [if_neg hterm] at hfirst
  refine ⟨_, ⟨r.afterPreamble p, hsent.begins hne hread (by omega), hless, by omega,
    hlength ▸ hroom, r.afterCount p, hfirst, ?_, ?_, rfl⟩, ?_, ?_⟩
  · rw [hlength, hport]
    simp [hended]
  · rw [hlength, hport]
  · rw [hlength, hport]
  · rw [hlength, hport]
    rfl

/-! ## Results -/

theorem number_nil : number [] = none := rfl

theorem Reply.length_block (r : Reply) :
    r.block.length = r.preamble.length + 2 + r.digits.length + r.payload.length := by
  simp only [Reply.block, List.length_append, List.length_cons, length_digitBytes]
  omega

theorem Reply.number_take (r : Reply) {k v : Nat}
    (h : number (digitBytes (r.digits.take k)) = some (v : Int)) : v = value (r.digits.take k) := by
  by_cases hnil : r.digits.take k = []
  · rw [hnil] at h
    exact nomatch number_nil.symm.trans h
  · have hle : (r.digits.take k).length ≤ 9 := (List.length_take_le' ..).trans r.digits_le
    exact Int.ofNat.inj (Option.some.inj (h.symm.trans (number_digitBytes hnil hle)))

/-- What the digits announce that were read is not more than the payload. -/
theorem Reply.accepts_le (r : Reply) {d : List UInt8} {room v : Nat}
    (hd : d = digitBytes (r.digits.take d.length)) (haccepts : Accepts d room v) :
    v ≤ r.payload.length ∧ (d.length = r.digits.length → v = r.payload.length) := by
  have hnumber := haccepts.number
  rw [hd] at hnumber
  have hv := r.number_take hnumber
  refine ⟨?_, ?_⟩
  · rw [hv, ← r.counts]
    exact value_take_le _ _
  · intro hall
    rw [hv, hall, List.take_length, r.counts]

theorem Course.result_of_closes {P d : List UInt8} {n : UInt8} {q : Port} {v : Nat}
    (hcourse : Course c p o) (hheader : Header c p P n d q) (haccepts : Accepts d (c.room P) v)
    (hcloses : Closes q.eos q.stream v) :
    o.result = some o.msg.length ∧ o.msg = P ++ hash :: n :: (d ++ q.stream.take v) := by
  cases hcourse with
  | noPreamble hno =>
      obtain ⟨q', hbegins, -⟩ := hheader
      exact absurd hbegins (hno P q')
  | noRoom P' q' hbegins hroom =>
      have hless := hheader.preamble_room hbegins.findsHash
      omega
  | noDigits P' q' hbegins hroom hno =>
      obtain ⟨q'', hbegins', -, hannounces⟩ := hheader
      obtain ⟨rfl, rfl⟩ := hbegins.unique hbegins'
      exact absurd hannounces (hno n d q)
  | noNumber P' n' d' q' hheader' hno =>
      obtain ⟨rfl, rfl, -⟩ := hheader'.unique hheader
      exact absurd haccepts (hno v)
  | payload P' n' d' q' v' hheader' haccepts' htop hstored hclosed =>
      obtain ⟨rfl, rfl, rfl, rfl⟩ := hheader'.unique hheader
      obtain rfl := haccepts'.unique haccepts
      exact hclosed hcloses

theorem Course.closes_of_result {len : Nat} (hcourse : Course c p o) (hset : c.saveEos p ≠ some [])
    (hresult : o.result = some len) :
    ∃ P n d q v, Header c p P n d q ∧ Accepts d (c.room P) v ∧ Closes q.eos q.stream v ∧
      o.msg = P ++ hash :: n :: (d ++ q.stream.take v) := by
  cases hcourse with
  | noPreamble hno htop hstored hnone => exact nomatch (hnone hset).symm.trans hresult
  | noRoom P q hbegins hroom htop hnone => exact nomatch hnone.symm.trans hresult
  | noDigits P q hbegins hroom hno htop hstored hnone => exact nomatch hnone.symm.trans hresult
  | noNumber P n d q hheader hno htop hstored hnone => exact nomatch hnone.symm.trans hresult
  | payload P n d q v hheader haccepts htop hstored hclosed hunclosed =>
      by_cases hcloses : Closes q.eos q.stream v
      · exact ⟨P, n, d, q, v, hheader, haccepts, hcloses, (hclosed hcloses).2⟩
      · exact nomatch (hunclosed hcloses).symm.trans hresult

theorem Reply.Sent.isSet (hsent : r.Sent c p) : c.saveEos p ≠ some [] := by
  rw [hsent.saveEos]
  exact fun h => r.terminator_ne_nil (Option.some.inj h)

theorem Reply.Sent.delivered_of_result (hsent : r.Sent c p) (hcourse : Course c p o)
    (hresult : o.result = some r.block.length) (hmsg : o.msg = r.block) : Delivered r p := by
  obtain ⟨P, n, d, q, v, hheader, haccepts, hcloses, hmsg'⟩ :=
    hcourse.closes_of_result hsent.isSet hresult
  obtain ⟨rfl, rfl, heos, hne, hread, hterm, hroom, ended, hscan⟩ := hsent.of_header hheader
  have hpos := r.digits_pos
  obtain ⟨-, hd, hdle, hall⟩ := r.scan_digits (by omega) (by omega) hscan
  obtain ⟨t, ht, hbyte⟩ := hcloses
  rw [heos] at ht
  have hv : v < q.stream.length := (List.getElem?_eq_some_iff.mp hbyte).1
  have hlength := congrArg List.length (hmsg'.symm.trans hmsg)
  rw [r.length_block] at hlength
  simp only [List.length_append, List.length_cons, List.length_take_of_le hv.le] at hlength
  obtain ⟨hle, -⟩ := r.accepts_le hd haccepts
  have hvpos := haccepts.pos
  have hdigits : d.length = r.digits.length := by omega
  refine ⟨hne, hread, by omega, ?_, t, ht, ?_⟩
  · rw [← List.length_pos_iff]
    omega
  · intro hmem
    rcases List.mem_cons.mp hmem with rfl | hmem
    · exact hterm ht
    · exact (hall hdigits).2 t ht hmem

theorem Reply.Sent.header_of_delivered (hsent : r.Sent c p) (hfits : r.block.length ≤ c.msgLen)
    (hdelivered : Delivered r p) :
    ∃ q, Header c p r.preamble r.count (digitBytes r.digits) q ∧
      Accepts (digitBytes r.digits) (c.room r.preamble) r.payload.length ∧
      q.stream = r.payload ++ r.terminator ∧ q.eos = r.terminator := by
  obtain ⟨hne, hread, hdigits, hpayload, t, ht, hnot⟩ := hdelivered
  have hpos := r.digits_pos
  have hpayload' := List.length_pos_iff.mpr hpayload
  rw [r.length_block] at hfits
  have hroom : r.digits.length + r.payload.length ≤ c.room r.preamble := by
    unfold Call.room
    omega
  have hterm : r.terminator ≠ [r.count] := by
    rw [ht]
    exact fun h => hnot (List.singleton_injective h ▸ List.mem_cons_self)
  have hscan : scan r.terminator (min r.digits.length (p.chunk 2 + 1)) []
      (digitBytes r.digits ++ r.payload ++ r.terminator) =
      (digitBytes r.digits, .full, r.payload ++ r.terminator) := by
    have hclear : Clear [t] [] (digitBytes r.digits) :=
      clear_singleton fun h => hnot (List.mem_cons_of_mem _ h)
    rw [ht, List.append_assoc, scan_full hclear, List.nil_append]
    · rw [← List.length_pos_iff, length_digitBytes]
      exact hpos
    · rw [length_digitBytes, List.length_nil]
      omega
  obtain ⟨q, hheader, hstream, heos⟩ := hsent.header hne hread hterm (by omega) hscan
  have hnumber := number_digitBytes r.digits_ne_nil r.digits_le
  rw [r.counts] at hnumber
  exact ⟨q, hheader, ⟨hnumber, hpayload', by omega⟩, hstream, heos⟩

theorem Reply.Sent.result_of_delivered (hsent : r.Sent c p) (hcourse : Course c p o)
    (hfits : r.block.length ≤ c.msgLen) (hdelivered : Delivered r p) :
    o.result = some r.block.length ∧ o.msg = r.block := by
  obtain ⟨q, hheader, haccepts, hstream, heos⟩ := hsent.header_of_delivered hfits hdelivered
  obtain ⟨t, ht, -⟩ := hdelivered.terminator
  have hcloses : Closes q.eos q.stream r.payload.length := by
    refine ⟨t, heos.trans ht, ?_⟩
    rw [hstream, ht, List.getElem?_append_right le_rfl, Nat.sub_self]
    rfl
  obtain ⟨hresult, hmsg⟩ := hcourse.result_of_closes hheader haccepts hcloses
  rw [hstream, List.take_left] at hmsg
  exact ⟨by rw [hresult, hmsg]; rfl, hmsg⟩

theorem Reply.Sent.tooLong_iff (hsent : r.Sent c p) (hcourse : Course c p o) (hsafe : Safe c p)
    (hlong : c.msgLen < r.block.length) :
    o.result = none ↔ ∀ d s v, ¬ Misread r c p d s v := by
  constructor
  · rintro hnone d s v ⟨hne, hread, hterm, hroom, ⟨ended, hscan⟩, -, haccepts, hcloses⟩
    obtain ⟨q, hheader, rfl, heos⟩ := hsent.header hne hread hterm hroom hscan
    obtain ⟨hresult, -⟩ := hcourse.result_of_closes hheader haccepts (heos ▸ hcloses)
    exact nomatch hnone.symm.trans hresult
  · intro hno
    rw [Option.eq_none_iff_forall_ne_some]
    intro len hresult
    obtain ⟨P, n, d, q, v, hheader, haccepts, hcloses, -⟩ := hcourse.closes_of_result hsent.isSet hresult
    obtain ⟨rfl, rfl, heos, hne, hread, hterm, hroom, ended, hscan⟩ := hsent.of_header hheader
    have hpos := r.digits_pos
    obtain ⟨-, hd, hdle, hall⟩ := r.scan_digits (by omega) (by omega) hscan
    obtain ⟨-, hv⟩ := r.accepts_le hd haccepts
    refine hno d q.stream v ⟨hne, hread, hterm, hroom, ⟨ended, hscan⟩, ?_, haccepts, heos ▸ hcloses⟩
    -- With all the digits the payload would fit.
    by_contra hcut
    have hdigits : d.length = r.digits.length := by omega
    have hpayload := hsafe.payload _ _ _ _ _ hheader haccepts
    rw [(hall hdigits).1, hv hdigits, List.length_append] at hpayload
    rw [r.length_block] at hlong
    omega

/-- A device that has sent `stream`, with the terminator `"\n"`. -/
def device (stream : List UInt8) : Port := ⟨[10], stream, false, fun _ => 255⟩

/-- A call that stores behind `msg`. -/
theorem not_meets_of_top (fuel top : Nat) (hlong : c.msgLen < top)
    (htop : (readArbitraryBlockProgramData fuel c p).map Outcome.top = some top) : ¬ Meets c p := by
  rintro ⟨o, hreturns, hkept, -⟩
  obtain ⟨o', ho', rfl⟩ := Option.map_eq_some_iff.mp htop
  obtain rfl := hreturns.unique ⟨fuel, ho'⟩
  exact absurd hkept.inside (Nat.not_le.mpr hlong)

end ArbitraryBlock
end DevGpib
end AsynDriver
