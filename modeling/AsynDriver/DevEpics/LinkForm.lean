import AsynDriver.DevEpics.ParseLink

/-!
# Links of the documented form

`asyn(port,addr,timeout)userParams` and `asynMask(port,addr,mask,timeout)userParams`, with blanks or
commas between the arguments, are parsed to their components.

* `Link`, `Arguments`, `MaskArguments` — the form, with the components of a string.
* `formatLink`, `formatLinkMask` — the string for given components.
-/

namespace AsynDriver
namespace DevEpics
namespace ParseLink

open Library
open Manager (AsynStatus)

variable {δ : Type*}

def White (w : List Char) : Prop := ∀ c ∈ w, isspace c = true

/-- What stands between two arguments. -/
structure Separator (s : List Char) : Prop where
  nonempty : s ≠ []
  characters : ∀ c ∈ s, isSeparator c = true

/-- The text of an `int`. -/
structure IsInt (text : List Char) (a : Int) : Prop where
  number : IsNumber strtol text a
  range : -2 ^ 31 ≤ a ∧ a < 2 ^ 31

/-- The text of an `epicsUInt32`, which may be given as a negative number. -/
def IsMask (text : List Char) (mask : Nat) : Prop :=
  ∃ v, IsNumber strtoul text v ∧ mask = v % 2 ^ 32

/-- The keyword with its parentheses, and blanks around what is in them. -/
inductive Link (keyword : List Char) : List Char → List Char → List Char → List Char → Prop
  | mk {before w port arguments w' userParam : List Char} (hbefore : White before) (hw : White w)
      (hport : port ≠ []) (hchars : ∀ c ∈ port, isPortChar c = true) (hw' : White w')
      (huser : ∀ c ∈ userParam.head?, isspace c = false) :
      Link keyword
        (before ++ (keyword ++ (w ++ (port ++ (arguments ++ ')' :: (w' ++ userParam))))))
        port arguments userParam

section Forms

variable (toDouble : Numeral → δ × Bool)

/-- The optional timeout, up to the closing parenthesis. -/
inductive TimeoutText : List Char → δ → Prop
  | omitted {w : List Char} (hw : White w) : TimeoutText w (defaultTimeout toDouble)
  | given {s text w : List Char} {timeout : δ} (hs : Separator s)
      (htext : IsNumber (strtod toDouble) text timeout) (hw : White w) :
      TimeoutText (s ++ (text ++ w)) timeout

/-- The arguments of `asyn` behind the port. -/
inductive Arguments : List Char → Int → δ → Prop
  | omitted {w : List Char} (hw : White w) : Arguments w 0 (defaultTimeout toDouble)
  | given {s text rest : List Char} {addr : Int} {timeout : δ} (hs : Separator s)
      (htext : IsInt text addr) (hrest : TimeoutText toDouble rest timeout) :
      Arguments (s ++ (text ++ rest)) addr timeout

/-- The arguments of `asynMask` behind the port; only the timeout is optional. -/
inductive MaskArguments : List Char → Int → Nat → δ → Prop
  | given {s text s' text' rest : List Char} {addr : Int} {mask : Nat} {timeout : δ}
      (hs : Separator s) (htext : IsInt text addr) (hs' : Separator s') (htext' : IsMask text' mask)
      (hrest : TimeoutText toDouble rest timeout) :
      MaskArguments (s ++ (text ++ (s' ++ (text' ++ rest)))) addr mask timeout

end Forms

/-! ### Separators do not continue a number -/

variable {c : Char} {w s text r u : List Char}

theorem digitValue_of_isSeparator (hc : isSeparator c = true) :
    digitValue c = none ∧ c ≠ '.' ∧ c ≠ '+' ∧ c ≠ '-' ∧ c ≠ '(' := by
  have hcases : c.toNat = 32 ∨ (9 ≤ c.toNat ∧ c.toNat ≤ 13) ∨ c = ',' := by
    simpa [isSeparator, isspace, or_assoc] using hc
  have hne : ∀ d : Char, isSeparator d = false → c ≠ d := by
    rintro d hd rfl
    rw [hd] at hc
    cases hc
  have hvalue : digitValue c = none := by
    have hlow : c.toNat < 48 := by
      rcases hcases with h | h | rfl
      · omega
      · omega
      · decide
    unfold digitValue
    rw [if_neg (by omega), if_neg (by omega), if_neg (by omega)]
  exact ⟨hvalue, hne '.' (by decide), hne '+' (by decide), hne '-' (by decide),
    hne '(' (by decide)⟩

theorem isSeparator_of_isspace (hc : isspace c = true) : isSeparator c = true := by
  simp [isSeparator, hc]

theorem White.separators (hw : White w) : ∀ c ∈ w, isSeparator c = true :=
  fun c hc => isSeparator_of_isspace (hw c hc)

theorem stops_cons (hc : isSeparator c = true ∨ c = ')') : Stops (c :: r) := by
  intro d hd
  rw [← Option.some.inj hd]
  rcases hc with hc | rfl
  · exact digitValue_of_isSeparator hc
  · decide

/-- A separator or the closing parenthesis comes first. -/
def Ends (r : List Char) : Prop := ∃ c t, r = c :: t ∧ (isSeparator c = true ∨ c = ')')

theorem Ends.stops (hr : Ends r) : Stops r := by
  obtain ⟨c, t, rfl, hc⟩ := hr
  exact stops_cons hc

theorem ends_close (hw : White w) : Ends (w ++ ')' :: u) := by
  cases w with
  | nil => exact ⟨_, _, rfl, Or.inr rfl⟩
  | cons c w => exact ⟨_, _, rfl, Or.inl (hw.separators c List.mem_cons_self)⟩

theorem Separator.ends (hs : Separator s) : Ends (s ++ r) := by
  cases s with
  | nil => exact absurd rfl hs.nonempty
  | cons c s => exact ⟨_, _, rfl, Or.inl (hs.characters c List.mem_cons_self)⟩

/-- A number begins neither with a separator nor with the closing parenthesis. -/
theorem number_head {α : Type*} {convert : List Char → Conversion α} {v : α}
    (hconvert : IsConversion convert) (htext : IsNumber convert text v) :
    ∃ c t, text = c :: t ∧ isSeparator c = false ∧ c ≠ ')' := by
  cases text with
  | nil => exact absurd rfl htext.nonempty
  | cons c t =>
      refine ⟨c, t, rfl, ?_, ?_⟩
      · by_contra hc
        have hseparator : isSeparator c = true := by simpa using hc
        exact htext.not_stops hconvert (stops_cons (Or.inl hseparator))
      · intro hc
        exact htext.not_stops hconvert (stops_cons (Or.inr hc))

/-! ### The scanner on the documented form -/

variable {out : Parsed δ} {message : String}

theorem userParams_eq (hw : White w) (hu : ∀ c ∈ u.head?, isspace c = false) :
    userParams (')' :: (w ++ u)) out = { out with userParam := epicsStrDup u } := by
  have hskip : skipWhite (w ++ u) false = u := by
    rw [skipWhite_blank, List.dropWhile_append_of_pos hw, dropWhile_eq_self hu]
  rw [userParams, List.tail_cons, hskip]

section Argument

variable {α : Type*} {convert : List Char → Conversion α} {v : α}
  {omitted : List Char → Parsed δ → Parsed δ} {assign : α → Parsed δ → Parsed δ}
  {next : List Char → Parsed δ → Parsed δ}

theorem parseArgument_omitted (hw : White w) :
    parseArgument message omitted convert assign next (w ++ ')' :: u) out = omitted (')' :: u) out := by
  have hskip : skipWhite (w ++ ')' :: u) true = ')' :: u := by
    rw [skipWhite_comma, List.dropWhile_append_of_pos hw.separators]
    rfl
  simp only [parseArgument, hskip, if_true]

theorem parseArgument_given (hconvert : IsConversion convert) (hs : Separator s)
    (htext : IsNumber convert text v) (hr : Stops r) :
    parseArgument message omitted convert assign next (s ++ (text ++ r)) out =
      next r (assign v out) := by
  obtain ⟨c, t, rfl, hc, hclose⟩ := number_head hconvert htext
  have hskip : skipWhite (s ++ (c :: t ++ r)) true = c :: (t ++ r) := by
    rw [skipWhite_comma, List.dropWhile_append_of_pos hs.characters]
    simp [hc]
  have hnumber : convert (c :: (t ++ r)) = ⟨v, r, false⟩ :=
    hconvert.append hr htext.nonempty htext.value
  simp only [parseArgument, hskip, if_neg hclose, hnumber, Bool.false_eq_true, if_false]

end Argument

theorem closeLink_eq (hw : White w) : closeLink message (w ++ ')' :: u) out = userParams (')' :: u) out := by
  have hskip : skipWhite (w ++ ')' :: u) false = ')' :: u := by
    rw [skipWhite_blank, List.dropWhile_append_of_pos hw]
    rfl
  simp [closeLink, hskip]

theorem toInt_eq {a : Int} (ha : -2 ^ 31 ≤ a ∧ a < 2 ^ 31) : toInt a = a := by
  unfold toInt
  rw [Int.bmod_def]
  split <;> omega

section Parsing

variable {toDouble : Numeral → δ × Bool} {arguments : List Char} {addr : Int} {mask : Nat} {timeout : δ}

theorem TimeoutText.ends (h : TimeoutText toDouble text timeout) : Ends (text ++ ')' :: u) := by
  cases h with
  | omitted hw => exact ends_close hw
  | given hs htext hw =>
      rw [List.append_assoc]
      exact hs.ends

theorem Arguments.ends (h : Arguments toDouble arguments addr timeout) :
    Ends (arguments ++ ')' :: u) := by
  cases h with
  | omitted hw => exact ends_close hw
  | given hs htext hrest =>
      rw [List.append_assoc]
      exact hs.ends

theorem MaskArguments.ends (h : MaskArguments toDouble arguments addr mask timeout) :
    Ends (arguments ++ ')' :: u) := by
  cases h with
  | given hs htext hs' htext' hrest =>
      rw [List.append_assoc]
      exact hs.ends

theorem parseTimeout_eq (h : TimeoutText toDouble text timeout) :
    parseTimeout toDouble message (text ++ ')' :: u) out =
      userParams (')' :: u) (out.setTimeout timeout) := by
  cases h with
  | omitted hw => exact parseArgument_omitted hw
  | given hs htext hw =>
      rw [List.append_assoc, List.append_assoc, parseTimeout,
        parseArgument_given (isConversion_strtod toDouble) hs htext (ends_close hw).stops, closeLink_eq hw]

theorem parseAddr_eq (h : Arguments toDouble arguments addr timeout) :
    parseAddr toDouble (arguments ++ ')' :: u) out =
      userParams (')' :: u) ({ out with addr := addr }.setTimeout timeout) := by
  cases h with
  | omitted hw =>
      rw [parseAddr, parseArgument_omitted hw]
  | given hs htext hrest =>
      rw [List.append_assoc, List.append_assoc, parseAddr,
        parseArgument_given isConversion_strtol hs htext.number hrest.ends.stops, parseTimeout_eq hrest,
        toInt_eq htext.range]

theorem parseMaskAddr_eq (h : MaskArguments toDouble arguments addr mask timeout) :
    parseMaskAddr toDouble (arguments ++ ')' :: u) out =
      userParams (')' :: u) ({ out with addr := addr, mask := some mask }.setTimeout timeout) := by
  cases h with
  | given hs htext hs' htext' hrest =>
      obtain ⟨v, hv, rfl⟩ := htext'
      simp only [List.append_assoc]
      rw [parseMaskAddr, parseArgument_given isConversion_strtol hs htext.number hs'.ends.stops, parseMask,
        parseArgument_given isConversion_strtoul hs' hv hrest.ends.stops, parseTimeout_eq hrest,
        toInt_eq htext.range]

end Parsing

theorem isPortChar_eq_false (hc : isSeparator c = true ∨ c = ')') : isPortChar c = false := by
  rcases hc with hc | rfl
  · have hcases : isspace c = true ∨ c = ',' := by simpa [isSeparator] using hc
    rcases hcases with h | rfl
    · simp [isPortChar, h]
    · rfl
  · rfl

theorem parsePort_eq {port : List Char} {next : List Char → Parsed δ → Parsed δ} (hw : White w)
    (hport : port ≠ []) (hchars : ∀ c ∈ port, isPortChar c = true) (hr : Ends r) :
    parsePort message next (w ++ (port ++ r)) out = next r { out with port := some port } := by
  obtain ⟨d, t, rfl, hd⟩ := hr
  have hblank : ∀ c ∈ (port ++ d :: t).head?, isspace c = false := by
    cases port with
    | nil => exact absurd rfl hport
    | cons e port =>
        intro c hc
        have he := hchars e List.mem_cons_self
        rw [← Option.some.inj hc]
        simp only [isPortChar, Bool.and_eq_true, Bool.not_eq_true'] at he
        exact he.1.1
  have hend : ∀ c ∈ (d :: t).head?, isPortChar c = false := by
    intro c hc
    rw [← Option.some.inj hc]
    exact isPortChar_eq_false hd
  have hskip : skipWhite (w ++ (port ++ d :: t)) false = port ++ d :: t := by
    rw [skipWhite_blank, List.dropWhile_append_of_pos hw, dropWhile_eq_self hblank]
  have hdrop : (port ++ d :: t).dropWhile isPortChar = d :: t := by
    rw [List.dropWhile_append_of_pos hchars, dropWhile_eq_self hend]
  have htake : (port ++ d :: t).takeWhile isPortChar = port := by
    rw [takeWhile_append_of_head hend, List.takeWhile_eq_self_iff.2 hchars]
  simp [parsePort, hskip, hdrop, htake]

/-- The keyword is found behind blanks. -/
theorem strstr_eq {k : Char} {keyword before : List Char} (hk : isspace k = false)
    (hbefore : White before) :
    strstr (k :: keyword) (before ++ (k :: keyword ++ u)) = some (k :: keyword ++ u) := by
  induction before with
  | nil =>
      have hprefix : (k :: keyword).isPrefixOf (k :: keyword ++ u) = true :=
        List.isPrefixOf_iff_prefix.2 (List.prefix_append _ _)
      simp only [List.nil_append, List.cons_append] at hprefix ⊢
      rw [strstr, if_pos hprefix]
  | cons c before ih =>
      have hne : k ≠ c := by
        rintro rfl
        rw [hbefore k List.mem_cons_self] at hk
        cases hk
      have hno : (k :: keyword).isPrefixOf (c :: (before ++ (k :: keyword ++ u))) = false := by
        simp [List.isPrefixOf, hne]
      rw [List.cons_append, strstr, hno]
      exact ih fun d hd => hbefore d (List.mem_cons_of_mem _ hd)

/-- Success with the components of a link. -/
def linkResult (port : List Char) (addr : Int) (mask : Option Nat) (timeout : δ)
    (userParam : List Char) (pasynUser : AsynUser δ) : Parsed δ where
  status := .asynSuccess
  port := some port
  addr := addr
  mask := mask
  userParam := epicsStrDup userParam
  pasynUser := { pasynUser with timeout := timeout }

section Links

variable {toDouble : Numeral → δ × Bool} {string port arguments userParam : List Char} {addr : Int}
  {mask : Nat} {timeout : δ} (pasynUser : AsynUser δ)

/-- A documented link gives its components. -/
theorem parseLink_eq (hlink : Link asynKeyword string port arguments userParam)
    (harguments : Arguments toDouble arguments addr timeout) :
    parseLink toDouble (.instIo string) pasynUser =
      linkResult port addr none timeout userParam pasynUser := by
  cases hlink with
  | mk hbefore hw hport hchars hw' huser =>
      rw [parseLink, asynKeyword, strstr_eq (by decide) hbefore]
      simp only [List.cons_append, List.nil_append, List.drop_succ_cons, List.drop_zero]
      rw [parsePort_eq hw hport hchars harguments.ends, parseAddr_eq harguments,
        userParams_eq hw' huser]
      rfl

theorem parseLinkMask_eq (hlink : Link asynMaskKeyword string port arguments userParam)
    (harguments : MaskArguments toDouble arguments addr mask timeout) :
    parseLinkMask toDouble (.instIo string) pasynUser =
      linkResult port addr (some mask) timeout userParam pasynUser := by
  cases hlink with
  | mk hbefore hw hport hchars hw' huser =>
      rw [parseLinkMask, asynMaskKeyword, strstr_eq (by decide) hbefore]
      simp only [List.cons_append, List.nil_append, List.drop_succ_cons, List.drop_zero]
      rw [parsePort_eq hw hport hchars harguments.ends, parseMaskAddr_eq harguments,
        userParams_eq hw' huser]
      rfl

end Links

/-! ### Formatting -/

theorem toDigits_not_blank {n : Nat} : ∀ c ∈ (Nat.toDigits 10 n ++ r).head?, isspace c = false := by
  cases hdigits : Nat.toDigits 10 n with
  | nil => exact absurd hdigits Nat.toDigits_ne_nil
  | cons d ds =>
      intro c hc
      have hd : d.isDigit = true := isDigit_of_mem_toDigits (n := n) d (by simp [hdigits])
      have hrange := toNat_of_isDigit hd
      rw [← Option.some.inj hc]
      simp only [isspace, Bool.or_eq_false_iff, beq_eq_false_iff_ne, Bool.and_eq_false_iff,
        decide_eq_false_iff_not]
      omega

theorem isInt_decimal {a : Int} (ha : -2 ^ 31 ≤ a ∧ a < 2 ^ 31) : IsInt (decimal a) a where
  number :=
    { nonempty := by
        unfold decimal
        split
        · simp
        · exact Nat.toDigits_ne_nil
      notBlank := by
        unfold decimal
        split
        · intro c hc
          rw [← Option.some.inj hc]
          decide
        · have h := toDigits_not_blank (n := a.natAbs) (r := [])
          rwa [List.append_nil] at h
      value := strtol_decimal (by omega) (by omega) }
  range := ha

theorem isMask_toDigits {mask : Nat} (hmask : mask < 2 ^ 32) : IsMask (Nat.toDigits 10 mask) mask := by
  refine ⟨mask, ?_, (Nat.mod_eq_of_lt hmask).symm⟩
  refine ⟨Nat.toDigits_ne_nil, ?_, strtoul_toDigits (by omega)⟩
  have h := toDigits_not_blank (n := mask) (r := [])
  rwa [List.append_nil] at h

theorem isNumber_fixedPoint {toDouble : Numeral → δ × Bool} {negative : Bool} {m k : Nat} {timeout : δ}
    (htimeout : toDouble (.finite negative m 10 (-k)) = (timeout, false)) :
    IsNumber (strtod toDouble) (fixedPoint negative m k) timeout where
  nonempty := by
    unfold fixedPoint
    simp
  notBlank := by
    cases negative with
    | true =>
        intro c hc
        rw [← Option.some.inj hc]
        decide
    | false => exact toDigits_not_blank
  value := by simp only [strtod, scanFloat_fixedPoint, htimeout]

theorem white_nil : White [] := by
  intro c hc
  cases hc

theorem separator_comma : Separator [','] := ⟨by simp, by simp [isSeparator]⟩

section Format

variable (port : List Char) (addr : Int) (mask : Nat) (timeout userParam : List Char)

/-- `asyn(port,addr,timeout)userParam` -/
def formatLink : List Char :=
  asynKeyword ++ (port ++ (',' :: decimal addr ++ ',' :: timeout ++ ')' :: userParam))

/-- `asynMask(port,addr,mask,timeout)userParam` -/
def formatLinkMask : List Char :=
  asynMaskKeyword ++
    (port ++ (',' :: decimal addr ++ ',' :: Nat.toDigits 10 mask ++ ',' :: timeout ++ ')' :: userParam))

end Format

/-- What can be told from the string of a link: the name of the port ends somewhere, and white space at
the beginning of `userParam` is skipped. -/
structure Formattable (port : List Char) (addr : Int) (userParam : List Char) : Prop where
  nonempty : port ≠ []
  characters : ∀ c ∈ port, isPortChar c = true
  range : -2 ^ 31 ≤ addr ∧ addr < 2 ^ 31
  userParam : ∀ c ∈ userParam.head?, isspace c = false

section Roundtrip

variable {toDouble : Numeral → δ × Bool} {port userParam text : List Char} {addr : Int} {mask : Nat}
  {timeout : δ} (pasynUser : AsynUser δ)

theorem parseLink_formatLink (h : Formattable port addr userParam)
    (htext : IsNumber (strtod toDouble) text timeout) :
    parseLink toDouble (.instIo (formatLink port addr text userParam)) pasynUser =
      linkResult port addr none timeout userParam pasynUser := by
  have htimeout : TimeoutText toDouble ([','] ++ (text ++ [])) timeout :=
    .given separator_comma htext white_nil
  have harguments : Arguments toDouble ([','] ++ (decimal addr ++ ([','] ++ (text ++ [])))) addr timeout :=
    .given separator_comma (isInt_decimal h.range) htimeout
  have hlink : Link asynKeyword _ port ([','] ++ (decimal addr ++ ([','] ++ (text ++ [])))) userParam :=
    .mk white_nil white_nil h.nonempty h.characters white_nil h.userParam
  simpa [formatLink] using parseLink_eq pasynUser hlink harguments

theorem parseLinkMask_formatLinkMask (h : Formattable port addr userParam) (hmask : mask < 2 ^ 32)
    (htext : IsNumber (strtod toDouble) text timeout) :
    parseLinkMask toDouble (.instIo (formatLinkMask port addr mask text userParam)) pasynUser =
      linkResult port addr (some mask) timeout userParam pasynUser := by
  have htimeout : TimeoutText toDouble ([','] ++ (text ++ [])) timeout :=
    .given separator_comma htext white_nil
  have harguments : MaskArguments toDouble
      ([','] ++ (decimal addr ++ ([','] ++ (Nat.toDigits 10 mask ++ ([','] ++ (text ++ []))))))
      addr mask timeout :=
    .given separator_comma (isInt_decimal h.range) separator_comma (isMask_toDigits hmask) htimeout
  have hlink : Link asynMaskKeyword _ port
      ([','] ++ (decimal addr ++ ([','] ++ (Nat.toDigits 10 mask ++ ([','] ++ (text ++ [])))))) userParam :=
    .mk white_nil white_nil h.nonempty h.characters white_nil h.userParam
  simpa [formatLinkMask] using parseLinkMask_eq pasynUser hlink harguments

end Roundtrip

/-! ### Links -/

section Correctness

variable (toDouble : Numeral → δ × Bool) (pasynUser : AsynUser δ)

/-- Links of the documented form give their components.  A string that is accepted succeeds, also with an
empty port name or an address out of the range of `int`, and any other one gives `asynError` with the
message.  A formatted link is parsed to what it was formatted from. -/
theorem links_parsed :
    (∀ {string port arguments userParam addr timeout},
      Link asynKeyword string port arguments userParam → Arguments toDouble arguments addr timeout →
      parseLink toDouble (.instIo string) pasynUser =
        linkResult port addr none timeout userParam pasynUser) ∧
    (∀ {string port arguments userParam addr mask timeout},
      Link asynMaskKeyword string port arguments userParam →
      MaskArguments toDouble arguments addr mask timeout →
      parseLinkMask toDouble (.instIo string) pasynUser =
        linkResult port addr (some mask) timeout userParam pasynUser) ∧
    (∀ string,
      Reports instIoError (Accepted asynKeyword (AcceptedAddr toDouble) string)
        (Parsed.start pasynUser) (parseLink toDouble (.instIo string) pasynUser) ∧
      Reports instIoMaskError (Accepted asynMaskKeyword (AcceptedMaskAddr toDouble) string)
        (Parsed.start pasynUser) (parseLinkMask toDouble (.instIo string) pasynUser)) ∧
    (∀ {port addr userParam negative m k timeout} mask, Formattable port addr userParam →
      mask < 2 ^ 32 → toDouble (.finite negative m 10 (-(k : Nat))) = (timeout, false) →
      parseLink toDouble (.instIo (formatLink port addr (fixedPoint negative m k) userParam))
          pasynUser =
        linkResult port addr none timeout userParam pasynUser ∧
      parseLinkMask toDouble
          (.instIo (formatLinkMask port addr mask (fixedPoint negative m k) userParam)) pasynUser =
        linkResult port addr (some mask) timeout userParam pasynUser) := by
  refine ⟨parseLink_eq pasynUser, parseLinkMask_eq pasynUser, ?_, ?_⟩
  · intro string
    exact ⟨parseLink_reports toDouble string pasynUser,
      parseLinkMask_reports toDouble string pasynUser⟩
  · intro port addr userParam negative m k timeout mask h hmask htimeout
    have htext := isNumber_fixedPoint (k := k) htimeout
    exact ⟨parseLink_formatLink pasynUser h htext,
      parseLinkMask_formatLinkMask pasynUser h hmask htext⟩

/-- The link `asyn(p,1,2.5)`. -/
theorem links_parsed_example :
    parseLink (fun n => (n, false))
        (.instIo (formatLink ['p'] 1 (fixedPoint false 25 1) [])) ⟨.nan false, [], 160⟩ =
      linkResult ['p'] 1 none (.finite false 25 10 (-1)) [] ⟨.nan false, [], 160⟩ :=
  ((links_parsed (fun n => (n, false)) ⟨.nan false, [], 160⟩).2.2.2 0
    ⟨by simp, by simp [isPortChar, isspace], by decide, by simp⟩ (by decide) rfl).1

/-- Text before the keyword is accepted, an address that is left out of `asynMask` is not, and blanks at
the beginning of `userParam` are lost. -/
theorem other_links :
    ((parseLink (fun n => (n, false)) (.instIo ['x', 'a', 's', 'y', 'n', '(', 'p', ')'])
        ⟨Numeral.nan false, [], 160⟩).status = .asynSuccess ∧
      ¬ ∃ port arguments userParam,
        Link asynKeyword ['x', 'a', 's', 'y', 'n', '(', 'p', ')'] port arguments userParam) ∧
    (parseLinkMask (fun n => (n, false)) (.instIo (asynMaskKeyword ++ ['p', ')']))
        ⟨Numeral.nan false, [], 160⟩).status = .asynError ∧
    (parseLink (fun n => (n, false)) (.instIo (formatLink ['p'] 1 ['1'] [' ', 'u']))
        ⟨Numeral.nan false, [], 160⟩).userParam = some ['u'] := by
  refine ⟨⟨by decide, ?_⟩, by decide, by decide⟩
  rintro ⟨port, arguments, userParam, h⟩
  generalize hstring : ['x', 'a', 's', 'y', 'n', '(', 'p', ')'] = string at h
  cases h with
  | @mk before w _ _ w' _ hbefore _ _ _ _ _ =>
      cases before with
      | nil => simp [asynKeyword] at hstring
      | cons c before =>
          have hc : c = 'x' := (List.cons.inj hstring).1.symm
          have hblank := hbefore c List.mem_cons_self
          rw [hc] at hblank
          cases hblank

end Correctness

end ParseLink
end DevEpics
end AsynDriver
