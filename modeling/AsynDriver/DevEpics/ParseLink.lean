import AsynDriver.Library.CNumber
import AsynDriver.Manager.Types

/-!
# The links of the device support

`parseLink` and `parseLinkMask` of `asynEpicsUtils` scan the link of a record into the port, the address,
the mask, the timeout and the string for the driver.

* `skipWhite`, `userParams`, `parseTimeout`, `parsePort` — the parts of the scanner, under the words of
  its comments and labels.
* `parseLink`, `parseLinkMask` — the code.
* `Reports` — what a part of the scanner reports, with the condition under which it reports no error.
* `Accepted`, `AcceptedTimeout` and the others — the strings that are not reported as an error.
-/

namespace AsynDriver
namespace DevEpics
namespace ParseLink

open Library
open Manager (AsynStatus)

variable {δ : Type*}

/-- `DBLINK`, by its type. -/
inductive DBLINK
  | vmeIo (signal : Int) (parm : List Char)
  | instIo (string : List Char)
  | other
  deriving DecidableEq, Repr

/-- The fields of `asynUser` that the scanner uses. -/
structure AsynUser (δ : Type*) where
  timeout : δ
  errorMessage : List Char
  errorMessageSize : Nat
  deriving DecidableEq

/-- What a call leaves: the status, `*port`, `*addr`, `*mask` when it is assigned, `*userParam` and the
`asynUser`. -/
structure Parsed (δ : Type*) where
  status : AsynStatus
  port : Option (List Char)
  addr : Int
  mask : Option Nat
  userParam : Option (List Char)
  pasynUser : AsynUser δ
  deriving DecidableEq

/-- `*addr=0; *port=NULL; *userParam=NULL;` -/
def Parsed.start (pasynUser : AsynUser δ) : Parsed δ :=
  ⟨.asynSuccess, none, 0, none, none, pasynUser⟩

/-- `epicsSnprintf` of a text without conversions to a buffer that is not empty. -/
def epicsSnprintf (size : Nat) (text : List Char) : List Char := text.take (size - 1)

/-- The `error` label: the message, and `asynError`. -/
def Parsed.error (message : String) (out : Parsed δ) : Parsed δ :=
  { out with
    status := .asynError
    pasynUser := { out.pasynUser with
      errorMessage := epicsSnprintf out.pasynUser.errorMessageSize message.toList } }

/-- `pasynUser->timeout = timeout;` -/
def Parsed.setTimeout (timeout : δ) (out : Parsed δ) : Parsed δ :=
  { out with pasynUser := { out.pasynUser with timeout := timeout } }

def isSeparator (c : Char) : Bool := isspace c || c == ','

def skipWhite (pstart : List Char) (commaOk : Bool) : List Char :=
  pstart.dropWhile fun c => isspace c || (commaOk && c == ',')

/-- `(int)` of a `long`. -/
def toInt (n : Int) : Int := n.bmod (2 ^ 32)

/-- Null for the empty string. -/
def epicsStrDup (p : List Char) : Option (List Char) := if p = [] then none else some p

/-- The `userParams` label, with `pnext` at the closing parenthesis. -/
def userParams (pnext : List Char) (out : Parsed δ) : Parsed δ :=
  { out with userParam := epicsStrDup (skipWhite pnext.tail false) }

/-- The code for one argument: at the closing parenthesis `omitted` is done, and otherwise the number is
converted and assigned. -/
def parseArgument {α : Type*} (message : String) (omitted : List Char → Parsed δ → Parsed δ)
    (convert : List Char → Conversion α) (assign : α → Parsed δ → Parsed δ)
    (next : List Char → Parsed δ → Parsed δ) (pnext : List Char) (out : Parsed δ) : Parsed δ :=
  match skipWhite pnext true with
  | [] => out.error message
  | c :: q =>
      if c = ')' then omitted (c :: q) out
      else
        let number := convert (c :: q)
        let out := assign number.value out
        if number.errno then out.error message else next number.endptr out

/-- `if(*pnext!=')') goto error;` behind the timeout. -/
def closeLink (message : String) (endp : List Char) (out : Parsed δ) : Parsed δ :=
  let pnext := skipWhite endp false
  if pnext.head? = some ')' then userParams pnext out else out.error message

section Numbers

variable (toDouble : Numeral → δ × Bool)

/-- `1.0` -/
def defaultTimeout : δ := (toDouble (.finite false 10 10 (-1))).1

/-- Both functions from `/*next is timeout*/`. -/
def parseTimeout (message : String) : List Char → Parsed δ → Parsed δ :=
  parseArgument message (fun p out => userParams p (out.setTimeout (defaultTimeout toDouble)))
    (strtod toDouble) Parsed.setTimeout (closeLink message)

/-- The port name up to white space, a comma or the closing parenthesis. -/
def isPortChar (c : Char) : Bool := !isspace c && c != ',' && c != ')'

/-- The part up to `/*next is addr*/`; `next` is the rest, from the end of the port name. -/
def parsePort (message : String) (next : List Char → Parsed δ → Parsed δ) (pnext : List Char)
    (out : Parsed δ) : Parsed δ :=
  let pnext := skipWhite pnext false
  let p := pnext.dropWhile isPortChar
  if p = [] then out.error message
  else next p { out with port := some (pnext.takeWhile isPortChar) }

def instIoError : String := "invalid INST_IO Must be asyn(<port> <addr> <timeout>)userParams"

/-- `parseLink` from `/*next is addr*/`: without an address the timeout is not read. -/
def parseAddr : List Char → Parsed δ → Parsed δ :=
  parseArgument instIoError
    (fun p out => userParams p ({ out with addr := 0 }.setTimeout (defaultTimeout toDouble)))
    strtol (fun addr out => { out with addr := toInt addr }) (parseTimeout toDouble instIoError)

/-- The case `VME_IO`; the copy of the port starts at the beginning of `parm`. -/
def parseVmeIo (signal : Int) (parm : List Char) (out : Parsed δ) : Parsed δ :=
  let out := { out with addr := signal }
  let p := skipWhite parm false
  let len := (p.takeWhile fun c => !isspace c && c != ',').length
  if len = 0 then out.error "parm is null. Must be <port> <addr> ..."
  else
    { out with
      port := some (parm.take len)
      userParam := epicsStrDup (skipWhite (p.drop len) false) }

def asynKeyword : List Char := ['a', 's', 'y', 'n', '(']

def parseLink (plink : DBLINK) (pasynUser : AsynUser δ) : Parsed δ :=
  let out := Parsed.start pasynUser
  match plink with
  | .vmeIo signal parm => parseVmeIo signal parm out
  | .instIo string =>
      match strstr asynKeyword string with
      | none => out.error instIoError
      | some pnext => parsePort instIoError (parseAddr toDouble) (pnext.drop 5) out
  | .other => out.error "Link must be INST_IO or VME_IO"

def instIoMaskError : String :=
  "invalid INST_IO Must be asynMask(<port> <addr> <mask> <timeout>)userParams"

/-- `parseLinkMask` from `/*next is mask*/`. -/
def parseMask : List Char → Parsed δ → Parsed δ :=
  parseArgument instIoMaskError (fun _ out => out.error instIoMaskError)
    strtoul (fun mask out => { out with mask := some (mask % 2 ^ 32) })
    (parseTimeout toDouble instIoMaskError)

/-- `parseLinkMask` from `/*next is addr*/`. -/
def parseMaskAddr : List Char → Parsed δ → Parsed δ :=
  parseArgument instIoMaskError (fun _ out => out.error instIoMaskError)
    strtol (fun addr out => { out with addr := toInt addr }) (parseMask toDouble)

def asynMaskKeyword : List Char := ['a', 's', 'y', 'n', 'M', 'a', 's', 'k', '(']

def parseLinkMask (plink : DBLINK) (pasynUser : AsynUser δ) : Parsed δ :=
  let out := Parsed.start pasynUser
  match plink with
  | .instIo string =>
      match strstr asynMaskKeyword string with
      | none => out.error instIoMaskError
      | some pnext => parsePort instIoMaskError (parseMaskAddr toDouble) (pnext.drop 9) out
  | _ => out.error "Link must be INST_IO"

end Numbers

/-! ### What is reported -/

/-- The fields that tell the caller of an error. -/
def Parsed.report (out : Parsed δ) : AsynStatus × List Char × Nat :=
  (out.status, out.pasynUser.errorMessage, out.pasynUser.errorMessageSize)

/-- The report is that of `out` when `accepted`, and otherwise `asynError` with the message. -/
def Reports (message : String) (accepted : Prop) (out out' : Parsed δ) : Prop :=
  (accepted ∧ out'.report = out.report) ∨
  (¬ accepted ∧ out'.report = (out.error message).report)

/-- The closing parenthesis comes next, behind `blank` characters. -/
def Closes (blank : Char → Bool) (p : List Char) : Prop :=
  ∃ w u, p = w ++ ')' :: u ∧ ∀ c ∈ w, blank c = true

/-- Behind separators comes a number in range, and what follows it is accepted by `next`. -/
def Argument {α : Type*} (convert : List Char → Conversion α) (next : List Char → Prop)
    (p : List Char) : Prop :=
  ∃ s c q, p = s ++ c :: q ∧ (∀ d ∈ s, isSeparator d = true) ∧ isSeparator c = false ∧ c ≠ ')' ∧
    (convert (c :: q)).errno = false ∧ next (convert (c :: q)).endptr

section Accepted

variable (toDouble : Numeral → δ × Bool)

def AcceptedTimeout (p : List Char) : Prop :=
  Closes isSeparator p ∨ Argument (strtod toDouble) (Closes isspace) p

def AcceptedAddr (p : List Char) : Prop :=
  Closes isSeparator p ∨ Argument strtol (AcceptedTimeout toDouble) p

def AcceptedMask : List Char → Prop := Argument strtoul (AcceptedTimeout toDouble)

def AcceptedMaskAddr : List Char → Prop := Argument strtol (AcceptedMask toDouble)

end Accepted

/-- Blanks, a port name that may be empty, and arguments that are accepted. -/
def AcceptedPort (arguments : List Char → Prop) (p : List Char) : Prop :=
  ∃ w port rest, p = w ++ port ++ rest ∧ (∀ c ∈ w, isspace c = true) ∧
    (∀ c ∈ port, isPortChar c = true) ∧ (∀ c ∈ (port ++ rest).head?, isspace c = false) ∧
    (∀ c ∈ rest.head?, isPortChar c = false) ∧ arguments rest

/-- The arguments are accepted behind the first keyword, whatever stands before it. -/
def Accepted (keyword : List Char) (arguments : List Char → Prop) (string : List Char) : Prop :=
  ∃ p, strstr keyword string = some (keyword ++ p) ∧ AcceptedPort arguments p

section Outcomes
variable {message : String} {p : List Char} {out out' : Parsed δ}

theorem skipWhite_comma (p : List Char) : skipWhite p true = p.dropWhile isSeparator := by
  simp only [skipWhite, Bool.true_and]
  rfl

theorem skipWhite_blank (p : List Char) : skipWhite p false = p.dropWhile isspace := by
  simp [skipWhite]

theorem closes_iff {blank : Char → Bool} (hblank : blank ')' = false) :
    Closes blank p ↔ (p.dropWhile blank).head? = some ')' := by
  constructor
  · rintro ⟨w, u, rfl, hw⟩
    rw [List.dropWhile_append_of_pos hw]
    simp [hblank]
  · intro hhead
    cases hdrop : p.dropWhile blank with
    | nil => simp [hdrop] at hhead
    | cons c u =>
        have hc : c = ')' := by simpa [hdrop] using hhead
        refine ⟨p.takeWhile blank, u, ?_, fun d hd => List.mem_takeWhile_imp hd⟩
        rw [← hc, ← hdrop, List.takeWhile_append_dropWhile]

variable {α : Type*} {convert : List Char → Conversion α} {accepted : List Char → Prop} {c : Char}
  {q : List Char}

theorem argument_iff :
    Argument convert accepted p ↔
      ∃ c q, p.dropWhile isSeparator = c :: q ∧ c ≠ ')' ∧ (convert (c :: q)).errno = false ∧
        accepted (convert (c :: q)).endptr := by
  constructor
  · rintro ⟨s, c, q, rfl, hs, hc, hne, haccepted⟩
    refine ⟨c, q, ?_, hne, haccepted⟩
    rw [List.dropWhile_append_of_pos hs]
    simp [hc]
  · rintro ⟨c, q, hdrop, hne, haccepted⟩
    have hc : isSeparator c = false := head?_dropWhile isSeparator p c (by simp [hdrop])
    refine ⟨p.takeWhile isSeparator, c, q, ?_, fun d hd => List.mem_takeWhile_imp hd, hc, hne,
      haccepted⟩
    rw [← hdrop, List.takeWhile_append_dropWhile]

/-- What is accepted depends on the first character behind the separators. -/
theorem argument_of_nil (hdrop : p.dropWhile isSeparator = []) :
    ¬ (Closes isSeparator p ∨ Argument convert accepted p) := by
  rw [closes_iff (by decide), argument_iff, hdrop]
  simp

theorem argument_of_close (hdrop : p.dropWhile isSeparator = ')' :: q) :
    Closes isSeparator p ∧ ¬ Argument convert accepted p := by
  rw [closes_iff (by decide), argument_iff, hdrop]
  refine ⟨rfl, ?_⟩
  rintro ⟨d, t, heq, hd, -⟩
  cases heq
  exact hd rfl

theorem argument_of_cons (hdrop : p.dropWhile isSeparator = c :: q) (hc : c ≠ ')') :
    ¬ Closes isSeparator p ∧
      (Argument convert accepted p ↔
        (convert (c :: q)).errno = false ∧ accepted (convert (c :: q)).endptr) := by
  rw [closes_iff (by decide), argument_iff, hdrop]
  refine ⟨by simpa using hc, ?_⟩
  constructor
  · rintro ⟨d, t, heq, -, h⟩
    cases heq
    exact h
  · intro h
    exact ⟨c, q, rfl, hc, h⟩

theorem Reports.success {accepted : Prop} (haccepted : accepted) (hreport : out'.report = out.report) :
    Reports message accepted out out' :=
  Or.inl ⟨haccepted, hreport⟩

theorem Reports.error {accepted : Prop} (hno : ¬ accepted) :
    Reports message accepted out (out.error message) :=
  Or.inr ⟨hno, rfl⟩

theorem Reports.congr {accepted accepted' : Prop} (hiff : accepted ↔ accepted')
    (h : Reports message accepted out out') : Reports message accepted' out out' := by
  rwa [Reports, hiff] at h

/-- Only the report of the state before counts. -/
theorem Reports.trans {accepted : Prop} {out₀ : Parsed δ} (hreport : out.report = out₀.report)
    (h : Reports message accepted out out') : Reports message accepted out₀ out' := by
  have herror : (out.error message).report = (out₀.error message).report := by
    have hsize : out.pasynUser.errorMessageSize = out₀.pasynUser.errorMessageSize :=
      congrArg (fun r => r.2.2) hreport
    simp only [Parsed.report, Parsed.error, hsize]
  rwa [Reports, hreport, herror] at h

/-- One argument: `optional` says whether it may be omitted. -/
theorem parseArgument_reports {omitted : List Char → Parsed δ → Parsed δ}
    {assign : α → Parsed δ → Parsed δ} {next : List Char → Parsed δ → Parsed δ} {optional : Prop}
    (homitted : ∀ p, Reports message optional out (omitted p out))
    (hassign : ∀ v, (assign v out).report = out.report)
    (hnext : ∀ endp out, Reports message (accepted endp) out (next endp out)) :
    Reports message ((optional ∧ Closes isSeparator p) ∨ Argument convert accepted p) out
      (parseArgument message omitted convert assign next p out) := by
  unfold parseArgument
  rw [skipWhite_comma]
  cases hdrop : p.dropWhile isSeparator with
  | nil =>
      exact Reports.error fun h => argument_of_nil hdrop (h.imp_left And.right)
  | cons c q =>
      by_cases hc : c = ')'
      · subst hc
        have hiff : optional ↔
            ((optional ∧ Closes isSeparator p) ∨ Argument convert accepted p) := by
          have hclose : Closes isSeparator p ∧ ¬ Argument convert accepted p :=
            argument_of_close hdrop
          simp only [hclose.1, hclose.2, and_true, or_false]
        simp only [if_true]
        exact Reports.congr hiff (homitted _)
      · have hiff : ((convert (c :: q)).errno = false ∧ accepted (convert (c :: q)).endptr) ↔
            ((optional ∧ Closes isSeparator p) ∨ Argument convert accepted p) := by
          have hargument : ¬ Closes isSeparator p ∧ (Argument convert accepted p ↔ _) :=
            argument_of_cons hdrop hc
          simp only [hargument.1, hargument.2, and_false, false_or]
        simp only [if_neg hc]
        refine Reports.congr hiff (Reports.trans (hassign (convert (c :: q)).value) ?_)
        cases (convert (c :: q)).errno with
        | true => exact Reports.error (by simp)
        | false =>
            simp only [Bool.false_eq_true, if_false, true_and]
            exact hnext _ _

theorem closeLink_reports (p : List Char) (out : Parsed δ) :
    Reports message (Closes isspace p) out (closeLink message p out) := by
  unfold closeLink
  rw [skipWhite_blank, closes_iff (by decide)]
  by_cases hclose : (p.dropWhile isspace).head? = some ')'
  · simp only [if_pos hclose]
    exact Reports.success hclose rfl
  · simp only [if_neg hclose]
    exact Reports.error hclose

section Arguments

variable (toDouble : Numeral → δ × Bool) (p : List Char) (out : Parsed δ)

theorem parseTimeout_reports :
    Reports message (AcceptedTimeout toDouble p) out (parseTimeout toDouble message p out) := by
  have h : Reports message
      ((True ∧ Closes isSeparator p) ∨ Argument (strtod toDouble) (Closes isspace) p) out
      (parseTimeout toDouble message p out) :=
    parseArgument_reports (fun _ => Reports.success trivial rfl) (fun _ => rfl) closeLink_reports
  rwa [true_and] at h

theorem parseAddr_reports :
    Reports instIoError (AcceptedAddr toDouble p) out (parseAddr toDouble p out) := by
  have h : Reports instIoError
      ((True ∧ Closes isSeparator p) ∨ Argument strtol (AcceptedTimeout toDouble) p) out
      (parseAddr toDouble p out) :=
    parseArgument_reports (fun _ => Reports.success trivial rfl) (fun _ => rfl)
      (parseTimeout_reports toDouble)
  rwa [true_and] at h

theorem parseMask_reports :
    Reports instIoMaskError (AcceptedMask toDouble p) out (parseMask toDouble p out) := by
  have h : Reports instIoMaskError
      ((False ∧ Closes isSeparator p) ∨ Argument strtoul (AcceptedTimeout toDouble) p) out
      (parseMask toDouble p out) :=
    parseArgument_reports (fun _ => Reports.error not_false) (fun _ => rfl)
      (parseTimeout_reports toDouble)
  rwa [false_and, false_or] at h

theorem parseMaskAddr_reports :
    Reports instIoMaskError (AcceptedMaskAddr toDouble p) out (parseMaskAddr toDouble p out) := by
  have h : Reports instIoMaskError
      ((False ∧ Closes isSeparator p) ∨ Argument strtol (AcceptedMask toDouble) p) out
      (parseMaskAddr toDouble p out) :=
    parseArgument_reports (fun _ => Reports.error not_false) (fun _ => rfl)
      (parseMask_reports toDouble)
  rwa [false_and, false_or] at h

end Arguments

/-- The port name ends where the first character that cannot be in one stands. -/
theorem acceptedPort_iff :
    AcceptedPort accepted p ↔ accepted ((p.dropWhile isspace).dropWhile isPortChar) := by
  constructor
  · rintro ⟨w, port, rest, rfl, hw, hport, hhead, hrest, haccepted⟩
    have hblank : (w ++ port ++ rest).dropWhile isspace = port ++ rest := by
      rw [List.append_assoc, List.dropWhile_append_of_pos hw]
      exact dropWhile_eq_self hhead
    rw [hblank, List.dropWhile_append_of_pos hport, dropWhile_eq_self hrest]
    exact haccepted
  · intro haccepted
    refine ⟨p.takeWhile isspace, (p.dropWhile isspace).takeWhile isPortChar,
      (p.dropWhile isspace).dropWhile isPortChar, ?_, fun c hc => List.mem_takeWhile_imp hc,
      fun c hc => List.mem_takeWhile_imp hc, ?_, head?_dropWhile isPortChar _, haccepted⟩
    · rw [List.append_assoc, List.takeWhile_append_dropWhile, List.takeWhile_append_dropWhile]
    · rw [List.takeWhile_append_dropWhile]
      exact head?_dropWhile isspace p

theorem parsePort_reports {next : List Char → Parsed δ → Parsed δ} (hempty : ¬ accepted [])
    (hnext : ∀ rest out, Reports message (accepted rest) out (next rest out)) :
    Reports message (AcceptedPort accepted p) out (parsePort message next p out) := by
  rw [acceptedPort_iff]
  unfold parsePort
  rw [skipWhite_blank]
  by_cases hnil : (p.dropWhile isspace).dropWhile isPortChar = []
  · simp only [if_pos hnil]
    rw [hnil]
    exact Reports.error hempty
  · simp only [if_neg hnil]
    exact Reports.trans rfl (hnext _ _)

theorem not_argument_nil : ¬ Argument convert accepted [] := by
  rw [argument_iff]
  simp

theorem not_closes_nil {blank : Char → Bool} : ¬ Closes blank [] := by
  rintro ⟨w, u, heq, -⟩
  simp at heq

theorem not_accepted {keyword string : List Char} (hstr : strstr keyword string = none) :
    ¬ Accepted keyword accepted string := by
  rintro ⟨p, hp, -⟩
  rw [hstr] at hp
  cases hp

theorem accepted_iff {keyword string : List Char} (hstr : strstr keyword string = some (keyword ++ p)) :
    Accepted keyword accepted string ↔ AcceptedPort accepted p := by
  constructor
  · rintro ⟨q, hq, h⟩
    rw [hstr, Option.some.injEq, List.append_cancel_left_eq] at hq
    rwa [hq]
  · intro h
    exact ⟨p, hstr, h⟩

variable (toDouble : Numeral → δ × Bool) (string : List Char) (pasynUser : AsynUser δ)

/-- `asynSuccess` for the strings that are accepted, and otherwise `asynError` with the message. -/
theorem parseLink_reports :
    Reports instIoError (Accepted asynKeyword (AcceptedAddr toDouble) string) (Parsed.start pasynUser)
      (parseLink toDouble (.instIo string) pasynUser) := by
  simp only [parseLink]
  cases hstr : strstr asynKeyword string with
  | none => exact Reports.error (not_accepted hstr)
  | some pnext =>
      obtain ⟨p, rfl⟩ := exists_append_of_strstr hstr
      have hempty : ¬ AcceptedAddr toDouble [] := not_or.2 ⟨not_closes_nil, not_argument_nil⟩
      exact Reports.congr (accepted_iff hstr).symm
        (parsePort_reports hempty (parseAddr_reports toDouble))

theorem parseLinkMask_reports :
    Reports instIoMaskError (Accepted asynMaskKeyword (AcceptedMaskAddr toDouble) string)
      (Parsed.start pasynUser) (parseLinkMask toDouble (.instIo string) pasynUser) := by
  simp only [parseLinkMask]
  cases hstr : strstr asynMaskKeyword string with
  | none => exact Reports.error (not_accepted hstr)
  | some pnext =>
      obtain ⟨p, rfl⟩ := exists_append_of_strstr hstr
      exact Reports.congr (accepted_iff hstr).symm
        (parsePort_reports not_argument_nil (parseMaskAddr_reports toDouble))

end Outcomes
end ParseLink
end DevEpics
end AsynDriver
