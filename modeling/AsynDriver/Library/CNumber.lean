import Mathlib.Data.List.TakeWhile
import Mathlib.Tactic.Common
import Mathlib.Tactic.Ring

/-!
# Numbers in C strings

A string is the list of its characters, without the NUL that ends it.

* `isspace`, `strstr` — character class and substring search.
* `scanInteger`, `strtol`, `strtoul` — integers with base 0: decimal, octal or hexadecimal, for a `long`
  of 64 bits.
* `scanFloat`, `strtod` — floating point numbers; the rounding of the exact `Numeral` is a parameter.
* `Stops` — the strings that do not continue a number.
* `scanInteger_append`, `scanFloat_append` — a number is scanned alike before every such string.
* `decimal`, `fixedPoint` — the notations of `%d` and `%f`, which are scanned to the number they show.
-/

namespace AsynDriver
namespace Library

/-- White space in the C locale: the blank, and tab to carriage return. -/
def isspace (c : Char) : Bool := c.toNat == 32 || (9 ≤ c.toNat && c.toNat ≤ 13)

/-- The suffix of a string where `pattern` begins for the first time. -/
def strstr (pattern : List Char) : List Char → Option (List Char)
  | [] => if pattern = [] then some [] else none
  | c :: s => if pattern.isPrefixOf (c :: s) then some (c :: s) else strstr pattern s

/-- Value of a digit, with letters for the values from 10 on. -/
def digitValue (c : Char) : Option Nat :=
  if 48 ≤ c.toNat ∧ c.toNat ≤ 57 then some (c.toNat - 48)
  else if 97 ≤ c.toNat ∧ c.toNat ≤ 122 then some (c.toNat - 87)
  else if 65 ≤ c.toNat ∧ c.toNat ≤ 90 then some (c.toNat - 55)
  else none

def isDigitIn (base : Nat) (c : Char) : Bool :=
  match digitValue c with
  | some v => v < base
  | none => false

/-- Positional value of digits. -/
def positional (base : Nat) (digits : List Char) : Nat :=
  digits.foldl (fun value c => value * base + (digitValue c).getD 0) 0

/-- Optional sign: is it negative, and what is behind it. -/
def takeSign : List Char → Bool × List Char
  | [] => (false, [])
  | c :: s => if c = '-' then (true, s) else if c = '+' then (false, s) else (false, c :: s)

/-- What is behind `0x`, when a hexadecimal digit is. -/
def takeHexPrefix : List Char → Option (List Char)
  | z :: x :: d :: s =>
      if z = '0' ∧ x.toLower = 'x' ∧ isDigitIn 16 d then some (d :: s) else none
  | _ => none

/-- The base that a numeral announces, and its digits with what is behind. -/
def takeBase (s : List Char) : Nat × List Char :=
  match takeHexPrefix s with
  | some t => (16, t)
  | none => (if s.head? = some '0' then 8 else 10, s)

/-- Sign, magnitude and rest of an integer; `none` when there is no digit. -/
def scanInteger (s : List Char) : Option (Bool × Nat × List Char) :=
  let (negative, t) := takeSign (s.dropWhile isspace)
  let (base, u) := takeBase t
  match u.takeWhile (isDigitIn base) with
  | [] => none
  | digits => some (negative, positional base digits, u.dropWhile (isDigitIn base))

/-- What a conversion returns: the value, `endptr` and whether `errno` is set. -/
structure Conversion (α : Type*) where
  value : α
  endptr : List Char
  errno : Bool
  deriving DecidableEq

/-- A number as a `long`, and whether it is out of range. -/
def toLong (negative : Bool) (n : Nat) : Int × Bool :=
  if negative then if n ≤ 2 ^ 63 then (-n, false) else (-2 ^ 63, true)
  else if n < 2 ^ 63 then (n, false) else (2 ^ 63 - 1, true)

/-- A number as an `unsigned long`; a negative one is taken modulo `2 ^ 64`. -/
def toUnsignedLong (negative : Bool) (n : Nat) : Nat × Bool :=
  if n < 2 ^ 64 then (if negative then (2 ^ 64 - n) % 2 ^ 64 else n, false) else (2 ^ 64 - 1, true)

/-- `strtol(s,&endptr,0)`. -/
def strtol (s : List Char) : Conversion Int :=
  match scanInteger s with
  | none => ⟨0, s, false⟩
  | some (negative, n, rest) => ⟨(toLong negative n).1, rest, (toLong negative n).2⟩

/-- `strtoul(s,&endptr,0)`. -/
def strtoul (s : List Char) : Conversion Nat :=
  match scanInteger s with
  | none => ⟨0, s, false⟩
  | some (negative, n, rest) => ⟨(toUnsignedLong negative n).1, rest, (toUnsignedLong negative n).2⟩

/-- The exact value of a floating point number: a finite one is `mantissa * radix ^ exponent`. -/
inductive Numeral
  | finite (negative : Bool) (mantissa radix : Nat) (exponent : Int)
  | infinity (negative : Bool)
  | nan (negative : Bool)
  deriving DecidableEq, Repr

/-- What is behind `word`, whose letters are lower case; the string may have upper case ones. -/
def takeWord : List Char → List Char → Option (List Char)
  | [], s => some s
  | _ :: _, [] => none
  | w :: word, c :: s => if c.toLower = w then takeWord word s else none

/-- What is behind the characters in parentheses that may follow `nan`. -/
def takePayload : List Char → List Char
  | [] => []
  | c :: s =>
      if c = '(' then
        match s.dropWhile fun d => (digitValue d).isSome || d == '_' with
        | [] => c :: s
        | d :: rest => if d = ')' then rest else c :: s
      else c :: s

def takePoint : List Char → Option (List Char)
  | [] => none
  | c :: s => if c = '.' then some s else none

/-- Digits before and behind an optional point. -/
def takeMantissa (base : Nat) (s : List Char) : List Char × List Char × List Char :=
  let whole := s.takeWhile (isDigitIn base)
  match takePoint (s.dropWhile (isDigitIn base)) with
  | some t => (whole, t.takeWhile (isDigitIn base), t.dropWhile (isDigitIn base))
  | none => (whole, [], s.dropWhile (isDigitIn base))

/-- Optional exponent behind a letter, which does not belong to the number when no digit follows. -/
def takeExponent (letter : Char) : List Char → Int × List Char
  | [] => (0, [])
  | c :: s =>
      if c.toLower = letter then
        let (negative, t) := takeSign s
        match t.takeWhile (isDigitIn 10) with
        | [] => (0, c :: s)
        | digits =>
            (if negative then -(positional 10 digits : Int) else positional 10 digits,
              t.dropWhile (isDigitIn 10))
      else (0, c :: s)

/-- Mantissa, exponent and rest; a digit behind the point is worth `scale` in the exponent. -/
def scanFinite (base : Nat) (letter : Char) (scale : Nat) (s : List Char) :
    Option (Nat × Int × List Char) :=
  let (whole, fraction, t) := takeMantissa base s
  match whole ++ fraction with
  | [] => none
  | digits =>
      let (exponent, u) := takeExponent letter t
      some (positional base digits, exponent - scale * fraction.length, u)

/-- Hexadecimal number with an exponent of 2. -/
def scanHexadecimal : List Char → Option (Nat × Int × List Char)
  | z :: x :: s => if z = '0' ∧ x.toLower = 'x' then scanFinite 16 'p' 4 s else none
  | _ => none

def scanUnsigned (negative : Bool) (s : List Char) : Option (Numeral × List Char) :=
  match scanHexadecimal s with
  | some (m, e, rest) => some (.finite negative m 2 e, rest)
  | none => (scanFinite 10 'e' 1 s).map fun (m, e, rest) => (.finite negative m 10 e, rest)

/-- A floating point number and what is behind it; `none` when there is no number. -/
def scanFloat (s : List Char) : Option (Numeral × List Char) :=
  let (negative, t) := takeSign (s.dropWhile isspace)
  match takeWord ['i', 'n', 'f', 'i', 'n', 'i', 't', 'y'] t with
  | some rest => some (.infinity negative, rest)
  | none =>
      match takeWord ['i', 'n', 'f'] t with
      | some rest => some (.infinity negative, rest)
      | none =>
          match takeWord ['n', 'a', 'n'] t with
          | some rest => some (.nan negative, takePayload rest)
          | none => scanUnsigned negative t

/-- `strtod(s,&endptr)`; `toDouble` rounds and says whether `errno` is set to `ERANGE`. -/
def strtod {δ : Type*} (toDouble : Numeral → δ × Bool) (s : List Char) : Conversion δ :=
  match scanFloat s with
  | none => ⟨(toDouble (.finite false 0 10 0)).1, s, false⟩
  | some (n, rest) => ⟨(toDouble n).1, rest, (toDouble n).2⟩

variable {p : Char → Bool} {a r : List Char}

theorem takeWhile_append_of_head (hr : ∀ c ∈ r.head?, p c = false) :
    (a ++ r).takeWhile p = a.takeWhile p := by
  induction a with
  | nil =>
      cases r with
      | nil => rfl
      | cons c r => simp [hr c rfl]
  | cons c a ih => by_cases hc : p c <;> simp [hc, ih]

theorem dropWhile_append_of_head (hr : ∀ c ∈ r.head?, p c = false) :
    (a ++ r).dropWhile p = a.dropWhile p ++ r := by
  induction a with
  | nil =>
      cases r with
      | nil => rfl
      | cons c r => simp [hr c rfl]
  | cons c a ih => by_cases hc : p c <;> simp [hc, ih]

/-- What is behind the characters that are skipped. -/
theorem head?_dropWhile (p : Char → Bool) (s : List Char) :
    ∀ c ∈ (s.dropWhile p).head?, p c = false := by
  induction s with
  | nil =>
      intro c hc
      cases hc
  | cons d s ih =>
      cases hd : p d with
      | true => simpa [hd] using ih
      | false =>
          intro c hc
          simp only [List.dropWhile_cons, hd, Bool.false_eq_true, if_false, List.head?_cons,
            Option.mem_some_iff] at hc
          rw [← hc, hd]

theorem dropWhile_eq_self {s : List Char} (hs : ∀ c ∈ s.head?, p c = false) : s.dropWhile p = s := by
  cases s with
  | nil => rfl
  | cons c s => simp [hs c rfl]

theorem exists_append_of_strstr {pattern s t : List Char} (h : strstr pattern s = some t) :
    ∃ p, t = pattern ++ p := by
  induction s with
  | nil =>
      simp only [strstr] at h
      split at h
      · rename_i hnil
        cases h
        exact ⟨[], by simp [hnil]⟩
      · cases h
  | cons c s ih =>
      simp only [strstr] at h
      split at h
      · rename_i hpre
        cases h
        obtain ⟨p, hp⟩ := List.isPrefixOf_iff_prefix.1 hpre
        exact ⟨p, hp.symm⟩
      · exact ih h

/-- The string does not continue a number that ends where it begins. -/
def Stops (r : List Char) : Prop :=
  ∀ c ∈ r.head?, digitValue c = none ∧ c ≠ '.' ∧ c ≠ '+' ∧ c ≠ '-' ∧ c ≠ '('

/-- The string does not begin with a digit of any base. -/
def Digitless (r : List Char) : Prop :=
  ∀ c ∈ r.head?, digitValue c = none

theorem Stops.digitless (hr : Stops r) : Digitless r :=
  fun c hc => (hr c hc).1

theorem isDigitIn_eq_false {base : Nat} {c : Char} (hc : digitValue c = none) :
    isDigitIn base c = false := by
  simp [isDigitIn, hc]

theorem Digitless.isDigitIn_eq_false (hr : Digitless r) (base : Nat) :
    ∀ c ∈ r.head?, isDigitIn base c = false := by
  intro c hc
  exact Library.isDigitIn_eq_false (hr c hc)

theorem Stops.isDigitIn_eq_false (hr : Stops r) (base : Nat) :
    ∀ c ∈ r.head?, isDigitIn base c = false :=
  hr.digitless.isDigitIn_eq_false base

theorem toLower_eq_self {c : Char} (hc : digitValue c = none) : c.toLower = c := by
  have hupper : ¬ (65 ≤ c.toNat ∧ c.toNat ≤ 90) := by
    intro h
    unfold digitValue at hc
    rw [if_neg (by omega), if_neg (by omega), if_pos h] at hc
    cases hc
  unfold Char.toLower
  split
  · rename_i h
    exact absurd ⟨h.1, h.2⟩ hupper
  · rfl

theorem Digitless.toLower_ne (hr : Digitless r) {w : Char} (hw : digitValue w ≠ none) :
    ∀ c ∈ r.head?, c.toLower ≠ w := by
  intro c hc heq
  rw [toLower_eq_self (hr c hc)] at heq
  rw [← heq] at hw
  exact hw (hr c hc)

theorem Stops.toLower_ne (hr : Stops r) {w : Char} (hw : digitValue w ≠ none) :
    ∀ c ∈ r.head?, c.toLower ≠ w :=
  hr.digitless.toLower_ne hw

theorem Digitless.ne (hr : Digitless r) {w : Char} (hw : digitValue w ≠ none) :
    ∀ c ∈ r.head?, c ≠ w := by
  intro c hc heq
  exact hw (heq ▸ hr c hc)

theorem Stops.ne (hr : Stops r) {w : Char} (hw : digitValue w ≠ none) : ∀ c ∈ r.head?, c ≠ w :=
  hr.digitless.ne hw

theorem takeSign_append_of_ne_nil (ha : a ≠ []) :
    takeSign (a ++ r) = ((takeSign a).1, (takeSign a).2 ++ r) := by
  cases a with
  | nil => exact absurd rfl ha
  | cons c a =>
      simp only [List.cons_append, takeSign]
      split
      · rfl
      · split <;> rfl

theorem takeSign_append (hr : Stops r) :
    takeSign (a ++ r) = ((takeSign a).1, (takeSign a).2 ++ r) := by
  cases a with
  | nil =>
      cases r with
      | nil => rfl
      | cons c r => simp [takeSign, (hr c rfl).2.2.1, (hr c rfl).2.2.2.1]
  | cons c a => exact takeSign_append_of_ne_nil (List.cons_ne_nil c a)

theorem Digitless.takeHexPrefix_append (hr : Digitless r) :
    takeHexPrefix (a ++ r) = (takeHexPrefix a).map (· ++ r) := by
  match a, r, hr with
  | [], [], _ => rfl
  | [], z :: r, hr =>
      have hz : z ≠ '0' := hr.ne (by decide) z rfl
      cases r with
      | nil => rfl
      | cons x r =>
          cases r with
          | nil => rfl
          | cons d r => simp [takeHexPrefix, hz]
  | [z], [], _ => rfl
  | [z], x :: r, hr =>
      have hx : x.toLower ≠ 'x' := hr.toLower_ne (by decide) x rfl
      cases r with
      | nil => rfl
      | cons d r => simp [takeHexPrefix, hx]
  | [z, x], [], _ => rfl
  | [z, x], d :: r, hr =>
      have hd : isDigitIn 16 d = false := hr.isDigitIn_eq_false 16 d rfl
      simp [takeHexPrefix, hd]
  | z :: x :: d :: a, r, _ =>
      simp only [List.cons_append, takeHexPrefix]
      split <;> rfl

theorem Digitless.takeBase_append (hr : Digitless r) :
    takeBase (a ++ r) = ((takeBase a).1, (takeBase a).2 ++ r) := by
  have hhead : ((a ++ r).head? = some '0') ↔ (a.head? = some '0') := by
    cases a with
    | nil =>
        have hzero : r.head? ≠ some '0' := fun h => hr.ne (by decide) '0' h rfl
        simp [hzero]
    | cons c a => rfl
  unfold takeBase
  rw [hr.takeHexPrefix_append]
  cases takeHexPrefix a with
  | some t => rfl
  | none => simp only [Option.map_none, hhead]

theorem takeBase_append (hr : Stops r) :
    takeBase (a ++ r) = ((takeBase a).1, (takeBase a).2 ++ r) :=
  hr.digitless.takeBase_append

/-- An integer is scanned alike before a string that does not continue it; a sign does not. -/
theorem Digitless.scanInteger_append (hr : Digitless r) {negative : Bool} {n : Nat}
    {rest : List Char}
    (ha : scanInteger a = some (negative, n, rest)) :
    scanInteger (a ++ r) = some (negative, n, rest ++ r) := by
  have hblank : a.dropWhile isspace ≠ [] := by
    intro hnil
    simp [scanInteger, hnil, takeSign, takeBase, takeHexPrefix] at ha
  have hdrop : (a ++ r).dropWhile isspace = a.dropWhile isspace ++ r := by
    rw [List.dropWhile_append, if_neg]
    simpa using hblank
  unfold scanInteger at ha ⊢
  rw [hdrop, takeSign_append_of_ne_nil hblank]
  simp only [hr.takeBase_append] at ha ⊢
  rw [takeWhile_append_of_head (hr.isDigitIn_eq_false _),
    dropWhile_append_of_head (hr.isDigitIn_eq_false _)]
  split at ha
  · cases ha
  · cases ha
    rfl

theorem scanInteger_append (hr : Stops r) {negative : Bool} {n : Nat} {rest : List Char}
    (ha : scanInteger a = some (negative, n, rest)) :
    scanInteger (a ++ r) = some (negative, n, rest ++ r) :=
  hr.digitless.scanInteger_append ha

theorem takeHexPrefix_eq_some {s t : List Char} (hs : takeHexPrefix s = some t) :
    ∃ x d u, s = '0' :: x :: t ∧ t = d :: u ∧ x.toLower = 'x' ∧ isDigitIn 16 d = true := by
  match s, hs with
  | z :: x :: d :: u, hs =>
      simp only [takeHexPrefix] at hs
      split at hs
      · next h =>
          cases hs
          exact ⟨x, d, u, by rw [h.1], rfl, h.2.1, h.2.2⟩
      · cases hs

/-- The base does not depend on what is behind the digits. -/
theorem takeBase_of_append {y rest digits : List Char} {base : Nat} (hne : digits ≠ [])
    (h : takeBase (y ++ rest) = (base, digits ++ rest)) : takeBase y = (base, digits) := by
  unfold takeBase at h ⊢
  cases hhex : takeHexPrefix (y ++ rest) with
  | some t =>
      rw [hhex] at h
      simp only [Prod.mk.injEq] at h
      obtain ⟨hbase, rfl⟩ := h
      obtain ⟨x, d, u, hy, hdigits, hx, hd⟩ := takeHexPrefix_eq_some hhex
      have hy' : y = '0' :: x :: digits := by
        refine (List.append_left_inj rest).mp ?_
        rw [hy]
        rfl
      cases digits with
      | nil => exact absurd rfl hne
      | cons d' ds =>
          have hd' : d' = d := by simpa using congrArg List.head? hdigits
          subst hd'
          subst hbase
          simp [hy', takeHexPrefix, hx, hd]
  | none =>
      rw [hhex] at h
      simp only [Prod.mk.injEq] at h
      obtain ⟨hbase, hy⟩ := h
      have hy' : y = digits := List.append_cancel_right hy
      have hnone : takeHexPrefix y = none := by
        cases hsome : takeHexPrefix y with
        | none => rfl
        | some t =>
            obtain ⟨x, d, u, rfl, rfl, hx, hd⟩ := takeHexPrefix_eq_some hsome
            simp [takeHexPrefix, hx, hd] at hhex
      have hhead : (y ++ rest).head? = y.head? := by
        cases y with
        | nil => exact absurd hy'.symm hne
        | cons c y => rfl
      rw [hhead] at hbase
      rw [hnone, ← hbase, ← hy']

theorem exists_append_takeSign (s : List Char) : ∃ sign, s = sign ++ (takeSign s).2 := by
  cases s with
  | nil => exact ⟨[], rfl⟩
  | cons c s =>
      by_cases hminus : c = '-'
      · exact ⟨[c], by simp [takeSign, hminus]⟩
      · by_cases hplus : c = '+'
        · exact ⟨[c], by simp [takeSign, hplus]⟩
        · exact ⟨[], by simp [takeSign, hminus, hplus]⟩

theorem exists_append_takeBase (s : List Char) : ∃ announced, s = announced ++ (takeBase s).2 := by
  unfold takeBase
  cases hhex : takeHexPrefix s with
  | none => exact ⟨[], rfl⟩
  | some t =>
      obtain ⟨x, d, u, hs, -⟩ := takeHexPrefix_eq_some hhex
      exact ⟨['0', x], hs⟩

/-- What has been scanned is an integer by itself. -/
theorem exists_append_of_scanInteger {s rest : List Char} {negative : Bool} {n : Nat}
    (hs : scanInteger s = some (negative, n, rest)) :
    ∃ a, s = a ++ rest ∧ scanInteger a = some (negative, n, []) := by
  obtain ⟨sign, hsign⟩ := exists_append_takeSign (s.dropWhile isspace)
  obtain ⟨announced, hannounced⟩ := exists_append_takeBase (takeSign (s.dropWhile isspace)).2
  have hblank := head?_dropWhile isspace s
  have hblanks := List.takeWhile_append_dropWhile (p := isspace) (l := s)
  unfold scanInteger at hs
  dsimp only at hs
  generalize hu : takeSign (s.dropWhile isspace) = signed at hs hsign hannounced
  obtain ⟨negative', u⟩ := signed
  generalize hv : takeBase u = based at hs hannounced
  obtain ⟨base, v⟩ := based
  dsimp only at hs hsign hannounced
  have hall : ∀ c ∈ v.takeWhile (isDigitIn base), isDigitIn base c = true :=
    fun c hc => List.mem_takeWhile_imp hc
  have hsplit := List.takeWhile_append_dropWhile (p := isDigitIn base) (l := v)
  generalize v.takeWhile (isDigitIn base) = digits at hs hall hsplit
  generalize v.dropWhile (isDigitIn base) = rest' at hs hsplit
  cases digits with
  | nil => cases hs
  | cons d ds =>
      simp only [Option.some.injEq, Prod.mk.injEq] at hs
      obtain ⟨rfl, rfl, rfl⟩ := hs
      generalize hx : sign ++ announced ++ d :: ds = x
      have hne : x ≠ [] := by
        rw [← hx]
        simp
      have hbehind : s.dropWhile isspace = x ++ rest' := by
        rw [hsign, hannounced, ← hsplit, ← hx]
        simp
      rw [hbehind, takeSign_append_of_ne_nil hne, Prod.mk.injEq] at hu
      have hbase : takeBase (takeSign x).2 = (base, d :: ds) := by
        have happend : takeBase ((takeSign x).2 ++ rest') = (base, (d :: ds) ++ rest') := by
          rw [hu.2, hv, hsplit]
        exact takeBase_of_append (List.cons_ne_nil d ds) happend
      have hdrop : (s.takeWhile isspace ++ x).dropWhile isspace = x := by
        rw [List.dropWhile_append_of_pos (fun c hc => List.mem_takeWhile_imp hc)]
        refine dropWhile_eq_self ?_
        intro c hc
        refine hblank c ?_
        rw [hbehind]
        cases x with
        | nil => exact absurd rfl hne
        | cons c' x => exact hc
      refine ⟨s.takeWhile isspace ++ x, ?_, ?_⟩
      · rw [List.append_assoc, ← hbehind, hblanks]
      · unfold scanInteger
        rw [hdrop]
        simp only [hbase, hu.1]
        rw [List.takeWhile_eq_self_iff.mpr hall, List.dropWhile_eq_nil_iff.mpr hall]

theorem takeWord_append (hr : Stops r) (word : List Char)
    (hword : (word.all fun w => (digitValue w).isSome) = true) :
    takeWord word (a ++ r) = (takeWord word a).map (· ++ r) := by
  induction word generalizing a with
  | nil => rfl
  | cons w word ih =>
      rw [List.all_cons, Bool.and_eq_true] at hword
      have hw : digitValue w ≠ none := by
        rw [← Option.isSome_iff_ne_none]
        exact hword.1
      cases a with
      | nil =>
          cases r with
          | nil => rfl
          | cons c r => simp [takeWord, hr.toLower_ne hw c rfl]
      | cons c a =>
          simp only [List.cons_append, takeWord]
          split
          · exact ih hword.2
          · rfl

theorem takePayload_append (hr : Stops r) (ha : takePayload a = []) : takePayload (a ++ r) = r := by
  cases a with
  | nil =>
      cases r with
      | nil => rfl
      | cons c r => simp [takePayload, (hr c rfl).2.2.2.2]
  | cons c s =>
      simp only [takePayload] at ha
      split at ha
      · rename_i hc
        split at ha
        · cases ha
        · rename_i d rest hrest
          split at ha
          · rename_i hd
            have hdrop : (s ++ r).dropWhile (fun d => (digitValue d).isSome || d == '_') =
                d :: r := by
              rw [List.dropWhile_append, if_neg (by simp [hrest]), hrest, ha]
              rfl
            simp only [List.cons_append, takePayload, if_pos hc, hdrop, if_pos hd]
          · cases ha
      · cases ha

theorem takePoint_append (hr : Stops r) : takePoint (a ++ r) = (takePoint a).map (· ++ r) := by
  cases a with
  | nil =>
      cases r with
      | nil => rfl
      | cons c r => simp [takePoint, (hr c rfl).2.1]
  | cons c a =>
      simp only [List.cons_append, takePoint]
      split <;> rfl

theorem takeMantissa_append (hr : Stops r) (base : Nat) :
    takeMantissa base (a ++ r) =
      ((takeMantissa base a).1, (takeMantissa base a).2.1, (takeMantissa base a).2.2 ++ r) := by
  have htake : ∀ t : List Char,
      (t ++ r).takeWhile (isDigitIn base) = t.takeWhile (isDigitIn base) := fun t =>
    takeWhile_append_of_head (hr.isDigitIn_eq_false base)
  have hdrop : ∀ t : List Char,
      (t ++ r).dropWhile (isDigitIn base) = t.dropWhile (isDigitIn base) ++ r := fun t =>
    dropWhile_append_of_head (hr.isDigitIn_eq_false base)
  unfold takeMantissa
  simp only [htake, hdrop, takePoint_append hr]
  cases takePoint (a.dropWhile (isDigitIn base)) with
  | none => rfl
  | some t => simp only [Option.map_some, htake, hdrop]

theorem takeExponent_append (hr : Stops r) {letter : Char} (hletter : digitValue letter ≠ none) :
    takeExponent letter (a ++ r) = ((takeExponent letter a).1, (takeExponent letter a).2 ++ r) := by
  cases a with
  | nil =>
      cases r with
      | nil => rfl
      | cons c r => simp [takeExponent, hr.toLower_ne hletter c rfl]
  | cons c a =>
      simp only [List.cons_append, takeExponent, takeSign_append hr]
      rw [takeWhile_append_of_head (hr.isDigitIn_eq_false 10),
        dropWhile_append_of_head (hr.isDigitIn_eq_false 10)]
      split
      · split <;> rfl
      · rfl

theorem scanFinite_append (hr : Stops r) (base : Nat) {letter : Char}
    (hletter : digitValue letter ≠ none) (scale : Nat) :
    scanFinite base letter scale (a ++ r) =
      (scanFinite base letter scale a).map fun (m, e, rest) => (m, e, rest ++ r) := by
  unfold scanFinite
  simp only [takeMantissa_append hr, takeExponent_append hr hletter]
  cases (takeMantissa base a).1 ++ (takeMantissa base a).2.1 <;> rfl

theorem scanHexadecimal_append (hr : Stops r) :
    scanHexadecimal (a ++ r) =
      (scanHexadecimal a).map fun (m, e, rest) => (m, e, rest ++ r) := by
  match a, r, hr with
  | [], [], _ => rfl
  | [], z :: r, hr =>
      have hz : z ≠ '0' := hr.ne (by decide) z rfl
      cases r with
      | nil => rfl
      | cons x r => simp [scanHexadecimal, hz]
  | [z], [], _ => rfl
  | [z], x :: r, hr =>
      have hx : x.toLower ≠ 'x' := hr.toLower_ne (by decide) x rfl
      simp [scanHexadecimal, hx]
  | z :: x :: a, r, hr =>
      simp only [List.cons_append, scanHexadecimal]
      split
      · exact scanFinite_append hr 16 (by decide) 4
      · rfl

theorem scanUnsigned_append (hr : Stops r) (negative : Bool) :
    scanUnsigned negative (a ++ r) =
      (scanUnsigned negative a).map fun (n, rest) => (n, rest ++ r) := by
  unfold scanUnsigned
  rw [scanHexadecimal_append hr, scanFinite_append hr 10 (by decide) 1]
  cases scanHexadecimal a with
  | some v => rfl
  | none => cases scanFinite 10 'e' 1 a <;> rfl

/-- A floating point number is scanned alike before a string that does not continue it. -/
theorem scanFloat_append (hr : Stops r) {n : Numeral} (ha : scanFloat a = some (n, [])) :
    scanFloat (a ++ r) = some (n, r) := by
  have hblank : a.dropWhile isspace ≠ [] := by
    intro hnil
    simp only [scanFloat, hnil] at ha
    cases ha
  have hdrop : (a ++ r).dropWhile isspace = a.dropWhile isspace ++ r := by
    rw [List.dropWhile_append, if_neg]
    simpa using hblank
  unfold scanFloat at ha ⊢
  rw [hdrop, takeSign_append hr]
  generalize takeSign (a.dropWhile isspace) = u at ha ⊢
  obtain ⟨negative, t⟩ := u
  simp only [takeWord_append hr ['i', 'n', 'f', 'i', 'n', 'i', 't', 'y'] (by decide),
    takeWord_append hr ['i', 'n', 'f'] (by decide),
    takeWord_append hr ['n', 'a', 'n'] (by decide), scanUnsigned_append hr] at ha ⊢
  cases hinfinity : takeWord ['i', 'n', 'f', 'i', 'n', 'i', 't', 'y'] t with
  | some rest =>
      simp only [hinfinity] at ha ⊢
      cases ha
      rfl
  | none =>
      cases hinf : takeWord ['i', 'n', 'f'] t with
      | some rest =>
          simp only [hinfinity, hinf] at ha ⊢
          cases ha
          rfl
      | none =>
          cases hnan : takeWord ['n', 'a', 'n'] t with
          | some rest =>
              simp only [hinfinity, hinf, hnan, Option.map_none, Option.map_some,
                Option.some.injEq, Prod.mk.injEq] at ha ⊢
              exact ⟨ha.1, takePayload_append hr ha.2⟩
          | none =>
              simp only [hinfinity, hinf, hnan] at ha ⊢
              simp only [Option.map_none, ha]
              rfl

/-! ### Numbers at the beginning of a string -/

/-- A conversion that takes the number at the beginning of a string and leaves what does not continue
it. -/
structure IsConversion {α : Type*} (convert : List Char → Conversion α) : Prop where
  append : ∀ {a r : List Char} {v : α}, Stops r → a ≠ [] → convert a = ⟨v, [], false⟩ →
    convert (a ++ r) = ⟨v, r, false⟩
  stops : ∀ {r : List Char}, Stops r → (∀ c ∈ r.head?, isspace c = false) → (convert r).endptr = r

/-- `text` is a number for `convert`, without blanks before it. -/
structure IsNumber {α : Type*} (convert : List Char → Conversion α) (text : List Char) (v : α) :
    Prop where
  nonempty : text ≠ []
  notBlank : ∀ c ∈ text.head?, isspace c = false
  value : convert text = ⟨v, [], false⟩

theorem scanInteger_of_stops (hr : Stops r) (hblank : ∀ c ∈ r.head?, isspace c = false) :
    scanInteger r = none := by
  have hsign : takeSign r = (false, r) := takeSign_append (a := []) hr
  have hbase : takeBase r = (10, r) := takeBase_append (a := []) hr
  have hdigits : r.takeWhile (isDigitIn 10) = [] :=
    takeWhile_append_of_head (a := []) (hr.isDigitIn_eq_false 10)
  simp only [scanInteger, dropWhile_eq_self hblank, hsign, hbase, hdigits]

theorem scanFloat_of_stops (hr : Stops r) (hblank : ∀ c ∈ r.head?, isspace c = false) :
    scanFloat r = none := by
  have hsign : takeSign r = (false, r) := takeSign_append (a := []) hr
  have hinfinity : takeWord ['i', 'n', 'f', 'i', 'n', 'i', 't', 'y'] r = none :=
    takeWord_append (a := []) hr _ (by decide)
  have hinf : takeWord ['i', 'n', 'f'] r = none := takeWord_append (a := []) hr _ (by decide)
  have hnan : takeWord ['n', 'a', 'n'] r = none := takeWord_append (a := []) hr _ (by decide)
  have hunsigned : scanUnsigned false r = none := scanUnsigned_append (a := []) hr false
  simp only [scanFloat, dropWhile_eq_self hblank, hsign, hinfinity, hinf, hnan, hunsigned]

theorem isConversion_strtol : IsConversion strtol where
  append := by
    intro a r v hr hne ha
    cases hscan : scanInteger a with
    | none =>
        simp only [strtol, hscan] at ha
        exact absurd (congrArg Conversion.endptr ha) hne
    | some scanned =>
        obtain ⟨negative, n, rest⟩ := scanned
        simp only [strtol, hscan, Conversion.mk.injEq] at ha
        obtain ⟨hv, rfl, herrno⟩ := ha
        simp only [strtol, scanInteger_append hr hscan, hv, herrno, List.nil_append]
  stops := by
    intro r hr hblank
    simp only [strtol, scanInteger_of_stops hr hblank]

theorem isConversion_strtoul : IsConversion strtoul where
  append := by
    intro a r v hr hne ha
    cases hscan : scanInteger a with
    | none =>
        simp only [strtoul, hscan] at ha
        exact absurd (congrArg Conversion.endptr ha) hne
    | some scanned =>
        obtain ⟨negative, n, rest⟩ := scanned
        simp only [strtoul, hscan, Conversion.mk.injEq] at ha
        obtain ⟨hv, rfl, herrno⟩ := ha
        simp only [strtoul, scanInteger_append hr hscan, hv, herrno, List.nil_append]
  stops := by
    intro r hr hblank
    simp only [strtoul, scanInteger_of_stops hr hblank]

theorem isConversion_strtod {δ : Type*} (toDouble : Numeral → δ × Bool) :
    IsConversion (strtod toDouble) where
  append := by
    intro a r v hr hne ha
    cases hscan : scanFloat a with
    | none =>
        simp only [strtod, hscan] at ha
        exact absurd (congrArg Conversion.endptr ha) hne
    | some scanned =>
        obtain ⟨n, rest⟩ := scanned
        simp only [strtod, hscan, Conversion.mk.injEq] at ha
        obtain ⟨hv, rfl, herrno⟩ := ha
        simp only [strtod, scanFloat_append hr hscan, hv, herrno]
  stops := by
    intro r hr hblank
    simp only [strtod, scanFloat_of_stops hr hblank]

/-- A number does not begin with what does not continue one. -/
theorem IsNumber.not_stops {α : Type*} {convert : List Char → Conversion α} {text : List Char} {v : α}
    (hconvert : IsConversion convert) (htext : IsNumber convert text v) : ¬ Stops text := by
  intro hstops
  have hend := hconvert.stops hstops htext.notBlank
  rw [htext.value] at hend
  exact htext.nonempty hend.symm

/-! ### Decimal notation -/

/-- `%d`. -/
def decimal (a : Int) : List Char :=
  if a < 0 then '-' :: Nat.toDigits 10 a.natAbs else Nat.toDigits 10 a.natAbs

/-- The last `k` decimal digits of `m`. -/
def lastDigits : Nat → Nat → List Char
  | 0, _ => []
  | k + 1, m => lastDigits k (m / 10) ++ [(m % 10).digitChar]

/-- `m / 10 ^ k` with `k` digits behind the point, as `%.*f` writes it. -/
def fixedPoint (negative : Bool) (m k : Nat) : List Char :=
  (if negative then ['-'] else []) ++ Nat.toDigits 10 (m / 10 ^ k) ++ '.' :: lastDigits k m

theorem toNat_of_isDigit {c : Char} (hc : c.isDigit = true) : 48 ≤ c.toNat ∧ c.toNat ≤ 57 := by
  simpa [Char.isDigit, UInt32.le_iff_toNat_le] using hc

theorem digitValue_of_isDigit {c : Char} (hc : c.isDigit = true) : digitValue c = some (c.toNat - 48) := by
  unfold digitValue
  rw [if_pos (toNat_of_isDigit hc)]

theorem isDigitIn_of_isDigit {c : Char} (hc : c.isDigit = true) : isDigitIn 10 c = true := by
  have hrange := toNat_of_isDigit hc
  simp only [isDigitIn, digitValue_of_isDigit hc, decide_eq_true_eq]
  omega

theorem positional_append (base : Nat) (ds : List Char) (c : Char) :
    positional base (ds ++ [c]) = positional base ds * base + (digitValue c).getD 0 := by
  simp [positional]

theorem digitValue_digitChar {n : Nat} (hn : n < 10) : digitValue n.digitChar = some n := by
  rw [digitValue_of_isDigit (by simpa using hn), Nat.toNat_digitChar_sub_48_of_lt_ten hn]

theorem isDigit_of_mem_toDigits {n : Nat} : ∀ c ∈ Nat.toDigits 10 n, c.isDigit = true := by
  intro c hc
  exact Nat.isDigit_of_mem_toDigits (by decide) (by decide) hc

theorem isDigit_of_mem_lastDigits {k m : Nat} : ∀ c ∈ lastDigits k m, c.isDigit = true := by
  induction k generalizing m with
  | zero =>
      intro c hc
      cases hc
  | succ k ih =>
      intro c hc
      rcases List.mem_append.1 hc with hc | hc
      · exact ih c hc
      · have hmod : m % 10 < 10 := Nat.mod_lt _ (by decide)
        rw [List.mem_singleton.1 hc]
        simpa using hmod

theorem length_lastDigits (k m : Nat) : (lastDigits k m).length = k := by
  induction k generalizing m with
  | zero => rfl
  | succ k ih => simp [lastDigits, ih]

theorem positional_toDigits (n : Nat) : positional 10 (Nat.toDigits 10 n) = n := by
  induction n using Nat.strong_induction_on with
  | _ n ih =>
      rw [Nat.toDigits_eq_if (by decide)]
      split
      · rename_i hn
        simp [positional, digitValue_digitChar hn]
      · rename_i hn
        have hmod : n % 10 < 10 := Nat.mod_lt _ (by decide)
        rw [positional_append, ih (n / 10) (by omega), digitValue_digitChar hmod]
        simp only [Option.getD_some]
        omega

theorem positional_append_lastDigits (ds : List Char) (k m : Nat) :
    positional 10 (ds ++ lastDigits k m) = positional 10 ds * 10 ^ k + m % 10 ^ k := by
  induction k generalizing m with
  | zero => simp [lastDigits, Nat.mod_one]
  | succ k ih =>
      have hmod : m % 10 < 10 := Nat.mod_lt _ (by decide)
      have hdigits : m % 10 ^ (k + 1) = m % 10 + 10 * (m / 10 % 10 ^ k) := by
        rw [Nat.pow_succ, Nat.mul_comm, Nat.mod_mul]
      rw [lastDigits, ← List.append_assoc, positional_append, ih, digitValue_digitChar hmod, hdigits,
        Option.getD_some]
      ring

theorem head?_toDigits_ne {n : Nat} (hn : 0 < n) : (Nat.toDigits 10 n).head? ≠ some '0' := by
  induction n using Nat.strong_induction_on with
  | _ n ih =>
      rw [Nat.toDigits_eq_if (by decide)]
      split
      · simp only [List.head?_cons, ne_eq, Option.some.injEq, Nat.digitChar_eq_zero]
        omega
      · rename_i hge
        have hhead := ih (n / 10) (by omega) (by omega)
        cases hdigits : Nat.toDigits 10 (n / 10) with
        | nil => exact absurd hdigits Nat.toDigits_ne_nil
        | cons c ds => simpa [hdigits] using hhead

/-- Digits are scanned up to their end, whatever stands behind them. -/
theorem takeWhile_digits (ds rest : List Char) (hds : ∀ c ∈ ds, c.isDigit = true)
    (hrest : ∀ c ∈ rest.head?, isDigitIn 10 c = false) :
    (ds ++ rest).takeWhile (isDigitIn 10) = ds ∧ (ds ++ rest).dropWhile (isDigitIn 10) = rest := by
  have hall : ∀ c ∈ ds, isDigitIn 10 c = true := fun c hc => isDigitIn_of_isDigit (hds c hc)
  constructor
  · rw [takeWhile_append_of_head hrest, List.takeWhile_eq_self_iff.2 hall]
  · rw [dropWhile_append_of_head hrest, List.dropWhile_eq_nil_iff.2 hall, List.nil_append]

/-- A digit is neither blank nor a sign. -/
theorem takeSign_digits {c : Char} (ds : List Char) (hc : c.isDigit = true) :
    takeSign ((c :: ds).dropWhile isspace) = (false, c :: ds) := by
  have hrange := toNat_of_isDigit hc
  have hspace : isspace c = false := by
    simp only [isspace, Bool.or_eq_false_iff, beq_eq_false_iff_ne, Bool.and_eq_false_iff,
      decide_eq_false_iff_not]
    omega
  have hminus : c ≠ '-' := by
    rintro rfl
    revert hc
    decide
  have hplus : c ≠ '+' := by
    rintro rfl
    revert hc
    decide
  simp [hspace, takeSign, hminus, hplus]

theorem takeSign_toDigits (n : Nat) (rest : List Char) :
    takeSign ((Nat.toDigits 10 n ++ rest).dropWhile isspace) = (false, Nat.toDigits 10 n ++ rest) := by
  cases hdigits : Nat.toDigits 10 n with
  | nil => exact absurd hdigits Nat.toDigits_ne_nil
  | cons c ds => exact takeSign_digits _ (isDigit_of_mem_toDigits (n := n) c (by simp [hdigits]))

theorem scanInteger_digits (n : Nat) (negative : Bool) (hn : negative = true → 0 < n) :
    scanInteger ((if negative then ['-'] else []) ++ Nat.toDigits 10 n) = some (negative, n, []) := by
  have hsign : takeSign (((if negative then ['-'] else []) ++ Nat.toDigits 10 n).dropWhile isspace) =
      (negative, Nat.toDigits 10 n) := by
    cases negative with
    | true => rfl
    | false => simpa using takeSign_toDigits n []
  unfold scanInteger
  rw [hsign]
  by_cases hzero : n = 0
  · subst hzero
    rfl
  · have hhead := head?_toDigits_ne (n := n) (by omega)
    have hprefix : takeHexPrefix (Nat.toDigits 10 n) = none := by
      unfold takeHexPrefix
      split
      · rename_i z x d s hdigits
        rw [if_neg]
        rintro ⟨rfl, -, -⟩
        rw [hdigits] at hhead
        exact hhead rfl
      · rfl
    have hbase : takeBase (Nat.toDigits 10 n) = (10, Nat.toDigits 10 n) := by
      simp [takeBase, hprefix, hhead]
    have hscan := takeWhile_digits (Nat.toDigits 10 n) [] isDigit_of_mem_toDigits
      (by simp)
    rw [List.append_nil] at hscan
    simp only [hbase, hscan.1, hscan.2]
    split
    · exact absurd ‹_› Nat.toDigits_ne_nil
    · simp [positional_toDigits]

theorem strtol_decimal {a : Int} (hlow : -2 ^ 63 ≤ a) (hhigh : a < 2 ^ 63) :
    strtol (decimal a) = ⟨a, [], false⟩ := by
  by_cases ha : a < 0
  · have hscan := scanInteger_digits a.natAbs true (by omega)
    have hdecimal : decimal a = (if true then ['-'] else []) ++ Nat.toDigits 10 a.natAbs := by
      simp [decimal, ha]
    rw [strtol, hdecimal, hscan]
    have habs : a.natAbs ≤ 2 ^ 63 := by omega
    simp only [toLong, if_true, if_pos habs, Conversion.mk.injEq, and_true]
    omega
  · have hscan := scanInteger_digits a.natAbs false (by simp)
    have hdecimal : decimal a = (if false then ['-'] else []) ++ Nat.toDigits 10 a.natAbs := by
      simp [decimal, ha]
    rw [strtol, hdecimal, hscan]
    have habs : a.natAbs < 2 ^ 63 := by omega
    simp only [toLong, Bool.false_eq_true, if_false, if_pos habs, Conversion.mk.injEq, and_true]
    omega

theorem strtoul_toDigits {n : Nat} (hn : n < 2 ^ 64) :
    strtoul (Nat.toDigits 10 n) = ⟨n, [], false⟩ := by
  have hscan := scanInteger_digits n false (by simp)
  simp only [Bool.false_eq_true, if_false, List.nil_append] at hscan
  simp only [strtoul, hscan, toUnsignedLong, if_pos hn, Bool.false_eq_true, if_false]

theorem takeWord_digits {w : Char} {word ds rest : List Char} (hds : ∀ c ∈ ds, c.isDigit = true)
    (hne : ds ≠ []) (hw : w.isDigit = false) : takeWord (w :: word) (ds ++ rest) = none := by
  cases ds with
  | nil => exact absurd rfl hne
  | cons c ds =>
      have hc := hds c List.mem_cons_self
      have hlower : c.toLower = c := by
        have hrange := toNat_of_isDigit hc
        unfold Char.toLower
        split
        · rename_i h
          have hupper : 65 ≤ c.toNat := h.1
          omega
        · rfl
      have hne : c.toLower ≠ w := by
        intro heq
        rw [hlower] at heq
        rw [heq, hw] at hc
        cases hc
      simp [takeWord, hne]

/-- A number in decimal notation has no hexadecimal prefix. -/
theorem scanHexadecimal_fixedPoint (n : Nat) (fraction : List Char) :
    scanHexadecimal (Nat.toDigits 10 n ++ '.' :: fraction) = none := by
  by_cases hzero : n = 0
  · subst hzero
    rfl
  · have hhead := head?_toDigits_ne (n := n) (by omega)
    cases hdigits : Nat.toDigits 10 n with
    | nil => exact absurd hdigits Nat.toDigits_ne_nil
    | cons z ds =>
        have hz : z ≠ '0' := by
          rintro rfl
          rw [hdigits] at hhead
          exact hhead rfl
        cases ds <;> simp [scanHexadecimal, hz]

theorem scanFinite_fixedPoint (m k : Nat) :
    scanFinite 10 'e' 1 (Nat.toDigits 10 (m / 10 ^ k) ++ '.' :: lastDigits k m) =
      some (m, -(k : Int), []) := by
  have hwhole := takeWhile_digits (Nat.toDigits 10 (m / 10 ^ k)) ('.' :: lastDigits k m)
    isDigit_of_mem_toDigits (by
      intro c hc
      cases hc
      rfl)
  have hfraction := takeWhile_digits (lastDigits k m) [] isDigit_of_mem_lastDigits
    (by simp)
  rw [List.append_nil] at hfraction
  have hvalue : positional 10 (Nat.toDigits 10 (m / 10 ^ k) ++ lastDigits k m) = m := by
    rw [positional_append_lastDigits, positional_toDigits, Nat.mul_comm]
    exact Nat.div_add_mod m (10 ^ k)
  unfold scanFinite takeMantissa
  simp only [hwhole.1, hwhole.2, takePoint, if_true, hfraction.1, hfraction.2, takeExponent,
    length_lastDigits]
  split
  · rename_i hnil
    exact absurd (List.append_eq_nil_iff.1 hnil).1 Nat.toDigits_ne_nil
  · simp [hvalue]

theorem scanFloat_fixedPoint (negative : Bool) (m k : Nat) :
    scanFloat (fixedPoint negative m k) = some (.finite negative m 10 (-k), []) := by
  have hsign : takeSign ((fixedPoint negative m k).dropWhile isspace) =
      (negative, Nat.toDigits 10 (m / 10 ^ k) ++ '.' :: lastDigits k m) := by
    cases negative with
    | true => rfl
    | false => exact takeSign_toDigits (m / 10 ^ k) ('.' :: lastDigits k m)
  have hword : ∀ w word, w.isDigit = false →
      takeWord (w :: word) (Nat.toDigits 10 (m / 10 ^ k) ++ '.' :: lastDigits k m) = none :=
    fun w word hw => takeWord_digits isDigit_of_mem_toDigits Nat.toDigits_ne_nil hw
  have hinfinity : takeWord ['i', 'n', 'f', 'i', 'n', 'i', 't', 'y']
      (Nat.toDigits 10 (m / 10 ^ k) ++ '.' :: lastDigits k m) = none :=
    hword 'i' ['n', 'f', 'i', 'n', 'i', 't', 'y'] (by decide)
  have hinf : takeWord ['i', 'n', 'f']
      (Nat.toDigits 10 (m / 10 ^ k) ++ '.' :: lastDigits k m) = none :=
    hword 'i' ['n', 'f'] (by decide)
  have hnan : takeWord ['n', 'a', 'n']
      (Nat.toDigits 10 (m / 10 ^ k) ++ '.' :: lastDigits k m) = none :=
    hword 'n' ['a', 'n'] (by decide)
  simp only [scanFloat, hsign, hinfinity, hinf, hnan, scanUnsigned, scanHexadecimal_fixedPoint,
    scanFinite_fixedPoint, Option.map_some]

end Library
end AsynDriver
