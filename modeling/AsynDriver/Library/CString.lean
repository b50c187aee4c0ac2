import AsynDriver.Library.CNumber

/-!
# Searching and scanning C strings

* `strchr`, `caseEq` — the search for a character, and comparison without regard to case.
* `scanDecimal`, `scanWord` — the number that a text denotes, and the conversion `%5s` of `sscanf`.
* `scanInt32`, `scanUnsigned32` — the conversions `%d` and `%u` of `sscanf`: `strtol` and `strtoul` give a
  number of 64 bits, of which the lower 32 are stored.
* `scanDecimal_decimal` — what `%d` has written is scanned to the number.
* `scanInt32_eq`, `scanUnsigned32_eq` — a number that fits the type is stored as it is.
-/

namespace AsynDriver
namespace Library

/-- The suffix of a string that begins with the first `c`. -/
def strchr (c : Char) (s : List Char) : Option (List Char) :=
  match s.dropWhile (· ≠ c) with
  | [] => none
  | d :: t => some (d :: t)

/-- `epicsStrCaseCmp(s, t) == 0`. -/
def caseEq (s : List Char) (t : String) : Bool := s.map Char.toLower == t.toList.map Char.toLower

/-- The number, of any size, that `%d` and `%u` read, and what is behind it. -/
def scanDecimal (s : List Char) : Option (Int × List Char) :=
  let (negative, t) := takeSign (s.dropWhile isspace)
  match t.takeWhile (isDigitIn 10) with
  | [] => none
  | digits =>
      let n : Int := positional 10 digits
      some (if negative then -n else n, t.dropWhile (isDigitIn 10))

/-- `sscanf(s, "%d", &n)` for an `int`. -/
def scanInt32 (s : List Char) : Option Int :=
  (scanDecimal s).map fun n => (toLong (n.1 < 0) n.1.natAbs).1.bmod (2 ^ 32)

/-- `sscanf(s, "%u", &n)` for an `unsigned int`. -/
def scanUnsigned32 (s : List Char) : Option UInt32 :=
  (scanDecimal s).map fun n => UInt32.ofNat (toUnsignedLong (n.1 < 0) n.1.natAbs).1

/-- `sscanf(s, "%<width>s", word)`; without a word nothing is stored. -/
def scanWord (width : Nat) (s : List Char) : List Char :=
  ((s.dropWhile isspace).takeWhile fun c => !isspace c).take width

theorem scanDecimal_decimal (a : Int) : scanDecimal (decimal a) = some (a, []) := by
  have hscan := takeWhile_digits (Nat.toDigits 10 a.natAbs) [] isDigit_of_mem_toDigits
    (fun c hc => nomatch hc)
  rw [List.append_nil] at hscan
  have hsign : takeSign ((decimal a).dropWhile isspace) =
      (decide (a < 0), Nat.toDigits 10 a.natAbs) := by
    unfold decimal
    by_cases ha : a < 0
    · rw [if_pos ha, decide_eq_true ha]
      rfl
    · have hplain := takeSign_toDigits a.natAbs []
      rw [List.append_nil] at hplain
      rw [if_neg ha, decide_eq_false ha, hplain]
  unfold scanDecimal
  simp only [hsign, hscan.1, hscan.2]
  split
  · next hnil => exact absurd hnil Nat.toDigits_ne_nil
  · simp only [positional_toDigits, decide_eq_true_eq, Option.some.injEq, Prod.mk.injEq, and_true]
    split
    · omega
    · omega

theorem scanInt32_eq {s rest : List Char} {n : Int} (hscan : scanDecimal s = some (n, rest))
    (hlow : -2 ^ 31 ≤ n) (hhigh : n < 2 ^ 31) : scanInt32 s = some n := by
  have hlong : (toLong (n < 0) n.natAbs).1 = n := by
    unfold toLong
    by_cases hneg : n < 0
    · rw [if_pos (decide_eq_true hneg), if_pos (by omega)]
      dsimp only
      omega
    · rw [if_neg (by simpa using hneg), if_pos (by omega)]
      dsimp only
      omega
  unfold scanInt32
  rw [hscan, Option.map_some, hlong, Int.bmod_eq_of_le (by omega) (by omega)]

theorem scanUnsigned32_eq {s rest : List Char} {n : Int} (hscan : scanDecimal s = some (n, rest))
    (hlow : 0 ≤ n) (hhigh : n < 2 ^ 32) : scanUnsigned32 s = some (UInt32.ofNat n.toNat) := by
  have hlong : (toUnsignedLong (n < 0) n.natAbs).1 = n.toNat := by
    unfold toUnsignedLong
    rw [if_pos (by omega), if_neg (by simpa using hlow)]
    dsimp only
    omega
  unfold scanUnsigned32
  rw [hscan, Option.map_some, hlong]

end Library
end AsynDriver
