import Mathlib.Algebra.Group.Int.Defs
import Mathlib.Algebra.Group.Nat.Defs
import Mathlib.Data.List.TakeWhile
import Mathlib.Tactic.Common
import AsynDriver.Library.Codec

/-!
# External data representation

The filters of an RPC library are not part of the program: `Filters` has one for each type of the
representation, and `Filters.Lawful` says what they are relied on for.  All values that the representation
has are carried, into a cleared object, with and without the buffer of `XDR_INLINE`.

* `FitsLong`, `FitsULong`, `IsBool`, `FitsBytes`, `FitsString` — the values that the representation has.
* `Filters`, `Filters.Lawful` — the filters, and the assumption about them.
* `bigEndian`, `bigEndian_lawful` — filters for which it holds: units of four bytes, the first byte the most
  significant one, and counted bytes with zeros up to the next unit.
-/

namespace AsynDriver
namespace Library
namespace Xdr

/-! ## Values -/

/-- A `long` that fits into a unit; the type may be wider. -/
def FitsLong (i : Int) : Prop := -2 ^ 31 ≤ i ∧ i < 2 ^ 31

/-- An `unsigned long` that does. -/
def FitsULong (n : Nat) : Prop := n < 2 ^ 32

/-- `FALSE` or `TRUE` -/
def IsBool (b : Int32) : Prop := b = 0 ∨ b = 1

def FitsBytes (maxsize : UInt32) (v : List UInt8) : Prop := v.length ≤ maxsize.toNat

/-- The characters of a C string, for which there is room with the NUL. -/
def FitsString (maxsize : UInt32) (s : List UInt8) : Prop :=
  0 ∉ s ∧ s.length ≤ maxsize.toNat ∧ s.length + 1 < 2 ^ 32

instance (i : Int) : Decidable (FitsLong i) := inferInstanceAs (Decidable (_ ∧ _))
instance (n : Nat) : Decidable (FitsULong n) := inferInstanceAs (Decidable (_ < _))
instance (b : Int32) : Decidable (IsBool b) := inferInstanceAs (Decidable (_ ∨ _))

/-! ## Filters -/

/-- `xdr_long`, .. and, for `buf`, the macros `IXDR_PUT_LONG` and `IXDR_GET_LONG`, .. -/
structure Filters where
  long (buf : Bool) : Codec UInt8 Int
  uLong (buf : Bool) : Codec UInt8 Nat
  bool (buf : Bool) : Codec UInt8 Int32
  enum : Codec UInt8 Int32
  uShort : Codec UInt8 UInt16
  char : Codec UInt8 Int8
  uChar : Codec UInt8 UInt8
  bytes (maxsize : UInt32) : Codec UInt8 (List UInt8)
  string (maxsize : UInt32) : Codec UInt8 (List UInt8)

/-- A null pointer with a count of 0 is the empty list. -/
structure Filters.Lawful (lib : Filters) : Prop where
  long : ∀ buf buf', Codec.RoundTrip (lib.long buf) (lib.long buf') FitsLong 0
  uLong : ∀ buf buf', Codec.RoundTrip (lib.uLong buf) (lib.uLong buf') FitsULong 0
  bool : ∀ buf buf', Codec.RoundTrip (lib.bool buf) (lib.bool buf') IsBool 0
  enum : Codec.RoundTrip lib.enum lib.enum (fun _ => True) 0
  uShort : Codec.RoundTrip lib.uShort lib.uShort (fun _ => True) 0
  char : Codec.RoundTrip lib.char lib.char (fun _ => True) 0
  uChar : Codec.RoundTrip lib.uChar lib.uChar (fun _ => True) 0
  bytes : ∀ maxsize, Codec.RoundTrip (lib.bytes maxsize) (lib.bytes maxsize) (FitsBytes maxsize) []
  string : ∀ maxsize,
    Codec.RoundTrip (lib.string maxsize) (lib.string maxsize) (FitsString maxsize) []

/-! ## Units -/

/-- `htonl`, as the four bytes. -/
def putUnit (w : UInt32) : List UInt8 :=
  [UInt8.ofNat (w.toNat / 2 ^ 24), UInt8.ofNat (w.toNat / 2 ^ 16), UInt8.ofNat (w.toNat / 2 ^ 8),
    UInt8.ofNat w.toNat]

/-- `ntohl` -/
def ofBytes (a b c d : UInt8) : UInt32 :=
  UInt32.ofNat (((a.toNat * 2 ^ 8 + b.toNat) * 2 ^ 8 + c.toNat) * 2 ^ 8 + d.toNat)

def getUnit : List UInt8 → Option (UInt32 × List UInt8)
  | a :: b :: c :: d :: rest => some (ofBytes a b c d, rest)
  | _ => none

theorem getUnit_putUnit (w : UInt32) (rest : List UInt8) :
    getUnit (putUnit w ++ rest) = some (w, rest) := by
  have hvalue : ofBytes (UInt8.ofNat (w.toNat / 2 ^ 24)) (UInt8.ofNat (w.toNat / 2 ^ 16))
      (UInt8.ofNat (w.toNat / 2 ^ 8)) (UInt8.ofNat w.toNat) = w := by
    apply UInt32.toNat_inj.mp
    have hlt := w.toNat_lt
    simp only [ofBytes, UInt8.toNat_ofNat', UInt32.toNat_ofNat']
    omega
  exact congrArg (fun w => some (w, rest)) hvalue

/-- A filter for what fits into one unit: `put` gives the unit, `take` reads it. -/
def unit {α : Type*} (put : α → UInt32) (take : UInt32 → α) : Codec UInt8 α where
  encode a := some (putUnit (put a))
  decode bytes _ := (getUnit bytes).map fun (w, rest) => (take w, rest)

theorem unit_roundTrip {α : Type*} {put : α → UInt32} {take : UInt32 → α} {P : α → Prop} {zero : α}
    (hback : ∀ a, P a → take (put a) = a) : Codec.RoundTrip (unit put take) (unit put take) P zero := by
  intro a hP
  refine ⟨putUnit (put a), rfl, fun rest => ?_⟩
  simp [unit, getUnit_putUnit, hback a hP]

/-! ## Counted bytes -/

/-- The zeros up to the next unit. -/
def padding (n : Nat) : Nat := (4 - n % 4) % 4

def takeBytes (n : Nat) (bytes : List UInt8) : Option (List UInt8 × List UInt8) :=
  if n + padding n ≤ bytes.length then some (bytes.take n, bytes.drop (n + padding n)) else none

theorem takeBytes_append (v rest : List UInt8) :
    takeBytes v.length (v ++ List.replicate (padding v.length) 0 ++ rest) = some (v, rest) := by
  have hlength : (v ++ List.replicate (padding v.length) 0).length = v.length + padding v.length := by
    simp
  unfold takeBytes
  rw [if_pos (by simp), List.append_assoc, List.take_left, ← List.append_assoc, ← hlength,
    List.drop_left]

/-- The number of the bytes, then the bytes. -/
def counted (maxsize : UInt32) : Codec UInt8 (List UInt8) where
  encode v :=
    if v.length ≤ maxsize.toNat then
      some (putUnit (UInt32.ofNat v.length) ++ (v ++ List.replicate (padding v.length) 0))
    else none
  decode bytes _ := do
    let (n, rest) ← getUnit bytes
    if n ≤ maxsize then takeBytes n.toNat rest else none

theorem counted_roundTrip (maxsize : UInt32) :
    Codec.RoundTrip (counted maxsize) (counted maxsize) (FitsBytes maxsize) [] := by
  intro v hlength
  have hcount : (UInt32.ofNat v.length).toNat = v.length :=
    UInt32.toNat_ofNat_of_lt' (Nat.lt_of_le_of_lt hlength maxsize.toNat_lt)
  refine ⟨_, if_pos hlength, ?_⟩
  intro rest
  have hle : UInt32.ofNat v.length ≤ maxsize := by
    rw [UInt32.le_iff_toNat_le, hcount]
    exact hlength
  simp only [counted, List.append_assoc, getUnit_putUnit, Option.bind_eq_bind, Option.bind_some, if_pos hle,
    hcount]
  rw [← List.append_assoc, takeBytes_append]

/-! ## Filters for which the assumption holds -/

/-- The low bits of a `long`. -/
def truncate (i : Int) : UInt32 := (Int32.ofInt i).toUInt32

def signed (w : UInt32) : Int := w.toInt32.toInt

theorem signed_truncate {i : Int} (hfits : FitsLong i) : signed (truncate i) = i := by
  simp only [signed, truncate, Int32.toInt32_toUInt32]
  exact Int32.toInt_ofInt_of_le hfits.1 hfits.2

def putChar (c : Int8) : UInt32 := c.toInt32.toUInt32

def getChar (w : UInt32) : Int8 := w.toInt32.toInt8

/-- A string is sent like any bytes, up to its NUL. -/
def bigEndian : Filters where
  long _ := unit truncate signed
  uLong _ := unit UInt32.ofNat UInt32.toNat
  bool _ := unit (fun b => b.toUInt32) UInt32.toInt32
  enum := unit (fun e => e.toUInt32) UInt32.toInt32
  uShort := unit (fun n => n.toUInt32) UInt32.toUInt16
  char := unit putChar getChar
  uChar := unit (fun c => c.toUInt32) UInt32.toUInt8
  bytes := counted
  string maxsize :=
    { encode := fun s => (counted maxsize).encode (s.takeWhile (· ≠ 0))
      decode := (counted maxsize).decode }

theorem bigEndian_lawful : bigEndian.Lawful where
  long _ _ := unit_roundTrip fun _ hfits => signed_truncate hfits
  uLong _ _ := unit_roundTrip fun _ hfits => UInt32.toNat_ofNat_of_lt' hfits
  bool _ _ := unit_roundTrip fun b _ => b.toInt32_toUInt32
  enum := unit_roundTrip fun e _ => e.toInt32_toUInt32
  uShort := unit_roundTrip fun n _ => n.toUInt16_toUInt32
  char := unit_roundTrip fun c _ => by
    rw [getChar, putChar, Int32.toInt32_toUInt32]
    exact c.toInt8_toInt32
  uChar := unit_roundTrip fun c _ => c.toUInt8_toUInt32
  bytes := counted_roundTrip
  string maxsize := by
    rintro s ⟨hmem, hlength, -⟩
    have hwhole : s.takeWhile (· ≠ 0) = s := by
      refine List.takeWhile_eq_self_iff.mpr fun b hb => ?_
      simpa using fun hzero : b = 0 => hmem (hzero ▸ hb)
    obtain ⟨bytes, hput, htake⟩ := counted_roundTrip maxsize s hlength
    refine ⟨bytes, ?_, htake⟩
    simp only [bigEndian, hwhole]
    exact hput

end Xdr
end Library
end AsynDriver
