import Mathlib.Data.List.Basic
import Mathlib.Tactic.Common

/-!
# Filters that work in both directions

A filter puts an object into a stream, or takes it from the stream into an object that is there: the
same sequence of calls serves for both.

* `Codec` — the two directions; `Codec.seq` and `Codec.on` make filters of filters.
* `Codec.Carries` — `g` takes from the stream what `f` has put, whatever follows.
* `Codec.Carries.andOn`, `Codec.Carries.seq` — structures, member by member.
* `Codec.RoundTrip` — the same for whole objects, taken into a cleared one.
-/

namespace AsynDriver
namespace Library

/-- `encode` is `none` where the object cannot be put, `decode` where the stream is refused. -/
structure Codec (β σ : Type*) where
  encode : σ → Option (List β)
  decode : List β → σ → Option (σ × List β)

/-- A member of a structure. -/
structure Member (σ α : Type*) where
  get : σ → α
  set : σ → α → σ

namespace Codec

variable {β σ α : Type*}

def nothing : Codec β σ where
  encode _ := some []
  decode bytes o := some (o, bytes)

/-- First `f`, then `g`. -/
def seq (f g : Codec β σ) : Codec β σ where
  encode o := do
    let first ← f.encode o
    let second ← g.encode o
    return first ++ second
  decode bytes o := do
    let (o', rest) ← f.decode bytes o
    g.decode rest o'

/-- A filter for the member of an object. -/
def on (f : Codec β α) (m : Member σ α) : Codec β σ where
  encode o := f.encode (m.get o)
  decode bytes o := (f.decode bytes (m.get o)).map fun (v, rest) => (m.set o v, rest)

/-- What `f` puts of an object with `P`, `g` takes into an object with `C`; `take a o` is `o` with what the
filter handles from `a`. -/
def Carries (f g : Codec β σ) (P C : σ → Prop) (take : σ → σ → σ) : Prop :=
  ∀ a, P a → ∃ bytes, f.encode a = some bytes ∧
    ∀ o rest, C o → g.decode (bytes ++ rest) o = some (take a o, rest)

/-- What `f` puts of an object with `P`, `g` takes into the cleared object as it was. -/
def RoundTrip (f g : Codec β σ) (P : σ → Prop) (cleared : σ) : Prop :=
  ∀ a, P a → ∃ bytes, f.encode a = some bytes ∧
    ∀ rest, g.decode (bytes ++ rest) cleared = some (a, rest)

variable {f g f' g' : Codec β σ} {P Q C C' : σ → Prop} {take take' : σ → σ → σ} {cleared : σ}

theorem RoundTrip.carries (htrip : RoundTrip f g P cleared) :
    Carries f g P (fun o => o = cleared) (fun a _ => a) := by
  intro a hP
  obtain ⟨bytes, hput, htake⟩ := htrip a hP
  refine ⟨bytes, hput, ?_⟩
  rintro o rest rfl
  exact htake rest

/-- The object at the other end is the one that was put. -/
theorem Carries.roundTrip (hcarries : Carries f g P C take) (hcleared : C cleared)
    (hwhole : ∀ a, take a cleared = a) : RoundTrip f g P cleared := by
  intro a hP
  obtain ⟨bytes, hput, htake⟩ := hcarries a hP
  refine ⟨bytes, hput, fun rest => ?_⟩
  rw [htake cleared rest hcleared, hwhole a]

theorem RoundTrip.mono (htrip : RoundTrip f g P cleared) (hweaker : ∀ a, Q a → P a) :
    RoundTrip f g Q cleared :=
  fun a hQ => htrip a (hweaker a hQ)

/-- There is one object of the type. -/
theorem nothing_roundTrip [Subsingleton σ] :
    RoundTrip (nothing : Codec β σ) nothing (fun _ => True) cleared :=
  fun a _ => ⟨[], rfl, fun rest => by rw [Subsingleton.elim cleared a]; rfl⟩

namespace Carries

theorem mono (hcarries : Carries f g P C take) (hweaker : ∀ a, Q a → P a) : Carries f g Q C take :=
  fun a hQ => hcarries a (hweaker a hQ)

/-- The second filter finds what it needs of the object after the first. -/
theorem seq (hfirst : Carries f g P C take) (hsecond : Carries f' g' Q C' take')
    (hkeeps : ∀ a o, C' o → C' (take a o)) :
    Carries (f.seq f') (g.seq g') (fun a => P a ∧ Q a) (fun o => C o ∧ C' o)
      (fun a o => take' a (take a o)) := by
  rintro a ⟨hP, hQ⟩
  obtain ⟨first, hput, htake⟩ := hfirst a hP
  obtain ⟨second, hput', htake'⟩ := hsecond a hQ
  refine ⟨first ++ second, by simp [Codec.seq, hput, hput'], ?_⟩
  rintro o rest ⟨hC, hC'⟩
  simp [Codec.seq, List.append_assoc, htake o _ hC, htake' _ _ (hkeeps a o hC')]

theorem on {f g : Codec β α} {P C : α → Prop} {take : α → α → α} (hcarries : Carries f g P C take)
    (m : Member σ α) :
    Carries (f.on m) (g.on m) (fun a => P (m.get a)) (fun o => C (m.get o))
      (fun a o => m.set o (take (m.get a) (m.get o))) := by
  intro a hP
  obtain ⟨bytes, hput, htake⟩ := hcarries (m.get a) hP
  refine ⟨bytes, hput, ?_⟩
  intro o rest hC
  simp [Codec.on, htake _ _ hC]

/-- The next member of a structure. -/
theorem andOn {f' g' : Codec β α} {Q : α → Prop} {zero : α} {m : Member σ α}
    (hfirst : Carries f g P C take) (hkeeps : ∀ a o, m.get (take a o) = m.get o)
    (hnext : RoundTrip f' g' Q zero) :
    Carries (f.seq (f'.on m)) (g.seq (g'.on m)) (fun a => P a ∧ Q (m.get a))
      (fun o => C o ∧ m.get o = zero) (fun a o => m.set (take a o) (m.get a)) :=
  hfirst.seq (hnext.carries.on m) fun a o hzero => (hkeeps a o).trans hzero

end Carries
end Codec

end Library
end AsynDriver
