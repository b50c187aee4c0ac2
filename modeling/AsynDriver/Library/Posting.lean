import Mathlib.Data.List.Basic
import Mathlib.Logic.Function.Basic
import Mathlib.Tactic.Common

/-!
# Fields that are posted when they are new

Clients see of a field what was posted last.  A record remembers a field, assigns to it, and posts it
if it differs from what it remembers.

* `Comparison` — when two values differ; a value may differ from itself, as a NaN does.
* `Fields` — the values, what is remembered of them, and what the clients see.
* `remember`, `assign`, `post`, `postIfNew`, `postChanged` — what is done to them.
* `Shown`, `Kept`, `Held` — the clients see what is in a field, or what is remembered of it; what is
  remembered is what is in it.
* `shown_postAll`, `kept_postAll` — a field that is kept is shown when it has been posted if it is
  new; `kept_remember`: one that is shown is kept when it has been remembered.
-/

namespace AsynDriver
namespace Library
namespace Posting

/-- When two values differ. -/
structure Comparison (V : Type*) where
  differ : V → V → Bool
  symm : ∀ x y, differ x y = false → differ y x = false
  trans : ∀ x y z, differ x y = false → differ y z = false → differ x z = false

namespace Comparison

variable {V : Type*} (c : Comparison V)

/-- Nobody can tell the two values from each other by comparing them. -/
def Same (x y : V) : Prop := x = y ∨ c.differ x y = false

variable {c} {x y z : V}

theorem Same.refl (x : V) : c.Same x x := Or.inl rfl

theorem Same.symm (hsame : c.Same x y) : c.Same y x := by
  rcases hsame with rfl | hdiffer
  · exact Or.inl rfl
  · exact Or.inr (c.symm x y hdiffer)

theorem Same.trans (hfirst : c.Same x y) (hsecond : c.Same y z) : c.Same x z := by
  rcases hfirst with rfl | hfirst
  · exact hsecond
  · rcases hsecond with rfl | hsecond
    · exact Or.inr hfirst
    · exact Or.inr (c.trans x y z hfirst hsecond)

end Comparison

/-- `old` is what is remembered of a field, `view` what the clients see. -/
structure Fields (φ V : Type*) where
  value : φ → V
  old : φ → V
  view : φ → V

namespace Fields

variable {φ V : Type*} (c : Comparison V)

def assign (value : φ → V) (s : Fields φ V) : Fields φ V := { s with value := value }

/-- The clients see what is in the field. -/
def Shown (s : Fields φ V) (f : φ) : Prop := c.Same (s.view f) (s.value f)

/-- The clients see what is remembered of the field. -/
def Kept (s : Fields φ V) (f : φ) : Prop := c.Same (s.view f) (s.old f)

/-- What is remembered of the field is what is in it. -/
def Held (s : Fields φ V) (f : φ) : Prop := c.Same (s.value f) (s.old f)

section Assign

variable {c} {s : Fields φ V} {f : φ} {value : φ → V}

theorem kept_assign (hkept : Kept c s f) : Kept c (s.assign value) f := hkept

theorem shown_assign (hshown : Shown c s f) (hsame : value f = s.value f) :
    Shown c (s.assign value) f := by
  change c.Same (s.view f) (value f)
  rw [hsame]
  exact hshown

theorem held_assign (hheld : Held c s f) (hsame : value f = s.value f) :
    Held c (s.assign value) f := by
  change c.Same (value f) (s.old f)
  rw [hsame]
  exact hheld

theorem kept_of_held (hshown : Shown c s f) (hheld : Held c s f) : Kept c s f := hshown.trans hheld

theorem shown_of_held (hkept : Kept c s f) (hheld : Held c s f) : Shown c s f :=
  hkept.trans hheld.symm

end Assign

variable [DecidableEq φ]

def remember (fs : List φ) (s : Fields φ V) : Fields φ V :=
  { s with old := fun f => if f ∈ fs then s.value f else s.old f }

def post (f : φ) (s : Fields φ V) : Fields φ V :=
  { s with view := Function.update s.view f (s.value f) }

def postIfNew (s : Fields φ V) (f : φ) : Fields φ V :=
  if c.differ (s.value f) (s.old f) = true then
    { s with
      view := Function.update s.view f (s.value f)
      old := Function.update s.old f (s.value f) }
  else s

def postAll (fs : List φ) (s : Fields φ V) : Fields φ V := fs.foldl (postIfNew c) s

/-- A value that differs from the one in the field is assigned and posted. -/
def postChanged (f : φ) (v : V) (s : Fields φ V) : Fields φ V :=
  if c.differ v (s.value f) = true then
    { s with
      value := Function.update s.value f v
      view := Function.update s.view f v }
  else s

variable {c} {s : Fields φ V} {f g : φ} {fs : List φ}

@[simp] theorem value_postIfNew : (postIfNew c s g).value = s.value := by
  unfold postIfNew
  split <;> rfl

@[simp] theorem value_postAll : (postAll c fs s).value = s.value := by
  unfold postAll
  induction fs generalizing s with
  | nil => rfl
  | cons g fs ih => rw [List.foldl_cons, ih, value_postIfNew]

theorem shown_remember (hshown : Shown c s f) : Shown c (s.remember fs) f := hshown

theorem kept_remember (hshown : f ∈ fs → Shown c s f) (hkept : f ∉ fs → Kept c s f) :
    Kept c (s.remember fs) f := by
  change c.Same (s.view f) (if f ∈ fs then s.value f else s.old f)
  split
  case isTrue hmem => exact hshown hmem
  case isFalse hmem => exact hkept hmem

theorem held_remember (hf : f ∉ fs) (hheld : Held c s f) : Held c (s.remember fs) f := by
  change c.Same (s.value f) (if f ∈ fs then s.value f else s.old f)
  rw [if_neg hf]
  exact hheld

theorem shown_post_self : Shown c (s.post f) f := by
  change c.Same (Function.update s.view f (s.value f) f) (s.value f)
  rw [Function.update_self]
  exact .refl _

theorem shown_post (hshown : f ≠ g → Shown c s f) : Shown c (s.post g) f := by
  by_cases hf : f = g
  · rw [hf]
    exact shown_post_self
  · change c.Same (Function.update s.view g (s.value g) f) (s.value f)
    rw [Function.update_of_ne hf]
    exact hshown hf

theorem kept_post (hkept : Kept c s f) (hshown : f = g → Shown c s f) : Kept c (s.post g) f := by
  change c.Same (Function.update s.view g (s.value g) f) (s.old f)
  by_cases hf : f = g
  · subst hf
    rw [Function.update_self]
    exact (hshown rfl).symm.trans hkept
  · rw [Function.update_of_ne hf]
    exact hkept

/-! ### Posting what is new -/

theorem shown_postIfNew (hshown : Shown c s f) : Shown c (postIfNew c s g) f := by
  unfold postIfNew
  split
  case isTrue => exact shown_post (fun _ => hshown)
  case isFalse => exact hshown

theorem kept_postIfNew (hkept : Kept c s f) : Kept c (postIfNew c s g) f := by
  unfold postIfNew
  split
  case isFalse => exact hkept
  case isTrue =>
    change c.Same (Function.update s.view g (s.value g) f) (Function.update s.old g (s.value g) f)
    by_cases hf : f = g
    · subst hf
      rw [Function.update_self, Function.update_self]
      exact .refl _
    · rw [Function.update_of_ne hf, Function.update_of_ne hf]
      exact hkept

theorem held_postIfNew (hheld : Held c s f) : Held c (postIfNew c s g) f := by
  unfold postIfNew
  split
  case isFalse => exact hheld
  case isTrue =>
    change c.Same (s.value f) (Function.update s.old g (s.value g) f)
    by_cases hf : f = g
    · subst hf
      rw [Function.update_self]
      exact .refl _
    · rw [Function.update_of_ne hf]
      exact hheld

theorem held_postIfNew_self : Held c (postIfNew c s f) f := by
  unfold postIfNew
  split
  case isFalse hold => exact Or.inr (eq_false_of_ne_true hold)
  case isTrue =>
    change c.Same (s.value f) (Function.update s.old f (s.value f) f)
    rw [Function.update_self]
    exact .refl _

theorem held_postAll (hheld : Held c s f) : Held c (postAll c fs s) f := by
  unfold postAll
  induction fs generalizing s with
  | nil => exact hheld
  | cons g fs ih => exact ih (held_postIfNew hheld)

theorem held_postAll_self (hmem : f ∈ fs) : Held c (postAll c fs s) f := by
  unfold postAll
  induction fs generalizing s with
  | nil => cases hmem
  | cons g fs ih =>
      rw [List.foldl_cons]
      by_cases hf : f = g
      · subst hf
        exact held_postAll held_postIfNew_self
      · exact ih ((List.mem_cons.mp hmem).resolve_left hf)

theorem kept_postAll (hkept : Kept c s f) : Kept c (postAll c fs s) f := by
  unfold postAll
  induction fs generalizing s with
  | nil => exact hkept
  | cons g fs ih => exact ih (kept_postIfNew hkept)

theorem shown_postAll_of_shown (hshown : Shown c s f) : Shown c (postAll c fs s) f := by
  unfold postAll
  induction fs generalizing s with
  | nil => exact hshown
  | cons g fs ih => exact ih (shown_postIfNew hshown)

theorem shown_postAll (hmem : f ∈ fs) (hkept : Kept c s f) : Shown c (postAll c fs s) f :=
  shown_of_held (kept_postAll hkept) (held_postAll_self hmem)

/-! ### Posting what changes -/

theorem shown_postChanged {v : V} (hshown : Shown c s f) : Shown c (postChanged c g v s) f := by
  unfold postChanged
  split
  case isFalse => exact hshown
  case isTrue =>
    change c.Same (Function.update s.view g v f) (Function.update s.value g v f)
    by_cases hf : f = g
    · subst hf
      rw [Function.update_self, Function.update_self]
      exact .refl _
    · rw [Function.update_of_ne hf, Function.update_of_ne hf]
      exact hshown

theorem kept_postChanged {v : V} (hkept : Kept c s f) (hne : f ≠ g) :
    Kept c (postChanged c g v s) f := by
  unfold postChanged
  split
  case isFalse => exact hkept
  case isTrue =>
    change c.Same (Function.update s.view g v f) (s.old f)
    rw [Function.update_of_ne hne]
    exact hkept

end Fields
end Posting
end Library
end AsynDriver
