import Mathlib.Logic.Basic
import Mathlib.Tactic.Common

/-!
# Settings that cover cells

Cells come into being with a given value, and a setting changes every cell that it covers and no
other.  `current` reads the value of a cell from the log of what was done, the latest entry first; a
cell that is created after a setting knows nothing of it.

* `Tracks` — a store has, in every cell that is live, what the log says.
* `Tracks.set`, `Tracks.created`, `Tracks.congr` — the rules for a setting, a creation, and neither.
-/

namespace AsynDriver
namespace Library
namespace Settings

/-- What is logged. -/
inductive Entry (κ σ : Type*)
  | created (c : κ)
  | set (s : σ)

variable {κ σ V : Type*} [DecidableEq κ]

section

variable (covers : σ → κ → Bool) (apply : σ → V → V) (init : V)

/-- The value of a cell by the log, whose latest entry is the first. -/
def current : List (Entry κ σ) → κ → V
  | [], _ => init
  | .created q :: log, c => if q = c then init else current log c
  | .set s :: log, c => if covers s c then apply s (current log c) else current log c

/-- The store agrees with the log where the cells are live. -/
def Tracks (value : κ → V) (live : κ → Prop) (log : List (Entry κ σ)) : Prop :=
  ∀ c, live c → value c = current covers apply init log c

end

namespace Tracks

variable {covers : σ → κ → Bool} {apply : σ → V → V} {init : V}
variable {value value' : κ → V} {live live' : κ → Prop} {log : List (Entry κ σ)}

/-- What was never created has never been set. -/
theorem empty (hinit : ∀ c, live c → value c = init) : Tracks covers apply init value live [] :=
  hinit

theorem congr (htracks : Tracks covers apply init value live log)
    (hlive : ∀ c, live' c → live c) (hvalue : ∀ c, live' c → value' c = value c) :
    Tracks covers apply init value' live' log := by
  intro c hc
  rw [hvalue c hc]
  exact htracks c (hlive c hc)

/-- A setting reaches the cells that it covers. -/
theorem set (htracks : Tracks covers apply init value live log) {s : σ}
    (hvalue : ∀ c, live c → value' c = if covers s c then apply s (value c) else value c) :
    Tracks covers apply init value' live (.set s :: log) := by
  intro c hc
  rw [hvalue c hc, htracks c hc]
  rfl

/-- A new cell starts anew. -/
theorem created (htracks : Tracks covers apply init value live log) {q : κ}
    (hnew : value' q = init) (hvalue : ∀ c, live c → c ≠ q → value' c = value c)
    (hlive : ∀ c, live' c → c = q ∨ live c) :
    Tracks covers apply init value' live' (.created q :: log) := by
  intro c hc
  by_cases hq : c = q
  · subst hq
    rw [hnew, current, if_pos rfl]
  · have hold : live c := (hlive c hc).resolve_left hq
    rw [hvalue c hold hq, htracks c hold, current, if_neg (fun h => hq h.symm)]

end Tracks

end Settings
end Library
end AsynDriver
