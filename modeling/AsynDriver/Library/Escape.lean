import Mathlib.Data.List.Basic
import Mathlib.Tactic.Common

/-!
# Escaped text

A text is sent with an escape character before each of its special characters, and behind it a stop
character.  Where the escape character and the stop character are special, the reader that takes the
character behind an escape as it is, and stops at the first stop character that is not escaped, gets the
text back and leaves what follows.

* `escape`, `unescape` — the two directions.
* `unescape_escape` — the reader gets the text, and the rest.
* `length_le_escape`, `length_escape_le` — an escaped text is at least as long as the text, and at most
  twice as long.
-/

namespace AsynDriver
namespace Library
namespace Escape

variable {α : Type*} (special : α → Bool) (esc stop : α)

def escape (cs : List α) : List α :=
  cs.flatMap fun c => if special c then [esc, c] else [c]

/-- The text up to the first stop character that is not escaped, and what follows it. -/
def unescape [DecidableEq α] : List α → Option (List α × List α)
  | [] => none
  | c :: rest =>
      if c = esc then
        match rest with
        | [] => none
        | d :: rest => (unescape rest).map fun (cs, rest) => (d :: cs, rest)
      else if c = stop then some ([], rest)
      else (unescape rest).map fun (cs, rest) => (c :: cs, rest)

@[simp] theorem escape_nil : escape special esc [] = [] := rfl

theorem escape_cons (c : α) (cs : List α) :
    escape special esc (c :: cs) =
      (if special c then [esc, c] else [c]) ++ escape special esc cs := rfl

theorem escape_append (cs ds : List α) :
    escape special esc (cs ++ ds) = escape special esc cs ++ escape special esc ds :=
  List.flatMap_append

theorem length_le_escape (cs : List α) : cs.length ≤ (escape special esc cs).length := by
  induction cs with
  | nil => exact Nat.le_refl _
  | cons c cs ih =>
      rw [escape_cons, List.length_append, List.length_cons]
      split <;> simp only [List.length_cons, List.length_nil] <;> omega

theorem length_escape_le (cs : List α) : (escape special esc cs).length ≤ 2 * cs.length := by
  induction cs with
  | nil => exact Nat.le_refl _
  | cons c cs ih =>
      rw [escape_cons, List.length_append, List.length_cons]
      split <;> simp only [List.length_cons, List.length_nil] <;> omega

variable {special esc stop} in
theorem unescape_escape [DecidableEq α] (hesc : special esc = true) (hstop : special stop = true)
    (hne : stop ≠ esc) (cs rest : List α) :
    unescape esc stop (escape special esc cs ++ stop :: rest) = some (cs, rest) := by
  induction cs with
  | nil =>
      rw [escape_nil, List.nil_append, unescape.eq_def]
      simp only [hne, if_false, if_true]
  | cons c cs ih =>
      rw [escape_cons]
      by_cases hc : special c = true
      · rw [if_pos hc, List.append_assoc, List.cons_append, List.cons_append, List.nil_append,
          unescape.eq_def]
        simp only [if_true, ih, Option.map_some]
      · -- a character that is not special is neither of the two
        have hcesc : c ≠ esc := by
          rintro rfl
          exact hc hesc
        have hcstop : c ≠ stop := by
          rintro rfl
          exact hc hstop
        rw [if_neg hc, List.append_assoc, List.cons_append, List.nil_append, unescape.eq_def]
        simp only [hcesc, hcstop, if_false, ih, Option.map_some]

end Escape
end Library
end AsynDriver
