import Mathlib.Data.List.Infix
import Mathlib.Tactic.Common

/-!
# Reads up to a delimiter

A read takes the elements of a stream one after another, until they end with a delimiter, or it has as
many as it may take, or the stream has come to its end.

* `scan` — what it delivers, without the delimiter, and what is left of the stream.
* `Clear` — no delimiter is complete on the way.
* `scan_append` — up to there a read goes on; `scan_full`, `scan_delimiter`, `scan_exhausted` are its
  three ends.
* `scan_spec` — what is taken and what is left make up the stream.
-/

namespace AsynDriver
namespace Library
namespace Delimited

/-- Why a read has ended. -/
inductive Ended
  | delimiter
  | full
  | exhausted
  deriving DecidableEq

section Scan

variable {α : Type*} [DecidableEq α]

/-- A read that has got `got`; `limit` is how many it may take.  An empty delimiter is never complete. -/
def scan (delim : List α) (limit : ℕ) : List α → List α → List α × Ended × List α
  | got, [] => (got, .exhausted, [])
  | got, c :: rest =>
      if delim ≠ [] ∧ delim <:+ got ++ [c] then
        ((got ++ [c]).take (got.length + 1 - delim.length), .delimiter, rest)
      else if limit ≤ got.length + 1 then (got ++ [c], .full, rest)
      else scan delim limit (got ++ [c]) rest

end Scan

variable {α : Type*}

/-- After none of the elements of `u` a delimiter is complete. -/
def Clear (delim got u : List α) : Prop :=
  ∀ k, 0 < k → k ≤ u.length → ¬ (delim ≠ [] ∧ delim <:+ got ++ u.take k)

variable {delim got u s : List α} {limit : ℕ} {c : α}

theorem Clear.head (hclear : Clear delim got (c :: u)) : ¬ (delim ≠ [] ∧ delim <:+ got ++ [c]) :=
  hclear 1 Nat.one_pos (Nat.succ_le_succ (Nat.zero_le _))

theorem Clear.tail (hclear : Clear delim got (c :: u)) : Clear delim (got ++ [c]) u := by
  intro k hpos hk
  have hlonger := hclear (k + 1) (Nat.succ_pos k) (Nat.succ_le_succ hk)
  rw [List.take_succ_cons] at hlonger
  rw [List.append_assoc]
  exact hlonger

theorem clear_nil : Clear delim got [] :=
  fun _ hpos hk => absurd (hpos.trans_le hk) (Nat.lt_irrefl 0)

theorem clear_empty (got u : List α) : Clear [] got u :=
  fun _ _ _ h => h.1 rfl

/-- A delimiter of one element is complete where this element is. -/
theorem clear_singleton (hnot : c ∉ u) : Clear [c] got u := by
  rintro k hpos hk ⟨-, l, hl⟩
  have hlast : (u.take k).getLast? = some c := by
    have hne : u.take k ≠ [] := by
      intro hnil
      have hlength := congrArg List.length hnil
      rw [List.length_take, List.length_nil] at hlength
      omega
    have hget := congrArg List.getLast? hl
    rw [List.getLast?_append_of_ne_nil _ hne, List.getLast?_append_of_ne_nil _ (by simp)] at hget
    simpa using hget.symm
  exact hnot (List.mem_of_mem_take (List.mem_of_getLast? hlast))

theorem Clear.not_mem (hclear : Clear [c] got u) : c ∉ u := by
  intro hmem
  obtain ⟨a, b, hu⟩ := List.append_of_mem hmem
  refine hclear (a.length + 1) (Nat.succ_pos _) ?_ ⟨by simp, ?_⟩
  · rw [hu, List.length_append, List.length_cons]
    omega
  · have htake : u.take (a.length + 1) = a ++ [c] := by
      rw [hu, List.take_append, List.take_of_length_le (by omega), Nat.add_sub_cancel_left]
      rfl
    exact ⟨got ++ a, by rw [htake, List.append_assoc]⟩

theorem Clear.cons (hhead : ¬ (delim ≠ [] ∧ delim <:+ got ++ [c])) (htail : Clear delim (got ++ [c]) u) :
    Clear delim got (c :: u) := by
  intro k hpos hk
  obtain ⟨j, rfl⟩ := Nat.exists_eq_succ_of_ne_zero hpos.ne'
  rw [List.take_succ_cons]
  by_cases hj : j = 0
  · rw [hj, List.take_zero]
    exact hhead
  · have hrest := htail j (Nat.pos_of_ne_zero hj) (Nat.le_of_succ_le_succ hk)
    rw [List.append_assoc] at hrest
    exact hrest

variable [DecidableEq α]

theorem scan_append (hclear : Clear delim got u) (hroom : got.length + u.length < limit) :
    scan delim limit got (u ++ s) = scan delim limit (got ++ u) s := by
  induction u generalizing got with
  | nil => rw [List.nil_append, List.append_nil]
  | cons c u ih =>
      rw [List.length_cons] at hroom
      have hrest : (got ++ [c]).length + u.length < limit := by
        rw [List.length_append, List.length_singleton]
        omega
      rw [List.cons_append, scan, if_neg hclear.head, if_neg (by omega), ih hclear.tail hrest,
        List.append_assoc]
      rfl

theorem scan_full (hclear : Clear delim got u) (hne : u ≠ []) (hfull : got.length + u.length = limit) :
    scan delim limit got (u ++ s) = (got ++ u, .full, s) := by
  induction u generalizing got with
  | nil => exact absurd rfl hne
  | cons c u ih =>
      rw [List.length_cons] at hfull
      rw [List.cons_append, scan, if_neg hclear.head]
      by_cases hlast : u = []
      · subst hlast
        rw [List.length_nil] at hfull
        rw [if_pos (by omega)]
        rfl
      · have hpos := List.length_pos_iff.mpr hlast
        have hrest : (got ++ [c]).length + u.length = limit := by
          rw [List.length_append, List.length_singleton]
          omega
        rw [if_neg (by omega), ih hclear.tail hlast hrest, List.append_assoc]
        rfl

theorem scan_delimiter (hclear : Clear delim got u) (hroom : got.length + u.length < limit)
    (hne : delim ≠ []) (hsuffix : delim <:+ got ++ u ++ [c]) :
    scan delim limit got (u ++ c :: s) =
      ((got ++ u ++ [c]).take (got.length + u.length + 1 - delim.length), .delimiter, s) := by
  rw [scan_append hclear hroom, scan, if_pos ⟨hne, hsuffix⟩, List.length_append]

theorem scan_exhausted (hclear : Clear delim got u) (hroom : got.length + u.length < limit) :
    scan delim limit got u = (got ++ u, .exhausted, []) := by
  have hscan : scan delim limit got (u ++ []) = scan delim limit (got ++ u) [] :=
    scan_append hclear hroom
  rw [List.append_nil] at hscan
  rw [hscan, scan]

/-- Without a delimiter. -/
theorem scan_nil (hpos : 0 < limit) (s : List α) :
    scan [] limit [] s =
      if limit ≤ s.length then (s.take limit, .full, s.drop limit) else (s, .exhausted, []) := by
  split
  · next hle =>
      have hlength : (s.take limit).length = limit := List.length_take_of_le hle
      have hne : s.take limit ≠ [] := by
        intro hnil
        rw [hnil, List.length_nil] at hlength
        omega
      have hfull : ([] : List α).length + (s.take limit).length = limit := by
        rw [List.length_nil, hlength, Nat.zero_add]
      have hscan : scan [] limit [] (s.take limit ++ s.drop limit) =
          ([] ++ s.take limit, .full, s.drop limit) := scan_full (clear_empty [] _) hne hfull
      rw [List.take_append_drop] at hscan
      exact hscan
  · next hnot =>
      have hroom : ([] : List α).length + s.length < limit := by
        rw [List.length_nil]
        omega
      exact scan_exhausted (clear_empty [] s) hroom

/-- A read of one element. -/
theorem scan_one (delim s : List α) (c : α) :
    scan delim 1 [] (c :: s) = if delim = [c] then ([], .delimiter, s) else ([c], .full, s) := by
  have hiff : (delim ≠ [] ∧ delim <:+ [] ++ [c]) ↔ delim = [c] := by
    constructor
    · rintro ⟨hne, hsuffix⟩
      rcases List.suffix_cons_iff.mp hsuffix with heq | hnil
      · exact heq
      · exact absurd (List.suffix_nil.mp hnil) hne
    · rintro rfl
      exact ⟨by simp, List.suffix_refl _⟩
  rw [scan]
  by_cases hc : delim = [c]
  · rw [if_pos (hiff.mpr hc), if_pos hc, hc]
    rfl
  · rw [if_neg (fun h => hc (hiff.mp h)), if_neg hc, if_pos (by simp)]
    rfl

/-- What a read takes, and what it delivers of it. -/
inductive Taken (delim got : List α) (limit : ℕ) (s : List α) : List α × Ended × List α → Prop
  | delimiter (b u rest : List α) (hstream : s = u ++ rest) (hb : b ++ delim = got ++ u)
      (hne : delim ≠ []) (hle : got.length + u.length ≤ limit) :
      Taken delim got limit s (b, .delimiter, rest)
  | full (u rest : List α) (hstream : s = u ++ rest) (hfull : got.length + u.length = limit)
      (hclear : Clear delim got u) :
      Taken delim got limit s (got ++ u, .full, rest)
  | exhausted (hroom : got.length + s.length < limit) :
      Taken delim got limit s (got ++ s, .exhausted, [])

theorem scan_spec (hroom : got.length < limit) :
    Taken delim got limit s (scan delim limit got s) := by
  induction s generalizing got with
  | nil =>
      have htaken : Taken delim got limit [] (got ++ [], .exhausted, []) := .exhausted hroom
      rw [List.append_nil] at htaken
      exact htaken
  | cons c s ih =>
      rw [scan]
      split
      · next hcomplete =>
          obtain ⟨hne, l, hl⟩ := hcomplete
          have hlength := congrArg List.length hl
          rw [List.length_append, List.length_append, List.length_singleton] at hlength
          have htake : (got ++ [c]).take (got.length + 1 - delim.length) = l := by
            rw [← hl, List.take_left' (by omega)]
          rw [htake]
          refine .delimiter l [c] s rfl hl hne ?_
          rw [List.length_singleton]
          omega
      · next hincomplete =>
          split
          · next hfull =>
              refine .full [c] s rfl ?_ (.cons hincomplete clear_nil)
              rw [List.length_singleton]
              omega
          · next hmore =>
              have hlength : (got ++ [c]).length = got.length + 1 := by
                rw [List.length_append, List.length_singleton]
              have hrest : Taken delim (got ++ [c]) limit s (scan delim limit (got ++ [c]) s) :=
                ih (by omega)
              generalize scan delim limit (got ++ [c]) s = r at hrest
              cases hrest with
              | delimiter b u rest hstream hb hne hle =>
                  refine .delimiter b (c :: u) rest (by rw [hstream, List.cons_append]) ?_ hne ?_
                  · rw [hb, List.append_assoc]
                    rfl
                  · rw [List.length_cons]
                    omega
              | full u rest hstream hfull hclear =>
                  rw [List.append_assoc]
                  refine .full (c :: u) rest (by rw [hstream, List.cons_append]) ?_ (.cons hincomplete hclear)
                  rw [List.length_cons]
                  omega
              | exhausted hroom' =>
                  rw [List.append_assoc]
                  refine .exhausted ?_
                  rw [List.length_cons]
                  omega

end Delimited
end Library
end AsynDriver
