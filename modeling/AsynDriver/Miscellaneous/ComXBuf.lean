import AsynDriver.Miscellaneous.InterposeCom
import Mathlib.Data.List.Infix
import Mathlib.Data.List.Induction
import Mathlib.Data.List.TakeWhile

/-!
# The buffer of `asynInterposeCom`

`writeIt` copies the data to `xBuf` with every `IAC` doubled.  The test in front of a copy compares the
length of the next piece alone with `xBufCapacity`.

* `encode` — the data in which every `IAC` is doubled; `encode_pieces` says that the copying loop
  writes it.
* `XBufFits` — what the copying loop stores fits in `xBuf`, by its own tests.
* `XBufHolds` — the same in terms of the data.  At most one `realloc` happens: it is for the first piece
  that has no room by itself, and what it gives has room for any piece.
* `comWriteIt_eq`, `holds_of_comWriteIt` — `writeIt` hands down the doubled data, exactly if it fits.
-/

namespace AsynDriver
namespace Miscellaneous

/-- Every `IAC` doubled. -/
def encode : List UInt8 → List UInt8
  | [] => []
  | c :: rest => if c = cIac then c :: c :: encode rest else c :: encode rest

theorem encode_append (s t : List UInt8) : encode (s ++ t) = encode s ++ encode t := by
  induction s with
  | nil => rfl
  | cons c s ih =>
      by_cases hc : c = cIac
      · simp [encode, hc, ih]
      · simp [encode, hc, ih]

/-! ## The writer -/

/-- The stuffed pieces make up the encoded data. -/
theorem encode_pieces (data : List UInt8) : (pieces data).flatMap stuffPiece = encode data := by
  induction data with
  | nil => rfl
  | cons c rest ih =>
      by_cases hc : c = cIac
      · subst hc
        simp [pieces, encode, stuffPiece, ih]
      · unfold pieces
        rw [if_neg hc]
        cases hrest : pieces rest with
        | nil =>
            rw [hrest] at ih
            have hnil : encode rest = [] := ih.symm
            simp [encode, stuffPiece, hc, hnil]
        | cons piece others =>
            rw [hrest] at ih
            have hpiece : piece ≠ [] := by
              intro hempty
              subst hempty
              clear ih
              induction rest with
              | nil => cases hrest
              | cons d rest ihd =>
                  unfold pieces at hrest
                  split at hrest
                  · cases hrest
                  · split at hrest
                    · cases hrest
                    · cases hrest
            have hlast : (c :: piece).getLast? = piece.getLast? := by
              obtain ⟨d, piece, rfl⟩ := List.exists_cons_of_ne_nil hpiece
              exact List.getLast?_cons_cons
            have hstuff : stuffPiece (c :: piece) = c :: stuffPiece piece := by
              unfold stuffPiece
              rw [hlast]
              split <;> rfl
            simp only [List.flatMap_cons, hstuff, encode, if_neg hc, List.cons_append]
            rw [← ih]
            rfl

/-- `xBufCapacity` after these pieces. -/
def capacityAfter (numchars capacity : Nat) (front : List (List UInt8)) : Nat :=
  front.foldl (fun capacity piece => growCapacity numchars capacity (piece.length + 1)) capacity

/-- Whenever a piece has been copied, what `xBuf` holds fits in its capacity. -/
def PiecesFit (numchars capacity stored : Nat) (l : List (List UInt8)) : Prop :=
  ∀ front rest, l = front ++ rest → front ≠ [] →
    stored + (front.flatMap stuffPiece).length ≤ capacityAfter numchars capacity front

/-- The write has no `IAC`, or the doubled data fits in `xBuf` at every step. -/
def XBufFits (xBufCapacity : Nat) (data : List UInt8) : Prop :=
  cIac ∉ data ∨ PiecesFit data.length xBufCapacity 0 (pieces data)

theorem piecesFit_cons {numchars capacity stored : Nat} {piece : List UInt8}
    {others : List (List UInt8)} :
    PiecesFit numchars capacity stored (piece :: others) ↔
      stored + (stuffPiece piece).length ≤ growCapacity numchars capacity (piece.length + 1) ∧
        PiecesFit numchars (growCapacity numchars capacity (piece.length + 1))
          (stored + (stuffPiece piece).length) others := by
  constructor
  · intro hfit
    refine ⟨?_, ?_⟩
    · have h := hfit [piece] others rfl (by simp)
      simpa [capacityAfter] using h
    · intro front rest heq hne
      have h := hfit (piece :: front) rest (by rw [heq]; rfl) (by simp)
      simpa [capacityAfter, Nat.add_assoc] using h
  · rintro ⟨hhead, hrest⟩ front rest heq hne
    cases front with
    | nil => exact absurd rfl hne
    | cons first front =>
        obtain ⟨rfl, hothers⟩ := List.cons.inj heq
        by_cases hfront : front = []
        · subst hfront
          simpa [capacityAfter] using hhead
        · have h := hrest front rest hothers hfront
          simpa [capacityAfter, Nat.add_assoc] using h

theorem stuffLoop_eq {numchars : Nat} {l : List (List UInt8)} {stored : List UInt8}
    {capacity : Nat} (hfit : PiecesFit numchars capacity stored.length l) :
    stuffLoop numchars l stored capacity =
      some (stored ++ l.flatMap stuffPiece, capacityAfter numchars capacity l) := by
  induction l generalizing stored capacity with
  | nil => simp [stuffLoop, capacityAfter]
  | cons piece others ih =>
      obtain ⟨hhead, hrest⟩ := piecesFit_cons.mp hfit
      unfold stuffLoop
      have hnot : ¬growCapacity numchars capacity (piece.length + 1) <
          (stored ++ stuffPiece piece).length := by
        rw [List.length_append]
        omega
      simp only [hnot, if_false]
      rw [ih (by simpa using hrest)]
      simp [capacityAfter]

theorem fit_of_stuffLoop {numchars : Nat} {l : List (List UInt8)} {stored : List UInt8}
    {capacity : Nat} {r : List UInt8 × Nat} (hloop : stuffLoop numchars l stored capacity = some r) :
    PiecesFit numchars capacity stored.length l := by
  induction l generalizing stored capacity with
  | nil =>
      intro front rest heq hne
      simp only [List.nil_eq, List.append_eq_nil_iff] at heq
      exact absurd heq.1 hne
  | cons piece others ih =>
      unfold stuffLoop at hloop
      simp only at hloop
      split at hloop
      · cases hloop
      · next hnot =>
        have hrest := ih hloop
        rw [List.length_append] at hnot hrest
        exact piecesFit_cons.mpr ⟨by omega, hrest⟩

/-- The pieces in front of the first one that has no room in `xBuf` by itself. -/
def frontPieces (xBufCapacity : Nat) (data : List UInt8) : List (List UInt8) :=
  (pieces data).takeWhile fun piece => decide (piece.length < xBufCapacity)

/-- The pieces in front of that one fit, and if there is one, and other pieces too, everything fits in
1024 bytes more than the capacity, or than the data. -/
def XBufHolds (xBufCapacity : Nat) (data : List UInt8) : Prop :=
  (encode (frontPieces xBufCapacity data).flatten).length ≤ xBufCapacity ∧
    ((pieces data).length ≤ 1 ∨ (∀ piece ∈ pieces data, piece.length < xBufCapacity) ∨
      (encode data).length ≤
        if xBufCapacity + 1024 < data.length then data.length + 1024 else xBufCapacity + 1024)

/-! ## The pieces -/

theorem pieces_flatten (data : List UInt8) : (pieces data).flatten = data := by
  induction data with
  | nil => rfl
  | cons c rest ih =>
      unfold pieces
      split
      · rw [List.flatten_cons, ih]
        rfl
      · cases hrest : pieces rest with
        | nil =>
            rw [hrest] at ih
            rw [← ih]
            rfl
        | cons piece others =>
            rw [hrest] at ih
            rw [← ih]
            rfl

/-- A piece is not empty, and only its last byte can be an `IAC`. -/
theorem stuffPiece_of_mem {data piece : List UInt8} (hmem : piece ∈ pieces data) :
    piece ≠ [] ∧ stuffPiece piece = encode piece := by
  induction data generalizing piece with
  | nil => exact absurd hmem List.not_mem_nil
  | cons c rest ih =>
      by_cases hc : c = cIac
      · rw [pieces, if_pos hc] at hmem
        rcases List.mem_cons.mp hmem with rfl | hrest
        · refine ⟨List.cons_ne_nil _ _, ?_⟩
          rw [hc]
          rfl
        · exact ih hrest
      · cases hpieces : pieces rest with
        | nil =>
            rw [pieces, if_neg hc, hpieces] at hmem
            obtain rfl := List.mem_singleton.mp hmem
            refine ⟨List.cons_ne_nil _ _, ?_⟩
            simp [stuffPiece, encode, hc]
        | cons first others =>
            rw [pieces, if_neg hc, hpieces] at hmem
            rcases List.mem_cons.mp hmem with rfl | hothers
            · obtain ⟨hne, hstuff⟩ := @ih first (by rw [hpieces]; exact List.mem_cons_self)
              refine ⟨List.cons_ne_nil _ _, ?_⟩
              obtain ⟨d, first, rfl⟩ := List.exists_cons_of_ne_nil hne
              have hlast : (c :: d :: first).getLast? = (d :: first).getLast? := List.getLast?_cons_cons
              rw [encode, if_neg hc, ← hstuff]
              unfold stuffPiece
              rw [hlast]
              split <;> rfl
            · exact ih (by rw [hpieces]; exact List.mem_cons_of_mem _ hothers)

theorem flatMap_stuffPiece {l : List (List UInt8)} (hl : ∀ piece ∈ l, stuffPiece piece = encode piece) :
    l.flatMap stuffPiece = encode l.flatten := by
  induction l with
  | nil => rfl
  | cons piece others ih =>
      rw [List.flatMap_cons, List.flatten_cons, encode_append, hl piece List.mem_cons_self,
        ih fun p hp => hl p (List.mem_cons_of_mem _ hp)]

theorem length_stuffPiece_le (piece : List UInt8) : (stuffPiece piece).length ≤ piece.length + 1 := by
  unfold stuffPiece
  split
  · rw [List.length_append, List.length_singleton]
  · exact Nat.le_succ _

theorem length_le_of_mem {l : List (List UInt8)} {piece : List UInt8} (hmem : piece ∈ l) :
    piece.length ≤ l.flatten.length :=
  (List.sublist_flatten_of_mem hmem).length_le

theorem pieces_of_not_mem {data : List UInt8} (hiac : cIac ∉ data) : (pieces data).length ≤ 1 := by
  induction data with
  | nil => exact Nat.zero_le 1
  | cons c rest ih =>
      have hc : c ≠ cIac := fun h => hiac (by rw [h]; exact List.mem_cons_self)
      have hrest := ih fun h => hiac (List.mem_cons_of_mem _ h)
      rw [pieces, if_neg hc]
      cases hpieces : pieces rest with
      | nil => exact Nat.le_refl 1
      | cons piece others =>
          rw [hpieces] at hrest
          exact hrest

/-! ## The capacity -/

theorem le_growCapacity (numchars capacity nNew : Nat) : nNew ≤ growCapacity numchars capacity nNew := by
  unfold growCapacity
  simp only
  split
  case isTrue => split <;> split <;> omega
  case isFalse hroom => exact Nat.not_lt.mp hroom

theorem growCapacity_of_le (numchars : Nat) {capacity nNew : Nat} (hle : nNew ≤ capacity) :
    growCapacity numchars capacity nNew = capacity := if_neg (Nat.not_lt.mpr hle)

/-- What a `realloc` gives has room for all the data without its additional bytes. -/
theorem numchars_le_growCapacity {numchars capacity nNew : Nat} (hgrow : capacity < nNew)
    (hnew : nNew ≤ numchars + 1) : numchars ≤ growCapacity numchars capacity nNew := by
  unfold growCapacity
  rw [if_pos hgrow]
  simp only
  split <;> split <;> omega

variable {numchars capacity stored : Nat}

theorem piecesFit_append {front rest : List (List UInt8)} :
    PiecesFit numchars capacity stored (front ++ rest) ↔
      PiecesFit numchars capacity stored front ∧
        PiecesFit numchars (capacityAfter numchars capacity front)
          (stored + (front.flatMap stuffPiece).length) rest := by
  induction front generalizing capacity stored with
  | nil =>
      have hnil : PiecesFit numchars capacity stored [] := by
        intro front rest heq hne
        exact absurd (List.append_eq_nil_iff.mp heq.symm).1 hne
      exact ⟨fun h => ⟨hnil, h⟩, fun h => h.2⟩
  | cons piece front ih =>
      rw [List.cons_append, piecesFit_cons, piecesFit_cons, ih, and_assoc, List.flatMap_cons,
        List.length_append, Nat.add_assoc]
      rfl

theorem capacityAfter_of_short {l : List (List UInt8)} (hshort : ∀ piece ∈ l, piece.length < capacity) :
    capacityAfter numchars capacity l = capacity := by
  induction l with
  | nil => rfl
  | cons piece others ih =>
      have hhead := growCapacity_of_le numchars (hshort piece List.mem_cons_self)
      have hothers := ih fun p hp => hshort p (List.mem_cons_of_mem _ hp)
      unfold capacityAfter at hothers ⊢
      rw [List.foldl_cons, hhead]
      exact hothers

/-- Without a `realloc` everything fits if it does at the end. -/
theorem piecesFit_of_short {l : List (List UInt8)} (hshort : ∀ piece ∈ l, piece.length < capacity)
    (hstored : stored ≤ capacity) :
    PiecesFit numchars capacity stored l ↔ stored + (l.flatMap stuffPiece).length ≤ capacity := by
  induction l generalizing stored with
  | nil =>
      constructor
      · exact fun _ => hstored
      · intro _ front rest heq hne
        exact absurd (List.append_eq_nil_iff.mp heq.symm).1 hne
  | cons piece others ih =>
      have hhead := growCapacity_of_le numchars (hshort piece List.mem_cons_self)
      have hothers : ∀ p ∈ others, p.length < capacity := fun p hp => hshort p (List.mem_cons_of_mem _ hp)
      rw [piecesFit_cons, hhead, List.flatMap_cons, List.length_append, ← Nat.add_assoc]
      constructor
      · rintro ⟨hpiece, hrest⟩
        exact (ih hothers hpiece).mp hrest
      · intro hall
        have hpiece : stored + (stuffPiece piece).length ≤ capacity := by omega
        exact ⟨hpiece, (ih hothers hpiece).mpr hall⟩

/-- With a `realloc` for the first piece everything fits if it does at the end: all the other pieces have
room by themselves. -/
theorem piecesFit_of_grow {piece : List UInt8} {others : List (List UInt8)}
    (hgrow : capacity ≤ piece.length) (hnumchars : (piece :: others).flatten.length ≤ numchars)
    (hne : piece ≠ []) (hstored : stored ≤ capacity) :
    PiecesFit numchars capacity stored (piece :: others) ↔
      stored + ((piece :: others).flatMap stuffPiece).length ≤
        growCapacity numchars capacity (piece.length + 1) := by
  rw [List.flatten_cons, List.length_append] at hnumchars
  have hpos := List.length_pos_of_ne_nil hne
  generalize hnew : growCapacity numchars capacity (piece.length + 1) = capacity'
  have hroom : piece.length + 1 ≤ capacity' := hnew ▸ le_growCapacity numchars capacity _
  have hnum : numchars ≤ capacity' :=
    hnew ▸ numchars_le_growCapacity (Nat.lt_succ_of_le hgrow) (by omega)
  have hshort : ∀ p ∈ piece :: others, p.length < capacity' := by
    intro p hp
    rcases List.mem_cons.mp hp with rfl | hothers
    · exact hroom
    · have hle := length_le_of_mem hothers
      omega
  have hgrown : PiecesFit numchars capacity' stored (piece :: others) ↔ _ :=
    piecesFit_of_short hshort (by omega)
  rw [← hgrown, piecesFit_cons, piecesFit_cons, hnew, growCapacity_of_le numchars hroom]

/-! ## The data that fits -/

theorem piecesFit_of_single {piece : List UInt8} : PiecesFit numchars capacity 0 [piece] := by
  rw [piecesFit_cons]
  refine ⟨?_, ?_⟩
  · have hlength := length_stuffPiece_le piece
    have hroom := le_growCapacity numchars capacity (piece.length + 1)
    omega
  · intro front rest heq hne
    exact absurd (List.append_eq_nil_iff.mp heq.symm).1 hne

theorem piecesFit_of_length_le {l : List (List UInt8)} (hlength : l.length ≤ 1) :
    PiecesFit numchars capacity 0 l := by
  match l, hlength with
  | [], _ =>
      intro front rest heq hne
      exact absurd (List.append_eq_nil_iff.mp heq.symm).1 hne
  | [_], _ => exact piecesFit_of_single

theorem xBufFits_iff_piecesFit {xBufCapacity : Nat} {data : List UInt8} :
    XBufFits xBufCapacity data ↔ PiecesFit data.length xBufCapacity 0 (pieces data) := by
  constructor
  · rintro (hiac | hfit)
    · exact piecesFit_of_length_le (pieces_of_not_mem hiac)
    · exact hfit
  · exact Or.inr

/-- The first piece without room in a list of pieces, with what is in front of it. -/
theorem split_at_grow (xBufCapacity : Nat) (l : List (List UInt8)) :
    (∀ piece ∈ l, piece.length < xBufCapacity) ∨
      ∃ piece others, l = (l.takeWhile fun piece => decide (piece.length < xBufCapacity)) ++ piece :: others ∧
        xBufCapacity ≤ piece.length := by
  induction l with
  | nil => exact .inl fun p hp => absurd hp List.not_mem_nil
  | cons first l ih =>
      by_cases hfirst : first.length < xBufCapacity
      · rcases ih with hall | ⟨piece, others, heq, hlong⟩
        · refine .inl fun p hp => ?_
          rcases List.mem_cons.mp hp with rfl | hp
          · exact hfirst
          · exact hall p hp
        · refine .inr ⟨piece, others, ?_, hlong⟩
          rw [List.takeWhile_cons_of_pos (by simpa using hfirst), List.cons_append, ← heq]
      · refine .inr ⟨first, l, ?_, Nat.not_lt.mp hfirst⟩
        rw [List.takeWhile_cons_of_neg (by simpa using hfirst), List.nil_append]

theorem length_lt_of_two {front others : List (List UInt8)} {piece : List UInt8}
    (hne : ∀ p ∈ front ++ piece :: others, p ≠ []) (htwo : 2 ≤ (front ++ piece :: others).length) :
    piece.length < (front ++ piece :: others).flatten.length := by
  rw [List.flatten_append, List.flatten_cons, List.length_append, List.length_append]
  rcases front with _ | ⟨first, front⟩
  · rcases others with _ | ⟨next, others⟩
    · simp at htwo
    · have hpos := List.length_pos_of_ne_nil (hne next (by simp))
      rw [List.flatten_cons, List.length_append]
      omega
  · have hpos := List.length_pos_of_ne_nil (hne first (by simp))
    rw [List.flatten_cons, List.length_append]
    omega

/-- What the tests of the copying loop amount to. -/
theorem xBufFits_iff {xBufCapacity : Nat} {data : List UInt8} :
    XBufFits xBufCapacity data ↔ XBufHolds xBufCapacity data := by
  rw [xBufFits_iff_piecesFit]
  have hstuff : ∀ piece ∈ pieces data, stuffPiece piece = encode piece := fun p hp =>
    (stuffPiece_of_mem hp).2
  have hflatten := pieces_flatten data
  unfold XBufHolds frontPieces
  rcases split_at_grow xBufCapacity (pieces data) with hall | ⟨piece, others, heq, hlong⟩
  · have htake : (pieces data).takeWhile (fun piece => decide (piece.length < xBufCapacity)) =
        pieces data := List.takeWhile_eq_self_iff.mpr fun p hp => decide_eq_true (hall p hp)
    rw [piecesFit_of_short hall (Nat.zero_le _), Nat.zero_add, htake, encode_pieces, hflatten]
    exact ⟨fun hfit => ⟨hfit, .inr (.inl hall)⟩, fun h => h.1⟩
  · generalize hfront : (pieces data).takeWhile (fun piece => decide (piece.length < xBufCapacity)) =
      front at heq ⊢
    have hshort : ∀ p ∈ front, p.length < xBufCapacity := by
      intro p hp
      rw [← hfront] at hp
      have hp := List.mem_takeWhile_imp hp
      exact of_decide_eq_true hp
    have hfrontStuff : front.flatMap stuffPiece = encode front.flatten :=
      flatMap_stuffPiece fun p hp => hstuff p (by rw [heq]; exact List.mem_append_left _ hp)
    have hpieceNe : ∀ p ∈ front ++ piece :: others, p ≠ [] := by
      intro p hp
      rw [← heq] at hp
      exact (stuffPiece_of_mem hp).1
    have hwhole : (front.flatMap stuffPiece).length + ((piece :: others).flatMap stuffPiece).length =
        (encode data).length := by
      rw [← List.length_append, ← List.flatMap_append, ← heq, encode_pieces]
    have hrest : (piece :: others).flatten.length ≤ data.length := by
      rw [← hflatten, heq, List.flatten_append, List.length_append]
      omega
    rw [heq, piecesFit_append, piecesFit_of_short hshort (Nat.zero_le _), capacityAfter_of_short hshort,
      Nat.zero_add]
    by_cases htwo : (front ++ piece :: others).length ≤ 1
    · -- the data is one piece, for which there is room
      have hfit : PiecesFit data.length xBufCapacity 0 (front ++ piece :: others) :=
        piecesFit_of_length_le htwo
      rw [piecesFit_append, piecesFit_of_short hshort (Nat.zero_le _), capacityAfter_of_short hshort,
        Nat.zero_add] at hfit
      refine ⟨fun h => ⟨?_, .inl htwo⟩, fun _ => hfit⟩
      rw [← hfrontStuff]
      exact h.1
    · have hlt : piece.length < data.length := by
        rw [← hflatten, heq]
        exact length_lt_of_two hpieceNe (by omega)
      have hgrown : growCapacity data.length xBufCapacity (piece.length + 1) =
          if xBufCapacity + 1024 < data.length then data.length + 1024 else xBufCapacity + 1024 := by
        unfold growCapacity
        rw [if_pos (Nat.lt_succ_of_le hlong)]
        simp only
        split <;> rw [if_neg (by omega)]
      have hnotall : ¬ ∀ p ∈ front ++ piece :: others, p.length < xBufCapacity := fun h =>
        Nat.not_lt.mpr hlong (h piece (by simp))
      rw [← hfrontStuff]
      constructor
      · rintro ⟨hbefore, hafter⟩
        rw [piecesFit_of_grow hlong hrest (hpieceNe piece (by simp)) hbefore, hwhole, hgrown] at hafter
        exact ⟨hbefore, .inr (.inr hafter)⟩
      · rintro ⟨hbefore, hafter⟩
        have hafter := (hafter.resolve_left htwo).resolve_left hnotall
        rw [piecesFit_of_grow hlong hrest (hpieceNe piece (by simp)) hbefore, hwhole, hgrown]
        exact ⟨hbefore, hafter⟩

/-! ## The write -/

/-- `writeIt` hands down the encoded data, if it fits. -/
theorem comWriteIt_eq {xBufCapacity : Nat} {data : List UInt8} (hholds : XBufHolds xBufCapacity data) :
    ∃ capacity, comWriteIt xBufCapacity data = some (encode data, capacity) := by
  have hfit := xBufFits_iff.mpr hholds
  unfold comWriteIt
  by_cases hiac : cIac ∈ data
  · have hcontains : data.contains cIac = true := by simpa using hiac
    have hpieces := hfit.resolve_left (fun h => h hiac)
    rw [if_pos hcontains, stuffLoop_eq hpieces, List.nil_append, encode_pieces]
    exact ⟨_, rfl⟩
  · have hcontains : ¬data.contains cIac = true := by simpa using hiac
    have hencode : encode data = data := by
      clear hcontains hfit hholds
      induction data with
      | nil => rfl
      | cons c rest ih =>
          have hc : c ≠ cIac := fun h => hiac (by rw [h]; exact List.mem_cons_self)
          rw [encode, if_neg hc, ih fun h => hiac (List.mem_cons_of_mem _ h)]
    rw [if_neg hcontains, hencode]
    exact ⟨_, rfl⟩

theorem holds_of_comWriteIt {xBufCapacity : Nat} {data : List UInt8} {r : List UInt8 × Nat}
    (hwrite : comWriteIt xBufCapacity data = some r) : XBufHolds xBufCapacity data := by
  refine xBufFits_iff.mp ?_
  unfold comWriteIt at hwrite
  split at hwrite
  · exact Or.inr (fit_of_stuffLoop hwrite)
  · next hcontains => exact Or.inl (by simpa using hcontains)

end Miscellaneous
end AsynDriver
