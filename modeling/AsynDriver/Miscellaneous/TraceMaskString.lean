import Mathlib.Data.List.Pairwise
import Mathlib.Tactic.Common
import AsynDriver.Library.CNumber
import AsynDriver.Library.Loop

/-!
# Trace masks by name

The masks that the shell commands of `asynShellCommands.c` take: numbers and names, with `|` or `+`
between them.

* `MaskNames` — the names of one mask; `asynTraceMaskNames` and its two siblings.
* `pass`, `maskStringToInt` — the loop that the three functions have.
* `IsTerm`, `IsSum` — the grammar, with the mask that a string stands for.
* `maskStringToInt_iff` — a string is taken without an error exactly if it is in the grammar, and then
  the mask is the one that it stands for.
-/

namespace AsynDriver
namespace Miscellaneous
namespace TraceMaskString

open Library

/-- The letters of a pattern are lower case; a string may have upper case ones. -/
abbrev Pattern := List Char

def asyn : Pattern := ['a', 's', 'y', 'n', '_']

def beginsWithLetter : Pattern → Bool
  | [] => false
  | c :: _ => 97 ≤ c.toNat && c.toNat ≤ 122

/-- What may stand before a name, and the names with their bits; no pattern begins another. -/
structure MaskNames where
  prefixes : List Pattern
  names : List (Pattern × BitVec 32)
  letters : (asyn :: (prefixes ++ names.map Prod.fst)).all beginsWithLetter = true
  apart : (asyn :: (prefixes ++ names.map Prod.fst)).Pairwise
    (fun w w' => ¬ w <+: w' ∧ ¬ w' <+: w)

def asynTraceMaskNames : MaskNames where
  prefixes := ["trace_".toList, "traceio_".toList]
  names :=
    [("error".toList, 0x01), ("device".toList, 0x02), ("filter".toList, 0x04),
      ("driver".toList, 0x08), ("flow".toList, 0x10), ("warning".toList, 0x20)]
  letters := by decide
  apart := by decide

def asynTraceIOMaskNames : MaskNames where
  prefixes := ["traceio_".toList]
  names :=
    [("nodata".toList, 0x00), ("ascii".toList, 0x01), ("escape".toList, 0x02), ("hex".toList, 0x04)]
  letters := by decide
  apart := by decide

def asynTraceInfoMaskNames : MaskNames where
  prefixes := ["traceinfo_".toList]
  names :=
    [("time".toList, 0x01), ("port".toList, 0x02), ("source".toList, 0x04), ("thread".toList, 0x08)]
  letters := by decide
  apart := by decide

/-- A chain of `STARTSWITH` that may fail. -/
def skip (patterns : List Pattern) (s : List Char) : List Char :=
  (patterns.findSome? fun w => takeWord w s).getD s

/-- The chain of `STARTSWITH` for the names. -/
def findName (names : List (Pattern × BitVec 32)) (s : List Char) :
    Option (BitVec 32 × List Char) :=
  names.findSome? fun (w, v) => (takeWord w s).map (v, ·)

/-- The condition of the loop; the loop ends with the mask and what is behind it. -/
def next (mask : BitVec 32) : List Char → (BitVec 32 × List Char) ⊕ (BitVec 32 × List Char)
  | [] => .inr (mask, [])
  | c :: rest => if c = '|' ∨ c = '+' then .inl (mask, rest) else .inr (mask, c :: rest)

/-- The body of the loop. -/
def pass (N : MaskNames) (state : BitVec 32 × List Char) :
    (BitVec 32 × List Char) ⊕ (BitVec 32 × List Char) :=
  let (mask, maskStr) := state
  let m := strtol maskStr
  if m.endptr ≠ maskStr then next (mask ||| BitVec.ofInt 32 m.value) m.endptr
  else
    let maskStr := skip N.prefixes (skip [asyn] (maskStr.dropWhile isspace))
    match findName N.names maskStr with
    | some (v, rest) => next (mask ||| v) (rest.dropWhile isspace)
    | none => .inr (mask, maskStr)

/-- The mask, and what the message says the mask string is invalid at; the message is written if this
is not empty. -/
def maskStringToInt (N : MaskNames) (maskStr : Option (List Char)) :
    Option (BitVec 32 × List Char) :=
  match maskStr with
  | none => some (0, [])
  | some s => Loop.run (pass N) (s.length + 1) (0, s)

def asynTraceMaskStringToInt := maskStringToInt asynTraceMaskNames
def asynTraceIOMaskStringToInt := maskStringToInt asynTraceIOMaskNames
def asynTraceInfoMaskStringToInt := maskStringToInt asynTraceInfoMaskNames

/-! ## The grammar -/

/-- The letters of the text are those of the pattern, in upper or lower case. -/
def Matches (w : Pattern) (t : List Char) : Prop := t.map Char.toLower = w

def IsBlank (b : List Char) : Prop := ∀ c ∈ b, isspace c = true

def IsOptional (ws : List Pattern) (t : List Char) : Prop := t = [] ∨ ∃ w ∈ ws, Matches w t

/-- A number or a name, with the bits that it stands for.  Blanks may stand around a name, but only
before a number. -/
inductive IsTerm (N : MaskNames) : List Char → BitVec 32 → Prop
  | number {a : List Char} {negative : Bool} {n : Nat}
      (ha : scanInteger a = some (negative, n, [])) :
      IsTerm N a (BitVec.ofInt 32 (toLong negative n).1)
  | name {b p q t b' : List Char} {w : Pattern} {v : BitVec 32} (hb : IsBlank b)
      (hp : IsOptional [asyn] p) (hq : IsOptional N.prefixes q) (ht : Matches w t)
      (hw : (w, v) ∈ N.names) (hb' : IsBlank b') : IsTerm N (b ++ (p ++ (q ++ (t ++ b')))) v

/-- Terms with operators between them; the last term may be missing. -/
inductive IsSum (N : MaskNames) : List Char → BitVec 32 → Prop
  | missing {b p q : List Char} (hb : IsBlank b) (hp : IsOptional [asyn] p)
      (hq : IsOptional N.prefixes q) : IsSum N (b ++ (p ++ q)) 0
  | last {t : List Char} {v : BitVec 32} (ht : IsTerm N t v) : IsSum N t v
  | more {t s : List Char} {op : Char} {v m : BitVec 32} (ht : IsTerm N t v)
      (hop : op = '|' ∨ op = '+') (hs : IsSum N s m) : IsSum N (t ++ op :: s) (v ||| m)

/-! ## Words -/

theorem takeWord_iff {w : Pattern} {s rest : List Char} :
    takeWord w s = some rest ↔ ∃ t, s = t ++ rest ∧ Matches w t := by
  induction w generalizing s with
  | nil =>
      constructor
      · intro h
        cases h
        exact ⟨[], rfl, rfl⟩
      · rintro ⟨t, rfl, ht⟩
        rw [List.map_eq_nil_iff.mp ht]
        rfl
  | cons c w ih =>
      cases s with
      | nil =>
          constructor
          · intro h
            cases h
          · rintro ⟨t, ht, hmatch⟩
            obtain ⟨rfl, -⟩ := List.append_eq_nil_iff.mp ht.symm
            cases hmatch
      | cons d s =>
          simp only [takeWord]
          constructor
          · intro h
            split at h
            · next hd =>
                obtain ⟨t, rfl, ht⟩ := ih.mp h
                refine ⟨d :: t, rfl, ?_⟩
                change d.toLower :: t.map Char.toLower = c :: w
                rw [hd, ht]
            · cases h
          · rintro ⟨t, hs, ht⟩
            cases t with
            | nil => cases ht
            | cons d' t =>
                obtain ⟨rfl, hrest⟩ := List.cons.inj hs
                obtain ⟨hd, ht'⟩ := List.cons.inj ht
                rw [if_pos hd]
                exact ih.mpr ⟨t, hrest, ht'⟩

/-- Of patterns apart from each other a string begins with one at most. -/
theorem eq_of_takeWord {ws : List Pattern}
    (hapart : ws.Pairwise (fun w w' => ¬ w <+: w' ∧ ¬ w' <+: w)) {w w' : Pattern} (hw : w ∈ ws)
    (hw' : w' ∈ ws) {s : List Char} (hs : (takeWord w s).isSome) (hs' : (takeWord w' s).isSome) :
    w = w' := by
  obtain ⟨rest, hrest⟩ := Option.isSome_iff_exists.mp hs
  obtain ⟨rest', hrest'⟩ := Option.isSome_iff_exists.mp hs'
  obtain ⟨t, ht, hmatch⟩ := takeWord_iff.mp hrest
  obtain ⟨t', ht', hmatch'⟩ := takeWord_iff.mp hrest'
  have hprefix : w <+: s.map Char.toLower := ⟨rest.map Char.toLower, by
    rw [← hmatch, ht, List.map_append]⟩
  have hprefix' : w' <+: s.map Char.toLower := ⟨rest'.map Char.toLower, by
    rw [← hmatch', ht', List.map_append]⟩
  by_contra hne
  have hsymm : Std.Symm (fun w w' : Pattern => ¬ w <+: w' ∧ ¬ w' <+: w) :=
    ⟨fun _ _ h => ⟨h.2, h.1⟩⟩
  obtain ⟨hnot, hnot'⟩ := hapart.forall hw hw' hne
  rcases List.prefix_or_prefix_of_prefix hprefix hprefix' with h | h
  · exact hnot h
  · exact hnot' h

theorem findSome?_eq_of_unique {α β : Type*} {f : α → Option β} {l : List α} {a : α} {b : β}
    (ha : a ∈ l) (hf : f a = some b) (hunique : ∀ a' ∈ l, (f a').isSome → a' = a) :
    l.findSome? f = some b := by
  induction l with
  | nil => cases ha
  | cons x l ih =>
      rw [List.findSome?_cons]
      cases hx : f x with
      | some y =>
          have heq := hunique x List.mem_cons_self (by rw [hx]; rfl)
          rw [heq, hf] at hx
          exact hx.symm ▸ rfl
      | none =>
          rcases List.mem_cons.mp ha with rfl | hmem
          · rw [hf] at hx
            cases hx
          · exact ih hmem (fun a' ha' => hunique a' (List.mem_cons_of_mem x ha'))

/-! ## The patterns of a mask -/

section

variable {N : MaskNames}

/-- All patterns, of which a string begins with one at most. -/
def MaskNames.patterns (N : MaskNames) : List Pattern :=
  asyn :: (N.prefixes ++ N.names.map Prod.fst)

theorem asyn_mem : asyn ∈ N.patterns :=
  List.mem_cons_self

theorem mem_of_prefixes {w : Pattern} (hw : w ∈ N.prefixes) : w ∈ N.patterns :=
  List.mem_cons_of_mem _ (List.mem_append_left _ hw)

theorem mem_of_names {x : Pattern × BitVec 32} (hx : x ∈ N.names) : x.1 ∈ N.patterns :=
  List.mem_cons_of_mem _ (List.mem_append_right _ (List.mem_map_of_mem hx))

theorem ne_asyn {w : Pattern} (hw : w ∈ N.prefixes ++ N.names.map Prod.fst) : w ≠ asyn := by
  rintro rfl
  exact ((List.pairwise_cons.mp N.apart).1 asyn hw).1 (List.prefix_refl asyn)

/-- A name is no prefix. -/
theorem fst_not_mem_prefixes {x : Pattern × BitVec 32} (hx : x ∈ N.names) : x.1 ∉ N.prefixes := by
  intro hmem
  have happend := (List.pairwise_append.mp (List.pairwise_cons.mp N.apart).2).2.2
  exact (happend x.1 hmem x.1 (List.mem_map_of_mem hx)).1 (List.prefix_refl x.1)

/-- A name has one value. -/
theorem eq_of_fst {x y : Pattern × BitVec 32} (hx : x ∈ N.names) (hy : y ∈ N.names)
    (hfst : x.1 = y.1) : x = y := by
  have hnames := List.pairwise_map.mp
    (List.pairwise_append.mp (List.pairwise_cons.mp N.apart).2).2.1
  by_contra hne
  have hsymm : Std.Symm (fun x y : Pattern × BitVec 32 => ¬ x.1 <+: y.1 ∧ ¬ y.1 <+: x.1) :=
    ⟨fun _ _ h => ⟨h.2, h.1⟩⟩
  have hnot := (hnames.forall hx hy hne).1
  rw [hfst] at hnot
  exact hnot (List.prefix_refl y.1)

/-- What begins with a pattern: the pattern and what is behind it. -/
theorem isSome_takeWord {w : Pattern} {t r : List Char} (ht : Matches w t) :
    takeWord w (t ++ r) = some r :=
  takeWord_iff.mpr ⟨t, rfl, ht⟩

theorem skip_of_matches {ws : List Pattern} (hws : ∀ w ∈ ws, w ∈ N.patterns) {w : Pattern}
    {t r : List Char} (hw : w ∈ ws) (ht : Matches w t) : skip ws (t ++ r) = r := by
  unfold skip
  rw [findSome?_eq_of_unique hw (isSome_takeWord ht)]
  · rfl
  · intro w' hw' hsome
    exact eq_of_takeWord N.apart (hws w' hw') (hws w hw) hsome (by rw [isSome_takeWord ht]; rfl)

/-- Another pattern comes first. -/
theorem skip_of_other {ws : List Pattern} (hws : ∀ w ∈ ws, w ∈ N.patterns) {w : Pattern}
    {s : List Char} (hw : w ∈ N.patterns) (hs : (takeWord w s).isSome) (hnot : w ∉ ws) :
    skip ws s = s := by
  unfold skip
  have hnone : (ws.findSome? fun w => takeWord w s) = none := by
    rw [List.findSome?_eq_none_iff]
    intro w' hw'
    cases hsome : takeWord w' s with
    | none => rfl
    | some rest =>
        have heq := eq_of_takeWord N.apart hw (hws w' hw') hs (by rw [hsome]; rfl)
        exact absurd (heq ▸ hw') hnot
  rw [hnone]
  rfl

theorem skip_append (ws : List Pattern) (s : List Char) :
    ∃ t, s = t ++ skip ws s ∧ IsOptional ws t := by
  unfold skip
  cases hfind : ws.findSome? fun w => takeWord w s with
  | none => exact ⟨[], rfl, Or.inl rfl⟩
  | some rest =>
      obtain ⟨w, hw, htake⟩ := List.exists_of_findSome?_eq_some hfind
      obtain ⟨t, hs, ht⟩ := takeWord_iff.mp htake
      exact ⟨t, hs, Or.inr ⟨w, hw, ht⟩⟩

theorem findName_of_matches {w : Pattern} {v : BitVec 32} {t r : List Char}
    (hw : (w, v) ∈ N.names) (ht : Matches w t) : findName N.names (t ++ r) = some (v, r) := by
  refine findSome?_eq_of_unique hw ?_ ?_
  · change (takeWord w (t ++ r)).map (v, ·) = _
    rw [isSome_takeWord ht]
    rfl
  · intro x hx hsome
    have hsome' : (takeWord x.1 (t ++ r)).isSome := by
      simpa using hsome
    have hfst := eq_of_takeWord N.apart (mem_of_names hx) (mem_of_names hw) hsome'
      (by rw [isSome_takeWord ht]; rfl)
    exact eq_of_fst hx hw hfst

theorem matches_of_findName {s rest : List Char} {v : BitVec 32}
    (hs : findName N.names s = some (v, rest)) :
    ∃ w t, s = t ++ rest ∧ Matches w t ∧ (w, v) ∈ N.names := by
  obtain ⟨x, hx, htake⟩ := List.exists_of_findSome?_eq_some hs
  obtain ⟨w, v'⟩ := x
  obtain ⟨rest', hrest, heq⟩ := Option.map_eq_some_iff.mp htake
  cases heq
  obtain ⟨t, ht, hmatch⟩ := takeWord_iff.mp hrest
  exact ⟨w, t, ht, hmatch, hx⟩

/-! ## No name is a number -/

/-- A letter is no blank, no sign, and no digit of a decimal number. -/
theorem scanInteger_of_letter {c : Char} {s : List Char}
    (hlow : 97 ≤ c.toLower.toNat) (hhigh : c.toLower.toNat ≤ 122) :
    isspace c = false ∧ scanInteger (c :: s) = none := by
  have hletter : (97 ≤ c.toNat ∧ c.toNat ≤ 122) ∨ (65 ≤ c.toNat ∧ c.toNat ≤ 90) := by
    unfold Char.toLower at hlow hhigh
    split at hlow
    · next h => exact Or.inr ⟨h.1, h.2⟩
    · next h =>
        rw [dif_neg h] at hhigh
        exact Or.inl ⟨hlow, hhigh⟩
  have hblank : isspace c = false := by
    unfold isspace
    rw [Bool.or_eq_false_iff, Bool.and_eq_false_iff]
    refine ⟨?_, Or.inr ?_⟩
    · simp only [beq_eq_false_iff_ne]
      omega
    · exact decide_eq_false (by omega)
  have hne : ∀ d : Char, d.toNat < 65 → c ≠ d := by
    rintro d hd rfl
    omega
  have hminus := hne '-' (by decide)
  have hplus := hne '+' (by decide)
  have hzero := hne '0' (by decide)
  have hdigit : isDigitIn 10 c = false := by
    unfold isDigitIn digitValue
    rw [if_neg (by omega)]
    rcases hletter with h | h
    · rw [if_pos h]
      exact decide_eq_false (by omega)
    · rw [if_neg (by omega), if_pos h]
      exact decide_eq_false (by omega)
  have hbase : takeBase (c :: s) = (10, c :: s) := by
    have hhex : takeHexPrefix (c :: s) = none := by
      cases hsome : takeHexPrefix (c :: s) with
      | none => rfl
      | some t =>
          obtain ⟨x, d, u, hs, -⟩ := takeHexPrefix_eq_some hsome
          exact absurd (List.cons.inj hs).1 hzero
    unfold takeBase
    rw [hhex]
    simp [hzero]
  refine ⟨hblank, ?_⟩
  unfold scanInteger
  simp only [List.dropWhile_cons, hblank, Bool.false_eq_true, if_false, takeSign, hminus, hplus,
    hbase, List.takeWhile_cons, hdigit]

/-- What begins with a pattern begins with a letter. -/
theorem scanInteger_of_pattern {w : Pattern} (hw : w ∈ N.patterns) {s : List Char}
    (hs : (takeWord w s).isSome) :
    ∃ c t, s = c :: t ∧ isspace c = false ∧ scanInteger (c :: t) = none := by
  obtain ⟨rest, hrest⟩ := Option.isSome_iff_exists.mp hs
  obtain ⟨t, rfl, ht⟩ := takeWord_iff.mp hrest
  have hletter := List.all_eq_true.mp N.letters w hw
  cases t with
  | nil =>
      rw [← ht] at hletter
      cases hletter
  | cons c t =>
      rw [← ht] at hletter
      simp only [List.map_cons, beginsWithLetter, Bool.and_eq_true, decide_eq_true_eq] at hletter
      exact ⟨c, t ++ rest, rfl, scanInteger_of_letter hletter.1 hletter.2⟩

/-- Blanks do not make it a number. -/
theorem strtol_of_pattern {b : List Char} (hb : IsBlank b) {w : Pattern} (hw : w ∈ N.patterns)
    {s : List Char} (hs : (takeWord w s).isSome) :
    (strtol (b ++ s)).endptr = b ++ s ∧ (b ++ s).dropWhile isspace = s := by
  obtain ⟨c, t, rfl, hblank, hscan⟩ := scanInteger_of_pattern hw hs
  have hdrop : (b ++ c :: t).dropWhile isspace = c :: t := by
    rw [List.dropWhile_append_of_pos hb]
    exact dropWhile_eq_self (fun d hd => by cases hd; exact hblank)
  have hself : (c :: t).dropWhile isspace = c :: t := by
    exact dropWhile_eq_self (fun d hd => by cases hd; exact hblank)
  have hnone : scanInteger (b ++ c :: t) = none := by
    unfold scanInteger at hscan ⊢
    rw [hdrop]
    rw [hself] at hscan
    exact hscan
  refine ⟨?_, hdrop⟩
  unfold strtol
  rw [hnone]

/-! ## A term -/

/-- What may follow a term: the end, or an operator. -/
def Follows (r : List Char) : Prop := ∀ c ∈ r.head?, c = '|' ∨ c = '+'

theorem Follows.digitless {r : List Char} (hr : Follows r) : Digitless r := by
  intro c hc
  rcases hr c hc with rfl | rfl <;> decide

theorem Follows.notBlank {r : List Char} (hr : Follows r) : ∀ c ∈ r.head?, isspace c = false := by
  intro c hc
  rcases hr c hc with rfl | rfl <;> decide

/-- The three pieces of a name begin with a pattern. -/
theorem isSome_of_pieces {p q t r : List Char} {w : Pattern} {v : BitVec 32}
    (hp : IsOptional [asyn] p) (hq : IsOptional N.prefixes q) (ht : Matches w t)
    (hw : (w, v) ∈ N.names) :
    ∃ w' ∈ N.patterns, (takeWord w' (p ++ (q ++ (t ++ r)))).isSome := by
  rcases hp with rfl | ⟨w', hw', hmatch⟩
  · rcases hq with rfl | ⟨w', hw', hmatch⟩
    · exact ⟨w, mem_of_names hw, by rw [List.nil_append, List.nil_append, isSome_takeWord ht]; rfl⟩
    · exact ⟨w', mem_of_prefixes hw', by rw [List.nil_append, isSome_takeWord hmatch]; rfl⟩
  · rw [List.mem_singleton.mp hw'] at hmatch
    exact ⟨asyn, asyn_mem, by rw [isSome_takeWord hmatch]; rfl⟩

theorem skip_prefixes {q t r : List Char} {w : Pattern} {v : BitVec 32}
    (hq : IsOptional N.prefixes q) (ht : Matches w t) (hw : (w, v) ∈ N.names) :
    skip N.prefixes (q ++ (t ++ r)) = t ++ r := by
  rcases hq with rfl | ⟨w', hw', hmatch⟩
  · exact skip_of_other (fun w hw => mem_of_prefixes hw) (mem_of_names hw)
      (by rw [List.nil_append, isSome_takeWord ht]; rfl) (fst_not_mem_prefixes hw)
  · exact skip_of_matches (fun w hw => mem_of_prefixes hw) hw' hmatch

theorem skip_asyn {p q t r : List Char} {w : Pattern} {v : BitVec 32}
    (hp : IsOptional [asyn] p) (hq : IsOptional N.prefixes q) (ht : Matches w t)
    (hw : (w, v) ∈ N.names) : skip [asyn] (p ++ (q ++ (t ++ r))) = q ++ (t ++ r) := by
  have hws : ∀ w ∈ [asyn], w ∈ N.patterns := by
    intro w hw
    rw [List.mem_singleton.mp hw]
    exact asyn_mem
  rcases hp with rfl | ⟨w', hw', hmatch⟩
  · rcases hq with rfl | ⟨w', hw', hmatch⟩
    · refine skip_of_other hws (mem_of_names hw) ?_ ?_
      · rw [List.nil_append, List.nil_append, isSome_takeWord ht]
        rfl
      · intro hmem
        exact ne_asyn (N := N) (List.mem_append_right _ (List.mem_map_of_mem hw))
          (List.mem_singleton.mp hmem)
    · refine skip_of_other hws (mem_of_prefixes hw') ?_ ?_
      · rw [List.nil_append, isSome_takeWord hmatch]
        rfl
      · intro hmem
        exact ne_asyn (N := N) (List.mem_append_left _ hw') (List.mem_singleton.mp hmem)
  · exact skip_of_matches hws hw' hmatch

/-- A pass takes the term that the string begins with. -/
theorem pass_term {t r : List Char} {v : BitVec 32} (ht : IsTerm N t v) (hr : Follows r)
    (mask : BitVec 32) : pass N (mask, t ++ r) = next (mask ||| v) r := by
  cases ht with
  | @number a negative n ha =>
      have hne : t ≠ [] := by
        rintro rfl
        cases ha
      have hscan : scanInteger (t ++ r) = some (negative, n, r) := by
        have h := hr.digitless.scanInteger_append ha
        rwa [List.nil_append] at h
      have hrest : r ≠ t ++ r := by
        intro heq
        have hlength := congrArg List.length heq
        rw [List.length_append] at hlength
        exact hne (List.length_eq_zero_iff.mp (by omega))
      unfold pass strtol
      simp only [hscan, ne_eq, hrest, not_false_eq_true, if_true]
  | @name b p q t b' w v hb hp hq ht hw hb' =>
      obtain ⟨w', hw', hsome⟩ := isSome_of_pieces (r := b' ++ r) hp hq ht hw
      obtain ⟨hend, hdrop⟩ := strtol_of_pattern hb hw' hsome
      have hassoc : b ++ (p ++ (q ++ (t ++ b'))) ++ r = b ++ (p ++ (q ++ (t ++ (b' ++ r)))) := by
        simp
      have hblanks : (b' ++ r).dropWhile isspace = r := by
        rw [List.dropWhile_append_of_pos hb']
        exact dropWhile_eq_self hr.notBlank
      rw [hassoc]
      unfold pass
      simp only [hend, hdrop, ne_eq, not_true_eq_false, if_false, skip_asyn hp hq ht hw,
        skip_prefixes hq ht hw, findName_of_matches hw ht, hblanks]

/-- What a pass does: it takes a term, or finds that there is none. -/
theorem pass_cases (N : MaskNames) (mask : BitVec 32) (s : List Char) :
    (∃ t r v, s = t ++ r ∧ t ≠ [] ∧ IsTerm N t v ∧ pass N (mask, s) = next (mask ||| v) r) ∨
      ∃ front rest, s = front ++ rest ∧ IsSum N front 0 ∧ pass N (mask, s) = .inr (mask, rest) := by
  by_cases hend : (strtol s).endptr = s
  · obtain ⟨p, hp, hoptional⟩ := skip_append [asyn] (s.dropWhile isspace)
    obtain ⟨q, hq, hoptional'⟩ := skip_append N.prefixes (skip [asyn] (s.dropWhile isspace))
    have hblank : IsBlank (s.takeWhile isspace) := fun c hc => List.mem_takeWhile_imp hc
    have hpass : pass N (mask, s) =
        match findName N.names (skip N.prefixes (skip [asyn] (s.dropWhile isspace))) with
        | some (v, rest) => next (mask ||| v) (rest.dropWhile isspace)
        | none => .inr (mask, skip N.prefixes (skip [asyn] (s.dropWhile isspace))) := by
      unfold pass
      simp only [hend, ne_eq, not_true_eq_false, if_false]
    have hs : s = s.takeWhile isspace ++
        (p ++ (q ++ skip N.prefixes (skip [asyn] (s.dropWhile isspace)))) := by
      rw [← hq, ← hp, List.takeWhile_append_dropWhile]
    generalize skip N.prefixes (skip [asyn] (s.dropWhile isspace)) = x at hpass hs
    cases hname : findName N.names x with
    | none =>
        rw [hname] at hpass
        refine Or.inr ⟨s.takeWhile isspace ++ (p ++ q), x, ?_,
          .missing hblank hoptional hoptional', hpass⟩
        rw [List.append_assoc, List.append_assoc]
        exact hs
    | some found =>
        obtain ⟨v, rest⟩ := found
        rw [hname] at hpass
        obtain ⟨w, t, rfl, hmatch, hw⟩ := matches_of_findName hname
        have hblank' : IsBlank (rest.takeWhile isspace) := fun c hc => List.mem_takeWhile_imp hc
        have hterm : IsTerm N (s.takeWhile isspace ++ (p ++ (q ++ (t ++ rest.takeWhile isspace)))) v :=
          .name hblank hoptional hoptional' hmatch hw hblank'
        have hletter := List.all_eq_true.mp N.letters w (mem_of_names hw)
        refine Or.inl ⟨_, rest.dropWhile isspace, v, ?_, ?_, hterm, hpass⟩
        · simp only [List.append_assoc, List.takeWhile_append_dropWhile]
          exact hs
        · intro hnil
          simp only [List.append_eq_nil_iff] at hnil
          rw [← hmatch, hnil.2.2.2.1] at hletter
          cases hletter
  · cases hscan : scanInteger s with
    | none =>
        unfold strtol at hend
        rw [hscan] at hend
        exact absurd rfl hend
    | some scanned =>
        obtain ⟨negative, n, rest⟩ := scanned
        obtain ⟨a, ha, hwhole⟩ := exists_append_of_scanInteger hscan
        refine Or.inl ⟨a, rest, _, ha, ?_, .number hwhole, ?_⟩
        · rintro rfl
          cases hwhole
        · unfold strtol at hend
          unfold pass strtol
          simp only [hscan] at hend ⊢
          rw [if_pos hend]

/-! ## The loop -/

theorem next_cases (mask : BitVec 32) (r : List Char) :
    (∃ op rest, r = op :: rest ∧ (op = '|' ∨ op = '+') ∧ next mask r = .inl (mask, rest)) ∨
      next mask r = .inr (mask, r) := by
  cases r with
  | nil => exact Or.inr rfl
  | cons c rest =>
      by_cases hop : c = '|' ∨ c = '+'
      · exact Or.inl ⟨c, rest, rfl, hop, if_pos hop⟩
      · exact Or.inr (if_neg hop)

/-- Each pass leaves less of the string. -/
theorem pass_shorter {state state' : BitVec 32 × List Char} (hpass : pass N state = .inl state') :
    state'.2.length < state.2.length := by
  obtain ⟨mask, s⟩ := state
  rcases pass_cases N mask s with ⟨t, r, v, rfl, hne, -, hterm⟩ | ⟨front, rest, -, -, hend⟩
  · rw [hterm] at hpass
    rcases next_cases (mask ||| v) r with ⟨op, rest, rfl, -, hnext⟩ | hnext
    · rw [hnext] at hpass
      cases hpass
      simp only [List.length_append, List.length_cons]
      omega
    · rw [hnext] at hpass
      cases hpass
  · rw [hend] at hpass
    cases hpass

/-- What has been read is in the grammar. -/
theorem sum_of_run {fuel : Nat} : ∀ {mask m : BitVec 32} {s rest : List Char},
    Loop.run (pass N) fuel (mask, s) = some (m, rest) →
      ∃ front m', s = front ++ rest ∧ IsSum N front m' ∧ m = mask ||| m' := by
  induction fuel with
  | zero =>
      intro mask m s rest hrun
      cases hrun
  | succ fuel ih =>
      intro mask m s rest hrun
      rw [Loop.run] at hrun
      rcases pass_cases N mask s with ⟨t, r, v, rfl, -, ht, hterm⟩ | ⟨front, rest', hs, hsum, hend⟩
      · rw [hterm] at hrun
        rcases next_cases (mask ||| v) r with ⟨op, rest', rfl, hop, hnext⟩ | hnext
        · rw [hnext] at hrun
          obtain ⟨front, m', rfl, hsum, rfl⟩ := ih hrun
          exact ⟨t ++ op :: front, v ||| m', by simp, .more ht hop hsum, BitVec.or_assoc ..⟩
        · rw [hnext] at hrun
          cases hrun
          exact ⟨t, v, rfl, .last ht, rfl⟩
      · rw [hend] at hrun
        cases hrun
        exact ⟨front, 0, hs, hsum, by simp⟩

theorem takeWord_nil {w : Pattern} (hw : w ∈ N.patterns) : takeWord w [] = none := by
  cases w with
  | nil =>
      have hletter := List.all_eq_true.mp N.letters [] hw
      cases hletter
  | cons c w => rfl

theorem skip_nil {ws : List Pattern} (hws : ∀ w ∈ ws, w ∈ N.patterns) : skip ws [] = [] := by
  unfold skip
  have hnone : (ws.findSome? fun w => takeWord w []) = none :=
    List.findSome?_eq_none_iff.mpr (fun w hw => takeWord_nil (hws w hw))
  rw [hnone]
  rfl

theorem findName_nil : findName N.names [] = none := by
  refine List.findSome?_eq_none_iff.mpr ?_
  intro x hx
  change (takeWord x.1 []).map _ = none
  rw [takeWord_nil (mem_of_names hx)]
  rfl

/-- A pass that finds nothing but what may stand before a name. -/
theorem pass_missing {b p q : List Char} (hb : IsBlank b) (hp : IsOptional [asyn] p)
    (hq : IsOptional N.prefixes q) (mask : BitVec 32) :
    pass N (mask, b ++ (p ++ q)) = .inr (mask, []) := by
  have hasyn : ∀ w ∈ [asyn], w ∈ N.patterns := by
    intro w hw
    rw [List.mem_singleton.mp hw]
    exact asyn_mem
  have hprefixes : ∀ w ∈ N.prefixes, w ∈ N.patterns := fun w hw => mem_of_prefixes hw
  have hskip : skip N.prefixes q = [] := by
    rcases hq with rfl | ⟨w, hw, hmatch⟩
    · exact skip_nil hprefixes
    · have h := skip_of_matches (r := []) hprefixes hw hmatch
      rwa [List.append_nil] at h
  have hread : (strtol (b ++ (p ++ q))).endptr = b ++ (p ++ q) ∧
      skip [asyn] ((b ++ (p ++ q)).dropWhile isspace) = q := by
    rcases hp with rfl | ⟨w, hw, hmatch⟩
    · rcases hq with rfl | ⟨w, hw, hmatch⟩
      · -- blanks alone
        have hdrop : b.dropWhile isspace = [] := List.dropWhile_eq_nil_iff.mpr hb
        simp only [List.append_nil]
        refine ⟨?_, ?_⟩
        · have hnone : scanInteger b = none := by
            unfold scanInteger
            rw [hdrop]
            rfl
          unfold strtol
          rw [hnone]
        · rw [hdrop]
          exact skip_nil hasyn
      · have hsome : takeWord w (q ++ []) = some [] := isSome_takeWord hmatch
        rw [List.append_nil] at hsome
        obtain ⟨hend, hdrop⟩ := strtol_of_pattern hb (mem_of_prefixes hw) (by rw [hsome]; rfl)
        rw [List.nil_append]
        refine ⟨hend, ?_⟩
        rw [hdrop]
        refine skip_of_other hasyn (mem_of_prefixes hw) (by rw [hsome]; rfl) ?_
        intro hmem
        exact ne_asyn (N := N) (List.mem_append_left _ hw) (List.mem_singleton.mp hmem)
    · have hsome : takeWord w (p ++ q) = some q := isSome_takeWord hmatch
      obtain ⟨hend, hdrop⟩ := strtol_of_pattern hb (hasyn w hw) (by rw [hsome]; rfl)
      refine ⟨hend, ?_⟩
      rw [hdrop]
      exact skip_of_matches hasyn hw hmatch
  unfold pass
  simp only [hread.1, hread.2, ne_eq, not_true_eq_false, if_false, hskip, findName_nil]

/-- What is in the grammar is read to the end. -/
theorem returns_of_sum {s : List Char} {m : BitVec 32} (hs : IsSum N s m) :
    ∀ mask, Loop.Returns (pass N) (mask, s) (mask ||| m, []) := by
  induction hs with
  | missing hb hp hq =>
      intro mask
      rw [Loop.returns_of_inr (pass_missing hb hp hq mask)]
      simp
  | @last t v ht =>
      intro mask
      have hpass := pass_term (r := []) ht (fun c hc => by cases hc) mask
      rw [List.append_nil] at hpass
      exact (Loop.returns_of_inr hpass).mpr rfl
  | @more t s op v m ht hop hs ih =>
      intro mask
      have hfollows : Follows (op :: s) := by
        intro c hc
        cases hc
        exact hop
      have hpass := pass_term ht hfollows mask
      have hnext : next (mask ||| v) (op :: s) = .inl (mask ||| v, s) := if_pos hop
      rw [hnext] at hpass
      rw [Loop.returns_of_inl hpass, ← BitVec.or_assoc]
      exact ih (mask ||| v)

/-- The loop ends, on every string. -/
theorem exists_maskStringToInt (N : MaskNames) (s : List Char) :
    ∃ m rest, maskStringToInt N (some s) = some (m, rest) := by
  have hshorter : ∀ state state' : BitVec 32 × List Char, True → pass N state = .inl state' →
      True ∧ state'.2.length < state.2.length :=
    fun _ _ _ hpass => ⟨trivial, pass_shorter hpass⟩
  have hsome := Loop.isSome_run (I := fun _ => True) (s := ((0 : BitVec 32), s))
    (fun state => state.2.length) trivial hshorter (Nat.lt_succ_self s.length)
  obtain ⟨⟨m, rest⟩, hrun⟩ := Option.isSome_iff_exists.mp hsome
  exact ⟨m, rest, hrun⟩

/-- The mask is what the numbers and names stand for that come before the place that the message tells;
and there is no message exactly for the strings of the grammar. -/
theorem maskStringToInt_iff (N : MaskNames) (s : List Char) :
    (∃ front m rest, s = front ++ rest ∧ IsSum N front m ∧
      maskStringToInt N (some s) = some (m, rest)) ∧
    ∀ m, maskStringToInt N (some s) = some (m, []) ↔ IsSum N s m := by
  have hzero : ∀ m : BitVec 32, 0 ||| m = m := fun m => by simp
  obtain ⟨m, rest, hrun⟩ := exists_maskStringToInt N s
  refine ⟨?_, fun m' => ⟨fun hrun' => ?_, fun hsum => ?_⟩⟩
  · obtain ⟨front, m', hs, hsum, rfl⟩ := sum_of_run hrun
    rw [hzero] at hrun
    exact ⟨front, m', rest, hs, hsum, hrun⟩
  · obtain ⟨front, m'', hs, hsum, rfl⟩ := sum_of_run hrun'
    rw [hs, List.append_nil, hzero]
    exact hsum
  · have hreturns := returns_of_sum hsum 0
    have hunique := hreturns.unique ⟨s.length + 1, hrun⟩
    rw [hzero] at hunique
    rw [hrun, hunique]

end

example : asynTraceMaskStringToInt (some "ASYN_TRACE_ERROR | flow+0x20".toList) =
    some (0x31, []) := by
  decide

end TraceMaskString
end Miscellaneous
end AsynDriver
