import HtmlText.Text.Casing
import Mathlib.Data.List.Basic
import Mathlib.Tactic.SplitIfs

/-!
# Case mappings are final

No case mapping has anything left to do with what it has made: every character that it maps to is
mapped to itself. Over the tables this is a comparison of ranges, where those that overlap are
interleaved ranges of every second code point. The mapping of a sigma depends on its neighbours, but
neither of its two small forms is mapped any further, so to write a text in lower case twice is to
do so once.

## Main definitions

* `CaseShift.Moves`, `CaseShift.images`: the code points that a shift moves, and where to.
* `CaseShift.clear`: a shift whose images a table does not move.
* `IsFinalCase`: tables whose images they do not map any further.

## Main results

* `IsFinalCase.mapCase_of_mem`: a mapped character is mapped to itself.
* `isFinalCase_lower`, `isFinalCase_upper`: the mappings to lower and to upper case are final.
* `lower_lower`, `upper_upper`: so are lower and upper case of texts.
-/

namespace HtmlText

/-! ### Shifts -/

namespace CaseShift

/-- The shift moves a code point. -/
def Moves (s : CaseShift) (n : Nat) : Prop :=
  s.first ≤ n ∧ n ≤ s.last ∧ (n - s.first) % s.stride = 0

instance (s : CaseShift) : DecidablePred s.Moves :=
  fun _ => inferInstanceAs (Decidable (_ ∧ _ ∧ _))

/-- The code points that are moved to. -/
def images (s : CaseShift) : List Nat :=
  (List.range ((s.last - s.first) / s.stride + 1)).map fun k => s.target + k * s.stride

/-- The images are moved by none of the shifts of a table, which is searched as for a single code
point: shifts whose range ends before the images are passed over, and the search ends where a range
begins behind them. -/
def clear (s : CaseShift) : List CaseShift → Bool
  | [] => true
  | s' :: shifts =>
    if s'.last < s.target then s.clear shifts
    else if s.target + (s.last - s.first) < s'.first then true
    else s.images.all (fun n => !decide (s'.Moves n)) && s.clear shifts

variable {s : CaseShift} {n : Nat}

theorem Moves.mem_images (h : s.Moves n) : s.target + (n - s.first) ∈ s.images := by
  obtain ⟨-, hlast, hstride⟩ := h
  refine List.mem_map.mpr ⟨(n - s.first) / s.stride, List.mem_range.mpr ?_, ?_⟩
  · exact Nat.lt_succ_of_le (Nat.div_le_div_right (Nat.sub_le_sub_right hlast _))
  · rw [Nat.div_mul_cancel (Nat.dvd_of_mod_eq_zero hstride)]

theorem Moves.target_le (h : s.Moves n) :
    s.target + (n - s.first) ≤ s.target + (s.last - s.first) :=
  Nat.add_le_add_left (Nat.sub_le_sub_right h.2.1 _) _

theorem shiftCase_eq_none_of_clear {shifts : List CaseShift} (hn : s.Moves n)
    (h : s.clear shifts = true) : shiftCase shifts (s.target + (n - s.first)) = none := by
  have htarget := hn.target_le
  induction shifts with
  | nil => rfl
  | cons s' shifts ih =>
    rw [clear] at h
    rw [shiftCase]
    split_ifs at h with hbefore hbehind
    · rw [if_neg (by omega : ¬s.target + (n - s.first) ≤ s'.last), ih h, ite_self]
    · exact if_pos (by omega)
    · rw [Bool.and_eq_true, List.all_eq_true] at h
      have hunmoved : ¬s'.Moves (s.target + (n - s.first)) := by
        simpa using h.1 _ hn.mem_images
      split_ifs with hfirst hlast hstride
      · rfl
      · exact absurd ⟨Nat.le_of_not_lt hfirst, hlast, hstride⟩ hunmoved
      · rfl
      · exact ih h.2

end CaseShift

theorem exists_moves_of_shiftCase {shifts : List CaseShift} {n m : Nat}
    (h : shiftCase shifts n = some m) :
    ∃ s ∈ shifts, s.Moves n ∧ m = s.target + (n - s.first) := by
  induction shifts with
  | nil => exact absurd h (by simp [shiftCase])
  | cons s shifts ih =>
    rw [shiftCase] at h
    split_ifs at h with hfirst hlast hstride
    · exact ⟨s, List.mem_cons_self, ⟨Nat.le_of_not_lt hfirst, hlast, hstride⟩,
        (Option.some.inj h).symm⟩
    · obtain ⟨s', hs', hmoves⟩ := ih h
      exact ⟨s', List.mem_cons_of_mem s hs', hmoves⟩

/-! ### Tables -/

/-- Tables of a case mapping whose images they do not map any further. -/
structure IsFinalCase (shifts : List CaseShift) (expansions : List (Nat × List Nat)) : Prop where
  /-- Number 0 stands for all numbers that are no code point. -/
  zero : shiftCase shifts 0 = none ∧ expansions.lookup 0 = none
  clear : ∀ s ∈ shifts, s.clear shifts = true
  keys : ∀ s ∈ shifts, ∀ e ∈ expansions,
    s.target + (s.last - s.first) < e.1 ∨ e.1 < s.target
  images : ∀ e ∈ expansions, ∀ n ∈ e.2,
    shiftCase shifts n = none ∧ expansions.lookup n = none

section Tables

variable {shifts : List CaseShift} {expansions : List (Nat × List Nat)}

theorem IsFinalCase.unmapped_of_shiftCase (h : IsFinalCase shifts expansions) {n m : Nat}
    (hm : shiftCase shifts n = some m) :
    shiftCase shifts m = none ∧ expansions.lookup m = none := by
  obtain ⟨s, hs, hmoves, rfl⟩ := exists_moves_of_shiftCase hm
  refine ⟨CaseShift.shiftCase_eq_none_of_clear hmoves (h.clear s hs), ?_⟩
  refine List.lookup_eq_none_iff.mpr fun e he => ?_
  have htarget := hmoves.target_le
  have hkey := h.keys s hs e he
  exact bne_iff_ne.mpr (by omega)

theorem mapCase_ofNat {n : Nat} (hzero : shiftCase shifts 0 = none ∧ expansions.lookup 0 = none)
    (hn : shiftCase shifts n = none ∧ expansions.lookup n = none) :
    mapCase shifts expansions (Char.ofNat n) = [Char.ofNat n] := by
  have hcode : shiftCase shifts (Char.ofNat n).toNat = none ∧
      expansions.lookup (Char.ofNat n).toNat = none := by
    by_cases h : n.isValidChar
    · rw [Char.ofNat, dif_pos h]
      exact hn
    · rw [Char.ofNat, dif_neg h]
      exact hzero
  rw [mapCase, hcode.1, hcode.2]

/-- A mapped character is mapped to itself. -/
theorem IsFinalCase.mapCase_of_mem (h : IsFinalCase shifts expansions) {c d : Char}
    (hd : d ∈ mapCase shifts expansions c) : mapCase shifts expansions d = [d] := by
  rw [mapCase] at hd
  split at hd
  · next n hn =>
    rw [List.mem_singleton.mp hd]
    exact mapCase_ofNat h.zero (h.unmapped_of_shiftCase hn)
  · next hshift =>
    split at hd
    · next ns hns =>
      obtain ⟨n, hn, rfl⟩ := List.mem_map.mp hd
      obtain ⟨before, after, heq, -⟩ := List.lookup_eq_some_iff.mp hns
      exact mapCase_ofNat h.zero (h.images (c.toNat, ns) (by simp [heq]) n hn)
    · next hlookup =>
      rw [List.mem_singleton.mp hd, mapCase, hshift, hlookup]

end Tables

/-- The keys of a table of expansions are compared with the images of a table of shifts by a test
that can be evaluated fast. -/
theorem keys_of_all {shifts : List CaseShift} {expansions : List (Nat × List Nat)}
    (h : (shifts.all fun s => expansions.all fun e =>
      (s.target + (s.last - s.first)).blt e.1 || e.1.blt s.target) = true) :
    ∀ s ∈ shifts, ∀ e ∈ expansions, s.target + (s.last - s.first) < e.1 ∨ e.1 < s.target := by
  simpa only [List.all_eq_true, Bool.or_eq_true, Nat.blt_eq] using h

theorem isFinalCase_lower : IsFinalCase lowerShifts lowerExpansions where
  zero := by decide +kernel
  clear := by decide +kernel
  keys := keys_of_all (by decide +kernel)
  images := by decide +kernel

theorem isFinalCase_upper : IsFinalCase upperShifts upperExpansions where
  zero := by decide +kernel
  clear := by decide +kernel
  keys := keys_of_all (by decide +kernel)
  images := by decide +kernel

/-! ### Texts in lower case -/

/-- What is left as it is by lower case, each character by itself. -/
def IsLowerChar (c : Char) : Prop := lowerChar c = [c]

theorem isLowerChar_of_mem_lowerFrom {before cs : List Char} {d : Char}
    (h : d ∈ lowerFrom before cs) : IsLowerChar d := by
  induction cs generalizing before with
  | nil => exact absurd h List.not_mem_nil
  | cons c cs ih =>
    rw [lowerFrom, List.mem_append] at h
    rcases h with h | h
    · split_ifs at h
      · rw [List.mem_singleton.mp h, IsLowerChar]
        decide +kernel
      · rw [List.mem_singleton.mp h, IsLowerChar]
        decide +kernel
      · exact isFinalCase_lower.mapCase_of_mem h
    · exact ih h

/-- A text of such characters has no capital sigma, so it is in lower case whatever precedes it. -/
theorem lowerFrom_of_isLowerChar {cs : List Char} (h : ∀ c ∈ cs, IsLowerChar c)
    (before : List Char) : lowerFrom before cs = cs := by
  induction cs generalizing before with
  | nil => rfl
  | cons c cs ih =>
    have hc : IsLowerChar c := h c List.mem_cons_self
    have hsigma : c ≠ 'Σ' := by
      rintro rfl
      rw [IsLowerChar] at hc
      exact absurd hc (by decide +kernel)
    rw [lowerFrom, if_neg hsigma, hc, ih fun d hd => h d (List.mem_cons_of_mem c hd),
      List.singleton_append]

/-- To write a text in lower case twice is to do so once. -/
theorem lower_lower (s : String) : lower (lower s) = lower s := by
  apply String.toList_inj.mp
  rw [toList_lower, lowerFrom_of_isLowerChar]
  intro c hc
  rw [toList_lower] at hc
  exact isLowerChar_of_mem_lowerFrom hc

/-- A final sigma, a sharp capital and a dotted capital. -/
example : lower (lower "ὈΔΥΣΣΕΎΣ ẞİ") = "ὀδυσσεύς ßi̇" := by decide +kernel

/-! ### Texts in upper case -/

/-- Upper case leaves a text as it is if it leaves each of its characters as it is. -/
theorem upper_of_forall {s : String} (h : ∀ c ∈ s.toList, upperChar c = [c]) : upper s = s := by
  apply String.toList_inj.mp
  rw [toList_upper, List.flatMap_congr h]
  exact List.flatMap_singleton' s.toList

/-- To write a text in upper case twice is to do so once. -/
theorem upper_upper (s : String) : upper (upper s) = upper s := by
  refine upper_of_forall fun d hd => ?_
  rw [toList_upper] at hd
  obtain ⟨c, -, hd⟩ := List.mem_flatMap.mp hd
  exact isFinalCase_upper.mapCase_of_mem hd

/-- Texts that are put together are written in upper case one by one. -/
theorem upper_join (parts : List String) :
    upper (String.join parts) = String.join (parts.map upper) := by
  induction parts with
  | nil => rfl
  | cons part parts ih => rw [String.join_cons, upper_append, ih, List.map_cons, String.join_cons]

/-- A sharp s, a ligature and an iota below. -/
example : upper (upper "straße ﬂ ᾳ") = "STRASSE FL ΑΙ" := by decide +kernel

end HtmlText
