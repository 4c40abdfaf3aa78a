/-!
# Searching a text

A search asks whether something holds at some position of a text, where a position is given by the
characters from it to the end.

## Main definitions

* `anySuffix`: a test holds at some position.
* `occursIn`: one text occurs in another.
-/

namespace HtmlText

/-- Whether a test holds of the text from some position on, the end included. -/
def anySuffix (test : List Char → Bool) : List Char → Bool
  | [] => test []
  | c :: cs => test (c :: cs) || anySuffix test cs

/-- Whether `part` occurs in `s` without a gap. -/
def occursIn (part s : String) : Bool := anySuffix part.toList.isPrefixOf s.toList

theorem anySuffix_eq_true_iff {test : List Char → Bool} {cs : List Char} :
    anySuffix test cs = true ↔ ∃ rest, rest <:+ cs ∧ test rest = true := by
  induction cs with
  | nil => simp [anySuffix]
  | cons c cs ih =>
    rw [anySuffix, Bool.or_eq_true, ih]
    constructor
    · rintro (h | ⟨rest, hsuffix, h⟩)
      · exact ⟨c :: cs, List.suffix_refl _, h⟩
      · exact ⟨rest, List.suffix_cons_iff.mpr (Or.inr hsuffix), h⟩
    · rintro ⟨rest, hsuffix, h⟩
      rcases List.suffix_cons_iff.mp hsuffix with rfl | hsuffix
      · exact Or.inl h
      · exact Or.inr ⟨rest, hsuffix, h⟩

/-- One text occurs in another if it stands somewhere in it without a gap. -/
theorem occursIn_iff_isInfix {part s : String} :
    occursIn part s = true ↔ part.toList <:+: s.toList := by
  rw [occursIn, anySuffix_eq_true_iff, List.infix_iff_prefix_suffix]
  simp only [List.isPrefixOf_iff_prefix, and_comm]

end HtmlText
