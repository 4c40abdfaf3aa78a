/-!
# Pieces of a text

A text is cut at every occurrence of a separator. A text with `n` separators has `n + 1` pieces, and
the empty text has one empty piece.

## Main definitions

* `pieces`: the pieces of a text between separators.

## Main results

* `intercalate_pieces`: the pieces with separators between them are the text.
* `pieces_intercalate`: pieces without separators are found again.
-/

namespace HtmlText

/-- The pieces of a text between separators. -/
def pieces (separator : Char) : List Char → List (List Char)
  | [] => [[]]
  | c :: cs =>
    match pieces separator cs with
    | [] => [[c]]
    | piece :: rest => if c = separator then [] :: piece :: rest else (c :: piece) :: rest

theorem pieces_ne_nil (separator : Char) : ∀ cs : List Char, pieces separator cs ≠ []
  | [] => by simp [pieces]
  | c :: cs => by
    rw [pieces]
    split
    · simp
    · split <;> simp

/-- A text is put together again from its pieces. -/
theorem intercalate_pieces (separator : Char) (cs : List Char) :
    [separator].intercalate (pieces separator cs) = cs := by
  induction cs with
  | nil => rfl
  | cons c cs ih =>
    rw [pieces]
    split
    · next h => exact absurd h (pieces_ne_nil separator cs)
    · next piece rest h =>
      rw [h] at ih
      split
      · next hc =>
        subst hc
        rw [← ih]
        simp [List.intercalate]
      · rw [← ih]
        cases rest <;> simp [List.intercalate]

theorem notMem_of_mem_pieces {separator : Char} {cs piece : List Char}
    (h : piece ∈ pieces separator cs) : separator ∉ piece := by
  induction cs generalizing piece with
  | nil => simp_all [pieces]
  | cons c cs ih =>
    rw [pieces] at h
    split at h
    · next hnil => exact absurd hnil (pieces_ne_nil separator cs)
    · next first rest hcs =>
      rw [hcs, List.forall_mem_cons] at ih
      split at h
      · rcases List.mem_cons.mp h with rfl | h
        · exact List.not_mem_nil
        · rcases List.mem_cons.mp h with rfl | h
          · exact ih.1
          · exact ih.2 piece h
      · next hc =>
        rcases List.mem_cons.mp h with rfl | h
        · simp [Ne.symm hc, ih.1]
        · exact ih.2 piece h

theorem pieces_of_notMem {separator : Char} {cs : List Char} (h : separator ∉ cs) :
    pieces separator cs = [cs] := by
  induction cs with
  | nil => rfl
  | cons c cs ih =>
    rw [List.mem_cons, not_or] at h
    rw [pieces, ih h.2]
    exact if_neg (Ne.symm h.1)

/-- A piece in front of a separator. -/
theorem pieces_append {separator : Char} {piece : List Char} (h : separator ∉ piece)
    (cs : List Char) :
    pieces separator (piece ++ separator :: cs) = piece :: pieces separator cs := by
  induction piece with
  | nil =>
    rw [List.nil_append, pieces]
    split
    · next hnil => exact absurd hnil (pieces_ne_nil separator cs)
    · next hcs => rw [if_pos rfl, hcs]
  | cons c piece ih =>
    rw [List.mem_cons, not_or] at h
    rw [List.cons_append, pieces, ih h.2]
    exact if_neg (Ne.symm h.1)

/-- Pieces without separators are the pieces of the text that they are put together to. -/
theorem pieces_intercalate {separator : Char} {ls : List (List Char)} (hne : ls ≠ [])
    (h : ∀ piece ∈ ls, separator ∉ piece) :
    pieces separator ([separator].intercalate ls) = ls := by
  induction ls with
  | nil => exact absurd rfl hne
  | cons piece ls ih =>
    rw [List.forall_mem_cons] at h
    by_cases hls : ls = []
    · rw [hls, List.intercalate_singleton]
      exact pieces_of_notMem h.1
    · rw [List.intercalate_cons_of_ne_nil hls, List.append_assoc, List.singleton_append,
        pieces_append h.1, ih hls h.2]

end HtmlText
