import HtmlText.Text.Blank

/-!
# Collapsing blank runs

Text inside a document is laid out anew, so each run of HTML source blanks counts as one space.
Blank runs at the ends of a text are kept as one space as well: whether they show is decided by
what stands next to them.

## Main definitions

* `collapse`: a text with every run of source blanks replaced by one space.
-/

namespace HtmlText

/-- Collapse the blank runs of what follows; `inRun` says that a blank came just before and has
already been written. -/
def collapseFrom (inRun : Bool) : List Char → List Char
  | [] => []
  | c :: cs =>
    if isMarkupBlank c then
      if inRun then collapseFrom true cs else ' ' :: collapseFrom true cs
    else c :: collapseFrom false cs

/-- A text with every run of source blanks replaced by one space. -/
def collapse (s : String) : String := String.ofList (collapseFrom false s.toList)

@[simp] theorem toList_collapse (s : String) :
    (collapse s).toList = collapseFrom false s.toList := by
  simp [collapse]

/-- Behind a blank that has been written, further blanks do not show. -/
theorem collapseFrom_true_append {w : List Char} (h : w.all isMarkupBlank = true) (cs : List Char) :
    collapseFrom true (w ++ cs) = collapseFrom true cs := by
  induction w with
  | nil => rfl
  | cons c w ih =>
    rw [List.all_cons, Bool.and_eq_true] at h
    rw [List.cons_append, collapseFrom, if_pos h.1, if_pos rfl, ih h.2]

/-- A text with collapsed blanks has no blanks but spaces. -/
theorem mem_collapseFrom {inRun : Bool} {cs : List Char} {c : Char}
    (h : c ∈ collapseFrom inRun cs) : c = ' ' ∨ c ∈ cs ∧ isMarkupBlank c = false := by
  induction cs generalizing inRun with
  | nil => simp [collapseFrom] at h
  | cons d cs ih =>
    have hrest {inRun : Bool} (h : c ∈ collapseFrom inRun cs) :
        c = ' ' ∨ c ∈ d :: cs ∧ isMarkupBlank c = false :=
      (ih h).imp_right fun h => ⟨List.mem_cons_of_mem d h.1, h.2⟩
    rw [collapseFrom] at h
    split at h
    · split at h
      · exact hrest h
      · rcases List.mem_cons.mp h with h | h
        · exact Or.inl h
        · exact hrest h
    · next hd =>
      rcases List.mem_cons.mp h with rfl | h
      · exact Or.inr ⟨List.mem_cons_self, by simpa using hd⟩
      · exact hrest h

/-- What is no blank stays. -/
theorem mem_collapseFrom_of_mem {cs : List Char} {c : Char} (h : c ∈ cs)
    (hc : isMarkupBlank c = false) (inRun : Bool) : c ∈ collapseFrom inRun cs := by
  induction cs generalizing inRun with
  | nil => exact absurd h List.not_mem_nil
  | cons d cs ih =>
    rw [collapseFrom]
    rcases List.mem_cons.mp h with rfl | h
    · simp [hc]
    · split
      · split
        · exact ih h true
        · exact List.mem_cons_of_mem _ (ih h true)
      · exact List.mem_cons_of_mem _ (ih h false)

theorem notMem_collapse {c : Char} (hc : isMarkupBlank c = true) (hne : c ≠ ' ') (s : String) :
    c ∉ (collapse s).toList := by
  intro h
  rw [toList_collapse] at h
  rcases mem_collapseFrom h with h | ⟨-, h⟩
  · exact hne h
  · exact absurd (hc.symm.trans h) (by decide)

end HtmlText
