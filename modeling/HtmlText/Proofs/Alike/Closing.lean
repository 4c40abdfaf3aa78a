import HtmlText.Proofs.Alike.Insertion

/-!
# Closing elements in alike states

Alike states stay alike when a problem is reported, when a flag is set and when open elements are
closed: which elements are closed depends on their names alone.

## Main results

* `Alike.report`, `Alike.setMode` and so on: data that no number depends on.
* `Alike.close`, `Alike.endParagraph` and so on: closing open elements.
* `Alike.fittingMode_eq`: the mode that fits the open elements.
-/

namespace HtmlText

namespace Builder

variable {D : Comparison} {f f' : Equiv.Perm Nat}
  {V V' : Nat → Prop} {b b' : Builder} {d' : Draft}

namespace Alike

/-! ### Flags -/

theorem report (h : Alike D b b') (p : Problem) : Alike D (b.report p) (b'.report p) :=
  h.control (·.report p) (fun _ _ _ => rfl) (fun _ => ⟨rfl, rfl, rfl, rfl, rfl, rfl⟩)
    (by simp [Builder.report])

theorem unexpected (h : Alike D b b') : Alike D b.unexpected b'.unexpected := h.report _

theorem setMode (h : Alike D b b') (mode : ConstructMode) :
    Alike D { b with mode } { b' with mode } :=
  h.control (fun b => { b with mode }) (fun _ _ _ => rfl) (fun _ => ⟨rfl, rfl, rfl, rfl, rfl, rfl⟩)
    fun _ => id

theorem setReturnMode (h : Alike D b b') (returnMode : ConstructMode) :
    Alike D { b with returnMode } { b' with returnMode } :=
  h.control (fun b => { b with returnMode }) (fun _ _ _ => rfl)
    (fun _ => ⟨rfl, rfl, rfl, rfl, rfl, rfl⟩) fun _ => id

theorem setTemplateModes (h : Alike D b b') (templateModes : List ConstructMode) :
    Alike D { b with templateModes } { b' with templateModes } :=
  h.control (fun b => { b with templateModes }) (fun _ _ _ => rfl)
    (fun _ => ⟨rfl, rfl, rfl, rfl, rfl, rfl⟩) fun _ => id

theorem setTableText (h : Alike D b b') (tableText : List (List Char)) :
    Alike D { b with tableText } { b' with tableText } :=
  h.control (fun b => { b with tableText }) (fun _ _ _ => rfl)
    (fun _ => ⟨rfl, rfl, rfl, rfl, rfl, rfl⟩) fun _ => id

theorem setDropLineFeed (h : Alike D b b') (dropLineFeed : Bool) :
    Alike D { b with dropLineFeed } { b' with dropLineFeed } :=
  h.control (fun b => { b with dropLineFeed }) (fun _ _ _ => rfl)
    (fun _ => ⟨rfl, rfl, rfl, rfl, rfl, rfl⟩) fun _ => id

theorem setOldLayout (h : Alike D b b') (oldLayout : Bool) :
    Alike D { b with oldLayout } { b' with oldLayout } :=
  h.control (fun b => { b with oldLayout }) (fun _ _ _ => rfl)
    (fun _ => ⟨rfl, rfl, rfl, rfl, rfl, rfl⟩) fun _ => id

theorem setTextMode (h : Alike D b b') (textMode : TextMode) :
    Alike D { b with textMode } { b' with textMode } :=
  h.control (fun b => { b with textMode }) (fun _ _ _ => rfl)
    (fun _ => ⟨rfl, rfl, rfl, rfl, rfl, rfl⟩) fun _ => id

theorem forbidFrameset (h : Alike D b b') : Alike D b.forbidFrameset b'.forbidFrameset :=
  h.control (·.forbidFrameset) (fun _ _ _ => rfl) (fun _ => ⟨rfl, rfl, rfl, rfl, rfl, rfl⟩)
    fun _ => id

/-! ### Closing elements -/

theorem pop (h : Alike D b b') : Alike D b.pop b'.pop :=
  h.stack List.tail (fun _ _ => List.map_tail.symm) fun es => (List.tail_sublist es).subset

theorem popWhile (h : Alike D b b') (test : ElementName → Bool) :
    Alike D (b.popWhile test) (b'.popWhile test) :=
  h.stack (fun es => es.dropWhile fun e => test e.name) (fun _ _ => List.dropWhile_map)
    fun _ => List.dropWhile_subset _

theorem popThrough (h : Alike D b b') (test : ElementName → Bool) :
    Alike D (b.popThrough test) (b'.popThrough test) :=
  (h.popWhile _).pop

theorem closeImplied (h : Alike D b b') : Alike D b.closeImplied b'.closeImplied := h.popWhile _

theorem closeImpliedExcept (h : Alike D b b') (tag : String) :
    Alike D (b.closeImpliedExcept tag) (b'.closeImpliedExcept tag) :=
  h.popWhile _

theorem close (h : Alike D b b') (tag : String) : Alike D (b.close tag) (b'.close tag) := by
  simp only [Builder.close, h.current_name_eq]
  split_ifs
  · exact h.popThrough _
  · exact (h.popThrough _).report _

theorem closeParagraph (h : Alike D b b') : Alike D b.closeParagraph b'.closeParagraph :=
  (h.closeImpliedExcept "p").close "p"

theorem endParagraph (h : Alike D b b') : Alike D b.endParagraph b'.endParagraph := by
  simp only [Builder.endParagraph, h.inScope_eq]
  split_ifs
  · exact h.closeParagraph
  · exact h

theorem checkEnd (h : Alike D b b') : Alike D b.checkEnd b'.checkEnd := by
  have hall : (b'.stack.all fun e => e.name.mayStayOpen) =
      b.stack.all fun e => e.name.mayStayOpen := by
    simpa [List.all_eq_not_any_not] using h.any_name_eq fun name => !name.mayStayOpen
  simp only [Builder.checkEnd, hall]
  split_ifs
  · exact h
  · exact h.report _

theorem clearFormatting (h : Alike D b b') : Alike D b.clearFormatting b'.clearFormatting := by
  refine h.formatting (fun entries => (entries.dropWhile (· ≠ .marker)).tail)
    (fun entries f => ?_) fun entries =>
      List.Subset.trans (List.tail_sublist _).subset (List.dropWhile_subset _)
  have hmarker : (fun entry : Formatting => decide (entry ≠ .marker)) ∘ Formatting.rename f =
      fun entry => decide (entry ≠ .marker) := by
    funext entry
    cases entry <;> simp [Formatting.rename]
  rw [List.dropWhile_map, hmarker, List.map_tail]

theorem markFormatting (h : Alike D b b') : Alike D b.markFormatting b'.markFormatting := by
  obtain ⟨f, V, d', rfl, h⟩ := h
  refine ⟨f, V, d', rfl, h.setFormatting fun id tag hmem => ?_⟩
  rcases List.mem_cons.mp hmem with hmarker | hmem
  · cases hmarker
  · exact h.names id (.formatting hmem)

/-- The modes that fit are the same, since they depend on names alone. -/
theorem fittingMode_eq (h : Alike D b b') : b'.fittingMode = b.fittingMode := by
  obtain ⟨f, V, d', rfl, -⟩ := h
  have hselect (es : List OpenElement) : selectMode (es.map (·.rename f)) = selectMode es := by
    induction es with
    | nil => rfl
    | cons e es ih =>
      rw [List.map_cons, selectMode, selectMode, ih]
      rfl
  have hfor (name : ElementName) (es : List OpenElement) :
      (b.rename f d').modeFor name (es.map (·.rename f)) = b.modeFor name es := by
    simp only [modeFor, hselect, List.isEmpty_map]
    simp [rename]
  have hof (es : List OpenElement) :
      (b.rename f d').fittingModeOf (es.map (·.rename f)) = b.fittingModeOf es := by
    induction es with
    | nil => rfl
    | cons e es ih =>
      rw [List.map_cons, fittingModeOf, fittingModeOf, ih, hfor, List.isEmpty_map]
      rfl
  exact hof b.stack

end Alike

end Builder

end HtmlText
