import HtmlText.Markup.Construct.Table
import HtmlText.Proofs.Alike.BodyRules

/-!
# The rules for tables on alike states

## Main results

* `Alike.tableRules`, `Alike.tableTextRules`: tokens in a table.
* `Alike.captionRules`, `Alike.columnGroupRules`, `Alike.tableBodyRules`, `Alike.rowRules`,
  `Alike.cellRules`: tokens in the parts of a table.
-/

namespace HtmlText

namespace Builder

variable {D : Comparison} {b b' : Builder}

namespace Alike

/-! ### Tables -/

theorem clearTo (h : Alike D b b') (test : ElementName → Bool) :
    Alike D (b.clearTo test) (b'.clearTo test) :=
  h.popWhile _

theorem inTableScope_eq (h : Alike D b b') (tag : String) :
    b'.inTableScope tag = b.inTableScope tag :=
  h.inScope_eq _ tag

theorem textInTable (hD : DraftRelation D) (h : Alike D b b') (t : Token) :
    StepAlike D (b.textInTable t) (b'.textInTable t) := by
  simp only [Builder.textInTable, h.current_name_eq, h.mode_eq]
  split_ifs
  · exact (h.setReturnMode _).againIn _ t
  · exact (h.report _).fosterRules hD (List.cons_ne_nil _ _) t

theorem misplacedInTable (hD : DraftRelation D) (h : Alike D b b') (t : Token) :
    StepAlike D (b.misplacedInTable t) (b'.misplacedInTable t) :=
  h.unexpected.fosterRules hD (List.cons_ne_nil _ _) t

theorem closeTable (h : Alike D b b') : Alike D b.closeTable b'.closeTable := by
  have hclosed := h.popThrough (· = .html "table")
  simp only [Builder.closeTable, hclosed.fittingMode_eq]
  exact hclosed.setMode _

theorem tableStart (hD : DraftRelation D) (h : Alike D b b') (t : Tag) :
    StepAlike D (b.tableStart t) (b'.tableStart t) := by
  have hclear := h.clearTo (·.boundsTableScope)
  have hunexpected := h.unexpected
  have hform := hunexpected.insertClosed_then hD (.html "form") t.attributes
    (fun c id => { c with form := some id }) (fun _ _ _ _ => rfl) fun hc hid => hc.setForm hid
  refine .ite Iff.rfl (fun _ => (hclear.markFormatting.insertTag hD t).doneIn _) fun _ => ?_
  refine .ite Iff.rfl (fun _ => (hclear.insertTag hD t).doneIn _) fun _ => ?_
  refine .ite Iff.rfl (fun _ => (hclear.insertMissing hD _).againIn _ _) fun _ => ?_
  refine .ite Iff.rfl (fun _ => (hclear.insertTag hD t).doneIn _) fun _ => ?_
  refine .ite Iff.rfl (fun _ => (hclear.insertMissing hD _).againIn _ _) fun _ => ?_
  refine .ite Iff.rfl (fun _ => ?_) fun _ => ?_
  · exact .ite (by rw [hunexpected.inTableScope_eq]) (fun _ => hunexpected.closeTable.again _)
      fun _ => hunexpected.done
  refine .ite Iff.rfl (fun _ => h.headContent hD t) fun _ => ?_
  refine .ite Iff.rfl (fun _ => ?_) fun _ => ?_
  · exact .ite Iff.rfl (fun _ => (hunexpected.insertVoid hD t).acknowledged)
      fun _ => h.misplacedInTable hD _
  refine .ite Iff.rfl (fun _ => ?_) fun _ => h.misplacedInTable hD _
  refine .ite (by rw [hunexpected.hasOpen_eq, hunexpected.form_isSome_eq])
    (fun _ => hunexpected.done) fun _ => ?_
  exact hform.done

theorem tableEnd (hD : DraftRelation D) (h : Alike D b b') (t : Tag) :
    StepAlike D (b.tableEnd t) (b'.tableEnd t) := by
  refine .ite Iff.rfl (fun _ => ?_) fun _ => ?_
  · exact .ite (by rw [h.inTableScope_eq]) (fun _ => h.closeTable.done) fun _ => h.unexpected.done
  refine .ite Iff.rfl (fun _ => h.unexpected.done) fun _ => ?_
  exact .ite Iff.rfl (fun _ => h.templateEnd) fun _ => h.misplacedInTable hD _

theorem tableRules (hD : DraftRelation D) (h : Alike D b b') (t : Token) :
    StepAlike D (b.tableRules t) (b'.tableRules t) := by
  cases t with
  | null | text => exact h.textInTable hD _
  | comment s => exact (h.insertComment hD s).done
  | startTag tag => exact h.tableStart hD tag
  | endTag tag => exact h.tableEnd hD tag
  | sourceEnd => exact h.bodyRules hD _
  | doctype d => exact h.done

/-- Blank text of a table, piece by piece. -/
theorem foldl_insertText (hD : DraftRelation D) (pieces : List (List Char)) (h : Alike D b b') :
    Alike D (pieces.foldl (fun b cs => b.insertText cs) b)
      (pieces.foldl (fun b cs => b.insertText cs) b') := by
  induction pieces generalizing b b' with
  | nil => exact h
  | cons cs pieces ih => exact ih (h.insertText hD cs)

theorem problems_reopen (b : Builder) (entries : List Formatting) :
    (b.reopen entries).1.problems = b.problems := by
  induction entries with
  | nil => rfl
  | cons entry earlier ih =>
    cases entry with
    | marker => exact ih
    | element id tag => exact ih

theorem problems_fosterRules_text (b : Builder) (cs : List Char) :
    (b.fosterRules (.text cs)).1.problems = b.problems := by
  have htext (c : Builder) : (c.bodyText cs).problems = c.problems := by
    rw [Builder.bodyText]
    split_ifs <;> exact problems_reopen c _
  exact htext _

/-- Other text of a table, piece by piece. -/
theorem foldl_fosterRules (hD : DraftRelation D) (pieces : List (List Char)) (h : Alike D b b')
    (hne : b.problems ≠ []) :
    Alike D (pieces.foldl (fun b cs => (b.fosterRules (.text cs)).1) b)
      (pieces.foldl (fun b cs => (b.fosterRules (.text cs)).1) b') := by
  induction pieces generalizing b b' with
  | nil => exact h
  | cons cs pieces ih =>
    exact ih (h.fosterRules hD hne (.text cs)).1 (by rwa [problems_fosterRules_text])

theorem placeTableText (hD : DraftRelation D) (h : Alike D b b') :
    Alike D b.placeTableText b'.placeTableText := by
  have hcleared := h.setTableText []
  simp only [Builder.placeTableText, h.tableText_eq]
  split_ifs
  · exact hcleared.foldl_insertText hD _
  · exact (hcleared.report _).foldl_fosterRules hD _ (List.cons_ne_nil _ _)

theorem tableTextRules (hD : DraftRelation D) (h : Alike D b b') (t : Token) :
    StepAlike D (b.tableTextRules t) (b'.tableTextRules t) := by
  have hplaced := h.placeTableText hD
  have hleave : StepAlike D (b.placeTableText.againIn b.placeTableText.returnMode t)
      (b'.placeTableText.againIn b'.placeTableText.returnMode t) := by
    rw [hplaced.returnMode_eq]
    exact hplaced.againIn _ t
  cases t with
  | null => exact h.unexpected.done
  | text cs =>
    simp only [Builder.tableTextRules, h.tableText_eq]
    exact (h.setTableText _).done
  | comment | startTag | endTag | doctype | sourceEnd => exact hleave

/-! ### The parts of a table -/

theorem leaveCaption (h : Alike D b b') (step : Builder → Step)
    (hstep : ∀ {c c' : Builder}, Alike D c c' → StepAlike D (step c) (step c')) :
    StepAlike D
      (if b.inTableScope "caption" then step ((b.closeImplied.close "caption").clearFormatting)
        else b.unexpected.done)
      (if b'.inTableScope "caption" then step ((b'.closeImplied.close "caption").clearFormatting)
        else b'.unexpected.done) :=
  .ite (by rw [h.inTableScope_eq]) (fun _ => hstep (h.closeImplied.close "caption").clearFormatting)
    fun _ => h.unexpected.done

theorem captionRules (hD : DraftRelation D) (h : Alike D b b') (t : Token) :
    StepAlike D (b.captionRules t) (b'.captionRules t) := by
  cases t with
  | startTag tag =>
    exact .ite Iff.rfl (fun _ => h.leaveCaption (·.againIn .inTable _) fun hc => hc.againIn _ _)
      fun _ => h.bodyRules hD _
  | endTag tag =>
    refine .ite Iff.rfl (fun _ => h.leaveCaption (·.doneIn .inTable) fun hc => hc.doneIn _)
      fun _ => ?_
    refine .ite Iff.rfl (fun _ => h.leaveCaption (·.againIn .inTable _) fun hc => hc.againIn _ _)
      fun _ => ?_
    exact .ite Iff.rfl (fun _ => h.unexpected.done) fun _ => h.bodyRules hD _
  | text | null | comment | doctype | sourceEnd => exact h.bodyRules hD _

theorem leaveColumnGroup (h : Alike D b b') (t : Token) :
    StepAlike D (b.leaveColumnGroup t) (b'.leaveColumnGroup t) :=
  .ite (by rw [h.currentIn_eq]) (fun _ => h.pop.againIn _ t) fun _ => h.unexpected.done

theorem columnGroupRules (hD : DraftRelation D) (h : Alike D b b') (t : Token) :
    StepAlike D (b.columnGroupRules t) (b'.columnGroupRules t) := by
  cases t with
  | text cs =>
    exact .ite Iff.rfl (fun _ => (h.insertText hD cs).done) fun _ => h.leaveColumnGroup _
  | comment s => exact (h.insertComment hD s).done
  | startTag tag =>
    refine .ite Iff.rfl (fun _ => h.htmlStart tag) fun _ => ?_
    refine .ite Iff.rfl (fun _ => (h.insertVoid hD tag).acknowledged) fun _ => ?_
    exact .ite Iff.rfl (fun _ => h.headContent hD tag) fun _ => h.leaveColumnGroup _
  | endTag tag =>
    refine .ite Iff.rfl (fun _ => ?_) fun _ => ?_
    · exact .ite (by rw [h.currentIn_eq]) (fun _ => h.pop.doneIn _) fun _ => h.unexpected.done
    refine .ite Iff.rfl (fun _ => h.unexpected.done) fun _ => ?_
    exact .ite Iff.rfl (fun _ => h.templateEnd) fun _ => h.leaveColumnGroup _
  | sourceEnd => exact h.bodyRules hD _
  | null | doctype => exact h.leaveColumnGroup _

theorem leaveTableBody (h : Alike D b b') (t : Token) :
    StepAlike D (b.leaveTableBody t) (b'.leaveTableBody t) :=
  .ite (by rw [h.findsInScope_eq (·.boundsTableScope) (·.isHtmlIn ["table", "tbody", "tfoot"])])
    (fun _ => (h.clearTo _).pop.againIn _ t) fun _ => h.unexpected.done

theorem tableBodyRules (hD : DraftRelation D) (h : Alike D b b') (t : Token) :
    StepAlike D (b.tableBodyRules t) (b'.tableBodyRules t) := by
  cases t with
  | startTag tag =>
    refine .ite Iff.rfl (fun _ => ((h.clearTo _).insertTag hD tag).doneIn _) fun _ => ?_
    refine .ite Iff.rfl (fun _ => ((h.unexpected.clearTo _).insertMissing hD "tr").againIn _ _)
      fun _ => ?_
    exact .ite Iff.rfl (fun _ => h.leaveTableBody _) fun _ => h.tableRules hD _
  | endTag tag =>
    refine .ite Iff.rfl (fun _ => ?_) fun _ => ?_
    · exact .ite (by rw [h.inTableScope_eq]) (fun _ => (h.clearTo _).pop.doneIn _)
        fun _ => h.unexpected.done
    refine .ite Iff.rfl (fun _ => h.leaveTableBody _) fun _ => ?_
    exact .ite Iff.rfl (fun _ => h.unexpected.done) fun _ => h.tableRules hD _
  | text | null | comment | doctype | sourceEnd => exact h.tableRules hD _

theorem closeRow (h : Alike D b b') : Alike D b.closeRow b'.closeRow := (h.clearTo _).pop

theorem leaveRow (h : Alike D b b') (t : Token) : StepAlike D (b.leaveRow t) (b'.leaveRow t) :=
  .ite (by rw [h.inTableScope_eq]) (fun _ => h.closeRow.againIn _ t) fun _ => h.unexpected.done

theorem rowRules (hD : DraftRelation D) (h : Alike D b b') (t : Token) :
    StepAlike D (b.rowRules t) (b'.rowRules t) := by
  cases t with
  | startTag tag =>
    refine .ite Iff.rfl (fun _ => ((h.clearTo _).insertTag hD tag).markFormatting.doneIn _)
      fun _ => ?_
    exact .ite Iff.rfl (fun _ => h.leaveRow _) fun _ => h.tableRules hD _
  | endTag tag =>
    refine .ite Iff.rfl (fun _ => ?_) fun _ => ?_
    · exact .ite (by rw [h.inTableScope_eq]) (fun _ => h.closeRow.doneIn _)
        fun _ => h.unexpected.done
    refine .ite Iff.rfl (fun _ => h.leaveRow _) fun _ => ?_
    refine .ite Iff.rfl (fun _ => ?_) fun _ => ?_
    · refine .ite (by rw [h.inTableScope_eq]) (fun _ => h.unexpected.done) fun _ => ?_
      exact .ite (by rw [h.inTableScope_eq]) (fun _ => h.closeRow.againIn _ _) fun _ => h.done
    exact .ite Iff.rfl (fun _ => h.unexpected.done) fun _ => h.tableRules hD _
  | text | null | comment | doctype | sourceEnd => exact h.tableRules hD _

theorem closeCell (h : Alike D b b') : Alike D b.closeCell b'.closeCell := by
  have hclosed := h.closeImplied
  exact (Alike.ite (by rw [hclosed.current_name_eq]) (fun _ => hclosed.popThrough _)
    fun _ => (hclosed.popThrough _).report _).clearFormatting

theorem cellRules (hD : DraftRelation D) (h : Alike D b b') (t : Token) :
    StepAlike D (b.cellRules t) (b'.cellRules t) := by
  cases t with
  | startTag tag =>
    refine .ite Iff.rfl (fun _ => ?_) fun _ => h.bodyRules hD _
    exact .ite (by rw [h.findsInScope_eq (·.boundsTableScope) (·.isCell)])
      (fun _ => h.closeCell.againIn _ _) fun _ => h.unexpected.done
  | endTag tag =>
    refine .ite Iff.rfl (fun _ => ?_) fun _ => ?_
    · exact .ite (by rw [h.inTableScope_eq])
        (fun _ => (h.closeImplied.close tag.name).clearFormatting.doneIn _)
        fun _ => h.unexpected.done
    refine .ite Iff.rfl (fun _ => h.unexpected.done) fun _ => ?_
    refine .ite Iff.rfl (fun _ => ?_) fun _ => h.bodyRules hD _
    exact .ite (by rw [h.inTableScope_eq]) (fun _ => h.closeCell.againIn _ _)
      fun _ => h.unexpected.done
  | text | null | comment | doctype | sourceEnd => exact h.bodyRules hD _

end Alike

end Builder

end HtmlText
