import HtmlText.Markup.Construct.Body
import HtmlText.Proofs.Alike.Formatting

/-!
# The rules for head and body on alike states

## Main definitions

* `Builder.StepAlike`: steps that lead to alike states with the same outcome.

## Main results

* `Alike.headRules`, `Alike.bodyRules`, `Alike.fosterRules`: tokens in head and body.
-/

namespace HtmlText

namespace Builder

variable {D : Comparison} {b b' : Builder} {s s' : Step}

/-- Steps that lead to alike states with the same outcome. -/
def StepAlike (D : Comparison) (s s' : Step) : Prop := Alike D s.1 s'.1 ∧ s'.2 = s.2

theorem StepAlike.ite {p p' : Prop} [Decidable p] [Decidable p'] {u u' : Step} (hp : p' ↔ p)
    (hs : p → StepAlike D s s') (hu : ¬p → StepAlike D u u') :
    StepAlike D (if p then s else u) (if p' then s' else u') := by
  by_cases h : p
  · rw [if_pos h, if_pos (hp.mpr h)]
    exact hs h
  · rw [if_neg h, if_neg (mt hp.mp h)]
    exact hu h

theorem Alike.ite {p p' : Prop} [Decidable p] [Decidable p'] {c c' : Builder} (hp : p' ↔ p)
    (hb : p → Alike D b b') (hc : ¬p → Alike D c c') :
    Alike D (if p then b else c) (if p' then b' else c') := by
  by_cases h : p
  · rw [if_pos h, if_pos (hp.mpr h)]
    exact hb h
  · rw [if_neg h, if_neg (mt hp.mp h)]
    exact hc h

/-- The end of the form whose element is given. -/
def endForm (b : Builder) (id : Nat) : Builder :=
  if findsInScope (·.boundsScope) (·.id = id) b.stack then
    if b.closeImplied.current.id = id then b.closeImplied.removeOpen id
    else (b.closeImplied.removeOpen id).report .formNotCurrent
  else b.report .formNotInScope

namespace Alike

theorem done (h : Alike D b b') : StepAlike D b.done b'.done := ⟨h, rfl⟩

theorem acknowledged (h : Alike D b b') : StepAlike D b.acknowledged b'.acknowledged := ⟨h, rfl⟩

theorem again (h : Alike D b b') (t : Token) : StepAlike D (b.again t) (b'.again t) := ⟨h, rfl⟩

theorem againIn (h : Alike D b b') (mode : ConstructMode) (t : Token) :
    StepAlike D (b.againIn mode t) (b'.againIn mode t) :=
  ⟨h.setMode mode, rfl⟩

theorem doneIn (h : Alike D b b') (mode : ConstructMode) :
    StepAlike D (b.doneIn mode) (b'.doneIn mode) :=
  ⟨h.setMode mode, rfl⟩

/-! ### The head -/

theorem root?_rename (b : Builder) (f : Equiv.Perm Nat) (d : Draft) :
    (b.rename f d).root? = b.root?.map (·.rename f) :=
  List.getLast?_map

theorem body?_rename (b : Builder) (f : Equiv.Perm Nat) (d : Draft) :
    (b.rename f d).body? = b.body?.map (·.rename f) := by
  have hstack : (b.rename f d).stack.reverse = b.stack.reverse.map (·.rename f) :=
    List.map_reverse.symm
  rw [body?, body?, hstack]
  cases b.stack.reverse with
  | nil => rfl
  | cons root es =>
    cases es with
    | nil => rfl
    | cons body es =>
      simp only [List.map_cons, OpenElement.rename]
      split_ifs <;> rfl

/-- Attributes are completed only in a source with problems. -/
theorem completeAttributes (h : Alike D b b') (hne : b.problems ≠ [])
    (g : Builder → Option OpenElement)
    (hg : ∀ (b : Builder) (f : Equiv.Perm Nat) (d : Draft),
      g (b.rename f d) = (g b).map (·.rename f)) (t : Tag) :
    Alike D (b.completeAttributes (g b) t) (b'.completeAttributes (g b') t) := by
  obtain ⟨f, V, d', rfl, h⟩ := h
  rw [hg]
  cases g b with
  | none => exact ⟨f, V, d', rfl, h⟩
  | some e =>
    have hset := h.setDraft_of_ne hne (b.draft.addMissingAttributes e.id t.attributes)
      (d'.addMissingAttributes (f e.id) t.attributes) (by simp) (by simp)
    exact ⟨f, V, _, hset.1, hset.2⟩

theorem beginRawText (hD : DraftRelation D) (h : Alike D b b') (t : Tag) (textMode : TextMode) :
    StepAlike D (b.beginRawText t textMode) (b'.beginRawText t textMode) := by
  refine ⟨?_, rfl⟩
  simp only [Builder.beginRawText, h.mode_eq]
  exact (((h.insertTag hD t).setReturnMode b.mode).setMode .rawText).setTextMode textMode

theorem htmlStart (h : Alike D b b') (t : Tag) :
    StepAlike D (b.htmlStart t) (b'.htmlStart t) := by
  have hunexpected := h.unexpected
  simp only [Builder.htmlStart, hunexpected.hasOpen_eq]
  split_ifs
  · exact hunexpected.done
  · exact (hunexpected.completeAttributes (List.cons_ne_nil _ _) root? root?_rename t).done

theorem templateEnd (h : Alike D b b') : StepAlike D b.templateEnd b'.templateEnd := by
  have hclosed := ((h.popWhile (·.hasImpliedEndInTemplate)).close "template").clearFormatting
  have hmodes := hclosed.setTemplateModes
    ((b.popWhile (·.hasImpliedEndInTemplate)).close "template").clearFormatting.templateModes.tail
  simp only [Builder.templateEnd, h.hasOpen_eq, hclosed.templateModes_eq]
  split_ifs
  · rw [hmodes.fittingMode_eq]
    exact hmodes.doneIn _
  · exact h.unexpected.done

theorem sourceEndInTemplate (h : Alike D b b') :
    StepAlike D b.sourceEndInTemplate b'.sourceEndInTemplate := by
  have hclosed := (h.unexpected.popThrough (· = .html "template")).clearFormatting
  have hmodes := hclosed.setTemplateModes
    (b.unexpected.popThrough (· = .html "template")).clearFormatting.templateModes.tail
  simp only [Builder.sourceEndInTemplate, h.hasOpen_eq, hclosed.templateModes_eq]
  split_ifs
  · rw [hmodes.fittingMode_eq]
    exact hmodes.againIn _ _
  · exact h.done

theorem headContent (hD : DraftRelation D) (h : Alike D b b') (t : Tag) :
    StepAlike D (b.headContent t) (b'.headContent t) := by
  have htemplate := ((h.insertTag hD t).markFormatting).forbidFrameset
  simp only [Builder.headContent, htemplate.templateModes_eq]
  split_ifs
  · exact h.beginRawText hD t _
  · exact h.beginRawText hD t _
  · exact h.beginRawText hD t _
  · exact (htemplate.setTemplateModes _).doneIn _
  · exact (h.insertVoid hD t).acknowledged

theorem leaveHead (h : Alike D b b') (t : Token) : StepAlike D (b.leaveHead t) (b'.leaveHead t) :=
  h.pop.againIn _ t

theorem headRules (hD : DraftRelation D) (h : Alike D b b') (t : Token) :
    StepAlike D (b.headRules t) (b'.headRules t) := by
  cases t with
  | text cs => exact .ite Iff.rfl (fun _ => (h.insertText hD cs).done) fun _ => h.leaveHead _
  | comment s => exact (h.insertComment hD s).done
  | startTag tag =>
    refine .ite Iff.rfl (fun _ => h.htmlStart tag) fun _ => ?_
    refine .ite Iff.rfl (fun _ => h.headContent hD tag) fun _ => ?_
    exact .ite Iff.rfl (fun _ => h.unexpected.done) fun _ => h.leaveHead _
  | endTag tag =>
    refine .ite Iff.rfl (fun _ => h.pop.doneIn _) fun _ => ?_
    refine .ite Iff.rfl (fun _ => h.templateEnd) fun _ => ?_
    exact .ite Iff.rfl (fun _ => h.leaveHead _) fun _ => h.unexpected.done
  | null | doctype | sourceEnd => exact h.leaveHead _

/-! ### Start tags in the body -/

theorem bodyText (hD : DraftRelation D) (h : Alike D b b') (cs : List Char) :
    Alike D (b.bodyText cs) (b'.bodyText cs) := by
  have hreconstruct := h.reconstruct hD
  simp only [Builder.bodyText]
  split_ifs
  · exact hreconstruct.insertText hD cs
  · exact hreconstruct.forbidFrameset.insertText hD cs

theorem insertForeign (hD : DraftRelation D) (h : Alike D b b') (vocabulary : Vocabulary)
    (t : Tag) : StepAlike D (b.insertForeign vocabulary t) (b'.insertForeign vocabulary t) :=
  .ite Iff.rfl (fun _ => (h.insertClosed hD _ _).acknowledged) fun _ => (h.insertOpen hD _ _).done

/-- A frameset takes the place of a body only in a source with problems. -/
theorem framesetInBody (hD : DraftRelation D) (h : Alike D b b') (t : Tag) :
    Alike D (b.framesetInBody t) (b'.framesetInBody t) := by
  have hunexpected := h.unexpected
  have hallowed := hunexpected.framesetAllowed_eq
  simp only [Builder.framesetInBody, hallowed]
  obtain ⟨f, V, d', heq, hby⟩ := hunexpected
  rw [heq, body?_rename, root?_rename]
  cases b.unexpected.body? with
  | none => exact ⟨f, V, d', rfl, hby⟩
  | some body =>
    simp only [Option.map_some]
    split_ifs
    · -- The tag has been reported, so the drafts need not be related any more.
      have hset := hby.setDraft_of_ne (List.cons_ne_nil _ _)
        (b.unexpected.draft.detach body.id) (d'.detach (f body.id)) (by simp) (by simp)
      have hroot : ∀ e ∈ b.unexpected.root?.toList, V e.id := fun e he =>
        hby.names _ (.stack (List.mem_of_getLast? (Option.mem_toList.mp he)))
      have hstart : Alike D
          { b.unexpected with
            draft := b.unexpected.draft.detach body.id, stack := b.unexpected.root?.toList }
          { b.unexpected.rename f d' with
            draft := d'.detach (f body.id)
            stack := (b.unexpected.root?.map (·.rename f)).toList } := by
        refine ⟨f, V, d'.detach (f body.id), ?_, hset.2.setStack hroot⟩
        cases b.unexpected.root? <;> rfl
      exact (hstart.insertTag hD t).setMode .inFrameset
    · exact ⟨f, V, d', rfl, hby⟩

theorem bodyStartAgain (h : Alike D b b') (t : Tag) :
    Alike D (b.bodyStartAgain t) (b'.bodyStartAgain t) := by
  have hunexpected := h.unexpected
  have hbody : b'.unexpected.body?.isSome = b.unexpected.body?.isSome := by
    obtain ⟨f, V, d', heq, -⟩ := hunexpected
    rw [heq, body?_rename, Option.isSome_map]
  simp only [Builder.bodyStartAgain, hunexpected.hasOpen_eq, hbody]
  split_ifs
  · exact hunexpected.forbidFrameset.completeAttributes (List.cons_ne_nil _ _) body? body?_rename t
  · exact hunexpected

theorem insertForm (hD : DraftRelation D) (h : Alike D b b') (t : Tag) :
    Alike D (b.insertForm t) (b'.insertForm t) := by
  simp only [Builder.insertForm, h.hasOpen_eq, h.form_isSome_eq]
  split_ifs
  · exact h.report _
  · exact h.endParagraph.insertOpen hD _ _
  · exact h.endParagraph.insertOpen_then hD _ _ (fun c id => { c with form := some id })
      (fun _ _ _ _ => rfl) fun hc hid => hc.setForm hid

theorem itemToEnd_eq (h : Alike D b b') (tag : String) :
    itemToEnd tag b'.stack = itemToEnd tag b.stack := by
  obtain ⟨f, V, d', rfl, -⟩ := h
  change itemToEnd tag (b.stack.map (·.rename f)) = _
  induction b.stack with
  | nil => rfl
  | cons e es ih =>
    rw [List.map_cons, itemToEnd, itemToEnd, ih]
    rfl

theorem insertItem (hD : DraftRelation D) (h : Alike D b b') (t : Tag) :
    Alike D (b.insertItem t) (b'.insertItem t) := by
  have hforbid := h.forbidFrameset
  simp only [Builder.insertItem, hforbid.itemToEnd_eq]
  cases itemToEnd t.name b.forbidFrameset.stack with
  | none => exact hforbid.endParagraph.insertTag hD t
  | some tag => exact ((hforbid.closeImpliedExcept tag).close tag).endParagraph.insertTag hD t

theorem insertButton (hD : DraftRelation D) (h : Alike D b b') (t : Tag) :
    Alike D (b.insertButton t) (b'.insertButton t) := by
  simp only [Builder.insertButton, h.inScope_eq]
  split_ifs
  · exact ((((h.report _).closeImplied.popThrough _).reconstruct hD).insertTag hD t).forbidFrameset
  · exact ((h.reconstruct hD).insertTag hD t).forbidFrameset

theorem insertNobr (hD : DraftRelation D) (h : Alike D b b') (t : Tag) :
    Alike D (b.insertNobr t) (b'.insertNobr t) := by
  have hreconstruct := h.reconstruct hD
  simp only [Builder.insertNobr, hreconstruct.inScope_eq]
  split_ifs
  · exact (((hreconstruct.report _).closeFormatting hD "nobr").reconstruct hD).insertFormatting hD t
  · exact hreconstruct.insertFormatting hD t

theorem insertBodyVoid (hD : DraftRelation D) (h : Alike D b b') (t : Tag) :
    StepAlike D (b.insertBodyVoid t) (b'.insertBodyVoid t) := by
  have hvoid := (h.reconstruct hD).insertVoid hD t
  simp only [Builder.insertBodyVoid]
  split_ifs
  · exact hvoid.acknowledged
  · exact hvoid.forbidFrameset.acknowledged

theorem insertSelect (hD : DraftRelation D) (h : Alike D b b') (t : Tag) :
    Alike D (b.insertSelect t) (b'.insertSelect t) := by
  have hselect := ((h.reconstruct hD).insertTag hD t).forbidFrameset
  simp only [Builder.insertSelect, hselect.mode_eq]
  exact hselect.setMode _

theorem insertRubyBase (hD : DraftRelation D) (h : Alike D b b') (t : Tag) :
    Alike D (b.insertRubyBase t) (b'.insertRubyBase t) := by
  have hclosed : Alike D (if b.inScope (·.boundsScope) "ruby" then b.closeImplied else b)
      (if b'.inScope (·.boundsScope) "ruby" then b'.closeImplied else b') :=
    .ite (by rw [h.inScope_eq]) (fun _ => h.closeImplied) fun _ => h
  exact (Alike.ite (by rw [hclosed.currentIn_eq]) (fun _ => hclosed)
    fun _ => hclosed.unexpected).insertTag hD t

theorem insertRubyText (hD : DraftRelation D) (h : Alike D b b') (t : Tag) :
    Alike D (b.insertRubyText t) (b'.insertRubyText t) := by
  have hclosed : Alike D
      (if b.inScope (·.boundsScope) "ruby" then b.closeImpliedExcept "rtc" else b)
      (if b'.inScope (·.boundsScope) "ruby" then b'.closeImpliedExcept "rtc" else b') :=
    .ite (by rw [h.inScope_eq]) (fun _ => h.closeImpliedExcept "rtc") fun _ => h
  exact (Alike.ite (by rw [hclosed.currentIn_eq]) (fun _ => hclosed)
    fun _ => hclosed.unexpected).insertTag hD t

theorem bodyStart (hD : DraftRelation D) (h : Alike D b b') (t : Tag) :
    StepAlike D (b.bodyStart t) (b'.bodyStart t) := by
  have hend := h.endParagraph
  have hreconstruct := h.reconstruct hD
  rw [Builder.bodyStart, Builder.bodyStart]
  cases StartRole.ofTag t.name with
  | html => exact h.htmlStart t
  | headContent => exact h.headContent hD t
  | body => exact (h.bodyStartAgain t).done
  | frameset => exact (h.framesetInBody hD t).done
  | block => exact (hend.insertTag hD t).done
  | heading =>
    exact ((Alike.ite (by rw [hend.current_name_eq]) (fun _ => (hend.report _).pop)
      fun _ => hend).insertTag hD t).done
  | preformatted => exact ((hend.insertTag hD t).forbidFrameset.setDropLineFeed true).done
  | form => exact (h.insertForm hD t).done
  | item => exact (h.insertItem hD t).done
  | plaintext => exact ((hend.insertTag hD t).setTextMode .plain).acknowledged
  | button => exact (h.insertButton hD t).done
  | anchor => exact (((h.endAnchor hD).reconstruct hD).insertFormatting hD t).done
  | formatting => exact (hreconstruct.insertFormatting hD t).done
  | nobr => exact (h.insertNobr hD t).done
  | object => exact (hreconstruct.insertTag hD t).markFormatting.forbidFrameset.done
  | table =>
    exact ((Alike.ite (by rw [h.oldLayout_eq]) (fun _ => h) fun _ => hend).insertTag hD
      t).forbidFrameset.doneIn _
  | void => exact h.insertBodyVoid hD t
  | part => exact (h.insertVoid hD t).acknowledged
  | rule => exact (hend.insertVoid hD t).forbidFrameset.acknowledged
  | image => exact h.unexpected.insertBodyVoid hD _
  | textarea => exact (h.forbidFrameset.setDropLineFeed true).beginRawText hD t _
  | «example» => exact ((hend.reconstruct hD).forbidFrameset).beginRawText hD t _
  | iframe => exact h.forbidFrameset.beginRawText hD t _
  | rawText => exact h.beginRawText hD t _
  | select => exact (h.insertSelect hD t).done
  | option =>
    exact (((Alike.ite (by rw [h.currentIn_eq]) (fun _ => h.pop) fun _ => h).reconstruct
      hD).insertTag hD t).done
  | rubyBase => exact (h.insertRubyBase hD t).done
  | rubyText => exact (h.insertRubyText hD t).done
  | math => exact h.insertForeign hD _ t
  | svg => exact h.insertForeign hD _ t
  | stray => exact h.unexpected.done
  | other => exact (hreconstruct.insertTag hD t).done

/-! ### End tags in the body -/

theorem closeInScope (h : Alike D b b') (tag : String) :
    Alike D (b.closeInScope tag) (b'.closeInScope tag) :=
  .ite (by rw [h.inScope_eq]) (fun _ => h.closeImplied.close tag) fun _ => h.unexpected

theorem clearForm (h : Alike D b b') :
    Alike D { b with form := none } { b' with form := none } := by
  obtain ⟨f, V, d', rfl, h⟩ := h
  exact ⟨f, V, d', rfl, h.mono rfl (List.Subset.refl _) (List.Subset.refl _) rfl
    (fun _ hid => absurd hid (by simp)) rfl fun hnil => hnil⟩

theorem endForm {id id' : Nat} (h : Alike (D.keep id id') b b') :
    Alike D (b.endForm id) (b'.endForm id') := by
  have hclosed := h.closeImplied
  obtain ⟨f, V, d', rfl, hby, -, rfl⟩ := h.exists_of_keep
  obtain ⟨f₁, V₁, d₁, heq₁, h₁, -, hf₁⟩ := hclosed.exists_of_keep
  have hcurrent : (b.rename f d').closeImplied.current.id = f id ↔
      b.closeImplied.current.id = id := by
    rw [heq₁, current_rename h₁.zero.2, OpenElement.rename, ← hf₁, f₁.apply_eq_iff_eq]
  have hremoved : Alike D (b.closeImplied.removeOpen id)
      ((b.rename f d').closeImplied.removeOpen (f id)) := by
    rw [heq₁, ← hf₁, removeOpen_rename]
    exact ⟨f₁, V₁, d₁, rfl, h₁.removeOpen id⟩
  refine .ite (by rw [← findsInScope_id_rename _ f id b.stack]; rfl) (fun _ => ?_) fun _ => ?_
  · exact .ite hcurrent (fun _ => hremoved) fun _ => hremoved.report _
  · exact ⟨f, V, d', rfl, hby.report _⟩

theorem closeForm (h : Alike D b b') : Alike D b.closeForm b'.closeForm := by
  have hclosed := h.closeImplied
  refine .ite (by rw [h.hasOpen_eq]) (fun _ => ?_) fun _ => ?_
  · refine .ite (by rw [h.inScope_eq]) (fun _ => ?_) fun _ => h.report _
    exact (Alike.ite (by rw [hclosed.currentIn_eq]) (fun _ => hclosed)
      fun _ => hclosed.report _).popThrough _
  · obtain ⟨f, V, d', rfl, h⟩ := h
    have hform' : (b.rename f d').form = b.form.map f := rfl
    cases hform : b.form with
    | none =>
      rw [hform, Option.map_none] at hform'
      simp only [hform']
      exact ⟨f, V, d', rfl, h.report _⟩
    | some id =>
      rw [hform, Option.map_some] at hform'
      simp only [hform']
      exact endForm (h.keep (h.names id (.form hform))).clearForm

theorem closeItem (h : Alike D b b') (tag : String) :
    Alike D (b.closeItem tag) (b'.closeItem tag) :=
  .ite (by rw [h.inScope_eq]) (fun _ => (h.closeImpliedExcept tag).close tag) fun _ => h.report _

theorem closeHeading (h : Alike D b b') (tag : String) :
    Alike D (b.closeHeading tag) (b'.closeHeading tag) := by
  have hclosed := h.closeImplied
  refine .ite (by rw [h.findsInScope_eq (·.boundsScope) (·.isHeading)]) (fun _ => ?_)
    fun _ => h.report _
  exact (Alike.ite (by rw [hclosed.currentIn_eq]) (fun _ => hclosed)
    fun _ => hclosed.report _).popThrough _

theorem closeParagraphTag (hD : DraftRelation D) (h : Alike D b b') :
    Alike D b.closeParagraphTag b'.closeParagraphTag :=
  .ite (by rw [h.inScope_eq]) (fun _ => h.closeParagraph) fun _ =>
    ((h.report _).insertMissing hD "p").closeParagraph

theorem closeObject (h : Alike D b b') (tag : String) :
    Alike D (b.closeObject tag) (b'.closeObject tag) :=
  .ite (by rw [h.inScope_eq]) (fun _ => (h.closeImplied.close tag).clearFormatting) fun _ =>
    h.unexpected

theorem bodyEnd (hD : DraftRelation D) (h : Alike D b b') (t : Tag) :
    StepAlike D (b.bodyEnd t) (b'.bodyEnd t) := by
  rw [Builder.bodyEnd, Builder.bodyEnd]
  cases EndRole.ofTag t.name with
  | template => exact h.templateEnd
  | body =>
    exact .ite (by rw [h.inScope_eq]) (fun _ => h.checkEnd.doneIn _) fun _ => (h.report _).done
  | html =>
    exact .ite (by rw [h.inScope_eq]) (fun _ => h.checkEnd.againIn _ _) fun _ => (h.report _).done
  | block => exact (h.closeInScope t.name).done
  | form => exact h.closeForm.done
  | paragraph => exact (h.closeParagraphTag hD).done
  | item => exact (h.closeItem t.name).done
  | heading => exact (h.closeHeading t.name).done
  | formatting => exact (h.closeFormatting hD t.name).done
  | object => exact (h.closeObject t.name).done
  | lineBreak => exact h.unexpected.insertBodyVoid hD _
  | other => exact (h.closeGeneric t.name).done

theorem bodyRules (hD : DraftRelation D) (h : Alike D b b') (t : Token) :
    StepAlike D (b.bodyRules t) (b'.bodyRules t) := by
  cases t with
  | null => exact h.unexpected.done
  | text cs => exact (h.bodyText hD cs).done
  | comment s => exact (h.insertComment hD s).done
  | doctype d => exact h.done
  | startTag tag => exact h.bodyStart hD tag
  | endTag tag => exact h.bodyEnd hD tag
  | sourceEnd =>
    exact .ite (by rw [h.templateModes_eq]) (fun _ => h.checkEnd.done) fun _ =>
      h.sourceEndInTemplate

/-- What is inserted into a table goes in front of it only in a source with problems. -/
theorem fosterRules (hD : DraftRelation D) (h : Alike D b b') (hne : b.problems ≠ []) (t : Token) :
    StepAlike D (b.fosterRules t) (b'.fosterRules t) := by
  have hstart : Alike D { b with fostering := true, misplaced := b.misplaced + 1 }
      { b' with fostering := true, misplaced := b'.misplaced + 1 } := by
    obtain ⟨f, V, d', rfl, h⟩ := h
    refine ⟨f, V, d', rfl, h.zero, h.kept, h.lt, fun i hi => ?_, fun _ => hne, h.draft⟩
    exact h.names i (hi.mono (List.Subset.refl _) (List.Subset.refl _) rfl fun _ hid => hid)
  obtain ⟨⟨f, V, d', heq, hrules⟩, houtcome⟩ := hstart.bodyRules hD t
  refine ⟨⟨f, V, d', ?_, hrules.zero, hrules.kept, hrules.lt, fun i hi => ?_, nofun,
    hrules.draft⟩, houtcome⟩
  · simp only [Builder.fosterRules, heq]
    rfl
  · exact hrules.names i (hi.mono (List.Subset.refl _) (List.Subset.refl _) rfl fun _ hid => hid)

end Alike

end Builder

end HtmlText
