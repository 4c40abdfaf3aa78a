import HtmlText.Markup.Construct.Document
import HtmlText.Proofs.Alike.TableRules

/-!
# The rules for the frame of a document on alike states

## Main results

* `Alike.selectRules`, `Alike.templateRules`, `Alike.foreignRules`: tokens in a selection, in a
  template, and in a formula or drawing.
* `Alike.initialRules`, `Alike.afterHeadRules`, `Alike.afterBodyRules`, `Alike.framesetRules` and so
  on: tokens in the frame of a document.
-/

namespace HtmlText

namespace Builder

variable {D : Comparison} {b b' : Builder}

/-- Whether an option inside a group of options is open. -/
def optionInGroup (b : Builder) : Bool :=
  match b.stack with
  | e :: around :: _ => e.name = .html "option" && around.name = .html "optgroup"
  | _ => false

/-- The search for the element of an end tag, with its outcome in renamed elements. -/
def ForeignEnd.rename (f : Equiv.Perm Nat) : ForeignEnd → ForeignEnd
  | .found around => .found (around.map (·.rename f))
  | .html => .html
  | .missing => .missing

/-- What belongs into the head is put into the one that is given. -/
def headContentIn (b : Builder) (head : Nat) (t : Tag) : Step :=
  ((({ b with stack := ⟨head, .html "head"⟩ :: b.stack } : Builder).headContent t).1.removeOpen
      head,
    (({ b with stack := ⟨head, .html "head"⟩ :: b.stack } : Builder).headContent t).2)

theorem lateHeadContent_eq (b : Builder) (t : Tag) :
    b.lateHeadContent t =
      match b.unexpected.head with
      | none => b.unexpected.headContent t
      | some head => b.unexpected.headContentIn head t :=
  rfl

namespace Alike

/-! ### Selections and templates -/

theorem closeSelect (h : Alike D b b') : Alike D b.closeSelect b'.closeSelect := by
  have hclosed := h.popThrough (· = .html "select")
  simp only [Builder.closeSelect, hclosed.fittingMode_eq]
  exact hclosed.setMode _

theorem inSelectScope_eq (h : Alike D b b') : b'.inSelectScope = b.inSelectScope :=
  h.inScope_eq _ _

/-- The innermost open element is closed if it has one of the given names. -/
theorem popIn (h : Alike D b b') (tags : List String) :
    Alike D (if b.currentIn tags then b.pop else b) (if b'.currentIn tags then b'.pop else b') :=
  .ite (by rw [h.currentIn_eq]) (fun _ => h.pop) fun _ => h

theorem selectStart (hD : DraftRelation D) (h : Alike D b b') (t : Tag) :
    StepAlike D (b.selectStart t) (b'.selectStart t) := by
  have hoption := h.popIn ["option"]
  refine .ite Iff.rfl (fun _ => h.htmlStart t) fun _ => ?_
  refine .ite Iff.rfl (fun _ => (hoption.insertTag hD t).done) fun _ => ?_
  refine .ite Iff.rfl (fun _ => ((hoption.popIn ["optgroup"]).insertTag hD t).done) fun _ => ?_
  refine .ite Iff.rfl (fun _ => ((hoption.popIn ["optgroup"]).insertVoid hD t).acknowledged)
    fun _ => ?_
  refine .ite Iff.rfl (fun _ => ?_) fun _ => ?_
  · exact (Alike.ite (by rw [h.inSelectScope_eq]) (fun _ => h.unexpected.closeSelect)
      fun _ => h.unexpected).done
  refine .ite Iff.rfl (fun _ => ?_) fun _ => ?_
  · exact .ite (by rw [h.inSelectScope_eq]) (fun _ => h.unexpected.closeSelect.again _)
      fun _ => h.unexpected.done
  exact .ite Iff.rfl (fun _ => h.headContent hD t) fun _ => h.unexpected.done

theorem optionInGroup_eq (h : Alike D b b') : b'.optionInGroup = b.optionInGroup := by
  obtain ⟨f, V, d', rfl, -⟩ := h
  rw [optionInGroup, optionInGroup, rename]
  rcases b.stack with _ | ⟨e, _ | ⟨around, es⟩⟩ <;> rfl

theorem selectEnd (h : Alike D b b') (t : Tag) : StepAlike D (b.selectEnd t) (b'.selectEnd t) := by
  have hgroup : Alike D (if b.optionInGroup then b.pop else b)
      (if b'.optionInGroup then b'.pop else b') :=
    .ite (by rw [h.optionInGroup_eq]) (fun _ => h.pop) fun _ => h
  refine .ite Iff.rfl (fun _ => ?_) fun _ => ?_
  · exact (Alike.ite (Bool.eq_iff_iff.mp (hgroup.currentIn_eq _)) (fun _ => hgroup.pop)
      fun _ => hgroup.unexpected).done
  refine .ite Iff.rfl (fun _ => ?_) fun _ => ?_
  · exact (Alike.ite (by rw [h.currentIn_eq]) (fun _ => h.pop) fun _ => h.unexpected).done
  refine .ite Iff.rfl (fun _ => ?_) fun _ => ?_
  · exact (Alike.ite (by rw [h.inSelectScope_eq]) (fun _ => h.closeSelect)
      fun _ => h.unexpected).done
  exact .ite Iff.rfl (fun _ => h.templateEnd) fun _ => h.unexpected.done

theorem selectRules (hD : DraftRelation D) (h : Alike D b b') (t : Token) :
    StepAlike D (b.selectRules t) (b'.selectRules t) := by
  cases t with
  | null => exact h.unexpected.done
  | text cs => exact (h.insertText hD cs).done
  | comment s => exact (h.insertComment hD s).done
  | startTag tag => exact h.selectStart hD tag
  | endTag tag => exact h.selectEnd tag
  | sourceEnd => exact h.bodyRules hD _
  | doctype d => exact h.done

theorem selectInTableRules (hD : DraftRelation D) (h : Alike D b b') (t : Token) :
    StepAlike D (b.selectInTableRules t) (b'.selectInTableRules t) := by
  cases t with
  | startTag tag =>
    exact .ite Iff.rfl (fun _ => h.unexpected.closeSelect.again _) fun _ => h.selectRules hD _
  | endTag tag =>
    refine .ite Iff.rfl (fun _ => ?_) fun _ => h.selectRules hD _
    exact .ite (by rw [h.inTableScope_eq]) (fun _ => h.unexpected.closeSelect.again _)
      fun _ => h.unexpected.done
  | text | null | comment | doctype | sourceEnd => exact h.selectRules hD _

theorem templateRules (hD : DraftRelation D) (h : Alike D b b') (t : Token) :
    StepAlike D (b.templateRules t) (b'.templateRules t) := by
  cases t with
  | text | comment => exact h.bodyRules hD _
  | startTag tag =>
    refine .ite Iff.rfl (fun _ => h.headContent hD tag) fun _ => ?_
    simp only [h.templateModes_eq]
    exact (h.setTemplateModes _).againIn _ _
  | endTag tag => exact .ite Iff.rfl (fun _ => h.templateEnd) fun _ => h.unexpected.done
  | sourceEnd => exact h.sourceEndInTemplate
  | null | doctype => exact h.unexpected.done

/-! ### Formulas and drawings -/

theorem isForeign_eq (h : Alike D b b') (t : Token) : b'.isForeign t = b.isForeign t := by
  cases t <;> simp only [isForeign, h.contextName_eq, h.inForeign_eq]

theorem leaveForeign (h : Alike D b b') : Alike D b.leaveForeign b'.leaveForeign :=
  h.unexpected.popWhile _

theorem findForeign_cons_cons (tag : String) (innermost : Bool) (e around : OpenElement)
    (es : List OpenElement) :
    findForeign tag innermost (e :: around :: es) =
      if !innermost && e.name.vocabulary = .html then .html
      else if e.name.tag = tag then .found (around :: es)
      else findForeign tag false (around :: es) :=
  rfl

/-- The elements around the one that is found are among the open ones. -/
theorem subset_of_findForeign {tag : String} {innermost : Bool} {es outside : List OpenElement}
    (h : findForeign tag innermost es = .found outside) : outside ⊆ es := by
  induction es generalizing innermost with
  | nil => cases h
  | cons e es ih =>
    cases es with
    | nil => cases h
    | cons around es =>
      rw [findForeign_cons_cons] at h
      split_ifs at h
      · cases h
        exact List.subset_cons_self _ _
      · exact List.Subset.trans (ih h) (List.subset_cons_self _ _)

theorem findForeign_rename (f : Equiv.Perm Nat) (tag : String) (innermost : Bool)
    (es : List OpenElement) :
    findForeign tag innermost (es.map (·.rename f)) =
      (findForeign tag innermost es).rename f := by
  induction es generalizing innermost with
  | nil => rfl
  | cons e es ih =>
    cases es with
    | nil => rfl
    | cons around es =>
      rw [findForeign_cons_cons, apply_ite (ForeignEnd.rename f), apply_ite (ForeignEnd.rename f),
        ← ih]
      rfl

/-- The end tag of an element of a formula or drawing. -/
theorem endForeign (h : Alike D b b') (tag : String) (rules : Builder → Token → Step)
    (hrules : ∀ {c c' : Builder} (t : Token), Alike D c c' → StepAlike D (rules c t) (rules c' t))
    (t : Token) :
    StepAlike D
      (match findForeign tag true b.stack with
      | .found around => { b with stack := around }.done
      | .html => rules b t
      | .missing => b.done)
      (match findForeign tag true b'.stack with
      | .found around => { b' with stack := around }.done
      | .html => rules b' t
      | .missing => b'.done) := by
  have halike := h
  obtain ⟨f, V, d', rfl, h⟩ := h
  have hfind : findForeign tag true (b.rename f d').stack =
      (findForeign tag true b.stack).rename f :=
    findForeign_rename f tag true b.stack
  rw [hfind]
  cases hfound : findForeign tag true b.stack with
  | found around =>
    exact ⟨⟨f, V, d', rfl, h.setStack fun e he =>
      h.names _ (.stack (subset_of_findForeign hfound he))⟩, rfl⟩
  | html => exact hrules t halike
  | missing => exact halike.done

theorem foreignRules (hD : DraftRelation D) (h : Alike D b b') (rules : Builder → Token → Step)
    (hrules : ∀ {c c' : Builder} (t : Token), Alike D c c' → StepAlike D (rules c t) (rules c' t))
    (t : Token) : StepAlike D (b.foreignRules rules t) (b'.foreignRules rules t) := by
  cases t with
  | null => exact (h.unexpected.insertText hD _).done
  | text cs =>
    exact ((Alike.ite Iff.rfl (fun _ => h) fun _ => h.forbidFrameset).insertText hD cs).done
  | comment s => exact (h.insertComment hD s).done
  | startTag tag =>
    simp only [Builder.foreignRules, h.contextName_eq]
    split_ifs
    · exact hrules _ h.leaveForeign
    · exact h.insertForeign hD _ tag
  | endTag tag =>
    refine .ite Iff.rfl (fun _ => hrules _ h.leaveForeign) fun _ => ?_
    have hreported : Alike D
        (if b.current.name.tag = tag.name || b.stack.length ≤ 1 then b else b.unexpected)
        (if b'.current.name.tag = tag.name || b'.stack.length ≤ 1 then b' else b'.unexpected) :=
      .ite (by rw [h.current_name_eq, h.length_stack_eq]) (fun _ => h) fun _ => h.unexpected
    have hstack (c : Builder) (p : Prop) [Decidable p] :
        c.stack = (if p then c else c.unexpected).stack := by
      split_ifs <;> rfl
    have hend := hreported.endForeign tag.name rules hrules (.endTag tag)
    rw [← hstack b, ← hstack b'] at hend
    exact hend
  | doctype | sourceEnd => exact h.done

/-! ### Up to the body -/

theorem startDocument (hD : DraftRelation D) (h : Alike D b b') (d : Doctype) :
    Alike D (b.startDocument d) (b'.startDocument d) := by
  refine .ite (by rw [h.mode_eq]) (fun _ => ?_) fun _ => h.report _
  have haccepted : Alike D (if d.isAccepted then b else b.report .badDoctype)
      (if d.isAccepted then b' else b'.report .badDoctype) :=
    .ite Iff.rfl (fun _ => h) fun _ => h.report _
  exact ((haccepted.addDoctype hD d).setOldLayout d.wantsOldLayout).setMode .beforeHtml

theorem initialRules (hD : DraftRelation D) (h : Alike D b b') (t : Token) :
    StepAlike D (b.initialRules t) (b'.initialRules t) := by
  have hmissing : StepAlike D ({ b.unexpected with oldLayout := true }.againIn .beforeHtml t)
      ({ b'.unexpected with oldLayout := true }.againIn .beforeHtml t) :=
    (h.unexpected.setOldLayout true).againIn _ t
  cases t with
  | text cs => exact .ite Iff.rfl (fun _ => h.done) fun _ => hmissing
  | comment s => exact (h.commentInDocument hD s).done
  | null | startTag | endTag | doctype | sourceEnd => exact hmissing

theorem beforeHtmlRules (hD : DraftRelation D) (h : Alike D b b') (t : Token) :
    StepAlike D (b.beforeHtmlRules t) (b'.beforeHtmlRules t) := by
  have hmissing := (h.insertRoot hD []).againIn .beforeHead t
  cases t with
  | text cs => exact .ite Iff.rfl (fun _ => h.done) fun _ => hmissing
  | comment s => exact (h.commentInDocument hD s).done
  | startTag tag =>
    exact .ite Iff.rfl (fun _ => (h.insertRoot hD tag.attributes).doneIn _) fun _ => hmissing
  | endTag tag => exact .ite Iff.rfl (fun _ => hmissing) fun _ => h.unexpected.done
  | null | doctype | sourceEnd => exact hmissing

theorem insertHead (hD : DraftRelation D) (h : Alike D b b') (attributes : List (String × String)) :
    Alike D (b.insertHead attributes) (b'.insertHead attributes) := by
  have hhead := h.insertOpen_then hD (.html "head") attributes
    (fun c id => { c with head := some id }) (fun _ _ _ _ => rfl) fun hc hid => hc.setHead hid
  exact hhead

theorem beforeHeadRules (hD : DraftRelation D) (h : Alike D b b') (t : Token) :
    StepAlike D (b.beforeHeadRules t) (b'.beforeHeadRules t) := by
  have hmissing := (h.insertHead hD []).againIn .inHead t
  cases t with
  | text cs => exact .ite Iff.rfl (fun _ => h.done) fun _ => hmissing
  | comment s => exact (h.insertComment hD s).done
  | startTag tag =>
    refine .ite Iff.rfl (fun _ => h.htmlStart tag) fun _ => ?_
    exact .ite Iff.rfl (fun _ => (h.insertHead hD tag.attributes).doneIn _) fun _ => hmissing
  | endTag tag => exact .ite Iff.rfl (fun _ => hmissing) fun _ => h.unexpected.done
  | null | doctype | sourceEnd => exact hmissing

/-- An element is opened for a while, and taken out of the open ones when a step is done. -/
theorem removeKept {id id' : Nat} (h : Alike (D.keep id id') b b') :
    Alike D (b.removeOpen id) (b'.removeOpen id') := by
  obtain ⟨f, V, d', rfl, hby, -, rfl⟩ := h.exists_of_keep
  rw [removeOpen_rename]
  exact ⟨f, V, d', rfl, hby.removeOpen id⟩

theorem headContentIn (hD : DraftRelation D) {f : Equiv.Perm Nat} {V : Nat → Prop} {d' : Draft}
    (h : AlikeBy D f V b d') {head : Nat} (hhead : V head) (t : Tag) :
    StepAlike D (b.headContentIn head t) ((b.rename f d').headContentIn (f head) t) := by
  have hcontent :=
    ((h.push (e := ⟨head, .html "head"⟩) hhead).keep hhead).headContent (hD.keep _ _) t
  exact ⟨hcontent.1.removeKept, hcontent.2⟩

theorem lateHeadContent (hD : DraftRelation D) (h : Alike D b b') (t : Tag) :
    StepAlike D (b.lateHeadContent t) (b'.lateHeadContent t) := by
  have hunexpected := h.unexpected
  rw [lateHeadContent_eq, lateHeadContent_eq]
  generalize b.unexpected = c at hunexpected ⊢
  generalize b'.unexpected = c' at hunexpected ⊢
  have halike := hunexpected
  obtain ⟨f, V, d', rfl, hby⟩ := hunexpected
  change StepAlike D _ (match c.head.map f with
    | none => (c.rename f d').headContent t
    | some head => (c.rename f d').headContentIn head t)
  cases hhead : c.head with
  | none => exact halike.headContent hD t
  | some head => exact headContentIn hD hby (hby.names _ (.head hhead)) t

theorem afterHeadRules (hD : DraftRelation D) (h : Alike D b b') (t : Token) :
    StepAlike D (b.afterHeadRules t) (b'.afterHeadRules t) := by
  have hmissing := (h.insertMissing hD "body").againIn .inBody t
  cases t with
  | text cs => exact .ite Iff.rfl (fun _ => (h.insertText hD cs).done) fun _ => hmissing
  | comment s => exact (h.insertComment hD s).done
  | startTag tag =>
    refine .ite Iff.rfl (fun _ => h.htmlStart tag) fun _ => ?_
    refine .ite Iff.rfl (fun _ => (h.insertTag hD tag).forbidFrameset.doneIn _) fun _ => ?_
    refine .ite Iff.rfl (fun _ => (h.insertTag hD tag).doneIn _) fun _ => ?_
    refine .ite Iff.rfl (fun _ => h.lateHeadContent hD tag) fun _ => ?_
    exact .ite Iff.rfl (fun _ => h.unexpected.done) fun _ => hmissing
  | endTag tag =>
    refine .ite Iff.rfl (fun _ => h.templateEnd) fun _ => ?_
    exact .ite Iff.rfl (fun _ => hmissing) fun _ => h.unexpected.done
  | null | doctype | sourceEnd => exact hmissing

/-! ### Behind the body -/

theorem rawTextRules (hD : DraftRelation D) (h : Alike D b b') (t : Token) :
    StepAlike D (b.rawTextRules t) (b'.rawTextRules t) := by
  have hleave := (h.setTextMode .markup).pop
  have hin {c c' : Builder} (hc : Alike D c c') :
      Alike D { c with mode := b.returnMode } { c' with mode := b'.returnMode } := by
    rw [h.returnMode_eq]
    exact hc.setMode _
  cases t with
  | text cs => exact (h.insertText hD cs).done
  | sourceEnd => exact ⟨hin hleave.unexpected, rfl⟩
  | endTag tag => exact ⟨hin hleave, rfl⟩
  | null | comment | startTag | doctype => exact h.done

theorem commentInRoot (hD : DraftRelation D) (h : Alike D b b') (s : String) :
    StepAlike D
      (match b.root? with
      | some root => (b.commentIn root.id s).done
      | none => b.done)
      (match b'.root? with
      | some root => (b'.commentIn root.id s).done
      | none => b'.done) := by
  obtain ⟨f, V, d', rfl, h⟩ := h
  rw [root?_rename]
  cases hroot : b.root? with
  | none => exact ⟨⟨f, V, d', rfl, h⟩, rfl⟩
  | some root =>
    obtain ⟨f', V', d₁', heq, h'⟩ :=
      h.exists_commentIn hD (h.names _ (.stack (List.mem_of_getLast? hroot))) s
    exact ⟨⟨f', V', d₁', heq, h'⟩, rfl⟩

theorem afterBodyRules (hD : DraftRelation D) (h : Alike D b b') (t : Token) :
    StepAlike D (b.afterBodyRules t) (b'.afterBodyRules t) := by
  have hmisplaced := h.unexpected.againIn .inBody t
  cases t with
  | text cs => exact .ite Iff.rfl (fun _ => h.bodyRules hD _) fun _ => hmisplaced
  | comment s => exact h.commentInRoot hD s
  | startTag tag => exact .ite Iff.rfl (fun _ => h.htmlStart tag) fun _ => hmisplaced
  | endTag tag =>
    refine .ite Iff.rfl (fun _ => ?_) fun _ => hmisplaced
    exact .ite (by rw [h.fragment_eq]) (fun _ => h.unexpected.done) fun _ => h.doneIn _
  | sourceEnd => exact h.done
  | null | doctype => exact hmisplaced

theorem afterAfterBodyRules (hD : DraftRelation D) (h : Alike D b b') (t : Token) :
    StepAlike D (b.afterAfterBodyRules t) (b'.afterAfterBodyRules t) := by
  have hmisplaced := h.unexpected.againIn .inBody t
  cases t with
  | text cs => exact .ite Iff.rfl (fun _ => h.bodyRules hD _) fun _ => hmisplaced
  | comment s => exact (h.commentInDocument hD s).done
  | startTag tag => exact .ite Iff.rfl (fun _ => h.htmlStart tag) fun _ => hmisplaced
  | sourceEnd => exact h.done
  | null | doctype | endTag => exact hmisplaced

theorem framesetRules (hD : DraftRelation D) (h : Alike D b b') (t : Token) :
    StepAlike D (b.framesetRules t) (b'.framesetRules t) := by
  have hunexpected := h.unexpected.done
  cases t with
  | text cs => exact .ite Iff.rfl (fun _ => (h.insertText hD cs).done) fun _ => hunexpected
  | comment s => exact (h.insertComment hD s).done
  | startTag tag =>
    refine .ite Iff.rfl (fun _ => h.htmlStart tag) fun _ => ?_
    refine .ite Iff.rfl (fun _ => (h.insertTag hD tag).done) fun _ => ?_
    refine .ite Iff.rfl (fun _ => (h.insertVoid hD tag).acknowledged) fun _ => ?_
    exact .ite Iff.rfl (fun _ => h.headContent hD tag) fun _ => hunexpected
  | endTag tag =>
    have hpop := h.pop
    refine .ite (by rw [h.length_stack_eq]) (fun _ => ?_) fun _ => hunexpected
    exact .ite (by rw [hpop.fragment_eq, hpop.currentIn_eq]) (fun _ => hpop.doneIn _)
      fun _ => hpop.done
  | sourceEnd =>
    exact (Alike.ite (by rw [h.length_stack_eq]) (fun _ => h) fun _ => h.unexpected).done
  | null | doctype => exact hunexpected

theorem afterFramesetRules (hD : DraftRelation D) (h : Alike D b b') (t : Token) :
    StepAlike D (b.afterFramesetRules t) (b'.afterFramesetRules t) := by
  have hunexpected := h.unexpected.done
  cases t with
  | text cs => exact .ite Iff.rfl (fun _ => (h.insertText hD cs).done) fun _ => hunexpected
  | comment s => exact (h.insertComment hD s).done
  | startTag tag =>
    refine .ite Iff.rfl (fun _ => h.htmlStart tag) fun _ => ?_
    exact .ite Iff.rfl (fun _ => h.headContent hD tag) fun _ => hunexpected
  | endTag tag => exact .ite Iff.rfl (fun _ => h.doneIn _) fun _ => hunexpected
  | sourceEnd => exact h.done
  | null | doctype => exact hunexpected

theorem afterAfterFramesetRules (hD : DraftRelation D) (h : Alike D b b') (t : Token) :
    StepAlike D (b.afterAfterFramesetRules t) (b'.afterAfterFramesetRules t) := by
  have hunexpected := h.unexpected.done
  cases t with
  | text cs => exact .ite Iff.rfl (fun _ => h.bodyRules hD _) fun _ => hunexpected
  | comment s => exact (h.commentInDocument hD s).done
  | startTag tag =>
    refine .ite Iff.rfl (fun _ => h.htmlStart tag) fun _ => ?_
    exact .ite Iff.rfl (fun _ => h.headContent hD tag) fun _ => hunexpected
  | sourceEnd => exact h.done
  | null | doctype | endTag => exact hunexpected

end Alike

end Builder

end HtmlText
