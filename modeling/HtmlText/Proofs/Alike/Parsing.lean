import HtmlText.Markup.Parse
import HtmlText.Proofs.Alike.FrameRules

/-!
# Construction from alike states

One step of construction leads from alike states to alike states, whatever the mode. By induction
this carries over to all that follows from a token, and to the rest of a source: the source is read
in the same way by both runs, since how it is read depends on what alike states have in common.

## Main results

* `Alike.step`: one step under the rules of the mode.
* `Alike.settle`, `Alike.feed`: a token and an event.
* `Alike.run`: the rest of a source.
-/

namespace HtmlText

namespace Builder

variable {D : Comparison} {b b' : Builder}

/-- The part of a token that is dealt with next, and the text behind it. -/
def nextPart (b : Builder) (t : Token) (later : List Char) : Token × List Char :=
  match t with
  | .text cs =>
    if b.splits t then (.text (splitRun cs).1, (splitRun cs).2 ++ later) else (t, later)
  | _ => (t, later)

/-- Text that is left over when a token is dealt with. -/
def settleRest (rounds : Nat) (b : Builder) (later : List Char) : Builder :=
  if later.isEmpty then b else settleWithin rounds b (.text later) []

theorem settleWithin_succ (rounds : Nat) (b : Builder) (t : Token) (later : List Char) :
    settleWithin (rounds + 1) b t later =
      match b.step (b.nextPart t later).1 with
      | (c, .done) =>
        settleRest rounds (c.checkSelfClosing (b.nextPart t later).1) (b.nextPart t later).2
      | (c, .acknowledged) => settleRest rounds c (b.nextPart t later).2
      | (c, .again t') => settleWithin rounds c t' (b.nextPart t later).2 := by
  cases t with
  | text cs =>
    rw [settleWithin.eq_def]
    rfl
  | _ => rfl

namespace Alike

theorem rules (hD : DraftRelation D) (mode : ConstructMode) (t : Token) (h : Alike D b b') :
    StepAlike D (mode.rules b t) (mode.rules b' t) := by
  cases mode with
  | initial => exact h.initialRules hD t
  | beforeHtml => exact h.beforeHtmlRules hD t
  | beforeHead => exact h.beforeHeadRules hD t
  | inHead => exact h.headRules hD t
  | afterHead => exact h.afterHeadRules hD t
  | inBody => exact h.bodyRules hD t
  | rawText => exact h.rawTextRules hD t
  | inTable => exact h.tableRules hD t
  | inTableText => exact h.tableTextRules hD t
  | inCaption => exact h.captionRules hD t
  | inColumnGroup => exact h.columnGroupRules hD t
  | inTableBody => exact h.tableBodyRules hD t
  | inRow => exact h.rowRules hD t
  | inCell => exact h.cellRules hD t
  | inSelect => exact h.selectRules hD t
  | inSelectInTable => exact h.selectInTableRules hD t
  | inTemplate => exact h.templateRules hD t
  | afterBody => exact h.afterBodyRules hD t
  | inFrameset => exact h.framesetRules hD t
  | afterFrameset => exact h.afterFramesetRules hD t
  | afterAfterBody => exact h.afterAfterBodyRules hD t
  | afterAfterFrameset => exact h.afterAfterFramesetRules hD t

/-- One step of construction. -/
theorem step (hD : DraftRelation D) (h : Alike D b b') (t : Token) :
    StepAlike D (b.step t) (b'.step t) := by
  refine .ite (by rw [h.isForeign_eq]) (fun _ => ?_) fun _ => ?_
  · rw [h.mode_eq]
    exact h.foreignRules hD _ (fun t hc => hc.rules hD _ t) t
  · rw [h.mode_eq]
    exact h.rules hD _ t

theorem checkSelfClosing (h : Alike D b b') (t : Token) :
    Alike D (b.checkSelfClosing t) (b'.checkSelfClosing t) := by
  cases t with
  | startTag tag => exact .ite Iff.rfl (fun _ => h.report _) fun _ => h
  | text | null | endTag | comment | doctype | sourceEnd => exact h

theorem splits_eq (h : Alike D b b') (t : Token) : b'.splits t = b.splits t := by
  rw [splits, splits, h.mode_eq, h.isForeign_eq]

theorem settleWithin (hD : DraftRelation D) (rounds : Nat) (h : Alike D b b') (t : Token)
    (later : List Char) :
    Alike D (Builder.settleWithin rounds b t later) (Builder.settleWithin rounds b' t later) := by
  induction rounds generalizing b b' t later with
  | zero => exact h
  | succ rounds ih =>
    have hrest {c c' : Builder} (hc : Alike D c c') (later : List Char) :
        Alike D (settleRest rounds c later) (settleRest rounds c' later) :=
      .ite Iff.rfl (fun _ => hc) fun _ => ih hc _ _
    have hpart : b'.nextPart t later = b.nextPart t later := by
      cases t <;> simp only [nextPart, h.splits_eq]
    obtain ⟨hstep, houtcome⟩ := h.step hD (b.nextPart t later).1
    rw [settleWithin_succ, settleWithin_succ, hpart]
    generalize b.step (b.nextPart t later).1 = s at hstep houtcome ⊢
    generalize b'.step (b.nextPart t later).1 = s' at hstep houtcome ⊢
    obtain ⟨c, outcome⟩ := s
    obtain ⟨c', outcome'⟩ := s'
    simp only at hstep houtcome
    subst houtcome
    cases outcome' with
    | done => exact hrest (hstep.checkSelfClosing _) _
    | acknowledged => exact hrest hstep _
    | again t' => exact ih hstep t' _

theorem roundsFor_eq (h : Alike D b b') (t : Token) : b'.roundsFor t = b.roundsFor t := by
  simp only [roundsFor, h.length_stack_eq, h.templateModes_eq]

theorem settle (hD : DraftRelation D) (h : Alike D b b') (t : Token) :
    Alike D (b.settle t) (b'.settle t) := by
  rw [Builder.settle, Builder.settle, h.roundsFor_eq]
  exact h.settleWithin hD _ t []

/-- One event of a source. -/
theorem feed (hD : DraftRelation D) (h : Alike D b b') (e : Event) :
    Alike D (b.feed e) (b'.feed e) := by
  have hstart := h.setDropLineFeed false
  cases e with
  | problem p => exact hstart.report p
  | token t =>
    cases t with
    | doctype d => exact hstart.startDocument hD d
    | text cs =>
      simp only [Builder.feed, h.dropLineFeed_eq]
      exact .ite Iff.rfl (fun _ => hstart) fun _ => hstart.settle hD _
    | null | startTag | endTag | comment | sourceEnd => exact hstart.settle hD _

theorem foldl_feed (hD : DraftRelation D) (events : List Event) (h : Alike D b b') :
    Alike D (events.foldl Builder.feed b) (events.foldl Builder.feed b') := by
  induction events generalizing b b' with
  | nil => exact h
  | cons e events ih => exact ih (h.feed hD e)

/-- The rest of a source. -/
theorem run (hD : DraftRelation D) (rounds : Nat) (h : Alike D b b') (s : Source) :
    Alike D (Builder.run rounds b s) (Builder.run rounds b' s) := by
  induction rounds generalizing b b' s with
  | zero => exact h
  | succ rounds ih =>
    rw [Builder.run, Builder.run, h.textMode_eq, h.inForeign_eq]
    split_ifs
    · exact h.feed hD _
    · exact ih (h.foldl_feed hD _) _

end Alike

end Builder

end HtmlText
