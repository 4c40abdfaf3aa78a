import HtmlText.Proofs.Alike.Parsing

/-!
# The rounds that a token takes

More rounds never change what becomes of a token if fewer are enough. In the head of a document that
has no body yet a few rounds are enough for every token that does not belong there: the head ends,
the body begins, and the rules of the body deal with every token at once, but for the end tag of the
root element.

## Main definitions

* `Builder.Settles`: a number of rounds is enough for a token.
* `Token.OpensHead`: a token that does not stay in front of the head.
* `Builder.headed`: a state in the head.

## Main results

* `Settles.settleWithin_eq`: more rounds make no difference.
* `Begun.settles`: two rounds are enough in the body.
* `Builder.settles_headed`: four rounds are enough in the head.
-/

namespace HtmlText

/-- A token is dealt with. -/
def Outcome.IsFinal (outcome : Outcome) : Prop := ∀ t, outcome ≠ .again t

theorem Outcome.isFinal_done : Outcome.done.IsFinal := by simp [IsFinal]

theorem Outcome.isFinal_acknowledged : Outcome.acknowledged.IsFinal := by simp [IsFinal]

namespace Builder

variable {b : Builder} {t : Token} {later : List Char}

/-- A number of rounds is enough for a token and the text behind it. -/
def Settles : Nat → Builder → Token → List Char → Prop
  | 0, _, _, _ => False
  | rounds + 1, b, t, later =>
    match b.step (b.nextPart t later).1 with
    | (c, .done) => (b.nextPart t later).2 = [] ∨
      Settles rounds (c.checkSelfClosing (b.nextPart t later).1)
        (.text (b.nextPart t later).2) []
    | (c, .acknowledged) => (b.nextPart t later).2 = [] ∨
      Settles rounds c (.text (b.nextPart t later).2) []
    | (c, .again t') => Settles rounds c t' (b.nextPart t later).2

/-- More rounds make no difference. -/
theorem Settles.settleWithin_eq {rounds : Nat} (h : Settles rounds b t later) (n : Nat) :
    settleWithin (rounds + n) b t later = settleWithin rounds b t later := by
  induction rounds generalizing b t later with
  | zero => exact h.elim
  | succ rounds ih =>
    have hrest {c : Builder} {later : List Char}
        (hc : later = [] ∨ Settles rounds c (.text later) []) :
        settleRest (rounds + n) c later = settleRest rounds c later := by
      rcases hc with rfl | hc
      · rfl
      · rw [settleRest, settleRest, ih hc]
    rw [Nat.add_right_comm, settleWithin_succ, settleWithin_succ]
    rw [Settles] at h
    generalize b.step (b.nextPart t later).1 = s at h ⊢
    obtain ⟨c, outcome⟩ := s
    cases outcome with
    | done => exact hrest h
    | acknowledged => exact hrest h
    | again t' => exact ih h

/-- Two numbers of rounds are the same if fewer are enough. -/
theorem Settles.settleWithin_eq_settleWithin {rounds m n : Nat} (h : Settles rounds b t later)
    (hm : rounds ≤ m) (hn : rounds ≤ n) :
    settleWithin m b t later = settleWithin n b t later := by
  obtain ⟨k, rfl⟩ := Nat.exists_eq_add_of_le hm
  obtain ⟨l, rfl⟩ := Nat.exists_eq_add_of_le hn
  rw [h.settleWithin_eq, h.settleWithin_eq]

/-- A token that is dealt with, with no text behind it, takes one round. -/
theorem settles_of_isFinal {t₁ : Token} (hpart : b.nextPart t later = (t₁, []))
    (h : (b.step t₁).2.IsFinal) (rounds : Nat) : Settles (rounds + 1) b t later := by
  rw [Settles, hpart]
  generalize b.step t₁ = s at h ⊢
  obtain ⟨c, outcome⟩ := s
  cases outcome with
  | done => exact Or.inl rfl
  | acknowledged => exact Or.inl rfl
  | again t' => exact absurd rfl (h t')

/-- A token that is looked at again takes one round more. -/
theorem settles_of_again {c : Builder} {t₁ t' : Token} {later₁ : List Char} {rounds : Nat}
    (hpart : b.nextPart t later = (t₁, later₁)) (h : b.step t₁ = c.again t')
    (hc : Settles rounds c t' later₁) : Settles (rounds + 1) b t later := by
  rw [Settles, hpart, h]
  exact hc

/-- Only text is dealt with in parts. -/
theorem nextPart_of_ne_text (ht : ∀ cs, t ≠ .text cs) : b.nextPart t later = (t, later) := by
  cases t with
  | text cs => exact absurd rfl (ht cs)
  | _ => rfl

theorem isForeign_eq_false (h : b.contextName.vocabulary = .html) (t : Token) :
    b.isForeign t = false := by
  have hforeign : b.inForeign = false := by simp [inForeign, h]
  cases t <;> simp [isForeign, hforeign]

theorem step_eq (h : b.contextName.vocabulary = .html) (t : Token) :
    b.step t = b.mode.rules b t := by
  rw [step, isForeign_eq_false h, if_neg Bool.false_ne_true]

/-! ### The rules of the head and of the body -/

theorem htmlStart_isFinal (b : Builder) (t : Tag) : (b.htmlStart t).2.IsFinal :=
  Outcome.isFinal_done

theorem headContent_isFinal (b : Builder) (t : Tag) : (b.headContent t).2.IsFinal := by
  rw [headContent]
  split_ifs
  · exact Outcome.isFinal_acknowledged
  · exact Outcome.isFinal_acknowledged
  · exact Outcome.isFinal_acknowledged
  · exact Outcome.isFinal_done
  · exact Outcome.isFinal_acknowledged

theorem templateEnd_isFinal (b : Builder) : b.templateEnd.2.IsFinal := by
  rw [templateEnd]
  split_ifs <;> exact Outcome.isFinal_done

theorem bodyStart_isFinal (b : Builder) (t : Tag) : (b.bodyStart t).2.IsFinal := by
  have hforeign (vocabulary : Vocabulary) : (b.insertForeign vocabulary t).2.IsFinal := by
    rw [insertForeign]
    split_ifs
    · exact Outcome.isFinal_acknowledged
    · exact Outcome.isFinal_done
  rw [bodyStart]
  cases StartRole.ofTag t.name with
  | headContent => exact headContent_isFinal b t
  | math => exact hforeign .math
  | svg => exact hforeign .svg
  | _ => first | exact Outcome.isFinal_done | exact Outcome.isFinal_acknowledged

theorem bodyEnd_isFinal (b : Builder) {t : Tag} (h : t.name ≠ "html") :
    (b.bodyEnd t).2.IsFinal := by
  have hrole : EndRole.ofTag t.name ≠ .html := by
    rw [EndRole.ofTag]
    split_ifs
    all_goals first | exact absurd ‹_› h | simp
    split <;> simp
  rw [bodyEnd]
  cases hofTag : EndRole.ofTag t.name with
  | html => exact absurd hofTag hrole
  | template => exact templateEnd_isFinal b
  | lineBreak => exact Outcome.isFinal_acknowledged
  | body =>
    simp only
    split_ifs <;> exact Outcome.isFinal_done
  | _ => exact Outcome.isFinal_done

/-- A body without templates and formatting, in a document. -/
structure Begun (b : Builder) : Prop where
  mode : b.mode = .inBody
  html : b.contextName.vocabulary = .html
  templateModes : b.templateModes = []
  formatting : b.formatting = []
  fragment : b.fragment = false

namespace Begun

theorem reconstruct_eq (h : b.formatting = []) : b.reconstruct = b := by
  have hsame : { b with formatting := [] } = b := by rw [← h]
  rw [reconstruct, h]
  exact hsame

theorem bodyText (h : b.Begun) (cs : List Char) : (b.bodyText cs).Begun := by
  have hreconstruct := reconstruct_eq h.formatting
  rw [Builder.bodyText, hreconstruct]
  split_ifs <;> exact ⟨h.mode, h.html, h.templateModes, h.formatting, h.fragment⟩

theorem nextPart_text (h : b.Begun) (cs : List Char) :
    b.nextPart (.text cs) later = (.text cs, later) := by
  rw [nextPart, splits, h.mode]
  rfl

theorem step_text (h : b.Begun) (cs : List Char) : b.step (.text cs) = (b.bodyText cs).done := by
  rw [step_eq h.html, h.mode]
  rfl

/-- Two rounds are enough for text and for the text behind it. -/
theorem settles_text (h : b.Begun) (cs later : List Char) : Settles 2 b (.text cs) later := by
  rw [Settles, h.nextPart_text, h.step_text]
  have hfinal : ((b.bodyText cs).step (.text later)).2.IsFinal := by
    rw [(h.bodyText cs).step_text]
    exact Outcome.isFinal_done
  exact Or.inr (settles_of_isFinal ((h.bodyText cs).nextPart_text later) hfinal 0)

/-- Two rounds are enough for a token that is no text. -/
theorem settles (h : b.Begun) (ht : ∀ cs, t ≠ .text cs) : Settles 2 b t [] := by
  have hpart : b.nextPart t [] = (t, []) := nextPart_of_ne_text ht
  have hstep : b.step t = b.bodyRules t := by
    rw [step_eq h.html, h.mode]
    rfl
  have hfinal (hisFinal : (b.bodyRules t).2.IsFinal) : Settles 2 b t [] :=
    settles_of_isFinal hpart (by rwa [hstep]) 1
  cases t with
  | text cs => exact absurd rfl (ht cs)
  | null | comment | doctype => exact hfinal Outcome.isFinal_done
  | startTag tag => exact hfinal (bodyStart_isFinal b tag)
  | sourceEnd =>
    refine hfinal ?_
    rw [bodyRules, h.templateModes]
    exact Outcome.isFinal_done
  | endTag tag =>
    -- The end tag of the root is the only token that a body hands on.
    by_cases hhtml : tag.name = "html"
    · have hrole : EndRole.ofTag tag.name = .html := by
        rw [hhtml]
        decide
      by_cases hscope : b.inScope (·.boundsScope) "body" = true
      · have hagain : b.bodyRules (.endTag tag) =
            { b.checkEnd with mode := .afterBody }.again (.endTag tag) := by
          rw [bodyRules, bodyEnd, hrole]
          simp only [hscope, if_true]
          rfl
        refine settles_of_again hpart (hstep.trans hagain) ?_
        have hcheck : b.checkEnd.contextName = b.contextName ∧
            b.checkEnd.fragment = false := by
          rw [checkEnd]
          split_ifs <;> exact ⟨rfl, h.fragment⟩
        have hcontext : ({ b.checkEnd with mode := .afterBody } : Builder).contextName =
            b.contextName := hcheck.1
        refine settles_of_isFinal rfl ?_ 0
        rw [step_eq (hcontext ▸ h.html)]
        change (afterBodyRules _ (.endTag tag)).2.IsFinal
        simp only [afterBodyRules, hhtml, if_true, hcheck.2]
        exact Outcome.isFinal_done
      · refine hfinal ?_
        rw [bodyRules, bodyEnd, hrole]
        simp only [hscope]
        exact Outcome.isFinal_done
    · exact hfinal (bodyEnd_isFinal b hhtml)

end Begun

/-! ### The head -/

/-- The state of a document that has come up to the head, with the numbers of the root and of the
head. -/
def headed (d : Draft) (problems : List Problem) (oldLayout : Bool) (r h : Nat) : Builder :=
  { draft := d
    problems
    mode := .inHead
    stack := [⟨h, .html "head"⟩, ⟨r, .html "html"⟩]
    head := some h
    oldLayout }

/-- The state behind the head. -/
def behindHead (d : Draft) (problems : List Problem) (oldLayout : Bool) (r h : Nat) : Builder :=
  { headed d problems oldLayout r h with mode := .afterHead, stack := [⟨r, .html "html"⟩] }

/-- The state at the beginning of a body that the source left out. -/
def beginBody (b : Builder) : Builder := { b.insertMissing "body" with mode := .inBody }

end Builder

/-- A token that comes up in front of the head and does not stay there. -/
def Token.OpensHead : Token → Prop
  | .text cs => ∃ c rest, cs = c :: rest ∧ isMarkupBlank c = false
  | .startTag t => t.name ≠ "html" ∧ t.name ≠ "head"
  | .endTag t => Builder.endsEarly t.name = true
  | .null | .sourceEnd => True
  | .comment _ | .doctype _ => False

theorem splitRun_of_not_blank {c : Char} (hc : isMarkupBlank c = false) (cs : List Char) :
    ∃ run, (splitRun (c :: cs)).1 = c :: run ∧ isBlankRun (c :: run) = false := by
  refine ⟨cs.takeWhile fun d => isMarkupBlank d == isMarkupBlank c, ?_, ?_⟩
  · simp only [splitRun]
    rw [List.takeWhile_cons_of_pos (by simp)]
  · rw [isBlankRun, List.all_cons, hc, Bool.false_and]

namespace Builder

variable (d : Draft) (problems : List Problem) (oldLayout : Bool) (r h : Nat)

theorem begun_beginBody : (behindHead d problems oldLayout r h).beginBody.Begun :=
  ⟨rfl, rfl, rfl, rfl, rfl⟩

theorem nextPart_of_splits {b : Builder} (hsplits : b.mode.splitsText = true)
    (hhtml : b.contextName.vocabulary = .html) (cs later : List Char) :
    b.nextPart (.text cs) later = (.text (splitRun cs).1, (splitRun cs).2 ++ later) := by
  rw [nextPart, splits, hsplits, isForeign_eq_false hhtml]
  rfl

/-- Text opens the body. -/
theorem settles_behindHead_text {c : Char} (hc : isMarkupBlank c = false) (cs later : List Char) :
    Settles 3 (behindHead d problems oldLayout r h) (.text (c :: cs)) later := by
  obtain ⟨run, hrun, hblank⟩ := splitRun_of_not_blank hc cs
  have hpart := nextPart_of_splits (b := behindHead d problems oldLayout r h) rfl rfl (c :: cs)
    later
  rw [hrun] at hpart
  refine settles_of_again hpart ?_
    ((begun_beginBody d problems oldLayout r h).settles_text (c :: run) _)
  rw [step_eq rfl]
  change afterHeadRules _ (.text (c :: run)) = _
  rw [afterHeadRules, if_neg (by simp [hblank])]
  rfl

theorem settles_headed_text {c : Char} (hc : isMarkupBlank c = false) (cs later : List Char) :
    Settles 4 (headed d problems oldLayout r h) (.text (c :: cs)) later := by
  obtain ⟨run, hrun, hblank⟩ := splitRun_of_not_blank hc cs
  have hpart := nextPart_of_splits (b := headed d problems oldLayout r h) rfl rfl (c :: cs) later
  rw [hrun] at hpart
  refine settles_of_again hpart ?_ (settles_behindHead_text d problems oldLayout r h hc run _)
  rw [step_eq rfl]
  change headRules _ (.text (c :: run)) = _
  rw [headRules, if_neg (by simp [hblank])]
  rfl

/-- A token behind the head opens the body, unless it is dealt with at once. -/
theorem settles_behindHead {t : Token} (ht : ∀ cs, t ≠ .text cs) :
    Settles 3 (behindHead d problems oldLayout r h) t [] := by
  have hpart : (behindHead d problems oldLayout r h).nextPart t [] = (t, []) :=
    nextPart_of_ne_text ht
  have hstep : (behindHead d problems oldLayout r h).step t =
      (behindHead d problems oldLayout r h).afterHeadRules t := step_eq rfl t
  have hfinal (hisFinal : ((behindHead d problems oldLayout r h).afterHeadRules t).2.IsFinal) :
      Settles 3 (behindHead d problems oldLayout r h) t [] :=
    settles_of_isFinal hpart (by rwa [hstep]) 2
  have hmissing (hagain : (behindHead d problems oldLayout r h).afterHeadRules t =
      (behindHead d problems oldLayout r h).beginBody.again t) :
      Settles 3 (behindHead d problems oldLayout r h) t [] :=
    settles_of_again hpart (hstep.trans hagain)
      ((begun_beginBody d problems oldLayout r h).settles ht)
  cases t with
  | text cs => exact absurd rfl (ht cs)
  | null | doctype | sourceEnd => exact hmissing rfl
  | comment => exact hfinal Outcome.isFinal_done
  | startTag tag =>
    simp only [afterHeadRules] at hfinal hmissing
    split_ifs at hfinal hmissing
    · exact hfinal (htmlStart_isFinal _ tag)
    · exact hfinal Outcome.isFinal_done
    · exact hfinal Outcome.isFinal_done
    · exact hfinal (headContent_isFinal _ tag)
    · exact hfinal Outcome.isFinal_done
    · exact hmissing rfl
  | endTag tag =>
    simp only [afterHeadRules] at hfinal hmissing
    split_ifs at hfinal hmissing
    · exact hfinal (templateEnd_isFinal _)
    · exact hmissing rfl
    · exact hfinal Outcome.isFinal_done

/-- Four rounds are enough for every token that does not stay in front of the head. -/
theorem settles_headed {t : Token} (ht : t.OpensHead) :
    Settles 4 (headed d problems oldLayout r h) t [] := by
  have hbehind (htext : ∀ cs, t ≠ .text cs)
      (hagain : (headed d problems oldLayout r h).headRules t =
        (behindHead d problems oldLayout r h).again t) :
      Settles 4 (headed d problems oldLayout r h) t [] :=
    settles_of_again (nextPart_of_ne_text htext) ((step_eq rfl t).trans hagain)
      (settles_behindHead d problems oldLayout r h htext)
  cases t with
  | text cs =>
    obtain ⟨c, rest, rfl, hc⟩ := ht
    exact settles_headed_text d problems oldLayout r h hc rest []
  | null | sourceEnd => exact hbehind (by simp) rfl
  | comment | doctype => exact ht.elim
  | startTag tag =>
    have hstep : (headed d problems oldLayout r h).step (.startTag tag) =
        (headed d problems oldLayout r h).headRules (.startTag tag) := step_eq rfl _
    -- What belongs into the head stays there. Everything else is looked at again behind it.
    by_cases hcontent : (isHeadContent tag.name || tag.name = "noscript") = true
    · refine settles_of_isFinal rfl ?_ 3
      rw [hstep, headRules, if_neg ht.1, if_pos hcontent]
      exact headContent_isFinal _ tag
    · refine hbehind (by simp) ?_
      rw [headRules, if_neg ht.1, if_neg hcontent, if_neg ht.2]
      rfl
  | endTag tag =>
    have hstep : (headed d problems oldLayout r h).step (.endTag tag) =
        (headed d problems oldLayout r h).headRules (.endTag tag) := step_eq rfl _
    by_cases hhead : tag.name = "head"
    · refine settles_of_isFinal rfl ?_ 3
      rw [hstep, headRules, if_pos hhead]
      exact Outcome.isFinal_done
    · have hends : ["body", "html", "br"].contains tag.name = true := by
        have hearly : endsEarly tag.name = true := ht
        simpa [endsEarly, hhead] using hearly
      have htemplate : tag.name ≠ "template" := by
        rintro heq
        rw [heq] at hends
        exact absurd hends (by decide)
      refine hbehind (by simp) ?_
      rw [headRules, if_neg hhead, if_neg htemplate, if_pos hends]
      rfl

end Builder

end HtmlText
