import HtmlText.Converter

/-!
# Strict and lenient conversion

A strict converter refuses a source with diagnostics and a lenient one renders its repaired tree.
Nothing else depends on strictness: neither how a source is normalized and read nor how its tree is
rendered. So of two converters that differ in their strictness alone, the lenient one always gives a
text, and the strict one gives the same text or refuses the source with its diagnostics, of which
there is at least one.

## Main definitions

* `Options.DrawAlike`: options that rendering cannot tell apart.
* `Converter.withStrict`: a converter that is strict or lenient.

## Main results

* `Tree.toText_congr`: what the text of a tree depends on.
* `Malformed.message_ne`: the text of a refusal names a diagnostic.
* `Converter.convert_eq_error_iff`: when a source is refused.
* `Converter.convert_withStrict`: strict and lenient conversion of a source.
-/

namespace HtmlText

/-! ### What rendering depends on -/

/-- Two options that rendering cannot tell apart. They may differ in their strictness. -/
structure Options.DrawAlike (options options' : Options) : Prop where
  ruleWidth : options'.ruleWidth = options.ruleWidth
  bullet : options'.bullet = options.bullet
  tabWidth : options'.tabWidth = options.tabWidth

theorem Options.DrawAlike.refl (options : Options) : options.DrawAlike options := ⟨rfl, rfl, rfl⟩

section Congruence

variable {rules rules' : Rules} {options options' : Options}

theorem Options.DrawAlike.shape_eq (h : options.DrawAlike options') (rule : Rule)
    (content href : String) :
    rule.shape options' content href = rule.shape options content href := by
  cases rule <;> simp only [Rule.shape, h.ruleWidth, h.bullet]

mutual

/-- A raw rendering depends on the rules of tags and on what the options say of drawing. -/
theorem Content.render_congr (hrules : ∀ tag, rules'.forTag tag = rules.forTag tag)
    (hoptions : options.DrawAlike options') (last : Bool) :
    (content : Content) → content.render rules' options' last = content.render rules options last
  | .text _ => by rw [Content.render, Content.render]
  | .element e children => by
    rw [Content.render, Content.render, hrules,
      renderAll_congr hrules hoptions (isBlockTag e.tag) children, hoptions.shape_eq]

theorem renderAll_congr (hrules : ∀ tag, rules'.forTag tag = rules.forTag tag)
    (hoptions : options.DrawAlike options') (inBlock : Bool) :
    (contents : List Content) →
      renderAll rules' options' inBlock contents = renderAll rules options inBlock contents
  | [] => by rw [renderAll, renderAll]
  | content :: siblings => by
    rw [renderAll, renderAll, content.render_congr hrules hoptions,
      renderAll_congr hrules hoptions inBlock siblings]

end

/-- The text of a tree depends on the rules of tags, however they came into the table, and on what
the options say of drawing. -/
theorem Tree.toText_congr (hrules : ∀ tag, rules'.forTag tag = rules.forTag tag)
    (hoptions : options.DrawAlike options') (t : Tree) :
    t.toText rules' options' = t.toText rules options := by
  have hraw : t.renderRoot rules' options' = t.renderRoot rules options := by
    rw [renderRoot, renderRoot]
    cases t.contents with
    | nil => rfl
    | cons content contents => exact content.render_congr hrules hoptions false
  rw [toText, toText, hraw, hoptions.tabWidth]

end Congruence

/-! ### Refusals -/

/-- The text of a refusal counts the diagnostics, unless there are none. -/
theorem Malformed.message_ne {e : Malformed} (h : e.diagnostics ≠ []) :
    e.message ≠ "malformed HTML: no parser diagnostics" := by
  obtain ⟨diagnostics⟩ := e
  obtain ⟨first, rest, rfl⟩ := List.exists_cons_of_ne_nil h
  intro heq
  -- Only the text that counts diagnostics has a bracket.
  have hbracket : '(' ∈ (message ⟨first :: rest⟩).toList := by
    simp only [message, String.toList_append, List.mem_append]
    exact Or.inl (Or.inr (by decide))
  rw [heq] at hbracket
  exact absurd hbracket (by decide)

namespace Converter

variable (c : Converter) (html : String)

theorem convert_of_blank (h : isBlankText html = true) : c.convert html = .ok "" := by
  rw [convert, if_pos h]

/-- A page without diagnostics is accepted. -/
theorem accept_of_clean {page : Page} (hclean : page.diagnostics = []) :
    c.accept page = .ok page.tree := by
  rw [accept, Page.wellFormed, hclean]
  cases c.options.strict <;> rfl

/-- A source without diagnostics is converted to the text of its tree. -/
theorem convert_of_clean {html : String} (hblank : isBlankText html = false)
    (hclean : (Page.ofSource (normalize html)).diagnostics = []) :
    c.convert html = .ok (c.render (Page.ofSource (normalize html)).tree) := by
  rw [convert, if_neg (by simp [hblank]), c.accept_of_clean hclean]

/-- Lenient conversion takes no account of diagnostics. -/
theorem convert_of_lenient (hlenient : c.options.strict = false) {html : String}
    (hblank : isBlankText html = false) :
    c.convert html = .ok (c.render (Page.ofSource (normalize html)).tree) := by
  have haccept : c.accept (.ofSource (normalize html)) =
      .ok (Page.ofSource (normalize html)).tree := by
    rw [accept, hlenient]
    rfl
  rw [convert, if_neg (by simp [hblank]), haccept]

/-- Strict conversion refuses a source with its diagnostics. -/
theorem convert_of_strict (hstrict : c.options.strict = true) {html : String}
    (hblank : isBlankText html = false)
    (hproblems : (Page.ofSource (normalize html)).diagnostics ≠ []) :
    c.convert html = .error ⟨(Page.ofSource (normalize html)).diagnostics⟩ := by
  have haccept : c.accept (.ofSource (normalize html)) =
      .error ⟨(Page.ofSource (normalize html)).diagnostics⟩ := by
    rw [accept, if_pos hstrict, Page.wellFormed, if_neg (by simp [hproblems])]
  rw [convert, if_neg (by simp [hblank]), haccept]

/-- A source is refused if the converter is strict and the source has content and diagnostics. The
refusal holds these diagnostics in their order. -/
theorem convert_eq_error_iff {e : Malformed} :
    c.convert html = .error e ↔
      c.options.strict = true ∧ isBlankText html = false ∧
        (Page.ofSource (normalize html)).diagnostics ≠ [] ∧
        e = ⟨(Page.ofSource (normalize html)).diagnostics⟩ := by
  constructor
  · intro herror
    cases hblank : isBlankText html with
    | true =>
      rw [c.convert_of_blank html hblank] at herror
      cases herror
    | false =>
      cases hstrict : c.options.strict with
      | false =>
        rw [c.convert_of_lenient hstrict hblank] at herror
        cases herror
      | true =>
        by_cases hproblems : (Page.ofSource (normalize html)).diagnostics = []
        · rw [c.convert_of_clean hblank hproblems] at herror
          cases herror
        · rw [c.convert_of_strict hstrict hblank hproblems] at herror
          exact ⟨rfl, rfl, hproblems, (Except.error.inj herror).symm⟩
  · rintro ⟨hstrict, hblank, hproblems, rfl⟩
    exact c.convert_of_strict hstrict hblank hproblems

/-- The text that a source is converted to, unless it is refused. -/
theorem eq_of_convert_eq_ok {s : String} (h : c.convert html = .ok s) :
    s = if isBlankText html then "" else c.render (Page.ofSource (normalize html)).tree := by
  cases hblank : isBlankText html with
  | true =>
    rw [c.convert_of_blank html hblank] at h
    exact (Except.ok.inj h).symm
  | false =>
    cases hstrict : c.options.strict with
    | false =>
      rw [c.convert_of_lenient hstrict hblank] at h
      exact (Except.ok.inj h).symm
    | true =>
      by_cases hproblems : (Page.ofSource (normalize html)).diagnostics = []
      · rw [c.convert_of_clean hblank hproblems] at h
        exact (Except.ok.inj h).symm
      · rw [c.convert_of_strict hstrict hblank hproblems] at h
        cases h

/-! ### Strictness -/

/-- A converter with the same options and rules that is strict or lenient. -/
def withStrict (strict : Bool) : Converter := { c with options := { c.options with strict } }

/-- Strictness makes no difference to the text of a tree. -/
theorem render_withStrict (strict : Bool) (t : Tree) :
    (c.withStrict strict).render t = c.render t := by
  have hdraw : c.options.DrawAlike (c.withStrict strict).options := ⟨rfl, rfl, rfl⟩
  have hrules : (c.withStrict strict).rules = c.rules := rfl
  rw [render, render, hrules, Tree.toText_congr (fun _ => rfl) hdraw t]

/-- **Strict and lenient conversion.** Lenient conversion gives a text for every source. Strict
conversion fails if the source has content and diagnostics, and then with these diagnostics in their
order, so that the refusal names one. Otherwise it gives the text of lenient conversion. -/
theorem convert_withStrict :
    (c.withStrict false).convert html =
        .ok (if isBlankText html then "" else c.render (Page.ofSource (normalize html)).tree) ∧
      ((∃ e, (c.withStrict true).convert html = .error e) ↔
        isBlankText html = false ∧ (Page.ofSource (normalize html)).diagnostics ≠ []) ∧
      (∀ e, (c.withStrict true).convert html = .error e →
        e.diagnostics = (Page.ofSource (normalize html)).diagnostics ∧ e.diagnostics ≠ [] ∧
          e.message ≠ "malformed HTML: no parser diagnostics") ∧
      ∀ s, (c.withStrict true).convert html = .ok s →
        (c.withStrict false).convert html = .ok s ∧
          s = if isBlankText html then "" else c.render (Page.ofSource (normalize html)).tree := by
  have hlenient : (c.withStrict false).convert html =
      .ok (if isBlankText html then "" else c.render (Page.ofSource (normalize html)).tree) := by
    cases hblank : isBlankText html with
    | true => exact (c.withStrict false).convert_of_blank html hblank
    | false =>
      rw [(c.withStrict false).convert_of_lenient rfl hblank, render_withStrict,
        if_neg Bool.false_ne_true]
  have herror (e : Malformed) := (c.withStrict true).convert_eq_error_iff html (e := e)
  refine ⟨hlenient, ?_, ?_, ?_⟩
  · constructor
    · rintro ⟨e, he⟩
      obtain ⟨-, hblank, hproblems, -⟩ := (herror e).mp he
      exact ⟨hblank, hproblems⟩
    · rintro ⟨hblank, hproblems⟩
      exact ⟨_, (herror _).mpr ⟨rfl, hblank, hproblems, rfl⟩⟩
  · intro e he
    obtain ⟨-, -, hproblems, heq⟩ := (herror e).mp he
    have hdiagnostics : e.diagnostics = (Page.ofSource (normalize html)).diagnostics := by rw [heq]
    rw [← hdiagnostics] at hproblems
    exact ⟨hdiagnostics, hproblems, Malformed.message_ne hproblems⟩
  · intro s hs
    have htext := (c.withStrict true).eq_of_convert_eq_ok html hs
    rw [render_withStrict] at htext
    exact ⟨by rw [hlenient, htext], htext⟩

end Converter

end HtmlText
