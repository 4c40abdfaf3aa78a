import HtmlText.Proofs.LineEnds
import HtmlText.Proofs.PlainText

/-!
# Blank sources

A source of `White_Space` characters alone is converted to the empty text without being read. If it
was read, there would be nothing wrong with it: the declaration of the encoding would stand behind
its characters, which are the text of a fragment. But then only source blanks are blanks. So what it
would be converted to is its collapsed text without the outer spaces, and that is empty if and only
if the source has source blanks only. A no-break space, for one, would show.

## Main definitions

* `Converter.convertRead`: conversion of a source that is read even if it is blank.

## Main results

* `trimSpaces_collapse_eq_empty_iff`: which texts have nothing to show.
* `Page.ofSource_of_isBlankText`: the page of a blank source.
* `Converter.convertRead_of_isBlankText`: a blank source that is read.
-/

namespace HtmlText

/-- A text with collapsed blanks and without its outer spaces is empty if and only if there are only
source blanks in it. -/
theorem trimSpaces_collapse_eq_empty_iff (s : String) :
    trimSpaces (collapse s) = "" ↔ ∀ c ∈ s.toList, isMarkupBlank c = true := by
  have hnil : trimSpaces (collapse s) = "" ↔
      dropEndWhile (· = ' ') ((collapse s).toList.dropWhile (· = ' ')) = [] := by
    rw [trimSpaces, ← String.toList_inj, String.toList_ofList]
    rfl
  rw [hnil, dropEndWhile_dropWhile_eq_nil_iff, toList_collapse]
  constructor
  · intro h c hc
    by_contra hblank
    have hspace := h c (mem_collapseFrom_of_mem hc (by simpa using hblank) false)
    rw [of_decide_eq_true hspace] at hblank
    exact hblank rfl
  · intro h c hc
    rcases mem_collapseFrom hc with rfl | ⟨hmem, hblank⟩
    · rfl
    · rw [h c hmem] at hblank
      cases hblank

/-- There is nothing to escape in a blank source. -/
theorem escapeMarkup_of_isBlankText {s : String} (h : isBlankText s = true) :
    escapeMarkup s = s := by
  rw [escapeMarkup, escapeChars_of_forall, String.ofList_toList]
  exact fun c hc => isEscaped_of_isUnicodeBlank (List.all_eq_true.mp h c hc)

namespace Page

/-- The page of a blank source has no problems, and its raw rendering is the source with collapsed
blanks. -/
theorem ofSource_of_isBlankText {s : String} (h : isBlankText s = true) :
    (ofSource (normalize s)).diagnostics = [] ∧
      ∀ options, (ofSource (normalize s)).tree.renderRoot .builtin options = collapse s := by
  have hblanks : ∀ c ∈ unifyLineEndChars s.toList, isUnicodeBlank c = true := by
    rw [← isBlankText_unifyLineEnds, isBlankText, toList_unifyLineEnds] at h
    exact List.all_eq_true.mp h
  have hnull : '\x00' ∉ s.toList := fun hmem =>
    absurd (List.all_eq_true.mp h _ hmem) (by decide)
  have hpage := ofSource_of_blanks_append (List.append_nil _).symm hblanks (by simp) hnull
  rwa [escapeMarkup_of_isBlankText h] at hpage

end Page

namespace Converter

/-- The text of a source that is read even if it is blank. -/
def convertRead (c : Converter) (html : String) : Except Malformed String :=
  match c.accept (.ofSource (normalize html)) with
  | .ok t => .ok (c.render t)
  | .error e => .error e

/-- Conversion does not read blank sources. -/
theorem convert_eq_ite (c : Converter) (html : String) :
    c.convert html = if isBlankText html then .ok "" else c.convertRead html := rfl

/-- **Blank sources.** Every blank source is converted to the empty text. If it is read all the
same, there are no problems with it, and it is converted to its text with collapsed blanks and
without the outer spaces, whatever the lengths, the bullet and the strictness. Both are the same if
and only if the source has source blanks only. -/
theorem convertRead_of_isBlankText (c : Converter) (hrules : c.rules = .builtin) {html : String}
    (hblank : isBlankText html = true) :
    c.convert html = .ok "" ∧ (Page.ofSource (normalize html)).diagnostics = [] ∧
      c.render (Page.ofSource (normalize html)).tree = trimSpaces (collapse html) ∧
      c.convertRead html = .ok (trimSpaces (collapse html)) ∧
      (c.convertRead html = c.convert html ↔ ∀ ch ∈ html.toList, isMarkupBlank ch = true) := by
  obtain ⟨hclean, hraw⟩ := Page.ofSource_of_isBlankText hblank
  have hshort : c.convert html = .ok "" := by rw [convert_eq_ite, if_pos hblank]
  have hrender : c.render (Page.ofSource (normalize html)).tree = trimSpaces (collapse html) := by
    rw [render, hrules, Tree.toText, hraw, tidy_collapse]
  have hread : c.convertRead html = .ok (trimSpaces (collapse html)) := by
    rw [convertRead, c.accept_of_clean hclean, ← hrender]
  refine ⟨hshort, hclean, hrender, hread, ?_⟩
  rw [hread, hshort, Except.ok.injEq, trimSpaces_collapse_eq_empty_iff]

/-- A no-break space with spaces and a line feed around it, in strict conversion. -/
theorem convertRead_of_isBlankText_noBreak :
    isBlankText " \u00A0\n " = true ∧ ({} : Converter).convert " \u00A0\n " = .ok "" ∧
      (Page.ofSource (normalize " \u00A0\n ")).diagnostics = [] ∧
      ({} : Converter).render (Page.ofSource (normalize " \u00A0\n ")).tree = "\u00A0" ∧
      ({} : Converter).convertRead " \u00A0\n " = .ok "\u00A0" ∧
      ({} : Converter).convertRead " \u00A0\n " ≠ ({} : Converter).convert " \u00A0\n " := by
  have hblank : isBlankText " \u00A0\n " = true := by decide
  have htext : trimSpaces (collapse " \u00A0\n ") = "\u00A0" := by decide
  have hmem : '\u00A0' ∈ " \u00A0\n ".toList := by simp
  obtain ⟨hconvert, hclean, hrender, hread, hsame⟩ := convertRead_of_isBlankText {} rfl hblank
  rw [htext] at hrender hread
  refine ⟨hblank, hconvert, hclean, hrender, hread, fun h => ?_⟩
  exact absurd (hsame.mp h '\u00A0' hmem) (by decide)

/-- A blank source that is read may have something to show. -/
theorem not_forall_render_blank :
    ¬∀ (c : Converter) (html : String), c.rules = .builtin → isBlankText html = true →
      (Page.ofSource (normalize html)).diagnostics = [] ∧
        c.render (Page.ofSource (normalize html)).tree = "" := by
  intro h
  have hshown : ({} : Converter).render (Page.ofSource (normalize "\u00A0")).tree = "\u00A0" := by
    decide +kernel
  have hempty := (h {} "\u00A0" rfl (by decide)).2
  rw [hshown] at hempty
  exact absurd hempty (by decide)

end Converter

end HtmlText
