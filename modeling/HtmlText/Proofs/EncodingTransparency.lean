import HtmlText.Proofs.Alike.DeclaredRun
import HtmlText.Proofs.LineEnds
import HtmlText.Proofs.StrictConversion

/-!
# The declaration that is put into a source

A source that declares no encoding gets a declaration behind its preamble before it is parsed. The
declaration makes no difference to a source without problems whose preamble is what it looks like:
there is no problem then either, and the text is the same. There is one exception, a document with
comments in its preamble and the start tag of its root or head behind them: the declaration opens
the head, and the start tag comes too late.

## Main definitions

* `Page.construct`: the state at the end of a source.
* `HeadOpensLate`: the exception.

## Main results

* `Page.construct_declared`: the declaration in a source without problems.
* `Converter.convert_declared`: when strict conversion gives the text of the source itself.
-/

namespace HtmlText

/-! ### Characters of a source -/

namespace Source

theorem joinLineEnds_cons {c : Char} (hc : c ≠ '\r') (cs : List Char) :
    joinLineEnds (c :: cs) = c :: joinLineEnds cs := by
  rw [joinLineEnds]
  exact fun _ heq => absurd heq hc

theorem joinLineEnds_append {u : List Char} (hu : '\r' ∉ u) (cs : List Char) :
    joinLineEnds (u ++ cs) = u ++ joinLineEnds cs := by
  induction u with
  | nil => rfl
  | cons c u ih =>
    rw [List.mem_cons, not_or] at hu
    rw [List.cons_append, joinLineEnds_cons (Ne.symm hu.1), ih hu.2, List.cons_append]

theorem joinLineEnds_of_notMem {cs : List Char} (h : '\r' ∉ cs) : joinLineEnds cs = cs := by
  have happend := joinLineEnds_append h []
  rwa [List.append_nil, joinLineEnds, List.append_nil] at happend

theorem dropMark_of_head? {cs : List Char} (h : cs.head? ≠ some '\uFEFF') : dropMark cs = cs := by
  cases cs with
  | nil => rfl
  | cons c cs => exact if_neg fun hc => h (congrArg some hc)

theorem ofString_eq {s : String} (hcr : '\r' ∉ s.toList) (hmark : s.toList.head? ≠ some '\uFEFF') :
    ofString s = ⟨s.toList, 0⟩ := by
  rw [ofString, dropMark_of_head? hmark, joinLineEnds_of_notMem hcr]

end Source

/-! ### Pages -/

namespace Page

/-- The state at the end of a source without an XML declaration, a byte order mark and carriage
returns. -/
def construct (cs : List Char) : Builder :=
  if anySuffix beginsDocumentMarkup cs then
    ({} : Builder).runAll ⟨missingDoctype cs ++ cs, 0⟩
  else Builder.fragmentStart.runAll ⟨cs, 0⟩

theorem notMem_missingDoctype_append {cs : List Char} (hcr : '\r' ∉ cs) :
    '\r' ∉ missingDoctype cs ++ cs := by
  rw [missingDoctype]
  split_ifs
  · exact hcr
  · exact fun hmem => (List.mem_append.mp hmem).elim (by decide) hcr

theorem head?_missingDoctype_append {cs : List Char} (hmark : cs.head? ≠ some '\uFEFF') :
    (missingDoctype cs ++ cs).head? ≠ some '\uFEFF' := by
  rw [missingDoctype]
  split_ifs
  · exact hmark
  · change some '<' ≠ some '\uFEFF'
    decide

theorem parse_eq {s : String} (hcr : '\r' ∉ s.toList)
    (hmark : s.toList.head? ≠ some '\uFEFF') :
    parse (Mode.ofSource s) s = (construct s.toList).finish := by
  rw [Mode.ofSource, construct]
  split_ifs with hmode
  · have htoList : (if beginsWithDoctype s then s else "<!DOCTYPE html>" ++ s).toList =
        missingDoctype s.toList ++ s.toList := by
      rw [missingDoctype, beginsWithDoctype]
      split_ifs
      · rfl
      · exact String.toList_append
    have hcr' := notMem_missingDoctype_append hcr
    have hmark' := head?_missingDoctype_append hmark
    rw [← htoList] at hcr' hmark' ⊢
    rw [← Source.ofString_eq hcr' hmark', ← Builder.construct_eq]
    rfl
  · rw [← Source.ofString_eq hcr hmark, ← Builder.construct_eq]
    rfl

/-- A page shows what construction comes to. -/
theorem ofSource_eq {s : String} (hxml : dropXmlDeclaration? s.toList = none)
    (hcr : '\r' ∉ s.toList) (hmark : s.toList.head? ≠ some '\uFEFF') :
    (ofSource s).tree = .ofDom (construct s.toList).finish.root ∧
      ((ofSource s).diagnostics = [] ↔ (construct s.toList).problems = []) := by
  have hbody : dropXmlDeclaration s = s := by
    rw [dropXmlDeclaration, hxml]
  have hparsed := parse_eq hcr hmark
  constructor
  · rw [ofSource, hbody, hparsed]
  · rw [ofSource, hbody, hparsed, Builder.finish, List.map_eq_nil_iff, List.reverse_eq_nil_iff]

end Page

/-- The exception: in a document that declares no encoding, the start tag of the root or of the head
comes behind the preamble, with nothing but comments and blanks before it. -/
def HeadOpensLate (s : String) : Prop :=
  declaresEncoding s = false ∧ Mode.ofSource s = .document ∧ OpensHeadLate s.toList

namespace Page

/-- The declaration in a source without problems whose preamble is plain. -/
theorem construct_declared {cs : List Char} (hcr : '\r' ∉ cs) (hplain : PlainPreamble cs)
    (hclean : (construct cs).problems = []) :
    (anySuffix beginsDocumentMarkup cs = true ∧ OpensHeadLate cs →
        (construct (declared cs)).problems ≠ []) ∧
      (¬(anySuffix beginsDocumentMarkup cs = true ∧ OpensHeadLate cs) →
        ∃ r H, Builder.Alike { draft := Mirrors r H } (construct cs)
          (construct (declared cs))) := by
  rw [construct, construct, anySuffix_declared]
  rw [construct] at hclean
  split_ifs at hclean ⊢ with hmode
  · rw [Builder.missingDoctype_declared hcr hplain.blanks hclean]
    obtain ⟨hlate, halike⟩ := Builder.document_declared hcr hplain hclean
    exact ⟨fun h => hlate h.2, fun h => halike fun hopens => h ⟨hmode, hopens⟩⟩
  · exact ⟨fun h => absurd h.1 hmode, fun _ =>
      Builder.fragment_declared hcr hplain (preamble_of_fragment (Bool.eq_false_iff.mpr hmode))⟩

end Page

namespace Converter

/-- Strict conversion of a source that comes with problems after normalization. -/
theorem exists_convert_eq_error (c : Converter) (hstrict : c.options.strict = true) {html : String}
    (hblank : isBlankText html = false)
    (hproblems : (Page.ofSource (normalize html)).diagnostics ≠ []) :
    ∃ e, c.convert html = .error e :=
  ⟨_, c.convert_of_strict hstrict hblank hproblems⟩

/-- Strict conversion gives the text of the source itself, without any problem, unless the head
opens late. Then it refuses the source, because of problems that the source does not have. -/
theorem convert_declared (c : Converter) (hrules : c.rules = .builtin)
    (hstrict : c.options.strict = true) {html : String} (hblank : isBlankText html = false)
    (hclean : (Page.ofSource (unifyLineEnds html)).diagnostics = [])
    (hplain : declaresEncoding (unifyLineEnds html) = false →
      PlainPreamble (unifyLineEnds html).toList) :
    (¬HeadOpensLate (unifyLineEnds html) → (Page.ofSource (normalize html)).diagnostics = [] ∧
        c.convert html = .ok (c.render (Page.ofSource (unifyLineEnds html)).tree)) ∧
      (HeadOpensLate (unifyLineEnds html) → (Page.ofSource (normalize html)).diagnostics ≠ [] ∧
        ∃ e, c.convert html = .error e) := by
  have hcr := notMem_toList_unifyLineEnds html
  cases hdeclares : declaresEncoding (unifyLineEnds html) with
  | true =>
    -- The declaration is there already, so normalization does no more than unify line ends.
    have hsame : normalize html = unifyLineEnds html := if_pos hdeclares
    refine ⟨fun _ => ?_, fun hlate => ?_⟩
    · rw [← hsame] at hclean ⊢
      exact ⟨hclean, c.convert_of_clean hblank hclean⟩
    · rw [hlate.1] at hdeclares
      cases hdeclares
  | false =>
    have hplain := hplain hdeclares
    have htoList : (normalize html).toList = declared (unifyLineEnds html).toList :=
      toList_ensureEncoding hdeclares
    have hxml : dropXmlDeclaration? (unifyLineEnds html).toList = none := by
      rw [declaresEncoding, Bool.or_eq_false_iff] at hdeclares
      exact Option.isNone_iff_eq_none.mp (Option.isSome_eq_false_iff.mp hdeclares.1)
    obtain ⟨htree, hproblems⟩ := Page.ofSource_eq hxml hcr hplain.mark
    obtain ⟨htree', hproblems'⟩ := Page.ofSource_eq (s := normalize html)
      (by rw [htoList]; exact dropXmlDeclaration?_declared _)
      (by rw [htoList]; exact notMem_declared (by decide) hcr)
      (by rw [htoList]; exact head?_declared (by decide) hplain.mark)
    rw [hproblems] at hclean
    rw [htoList] at htree' hproblems'
    have hmode : Mode.ofSource (unifyLineEnds html) = .document ↔
        anySuffix beginsDocumentMarkup (unifyLineEnds html).toList = true := by
      rw [Mode.ofSource]
      split_ifs with h <;> simp [h]
    -- From here on only the two runs of construction are compared.
    obtain ⟨hlate, halike⟩ := Page.construct_declared hcr hplain hclean
    constructor
    · intro hopens
      obtain ⟨r, H, halike⟩ := halike fun h => hopens ⟨hdeclares, hmode.mpr h.1, h.2⟩
      have hclean' : (Page.ofSource (normalize html)).diagnostics = [] := by
        rw [hproblems', halike.problems_eq, hclean]
      refine ⟨hclean', ?_⟩
      rw [c.convert_of_clean hblank hclean', render, render, hrules, htree, htree',
        halike.toText_finish hclean]
    · rintro ⟨-, hdocument, hopens⟩
      have hproblems : (Page.ofSource (normalize html)).diagnostics ≠ [] := by
        rw [ne_eq, hproblems']
        exact hlate ⟨hmode.mp hdocument, hopens⟩
      exact ⟨hproblems, c.exists_convert_eq_error hstrict hblank hproblems⟩

/-- A document whose head is opened in its preamble. -/
def headedSource : String := "<html lang=\"en\">\n<head></head><body>x</body></html>"

theorem plainPreamble_headedSource : PlainPreamble headedSource.toList where
  mark := by decide
  blanks := by decide
  blanksBehindDoctype := fun rest hdrop => by
    have hnone : dropTag? "!doctype" (dropBlanks headedSource.toList) = none := by decide
    rw [hnone] at hdrop
    cases hdrop
  root := fun rest hdrop => by
    have hsome : dropTag? "html" (skipTag "!doctype" (dropBlanks headedSource.toList)) =
        some "\n<head></head><body>x</body></html>".toList := by decide
    rw [hsome, Option.some_inj] at hdrop
    exact ⟨"<html lang=\"en\">".toList, { name := "html", attributes := [("lang", "en")] },
      by rw [← hdrop]; decide, rfl, fun tail => rfl⟩
  blanksBehindRoot := fun rest hdrop => by
    have hsome : dropTag? "html" (skipTag "!doctype" (dropBlanks headedSource.toList)) =
        some "\n<head></head><body>x</body></html>".toList := by decide
    rw [hsome, Option.some_inj] at hdrop
    rw [← hdrop]
    decide
  head := fun rest hdrop => by
    have hsome : dropTag? "head" (skipTag "html" (skipTag "!doctype" (dropBlanks
        headedSource.toList))) = some "</head><body>x</body></html>".toList := by decide
    rw [hsome, Option.some_inj] at hdrop
    exact ⟨"<head>".toList, { name := "head" }, by rw [← hdrop]; decide, rfl, fun tail => rfl⟩

set_option maxRecDepth 10000 in
theorem convert_headedSource :
    (Page.ofSource (unifyLineEnds headedSource)).diagnostics = [] ∧
      (Page.ofSource (normalize headedSource)).diagnostics = [] ∧
        ({} : Converter).convert headedSource =
          .ok (({} : Converter).render (Page.ofSource (unifyLineEnds headedSource)).tree) := by
  have hclean : (Page.ofSource (unifyLineEnds headedSource)).diagnostics = [] := by decide +kernel
  have hsame : unifyLineEnds headedSource = headedSource := by decide
  refine ⟨hclean, (convert_declared {} rfl rfl (by decide) hclean fun _ => ?_).1 fun hlate => ?_⟩
  · rw [hsame]
    exact plainPreamble_headedSource
  · rw [hsame] at hlate
    exact absurd hlate.2.2.1 (by decide)

/-- A document with a comment in front of its head. -/
def commentedSource : String := "<html><!-- c --><head></head><body>x</body></html>"

set_option maxRecDepth 10000 in
/-- The declaration may be a problem for a source that has none. -/
theorem not_forall_clean_normalize :
    ¬∀ html : String, isBlankText html = false →
      (Page.ofSource (unifyLineEnds html)).diagnostics = [] →
        (Page.ofSource (normalize html)).diagnostics = [] := by
  intro h
  have hclean : (Page.ofSource (unifyLineEnds commentedSource)).diagnostics = [] := by
    decide +kernel
  have hproblem : (Page.ofSource (normalize commentedSource)).diagnostics ≠ [] := by
    decide +kernel
  exact hproblem (h commentedSource (by decide) hclean)

end Converter

end HtmlText
