import HtmlText.Proofs.BlockLayout
import HtmlText.Proofs.EncodingTransparency
import HtmlText.Proofs.FragmentText

/-!
# Plain text goes round

A text in which ampersands and brackets are written as references is converted to the text itself,
laid out anew: runs of source blanks become one space, and the outer spaces are gone. None of the
steps on the way harms it. Line ends are unified, which collapsing does anyway. The source declares
no encoding and is no document, since it has no opening bracket. The declaration that is put in
comes behind the blanks at the beginning, whatever blanks these are, and so no two blanks that
collapse to one are separated by it.

## Main definitions

* `trimSpaces`: a text without its outer spaces.

## Main results

* `toList_unifyLineEnds_escapeMarkup`, `collapse_unifyLineEnds`: line ends.
* `declared_escapeChars`: the declaration in escaped text.
* `Page.ofSource_of_blanks_append`: the page of escaped text.
* `Converter.convert_escapeMarkup`: the text comes back.
-/

namespace HtmlText

/-! ### Line ends -/

theorem notMem_escapeChar {c d : Char} (hd : d ∉ "&amp;lt;gt;".toList) (hc : d ≠ c) :
    d ∉ escapeChar c := by
  rw [escapeChar]
  split_ifs
  all_goals simp_all

/-- What escaped text begins with, if it is no reference. -/
theorem head?_escapeChars {cs : List Char} {d : Char} (hd : d ≠ '&')
    (h : (escapeChars cs).head? = some d) : cs.head? = some d := by
  cases cs with
  | nil => cases h
  | cons c cs =>
    cases hc : isEscaped c with
    | true =>
      obtain ⟨e, es, hchar, -⟩ := exists_isClosedName hc
      rw [escapeChars, List.flatMap_cons, hchar] at h
      exact absurd (Option.some.inj h).symm hd
    | false =>
      rw [escapeChars_cons_of_not_isEscaped hc] at h
      exact h

theorem unifyLineEndChars_escapeChars (cs : List Char) :
    unifyLineEndChars (escapeChars cs) = escapeChars (unifyLineEndChars cs) := by
  fun_induction unifyLineEndChars cs with
  | case1 => rfl
  | case2 cs ih =>
    have hpair : escapeChars ('\r' :: '\n' :: cs) = '\r' :: '\n' :: escapeChars cs := rfl
    rw [hpair, unifyLineEndChars, ih]
    rfl
  | case3 c cs hpair ih =>
    rw [escapeChars, List.flatMap_cons, ← escapeChars]
    by_cases hc : c = '\r'
    · subst hc
      have hhead : (escapeChars cs).head? ≠ some '\n' := by
        intro h
        obtain ⟨cs', hcs'⟩ := List.head?_eq_some_iff.mp (head?_escapeChars (by decide) h)
        exact hpair cs' rfl hcs'
      have hself : escapeChar '\r' ++ escapeChars cs = '\r' :: escapeChars cs := rfl
      rw [hself, unifyLineEndChars_cons fun _ => hhead, ih]
      rfl
    · rw [unifyLineEndChars_append (notMem_escapeChar (by decide) (Ne.symm hc)), ih, if_neg hc]
      rfl

theorem toList_unifyLineEnds_escapeMarkup (s : String) :
    (unifyLineEnds (escapeMarkup s)).toList = escapeChars (unifyLineEndChars s.toList) := by
  rw [unifyLineEnds, escapeMarkup, String.toList_ofList, String.toList_ofList,
    unifyLineEndChars_escapeChars]

/-- Collapsing takes no account of how a line ends. -/
theorem collapseFrom_unifyLineEndChars (inRun : Bool) (cs : List Char) :
    collapseFrom inRun (unifyLineEndChars cs) = collapseFrom inRun cs := by
  fun_induction unifyLineEndChars cs generalizing inRun with
  | case1 => rfl
  | case2 cs ih =>
    have hfeed : isMarkupBlank '\n' = true := by decide
    have hreturn : isMarkupBlank '\r' = true := by decide
    rw [collapseFrom, collapseFrom, collapseFrom, if_pos hfeed, if_pos hreturn, if_pos hfeed, ih]
    cases inRun <;> rfl
  | case3 c cs hpair ih =>
    by_cases hc : c = '\r'
    · subst hc
      have hfeed : isMarkupBlank '\n' = true := by decide
      have hreturn : isMarkupBlank '\r' = true := by decide
      rw [if_pos rfl, collapseFrom, collapseFrom, if_pos hfeed, if_pos hreturn, ih]
    · rw [if_neg hc, collapseFrom, collapseFrom, ih, ih]

theorem collapse_unifyLineEnds (s : String) : collapse (unifyLineEnds s) = collapse s := by
  apply String.toList_inj.mp
  rw [toList_collapse, toList_collapse, unifyLineEnds, String.toList_ofList,
    collapseFrom_unifyLineEndChars]

/-! ### Sources without markup -/

theorem bracket_notMem_escapeChars (cs : List Char) : '<' ∉ escapeChars cs := by
  intro h
  obtain ⟨c, -, hc⟩ := List.mem_flatMap.mp h
  rw [escapeChar] at hc
  split_ifs at hc with hampersand hless
  · exact absurd hc (by decide)
  · exact absurd hc (by decide)
  · exact absurd hc (by decide)
  · exact hless (List.mem_singleton.mp hc).symm

theorem anySuffix_eq_false {test : List Char → Bool} (hnil : test [] = false)
    (htest : ∀ c cs, c ≠ '<' → test (c :: cs) = false) {cs : List Char} (h : '<' ∉ cs) :
    anySuffix test cs = false := by
  induction cs with
  | nil => exact hnil
  | cons c cs ih =>
    rw [List.mem_cons, not_or] at h
    rw [anySuffix, htest c cs (Ne.symm h.1), ih h.2]
    rfl

theorem anySuffix_beginsDocumentMarkup {cs : List Char} (h : '<' ∉ cs) :
    anySuffix beginsDocumentMarkup cs = false :=
  anySuffix_eq_false (by decide) (fun _ cs hc => beginsDocumentMarkup_of_ne hc cs) h

theorem dropXmlDeclaration?_eq_none {cs : List Char} (h : '<' ∉ cs) :
    dropXmlDeclaration? cs = none := by
  have hnone : dropWord? "<?xml" (dropBlanks cs) = none := by
    have hsub : ∀ c ∈ dropBlanks cs, c ∈ cs := (List.dropWhile_suffix _).subset
    cases hdrop : dropBlanks cs with
    | nil => decide
    | cons c rest =>
      have hc : c ≠ '<' := fun heq => h (heq ▸ hsub c (by simp [hdrop]))
      exact dropWord?_eq_none_of_ne rfl hc rest
  rw [dropXmlDeclaration?, hnone]

/-- A source without an opening bracket declares no encoding. -/
theorem declaresEncoding_eq_false {s : String} (h : '<' ∉ s.toList) :
    declaresEncoding s = false := by
  have hmeta (c : Char) (cs : List Char) (hc : c ≠ '<') : beginsMetaCharset (c :: cs) = false := by
    rw [beginsMetaCharset, dropWord?_eq_none_of_ne rfl hc]
  rw [declaresEncoding, hasXmlDeclaration, dropXmlDeclaration?_eq_none h,
    anySuffix_eq_false (by decide) hmeta h]
  rfl

theorem isEscaped_of_isUnicodeBlank {c : Char} (h : isUnicodeBlank c = true) :
    isEscaped c = false := by
  rw [Bool.eq_false_iff]
  intro hc
  simp only [isEscaped, Bool.or_eq_true, decide_eq_true_eq] at hc
  rcases hc with (rfl | rfl) | rfl <;> exact absurd h (by decide)

/-- Escaped text begins with a blank only if the text does. -/
theorem exists_escapeChars_eq_cons {c : Char} (h : isUnicodeBlank c = false) (cs : List Char) :
    ∃ d ds, escapeChars (c :: cs) = d :: ds ∧ isUnicodeBlank d = false := by
  cases hc : isEscaped c with
  | true =>
    obtain ⟨e, es, hchar, -⟩ := exists_isClosedName hc
    exact ⟨'&', _, by rw [escapeChars, List.flatMap_cons, hchar]; rfl, by decide⟩
  | false => exact ⟨c, _, escapeChars_cons_of_not_isEscaped hc cs, h⟩

/-- The declaration comes between the blanks at the beginning of escaped text and the rest. -/
theorem declared_escapeChars {w cs : List Char} (hw : ∀ d ∈ w, isUnicodeBlank d = true)
    (hcs : ∀ c ∈ cs.head?, isUnicodeBlank c = false) :
    declared (escapeChars (w ++ cs)) = w ++ (encodingDeclaration.toList ++ escapeChars cs) := by
  have hsource : escapeChars (w ++ cs) = w ++ escapeChars cs := by
    rw [escapeChars_append, escapeChars_of_forall fun d hd => isEscaped_of_isUnicodeBlank (hw d hd)]
  have hrest : (escapeChars cs).takeWhile isUnicodeBlank = [] := by
    cases cs with
    | nil => rfl
    | cons c cs =>
      obtain ⟨d, ds, hds, hd⟩ := exists_escapeChars_eq_cons (hcs c rfl) cs
      rw [hds, List.takeWhile_cons_of_neg (by simp [hd])]
  have hpreamble : preamble (escapeChars (w ++ cs)) = w := by
    rw [preamble_of_fragment (anySuffix_beginsDocumentMarkup (bracket_notMem_escapeChars _)),
      hsource, List.takeWhile_append_of_pos hw, hrest, List.append_nil]
  have hafter : afterPreamble (escapeChars (w ++ cs)) = escapeChars cs := by
    have hparts := preamble_append_afterPreamble (escapeChars (w ++ cs))
    rw [hpreamble] at hparts
    exact List.append_cancel_left (hparts.trans hsource)
  rw [declared, hpreamble, hafter]

/-! ### The text of the page -/

/-- A text without its outer spaces. -/
def trimSpaces (s : String) : String :=
  String.ofList (dropEndWhile (· = ' ') (s.toList.dropWhile (· = ' ')))

/-- The whitespace pass removes the outer spaces of a text with collapsed blanks. -/
theorem tidy_collapse (width : Nat) (s : String) :
    tidy width (collapse s) = trimSpaces (collapse s) := by
  have hfeed : '\n' ∉ (collapse s).toList := notMem_collapse (by decide) (by decide) s
  apply String.toList_inj.mp
  rw [toList_tidy, tidyLines_collapse, trimSpaces, String.toList_ofList, unlines,
    List.intercalate_singleton, trimLineFeeds_of_notMem]
  exact fun h => hfeed ((List.dropWhile_suffix _).subset
    ((List.rdropWhile_prefix _ _).subset h))

/-- What is in front of something else is collapsed by itself. -/
theorem collapseFrom_append {cs : List Char} (hcs : ∀ c ∈ cs.head?, isMarkupBlank c = false)
    (inRun : Bool) (w : List Char) :
    collapseFrom inRun (w ++ cs) = collapseFrom inRun w ++ collapseFrom false cs := by
  induction w generalizing inRun with
  | nil =>
    cases cs with
    | nil => rfl
    | cons c cs =>
      have hc : ¬isMarkupBlank c = true := by simp [hcs c rfl]
      rw [List.nil_append, collapseFrom, collapseFrom, collapseFrom, if_neg hc, if_neg hc]
      rfl
  | cons d w ih =>
    rw [List.cons_append, collapseFrom, collapseFrom, ih, ih]
    split_ifs <;> rfl

theorem collapse_append {w cs : List Char} (hcs : ∀ c ∈ cs.head?, isMarkupBlank c = false) :
    collapse (String.ofList w) ++ collapse (String.ofList cs) =
      collapse (String.ofList (w ++ cs)) := by
  apply String.toList_inj.mp
  rw [String.toList_append, toList_collapse, toList_collapse, toList_collapse,
    String.toList_ofList, String.toList_ofList, String.toList_ofList,
    collapseFrom_append hcs false w]

theorem isMarkupBlank_eq_false {c : Char} (h : isUnicodeBlank c = false) :
    isMarkupBlank c = false := by
  rw [Bool.eq_false_iff]
  intro hc
  rw [isUnicodeBlank_of_isMarkupBlank hc] at h
  cases h

/-- A text with something visible has it behind blanks, whatever its line ends are. -/
theorem exists_unifyLineEndChars_eq {cs : List Char} (h : ∃ c ∈ cs, isUnicodeBlank c = false) :
    ∃ w c rest, unifyLineEndChars cs = w ++ c :: rest ∧ (∀ d ∈ w, isUnicodeBlank d = true) ∧
      isUnicodeBlank c = false := by
  obtain ⟨c, hmem, hc⟩ := h
  have hne : c ≠ '\n' ∧ c ≠ '\r' := by
    constructor <;> rintro rfl <;> exact absurd hc (by decide)
  have hsplit := List.takeWhile_append_dropWhile (p := isUnicodeBlank) (l := unifyLineEndChars cs)
  have hhead := List.head?_dropWhile_not isUnicodeBlank (unifyLineEndChars cs)
  cases hrest : (unifyLineEndChars cs).dropWhile isUnicodeBlank with
  | nil =>
    have hall := List.dropWhile_eq_nil_iff.mp hrest c
      ((mem_unifyLineEndChars_iff hne.1 hne.2 cs).mpr hmem)
    rw [hc] at hall
    cases hall
  | cons d rest =>
    rw [hrest] at hsplit hhead
    exact ⟨_, d, rest, hsplit.symm, fun e he => List.mem_takeWhile_imp he, hhead⟩

/-- The source of escaped text as it is parsed. -/
theorem toList_normalize_escapeMarkup (s : String) :
    (normalize (escapeMarkup s)).toList = declared (escapeChars (unifyLineEndChars s.toList)) := by
  have hbracket : '<' ∉ (unifyLineEnds (escapeMarkup s)).toList := by
    rw [toList_unifyLineEnds_escapeMarkup]
    exact bracket_notMem_escapeChars _
  rw [normalize, toList_ensureEncoding (declaresEncoding_eq_false hbracket),
    toList_unifyLineEnds_escapeMarkup]

namespace Page

/-- The page of escaped text, where the declaration stands behind the blanks at the beginning, has
no problems, and its raw rendering is the text with collapsed blanks. -/
theorem ofSource_of_blanks_append {s : String} {w cs : List Char}
    (hsplit : unifyLineEndChars s.toList = w ++ cs) (hw : ∀ d ∈ w, isUnicodeBlank d = true)
    (hcs : ∀ c ∈ cs.head?, isUnicodeBlank c = false) (hnull : '\x00' ∉ s.toList) :
    (ofSource (normalize (escapeMarkup s))).diagnostics = [] ∧
      ∀ options, (ofSource (normalize (escapeMarkup s))).tree.renderRoot .builtin options =
        collapse s := by
  have hdeclared := toList_normalize_escapeMarkup s
  have hparts := hdeclared
  rw [hsplit, declared_escapeChars hw hcs] at hparts
  have hreturn : '\r' ∉ escapeChars (unifyLineEndChars s.toList) := by
    rw [← toList_unifyLineEnds_escapeMarkup]
    exact notMem_toList_unifyLineEnds _
  -- The source begins with a blank or with an opening bracket, so no mark is dropped.
  have hmark : (normalize (escapeMarkup s)).toList.head? ≠ some '\uFEFF' := by
    rw [hparts]
    cases w with
    | nil => exact fun h => absurd (Option.some.inj h) (by decide)
    | cons d w =>
      intro h
      have hd := hw d List.mem_cons_self
      rw [Option.some.inj h] at hd
      exact absurd hd (by decide)
  obtain ⟨htree, hproblems⟩ := ofSource_eq (s := normalize (escapeMarkup s))
    (by rw [hdeclared]; exact dropXmlDeclaration?_declared _)
    (by rw [hdeclared]; exact notMem_declared (by decide) hreturn) hmark
  -- Escaped text has no tags, so the source is read as a fragment.
  have hmode : anySuffix beginsDocumentMarkup (normalize (escapeMarkup s)).toList = false := by
    rw [hdeclared, anySuffix_declared]
    exact anySuffix_beginsDocumentMarkup (bracket_notMem_escapeChars _)
  have hnull' : '\x00' ∉ w ++ cs := by
    rw [← hsplit, mem_unifyLineEndChars_iff (by decide) (by decide)]
    exact hnull
  have hreturn' : '\r' ∉ w ++ cs := by
    rw [← hsplit]
    exact notMem_unifyLineEndChars _
  obtain ⟨d, allowed, kinds, hrun, hrow, hkinds, hshown⟩ := Builder.exists_runAll_fragment
    (fun e he => isEscaped_of_isUnicodeBlank (hw e he)) hnull' hreturn'
  have hconstruct : construct (normalize (escapeMarkup s)).toList =
      Builder.fragmentIn d allowed := by
    rw [construct, hmode, if_neg Bool.false_ne_true, hparts, hrun]
  rw [hconstruct] at htree hproblems
  refine ⟨hproblems.mpr rfl, fun options => ?_⟩
  rw [htree]
  refine (hrow.renderRoot hkinds options _).trans ?_
  rw [hshown, collapse_append fun c hc => isMarkupBlank_eq_false (hcs c hc), ← hsplit]
  exact collapse_unifyLineEnds s

/-- The page of escaped text with something visible. -/
theorem ofSource_escapeMarkup {s : String} (hnull : '\x00' ∉ s.toList)
    (hvisible : ∃ c ∈ s.toList, isUnicodeBlank c = false) :
    (ofSource (normalize (escapeMarkup s))).diagnostics = [] ∧
      ∀ options, (ofSource (normalize (escapeMarkup s))).tree.renderRoot .builtin options =
        collapse s := by
  obtain ⟨w, c, cs, hsplit, hw, hc⟩ := exists_unifyLineEndChars_eq hvisible
  exact ofSource_of_blanks_append hsplit hw (by simpa using hc) hnull

end Page

namespace Converter

theorem isBlankText_escapeMarkup {s : String} (h : ∃ c ∈ s.toList, isUnicodeBlank c = false) :
    isBlankText (escapeMarkup s) = false := by
  obtain ⟨c, hmem, hc⟩ := h
  obtain ⟨d, ds, hds, hd⟩ := exists_escapeChars_eq_cons hc []
  rw [isBlankText, escapeMarkup, String.toList_ofList, List.all_eq_false]
  refine ⟨d, List.mem_flatMap.mpr ⟨c, hmem, ?_⟩, by simp [hd]⟩
  have hself : escapeChars [c] = escapeChar c := List.append_nil _
  rw [← hself, hds]
  exact List.mem_cons_self

/-- **Plain text goes round.** A text with something visible and without null characters comes back
from its escaped form without problems, whatever the lengths, the bullet and the strictness: with
its blanks collapsed and without its outer spaces. -/
theorem convert_escapeMarkup (c : Converter) (hrules : c.rules = .builtin) {s : String}
    (hnull : '\x00' ∉ s.toList) (hvisible : ∃ ch ∈ s.toList, isUnicodeBlank ch = false) :
    c.convert (escapeMarkup s) = .ok (trimSpaces (collapse s)) := by
  obtain ⟨hclean, hraw⟩ := Page.ofSource_escapeMarkup hnull hvisible
  rw [c.convert_of_clean (isBlankText_escapeMarkup hvisible) hclean, render, hrules, Tree.toText,
    hraw, tidy_collapse]

/-- A text with exotic blanks, a byte order mark and what looks like references and markup. -/
theorem convert_escapeMarkup_mixed :
    '\x00' ∉ "\u00A0\r\n \uFEFF<html> &lt;\r\t&amp ".toList ∧
      (∃ ch ∈ "\u00A0\r\n \uFEFF<html> &lt;\r\t&amp ".toList, isUnicodeBlank ch = false) ∧
      ({ options := { strict := false } } : Converter).convert
          (escapeMarkup "\u00A0\r\n \uFEFF<html> &lt;\r\t&amp ") =
        .ok "\u00A0 \uFEFF<html> &lt; &amp" := by
  have hnull : '\x00' ∉ "\u00A0\r\n \uFEFF<html> &lt;\r\t&amp ".toList := by decide
  have hvisible : ∃ ch ∈ "\u00A0\r\n \uFEFF<html> &lt;\r\t&amp ".toList,
      isUnicodeBlank ch = false := ⟨'<', by decide, by decide⟩
  have htext := convert_escapeMarkup { options := { strict := false } } rfl hnull hvisible
  have hshown : trimSpaces (collapse "\u00A0\r\n \uFEFF<html> &lt;\r\t&amp ") =
      "\u00A0 \uFEFF<html> &lt; &amp" := by decide
  rw [hshown] at htext
  exact ⟨hnull, hvisible, htext⟩

end Converter

end HtmlText
