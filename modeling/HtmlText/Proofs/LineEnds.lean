import HtmlText.Converter
import Mathlib.Tactic.SplitIfs

/-!
# Line ends of a source

A line of a source ends with a line feed, a carriage return, or a pair of both, and the ends of the
same source may differ. They all become line feeds before anything else is done with the source.
This can be done in one pass, in which a carriage return takes a line feed behind it along, or in
two, of which the first replaces the pairs and the second the carriage returns that are left. A
source is blank with one kind of line ends if it is blank with another, so that a conversion never
depends on the kind, whatever the source is read into.

## Main definitions

* `replaceText`: a part of a text that is replaced wherever it occurs.
* `ReadsLineEnds`: the line ends of a text, one after the other.
* `Converter.convertWith`: conversion with any way to read a source.

## Main results

* `unifyLineEnds_eq_replaceText`: one pass and two passes.
* `readsLineEnds_iff`: the line ends and the other characters of a unified text.
* `unifyLineEnds_replaceText`: line feeds that are written in another way.
* `Converter.convertWith_lineEnds`: conversion of sources with different line ends.
-/

namespace HtmlText

/-! ### Replacing parts of a text -/

/-- A text in which a part, which is not empty, is replaced wherever it occurs, from the left and
without overlap. The first characters, `skip` in number, belong to an occurrence that has been
replaced. -/
def replaceFrom (part replacement : List Char) : Nat → List Char → List Char
  | _, [] => []
  | skip + 1, _ :: cs => replaceFrom part replacement skip cs
  | 0, c :: cs =>
    if part.isPrefixOf (c :: cs) then
      replacement ++ replaceFrom part replacement (part.length - 1) cs
    else c :: replaceFrom part replacement 0 cs

/-- A text in which a part, which is not empty, is replaced wherever it occurs. -/
def replaceText (part replacement s : String) : String :=
  String.ofList (replaceFrom part.toList replacement.toList 0 s.toList)

theorem toList_replaceText (part replacement s : String) :
    (replaceText part replacement s).toList =
      replaceFrom part.toList replacement.toList 0 s.toList := by
  rw [replaceText, String.toList_ofList]

/-- A single character is replaced by itself. -/
theorem replaceFrom_singleton (a : Char) (replacement cs : List Char) :
    replaceFrom [a] replacement 0 cs = cs.flatMap fun c => if c = a then replacement else [c] := by
  induction cs with
  | nil => rfl
  | cons c cs ih =>
    have hbegins : [a].isPrefixOf (c :: cs) = true ↔ c = a := by
      rw [List.isPrefixOf_cons_cons, List.isPrefixOf_nil_left, Bool.and_true, beq_iff_eq, eq_comm]
    rw [replaceFrom, List.flatMap_cons, List.length_singleton, Nat.sub_self, ih]
    by_cases hc : c = a
    · rw [if_pos (hbegins.mpr hc), if_pos hc]
    · rw [if_neg (mt hbegins.mp hc), if_neg hc, List.singleton_append]

/-! ### Unified line ends -/

theorem toList_unifyLineEnds (s : String) :
    (unifyLineEnds s).toList = unifyLineEndChars s.toList := by
  rw [unifyLineEnds, String.toList_ofList]

theorem unifyLineEndChars_cons {c : Char} {cs : List Char} (h : c = '\r' → cs.head? ≠ some '\n') :
    unifyLineEndChars (c :: cs) = (if c = '\r' then '\n' else c) :: unifyLineEndChars cs := by
  rw [unifyLineEndChars]
  rintro cs' rfl rfl
  exact h rfl rfl

theorem unifyLineEndChars_cons_of_ne {c : Char} (hc : c ≠ '\r') (cs : List Char) :
    unifyLineEndChars (c :: cs) = c :: unifyLineEndChars cs := by
  rw [unifyLineEndChars_cons fun heq => absurd heq hc, if_neg hc]

theorem unifyLineEndChars_append {u : List Char} (h : '\r' ∉ u) (cs : List Char) :
    unifyLineEndChars (u ++ cs) = u ++ unifyLineEndChars cs := by
  induction u with
  | nil => rfl
  | cons c u ih =>
    rw [List.mem_cons, not_or] at h
    rw [List.cons_append, unifyLineEndChars_cons_of_ne (Ne.symm h.1), ih h.2, List.cons_append]

theorem notMem_unifyLineEndChars (cs : List Char) : '\r' ∉ unifyLineEndChars cs := by
  fun_induction unifyLineEndChars cs with
  | case1 => exact List.not_mem_nil
  | case2 cs ih => exact List.not_mem_cons_of_ne_of_not_mem (by decide) ih
  | case3 c cs _ ih =>
    refine List.not_mem_cons_of_ne_of_not_mem ?_ ih
    split_ifs with hc
    · decide
    · exact Ne.symm hc

theorem notMem_toList_unifyLineEnds (s : String) : '\r' ∉ (unifyLineEnds s).toList := by
  rw [toList_unifyLineEnds]
  exact notMem_unifyLineEndChars s.toList

/-- Other characters than those of line ends stay. -/
theorem mem_unifyLineEndChars_iff {c : Char} (hfeed : c ≠ '\n') (hreturn : c ≠ '\r')
    (cs : List Char) : c ∈ unifyLineEndChars cs ↔ c ∈ cs := by
  fun_induction unifyLineEndChars cs with
  | case1 => rfl
  | case2 cs ih => simp [hfeed, hreturn, ih]
  | case3 d cs hpair ih =>
    rw [List.mem_cons, List.mem_cons, ih]
    split_ifs with hd
    · simp [hd, hfeed, hreturn]
    · rfl

theorem unifyLineEndChars_of_notMem {cs : List Char} (h : '\r' ∉ cs) :
    unifyLineEndChars cs = cs := by
  have happend := unifyLineEndChars_append h []
  rwa [List.append_nil, unifyLineEndChars, List.append_nil] at happend

/-- A text whose only line ends are line feeds stays as it is. -/
theorem unifyLineEnds_of_notMem {s : String} (h : '\r' ∉ s.toList) : unifyLineEnds s = s := by
  rw [unifyLineEnds, unifyLineEndChars_of_notMem h, String.ofList_toList]

theorem unifyLineEnds_unifyLineEnds (s : String) :
    unifyLineEnds (unifyLineEnds s) = unifyLineEnds s :=
  unifyLineEnds_of_notMem (notMem_toList_unifyLineEnds s)

/-- Line ends are blanks before and after. -/
theorem isBlankText_unifyLineEnds (s : String) : isBlankText (unifyLineEnds s) = isBlankText s := by
  rw [isBlankText, isBlankText, toList_unifyLineEnds]
  fun_induction unifyLineEndChars s.toList with
  | case1 => rfl
  | case2 cs ih =>
    have hpair : isUnicodeBlank '\r' = true ∧ isUnicodeBlank '\n' = true := by decide
    rw [List.all_cons, List.all_cons, List.all_cons, ih, hpair.1, hpair.2, Bool.true_and,
      Bool.true_and]
  | case3 c cs _ ih =>
    rw [List.all_cons, List.all_cons, ih]
    split_ifs with hc
    · rw [hc]
      rfl
    · rfl

/-- Line ends can be unified in two passes, first the pairs and then the carriage returns that are
left. The second pass finds no carriage return of a pair, and the first one makes no new pairs. -/
theorem unifyLineEnds_eq_replaceText (s : String) :
    unifyLineEnds s = replaceText "\r" "\n" (replaceText "\r\n" "\n" s) := by
  have hpasses (cs : List Char) : unifyLineEndChars cs =
      (replaceFrom ['\r', '\n'] ['\n'] 0 cs).flatMap fun c => if c = '\r' then ['\n'] else [c] := by
    fun_induction unifyLineEndChars cs with
    | case1 => rfl
    | case2 cs ih => exact congrArg ('\n' :: ·) ih
    | case3 c cs hpair ih =>
      have hbegins : ['\r', '\n'].isPrefixOf (c :: cs) = false := by
        rw [Bool.eq_false_iff, ne_eq, List.isPrefixOf_iff_prefix]
        rintro ⟨rest, heq⟩
        obtain ⟨rfl, rfl⟩ := List.cons.inj heq
        exact hpair rest rfl rfl
      rw [replaceFrom, hbegins, if_neg Bool.false_ne_true, List.flatMap_cons, ih]
      split_ifs <;> rfl
  apply String.toList_inj.mp
  rw [toList_unifyLineEnds, toList_replaceText, toList_replaceText, hpasses]
  exact (replaceFrom_singleton '\r' ['\n'] _).symm

/-- The line ends of a text are read from the left, and each of them is a line feed in the text that
is read. A carriage return is read together with a line feed behind it. All other characters stay,
in their order. -/
inductive ReadsLineEnds : List Char → List Char → Prop
  | nil : ReadsLineEnds [] []
  | pair {cs ds : List Char} (h : ReadsLineEnds cs ds) :
    ReadsLineEnds ('\r' :: '\n' :: cs) ('\n' :: ds)
  | carriageReturn {cs ds : List Char} (hcs : cs.head? ≠ some '\n') (h : ReadsLineEnds cs ds) :
    ReadsLineEnds ('\r' :: cs) ('\n' :: ds)
  | lineFeed {cs ds : List Char} (h : ReadsLineEnds cs ds) : ReadsLineEnds ('\n' :: cs) ('\n' :: ds)
  | other {c : Char} {cs ds : List Char} (hcr : c ≠ '\r') (hlf : c ≠ '\n')
    (h : ReadsLineEnds cs ds) : ReadsLineEnds (c :: cs) (c :: ds)

/-- Every text is read in one way, as the text with unified line ends. -/
theorem readsLineEnds_iff {cs ds : List Char} :
    ReadsLineEnds cs ds ↔ unifyLineEndChars cs = ds := by
  constructor
  · intro h
    induction h with
    | nil => rfl
    | pair _ ih => rw [unifyLineEndChars, ih]
    | carriageReturn hcs _ ih => rw [unifyLineEndChars_cons fun _ => hcs, if_pos rfl, ih]
    | lineFeed _ ih => rw [unifyLineEndChars_cons_of_ne (by decide), ih]
    | other hcr _ _ ih => rw [unifyLineEndChars_cons_of_ne hcr, ih]
  · rintro rfl
    fun_induction unifyLineEndChars cs with
    | case1 => exact .nil
    | case2 cs ih => exact .pair ih
    | case3 c cs hpair ih =>
      split_ifs with hc
      · subst hc
        refine .carriageReturn (fun hhead => ?_) ih
        obtain ⟨rest, rfl⟩ := List.head?_eq_some_iff.mp hhead
        exact hpair rest rfl rfl
      · by_cases hlf : c = '\n'
        · subst hlf
          exact .lineFeed ih
        · exact .other hc hlf ih

/-! ### Line feeds written in another way -/

/-- A text without carriage returns is found again when its line feeds have been written as pairs,
or as carriage returns. -/
theorem unifyLineEnds_replaceText {s lineEnd : String} (hs : '\r' ∉ s.toList)
    (hlineEnd : lineEnd = "\r\n" ∨ lineEnd = "\r") :
    unifyLineEnds (replaceText "\n" lineEnd s) = s := by
  have hwritten (cs : List Char) (hcs : '\r' ∉ cs) :
      unifyLineEndChars (cs.flatMap fun c => if c = '\n' then lineEnd.toList else [c]) = cs := by
    induction cs with
    | nil => rfl
    | cons c cs ih =>
      rw [List.mem_cons, not_or] at hcs
      rw [List.flatMap_cons]
      by_cases hc : c = '\n'
      · subst hc
        rw [if_pos rfl]
        rcases hlineEnd with rfl | rfl
        · exact congrArg ('\n' :: ·) (ih hcs.2)
        · -- What follows a line end begins with a carriage return or with no line end at all.
          change unifyLineEndChars ('\r' :: cs.flatMap _) = _
          rw [unifyLineEndChars_cons, if_pos rfl, ih hcs.2]
          rintro - hhead
          obtain ⟨d, -, hd⟩ := List.mem_flatMap.mp (List.mem_of_mem_head? hhead)
          split_ifs at hd with hlf
          · exact absurd hd (by decide)
          · exact hlf (List.mem_singleton.mp hd).symm
      · rw [if_neg hc, List.singleton_append, unifyLineEndChars_cons_of_ne (Ne.symm hcs.1),
          ih hcs.2]
  apply String.toList_inj.mp
  rw [toList_unifyLineEnds, toList_replaceText]
  exact (congrArg unifyLineEndChars (replaceFrom_singleton '\n' lineEnd.toList s.toList)).trans
    (hwritten s.toList hs)

/-! ### Conversion -/

theorem normalize_unifyLineEnds (s : String) : normalize (unifyLineEnds s) = normalize s := by
  rw [normalize, normalize, unifyLineEnds_unifyLineEnds]

namespace Converter

/-- The text of a source, with any way to read a normalized source into a page. -/
def convertWith (c : Converter) (read : String → Page) (html : String) : Except Malformed String :=
  if isBlankText html then .ok ""
  else
    match c.accept (read (normalize html)) with
    | .ok t => .ok (c.render t)
    | .error e => .error e

theorem convert_eq_convertWith (c : Converter) : c.convert = c.convertWith .ofSource := rfl

theorem convertWith_unifyLineEnds (c : Converter) (read : String → Page) (html : String) :
    c.convertWith read (unifyLineEnds html) = c.convertWith read html := by
  rw [convertWith, convertWith, isBlankText_unifyLineEnds, normalize_unifyLineEnds]

/-- **Line ends.** Conversion does not depend on the line ends of a source, whatever a source is
read into: it gives the same text, or the same refusal, for the source with unified line ends. So it
does for a text without carriage returns, and the same text with its line feeds written as pairs, or
as carriage returns. Unifying line ends a second time changes nothing; it comes to two replacements,
one after the other, and it reads the line ends and all other characters from left to right. -/
theorem convertWith_lineEnds (c : Converter) (read : String → Page) :
    c.convert = c.convertWith .ofSource ∧
      (∀ html, c.convertWith read (unifyLineEnds html) = c.convertWith read html) ∧
      (∀ s : String, '\r' ∉ s.toList →
        ∀ written ∈ [s, replaceText "\n" "\r\n" s, replaceText "\n" "\r" s],
          unifyLineEnds written = s ∧ c.convertWith read written = c.convertWith read s) ∧
      ∀ html, unifyLineEnds (unifyLineEnds html) = unifyLineEnds html ∧
        unifyLineEnds html = replaceText "\r" "\n" (replaceText "\r\n" "\n" html) ∧
        ∀ cs, ReadsLineEnds html.toList cs ↔ (unifyLineEnds html).toList = cs := by
  refine ⟨c.convert_eq_convertWith, c.convertWith_unifyLineEnds read, fun s hs written hmem => ?_,
    fun html => ⟨unifyLineEnds_unifyLineEnds html, unifyLineEnds_eq_replaceText html, fun cs => ?_⟩⟩
  · have hunify : unifyLineEnds written = s := by
      simp only [List.mem_cons, List.not_mem_nil, or_false] at hmem
      rcases hmem with rfl | rfl | rfl
      · exact unifyLineEnds_of_notMem hs
      · exact unifyLineEnds_replaceText hs (Or.inl rfl)
      · exact unifyLineEnds_replaceText hs (Or.inr rfl)
    refine ⟨hunify, ?_⟩
    rw [← c.convertWith_unifyLineEnds, hunify]
  · rw [toList_unifyLineEnds]
    exact readsLineEnds_iff

/-- Two paragraphs with an empty line between them, which is written in three ways. -/
theorem convertWith_lineEnds_emptyLine :
    '\r' ∉ "<p>a</p>\n\n<p>b</p>".toList ∧
      ({} : Converter).convert "<p>a</p>\r\n\r\n<p>b</p>" =
        ({} : Converter).convert "<p>a</p>\n\n<p>b</p>" ∧
      ({} : Converter).convert "<p>a</p>\r\r<p>b</p>" =
        ({} : Converter).convert "<p>a</p>\n\n<p>b</p>" := by
  have hs : '\r' ∉ "<p>a</p>\n\n<p>b</p>".toList := by decide
  have hpairs : replaceText "\n" "\r\n" "<p>a</p>\n\n<p>b</p>" = "<p>a</p>\r\n\r\n<p>b</p>" := by
    decide
  have hreturns : replaceText "\n" "\r" "<p>a</p>\n\n<p>b</p>" = "<p>a</p>\r\r<p>b</p>" := by
    decide
  obtain ⟨hconvert, -, hwritten, -⟩ := convertWith_lineEnds {} .ofSource
  rw [hconvert, ← hpairs, ← hreturns]
  exact ⟨hs, (hwritten _ hs _ (by simp)).2, (hwritten _ hs _ (by simp)).2⟩

end Converter

end HtmlText
