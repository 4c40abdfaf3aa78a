import HtmlText.Proofs.CopiedTree
import HtmlText.Proofs.LineCounts
import HtmlText.Proofs.StrictConversion

/-!
# The first and the last line of a text

The whitespace pass removes line feeds at the ends of a text, and it does so after all tabs have
become spaces. So the first line of a text comes from the first raw line that has anything else than
spaces, and the last line from the last such line. Neither is empty. But if the raw line has nothing
but spaces and tabs, then a line of spaces is left. The tabs come from link targets and from
indented elements, which indent their empty lines too. If no target has a tab, and what is inside
the indented elements has something visible in its first and in its last line, then so has the text.

## Main definitions

* `isBare`, `isMargin`: a line of spaces, and a line of spaces and tabs.
* `firstShown?`, `lastShown?`: the raw lines that become the first and the last line of a text.
* `opensVisibly`: a tab in front of everything visible is on a line with something visible.
* `HasClearEdges`: the same at both ends of a text.
* `Content.IndentsVisibly`: what is inside the indented elements of a content begins and ends with
  visible lines.

## Main results

* `isBare_tidyLine`, `tidyLine_eq_nil_iff`: what is left of a line.
* `exists_lines_tidy`: the first and the last line of a tidied text.
* `isMargin_of_opensVisibly`: the first raw line that is shown.
* `Content.IndentsVisibly.hasClearEdges_render`: the raw rendering of a content.
* `Converter.edge_lines`: the first and the last line of every text.
-/

namespace HtmlText

/-! ### What is left of a line -/

theorem exists_rdropWhile_cons {α : Type} {p : α → Bool} {x : α} (hx : p x = false) (xs : List α) :
    ∃ kept, (x :: xs).rdropWhile p = x :: kept := by
  have hbegins := List.rdropWhile_prefix p (x :: xs)
  rcases hcases : (x :: xs).rdropWhile p with - | ⟨y, kept⟩
  · rw [List.rdropWhile_eq_nil_iff] at hcases
    exact absurd (hcases x List.mem_cons_self) (by simp [hx])
  · rw [hcases] at hbegins
    exact ⟨kept, by rw [(List.cons_prefix_cons.mp hbegins).1]⟩

/-- A line of spaces. -/
def isBare (line : List Char) : Bool := line.all (· = ' ')

/-- A line of spaces and tabs. -/
def isMargin (line : List Char) : Bool := line.all isMarginChar

theorem isBare_expandTabs (width : Nat) (cs : List Char) (h : ∀ c ∈ cs, c = '\t' ∨ c = ' ') :
    isBare (expandTabs width cs) = true := by
  rw [isBare, List.all_eq_true]
  intro c hc
  obtain ⟨d, hd, hc⟩ := List.mem_flatMap.mp hc
  rcases h d hd with rfl | rfl
  · exact decide_eq_true (List.eq_of_mem_replicate hc)
  · simpa using hc

/-- A line is left with spaces alone if it had nothing but spaces and tabs. -/
theorem isBare_tidyLine (width : Nat) (line : List Char) :
    isBare (tidyLine width line) = isMargin line := by
  cases hline : isMargin line with
  | true =>
    have hall : ∀ c ∈ line, isMarginChar c = true := List.all_eq_true.mp hline
    rw [tidyLine, List.dropWhile_eq_nil_iff.mpr hall]
    refine isBare_expandTabs width _ fun c hc => Or.inl ?_
    rw [dropEndWhile_eq_rdropWhile, List.rdropWhile_nil, List.append_nil] at hc
    simpa using List.of_mem_filter hc
  | false =>
    obtain ⟨c, rest, hdrop⟩ : ∃ c rest, line.dropWhile isMarginChar = c :: rest := by
      refine List.exists_cons_of_ne_nil fun hnil => ?_
      rw [isMargin, List.all_eq_true.mpr (List.dropWhile_eq_nil_iff.mp hnil)] at hline
      cases hline
    have hc : isMarginChar c = false := by
      have hhead := List.find?_not_eq_head?_dropWhile isMarginChar line
      rw [hdrop, List.head?_cons] at hhead
      simpa using List.find?_some hhead
    have hne : c ≠ ' ' ∧ c ≠ '\t' := by simpa [isMarginChar] using hc
    obtain ⟨kept, hkept⟩ := exists_rdropWhile_cons (p := (· = ' ')) (decide_eq_false hne.1) rest
    have hmem : c ∈ tidyLine width line := by
      rw [tidyLine, hdrop, dropEndWhile_eq_rdropWhile, hkept, expandTabs, List.mem_flatMap]
      exact ⟨c, by simp, by simp [hne.2]⟩
    rw [isBare, List.all_eq_false]
    exact ⟨c, hmem, by simpa using hne.1⟩

/-- Nothing is left of a line if it had only spaces. -/
theorem tidyLine_eq_nil_iff {width : Nat} (hwidth : 0 < width) (line : List Char) :
    tidyLine width line = [] ↔ isBare line = true := by
  constructor
  · intro h
    have hmargin : isMargin line = true := by rw [← isBare_tidyLine width, h]; rfl
    have hall : ∀ c ∈ line, isMarginChar c = true := List.all_eq_true.mp hmargin
    rw [tidyLine, List.takeWhile_eq_self_iff.mpr hall, expandTabs_append,
      List.append_eq_nil_iff] at h
    refine List.all_eq_true.mpr fun c hc => decide_eq_true (by_contra fun hspace => ?_)
    have htab : c = '\t' := by
      have hc' := hall c hc
      simp only [isMarginChar, Bool.or_eq_true, decide_eq_true_eq] at hc'
      exact hc'.resolve_left hspace
    have hkept : c ∈ line.filter (· = '\t') := List.mem_filter.mpr ⟨hc, by simpa using htab⟩
    -- A tab in the margin would leave at least one space.
    have hspace' : ' ' ∈ expandTabs width (line.filter (· = '\t')) :=
      List.mem_flatMap.mpr ⟨c, hkept, by
        rw [if_pos htab]
        exact List.mem_replicate.mpr ⟨Nat.ne_of_gt hwidth, rfl⟩⟩
    rw [h.1] at hspace'
    exact absurd hspace' List.not_mem_nil
  · intro h
    have hspaces : line = spaces line.length :=
      List.eq_replicate_of_mem fun c hc => by simpa using List.all_eq_true.mp h c hc
    rw [hspaces, ← List.append_nil (spaces line.length), tidyLine_spaces_append]
    rfl

/-! ### The lines at the ends -/

/-- The raw line that becomes the first line of a text: the first one with anything else than
spaces. -/
def firstShown? (cs : List Char) : Option (List Char) := (lines cs).find? (!isBare ·)

/-- The raw line that becomes the last line of a text: the last one with anything else than
spaces. -/
def lastShown? (cs : List Char) : Option (List Char) := (lines cs).reverse.find? (!isBare ·)

theorem not_isBare_of_firstShown? {cs line : List Char} (h : firstShown? cs = some line) :
    isBare line = false := by
  simpa using List.find?_some h

theorem not_isBare_of_lastShown? {cs line : List Char} (h : lastShown? cs = some line) :
    isBare line = false := by
  simpa using List.find?_some h

/-- A list is what satisfies `p` at both of its ends, around what is between the first and the last
element that does not. -/
theorem exists_edges {α : Type} (p : α → Bool) (xs : List α) :
    ∃ before middle after, xs = before ++ (middle ++ after) ∧ (∀ x ∈ before, p x = true) ∧
      (∀ x ∈ after, p x = true) ∧ middle.head? = xs.find? (!p ·) ∧
      middle.getLast? = xs.reverse.find? (!p ·) := by
  have hsplit := List.takeWhile_append_dropWhile (p := p) (l := xs)
  have hbefore : ∀ x ∈ xs.takeWhile p, p x = true := fun x hx => List.mem_takeWhile_imp hx
  have hfirst := List.find?_not_eq_head?_dropWhile p xs
  generalize xs.takeWhile p = before at hsplit hbefore
  generalize xs.dropWhile p = rest at hsplit hfirst
  have hlast : (rest.rdropWhile p).getLast? = rest.reverse.find? (!p ·) := by
    rw [List.find?_not_eq_head?_dropWhile, List.rdropWhile, List.getLast?_reverse]
  have hnone : before.reverse.find? (!p ·) = none :=
    List.find?_eq_none.mpr fun x hx => by simpa using hbefore x (List.mem_reverse.mp hx)
  refine ⟨before, rest.rdropWhile p, rest.rtakeWhile p, ?_, hbefore,
    fun x hx => List.mem_rtakeWhile_imp hx, ?_, ?_⟩
  · rw [List.rdropWhile_append_rtakeWhile, hsplit]
  · cases rest with
    | nil => exact hfirst.symm
    | cons x rest =>
      have hx : p x = false := by simpa using List.find?_some hfirst
      obtain ⟨kept, hkept⟩ := exists_rdropWhile_cons hx rest
      rw [hkept, hfirst]
      rfl
  · rw [hlast, ← hsplit, List.reverse_append, List.find?_append, hnone, Option.or_none]

/-- The lines of a text that is not empty come from the raw lines between the first and the last one
that has anything else than spaces. -/
theorem exists_lines_tidy {width : Nat} (hwidth : 0 < width) {s : String} (h : tidy width s ≠ "") :
    ∃ shown, lines (tidy width s).toList = shown.map (tidyLine width) ∧ shown ≠ [] ∧
      shown.head? = firstShown? s.toList ∧ shown.getLast? = lastShown? s.toList := by
  obtain ⟨before, shown, after, hsplit, hbefore, hafter, hfirst, hlast⟩ :=
    exists_edges isBare (lines s.toList)
  have hedge {line : List Char} (hbare : isBare line = false) : tidyLine width line ≠ [] :=
    fun hnil => absurd ((tidyLine_eq_nil_iff hwidth line).mp hnil) (by simp [hbare])
  have hempty {ls : List (List Char)} (hbare : ∀ line ∈ ls, isBare line = true) :
      ∀ line ∈ ls.map (tidyLine width), line = [] := by
    intro line hline
    obtain ⟨raw, hraw, rfl⟩ := List.mem_map.mp hline
    exact (tidyLine_eq_nil_iff hwidth raw).mpr (hbare raw hraw)
  -- A line becomes empty if it is bare, so the ends that are cut off are the bare ones.
  have hkept : withoutEmptyEnds (tidyLines width s.toList) = shown.map (tidyLine width) := by
    rw [tidyLines, hsplit, List.map_append, List.map_append,
      withoutEmptyEnds_append (hempty hbefore) (hempty hafter)]
    · rw [List.head?_map, hfirst]
      intro hnil
      obtain ⟨line, hline, hnil⟩ := Option.map_eq_some_iff.mp hnil
      exact hedge (not_isBare_of_firstShown? hline) hnil
    · rw [List.getLast?_map, hlast]
      intro hnil
      obtain ⟨line, hline, hnil⟩ := Option.map_eq_some_iff.mp hnil
      exact hedge (not_isBare_of_lastShown? hline) hnil
  have hne : shown ≠ [] := by
    rintro rfl
    refine h (String.toList_inj.mp ?_)
    rw [toList_tidy_eq_unlines, hkept]
    rfl
  refine ⟨shown, ?_, hne, hfirst, hlast⟩
  rw [toList_tidy_eq_unlines, hkept, lines_unlines (by simpa using hne)]
  intro line hline
  obtain ⟨raw, hraw, rfl⟩ := List.mem_map.mp hline
  have hmem : raw ∈ lines s.toList := by
    rw [hsplit]
    exact List.mem_append_right before (List.mem_append_left after hraw)
  exact lineFeed_notMem_tidyLine (notMem_of_mem_lines hmem) width

/-! ### Tabs in front of everything visible -/

/-- There is something visible in the first line of a text. -/
def beginsVisibly (cs : List Char) : Bool :=
  (cs.takeWhile (· ≠ '\n')).any (!isLayoutChar ·)

/-- A tab in front of everything visible is on a line with something visible. -/
def opensVisibly : List Char → Bool
  | [] => true
  | c :: cs =>
    if c = '\t' then beginsVisibly cs else if isLayoutChar c then opensVisibly cs else true

theorem beginsVisibly_cons (c : Char) (cs : List Char) :
    beginsVisibly (c :: cs) =
      if c = '\n' then false else if isLayoutChar c then beginsVisibly cs else true := by
  rw [beginsVisibly, List.takeWhile_cons]
  by_cases hfeed : c = '\n'
  · simp [hfeed]
  · cases hc : isLayoutChar c <;> simp [hfeed, hc, beginsVisibly]

theorem beginsVisibly_append {a : List Char} (h : beginsVisibly a = true) (b : List Char) :
    beginsVisibly (a ++ b) = true := by
  induction a with
  | nil => cases h
  | cons c a ih =>
    rw [beginsVisibly_cons] at h
    rw [List.cons_append, beginsVisibly_cons]
    split_ifs at h ⊢ with hfeed hc
    · exact ih h
    · rfl

theorem opensVisibly_of_beginsVisibly {cs : List Char} (h : beginsVisibly cs = true) :
    opensVisibly cs = true := by
  induction cs with
  | nil => rfl
  | cons c cs ih =>
    rw [opensVisibly]
    by_cases hc : isLayoutChar c = true
    · have hrest : beginsVisibly cs = true := by
        rw [beginsVisibly_cons, if_pos hc] at h
        exact (ite_eq_iff.mp h).elim (fun hfeed => absurd hfeed.2 Bool.false_ne_true) And.right
      split_ifs
      · exact hrest
      · exact ih hrest
    · have htab : c ≠ '\t' := fun htab => hc (by rw [htab]; rfl)
      rw [if_neg htab, if_neg hc]

theorem opensVisibly_of_notMem {cs : List Char} (h : '\t' ∉ cs) : opensVisibly cs = true := by
  induction cs with
  | nil => rfl
  | cons c cs ih =>
    rw [List.mem_cons, not_or] at h
    rw [opensVisibly, if_neg (Ne.symm h.1), ih h.2, ite_self]

theorem opensVisibly_append {a b : List Char} (ha : opensVisibly a = true)
    (hb : opensVisibly b = true) : opensVisibly (a ++ b) = true := by
  induction a with
  | nil => exact hb
  | cons c a ih =>
    rw [opensVisibly] at ha
    rw [List.cons_append, opensVisibly]
    split_ifs at ha ⊢ with htab hc
    · exact beginsVisibly_append ha b
    · exact ih ha
    · rfl

theorem head?_lines (cs : List Char) : (lines cs).head? = some (cs.takeWhile (· ≠ '\n')) := by
  induction cs with
  | nil => rfl
  | cons c cs ih =>
    obtain ⟨line, rest, hcs⟩ := List.exists_cons_of_ne_nil (lines_ne_nil cs)
    rw [hcs, List.head?_cons, Option.some_inj] at ih
    rw [lines_cons]
    by_cases hc : c = '\n'
    · simp [hc]
    · simp [hc, hcs, ih]

/-- The first raw line that is shown has something visible. -/
theorem isMargin_of_opensVisibly {cs line : List Char} (h : opensVisibly cs = true)
    (hline : firstShown? cs = some line) : isMargin line = false := by
  induction cs generalizing line with
  | nil => cases hline
  | cons c cs ih =>
    obtain ⟨first, rest, hcs⟩ := List.exists_cons_of_ne_nil (lines_ne_nil cs)
    have hfirst : first = cs.takeWhile (· ≠ '\n') := by
      have hhead := head?_lines cs
      rwa [hcs, List.head?_cons, Option.some_inj] at hhead
    rw [firstShown?, lines_cons] at hline
    rw [firstShown?, hcs] at ih
    by_cases hfeed : c = '\n'
    · rw [if_pos hfeed, hcs] at hline
      -- The first line is empty, so it is not the one that is shown.
      rw [opensVisibly, hfeed] at h
      exact ih h hline
    · rw [if_neg hfeed, hcs, List.modifyHead_cons] at hline
      by_cases hspace : c = ' '
      · subst hspace
        rw [opensVisibly] at h
        -- A space makes no difference to whether the line is shown.
        cases hbare : isBare first with
        | true =>
          rw [List.find?_cons_of_neg (by simpa [isBare] using hbare)] at hline
          refine ih h ?_
          rw [List.find?_cons_of_neg (by simp [hbare]), hline]
        | false =>
          rw [List.find?_cons_of_pos (by simpa [isBare] using hbare)] at hline
          have hmargin := ih h (List.find?_cons_of_pos (by simp [hbare]))
          rw [← Option.some.inj hline]
          simpa [isMargin, isMarginChar] using hmargin
      · rw [List.find?_cons_of_pos (by simp [isBare, hspace])] at hline
        rw [← Option.some.inj hline]
        -- A line with a tab is shown, and this tab has something visible behind it on the line.
        by_cases htab : c = '\t'
        · rw [opensVisibly, if_pos htab, beginsVisibly, ← hfirst, List.any_eq_true] at h
          obtain ⟨d, hd, hvisible⟩ := h
          rw [isMargin, List.all_eq_false]
          refine ⟨d, List.mem_cons_of_mem c hd, fun hmargin => ?_⟩
          rw [isLayoutChar_of_isMarginChar hmargin] at hvisible
          cases hvisible
        · simp [isMargin, isMarginChar, hspace, htab]

/-! ### Texts read backwards -/

theorem lines_reverse (cs : List Char) :
    lines cs.reverse = ((lines cs).map List.reverse).reverse := by
  conv_lhs => rw [← unlines_lines cs]
  rw [reverse_unlines, lines_unlines]
  · simpa using lines_ne_nil cs
  · intro line hline
    obtain ⟨line', hline', rfl⟩ := List.mem_map.mp (List.mem_reverse.mp hline)
    exact fun hmem => notMem_of_mem_lines hline' (List.mem_reverse.mp hmem)

theorem firstShown?_reverse (cs : List Char) :
    firstShown? cs.reverse = (lastShown? cs).map List.reverse := by
  rw [firstShown?, lines_reverse, ← List.map_reverse, List.find?_map, lastShown?]
  congr 2
  funext line
  simp [isBare]

theorem isMargin_reverse (line : List Char) : isMargin line.reverse = isMargin line :=
  List.all_reverse

/-- The last raw line that is shown has something visible. -/
theorem isMargin_of_opensVisibly_reverse {cs line : List Char}
    (h : opensVisibly cs.reverse = true) (hline : lastShown? cs = some line) :
    isMargin line = false := by
  have hreverse : firstShown? cs.reverse = some line.reverse := by
    rw [firstShown?_reverse, hline, Option.map_some]
  rw [← isMargin_reverse, isMargin_of_opensVisibly h hreverse]

/-! ### Raw renderings -/

/-- A text in which a tab at either end is on a line with something visible. -/
def HasClearEdges (cs : List Char) : Prop :=
  opensVisibly cs = true ∧ opensVisibly cs.reverse = true

theorem hasClearEdges_of_notMem {cs : List Char} (h : '\t' ∉ cs) : HasClearEdges cs :=
  ⟨opensVisibly_of_notMem h, opensVisibly_of_notMem fun hmem => h (List.mem_reverse.mp hmem)⟩

theorem HasClearEdges.append {a b : List Char} (ha : HasClearEdges a) (hb : HasClearEdges b) :
    HasClearEdges (a ++ b) := by
  refine ⟨opensVisibly_append ha.1 hb.1, ?_⟩
  rw [List.reverse_append]
  exact opensVisibly_append hb.2 ha.2

section FlatMap

variable {f : Char → List Char}

theorem beginsVisibly_flatMap (hlayout : ∀ c, isLayoutChar c = true → f c = [c])
    (hvisible : ∀ c, isLayoutChar c = false → ∃ d ds, f c = d :: ds ∧ isLayoutChar d = false)
    {cs : List Char} (h : beginsVisibly cs = true) : beginsVisibly (cs.flatMap f) = true := by
  induction cs with
  | nil => cases h
  | cons c cs ih =>
    rw [beginsVisibly_cons] at h
    rw [List.flatMap_cons]
    cases hc : isLayoutChar c with
    | true =>
      rw [if_pos hc] at h
      rw [hlayout c hc, List.singleton_append, beginsVisibly_cons, if_pos hc]
      split_ifs at h ⊢
      exact ih h
    | false =>
      obtain ⟨d, ds, hds, hd⟩ := hvisible c hc
      have hfeed : d ≠ '\n' := fun hfeed => by rw [hfeed] at hd; cases hd
      rw [hds, List.cons_append, beginsVisibly_cons, hd, if_neg hfeed, if_neg Bool.false_ne_true]

theorem opensVisibly_flatMap (hlayout : ∀ c, isLayoutChar c = true → f c = [c])
    (hvisible : ∀ c, isLayoutChar c = false → ∃ d ds, f c = d :: ds ∧ isLayoutChar d = false)
    {cs : List Char} (h : opensVisibly cs = true) : opensVisibly (cs.flatMap f) = true := by
  induction cs with
  | nil => rfl
  | cons c cs ih =>
    rw [opensVisibly] at h
    rw [List.flatMap_cons]
    cases hc : isLayoutChar c with
    | true =>
      rw [if_pos hc] at h
      rw [hlayout c hc, List.singleton_append, opensVisibly, if_pos hc]
      split_ifs at h ⊢
      · exact beginsVisibly_flatMap hlayout hvisible h
      · exact ih h
    | false =>
      obtain ⟨d, ds, hds, hd⟩ := hvisible c hc
      have htab : d ≠ '\t' := fun htab => by rw [htab] at hd; cases hd
      rw [hds, List.cons_append, opensVisibly, hd, if_neg htab, if_neg Bool.false_ne_true]

/-- What follows the line feeds of a text makes no difference to its first line. -/
theorem beginsVisibly_flatMap_append (hf : ∀ c, c ≠ '\n' → f c = [c]) {cs : List Char}
    (h : beginsVisibly cs = true) (rest : List Char) :
    beginsVisibly (cs.flatMap f ++ rest) = true := by
  induction cs with
  | nil => cases h
  | cons c cs ih =>
    rw [beginsVisibly_cons] at h
    have hfeed : c ≠ '\n' := fun hfeed => by rw [if_pos hfeed] at h; cases h
    rw [if_neg hfeed] at h
    rw [List.flatMap_cons, hf c hfeed, List.singleton_append, List.cons_append, beginsVisibly_cons,
      if_neg hfeed]
    split_ifs at h ⊢
    · exact ih h
    · rfl

end FlatMap

theorem images_ne_nil_upperExpansions : ∀ e ∈ upperExpansions, e.2 ≠ [] := by
  decide +kernel

theorem upperChar_ne_nil (c : Char) : upperChar c ≠ [] := by
  rw [upperChar, mapCase]
  split
  · exact List.cons_ne_nil _ _
  · split
    · next ns hns =>
      obtain ⟨l₁, l₂, heq, -⟩ := List.lookup_eq_some_iff.mp hns
      rw [ne_eq, List.map_eq_nil_iff]
      exact images_ne_nil_upperExpansions (c.toNat, ns) (by simp [heq])
    · exact List.cons_ne_nil _ _

theorem hasClearEdges_upper {s : String} (h : HasClearEdges s.toList) :
    HasClearEdges (upper s).toList := by
  have hvisible (c : Char) (hc : isLayoutChar c = false) :
      ∀ d ∈ upperChar c, isLayoutChar d = false := by
    have hself := visibleChars_upperChar c
    rw [hc, if_neg Bool.false_ne_true] at hself
    exact fun d hd => by simpa using List.filter_eq_self.mp hself d hd
  have hne (c : Char) : (upperChar c).reverse ≠ [] := by simpa using upperChar_ne_nil c
  rw [toList_upper]
  refine ⟨opensVisibly_flatMap (fun c => upperChar_of_isLayoutChar) (fun c hc => ?_) h.1, ?_⟩
  · obtain ⟨d, ds, hds⟩ := List.exists_cons_of_ne_nil (upperChar_ne_nil c)
    exact ⟨d, ds, hds, hvisible c hc d (by simp [hds])⟩
  · rw [List.reverse_flatMap]
    refine opensVisibly_flatMap (fun c hc => ?_) (fun c hc => ?_) h.2
    · simp [upperChar_of_isLayoutChar hc]
    · obtain ⟨d, ds, hds⟩ := List.exists_cons_of_ne_nil (hne c)
      exact ⟨d, ds, hds, hvisible c hc d (List.mem_reverse.mp (by simp [hds]))⟩

/-- Something visible is in the first and in the last line of a text. -/
def HasVisibleEdges (cs : List Char) : Prop :=
  beginsVisibly cs = true ∧ beginsVisibly cs.reverse = true

instance : DecidablePred HasVisibleEdges :=
  fun cs => inferInstanceAs (Decidable (beginsVisibly cs = true ∧ beginsVisibly cs.reverse = true))

/-- Indentation keeps the edges clear if it does not indent bare lines there. -/
theorem hasClearEdges_indent {s : String} (h : HasVisibleEdges s.toList) :
    HasClearEdges (indent s).toList := by
  have hkeep (c : Char) (hc : c ≠ '\n') : (if c = '\n' then ['\n', '\t'] else [c]) = [c] :=
    if_neg hc
  rw [toList_indent]
  refine ⟨?_, opensVisibly_of_beginsVisibly ?_⟩
  · rw [opensVisibly, if_pos rfl, tabLines, ← List.append_nil (List.flatMap _ _)]
    exact beginsVisibly_flatMap_append hkeep h.1 []
  · rw [List.reverse_cons, tabLines, List.reverse_flatMap]
    refine beginsVisibly_flatMap_append (fun c hc => ?_) h.2 _
    simp [hc]

theorem hasClearEdges_renderLink {text href : String} (htext : HasClearEdges text.toList)
    (hhref : '\t' ∉ href.toList) : HasClearEdges (renderLink text href).toList := by
  have htarget := notMem_dropMailScheme hhref
  simp only [renderLink]
  split_ifs
  · exact hasClearEdges_of_notMem hhref
  · exact htext
  · refine hasClearEdges_of_notMem ?_
    simpa using htarget
  · rw [String.toList_append, String.toList_append, String.toList_append]
    exact ((htext.append (hasClearEdges_of_notMem (by decide))).append
      (hasClearEdges_of_notMem htarget)).append (hasClearEdges_of_notMem (by decide))

theorem hasClearEdges_shape {options : Options} {rule : Rule} {content href : String}
    (hbullet : '\t' ∉ options.bullet.toList)
    (hfill : ∀ c, rule = .banner c ∨ rule = .underlined c → c ≠ '\t')
    (htarget : rule = .link → '\t' ∉ href.toList)
    (hindented : rule = .indented → HasVisibleEdges content.toList)
    (hcontent : HasClearEdges content.toList) :
    HasClearEdges (rule.shape options content href).toList := by
  have hfeed : HasClearEdges "\n".toList := hasClearEdges_of_notMem (by decide)
  have hline {c : Char} (hc : c ≠ '\t') : HasClearEdges (repeated c options.ruleWidth).toList := by
    refine hasClearEdges_of_notMem fun hmem => hc ?_
    rw [repeated, String.toList_ofList] at hmem
    exact (List.eq_of_mem_replicate hmem).symm
  cases rule with
  | banner fill =>
    have hdrawn := hline (hfill fill (Or.inl rfl))
    simp only [Rule.shape, String.toList_append]
    exact (((hfeed.append hdrawn).append hfeed).append (hasClearEdges_upper hcontent)).append
      hfeed |>.append hdrawn
  | underlined fill =>
    have hdrawn := hline (hfill fill (Or.inr rfl))
    simp only [Rule.shape, String.toList_append]
    exact ((hfeed.append (hasClearEdges_upper hcontent)).append hfeed).append hdrawn
  | uppercase => exact hasClearEdges_upper hcontent
  | indented => exact hasClearEdges_indent (hindented rfl)
  | listItem =>
    rw [Rule.shape, String.toList_append]
    exact (hasClearEdges_of_notMem hbullet).append hcontent
  | link => exact hasClearEdges_renderLink hcontent (htarget rfl)
  | horizontalRule =>
    rw [Rule.shape, String.toList_append]
    exact hfeed.append (hline (by decide))
  | block | line | transparent => exact hcontent
  | lineBreak => exact hfeed
  | skip => exact ⟨rfl, rfl⟩

/-- No target of a link has a tab, and what is inside an indented element has something visible in
its first and in its last line. Elements that are not rendered do not count. -/
inductive Content.IndentsVisibly (rules : Rules) (options : Options) : Content → Prop
  | text (s : String) : IndentsVisibly rules options (.text s)
  | element {e : Element} {children : List Content}
      (htarget : rules.forTag e.tag = .link → '\t' ∉ ((e.attribute? "href").getD "").toList)
      (hindented : rules.forTag e.tag = .indented →
        HasVisibleEdges (renderAll rules options (isBlockTag e.tag) children).toList)
      (hchildren : (rules.forTag e.tag).visitsChildren = true →
        ∀ c ∈ children, IndentsVisibly rules options c) :
      IndentsVisibly rules options (.element e children)

section Contents

variable {rules : Rules} {options : Options}

mutual

/-- The raw rendering of a content has clear edges. -/
theorem Content.IndentsVisibly.hasClearEdges_render (hbullet : '\t' ∉ options.bullet.toList)
    (hfill : ∀ tag c, rules.forTag tag = .banner c ∨ rules.forTag tag = .underlined c → c ≠ '\t')
    (last : Bool) {content : Content} (h : content.IndentsVisibly rules options) :
    HasClearEdges (content.render rules options last).toList := by
  cases h with
  | text s =>
    rw [Content.render]
    exact hasClearEdges_of_notMem (isInline_collapse s).2
  | @element e children htarget hindented hchildren =>
    have hending : '\t' ∉ ((rules.forTag e.tag).ending last).toList :=
      List.count_eq_zero.mp (counts_ending (rules.forTag e.tag) last).2
    rw [Content.render, String.toList_append]
    refine (hasClearEdges_shape hbullet (hfill e.tag) htarget (fun hrule => ?_) ?_).append
      (hasClearEdges_of_notMem hending)
    · have hvisits : (rules.forTag e.tag).visitsChildren = true := by rw [hrule]; rfl
      rw [if_pos hvisits]
      exact hindented hrule
    · split_ifs with hvisits
      · exact hasClearEdges_renderAll hbullet hfill (isBlockTag e.tag) (hchildren hvisits)
      · exact hasClearEdges_of_notMem (by decide)

theorem hasClearEdges_renderAll (hbullet : '\t' ∉ options.bullet.toList)
    (hfill : ∀ tag c, rules.forTag tag = .banner c ∨ rules.forTag tag = .underlined c → c ≠ '\t')
    (inBlock : Bool) {contents : List Content}
    (h : ∀ c ∈ contents, c.IndentsVisibly rules options) :
    HasClearEdges (renderAll rules options inBlock contents).toList := by
  cases contents with
  | nil =>
    rw [renderAll]
    exact hasClearEdges_of_notMem (by decide)
  | cons content siblings =>
    rw [renderAll, String.toList_append]
    exact ((h content List.mem_cons_self).hasClearEdges_render hbullet hfill _).append
      (hasClearEdges_renderAll hbullet hfill inBlock
        fun c hc => h c (List.mem_cons_of_mem content hc))

end

end Contents

theorem fill_ne_tab_builtin (tag : String) (c : Char)
    (h : Rules.builtin.forTag tag = .banner c ∨ Rules.builtin.forTag tag = .underlined c) :
    c ≠ '\t' := by
  have hinline : IsInline (((⟨tag, []⟩ : Element).attribute? "href").getD "") := by
    simp [IsInline, Element.attribute?]
  exact ((marksInline_builtin fun _ => hinline).fill h).2

/-! ### Trees and sources -/

/-- How a line at one end of a text comes from a raw line. -/
structure IsEdge (width : Nat) (raw line : List Char) : Prop where
  eq_tidyLine : line = tidyLine width raw
  ne_nil : line ≠ []
  /-- A line of spaces comes from spaces and tabs. -/
  isBare_eq : isBare line = isMargin raw

theorem isEdge_tidyLine {width : Nat} (hwidth : 0 < width) {raw : List Char}
    (h : isBare raw = false) : IsEdge width raw (tidyLine width raw) where
  eq_tidyLine := rfl
  ne_nil hnil := by
    rw [(tidyLine_eq_nil_iff hwidth raw).mp hnil] at h
    cases h
  isBare_eq := isBare_tidyLine width raw

namespace Tree

/-- The first and the last line of the text `s` of a tree: the raw lines that they come from, and
when they surely are not lines of spaces. -/
def EdgesFollow (t : Tree) (s : String) : Prop :=
  ∃ root rawFirst rawLast first last,
    t.content 0 = .ok root ∧
      firstShown? (t.renderRoot .builtin {}).toList = some rawFirst ∧
      lastShown? (t.renderRoot .builtin {}).toList = some rawLast ∧
      (lines s.toList).head? = some first ∧ (lines s.toList).getLast? = some last ∧
      IsEdge 4 rawFirst first ∧ IsEdge 4 rawLast last ∧
      (root.IndentsVisibly .builtin {} → isBare first = false ∧ isBare last = false)

theorem edgesFollow_toText {t : Tree} (ht : t.Grown) (h : t.toText .builtin {} ≠ "") :
    t.EdgesFollow (t.toText .builtin {}) := by
  obtain ⟨root, hroot, hrender⟩ := exists_content_root .builtin {} ht.linked
  obtain ⟨shown, hlines, hne, hfirst, hlast⟩ := exists_lines_tidy (by decide) h
  have hhead := List.head?_eq_some_head hne
  have hend := List.getLast?_eq_some_getLast hne
  rw [hhead] at hfirst
  rw [hend] at hlast
  rw [← toText] at hlines
  generalize shown.head hne = rawFirst at hhead hfirst
  generalize shown.getLast hne = rawLast at hend hlast
  refine ⟨root, rawFirst, rawLast, tidyLine 4 rawFirst, tidyLine 4 rawLast, hroot, hfirst.symm,
    hlast.symm, ?_, ?_, isEdge_tidyLine (by decide) (not_isBare_of_firstShown? hfirst.symm),
    isEdge_tidyLine (by decide) (not_isBare_of_lastShown? hlast.symm), fun hvisible => ?_⟩
  · rw [hlines, List.head?_map, hhead]
    rfl
  · rw [hlines, List.getLast?_map, hend]
    rfl
  · have hclear := hvisible.hasClearEdges_render (by decide) fill_ne_tab_builtin false
    rw [← hrender] at hclear
    rw [isBare_tidyLine, isBare_tidyLine, isMargin_of_opensVisibly hclear.1 hfirst.symm,
      isMargin_of_opensVisibly_reverse hclear.2 hlast.symm]
    exact ⟨rfl, rfl⟩

/-! ### A page with a heading and a quotation -/

/-- A heading, and a quotation of two lines behind it. -/
def quotedPage : Tree :=
  ((((((ofRoot "html").grow 0 (.element (.normalized "h4" []))).grow 1 (.text "a")).grow 0
    (.element (.normalized "blockquote" []))).grow 3 (.text "b")).grow 3
    (.element (.normalized "br" []))).grow 3 (.text "c")

theorem grown_quotedPage : quotedPage.Grown :=
  ((((((Grown.ofRoot "html").growElement (by decide) "h4" []).growText (by decide) "a").growElement
    (by decide) "blockquote" []).growText (by decide) "b").growElement (by decide) "br"
    []).growText (by decide) "c"

/-- The content of the root of the page. -/
def quotedContent : Content :=
  .element ⟨"html", []⟩ [.element ⟨"h4", []⟩ [.text "a"],
    .element ⟨"blockquote", []⟩ [.text "b", .element ⟨"br", []⟩ [], .text "c"]]

theorem indentsVisibly_quotedContent : quotedContent.IndentsVisibly .builtin {} := by
  have hrules : ["html", "h4", "blockquote", "br"].map Rules.builtin.forTag =
      [.transparent, .uppercase, .indented, .lineBreak] := by decide +kernel
  simp only [List.map_cons, List.map_nil, List.cons.injEq, and_true] at hrules
  obtain ⟨hhtml, hheading, hquotation, hbreak⟩ := hrules
  refine .element (by simp [hhtml]) (by simp [hhtml]) fun _ => ?_
  simp only [List.forall_mem_cons, List.not_mem_nil, false_implies, implies_true, and_true]
  refine ⟨.element (by simp [hheading]) (by simp [hheading]) fun _ => ?_,
    .element (by simp [hquotation]) (fun _ => by decide +kernel) fun _ => ?_⟩
  · simpa using Content.IndentsVisibly.text "a"
  · simp only [List.forall_mem_cons, List.not_mem_nil, false_implies, implies_true, and_true]
    exact ⟨.text "b", .element (by simp [hbreak]) (by simp [hbreak]) (by simp), .text "c"⟩

end Tree

theorem Page.grown_tree (s : String) : (Page.ofSource s).tree.Grown := by
  rw [Page.ofSource]
  exact Tree.grown_ofDom _

namespace Converter

/-- **The first and the last line.** If the text of a tree or of a source is not empty, then its
first and its last line are not empty. Each comes from the first or the last raw line that has
anything else than spaces, and it is a line of spaces if this raw line has only spaces and tabs. So
it never is if no target of a link has a tab and what is inside each indented element begins and
ends with a line that has something visible. -/
theorem edge_lines :
    (∀ t : Tree, t.Grown → t.toText .builtin {} ≠ "" → t.EdgesFollow (t.toText .builtin {})) ∧
      ∀ html s, ({} : Converter).convert html = .ok s → s ≠ "" →
        (Page.ofSource (normalize html)).tree.EdgesFollow s := by
  refine ⟨fun t ht h => Tree.edgesFollow_toText ht h, fun html s hconvert hne => ?_⟩
  have hs := ({} : Converter).eq_of_convert_eq_ok html hconvert
  cases hblank : isBlankText html with
  | true =>
    rw [hblank, if_pos rfl] at hs
    exact absurd hs hne
  | false =>
    rw [hblank, if_neg Bool.false_ne_true] at hs
    rw [hs] at hne ⊢
    exact Tree.edgesFollow_toText (Page.grown_tree (normalize html)) hne

theorem edge_lines_quotation :
    Tree.quotedPage.Grown ∧ Tree.quotedPage.toText .builtin {} ≠ "" ∧
      Tree.quotedPage.EdgesFollow (Tree.quotedPage.toText .builtin {}) ∧
      Tree.quotedPage.content 0 = .ok Tree.quotedContent ∧
      Tree.quotedContent.IndentsVisibly .builtin {} ∧
      ({} : Converter).convert "<pre>a</pre>" = .ok "    a" ∧
      (Page.ofSource (normalize "<pre>a</pre>")).tree.EdgesFollow "    a" := by
  have hne : Tree.quotedPage.toText .builtin {} ≠ "" := by decide +kernel
  have hconvert : ({} : Converter).convert "<pre>a</pre>" = .ok "    a" := by decide +kernel
  refine ⟨Tree.grown_quotedPage, hne, edge_lines.1 _ Tree.grown_quotedPage hne, rfl,
    Tree.indentsVisibly_quotedContent, hconvert, edge_lines.2 _ _ hconvert (by decide)⟩

/-- A line break at the end of a quotation leaves a line of spaces. -/
theorem not_forall_isBare_eq_false :
    ¬∀ html s first last, ({} : Converter).convert html = .ok s → s ≠ "" →
      (lines s.toList).head? = some first → (lines s.toList).getLast? = some last →
        isBare first = false ∧ isBare last = false := by
  intro h
  have hconvert :
      ({} : Converter).convert "<blockquote>A<br></blockquote>" = .ok "    A\n    " := by
    decide +kernel
  have hlast := (h _ _ "    A".toList "    ".toList hconvert (by decide) (by decide) (by decide)).2
  exact absurd hlast (by decide)

end Converter

end HtmlText
