import HtmlText.Proofs.TextLines

/-!
# The whitespace pass as four passes

The final whitespace pass goes over a text once: it splits each line into its margin and its body,
trims the body alone and writes the tabs of both as spaces. Its effect is that of four simple passes
over the whole text, one after the other. The spaces in the margin of every line go first, then the
spaces at the end of every line, then all tabs become spaces, and at last the line feeds at both
ends of the text are cut off. Only the last pass is about more than one line at a time, and it works
on lines too: it removes the empty ones at both ends.

## Main definitions

* `perLine`: a pass that treats every line of a text by itself.
* `dropMarginSpaces`, `dropEndSpaces`: the first two passes, on one line.

## Main results

* `tidyLine_eq`: the first three passes on one line.
* `perLine_perLine`, `expandTabs_eq_perLine`: passes over a text are passes over its lines.
* `tidy_eq_passes`: the whitespace pass.
-/

namespace HtmlText

/-! ### Passes over the lines of a text -/

/-- Every line of a text as `f` leaves it. -/
def perLine (f : List Char → List Char) (cs : List Char) : List Char :=
  unlines ((lines cs).map f)

/-- The lines of a text after a pass that puts no line feed into a line. -/
theorem lines_perLine {f : List Char → List Char} (h : ∀ line, '\n' ∉ line → '\n' ∉ f line)
    (cs : List Char) : lines (perLine f cs) = (lines cs).map f := by
  refine lines_unlines (by simpa using lines_ne_nil cs) fun line hline => ?_
  obtain ⟨raw, hraw, rfl⟩ := List.mem_map.mp hline
  exact h raw (notMem_of_mem_lines hraw)

/-- Two passes one after the other are one pass. -/
theorem perLine_perLine {f : List Char → List Char} (h : ∀ line, '\n' ∉ line → '\n' ∉ f line)
    (g : List Char → List Char) (cs : List Char) :
    perLine g (perLine f cs) = perLine (fun line => g (f line)) cs := by
  rw [perLine, lines_perLine h, List.map_map]
  rfl

theorem expandTabs_unlines (width : Nat) (ls : List (List Char)) :
    expandTabs width (unlines ls) = unlines (ls.map (expandTabs width)) := by
  induction ls with
  | nil => rfl
  | cons line ls ih =>
    by_cases hls : ls = []
    · simp [hls, unlines]
    · have hfeed : expandTabs width ('\n' :: unlines ls) = '\n' :: expandTabs width (unlines ls) :=
        rfl
      rw [unlines_cons hls, expandTabs_append, hfeed, ih, List.map_cons, unlines_cons (by simpa)]

/-- Tabs can be written as spaces line by line. -/
theorem expandTabs_eq_perLine (width : Nat) (cs : List Char) :
    expandTabs width cs = perLine (expandTabs width) cs := by
  rw [perLine, ← expandTabs_unlines, unlines_lines]

/-! ### The passes on one line -/

/-- A line without the spaces of its margin. The tabs of the margin stay. -/
def dropMarginSpaces (line : List Char) : List Char :=
  (line.takeWhile isMarginChar).filter (· ≠ ' ') ++ line.dropWhile isMarginChar

/-- A line without the spaces at its end. -/
def dropEndSpaces (line : List Char) : List Char := dropEndWhile (· = ' ') line

theorem subset_dropMarginSpaces (line : List Char) : dropMarginSpaces line ⊆ line := by
  intro c hc
  rcases List.mem_append.mp hc with hc | hc
  · exact (List.takeWhile_prefix _).subset (List.mem_filter.mp hc).1
  · exact (List.dropWhile_suffix _).subset hc

theorem dropEndSpaces_subset (line : List Char) : dropEndSpaces line ⊆ line :=
  (List.rdropWhile_prefix _ _).subset

/-- Spaces at the end of a line are not in front of it if there is no space there. -/
theorem dropEndSpaces_append {front : List Char} (h : ' ' ∉ front) (body : List Char) :
    dropEndSpaces (front ++ body) = front ++ dropEndSpaces body := by
  induction body using List.reverseRecOn with
  | nil =>
    rw [List.append_nil, dropEndSpaces, dropEndWhile_eq_rdropWhile, List.rdropWhile_eq_self_iff.mpr]
    · exact (List.append_nil front).symm
    · intro hne hlast
      have hspace : front.getLast hne = ' ' := by simpa using hlast
      exact h (hspace ▸ List.getLast_mem hne)
  | append_singleton body c ih =>
    rw [dropEndSpaces, dropEndWhile_eq_rdropWhile, ← List.append_assoc, List.rdropWhile_concat,
      dropEndSpaces, dropEndWhile_eq_rdropWhile, List.rdropWhile_concat]
    split_ifs
    · exact ih
    · exact List.append_assoc front body [c]

/-- What the whitespace pass makes of a line is what the first three passes make of it. -/
theorem tidyLine_eq (width : Nat) (line : List Char) :
    tidyLine width line = expandTabs width (dropEndSpaces (dropMarginSpaces line)) := by
  have htabs : (line.takeWhile isMarginChar).filter (· = '\t') =
      (line.takeWhile isMarginChar).filter (· ≠ ' ') := by
    refine List.filter_congr fun c hc => ?_
    have hmargin : isMarginChar c = true := List.mem_takeWhile_imp hc
    rcases Bool.or_eq_true _ _ ▸ hmargin with hspace | htab
    · simp [of_decide_eq_true hspace]
    · simp [of_decide_eq_true htab]
  have hspace : ' ' ∉ (line.takeWhile isMarginChar).filter (· ≠ ' ') := by
    simp
  rw [tidyLine, htabs, dropMarginSpaces, dropEndSpaces_append hspace]
  rfl

/-! ### The whole text -/

/-- The lines of a text, each after the first three passes. -/
def passedLines (width : Nat) (cs : List Char) : List (List Char) :=
  (lines cs).map fun line => expandTabs width (dropEndSpaces (dropMarginSpaces line))

theorem tidyLines_eq_passedLines (width : Nat) (cs : List Char) :
    tidyLines width cs = passedLines width cs :=
  List.map_congr_left fun line _ => tidyLine_eq width line

/-- The first three passes, each over the whole text, leave the text with the passed lines. -/
theorem expandTabs_perLine (width : Nat) (cs : List Char) :
    expandTabs width (perLine dropEndSpaces (perLine dropMarginSpaces cs)) =
      unlines (passedLines width cs) := by
  have hmargin : ∀ line, '\n' ∉ line → '\n' ∉ dropMarginSpaces line :=
    fun line h hmem => h (subset_dropMarginSpaces line hmem)
  have hend : ∀ line, '\n' ∉ line → '\n' ∉ dropEndSpaces (dropMarginSpaces line) :=
    fun line h hmem => hmargin line h (dropEndSpaces_subset _ hmem)
  calc expandTabs width (perLine dropEndSpaces (perLine dropMarginSpaces cs))
    _ = perLine (expandTabs width) (perLine dropEndSpaces (perLine dropMarginSpaces cs)) :=
        expandTabs_eq_perLine width _
    _ = perLine (expandTabs width)
          (perLine (fun line => dropEndSpaces (dropMarginSpaces line)) cs) := by
        rw [perLine_perLine hmargin]
    _ = unlines (passedLines width cs) := perLine_perLine hend (expandTabs width) cs

/-- **The whitespace pass.** It is the same as four passes over the whole text: the spaces in the
margin of each line and at its end are dropped, tabs become spaces, and line feeds at both ends are
cut off. What is left are the lines of the text, each after the first three passes, without the
empty ones at both ends. If all of them are empty, then nothing is left. -/
theorem tidy_eq_passes (width : Nat) (s : String) :
    tidy width s = String.ofList (trimLineFeeds (expandTabs width
        (perLine dropEndSpaces (perLine dropMarginSpaces s.toList)))) ∧
      tidy width s = String.ofList (unlines (withoutEmptyEnds (passedLines width s.toList))) ∧
      ((∀ line ∈ passedLines width s.toList, line = []) → tidy width s = "") ∧
      ((∃ line ∈ passedLines width s.toList, line ≠ []) →
        lines (tidy width s).toList = withoutEmptyEnds (passedLines width s.toList)) := by
  have hkept := toList_tidy_eq_unlines width s
  have hmem : ∀ line ∈ withoutEmptyEnds (passedLines width s.toList), '\n' ∉ line := by
    intro line hline
    have hline := (List.dropWhile_suffix _).subset ((List.rdropWhile_prefix _ _).subset hline)
    rw [← tidyLines_eq_passedLines] at hline
    exact lineFeed_notMem_of_mem_tidyLines hline
  rw [tidyLines_eq_passedLines] at hkept
  refine ⟨?_, ?_, fun hempty => ?_, fun hnonempty => ?_⟩
  · rw [expandTabs_perLine, ← tidyLines_eq_passedLines]
    rfl
  · rw [← hkept, String.ofList_toList]
  · rw [withoutEmptyEnds_eq_nil_iff.mpr hempty] at hkept
    exact String.toList_inj.mp hkept
  · have hne : withoutEmptyEnds (passedLines width s.toList) ≠ [] := by
      obtain ⟨line, hline, hcontent⟩ := hnonempty
      exact fun hnil => hcontent (withoutEmptyEnds_eq_nil_iff.mp hnil line hline)
    rw [hkept, lines_unlines hne hmem]

/-- Tabs of width zero leave an empty line of a line of tabs, and it is cut off with the others. -/
example : tidy 0 "\t \n \ta \n\t" = "a" ∧ tidy 2 "\t \n \ta \n\t" = "  \n  a\n  " := by
  decide +kernel

end HtmlText
