import HtmlText.Text.Tidy
import Mathlib.Data.List.DropRight

/-!
# Lines under the whitespace pass

The whitespace pass looks at each line of a text by itself, and of a line it sees only the tabs in
its margin and its body without the spaces at its end. So it is enough to know how the tidied lines
of a text change when texts are put together, when spaces are put at its ends and when it is
indented.

## Main definitions

* `tabLines`: a tab behind every line feed of a text.
* `spaces`: a run of spaces.
* `tidyLines`: the lines of a text, each as the whitespace pass leaves it.
* `withoutEmptyEnds`: lines without the empty ones at both ends.

## Main results

* `tidyLines_append_lineFeed`: a line feed between two texts.
* `tidyLines_spaces_append`, `tidyLines_append_spaces`: spaces at the ends of a text.
* `tidyLines_indent`: indentation puts spaces in front of every tidied line.
* `trimLineFeeds_unlines`: line feeds at the ends of a text are the empty lines there.
-/

namespace HtmlText

/-! ### Lines -/

theorem pieces_eq_splitOn (separator : Char) (cs : List Char) :
    pieces separator cs = cs.splitOn separator := by
  induction cs with
  | nil => rfl
  | cons c cs ih =>
    rw [pieces, List.splitOn_cons_eq_if_modifyHead, ← ih]
    cases h : pieces separator cs with
    | nil => exact absurd h (pieces_ne_nil separator cs)
    | cons piece rest => simp only [beq_iff_eq, List.modifyHead_cons]

theorem lines_eq_splitOn (cs : List Char) : lines cs = cs.splitOn '\n' :=
  pieces_eq_splitOn '\n' cs

theorem lines_append_lineFeed (a b : List Char) :
    lines (a ++ '\n' :: b) = lines a ++ lines b := by
  simp only [lines_eq_splitOn, List.splitOn_append_cons_self]

theorem lines_of_notMem {cs : List Char} (h : '\n' ∉ cs) : lines cs = [cs] :=
  pieces_of_notMem h

theorem lines_cons (c : Char) (cs : List Char) :
    lines (c :: cs) = if c = '\n' then [] :: lines cs else (lines cs).modifyHead (c :: ·) := by
  simp only [lines_eq_splitOn, List.splitOn_cons_eq_if_modifyHead, beq_iff_eq]

/-- A text that is put in front of another one without a line feed lengthens its first line. -/
theorem lines_append_of_notMem {a : List Char} (h : '\n' ∉ a) (b : List Char) :
    lines (a ++ b) = (lines b).modifyHead (a ++ ·) := by
  obtain ⟨line, rest, hb⟩ := List.exists_cons_of_ne_nil (lines_ne_nil b)
  induction a with
  | nil => simp [hb]
  | cons c a ih =>
    rw [List.mem_cons, not_or] at h
    rw [List.cons_append, lines_cons, if_neg (Ne.symm h.1), ih h.2, hb]
    simp

/-- A text without a line feed that is put behind another one lengthens its last line. -/
theorem exists_lines_append {b : List Char} (h : '\n' ∉ b) (a : List Char) :
    ∃ init last, lines a = init ++ [last] ∧ lines (a ++ b) = init ++ [last ++ b] := by
  induction a with
  | nil => exact ⟨[], [], rfl, lines_of_notMem h⟩
  | cons c a ih =>
    obtain ⟨init, last, ha, hab⟩ := ih
    rw [List.cons_append, lines_cons, lines_cons, ha, hab]
    by_cases hc : c = '\n'
    · exact ⟨[] :: init, last, by simp [hc], by simp [hc]⟩
    · cases init with
      | nil => exact ⟨[], c :: last, by simp [hc], by simp [hc]⟩
      | cons line init => exact ⟨(c :: line) :: init, last, by simp [hc], by simp [hc]⟩

theorem notMem_of_mem_lines {cs line : List Char} (h : line ∈ lines cs) : '\n' ∉ line :=
  notMem_of_mem_pieces h

/-- The lines of a text that was put together from lines. -/
theorem lines_unlines {ls : List (List Char)} (hne : ls ≠ []) (h : ∀ line ∈ ls, '\n' ∉ line) :
    lines (unlines ls) = ls :=
  pieces_intercalate hne h

/-- A tab behind every line feed. -/
def tabLines (cs : List Char) : List Char :=
  cs.flatMap fun c => if c = '\n' then ['\n', '\t'] else [c]

theorem unlines_tab_lines (cs : List Char) :
    unlines ((lines cs).map ('\t' :: ·)) = '\t' :: tabLines cs := by
  induction cs with
  | nil => rfl
  | cons c cs ih =>
    obtain ⟨line, rest, hcs⟩ := List.exists_cons_of_ne_nil (lines_ne_nil cs)
    rw [lines_cons, tabLines, List.flatMap_cons, ← tabLines]
    by_cases hc : c = '\n'
    · rw [if_pos hc, if_pos hc, List.map_cons, unlines,
        List.intercalate_cons_of_ne_nil (by simp [hcs]), ← unlines, ih]
      rfl
    · rw [hcs, List.map_cons] at ih
      rw [if_neg hc, if_neg hc, hcs, List.modifyHead_cons, List.map_cons]
      cases rest <;> simp_all [unlines, List.intercalate]

/-- Indentation puts a tab at the start of a text and behind each of its line feeds. -/
theorem toList_indent (s : String) : (indent s).toList = '\t' :: tabLines s.toList := by
  rw [indent, String.toList_ofList, unlines_tab_lines]

/-! ### One line -/

/-- A run of spaces. -/
def spaces (n : Nat) : List Char := List.replicate n ' '

theorem spaces_add (m n : Nat) : spaces (m + n) = spaces m ++ spaces n :=
  List.replicate_add ..

theorem dropEndWhile_eq_rdropWhile {α : Type} (p : α → Bool) (xs : List α) :
    dropEndWhile p xs = xs.rdropWhile p := rfl

@[simp] theorem expandTabs_append (width : Nat) (a b : List Char) :
    expandTabs width (a ++ b) = expandTabs width a ++ expandTabs width b :=
  List.flatMap_append

theorem expandTabs_of_notMem {cs : List Char} (h : '\t' ∉ cs) (width : Nat) :
    expandTabs width cs = cs := by
  induction cs with
  | nil => rfl
  | cons c cs ih =>
    rw [List.mem_cons, not_or] at h
    rw [expandTabs, List.flatMap_cons, if_neg (Ne.symm h.1)]
    exact congrArg (c :: ·) (ih h.2)

/-- A tab in front of a line becomes spaces. -/
theorem tidyLine_tab (width : Nat) (line : List Char) :
    tidyLine width ('\t' :: line) = spaces width ++ tidyLine width line := by
  simp [tidyLine, isMarginChar, expandTabs, spaces]

/-- A space in front of a line does not show. -/
theorem tidyLine_space (width : Nat) (line : List Char) :
    tidyLine width (' ' :: line) = tidyLine width line := by
  simp [tidyLine, isMarginChar]

/-- A space at the end of a line does not show. -/
theorem tidyLine_append_space (width : Nat) (line : List Char) :
    tidyLine width (line ++ [' ']) = tidyLine width line := by
  by_cases h : ∀ c ∈ line, isMarginChar c = true
  · have hdrop : line.dropWhile isMarginChar = [] := List.dropWhile_eq_nil_iff.mpr h
    have htake : line.takeWhile isMarginChar = line := List.takeWhile_eq_self_iff.mpr h
    rw [tidyLine, tidyLine, List.takeWhile_append_of_pos h, List.dropWhile_append_of_pos h, hdrop,
      htake]
    simp [isMarginChar, dropEndWhile]
  · have htake : (line.takeWhile isMarginChar).length ≠ line.length := by
      intro hlength
      have hself := (List.takeWhile_prefix isMarginChar).eq_of_length hlength
      exact h (List.takeWhile_eq_self_iff.mp hself)
    have hdrop : (line.dropWhile isMarginChar).isEmpty = false := by
      rw [List.isEmpty_eq_false_iff]
      exact fun hnil => h (List.dropWhile_eq_nil_iff.mp hnil)
    rw [tidyLine, tidyLine, List.takeWhile_append, if_neg htake, List.dropWhile_append, hdrop,
      if_neg Bool.false_ne_true, dropEndWhile_eq_rdropWhile, dropEndWhile_eq_rdropWhile,
      List.rdropWhile_concat_pos _ _ _ (by decide)]

theorem tidyLine_spaces_append (width n : Nat) (line : List Char) :
    tidyLine width (spaces n ++ line) = tidyLine width line := by
  induction n with
  | zero => rfl
  | succ n ih =>
    rw [spaces, List.replicate_succ, List.cons_append, tidyLine_space]
    exact ih

theorem tidyLine_append_spaces (width n : Nat) (line : List Char) :
    tidyLine width (line ++ spaces n) = tidyLine width line := by
  induction n with
  | zero => rw [spaces, List.replicate_zero, List.append_nil]
  | succ n ih =>
    rw [spaces, List.replicate_succ', ← List.append_assoc, tidyLine_append_space]
    exact ih

/-- A line without tabs loses its outer spaces. -/
theorem tidyLine_of_notMem {line : List Char} (h : '\t' ∉ line) (width : Nat) :
    tidyLine width line = dropEndWhile (· = ' ') (line.dropWhile (· = ' ')) := by
  induction line with
  | nil => rfl
  | cons c line ih =>
    rw [List.mem_cons, not_or] at h
    by_cases hc : c = ' '
    · rw [hc, tidyLine_space, ih h.2]
      simp
    · have hmargin : isMarginChar c = false := by
        simpa [isMarginChar, hc] using Ne.symm h.1
      have hnotMem : '\t' ∉ dropEndWhile (· = ' ') (c :: line) := fun hmem =>
        List.not_mem_cons_of_ne_of_not_mem h.1 h.2 ((List.rdropWhile_prefix _ _).subset hmem)
      rw [tidyLine, List.takeWhile_cons_of_neg (by simp [hmargin]),
        List.dropWhile_cons_of_neg (by simp [hmargin]), List.dropWhile_cons_of_neg (by simp [hc]),
        List.filter_nil, List.nil_append, expandTabs_of_notMem hnotMem]

/-! ### Tidied lines -/

/-- The lines of a text, each as the whitespace pass leaves it. -/
def tidyLines (width : Nat) (cs : List Char) : List (List Char) :=
  (lines cs).map (tidyLine width)

theorem tidyLines_ne_nil (width : Nat) (cs : List Char) : tidyLines width cs ≠ [] := by
  rw [tidyLines, ne_eq, List.map_eq_nil_iff]
  exact lines_ne_nil cs

theorem toList_tidy (width : Nat) (s : String) :
    (tidy width s).toList = trimLineFeeds (unlines (tidyLines width s.toList)) :=
  String.toList_ofList

theorem tidyLines_of_notMem {cs : List Char} (h : '\n' ∉ cs) (width : Nat) :
    tidyLines width cs = [tidyLine width cs] := by
  rw [tidyLines, lines_of_notMem h, List.map_singleton]

theorem tidyLines_append_lineFeed (width : Nat) (a b : List Char) :
    tidyLines width (a ++ '\n' :: b) = tidyLines width a ++ tidyLines width b := by
  rw [tidyLines, lines_append_lineFeed, List.map_append]
  rfl

theorem lineFeed_notMem_spaces (n : Nat) : '\n' ∉ spaces n := by
  simp [spaces, List.mem_replicate]

/-- Spaces in front of a text do not show. -/
theorem tidyLines_spaces_append (width n : Nat) (cs : List Char) :
    tidyLines width (spaces n ++ cs) = tidyLines width cs := by
  obtain ⟨line, rest, hcs⟩ := List.exists_cons_of_ne_nil (lines_ne_nil cs)
  rw [tidyLines, tidyLines, lines_append_of_notMem (lineFeed_notMem_spaces n), hcs,
    List.modifyHead_cons, List.map_cons, List.map_cons, tidyLine_spaces_append]

/-- Spaces behind a text do not show. -/
theorem tidyLines_append_spaces (width n : Nat) (cs : List Char) :
    tidyLines width (cs ++ spaces n) = tidyLines width cs := by
  obtain ⟨init, last, hcs, happend⟩ := exists_lines_append (lineFeed_notMem_spaces n) cs
  rw [tidyLines, tidyLines, happend, hcs, List.map_append, List.map_append, List.map_singleton,
    List.map_singleton, tidyLine_append_spaces]

/-- Indentation puts spaces in front of every tidied line, the empty ones included. -/
theorem tidyLines_indent (width : Nat) (s : String) :
    tidyLines width (indent s).toList = (tidyLines width s.toList).map (spaces width ++ ·) := by
  have hlines : lines (indent s).toList = (lines s.toList).map ('\t' :: ·) := by
    rw [indent, String.toList_ofList, lines_unlines]
    · rw [ne_eq, List.map_eq_nil_iff]
      exact lines_ne_nil _
    · intro line hline
      obtain ⟨line', hline', rfl⟩ := List.mem_map.mp hline
      exact List.not_mem_cons_of_ne_of_not_mem (by decide) (notMem_of_mem_lines hline')
  rw [tidyLines, hlines, tidyLines, List.map_map, List.map_map]
  exact List.map_congr_left fun line _ => tidyLine_tab width line

theorem lineFeed_notMem_tidyLine {line : List Char} (h : '\n' ∉ line) (width : Nat) :
    '\n' ∉ tidyLine width line := by
  intro hmem
  rw [tidyLine, expandTabs, List.mem_flatMap] at hmem
  obtain ⟨c, hc, hmem⟩ := hmem
  have hline : c ∈ line := by
    rcases List.mem_append.mp hc with hc | hc
    · exact (List.takeWhile_prefix _).subset (List.mem_filter.mp hc).1
    · exact (List.dropWhile_suffix _).subset ((List.rdropWhile_prefix _ _).subset hc)
  split_ifs at hmem
  · exact lineFeed_notMem_spaces width hmem
  · rw [List.mem_singleton] at hmem
    exact h (hmem ▸ hline)

theorem lineFeed_notMem_of_mem_tidyLines {width : Nat} {cs line : List Char}
    (h : line ∈ tidyLines width cs) : '\n' ∉ line := by
  obtain ⟨line', hline', rfl⟩ := List.mem_map.mp h
  exact lineFeed_notMem_tidyLine (notMem_of_mem_lines hline') width

/-! ### Empty lines at the ends -/

theorem trimLineFeeds_of_notMem {cs : List Char} (h : '\n' ∉ cs) : trimLineFeeds cs = cs := by
  have hne : ∀ c ∈ cs, ¬decide (c = '\n') = true := fun c hc heq =>
    h (of_decide_eq_true heq ▸ hc)
  have hstart : cs.dropWhile (· = '\n') = cs := by
    cases cs with
    | nil => rfl
    | cons c cs => exact List.dropWhile_cons_of_neg (hne c List.mem_cons_self)
  rw [trimLineFeeds, hstart, dropEndWhile_eq_rdropWhile, List.rdropWhile_eq_self_iff]
  exact fun hnil => hne _ (List.getLast_mem hnil)

theorem unlines_cons {ls : List (List Char)} (h : ls ≠ []) (line : List Char) :
    unlines (line :: ls) = line ++ '\n' :: unlines ls := by
  rw [unlines, List.intercalate_cons_of_ne_nil h, List.append_assoc]
  rfl

theorem unlines_append {ls ls' : List (List Char)} (h : ls ≠ []) (h' : ls' ≠ []) :
    unlines (ls ++ ls') = unlines ls ++ '\n' :: unlines ls' := by
  induction ls with
  | nil => exact absurd rfl h
  | cons line ls ih =>
    rw [List.cons_append, unlines_cons (by simp [h'])]
    by_cases hls : ls = []
    · subst hls
      simp [unlines]
    · rw [unlines_cons hls, ih hls, List.append_assoc, List.cons_append]

theorem reverse_unlines (ls : List (List Char)) :
    (unlines ls).reverse = unlines (ls.map List.reverse).reverse := by
  induction ls with
  | nil => rfl
  | cons line ls ih =>
    by_cases hls : ls = []
    · simp [hls, unlines]
    · have hne : (ls.map List.reverse).reverse ≠ [] := by simpa using hls
      rw [List.map_cons, List.reverse_cons, unlines_append hne (List.cons_ne_nil _ _), ← ih,
        ← List.singleton_append, unlines_append (List.cons_ne_nil _ _) hls]
      simp [unlines]

/-- Lines without the empty ones at both ends. -/
def withoutEmptyEnds (ls : List (List Char)) : List (List Char) :=
  dropEndWhile (· = []) (ls.dropWhile (· = []))

theorem dropWhile_unlines {ls : List (List Char)} (hmem : ∀ line ∈ ls, '\n' ∉ line) :
    (unlines ls).dropWhile (· = '\n') = unlines (ls.dropWhile (· = [])) := by
  induction ls with
  | nil => rfl
  | cons line ls ih =>
    rw [List.forall_mem_cons] at hmem
    cases line with
    | nil =>
      rw [List.dropWhile_cons_of_pos (by simp), ← ih hmem.2]
      by_cases hls : ls = []
      · rw [hls]
        rfl
      · rw [unlines_cons hls, List.nil_append, List.dropWhile_cons_of_pos (by simp)]
    | cons c cs =>
      have hc : '\n' ≠ c := (not_or.mp (List.mem_cons.not.mp hmem.1)).1
      rw [List.dropWhile_cons_of_neg (by simp)]
      by_cases hls : ls = []
      · simp [hls, unlines, Ne.symm hc]
      · rw [unlines_cons hls, List.cons_append, List.dropWhile_cons_of_neg (by simpa using hc.symm)]

theorem dropEndWhile_unlines {ls : List (List Char)} (hmem : ∀ line ∈ ls, '\n' ∉ line) :
    dropEndWhile (· = '\n') (unlines ls) = unlines (dropEndWhile (· = []) ls) := by
  have hback : ∀ line ∈ ls.reverse.map List.reverse, '\n' ∉ line := by
    intro line hline
    obtain ⟨line', hline', rfl⟩ := List.mem_map.mp hline
    exact fun h => hmem line' (List.mem_reverse.mp hline') (List.mem_reverse.mp h)
  have hempty : (fun line => decide (line = [])) ∘ List.reverse =
      fun line : List Char => decide (line = []) := by
    funext line
    simp
  rw [dropEndWhile, reverse_unlines, ← List.map_reverse, dropWhile_unlines hback, reverse_unlines,
    List.dropWhile_map, hempty, List.map_map, dropEndWhile]
  simp

theorem trimLineFeeds_unlines {ls : List (List Char)} (hmem : ∀ line ∈ ls, '\n' ∉ line) :
    trimLineFeeds (unlines ls) = unlines (withoutEmptyEnds ls) := by
  rw [trimLineFeeds, dropWhile_unlines hmem, dropEndWhile_unlines fun line h =>
    hmem line ((List.dropWhile_suffix _).subset h)]
  rfl

theorem withoutEmptyEnds_append {before shown after : List (List Char)}
    (hbefore : ∀ line ∈ before, line = []) (hafter : ∀ line ∈ after, line = [])
    (hfirst : shown.head? ≠ some []) (hlast : shown.getLast? ≠ some []) :
    withoutEmptyEnds (before ++ (shown ++ after)) = shown := by
  have hfront : (shown ++ after).dropWhile (· = []) =
      if shown = [] then [] else shown ++ after := by
    cases shown with
    | nil => simpa using hafter
    | cons line shown =>
      have hline : line ≠ [] := by simpa using hfirst
      simp [hline]
  have hback : (after.reverse ++ shown.reverse).dropWhile (· = []) = shown.reverse := by
    rw [List.dropWhile_append_of_pos (by simpa using hafter)]
    cases hcases : shown.reverse with
    | nil => rfl
    | cons line rest =>
      have hline : line ≠ [] := by
        rw [← List.head?_reverse, hcases] at hlast
        simpa using hlast
      simp [hline]
  rw [withoutEmptyEnds, List.dropWhile_append_of_pos (by simpa using hbefore), hfront]
  split_ifs with hshown
  · rw [hshown]
    rfl
  · rw [dropEndWhile, List.reverse_append, hback, List.reverse_reverse]

/-- Nothing is left of a list without the elements at its ends that satisfy `p` if and only if all
of them do. -/
theorem dropEndWhile_dropWhile_eq_nil_iff {α : Type} {p : α → Bool} {xs : List α} :
    dropEndWhile p (xs.dropWhile p) = [] ↔ ∀ x ∈ xs, p x = true := by
  rw [dropEndWhile_eq_rdropWhile, List.rdropWhile_eq_nil_iff, ← List.dropWhile_eq_nil_iff,
    List.dropWhile_idempotent, List.dropWhile_eq_nil_iff]

theorem withoutEmptyEnds_eq_nil_iff {ls : List (List Char)} :
    withoutEmptyEnds ls = [] ↔ ∀ line ∈ ls, line = [] := by
  rw [withoutEmptyEnds, dropEndWhile_dropWhile_eq_nil_iff]
  simp only [decide_eq_true_eq]

/-- Of a text whose first and last line are not empty, only the empty lines behind it are cut
off. -/
theorem lines_trimLineFeeds {ls : List (List Char)} (hne : ls ≠ []) (hfirst : ls.head? ≠ some [])
    (hlast : ls.getLast? ≠ some []) (hmem : ∀ line ∈ ls, '\n' ∉ line) (n : Nat) :
    lines (trimLineFeeds (unlines (ls ++ List.replicate n []))) = ls := by
  have hempty : ∀ line ∈ List.replicate n ([] : List Char), line = [] :=
    fun line => List.eq_of_mem_replicate
  have hall : ∀ line ∈ ls ++ List.replicate n [], '\n' ∉ line := by
    intro line hline
    rcases List.mem_append.mp hline with hline | hline
    · exact hmem line hline
    · rw [hempty line hline]
      exact List.not_mem_nil
  rw [trimLineFeeds_unlines hall, ← List.nil_append (ls ++ _),
    withoutEmptyEnds_append (List.forall_mem_nil _) hempty hfirst hlast, lines_unlines hne hmem]

/-- A tidied text is its tidied lines without the empty ones at both ends. -/
theorem toList_tidy_eq_unlines (width : Nat) (s : String) :
    (tidy width s).toList = unlines (withoutEmptyEnds (tidyLines width s.toList)) := by
  rw [toList_tidy, trimLineFeeds_unlines fun _ => lineFeed_notMem_of_mem_tidyLines]

end HtmlText
