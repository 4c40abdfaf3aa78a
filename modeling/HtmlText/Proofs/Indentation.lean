import HtmlText.Proofs.WhitespacePasses
import Mathlib.Logic.Function.Iterate

/-!
# Indentation in the whitespace pass

Indentation puts a tab in front of every line, also of the empty ones, and the whitespace pass
writes the tabs in the margin of a line as spaces. What it does to the rest of the line is what it
does to the line alone: a margin keeps its tabs and loses its spaces whatever is in front of it. A
line that has been indented begins with at least one space then, unless tabs have no width, so it is
not empty, and none of the lines at the ends is cut off.

## Main results

* `toList_tidy_line`: a single line in the whitespace pass.
* `tidyLines_iterate_indent`: the lines of a text that has been indented several times.
* `lines_tidy_of_forall_ne`: when no line is cut off.
* `lines_tidy_iterate_indent`: the whole text.
-/

namespace HtmlText

/-- Of a single line nothing is cut off. -/
theorem toList_tidy_line {line : List Char} (h : '\n' ∉ line) (width : Nat) :
    (tidy width (String.ofList line)).toList = tidyLine width line := by
  rw [toList_tidy, String.toList_ofList, tidyLines_of_notMem h, unlines,
    List.intercalate_singleton, trimLineFeeds_of_notMem (lineFeed_notMem_tidyLine h width)]

/-- Every indentation puts the width of a tab in front of every line. -/
theorem tidyLines_iterate_indent (width n : Nat) (s : String) :
    tidyLines width (indent^[n] s).toList =
      (tidyLines width s.toList).map (spaces (n * width) ++ ·) := by
  induction n with
  | zero => simp [spaces]
  | succ n ih =>
    have hspaces (line : List Char) :
        spaces width ++ (spaces (n * width) ++ line) = spaces ((n + 1) * width) ++ line := by
      rw [← List.append_assoc, ← spaces_add, Nat.succ_mul, Nat.add_comm]
    rw [Function.iterate_succ_apply', tidyLines_indent, ih, List.map_map]
    exact List.map_congr_left fun line _ => hspaces line

/-- Lines that are not empty stay at the ends. -/
theorem withoutEmptyEnds_of_forall_ne {ls : List (List Char)} (h : ∀ line ∈ ls, line ≠ []) :
    withoutEmptyEnds ls = ls := by
  have hnil : ∀ line ∈ ([] : List (List Char)), line = [] := List.forall_mem_nil _
  have hfirst : ls.head? ≠ some [] := fun hhead => h [] (List.mem_of_mem_head? hhead) rfl
  have hlast : ls.getLast? ≠ some [] := fun hback => h [] (List.mem_of_mem_getLast? hback) rfl
  have hself := withoutEmptyEnds_append hnil hnil hfirst hlast
  rwa [List.nil_append, List.append_nil] at hself

/-- If no line gets empty in the whitespace pass, the lines that come out are those of the pass. -/
theorem lines_tidy_of_forall_ne {width : Nat} {s : String}
    (h : ∀ line ∈ tidyLines width s.toList, line ≠ []) :
    lines (tidy width s).toList = tidyLines width s.toList := by
  rw [toList_tidy_eq_unlines, withoutEmptyEnds_of_forall_ne h,
    lines_unlines (tidyLines_ne_nil _ _) fun _ => lineFeed_notMem_of_mem_tidyLines]

/-- **Indentation.** A text that has been indented, once or several times, keeps all its lines in
the whitespace pass if tabs have a width. Each line is made of as many spaces as its new tabs are
wide, and of what the pass makes of the line alone: the spaces in its margin and at its end are
gone, and the tabs that are left are spaces. -/
theorem lines_tidy_iterate_indent {n width : Nat} (hn : 1 ≤ n) (hwidth : 1 ≤ width) (s : String) :
    (lines (tidy width (indent^[n] s)).toList).length = (lines s.toList).length ∧
      lines (tidy width (indent^[n] s)).toList =
        (lines s.toList).map
          (fun line => spaces (n * width) ++ (tidy width (String.ofList line)).toList) ∧
      ∀ line ∈ lines s.toList, (tidy width (String.ofList line)).toList =
        expandTabs width (dropEndSpaces (dropMarginSpaces line)) := by
  have hpos : 0 < n * width := Nat.mul_pos hn hwidth
  have hne : ∀ line ∈ tidyLines width (indent^[n] s).toList, line ≠ [] := by
    intro line hline
    rw [tidyLines_iterate_indent] at hline
    obtain ⟨line', -, rfl⟩ := List.mem_map.mp hline
    exact List.append_ne_nil_of_left_ne_nil (by simp [spaces, hpos.ne']) line'
  have halone : ∀ line ∈ lines s.toList, (tidy width (String.ofList line)).toList =
      tidyLine width line := fun line h => toList_tidy_line (notMem_of_mem_lines h) width
  have hlines : lines (tidy width (indent^[n] s)).toList =
      (lines s.toList).map
        (fun line => spaces (n * width) ++ (tidy width (String.ofList line)).toList) := by
    calc lines (tidy width (indent^[n] s)).toList
      _ = tidyLines width (indent^[n] s).toList := lines_tidy_of_forall_ne hne
      _ = (lines s.toList).map fun line => spaces (n * width) ++ tidyLine width line := by
          rw [tidyLines_iterate_indent, tidyLines, List.map_map]
          rfl
      _ = (lines s.toList).map
            (fun line => spaces (n * width) ++ (tidy width (String.ofList line)).toList) :=
          List.map_congr_left fun line h => by rw [halone line h]
  refine ⟨by rw [hlines, List.length_map], hlines, fun line h => ?_⟩
  rw [halone line h, tidyLine_eq]

/-- An empty line, a line of tabs and spaces, and a line with a tab between words. -/
theorem lines_tidy_iterate_indent_mixed :
    1 ≤ 2 ∧ 1 ≤ 3 ∧
      lines (tidy 3 (indent^[2] "\n \t \t\n  a\tb  ")).toList =
        [spaces 6, spaces 6 ++ spaces 6, spaces 6 ++ "a   b".toList] := by
  have hn : 1 ≤ 2 := by decide
  have hwidth : 1 ≤ 3 := by decide
  obtain ⟨-, hlines, -⟩ := lines_tidy_iterate_indent hn hwidth "\n \t \t\n  a\tb  "
  exact ⟨hn, hwidth, hlines.trans (by decide)⟩

end HtmlText
