import HtmlText.Proofs.RenderRecursion
import Mathlib.Data.List.TakeWhile

/-!
# Visible text

Layout is made of spaces, tabs and line feeds. Rendering, indentation and the whitespace pass add
and remove characters of layout only, and upper case never turns a character of layout into another
one or the other way round. So the text of a tree without its layout can be read off from the tree:
it is the ink of the root, in which every text, every bullet, every drawn line and every link
appears once and in its place.

## Main definitions

* `isLayoutChar`, `visible`: the characters of layout, and a text without them.
* `Rule.ink`, `Content.ink`: what a tree shows, apart from its layout.

## Main results

* `visible_upper`, `visible_indent`, `visible_tidy`, `visible_collapse`: the operations on texts.
* `visible_render`: the raw rendering of a content shows its ink.
* `Tree.visible_toText`: the text of a tree shows the ink of its root.
-/

namespace HtmlText

/-- A character that layout adds and removes: space, tab or line feed. -/
def isLayoutChar (c : Char) : Bool := c = ' ' || c = '\t' || c = '\n'

/-- The characters of a text that are not layout. -/
def visibleChars (cs : List Char) : List Char := cs.filter fun c => !isLayoutChar c

/-- A text without its layout. -/
def visible (s : String) : String := String.ofList (visibleChars s.toList)

@[simp] theorem toList_visible (s : String) : (visible s).toList = visibleChars s.toList := by
  simp [visible]

@[simp] theorem visibleChars_append (a b : List Char) :
    visibleChars (a ++ b) = visibleChars a ++ visibleChars b :=
  List.filter_append ..

@[simp] theorem visible_append (s t : String) : visible (s ++ t) = visible s ++ visible t := by
  apply String.toList_inj.mp
  simp

@[simp] theorem visible_empty : visible "" = "" := rfl

@[simp] theorem visible_lineFeed : visible "\n" = "" := rfl

theorem visibleChars_eq_nil {cs : List Char} (h : ∀ c ∈ cs, isLayoutChar c = true) :
    visibleChars cs = [] := by
  simpa [visibleChars] using h

/-! ### Upper case -/

/-- A shifted code point is not below the target of its shift. -/
theorem exists_target_le_of_shiftCase {shifts : List CaseShift} {n m : Nat}
    (h : shiftCase shifts n = some m) : ∃ s ∈ shifts, s.target ≤ m := by
  induction shifts with
  | nil => exact absurd h (by simp [shiftCase])
  | cons s shifts ih =>
    rw [shiftCase] at h
    split_ifs at h
    · exact ⟨s, List.mem_cons_self, by rw [← Option.some.inj h]; exact Nat.le_add_right ..⟩
    · obtain ⟨s', hs', hle⟩ := ih h
      exact ⟨s', List.mem_cons_of_mem s hs', hle⟩

/-- Code points above the space stand for characters that are not layout. -/
theorem isLayoutChar_ofNat {n : Nat} (h : 0x20 < n) : isLayoutChar (Char.ofNat n) = false := by
  have hne (c : Char) (hc : c ≠ Char.ofNat 0) (hle : c.toNat ≤ 0x20) : Char.ofNat n ≠ c := by
    intro heq
    by_cases hn : n.isValidChar
    · have hcode : (Char.ofNat n).toNat = n := by
        rw [Char.ofNat, dif_pos hn]
        rfl
      rw [← heq, hcode] at hle
      omega
    · rw [Char.ofNat, dif_neg hn] at heq
      exact hc heq.symm
  simp [isLayoutChar, hne ' ' (by decide) (by decide), hne '\t' (by decide) (by decide),
    hne '\n' (by decide) (by decide)]

theorem target_upperShifts : ∀ s ∈ upperShifts, 0x20 < s.target := by
  decide +kernel

theorem images_upperExpansions : ∀ e ∈ upperExpansions, ∀ n ∈ e.2, 0x20 < n := by
  decide +kernel

theorem upperChar_of_isLayoutChar {c : Char} (h : isLayoutChar c = true) : upperChar c = [c] := by
  simp only [isLayoutChar, Bool.or_eq_true, decide_eq_true_eq] at h
  rcases h with (rfl | rfl) | rfl <;> decide +kernel

/-- Upper case leaves layout as it is and makes no new layout. -/
theorem visibleChars_upperChar (c : Char) :
    visibleChars (upperChar c) = if isLayoutChar c then [] else upperChar c := by
  split_ifs with hc
  · rw [upperChar_of_isLayoutChar hc]
    exact visibleChars_eq_nil (by simpa using hc)
  · have hall : ∀ d ∈ upperChar c, isLayoutChar d = false := by
      intro d hd
      rw [upperChar, mapCase] at hd
      split at hd
      · next n hn =>
        obtain ⟨s, hs, hle⟩ := exists_target_le_of_shiftCase hn
        rw [List.mem_singleton.mp hd]
        exact isLayoutChar_ofNat (Nat.lt_of_lt_of_le (target_upperShifts s hs) hle)
      · split at hd
        · next ns hns =>
          obtain ⟨n, hn, rfl⟩ := List.mem_map.mp hd
          obtain ⟨l₁, l₂, heq, -⟩ := List.lookup_eq_some_iff.mp hns
          exact isLayoutChar_ofNat (images_upperExpansions (c.toNat, ns) (by simp [heq]) n hn)
        · rw [List.mem_singleton.mp hd]
          simpa using hc
    exact List.filter_eq_self.mpr fun d hd => by simp [hall d hd]

theorem visible_upper (s : String) : visible (upper s) = upper (visible s) := by
  apply String.toList_inj.mp
  simp only [toList_visible, toList_upper]
  induction s.toList with
  | nil => rfl
  | cons c cs ih =>
    rw [List.flatMap_cons, visibleChars_append, ih, visibleChars_upperChar]
    cases hc : isLayoutChar c <;> simp [visibleChars, hc]

/-! ### Lines -/

theorem visibleChars_dropWhile {p : Char → Bool} (hp : ∀ c, p c = true → isLayoutChar c = true)
    (cs : List Char) : visibleChars (cs.dropWhile p) = visibleChars cs := by
  have htake : visibleChars (cs.takeWhile p) = [] :=
    visibleChars_eq_nil fun c hc => hp c (List.mem_takeWhile_imp hc)
  calc visibleChars (cs.dropWhile p)
      = visibleChars (cs.takeWhile p ++ cs.dropWhile p) := by rw [visibleChars_append, htake]; rfl
    _ = visibleChars cs := by rw [List.takeWhile_append_dropWhile]

theorem visibleChars_reverse (cs : List Char) :
    visibleChars cs.reverse = (visibleChars cs).reverse :=
  List.filter_reverse ..

theorem visibleChars_dropEndWhile {p : Char → Bool}
    (hp : ∀ c, p c = true → isLayoutChar c = true) (cs : List Char) :
    visibleChars (dropEndWhile p cs) = visibleChars cs := by
  rw [dropEndWhile, visibleChars_reverse, visibleChars_dropWhile hp, visibleChars_reverse,
    List.reverse_reverse]

/-- Line feeds between lines do not show. -/
theorem visibleChars_unlines (ls : List (List Char)) :
    visibleChars (unlines ls) = ls.flatMap visibleChars := by
  induction ls with
  | nil => rfl
  | cons line ls ih =>
    cases ls with
    | nil => simp [unlines]
    | cons next ls =>
      have hcons : unlines (line :: next :: ls) = line ++ '\n' :: unlines (next :: ls) := by
        simp [unlines, List.intercalate]
      have hfeed : visibleChars ('\n' :: unlines (next :: ls)) =
          visibleChars (unlines (next :: ls)) := rfl
      rw [hcons, visibleChars_append, hfeed, ih]
      rfl

/-- A text whose lines are changed in their layout only shows what it showed before. -/
theorem visibleChars_unlines_map {f : List Char → List Char}
    (hf : ∀ line, visibleChars (f line) = visibleChars line) (cs : List Char) :
    visibleChars (unlines ((lines cs).map f)) = visibleChars cs := by
  have hlines : ((lines cs).map f).flatMap visibleChars = (lines cs).flatMap visibleChars := by
    rw [List.flatMap_map]
    exact List.flatMap_congr fun line _ => hf line
  rw [visibleChars_unlines, hlines, ← visibleChars_unlines, unlines_lines]

theorem visible_indent (s : String) : visible (indent s) = visible s := by
  have hline (line : List Char) : visibleChars ('\t' :: line) = visibleChars line := rfl
  rw [visible, indent, String.toList_ofList, visibleChars_unlines_map hline, visible]

theorem visibleChars_expandTabs (width : Nat) (cs : List Char) :
    visibleChars (expandTabs width cs) = visibleChars cs := by
  induction cs with
  | nil => rfl
  | cons c cs ih =>
    have hcons : expandTabs width (c :: cs) =
        (if c = '\t' then List.replicate width ' ' else [c]) ++ expandTabs width cs := rfl
    rw [hcons, visibleChars_append, ih]
    by_cases hc : c = '\t'
    · subst hc
      rw [if_pos rfl, visibleChars_eq_nil fun d hd => by rw [List.eq_of_mem_replicate hd]; decide]
      rfl
    · rw [if_neg hc, ← visibleChars_append, List.singleton_append]

theorem isLayoutChar_of_isMarginChar {c : Char} (h : isMarginChar c = true) :
    isLayoutChar c = true := by
  rw [isMarginChar] at h
  rw [isLayoutChar, h, Bool.true_or]

theorem isLayoutChar_of_eq_space {c : Char} (h : decide (c = ' ') = true) :
    isLayoutChar c = true := by
  rw [isLayoutChar, h, Bool.true_or, Bool.true_or]

theorem visibleChars_tidyLine (width : Nat) (line : List Char) :
    visibleChars (tidyLine width line) = visibleChars line := by
  have hmargin : visibleChars ((line.takeWhile isMarginChar).filter (· = '\t')) = [] :=
    visibleChars_eq_nil fun c hc =>
      isLayoutChar_of_isMarginChar (List.mem_takeWhile_imp (List.mem_filter.mp hc).1)
  rw [tidyLine, visibleChars_expandTabs, visibleChars_append, hmargin, List.nil_append,
    visibleChars_dropEndWhile fun c hc => isLayoutChar_of_eq_space hc,
    visibleChars_dropWhile fun c hc => isLayoutChar_of_isMarginChar hc]

/-- The whitespace pass changes layout only. -/
theorem visible_tidy (width : Nat) (s : String) : visible (tidy width s) = visible s := by
  have hfeed (c : Char) (h : decide (c = '\n') = true) : isLayoutChar c = true := by
    rw [isLayoutChar, h, Bool.or_true]
  rw [visible, tidy, String.toList_ofList, trimLineFeeds, visibleChars_dropEndWhile hfeed,
    visibleChars_dropWhile hfeed, visibleChars_unlines_map (visibleChars_tidyLine width), visible]

/-! ### Ink -/

/-- A text without the blanks of HTML source. -/
def dropMarkupBlanks (s : String) : String :=
  String.ofList (s.toList.filter fun c => !isMarkupBlank c)

/-- What an element with the given rule shows, apart from layout: `ink` is what its children show,
and `content` their raw rendering, which only a link looks at. -/
def Rule.ink (rule : Rule) (options : Options) (ink content href : String) : String :=
  match rule with
  | .banner fill =>
    let line := visible (repeated fill options.ruleWidth)
    line ++ upper ink ++ line
  | .underlined fill => upper ink ++ visible (repeated fill options.ruleWidth)
  | .uppercase => upper ink
  | .block | .indented | .line | .transparent => ink
  | .listItem => visible options.bullet ++ ink
  | .link => visible (renderLink content href)
  | .horizontalRule => repeated '-' options.ruleWidth
  | .lineBreak | .skip => ""

mutual

/-- What a content shows, apart from layout. -/
def Content.ink (rules : Rules) (options : Options) : Content → String
  | .text s => dropMarkupBlanks s
  | .element e children =>
    (rules.forTag e.tag).ink options (inkAll rules options children)
      (renderAll rules options (isBlockTag e.tag) children) ((e.attribute? "href").getD "")

/-- What siblings show, one behind the other. -/
def inkAll (rules : Rules) (options : Options) : List Content → String
  | [] => ""
  | content :: siblings => content.ink rules options ++ inkAll rules options siblings

end

theorem visible_collapse (s : String) : visible (collapse s) = dropMarkupBlanks s := by
  suffices h : ∀ inRun, visibleChars (collapseFrom inRun s.toList) =
      s.toList.filter fun c => !isMarkupBlank c by
    rw [visible, toList_collapse, h, dropMarkupBlanks]
  induction s.toList with
  | nil => exact fun inRun => by simp [collapseFrom, visibleChars]
  | cons c cs ih =>
    intro inRun
    rw [collapseFrom]
    by_cases hc : isMarkupBlank c = true
    · have hblank : visibleChars (' ' :: collapseFrom true cs) =
          visibleChars (collapseFrom true cs) := rfl
      rw [if_pos hc, List.filter_cons_of_neg (by simp [hc])]
      split_ifs
      · exact ih true
      · rw [hblank, ih true]
    · have hlayout : isLayoutChar c = false := by
        simp_all [isMarkupBlank, isLayoutChar]
      rw [if_neg hc, List.filter_cons_of_pos (by simp [hc]), visibleChars,
        List.filter_cons_of_pos (by simp [hlayout])]
      exact congrArg (c :: ·) (ih false)

theorem visible_ending (rule : Rule) (last : Bool) : visible (rule.ending last) = "" := by
  have hfeeds : visible "\n\n" = "" := rfl
  rw [Rule.ending]
  split_ifs
  · exact visible_empty
  · cases rule <;> simp [Rule.trailer, hfeeds]

theorem visible_repeated_dash (n : Nat) : visible (repeated '-' n) = repeated '-' n := by
  have hall : ∀ c ∈ List.replicate n '-', (!isLayoutChar c) = true := by
    intro c hc
    rw [List.eq_of_mem_replicate hc]
    decide
  rw [visible, repeated, String.toList_ofList, visibleChars, List.filter_eq_self.mpr hall]

/-- The shape of an element shows its ink. -/
theorem visible_shape (rule : Rule) (options : Options) (content href : String) :
    visible (rule.shape options content href) =
      rule.ink options (visible content) content href := by
  cases rule <;>
    simp only [Rule.shape, Rule.ink, visible_append, visible_upper, visible_indent,
      visible_repeated_dash, visible_empty, visible_lineFeed, String.append_empty,
      String.empty_append]

theorem ink_of_not_visitsChildren {rule : Rule} (h : ¬ rule.visitsChildren = true)
    (options : Options) (ink content href ink' content' href' : String) :
    rule.ink options ink content href = rule.ink options ink' content' href' := by
  cases rule with
  | skip | lineBreak | horizontalRule => rfl
  | _ => exact absurd rfl h

mutual

/-- The raw rendering of a content shows its ink. -/
theorem visible_render (rules : Rules) (options : Options) (last : Bool) (content : Content) :
    visible (content.render rules options last) = content.ink rules options := by
  cases content with
  | text s => rw [Content.render, Content.ink, visible_collapse]
  | element e children =>
    rw [Content.render, Content.ink]
    simp only [visible_append, visible_ending, String.append_empty, visible_shape]
    split_ifs with hvisits
    · rw [visible_renderAll]
    · exact ink_of_not_visitsChildren hvisits ..

theorem visible_renderAll (rules : Rules) (options : Options) (inBlock : Bool)
    (contents : List Content) :
    visible (renderAll rules options inBlock contents) = inkAll rules options contents := by
  cases contents with
  | nil => rw [renderAll, inkAll]; rfl
  | cons content siblings =>
    rw [renderAll, inkAll, visible_append, visible_render, visible_renderAll]

end

namespace Tree

/-- **Visible content is conserved.** The text of a tree, apart from its layout, is the ink of its
root: nothing is lost, repeated, moved or made up. -/
theorem visible_toText {t : Tree} (ht : t.Grown) (rules : Rules) (options : Options) :
    ∃ root, t.content 0 = .ok root ∧
      visible (t.toText rules options) = root.ink rules options := by
  obtain ⟨root, hroot, hrender⟩ := exists_content_root rules options ht.linked
  refine ⟨root, hroot, ?_⟩
  rw [toText, visible_tidy, hrender, visible_render]

/-! ### A page with a heading, a paragraph and an item -/

/-- A heading with a letter whose upper case is two letters, and an indented item with a no-break
space. -/
def headedPage : Tree :=
  (((((ofRoot "body").grow 0 (.element (.normalized "h4" []))).grow 1 (.text "Große\tTat")).grow 0
    (.element (.normalized "blockquote" []))).grow 3 (.element (.normalized "li" []))).grow 4
    (.text " 1\u00a0 000\n")

theorem grown_headedPage : headedPage.Grown :=
  (((((Grown.ofRoot "body").growElement (by decide) "h4" []).growText (by decide)
    "Große\tTat").growElement (by decide) "blockquote" []).growElement (by decide) "li"
    []).growText (by decide) " 1\u00a0 000\n"

/-- The page shows the upper case of its heading, the bullet and the item. -/
theorem visible_headedPage :
    headedPage.Grown ∧
      visible (headedPage.toText .builtin {}) = "GROSSETAT*1\u00a0000" := by
  refine ⟨grown_headedPage, ?_⟩
  obtain ⟨root, hroot, htext⟩ := visible_toText grown_headedPage .builtin {}
  rw [htext]
  obtain rfl := Except.ok.inj (hroot.symm.trans rfl)
  decide +kernel

end Tree

end HtmlText
