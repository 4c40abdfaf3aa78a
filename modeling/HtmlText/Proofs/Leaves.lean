import HtmlText.Proofs.TextLines
import HtmlText.Proofs.VisibleText

/-!
# Leaves of a content and their layout

The leaves of a content are its texts that are not blank. Each leaf has a trail, the elements around
it from the outermost to the innermost, each with its place among its siblings. The layout of leaves
has one line for each leaf and, between two leaves that are not items of the same list, one line
more. How far a line is indented is counted along the trail: for the line of a leaf on all of it,
for a line between two leaves on the part that they have in common.

## Main definitions

* `TrailStep`, `Leaf`, `Content.leavesAt`, `leavesFrom`: the leaves of a content, with their
  trails.
* `Leaf.line`, `gap`, `layout`: the lines of leaves.

## Main results

* `layout_append`: the layout of leaves in two groups.
* `layout_map_under`: leaves that are put under one more element.
* `Leaf.line_ne_nil`: the line of a leaf is not empty.
-/

namespace HtmlText

/-- An element on the way to a text, with its place among its siblings. -/
structure TrailStep where
  place : Nat
  element : Element
deriving Repr, DecidableEq

/-- A text with the elements around it, the outermost one first. -/
structure Leaf where
  trail : List TrailStep
  text : String
deriving Repr, DecidableEq

/-- A text of blanks of HTML source only, the empty text included. -/
def isMarkupBlankText (s : String) : Bool := s.toList.all isMarkupBlank

/-- The leaf under one more element. -/
def Leaf.under (step : TrailStep) (leaf : Leaf) : Leaf := ⟨step :: leaf.trail, leaf.text⟩

mutual

/-- The leaves of a content at the given place among its siblings. -/
def Content.leavesAt (place : Nat) : Content → List Leaf
  | .text s => if isMarkupBlankText s then [] else [⟨[], s⟩]
  | .element e children => (leavesFrom 0 children).map (Leaf.under ⟨place, e⟩)

/-- The leaves of siblings, the first of which is at the given place. -/
def leavesFrom (place : Nat) : List Content → List Leaf
  | [] => []
  | content :: siblings => content.leavesAt place ++ leavesFrom (place + 1) siblings

end

/-! ### Layout -/

/-- An element that indents its content. -/
def TrailStep.indents (step : TrailStep) : Bool :=
  Rules.builtin.forTag step.element.tag = .indented

/-- The number of elements of a trail that indent their content. -/
def depth (trail : List TrailStep) : Nat := trail.countP TrailStep.indents

/-- The elements around two leaves with the given trails. -/
def commonTrail : List TrailStep → List TrailStep → List TrailStep
  | a :: as, b :: bs => if a = b then a :: commonTrail as bs else []
  | _, _ => []

namespace Leaf

/-- A leaf right inside a list item. -/
def isItem (leaf : Leaf) : Bool := leaf.trail.getLast?.any (·.element.tag = "li")

/-- Two items with the same elements around them. -/
def sameList (a b : Leaf) : Bool :=
  a.isItem && b.isItem && a.trail.dropLast = b.trail.dropLast

/-- The line of a leaf: its text with collapsed blanks, behind a bullet if it is an item. -/
def line (width : Nat) (leaf : Leaf) : List Char :=
  let text := (collapse leaf.text).toList
  spaces (width * depth leaf.trail) ++
    if leaf.isItem then '*' :: ' ' :: dropEndWhile (· = ' ') text
    else dropEndWhile (· = ' ') (text.dropWhile (· = ' '))

end Leaf

/-- The lines between two consecutive leaves. -/
def gap (width : Nat) (a b : Leaf) : List (List Char) :=
  if a.sameList b then [] else [spaces (width * depth (commonTrail a.trail b.trail))]

/-- The lines of leaves and of the gaps between them. -/
def layout (width : Nat) : List Leaf → List (List Char)
  | [] => []
  | [leaf] => [leaf.line width]
  | a :: b :: leaves => a.line width :: (gap width a b ++ layout width (b :: leaves))

theorem layout_singleton (width : Nat) (leaf : Leaf) : layout width [leaf] = [leaf.line width] :=
  rfl

theorem layout_cons_cons (width : Nat) (a b : Leaf) (leaves : List Leaf) :
    layout width (a :: b :: leaves) =
      a.line width :: (gap width a b ++ layout width (b :: leaves)) :=
  rfl

/-! ### Groups of leaves -/

theorem leavesAt_of_text {e : Element} {s : String} (hs : isMarkupBlankText s = false)
    (place : Nat) : (Content.element e [.text s]).leavesAt place = [⟨[⟨place, e⟩], s⟩] := by
  simp [Content.leavesAt, leavesFrom, hs, Leaf.under]

theorem leavesFrom_ne_nil {contents : List Content}
    (h : ∃ content ∈ contents, ∀ place, content.leavesAt place ≠ []) (place : Nat) :
    leavesFrom place contents ≠ [] := by
  obtain ⟨content, hmem, hcontent⟩ := h
  induction contents generalizing place with
  | nil => simp at hmem
  | cons c contents ih =>
    rw [leavesFrom, ne_eq, List.append_eq_nil_iff, not_and_or]
    rcases List.mem_cons.mp hmem with rfl | hmem
    · exact Or.inl (hcontent place)
    · exact Or.inr (ih (place + 1) hmem)

theorem mem_leavesFrom {place : Nat} {contents : List Content} {leaf : Leaf} :
    leaf ∈ leavesFrom place contents →
      ∃ content ∈ contents, ∃ place', place ≤ place' ∧ leaf ∈ content.leavesAt place' := by
  induction contents generalizing place with
  | nil => simp [leavesFrom]
  | cons content contents ih =>
    rw [leavesFrom, List.mem_append]
    rintro (h | h)
    · exact ⟨content, List.mem_cons_self, place, Nat.le_refl place, h⟩
    · obtain ⟨content', hmem, place', hle, hleaf⟩ := ih h
      exact ⟨content', List.mem_cons_of_mem content hmem, place', Nat.le_of_succ_le hle, hleaf⟩

mutual

theorem isMarkupBlankText_of_mem_leavesAt {place : Nat} {content : Content} {leaf : Leaf}
    (h : leaf ∈ content.leavesAt place) : isMarkupBlankText leaf.text = false := by
  cases content with
  | text s =>
    rw [Content.leavesAt] at h
    split_ifs at h with hs
    · simp at h
    · rw [List.mem_singleton.mp h]
      simpa using hs
  | element e children =>
    rw [Content.leavesAt, List.mem_map] at h
    obtain ⟨leaf', hleaf', rfl⟩ := h
    have hblank := isMarkupBlankText_of_mem_leavesFrom hleaf'
    exact hblank

/-- No leaf is blank. -/
theorem isMarkupBlankText_of_mem_leavesFrom {place : Nat} {contents : List Content} {leaf : Leaf}
    (h : leaf ∈ leavesFrom place contents) : isMarkupBlankText leaf.text = false := by
  cases contents with
  | nil => simp [leavesFrom] at h
  | cons content contents =>
    rw [leavesFrom, List.mem_append] at h
    rcases h with h | h
    · exact isMarkupBlankText_of_mem_leavesAt h
    · exact isMarkupBlankText_of_mem_leavesFrom h

end

/-- The layout of two groups of leaves with the same gap between any two of them. -/
theorem layout_append {width : Nat} {ls ls' : List Leaf} {lines : List (List Char)} (h : ls ≠ [])
    (h' : ls' ≠ []) (hgap : ∀ a ∈ ls, ∀ b ∈ ls', gap width a b = lines) :
    layout width (ls ++ ls') = layout width ls ++ (lines ++ layout width ls') := by
  induction ls with
  | nil => exact absurd rfl h
  | cons a ls ih =>
    cases ls with
    | nil =>
      obtain ⟨b, rest, rfl⟩ := List.exists_cons_of_ne_nil h'
      rw [List.singleton_append, layout_cons_cons, hgap a (by simp) b (by simp), layout_singleton,
        List.singleton_append]
    | cons b ls =>
      have ih := ih (by simp) fun c hc => hgap c (List.mem_cons_of_mem a hc)
      rw [List.cons_append] at ih
      rw [List.cons_append, List.cons_append, layout_cons_cons, ih, layout_cons_cons,
        List.cons_append, List.append_assoc]

theorem head?_layout (width : Nat) (leaves : List Leaf) :
    (layout width leaves).head? = leaves.head?.map (Leaf.line width) := by
  cases leaves with
  | nil => rfl
  | cons a leaves => cases leaves <;> rfl

theorem getLast?_layout (width : Nat) (leaves : List Leaf) :
    (layout width leaves).getLast? = leaves.getLast?.map (Leaf.line width) := by
  induction leaves with
  | nil => rfl
  | cons a leaves ih =>
    cases leaves with
    | nil => rfl
    | cons b leaves =>
      rw [layout_cons_cons, List.getLast?_cons, List.getLast?_append, ih,
        List.getLast?_cons_cons]
      obtain ⟨c, hc⟩ : ∃ c, (b :: leaves).getLast? = some c :=
        ⟨_, List.getLast?_eq_some_getLast (by simp)⟩
      rw [hc]
      rfl

/-! ### One more element around leaves -/

/-- What an element puts in front of the lines of its content. -/
def TrailStep.margin (width : Nat) (step : TrailStep) : List Char :=
  if step.indents then spaces width else []

theorem spaces_depth_cons (width : Nat) (step : TrailStep) (trail : List TrailStep) :
    spaces (width * depth (step :: trail)) =
      step.margin width ++ spaces (width * depth trail) := by
  rw [depth, List.countP_cons, ← depth, TrailStep.margin]
  split_ifs
  · rw [Nat.mul_add, Nat.mul_one, Nat.add_comm, spaces_add]
  · rfl

namespace Leaf

variable {a b leaf : Leaf}

theorem isItem_under (h : leaf.trail ≠ []) (step : TrailStep) :
    (leaf.under step).isItem = leaf.isItem := by
  rw [isItem, isItem, under, List.getLast?_cons_of_ne_nil h]

theorem sameList_under (ha : a.trail ≠ []) (hb : b.trail ≠ []) (step : TrailStep) :
    (a.under step).sameList (b.under step) = a.sameList b := by
  rw [sameList, sameList, isItem_under ha, isItem_under hb, under, under,
    List.dropLast_cons_of_ne_nil ha, List.dropLast_cons_of_ne_nil hb]
  simp

theorem line_under (width : Nat) (h : leaf.trail ≠ []) (step : TrailStep) :
    (leaf.under step).line width = step.margin width ++ leaf.line width := by
  rw [line, isItem_under h, under, spaces_depth_cons, List.append_assoc]
  rfl

end Leaf

theorem gap_under (width : Nat) {a b : Leaf} (ha : a.trail ≠ []) (hb : b.trail ≠ [])
    (step : TrailStep) :
    gap width (a.under step) (b.under step) = (gap width a b).map (step.margin width ++ ·) := by
  rw [gap, gap, Leaf.sameList_under ha hb, Leaf.under, Leaf.under, commonTrail, if_pos rfl,
    spaces_depth_cons]
  split_ifs <;> rfl

/-- An element around leaves puts its margin in front of all their lines. -/
theorem layout_map_under (width : Nat) {leaves : List Leaf} (h : ∀ leaf ∈ leaves, leaf.trail ≠ [])
    (step : TrailStep) :
    layout width (leaves.map (Leaf.under step)) =
      (layout width leaves).map (step.margin width ++ ·) := by
  induction leaves with
  | nil => rfl
  | cons a leaves ih =>
    have ha := h a List.mem_cons_self
    have ih := ih fun leaf hleaf => h leaf (List.mem_cons_of_mem a hleaf)
    cases leaves with
    | nil =>
      rw [List.map_singleton, layout_singleton, layout_singleton, List.map_singleton,
        Leaf.line_under width ha]
    | cons b leaves =>
      have hb := h b (by simp)
      rw [List.map_cons, List.map_cons, layout_cons_cons, ← List.map_cons, ih,
        Leaf.line_under width ha, gap_under width ha hb, layout_cons_cons, List.map_cons,
        List.map_append]

/-! ### Different places -/

theorem commonTrail_under_of_ne {a b : Leaf} {s s' : TrailStep} (h : s.place ≠ s'.place) :
    commonTrail (a.under s).trail (b.under s').trail = [] := by
  rw [Leaf.under, Leaf.under, commonTrail, if_neg fun heq => h (by rw [heq])]

/-- Between leaves at different places under elements other than list items there is one empty
line. -/
theorem gap_of_ne {width : Nat} {a b : Leaf} {s s' : TrailStep} (h : s.place ≠ s'.place)
    (hs : s.element.tag ≠ "li") : gap width (a.under s) (b.under s') = [[]] := by
  have hsame : (a.under s).sameList (b.under s') = false := by
    by_cases ha : a.trail = []
    · simp [Leaf.sameList, Leaf.isItem, Leaf.under, ha, hs]
    · have hdrop : (a.under s).trail.dropLast ≠ (b.under s').trail.dropLast := by
        rw [Leaf.under, List.dropLast_cons_of_ne_nil ha, Leaf.under]
        cases hb : b.trail with
        | nil => simp
        | cons c trail =>
          intro heq
          rw [List.dropLast_cons_of_ne_nil (by simp)] at heq
          exact h (congrArg TrailStep.place (List.cons.inj heq).1)
      simp [Leaf.sameList, hdrop]
  rw [gap, hsame, commonTrail_under_of_ne h, if_neg Bool.false_ne_true]
  rfl

/-- Between items of one list there is no line. -/
theorem gap_items (width : Nat) {a b : Leaf} {s s' : TrailStep} (ha : a.trail = [])
    (hb : b.trail = []) (hs : s.element.tag = "li") (hs' : s'.element.tag = "li") :
    gap width (a.under s) (b.under s') = [] := by
  have hsame : (a.under s).sameList (b.under s') = true := by
    simp [Leaf.sameList, Leaf.isItem, Leaf.under, ha, hb, hs, hs']
  rw [gap, if_pos hsame]

/-! ### Lines of leaves -/

theorem visibleChars_collapse_ne_nil {s : String} (h : isMarkupBlankText s = false) :
    visibleChars (collapse s).toList ≠ [] := by
  rw [← toList_visible, visible_collapse, dropMarkupBlanks, String.toList_ofList]
  simpa [isMarkupBlankText] using h

theorem Leaf.line_ne_nil {leaf : Leaf} (h : isMarkupBlankText leaf.text = false) (width : Nat) :
    leaf.line width ≠ [] := by
  intro hnil
  rw [line, List.append_eq_nil_iff] at hnil
  have hright := hnil.2
  split_ifs at hright
  apply visibleChars_collapse_ne_nil h
  rw [← visibleChars_dropWhile fun c => isLayoutChar_of_eq_space,
    ← visibleChars_dropEndWhile fun c => isLayoutChar_of_eq_space, hright]
  rfl

end HtmlText
