import HtmlText.Proofs.RenderRecursion
import Mathlib.Tactic.IntervalCases

/-!
# Wrapped siblings

An element with a transparent rule shows nothing of its own, but it takes part in the question which
element is the last of a block: it follows the elements before it, and it is the parent of those
that were put into it. So to put neighbouring children of a node into such an element is not
harmless in general. It makes no difference if the elements in it have no line feeds of their own,
and if no element before it was the last of a block: because an element stood behind them anyway, or
because their parent is not block-level.

## Main definitions

* `Tree.Wraps`: a tree in which some children of a node of another one stand under a new element.
* `Tree.WithoutTrailers`, `Tree.NoneLastBefore`: what may be wrapped, and where.

## Main results

* `Tree.Wraps.exists_ending_eq`: the line feeds behind corresponding elements.
* `Tree.Wraps.exists_join_eq`: what the children of corresponding nodes show.
* `Tree.Wraps.renderRoot_eq_and_toText_eq`: trees with and without the new element.
-/

namespace HtmlText

namespace Tree

/-- The tree `t'` is the tree `t` with the children `run` of the node `p`, which stand between
`before` and `after`, under a new element `w` in their place. The nodes may have other numbers in
`t'`, which are given by `f`. -/
structure Wraps (t t' : Tree) (f : Nat → Nat) (p : Nat) (before run after : List Nat) (w : Nat)
    (wrapper : Element) : Prop where
  root : f 0 = 0
  /-- All nodes but `p` keep their children, … -/
  other : ∀ {id : Nat} {node : Node}, t.nodes[id]? = some node → id ≠ p →
    ∃ node', t'.nodes[f id]? = some node' ∧ node'.kind = node.kind ∧
      node'.children = node.children.map f
  /-- … which has the new element in the place of some of them. -/
  place : ∃ node node', t.nodes[p]? = some node ∧ node.children = before ++ run ++ after ∧
    t'.nodes[f p]? = some node' ∧ node'.kind = node.kind ∧
    node'.children = before.map f ++ w :: after.map f
  wrapped : ∃ node', t'.nodes[w]? = some node' ∧ node'.kind = .element wrapper ∧
    node'.children = run.map f

/-- No element among some nodes has line feeds behind it, wherever it stands. -/
def WithoutTrailers (t : Tree) (rules : Rules) (ids : List Nat) : Prop :=
  ∀ c ∈ ids, ∀ node e, t.nodes[c]? = some node → node.kind = .element e →
    (rules.forTag e.tag).trailer = none

/-- There is an element among the last children of a node, or the node is not block-level. So no
element before these children is the last of a block. -/
def NoneLastBefore (t : Tree) (p : Nat) (ids : List Nat) : Prop :=
  (∃ c ∈ ids, t.isElement c = true) ∨
    ∀ node, t.nodes[p]? = some node → node.tag?.any isBlockTag = false

namespace Wraps

variable {t t' : Tree} {f : Nat → Nat} {p w : Nat} {before run after : List Nat}
  {wrapper : Element} {rules : Rules} {options : Options}

theorem exists_node (hf : Wraps t t' f p before run after w wrapper) {id : Nat} {node : Node}
    (hnode : t.nodes[id]? = some node) :
    ∃ node', t'.nodes[f id]? = some node' ∧ node'.kind = node.kind := by
  by_cases hid : id = p
  · obtain ⟨above, node', habove, -, hnode', hkind, -⟩ := hf.place
    obtain rfl : above = node := Option.some.inj (habove.symm.trans (hid ▸ hnode))
    exact ⟨node', hid ▸ hnode', hkind⟩
  · obtain ⟨node', hnode', hkind, -⟩ := hf.other hnode hid
    exact ⟨node', hnode', hkind⟩

theorem isElement_eq (hf : Wraps t t' f p before run after w wrapper) {id : Nat}
    (hid : id < t.size) : t'.isElement (f id) = t.isElement id := by
  have hnode := Array.getElem?_eq_getElem hid
  obtain ⟨node', hnode', hkind⟩ := hf.exists_node hnode
  rw [Tree.isElement_eq hnode, Tree.isElement_eq hnode', Node.isElement_congr hkind]

/-! ### Line feeds -/

/-- The elements before the new one are not the last of a block in either tree. -/
theorem isLastInBlock_before (hf : Wraps t t' f p before run after w wrapper) (ht : t.Linked)
    (ht' : t'.Linked) (hplace : t.NoneLastBefore p (run ++ after)) {id : Nat}
    {front behind : List Nat} (hbefore : before = front ++ id :: behind) :
    t.isLastInBlock id = .ok false ∧ t'.isLastInBlock (f id) = .ok false := by
  obtain ⟨above, above', habove, hchildren, habove', -, hchildren'⟩ := hf.place
  obtain ⟨wnode, hwnode, hwkind, -⟩ := hf.wrapped
  have hsplit : above.children = front ++ id :: (behind ++ (run ++ after)) := by
    simp [hchildren, hbefore]
  have hsplit' : above'.children = front.map f ++ f id :: (behind.map f ++ w :: after.map f) := by
    simp [hchildren', hbefore]
  have hw : t'.isElement w = true := by
    rw [Tree.isElement_eq hwnode, Node.isElement_iff]
    exact ⟨_, hwkind⟩
  rw [isLastInBlock_child ht habove hsplit, isLastInBlock_child ht' habove' hsplit']
  constructor
  · rcases hplace with ⟨c, hc, helement⟩ | hblock
    · rw [List.any_append, List.any_eq_true.mpr ⟨c, hc, helement⟩, Bool.or_true, Bool.not_true,
        Bool.and_false]
    · rw [hblock above habove, Bool.false_and]
  · rw [List.any_append, List.any_cons, hw, Bool.true_or, Bool.or_true, Bool.not_true,
      Bool.and_false]

/-- The elements behind the new one are the last of a block in both trees or in neither. -/
theorem exists_isLastInBlock_after (hf : Wraps t t' f p before run after w wrapper)
    (ht : t.Linked) (ht' : t'.Linked) {id : Nat} {front behind : List Nat}
    (hafter : after = front ++ id :: behind) :
    ∃ last, t.isLastInBlock id = .ok last ∧ t'.isLastInBlock (f id) = .ok last := by
  obtain ⟨above, above', habove, hchildren, habove', hkind, hchildren'⟩ := hf.place
  have hsplit : above.children = (before ++ run ++ front) ++ id :: behind := by
    simp [hchildren, hafter]
  have hsplit' : above'.children =
      (before.map f ++ w :: front.map f) ++ f id :: behind.map f := by
    simp [hchildren', hafter]
  have hbehind : (behind.map f).any t'.isElement = behind.any t.isElement :=
    any_isElement_map fun c hc =>
      hf.isElement_eq (ht.lt_size_of_mem habove (by simp [hsplit, hc]))
  refine ⟨_, isLastInBlock_child ht habove hsplit, ?_⟩
  rw [isLastInBlock_child ht' habove' hsplit', hbehind, Node.tag?_congr hkind]

/-- Corresponding elements have the same line feeds behind them. Those that are wrapped may be the
last of a block in one tree only, but they have no line feeds. -/
theorem exists_ending_eq (hf : Wraps t t' f p before run after w wrapper) (ht : t.Linked)
    (ht' : t'.Linked) (hinline : t.WithoutTrailers rules run)
    (hplace : t.NoneLastBefore p (run ++ after)) {id : Nat} {node : Node} {e : Element}
    (hnode : t.nodes[id]? = some node) (hkind : node.kind = .element e) :
    ∃ last last', t.isLastInBlock id = .ok last ∧ t'.isLastInBlock (f id) = .ok last' ∧
      (rules.forTag e.tag).ending last' = (rules.forTag e.tag).ending last := by
  have hsame (h : ∃ last, t.isLastInBlock id = .ok last ∧ t'.isLastInBlock (f id) = .ok last) :
      ∃ last last', t.isLastInBlock id = .ok last ∧ t'.isLastInBlock (f id) = .ok last' ∧
        (rules.forTag e.tag).ending last' = (rules.forTag e.tag).ending last := by
    obtain ⟨last, hlast, hlast'⟩ := h
    exact ⟨last, last, hlast, hlast', rfl⟩
  rcases eq_zero_or_exists_parent ht hnode with rfl | ⟨q, parent, front, behind, hq, hsplit⟩
  · exact hsame ⟨false, isLastInBlock_root ht, by rw [hf.root]; exact isLastInBlock_root ht'⟩
  have hmem : id ∈ parent.children := by simp [hsplit]
  by_cases hqp : q = p
  · obtain ⟨above, -, habove, hchildren, -⟩ := hf.place
    obtain rfl : parent = above := Option.some.inj ((hqp ▸ hq).symm.trans habove)
    rw [hchildren, List.mem_append, List.mem_append] at hmem
    rcases hmem with (hmem | hmem) | hmem
    · obtain ⟨front, behind, hbefore⟩ := List.append_of_mem hmem
      exact hsame ⟨false, hf.isLastInBlock_before ht ht' hplace hbefore⟩
    · obtain ⟨node', hnode', -⟩ := hf.exists_node hnode
      obtain ⟨last, hlast⟩ := exists_isLastInBlock ht hnode
      obtain ⟨last', hlast'⟩ := exists_isLastInBlock ht' hnode'
      refine ⟨last, last', hlast, hlast', ?_⟩
      -- Whether these are the last of their block makes no difference without line feeds.
      rw [Rule.ending, Rule.ending, hinline id hmem node e hnode hkind, Option.getD_none,
        ite_self, ite_self]
    · obtain ⟨front, behind, hafter⟩ := List.append_of_mem hmem
      exact hsame (hf.exists_isLastInBlock_after ht ht' hafter)
  · obtain ⟨parent', hq', hkind', hchildren'⟩ := hf.other hq hqp
    exact hsame (exists_isLastInBlock_map ht ht' hq hq' hchildren'
      (by rw [Node.tag?_congr hkind'])
      (fun c hc => hf.isElement_eq (ht.lt_size_of_mem hq hc)) hmem)

/-! ### What is shown -/

/-- A node is rendered in the same way in both trees. -/
def SameAt (t t' : Tree) (f : Nat → Nat) (rules : Rules) (options : Options) (id : Nat) : Prop :=
  ∃ s, t.renderAt rules options id = .ok s ∧ t'.renderAt rules options (f id) = .ok s

theorem exists_parts {ids : List Nat} (h : ∀ c ∈ ids, SameAt t t' f rules options c) :
    ∃ parts, List.Forall₂ (fun c part => t.renderAt rules options c = .ok part) ids parts ∧
      List.Forall₂ (fun c part => t'.renderAt rules options c = .ok part) (ids.map f) parts := by
  induction ids with
  | nil => exact ⟨[], .nil, .nil⟩
  | cons c ids ih =>
    obtain ⟨s, hs, hs'⟩ := h c List.mem_cons_self
    obtain ⟨parts, hparts, hparts'⟩ := ih fun d hd => h d (List.mem_cons_of_mem c hd)
    exact ⟨s :: parts, .cons hs hparts, .cons hs' hparts'⟩

/-- The new element shows what is in it. -/
theorem renderAt_wrapper (hf : Wraps t t' f p before run after w wrapper) (ht' : t'.Linked)
    (hwrapper : rules.forTag wrapper.tag = .transparent) {parts : List String}
    (hparts : List.Forall₂ (fun c part => t'.renderAt rules options c = .ok part) (run.map f)
      parts) : t'.renderAt rules options w = .ok (String.join parts) := by
  obtain ⟨node, hnode, hkind, hchildren⟩ := hf.wrapped
  obtain ⟨last, hlast⟩ := exists_isLastInBlock ht' hnode
  obtain ⟨parts', hparts', hrender⟩ := renderAt_element rules options ht' hnode hkind hlast
  rw [hchildren] at hparts'
  rw [hrender, hwrapper, eq_of_forall₂_ok (fun _ _ => rfl) hparts hparts']
  simp [Rule.visitsChildren, Rule.shape, Rule.ending, Rule.trailer]

/-- The children of corresponding nodes show the same, taken together. -/
theorem exists_join_eq (hf : Wraps t t' f p before run after w wrapper) (ht' : t'.Linked)
    (hwrapper : rules.forTag wrapper.tag = .transparent) {id : Nat} {node node' : Node}
    (hnode : t.nodes[id]? = some node) (hnode' : t'.nodes[f id]? = some node')
    (h : ∀ c ∈ node.children, SameAt t t' f rules options c) :
    ∃ parts parts',
      List.Forall₂ (fun c part => t.renderAt rules options c = .ok part) node.children parts ∧
      List.Forall₂ (fun c part => t'.renderAt rules options c = .ok part) node'.children parts' ∧
      String.join parts' = String.join parts := by
  by_cases hid : id = p
  · obtain ⟨above, above', habove, hchildren, habove', -, hchildren'⟩ := hf.place
    -- In the parent of the run, the new element shows what the run shows.
    obtain rfl : node = above := Option.some.inj ((hid ▸ hnode).symm.trans habove)
    obtain rfl : node' = above' := Option.some.inj ((hid ▸ hnode').symm.trans habove')
    rw [hchildren, List.forall_mem_append, List.forall_mem_append] at h
    rw [hchildren, hchildren']
    obtain ⟨front, hfront, hfront'⟩ := exists_parts h.1.1
    obtain ⟨middle, hmiddle, hmiddle'⟩ := exists_parts h.1.2
    obtain ⟨back, hback, hback'⟩ := exists_parts h.2
    refine ⟨front ++ middle ++ back, front ++ String.join middle :: back,
      List.rel_append (List.rel_append hfront hmiddle) hback,
      List.rel_append hfront' (.cons (hf.renderAt_wrapper ht' hwrapper hmiddle') hback'), ?_⟩
    rw [String.join_append, String.join_cons, String.join_append, String.join_append,
      String.append_assoc]
  · obtain ⟨node'', hnode'', -, hchildren⟩ := hf.other hnode hid
    obtain rfl : node' = node'' := Option.some.inj (hnode'.symm.trans hnode'')
    obtain ⟨parts, hparts, hparts'⟩ := exists_parts h
    exact ⟨parts, parts, hparts, hchildren ▸ hparts', rfl⟩

/-- Every node is rendered in the same way in both trees, by induction from the children to their
parent. -/
theorem sameAt (hf : Wraps t t' f p before run after w wrapper) (ht : t.Linked)
    (ht' : t'.Linked) (hwrapper : rules.forTag wrapper.tag = .transparent)
    (hinline : t.WithoutTrailers rules run) (hplace : t.NoneLastBefore p (run ++ after))
    (options : Options) {id : Nat} (hid : id < t.size) : SameAt t t' f rules options id := by
  refine ht.induction_children (P := SameAt t t' f rules options)
    (fun {id node} hnode ih => ?_) hid
  obtain ⟨node', hnode', hkind'⟩ := hf.exists_node hnode
  cases hkind : node.kind with
  | text s =>
    exact ⟨_, renderAt_text rules options ht hnode hkind,
      renderAt_text rules options ht' hnode' (hkind'.trans hkind)⟩
  | element e =>
    obtain ⟨last, last', hlast, hlast', hending⟩ :=
      hf.exists_ending_eq ht ht' hinline hplace hnode hkind
    obtain ⟨parts, hparts, hrender⟩ := renderAt_element rules options ht hnode hkind hlast
    obtain ⟨parts', hparts', hrender'⟩ :=
      renderAt_element rules options ht' hnode' (hkind'.trans hkind) hlast'
    obtain ⟨shown, shown', hshown, hshown', hjoin⟩ :=
      hf.exists_join_eq ht' hwrapper hnode hnode' ih
    refine ⟨_, hrender, hrender'.trans ?_⟩
    rw [eq_of_forall₂_ok (fun _ _ => rfl) hparts hshown,
      eq_of_forall₂_ok (fun _ _ => rfl) hparts' hshown', hjoin, hending]

/-- **Wrapped siblings.** Some neighbouring children of a node are put under a new element with a
transparent rule. If no element among them has line feeds of its own, and there is an element among
them or behind them, or their parent is not block-level, then every node is rendered as before, and
the tree has the same raw rendering and the same text. -/
theorem renderRoot_eq_and_toText_eq (hf : Wraps t t' f p before run after w wrapper)
    (ht : t.Grown) (ht' : t'.Grown) (options : Options)
    (hwrapper : rules.forTag wrapper.tag = .transparent)
    (hinline : t.WithoutTrailers rules run)
    (hplace : (∃ c ∈ run, t.isElement c = true) ∨ (∃ c ∈ after, t.isElement c = true) ∨
      ∀ node, t.nodes[p]? = some node → node.tag?.any isBlockTag = false) :
    t'.renderRoot rules options = t.renderRoot rules options ∧
      t'.toText rules options = t.toText rules options ∧
      ∀ id < t.size, ∃ s, t.renderAt rules options id = .ok s ∧
        t'.renderAt rules options (f id) = .ok s := by
  have hnone : t.NoneLastBefore p (run ++ after) := by
    rcases hplace with ⟨c, hc, h⟩ | ⟨c, hc, h⟩ | h
    · exact Or.inl ⟨c, List.mem_append_left _ hc, h⟩
    · exact Or.inl ⟨c, List.mem_append_right _ hc, h⟩
    · exact Or.inr h
  have hnodes : ∀ id < t.size, SameAt t t' f rules options id := fun id hid =>
    hf.sameAt ht.linked ht'.linked hwrapper hinline hnone options hid
  obtain ⟨root, hroot, -⟩ := ht.linked.root
  obtain ⟨s, hs, hs'⟩ := hnodes 0 (lt_size_of_getElem? hroot)
  rw [renderAt_root rules options ht.linked] at hs
  rw [hf.root, renderAt_root rules options ht'.linked] at hs'
  have hsame : t'.renderRoot rules options = t.renderRoot rules options :=
    (Except.ok.inj hs').trans (Except.ok.inj hs).symm
  exact ⟨hsame, by rw [toText, toText, hsame], hnodes⟩

end Wraps

/-! ### A block with a text and an emphasis behind a paragraph -/

/-- A block with a paragraph, a text, an emphasis and another text. -/
def looseBlock : Tree :=
  (((((((ofRoot "html").grow 0 (.element (.normalized "div" []))).grow 1
    (.element (.normalized "p" []))).grow 2 (.text "a")).grow 1 (.text "b")).grow 1
    (.element (.normalized "em" []))).grow 5 (.text "c")).grow 1 (.text "d")

/-- The same block with the first text and the emphasis in an element without a rule. -/
def wrappedBlock : Tree :=
  ((((((((ofRoot "html").grow 0 (.element (.normalized "div" []))).grow 1
    (.element (.normalized "p" []))).grow 2 (.text "a")).grow 1
    (.element (.normalized "span" [("class", "x")]))).grow 4 (.text "b")).grow 4
    (.element (.normalized "em" []))).grow 6 (.text "c")).grow 1 (.text "d")

/-- The numbers that the nodes of the loose block have in the wrapped one. -/
def wrappedNumber (id : Nat) : Nat := if id < 4 then id else id + 1

theorem grown_looseBlock : looseBlock.Grown :=
  (((((((Grown.ofRoot "html").growElement (by decide) "div" []).growElement (by decide) "p"
    []).growText (by decide) "a").growText (by decide) "b").growElement (by decide) "em"
    []).growText (by decide) "c").growText (by decide) "d"

theorem grown_wrappedBlock : wrappedBlock.Grown :=
  ((((((((Grown.ofRoot "html").growElement (by decide) "div" []).growElement (by decide) "p"
    []).growText (by decide) "a").growElement (by decide) "span" [("class", "x")]).growText
    (by decide) "b").growElement (by decide) "em" []).growText (by decide) "c").growText
    (by decide) "d"

theorem wraps_wrappedBlock :
    Wraps looseBlock wrappedBlock wrappedNumber 1 [2] [4, 5] [7] 4
      (.normalized "span" [("class", "x")]) where
  root := rfl
  other := by
    intro id node hnode hid
    have hbound : id < 8 := lt_size_of_getElem? hnode
    interval_cases id <;> obtain rfl := Option.some.inj hnode <;>
      first
      | exact absurd rfl hid
      | exact ⟨_, rfl, rfl, rfl⟩
  place := ⟨_, _, rfl, rfl, rfl, rfl, rfl⟩
  wrapped := ⟨_, rfl, rfl, rfl⟩

/-- The emphasis keeps the paragraph from being the last element of the block, with the new element
around it and without. -/
theorem wrappedBlock_renders_alike :
    Grown looseBlock ∧ Grown wrappedBlock ∧
      Wraps looseBlock wrappedBlock wrappedNumber 1 [2] [4, 5] [7] 4
        (.normalized "span" [("class", "x")]) ∧
      (∃ c ∈ [4, 5], looseBlock.isElement c = true) ∧
      wrappedBlock.renderRoot .builtin {} = looseBlock.renderRoot .builtin {} ∧
      wrappedBlock.toText .builtin {} = looseBlock.toText .builtin {} ∧
      ∃ s, looseBlock.renderAt .builtin {} 2 = .ok s ∧
        wrappedBlock.renderAt .builtin {} 2 = .ok s := by
  have hwrapper : Rules.builtin.forTag (Element.normalized "span" [("class", "x")]).tag =
      .transparent := by decide +kernel
  have hinline : looseBlock.WithoutTrailers .builtin [4, 5] := by
    simp only [WithoutTrailers, List.forall_mem_cons, List.not_mem_nil, false_implies,
      implies_true, and_true]
    constructor <;> intro node e hnode hkind <;> obtain rfl := Option.some.inj hnode
    · exact NodeKind.noConfusion hkind
    · obtain rfl := NodeKind.element.inj hkind
      decide +kernel
  have helement : ∃ c ∈ [4, 5], looseBlock.isElement c = true :=
    ⟨5, by decide, by decide +kernel⟩
  obtain ⟨hroot, htext, hnodes⟩ := wraps_wrappedBlock.renderRoot_eq_and_toText_eq
    grown_looseBlock grown_wrappedBlock {} hwrapper hinline (Or.inl helement)
  exact ⟨grown_looseBlock, grown_wrappedBlock, wraps_wrappedBlock, helement, hroot, htext,
    hnodes 2 (by decide)⟩

end Tree

end HtmlText
