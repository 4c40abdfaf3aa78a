import HtmlText.Proofs.RenderRecursion
import Mathlib.Data.List.Sort
import Mathlib.Data.Set.Function
import Mathlib.Tactic.IntervalCases

/-!
# Renumbered trees

Two trees may have the same shape although their nodes were appended in different orders: a
one-to-one map of nodes keeps the root, the parents and the order of siblings. What the nodes hold
is then compared node by node. If elements that correspond to each other have the same rule, are
both block-level or both not, and have the same target where they are links, then the trees are
rendered alike, at the root and at every other node.

The proof goes through the contents of the nodes. A renumbering takes lists of children to lists of
children, so corresponding nodes have contents of the same structure, and the rendering of a content
looks at nothing but this structure and the three properties of its elements.

## Main definitions

* `NodeKind.Related`, `Content.Related`: related texts and elements, and contents made of them.
* `Tree.Renumbers`: a one-to-one map of the nodes of two trees of the same shape.
* `Element.RenderedAlike`: what rendering looks at in an element.

## Main results

* `Tree.Renumbers.children_eq`: a renumbering keeps the lists of children.
* `Tree.Renumbers.exists_content_related`: corresponding nodes have related contents.
* `Content.Related.render_eq`: contents with elements that are rendered alike are rendered alike.
* `Tree.Renumbers.renderAt_eq_and_toText_eq`: so are trees.
-/

namespace HtmlText

/-! ### Related contents -/

section Relations

variable (elements : Element → Element → Prop) (texts : String → String → Prop)

/-- Two related texts or two related elements. -/
inductive NodeKind.Related : NodeKind → NodeKind → Prop
  | text {s s' : String} (h : texts s s') : Related (.text s) (.text s')
  | element {e e' : Element} (h : elements e e') : Related (.element e) (.element e')

/-- Two contents of the same structure that are made of related texts and elements. -/
inductive Content.Related : Content → Content → Prop
  | text {s s' : String} (h : texts s s') : Related (.text s) (.text s')
  | element {e e' : Element} {children children' : List Content} (h : elements e e')
      (hchildren : List.Forall₂ Related children children') :
      Related (.element e children) (.element e' children')

end Relations

variable {elements : Element → Element → Prop} {texts : String → String → Prop}

theorem NodeKind.Related.isElement_eq {node node' : Node}
    (h : node.kind.Related elements texts node'.kind) : node'.isElement = node.isElement := by
  obtain ⟨kind, parent, children⟩ := node
  obtain ⟨kind', parent', children'⟩ := node'
  cases h <;> rfl

theorem NodeKind.Related.any_isBlockTag_eq
    (hblock : ∀ {e e' : Element}, elements e e' → isBlockTag e'.tag = isBlockTag e.tag)
    {node node' : Node} (h : node.kind.Related elements texts node'.kind) :
    node'.tag?.any isBlockTag = node.tag?.any isBlockTag := by
  obtain ⟨kind, parent, children⟩ := node
  obtain ⟨kind', parent', children'⟩ := node'
  cases h with
  | text _ => rfl
  | element h => exact hblock h

theorem Content.Related.isElement_eq {content content' : Content}
    (h : content.Related elements texts content') : content'.isElement = content.isElement := by
  cases h <;> rfl

theorem any_isElement_of_related {contents contents' : List Content}
    (h : List.Forall₂ (Content.Related elements texts) contents contents') :
    contents'.any Content.isElement = contents.any Content.isElement := by
  induction h with
  | nil => rfl
  | cons hcontent _ ih => rw [List.any_cons, List.any_cons, hcontent.isElement_eq, ih]

/-! ### Renumberings -/

namespace Tree

/-- A one-to-one map of the nodes of one tree to those of another that keeps the root, the parents
and the order of siblings, and under which nodes hold related elements or texts. -/
structure Renumbers (elements : Element → Element → Prop) (texts : String → String → Prop)
    (t t' : Tree) (f : Nat → Nat) : Prop where
  bijOn : Set.BijOn f (Set.Iio t.size) (Set.Iio t'.size)
  root : f 0 = 0
  parent : ∀ {id : Nat} {node node' : Node}, t.nodes[id]? = some node →
    t'.nodes[f id]? = some node' → node'.parent = node.parent.map f
  /-- Siblings, which stand in the order of their numbers, keep their order. -/
  order : ∀ {p c d : Nat} {node : Node}, t.nodes[p]? = some node → c ∈ node.children →
    d ∈ node.children → c < d → f c < f d
  kind : ∀ {id : Nat} {node node' : Node}, t.nodes[id]? = some node →
    t'.nodes[f id]? = some node' → node.kind.Related elements texts node'.kind

namespace Renumbers

variable {t t' : Tree} {f : Nat → Nat}

theorem exists_node (hf : Renumbers elements texts t t' f) {id : Nat} {node : Node}
    (hnode : t.nodes[id]? = some node) : ∃ node', t'.nodes[f id]? = some node' :=
  ⟨_, Array.getElem?_eq_getElem (hf.bijOn.mapsTo (lt_size_of_getElem? hnode))⟩

/-- The children of a node correspond, in order, to those of the corresponding node. -/
theorem children_eq (ht : t.Linked) (ht' : t'.Linked) (hf : Renumbers elements texts t t' f)
    {id : Nat} {node node' : Node} (hnode : t.nodes[id]? = some node)
    (hnode' : t'.nodes[f id]? = some node') : node'.children = node.children.map f := by
  have hsorted : (node.children.map f).Pairwise (· < ·) := by
    rw [List.pairwise_map]
    exact (ht.ordered hnode).imp_of_mem fun hc hd hlt => hf.order hnode hc hd hlt
  refine (ht'.ordered hnode').eq_of_mem_iff hsorted fun c' => ?_
  rw [List.mem_map]
  constructor
  · intro hc'
    obtain ⟨-, child', hchild', hback'⟩ := ht'.child hnode' hc'
    obtain ⟨c, hc, rfl⟩ := hf.bijOn.surjOn (lt_size_of_getElem? hchild')
    have hchild := Array.getElem?_eq_getElem (Set.mem_Iio.mp hc)
    obtain ⟨q, hq, hfq⟩ := Option.map_eq_some_iff.mp ((hf.parent hchild hchild').symm.trans hback')
    obtain ⟨above, habove, -⟩ := ht.exists_parent hchild hq
    -- Only here does the map have to be one-to-one: the parent of `c` is no other node than `id`.
    obtain rfl : q = id :=
      hf.bijOn.injOn (lt_size_of_getElem? habove) (lt_size_of_getElem? hnode) hfq
    exact ⟨c, (ht.mem_children_iff hchild hq hnode).mpr rfl, rfl⟩
  · rintro ⟨c, hc, rfl⟩
    obtain ⟨-, child, hchild, hback⟩ := ht.child hnode hc
    obtain ⟨child', hchild'⟩ := hf.exists_node hchild
    have hback' : child'.parent = some (f id) := by
      rw [hf.parent hchild hchild', hback, Option.map_some]
    exact (ht'.mem_children_iff hchild' hback' hnode').mpr rfl

/-- Corresponding nodes have contents of the same structure. -/
theorem exists_content_related (ht : t.Linked) (ht' : t'.Linked)
    (hf : Renumbers elements texts t t' f) {id : Nat} (hid : id < t.size) :
    ∃ content content', t.content id = .ok content ∧ t'.content (f id) = .ok content' ∧
      content.Related elements texts content' := by
  refine ht.induction_children (P := fun id => ∃ content content', t.content id = .ok content ∧
    t'.content (f id) = .ok content' ∧ content.Related elements texts content')
    (fun {id node} hnode ih => ?_) hid
  obtain ⟨node', hnode'⟩ := hf.exists_node hnode
  have hchildren := hf.children_eq ht ht' hnode hnode'
  have hkind := hf.kind hnode hnode'
  obtain ⟨kind, parent, children⟩ := node
  obtain ⟨kind', parent', children'⟩ := node'
  cases hkind with
  | text h => exact ⟨_, _, content_text ht hnode rfl, content_text ht' hnode' rfl, .text h⟩
  | element h =>
    obtain ⟨contents, hcontent, hcontents⟩ := content_element ht hnode rfl
    obtain ⟨contents', hcontent', hcontents'⟩ := content_element ht' hnode' rfl
    obtain rfl : children' = children.map f := hchildren
    rw [List.forall₂_map_left_iff] at hcontents'
    refine ⟨_, _, hcontent, hcontent', .element h (forall₂_of_forall₂_ok ?_ hcontents hcontents')⟩
    intro c hc content content' hok hok'
    obtain ⟨_, _, hcontent, hcontent', hrelated⟩ := ih c hc
    obtain rfl := Except.ok.inj (hok.symm.trans hcontent)
    obtain rfl := Except.ok.inj (hok'.symm.trans hcontent')
    exact hrelated

theorem isElement_eq (hf : Renumbers elements texts t t' f) {id : Nat} (hid : id < t.size) :
    t'.isElement (f id) = t.isElement id := by
  have hnode := Array.getElem?_eq_getElem hid
  obtain ⟨node', hnode'⟩ := hf.exists_node hnode
  rw [Tree.isElement_eq hnode, Tree.isElement_eq hnode', (hf.kind hnode hnode').isElement_eq]

/-- Corresponding nodes are both the last of a block, or neither is. -/
theorem exists_isLastInBlock_eq (ht : t.Linked) (ht' : t'.Linked)
    (hf : Renumbers elements texts t t' f)
    (hblock : ∀ {e e' : Element}, elements e e' → isBlockTag e'.tag = isBlockTag e.tag) {id : Nat}
    (hid : id < t.size) :
    ∃ last, t.isLastInBlock id = .ok last ∧ t'.isLastInBlock (f id) = .ok last := by
  have hnode := Array.getElem?_eq_getElem hid
  rcases eq_zero_or_exists_parent ht hnode with rfl | ⟨p, parent, before, after, hp, hchildren⟩
  · exact ⟨false, isLastInBlock_root ht, by rw [hf.root]; exact isLastInBlock_root ht'⟩
  · obtain ⟨parent', hp'⟩ := hf.exists_node hp
    refine exists_isLastInBlock_map ht ht' hp hp' (hf.children_eq ht ht' hp hp')
      ((hf.kind hp hp').any_isBlockTag_eq hblock) (fun c hc => ?_) (by simp [hchildren])
    exact hf.isElement_eq (ht.lt_size_of_mem hp hc)

end Renumbers

end Tree

/-! ### Rendering -/

/-- What rendering looks at in an element is the same for two elements, each with the rules of its
own tree. -/
structure Element.RenderedAlike (rules rules' : Rules) (e e' : Element) : Prop where
  rule : rules'.forTag e'.tag = rules.forTag e.tag
  block : isBlockTag e'.tag = isBlockTag e.tag
  /-- An absent target counts as an empty one. -/
  target : rules.forTag e.tag = .link →
    (e'.attribute? "href").getD "" = (e.attribute? "href").getD ""

/-- Only links look at their targets. -/
theorem shape_congr_href {rule : Rule} {href href' : String} (h : rule = .link → href' = href)
    (options : Options) (content : String) :
    rule.shape options content href' = rule.shape options content href := by
  cases rule with
  | link => rw [h rfl]
  | _ => rfl

mutual

/-- Contents with elements that are rendered alike are rendered alike. -/
theorem Content.Related.render_eq {rules rules' : Rules} (options : Options) (last : Bool)
    {content content' : Content}
    (h : content.Related (Element.RenderedAlike rules rules') (· = ·) content') :
    content'.render rules' options last = content.render rules options last := by
  cases h with
  | text h => rw [h, Content.render, Content.render]
  | @element e e' children children' he hchildren =>
    rw [Content.render, Content.render, he.rule, he.block,
      renderAll_eq_of_related options _ hchildren, shape_congr_href he.target]

theorem renderAll_eq_of_related {rules rules' : Rules} (options : Options) (inBlock : Bool)
    {contents contents' : List Content}
    (h : List.Forall₂ (Content.Related (Element.RenderedAlike rules rules') (· = ·)) contents
      contents') :
    renderAll rules' options inBlock contents' = renderAll rules options inBlock contents := by
  cases h with
  | nil => rfl
  | cons hcontent hsiblings =>
    rw [renderAll, renderAll, any_isElement_of_related hsiblings, hcontent.render_eq options,
      renderAll_eq_of_related options inBlock hsiblings]

end

namespace Tree

variable {t t' : Tree} {f : Nat → Nat} {rules rules' : Rules}

/-- **Rendering does not depend on the representation.** Two trees of the same shape, whose elements
are rendered alike, have the same raw rendering at any two corresponding nodes, and the same text:
the order in which their nodes were appended, their other attributes and the names of their tags do
not matter. -/
theorem Renumbers.renderAt_eq_and_toText_eq (ht : t.Grown) (ht' : t'.Grown)
    (hf : Renumbers (Element.RenderedAlike rules rules') (· = ·) t t' f) (options : Options) :
    (∀ id < t.size, ∃ s, t.renderAt rules options id = .ok s ∧
        t'.renderAt rules' options (f id) = .ok s) ∧
      t.toText rules options = t'.toText rules' options := by
  have hnodes : ∀ id < t.size, ∃ s, t.renderAt rules options id = .ok s ∧
      t'.renderAt rules' options (f id) = .ok s := by
    intro id hid
    obtain ⟨content, content', hcontent, hcontent', hrelated⟩ :=
      hf.exists_content_related ht.linked ht'.linked hid
    obtain ⟨last, hlast, hlast'⟩ :=
      hf.exists_isLastInBlock_eq ht.linked ht'.linked (fun h => h.block) hid
    refine ⟨_, renderAt_eq rules options hcontent hlast, ?_⟩
    rw [renderAt_eq rules' options hcontent' hlast', hrelated.render_eq options last]
  refine ⟨hnodes, ?_⟩
  obtain ⟨root, hroot, -⟩ := ht.linked.root
  obtain ⟨s, hs, hs'⟩ := hnodes 0 (lt_size_of_getElem? hroot)
  rw [renderAt_root rules options ht.linked] at hs
  rw [hf.root, renderAt_root rules' options ht'.linked] at hs'
  rw [toText, toText, Except.ok.inj hs, Except.ok.inj hs']

/-! ### A page built in two orders -/

/-- An ordered list with a link in its second item, and a quoted description, node after node in
the order of the document. -/
def orderedPage : Tree :=
  (((((((((ofRoot "html").grow 0 (.element (.normalized "ol" []))).grow 1
    (.element (.normalized "li" []))).grow 2 (.text "a")).grow 1
    (.element (.normalized "li" []))).grow 4 (.element (.normalized "a" [("href", "u:x")]))).grow 5
    (.text "x")).grow 0 (.element (.normalized "blockquote" []))).grow 7
    (.element (.normalized "dd" []))).grow 8 (.text "q")

/-- The same page level by level, with an unordered list, a preformatted term, and more
attributes. -/
def leveledPage : Tree :=
  (((((((((ofRoot "html").grow 0 (.element (.normalized "ul" [("class", "c")]))).grow 0
    (.element (.normalized "pre" []))).grow 1 (.element (.normalized "li" []))).grow 1
    (.element (.normalized "li" []))).grow 2 (.element (.normalized "dt" []))).grow 3
    (.text "a")).grow 4 (.element (.normalized "a" [("title", "t"), ("HREF", "u:x")]))).grow 5
    (.text "q")).grow 7 (.text "x")

/-- The numbers that the nodes of the ordered page have in the leveled one. -/
def leveledNumber (id : Nat) : Nat := [0, 1, 3, 6, 4, 7, 9, 2, 5, 8].getD id id

theorem grown_orderedPage : orderedPage.Grown :=
  (((((((((Grown.ofRoot "html").growElement (by decide) "ol" []).growElement (by decide) "li"
    []).growText (by decide) "a").growElement (by decide) "li" []).growElement (by decide) "a"
    [("href", "u:x")]).growText (by decide) "x").growElement (by decide) "blockquote"
    []).growElement (by decide) "dd" []).growText (by decide) "q"

theorem grown_leveledPage : leveledPage.Grown :=
  (((((((((Grown.ofRoot "html").growElement (by decide) "ul" [("class", "c")]).growElement
    (by decide) "pre" []).growElement (by decide) "li" []).growElement (by decide) "li"
    []).growElement (by decide) "dt" []).growText (by decide) "a").growElement (by decide) "a"
    [("title", "t"), ("HREF", "u:x")]).growText (by decide) "q").growText (by decide) "x"

theorem renumbers_leveledPage :
    Renumbers (Element.RenderedAlike .builtin (Rules.builtin.add "section" .block)) (· = ·)
      orderedPage leveledPage leveledNumber where
  bijOn := by
    refine ⟨?_, ?_, ?_⟩
    · exact show ∀ id < 10, leveledNumber id < 10 by decide
    · exact show ∀ id < 10, ∀ id' < 10, leveledNumber id = leveledNumber id' → id = id' by decide
    · exact show ∀ id' < 10, ∃ id < 10, leveledNumber id = id' by decide
  root := rfl
  parent := by
    intro id node node' hnode hnode'
    have hid : id < 10 := lt_size_of_getElem? hnode
    interval_cases id <;> obtain rfl := Option.some.inj hnode <;>
      obtain rfl := Option.some.inj hnode' <;> rfl
  order := by
    intro p c d node hnode hc hd
    have hp : p < 10 := lt_size_of_getElem? hnode
    revert d
    revert c
    interval_cases p <;> obtain rfl := Option.some.inj hnode <;> decide
  kind := by
    intro id node node' hnode hnode'
    have hid : id < 10 := lt_size_of_getElem? hnode
    interval_cases id <;> obtain rfl := Option.some.inj hnode <;>
      obtain rfl := Option.some.inj hnode' <;>
      first
      | exact .text rfl
      | exact .element ⟨by decide +kernel, by decide +kernel, by decide +kernel⟩

/-- Lists of both kinds, quotations and preformatted texts, terms and descriptions are rendered
alike in whatever order they are appended. -/
theorem leveledPage_renders_alike :
    Grown orderedPage ∧ Grown leveledPage ∧
      Renumbers (Element.RenderedAlike .builtin (Rules.builtin.add "section" .block)) (· = ·)
        orderedPage leveledPage leveledNumber ∧
      orderedPage.toText .builtin {} =
        leveledPage.toText (Rules.builtin.add "section" .block) {} ∧
      ∃ s, orderedPage.renderAt .builtin {} 7 = .ok s ∧
        leveledPage.renderAt (Rules.builtin.add "section" .block) {} 2 = .ok s := by
  have h := renumbers_leveledPage.renderAt_eq_and_toText_eq grown_orderedPage grown_leveledPage {}
  exact ⟨grown_orderedPage, grown_leveledPage, renumbers_leveledPage, h.2, h.1 7 (by decide)⟩

end Tree

end HtmlText
