import HtmlText.Proofs.GrownTree
import HtmlText.Render

/-!
# Rendering node by node

The raw rendering of a node of a tree, in terms of the raw renderings of its children, its element
and its place among its siblings. Two trees can be compared by these equations without a look at
the contents of their nodes as wholes.

## Main results

* `Tree.renderAt_text`, `Tree.renderAt_element`: the raw rendering of a node.
* `Tree.renderAt_root`: the raw rendering of a tree is the one of its root.
-/

namespace HtmlText

/-- A result of a function that succeeds on all of a list is the one of a member. -/
theorem exists_mem_of_forall₂_ok {α β ε : Type} {g : α → Except ε β} {xs : List α} {bs : List β}
    (h : List.Forall₂ (fun x b => g x = .ok b) xs bs) {b : β} (hb : b ∈ bs) :
    ∃ x ∈ xs, g x = .ok b := by
  induction h with
  | nil => exact absurd hb List.not_mem_nil
  | @cons x c xs bs hx _ ih =>
    rcases List.mem_cons.mp hb with rfl | hb
    · exact ⟨x, List.mem_cons_self, hx⟩
    · obtain ⟨y, hy, hok⟩ := ih hb
      exact ⟨y, List.mem_cons_of_mem x hy, hok⟩

/-- Two functions with related results on a list that succeed on all of it have lists of related
results. -/
theorem forall₂_of_forall₂_ok {α β γ ε : Type} {R : β → γ → Prop} {g : α → Except ε β}
    {g' : α → Except ε γ} {xs : List α} {bs : List β} {cs : List γ}
    (h : ∀ x ∈ xs, ∀ b c, g x = .ok b → g' x = .ok c → R b c)
    (hb : List.Forall₂ (fun x b => g x = .ok b) xs bs)
    (hc : List.Forall₂ (fun x c => g' x = .ok c) xs cs) : List.Forall₂ R bs cs := by
  induction hb generalizing cs with
  | nil =>
    rw [List.forall₂_nil_left_iff.mp hc]
    exact .nil
  | @cons x b xs bs hx _ ih =>
    obtain ⟨c, cs, hxc, hxs, rfl⟩ := List.forall₂_cons_left_iff.mp hc
    exact .cons (h x List.mem_cons_self b c hx hxc)
      (ih (fun y hy => h y (List.mem_cons_of_mem x hy)) hxs)

/-- Two functions that agree on a list and succeed on all of it have the same results. -/
theorem eq_of_forall₂_ok {α β ε : Type} {g g' : α → Except ε β} {xs : List α} {bs bs' : List β}
    (h : ∀ x ∈ xs, g x = g' x) (hb : List.Forall₂ (fun x b => g x = .ok b) xs bs)
    (hb' : List.Forall₂ (fun x b => g' x = .ok b) xs bs') : bs = bs' := by
  have hsame : ∀ x ∈ xs, ∀ b b', g x = .ok b → g' x = .ok b' → b = b' :=
    fun x hx b b' hb hb' => Except.ok.inj (hb.symm.trans ((h x hx).trans hb'))
  have heq := forall₂_of_forall₂_ok hsame hb hb'
  rwa [List.forall₂_eq_eq_eq] at heq

namespace Tree

variable {t : Tree} (rules : Rules) (options : Options)

/-- Every node of a linked tree is the root or stands among the children of a node. -/
theorem eq_zero_or_exists_parent (ht : t.Linked) {id : Nat} {node : Node}
    (hnode : t.nodes[id]? = some node) :
    id = 0 ∨ ∃ (p : Nat) (parent : Node) (before after : List Nat),
      t.nodes[p]? = some parent ∧ parent.children = before ++ id :: after := by
  by_cases hid : id = 0
  · exact Or.inl hid
  · obtain ⟨p, parent, -, hparent, hmem⟩ := ht.parent hnode hid
    obtain ⟨before, after, hchildren⟩ := List.append_of_mem hmem
    exact Or.inr ⟨p, parent, before, after, hparent, hchildren⟩

theorem exists_isLastInBlock (ht : t.Linked) {id : Nat} {node : Node}
    (hnode : t.nodes[id]? = some node) : ∃ last, t.isLastInBlock id = .ok last := by
  rcases eq_zero_or_exists_parent ht hnode with rfl | ⟨p, parent, before, after, hp, hchildren⟩
  · exact ⟨false, isLastInBlock_root ht⟩
  · exact ⟨_, isLastInBlock_child ht hp hchildren⟩

/-- There are elements among some nodes of a tree and among the nodes of another one that they
correspond to, or among neither. -/
theorem any_isElement_map {t' : Tree} {f : Nat → Nat} {ids : List Nat}
    (h : ∀ c ∈ ids, t'.isElement (f c) = t.isElement c) :
    (ids.map f).any t'.isElement = ids.any t.isElement := by
  rw [List.any_map, Bool.eq_iff_iff, List.any_eq_true, List.any_eq_true]
  refine exists_congr fun c => and_congr_right fun hc => ?_
  rw [Function.comp_apply, h c hc]

/-- Two children of different trees are both the last of a block, or neither is, if the lists of
children around them correspond. -/
theorem exists_isLastInBlock_map {t' : Tree} {f : Nat → Nat} (ht : t.Linked) (ht' : t'.Linked)
    {p id : Nat} {node node' : Node} (hnode : t.nodes[p]? = some node)
    (hnode' : t'.nodes[f p]? = some node') (hchildren : node'.children = node.children.map f)
    (hblock : node'.tag?.any isBlockTag = node.tag?.any isBlockTag)
    (helement : ∀ c ∈ node.children, t'.isElement (f c) = t.isElement c)
    (hid : id ∈ node.children) :
    ∃ last, t.isLastInBlock id = .ok last ∧ t'.isLastInBlock (f id) = .ok last := by
  obtain ⟨before, after, hsplit⟩ := List.append_of_mem hid
  have hsplit' : node'.children = before.map f ++ f id :: after.map f := by
    rw [hchildren, hsplit, List.map_append, List.map_cons]
  have hafter : (after.map f).any t'.isElement = after.any t.isElement :=
    any_isElement_map fun c hc => helement c (by simp [hsplit, hc])
  refine ⟨_, isLastInBlock_child ht hnode hsplit, ?_⟩
  rw [isLastInBlock_child ht' hnode' hsplit', hafter, hblock]

theorem renderAt_eq {id : Nat} {content : Content} {last : Bool}
    (hcontent : t.content id = .ok content) (hlast : t.isLastInBlock id = .ok last) :
    t.renderAt rules options id = .ok (content.render rules options last) := by
  rw [renderAt, hcontent]
  simp only [bind, Except.bind, hlast, pure, Except.pure]

/-- A text is rendered with its blank runs collapsed. -/
theorem renderAt_text (ht : t.Linked) {id : Nat} {node : Node} {s : String}
    (hnode : t.nodes[id]? = some node) (hkind : node.kind = .text s) :
    t.renderAt rules options id = .ok (collapse s) := by
  obtain ⟨last, hlast⟩ := exists_isLastInBlock ht hnode
  rw [renderAt_eq rules options (content_text ht hnode hkind) hlast, Content.render]

theorem isElement_of_content (ht : t.Linked) {id : Nat} {content : Content}
    (hcontent : t.content id = .ok content) : t.isElement id = content.isElement := by
  rw [content_eq_ok_iff, getElem?_contents ht] at hcontent
  obtain ⟨node, hnode, rfl⟩ := Option.map_eq_some_iff.mp hcontent
  rw [isElement_eq hnode, Node.isElement, Node.element?, Node.content]
  cases node.kind <;> rfl

theorem any_isElement_of_contents (ht : t.Linked) {ids : List Nat} {contents : List Content}
    (h : List.Forall₂ (fun id content => t.content id = .ok content) ids contents) :
    ids.any t.isElement = contents.any Content.isElement := by
  induction h with
  | nil => rfl
  | cons hcontent _ ih => rw [List.any_cons, List.any_cons, ih, isElement_of_content ht hcontent]

/-- The raw renderings of the last children of an element, one behind the other. -/
theorem renderAll_eq_join (ht : t.Linked) {id : Nat} {node : Node} {e : Element}
    (hnode : t.nodes[id]? = some node) (hkind : node.kind = .element e) {rest : List Nat}
    {contents : List Content}
    (hcontents : List.Forall₂ (fun c content => t.content c = .ok content) rest contents)
    (before : List Nat) (hchildren : node.children = before ++ rest) :
    ∃ parts, List.Forall₂ (fun c part => t.renderAt rules options c = .ok part) rest parts ∧
      renderAll rules options (isBlockTag e.tag) contents = String.join parts := by
  induction hcontents generalizing before with
  | nil => exact ⟨[], .nil, by rw [renderAll, String.join_nil]⟩
  | @cons c content after contents hcontent hafter ih =>
    obtain ⟨parts, hparts, hjoin⟩ := ih (before ++ [c]) (by simp [hchildren])
    have hlast : t.isLastInBlock c =
        .ok (isBlockTag e.tag && !contents.any Content.isElement) := by
      rw [isLastInBlock_child ht hnode hchildren, any_isElement_of_contents ht hafter]
      simp [Node.tag?, Node.element?, hkind]
    exact ⟨_ :: parts, .cons (renderAt_eq rules options hcontent hlast) hparts, by
      rw [renderAll, hjoin, String.join_cons]⟩

/-- An element is rendered from its own place and the renderings of its children. -/
theorem renderAt_element (ht : t.Linked) {id : Nat} {node : Node} {e : Element} {last : Bool}
    (hnode : t.nodes[id]? = some node) (hkind : node.kind = .element e)
    (hlast : t.isLastInBlock id = .ok last) :
    ∃ parts,
      List.Forall₂ (fun c part => t.renderAt rules options c = .ok part) node.children parts ∧
      t.renderAt rules options id = .ok
        ((rules.forTag e.tag).shape options
          (if (rules.forTag e.tag).visitsChildren then String.join parts else "")
          ((e.attribute? "href").getD "") ++ (rules.forTag e.tag).ending last) := by
  obtain ⟨contents, hcontent, hcontents⟩ := content_element ht hnode hkind
  obtain ⟨parts, hparts, hjoin⟩ :=
    renderAll_eq_join rules options ht hnode hkind hcontents [] rfl
  refine ⟨parts, hparts, ?_⟩
  rw [renderAt_eq rules options hcontent hlast, Content.render, hjoin]

theorem exists_content_root (ht : t.Linked) :
    ∃ content, t.content 0 = .ok content ∧
      t.renderRoot rules options = content.render rules options false := by
  obtain ⟨root, hroot, -⟩ := ht.root
  cases hcontents : t.contents with
  | nil =>
    have hsize := lt_size_of_getElem? hroot
    rw [← length_contents, hcontents] at hsize
    simp at hsize
  | cons content contents =>
    exact ⟨content, by rw [content_eq_ok_iff, hcontents, List.getElem?_cons_zero], by
      rw [renderRoot, hcontents]⟩

/-- The raw rendering of a tree is the one of its root. -/
theorem renderAt_root (ht : t.Linked) :
    t.renderAt rules options 0 = .ok (t.renderRoot rules options) := by
  obtain ⟨content, hcontent, hrender⟩ := exists_content_root rules options ht
  rw [renderAt_eq rules options hcontent (isLastInBlock_root ht), hrender]

end Tree

end HtmlText
