import HtmlText.Tree.Content
import Mathlib.Data.List.Forall2

/-!
# Grown trees

A tree that was built from its root by appending nodes has links that fit together: a child has a
larger number than its parent and refers back to it, and the children of a node stand in the order
of their numbers. From these links follows what a node contains and which siblings follow it, so no
proof about trees has to look at a history of appended nodes again.

## Main definitions

* `Tree.Grown`: the tree was built from its root by appending elements and texts.
* `Tree.Linked`: the links of the nodes fit together.

## Main results

* `Tree.Grown.linked`: the links of a grown tree fit together.
* `Tree.getElem?_contents`, `Tree.content_text`, `Tree.content_element`: the content of a node, in
  terms of the contents of its children.
* `Tree.isLastInBlock_root`, `Tree.isLastInBlock_child`: which nodes are the last of a block.
-/

namespace HtmlText

namespace Tree

/-- A tree that was built from its root by appending elements and texts. -/
inductive Grown : Tree → Prop
  | ofRoot (tag : String) : Grown (ofRoot tag)
  | appendElement {t t' : Tree} {parent id : Nat} {tag : String}
      {attributes : List (String × String)} (ht : Grown t)
      (h : t.appendElement parent tag attributes = .ok (t', id)) : Grown t'
  | appendText {t t' : Tree} {parent id : Nat} {s : String} (ht : Grown t)
      (h : t.appendText parent s = .ok (t', id)) : Grown t'

/-- The links of the nodes fit together. -/
structure Linked (t : Tree) : Prop where
  /-- The root is there and has no parent. -/
  root : ∃ node, t.nodes[0]? = some node ∧ node.parent = none
  /-- A child has a larger number than its parent and refers back to it. -/
  child : ∀ {id c : Nat} {node : Node}, t.nodes[id]? = some node → c ∈ node.children →
    id < c ∧ ∃ child, t.nodes[c]? = some child ∧ child.parent = some id
  /-- Every node but the root is among the children of its parent. -/
  parent : ∀ {id : Nat} {node : Node}, t.nodes[id]? = some node → id ≠ 0 →
    ∃ p parent, node.parent = some p ∧ t.nodes[p]? = some parent ∧ id ∈ parent.children
  /-- Children stand in the order of their numbers. -/
  ordered : ∀ {id : Nat} {node : Node}, t.nodes[id]? = some node →
    node.children.Pairwise (· < ·)

/-! ### Growing keeps the links -/

@[simp] theorem size_ofRoot (tag : String) : (ofRoot tag).size = 1 := rfl

@[simp] theorem size_grow (t : Tree) (parent : Nat) (kind : NodeKind) :
    (t.grow parent kind).size = t.size + 1 := by
  rw [size, grow, Array.size_push, Array.size_modify, size]

theorem getElem?_grow (t : Tree) (parent : Nat) (kind : NodeKind) (id : Nat) :
    (t.grow parent kind).nodes[id]? =
      if id = t.size then some ⟨kind, some parent, []⟩
      else if parent = id then
        t.nodes[id]?.map fun node => { node with children := node.children ++ [t.size] }
      else t.nodes[id]? := by
  simp only [grow, Array.getElem?_push, Array.getElem?_modify, Array.size_modify]
  rfl

/-- The node with a given number, before and after a tree has grown. -/
theorem getElem?_grow_eq_some {t : Tree} {parent id : Nat} {kind : NodeKind} {node : Node}
    (h : (t.grow parent kind).nodes[id]? = some node) :
    (id = t.size ∧ node = ⟨kind, some parent, []⟩) ∨
      ∃ old, t.nodes[id]? = some old ∧ node.parent = old.parent ∧ node.kind = old.kind ∧
        (node.children = old.children ∨
          parent = id ∧ node.children = old.children ++ [t.size]) := by
  rw [getElem?_grow] at h
  split_ifs at h with hid hp
  · exact Or.inl ⟨hid, (Option.some.inj h).symm⟩
  · obtain ⟨old, hold, rfl⟩ := Option.map_eq_some_iff.mp h
    exact Or.inr ⟨old, hold, rfl, rfl, Or.inr ⟨hp, rfl⟩⟩
  · exact Or.inr ⟨node, h, rfl, rfl, Or.inl rfl⟩

theorem lt_size_of_getElem? {t : Tree} {id : Nat} {node : Node} (h : t.nodes[id]? = some node) :
    id < t.size :=
  (Array.getElem?_eq_some_iff.mp h).1

/-- A node stays where it is, with its kind and its parent, when a tree grows. -/
theorem getElem?_grow_of_some {t : Tree} {parent id : Nat} {kind : NodeKind} {old : Node}
    (h : t.nodes[id]? = some old) :
    ∃ node, (t.grow parent kind).nodes[id]? = some node ∧ node.parent = old.parent ∧
      ∀ c ∈ old.children, c ∈ node.children := by
  have hid : id ≠ t.size := Nat.ne_of_lt (lt_size_of_getElem? h)
  rw [getElem?_grow, if_neg hid, h]
  split_ifs
  · exact ⟨_, rfl, rfl, fun c hc => List.mem_append_left _ hc⟩
  · exact ⟨old, rfl, rfl, fun c hc => hc⟩

theorem linked_ofRoot (tag : String) : (ofRoot tag).Linked := by
  have hnode {id : Nat} {node : Node} (h : (ofRoot tag).nodes[id]? = some node) :
      id = 0 ∧ node = ⟨.element ⟨lower tag, []⟩, none, []⟩ := by
    match id, h with
    | 0, h => exact ⟨rfl, by simpa [ofRoot] using h.symm⟩
    | id + 1, h => simp [ofRoot] at h
  constructor
  case root => exact ⟨_, rfl, rfl⟩
  case child =>
    intro id c node h hc
    obtain ⟨-, rfl⟩ := hnode h
    simp at hc
  case parent =>
    intro id node h hid
    exact absurd (hnode h).1 hid
  case ordered =>
    intro id node h
    obtain ⟨-, rfl⟩ := hnode h
    exact List.Pairwise.nil

theorem Linked.grow {t : Tree} (ht : t.Linked) {parent : Nat} (hp : parent < t.size)
    (kind : NodeKind) : (t.grow parent kind).Linked := by
  have hnew : (t.grow parent kind).nodes[t.size]? = some ⟨kind, some parent, []⟩ := by
    rw [getElem?_grow, if_pos rfl]
  constructor
  case root =>
    obtain ⟨root, h, hparent⟩ := ht.root
    obtain ⟨node, hnode, hnodeParent, -⟩ := getElem?_grow_of_some h
    exact ⟨node, hnode, hnodeParent.trans hparent⟩
  case child =>
    intro id c node h hc
    rcases getElem?_grow_eq_some h with ⟨-, rfl⟩ | ⟨old, hold, -, -, hchildren⟩
    · simp at hc
    · -- The parent of the new node has the new one behind its children. All others keep theirs.
      have hcases : c ∈ old.children ∨ parent = id ∧ c = t.size := by
        rcases hchildren with h' | ⟨hid, h'⟩ <;> rw [h'] at hc
        · exact Or.inl hc
        · simpa [hid] using hc
      rcases hcases with hc | ⟨rfl, rfl⟩
      · obtain ⟨hlt, child, hchild, hback⟩ := ht.child hold hc
        obtain ⟨node', hnode', hparent', -⟩ := getElem?_grow_of_some hchild
        exact ⟨hlt, node', hnode', hparent'.trans hback⟩
      · exact ⟨hp, _, hnew, rfl⟩
  case parent =>
    intro id node h hid
    rcases getElem?_grow_eq_some h with ⟨rfl, rfl⟩ | ⟨old, hold, hparent, -, -⟩
    · obtain ⟨above, habove⟩ : ∃ node, t.nodes[parent]? = some node :=
        ⟨_, Array.getElem?_eq_getElem hp⟩
      refine ⟨parent, { above with children := above.children ++ [t.size] }, rfl, ?_, by simp⟩
      rw [getElem?_grow, if_neg (Nat.ne_of_lt hp), if_pos rfl, habove]
      rfl
    · obtain ⟨p, above, hback, habove, hmem⟩ := ht.parent hold hid
      obtain ⟨node', hnode', -, hsub⟩ := getElem?_grow_of_some habove
      exact ⟨p, node', hparent.trans hback, hnode', hsub id hmem⟩
  case ordered =>
    intro id node h
    rcases getElem?_grow_eq_some h with ⟨-, rfl⟩ | ⟨old, hold, -, -, hchildren | ⟨-, hchildren⟩⟩
    · exact List.Pairwise.nil
    · exact hchildren ▸ ht.ordered hold
    · rw [hchildren, List.pairwise_append]
      refine ⟨ht.ordered hold, by simp, fun c hc d hd => ?_⟩
      obtain ⟨-, child, hchild, -⟩ := ht.child hold hc
      -- The new child has the largest number.
      rw [List.mem_singleton.mp hd]
      exact lt_size_of_getElem? hchild

/-- Appending a node is growing by it, if the parent is there. -/
theorem append_eq_ok_iff {t t' : Tree} {parent id : Nat} {kind : NodeKind} :
    t.append parent kind = .ok (t', id) ↔
      parent < t.size ∧ t' = t.grow parent kind ∧ id = t.size := by
  rw [append]
  split_ifs with h <;> simp [h, eq_comm]

theorem Grown.growElement {t : Tree} (ht : t.Grown) {parent : Nat} (hp : parent < t.size)
    (tag : String) (attributes : List (String × String)) :
    (t.grow parent (.element (.normalized tag attributes))).Grown :=
  .appendElement ht (append_eq_ok_iff.mpr ⟨hp, rfl, rfl⟩)

theorem Grown.growText {t : Tree} (ht : t.Grown) {parent : Nat} (hp : parent < t.size)
    (s : String) : (t.grow parent (.text s)).Grown :=
  .appendText ht (append_eq_ok_iff.mpr ⟨hp, rfl, rfl⟩)

theorem Grown.linked {t : Tree} (ht : t.Grown) : t.Linked := by
  induction ht with
  | ofRoot tag => exact linked_ofRoot tag
  | appendElement _ h ih =>
    obtain ⟨hp, rfl, -⟩ := append_eq_ok_iff.mp h
    exact ih.grow hp _
  | appendText _ h ih =>
    obtain ⟨hp, rfl, -⟩ := append_eq_ok_iff.mp h
    exact ih.grow hp _

/-- The parent of a node is there and has the node among its children. -/
theorem Linked.exists_parent {t : Tree} (ht : t.Linked) {id p : Nat} {node : Node}
    (hnode : t.nodes[id]? = some node) (hparent : node.parent = some p) :
    ∃ above, t.nodes[p]? = some above ∧ id ∈ above.children := by
  have hid : id ≠ 0 := by
    rintro rfl
    obtain ⟨root, hroot, hnone⟩ := ht.root
    obtain rfl : root = node := Option.some.inj (hroot.symm.trans hnode)
    exact absurd (hnone.symm.trans hparent) (by simp)
  obtain ⟨q, above, hq, habove, hmem⟩ := ht.parent hnode hid
  obtain rfl : p = q := Option.some.inj (hparent.symm.trans hq)
  exact ⟨above, habove, hmem⟩

/-- A child is there. -/
theorem Linked.lt_size_of_mem {t : Tree} (ht : t.Linked) {p c : Nat} {node : Node}
    (hnode : t.nodes[p]? = some node) (hc : c ∈ node.children) : c < t.size := by
  obtain ⟨-, child, hchild, -⟩ := ht.child hnode hc
  exact lt_size_of_getElem? hchild

/-- A node stands among the children of its parent only. -/
theorem Linked.mem_children_iff {t : Tree} (ht : t.Linked) {id p q : Nat} {node above : Node}
    (hnode : t.nodes[id]? = some node) (hparent : node.parent = some p)
    (habove : t.nodes[q]? = some above) : id ∈ above.children ↔ q = p := by
  constructor
  · intro hmem
    obtain ⟨-, child, hchild, hback⟩ := ht.child habove hmem
    obtain rfl : child = node := Option.some.inj (hchild.symm.trans hnode)
    exact Option.some.inj (hback.symm.trans hparent)
  · rintro rfl
    obtain ⟨parent, hq, hmem⟩ := ht.exists_parent hnode hparent
    obtain rfl : above = parent := Option.some.inj (habove.symm.trans hq)
    exact hmem

/-- What holds of a node as soon as it holds of its children holds of all nodes, because children
have larger numbers. -/
theorem Linked.induction_children {t : Tree} (ht : t.Linked) {P : Nat → Prop}
    (step : ∀ {id : Nat} {node : Node}, t.nodes[id]? = some node → (∀ c ∈ node.children, P c) →
      P id) {id : Nat} (hid : id < t.size) : P id := by
  obtain ⟨n, hn⟩ : ∃ n, t.size - id = n := ⟨_, rfl⟩
  induction n using Nat.strongRecOn generalizing id with
  | ind n ih =>
    have hnode := Array.getElem?_eq_getElem hid
    refine step hnode fun c hc => ?_
    have hlt := (ht.child hnode hc).1
    have hsize := ht.lt_size_of_mem hnode hc
    exact ih (t.size - c) (by omega) hsize rfl

/-! ### Contents -/

end Tree

theorem Node.element?_congr {node node' : Node} (h : node'.kind = node.kind) :
    node'.element? = node.element? := by
  rw [element?, element?, h]

theorem Node.isElement_congr {node node' : Node} (h : node'.kind = node.kind) :
    node'.isElement = node.isElement := by
  rw [isElement, isElement, element?_congr h]

theorem Node.isElement_iff {node : Node} :
    node.isElement = true ↔ ∃ e, node.kind = .element e := by
  rw [isElement, element?]
  cases node.kind <;> simp

theorem Node.tag?_congr {node node' : Node} (h : node'.kind = node.kind) :
    node'.tag? = node.tag? := by
  rw [tag?, tag?, element?_congr h]

theorem Node.content_congr {node : Node} {contentOf contentOf' : Nat → Option Content}
    (h : ∀ id ∈ node.children, contentOf id = contentOf' id) :
    node.content contentOf = node.content contentOf' := by
  simp only [Node.content]
  split
  · rfl
  · rw [List.filterMap_congr h]

theorem length_contentsFrom (first : Nat) (nodes : List Node) :
    (contentsFrom first nodes).length = nodes.length := by
  induction nodes generalizing first with
  | nil => rfl
  | cons node nodes ih => simp [contentsFrom, ih]

/-- The content of the node at a place of the list, looked up in the contents of the whole list. -/
theorem getElem?_contentsFrom (nodes : List Node) (first i : Nat) :
    (contentsFrom first nodes)[i]? = nodes[i]?.map fun node =>
      node.content fun id =>
        if first + i < id then (contentsFrom first nodes)[id - first]? else none := by
  induction nodes generalizing first i with
  | nil => rfl
  | cons node nodes ih =>
    cases i with
    | zero =>
      simp only [contentsFrom, List.getElem?_cons_zero, Option.map_some, Nat.add_zero]
      congr 1
      refine Node.content_congr fun id _ => ?_
      split_ifs with hid
      · obtain ⟨k, rfl⟩ := Nat.exists_eq_add_of_lt hid
        have h₁ : first + k + 1 - first - 1 = k := by omega
        have h₂ : first + k + 1 - first = k + 1 := by omega
        rw [h₁, h₂, List.getElem?_cons_succ]
      · rfl
    | succ i =>
      rw [contentsFrom, List.getElem?_cons_succ, List.getElem?_cons_succ, ih]
      congr 1
      funext node
      refine Node.content_congr fun id _ => ?_
      by_cases hid : first + (i + 1) < id
      · have h : id - first = id - (first + 1) + 1 := by omega
        rw [if_pos hid, if_pos (by omega), h, List.getElem?_cons_succ]
      · rw [if_neg hid, if_neg (by omega)]

namespace Tree

theorem length_contents (t : Tree) : t.contents.length = t.size := by
  rw [contents, length_contentsFrom, size, Array.length_toList]

variable {t : Tree}

/-- The content of a node holds the contents of its children. -/
theorem getElem?_contents (ht : t.Linked) (id : Nat) :
    t.contents[id]? = t.nodes[id]?.map (·.content (t.contents[·]?)) := by
  rw [contents, getElem?_contentsFrom, Array.getElem?_toList]
  cases hnode : t.nodes[id]? with
  | none => rfl
  | some node =>
    simp only [Option.map_some, Nat.zero_add, Nat.sub_zero]
    congr 1
    exact Node.content_congr fun c hc => if_pos (ht.child hnode hc).1

theorem content_eq_ok_iff {id : Nat} {content : Content} :
    t.content id = .ok content ↔ t.contents[id]? = some content := by
  rw [Tree.content]
  cases t.contents[id]? <;> simp

theorem content_text (ht : t.Linked) {id : Nat} {node : Node} {s : String}
    (hnode : t.nodes[id]? = some node) (hkind : node.kind = .text s) :
    t.content id = .ok (.text s) := by
  rw [content_eq_ok_iff, getElem?_contents ht, hnode, Option.map_some, Node.content, hkind]

/-- The content of an element holds the contents of its children, in order. -/
theorem content_element (ht : t.Linked) {id : Nat} {node : Node} {e : Element}
    (hnode : t.nodes[id]? = some node) (hkind : node.kind = .element e) :
    ∃ children, t.content id = .ok (.element e children) ∧
      List.Forall₂ (fun c content => t.content c = .ok content) node.children children := by
  refine ⟨node.children.filterMap (t.contents[·]?), ?_, ?_⟩
  · rw [content_eq_ok_iff, getElem?_contents ht, hnode, Option.map_some, Node.content, hkind]
  · have hall : ∀ c ∈ node.children, ∃ content, t.contents[c]? = some content := by
      intro c hc
      have hlt : c < t.contents.length := by
        rw [length_contents]
        exact ht.lt_size_of_mem hnode hc
      exact ⟨_, List.getElem?_eq_getElem hlt⟩
    generalize node.children = cs at hall
    induction cs with
    | nil => exact .nil
    | cons c cs ih =>
      obtain ⟨content, hc⟩ := hall c List.mem_cons_self
      rw [List.filterMap_cons_some hc]
      exact .cons (content_eq_ok_iff.mpr hc) (ih fun c' hc' => hall c' (List.mem_cons_of_mem c hc'))

/-! ### Siblings -/

theorem get_eq_ok_iff {id : Nat} {node : Node} :
    t.get id = .ok node ↔ t.nodes[id]? = some node := by
  rw [get]
  cases t.nodes[id]? <;> simp

theorem parent_eq {id : Nat} {node : Node} (hnode : t.nodes[id]? = some node) :
    t.parent id = .ok node.parent := by
  rw [Tree.parent, get_eq_ok_iff.mpr hnode]
  rfl

theorem children_eq {id : Nat} {node : Node} (hnode : t.nodes[id]? = some node) :
    t.children id = .ok node.children := by
  rw [Tree.children, get_eq_ok_iff.mpr hnode]
  rfl

theorem tag?_eq {id : Nat} {node : Node} (hnode : t.nodes[id]? = some node) :
    t.tag? id = .ok node.tag? := by
  rw [Tree.tag?, get_eq_ok_iff.mpr hnode]
  rfl

theorem isElement_eq {id : Nat} {node : Node} (hnode : t.nodes[id]? = some node) :
    t.isElement id = node.isElement := by
  rw [isElement, hnode, Option.any_some]

/-- The siblings behind a child are the children behind it. -/
theorem followingSiblings_child (ht : t.Linked) {p id : Nat} {node : Node}
    {before after : List Nat} (hnode : t.nodes[p]? = some node)
    (hchildren : node.children = before ++ id :: after) :
    t.followingSiblings id = .ok after := by
  have hmem : id ∈ node.children := by simp [hchildren]
  obtain ⟨-, child, hchild, hback⟩ := ht.child hnode hmem
  have hnotMem : ∀ c ∈ before, c ≠ id := by
    intro c hc
    have hlt := ht.ordered hnode
    rw [hchildren, List.pairwise_append] at hlt
    exact Nat.ne_of_lt (hlt.2.2 c hc id List.mem_cons_self)
  rw [followingSiblings, parent_eq hchild, hback]
  simp only [bind, Except.bind, children_eq hnode, hchildren, pure, Except.pure]
  rw [List.dropWhile_append_of_pos (by simpa using hnotMem)]
  simp

theorem followingSiblings_root (ht : t.Linked) : t.followingSiblings 0 = .ok [] := by
  obtain ⟨root, hroot, hparent⟩ := ht.root
  rw [followingSiblings, parent_eq hroot, hparent]
  rfl

theorem isLastInBlock_root (ht : t.Linked) : t.isLastInBlock 0 = .ok false := by
  obtain ⟨root, hroot, hparent⟩ := ht.root
  rw [isLastInBlock, nextElementSibling, followingSiblings_root ht, parent_eq hroot, hparent]
  rfl

/-- A child is the last of a block if its parent is block-level and no element is behind it. -/
theorem isLastInBlock_child (ht : t.Linked) {p id : Nat} {node : Node} {before after : List Nat}
    (hnode : t.nodes[p]? = some node) (hchildren : node.children = before ++ id :: after) :
    t.isLastInBlock id = .ok (node.tag?.any isBlockTag && !after.any t.isElement) := by
  have hmem : id ∈ node.children := by simp [hchildren]
  obtain ⟨-, child, hchild, hback⟩ := ht.child hnode hmem
  rw [isLastInBlock, nextElementSibling, followingSiblings_child ht hnode hchildren,
    parent_eq hchild, hback]
  simp only [bind, Except.bind, pure, Except.pure, List.find?_isSome, tag?_eq hnode]
  cases hany : after.any t.isElement with
  | true => simp_all
  | false => simp_all

end Tree

end HtmlText
