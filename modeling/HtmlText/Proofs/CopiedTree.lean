import HtmlText.Page
import HtmlText.Proofs.GrownTree
import Mathlib.Algebra.GroupWithZero.Nat

/-!
# Trees of parsed documents

A parsed document is copied into a tree node by node. The nodes of the copy stand one behind the
other in the order of the document, and the copy contains what the document contains: its elements
with lowered names and its texts, but no comments and declarations.

## Main definitions

* `Dom.content?`: what a node of a document shows.
* `Dom.copy`: the nodes of a copy.

## Main results

* `Tree.grown_ofDom`: the tree of a document was built from its root by appending nodes.
* `Tree.contents_ofDom`: the tree of a document has the content of the document.
-/

namespace HtmlText

/-! ### The nodes of a copy -/

/-- The number of nodes that are copied. -/
def Dom.count : Dom → Nat
  | .text _ => 1
  | .element _ _ children => (children.map Dom.count).sum + 1
  | .comment _ | .doctype _ | .instruction _ _ => 0

/-- The number of the copy of a node, if it is copied. -/
def Dom.numbers (first : Nat) : Dom → List Nat
  | .text _ | .element .. => [first]
  | .comment _ | .doctype _ | .instruction _ _ => []

/-- The numbers of the copies of siblings. -/
def numbersAll (first : Nat) : List Dom → List Nat
  | [] => []
  | d :: ds => d.numbers first ++ numbersAll (first + d.count) ds

mutual

/-- The nodes of a copy under a parent, where `first` is the first of their numbers. -/
def Dom.copy (parent first : Nat) : Dom → List Node
  | .text s => [⟨.text s, some parent, []⟩]
  | .element tag attributes children =>
    ⟨.element (.normalized tag attributes), some parent, numbersAll (first + 1) children⟩ ::
      copyAll first (first + 1) children
  | .comment _ | .doctype _ | .instruction _ _ => []

/-- The nodes of the copies of siblings. -/
def copyAll (parent first : Nat) : List Dom → List Node
  | [] => []
  | d :: ds => d.copy parent first ++ copyAll parent (first + d.count) ds

end

mutual

theorem Dom.length_copy (parent first : Nat) :
    (d : Dom) → (d.copy parent first).length = d.count
  | .text _ => by rw [Dom.copy, Dom.count, List.length_singleton]
  | .element _ _ children => by
    rw [Dom.copy, List.length_cons, length_copyAll, Dom.count]
  | .comment _ | .doctype _ | .instruction _ _ => by rw [Dom.copy, Dom.count, List.length_nil]

theorem length_copyAll (parent first : Nat) :
    (ds : List Dom) → (copyAll parent first ds).length = (ds.map Dom.count).sum
  | [] => rfl
  | d :: ds => by
    rw [copyAll, List.length_append, d.length_copy, length_copyAll, List.map_cons, List.sum_cons]

end

/-- A node with more children. -/
def Node.addChildren (ids : List Nat) (node : Node) : Node :=
  { node with children := node.children ++ ids }

theorem Node.addChildren_nil : Node.addChildren [] = id := by
  funext node
  rw [addChildren, List.append_nil]
  rfl

theorem Node.addChildren_comp (ids ids' : List Nat) :
    Node.addChildren ids' ∘ Node.addChildren ids = Node.addChildren (ids ++ ids') := by
  funext node
  simp only [Function.comp, addChildren, List.append_assoc]

theorem modify_append_of_lt {α : Type} {i : Nat} {xs : List α} (h : i < xs.length) (f : α → α)
    (ys : List α) : (xs ++ ys).modify i f = xs.modify i f ++ ys := by
  induction xs generalizing i with
  | nil => exact absurd h (Nat.not_lt_zero i)
  | cons x xs ih =>
    cases i with
    | zero => rfl
    | succ i =>
      rw [List.cons_append, List.modify_succ_cons, List.modify_succ_cons,
        ih (Nat.lt_of_succ_lt_succ h), List.cons_append]

theorem modify_length_append {α : Type} (xs : List α) (y : α) (f : α → α) :
    (xs ++ [y]).modify xs.length f = xs ++ [f y] := by
  induction xs with
  | nil => rfl
  | cons x xs ih =>
    rw [List.cons_append, List.length_cons, List.modify_succ_cons, ih, List.cons_append]

theorem Tree.toList_grow (t : Tree) (parent : Nat) (kind : NodeKind) :
    (t.grow parent kind).nodes.toList =
      t.nodes.toList.modify parent (Node.addChildren [t.size]) ++ [⟨kind, some parent, []⟩] := by
  rw [grow, Array.toList_push, Array.toList_modify]
  rfl

theorem Tree.length_toList (t : Tree) : t.nodes.toList.length = t.size := Array.length_toList

mutual

/-- A copy adds its nodes behind all others, and their numbers to the children of their parent. -/
theorem Dom.toList_copyInto (t : Tree) (parent : Nat) :
    (d : Dom) → (d.copyInto t parent).nodes.toList =
      t.nodes.toList.modify parent (Node.addChildren (d.numbers t.size)) ++ d.copy parent t.size
  | .text s => Tree.toList_grow t parent (.text s)
  | .element tag attributes children => by
    have hgrow := Tree.toList_grow t parent (.element (.normalized tag attributes))
    have hlength :
        (t.nodes.toList.modify parent (Node.addChildren [t.size])).length = t.size := by
      rw [List.length_modify, Tree.length_toList]
    have hsize : (t.grow parent (.element (.normalized tag attributes))).size = t.size + 1 := by
      rw [← Tree.length_toList, hgrow, List.length_append, hlength]
      rfl
    rw [Dom.copyInto, toList_copyAllInto _ _ (by omega) children, hgrow, hsize]
    nth_rewrite 2 [← hlength]
    rw [modify_length_append, List.append_assoc]
    rfl
  | .comment _ | .doctype _ | .instruction _ _ => by
    rw [Dom.copyInto, Dom.copy, Dom.numbers, Node.addChildren_nil, List.modify_id,
      List.append_nil]

theorem toList_copyAllInto (t : Tree) (parent : Nat) (h : parent < t.size) :
    (ds : List Dom) → (copyAllInto t parent ds).nodes.toList =
      t.nodes.toList.modify parent (Node.addChildren (numbersAll t.size ds)) ++
        copyAll parent t.size ds
  | [] => by
    rw [copyAllInto, copyAll, numbersAll, Node.addChildren_nil, List.modify_id, List.append_nil]
  | d :: ds => by
    have hd := d.toList_copyInto t parent
    have hsize : (d.copyInto t parent).size = t.size + d.count := by
      rw [← Tree.length_toList, hd, List.length_append, List.length_modify, Tree.length_toList,
        d.length_copy]
    rw [copyAllInto, toList_copyAllInto _ _ (by omega) ds, hd, hsize,
      modify_append_of_lt (Nat.lt_of_lt_of_eq h (by rw [List.length_modify, Tree.length_toList])),
      List.modify_modify_eq, Node.addChildren_comp, List.append_assoc]
    rfl

end

mutual

theorem Dom.grown_copyInto {t : Tree} (ht : t.Grown) {parent : Nat} (h : parent < t.size) :
    (d : Dom) → (d.copyInto t parent).Grown ∧ t.size ≤ (d.copyInto t parent).size
  | .text s => ⟨ht.growText h s, by simp [Dom.copyInto, Tree.grow, Tree.size]⟩
  | .element tag attributes children => by
    have hgrown := ht.growElement h tag attributes
    have hsize : (t.grow parent (.element (.normalized tag attributes))).size = t.size + 1 := by
      simp [Tree.grow, Tree.size]
    obtain ⟨hall, hle⟩ := grown_copyAllInto hgrown (by omega : t.size < _) children
    exact ⟨hall, by rw [Dom.copyInto]; omega⟩
  | .comment _ | .doctype _ | .instruction _ _ => ⟨ht, Nat.le_refl _⟩

theorem grown_copyAllInto {t : Tree} (ht : t.Grown) {parent : Nat} (h : parent < t.size) :
    (ds : List Dom) → (copyAllInto t parent ds).Grown ∧ t.size ≤ (copyAllInto t parent ds).size
  | [] => ⟨ht, Nat.le_refl _⟩
  | d :: ds => by
    obtain ⟨hgrown, hle⟩ := d.grown_copyInto ht h
    obtain ⟨hall, hle'⟩ := grown_copyAllInto hgrown (Nat.lt_of_lt_of_le h hle) ds
    exact ⟨hall, Nat.le_trans hle hle'⟩

end

/-! ### The content of a copy -/

mutual

/-- What a node of a document shows. -/
def Dom.content? : Dom → Option Content
  | .text s => some (.text s)
  | .element tag attributes children =>
    some (.element (.normalized tag attributes) (contentsOf children))
  | .comment _ | .doctype _ | .instruction _ _ => none

/-- What siblings show. -/
def contentsOf : List Dom → List Content
  | [] => []
  | d :: ds => (Dom.content? d).toList ++ contentsOf ds

end

/-- The given nodes stand in a tree from a number on. -/
def Tree.Has (t : Tree) (first : Nat) (nodes : List Node) : Prop :=
  ∃ before after, t.nodes.toList = before ++ nodes ++ after ∧ before.length = first

namespace Tree.Has

variable {t : Tree} {first : Nat}

theorem getElem? {node : Node} {nodes : List Node} (h : t.Has first (node :: nodes)) :
    t.nodes[first]? = some node := by
  obtain ⟨before, after, heq, rfl⟩ := h
  rw [← Array.getElem?_toList, heq, List.append_assoc, List.getElem?_append_right (Nat.le_refl _),
    Nat.sub_self]
  rfl

theorem left {nodes nodes' : List Node} (h : t.Has first (nodes ++ nodes')) :
    t.Has first nodes := by
  obtain ⟨before, after, heq, hfirst⟩ := h
  exact ⟨before, nodes' ++ after, by simp [heq], hfirst⟩

theorem right (nodes : List Node) {nodes' : List Node} (h : t.Has first (nodes ++ nodes')) :
    t.Has (first + nodes.length) nodes' := by
  obtain ⟨before, after, heq, rfl⟩ := h
  exact ⟨before ++ nodes, after, by simp [heq], List.length_append⟩

end Tree.Has

mutual

/-- The copy of a node contains what the node shows. -/
theorem Dom.contents_copy {t : Tree} (ht : t.Linked) (parent first : Nat) :
    (d : Dom) → t.Has first (d.copy parent first) →
      (d.numbers first).filterMap (t.contents[·]?) = d.content?.toList
  | .text s, h => by
    have hnode : t.contents[first]? = some (.text s) := by
      rw [Tree.getElem?_contents ht, h.getElem?]
      rfl
    rw [Dom.numbers, List.filterMap_cons_some hnode]
    rfl
  | .element tag attributes children, h => by
    rw [Dom.copy] at h
    have hnode : t.contents[first]? =
        some (.element (.normalized tag attributes) (contentsOf children)) := by
      rw [Tree.getElem?_contents ht, h.getElem?, ← contents_copyAll ht first (first + 1) children
        (h.right [_])]
      rfl
    rw [Dom.numbers, List.filterMap_cons_some hnode]
    rfl
  | .comment _, _ | .doctype _, _ | .instruction _ _, _ => rfl

theorem contents_copyAll {t : Tree} (ht : t.Linked) (parent first : Nat) :
    (ds : List Dom) → t.Has first (copyAll parent first ds) →
      (numbersAll first ds).filterMap (t.contents[·]?) = contentsOf ds
  | [], _ => rfl
  | d :: ds, h => by
    have hright := h.right _
    rw [d.length_copy] at hright
    rw [numbersAll, List.filterMap_append, d.contents_copy ht parent first h.left,
      contents_copyAll ht parent _ ds hright]
    rfl

end

namespace Tree

/-- The tree of a document was built from its root by appending nodes. -/
theorem grown_ofDom (d : Dom) : (Tree.ofDom d).Grown := by
  cases d with
  | element tag attributes children =>
    exact (grown_copyAllInto (.ofRoot tag) Nat.one_pos children).1
  | text | comment | doctype | instruction => exact .ofRoot ""

/-- The tree of a document has the content of the document, but not the attributes of its root. -/
theorem contents_ofDom (tag : String) (attributes : List (String × String))
    (children : List Dom) :
    (Tree.ofDom (.element tag attributes children)).contents[0]? =
      some (.element ⟨lower tag, []⟩ (contentsOf children)) := by
  have hnodes := toList_copyAllInto (ofRoot tag) 0 Nat.one_pos children
  have hlinked := (grown_ofDom (.element tag attributes children)).linked
  rw [ofDom] at hlinked ⊢
  have hhas : (copyAllInto (ofRoot tag) 0 children).Has 0
      (⟨.element ⟨lower tag, []⟩, none, numbersAll 1 children⟩ :: copyAll 0 1 children) :=
    ⟨[], [], by rw [hnodes, List.append_nil]; rfl, rfl⟩
  rw [getElem?_contents hlinked, hhas.getElem?,
    ← contents_copyAll hlinked 0 1 children (hhas.right [_])]
  rfl

end Tree

end HtmlText
