import HtmlText.Proofs.AppendHistory
import HtmlText.Proofs.RenderRecursion
import Mathlib.Order.Bounds.Basic

/-!
# Siblings

The siblings behind a node are looked up by its place among the children of its parent. In a tree
that was built by appending nodes, this finds what the numbers and parents of the nodes say: the
nodes with the same parent and a larger number, which are the ones that were appended to the parent
later. So the question whether a node is the last of a block is answered by the history of the tree:
it is, if its parent is block-level and no element was appended to the parent after the node.

## Main definitions

* `Tree.LaterSibling`: a node with the same parent and a larger number.
* `Appending.IsElementUnder`: a step of a history that names an element and its parent.

## Main results

* `Tree.Linked.exists_followingSiblings`: what is found behind a node.
* `Tree.AppendedBy.exists_laterElement_iff`: later elements in terms of the history.
* `Tree.siblings_afterAll`: all questions about siblings, after every history.
-/

namespace HtmlText

/-- The first member of an increasing list is its least member. -/
theorem head?_eq_some_iff_isLeast {xs : List Nat} (h : xs.Pairwise (· < ·)) {x : Nat} :
    xs.head? = some x ↔ IsLeast {y | y ∈ xs} x := by
  cases xs with
  | nil => simp [IsLeast]
  | cons first xs =>
    have hfirst : IsLeast {y | y ∈ first :: xs} first := by
      refine ⟨List.mem_cons_self, fun y hy => ?_⟩
      rcases List.mem_cons.mp hy with rfl | hy
      · exact le_rfl
      · exact Nat.le_of_lt ((List.pairwise_cons.mp h).1 y hy)
    rw [List.head?_cons, Option.some_inj]
    exact ⟨fun heq => heq ▸ hfirst, fun hx => hfirst.unique hx⟩

namespace Tree

/-- A node with the same parent and a larger number. -/
structure LaterSibling (t : Tree) (x y : Nat) : Prop where
  later : x < y
  bound : y < t.size
  parent : t.parent y = t.parent x

/-! ### What is found behind a node -/

variable {t : Tree}

/-- The root has no parent. -/
theorem Linked.ne_zero_of_parent (ht : t.Linked) {x p : Nat} (h : t.parent x = .ok (some p)) :
    x ≠ 0 := by
  rintro rfl
  obtain ⟨root, hroot, hnone⟩ := ht.root
  rw [parent_eq hroot, hnone] at h
  cases h

/-- The children behind a node are its later siblings. -/
theorem Linked.mem_after_iff (ht : t.Linked) {p x y : Nat} {above : Node} {before after : List Nat}
    (habove : t.nodes[p]? = some above) (hchildren : above.children = before ++ x :: after) :
    y ∈ after ↔ t.LaterSibling x y := by
  have hordered := ht.ordered habove
  rw [hchildren, List.pairwise_append, List.pairwise_cons] at hordered
  obtain ⟨-, ⟨hafter, -⟩, hbefore⟩ := hordered
  have hparent {c : Nat} (hc : c ∈ above.children) :
      ∃ node, t.nodes[c]? = some node ∧ node.parent = some p := (ht.child habove hc).2
  obtain ⟨node, hnode, hback⟩ := hparent (c := x) (by simp [hchildren])
  constructor
  · intro hy
    obtain ⟨child, hchild, hback'⟩ := hparent (c := y) (by simp [hchildren, hy])
    exact ⟨hafter y hy, lt_size_of_getElem? hchild, by
      rw [parent_eq hchild, parent_eq hnode, hback, hback']⟩
  · rintro ⟨hlt, hbound, hsame⟩
    obtain ⟨child, hchild⟩ := exists_node hbound
    rw [parent_eq hchild, parent_eq hnode, hback, Except.ok.injEq] at hsame
    have hmem := (ht.mem_children_iff hchild hsame habove).mpr rfl
    rw [hchildren, List.mem_append, List.mem_cons] at hmem
    -- Children stand in the order of their numbers, so a larger one cannot stand in front.
    rcases hmem with hmem | rfl | hmem
    · exact absurd (hbefore y hmem x List.mem_cons_self) (Nat.lt_asymm hlt)
    · exact absurd hlt (Nat.lt_irrefl y)
    · exact hmem

/-- The root has no siblings. -/
theorem Linked.not_laterSibling_root (ht : t.Linked) (y : Nat) : ¬t.LaterSibling 0 y := by
  rintro ⟨hlt, hbound, hsame⟩
  obtain ⟨root, hroot, hnone⟩ := ht.root
  obtain ⟨child, hchild⟩ := exists_node hbound
  obtain ⟨p, -, hparent, -⟩ := ht.parent hchild (Nat.ne_of_gt hlt)
  rw [parent_eq hchild, parent_eq hroot, hparent, hnone] at hsame
  cases hsame

/-- The siblings that are found behind a node are its later siblings in the order of their
numbers. -/
theorem Linked.exists_followingSiblings (ht : t.Linked) {x : Nat} (hx : x < t.size) :
    ∃ ys, t.followingSiblings x = .ok ys ∧ ys.Pairwise (· < ·) ∧
      ∀ y, y ∈ ys ↔ t.LaterSibling x y := by
  obtain ⟨node, hnode⟩ := exists_node hx
  rcases eq_zero_or_exists_parent ht hnode with rfl | ⟨p, above, before, after, habove, hchildren⟩
  · refine ⟨[], followingSiblings_root ht, .nil, fun y => ?_⟩
    exact ⟨fun hy => absurd hy List.not_mem_nil, fun hy => absurd hy (ht.not_laterSibling_root y)⟩
  · have hordered := ht.ordered habove
    rw [hchildren, List.pairwise_append, List.pairwise_cons] at hordered
    exact ⟨after, followingSiblings_child ht habove hchildren, hordered.2.1.2,
      fun y => ht.mem_after_iff habove hchildren⟩

/-- The next sibling is the least of the later ones. -/
theorem Linked.exists_nextSibling (ht : t.Linked) {x : Nat} (hx : x < t.size) :
    ∃ next, t.nextSibling x = .ok next ∧
      ∀ y, next = some y ↔ IsLeast {y | t.LaterSibling x y} y := by
  obtain ⟨ys, hys, hordered, hmem⟩ := ht.exists_followingSiblings hx
  refine ⟨ys.head?, by rw [nextSibling, hys]; rfl, fun y => ?_⟩
  rw [head?_eq_some_iff_isLeast hordered]
  simp only [hmem]

/-- The next element is the least of the later siblings that are elements. -/
theorem Linked.exists_nextElementSibling (ht : t.Linked) {x : Nat} (hx : x < t.size) :
    ∃ next, t.nextElementSibling x = .ok next ∧
      ∀ y, next = some y ↔ IsLeast {y | t.LaterSibling x y ∧ t.isElement y = true} y := by
  obtain ⟨ys, hys, hordered, hmem⟩ := ht.exists_followingSiblings hx
  refine ⟨ys.find? t.isElement, by rw [nextElementSibling, hys]; rfl, fun y => ?_⟩
  rw [← List.head?_filter, head?_eq_some_iff_isLeast (hordered.filter _)]
  simp only [List.mem_filter, hmem]

/-- A node is the last of a block if its parent is an element with a block-level tag and none of its
later siblings is an element. -/
theorem Linked.exists_isLastInBlock_iff (ht : t.Linked) {x : Nat} (hx : x < t.size) :
    ∃ last, t.isLastInBlock x = .ok last ∧
      (last = true ↔ ∃ p block, t.parent x = .ok (some p) ∧ t.tag? p = .ok (some block) ∧
        block ∈ blockTags ∧ ¬∃ y, t.LaterSibling x y ∧ t.isElement y = true) := by
  obtain ⟨node, hnode⟩ := exists_node hx
  rcases eq_zero_or_exists_parent ht hnode with rfl | ⟨p, above, before, after, habove, hchildren⟩
  · refine ⟨false, isLastInBlock_root ht, fun h => Bool.noConfusion h, ?_⟩
    rintro ⟨p, block, hparent, -⟩
    exact absurd rfl (ht.ne_zero_of_parent hparent)
  · have hparent : t.parent x = .ok (some p) := by
      obtain ⟨-, child, hchild, hback⟩ := ht.child habove (c := x) (by simp [hchildren])
      rw [parent_eq hchild, hback]
    have hlater : (!after.any t.isElement) = true ↔
        ¬∃ y, t.LaterSibling x y ∧ t.isElement y = true := by
      simp only [Bool.not_eq_true', Bool.eq_false_iff, ne_eq, List.any_eq_true,
        ht.mem_after_iff habove hchildren]
    refine ⟨_, isLastInBlock_child ht habove hchildren, ?_⟩
    rw [Bool.and_eq_true, hlater, Option.any_eq_true]
    simp only [hparent, Except.ok.injEq, Option.some_inj, isBlockTag,
      List.contains_iff_mem]
    constructor
    · rintro ⟨⟨block, htag, hblock⟩, hnone⟩
      refine ⟨p, block, rfl, ?_, hblock, hnone⟩
      rw [tag?_eq habove, htag]
    · rintro ⟨q, block, rfl, htag, hblock, hnone⟩
      rw [tag?_eq habove, Except.ok.injEq] at htag
      exact ⟨⟨block, htag, hblock⟩, hnone⟩

end Tree

/-! ### Later elements -/

/-- An element is appended under a node. -/
def Appending.IsElementUnder (a : Appending) (p : Nat) : Prop :=
  ∃ tag attributes, a = .element p tag attributes

theorem Appending.isElementUnder_iff {a : Appending} {p : Nat} :
    a.IsElementUnder p ↔ a.parent = p ∧ ∃ e, a.kind = .element e := by
  cases a <;> simp [IsElementUnder, parent, kind, eq_comm]

namespace Tree

variable {t : Tree} {history later : List Appending} {x : Nat} {a : Appending}

/-- The elements among the later siblings of a node are the elements that were appended to its
parent after it. -/
theorem AppendedBy.exists_laterElement_iff (h : t.AppendedBy history x a later) :
    (∃ y, (t.afterAll history).LaterSibling x y ∧ (t.afterAll history).isElement y = true) ↔
      ∃ b ∈ later, b.IsElementUnder a.parent := by
  obtain ⟨node, hnode, -, hback⟩ := h.exists_node
  obtain ⟨before, rfl, hparent, rfl⟩ := appendedBy_iff.mp h
  have hsize : (a.after (t.afterAll before)).size = (t.afterAll before).size + 1 := by
    rw [a.after_eq, if_pos hparent, size_grow]
  have hsplit (later : List Appending) : t.afterAll (before ++ a :: later) =
      (a.after (t.afterAll before)).afterAll later := afterAll_append t before (a :: later)
  constructor
  · rintro ⟨y, ⟨hlt, hbound, hsame⟩, helement⟩
    rw [hsplit] at hbound
    -- A node with a larger number is one of those that were appended later.
    obtain ⟨b, rest, hb⟩ := exists_appendedBy _ (by omega) hbound
    obtain ⟨child, hchild, hkind, hback'⟩ := hb.exists_node
    rw [← hsplit] at hchild
    rw [parent_eq hchild, parent_eq hnode, hback, hback', Except.ok.injEq, Option.some_inj] at hsame
    rw [isElement_eq hchild, Node.isElement_iff, hkind] at helement
    obtain ⟨between, -, rfl, -⟩ := hb
    exact ⟨b, by simp, Appending.isElementUnder_iff.mpr ⟨hsame, helement⟩⟩
  · rintro ⟨b, hmem, hunder⟩
    obtain ⟨hsame, e, helement⟩ := Appending.isElementUnder_iff.mp hunder
    obtain ⟨between, rest, rfl⟩ := List.append_of_mem hmem
    -- What is appended gets the size of the tree as its number, so it gets a larger one.
    have hgrown : (t.afterAll before).size + 1 ≤ (t.afterAll (before ++ a :: between)).size := by
      rw [hsplit, ← hsize]
      exact (extends_afterAll _ between).size_le
    have hb : t.AppendedBy (before ++ a :: (between ++ b :: rest))
        (t.afterAll (before ++ a :: between)).size b rest :=
      appendedBy_iff.mpr ⟨before ++ a :: between, by simp, by omega, rfl⟩
    obtain ⟨child, hchild, hkind, hback'⟩ := hb.exists_node
    refine ⟨_, ⟨hgrown, lt_size_of_getElem? hchild, ?_⟩, ?_⟩
    · rw [parent_eq hchild, parent_eq hnode, hback, hback', hsame]
    · rw [isElement_eq hchild, Node.isElement_iff, hkind]
      exact ⟨e, helement⟩

/-- **Siblings after every history.** The siblings that are found behind a node are the nodes with
the same parent and a larger number, in the order of their numbers, and none for the root. The next
sibling is the least of them, and the next element the least element. A node is the last of a block
if its parent is an element with a block-level tag and none of its later siblings is an element,
that is, no element was appended to its parent after the node. -/
theorem siblings_afterAll (root : String) (history : List Appending) {x : Nat}
    (hx : x < ((ofRoot root).afterAll history).size) :
    let t := (ofRoot root).afterAll history
    (∃ ys, t.followingSiblings x = .ok ys ∧ ys.Pairwise (· < ·) ∧
        (∀ y, y ∈ ys ↔ t.LaterSibling x y) ∧ (x = 0 → ys = [])) ∧
      (∃ next, t.nextSibling x = .ok next ∧
        ∀ y, next = some y ↔ IsLeast {y | t.LaterSibling x y} y) ∧
      (∃ next, t.nextElementSibling x = .ok next ∧
        ∀ y, next = some y ↔ IsLeast {y | t.LaterSibling x y ∧ t.isElement y = true} y) ∧
      ∃ last, t.isLastInBlock x = .ok last ∧
        (last = true ↔ ∃ p block, t.parent x = .ok (some p) ∧ t.tag? p = .ok (some block) ∧
          block ∈ blockTags ∧ ¬∃ y, t.LaterSibling x y ∧ t.isElement y = true) ∧
        (last = true ↔ ∃ a later block, (ofRoot root).AppendedBy history x a later ∧
          t.tag? a.parent = .ok (some block) ∧ block ∈ blockTags ∧
          ¬∃ b ∈ later, b.IsElementUnder a.parent) := by
  intro t
  have ht : t.Linked := ((Grown.ofRoot root).afterAll history).linked
  obtain ⟨ys, hys, hordered, hmem⟩ := ht.exists_followingSiblings hx
  refine ⟨⟨ys, hys, hordered, hmem, ?_⟩, ht.exists_nextSibling hx, ht.exists_nextElementSibling hx,
    ?_⟩
  · rintro rfl
    exact List.eq_nil_iff_forall_not_mem.mpr fun y hy =>
      ht.not_laterSibling_root y ((hmem y).mp hy)
  · obtain ⟨last, hlast, hiff⟩ := ht.exists_isLastInBlock_iff hx
    refine ⟨last, hlast, hiff, hiff.trans ⟨?_, ?_⟩⟩
    · rintro ⟨p, block, hparent, htag, hblock, hnone⟩
      have hnew : (ofRoot root).size ≤ x :=
        Nat.one_le_iff_ne_zero.mpr (ht.ne_zero_of_parent hparent)
      obtain ⟨a, later, ha⟩ := exists_appendedBy _ hnew hx
      obtain ⟨node, hnode, -, hback⟩ := ha.exists_node
      rw [parent_eq hnode, hback, Except.ok.injEq, Option.some_inj] at hparent
      rw [ha.exists_laterElement_iff] at hnone
      exact ⟨a, later, block, ha, by rwa [hparent], hblock, hnone⟩
    · rintro ⟨a, later, block, ha, htag, hblock, hnone⟩
      obtain ⟨node, hnode, -, hback⟩ := ha.exists_node
      rw [← ha.exists_laterElement_iff] at hnone
      exact ⟨a.parent, block, by rw [parent_eq hnode, hback], htag, hblock, hnone⟩

/-- Two elements and two texts under a block-level root, a text under one of the texts, and an
element under a node that is not there. -/
def mixedHistory : List Appending :=
  [.element 0 "p" [], .text 0 "a", .element 9 "b" [], .text 2 "under a text", .element 0 "i" [],
    .text 0 "z"]

/-- The next element behind the first one is the second one, which is the last of its block although
a text is behind it. -/
theorem siblings_afterAll_mixedHistory :
    let t := (ofRoot "div").afterAll mixedHistory
    1 < t.size ∧ 4 < t.size ∧ t.followingSiblings 1 = .ok [2, 4, 5] ∧
      IsLeast {y | t.LaterSibling 1 y ∧ t.isElement y = true} 4 ∧ t.isLastInBlock 4 = .ok true ∧
      ∃ a later block, (ofRoot "div").AppendedBy mixedHistory 4 a later ∧
        t.tag? a.parent = .ok (some block) ∧ block ∈ blockTags ∧
        ¬∃ b ∈ later, b.IsElementUnder a.parent := by
  intro t
  have hfirst : 1 < t.size := by decide +kernel
  have hsecond : 4 < t.size := by decide +kernel
  have hnext : t.nextElementSibling 1 = .ok (some 4) := by decide +kernel
  have hlast : t.isLastInBlock 4 = .ok true := by decide +kernel
  obtain ⟨-, -, ⟨next, hnext', hleast⟩, -⟩ := siblings_afterAll "div" mixedHistory hfirst
  obtain ⟨-, -, -, last, hlast', -, hhistory⟩ := siblings_afterAll "div" mixedHistory hsecond
  refine ⟨hfirst, hsecond, by decide +kernel, (hleast 4).mp ?_, hlast, hhistory.mp ?_⟩
  · exact Except.ok.inj (hnext'.symm.trans hnext)
  · exact Except.ok.inj (hlast'.symm.trans hlast)

end Tree

end HtmlText
