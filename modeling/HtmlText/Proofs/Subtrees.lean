import HtmlText.Proofs.GrownTree

/-!
# Subtrees

A node of a tree and everything below it. A child has a larger number than its parent and no other
parent, so a node has the least number of its subtree, the nodes above a given one form a chain, and
the subtrees of siblings have no node in common.

## Main definitions

* `Tree.Below`: the nodes of a subtree.

## Main results

* `Tree.Linked.below_child_iff`: the subtrees that contain a child.
* `Tree.Linked.eq_of_below`: the subtrees of siblings are disjoint.
-/

namespace HtmlText

namespace Tree

/-- The node `x` is the node `top`, or below it. -/
inductive Below (t : Tree) (top : Nat) : Nat → Prop
  | top (h : top < t.size) : Below t top top
  | child {x c : Nat} {node : Node} (h : Below t top x) (hnode : t.nodes[x]? = some node)
      (hc : c ∈ node.children) : Below t top c

variable {t : Tree} {top x y : Nat}

theorem Below.top_lt_size (h : t.Below top x) : top < t.size := by
  induction h with
  | top h => exact h
  | child _ _ _ ih => exact ih

theorem Below.trans (h : t.Below top x) (h' : t.Below x y) : t.Below top y := by
  induction h' with
  | top _ => exact h
  | child _ hnode hc ih => exact .child ih hnode hc

theorem Below.lt_size (ht : t.Linked) (h : t.Below top x) : x < t.size := by
  cases h with
  | top h => exact h
  | child _ hnode hc => exact ht.lt_size_of_mem hnode hc

/-- The top of a subtree has its least number. -/
theorem Below.le (ht : t.Linked) (h : t.Below top x) : top ≤ x := by
  induction h with
  | top _ => exact Nat.le_refl top
  | child _ hnode hc ih => exact Nat.le_of_lt (Nat.lt_of_le_of_lt ih (ht.child hnode hc).1)

/-- A subtree that contains a child has it as its top, or contains its parent. -/
theorem Linked.below_child_iff (ht : t.Linked) {p c : Nat} {node : Node}
    (hnode : t.nodes[p]? = some node) (hc : c ∈ node.children) :
    t.Below top c ↔ top = c ∨ t.Below top p := by
  constructor
  · intro h
    cases h with
    | top _ => exact Or.inl rfl
    | child h hnode' hc' =>
      obtain ⟨-, child, hchild, hback⟩ := ht.child hnode hc
      obtain rfl := (ht.mem_children_iff hchild hback hnode').mp hc'
      exact Or.inr h
  · rintro (rfl | h)
    · exact .top (ht.lt_size_of_mem hnode hc)
    · exact .child h hnode hc

/-- Of two nodes above the same node, one is above the other. -/
theorem Linked.below_or_below (ht : t.Linked) {top' : Nat} (h : t.Below top x)
    (h' : t.Below top' x) : t.Below top top' ∨ t.Below top' top := by
  induction h with
  | top _ => exact Or.inr h'
  | child h hnode hc ih =>
    rcases (ht.below_child_iff hnode hc).mp h' with rfl | h'
    · exact Or.inl (.child h hnode hc)
    · exact ih h'

/-- The subtrees of siblings have no node in common. -/
theorem Linked.eq_of_below (ht : t.Linked) {p c d : Nat} {node : Node}
    (hnode : t.nodes[p]? = some node) (hc : c ∈ node.children) (hd : d ∈ node.children)
    (h : t.Below c x) (h' : t.Below d x) : c = d := by
  -- A sibling above another one would be above their common parent, whose number is smaller.
  have habove {c d : Nat} (hc : c ∈ node.children) (hd : d ∈ node.children)
      (h : t.Below c d) : c = d := by
    rcases (ht.below_child_iff hnode hd).mp h with heq | h
    · exact heq
    · exact absurd (ht.child hnode hc).1 (Nat.not_lt_of_le (h.le ht))
  rcases ht.below_or_below h h' with h | h
  · exact habove hc hd h
  · exact (habove hd hc h).symm

end Tree

end HtmlText
