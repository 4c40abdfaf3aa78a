import HtmlText.Proofs.GrownTree
import Mathlib.Data.List.Nodup

/-!
# Histories of appended nodes

A tree is built by a sequence of appended elements and texts, some of which may name a parent that
is not there. Appending touches two places: the number of the new node is written behind the
children of its parent, and then the node itself behind all others. If the parent is not there, the
first write fails and the tree is left as it was, so the links of the nodes fit together after every
sequence of successes and failures.

## Main definitions

* `Appending`: an element or a text to append, and the number of its parent.
* `Appending.append`, `Appending.run`: append it at once, and write by write.
* `Appending.after`, `Tree.afterAll`: the tree that is left, whether appending succeeds or fails.
* `Tree.WellNumbered`: parents, children and numbers of a tree agree.
* `Tree.PathTo`: the ways from a node to the root.
* `Tree.Extends`: a tree that has the nodes of another, and perhaps more.
* `Tree.AppendedBy`: the step of a history that appended a node, and the steps after it.
* `Tree.Gains`: a tree with one more node.

## Main results

* `Appending.run_eq`: appending write by write is appending at once, and leaves the tree as it was
  if it fails.
* `Tree.Linked.wellNumbered`, `Tree.Linked.existsUnique_pathTo`: consequences of linked nodes.
* `Tree.exists_appendedBy`, `Tree.AppendedBy.exists_node`: every new node was appended by a step,
  and holds what that step named.
* `Tree.wellNumbered_afterAll`: what holds after every history.
-/

namespace HtmlText

/-- A node to append, with the number of the node that it goes under. -/
inductive Appending
  | element (parent : Nat) (tag : String) (attributes : List (String × String))
  | text (parent : Nat) (s : String)
deriving Repr, DecidableEq

/-! ### Single writes -/

namespace Tree

/-- Write a number behind the children of a node. -/
def writeChild (parent id : Nat) : EStateM OutOfRange Tree Unit := fun t =>
  if parent < t.size then
    .ok () ⟨t.nodes.modify parent fun node => { node with children := node.children ++ [id] }⟩
  else .error ⟨t.size, parent⟩ t

/-- Write a node behind all others. -/
def writeNode (node : Node) : EStateM OutOfRange Tree Unit := fun t =>
  .ok () ⟨t.nodes.push node⟩

end Tree

namespace Appending

/-- The number of the parent. -/
def parent : Appending → Nat
  | element parent _ _ | text parent _ => parent

/-- What the new node holds. -/
def kind : Appending → NodeKind
  | element _ tag attributes => .element (.normalized tag attributes)
  | text _ s => .text s

/-- The tree with the new node, and the number of the node. -/
def append (a : Appending) (t : Tree) : Except OutOfRange (Tree × Nat) :=
  match a with
  | element parent tag attributes => t.appendElement parent tag attributes
  | text parent s => t.appendText parent s

/-- Append write by write. A write that fails leaves what was written before it. -/
def run (a : Appending) : EStateM OutOfRange Tree Nat := do
  let id := (← get).size
  Tree.writeChild a.parent id
  Tree.writeNode ⟨a.kind, some a.parent, []⟩
  return id

/-- The tree that is left, whether appending succeeds or fails. -/
def after (a : Appending) (t : Tree) : Tree :=
  match a.run t with
  | .ok _ t' | .error _ t' => t'

theorem append_eq (a : Appending) (t : Tree) : a.append t = t.append a.parent a.kind := by
  cases a <;> rfl

theorem append_of_lt {a : Appending} {t : Tree} (h : a.parent < t.size) :
    a.append t = .ok (t.grow a.parent a.kind, t.size) := by
  rw [append_eq, Tree.append_eq_ok_iff]
  exact ⟨h, rfl, rfl⟩

theorem append_of_le {a : Appending} {t : Tree} (h : t.size ≤ a.parent) :
    a.append t = .error ⟨t.size, a.parent⟩ := by
  rw [append_eq, Tree.append, if_neg (Nat.not_lt_of_le h)]

/-- Appending write by write is appending at once. If it fails nothing has been written. -/
theorem run_eq (a : Appending) (t : Tree) :
    a.run t =
      match a.append t with
      | .ok (t', id) => .ok id t'
      | .error e => .error e t := by
  have hrun : a.run t =
      if a.parent < t.size then .ok t.size (t.grow a.parent a.kind)
      else .error ⟨t.size, a.parent⟩ t := by
    change EStateM.bind (Tree.writeChild a.parent t.size)
      (fun _ => EStateM.bind (Tree.writeNode _) fun _ => EStateM.pure t.size) t = _
    rw [EStateM.bind, Tree.writeChild]
    split_ifs <;> rfl
  rw [hrun]
  split_ifs with h
  · rw [append_of_lt h]
  · rw [append_of_le (Nat.le_of_not_lt h)]

theorem run_of_lt {a : Appending} {t : Tree} (h : a.parent < t.size) :
    a.run t = .ok t.size (t.grow a.parent a.kind) := by
  rw [run_eq, append_of_lt h]

theorem run_of_le {a : Appending} {t : Tree} (h : t.size ≤ a.parent) :
    a.run t = .error ⟨t.size, a.parent⟩ t := by
  rw [run_eq, append_of_le h]

/-- A node is appended if its parent is there. -/
theorem after_eq (a : Appending) (t : Tree) :
    a.after t = if a.parent < t.size then t.grow a.parent a.kind else t := by
  rw [after]
  split_ifs with h
  · rw [run_of_lt h]
  · rw [run_of_le (Nat.le_of_not_lt h)]

theorem grown_after {t : Tree} (ht : t.Grown) (a : Appending) : (a.after t).Grown := by
  rw [after_eq]
  split_ifs with h
  · cases a with
    | element parent tag attributes => exact ht.growElement h tag attributes
    | text parent s => exact ht.growText h s
  · exact ht

end Appending

namespace Tree

/-- The tree that is left when nodes are appended one after the other. -/
def afterAll (t : Tree) (history : List Appending) : Tree :=
  history.foldl (fun t a => a.after t) t

theorem Grown.afterAll {t : Tree} (ht : t.Grown) (history : List Appending) :
    (t.afterAll history).Grown := by
  induction history generalizing t with
  | nil => exact ht
  | cons a history ih => exact ih (a.grown_after ht)

/-! ### Numbers of linked nodes -/

/-- Parents, children and numbers agree. -/
structure WellNumbered (t : Tree) : Prop where
  /-- The root has no parent. -/
  root : ∃ node, t.nodes[0]? = some node ∧ node.parent = none
  /-- Every other node has a parent with a smaller number, and stands once among the children of
  its parent and never among those of another node. -/
  parent : ∀ {id : Nat} {node : Node}, t.nodes[id]? = some node → 1 ≤ id →
    ∃ p < id, node.parent = some p ∧ ∀ {q : Nat} {above : Node}, t.nodes[q]? = some above →
      above.children.count id = if q = p then 1 else 0
  /-- Children stand in the order of their numbers. -/
  ordered : ∀ {id : Nat} {node : Node}, t.nodes[id]? = some node →
    node.children.Pairwise (· < ·)
  /-- All children are there. -/
  bounded : ∀ {id c : Nat} {node : Node}, t.nodes[id]? = some node → c ∈ node.children →
    c < t.size

variable {t : Tree}

theorem Linked.wellNumbered (ht : t.Linked) : t.WellNumbered where
  root := ht.root
  parent := by
    intro id node hnode hid
    obtain ⟨p, parent, hparent, hpnode, hmem⟩ := ht.parent hnode (Nat.ne_of_gt hid)
    refine ⟨p, (ht.child hpnode hmem).1, hparent, fun {q above} habove => ?_⟩
    split_ifs with hq
    · have hnodup : above.children.Nodup := (ht.ordered habove).imp Nat.ne_of_lt
      exact List.count_eq_one_of_mem hnodup ((ht.mem_children_iff hnode hparent habove).mpr hq)
    · exact List.count_eq_zero.mpr fun h => hq ((ht.mem_children_iff hnode hparent habove).mp h)
  ordered := ht.ordered
  bounded := ht.lt_size_of_mem

/-- The nodes on a way from a node to the root, both included, where each is among the children of
the next. -/
inductive PathTo (t : Tree) : Nat → List Nat → Prop
  | root : PathTo t 0 [0]
  | child {p c : Nat} {path : List Nat} {node : Node} (h : PathTo t p path)
      (hnode : t.nodes[p]? = some node) (hc : c ∈ node.children) : PathTo t c (c :: path)

/-- There is a way from every node, because parents have smaller numbers. -/
theorem Linked.exists_pathTo (ht : t.Linked) {id : Nat} (hid : id < t.size) :
    ∃ path, t.PathTo id path := by
  induction id using Nat.strongRecOn with
  | ind id ih =>
    by_cases hzero : id = 0
    · subst hzero
      exact ⟨[0], .root⟩
    · obtain ⟨p, parent, -, hpnode, hmem⟩ := ht.parent (Array.getElem?_eq_getElem hid) hzero
      obtain ⟨path, hpath⟩ := ih p (ht.child hpnode hmem).1 (lt_size_of_getElem? hpnode)
      exact ⟨id :: path, .child hpath hpnode hmem⟩

/-- There is no other way, because a node has one parent and the root has none. -/
theorem Linked.pathTo_unique (ht : t.Linked) {id : Nat} {path path' : List Nat}
    (h : t.PathTo id path) (h' : t.PathTo id path') : path = path' := by
  induction h generalizing path' with
  | root =>
    cases h' with
    | root => rfl
    | child _ hnode hc => exact absurd (ht.child hnode hc).1 (Nat.not_lt_zero _)
  | child _ hnode hc ih =>
    cases h' with
    | root => exact absurd (ht.child hnode hc).1 (Nat.not_lt_zero _)
    | child hp' hnode' hc' =>
      obtain ⟨-, child, hchild, hback⟩ := ht.child hnode hc
      obtain rfl := (ht.mem_children_iff hchild hback hnode').mp hc'
      rw [ih hp']

theorem Linked.existsUnique_pathTo (ht : t.Linked) {id : Nat} (hid : id < t.size) :
    ∃! path, t.PathTo id path := by
  obtain ⟨path, hpath⟩ := ht.exists_pathTo hid
  exact ⟨path, hpath, fun path' hpath' => ht.pathTo_unique hpath' hpath⟩

/-! ### The nodes of a history -/

theorem exists_node {id : Nat} (h : id < t.size) : ∃ node, t.nodes[id]? = some node :=
  ⟨_, Array.getElem?_eq_getElem h⟩

/-- A tree has the nodes of another one, with what they hold and their parents, and perhaps more. -/
def Extends (t t' : Tree) : Prop :=
  ∀ (id : Nat) (old : Node), t.nodes[id]? = some old →
    ∃ node, t'.nodes[id]? = some node ∧ node.kind = old.kind ∧ node.parent = old.parent

namespace Extends

variable {t' t'' : Tree}

theorem refl (t : Tree) : t.Extends t := fun _ old h => ⟨old, h, rfl, rfl⟩

theorem trans (h : t.Extends t') (h' : t'.Extends t'') : t.Extends t'' := by
  intro id old hold
  obtain ⟨node, hnode, hkind, hparent⟩ := h id old hold
  obtain ⟨node', hnode', hkind', hparent'⟩ := h' id node hnode
  exact ⟨node', hnode', hkind'.trans hkind, hparent'.trans hparent⟩

theorem size_le (h : t.Extends t') : t.size ≤ t'.size := by
  by_contra hlt
  obtain ⟨old, hold⟩ := exists_node (Nat.lt_of_not_le hlt)
  obtain ⟨node, hnode, -⟩ := h _ old hold
  exact absurd (lt_size_of_getElem? hnode) (Nat.lt_irrefl _)

end Extends

theorem extends_grow (t : Tree) (parent : Nat) (kind : NodeKind) :
    t.Extends (t.grow parent kind) := by
  intro id old hold
  rw [getElem?_grow, if_neg (Nat.ne_of_lt (lt_size_of_getElem? hold)), hold]
  split_ifs
  · exact ⟨_, rfl, rfl, rfl⟩
  · exact ⟨old, rfl, rfl, rfl⟩

theorem extends_after (t : Tree) (a : Appending) : t.Extends (a.after t) := by
  rw [a.after_eq]
  split_ifs
  · exact t.extends_grow a.parent a.kind
  · exact .refl t

theorem extends_afterAll (t : Tree) (history : List Appending) :
    t.Extends (t.afterAll history) := by
  induction history generalizing t with
  | nil => exact .refl t
  | cons a history ih => exact (t.extends_after a).trans (ih (a.after t))

theorem afterAll_append (t : Tree) (before later : List Appending) :
    t.afterAll (before ++ later) = (t.afterAll before).afterAll later :=
  List.foldl_append

/-- The step `a` of a history appended the node `x`, and the steps `later` came after it. -/
def AppendedBy (t : Tree) (history : List Appending) (x : Nat) (a : Appending)
    (later : List Appending) : Prop :=
  ∃ before t', history = before ++ a :: later ∧ a.append (t.afterAll before) = .ok (t', x)

variable {history later : List Appending} {x : Nat} {a : Appending}

theorem appendedBy_iff :
    t.AppendedBy history x a later ↔
      ∃ before, history = before ++ a :: later ∧ a.parent < (t.afterAll before).size ∧
        x = (t.afterAll before).size := by
  simp only [AppendedBy, Appending.append_eq, append_eq_ok_iff]
  constructor
  · rintro ⟨before, t', hhistory, hparent, -, hx⟩
    exact ⟨before, hhistory, hparent, hx⟩
  · rintro ⟨before, hhistory, hparent, hx⟩
    exact ⟨before, _, hhistory, hparent, rfl, hx⟩

/-- Every node that was not there at the beginning was appended by a step. -/
theorem exists_appendedBy (t : Tree) {history : List Appending} {x : Nat} (hx : t.size ≤ x)
    (hbound : x < (t.afterAll history).size) : ∃ a later, t.AppendedBy history x a later := by
  induction history generalizing t with
  | nil => exact absurd hbound (Nat.not_lt_of_le hx)
  | cons b history ih =>
    by_cases hold : (b.after t).size ≤ x
    · obtain ⟨a, later, h⟩ := ih (b.after t) hold hbound
      obtain ⟨before, rfl, hparent, hsize⟩ := appendedBy_iff.mp h
      exact ⟨a, later, appendedBy_iff.mpr ⟨b :: before, rfl, hparent, hsize⟩⟩
    · -- The first step has made the tree larger, so it has appended this node.
      rw [b.after_eq] at hold
      split_ifs at hold with hparent
      · rw [size_grow] at hold
        exact ⟨b, history, appendedBy_iff.mpr ⟨[], rfl, hparent, show x = t.size by omega⟩⟩
      · exact absurd hx hold

/-- A node holds what was appended, under the parent that was named. -/
theorem AppendedBy.exists_node (h : t.AppendedBy history x a later) :
    ∃ node, (t.afterAll history).nodes[x]? = some node ∧ node.kind = a.kind ∧
      node.parent = some a.parent := by
  obtain ⟨before, rfl, hparent, rfl⟩ := appendedBy_iff.mp h
  have hnew : (a.after (t.afterAll before)).nodes[(t.afterAll before).size]? =
      some ⟨a.kind, some a.parent, []⟩ := by
    rw [a.after_eq, if_pos hparent, getElem?_grow, if_pos rfl]
  rw [afterAll_append]
  exact extends_afterAll (a.after (t.afterAll before)) later _ _ hnew

/-! ### One more node -/

/-- A tree has one more node than another: it is the last child of its parent, and nothing else is
changed. -/
structure Gains (t t' : Tree) (parent : Nat) (kind : NodeKind) : Prop where
  size : t'.size = t.size + 1
  /-- The new node has the next number and no children. -/
  new : t'.nodes[t.size]? = some ⟨kind, some parent, []⟩
  /-- Its parent has one more child, the last one. -/
  last : ∀ {node : Node}, t.nodes[parent]? = some node →
    t'.nodes[parent]? = some { node with children := node.children ++ [t.size] }
  /-- All other nodes are as they were. -/
  other : ∀ {id : Nat}, id < t.size → id ≠ parent → t'.nodes[id]? = t.nodes[id]?

theorem gains_grow (t : Tree) (parent : Nat) (kind : NodeKind) :
    t.Gains (t.grow parent kind) parent kind where
  size := size_grow t parent kind
  new := by rw [getElem?_grow, if_pos rfl]
  last := by
    intro node hnode
    rw [getElem?_grow, if_neg (Nat.ne_of_lt (lt_size_of_getElem? hnode)), if_pos rfl, hnode]
    rfl
  other := by
    intro id hid hne
    rw [getElem?_grow, if_neg (Nat.ne_of_lt hid), if_neg hne.symm]

/-- **Links after every history.** However nodes are appended to a root, with failures among them,
parents, children and numbers agree, and exactly one way leads from every node to the root. One more
node is appended at the end of the children of its parent, with the next number, or, if its parent
is not there, not at all. -/
theorem wellNumbered_afterAll (tag : String) (history : List Appending) :
    let t := (ofRoot tag).afterAll history
    t.WellNumbered ∧ (∀ id < t.size, ∃! path, t.PathTo id path) ∧
      ∀ a : Appending,
        (a.parent < t.size → ∃ t', a.append t = .ok (t', t.size) ∧ a.run t = .ok t.size t' ∧
          t.Gains t' a.parent a.kind) ∧
        (t.size ≤ a.parent → a.append t = .error ⟨t.size, a.parent⟩ ∧
          a.run t = .error ⟨t.size, a.parent⟩ t) := by
  intro t
  have ht : t.Linked := ((Grown.ofRoot tag).afterAll history).linked
  refine ⟨ht.wellNumbered, fun id hid => ht.existsUnique_pathTo hid, fun a => ⟨?_, ?_⟩⟩
  · intro h
    exact ⟨t.grow a.parent a.kind, Appending.append_of_lt h, Appending.run_of_lt h,
      gains_grow t a.parent a.kind⟩
  · intro h
    exact ⟨Appending.append_of_le h, Appending.run_of_le h⟩

/-- A text under a text, a node under itself and an element under a later node: only the first one
finds its parent. -/
example : ((ofRoot "p").afterAll [.text 0 "a", .text 1 "b", .text 3 "c", .element 9 "i" []]).nodes =
    #[⟨.element ⟨"p", []⟩, none, [1]⟩, ⟨.text "a", some 0, [2]⟩, ⟨.text "b", some 1, []⟩] := by
  decide +kernel

end Tree

end HtmlText
