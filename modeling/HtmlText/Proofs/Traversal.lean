import HtmlText.Proofs.AppendHistory
import HtmlText.Proofs.CarriedText
import HtmlText.Proofs.Subtrees

/-!
# Following the numbers of a tree

A tree is rendered by following the numbers in its lists of children, and for the line feeds behind
an element the numbers of its parent and its siblings. Nothing in this recursion bounds its depth or
remembers where it has been: on an arbitrary array of nodes it could go round in circles or leave
the array. The links of a grown tree rule this out. Every number in a list of children is there and
larger than the number of the parent, and it stands in no other list.

The recursion is followed down to a given depth, and has no value where it goes deeper. So it comes
to an end if it has a value at some depth. There is one as soon as the depth is the number of nodes
from the rendered one on, and it does not change any more.

## Main definitions

* `Steps`: the nodes that are entered, and the numbers that are looked up.
* `Traversal`: a computation that takes such steps, and may fail or have no value.
* `Tree.traverseWith`: the rendering of a node as such a computation, with any one of its children.
* `Tree.traverse`: the rendering of a node down to a depth.

## Main results

* `Traversal.Yields.bind`: computations one after the other.
* `Tree.Linked.exists_looksUp_last`: the siblings and the parent of a node are looked up.
* `Tree.Linked.traverses`: the rendering of every node comes to an end.
* `Tree.traverse_afterAll`: the rendering of all nodes of all trees, and of numbers that are not
  there.
-/

namespace HtmlText

/-- What happens while the numbers of a tree are followed. -/
structure Steps where
  /-- The nodes that are entered to be rendered. -/
  entered : List Nat := []
  /-- The numbers that are looked up. -/
  looked : List Nat := []
deriving Repr, DecidableEq

instance : Append Steps where
  append a b := ⟨a.entered ++ b.entered, a.looked ++ b.looked⟩

namespace Steps

@[simp] theorem entered_append (a b : Steps) : (a ++ b).entered = a.entered ++ b.entered := rfl

@[simp] theorem looked_append (a b : Steps) : (a ++ b).looked = a.looked ++ b.looked := rfl

theorem append_empty (a : Steps) : a ++ ({} : Steps) = a := by
  change Steps.mk _ _ = a
  rw [List.append_nil, List.append_nil]

theorem append_assoc (a b c : Steps) : a ++ b ++ c = a ++ (b ++ c) := by
  change Steps.mk _ _ = Steps.mk _ _
  simp

end Steps

/-- A computation that follows the numbers of a tree. It leaves its steps behind. It may fail at a
number that is not there, or have no value because it has not come to an end. -/
abbrev Traversal := ExceptT OutOfRange (StateT Steps Option)

namespace Traversal

variable {α β : Type}

/-- The computation that has not come to an end. -/
def unfinished : Traversal α := ExceptT.mk fun _ => none

/-- Take steps. -/
def take (steps : Steps) : Traversal Unit := modify (· ++ steps)

/-- The computation comes to an end with the result `a`, after the given steps. -/
def Yields (m : Traversal α) (a : α) (steps : Steps) : Prop :=
  ∀ before, m.run.run before = some (.ok a, before ++ steps)

theorem yields_pure (a : α) : Yields (pure a) a {} := by
  intro before
  rw [Steps.append_empty]
  rfl

theorem yields_take (steps : Steps) : Yields (take steps) () steps := fun _ => rfl

/-- Computations that come to an end, one after the other. -/
theorem Yields.bind {m : Traversal α} {f : α → Traversal β} {a : α} {b : β} {steps steps' : Steps}
    (h : Yields m a steps) (h' : Yields (f a) b steps') :
    Yields (m >>= f) b (steps ++ steps') := by
  intro before
  rw [ExceptT.run_bind, StateT.run_bind, h before, ← Steps.append_assoc]
  exact h' (before ++ steps)

theorem Yields.mapM_cons {f : α → Traversal β} {x : α} {xs : List α} {b : β} {bs : List β}
    {steps steps' : Steps} (h : Yields (f x) b steps) (h' : Yields (xs.mapM f) bs steps') :
    Yields ((x :: xs).mapM f) (b :: bs) (steps ++ steps') := by
  rw [List.mapM_cons, ← Steps.append_empty steps']
  exact h.bind (h'.bind (yields_pure _))

theorem Yields.map {m : Traversal α} {a : α} {steps : Steps} (h : Yields m a steps) (f : α → β) :
    Yields (f <$> m) (f a) steps := by
  intro before
  rw [ExceptT.run_map, StateT.run_map, h before]
  rfl

end Traversal

/-- The members of a list from a place on, which may be the end of the list but not behind it. -/
def membersFrom (xs : List Nat) (start : Nat) : Traversal (List Nat) :=
  if start ≤ xs.length then pure (xs.drop start) else throw ⟨xs.length, start⟩

/-- The children of an element that its rule visits. -/
def Rule.visited (rule : Rule) (children : List Nat) : List Nat :=
  if rule.visitsChildren then children else []

theorem Rule.sublist_visited (rule : Rule) (children : List Nat) :
    (rule.visited children).Sublist children := by
  rw [visited]
  split_ifs
  · exact .refl children
  · exact children.nil_sublist

/-! ### Following the numbers -/

namespace Tree

section Traverse

variable (t : Tree) (rules : Rules) (options : Options)

/-- Look up a number. -/
def look (id : Nat) : Traversal Node := do
  Traversal.take { looked := [id] }
  ExceptT.mk (pure (t.get id))

/-- The siblings behind a node, from its place among the children of its parent on. -/
def lookFollowing (id : Nat) : Traversal (List Nat) := do
  let siblings ← match (← t.look id).parent with
    | none => pure []
    | some p => Node.children <$> t.look p
  membersFrom siblings ((siblings.idxOf? id).elim siblings.length (· + 1))

/-- The first of some siblings that is an element. -/
def lookForElement : List Nat → Traversal (Option Nat)
  | [] => pure none
  | sibling :: siblings => do
    if (← t.look sibling).isElement then pure (some sibling) else lookForElement siblings

/-- Whether a node is the last element of a block. -/
def lookLast (id : Nat) : Traversal Bool := do
  match ← t.lookForElement (← t.lookFollowing id) with
  | some _ => pure false
  | none =>
    match (← t.look id).parent with
    | none => pure false
    | some p => (·.tag?.any isBlockTag) <$> t.look p

/-- The children that a rule visits. -/
def lookChildren (rule : Rule) (id : Nat) : Traversal (List Nat) :=
  if rule.visitsChildren then Node.children <$> t.look id else pure []

/-- The target of a link. No other rule looks at it. -/
def lookTarget (rule : Rule) (id : Nat) : Traversal String :=
  if rule = .link then
    (fun node => (node.element?.bind (·.attribute? "href")).getD "") <$> t.look id
  else pure ""

/-- The line feeds behind an element. A rule that has none does not look at its place. -/
def lookEnding (rule : Rule) (id : Nat) : Traversal String :=
  match rule.trailer with
  | none => pure ""
  | some _ => rule.ending <$> t.lookLast id

/-- The raw rendering of a node, with the given rendering of its children. -/
def traverseWith (visit : Nat → Traversal String) (id : Nat) : Traversal String := do
  Traversal.take { entered := [id] }
  match (← t.look id).kind with
  | .text s => pure (collapse s)
  | .element e => do
    let children ← t.lookChildren (rules.forTag e.tag) id
    let parts ← children.mapM visit
    let target ← t.lookTarget (rules.forTag e.tag) id
    let ending ← t.lookEnding (rules.forTag e.tag) id
    pure ((rules.forTag e.tag).shape options (String.join parts) target ++ ending)

/-- The raw rendering of a node, followed down to a depth. -/
def traverse : Nat → Nat → Traversal String
  | 0, _ => .unfinished
  | depth + 1, id => traverseWith t rules options (traverse depth) id

end Traverse

/-! ### Looking up numbers -/

variable {t : Tree} {α β : Type}

/-- The computation comes to an end with the result `a`, enters no node, and looks up only numbers
that are there. -/
def LooksUp (t : Tree) (m : Traversal α) (a : α) : Prop :=
  ∃ looked, m.Yields a { looked } ∧ ∀ x ∈ looked, x < t.size

theorem looksUp_pure (a : α) : t.LooksUp (pure a) a :=
  ⟨[], Traversal.yields_pure a, fun _ hx => absurd hx List.not_mem_nil⟩

theorem LooksUp.bind {m : Traversal α} {f : α → Traversal β} {a : α} {b : β} (h : t.LooksUp m a)
    (h' : t.LooksUp (f a) b) : t.LooksUp (m >>= f) b := by
  obtain ⟨looked, hm, hbound⟩ := h
  obtain ⟨looked', hf, hbound'⟩ := h'
  refine ⟨looked ++ looked', hm.bind hf, fun x hx => ?_⟩
  rcases List.mem_append.mp hx with hx | hx
  · exact hbound x hx
  · exact hbound' x hx

theorem LooksUp.map {m : Traversal α} {a : α} (h : t.LooksUp m a) (f : α → β) :
    t.LooksUp (f <$> m) (f a) := by
  obtain ⟨looked, hm, hbound⟩ := h
  exact ⟨looked, hm.map f, hbound⟩

theorem looksUp_look {id : Nat} {node : Node} (hnode : t.nodes[id]? = some node) :
    t.LooksUp (t.look id) node := by
  refine ⟨[id], fun before => ?_, fun x hx => ?_⟩
  · rw [look, get_eq_ok_iff.mpr hnode]
    rfl
  · rw [List.mem_singleton.mp hx]
    exact lt_size_of_getElem? hnode

theorem looksUp_membersFrom {xs : List Nat} {start : Nat} (h : start ≤ xs.length) :
    t.LooksUp (membersFrom xs start) (xs.drop start) := by
  rw [membersFrom, if_pos h]
  exact looksUp_pure _

theorem idxOf?_append_cons {before after : List Nat} {x : Nat} (h : x ∉ before) :
    (before ++ x :: after).idxOf? x = some before.length := by
  rw [List.idxOf?_eq_some_iff]
  refine ⟨by simp, by simp, fun j hj hx => h ?_⟩
  rw [List.getElem_append_left hj] at hx
  exact hx ▸ List.getElem_mem hj

/-- The members of a list behind the first place of one of them. -/
theorem looksUp_behind {before after : List Nat} {x : Nat} (h : x ∉ before) :
    t.LooksUp (membersFrom (before ++ x :: after) (((before ++ x :: after).idxOf? x).elim
      (before ++ x :: after).length (· + 1))) after := by
  rw [idxOf?_append_cons h, Option.elim_some]
  have hdrop : (before ++ x :: after).drop (before.length + 1) = after := by simp
  have hmembers : t.LooksUp (membersFrom (before ++ x :: after) (before.length + 1))
      ((before ++ x :: after).drop (before.length + 1)) := looksUp_membersFrom (by simp)
  rwa [hdrop] at hmembers

/-- The siblings behind a node are found, and they are there. -/
theorem Linked.exists_looksUp_following (ht : t.Linked) {id : Nat} {node : Node}
    (hnode : t.nodes[id]? = some node) :
    ∃ ys, t.followingSiblings id = .ok ys ∧ t.LooksUp (t.lookFollowing id) ys ∧
      ∀ y ∈ ys, ∃ sibling, t.nodes[y]? = some sibling := by
  rcases eq_zero_or_exists_parent ht hnode with rfl | ⟨p, above, before, after, habove, hchildren⟩
  · obtain ⟨root, hroot, hparent⟩ := ht.root
    refine ⟨[], followingSiblings_root ht, (looksUp_look hroot).bind ?_,
      fun y hy => absurd hy List.not_mem_nil⟩
    rw [hparent]
    exact (looksUp_pure []).bind (looksUp_membersFrom (Nat.le_refl 0))
  · have hmem : id ∈ above.children := by simp [hchildren]
    obtain ⟨-, child, hchild, hback⟩ := ht.child habove hmem
    obtain rfl : child = node := Option.some.inj (hchild.symm.trans hnode)
    have hbefore : id ∉ before := by
      have hnodup : above.children.Nodup := (ht.ordered habove).imp Nat.ne_of_lt
      rw [hchildren, List.nodup_append] at hnodup
      exact fun h => hnodup.2.2 id h id List.mem_cons_self rfl
    refine ⟨after, followingSiblings_child ht habove hchildren, (looksUp_look hnode).bind ?_,
      fun y hy => ?_⟩
    · rw [hback]
      exact ((looksUp_look habove).map Node.children).bind (hchildren ▸ looksUp_behind hbefore)
    · obtain ⟨-, sibling, hsibling, -⟩ := ht.child habove (c := y) (by simp [hchildren, hy])
      exact ⟨sibling, hsibling⟩

/-- The first element among nodes that are there is found. -/
theorem looksUp_forElement {ys : List Nat}
    (h : ∀ y ∈ ys, ∃ node, t.nodes[y]? = some node) :
    t.LooksUp (t.lookForElement ys) (ys.find? t.isElement) := by
  induction ys with
  | nil => exact looksUp_pure none
  | cons y ys ih =>
    obtain ⟨node, hnode⟩ := h y List.mem_cons_self
    refine (looksUp_look hnode).bind ?_
    rw [← isElement_eq hnode, List.find?_cons]
    cases t.isElement y with
    | true => exact looksUp_pure (some y)
    | false => exact ih fun y' hy' => h y' (List.mem_cons_of_mem y hy')

/-- Whether a node is the last of a block is found out. -/
theorem Linked.exists_looksUp_last (ht : t.Linked) {id : Nat} {node : Node}
    (hnode : t.nodes[id]? = some node) :
    ∃ last, t.isLastInBlock id = .ok last ∧ t.LooksUp (t.lookLast id) last := by
  obtain ⟨ys, hys, hfollowing, hthere⟩ := ht.exists_looksUp_following hnode
  have hnext := looksUp_forElement hthere
  rw [isLastInBlock, nextElementSibling, hys]
  cases hfind : ys.find? t.isElement with
  | some y =>
    rw [hfind] at hnext
    refine ⟨false, ?_, hfollowing.bind (hnext.bind (looksUp_pure false))⟩
    simp [bind, Except.bind, pure, Except.pure, hfind]
  | none =>
    rw [hfind] at hnext
    cases hparent : node.parent with
    | none =>
      refine ⟨false, ?_, hfollowing.bind (hnext.bind ((looksUp_look hnode).bind ?_))⟩
      · simp [bind, Except.bind, pure, Except.pure, hfind, parent_eq hnode, hparent]
      · rw [hparent]
        exact looksUp_pure false
    | some p =>
      obtain ⟨above, habove, -⟩ := ht.exists_parent hnode hparent
      refine ⟨above.tag?.any isBlockTag, ?_,
        hfollowing.bind (hnext.bind ((looksUp_look hnode).bind ?_))⟩
      · simp [bind, Except.bind, pure, Except.pure, hfind, parent_eq hnode, hparent,
          tag?_eq habove]
      · rw [hparent]
        exact (looksUp_look habove).map _

theorem looksUp_children {id : Nat} {node : Node} (hnode : t.nodes[id]? = some node)
    (rule : Rule) :
    t.LooksUp (t.lookChildren rule id) (rule.visited node.children) := by
  rw [lookChildren, Rule.visited]
  split_ifs
  · exact (looksUp_look hnode).map Node.children
  · exact looksUp_pure []

/-- Whatever target is found, the shape of the element is the one with the target of its own. -/
theorem exists_looksUp_target {id : Nat} {node : Node} {e : Element}
    (hnode : t.nodes[id]? = some node) (hkind : node.kind = .element e) (rule : Rule) :
    ∃ target, t.LooksUp (t.lookTarget rule id) target ∧ ∀ options content,
      rule.shape options content target =
        rule.shape options content ((e.attribute? "href").getD "") := by
  rw [lookTarget]
  split_ifs with h
  · refine ⟨_, (looksUp_look hnode).map _, fun options content => ?_⟩
    rw [Node.element?, hkind, Option.bind_some]
  · refine ⟨"", looksUp_pure "", fun options content => ?_⟩
    cases rule with
    | link => exact absurd rfl h
    | _ => rfl

theorem Linked.exists_looksUp_ending (ht : t.Linked) {id : Nat} {node : Node}
    (hnode : t.nodes[id]? = some node) (rule : Rule) :
    ∃ last, t.isLastInBlock id = .ok last ∧
      t.LooksUp (t.lookEnding rule id) (rule.ending last) := by
  obtain ⟨last, hlast, hlook⟩ := ht.exists_looksUp_last hnode
  refine ⟨last, hlast, ?_⟩
  rw [lookEnding]
  cases htrailer : rule.trailer with
  | none =>
    rw [Rule.ending, htrailer, Option.getD_none, ite_self]
    exact looksUp_pure ""
  | some trailer => exact hlook.map rule.ending

/-! ### Entering nodes -/

/-- The given nodes and all that they show are entered, each once, and only numbers that are there
are looked up. -/
structure Enters (t : Tree) (rules : Rules) (ids : List Nat) (steps : Steps) : Prop where
  nodup : steps.entered.Nodup
  entered_iff : ∀ x, x ∈ steps.entered ↔ ∃ id ∈ ids, x = id ∨ ∃ path, Shows rules t id x path
  bound : ∀ x ∈ steps.looked, x < t.size

variable {rules : Rules} {options : Options}

theorem Shows.toBelow {y x : Nat} {path : List Rule} (h : Shows rules t y x path) :
    t.Below y x := by
  induction h with
  | child hnode _ _ hx => exact .child (.top (lt_size_of_getElem? hnode)) hnode hx
  | deeper hnode _ _ hz _ ih =>
    exact (Below.child (.top (lt_size_of_getElem? hnode)) hnode hz).trans ih

/-- An element shows the children that its rule visits, and what they show. -/
theorem exists_shows_iff {id x : Nat} {node : Node} {e : Element}
    (hnode : t.nodes[id]? = some node) (hkind : node.kind = .element e) :
    (∃ path, Shows rules t id x path) ↔
      ∃ c ∈ (rules.forTag e.tag).visited node.children,
        x = c ∨ ∃ path, Shows rules t c x path := by
  have hsame {node' : Node} {e' : Element} (hnode' : t.nodes[id]? = some node')
      (hkind' : node'.kind = .element e') : node' = node ∧ e' = e := by
    obtain rfl : node' = node := Option.some.inj (hnode'.symm.trans hnode)
    exact ⟨rfl, NodeKind.element.inj (hkind'.symm.trans hkind)⟩
  rw [Rule.visited]
  constructor
  · rintro ⟨path, h⟩
    cases h with
    | child hnode' hkind' hvisits hx =>
      obtain ⟨rfl, rfl⟩ := hsame hnode' hkind'
      exact ⟨x, by rwa [if_pos hvisits], Or.inl rfl⟩
    | deeper hnode' hkind' hvisits hz h =>
      obtain ⟨rfl, rfl⟩ := hsame hnode' hkind'
      exact ⟨_, by rwa [if_pos hvisits], Or.inr ⟨_, h⟩⟩
  · rintro ⟨c, hc, h⟩
    split_ifs at hc with hvisits
    · rcases h with rfl | ⟨path, h⟩
      · exact ⟨_, .child hnode hkind hvisits hc⟩
      · exact ⟨_, .deeper hnode hkind hvisits hc h⟩
    · exact absurd hc List.not_mem_nil

/-- A text shows nothing below it. -/
theorem not_shows_of_text {id x : Nat} {node : Node} {s : String} {path : List Rule}
    (hnode : t.nodes[id]? = some node) (hkind : node.kind = .text s) :
    ¬Shows rules t id x path := by
  intro h
  have hsame {node' : Node} {e : Element} (hnode' : t.nodes[id]? = some node')
      (hkind' : node'.kind = .element e) : False := by
    obtain rfl : node' = node := Option.some.inj (hnode'.symm.trans hnode)
    exact NodeKind.noConfusion (hkind.symm.trans hkind')
  cases h with
  | child hnode' hkind' => exact hsame hnode' hkind'
  | deeper hnode' hkind' => exact hsame hnode' hkind'

/-- What is entered is in the subtrees of the given nodes. -/
theorem Enters.exists_below {ids : List Nat} {steps : Steps} (h : t.Enters rules ids steps)
    (hids : ∀ id ∈ ids, id < t.size) {x : Nat} (hx : x ∈ steps.entered) :
    ∃ id ∈ ids, t.Below id x := by
  obtain ⟨id, hid, rfl | ⟨path, hshows⟩⟩ := (h.entered_iff x).mp hx
  · exact ⟨x, hid, .top (hids x hid)⟩
  · exact ⟨id, hid, hshows.toBelow⟩

/-- The computation comes to an end with the raw rendering of a node, if the depth is at least the
number of nodes from this one on. It enters no node but this one and what it shows. -/
def Traverses (t : Tree) (rules : Rules) (options : Options) (id : Nat) : Prop :=
  ∃ s steps, (∀ depth, t.size ≤ id + depth → (t.traverse rules options depth id).Yields s steps) ∧
    t.renderAt rules options id = .ok s ∧ t.Enters rules [id] steps

/-- Siblings are rendered one after the other. What one of them enters is entered for no other one,
because their subtrees have no node in common. -/
theorem Linked.exists_traverses_siblings (ht : t.Linked) {p : Nat} {node : Node}
    (hnode : t.nodes[p]? = some node) {ids : List Nat} (hids : ∀ c ∈ ids, c ∈ node.children)
    (hnodup : ids.Nodup) (h : ∀ c ∈ ids, t.Traverses rules options c) :
    ∃ parts steps, (∀ depth, t.size ≤ p + 1 + depth →
        (ids.mapM (t.traverse rules options depth)).Yields parts steps) ∧
      List.Forall₂ (fun c part => t.renderAt rules options c = .ok part) ids parts ∧
      t.Enters rules ids steps := by
  induction ids with
  | nil =>
    refine ⟨[], {}, fun _ _ => Traversal.yields_pure [], .nil, .nil, fun x => ?_, fun x hx => ?_⟩
    · simp
    · exact absurd hx List.not_mem_nil
  | cons c ids ih =>
    obtain ⟨hnew, hnodup⟩ := List.nodup_cons.mp hnodup
    obtain ⟨s, steps, hyields, hrender, henters⟩ := h c List.mem_cons_self
    obtain ⟨parts, steps', hyields', hrender', henters'⟩ :=
      ih (fun d hd => hids d (List.mem_cons_of_mem c hd)) hnodup
        (fun d hd => h d (List.mem_cons_of_mem c hd))
    have hthere : ∀ d ∈ c :: ids, d < t.size := fun d hd => ht.lt_size_of_mem hnode (hids d hd)
    have hlt : p < c := (ht.child hnode (hids c List.mem_cons_self)).1
    refine ⟨s :: parts, steps ++ steps',
      fun depth hdepth => (hyields depth (by omega)).mapM_cons (hyields' depth hdepth),
      .cons hrender hrender', ?_, fun x => ?_, fun x hx => ?_⟩
    · rw [Steps.entered_append, List.nodup_append]
      -- A node entered twice would be in the subtrees of two siblings.
      refine ⟨henters.nodup, henters'.nodup, fun x hx y hy heq => ?_⟩
      obtain ⟨c', hc', hbelow⟩ := henters.exists_below
        (fun d hd => hthere d (List.mem_singleton.mp hd ▸ List.mem_cons_self)) hx
      obtain ⟨d, hd, hbelow'⟩ := henters'.exists_below
        (fun d hd => hthere d (List.mem_cons_of_mem c hd)) hy
      obtain rfl := List.mem_singleton.mp hc'
      have hsame := ht.eq_of_below hnode (hids _ List.mem_cons_self)
        (hids d (List.mem_cons_of_mem _ hd)) hbelow (heq ▸ hbelow')
      exact hnew (hsame ▸ hd)
    · rw [Steps.entered_append, List.mem_append, henters.entered_iff, henters'.entered_iff]
      simp
    · rw [Steps.looked_append, List.mem_append] at hx
      exact hx.elim (henters.bound x) (henters'.bound x)

/-- A node is entered before what it shows. -/
theorem Linked.enters_singleton (ht : t.Linked) {id : Nat} {node : Node}
    (hnode : t.nodes[id]? = some node) {shown : List Nat} (hshown : ∀ c ∈ shown, c ∈ node.children)
    (hshows : ∀ x, (∃ path, Shows rules t id x path) ↔
      ∃ c ∈ shown, x = c ∨ ∃ path, Shows rules t c x path)
    {inner steps : Steps} (hinner : t.Enters rules shown inner)
    (hentered : steps.entered = id :: inner.entered) (hlooked : ∀ x ∈ steps.looked, x < t.size) :
    t.Enters rules [id] steps where
  nodup := by
    rw [hentered, List.nodup_cons]
    refine ⟨fun hmem => ?_, hinner.nodup⟩
    -- No node is in the subtree of one of its children.
    obtain ⟨c, hc, hbelow⟩ :=
      hinner.exists_below (fun c hc => ht.lt_size_of_mem hnode (hshown c hc)) hmem
    exact absurd (hbelow.le ht) (Nat.not_le_of_lt (ht.child hnode (hshown c hc)).1)
  entered_iff := by
    intro x
    rw [hentered, List.mem_cons, hinner.entered_iff, ← hshows]
    simp
  bound := hlooked

/-- One more level of the recursion. -/
theorem traverse_of_lt {id depth : Nat} (hid : id < t.size) (hdepth : t.size ≤ id + depth) :
    ∃ depth', t.size ≤ id + 1 + depth' ∧ t.traverse rules options depth id =
      t.traverseWith rules options (t.traverse rules options depth') id := by
  obtain ⟨depth', rfl⟩ : ∃ depth', depth = depth' + 1 := ⟨depth - 1, by omega⟩
  exact ⟨depth', by omega, rfl⟩

theorem Linked.traverses_text (ht : t.Linked) {id : Nat} {node : Node} {s : String}
    (hnode : t.nodes[id]? = some node) (hkind : node.kind = .text s) :
    t.Traverses rules options id := by
  obtain ⟨looked, hlook, hbound⟩ := looksUp_look hnode
  have hnothing : t.Enters rules [] {} := ⟨.nil, by simp, by simp⟩
  refine ⟨collapse s, { entered := [id] } ++ ({ looked } ++ {}), fun depth hdepth => ?_,
    renderAt_text rules options ht hnode hkind, ht.enters_singleton hnode (by simp)
      (fun x => ?_) hnothing rfl (by simpa using hbound)⟩
  · obtain ⟨depth', -, htraverse⟩ := traverse_of_lt (lt_size_of_getElem? hnode) hdepth
    rw [htraverse, traverseWith]
    refine (Traversal.yields_take _).bind (hlook.bind ?_)
    rw [hkind]
    exact Traversal.yields_pure _
  · simp [not_shows_of_text hnode hkind]

/-- What the visited children show, taken together. -/
theorem join_visited {rule : Rule} {children : List Nat} {parts parts' : List String}
    (h : List.Forall₂ (fun c part => t.renderAt rules options c = .ok part)
      (rule.visited children) parts)
    (h' : List.Forall₂ (fun c part => t.renderAt rules options c = .ok part) children parts') :
    String.join parts = if rule.visitsChildren then String.join parts' else "" := by
  rw [Rule.visited] at h
  split_ifs at h ⊢
  · rw [eq_of_forall₂_ok (fun _ _ => rfl) h h']
  · rw [List.forall₂_nil_left_iff.mp h, String.join_nil]

theorem Linked.traverses_element (ht : t.Linked) {id : Nat} {node : Node} {e : Element}
    (hnode : t.nodes[id]? = some node) (hkind : node.kind = .element e)
    (ih : ∀ c ∈ node.children, t.Traverses rules options c) : t.Traverses rules options id := by
  obtain ⟨looked, hlook, hbound⟩ := looksUp_look hnode
  obtain ⟨lookedChildren, hchildren, hboundChildren⟩ :=
    looksUp_children hnode (rules.forTag e.tag)
  obtain ⟨target, ⟨lookedTarget, htarget, hboundTarget⟩, hshape⟩ :=
    exists_looksUp_target hnode hkind (rules.forTag e.tag)
  obtain ⟨last, hlast, lookedEnding, hending, hboundEnding⟩ :=
    ht.exists_looksUp_ending hnode (rules.forTag e.tag)
  have hvisited := (rules.forTag e.tag).sublist_visited node.children
  have hnodup : node.children.Nodup := (ht.ordered hnode).imp Nat.ne_of_lt
  obtain ⟨parts, inner, hparts, hrenders, henters⟩ := ht.exists_traverses_siblings hnode
    hvisited.subset (hnodup.sublist hvisited) fun c hc => ih c (hvisited.subset hc)
  obtain ⟨parts', hparts', hrender⟩ := renderAt_element rules options ht hnode hkind hlast
  refine ⟨_, { entered := [id] } ++ ({ looked } ++ ({ looked := lookedChildren } ++
    (inner ++ ({ looked := lookedTarget } ++ ({ looked := lookedEnding } ++ {}))))),
    fun depth hdepth => ?_, hrender, ht.enters_singleton hnode hvisited.subset
      (fun x => exists_shows_iff hnode hkind) henters (by simp) (fun x hx => ?_)⟩
  · obtain ⟨depth', hdepth', htraverse⟩ := traverse_of_lt (lt_size_of_getElem? hnode) hdepth
    rw [htraverse, traverseWith, ← hshape, ← join_visited hrenders hparts']
    refine (Traversal.yields_take _).bind (hlook.bind ?_)
    rw [hkind]
    exact hchildren.bind ((hparts depth' hdepth').bind
      (htarget.bind (hending.bind (Traversal.yields_pure _))))
  · simp only [Steps.looked_append, List.nil_append, List.append_nil, List.mem_append] at hx
    rcases hx with hx | hx | hx | hx | hx
    · exact hbound x hx
    · exact hboundChildren x hx
    · exact henters.bound x hx
    · exact hboundTarget x hx
    · exact hboundEnding x hx

/-- The rendering of every node comes to an end, by induction from the children to their parent,
whose number is smaller. -/
theorem Linked.traverses (ht : t.Linked) (rules : Rules) (options : Options) {id : Nat}
    (hid : id < t.size) : t.Traverses rules options id := by
  refine ht.induction_children (P := t.Traverses rules options) (fun {id node} hnode ih => ?_) hid
  cases hkind : node.kind with
  | text s => exact ht.traverses_text hnode hkind
  | element e => exact ht.traverses_element hnode hkind ih

/-- The rendering of a number that is not there fails at the first look-up. -/
theorem traverse_of_le (t : Tree) (rules : Rules) (options : Options) {id : Nat}
    (h : t.size ≤ id) (depth : Nat) :
    (t.traverse rules options (depth + 1) id).run.run {} =
      some (.error ⟨t.size, id⟩, { entered := [id], looked := [id] }) := by
  have hget : t.get id = .error ⟨t.size, id⟩ := by
    rw [get, Array.getElem?_eq_none h]
  rw [traverse, traverseWith, look, hget]
  rfl

theorem renderAt_of_le (t : Tree) (rules : Rules) (options : Options) {id : Nat}
    (h : t.size ≤ id) : t.renderAt rules options id = .error ⟨t.size, id⟩ := by
  rw [renderAt, Tree.content, List.getElem?_eq_none (by rwa [length_contents])]
  rfl

/-- **The numbers of a tree can be followed.** However nodes are appended to a root, the rendering
of every node comes to an end without a failure, and goes no deeper than there are nodes from this
one on. It gives the raw rendering of the node. The nodes that are entered are the node itself and
those that show below it, so they are in its subtree, and each is entered once. All numbers that are
looked up are there. The rendering of any other number fails when the number is looked up, before
anything else is done. -/
theorem traverse_afterAll (root : String) (history : List Appending) (rules : Rules)
    (options : Options) (id : Nat) :
    let t := (ofRoot root).afterAll history
    (id < t.size → ∃ s steps,
        (∀ depth, t.size ≤ id + depth →
            (t.traverse rules options depth id).run.run {} = some (.ok s, steps)) ∧
          t.renderAt rules options id = .ok s ∧ steps.entered.Nodup ∧
          (∀ x ∈ steps.entered, t.Below id x) ∧
          (∀ x, x ∈ steps.entered ↔ x = id ∨ ∃ path, Shows rules t id x path) ∧
          ∀ x ∈ steps.looked, x < t.size) ∧
      (t.size ≤ id →
        (∀ depth, (t.traverse rules options (depth + 1) id).run.run {} =
            some (.error ⟨t.size, id⟩, { entered := [id], looked := [id] })) ∧
          t.renderAt rules options id = .error ⟨t.size, id⟩) := by
  intro t
  have ht : t.Linked := ((Grown.ofRoot root).afterAll history).linked
  refine ⟨fun hid => ?_, fun hid =>
    ⟨traverse_of_le t rules options hid, renderAt_of_le t rules options hid⟩⟩
  obtain ⟨s, steps, hyields, hrender, henters⟩ := ht.traverses rules options hid
  refine ⟨s, steps, fun depth hdepth => hyields depth hdepth {}, hrender, henters.nodup,
    fun x hx => ?_, fun x => ?_, henters.bound⟩
  · obtain ⟨c, hc, hbelow⟩ := henters.exists_below (by simpa using hid) hx
    exact List.mem_singleton.mp hc ▸ hbelow
  · rw [henters.entered_iff]
    simp

/-- A paragraph in front of a drawn line. For the line feeds behind the paragraph, its parent and
the line are looked up, but not entered. -/
example :
    let t := (ofRoot "div").afterAll [.element 0 "p" [], .text 1 "a", .element 0 "hr" []]
    (t.traverse .builtin {} 3 1).run.run {} =
      some (.ok "a\n\n", { entered := [1, 2], looked := [1, 1, 2, 1, 0, 3] }) := by
  decide +kernel

end Tree

end HtmlText
