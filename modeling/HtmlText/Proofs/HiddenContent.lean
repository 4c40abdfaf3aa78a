import HtmlText.Proofs.RenderRecursion
import Mathlib.Tactic.IntervalCases

/-!
# Hidden content

The children of a text, and of an element whose rule does not visit its children, are hidden, with
everything below them. All other nodes are exposed. Two trees whose exposed nodes correspond to each
other are rendered alike, whatever is hidden in them and however their nodes are numbered: neither
the element above an exposed node nor a sibling behind it is ever hidden, so nothing that the
rendering of an exposed node looks up is.

## Main definitions

* `Node.showsChildren`: the children of a node are rendered.
* `Tree.Exposed`: a node that is not hidden.
* `Tree.Corresponds`: a map of nodes under which the exposed parts of two trees are the same
  ordered tree.

## Main results

* `Tree.Corresponds.exists_exposed_eq`: the map reaches all exposed nodes of the second tree.
* `Tree.Corresponds.toText_eq_and_renderAt_eq`: the two trees have the same text, and corresponding
  nodes the same raw rendering.
-/

namespace HtmlText

/-- Whether the children of a node are rendered. -/
def Node.showsChildren (rules : Rules) (node : Node) : Bool :=
  match node.kind with
  | .text _ => false
  | .element e => (rules.forTag e.tag).visitsChildren

namespace Tree

/-- A node that is left when everything below texts and below elements that do not visit their
children is taken away. -/
inductive Exposed (rules : Rules) (t : Tree) : Nat → Prop
  | root : Exposed rules t 0
  | child {id c : Nat} {node : Node} (h : Exposed rules t id) (hnode : t.nodes[id]? = some node)
      (hshows : node.showsChildren rules = true) (hc : c ∈ node.children) : Exposed rules t c

/-- The exposed nodes of one tree and those of another one are the same ordered tree, where `f`
gives the numbers in the second tree. -/
structure Corresponds (rules : Rules) (t t' : Tree) (f : Nat → Nat) : Prop where
  root : f 0 = 0
  node : ∀ {id : Nat} {node : Node}, Exposed rules t id → t.nodes[id]? = some node →
    ∃ node', t'.nodes[f id]? = some node' ∧ node'.kind = node.kind ∧
      (node.showsChildren rules = true → node'.children = node.children.map f)

variable {t t' : Tree} {rules : Rules} {f : Nat → Nat}

theorem exists_node_of_exposed (ht : t.Linked) {id : Nat} (h : Exposed rules t id) :
    ∃ node, t.nodes[id]? = some node := by
  cases h with
  | root =>
    obtain ⟨root, hroot, -⟩ := ht.root
    exact ⟨root, hroot⟩
  | child _ hnode _ hc =>
    obtain ⟨-, child, hchild, -⟩ := ht.child hnode hc
    exact ⟨child, hchild⟩

namespace Corresponds

theorem showsChildren_eq {node node' : Node} (h : node'.kind = node.kind) :
    node'.showsChildren rules = node.showsChildren rules := by
  rw [Node.showsChildren, Node.showsChildren, h]

/-- Every exposed node of the second tree corresponds to one of the first. -/
theorem exists_exposed_eq (ht : t.Linked) (hf : Corresponds rules t t' f) {id' : Nat}
    (h : Exposed rules t' id') : ∃ id, Exposed rules t id ∧ f id = id' := by
  induction h with
  | root => exact ⟨0, .root, hf.root⟩
  | @child id' c node' _ hnode' hshows hc ih =>
    obtain ⟨id, hid, rfl⟩ := ih
    obtain ⟨node, hnode⟩ := exists_node_of_exposed ht hid
    obtain ⟨node'', hnode'', hkind, hchildren⟩ := hf.node hid hnode
    obtain rfl : node' = node'' := Option.some.inj (hnode'.symm.trans hnode'')
    have hshows' : node.showsChildren rules = true := by rw [← showsChildren_eq hkind, hshows]
    rw [hchildren hshows', List.mem_map] at hc
    obtain ⟨d, hd, rfl⟩ := hc
    exact ⟨d, .child hid hnode hshows' hd, rfl⟩

theorem isElement_eq (ht : t.Linked) (hf : Corresponds rules t t' f) {id : Nat}
    (hid : Exposed rules t id) : t'.isElement (f id) = t.isElement id := by
  obtain ⟨node, hnode⟩ := exists_node_of_exposed ht hid
  obtain ⟨node', hnode', hkind, -⟩ := hf.node hid hnode
  rw [Tree.isElement_eq hnode, Tree.isElement_eq hnode', Node.isElement_congr hkind]

/-- Corresponding nodes are both the last of a block, or neither is. -/
theorem exists_isLastInBlock_eq (ht : t.Linked) (ht' : t'.Linked)
    (hf : Corresponds rules t t' f) {id : Nat} (hid : Exposed rules t id) :
    ∃ last, t.isLastInBlock id = .ok last ∧ t'.isLastInBlock (f id) = .ok last := by
  cases hid with
  | root =>
    refine ⟨false, isLastInBlock_root ht, ?_⟩
    rw [hf.root]
    exact isLastInBlock_root ht'
  | @child p _ node hp hnode hshows hc =>
    obtain ⟨node', hnode', hkind, hmap⟩ := hf.node hp hnode
    exact exists_isLastInBlock_map ht ht' hnode hnode' (hmap hshows)
      (by rw [Node.tag?_congr hkind])
      (fun c hc => isElement_eq ht hf (.child hp hnode hshows hc)) hc

/-- Corresponding nodes have the same raw rendering, by induction from the children to their
parent. -/
theorem exists_renderAt_eq (options : Options) (ht : t.Linked) (ht' : t'.Linked)
    (hf : Corresponds rules t t' f) {id : Nat} (hid : Exposed rules t id) :
    ∃ s, t.renderAt rules options id = .ok s ∧ t'.renderAt rules options (f id) = .ok s := by
  obtain ⟨start, hstart⟩ := exists_node_of_exposed ht hid
  refine ht.induction_children (P := fun id => Exposed rules t id →
    ∃ s, t.renderAt rules options id = .ok s ∧ t'.renderAt rules options (f id) = .ok s)
    (fun {id node} hnode ih hid => ?_) (lt_size_of_getElem? hstart) hid
  obtain ⟨node', hnode', hkind, hmap⟩ := hf.node hid hnode
  cases hk : node.kind with
  | text s =>
    exact ⟨_, renderAt_text rules options ht hnode hk,
      renderAt_text rules options ht' hnode' (hkind.trans hk)⟩
  | element e =>
    obtain ⟨last, hlast, hlast'⟩ := exists_isLastInBlock_eq ht ht' hf hid
    obtain ⟨parts, hparts, hrender⟩ :=
      renderAt_element rules options ht hnode hk hlast
    obtain ⟨parts', hparts', hrender'⟩ :=
      renderAt_element rules options ht' hnode' (hkind.trans hk) hlast'
    refine ⟨_, hrender, hrender'.trans ?_⟩
    split_ifs with hvisits
    · have hshows : node.showsChildren rules = true := by
        simpa only [Node.showsChildren, hk] using hvisits
      have hsame : ∀ c ∈ node.children,
          t.renderAt rules options c = t'.renderAt rules options (f c) := by
        intro c hc
        obtain ⟨s, hs, hs'⟩ := ih c hc (.child hid hnode hshows hc)
        exact hs.trans hs'.symm
      rw [hmap hshows, List.forall₂_map_left_iff] at hparts'
      rw [eq_of_forall₂_ok hsame hparts hparts']
    · rfl

/-- **Hidden content is never shown.** Two trees whose exposed nodes correspond have the same text,
and any two corresponding nodes have the same raw rendering. -/
theorem toText_eq_and_renderAt_eq (ht : t.Grown) (ht' : t'.Grown) (hf : Corresponds rules t t' f)
    (options : Options) :
    t.toText rules options = t'.toText rules options ∧
      ∀ id, Exposed rules t id →
        ∃ s, t.renderAt rules options id = .ok s ∧ t'.renderAt rules options (f id) = .ok s := by
  have hnodes : ∀ id, Exposed rules t id →
      ∃ s, t.renderAt rules options id = .ok s ∧ t'.renderAt rules options (f id) = .ok s :=
    fun id hid => exists_renderAt_eq options ht.linked ht'.linked hf hid
  refine ⟨?_, hnodes⟩
  obtain ⟨s, hs, hs'⟩ := hnodes 0 .root
  rw [renderAt_root rules options ht.linked] at hs
  rw [hf.root, renderAt_root rules options ht'.linked] at hs'
  rw [toText, toText, Except.ok.inj hs, Except.ok.inj hs']

end Corresponds

/-! ### A paragraph with and without a script behind it -/

/-- A paragraph and an empty script in a block. -/
def plainPage : Tree :=
  ((((ofRoot "html").grow 0 (.element (.normalized "div" []))).grow 1
    (.element (.normalized "p" []))).grow 2 (.text "A")).grow 1
    (.element (.normalized "script" []))

/-- The same block, built in another order, with a heading and a text inside the script. -/
def scriptedPage : Tree :=
  ((((((ofRoot "html").grow 0 (.element (.normalized "div" []))).grow 1
    (.element (.normalized "p" []))).grow 1 (.element (.normalized "script" []))).grow 3
    (.text "hidden")).grow 3 (.element (.normalized "h1" []))).grow 2 (.text "A")

/-- The numbers that the nodes of the plain page have in the scripted one. -/
def scriptedNumber (id : Nat) : Nat := if id = 3 then 6 else if id = 4 then 3 else id

theorem grown_plainPage : plainPage.Grown :=
  ((((Grown.ofRoot "html").growElement (by decide) "div" []).growElement (by decide) "p"
    []).growText (by decide) "A").growElement (by decide) "script" []

theorem grown_scriptedPage : scriptedPage.Grown :=
  ((((((Grown.ofRoot "html").growElement (by decide) "div" []).growElement (by decide) "p"
    []).growElement (by decide) "script" []).growText (by decide) "hidden").growElement
    (by decide) "h1" []).growText (by decide) "A"

theorem corresponds_scriptedPage :
    Corresponds .builtin plainPage scriptedPage scriptedNumber where
  root := rfl
  node := by
    intro id node _ hnode
    have hid : id < 5 := lt_size_of_getElem? hnode
    interval_cases id <;> obtain rfl := Option.some.inj hnode
    · exact ⟨_, rfl, rfl, fun _ => rfl⟩
    · exact ⟨_, rfl, rfl, fun _ => rfl⟩
    · exact ⟨_, rfl, rfl, fun _ => rfl⟩
    · exact ⟨_, rfl, rfl, fun _ => rfl⟩
    · exact ⟨_, rfl, rfl, fun h => absurd h (by decide)⟩

/-- What is inside the script changes neither the text of the page nor the raw rendering of the
paragraph. -/
theorem scriptedPage_renders_alike :
    Grown plainPage ∧ Grown scriptedPage ∧
      Corresponds .builtin plainPage scriptedPage scriptedNumber ∧
      plainPage.toText .builtin {} = scriptedPage.toText .builtin {} ∧
      ∃ s, plainPage.renderAt .builtin {} 2 = .ok s ∧
        scriptedPage.renderAt .builtin {} 2 = .ok s := by
  have h := Corresponds.toText_eq_and_renderAt_eq grown_plainPage grown_scriptedPage
    corresponds_scriptedPage {}
  have hroot : plainPage.nodes[0]? = some plainPage.nodes[0] := rfl
  have hdiv : plainPage.nodes[1]? = some plainPage.nodes[1] := rfl
  have hblock : Exposed .builtin plainPage 1 := .child .root hroot (by decide) (by decide)
  have hparagraph : Exposed .builtin plainPage 2 := .child hblock hdiv (by decide) (by decide)
  exact ⟨grown_plainPage, grown_scriptedPage, corresponds_scriptedPage, h.1, h.2 2 hparagraph⟩

end Tree

end HtmlText
