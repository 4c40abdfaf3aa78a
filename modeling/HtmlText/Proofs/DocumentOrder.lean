import HtmlText.Proofs.Attributes
import HtmlText.Proofs.CopiedTree
import HtmlText.Proofs.Subtrees

/-!
# Document order

The copy of a document into a tree holds the elements and the texts of the document, with their
names in lower case, and nothing else. Its nodes are numbered in the order of the document, so the
subtree of every node is a block of numbers that begins with the node.

The copy grows node by node while the document is gone through. At any time, nodes are appended only
under a node whose subtree reaches up to the last number, so a new number goes to the end of the
block of every node above it, and all other blocks stay as they are.

## Main definitions

* `Element.lowered`, `Dom.shown`, `Dom.NamesDistinct`: what is left of a document.
* `Content.kinds`: the elements and texts of a content in the order of the document.
* `Tree.Contiguous`, `Tree.Open`: subtrees that are blocks of numbers, and those that reach up to
  the last number.
* `Tree.Filling`: a tree while it is being copied into.

## Main results

* `contentsOf_eq_shown`: what a copy contains.
* `Dom.kinds_copy`: the order of the nodes of a copy.
* `Tree.Contiguous.grow`, `Dom.filling_copyInto`: one more node, and a whole copy.
* `Tree.ofDom_inDocumentOrder`: the tree of a document.
-/

namespace HtmlText

/-! ### What is left of a document -/

/-- An element with its names in lower case. -/
def Element.lowered (tag : String) (attributes : List (String × String)) : Element where
  tag := lower tag
  attributes := attributes.map fun (name, value) => (lower name, value)

/-- If the names stay distinct, nothing happens to the attributes but lower case. -/
theorem Element.normalized_eq_lowered {tag : String} {attributes : List (String × String)}
    (h : (attributes.map fun a => lower a.1).Nodup) :
    Element.normalized tag attributes = .lowered tag attributes := by
  rw [normalized, lowered, ofPairs_of_nodup]
  rwa [List.map_map]

/-- The attributes of all elements have distinct names in lower case. -/
inductive Dom.NamesDistinct : Dom → Prop
  | text (s : String) : NamesDistinct (.text s)
  | comment (s : String) : NamesDistinct (.comment s)
  | doctype (d : Doctype) : NamesDistinct (.doctype d)
  | instruction (target data : String) : NamesDistinct (.instruction target data)
  | element {tag : String} {attributes : List (String × String)} {children : List Dom}
      (h : (attributes.map fun a => lower a.1).Nodup)
      (hchildren : ∀ d ∈ children, NamesDistinct d) :
      NamesDistinct (.element tag attributes children)

/-- What is left of a node of a document when all that is neither element nor text is taken away,
with its names in lower case. -/
def Dom.shown : Dom → List Content
  | .text s => [.text s]
  | .element tag attributes children =>
    [.element (.lowered tag attributes) (children.flatMap Dom.shown)]
  | .comment _ | .doctype _ | .instruction _ _ => []

mutual

theorem Dom.content?_eq_shown : (d : Dom) → d.NamesDistinct → d.content?.toList = d.shown
  | .text s, _ => by
    rw [Dom.content?, Dom.shown]
    rfl
  | .element tag attributes children, h => by
    cases h with
    | element h hchildren =>
      rw [Dom.content?, Dom.shown, contentsOf_eq_shown children hchildren,
        Element.normalized_eq_lowered h]
      rfl
  | .comment _, _ | .doctype _, _ | .instruction _ _, _ => by
    rw [Dom.content?, Dom.shown]
    rfl

theorem contentsOf_eq_shown :
    (ds : List Dom) → (∀ d ∈ ds, d.NamesDistinct) → contentsOf ds = ds.flatMap Dom.shown
  | [], _ => rfl
  | d :: ds, h => by
    rw [contentsOf, List.flatMap_cons, d.content?_eq_shown (h d List.mem_cons_self),
      contentsOf_eq_shown ds fun d' hd' => h d' (List.mem_cons_of_mem d hd')]

end

/-! ### The order of the nodes -/

/-- The elements and texts of a content, each element before what it contains. -/
def Content.kinds : Content → List NodeKind
  | .text s => [.text s]
  | .element e children => .element e :: children.flatMap Content.kinds

mutual

/-- The nodes of a copy stand in the order of its content. -/
theorem Dom.kinds_copy (parent first : Nat) :
    (d : Dom) → (d.copy parent first).map Node.kind = d.content?.toList.flatMap Content.kinds
  | .text s => by
    rw [Dom.copy, Dom.content?, Option.toList_some, List.flatMap_singleton, Content.kinds]
    rfl
  | .element tag attributes children => by
    rw [Dom.copy, Dom.content?, List.map_cons, kinds_copyAll first (first + 1) children,
      Option.toList_some, List.flatMap_singleton, Content.kinds]
  | .comment _ | .doctype _ | .instruction _ _ => by
    rw [Dom.copy, Dom.content?]
    rfl

theorem kinds_copyAll (parent first : Nat) :
    (ds : List Dom) →
      (copyAll parent first ds).map Node.kind = (contentsOf ds).flatMap Content.kinds
  | [] => rfl
  | d :: ds => by
    rw [copyAll, contentsOf, List.map_append, List.flatMap_append, d.kinds_copy parent first,
      kinds_copyAll parent _ ds]

end

theorem Tree.kinds_ofDom (tag : String) (attributes : List (String × String))
    (children : List Dom) :
    (Tree.ofDom (.element tag attributes children)).nodes.toList.map Node.kind =
      .element ⟨lower tag, []⟩ :: (contentsOf children).flatMap Content.kinds := by
  rw [Tree.ofDom, toList_copyAllInto (ofRoot tag) 0 Nat.one_pos children, List.map_append,
    kinds_copyAll]
  rfl

/-! ### Blocks of numbers -/

namespace Tree

/-- The subtree of every node is a block of numbers that begins with the node. -/
def Contiguous (t : Tree) : Prop :=
  ∀ n < t.size, ∃ m, ∀ x, t.Below n x ↔ n ≤ x ∧ x < m

/-- The subtree of a node reaches up to the last number. -/
def Open (t : Tree) (n : Nat) : Prop :=
  ∀ x, n ≤ x → x < t.size → t.Below n x

variable {t : Tree} {p n x : Nat} {kind : NodeKind}

theorem Below.grow (h : t.Below n x) (p : Nat) (kind : NodeKind) : (t.grow p kind).Below n x := by
  induction h with
  | top h => exact .top (by rw [size_grow]; omega)
  | child _ hnode hc ih =>
    obtain ⟨node, hnode', -, hsub⟩ := getElem?_grow_of_some hnode
    exact .child ih hnode' (hsub _ hc)

/-- A new node is in its own subtree and in those that its parent is in. -/
theorem Linked.below_grow_iff (ht : t.Linked) (hp : p < t.size) :
    (t.grow p kind).Below n x ↔ t.Below n x ∨ x = t.size ∧ (n = t.size ∨ t.Below n p) := by
  have hgrown := ht.grow hp kind
  obtain ⟨above, habove⟩ : ∃ node, t.nodes[p]? = some node := ⟨_, Array.getElem?_eq_getElem hp⟩
  have habove' : (t.grow p kind).nodes[p]? =
      some { above with children := above.children ++ [t.size] } := by
    rw [getElem?_grow, if_neg (Nat.ne_of_lt hp), if_pos rfl, habove]
    rfl
  constructor
  · intro h
    induction h with
    | top h =>
      rw [size_grow] at h
      by_cases hn : n = t.size
      · exact Or.inr ⟨hn, Or.inl hn⟩
      · exact Or.inl (.top (by omega))
    | @child x c node _ hnode hc ih =>
      -- The new node has no children. Any other node has those it had, or the new one as well.
      rcases getElem?_grow_eq_some hnode with ⟨-, rfl⟩ | ⟨old, hold, -, -, hchildren⟩
      · exact absurd hc List.not_mem_nil
      · have hx : t.Below n x := by
          rcases ih with h | ⟨rfl, -⟩
          · exact h
          · exact absurd (lt_size_of_getElem? hold) (Nat.lt_irrefl _)
        rcases hchildren with h | ⟨rfl, h⟩
        · exact Or.inl (.child hx hold (h ▸ hc))
        · rw [h, List.mem_append, List.mem_singleton] at hc
          rcases hc with hc | rfl
          · exact Or.inl (.child hx hold hc)
          · exact Or.inr ⟨rfl, Or.inr hx⟩
  · rintro (h | ⟨rfl, h⟩)
    · exact h.grow p kind
    · rw [hgrown.below_child_iff habove' (by simp)]
      exact h.imp_right fun h => h.grow p kind

/-- The subtree of a node that is above an open one reaches up to the last number, too, since it is
a block. -/
theorem Contiguous.open_of_below (h : t.Contiguous) (ht : t.Linked) (hp : t.Open p)
    (hn : t.Below n p) : t.Open n := by
  intro x hx hbound
  obtain ⟨m, hm⟩ := h n hn.top_lt_size
  have hlt := hn.lt_size ht
  have hlast : t.Below n (t.size - 1) := hn.trans (hp _ (by omega) (by omega))
  have hend := ((hm _).mp hlast).2
  exact (hm x).mpr ⟨hx, by omega⟩

theorem Open.grow (hopen : t.Open p) (ht : t.Linked) (hp : p < t.size) (kind : NodeKind) :
    (t.grow p kind).Open p := by
  intro x hx hbound
  rw [size_grow] at hbound
  rw [ht.below_grow_iff hp]
  by_cases hnew : x = t.size
  · exact Or.inr ⟨hnew, Or.inr (.top hp)⟩
  · exact Or.inl (hopen x hx (by omega))

theorem Linked.open_new (ht : t.Linked) (hp : p < t.size) (kind : NodeKind) :
    (t.grow p kind).Open t.size := by
  intro x hx hbound
  rw [size_grow] at hbound
  exact (ht.below_grow_iff hp).mpr (Or.inr ⟨by omega, Or.inl rfl⟩)

/-- Under an open node, a new node keeps all subtrees blocks of numbers: those that it goes into are
open, and it has the next number. -/
theorem Contiguous.grow (h : t.Contiguous) (ht : t.Linked) (hopen : t.Open p) (hp : p < t.size)
    (kind : NodeKind) : (t.grow p kind).Contiguous := by
  intro n hn
  rw [size_grow] at hn
  simp only [ht.below_grow_iff hp]
  -- The subtree of the new node, one that the node goes into, and one that stays as it is.
  by_cases hnew : n = t.size
  · refine ⟨t.size + 1, fun x => ⟨?_, fun hx => Or.inr ⟨by omega, Or.inl hnew⟩⟩⟩
    rintro (hx | ⟨rfl, -⟩)
    · exact absurd hx.top_lt_size (by omega)
    · omega
  by_cases hbelow : t.Below n p
  · refine ⟨t.size + 1, fun x => ⟨?_, fun hx => ?_⟩⟩
    · rintro (hx | ⟨rfl, -⟩)
      · exact ⟨hx.le ht, Nat.lt_succ_of_lt (hx.lt_size ht)⟩
      · omega
    · by_cases hlast : x = t.size
      · exact Or.inr ⟨hlast, Or.inr hbelow⟩
      · exact Or.inl (h.open_of_below ht hopen hbelow x hx.1 (by omega))
  · obtain ⟨m, hm⟩ := h n (by omega)
    refine ⟨m, fun x => ⟨?_, fun hx => Or.inl ((hm x).mpr hx)⟩⟩
    rintro (hx | ⟨-, hx | hx⟩)
    · exact (hm x).mp hx
    · exact absurd hx hnew
    · exact absurd hx hbelow

/-- A tree while it is being copied into: its subtrees are blocks of numbers, and the one of the
node that is copied under reaches up to the last number. -/
structure Filling (t : Tree) (p : Nat) : Prop where
  linked : t.Linked
  bound : p < t.size
  contiguous : t.Contiguous
  isOpen : t.Open p

theorem Filling.grow (h : t.Filling p) (kind : NodeKind) : (t.grow p kind).Filling p where
  linked := h.linked.grow h.bound kind
  bound := by rw [size_grow]; exact Nat.lt_succ_of_lt h.bound
  contiguous := h.contiguous.grow h.linked h.isOpen h.bound kind
  isOpen := h.isOpen.grow h.linked h.bound kind

theorem Filling.descend (h : t.Filling p) (kind : NodeKind) : (t.grow p kind).Filling t.size where
  linked := h.linked.grow h.bound kind
  bound := by rw [size_grow]; exact Nat.lt_succ_self _
  contiguous := h.contiguous.grow h.linked h.isOpen h.bound kind
  isOpen := h.linked.open_new h.bound kind

theorem Filling.ascend (h : t.Filling p) (hn : t.Below n p) : t.Filling n where
  linked := h.linked
  bound := hn.top_lt_size
  contiguous := h.contiguous
  isOpen := h.contiguous.open_of_below h.linked h.isOpen hn

theorem filling_ofRoot (tag : String) : (ofRoot tag).Filling 0 := by
  have hlinked := linked_ofRoot tag
  have hroot : (ofRoot tag).Below 0 0 := .top Nat.one_pos
  refine ⟨hlinked, Nat.one_pos, fun n hn => ⟨1, fun x => ⟨fun hx => ?_, fun hx => ?_⟩⟩,
    fun x _ hx => ?_⟩
  · exact ⟨hx.le hlinked, hx.lt_size hlinked⟩
  · obtain rfl : n = 0 := by rw [size_ofRoot] at hn; omega
    obtain rfl : x = 0 := by omega
    exact hroot
  · obtain rfl : x = 0 := by rw [size_ofRoot] at hx; omega
    exact hroot

end Tree

mutual

/-- A copy keeps all subtrees blocks of numbers, and all that was below a node stays there. -/
theorem Dom.filling_copyInto {t : Tree} {p : Nat} (h : t.Filling p) :
    (d : Dom) → (d.copyInto t p).Filling p ∧ ∀ {n x}, t.Below n x → (d.copyInto t p).Below n x
  | .text s => ⟨h.grow (.text s), fun hx => hx.grow p (.text s)⟩
  | .element tag attributes children => by
    obtain ⟨hfilling, hbelow⟩ :=
      filling_copyAllInto (h.descend (.element (.normalized tag attributes))) children
    have hparent : (t.grow p (.element (.normalized tag attributes))).Below p t.size :=
      (h.linked.below_grow_iff h.bound).mpr (Or.inr ⟨rfl, Or.inr (.top h.bound)⟩)
    exact ⟨hfilling.ascend (hbelow hparent), fun hx => hbelow (hx.grow p _)⟩
  | .comment _ | .doctype _ | .instruction _ _ => ⟨h, fun hx => hx⟩

theorem filling_copyAllInto {t : Tree} {p : Nat} (h : t.Filling p) :
    (ds : List Dom) →
      (copyAllInto t p ds).Filling p ∧ ∀ {n x}, t.Below n x → (copyAllInto t p ds).Below n x
  | [] => ⟨h, fun hx => hx⟩
  | d :: ds => by
    obtain ⟨hd, hbelow⟩ := d.filling_copyInto h
    obtain ⟨hds, hbelow'⟩ := filling_copyAllInto hd ds
    exact ⟨hds, fun hx => hbelow' (hbelow hx)⟩

end

namespace Tree

/-- **The tree of a document.** It was built by appending nodes to its root. Read off from the root,
it is the document without all that is neither element nor text, with tags and names of attributes
in lower case. It has one node for the root and one for each element and each text below it. The
nodes are numbered in the order of the document, and the subtree of every node is a block of numbers
that begins with the node. -/
theorem ofDom_inDocumentOrder (tag : String) (attributes : List (String × String))
    {children : List Dom} (h : ∀ d ∈ children, d.NamesDistinct) :
    let t := Tree.ofDom (.element tag attributes children)
    let shown := Content.element ⟨lower tag, []⟩ (children.flatMap Dom.shown)
    t.Grown ∧ t.content 0 = .ok shown ∧ t.size = 1 + (children.map Dom.count).sum ∧
      t.nodes.toList.map Node.kind = shown.kinds ∧
      ∀ n < t.size, ∃ m, ∀ x, t.Below n x ↔ n ≤ x ∧ x < m := by
  intro t shown
  have hfilling := (filling_copyAllInto (filling_ofRoot tag) children).1
  refine ⟨grown_ofDom _, ?_, ?_, ?_, hfilling.contiguous⟩
  · rw [content_eq_ok_iff, contents_ofDom, contentsOf_eq_shown children h]
  · change (copyAllInto (ofRoot tag) 0 children).size = _
    rw [← length_toList, toList_copyAllInto (ofRoot tag) 0 Nat.one_pos children,
      List.length_append, List.length_modify, length_toList, length_copyAll, size_ofRoot]
  · rw [kinds_ofDom, contentsOf_eq_shown children h, Content.kinds]

/-- A paragraph with two attributes and an element inside, between a comment and a text, and with an
instruction in it. -/
def annotatedChildren : List Dom :=
  [.comment "c", .element "P" [("ID", "a"), ("Class", "b")]
    [.text " x ", .instruction "t" "d", .element "b" [] [.text "y"]], .text "z"]

/-- The comment and the instruction are gone, and the names are in lower case. -/
theorem annotatedPage_inDocumentOrder :
    let t := Tree.ofDom (.element "HTML" [("lang", "en")] annotatedChildren)
    (∀ d ∈ annotatedChildren, d.NamesDistinct) ∧
      t.content 0 = .ok (.element ⟨"html", []⟩
        [.element ⟨"p", [("id", "a"), ("class", "b")]⟩
          [.text " x ", .element ⟨"b", []⟩ [.text "y"]], .text "z"]) ∧
      t.size = 6 ∧ ∃ m, ∀ x, t.Below 1 x ↔ 1 ≤ x ∧ x < m := by
  intro t
  have hdistinct : ∀ d ∈ annotatedChildren, d.NamesDistinct := by
    simp only [annotatedChildren, List.forall_mem_cons, List.not_mem_nil, false_implies,
      implies_true, and_true]
    refine ⟨.comment _, .element (by decide +kernel) ?_, .text _⟩
    simp only [List.forall_mem_cons, List.not_mem_nil, false_implies, implies_true, and_true]
    refine ⟨.text _, .instruction _ _, .element .nil ?_⟩
    simpa using Dom.NamesDistinct.text "y"
  have hshown : annotatedChildren.flatMap Dom.shown =
      [.element ⟨"p", [("id", "a"), ("class", "b")]⟩
        [.text " x ", .element ⟨"b", []⟩ [.text "y"]], .text "z"] := by
    have hp : Element.lowered "P" [("ID", "a"), ("Class", "b")] =
        ⟨"p", [("id", "a"), ("class", "b")]⟩ := by decide +kernel
    have hb : Element.lowered "b" [] = ⟨"b", []⟩ := by decide +kernel
    simp [annotatedChildren, Dom.shown, hp, hb]
  have hroot : lower "HTML" = "html" := by decide +kernel
  obtain ⟨-, hcontent, hsize, -, hblock⟩ :=
    ofDom_inDocumentOrder "HTML" [("lang", "en")] hdistinct
  rw [hshown, hroot] at hcontent
  have hsix : t.size = 6 := hsize.trans (by simp [annotatedChildren, Dom.count])
  exact ⟨hdistinct, hcontent, hsix, hblock 1 (hsix ▸ by decide)⟩

end Tree

end HtmlText
