import HtmlText.Markup.Construct.State
import HtmlText.Proofs.Alike.Insertion
import HtmlText.Proofs.DraftNodes

/-!
# Drafts that grow

In a source without problems a draft only grows: nodes are added behind the children of others, and
texts become longer. The root element stays what it is, and so does what does not show in front of
its other children: comments, blank text and a declaration.

## Main definitions

* `Draft.Light`: a node that does not show in front of the other children of the root.
* `Draft.Leads`: a node is the root element.
* `Draft.Grows`: a draft that has grown into another one.
* `Draft.Sound`: every child is a node.
* `Draft.Conceals`: the texts inside a node are nowhere else.

## Main results

* `Leads.grow`: the root element of a draft that grows.
* `Conceals.textAdded`: text that is put inside a node that conceals its texts.
-/

namespace HtmlText

/-! ### Nodes that do not show -/

/-- What a node holds that does not show in front of the other children of the root. -/
def DraftKind.IsLight : DraftKind → Prop
  | .comment _ => True
  | .text s => isBlankRun s.toList = true
  | .element name _ _ => name = .html "meta"
  | .document | .doctype _ => False

namespace Draft

/-- A node that does not show in front of the other children of the root. -/
def Light (d : Draft) (i : Nat) : Prop :=
  d.children i = [] ∧ ∃ kind, d.kind? i = some kind ∧ kind.IsLight

theorem Light.congr {d e : Draft} {i : Nat} (h : d.Light i) (hkind : e.kind? i = d.kind? i)
    (hchildren : e.children i = d.children i) : e.Light i := by
  obtain ⟨hleaf, kind, heq, hlight⟩ := h
  exact ⟨hchildren.trans hleaf, kind, hkind.trans heq, hlight⟩

/-- A node that does not show is a node of the draft. -/
theorem Light.lt {d : Draft} {i : Nat} (h : d.Light i) : i < d.nodes.size := by
  obtain ⟨-, kind, hkind, -⟩ := h
  exact lt_of_kind? hkind

theorem Light.adding {d : Draft} {i : Nat} (h : d.Light i) (kind : DraftKind) {place : Option Nat}
    (hplace : ∀ p, place = some p → p < d.nodes.size) (hi : place ≠ some i) :
    (d.adding kind place).Light i :=
  h.congr (kind?_adding_of_lt h.lt kind place) (children_adding_of_ne kind hplace hi)

/-- A new node without children of its own. -/
theorem light_adding_size {d : Draft} (kind : DraftKind) (hlight : kind.IsLight)
    {place : Option Nat} (hplace : ∀ p, place = some p → p < d.nodes.size) :
    (d.adding kind place).Light d.nodes.size :=
  ⟨children_adding_size kind hplace, kind, kind?_adding_size d kind place, hlight⟩

/-- A node is the root element of the document. -/
structure Leads (d : Draft) (r : Nat) : Prop where
  element : ∃ attributes, d.kind? r = some (.element (.html "html") attributes none)
  children : ∃ before after, d.children 0 = before ++ r :: after ∧
    ∀ c ∈ before, ∃ kind, d.kind? c = some kind ∧
      ∀ name attributes contents, kind ≠ .element name attributes contents

theorem Leads.rootElement?_eq {d : Draft} {r : Nat} (h : d.Leads r) : d.rootElement? = some r := by
  obtain ⟨attributes, helement⟩ := h.element
  obtain ⟨before, after, hchildren, hbefore⟩ := h.children
  rw [rootElement?, hchildren, List.find?_append, List.find?_eq_none.mpr, List.find?_cons_of_pos]
  · rfl
  · rw [isElement_eq, helement]
  · intro c hc
    obtain ⟨kind, hkind, hne⟩ := hbefore c hc
    rw [isElement_eq, hkind]
    cases kind with
    | element name attributes contents => exact absurd rfl (hne name attributes contents)
    | _ => simp

/-- A draft in which nodes have been added and texts have grown. -/
structure Grows (d e : Draft) : Prop where
  kind : ∀ i kind, d.kind? i = some kind → (∀ s, kind ≠ .text s) → e.kind? i = some kind
  text : ∀ i s, d.kind? i = some (.text s) → ∃ t, e.kind? i = some (.text t)
  children : ∀ i, d.children i <+: e.children i

theorem Leads.grow {d e : Draft} {r : Nat} (h : d.Leads r) (hgrows : Grows d e) : e.Leads r := by
  obtain ⟨attributes, helement⟩ := h.element
  obtain ⟨before, after, hchildren, hbefore⟩ := h.children
  refine ⟨⟨attributes, hgrows.kind r _ helement (by simp)⟩, ?_⟩
  obtain ⟨more, hmore⟩ := hgrows.children 0
  refine ⟨before, after ++ more, ?_, fun c hc => ?_⟩
  · rw [← hmore, hchildren, List.append_assoc, List.cons_append]
  · obtain ⟨kind, hkind, hne⟩ := hbefore c hc
    by_cases htext : ∃ s, kind = .text s
    · obtain ⟨s, rfl⟩ := htext
      obtain ⟨t, ht⟩ := hgrows.text c s hkind
      exact ⟨.text t, ht, by simp⟩
    · exact ⟨kind, hgrows.kind c kind hkind fun s hs => htext ⟨s, hs⟩, hne⟩

theorem grows_adding (d : Draft) (kind : DraftKind) {place : Option Nat}
    (hplace : ∀ p, place = some p → p < d.nodes.size) : Grows d (d.adding kind place) where
  kind := fun _ _ h _ => kind?_adding_of_some h place
  text := fun _ s h => ⟨s, kind?_adding_of_some h place⟩
  children := fun i => by
    rw [children_adding _ _ hplace]
    split_ifs
    · exact List.prefix_append _ _
    · exact List.prefix_rfl

theorem grows_extendText {d : Draft} {id : Nat} {t : String} (h : d.kind? id = some (.text t))
    (s : String) : Grows d (d.extendText id s) where
  kind := fun i kind hkind hne => by
    have hi : i ≠ id := fun hi => hne t (Option.some.inj ((hi ▸ hkind).symm.trans h))
    rw [kind?_extendText_of_ne d hi, hkind]
  text := fun i u hu => by
    by_cases hi : i = id
    · subst hi
      exact ⟨u ++ s, kind?_extendText_self hu s⟩
    · exact ⟨u, by rw [kind?_extendText_of_ne d hi, hu]⟩
  children := fun i => (children_extendText d id s i).symm ▸ List.prefix_rfl

/-- Every child is a node of the draft. -/
def Sound (d : Draft) : Prop := ∀ i, ∀ c ∈ d.children i, c < d.nodes.size

theorem Sound.adding {d : Draft} (h : d.Sound) (kind : DraftKind) {place : Option Nat}
    (hplace : ∀ p, place = some p → p < d.nodes.size) : (d.adding kind place).Sound := by
  intro i c hc
  rw [children_adding _ _ hplace] at hc
  rw [size_adding]
  split_ifs at hc
  · rcases List.mem_append.mp hc with hc | hc
    · exact Nat.lt_succ_of_lt (h i c hc)
    · rw [List.mem_singleton.mp hc]
      exact Nat.lt_succ_self _
  · exact Nat.lt_succ_of_lt (h i c hc)

theorem Sound.extendText {d : Draft} (h : d.Sound) (id : Nat) (s : String) :
    (d.extendText id s).Sound := by
  intro i c hc
  rw [children_extendText] at hc
  rw [size_extendText]
  exact h i c hc

/-- The texts inside a node are none of the given ones and not inside the root. -/
def Conceals (d : Draft) (S : Nat → Prop) (r h : Nat) : Prop :=
  ∀ c ∈ d.children h, d.text? c ≠ none → ¬S c ∧ c ∉ d.children r

theorem conceals_of_text?_eq_none {d : Draft} {h : Nat}
    (hnone : ∀ c ∈ d.children h, d.text? c = none) (S : Nat → Prop) (r : Nat) :
    d.Conceals S r h :=
  fun c hc htext => absurd (hnone c hc) htext

/-- The children of the root are none of the texts inside the node either. -/
theorem Conceals.mono {d : Draft} {S T : Nat → Prop} {r h : Nat} (hconceals : d.Conceals S r h)
    (hT : ∀ c, T c → S c ∨ c ∈ d.children r) : d.Conceals T r h := by
  intro c hc htext
  obtain ⟨hS, hr⟩ := hconceals c hc htext
  exact ⟨fun hTc => (hT c hTc).elim hS hr, hr⟩

theorem Conceals.adding {d : Draft} {S T : Nat → Prop} {r h : Nat} {place : Option Nat}
    (hconceals : d.Conceals S r h) (hsound : d.Sound)
    (hplace : ∀ p, place = some p → p < d.nodes.size) {kind : DraftKind}
    (hT : ∀ c, T c → S c ∨ c = d.nodes.size)
    (htext : place = some h → ∀ s, kind ≠ .text s) : (d.adding kind place).Conceals T r h := by
  intro c hc hctext
  rw [text?_eq, kind?_adding] at hctext
  rw [children_adding _ _ hplace] at hc ⊢
  have hmem : c ∈ d.children h := by
    split_ifs at hc with hhp
    · rcases List.mem_append.mp hc with hc | hc
      · exact hc
      · cases List.mem_singleton.mp hc
        rw [if_pos rfl] at hctext
        cases kind with
        | text s => exact absurd rfl (htext hhp s)
        | _ => exact absurd rfl hctext
    · exact hc
  have hlt : c < d.nodes.size := hsound h c hmem
  rw [if_neg (Nat.ne_of_lt hlt), ← text?_eq] at hctext
  obtain ⟨hS, hr⟩ := hconceals c hmem hctext
  refine ⟨fun hc => (hT c hc).elim hS (Nat.ne_of_lt hlt), ?_⟩
  split_ifs
  · rw [List.mem_append, List.mem_singleton]
    exact fun hor => hor.elim hr (Nat.ne_of_lt hlt)
  · exact hr

theorem Conceals.extendText {d : Draft} {S : Nat → Prop} {r h id : Nat} {t : String}
    (hconceals : d.Conceals S r h) (hkind : d.kind? id = some (.text t)) (s : String) :
    (d.extendText id s).Conceals S r h := by
  intro c hc htext
  rw [children_extendText] at hc ⊢
  rw [ne_eq, text?_extendText_eq_none_iff hkind] at htext
  exact hconceals c hc htext

/-- More text stands somewhere inside a node, but not in one of the given nodes. -/
structure TextAdded (d e : Draft) (S : Nat → Prop) (p : Nat) : Prop where
  grows : Grows d e
  sound : e.Sound
  kind : ∀ i, S i → e.kind? i = d.kind? i
  children : ∀ i, i ≠ p → e.children i = d.children i
  text : ∀ i, i < d.nodes.size → (e.text? i = none ↔ d.text? i = none)
  mem : ∀ c ∈ e.children p, c ∈ d.children p ∨ d.nodes.size ≤ c

/-- Text that is put inside a node that conceals its texts. -/
theorem Conceals.textAdded {d : Draft} {S : Nat → Prop} {r p : Nat}
    (hconceals : d.Conceals S r p) (hsound : d.Sound) (hp : p < d.nodes.size)
    (hS : ∀ i, S i → i < d.nodes.size) (s : String) :
    TextAdded d (d.appendText p s) (fun i => S i ∨ i ∈ d.children r) p := by
  have hlt (i : Nat) (hi : S i ∨ i ∈ d.children r) : i < d.nodes.size :=
    hi.elim (hS i) (hsound r i)
  rcases d.appendText_cases p s with ⟨heq, -⟩ | ⟨c, t, hlast, hkind, heq⟩
  · rw [heq]
    have hplace : ∀ q, some p = some q → q < d.nodes.size := by simpa using hp
    have hgrows := grows_adding d (.text s) hplace
    have hsound' := hsound.adding (.text s) hplace
    refine ⟨hgrows, hsound', fun i hi => ?_, fun i hi => ?_,
      fun i hi => ?_, fun c hc => ?_⟩
    · exact kind?_adding_of_lt (hlt i hi) _ (some p)
    · rw [children_insertNew _ _ hp, if_neg hi]
    · exact (text?_adding_of_lt hi _ (some p)).congr_left
    · rw [children_insertNew _ _ hp, if_pos rfl] at hc
      exact (List.mem_append.mp hc).imp id fun hc => Nat.le_of_eq (List.mem_singleton.mp hc).symm
  · obtain ⟨hc, hr⟩ := hconceals c (List.mem_of_getLast? hlast) (by
      rw [text?_eq_some_iff.mpr hkind]
      simp)
    rw [heq]
    refine ⟨grows_extendText hkind s, hsound.extendText c s, fun i hi => ?_,
      fun i _ => children_extendText .., fun i _ => text?_extendText_eq_none_iff hkind s i,
      fun c' hc' => Or.inl (by rwa [children_extendText] at hc')⟩
    refine kind?_extendText_of_ne d (fun hic => ?_) s
    subst hic
    exact hi.elim hc hr

theorem Conceals.grow {d e : Draft} {S : Nat → Prop} {r p h : Nat}
    (hconceals : d.Conceals S r h) (hadded : TextAdded d e (fun i => S i ∨ i ∈ d.children r) p)
    (hsound : d.Sound) (hS : ∀ i, S i → i < d.nodes.size) (hrp : r ≠ p) : e.Conceals S r h := by
  intro c hc htext
  rw [hadded.children r hrp]
  by_cases hlt : c < d.nodes.size
  · rw [ne_eq, hadded.text c hlt] at htext
    refine hconceals c ?_ htext
    by_cases hhp : h = p
    · subst hhp
      exact (hadded.mem c hc).resolve_right (Nat.not_le_of_lt hlt)
    · rwa [hadded.children h hhp] at hc
  · exact ⟨fun hSc => hlt (hS c hSc), fun hcr => hlt (hsound r c hcr)⟩

end Draft

end HtmlText
