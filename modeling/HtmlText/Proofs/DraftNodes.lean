import HtmlText.Markup.Dom
import Mathlib.Tactic.SplitIfs
import Mathlib.Tactic.Common

/-!
# Nodes of a draft

What a draft says of a node is its kind and its children. A node that is added behind the children
of another one changes the children of that one only, and a text that grows changes its own kind
only.

## Main definitions

* `Draft.kind?`: what a node holds.
* `Draft.insertNew`: a new node behind the children of another one.

## Main results

* `Draft.kind?_insertNew`, `Draft.children_insertNew`: a draft with a new node.
* `Draft.kind?_extendText_self`, `Draft.children_extendText`: a draft in which a text has grown.
* `Draft.appendText_cases`: what becomes of text.
* `Draft.appendText_appendText`: texts that are appended one after the other.
-/

namespace HtmlText

namespace Draft

variable {d : Draft} {p i : Nat}

/-- What a node holds. -/
def kind? (d : Draft) (i : Nat) : Option DraftKind := d.nodes[i]?.map DraftNode.kind

theorem lt_of_kind? {kind : DraftKind} (h : d.kind? i = some kind) : i < d.nodes.size := by
  obtain ⟨node, hnode, -⟩ := Option.map_eq_some_iff.mp h
  exact (Array.getElem?_eq_some_iff.mp hnode).1

theorem text?_eq (d : Draft) (i : Nat) :
    d.text? i = match d.kind? i with
      | some (.text s) => some s
      | _ => none := by
  rw [text?, kind?]
  rcases d.nodes[i]? with _ | ⟨kind, parent, children⟩
  · rfl
  · cases kind <;> rfl

theorem contents_eq (d : Draft) (i : Nat) :
    d.contents i = match d.kind? i with
      | some (.element _ _ (some c)) => c
      | _ => i := by
  rw [contents, kind?]
  rcases d.nodes[i]? with _ | ⟨kind, parent, children⟩
  · rfl
  · rcases kind with _ | _ | _ | _ | ⟨name, attributes, _ | c⟩ <;> rfl

theorem isElement_eq (d : Draft) (i : Nat) :
    d.isElement i = match d.kind? i with
      | some (.element ..) => true
      | _ => false := by
  rw [isElement, kind?]
  rcases d.nodes[i]? with _ | ⟨kind, parent, children⟩
  · rfl
  · cases kind <;> rfl

/-! ### New nodes -/

/-- A draft with a new node behind the children of another one. -/
def insertNew (d : Draft) (kind : DraftKind) (p : Nat) : Draft :=
  (d.add kind).1.append p d.nodes.size

theorem getElem?_add (d : Draft) (kind : DraftKind) (i : Nat) :
    (d.add kind).1.nodes[i]? = if i = d.nodes.size then some { kind } else d.nodes[i]? := by
  rw [add, Array.getElem?_push]

theorem kind?_add (d : Draft) (kind : DraftKind) (i : Nat) :
    (d.add kind).1.kind? i = if i = d.nodes.size then some kind else d.kind? i := by
  rw [kind?, getElem?_add, apply_ite (Option.map DraftNode.kind)]
  rfl

theorem children_of_size_le (h : d.nodes.size ≤ i) : d.children i = [] := by
  rw [children, Array.getElem?_eq_none h]
  rfl

theorem children_add (d : Draft) (kind : DraftKind) (i : Nat) :
    (d.add kind).1.children i = d.children i := by
  rw [children, getElem?_add]
  split_ifs with h
  · rw [h, children_of_size_le (Nat.le_refl _)]
    rfl
  · rfl

theorem parent?_add_self (d : Draft) (kind : DraftKind) :
    (d.add kind).1.parent? d.nodes.size = none := by
  rw [parent?, getElem?_add, if_pos rfl]
  rfl

theorem detach_add_self (d : Draft) (kind : DraftKind) :
    (d.add kind).1.detach d.nodes.size = (d.add kind).1 := by
  rw [detach, parent?_add_self]

theorem kind?_setChildren (d : Draft) (id : Nat) (children : List Nat) (i : Nat) :
    (d.setChildren id children).kind? i = d.kind? i := by
  rw [kind?, setChildren, Array.getElem?_modify]
  split_ifs
  · rw [Option.map_map]
    rfl
  · rfl

theorem kind?_setParent (d : Draft) (id : Nat) (parent : Option Nat) (i : Nat) :
    (d.setParent id parent).kind? i = d.kind? i := by
  rw [kind?, setParent, Array.getElem?_modify]
  split_ifs
  · rw [Option.map_map]
    rfl
  · rfl

theorem children_setParent (d : Draft) (id : Nat) (parent : Option Nat) (i : Nat) :
    (d.setParent id parent).children i = d.children i := by
  rw [children, setParent, Array.getElem?_modify]
  split_ifs
  · rw [Option.map_map]
    rfl
  · rfl

theorem children_setChildren (d : Draft) (id : Nat) (ids : List Nat) (i : Nat)
    (h : id < d.nodes.size) :
    (d.setChildren id ids).children i = if i = id then ids else d.children i := by
  rw [children, setChildren, Array.getElem?_modify]
  by_cases hi : id = i
  · subst hi
    rw [if_pos rfl, if_pos rfl, Array.getElem?_eq_getElem h]
    rfl
  · rw [if_neg hi, if_neg (Ne.symm hi)]
    rfl

theorem size_insertNew (d : Draft) (kind : DraftKind) (p : Nat) :
    (d.insertNew kind p).nodes.size = d.nodes.size + 1 := by
  rw [insertNew, append, detach_add_self, setParent, setChildren, Array.size_modify,
    Array.size_modify, add, Array.size_push]

theorem kind?_insertNew (d : Draft) (kind : DraftKind) (p i : Nat) :
    (d.insertNew kind p).kind? i = if i = d.nodes.size then some kind else d.kind? i := by
  rw [insertNew, append, detach_add_self]
  simp only [kind?_setParent, kind?_setChildren, kind?_add]

theorem children_insertNew (d : Draft) (kind : DraftKind) (hp : p < d.nodes.size) (i : Nat) :
    (d.insertNew kind p).children i =
      if i = p then d.children p ++ [d.nodes.size] else d.children i := by
  have hp' : p < (d.add kind).1.nodes.size := by
    rw [add, Array.size_push]
    omega
  rw [insertNew, append, detach_add_self]
  simp only [children_setParent, children_setChildren _ _ _ _ hp', children_add]

/-- A draft with a new node that may have a place behind the children of another one. -/
def adding (d : Draft) (kind : DraftKind) : Option Nat → Draft
  | some p => d.insertNew kind p
  | none => (d.add kind).1

theorem size_adding (d : Draft) (kind : DraftKind) (place : Option Nat) :
    (d.adding kind place).nodes.size = d.nodes.size + 1 := by
  cases place with
  | none => exact Array.size_push _
  | some p => exact size_insertNew d kind p

theorem kind?_adding (d : Draft) (kind : DraftKind) (place : Option Nat) (i : Nat) :
    (d.adding kind place).kind? i = if i = d.nodes.size then some kind else d.kind? i := by
  cases place with
  | none => exact kind?_add d kind i
  | some p => exact kind?_insertNew d kind p i

theorem kind?_adding_of_lt (hi : i < d.nodes.size) (kind : DraftKind) (place : Option Nat) :
    (d.adding kind place).kind? i = d.kind? i := by
  rw [kind?_adding, if_neg (Nat.ne_of_lt hi)]

theorem kind?_adding_of_some {kind kind' : DraftKind} (hi : d.kind? i = some kind)
    (place : Option Nat) : (d.adding kind' place).kind? i = some kind := by
  rw [kind?_adding_of_lt (lt_of_kind? hi), hi]

theorem kind?_adding_size (d : Draft) (kind : DraftKind) (place : Option Nat) :
    (d.adding kind place).kind? d.nodes.size = some kind := by
  rw [kind?_adding, if_pos rfl]

theorem text?_adding_of_lt (hi : i < d.nodes.size) (kind : DraftKind) (place : Option Nat) :
    (d.adding kind place).text? i = d.text? i := by
  rw [text?_eq, kind?_adding_of_lt hi, ← text?_eq]

theorem children_adding (d : Draft) (kind : DraftKind) {place : Option Nat}
    (hplace : ∀ p, place = some p → p < d.nodes.size) (i : Nat) :
    (d.adding kind place).children i =
      if place = some i then d.children i ++ [d.nodes.size] else d.children i := by
  cases place with
  | none => exact children_add d kind i
  | some p =>
    rw [adding, children_insertNew _ _ (hplace p rfl)]
    by_cases hi : i = p
    · rw [if_pos hi, if_pos (congrArg some hi.symm), hi]
    · rw [if_neg hi, if_neg fun heq => hi (Option.some.inj heq).symm]

theorem children_adding_of_ne (kind : DraftKind) {place : Option Nat}
    (hplace : ∀ p, place = some p → p < d.nodes.size) (hi : place ≠ some i) :
    (d.adding kind place).children i = d.children i := by
  rw [children_adding _ _ hplace, if_neg hi]

theorem children_adding_size (kind : DraftKind) {place : Option Nat}
    (hplace : ∀ p, place = some p → p < d.nodes.size) :
    (d.adding kind place).children d.nodes.size = [] := by
  rw [children_adding_of_ne kind hplace fun hp => Nat.lt_irrefl _ (hplace _ hp),
    children_of_size_le (Nat.le_refl _)]

/-! ### Texts -/

theorem kind?_extendText_self {t : String} (h : d.kind? i = some (.text t)) (s : String) :
    (d.extendText i s).kind? i = some (.text (t ++ s)) := by
  obtain ⟨⟨kind, parent, children⟩, hnode, hkind⟩ := Option.map_eq_some_iff.mp h
  cases hkind
  rw [kind?, extendText, Array.getElem?_modify, if_pos rfl, hnode]
  rfl

theorem kind?_extendText_of_ne (d : Draft) {id : Nat} (h : i ≠ id) (s : String) :
    (d.extendText id s).kind? i = d.kind? i := by
  rw [kind?, extendText, Array.getElem?_modify, if_neg (Ne.symm h), kind?]

theorem text?_eq_some_iff {t : String} : d.text? i = some t ↔ d.kind? i = some (.text t) := by
  rw [text?_eq]
  split
  · next heq => rw [heq, Option.some_inj, Option.some_inj, DraftKind.text.injEq]
  · next hne =>
    constructor
    · intro h
      cases h
    · intro h
      exact absurd h (hne t)

theorem children_extendText (d : Draft) (id : Nat) (s : String) (i : Nat) :
    (d.extendText id s).children i = d.children i := by
  rw [children, extendText, Array.getElem?_modify]
  split_ifs
  · rw [Option.map_map, children]
    congr 2
    funext node
    cases node with | mk kind parent children => cases kind <;> rfl
  · rfl

theorem text?_extendText_eq_none_iff {id : Nat} {t : String} (h : d.kind? id = some (.text t))
    (s : String) (i : Nat) : (d.extendText id s).text? i = none ↔ d.text? i = none := by
  by_cases hi : i = id
  · subst hi
    rw [text?_eq, text?_eq, h, kind?_extendText_self h]
    simp
  · rw [text?_eq, kind?_extendText_of_ne d hi, ← text?_eq]

theorem appendText_eq_insertNew (h : ∀ c, (d.children p).getLast? = some c → d.text? c = none)
    (s : String) : d.appendText p s = d.insertNew (.text s) p := by
  cases hlast : (d.children p).getLast? with
  | none =>
    rw [appendText, hlast]
    rfl
  | some c =>
    simp only [appendText, hlast, h c hlast]
    rfl

theorem appendText_eq_extendText {c : Nat} {t : String}
    (hlast : (d.children p).getLast? = some c) (h : d.kind? c = some (.text t)) (s : String) :
    d.appendText p s = d.extendText c s := by
  simp only [appendText, hlast, text?_eq_some_iff.mpr h]
  rfl

/-- Text becomes a node of its own, or part of the text that comes last. -/
theorem appendText_cases (d : Draft) (p : Nat) (s : String) :
    (d.appendText p s = d.insertNew (.text s) p ∧
        ∀ c, (d.children p).getLast? = some c → d.text? c = none) ∨
      ∃ c t, (d.children p).getLast? = some c ∧ d.kind? c = some (.text t) ∧
        d.appendText p s = d.extendText c s := by
  by_cases hnone : ∀ c, (d.children p).getLast? = some c → d.text? c = none
  · exact Or.inl ⟨appendText_eq_insertNew hnone s, hnone⟩
  · push Not at hnone
    obtain ⟨c, hlast, htext⟩ := hnone
    obtain ⟨t, ht⟩ := Option.ne_none_iff_exists'.mp htext
    have hkind := text?_eq_some_iff.mp ht
    exact Or.inr ⟨c, t, hlast, hkind, appendText_eq_extendText hlast hkind s⟩

theorem ext_getElem? {d e : Draft} (h : ∀ i : Nat, d.nodes[i]? = e.nodes[i]?) : d = e := by
  cases d
  cases e
  exact congrArg Draft.mk (Array.ext_getElem? h)

theorem extendText_extendText (d : Draft) (c : Nat) (s t : String) :
    (d.extendText c s).extendText c t = d.extendText c (s ++ t) := by
  refine ext_getElem? fun i => ?_
  rw [extendText, extendText, extendText, Array.getElem?_modify, Array.getElem?_modify,
    Array.getElem?_modify]
  split_ifs
  · rw [Option.map_map]
    congr 1
    funext node
    cases node with | mk kind parent children =>
    cases kind <;> simp [String.append_assoc]
  · rfl

/-- A new text that grows at once. -/
theorem extendText_insertNew (hp : p < d.nodes.size) (s t : String) :
    (d.insertNew (.text s) p).extendText d.nodes.size t = d.insertNew (.text (s ++ t)) p := by
  refine ext_getElem? fun i => ?_
  rw [insertNew, append, detach_add_self, insertNew, append, detach_add_self, extendText]
  simp only [setParent, setChildren, Array.getElem?_modify, children_add, getElem?_add]
  by_cases hi : d.nodes.size = i
  · subst hi
    simp [Nat.ne_of_lt hp]
  · simp [hi, Ne.symm hi]

/-- Two texts that are appended one after the other are appended as one. -/
theorem appendText_appendText (hp : p < d.nodes.size) (s t : String) :
    (d.appendText p s).appendText p t = d.appendText p (s ++ t) := by
  rcases d.appendText_cases p s with ⟨heq, hnone⟩ | ⟨c, u, hlast, hkind, heq⟩
  · have hlast : ((d.insertNew (.text s) p).children p).getLast? = some d.nodes.size := by
      rw [children_insertNew _ _ hp, if_pos rfl, List.getLast?_append]
      rfl
    have hkind : (d.insertNew (.text s) p).kind? d.nodes.size = some (.text s) := by
      rw [kind?_insertNew, if_pos rfl]
    rw [heq, appendText_eq_extendText hlast hkind, extendText_insertNew hp,
      appendText_eq_insertNew hnone]
  · have hlast' : ((d.extendText c s).children p).getLast? = some c := by
      rw [children_extendText, hlast]
    rw [heq, appendText_eq_extendText hlast' (kind?_extendText_self hkind s),
      extendText_extendText, appendText_eq_extendText hlast hkind]

end Draft

end HtmlText
