import HtmlText.Proofs.RenderRecursion
import HtmlText.Proofs.TextLines
import Mathlib.Data.List.Infix

/-!
# Text carried upwards

What a node renders comes up again in what the nodes above it render, as long as their rules visit
their children. On the way a rule may change it: headings write it in upper case, and indentation
puts a tab behind each of its line feeds. Nothing else happens to it, since both changes are made
character by character. A link that shows its target only is no exception, because it does so only
if the target contains the text of the link.

A text may have children too, but it renders nothing of them, so what is below a text is lost even
where the rules of all elements visit their children.

## Main definitions

* `Rule.carry`: what a rule does to every part of the content it is given.
* `Node.rule?`: the rule of an element.
* `Tree.Shows`: a node is below another one, with rules that visit their children on the way.
* `Tree.Way`: a node is below another one, with any nodes on the way.

## Main results

* `infix_renderLink`: a link contains its text.
* `infix_shape`: the shape of an element contains every part of its content, as its rule carries
  it.
* `Tree.infix_renderAt_child`: the raw rendering of an element contains those of its children.
* `Tree.shows_iff`: there is no text on the way to what a node shows.
* `Tree.Shows.infix_renderAt`: a node contains what the nodes below it render.
* `Tree.not_forall_infix_renderAt`: it does not contain what is below a text.
-/

namespace HtmlText

/-- What a rule does to every part of the content it is given. -/
def Rule.carry (rule : Rule) (part : String) : String :=
  match rule with
  | .banner _ | .underlined _ | .uppercase => upper part
  | .indented => String.ofList (tabLines part.toList)
  | .block | .listItem | .line | .link | .lineBreak | .horizontalRule | .skip | .transparent => part

section Parts

variable {part content : String}

theorem infix_upper (h : part.toList <:+: content.toList) :
    (upper part).toList <:+: (upper content).toList := by
  rw [toList_upper, toList_upper]
  exact h.flatMap upperChar

theorem infix_indent (h : part.toList <:+: content.toList) :
    tabLines part.toList <:+: (indent content).toList := by
  rw [toList_indent]
  exact (h.flatMap _).trans (List.suffix_cons '\t' _).isInfix

/-- Carrying keeps parts of a text together. -/
theorem infix_carry (rule : Rule) (h : part.toList <:+: content.toList) :
    (rule.carry part).toList <:+: (rule.carry content).toList := by
  cases rule with
  | banner _ | underlined _ | uppercase => exact infix_upper h
  | indented =>
    rw [Rule.carry, Rule.carry, String.toList_ofList, String.toList_ofList]
    exact h.flatMap _
  | block | listItem | line | link | lineBreak | horizontalRule | skip | transparent => exact h

/-- A link contains its text, also where only the target is shown. -/
theorem infix_renderLink (text href : String) : text.toList <:+: (renderLink text href).toList := by
  simp only [renderLink]
  split_ifs with htext _ hoccurs
  · rw [htext]
    exact List.nil_infix
  · exact List.infix_rfl
  · rw [String.toList_append]
    exact (occursIn_iff_isInfix.mp hoccurs).trans (List.prefix_append _ _).isInfix
  · simp only [String.toList_append, List.append_assoc]
    exact (List.prefix_append _ _).isInfix

/-- The shape of an element contains every part of its content, as its rule carries it. -/
theorem infix_shape {rule : Rule} (hvisits : rule.visitsChildren = true) (options : Options)
    (href : String) (h : part.toList <:+: content.toList) :
    (rule.carry part).toList <:+: (rule.shape options content href).toList := by
  cases rule with
  | banner fill =>
    simp only [Rule.shape, String.toList_append, List.append_assoc]
    refine (infix_upper h).trans ?_
    rw [← List.append_assoc, ← List.append_assoc]
    exact List.infix_append' ..
  | underlined fill =>
    simp only [Rule.shape, String.toList_append, List.append_assoc]
    exact (infix_upper h).trans (List.infix_append' ..)
  | uppercase => exact infix_upper h
  | indented =>
    rw [Rule.carry, String.toList_ofList]
    exact infix_indent h
  | listItem =>
    rw [Rule.shape, String.toList_append]
    exact h.trans (List.suffix_append _ _).isInfix
  | link => exact h.trans (infix_renderLink content href)
  | block | line | transparent => exact h
  | lineBreak | horizontalRule | skip => exact absurd hvisits (by decide)

end Parts

/-- What a member of a list gives, and what the members behind it give, is at the end of what all of
them give. -/
theorem exists_suffix_join {α ε : Type} {g : α → Except ε String} {before after : List α} {x : α}
    {parts : List String}
    (h : List.Forall₂ (fun y part => g y = .ok part) (before ++ x :: after) parts) :
    ∃ part rest, g x = .ok part ∧ List.Forall₂ (fun y part => g y = .ok part) after rest ∧
      (part ++ String.join rest).toList <:+ (String.join parts).toList := by
  induction before generalizing parts with
  | nil =>
    obtain ⟨part, rest, hpart, hrest, rfl⟩ := List.forall₂_cons_left_iff.mp h
    exact ⟨part, rest, hpart, hrest, by rw [String.join_cons]⟩
  | cons y before ih =>
    obtain ⟨first, rest, -, hrest, rfl⟩ := List.forall₂_cons_left_iff.mp h
    obtain ⟨part, rest', hpart, hrest', hsuffix⟩ := ih hrest
    refine ⟨part, rest', hpart, hrest', hsuffix.trans ?_⟩
    rw [String.join_cons, String.toList_append]
    exact List.suffix_append _ _

/-- Every text that was put together is part of the result. -/
theorem exists_infix_join {α ε : Type} {g : α → Except ε String} {xs : List α}
    {parts : List String} (hparts : List.Forall₂ (fun x part => g x = .ok part) xs parts) {x : α}
    (hx : x ∈ xs) : ∃ part, g x = .ok part ∧ part.toList <:+: (String.join parts).toList := by
  obtain ⟨before, after, rfl⟩ := List.append_of_mem hx
  obtain ⟨part, rest, hpart, -, hsuffix⟩ := exists_suffix_join hparts
  rw [String.toList_append] at hsuffix
  exact ⟨part, hpart, (List.prefix_append _ _).isInfix.trans hsuffix.isInfix⟩

/-- The rule of an element. A text has none. -/
def Node.rule? (rules : Rules) (node : Node) : Option Rule := node.tag?.map rules.forTag

theorem Node.rule?_of_element {rules : Rules} {node : Node} {e : Element}
    (hkind : node.kind = .element e) : node.rule? rules = some (rules.forTag e.tag) := by
  rw [rule?, tag?, element?, hkind]
  rfl

namespace Tree

/-- The node `x` is below the node `y`, and the elements from `y` down to the parent of `x` have the
given rules, all of which visit their children. The children of a text are not visited, so there is
no text on the way. -/
inductive Shows (rules : Rules) (t : Tree) : Nat → Nat → List Rule → Prop
  | child {y x : Nat} {node : Node} {e : Element} (hnode : t.nodes[y]? = some node)
      (hkind : node.kind = .element e) (hvisits : (rules.forTag e.tag).visitsChildren = true)
      (hx : x ∈ node.children) : Shows rules t y x [rules.forTag e.tag]
  | deeper {y z x : Nat} {node : Node} {e : Element} {path : List Rule}
      (hnode : t.nodes[y]? = some node) (hkind : node.kind = .element e)
      (hvisits : (rules.forTag e.tag).visitsChildren = true) (hz : z ∈ node.children)
      (h : Shows rules t z x path) : Shows rules t y x (rules.forTag e.tag :: path)

/-- The node `x` is below the node `y`, and the nodes from `y` down to the parent of `x` are the
given ones, texts among them. -/
inductive Way (t : Tree) : Nat → Nat → List Node → Prop
  | child {y x : Nat} {node : Node} (hnode : t.nodes[y]? = some node) (hx : x ∈ node.children) :
      Way t y x [node]
  | deeper {y z x : Nat} {node : Node} {way : List Node} (hnode : t.nodes[y]? = some node)
      (hz : z ∈ node.children) (h : Way t z x way) : Way t y x (node :: way)

variable {t : Tree} {rules : Rules}

theorem Shows.exists_way {y x : Nat} {path : List Rule} (h : Shows rules t y x path) :
    ∃ way, t.Way y x way ∧ (∀ node ∈ way, node.isElement = true) ∧
      way.filterMap (Node.rule? rules) = path ∧ ∀ rule ∈ path, rule.visitsChildren = true := by
  induction h with
  | child hnode hkind hvisits hx =>
    refine ⟨_, .child hnode hx, List.forall_mem_singleton.mpr (Node.isElement_iff.mpr ⟨_, hkind⟩),
      ?_, List.forall_mem_singleton.mpr hvisits⟩
    rw [List.filterMap_cons_some (Node.rule?_of_element hkind), List.filterMap_nil]
  | deeper hnode hkind hvisits hz _ ih =>
    obtain ⟨way, hway, helements, hrules, hall⟩ := ih
    refine ⟨_, .deeper hnode hz hway,
      List.forall_mem_cons.mpr ⟨Node.isElement_iff.mpr ⟨_, hkind⟩, helements⟩, ?_,
      List.forall_mem_cons.mpr ⟨hvisits, hall⟩⟩
    rw [List.filterMap_cons_some (Node.rule?_of_element hkind), hrules]

theorem Way.shows {y x : Nat} {way : List Node} (h : t.Way y x way)
    (helements : ∀ node ∈ way, node.isElement = true)
    (hvisits : ∀ rule ∈ way.filterMap (Node.rule? rules), rule.visitsChildren = true) :
    Shows rules t y x (way.filterMap (Node.rule? rules)) := by
  induction h with
  | child hnode hx =>
    obtain ⟨e, hkind⟩ := Node.isElement_iff.mp (helements _ List.mem_cons_self)
    rw [List.filterMap_cons_some (Node.rule?_of_element hkind), List.filterMap_nil] at hvisits ⊢
    exact .child hnode hkind (hvisits _ List.mem_cons_self) hx
  | deeper hnode hz _ ih =>
    obtain ⟨helement, helements⟩ := List.forall_mem_cons.mp helements
    obtain ⟨e, hkind⟩ := Node.isElement_iff.mp helement
    rw [List.filterMap_cons_some (Node.rule?_of_element hkind)] at hvisits ⊢
    obtain ⟨hfirst, hvisits⟩ := List.forall_mem_cons.mp hvisits
    exact .deeper hnode hkind hfirst hz (ih helements hvisits)

/-- A node shows another one below it if and only if all nodes on the way are elements and their
rules visit their children. -/
theorem shows_iff {y x : Nat} {path : List Rule} :
    Shows rules t y x path ↔
      ∃ way, t.Way y x way ∧ (∀ node ∈ way, node.isElement = true) ∧
        way.filterMap (Node.rule? rules) = path ∧ ∀ rule ∈ path, rule.visitsChildren = true := by
  refine ⟨Shows.exists_way, ?_⟩
  rintro ⟨way, hway, helements, rfl, hvisits⟩
  exact hway.shows helements hvisits

/-- The raw rendering of an element contains those of its children, as its rule carries them. -/
theorem infix_renderAt_child (options : Options) (ht : t.Linked) {y x : Nat} {node : Node}
    {e : Element} (hnode : t.nodes[y]? = some node) (hkind : node.kind = .element e)
    (hvisits : (rules.forTag e.tag).visitsChildren = true) (hx : x ∈ node.children) :
    ∃ part whole, t.renderAt rules options x = .ok part ∧ t.renderAt rules options y = .ok whole ∧
      ((rules.forTag e.tag).carry part).toList <:+: whole.toList := by
  obtain ⟨last, hlast⟩ := exists_isLastInBlock ht hnode
  obtain ⟨parts, hparts, hrender⟩ := renderAt_element rules options ht hnode hkind hlast
  obtain ⟨part, hpart, hinfix⟩ := exists_infix_join hparts hx
  refine ⟨part, _, hpart, hrender, ?_⟩
  rw [if_pos hvisits, String.toList_append]
  exact (infix_shape hvisits options _ hinfix).trans (List.prefix_append _ _).isInfix

/-- **Nothing that is shown is swallowed.** The raw rendering of a node occurs, as the rules on the
way carry it, in the raw rendering of every node above it. -/
theorem Shows.infix_renderAt (ht : t.Grown) {y x : Nat} {path : List Rule}
    (h : Shows rules t y x path) (options : Options) :
    ∃ part whole, t.renderAt rules options x = .ok part ∧ t.renderAt rules options y = .ok whole ∧
      (path.foldr Rule.carry part).toList <:+: whole.toList := by
  induction h with
  | child hnode hkind hvisits hx =>
    exact infix_renderAt_child options ht.linked hnode hkind hvisits hx
  | deeper hnode hkind hvisits hz _ ih =>
    obtain ⟨part, middle, hpart, hmiddle, hinner⟩ := ih
    obtain ⟨middle', whole, hmiddle', hwhole, houter⟩ :=
      infix_renderAt_child options ht.linked hnode hkind hvisits hz
    obtain rfl : middle = middle' := Except.ok.inj (hmiddle.symm.trans hmiddle')
    exact ⟨part, whole, hpart, hwhole, (infix_carry _ hinner).trans houter⟩

/-! ### A mail address in a quoted heading -/

/-- A heading in a quotation, with a paragraph and a link whose target contains its text. -/
def quotedAddress : Tree :=
  ((((((ofRoot "body").grow 0 (.element (.normalized "blockquote" []))).grow 1
    (.element (.normalized "h4" []))).grow 2 (.element (.normalized "p" []))).grow 3
    (.text "An")).grow 2 (.element (.normalized "a" [("href", "mailto:straße@x.org")]))).grow 5
    (.text "straße@x")

theorem grown_quotedAddress : quotedAddress.Grown :=
  ((((((Grown.ofRoot "body").growElement (by decide) "blockquote" []).growElement (by decide) "h4"
    []).growElement (by decide) "p" []).growText (by decide) "An").growElement (by decide) "a"
    [("href", "mailto:straße@x.org")]).growText (by decide) "straße@x"

/-- The link shows its target only, and the quotation still contains the text of the link. -/
theorem infix_quotedAddress :
    quotedAddress.Grown ∧ Shows .builtin quotedAddress 1 6 [.indented, .uppercase, .link] ∧
      quotedAddress.renderAt .builtin {} 5 = .ok "straße@x.org " ∧
      ∃ whole, quotedAddress.renderAt .builtin {} 1 = .ok whole ∧
        "STRASSE@X".toList <:+: whole.toList := by
  have hquote : quotedAddress.nodes[1]? = some quotedAddress.nodes[1] := rfl
  have hheading : quotedAddress.nodes[2]? = some quotedAddress.nodes[2] := rfl
  have hlink : quotedAddress.nodes[5]? = some quotedAddress.nodes[5] := rfl
  have hshows : Shows .builtin quotedAddress 1 6 [.indented, .uppercase, .link] :=
    .deeper hquote rfl (by decide) (by decide)
      (.deeper hheading rfl (by decide) (by decide) (.child hlink rfl (by decide) (by decide)))
  refine ⟨grown_quotedAddress, hshows, rfl, ?_⟩
  obtain ⟨part, whole, hpart, hwhole, hinfix⟩ := hshows.infix_renderAt grown_quotedAddress {}
  obtain rfl : part = "straße@x" := Except.ok.inj (hpart.symm.trans rfl)
  have hcarried : [Rule.indented, .uppercase, .link].foldr Rule.carry "straße@x" = "STRASSE@X" := by
    decide +kernel
  exact ⟨whole, hwhole, hcarried ▸ hinfix⟩

/-! ### A text under a text -/

/-- A text with another text as its child. -/
def textUnderText : Tree := ((ofRoot "html").grow 0 (.text "a")).grow 1 (.text "b")

theorem grown_textUnderText : textUnderText.Grown :=
  ((Grown.ofRoot "html").growText (by decide) "a").growText (by decide) "b"

/-- The root is the only element above the inner text, and its rule visits its children, but the
outer text stands between them and renders nothing but itself. -/
theorem not_forall_infix_renderAt :
    ¬∀ (t : Tree) (rules : Rules) (options : Options) (y x : Nat) (way : List Node)
        (part whole : String), t.Grown → t.Way y x way →
      (∀ rule ∈ way.filterMap (Node.rule? rules), rule.visitsChildren = true) →
        t.renderAt rules options x = .ok part → t.renderAt rules options y = .ok whole →
          ((way.filterMap (Node.rule? rules)).foldr Rule.carry part).toList <:+: whole.toList := by
  intro h
  have hroot : textUnderText.nodes[0]? = some textUnderText.nodes[0] := rfl
  have houter : textUnderText.nodes[1]? = some textUnderText.nodes[1] := rfl
  have hrules : [textUnderText.nodes[0], textUnderText.nodes[1]].filterMap
      (Node.rule? .builtin) = [.transparent] := by decide +kernel
  have hinfix := h textUnderText .builtin {} 0 2 _ "b" "a" grown_textUnderText
    (.deeper hroot (by decide) (.child houter (by decide))) (by rw [hrules]; decide) rfl rfl
  rw [hrules] at hinfix
  exact absurd hinfix (by decide)

end Tree

end HtmlText
