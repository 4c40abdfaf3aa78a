import HtmlText.Proofs.BlockLayout
import HtmlText.Proofs.CarriedText

/-!
# Trailers

The line feeds behind an element are left out where the element is the last one of a block-level
parent. Only elements count for that. So behind an element without its line feeds there may still be
texts, and what they show follows right behind it, on the same line. In all other places the line
feeds are there: whatever follows the element in its parent is on a later line, since a line feed
stays one wherever the rules above carry it.

## Main definitions

* `Tree.StandsIn`: the place of a node in its parent.
* `Tree.Renders`: the renderings of siblings, one behind the other.

## Main results

* `Rule.carry_append`, `Rule.lineFeed_mem_carry`: texts that are put together are carried upwards.
* `Tree.StandsIn.isLastInBlock_eq`: where the line feeds are left out.
* `Tree.StandsIn.exists_infix`: what an element shows, and what follows it, in its parent.
* `Tree.separated_or_texts`: an element with line feeds.
-/

namespace HtmlText

/-! ### What a rule does to line feeds -/

namespace Rule

theorem carry_append (rule : Rule) (a b : String) :
    rule.carry (a ++ b) = rule.carry a ++ rule.carry b := by
  cases rule with
  | banner _ | underlined _ | uppercase => exact upper_append a b
  | indented =>
    apply String.toList_inj.mp
    simp [carry, tabLines]
  | block | listItem | line | link | lineBreak | horizontalRule | skip | transparent => rfl

theorem carry_empty (rule : Rule) : rule.carry "" = "" := by
  cases rule <;> rfl

/-- A line feed is carried upwards as a line feed. -/
theorem lineFeed_mem_carry (rule : Rule) {s : String} (h : '\n' ∈ s.toList) :
    '\n' ∈ (rule.carry s).toList := by
  cases rule with
  | banner _ | underlined _ | uppercase =>
    rw [carry, toList_upper, List.mem_flatMap]
    exact ⟨'\n', h, by rw [upperChar_of_isLayoutChar rfl]; exact List.mem_singleton_self _⟩
  | indented =>
    rw [carry, String.toList_ofList, tabLines, List.mem_flatMap]
    exact ⟨'\n', h, by simp⟩
  | block | listItem | line | link | lineBreak | horizontalRule | skip | transparent => exact h

theorem lineFeed_mem_trailer {rule : Rule} {trailer : String} (h : rule.trailer = some trailer) :
    '\n' ∈ trailer.toList := by
  cases rule <;> cases h <;> decide

end Rule

/-! ### Texts that show nothing -/

/-- A text shows nothing but spaces if and only if it has nothing but blanks. -/
theorem exists_collapse_eq_spaces_iff {s : String} :
    (∃ n, (collapse s).toList = spaces n) ↔ isMarkupBlankText s = true := by
  refine ⟨fun ⟨n, hn⟩ => List.all_eq_true.mpr fun c hc => ?_, exists_collapse_eq_spaces⟩
  by_contra hblank
  have hmem := mem_collapseFrom_of_mem hc (Bool.eq_false_iff.mpr hblank) false
  rw [← toList_collapse, hn] at hmem
  rw [List.eq_of_mem_replicate hmem] at hblank
  exact hblank rfl

/-! ### Places -/

namespace Tree

/-- The node `x` is a child of the element `above` with number `p`, and the children `after` stand
behind it. -/
def StandsIn (t : Tree) (p : Nat) (above : Element) (x : Nat) (after : List Nat) : Prop :=
  ∃ parent before, t.nodes[p]? = some parent ∧ parent.kind = .element above ∧
    parent.children = before ++ x :: after

/-- The raw renderings of nodes, one behind the other, are the text `s`. -/
def Renders (t : Tree) (rules : Rules) (options : Options) (ids : List Nat) (s : String) : Prop :=
  ∃ parts, List.Forall₂ (fun id part => t.renderAt rules options id = .ok part) ids parts ∧
    String.join parts = s

variable {t : Tree} {p x : Nat} {above : Element} {after : List Nat}

/-- A node is the last of a block if its parent is block-level and only texts are behind it. -/
theorem StandsIn.isLastInBlock_eq (h : t.StandsIn p above x after) (ht : t.Linked) :
    t.isLastInBlock x = .ok (isBlockTag above.tag && !after.any t.isElement) := by
  obtain ⟨parent, before, hparent, hkind, hchildren⟩ := h
  rw [isLastInBlock_child ht hparent hchildren, Node.tag?, Node.element?, hkind]
  rfl

/-- What a node renders, and what the nodes behind it render, is carried into its parent. -/
theorem StandsIn.exists_infix (h : t.StandsIn p above x after) (ht : t.Linked) (rules : Rules)
    (options : Options) (hvisits : (rules.forTag above.tag).visitsChildren = true) :
    ∃ part back whole, t.renderAt rules options x = .ok part ∧
      t.Renders rules options after back ∧ t.renderAt rules options p = .ok whole ∧
      ((rules.forTag above.tag).carry (part ++ back)).toList <:+: whole.toList := by
  obtain ⟨parent, before, hparent, hkind, hchildren⟩ := h
  obtain ⟨last, hlast⟩ := exists_isLastInBlock ht hparent
  obtain ⟨parts, hparts, hrender⟩ := renderAt_element rules options ht hparent hkind hlast
  rw [hchildren] at hparts
  obtain ⟨part, rest, hpart, hrest, hsuffix⟩ := exists_suffix_join hparts
  refine ⟨part, String.join rest, _, hpart, ⟨rest, hrest, rfl⟩, hrender, ?_⟩
  rw [if_pos hvisits, String.toList_append]
  exact (infix_shape hvisits options _ hsuffix.isInfix).trans (List.prefix_append _ _).isInfix

/-- An element is rendered as its body with the line feeds of its rule, unless it is the last of a
block. -/
theorem exists_renderAt_eq_append (ht : t.Linked) (rules : Rules) (options : Options) {node : Node}
    {e : Element} {trailer : String} {last : Bool} (hx : t.nodes[x]? = some node)
    (hkind : node.kind = .element e) (htrailer : (rules.forTag e.tag).trailer = some trailer)
    (hlast : t.isLastInBlock x = .ok last) :
    ∃ body, t.renderAt rules options x = .ok (body ++ if last then "" else trailer) := by
  obtain ⟨parts, -, hrender⟩ := renderAt_element rules options ht hx hkind hlast
  rw [Rule.ending, htrailer, Option.getD_some] at hrender
  exact ⟨_, hrender⟩

/-- A node that is no element is a text, which is rendered with its blanks collapsed. -/
theorem exists_renderAt_text (ht : t.Linked) (rules : Rules) (options : Options) {node : Node}
    (hx : t.nodes[x]? = some node) (helement : t.isElement x = false) :
    ∃ s, t.content x = .ok (.text s) ∧ t.renderAt rules options x = .ok (collapse s) := by
  rw [isElement_eq hx, Node.isElement, Node.element?] at helement
  cases hkind : node.kind with
  | text s => exact ⟨s, content_text ht hx hkind, renderAt_text rules options ht hx hkind⟩
  | element e =>
    rw [hkind] at helement
    cases helement

/-- The last node of a block is a child of a block-level element, and no element is behind it. -/
theorem exists_standsIn_of_isLastInBlock (ht : t.Linked) {node : Node}
    (hx : t.nodes[x]? = some node) (h : t.isLastInBlock x = .ok true) :
    ∃ p above after, t.StandsIn p above x after ∧ isBlockTag above.tag = true ∧
      ∀ y ∈ after, t.isElement y = false := by
  rcases eq_zero_or_exists_parent ht hx with rfl | ⟨p, parent, before, after, hparent, hchildren⟩
  · rw [isLastInBlock_root ht] at h
    cases h
  · rw [isLastInBlock_child ht hparent hchildren, Except.ok.injEq, Bool.and_eq_true,
      Bool.not_eq_true', List.any_eq_false] at h
    obtain ⟨hblock, htexts⟩ := h
    rw [Node.tag?, Node.element?] at hblock
    cases hkind : parent.kind with
    | text s =>
      rw [hkind] at hblock
      cases hblock
    | element above =>
      rw [hkind] at hblock
      exact ⟨p, above, after, ⟨parent, before, hparent, hkind, hchildren⟩, hblock,
        fun y hy => Bool.eq_false_iff.mpr (htexts y hy)⟩

/-- **Trailers.** The line feeds behind an element are left out only if its parent is block-level
and nothing but texts stands behind it, and such a text shows nothing but spaces if and only if it
has nothing but blanks. These texts follow right behind the element then. Everywhere else a line
feed stands, in the raw rendering of the parent, between what the element shows and whatever follows
it there. -/
theorem separated_or_texts (ht : t.Grown) (rules : Rules) (options : Options) {node : Node}
    {e : Element} {trailer : String} (hx : t.nodes[x]? = some node)
    (hkind : node.kind = .element e) (htrailer : (rules.forTag e.tag).trailer = some trailer) :
    (t.isLastInBlock x = .ok true →
      ∃ p above after, t.StandsIn p above x after ∧ isBlockTag above.tag = true ∧
        ∀ y ∈ after, ∃ s, t.content y = .ok (.text s) ∧
          t.renderAt rules options y = .ok (collapse s) ∧
          ((∃ n, (collapse s).toList = spaces n) ↔ isMarkupBlankText s = true)) ∧
    ∀ p above after, t.StandsIn p above x after →
      (rules.forTag above.tag).visitsChildren = true →
        ∃ body gap back whole, t.Renders rules options after back ∧
          t.renderAt rules options p = .ok whole ∧
          ((rules.forTag above.tag).carry body ++ gap ++
            (rules.forTag above.tag).carry back).toList <:+: whole.toList ∧
          (isBlockTag above.tag = true ∧ (∀ y ∈ after, t.isElement y = false) ∧
              t.isLastInBlock x = .ok true ∧ t.renderAt rules options x = .ok body ∧ gap = "" ∨
            (isBlockTag above.tag = false ∨ ∃ y ∈ after, t.isElement y = true) ∧
              t.isLastInBlock x = .ok false ∧
              t.renderAt rules options x = .ok (body ++ trailer) ∧ '\n' ∈ gap.toList) := by
  have hlinked := ht.linked
  refine ⟨fun hlast => ?_, fun p above after hstands hvisits => ?_⟩
  · obtain ⟨p, above, after, hstands, hblock, htexts⟩ :=
      exists_standsIn_of_isLastInBlock hlinked hx hlast
    refine ⟨p, above, after, hstands, hblock, fun y hy => ?_⟩
    obtain ⟨parent, before, hparent, -, hchildren⟩ := hstands
    have hmem : y ∈ parent.children := by simp [hchildren, hy]
    obtain ⟨-, child, hchild, -⟩ := hlinked.child hparent hmem
    obtain ⟨s, hcontent, hrender⟩ :=
      exists_renderAt_text hlinked rules options hchild (htexts y hy)
    exact ⟨s, hcontent, hrender, exists_collapse_eq_spaces_iff⟩
  · have hlast := hstands.isLastInBlock_eq hlinked
    obtain ⟨body, hbody⟩ := exists_renderAt_eq_append hlinked rules options hx hkind htrailer hlast
    obtain ⟨part, back, whole, hpart, hback, hwhole, hinfix⟩ :=
      hstands.exists_infix hlinked rules options hvisits
    obtain rfl := Except.ok.inj (hpart.symm.trans hbody)
    rw [Rule.carry_append, Rule.carry_append] at hinfix
    refine ⟨body, _, back, whole, hback, hwhole, hinfix, ?_⟩
    cases hwhere : isBlockTag above.tag && !after.any t.isElement with
    | true =>
      rw [hwhere, if_pos rfl, String.append_empty] at hbody
      rw [hwhere] at hlast
      rw [Bool.and_eq_true, Bool.not_eq_true', List.any_eq_false] at hwhere
      exact Or.inl ⟨hwhere.1, fun y hy => Bool.eq_false_iff.mpr (hwhere.2 y hy), hlast, hbody,
        Rule.carry_empty _⟩
    | false =>
      rw [hwhere, if_neg Bool.false_ne_true] at hbody
      rw [hwhere] at hlast
      rw [Bool.and_eq_false_iff, Bool.not_eq_false', List.any_eq_true] at hwhere
      exact Or.inr ⟨hwhere, hlast, hbody,
        Rule.lineFeed_mem_carry _ (Rule.lineFeed_mem_trailer htrailer)⟩

/-! ### A block with texts between and behind its paragraphs -/

/-- A block with two paragraphs, and a text behind each of them. -/
def mixedBlock : Tree :=
  (((((((ofRoot "html").grow 0 (.element (.normalized "div" []))).grow 1
    (.element (.normalized "p" []))).grow 2 (.text "a")).grow 1 (.text "b")).grow 1
    (.element (.normalized "p" []))).grow 5 (.text "c")).grow 1 (.text "d")

theorem grown_mixedBlock : mixedBlock.Grown :=
  (((((((Grown.ofRoot "html").growElement (by decide) "div" []).growElement (by decide) "p"
    []).growText (by decide) "a").growText (by decide) "b").growElement (by decide) "p"
    []).growText (by decide) "c").growText (by decide) "d"

/-- The first paragraph is separated from what follows it, and the text behind the second one is
not. -/
theorem separated_or_texts_mixedBlock :
    mixedBlock.Grown ∧ mixedBlock.renderAt .builtin {} 1 = .ok "a\n\nbcd\n\n" ∧
      mixedBlock.isLastInBlock 5 = .ok true ∧
      (∃ p above after, mixedBlock.StandsIn p above 5 after ∧ isBlockTag above.tag = true ∧
        ∀ y ∈ after, ∃ s, mixedBlock.content y = .ok (.text s) ∧
          mixedBlock.renderAt .builtin {} y = .ok (collapse s) ∧
          ((∃ n, (collapse s).toList = spaces n) ↔ isMarkupBlankText s = true)) ∧
      ∃ body gap back whole, mixedBlock.Renders .builtin {} [4, 5, 7] back ∧
        mixedBlock.renderAt .builtin {} 1 = .ok whole ∧
        (body ++ gap ++ back).toList <:+: whole.toList ∧
        mixedBlock.renderAt .builtin {} 2 = .ok (body ++ "\n\n") ∧ '\n' ∈ gap.toList := by
  have htrailer : (Rules.builtin.forTag "p").trailer = some "\n\n" := by decide +kernel
  have hrule : Rules.builtin.forTag "div" = .block := by decide +kernel
  have hstands : mixedBlock.StandsIn 1 ⟨"div", []⟩ 2 [4, 5, 7] := ⟨_, [], rfl, rfl, rfl⟩
  have hlast : mixedBlock.isLastInBlock 5 = .ok true := by decide +kernel
  have hfirst : mixedBlock.nodes[2]? = some mixedBlock.nodes[2] := rfl
  have hsecond : mixedBlock.nodes[5]? = some mixedBlock.nodes[5] := rfl
  obtain ⟨body, gap, back, whole, hback, hwhole, hinfix, hcases⟩ :=
    (separated_or_texts grown_mixedBlock .builtin {} hfirst rfl htrailer).2 1 _ _ hstands
      (by rw [hrule]; rfl)
  rw [hrule] at hinfix
  refine ⟨grown_mixedBlock, by decide +kernel, hlast,
    (separated_or_texts grown_mixedBlock .builtin {} hsecond rfl htrailer).1 hlast, body, gap, back,
    whole, hback, hwhole, hinfix, ?_⟩
  rcases hcases with ⟨-, htexts, -⟩ | ⟨-, -, hrender, hgap⟩
  · exact absurd (htexts 5 (by decide)) (by decide +kernel)
  · exact ⟨hrender, hgap⟩

/-- The second paragraph is rendered and is the last of its block, and still the text behind it
shows. -/
theorem not_forall_followingSiblings_spaces :
    ¬∀ (t : Tree) x e after y s, t.Grown → (x = 0 ∨ ∃ path, Shows .builtin t 0 x path) →
      (∃ children, t.content x = .ok (.element e children)) →
        (Rules.builtin.forTag e.tag).trailer.isSome = true → t.isLastInBlock x = .ok true →
          t.followingSiblings x = .ok after → y ∈ after → t.renderAt .builtin {} y = .ok s →
            ∃ n, s.toList = spaces n := by
  intro h
  have hroot : mixedBlock.nodes[0]? = some mixedBlock.nodes[0] := rfl
  have hblock : mixedBlock.nodes[1]? = some mixedBlock.nodes[1] := rfl
  have hshows : ∃ path, Shows .builtin mixedBlock 0 5 path :=
    ⟨_, .deeper hroot rfl (by decide +kernel) (by decide)
      (.child hblock rfl (by decide +kernel) (by decide))⟩
  have hsiblings : mixedBlock.followingSiblings 5 = .ok [7] := by decide +kernel
  obtain ⟨n, hn⟩ := h mixedBlock 5 ⟨"p", []⟩ [7] 7 "d" grown_mixedBlock (Or.inr hshows) ⟨_, rfl⟩
    (by decide +kernel) (by decide +kernel) hsiblings (by decide) (by decide +kernel)
  have hmem : 'd' ∈ spaces n := by
    rw [← hn]
    decide
  exact absurd (List.eq_of_mem_replicate hmem) (by decide)

end Tree

end HtmlText
