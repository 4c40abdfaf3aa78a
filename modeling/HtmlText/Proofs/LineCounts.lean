import HtmlText.Proofs.Renumbering
import HtmlText.Proofs.TextLines
import HtmlText.Proofs.VisibleText

/-!
# Line feeds and tabs of a raw rendering

Texts come from outside, but they cannot add lines to a page. If the bullet, the characters that
lines are drawn with and the targets of links have no line feeds and no tabs, then the line feeds of
a raw rendering are those that the rules of its elements put there, and its tabs are those of
indentation, one for each line. Upper case neither makes nor removes a line feed or a
tab, a link drops its text only if the text has none, and blanks in a text become spaces.

## Main definitions

* `lineFeedCount`, `tabCount`: the numbers of line feeds and tabs of a text.
* `IsInline`, `Rule.MarksInline`, `Tree.MarksInline`: what is put around the content of elements
  has no line feeds and no tabs.
* `Rule.lineFeeds`, `Content.lineFeeds`, `Content.tabs`: what the structure says about the counts.

## Main results

* `lineFeedCount_shape`, `tabCount_shape`: the counts of one element.
* `Content.counts_render`: the counts of a content.
* `Content.Related.counts_eq`: the structure alone decides them.
* `marksInline_builtin`: with the built-in rules only the targets of links matter.
* `Tree.counts_renderAt`: the counts of all nodes of a tree, and of a tree with other texts.
-/

namespace HtmlText

/-- The number of line feeds of a text. -/
def lineFeedCount (s : String) : Nat := s.toList.count '\n'

/-- The number of tabs of a text. -/
def tabCount (s : String) : Nat := s.toList.count '\t'

/-- A text without line feeds and tabs. -/
def IsInline (s : String) : Prop := '\n' ∉ s.toList ∧ '\t' ∉ s.toList

instance : DecidablePred IsInline :=
  fun s => inferInstanceAs (Decidable ('\n' ∉ s.toList ∧ '\t' ∉ s.toList))

@[simp] theorem lineFeedCount_append (s s' : String) :
    lineFeedCount (s ++ s') = lineFeedCount s + lineFeedCount s' := by
  rw [lineFeedCount, String.toList_append, List.count_append, lineFeedCount, lineFeedCount]

@[simp] theorem tabCount_append (s s' : String) :
    tabCount (s ++ s') = tabCount s + tabCount s' := by
  rw [tabCount, String.toList_append, List.count_append, tabCount, tabCount]

theorem IsInline.lineFeedCount_eq {s : String} (h : IsInline s) : lineFeedCount s = 0 :=
  List.count_eq_zero.mpr h.1

theorem IsInline.tabCount_eq {s : String} (h : IsInline s) : tabCount s = 0 :=
  List.count_eq_zero.mpr h.2

/-! ### Operations on texts -/

theorem isInline_collapse (s : String) : IsInline (collapse s) :=
  ⟨notMem_collapse (by decide) (by decide) s, notMem_collapse (by decide) (by decide) s⟩

theorem isInline_repeated {c : Char} (h : c ≠ '\n' ∧ c ≠ '\t') (n : Nat) :
    IsInline (repeated c n) := by
  rw [IsInline, repeated, String.toList_ofList]
  exact ⟨fun hmem => h.1 (List.eq_of_mem_replicate hmem).symm,
    fun hmem => h.2 (List.eq_of_mem_replicate hmem).symm⟩

theorem count_upperChar {c : Char} (hc : isLayoutChar c = true) (d : Char) :
    (upperChar d).count c = [d].count c := by
  have hvisible := visibleChars_upperChar d
  split_ifs at hvisible with hd
  · rw [upperChar_of_isLayoutChar hd]
  · have hnot : c ∉ upperChar d := by
      intro hmem
      have hall := List.filter_eq_self.mp hvisible c hmem
      simp [hc] at hall
    have hne : d ≠ c := fun h => hd (h ▸ hc)
    rw [List.count_eq_zero.mpr hnot, List.count_singleton, if_neg (by simpa using hne)]

/-- Upper case neither makes nor removes layout. -/
theorem count_upper {c : Char} (hc : isLayoutChar c = true) (s : String) :
    (upper s).toList.count c = s.toList.count c := by
  rw [toList_upper]
  induction s.toList with
  | nil => rfl
  | cons d cs ih =>
    rw [List.flatMap_cons, List.count_append, ih, count_upperChar hc, ← List.count_append,
      List.singleton_append]

theorem lineFeedCount_indent (s : String) : lineFeedCount (indent s) = lineFeedCount s := by
  rw [lineFeedCount, toList_indent, List.count_cons_of_ne (by decide), lineFeedCount]
  induction s.toList with
  | nil => rfl
  | cons c cs ih =>
    rw [tabLines, List.flatMap_cons, ← tabLines, List.count_append, ih, List.count_cons]
    by_cases hc : c = '\n' <;> simp [hc, Nat.add_comm]

/-- Indentation puts a tab in front of every line. -/
theorem tabCount_indent (s : String) :
    tabCount (indent s) = tabCount s + (lineFeedCount s + 1) := by
  rw [tabCount, toList_indent, List.count_cons_self, ← Nat.add_assoc, tabCount, lineFeedCount]
  congr 1
  induction s.toList with
  | nil => rfl
  | cons c cs ih =>
    rw [tabLines, List.flatMap_cons, ← tabLines, List.count_append, ih, List.count_cons,
      List.count_cons]
    by_cases hc : c = '\n'
    · simp [hc]
      omega
    · simp [hc, List.count_singleton]
      omega

theorem notMem_dropMailScheme {c : Char} {href : String} (h : c ∉ href.toList) :
    c ∉ (dropMailScheme href).toList := by
  rw [dropMailScheme]
  split_ifs
  · rw [String.toList_ofList]
    exact fun hmem => h (List.mem_of_mem_drop hmem)
  · exact h

/-- A link has the line feeds and tabs of its text, whether it shows the text or not: a text that is
left out occurs in the target, which has none. -/
theorem count_renderLink {c : Char} {href : String} (hhref : c ∉ href.toList)
    (hspace : c ∉ " ()".toList) (text : String) :
    (renderLink text href).toList.count c = text.toList.count c := by
  have htarget := notMem_dropMailScheme hhref
  have hmarks : c ≠ ' ' ∧ c ≠ '(' ∧ c ≠ ')' := by simpa using hspace
  simp only [renderLink]
  split_ifs with htext _ hoccurs
  · rw [htext, List.count_eq_zero.mpr hhref]
    rfl
  · rfl
  · have hnot : c ∉ text.toList := fun hmem =>
      htarget ((occursIn_iff_isInfix.mp hoccurs).subset hmem)
    rw [String.toList_append, List.count_append, List.count_eq_zero.mpr htarget,
      List.count_eq_zero.mpr hnot]
    simp [Ne.symm hmarks.1]
  · simp [List.count_eq_zero.mpr htarget, Ne.symm hmarks.1, Ne.symm hmarks.2.1,
      Ne.symm hmarks.2.2]

/-! ### Elements -/

/-- The line feeds that the shape of a rule has besides those of its content. -/
def Rule.lineFeeds : Rule → Nat
  | .banner _ => 3
  | .underlined _ => 2
  | .lineBreak | .horizontalRule => 1
  | .uppercase | .block | .indented | .listItem | .line | .link | .skip | .transparent => 0

/-- What a rule puts around the content of an element with the given target has no line feeds and no
tabs of its own, those of `Rule.lineFeeds` apart. -/
structure Rule.MarksInline (rule : Rule) (href : String) : Prop where
  fill : ∀ {c : Char}, rule = .banner c ∨ rule = .underlined c → c ≠ '\n' ∧ c ≠ '\t'
  target : rule = .link → IsInline href

section Shape

variable {options : Options} {rule : Rule} {href : String}

theorem lineFeedCount_shape (hbullet : IsInline options.bullet) (hmarks : rule.MarksInline href)
    (content : String) :
    lineFeedCount (rule.shape options content href) =
      (if rule.visitsChildren then lineFeedCount content else 0) + rule.lineFeeds := by
  have hupper : lineFeedCount (upper content) = lineFeedCount content :=
    count_upper (by decide) content
  have hfeed : lineFeedCount "\n" = 1 := rfl
  cases rule with
  | banner fill =>
    have hline := isInline_repeated (hmarks.fill (Or.inl rfl)) options.ruleWidth
    simp [Rule.shape, Rule.visitsChildren, Rule.lineFeeds, hupper, hfeed, hline.lineFeedCount_eq]
    omega
  | underlined fill =>
    have hline := isInline_repeated (hmarks.fill (Or.inr rfl)) options.ruleWidth
    simp [Rule.shape, Rule.visitsChildren, Rule.lineFeeds, hupper, hfeed, hline.lineFeedCount_eq]
    omega
  | uppercase => exact hupper
  | indented => exact lineFeedCount_indent content
  | listItem =>
    simp [Rule.shape, Rule.visitsChildren, Rule.lineFeeds, hbullet.lineFeedCount_eq]
  | link => exact count_renderLink (hmarks.target rfl).1 (by decide) content
  | horizontalRule =>
    have hline := isInline_repeated (c := '-') (by decide) options.ruleWidth
    simp [Rule.shape, Rule.visitsChildren, Rule.lineFeeds, hfeed, hline.lineFeedCount_eq]
  | lineBreak => simp [Rule.shape, Rule.visitsChildren, Rule.lineFeeds, hfeed]
  | block | line | transparent | skip => rfl

theorem tabCount_shape (hbullet : IsInline options.bullet) (hmarks : rule.MarksInline href)
    (content : String) :
    tabCount (rule.shape options content href) =
      (if rule.visitsChildren then tabCount content else 0) +
        if rule = .indented then lineFeedCount content + 1 else 0 := by
  have hupper : tabCount (upper content) = tabCount content := count_upper (by decide) content
  have hfeed : tabCount "\n" = 0 := rfl
  cases rule with
  | banner fill =>
    have hline := isInline_repeated (hmarks.fill (Or.inl rfl)) options.ruleWidth
    simp [Rule.shape, Rule.visitsChildren, hupper, hfeed, hline.tabCount_eq]
  | underlined fill =>
    have hline := isInline_repeated (hmarks.fill (Or.inr rfl)) options.ruleWidth
    simp [Rule.shape, Rule.visitsChildren, hupper, hfeed, hline.tabCount_eq]
  | uppercase => exact hupper
  | indented => exact tabCount_indent content
  | listItem => simp [Rule.shape, Rule.visitsChildren, hbullet.tabCount_eq]
  | link => exact count_renderLink (hmarks.target rfl).2 (by decide) content
  | horizontalRule =>
    have hline := isInline_repeated (c := '-') (by decide) options.ruleWidth
    simp [Rule.shape, Rule.visitsChildren, hfeed, hline.tabCount_eq]
  | lineBreak => simp [Rule.shape, Rule.visitsChildren, hfeed]
  | block | line | transparent | skip => rfl

end Shape

/-- What follows an element consists of line feeds. -/
theorem counts_ending (rule : Rule) (last : Bool) :
    lineFeedCount (rule.ending last) = (if last then 0 else (rule.trailer.getD "").length) ∧
      tabCount (rule.ending last) = 0 := by
  have htrailer : ∀ s ∈ rule.trailer, lineFeedCount s = s.length ∧ tabCount s = 0 := by
    intro s hs
    cases rule <;> cases hs <;> exact ⟨rfl, rfl⟩
  rw [Rule.ending]
  cases h : rule.trailer with
  | none => cases last <;> exact ⟨rfl, rfl⟩
  | some s =>
    cases last with
    | true => exact ⟨rfl, rfl⟩
    | false => exact htrailer s h

/-! ### Contents -/

/-- All elements of a content have a property. -/
inductive Content.AllElements (P : Element → Prop) : Content → Prop
  | text (s : String) : AllElements P (.text s)
  | element {e : Element} {children : List Content} (he : P e)
      (hchildren : ∀ c ∈ children, AllElements P c) : AllElements P (.element e children)

mutual

/-- The line feeds of a content, as its structure says; `last` says that it is the last element of a
block. -/
def Content.lineFeeds (rules : Rules) (last : Bool) : Content → Nat
  | .text _ => 0
  | .element e children =>
    let rule := rules.forTag e.tag
    (if rule.visitsChildren then lineFeedsAll rules (isBlockTag e.tag) children else 0) +
      rule.lineFeeds + if last then 0 else (rule.trailer.getD "").length

/-- The line feeds of siblings; `inBlock` says that their parent is block-level. -/
def lineFeedsAll (rules : Rules) (inBlock : Bool) : List Content → Nat
  | [] => 0
  | content :: siblings =>
    content.lineFeeds rules (inBlock && !siblings.any Content.isElement) +
      lineFeedsAll rules inBlock siblings

end

mutual

/-- The tabs of a content, as its structure says: one for each line of an indented element. -/
def Content.tabs (rules : Rules) : Content → Nat
  | .text _ => 0
  | .element e children =>
    (if (rules.forTag e.tag).visitsChildren then tabsAll rules children else 0) +
      if rules.forTag e.tag = .indented then lineFeedsAll rules (isBlockTag e.tag) children + 1
      else 0

/-- The tabs of siblings. -/
def tabsAll (rules : Rules) : List Content → Nat
  | [] => 0
  | content :: siblings => content.tabs rules + tabsAll rules siblings

end

/-- What the rule of an element puts around its content stays on the line. -/
def Element.MarksInline (rules : Rules) (e : Element) : Prop :=
  (rules.forTag e.tag).MarksInline ((e.attribute? "href").getD "")

/-- The built-in rules draw lines with visible characters, so that only the targets of links
matter. -/
theorem marksInline_builtin {e : Element}
    (h : e.tag = "a" → IsInline ((e.attribute? "href").getD "")) : e.MarksInline .builtin := by
  have hentries : ∀ entry ∈ Rules.builtin.entries, (entry.2 = .link → entry.1 = "a") ∧
      entry.2 ∉ [.banner '\n', .banner '\t', .underlined '\n', .underlined '\t'] := by
    decide +kernel
  rw [Element.MarksInline]
  rcases Rules.builtin.forTag_eq_transparent_or_mem e.tag with hrule | hmem
  · rw [hrule]
    exact ⟨by simp, by simp⟩
  · obtain ⟨hlink, hfill⟩ := hentries _ hmem
    refine ⟨?_, fun hrule => h (hlink hrule)⟩
    rintro c (hc | hc) <;> rw [hc] at hfill <;> simpa using hfill

section Counts

variable {rules : Rules} {options : Options}

mutual

/-- The line feeds and tabs of a raw rendering are those of the structure. -/
theorem Content.counts_render (hbullet : IsInline options.bullet) (last : Bool) {content : Content}
    (h : content.AllElements (Element.MarksInline rules)) :
    lineFeedCount (content.render rules options last) = content.lineFeeds rules last ∧
      tabCount (content.render rules options last) = content.tabs rules := by
  cases h with
  | text s =>
    rw [Content.render]
    exact ⟨(isInline_collapse s).lineFeedCount_eq, (isInline_collapse s).tabCount_eq⟩
  | @element e children he hchildren =>
    obtain ⟨hfeeds, htabs⟩ := counts_renderAll hbullet (isBlockTag e.tag) hchildren
    obtain ⟨hendFeeds, hendTabs⟩ := counts_ending (rules.forTag e.tag) last
    rw [Content.render, Content.lineFeeds, Content.tabs]
    simp only [lineFeedCount_append, tabCount_append, lineFeedCount_shape hbullet he,
      tabCount_shape hbullet he, hendFeeds, hendTabs]
    by_cases hvisits : (rules.forTag e.tag).visitsChildren = true
    · simp [hvisits, hfeeds, htabs]
    · have hrule : rules.forTag e.tag ≠ .indented := fun h => hvisits (by rw [h]; rfl)
      simp [hvisits, hrule]

theorem counts_renderAll (hbullet : IsInline options.bullet) (inBlock : Bool)
    {contents : List Content}
    (h : ∀ c ∈ contents, c.AllElements (Element.MarksInline rules)) :
    lineFeedCount (renderAll rules options inBlock contents) =
        lineFeedsAll rules inBlock contents ∧
      tabCount (renderAll rules options inBlock contents) = tabsAll rules contents := by
  cases contents with
  | nil => exact ⟨rfl, rfl⟩
  | cons content siblings =>
    obtain ⟨hfeeds, htabs⟩ := Content.counts_render hbullet
      (inBlock && !siblings.any Content.isElement) (h content List.mem_cons_self)
    obtain ⟨hfeeds', htabs'⟩ := counts_renderAll hbullet inBlock
      fun c hc => h c (List.mem_cons_of_mem content hc)
    rw [renderAll, lineFeedCount_append, tabCount_append, lineFeedsAll, tabsAll, hfeeds, htabs,
      hfeeds', htabs']
    exact ⟨rfl, rfl⟩

end

/-- Two elements with the same tag. -/
def Element.SameTag (e e' : Element) : Prop := e'.tag = e.tag

mutual

/-- The structure says the same about two contents that differ in texts and attributes only. -/
theorem Content.Related.counts_eq (rules : Rules) (last : Bool) {content content' : Content}
    (h : content.Related Element.SameTag (fun _ _ => True) content') :
    content'.lineFeeds rules last = content.lineFeeds rules last ∧
      content'.tabs rules = content.tabs rules := by
  cases h with
  | text _ => exact ⟨rfl, rfl⟩
  | @element e e' children children' he hchildren =>
    obtain ⟨hfeeds, htabs⟩ := countsAll_eq_of_related rules (isBlockTag e.tag) hchildren
    have htag : e'.tag = e.tag := he
    rw [Content.lineFeeds, Content.lineFeeds, Content.tabs, Content.tabs, htag, hfeeds, htabs]
    exact ⟨rfl, rfl⟩

theorem countsAll_eq_of_related (rules : Rules) (inBlock : Bool) {contents contents' : List Content}
    (h : List.Forall₂ (Content.Related Element.SameTag fun _ _ => True) contents contents') :
    lineFeedsAll rules inBlock contents' = lineFeedsAll rules inBlock contents ∧
      tabsAll rules contents' = tabsAll rules contents := by
  cases h with
  | nil => exact ⟨rfl, rfl⟩
  | @cons content content' siblings siblings' hcontent hsiblings =>
    obtain ⟨hfeeds, htabs⟩ := hcontent.counts_eq rules
      (inBlock && !siblings.any Content.isElement)
    obtain ⟨hfeeds', htabs'⟩ := countsAll_eq_of_related rules inBlock hsiblings
    rw [lineFeedsAll, lineFeedsAll, tabsAll, tabsAll, any_isElement_of_related hsiblings, hfeeds,
      htabs, hfeeds', htabs']
    exact ⟨rfl, rfl⟩

end

end Counts

/-! ### Trees -/

namespace Tree

/-- What the rules of a tree put around the content of its elements stays on the line. -/
def MarksInline (rules : Rules) (t : Tree) : Prop :=
  ∀ (id : Nat) (node : Node) (e : Element), t.nodes[id]? = some node → node.kind = .element e →
    e.MarksInline rules

variable {t t' : Tree} {f : Nat → Nat} {rules : Rules} {options : Options}

theorem marksInline_ofRoot {tag : String} (h : (Element.normalized tag []).MarksInline rules) :
    (ofRoot tag).MarksInline rules := by
  intro id node e hnode hkind
  obtain rfl : id = 0 := by simpa using lt_size_of_getElem? hnode
  obtain rfl := Option.some.inj hnode
  obtain rfl := NodeKind.element.inj hkind
  exact h

theorem MarksInline.growElement {parent : Nat} {e : Element} (ht : t.MarksInline rules)
    (he : e.MarksInline rules) : (t.grow parent (.element e)).MarksInline rules := by
  intro id node e' hnode hkind
  rcases getElem?_grow_eq_some hnode with ⟨-, rfl⟩ | ⟨old, hold, -, hsame, -⟩
  · obtain rfl := NodeKind.element.inj hkind
    exact he
  · exact ht id old _ hold (hsame.symm.trans hkind)

theorem MarksInline.growText {parent : Nat} {s : String} (ht : t.MarksInline rules) :
    (t.grow parent (.text s)).MarksInline rules := by
  intro id node e hnode hkind
  rcases getElem?_grow_eq_some hnode with ⟨-, rfl⟩ | ⟨old, hold, -, hsame, -⟩
  · cases hkind
  · exact ht id old _ hold (hsame.symm.trans hkind)

/-- What all elements of a tree have in common, those of each content have in common. -/
theorem exists_content_allElements (ht : t.Linked) {P : Element → Prop}
    (h : ∀ (id : Nat) (node : Node) (e : Element), t.nodes[id]? = some node →
      node.kind = .element e → P e) {id : Nat} (hid : id < t.size) :
    ∃ content, t.content id = .ok content ∧ content.AllElements P := by
  refine ht.induction_children
    (P := fun id => ∃ content, t.content id = .ok content ∧ content.AllElements P)
    (fun {id node} hnode ih => ?_) hid
  cases hkind : node.kind with
  | text s => exact ⟨_, content_text ht hnode hkind, .text s⟩
  | element e =>
    obtain ⟨contents, hcontent, hcontents⟩ := content_element ht hnode hkind
    refine ⟨_, hcontent, .element (h id node e hnode hkind) fun content hmem => ?_⟩
    obtain ⟨c, hc, hok⟩ := exists_mem_of_forall₂_ok hcontents hmem
    obtain ⟨content', hok', hall⟩ := ih c hc
    exact Except.ok.inj (hok'.symm.trans hok) ▸ hall

/-- The line feeds and tabs of the raw rendering of a node. -/
theorem exists_counts_renderAt (ht : t.Linked) (hbullet : IsInline options.bullet)
    (hmarks : t.MarksInline rules) {id : Nat} (hid : id < t.size) :
    ∃ content last s, t.content id = .ok content ∧ t.isLastInBlock id = .ok last ∧
      t.renderAt rules options id = .ok s ∧ lineFeedCount s = content.lineFeeds rules last ∧
      tabCount s = content.tabs rules := by
  obtain ⟨content, hcontent, hall⟩ := exists_content_allElements ht hmarks hid
  obtain ⟨last, hlast⟩ := exists_isLastInBlock ht (Array.getElem?_eq_getElem hid)
  exact ⟨content, last, _, hcontent, hlast, renderAt_eq rules options hcontent hlast,
    Content.counts_render hbullet last hall⟩

/-- **Texts cannot forge lines.** If nothing that is put around the content of elements has line
feeds or tabs, then the line feeds and tabs of the raw rendering of a node are those of the
structure. A tree that differs in its texts and in the attributes of its elements only, the targets
of its links included, has as many of them at every node. -/
theorem counts_renderAt (ht : t.Grown) (hbullet : IsInline options.bullet)
    (hmarks : t.MarksInline rules) :
    (∀ id < t.size, ∃ content last s, t.content id = .ok content ∧
        t.isLastInBlock id = .ok last ∧ t.renderAt rules options id = .ok s ∧
        lineFeedCount s = content.lineFeeds rules last ∧ tabCount s = content.tabs rules) ∧
      ∀ {t' : Tree} {f : Nat → Nat}, t'.Grown → t'.MarksInline rules →
        Renumbers Element.SameTag (fun _ _ => True) t t' f →
        ∀ id < t.size, ∃ s s', t.renderAt rules options id = .ok s ∧
          t'.renderAt rules options (f id) = .ok s' ∧ lineFeedCount s' = lineFeedCount s ∧
          tabCount s' = tabCount s := by
  refine ⟨fun id hid => exists_counts_renderAt ht.linked hbullet hmarks hid, ?_⟩
  intro t' f ht' hmarks' hf id hid
  obtain ⟨content, last, s, hcontent, hlast, hs, hfeeds, htabs⟩ :=
    exists_counts_renderAt ht.linked hbullet hmarks hid
  obtain ⟨content', last', s', hcontent', hlast', hs', hfeeds', htabs'⟩ :=
    exists_counts_renderAt ht'.linked hbullet hmarks' (hf.bijOn.mapsTo hid)
  obtain ⟨_, _, hok, hok', hrelated⟩ := hf.exists_content_related ht.linked ht'.linked hid
  obtain rfl := Except.ok.inj (hcontent.symm.trans hok)
  obtain rfl := Except.ok.inj (hcontent'.symm.trans hok')
  obtain ⟨_, hok, hok'⟩ := hf.exists_isLastInBlock_eq ht.linked ht'.linked
    (fun {e e'} (h : e'.tag = e.tag) => by rw [h]) hid
  obtain rfl := Except.ok.inj (hlast.symm.trans hok)
  obtain rfl := Except.ok.inj (hlast'.symm.trans hok')
  obtain ⟨hsameFeeds, hsameTabs⟩ := hrelated.counts_eq rules _
  exact ⟨s, s', hs, hs', by rw [hfeeds', hsameFeeds, hfeeds], by rw [htabs', hsameTabs, htabs]⟩

/-! ### A quotation with other texts and another target -/

/-- A quotation of a heading, a separator and a text. The heading is a link with the given target
and text. -/
def quotation (target label remark : String) : Tree :=
  ((((((ofRoot "html").grow 0 (.element (.normalized "blockquote" []))).grow 1
    (.element (.normalized "h1" []))).grow 2 (.element (.normalized "a" [("href", target)]))).grow 3
    (.text label)).grow 1 (.element (.normalized "hr" []))).grow 1 (.text remark)

/-- The target contains the text of the link. -/
def plainQuotation : Tree := quotation "u:abc" "abc" "x"

/-- The texts are full of line feeds and tabs. -/
def forgedQuotation : Tree := quotation "v" "a\n\n\tb" "\n\t\n"

theorem grown_quotation (target label remark : String) : (quotation target label remark).Grown := by
  refine .growText (.growElement (.growText (.growElement (.growElement (.growElement
    (.ofRoot "html") ?_ _ _) ?_ _ _) ?_ _ _) ?_ _) ?_ _ _) ?_ _
  all_goals simp

theorem renumbers_forgedQuotation :
    Renumbers Element.SameTag (fun _ _ => True) plainQuotation forgedQuotation id where
  bijOn := by
    have hsize : forgedQuotation.size = plainQuotation.size := by
      simp [forgedQuotation, plainQuotation, quotation]
    rw [hsize]
    exact Set.bijOn_id _
  root := rfl
  parent := by
    intro id node node' hnode hnode'
    have hid : id < 7 := lt_size_of_getElem? hnode
    interval_cases id <;> obtain rfl := Option.some.inj hnode <;>
      obtain rfl := Option.some.inj hnode' <;> rfl
  order := fun _ _ _ h => h
  kind := by
    intro id node node' hnode hnode'
    have hid : id < 7 := lt_size_of_getElem? hnode
    interval_cases id <;> obtain rfl := Option.some.inj hnode <;>
      obtain rfl := Option.some.inj hnode' <;>
      first
      | exact .text trivial
      | exact .element rfl

theorem marksInline_quotation {target : String} (htarget : IsInline target)
    (label remark : String) : (quotation target label remark).MarksInline .builtin := by
  have hplain (tag : String) (h : lower tag ≠ "a") :
      (Element.normalized tag []).MarksInline .builtin := marksInline_builtin fun h' => absurd h' h
  have hlink : (Element.normalized "a" [("href", target)]).MarksInline .builtin :=
    marksInline_builtin fun _ => htarget
  exact ((((((marksInline_ofRoot (hplain "html" (by decide +kernel))).growElement
    (hplain "blockquote" (by decide +kernel))).growElement
    (hplain "h1" (by decide +kernel))).growElement hlink).growText).growElement
    (hplain "hr" (by decide +kernel))).growText

/-- Neither the line feeds of the texts nor a link that shows its text after all change the lines of
the quotation. -/
theorem counts_forgedQuotation :
    plainQuotation.Grown ∧ forgedQuotation.Grown ∧ IsInline ({} : Options).bullet ∧
      plainQuotation.MarksInline .builtin ∧ forgedQuotation.MarksInline .builtin ∧
      Renumbers Element.SameTag (fun _ _ => True) plainQuotation forgedQuotation id ∧
      ∃ s s', plainQuotation.renderAt .builtin {} 1 = .ok s ∧
        forgedQuotation.renderAt .builtin {} 1 = .ok s' ∧ lineFeedCount s = 8 ∧ tabCount s = 7 ∧
        lineFeedCount s' = 8 ∧ tabCount s' = 7 := by
  have ht : plainQuotation.Grown := grown_quotation ..
  have ht' : forgedQuotation.Grown := grown_quotation ..
  have hbullet : IsInline ({} : Options).bullet := by decide
  have hmarks : plainQuotation.MarksInline .builtin := marksInline_quotation (by decide) _ _
  have hmarks' : forgedQuotation.MarksInline .builtin := marksInline_quotation (by decide) _ _
  obtain ⟨hcounts, hsame⟩ := counts_renderAt ht hbullet hmarks
  obtain ⟨content, last, s, hcontent, hlast, hs, hfeeds, htabs⟩ := hcounts 1 (by decide)
  obtain ⟨_, s', hok, hs', hfeeds', htabs'⟩ :=
    hsame ht' hmarks' renumbers_forgedQuotation 1 (by decide)
  obtain rfl := Except.ok.inj (hs.symm.trans hok)
  obtain rfl := Except.ok.inj (hcontent.symm.trans rfl)
  obtain rfl := Except.ok.inj (hlast.symm.trans rfl)
  have hfeeds : lineFeedCount s = 8 := hfeeds.trans (by decide +kernel)
  have htabs : tabCount s = 7 := htabs.trans (by decide +kernel)
  exact ⟨ht, ht', hbullet, hmarks, hmarks', renumbers_forgedQuotation, s, s', hs, hs', hfeeds,
    htabs, hfeeds'.trans hfeeds, htabs'.trans htabs⟩

end Tree

end HtmlText
