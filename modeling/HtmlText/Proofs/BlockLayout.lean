import HtmlText.Proofs.Leaves

/-!
# The layout of blocks

With the rules that hold unless others are added, paragraphs, indented elements and lists, nested in
each other and with blank texts between them, are laid out leaf by leaf. The line feeds behind an
element are left out where it is the last of its parent, and the parent has line feeds of its own,
so that at every nesting depth exactly one line stands between two leaves.

Line feeds are followed through the raw rendering by the tidied lines of its parts: behind a part
that is not the last one, the line feeds of a paragraph come out as one empty line and those of a
list item as none.

## Main definitions

* `Content.isSpacing`: blank texts.
* `Content.IsItem`, `Content.IsBlock`: list items, and the contents that are laid out as blocks.

## Main results

* `tidyLines_renderAll`: the tidied lines of siblings that are laid out alike.
* `Content.IsBlock.tidyLines_render`: the tidied lines of a block are the layout of its leaves.
* `Tree.lines_toText_eq_layout`: the lines of a tree of blocks.
-/

namespace HtmlText

/-- A text between elements that only separates them. -/
def Content.isSpacing : Content → Bool
  | .text s => isMarkupBlankText s
  | .element .. => false

/-- An element that is rendered as a paragraph, indented or not. -/
def Element.IsParagraph (e : Element) : Prop :=
  Rules.builtin.forTag e.tag = .block ∨ Rules.builtin.forTag e.tag = .indented

namespace Content

/-- A list item that holds one text, which is not blank. -/
inductive IsItem : Content → Prop
  | item {e : Element} {s : String} (he : e.tag = "li") (hs : isMarkupBlankText s = false) :
      IsItem (.element e [.text s])

/-- A paragraph that holds one text, or one or more blocks, or a list of items. Between blocks and
between items there may be blank texts. -/
inductive IsBlock : Content → Prop
  | text {e : Element} {s : String} (he : e.IsParagraph) (hs : isMarkupBlankText s = false) :
      IsBlock (.element e [.text s])
  | container {e : Element} {children : List Content} (he : e.IsParagraph)
      (hne : ∃ c ∈ children, c.isSpacing = false)
      (h : ∀ c ∈ children, c.isSpacing = false → IsBlock c) : IsBlock (.element e children)
  | list {e : Element} {children : List Content} (he : e.tag = "ul" ∨ e.tag = "ol")
      (hne : ∃ c ∈ children, c.isSpacing = false)
      (h : ∀ c ∈ children, c.isSpacing = false → IsItem c) : IsBlock (.element e children)

end Content

/-! ### Paragraphs -/

/-- Rules for paragraphs belong to block-level tags, none of which is an item. -/
theorem isBlockTag_of_isParagraph {e : Element} (h : e.IsParagraph) :
    isBlockTag e.tag = true ∧ e.tag ≠ "li" := by
  have hentries : ∀ entry ∈ Rules.builtin.entries, entry.2 = .block ∨ entry.2 = .indented →
      isBlockTag entry.1 = true ∧ entry.1 ≠ "li" := by decide +kernel
  rcases Rules.builtin.forTag_eq_transparent_or_mem e.tag with hrule | hmem
  · simp [Element.IsParagraph, hrule] at h
  · exact hentries _ hmem h

theorem isParagraph_of_list {e : Element} (h : e.tag = "ul" ∨ e.tag = "ol") : e.IsParagraph := by
  rcases h with h | h
  · exact Or.inl (by rw [h]; decide +kernel)
  · exact Or.inl (by rw [h]; decide +kernel)

theorem Content.IsBlock.exists_isParagraph {content : Content} (h : content.IsBlock) :
    ∃ e children, content = .element e children ∧ e.IsParagraph := by
  cases h with
  | text he => exact ⟨_, _, rfl, he⟩
  | container he => exact ⟨_, _, rfl, he⟩
  | list he => exact ⟨_, _, rfl, isParagraph_of_list he⟩

variable (options : Options)

/-- The raw rendering of a paragraph from the one of its content. -/
theorem render_paragraph {e : Element} (he : e.IsParagraph) (children : List Content)
    (last : Bool) :
    (Content.element e children).render .builtin options last =
      (Rules.builtin.forTag e.tag).shape options (renderAll .builtin options true children)
        ((e.attribute? "href").getD "") ++ if last then "" else "\n\n" := by
  rw [Content.render, (isBlockTag_of_isParagraph he).1]
  rcases he with he | he <;> rw [he] <;> cases last <;> rfl

/-- A paragraph puts its margin in front of the tidied lines of its content. -/
theorem tidyLines_shape {e : Element} (he : e.IsParagraph) (content href : String) (place : Nat) :
    tidyLines options.tabWidth
        ((Rules.builtin.forTag e.tag).shape options content href).toList =
      (tidyLines options.tabWidth content.toList).map
        (TrailStep.margin options.tabWidth ⟨place, e⟩ ++ ·) := by
  rcases he with he | he
  · simp [Rule.shape, TrailStep.margin, TrailStep.indents, he]
  · rw [he, Rule.shape, tidyLines_indent]
    simp [TrailStep.margin, TrailStep.indents, he]

/-! ### Texts -/

/-- A text has one line, without its outer spaces. -/
theorem tidyLines_collapse (width : Nat) (s : String) :
    tidyLines width (collapse s).toList =
      [dropEndWhile (· = ' ') ((collapse s).toList.dropWhile (· = ' '))] := by
  rw [tidyLines_of_notMem (notMem_collapse (by decide) (by decide) s),
    tidyLine_of_notMem (notMem_collapse (by decide) (by decide) s)]

/-- A blank text leaves nothing but spaces. -/
theorem exists_collapse_eq_spaces {s : String} (h : isMarkupBlankText s = true) :
    ∃ n, (collapse s).toList = spaces n := by
  refine ⟨(collapse s).toList.length, List.eq_replicate_iff.mpr ⟨rfl, fun c hc => ?_⟩⟩
  rw [toList_collapse] at hc
  rcases mem_collapseFrom hc with hc | ⟨hmem, hc⟩
  · exact hc
  · exact absurd (List.all_eq_true.mp h c hmem) (by simp [hc])

/-! ### Siblings -/

/-- Line feeds between two parts end the line of the first one and give the empty lines between
them. -/
theorem tidyLines_append_lineFeeds (width n : Nat) (a b : List Char) :
    tidyLines width (a ++ List.replicate (n + 1) '\n' ++ b) =
      tidyLines width a ++ (List.replicate n [] ++ tidyLines width b) := by
  have hfeeds : tidyLines width (List.replicate n '\n' ++ b) =
      List.replicate n [] ++ tidyLines width b := by
    induction n with
    | zero => rfl
    | succ n ih =>
      rw [List.replicate_succ, List.replicate_succ, List.cons_append, List.cons_append, ← ih]
      exact tidyLines_append_lineFeed width [] (List.replicate n '\n' ++ b)
  rw [List.replicate_succ, List.append_assoc, List.cons_append, tidyLines_append_lineFeed, hfeeds]

namespace Content

/-- An element whose tidied lines are the layout of its leaves, with line feeds for `n` empty lines
behind it unless it is the last of a block. -/
structure Stacks (n : Nat) (content : Content) : Prop where
  isElement : content.isElement = true
  render_false : (content.render .builtin options false).toList =
    (content.render .builtin options true).toList ++ List.replicate (n + 1) '\n'
  tidyLines_render : ∀ place,
    tidyLines options.tabWidth (content.render .builtin options true).toList =
      layout options.tabWidth (content.leavesAt place)

variable {options} {n : Nat} {content : Content}

theorem Stacks.leavesAt_ne_nil (h : content.Stacks options n) (place : Nat) :
    content.leavesAt place ≠ [] := by
  intro hnil
  have hlines := h.tidyLines_render place
  rw [hnil] at hlines
  exact tidyLines_ne_nil _ _ hlines

theorem exists_render_eq_spaces (options : Options) (h : content.isSpacing = true)
    (last : Bool) (place : Nat) :
    (∃ k, (content.render .builtin options last).toList = spaces k) ∧
      content.leavesAt place = [] ∧ content.isElement = false := by
  cases content with
  | text s => exact ⟨by rw [render]; exact exists_collapse_eq_spaces h, if_pos h, rfl⟩
  | element e children => exact absurd h (by simp [isSpacing])

end Content

/-- Blank texts alone leave nothing but spaces. -/
theorem exists_renderAll_eq_spaces {contents : List Content}
    (h : ∀ c ∈ contents, c.isSpacing = true) (inBlock : Bool) (place : Nat) :
    (∃ k, (renderAll .builtin options inBlock contents).toList = spaces k) ∧
      leavesFrom place contents = [] ∧ contents.any Content.isElement = false := by
  induction contents generalizing place with
  | nil => exact ⟨⟨0, by rw [renderAll]; rfl⟩, by rw [leavesFrom], rfl⟩
  | cons content contents ih =>
    obtain ⟨⟨k, hk⟩, hleaves, hany⟩ :=
      ih (fun c hc => h c (List.mem_cons_of_mem content hc)) (place + 1)
    obtain ⟨⟨k', hk'⟩, hleaf, helement⟩ := content.exists_render_eq_spaces options
      (h content List.mem_cons_self) (inBlock && !contents.any Content.isElement) place
    refine ⟨⟨k' + k, ?_⟩, ?_, ?_⟩
    · rw [renderAll, String.toList_append, hk, hk', spaces_add]
    · rw [leavesFrom, hleaf, hleaves, List.nil_append]
    · rw [List.any_cons, helement, hany, Bool.false_or]

/-- The tidied lines of siblings that all have the same number of empty lines behind them. The
induction goes over the siblings: where another element follows, the line feeds behind an element
give the gap to its leaves; behind the last element they are left over, unless the parent is a
block. -/
theorem tidyLines_renderAll {n : Nat} {contents : List Content}
    (h : ∀ c ∈ contents, c.isSpacing = false → c.Stacks options n)
    (hgap : ∀ c ∈ contents, ∀ c' ∈ contents, ∀ i j, i ≠ j →
      ∀ a ∈ c.leavesAt i, ∀ b ∈ c'.leavesAt j, gap options.tabWidth a b = List.replicate n [])
    (hne : ∃ c ∈ contents, c.isSpacing = false) (inBlock : Bool) (place : Nat) :
    tidyLines options.tabWidth (renderAll .builtin options inBlock contents).toList =
      layout options.tabWidth (leavesFrom place contents) ++
        if inBlock then [] else List.replicate (n + 1) [] := by
  induction contents generalizing place with
  | nil => simp at hne
  | cons content siblings ih =>
    have hsiblings : ∀ c ∈ siblings, c.isSpacing = false → c.Stacks options n :=
      fun c hc => h c (List.mem_cons_of_mem content hc)
    have ih := ih hsiblings fun c hc c' hc' =>
      hgap c (List.mem_cons_of_mem content hc) c' (List.mem_cons_of_mem content hc')
    rw [renderAll, leavesFrom, String.toList_append]
    by_cases hsib : ∃ c ∈ siblings, c.isSpacing = false
    · -- Another element follows, so the line feeds behind this one make the gap to it.
      have hrest := ih hsib (place + 1)
      cases hspacing : content.isSpacing with
      | true =>
        obtain ⟨⟨k, hk⟩, hleaf, -⟩ := content.exists_render_eq_spaces options hspacing
          (inBlock && !siblings.any Content.isElement) place
        rw [hk, tidyLines_spaces_append, hrest, hleaf, List.nil_append]
      | false =>
        have hcontent := h content List.mem_cons_self hspacing
        have hany : siblings.any Content.isElement = true := by
          obtain ⟨c, hc, hc'⟩ := hsib
          exact List.any_eq_true.mpr ⟨c, hc, (hsiblings c hc hc').isElement⟩
        have hleaves : leavesFrom (place + 1) siblings ≠ [] := by
          obtain ⟨c, hc, hc'⟩ := hsib
          exact leavesFrom_ne_nil ⟨c, hc, (hsiblings c hc hc').leavesAt_ne_nil⟩ _
        have hbetween : ∀ a ∈ content.leavesAt place, ∀ b ∈ leavesFrom (place + 1) siblings,
            gap options.tabWidth a b = List.replicate n [] := by
          intro a ha b hb
          obtain ⟨c, hc, place', hle, hb⟩ := mem_leavesFrom hb
          exact hgap content List.mem_cons_self c (List.mem_cons_of_mem content hc) place place'
            (by omega) a ha b hb
        rw [hany, Bool.not_true, Bool.and_false, hcontent.render_false,
          tidyLines_append_lineFeeds, hcontent.tidyLines_render place, hrest,
          layout_append (hcontent.leavesAt_ne_nil place) hleaves hbetween]
        simp only [List.append_assoc]
    · -- Only spaces follow. Whether line feeds stand before them depends on the parent.
      have hall : ∀ c ∈ siblings, c.isSpacing = true := by simpa using hsib
      obtain ⟨⟨k, hk⟩, hnil, hany⟩ :=
        exists_renderAll_eq_spaces options hall inBlock (place + 1)
      have hspacing : content.isSpacing = false := by
        obtain ⟨c, hc, hc'⟩ := hne
        rcases List.mem_cons.mp hc with rfl | hc
        · exact hc'
        · exact absurd (hall c hc) (by simp [hc'])
      have hcontent := h content List.mem_cons_self hspacing
      rw [hany, Bool.not_false, Bool.and_true, hk, hnil, List.append_nil]
      cases inBlock with
      | true =>
        rw [tidyLines_append_spaces, hcontent.tidyLines_render place]
        simp
      | false =>
        have hspaces : tidyLines options.tabWidth (spaces k) = [[]] := by
          have happend := tidyLines_append_spaces options.tabWidth k []
          rwa [List.nil_append] at happend
        rw [hcontent.render_false, tidyLines_append_lineFeeds, hcontent.tidyLines_render place,
          hspaces, if_neg Bool.false_ne_true, List.replicate_succ']

/-! ### Items and blocks -/

theorem dropEndWhile_append {p : Char → Bool} {b : List Char} (h : dropEndWhile p b ≠ [])
    (a : List Char) : dropEndWhile p (a ++ b) = a ++ dropEndWhile p b := by
  have hdrop : b.reverse.dropWhile p ≠ [] := fun hnil => h (by rw [dropEndWhile, hnil]; rfl)
  rw [dropEndWhile, List.reverse_append, List.dropWhile_append,
    if_neg (by simpa using hdrop), List.reverse_append, List.reverse_reverse, dropEndWhile]

theorem dropEndWhile_collapse_ne_nil {s : String} (h : isMarkupBlankText s = false) :
    dropEndWhile (· = ' ') (collapse s).toList ≠ [] := by
  intro hnil
  apply visibleChars_collapse_ne_nil h
  rw [← visibleChars_dropEndWhile fun c => isLayoutChar_of_eq_space, hnil]
  rfl

variable {options} {content : Content}

/-- An item is its text behind a bullet, on a line of its own. -/
theorem Content.IsItem.stacks (h : content.IsItem) (hbullet : options.bullet = " * ") :
    content.Stacks options 0 := by
  obtain @⟨e, s, he, hs⟩ := h
  have hrule : Rules.builtin.forTag e.tag = .listItem := by rw [he]; decide +kernel
  have hrender (last : Bool) : ((element e [.text s]).render .builtin options last).toList =
      ' ' :: '*' :: ' ' :: (collapse s).toList ++ if last then [] else ['\n'] := by
    rw [render, hrule]
    cases last <;> simp [Rule.shape, Rule.visitsChildren, Rule.ending, Rule.trailer, renderAll,
      render, hbullet]
  refine ⟨rfl, ?_, fun place => ?_⟩
  · rw [hrender, hrender]
    simp
  · have htab : '\t' ∉ '*' :: ' ' :: (collapse s).toList := by
      simpa using notMem_collapse (by decide) (by decide) s
    have hfeed : '\n' ∉ ' ' :: '*' :: ' ' :: (collapse s).toList := by
      simpa using notMem_collapse (by decide) (by decide) s
    have hdepth : depth [⟨place, e⟩] = 0 := by
      simp [depth, TrailStep.indents, hrule]
    have hitem : (Leaf.mk [⟨place, e⟩] s).isItem = true := by simp [Leaf.isItem, he]
    have hend := dropEndWhile_append (dropEndWhile_collapse_ne_nil hs) ['*', ' ']
    rw [hrender, if_pos rfl, List.append_nil, tidyLines_of_notMem hfeed, tidyLine_space,
      tidyLine_of_notMem htab, leavesAt_of_text hs, layout_singleton, Leaf.line, hdepth,
      if_pos hitem]
    exact congrArg ([·]) hend

/-- A block has line feeds for one empty line behind it. -/
theorem Content.IsBlock.stacks (h : content.IsBlock)
    (hlines : ∀ place,
      tidyLines options.tabWidth (content.render .builtin options true).toList =
        layout options.tabWidth (content.leavesAt place)) : content.Stacks options 1 := by
  obtain ⟨e, children, rfl, he⟩ := h.exists_isParagraph
  refine ⟨rfl, ?_, hlines⟩
  rw [render_paragraph options he, render_paragraph options he]
  simp

theorem trail_ne_nil_of_mem_leavesFrom {contents : List Content}
    (h : ∀ c ∈ contents, c.isSpacing = false → c.isElement = true) {place : Nat} {leaf : Leaf}
    (hleaf : leaf ∈ leavesFrom place contents) : leaf.trail ≠ [] := by
  obtain ⟨c, hc, place', -, hleaf⟩ := mem_leavesFrom hleaf
  cases c with
  | text s =>
    have hspacing : isMarkupBlankText s = true := by
      by_contra hs
      exact absurd (h _ hc (by simpa [Content.isSpacing] using hs)) (by simp [Content.isElement])
    rw [Content.leavesAt, if_pos hspacing] at hleaf
    simp at hleaf
  | element e children =>
    rw [Content.leavesAt, List.mem_map] at hleaf
    obtain ⟨leaf', -, rfl⟩ := hleaf
    exact List.cons_ne_nil _ _

theorem isSpacing_of_mem_leavesAt {leaf : Leaf} {place : Nat}
    (h : leaf ∈ content.leavesAt place) : content.isSpacing = false := by
  cases content with
  | text s =>
    rw [Content.leavesAt] at h
    split_ifs at h with hs
    · simp at h
    · simpa [Content.isSpacing] using hs
  | element e children => rfl

theorem Content.IsBlock.exists_under (h : content.IsBlock) {leaf : Leaf} {place : Nat}
    (hleaf : leaf ∈ content.leavesAt place) :
    ∃ (e : Element) (leaf' : Leaf), e.IsParagraph ∧ leaf = leaf'.under ⟨place, e⟩ := by
  obtain ⟨e, children, rfl, he⟩ := h.exists_isParagraph
  rw [leavesAt, List.mem_map] at hleaf
  obtain ⟨leaf', -, rfl⟩ := hleaf
  exact ⟨e, leaf', he, rfl⟩

theorem Content.IsItem.exists_under (h : content.IsItem) {leaf : Leaf} {place : Nat}
    (hleaf : leaf ∈ content.leavesAt place) :
    ∃ (e : Element) (leaf' : Leaf),
      e.tag = "li" ∧ leaf'.trail = [] ∧ leaf = leaf'.under ⟨place, e⟩ := by
  obtain @⟨e, s, he, hs⟩ := h
  rw [leavesAt_of_text hs, List.mem_singleton] at hleaf
  exact ⟨e, ⟨[], s⟩, he, rfl, hleaf⟩

/-- Between leaves of different blocks there is one empty line. -/
theorem gap_blocks {contents : List Content}
    (h : ∀ c ∈ contents, c.isSpacing = false → c.IsBlock) (width : Nat) :
    ∀ c ∈ contents, ∀ c' ∈ contents, ∀ i j, i ≠ j →
      ∀ a ∈ c.leavesAt i, ∀ b ∈ c'.leavesAt j, gap width a b = List.replicate 1 [] := by
  intro c hc c' hc' i j hij a ha b hb
  obtain ⟨e, a', he, rfl⟩ := (h c hc (isSpacing_of_mem_leavesAt ha)).exists_under ha
  obtain ⟨e', b', -, rfl⟩ := (h c' hc' (isSpacing_of_mem_leavesAt hb)).exists_under hb
  exact gap_of_ne hij (isBlockTag_of_isParagraph he).2

/-- Between leaves of different items there is no line. -/
theorem gap_between_items {contents : List Content}
    (h : ∀ c ∈ contents, c.isSpacing = false → c.IsItem) (width : Nat) :
    ∀ c ∈ contents, ∀ c' ∈ contents, ∀ i j, i ≠ j →
      ∀ a ∈ c.leavesAt i, ∀ b ∈ c'.leavesAt j, gap width a b = List.replicate 0 [] := by
  intro c hc c' hc' i j _ a ha b hb
  obtain ⟨e, a', he, htrail, rfl⟩ := (h c hc (isSpacing_of_mem_leavesAt ha)).exists_under ha
  obtain ⟨e', b', he', htrail', rfl⟩ := (h c' hc' (isSpacing_of_mem_leavesAt hb)).exists_under hb
  exact gap_items width htrail htrail' he he'

/-- A paragraph around siblings whose tidied lines are known. -/
theorem tidyLines_paragraph {e : Element} (he : e.IsParagraph) {children : List Content}
    (helement : ∀ c ∈ children, c.isSpacing = false → c.isElement = true)
    (h : tidyLines options.tabWidth (renderAll .builtin options true children).toList =
      layout options.tabWidth (leavesFrom 0 children)) (place : Nat) :
    tidyLines options.tabWidth
        ((Content.element e children).render .builtin options true).toList =
      layout options.tabWidth ((Content.element e children).leavesAt place) := by
  rw [render_paragraph options he, if_pos rfl, String.append_empty,
    tidyLines_shape options he _ _ place, h, Content.leavesAt,
    layout_map_under _ fun leaf hleaf => trail_ne_nil_of_mem_leavesFrom helement hleaf]

/-- **The lines of a block.** The tidied lines of a block at the end of its parent are the layout of
its leaves. -/
theorem Content.IsBlock.tidyLines_render (h : content.IsBlock) (hbullet : options.bullet = " * ")
    (place : Nat) :
    tidyLines options.tabWidth (content.render .builtin options true).toList =
      layout options.tabWidth (content.leavesAt place) := by
  induction h generalizing place with
  | @text e s he hs =>
    have hrender : renderAll .builtin options true [.text s] = collapse s := by
      simp [renderAll, render]
    have hitem : (Leaf.mk [⟨place, e⟩] s).isItem = false := by
      simp [Leaf.isItem, (isBlockTag_of_isParagraph he).2]
    rw [render_paragraph options he, if_pos rfl, String.append_empty,
      tidyLines_shape options he _ _ place, hrender, tidyLines_collapse, leavesAt_of_text hs,
      layout_singleton, Leaf.line, spaces_depth_cons, hitem, if_neg Bool.false_ne_true]
    simp [depth, spaces]
  | @container e children he hne hblocks ih =>
    have hstacks : ∀ c ∈ children, c.isSpacing = false → c.Stacks options 1 :=
      fun c hc hc' => (hblocks c hc hc').stacks (ih c hc hc')
    refine tidyLines_paragraph he (fun c hc hc' => (hstacks c hc hc').isElement) ?_ place
    rw [tidyLines_renderAll options hstacks (gap_blocks hblocks _) hne true 0]
    simp
  | @list e children he hne hitems =>
    have hstacks : ∀ c ∈ children, c.isSpacing = false → c.Stacks options 0 :=
      fun c hc hc' => (hitems c hc hc').stacks hbullet
    refine tidyLines_paragraph (isParagraph_of_list he)
      (fun c hc hc' => (hstacks c hc hc').isElement) ?_ place
    rw [tidyLines_renderAll options hstacks (gap_between_items hitems _) hne true 0]
    simp

namespace Tree

/-- **Block layout.** The lines of a tree of blocks are the lines of its leaves, in order: none
between two items of the same list, and otherwise one that is indented as far as the elements around
both leaves indent. -/
theorem lines_toText_eq_layout {t : Tree} (ht : t.Grown) {e : Element} {children : List Content}
    (hroot : t.content 0 = .ok (.element e children))
    (hrule : Rules.builtin.forTag e.tag = .transparent) (htag : isBlockTag e.tag = false)
    (hne : ∃ c ∈ children, c.isSpacing = false)
    (hblocks : ∀ c ∈ children, c.isSpacing = false → c.IsBlock)
    (hbullet : options.bullet = " * ") :
    lines (t.toText .builtin options).toList =
      layout options.tabWidth (leavesFrom 0 children) := by
  obtain ⟨content, hcontent, hrender⟩ := exists_content_root .builtin options ht.linked
  obtain rfl := Except.ok.inj (hroot.symm.trans hcontent)
  have hstacks : ∀ c ∈ children, c.isSpacing = false → c.Stacks options 1 :=
    fun c hc hc' => (hblocks c hc hc').stacks ((hblocks c hc hc').tidyLines_render hbullet)
  have hraw : t.renderRoot .builtin options = renderAll .builtin options false children := by
    rw [hrender, Content.render, hrule, htag]
    simp [Rule.shape, Rule.visitsChildren, Rule.ending, Rule.trailer]
  have hlines := tidyLines_renderAll options hstacks (gap_blocks hblocks options.tabWidth) hne
    false 0
  rw [if_neg Bool.false_ne_true] at hlines
  have hleaves : leavesFrom 0 children ≠ [] := by
    obtain ⟨c, hc, hc'⟩ := hne
    exact leavesFrom_ne_nil ⟨c, hc, (hstacks c hc hc').leavesAt_ne_nil⟩ 0
  have hline : ∀ leaf ∈ leavesFrom 0 children, leaf.line options.tabWidth ≠ [] :=
    fun leaf hleaf => Leaf.line_ne_nil (isMarkupBlankText_of_mem_leavesFrom hleaf) _
  -- The layout has no empty line at its ends, so nothing is cut off but what is behind the last
  -- block.
  rw [toText, toList_tidy, hraw, hlines, lines_trimLineFeeds]
  · intro hnil
    have hhead := head?_layout options.tabWidth (leavesFrom 0 children)
    rw [hnil, List.head?_nil, eq_comm, Option.map_eq_none_iff, List.head?_eq_none_iff] at hhead
    exact hleaves hhead
  · rw [head?_layout]
    intro hhead
    obtain ⟨leaf, hleaf, hnil⟩ := Option.map_eq_some_iff.mp hhead
    exact hline leaf (List.mem_of_head? hleaf) hnil
  · rw [getLast?_layout]
    intro hlast
    obtain ⟨leaf, hleaf, hnil⟩ := Option.map_eq_some_iff.mp hlast
    exact hline leaf (List.mem_of_getLast? hleaf) hnil
  · intro line hmem
    have hmem := List.mem_append_left (List.replicate (1 + 1) []) hmem
    rw [← hlines] at hmem
    exact lineFeed_notMem_of_mem_tidyLines hmem

/-! ### A page with a quotation and a list -/

/-- A quotation of two paragraphs, the second one in a block of its own, and a list of two items. -/
def quotingPage : Tree :=
  ((((((((((((ofRoot "html").grow 0 (.element (.normalized "blockquote" []))).grow 1
    (.element (.normalized "p" []))).grow 2 (.text "a\n")).grow 1 (.text " ")).grow 1
    (.element (.normalized "div" []))).grow 5 (.element (.normalized "p" []))).grow 6
    (.text " b  c")).grow 0 (.element (.normalized "ul" []))).grow 8
    (.element (.normalized "li" []))).grow 9 (.text " x ")).grow 8
    (.element (.normalized "li" []))).grow 11 (.text "y")

theorem grown_quotingPage : quotingPage.Grown :=
  ((((((((((((Grown.ofRoot "html").growElement (by decide) "blockquote" []).growElement (by decide)
    "p" []).growText (by decide) "a\n").growText (by decide) " ").growElement (by decide) "div"
    []).growElement (by decide) "p" []).growText (by decide) " b  c").growElement (by decide) "ul"
    []).growElement (by decide) "li" []).growText (by decide) " x ").growElement (by decide) "li"
    []).growText (by decide) "y"

/-- The contents of the root of the page. -/
def quotingContents : List Content :=
  [.element ⟨"blockquote", []⟩
    [.element ⟨"p", []⟩ [.text "a\n"], .text " ",
      .element ⟨"div", []⟩ [.element ⟨"p", []⟩ [.text " b  c"]]],
    .element ⟨"ul", []⟩ [.element ⟨"li", []⟩ [.text " x "], .element ⟨"li", []⟩ [.text "y"]]]

theorem isBlock_quotingContents : ∀ c ∈ quotingContents, c.isSpacing = false → c.IsBlock := by
  have hp : Element.IsParagraph ⟨"p", []⟩ := Or.inl (by decide +kernel)
  have hdiv : Element.IsParagraph ⟨"div", []⟩ := Or.inl (by decide +kernel)
  have hquote : Element.IsParagraph ⟨"blockquote", []⟩ := Or.inr (by decide +kernel)
  have hinner : (Content.element ⟨"div", []⟩ [.element ⟨"p", []⟩ [.text " b  c"]]).IsBlock := by
    refine .container hdiv ⟨_, List.mem_cons_self, rfl⟩ fun c hc _ => ?_
    rw [List.mem_singleton.mp hc]
    exact .text hp (by decide)
  intro c hc _
  rcases List.mem_cons.mp hc with rfl | hc
  · refine .container hquote ⟨_, List.mem_cons_self, rfl⟩ fun c hc hspacing => ?_
    rcases List.mem_cons.mp hc with rfl | hc
    · exact .text hp (by decide)
    · rcases List.mem_cons.mp hc with rfl | hc
      · exact absurd hspacing (by decide)
      · exact List.mem_singleton.mp hc ▸ hinner
  · rw [List.mem_singleton.mp hc]
    refine .list (Or.inl rfl) ⟨_, List.mem_cons_self, rfl⟩ fun c hc _ => ?_
    rcases List.mem_cons.mp hc with rfl | hc
    · exact .item rfl (by decide)
    · exact List.mem_singleton.mp hc ▸ .item rfl (by decide)

/-- The line between the paragraphs is indented, the one in front of the list is empty. -/
theorem lines_quotingPage :
    quotingPage.Grown ∧
      quotingPage.content 0 = .ok (.element ⟨"html", []⟩ quotingContents) ∧
      (∃ c ∈ quotingContents, c.isSpacing = false) ∧
      (∀ c ∈ quotingContents, c.isSpacing = false → c.IsBlock) ∧
      lines (quotingPage.toText .builtin {}).toList =
        ["    a", "    ", "    b c", "", "*  x", "* y"].map String.toList := by
  have hroot : quotingPage.content 0 = .ok (.element ⟨"html", []⟩ quotingContents) := rfl
  have hne : ∃ c ∈ quotingContents, c.isSpacing = false := ⟨_, List.mem_cons_self, rfl⟩
  refine ⟨grown_quotingPage, hroot, hne, isBlock_quotingContents, ?_⟩
  have hbullet : ({} : Options).bullet = " * " := rfl
  have hlines := lines_toText_eq_layout grown_quotingPage hroot (by decide +kernel)
    (by decide +kernel) hne isBlock_quotingContents hbullet
  rw [hlines]
  decide +kernel

end Tree

end HtmlText
