import HtmlText.Proofs.Alike.Mirror
import HtmlText.Proofs.CopiedTree
import HtmlText.Proofs.TextLines
import HtmlText.Render

/-!
# Drafts that mirror each other have the same text

Nodes that correspond to each other contain the same. So the pages of two drafts that mirror each
other differ in what is inside the head and in spaces in front of everything else, neither of which
is shown.

## Main definitions

* `Draft.content?`: what a node of a draft shows.

## Main results

* `Mirrors.content?_eq`: corresponding nodes contain the same.
* `Mirrors.toText_eq`: the pages have the same text.
-/

namespace HtmlText

/-! ### Contents of a draft -/

namespace Draft

/-- What a node of a draft shows, to a given depth. -/
def content? (d : Draft) (depth id : Nat) : Option Content :=
  (d.toDomWithin depth id).bind Dom.content?

theorem contentsOf_filterMap (d : Draft) (depth : Nat) (ids : List Nat) :
    contentsOf (ids.filterMap (d.toDomWithin depth)) = ids.filterMap (d.content? depth) := by
  induction ids with
  | nil => rfl
  | cons id ids ih =>
    cases hdom : d.toDomWithin depth id with
    | none =>
      have hcontent : d.content? depth id = none := by rw [content?, hdom]; rfl
      rw [List.filterMap_cons_none hdom, List.filterMap_cons_none hcontent, ih]
    | some dom =>
      rw [List.filterMap_cons_some hdom, contentsOf, ih]
      cases hcontent : dom.content? with
      | none =>
        rw [List.filterMap_cons_none (by rw [content?, hdom]; exact hcontent)]
        rfl
      | some content =>
        rw [List.filterMap_cons_some (by rw [content?, hdom]; exact hcontent)]
        rfl

theorem toDomWithin_succ (d : Draft) (depth id : Nat) :
    d.toDomWithin (depth + 1) id =
      match d.kind? id with
      | some (.text s) => some (.text s)
      | some (.comment s) => some (.comment s)
      | some (.doctype doctype) => some (.doctype doctype)
      | some (.element name attributes _) =>
        some (.element name.tag attributes ((d.children id).filterMap (d.toDomWithin depth)))
      | _ => none := by
  rw [toDomWithin, kind?, children]
  rcases d.nodes[id]? with _ | ⟨kind, parent, children⟩
  · rfl
  · cases kind <;> rfl

theorem content?_succ (d : Draft) (depth id : Nat) :
    d.content? (depth + 1) id =
      match d.kind? id with
      | some (.text s) => some (.text s)
      | some (.element name attributes _) =>
        some (.element (.normalized name.tag attributes)
          ((d.children id).filterMap (d.content? depth)))
      | _ => none := by
  rw [content?, toDomWithin_succ]
  rcases d.kind? id with _ | _ | _ | _ | _ | ⟨name, attributes, contents⟩
  all_goals first | rfl | skip
  rw [Option.bind_some, Dom.content?, contentsOf_filterMap]

/-- The content of the page of a draft with a root element. -/
theorem Leads.contents_ofDom {d : Draft} {r : Nat} (h : d.Leads r) (default : Dom) :
    (Tree.ofDom ((d.rootElement?.bind d.toDom).getD default)).contents[0]? =
      some (.element ⟨"html", []⟩
        ((d.children r).filterMap (d.content? (d.nodes.size - 1)))) := by
  obtain ⟨attributes, helement⟩ := h.element
  obtain ⟨depth, hdepth⟩ := Nat.exists_eq_add_of_lt (lt_of_kind? helement)
  have hsize : d.nodes.size = d.nodes.size - 1 + 1 := by omega
  rw [h.rootElement?_eq, Option.bind_some, toDom, hsize, toDomWithin_succ, helement]
  simp only [Option.getD_some, Nat.add_sub_cancel]
  rw [Tree.contents_ofDom, contentsOf_filterMap]
  rfl

end Draft

/-! ### What does not show -/

/-- A text of spaces. -/
def IsSpaces (s : String) : Prop := ∃ n, s.toList = spaces n

theorem IsSpaces.append {s t : String} (hs : IsSpaces s) (ht : IsSpaces t) :
    IsSpaces (s ++ t) := by
  obtain ⟨m, hm⟩ := hs
  obtain ⟨n, hn⟩ := ht
  exact ⟨m + n, by rw [String.toList_append, hm, hn, spaces_add]⟩

theorem isSpaces_empty : IsSpaces "" := ⟨0, rfl⟩

/-- Blanks in front of a text are at most one space more. -/
theorem exists_collapse_append {w : String} (h : isBlankRun w.toList = true) (s : String) :
    ∃ t, IsSpaces t ∧ collapse (w ++ s) = t ++ collapse s := by
  suffices hlist : ∃ n, collapseFrom false (w.toList ++ s.toList) =
      spaces n ++ collapseFrom false s.toList by
    obtain ⟨n, hn⟩ := hlist
    refine ⟨String.ofList (spaces n), ⟨n, String.toList_ofList⟩, String.toList_inj.mp ?_⟩
    rw [toList_collapse, String.toList_append, hn, String.toList_append, String.toList_ofList,
      toList_collapse]
  generalize w.toList = w at h
  cases w with
  | nil => exact ⟨0, rfl⟩
  | cons c w =>
    rw [isBlankRun, List.all_cons, Bool.and_eq_true] at h
    rw [List.cons_append, collapseFrom, if_pos h.1, if_neg Bool.false_ne_true,
      collapseFrom_true_append h.2]
    cases s.toList with
    | nil => exact ⟨1, rfl⟩
    | cons c' cs =>
      -- The blanks come together with a blank at the beginning of the text.
      by_cases hc' : isMarkupBlank c' = true
      · refine ⟨0, ?_⟩
        rw [collapseFrom, collapseFrom, if_pos hc', if_pos hc', if_pos rfl,
          if_neg Bool.false_ne_true]
        rfl
      · refine ⟨1, ?_⟩
        rw [collapseFrom, collapseFrom, if_neg hc', if_neg hc']
        rfl

theorem isSpaces_collapse {w : String} (h : isBlankRun w.toList = true) :
    IsSpaces (collapse w) := by
  obtain ⟨t, ht, heq⟩ := exists_collapse_append h ""
  rw [String.append_empty] at heq
  rw [heq]
  exact ht.append isSpaces_empty

variable (options : Options)

/-- What is inside the head, or stands in it elsewhere, is not shown. -/
theorem render_hidden (tag : String) (htag : tag ∈ hiddenTags)
    (attributes : List (String × String)) (children : List Content) :
    (Content.element (.normalized tag attributes) children).render .builtin options false = "" := by
  have hskip : ∀ tag ∈ hiddenTags, Rules.builtin.forTag (lower tag) = .skip := by decide
  have hrule : Rules.builtin.forTag (Element.normalized tag attributes).tag = .skip :=
    hskip tag htag
  rw [Content.render, hrule]
  rfl

/-- The root element adds nothing to its content. -/
theorem render_root (children : List Content) :
    (Content.element ⟨"html", []⟩ children).render .builtin options false =
      renderAll .builtin options false children := by
  have hrule : Rules.builtin.forTag "html" = .transparent := by decide
  have hblock : isBlockTag "html" = false := by decide
  rw [Content.render, hrule, hblock]
  exact String.append_empty

/-- What a content is shown as, if there is one. -/
def shown (content : Option Content) : String :=
  (content.map (·.render .builtin options false)).getD ""

/-- The children of a node that is not block-level, one behind the other. -/
theorem renderAll_filterMap {ι : Type} (content : ι → Option Content) (ids : List ι) :
    renderAll .builtin options false (ids.filterMap content) =
      String.join (ids.map fun id => shown options (content id)) := by
  induction ids with
  | nil => rfl
  | cons id ids ih =>
    rw [List.map_cons, String.join_cons, ← ih]
    cases hcontent : content id with
    | none =>
      rw [List.filterMap_cons_none hcontent]
      exact (String.empty_append).symm
    | some c =>
      rw [List.filterMap_cons_some hcontent, renderAll]
      rfl

namespace Draft

/-- The raw rendering of a draft with a root element is that of the children of the root. -/
theorem Leads.renderRoot_ofDom {d : Draft} {r : Nat} (h : d.Leads r) (default : Dom) :
    (Tree.ofDom ((d.rootElement?.bind d.toDom).getD default)).renderRoot .builtin options =
      renderAll .builtin options false
        ((d.children r).filterMap (d.content? (d.nodes.size - 1))) := by
  have hcontents := h.contents_ofDom default
  rw [Tree.renderRoot]
  cases hlist : (Tree.ofDom ((d.rootElement?.bind d.toDom).getD default)).contents with
  | nil =>
    rw [hlist] at hcontents
    cases hcontents
  | cons content contents =>
    rw [hlist] at hcontents
    cases hcontents
    exact render_root options _

/-- A light node is shown as spaces at most. -/
theorem Light.isSpaces {d : Draft} {i : Nat} (h : d.Light i) (depth : Nat) :
    IsSpaces (shown options (d.content? depth i)) := by
  obtain ⟨-, kind, hkind, hlight⟩ := h
  cases depth with
  | zero => exact isSpaces_empty
  | succ depth =>
    rw [content?_succ, hkind]
    cases kind with
    | document | doctype | comment => exact isSpaces_empty
    | text s => exact isSpaces_collapse hlight
    | element name attributes contents =>
      cases hlight
      have hmeta := render_hidden options "meta" (by decide) attributes
        ((d.children i).filterMap (d.content? depth))
      exact ⟨0, congrArg String.toList hmeta⟩

theorem shown_head {d : Draft} {i : Nat} {attributes : List (String × String)}
    (h : d.kind? i = some (.element (.html "head") attributes none)) (depth : Nat) :
    shown options (d.content? depth i) = "" := by
  cases depth with
  | zero => rfl
  | succ depth =>
    rw [content?_succ, h]
    exact render_hidden options "head" (by decide) _ _

theorem shown_text {d : Draft} {i : Nat} {s : String} (h : d.kind? i = some (.text s))
    {depth : Nat} (hdepth : 0 < depth) : shown options (d.content? depth i) = collapse s := by
  obtain ⟨depth, rfl⟩ := Nat.exists_eq_succ_of_ne_zero (Nat.ne_of_gt hdepth)
  rw [content?_succ, h]
  rfl

theorem isSpaces_join {d : Draft} {ids : List Nat} (h : ∀ i ∈ ids, d.Light i) (depth : Nat) :
    IsSpaces (String.join (ids.map fun i => shown options (d.content? depth i))) := by
  induction ids with
  | nil => exact isSpaces_empty
  | cons i ids ih =>
    rw [List.map_cons, String.join_cons]
    exact ((h i List.mem_cons_self).isSpaces options depth).append
      (ih fun j hj => h j (List.mem_cons_of_mem i hj))

end Draft

namespace Mirrors

variable {r : Nat} {H : List Nat} {f : Equiv.Perm Nat} {V : Nat → Prop} {d d' : Draft}

/-- Corresponding nodes contain the same. The induction is on the depth, which is enough for a node
if it reaches to the last number, since children have larger numbers than their parents. -/
theorem content?_eq (h : Mirrors r H f V d d')
    (hlt : ∀ i, V i → i < d.nodes.size ∧ f i < d'.nodes.size) (depth depth' : Nat) {i : Nat}
    (hi : V i) (hir : i ≠ r) (hiH : i ∉ H)
    (hsame : d'.kind? (f i) = (d.kind? i).map (·.rename f))
    (hdepth : d.nodes.size ≤ i + depth) (hdepth' : d'.nodes.size ≤ f i + depth') :
    d'.content? depth' (f i) = d.content? depth i := by
  induction depth generalizing i depth' with
  | zero => exact absurd (hlt i hi).1 (Nat.not_lt_of_le hdepth)
  | succ depth ih =>
    obtain ⟨depth', rfl⟩ : ∃ n, depth' = n + 1 :=
      Nat.exists_eq_succ_of_ne_zero fun hzero =>
        absurd (hlt i hi).2 (Nat.not_lt_of_le (by rwa [hzero] at hdepth'))
    rw [Draft.content?_succ, Draft.content?_succ, hsame]
    cases hkind : d.kind? i with
    | none => rfl
    | some kind =>
      cases kind with
      | document | text | comment | doctype => rfl
      | element name attributes contents =>
        obtain ⟨heq, hinner⟩ := h.children i hi hir hiH
        have hchildren : (d'.children (f i)).filterMap (d'.content? depth') =
            (d.children i).filterMap (d.content? depth) := by
          rw [heq, List.filterMap_map]
          refine List.filterMap_congr fun c hc => ?_
          obtain ⟨hV, ⟨hic, hic'⟩, hcr, hcH, hchild⟩ := hinner c hc
          -- Only a child of the root may be longer text in one of the drafts.
          refine ih depth' hV hcr hcH ((h.kind c hV).resolve_right fun hlonger => ?_)
            (by omega) (by omega)
          exact hchild (List.mem_of_head? hlonger.1)
        simp only [Option.map_some, DraftKind.rename, hchildren]

/-- What shows in the root is shown alike, but for spaces in front of what comes first. -/
theorem exists_shown_eq (h : Mirrors r H f V d d')
    (hlt : ∀ i, V i → i < d.nodes.size ∧ f i < d'.nodes.size) {c : Nat} (hc : V c)
    (hcr : r < c ∧ f r < f c) :
    ∃ t, IsSpaces t ∧ shown options (d.content? (d.nodes.size - 1) c) =
      t ++ shown options (d'.content? (d'.nodes.size - 1) (f c)) ∧
      ((d.children r).head? ≠ some c → t = "") := by
  obtain ⟨hlt₁, hlt₂⟩ := hlt c hc
  by_cases hcH : c ∈ H
  · obtain ⟨attributes, hhead⟩ := (h.hidden c hcH).2 (by omega)
    rcases h.kind c hc with hsame | ⟨-, w, s, -, htext, -⟩
    · rw [hhead] at hsame
      rw [Draft.shown_head options hhead, Draft.shown_head options hsame]
      exact ⟨"", isSpaces_empty, rfl, fun _ => rfl⟩
    · rw [hhead] at htext
      cases htext
  · rcases h.kind c hc with hsame | ⟨hfirst, w, s, hblank, htext, htext'⟩
    · rw [h.content?_eq hlt (d.nodes.size - 1) (d'.nodes.size - 1) hc (by omega) hcH hsame
        (by omega) (by omega)]
      exact ⟨"", isSpaces_empty, (String.empty_append).symm, fun _ => rfl⟩
    · rw [Draft.shown_text options htext (by omega), Draft.shown_text options htext' (by omega)]
      obtain ⟨t, ht, heq⟩ := exists_collapse_append hblank s
      exact ⟨t, ht, heq, fun hne => absurd hfirst hne⟩

/-- The pages of drafts that mirror each other begin with spaces and go on alike. -/
theorem exists_render_eq (h : Mirrors r H f V d d')
    (hlt : ∀ i, V i → i < d.nodes.size ∧ f i < d'.nodes.size) :
    ∃ t t' rest, IsSpaces t ∧ IsSpaces t' ∧
      renderAll .builtin options false ((d.children r).filterMap (d.content? (d.nodes.size - 1))) =
        t ++ rest ∧
      renderAll .builtin options false
        ((d'.children (f r)).filterMap (d'.content? (d'.nodes.size - 1))) = t' ++ rest := by
  obtain ⟨ghosts, ghosts', visible, hroot⟩ := h.rootChildren
  have hghosts := Draft.isSpaces_join options (fun i hi => (hroot.mem_ghosts i hi).2.1)
    (d.nodes.size - 1)
  have hghosts' := Draft.isSpaces_join options (fun i hi => (hroot.mem_ghosts' i hi).2)
    (d'.nodes.size - 1)
  rw [renderAll_filterMap, renderAll_filterMap, hroot.children, hroot.children', List.map_append,
    List.map_append, String.join_append, String.join_append, List.map_map]
  cases visible with
  | nil => exact ⟨_, _, "", hghosts, hghosts', rfl, rfl⟩
  | cons c cs =>
    -- Only the first child of the root may be text with blanks in front of it.
    have hsame (c' : Nat) (hc' : c' ∈ c :: cs) (hne : c' ≠ c) :
        shown options (d.content? (d.nodes.size - 1) c') =
          shown options (d'.content? (d'.nodes.size - 1) (f c')) := by
      obtain ⟨hV, hrc⟩ := hroot.mem_shown c' hc'
      obtain ⟨t, -, heq, hempty⟩ := h.exists_shown_eq options hlt hV hrc
      rw [heq, hempty, String.empty_append]
      rw [hroot.children]
      cases ghosts with
      | nil => exact fun hhead => hne (Option.some.inj hhead).symm
      | cons g ghosts =>
        exact fun hhead => (hroot.mem_ghosts g List.mem_cons_self).1 (Option.some.inj hhead ▸ hV)
    obtain ⟨hV, hrc⟩ := hroot.mem_shown c List.mem_cons_self
    obtain ⟨t, ht, heq, -⟩ := h.exists_shown_eq options hlt hV hrc
    have hcs : cs.map (fun i => shown options (d.content? (d.nodes.size - 1) i)) =
        cs.map ((fun i => shown options (d'.content? (d'.nodes.size - 1) i)) ∘ f) :=
      List.map_congr_left fun c' hc' => hsame c' (List.mem_cons_of_mem c hc') fun hcc =>
        (List.nodup_cons.mp hroot.nodup).1 (hcc ▸ hc')
    refine ⟨_, _, _, hghosts.append ht, hghosts', ?_, rfl⟩
    rw [List.map_cons, List.map_cons, String.join_cons, String.join_cons, heq, hcs]
    simp only [String.append_assoc, Function.comp]

/-- The pages of drafts that mirror each other have the same text. -/
theorem toText_eq (h : Mirrors r H f V d d')
    (hlt : ∀ i, V i → i < d.nodes.size ∧ f i < d'.nodes.size) (default : Dom) :
    (Tree.ofDom ((d'.rootElement?.bind d'.toDom).getD default)).toText .builtin options =
      (Tree.ofDom ((d.rootElement?.bind d.toDom).getD default)).toText .builtin options := by
  obtain ⟨t, t', rest, ⟨n, hn⟩, ⟨n', hn'⟩, heq, heq'⟩ := h.exists_render_eq options hlt
  apply String.toList_inj.mp
  rw [Tree.toText, Tree.toText, toList_tidy, toList_tidy,
    h.root.2.2.1.renderRoot_ofDom options default, h.root.2.2.2.renderRoot_ofDom options default,
    heq, heq', String.toList_append, String.toList_append, hn, hn', tidyLines_spaces_append,
    tidyLines_spaces_append]

end Mirrors

end HtmlText
