import HtmlText.Proofs.Alike.Fragment
import HtmlText.Proofs.Alike.MirroredText
import HtmlText.Proofs.EscapedText

/-!
# The text of a fragment

A fragment without markup is one text, however the reader takes it apart: every piece is put behind
the one before. The declaration of the encoding comes between the blanks at the beginning and the
rest, and so there are two texts then, with an element between them that does not show.

## Main definitions

* `Draft.Row`: a draft whose root has leaves only.

## Main results

* `Builder.exists_runAll_escapeChars`, `Builder.exists_runAll_row`: construction goes on behind
  escaped text.
* `Builder.exists_runAll_fragment`: construction of a whole fragment of escaped text.
* `Draft.Row.renderRoot`: the raw rendering of a row of leaves.
-/

namespace HtmlText

namespace Draft

variable {d : Draft}

theorem kind?_appendText {p i : Nat} {name : ElementName} {attributes : List (String × String)}
    {contents : Option Nat} (h : d.kind? i = some (.element name attributes contents))
    (s : String) : (d.appendText p s).kind? i = some (.element name attributes contents) := by
  rcases d.appendText_cases p s with ⟨heq, -⟩ | ⟨c, t, -, hkind, heq⟩
  · rw [heq]
    exact kind?_adding_of_some h (some p)
  · have hi : i ≠ c := fun hi => by
      rw [hi, hkind] at h
      cases h
    rw [heq, kind?_extendText_of_ne d hi, h]

/-! ### Rows of leaves -/

/-- A draft whose root element has children of the given kinds. -/
structure Row (d : Draft) (kinds : List DraftKind) : Prop where
  root : d.kind? 1 = some (.element (.html "html") [] none)
  leads : d.Leads 1
  leaves : List.Forall₂ (fun c kind => d.kind? c = some kind) (d.children 1) kinds

/-- The draft of an empty fragment. -/
theorem row_empty :
    (Draft.empty.adding (.element (.html "html") [] none) (some 0)).Row [] :=
  ⟨blank_empty.root, blank_empty.leads, .nil⟩

/-- A new node becomes the last child. -/
theorem Row.adding {kinds : List DraftKind} (h : d.Row kinds) (kind : DraftKind) :
    (d.adding kind (some 1)).Row (kinds ++ [kind]) := by
  have hlt : 1 < d.nodes.size := lt_of_kind? h.root
  have hplace : ∀ p, some 1 = some p → p < d.nodes.size := by simpa using hlt
  refine ⟨kind?_adding_of_some h.root _, h.leads.grow (grows_adding d kind hplace), ?_⟩
  rw [children_adding d kind hplace, if_pos rfl]
  exact List.rel_append (h.leaves.imp fun c kind' hc => kind?_adding_of_some hc _)
    (.cons (kind?_adding_size ..) .nil)

/-- Text behind something else becomes the last child. -/
theorem Row.appendText {kinds : List DraftKind} (h : d.Row kinds)
    (hlast : ∀ kind ∈ kinds.getLast?, ∀ t, kind ≠ .text t) (s : String) :
    (d.appendText 1 s).Row (kinds ++ [.text s]) := by
  have hnew : d.appendText 1 s = d.adding (.text s) (some 1) := by
    refine appendText_eq_insertNew (fun c hc => ?_) s
    obtain ⟨front, hfront⟩ := List.getLast?_eq_some_iff.mp hc
    have hleaves := List.forall₂_reverse_iff.mpr h.leaves
    rw [hfront, List.reverse_append] at hleaves
    obtain ⟨kind, kinds', hkind, -, hkinds⟩ := List.forall₂_cons_left_iff.mp hleaves
    have hmem : kind ∈ kinds.getLast? := by
      rw [← List.head?_reverse, hkinds]
      rfl
    rw [text?_eq, hkind]
    cases kind with
    | text t => exact absurd rfl (hlast _ hmem t)
    | _ => rfl
  rw [hnew]
  exact h.adding (.text s)

end Draft

/-- What a leaf that is a text, or that is never shown, looks like. -/
def DraftKind.shownAs : DraftKind → String
  | .text s => collapse s
  | _ => ""

/-- A text, or an element that is never shown. -/
def DraftKind.IsLeaf : DraftKind → Prop
  | .text _ => True
  | .element name _ _ => name.tag ∈ hiddenTags
  | .document | .comment _ | .doctype _ => False

namespace Draft

/-- The raw rendering of a row of leaves. -/
theorem Row.renderRoot {d : Draft} {kinds : List DraftKind} (h : d.Row kinds)
    (hkinds : ∀ kind ∈ kinds, kind.IsLeaf) (options : Options) (default : Dom) :
    (Tree.ofDom ((d.rootElement?.bind d.toDom).getD default)).renderRoot .builtin options =
      String.join (kinds.map DraftKind.shownAs) := by
  rw [h.leads.renderRoot_ofDom, renderAll_filterMap]
  have hsize : d.nodes.size - 1 ≠ 0 := Nat.sub_ne_zero_of_lt (lt_of_kind? h.root)
  obtain ⟨depth, hdepth⟩ := Nat.exists_eq_succ_of_ne_zero hsize
  rw [hdepth]
  congr 1
  have hleaves := h.leaves
  generalize d.children 1 = ids at hleaves
  clear h
  induction hleaves with
  | nil => rfl
  | @cons c kind ids kinds hkind hrest ih =>
    rw [List.forall_mem_cons] at hkinds
    rw [List.map_cons, List.map_cons, ih hkinds.2, content?_succ, hkind]
    congr 1
    cases kind with
    | text s => rfl
    | element name attributes contents => exact render_hidden options name.tag hkinds.1 _ _
    | document | comment | doctype => exact hkinds.1.elim

end Draft

namespace Builder

variable {d : Draft}

/-- Construction goes on behind escaped text. The induction is on the number of characters: the next
piece of text is put into the draft, and the rest behind it. -/
theorem exists_runAll_escapeChars (hroot : d.kind? 1 = some (.element (.html "html") [] none))
    {cs tail : List Char} (hne : cs ≠ []) (hnull : '\x00' ∉ cs) (hcr : '\r' ∉ cs)
    (htail : ∀ c ∈ tail.head?, Source.endsRun false c = true) (allowed : Bool) (apart : Nat) :
    ∃ allowed' apart', (fragmentIn d allowed).runAll ⟨escapeChars cs ++ tail, apart⟩ =
      (fragmentIn (d.appendText 1 (String.ofList cs)) allowed').runAll ⟨tail, apart'⟩ := by
  generalize hn : cs.length = n
  induction n using Nat.strongRecOn generalizing d cs allowed apart with
  | ind n ih =>
    obtain ⟨v, cs', apart', rfl, hv, hnext⟩ :=
      Source.exists_nextMarkup_escapeChars hne hnull hcr htail apart
    have hrest : escapeChars (v ++ cs') ++ tail ≠ [] := by
      intro hnil
      rw [hnil] at hnext
      cases hnext
    have hrun : (fragmentIn d allowed).runAll ⟨escapeChars (v ++ cs') ++ tail, apart⟩ =
        (fragmentIn (d.appendText 1 (String.ofList v)) (allowed && isBlankRun v)).runAll
          ⟨escapeChars cs' ++ tail, apart'⟩ := by
      rw [runAll_next _ hrest, ← feed_text_fragmentIn hroot allowed hv]
      change ((Source.nextMarkup false _).1.foldl feed _).runAll (Source.nextMarkup false _).2 = _
      rw [hnext]
      rfl
    rw [hrun]
    by_cases hcs' : cs' = []
    · subst hcs'
      rw [List.append_nil]
      exact ⟨_, _, rfl⟩
    · have hlt : cs'.length < n := by
        rw [← hn, List.length_append]
        exact Nat.lt_add_of_pos_left (List.length_pos_iff.mpr hv)
      obtain ⟨allowed', apart'', hagain⟩ := ih _ hlt (Draft.kind?_appendText hroot _) hcs'
        (fun h => hnull (List.mem_append_right v h)) (fun h => hcr (List.mem_append_right v h))
        (allowed && isBlankRun v) apart' rfl
      -- Pieces that are appended one after the other are one text in the end.
      rw [Draft.appendText_appendText (Draft.lt_of_kind? hroot), ← String.ofList_append] at hagain
      exact ⟨allowed', apart'', hagain⟩

/-- Construction goes on behind the declaration. -/
theorem runAll_declaration_fragmentIn
    (hroot : d.kind? 1 = some (.element (.html "html") [] none)) (allowed : Bool)
    (tail : List Char) (apart : Nat) :
    (fragmentIn d allowed).runAll ⟨encodingDeclaration.toList ++ tail, apart⟩ =
      (fragmentIn (d.adding (.element (.html "meta") declarationTag.attributes none) (some 1))
        allowed).runAll ⟨tail, 0⟩ := by
  -- How much was looked at before makes no difference to markup.
  have hnext : Source.nextMarkup false ⟨encodingDeclaration.toList ++ tail, apart⟩ =
      ([.token (.startTag declarationTag)], ⟨tail, 0⟩) := readsAs_declaration tail
  have hne : encodingDeclaration.toList ++ tail ≠ [] := List.cons_ne_nil _ _
  rw [runAll_next _ hne, ← feed_declaration_fragmentIn hroot allowed]
  change ((Source.nextMarkup false _).1.foldl feed _).runAll (Source.nextMarkup false _).2 = _
  rw [hnext]
  rfl

/-- The end of a fragment in which no element is open. -/
theorem runAll_nil_fragmentIn (allowed : Bool) (apart : Nat) :
    (fragmentIn d allowed).runAll ⟨[], apart⟩ = fragmentIn d allowed := by
  have hstep : (fragmentIn d allowed).step .sourceEnd = (fragmentIn d allowed).done := step_eq rfl _
  rw [runAll_nil _ rfl, feed_token rfl (by simp) (by simp), settle_of_done rfl hstep]
  rfl

/-- Construction goes on behind escaped text in a row of leaves that does not end with a text. The
text is one more leaf, unless it is empty. -/
theorem exists_runAll_row {kinds : List DraftKind} (hrow : d.Row kinds)
    (hlast : ∀ kind ∈ kinds.getLast?, ∀ t, kind ≠ .text t) {cs tail : List Char}
    (hnull : '\x00' ∉ cs) (hcr : '\r' ∉ cs)
    (htail : ∀ c ∈ tail.head?, Source.endsRun false c = true) (allowed : Bool) (apart : Nat) :
    ∃ d' allowed' apart' kinds', (fragmentIn d allowed).runAll ⟨escapeChars cs ++ tail, apart⟩ =
        (fragmentIn d' allowed').runAll ⟨tail, apart'⟩ ∧
      d'.Row (kinds ++ kinds') ∧ (∀ kind ∈ kinds', kind.IsLeaf) ∧
      String.join (kinds'.map DraftKind.shownAs) = collapse (String.ofList cs) := by
  by_cases hnil : cs = []
  · subst hnil
    exact ⟨d, allowed, apart, [], rfl, by rwa [List.append_nil], by simp, rfl⟩
  · obtain ⟨allowed', apart', hrun⟩ :=
      exists_runAll_escapeChars hrow.root hnil hnull hcr htail allowed apart
    exact ⟨_, allowed', apart', [.text (String.ofList cs)], hrun, hrow.appendText hlast _,
      by simp [DraftKind.IsLeaf], by simp [DraftKind.shownAs]⟩

/-- Construction of a fragment of escaped text with the declaration behind its blanks. -/
theorem exists_runAll_fragment {w cs : List Char} (hw : ∀ c ∈ w, isEscaped c = false)
    (hnull : '\x00' ∉ w ++ cs) (hcr : '\r' ∉ w ++ cs) :
    ∃ d allowed kinds, fragmentStart.runAll
        ⟨w ++ (encodingDeclaration.toList ++ escapeChars cs), 0⟩ = fragmentIn d allowed ∧
      d.Row kinds ∧ (∀ kind ∈ kinds, kind.IsLeaf) ∧
      String.join (kinds.map DraftKind.shownAs) =
        collapse (String.ofList w) ++ collapse (String.ofList cs) := by
  rw [List.mem_append, not_or] at hnull hcr
  have hstart : fragmentStart =
      fragmentIn (Draft.empty.adding (.element (.html "html") [] none) (some 0)) true := rfl
  have hends : ∀ c ∈ (encodingDeclaration.toList ++ escapeChars cs).head?,
      Source.endsRun false c = true := by
    rintro c ⟨⟩
    rfl
  -- The blanks in front, the declaration, and the text behind it, one after the other.
  obtain ⟨d, allowed, apart, kinds, hblanks, hrow, hkinds, hshown⟩ :=
    exists_runAll_row Draft.row_empty (by simp) hnull.1 hcr.1 hends true 0
  rw [escapeChars_of_forall hw, ← hstart] at hblanks
  rw [List.nil_append] at hrow
  have hdeclared := hrow.adding (.element (.html "meta") declarationTag.attributes none)
  have hnothing : ∀ c ∈ ([] : List Char).head?, Source.endsRun false c = true := by simp
  obtain ⟨d', allowed', apart', kinds', hrun, hfinal, hkinds', hshown'⟩ :=
    exists_runAll_row hdeclared (by simp) hnull.2 hcr.2 hnothing allowed 0
  rw [List.append_nil] at hrun
  refine ⟨d', allowed', _, ?_, hfinal, ?_, ?_⟩
  · rw [hblanks, runAll_declaration_fragmentIn hrow.root, hrun, runAll_nil_fragmentIn]
  · have hhidden : "meta" ∈ hiddenTags := by decide
    intro kind hkind
    simp only [List.mem_append, List.mem_singleton] at hkind
    rcases hkind with (hkind | rfl) | hkind
    · exact hkinds kind hkind
    · exact hhidden
    · exact hkinds' kind hkind
  · rw [List.map_append, List.map_append, String.join_append, String.join_append, hshown, hshown']
    simp [DraftKind.shownAs]

end Builder

end HtmlText
