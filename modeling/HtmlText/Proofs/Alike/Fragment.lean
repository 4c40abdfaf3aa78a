import HtmlText.Proofs.Alike.Preamble

/-!
# The beginning of a fragment

In a source that is the content of a body, nothing but blanks comes before the declaration. They are
the only child of the root then, and the declaration that follows does not show.

## Main definitions

* `Draft.Blank`: the draft of a fragment with nothing but blanks in it.
* `Builder.fragmentWith`, `Builder.fragmentIn`: the states with a given draft.

## Main results

* `Builder.takesBlanks_fragment`: blanks at the beginning of a fragment.
* `Builder.alike_declared_fragment`: the declaration at the beginning of a fragment.
-/

namespace HtmlText

namespace Draft

variable {d : Draft}

/-- The draft of a fragment whose root element holds nothing but blanks. -/
structure Blank (d : Draft) : Prop where
  document : d.kind? 0 = some .document
  sound : d.Sound
  root : d.kind? 1 = some (.element (.html "html") [] none)
  leads : d.Leads 1
  children : d.children 0 = [1]
  blank : d.children 1 = [] ∨ ∃ c s, d.children 1 = [c] ∧ d.children c = [] ∧
    d.kind? c = some (.text s) ∧ isBlankRun s.toList = true ∧ 1 < c

theorem Blank.light (hd : d.Blank) {c : Nat} (hc : c ∈ d.children 1) : d.Light c ∧ 1 < c := by
  rcases hd.blank with hnil | ⟨c', s, hchildren, hleaf, hkind, hs, hlt⟩
  · rw [hnil] at hc
    exact absurd hc List.not_mem_nil
  · rw [hchildren] at hc
    rw [List.mem_singleton.mp hc]
    exact ⟨⟨hleaf, _, hkind, hs⟩, hlt⟩

/-- The draft of an empty fragment. -/
theorem blank_empty :
    (Draft.empty.adding (.element (.html "html") [] none) (some 0)).Blank := by
  have hrooted := rootless_empty.addRoot []
  exact ⟨hrooted.document, hrooted.sound, hrooted.root, hrooted.leads, rfl, Or.inl rfl⟩

/-- Blanks become the only child of the root, or part of it. -/
theorem Blank.appendText (hd : d.Blank) {s : String} (hs : isBlankRun s.toList = true) :
    (d.appendText 1 s).Blank := by
  have hlt : 1 < d.nodes.size := lt_of_kind? hd.root
  have hplace : ∀ p, some 1 = some p → p < d.nodes.size := by simpa using hlt
  rcases hd.blank with hnil | ⟨c, t, hchildren, hleaf, hkind, ht, hc⟩
  · have hadded : d.appendText 1 s = d.adding (.text s) (some 1) :=
      appendText_eq_insertNew (by simp [hnil]) s
    rw [hadded]
    refine ⟨kind?_adding_of_some hd.document _, hd.sound.adding _ hplace,
      kind?_adding_of_some hd.root _, hd.leads.grow (grows_adding _ _ hplace), ?_,
      Or.inr ⟨d.nodes.size, s, ?_, ?_, ?_, hs, hlt⟩⟩
    · rw [children_adding_of_ne _ hplace (by decide), hd.children]
    · rw [children_adding _ _ hplace, if_pos rfl, hnil, List.nil_append]
    · exact children_adding_size _ hplace
    · exact kind?_adding_size ..
  · have hextended : d.appendText 1 s = d.extendText c s :=
      appendText_eq_extendText (by rw [hchildren]; rfl) hkind s
    rw [hextended]
    refine ⟨?_, hd.sound.extendText c s, ?_, hd.leads.grow (grows_extendText hkind s), ?_,
      Or.inr ⟨c, t ++ s, ?_, ?_, kind?_extendText_self hkind s, ?_, hc⟩⟩
    · rw [kind?_extendText_of_ne d (by omega), hd.document]
    · rw [kind?_extendText_of_ne d (by omega), hd.root]
    · rw [children_extendText, hd.children]
    · rw [children_extendText, hchildren]
    · rw [children_extendText, hleaf]
    · rw [isBlankRun, String.toList_append, List.all_append, Bool.and_eq_true]
      exact ⟨ht, hs⟩

end Draft

namespace Builder

variable {d : Draft}

/-- The state of a fragment with a given draft in which no element has been opened. -/
def fragmentWith (d : Draft) : Builder :=
  { draft := d, mode := .inBody, stack := [⟨1, .html "html"⟩], fragment := true }

theorem fragmentStart_eq :
    fragmentStart = fragmentWith (Draft.empty.adding (.element (.html "html") [] none) (some 0)) :=
  rfl

/-- The state of a fragment in which no element is open. A set of frames may come as long as there
are only blanks. -/
def fragmentIn (d : Draft) (framesetAllowed : Bool) : Builder :=
  { fragmentWith d with framesetAllowed }

/-- Text in a fragment. -/
theorem feed_text_fragmentIn (hroot : d.kind? 1 = some (.element (.html "html") [] none))
    (allowed : Bool) {cs : List Char} (hne : cs ≠ []) :
    (fragmentIn d allowed).feed (.token (.text cs)) =
      fragmentIn (d.appendText 1 (String.ofList cs)) (allowed && isBlankRun cs) := by
  have hcontents : d.contents 1 = 1 := Draft.contents_of_element hroot
  have hstep : (fragmentIn d allowed).step (.text cs) =
      ((fragmentIn d allowed).bodyText cs).done := step_eq rfl _
  rw [feed_token rfl (by simp [hne]) (by simp), settle_of_done rfl hstep, bodyText,
    Begun.reconstruct_eq rfl]
  split_ifs with hcs
  · rw [insertText_eq_appendText _ rfl, hcs, Bool.and_true]
    exact congrArg (fun p => fragmentIn (d.appendText p (String.ofList cs)) allowed) hcontents
  · rw [insertText_eq_appendText _ rfl, Bool.eq_false_iff.mpr hcs, Bool.and_false]
    exact congrArg (fun p => fragmentIn (d.appendText p (String.ofList cs)) false) hcontents

theorem feed_blank_fragmentWith (hd : d.Blank) {v : List Char} (hv : isBlankRun v = true)
    (hne : v ≠ []) :
    (fragmentWith d).feed (.token (.text v)) =
      fragmentWith (d.appendText 1 (String.ofList v)) := by
  have hfeed := feed_text_fragmentIn hd.root true hne
  rwa [hv] at hfeed

/-- Blanks at the beginning of a fragment, and the text behind them. -/
theorem takesBlanks_fragment : TakesBlanks fun b => ∃ d, d.Blank ∧ b = fragmentWith d where
  textMode := by
    rintro b ⟨d, -, rfl⟩
    rfl
  inForeign := by
    rintro b ⟨d, -, rfl⟩
    rfl
  feed := by
    rintro b v ⟨d, hd, rfl⟩ hv hne
    exact ⟨_, hd.appendText (by rwa [String.toList_ofList]), feed_blank_fragmentWith hd hv hne⟩
  append := by
    rintro b v x ⟨d, hd, rfl⟩ hv hne hxne hx
    have happended : (d.appendText 1 (String.ofList v)).Blank :=
      hd.appendText (by rwa [String.toList_ofList])
    have hblank : isBlankRun (v ++ x) = isBlankRun x := by
      rw [isBlankRun, isBlankRun, List.all_append, ← isBlankRun, hv, Bool.true_and]
    have hne' : v ++ x ≠ [] := by simp [hne]
    have hfeed := feed_text_fragmentIn hd.root true hne'
    have hfeed' := feed_text_fragmentIn happended.root true hxne
    rw [Draft.appendText_appendText (Draft.lt_of_kind? hd.root), ← String.ofList_append,
      ← hblank] at hfeed'
    rw [feed_blank_fragmentWith hd hv hne]
    exact hfeed.trans hfeed'.symm

/-! ### The declaration -/

theorem feed_declaration_fragmentIn
    (hroot : d.kind? 1 = some (.element (.html "html") [] none)) (allowed : Bool) :
    (fragmentIn d allowed).feed (.token (.startTag declarationTag)) =
      fragmentIn (d.adding (.element (.html "meta") declarationTag.attributes none) (some 1))
        allowed := by
  have hcontents : (fragmentIn d allowed).draft.contents (fragmentIn d allowed).current.id = 1 :=
    Draft.contents_of_element hroot
  have hrole : StartRole.ofTag declarationTag.name = .headContent := by decide
  have hstep : (fragmentIn d allowed).step (.startTag declarationTag) =
      ((fragmentIn d allowed).insertVoid declarationTag).acknowledged := by
    rw [step_eq rfl]
    change bodyStart _ declarationTag = _
    rw [bodyStart, hrole]
    rfl
  rw [feed_token rfl (by simp) (by simp), settle_of_acknowledged rfl hstep, insertVoid,
    insertClosed_eq _ rfl (by decide), hcontents]
  rfl

/-- The root element holds the blanks, and the declaration behind them. -/
theorem rootMirrors_declared (hd : d.Blank) :
    RootMirrors 1 (Equiv.refl Nat) (fun i => i = 0 ∨ i = 1) d
      (d.adding (.element (.html "meta") declarationTag.attributes none) (some 1)) (d.children 1)
      (d.children 1 ++ [d.nodes.size]) [] := by
  have hlt : 1 < d.nodes.size := Draft.lt_of_kind? hd.root
  have hplace : ∀ p, some 1 = some p → p < d.nodes.size := by simpa using hlt
  refine ⟨by simp, ?_, by simp, fun c hc => ?_, fun c hc => ?_, fun _ c hc _ => ?_,
    fun _ c hc => ?_, List.nodup_nil⟩
  · rw [Equiv.refl_apply, Draft.children_adding _ _ hplace, if_pos rfl, List.map_nil,
      List.append_nil]
  · obtain ⟨hlight, hc⟩ := hd.light hc
    exact ⟨by omega, hlight, hc⟩
  · rcases List.mem_append.mp hc with hc | hc
    · obtain ⟨hlight, hlt'⟩ := hd.light hc
      exact ⟨fun i hi => by rw [Equiv.refl_apply]; omega,
        hlight.adding _ hplace (by simpa using Nat.ne_of_lt hlt')⟩
    · rw [List.mem_singleton.mp hc]
      exact ⟨fun i hi => by rw [Equiv.refl_apply]; omega,
        Draft.light_adding_size (.element (.html "meta") declarationTag.attributes none) rfl hplace⟩
  · rcases hd.blank with hnil | ⟨c', s, hchildren, -⟩
    · rw [hnil] at hc
      cases hc
    · rw [hchildren] at hc ⊢
      cases hc
      rfl
  · cases List.getLast?_concat.symm.trans hc
    rw [Draft.text?_eq, Draft.kind?_adding_size]

/-- The declaration behind the blanks does not show. -/
theorem mirrors_declared (hd : d.Blank) :
    Mirrors 1 [0] (Equiv.refl Nat) (fun i => i = 0 ∨ i = 1) d
      (d.adding (.element (.html "meta") declarationTag.attributes none) (some 1)) := by
  have hlt : 1 < d.nodes.size := Draft.lt_of_kind? hd.root
  have hplace : ∀ p, some 1 = some p → p < d.nodes.size := by simpa using hlt
  have hprolog : ∀ c ∈ d.children 0, d.text? c = none := by
    rw [hd.children]
    simp [Draft.text?_eq, hd.root]
  refine .of_hidden (fun i => by simp [or_comm]) ⟨rfl, by simp⟩
    ⟨by simp, hd.leads, hd.leads.grow (Draft.grows_adding _ _ hplace)⟩ hd.document
    (fun i hi hne => absurd (List.mem_singleton.mp hi) hne)
    ⟨hd.sound, hd.sound.adding _ hplace⟩
    (fun i hi => Draft.kind?_adding_of_lt (show i < d.nodes.size by omega) _ _)
    (rootMirrors_declared hd) fun i hi => ?_
  rw [List.mem_singleton.mp hi]
  exact ⟨Draft.conceals_of_text?_eq_none hprolog _ _, Draft.conceals_of_text?_eq_none
    (hd.sound.prolog_adding hprolog _ hplace (by simp)) _ _⟩

/-- A fragment is alike to the one with the declaration. -/
theorem alike_declared_fragment (hd : d.Blank) :
    Alike { draft := Mirrors 1 [0] } (fragmentWith d)
      ((fragmentWith d).feed (.token (.startTag declarationTag))) := by
  have hlt : 1 < d.nodes.size := Draft.lt_of_kind? hd.root
  have hfeed : (fragmentWith d).feed (.token (.startTag declarationTag)) =
      fragmentWith (d.adding (.element (.html "meta") declarationTag.attributes none) (some 1)) :=
    feed_declaration_fragmentIn hd.root true
  rw [hfeed]
  refine ⟨.refl Nat, fun i => i = 0 ∨ i = 1, _, rfl, ⟨Or.inl rfl, rfl⟩, by simp,
    fun i hi => ?_, fun i hi => ?_, by simp [fragmentWith], fun _ => mirrors_declared hd⟩
  · rw [Equiv.refl_apply, Draft.size_adding]
    change i < d.nodes.size ∧ _
    omega
  · obtain ⟨e, he, rfl⟩ | hid := hi.stack_or_head rfl rfl
    · rw [List.mem_singleton.mp he]
      exact Or.inr rfl
    · cases hid

end Builder

end HtmlText
