import HtmlText.Proofs.Alike.GrowingDraft

/-!
# Drafts that mirror each other

The second of two drafts has a few nodes that the first one does not have, and the other way round,
but none of them shows: comments, blank text at the beginning and a declaration in front of all
other children of the root, and anything inside the head. All other nodes correspond to each other.
As long as no problem comes up, construction from alike states keeps it so.

A text that comes first may be longer in the first draft, by blanks that are a text of their own in
the second one.

## Main definitions

* `Mirrors`: the relation of the two drafts.

## Main results

* `Mirrors.draftRelation`: the relation is kept in construction.
-/

namespace HtmlText

/-! ### The relation -/

variable {r : Nat} {H : List Nat} {f f' : Equiv.Perm Nat} {V : Nat → Prop} {d d' e e' : Draft}
  {p : Nat}

/-- The children of the root: those that show correspond, and none of the others shows. -/
structure RootMirrors (r : Nat) (f : Equiv.Perm Nat) (V : Nat → Prop) (d d' : Draft)
    (ghosts ghosts' shown : List Nat) : Prop where
  children : d.children r = ghosts ++ shown
  children' : d'.children (f r) = ghosts' ++ shown.map f
  mem_shown : ∀ c ∈ shown, V c ∧ r < c ∧ f r < f c
  mem_ghosts : ∀ c ∈ ghosts, ¬V c ∧ d.Light c ∧ r < c
  mem_ghosts' : ∀ c ∈ ghosts', (∀ i, V i → f i ≠ c) ∧ d'.Light c
  /-- Text that follows does not go into what does not show, unless into the only child of the root
  in the first draft. -/
  last : shown = [] → (∀ c, ghosts.getLast? = some c → d.text? c ≠ none → ghosts = [c])
  last' : shown = [] → ∀ c, ghosts'.getLast? = some c → d'.text? c = none
  nodup : shown.Nodup

theorem RootMirrors.mem_children {ghosts ghosts' shown : List Nat}
    (h : RootMirrors r f V d d' ghosts ghosts' shown) {c : Nat} (hc : c ∈ ghosts) :
    c ∈ d.children r := by
  rw [h.children]
  exact List.mem_append_left _ hc

theorem RootMirrors.mem_children' {ghosts ghosts' shown : List Nat}
    (h : RootMirrors r f V d d' ghosts ghosts' shown) {c : Nat} (hc : c ∈ ghosts') :
    c ∈ d'.children (f r) := by
  rw [h.children']
  exact List.mem_append_left _ hc

/-- Nodes that hold the same, up to the numbers of templates' contents, or texts of which the first
one is longer by blanks at its beginning. -/
def Corresponds (r : Nat) (f : Equiv.Perm Nat) (d d' : Draft) (i : Nat) : Prop :=
  d'.kind? (f i) = (d.kind? i).map (·.rename f) ∨
    (d.children r).head? = some i ∧ ∃ w s : String, isBlankRun w.toList = true ∧
      d.kind? i = some (.text (w ++ s)) ∧ d'.kind? (f i) = some (.text s)

/-- A node that is added on both sides keeps what there is. -/
theorem Corresponds.adding {i : Nat} {place : Option Nat} (h : Corresponds r f d d' i)
    (hi : i < d.nodes.size ∧ f i < d'.nodes.size)
    (hplace : ∀ p, place = some p → p < d.nodes.size) (kind kind' : DraftKind)
    (place' : Option Nat) :
    Corresponds r f (d.adding kind place) (d'.adding kind' place') i := by
  rw [Corresponds, Draft.kind?_adding_of_lt hi.1, Draft.kind?_adding_of_lt hi.2]
  refine h.imp id fun ⟨hhead, htexts⟩ => ⟨?_, htexts⟩
  rw [Draft.children_adding _ _ hplace]
  split_ifs
  · rw [List.head?_append, hhead]
    rfl
  · exact hhead

theorem Corresponds.extendText {i c : Nat} (h : Corresponds r f d d' i) {t t' : String}
    (hkind : d.kind? c = some (.text t)) (hkind' : d'.kind? (f c) = some (.text t')) (s : String) :
    Corresponds r f (d.extendText c s) (d'.extendText (f c) s) i := by
  rw [Corresponds, Draft.children_extendText]
  by_cases hic : i = c
  · subst hic
    rw [Draft.kind?_extendText_self hkind, Draft.kind?_extendText_self hkind']
    rcases h with heq | ⟨hhead, w, u, hw, hu, hu'⟩
    · rw [hkind, hkind'] at heq
      cases heq
      exact Or.inl rfl
    · rw [hkind] at hu
      rw [hkind'] at hu'
      cases hu
      cases hu'
      exact Or.inr ⟨hhead, w, t' ++ s, hw, by rw [String.append_assoc], rfl⟩
  · rw [Draft.kind?_extendText_of_ne d hic,
      Draft.kind?_extendText_of_ne d' fun hf => hic (f.injective hf)]
    exact h

/-- A child with a counterpart, which is neither the root nor hidden nor inside the root. -/
structure Inner (r : Nat) (H : List Nat) (f : Equiv.Perm Nat) (V : Nat → Prop) (d : Draft)
    (i c : Nat) : Prop where
  mem : V c
  lt : i < c ∧ f i < f c
  ne : c ≠ r
  notMem : c ∉ H
  notChild : c ∉ d.children r

theorem Inner.congr {V' : Nat → Prop} {i c : Nat} (h : Inner r H f V d i c) (hV : V c → V' c)
    (hr : c ∈ e.children r → c ∈ d.children r) : Inner r H f V' e i c :=
  { h with
    mem := hV h.mem
    notChild := fun hc => h.notChild (hr hc) }

theorem Inner.adding {i c : Nat} (h : Inner r H f V d i c) (hc : c ≠ d.nodes.size)
    (kind : DraftKind) {place : Option Nat} (hplace : ∀ p, place = some p → p < d.nodes.size) :
    Inner r H f (fun i => V i ∨ i = d.nodes.size) (d.adding kind place) i c := by
  refine h.congr Or.inl fun hcr => ?_
  rw [Draft.children_adding _ _ hplace] at hcr
  split_ifs at hcr
  · rw [List.mem_append, List.mem_singleton] at hcr
    exact hcr.resolve_right hc
  · exact hcr

/-- Two drafts that mirror each other. The root is the node `r` of the first draft. What is inside
the nodes of `H` is left open: these are the document and the head. -/
structure Mirrors (r : Nat) (H : List Nat) (f : Equiv.Perm Nat) (V : Nat → Prop)
    (d d' : Draft) : Prop where
  zero : V 0 ∧ f 0 = 0 ∧ 0 ∈ H
  root : V r ∧ r ∉ H ∧ d.Leads r ∧ d'.Leads (f r)
  hidden : ∀ h ∈ H, V h ∧
    (h ≠ 0 → ∃ attributes, d.kind? h = some (.element (.html "head") attributes none))
  sound : d.Sound ∧ d'.Sound
  contents : ∀ i name attributes c, V i → d.kind? i = some (.element name attributes (some c)) → V c
  kind : ∀ i, V i → Corresponds r f d d' i
  children : ∀ i, V i → i ≠ r → i ∉ H → d'.children (f i) = (d.children i).map f ∧
    ∀ c ∈ d.children i, Inner r H f V d i c
  rootChildren : ∃ ghosts ghosts' shown, RootMirrors r f V d d' ghosts ghosts' shown
  /-- Text of the head is nowhere else. -/
  texts : ∀ h ∈ H, d.Conceals V r h ∧ d'.Conceals (fun c => ∃ i, V i ∧ f i = c) (f r) (f h)

namespace Mirrors

/-- Two drafts of which nothing but the root and the hidden nodes corresponds. -/
theorem of_hidden (hV : ∀ i, V i ↔ i = r ∨ i ∈ H) (hzero : f 0 = 0 ∧ 0 ∈ H)
    (hroot : r ∉ H ∧ d.Leads r ∧ d'.Leads (f r)) (hdocument : d.kind? 0 = some .document)
    (hheads : ∀ h ∈ H, h ≠ 0 →
      ∃ attributes, d.kind? h = some (.element (.html "head") attributes none))
    (hsound : d.Sound ∧ d'.Sound) (hkind : ∀ i, V i → d'.kind? (f i) = d.kind? i)
    {ghosts ghosts' shown : List Nat} (hchildren : RootMirrors r f V d d' ghosts ghosts' shown)
    (htexts : ∀ h ∈ H, d.Conceals V r h ∧
      d'.Conceals (fun c => ∃ i, V i ∧ f i = c) (f r) (f h)) : Mirrors r H f V d d' := by
  have hplain (i : Nat) (hi : V i) : d.kind? i = some .document ∨
      ∃ name attributes, d.kind? i = some (.element name attributes none) := by
    rcases (hV i).mp hi with rfl | hiH
    · obtain ⟨attributes, helement⟩ := hroot.2.1.element
      exact Or.inr ⟨_, attributes, helement⟩
    · by_cases hi0 : i = 0
      · exact Or.inl (hi0 ▸ hdocument)
      · obtain ⟨attributes, hhead⟩ := hheads i hiH hi0
        exact Or.inr ⟨_, attributes, hhead⟩
  refine
    { zero := ⟨(hV 0).mpr (Or.inr hzero.2), hzero⟩
      root := ⟨(hV r).mpr (Or.inl rfl), hroot⟩
      hidden := fun i hi => ⟨(hV i).mpr (Or.inr hi), hheads i hi⟩
      sound := hsound
      contents := fun i name attributes c hi hcontents => ?_
      kind := fun i hi => Or.inl ?_
      children := fun i hi hir hiH => (((hV i).mp hi).elim hir hiH).elim
      rootChildren := ⟨ghosts, ghosts', shown, hchildren⟩
      texts := htexts }
  · rcases hplain i hi with heq | ⟨name', attributes', heq⟩ <;>
    · rw [heq] at hcontents
      cases hcontents
  · rw [hkind i hi]
    rcases hplain i hi with heq | ⟨name, attributes, heq⟩ <;>
    · rw [heq]
      rfl

theorem congr (h : Mirrors r H f V d d') (hext : ∀ i, V i → f' i = f i) :
    Mirrors r H f' V d d' where
  zero := ⟨h.zero.1, (hext 0 h.zero.1).trans h.zero.2.1, h.zero.2.2⟩
  root := ⟨h.root.1, h.root.2.1, h.root.2.2.1, by
    rw [hext r h.root.1]
    exact h.root.2.2.2⟩
  hidden := h.hidden
  sound := h.sound
  contents := h.contents
  kind := fun i hi => by
    rcases h.kind i hi with heq | hlonger
    · refine Or.inl ?_
      rw [hext i hi, heq]
      cases hkind : d.kind? i with
      | none => rfl
      | some kind =>
        rcases kind with _ | _ | _ | _ | ⟨name, attributes, _ | c⟩
        all_goals first | rfl | skip
        rw [Option.map_some, Option.map_some, DraftKind.rename, DraftKind.rename, Option.map_some,
          Option.map_some, hext c (h.contents i name attributes c hi hkind)]
    · rw [← hext i hi] at hlonger
      exact Or.inr hlonger
  children := fun i hi hir hiH => by
    obtain ⟨heq, hmem⟩ := h.children i hi hir hiH
    refine ⟨?_, fun c hc => ?_⟩
    · rw [hext i hi, heq]
      exact List.map_congr_left fun c hc => (hext c (hmem c hc).mem).symm
    · obtain ⟨hV, hlt, hne, hH, hr⟩ := hmem c hc
      refine ⟨hV, ?_, hne, hH, hr⟩
      rwa [hext i hi, hext c hV]
  rootChildren := by
    obtain ⟨ghosts, ghosts', shown, hroot⟩ := h.rootChildren
    have hr := hext r h.root.1
    refine ⟨ghosts, ghosts', shown, hroot.children, ?_, fun c hc => ?_, hroot.mem_ghosts,
      fun c hc => ?_, hroot.last, hroot.last', hroot.nodup⟩
    · rw [hr, hroot.children']
      congr 1
      exact List.map_congr_left fun c hc => (hext c (hroot.mem_shown c hc).1).symm
    · obtain ⟨hV, hlt, hlt'⟩ := hroot.mem_shown c hc
      rw [hr, hext c hV]
      exact ⟨hV, hlt, hlt'⟩
    · refine ⟨fun i hi => ?_, (hroot.mem_ghosts' c hc).2⟩
      rw [hext i hi]
      exact (hroot.mem_ghosts' c hc).1 i hi
  texts := fun i hi => by
    obtain ⟨htexts, htexts'⟩ := h.texts i hi
    refine ⟨htexts, fun c hc htext => ?_⟩
    rw [hext i (h.hidden i hi).1] at hc
    rw [hext r h.root.1]
    obtain ⟨hne, hroot⟩ := htexts' c hc htext
    refine ⟨?_, hroot⟩
    rintro ⟨j, hj, hjc⟩
    exact hne ⟨j, hj, by rw [← hext j hj, hjc]⟩

/-- Corresponding nodes are texts, or are not, together. -/
theorem text?_eq_none_iff (h : Mirrors r H f V d d') {i : Nat} (hi : V i) :
    d'.text? (f i) = none ↔ d.text? i = none := by
  rw [Draft.text?_eq, Draft.text?_eq]
  rcases h.kind i hi with heq | ⟨-, w, s, -, hs, hs'⟩
  · rw [heq]
    cases d.kind? i with
    | none => rfl
    | some kind => cases kind <;> rfl
  · rw [hs, hs']
    simp

theorem contents_eq (h : Mirrors r H f V d d') {i : Nat} (hi : V i) :
    V (d.contents i) ∧ d'.contents (f i) = f (d.contents i) := by
  rw [Draft.contents_eq, Draft.contents_eq]
  rcases h.kind i hi with heq | ⟨-, w, s, -, hs, hs'⟩
  · rw [heq]
    cases hkind : d.kind? i with
    | none => exact ⟨hi, rfl⟩
    | some kind =>
      rcases kind with _ | _ | _ | _ | ⟨name, attributes, _ | c⟩
      all_goals first | exact ⟨hi, rfl⟩ | exact ⟨h.contents i name attributes c hi hkind, rfl⟩
  · rw [hs, hs']
    exact ⟨hi, rfl⟩

/-! ### New nodes -/

theorem eq_some_of_map {place : Option Nat} {i : Nat} (h : place.map f = some (f i)) :
    place = some i := by
  obtain ⟨p, hp, hpi⟩ := Option.map_eq_some_iff.mp h
  rw [hp, f.injective hpi]

theorem lt_of_mem_map {place : Option Nat}
    (hlt : ∀ i, V i → i < d.nodes.size ∧ f i < d'.nodes.size) (hplace : ∀ p, place = some p → V p) :
    ∀ p, place.map f = some p → p < d'.nodes.size := by
  intro p hp
  obtain ⟨q, hq, rfl⟩ := Option.map_eq_some_iff.mp hp
  exact (hlt q (hplace q hq)).2

variable {place : Option Nat}

/-- What does not show stays so when a node is added on both sides. -/
theorem ghosts_adding (hlt : ∀ i, V i → i < d.nodes.size ∧ f i < d'.nodes.size)
    (hnew : f d.nodes.size = d'.nodes.size) (hplace : ∀ p, place = some p → V p)
    (kind kind' : DraftKind) {ghosts ghosts' shown : List Nat}
    (hroot : RootMirrors r f V d d' ghosts ghosts' shown) :
    (∀ c ∈ ghosts, ¬(V c ∨ c = d.nodes.size) ∧ (d.adding kind place).Light c ∧ r < c) ∧
      ∀ c ∈ ghosts', (∀ i, V i ∨ i = d.nodes.size → f i ≠ c) ∧
        (d'.adding kind' (place.map f)).Light c := by
  refine ⟨fun c hc => ?_, fun c hc => ?_⟩
  · obtain ⟨hV, hlight, hrc⟩ := hroot.mem_ghosts c hc
    exact ⟨fun hor => hor.elim hV (Nat.ne_of_lt hlight.lt),
      hlight.adding kind (fun p hp => (hlt p (hplace p hp)).1) fun heq => hV (hplace c heq), hrc⟩
  · obtain ⟨hV, hlight⟩ := hroot.mem_ghosts' c hc
    refine ⟨fun i hi => ?_, hlight.adding kind' (lt_of_mem_map hlt hplace) fun heq => ?_⟩
    · rcases hi with hi | rfl
      · exact hV i hi
      · rw [hnew]
        exact Nat.ne_of_gt hlight.lt
    · obtain ⟨p, hp, hpc⟩ := Option.map_eq_some_iff.mp heq
      exact hV p (hplace p hp) hpc

/-- The children of the root when a node is added on both sides. -/
theorem exists_rootMirrors_adding (h : Mirrors r H f V d d')
    (hlt : ∀ i, V i → i < d.nodes.size ∧ f i < d'.nodes.size)
    (hnew : f d.nodes.size = d'.nodes.size) (hplace : ∀ p, place = some p → V p)
    (kind kind' : DraftKind) :
    ∃ ghosts ghosts' shown, RootMirrors r f (fun i => V i ∨ i = d.nodes.size)
      (d.adding kind place) (d'.adding kind' (place.map f)) ghosts ghosts' shown := by
  obtain ⟨ghosts, ghosts', shown, hroot⟩ := h.rootChildren
  have hchildren := d.children_adding kind fun p hp => (hlt p (hplace p hp)).1
  have hchildren' := d'.children_adding kind' (lt_of_mem_map hlt hplace)
  obtain ⟨hghosts, hghosts'⟩ := ghosts_adding hlt hnew hplace kind kind' hroot
  by_cases hr : place = some r
  · refine ⟨ghosts, ghosts', shown ++ [d.nodes.size], ?_, ?_, fun c hc => ?_, hghosts, hghosts',
      by simp, by simp, ?_⟩
    · rw [hchildren, if_pos hr, hroot.children, List.append_assoc]
    · rw [hchildren', if_pos (by rw [hr]; rfl), hroot.children', List.append_assoc,
        List.map_append, List.map_singleton, hnew]
    · rcases List.mem_append.mp hc with hc | hc
      · obtain ⟨hV, hlts⟩ := hroot.mem_shown c hc
        exact ⟨Or.inl hV, hlts⟩
      · cases List.mem_singleton.mp hc
        rw [hnew]
        exact ⟨Or.inr rfl, hlt r h.root.1⟩
    · refine List.nodup_append.mpr ⟨hroot.nodup, List.pairwise_singleton _ _, fun c hc c' hc' => ?_⟩
      rw [List.mem_singleton.mp hc']
      exact Nat.ne_of_lt (hlt c (hroot.mem_shown c hc).1).1
  · refine ⟨ghosts, ghosts', shown, ?_, ?_, fun c hc => ?_, hghosts, hghosts', ?_, ?_,
      hroot.nodup⟩
    · rw [hchildren, if_neg hr, hroot.children]
    · rw [hchildren', if_neg (fun heq => hr (eq_some_of_map heq)), hroot.children']
    · obtain ⟨hV, hlts⟩ := hroot.mem_shown c hc
      exact ⟨Or.inl hV, hlts⟩
    · intro hnil c hc htext
      have hlight := (hroot.mem_ghosts c (List.mem_of_getLast? hc)).2.1
      rw [Draft.text?_adding_of_lt hlight.lt] at htext
      exact hroot.last hnil c hc htext
    · intro hnil c hc
      have hlight := (hroot.mem_ghosts' c (List.mem_of_getLast? hc)).2
      rw [Draft.text?_adding_of_lt hlight.lt]
      exact hroot.last' hnil c hc

/-- The children of any other node when a node is added on both sides. -/
theorem children_adding (h : Mirrors r H f V d d')
    (hlt : ∀ i, V i → i < d.nodes.size ∧ f i < d'.nodes.size)
    (hnew : f d.nodes.size = d'.nodes.size) (hplace : ∀ p, place = some p → V p)
    (kind kind' : DraftKind) {i : Nat} (hi : V i ∨ i = d.nodes.size) (hir : i ≠ r) (hiH : i ∉ H) :
    (d'.adding kind' (place.map f)).children (f i) = ((d.adding kind place).children i).map f ∧
      ∀ c ∈ (d.adding kind place).children i,
        Inner r H f (fun i => V i ∨ i = d.nodes.size) (d.adding kind place) i c := by
  have hplace₁ : ∀ p, place = some p → p < d.nodes.size := fun p hp => (hlt p (hplace p hp)).1
  have hplace₂ := lt_of_mem_map hlt hplace
  have hold {i : Nat} (hi : V i) : i ≠ d.nodes.size := Nat.ne_of_lt (hlt i hi).1
  rcases hi with hi | rfl
  · rw [Draft.children_adding _ _ hplace₁, Draft.children_adding _ _ hplace₂]
    obtain ⟨heq, hmem⟩ := h.children i hi hir hiH
    have hinner (c : Nat) (hc : c ∈ d.children i) :
        Inner r H f (fun i => V i ∨ i = d.nodes.size) (d.adding kind place) i c :=
      (hmem c hc).adding (hold (hmem c hc).mem) kind hplace₁
    by_cases hpi : place = some i
    · rw [if_pos hpi, if_pos (by rw [hpi]; rfl), heq, List.map_append, List.map_singleton, hnew]
      refine ⟨rfl, fun c hc => ?_⟩
      rcases List.mem_append.mp hc with hc | hc
      · exact hinner c hc
      · cases List.mem_singleton.mp hc
        -- The new node is neither the root nor hidden, and it is not inside the root.
        refine ⟨Or.inr rfl, by rw [hnew]; exact hlt i hi, (hold h.root.1).symm,
          fun hH => hold (h.hidden _ hH).1 rfl, ?_⟩
        rw [Draft.children_adding_of_ne _ hplace₁
          fun hpr => hir (Option.some.inj (hpi.symm.trans hpr))]
        exact fun hr => Nat.lt_irrefl _ (h.sound.1 r _ hr)
    · rw [if_neg hpi, if_neg (fun heq => hpi (eq_some_of_map heq)), heq]
      exact ⟨rfl, hinner⟩
  · rw [hnew, Draft.children_adding_size kind hplace₁, Draft.children_adding_size kind' hplace₂]
    exact ⟨rfl, fun c hc => absurd hc List.not_mem_nil⟩

/-- A node is added on both sides. Text of the hidden nodes has no counterpart. -/
theorem adding (h : Mirrors r H f V d d')
    (hlt : ∀ i, V i → i < d.nodes.size ∧ f i < d'.nodes.size)
    (hnew : f d.nodes.size = d'.nodes.size) (place : Option Nat)
    (hplace : ∀ p, place = some p → V p) (kind : DraftKind)
    (hcontents : ∀ name attributes c, kind = .element name attributes (some c) → V c)
    (htext : ∀ p, place = some p → p ∈ H → ∀ s, kind ≠ .text s) :
    Mirrors r H f (fun i => V i ∨ i = d.nodes.size) (d.adding kind place)
      (d'.adding (kind.rename f) (place.map f)) := by
  have hplace₁ : ∀ p, place = some p → p < d.nodes.size := fun p hp => (hlt p (hplace p hp)).1
  have hplace₂ := lt_of_mem_map hlt hplace
  refine
    { zero := ⟨Or.inl h.zero.1, h.zero.2⟩
      root := ⟨Or.inl h.root.1, h.root.2.1, h.root.2.2.1.grow (Draft.grows_adding d kind hplace₁),
        h.root.2.2.2.grow (Draft.grows_adding d' _ hplace₂)⟩
      hidden := fun i hi => ?_
      sound := ⟨h.sound.1.adding kind hplace₁, h.sound.2.adding _ hplace₂⟩
      contents := fun i name attributes c hi hkind => ?_
      kind := fun i hi => ?_
      children := fun i hi hir hiH => h.children_adding hlt hnew hplace kind _ hi hir hiH
      rootChildren := h.exists_rootMirrors_adding hlt hnew hplace kind _
      texts := fun i hi => ⟨(h.texts i hi).1.adding h.sound.1 hplace₁ (fun c hc => hc)
          fun hpi => htext i hpi hi,
        (h.texts i hi).2.adding h.sound.2 hplace₂ (fun c hc => ?_) fun hpi s hs => ?_⟩ }
  · obtain ⟨hV, hhead⟩ := h.hidden i hi
    rw [Draft.kind?_adding_of_lt (hlt i hV).1]
    exact ⟨Or.inl hV, hhead⟩
  · rcases hi with hi | rfl
    · rw [Draft.kind?_adding_of_lt (hlt i hi).1] at hkind
      exact Or.inl (h.contents i name attributes c hi hkind)
    · rw [Draft.kind?_adding_size, Option.some_inj] at hkind
      exact Or.inl (hcontents name attributes c hkind)
  · rcases hi with hi | rfl
    · exact (h.kind i hi).adding (hlt i hi) hplace₁ kind _ _
    · refine Or.inl ?_
      rw [hnew, Draft.kind?_adding_size, Draft.kind?_adding_size, Option.map_some]
  · obtain ⟨j, hj | rfl, rfl⟩ := hc
    · exact Or.inl ⟨j, hj, rfl⟩
    · exact Or.inr hnew
  · cases kind with
    | text s => exact htext i (eq_some_of_map hpi) hi s rfl
    | _ => cases hs

/-! ### Text inside hidden nodes -/

/-- More text inside a hidden node of the first draft. -/
theorem textAdded_left (h : Mirrors r H f V d d') (hlt : ∀ i, V i → i < d.nodes.size)
    (hp : p ∈ H) (hadded : d.TextAdded e (fun i => V i ∨ i ∈ d.children r) p) :
    Mirrors r H f V e d' := by
  have hrp : r ≠ p := fun hrp => h.root.2.1 (hrp ▸ hp)
  have hroot : e.children r = d.children r := hadded.children r hrp
  obtain ⟨ghosts, ghosts', shown, hchildren⟩ := h.rootChildren
  refine
    { zero := h.zero
      root := ⟨h.root.1, h.root.2.1, h.root.2.2.1.grow hadded.grows, h.root.2.2.2⟩
      hidden := fun i hi => ?_
      sound := ⟨hadded.sound, h.sound.2⟩
      contents := fun i name attributes c hi hkind => ?_
      kind := fun i hi => ?_
      children := fun i hi hir hiH => ?_
      rootChildren := ⟨ghosts, ghosts', shown, hroot.trans hchildren.children,
        hchildren.children', hchildren.mem_shown, fun c hc => ?_, hchildren.mem_ghosts',
        fun hnil c hc htext => ?_, hchildren.last', hchildren.nodup⟩
      texts := fun i hi => ⟨(h.texts i hi).1.grow hadded h.sound.1 hlt hrp, (h.texts i hi).2⟩ }
  · rw [hadded.kind i (Or.inl (h.hidden i hi).1)]
    exact h.hidden i hi
  · rw [hadded.kind i (Or.inl hi)] at hkind
    exact h.contents i name attributes c hi hkind
  · rw [Corresponds, hadded.kind i (Or.inl hi), hroot]
    exact h.kind i hi
  · rw [hadded.children i fun hip => hiH (hip ▸ hp)]
    obtain ⟨heq, hmem⟩ := h.children i hi hir hiH
    exact ⟨heq, fun c hc => (hmem c hc).congr id fun hcr => hroot ▸ hcr⟩
  · obtain ⟨hV, hlight, hrc⟩ := hchildren.mem_ghosts c hc
    have hkind := hadded.kind c (Or.inr (hchildren.mem_children hc))
    exact ⟨hV, hlight.congr hkind (hadded.children c fun hcp => hV (hcp ▸ (h.hidden p hp).1)), hrc⟩
  · have hlight := (hchildren.mem_ghosts c (List.mem_of_getLast? hc)).2.1
    rw [ne_eq, hadded.text c hlight.lt] at htext
    exact hchildren.last hnil c hc htext

/-- More text inside a hidden node of the second draft. -/
theorem textAdded_right (h : Mirrors r H f V d d') (hlt : ∀ i, V i → f i < d'.nodes.size)
    (hp : p ∈ H)
    (hadded : d'.TextAdded e' (fun i => (∃ j, V j ∧ f j = i) ∨ i ∈ d'.children (f r)) (f p)) :
    Mirrors r H f V d e' := by
  have hrp : f r ≠ f p := fun hrp => h.root.2.1 (f.injective hrp ▸ hp)
  have hroot : e'.children (f r) = d'.children (f r) := hadded.children _ hrp
  have hkind {i : Nat} (hi : V i) : e'.kind? (f i) = d'.kind? (f i) :=
    hadded.kind (f i) (Or.inl ⟨i, hi, rfl⟩)
  obtain ⟨ghosts, ghosts', shown, hchildren⟩ := h.rootChildren
  refine
    { zero := h.zero
      root := ⟨h.root.1, h.root.2.1, h.root.2.2.1, h.root.2.2.2.grow hadded.grows⟩
      hidden := h.hidden
      sound := ⟨h.sound.1, hadded.sound⟩
      contents := h.contents
      kind := fun i hi => ?_
      children := fun i hi hir hiH => ?_
      rootChildren := ⟨ghosts, ghosts', shown, hchildren.children, hroot.trans hchildren.children',
        hchildren.mem_shown, hchildren.mem_ghosts, fun c hc => ?_, hchildren.last,
        fun hnil c hc => ?_, hchildren.nodup⟩
      texts := fun i hi => ⟨(h.texts i hi).1,
        (h.texts i hi).2.grow hadded h.sound.2 (fun c hc => ?_) hrp⟩ }
  · rw [Corresponds, hkind hi]
    exact h.kind i hi
  · rw [hadded.children _ fun hip => hiH (by rwa [f.injective hip])]
    exact h.children i hi hir hiH
  · obtain ⟨hV, hlight⟩ := hchildren.mem_ghosts' c hc
    exact ⟨hV, hlight.congr (hadded.kind c (Or.inr (hchildren.mem_children' hc)))
      (hadded.children c (hV p (h.hidden p hp).1).symm)⟩
  · have hlight := (hchildren.mem_ghosts' c (List.mem_of_getLast? hc)).2
    rw [hadded.text c hlight.lt]
    exact hchildren.last' hnil c hc
  · obtain ⟨i, hi, rfl⟩ := hc
    exact hlt i hi

/-- Text inside a hidden node of both drafts, whatever is there already. -/
theorem appendText_hidden (h : Mirrors r H f V d d')
    (hlt : ∀ i, V i → i < d.nodes.size ∧ f i < d'.nodes.size) (hp : p ∈ H) (s : String) :
    Mirrors r H f V (d.appendText p s) (d'.appendText (f p) s) := by
  have hpV : V p := (h.hidden p hp).1
  refine (h.textAdded_left (fun i hi => (hlt i hi).1) hp ?_).textAdded_right
    (fun i hi => (hlt i hi).2) hp ?_
  · exact (h.texts p hp).1.textAdded h.sound.1 (hlt p hpV).1 (fun i hi => (hlt i hi).1) s
  · refine (h.texts p hp).2.textAdded h.sound.2 (hlt p hpV).2 (fun i hi => ?_) s
    obtain ⟨j, hj, rfl⟩ := hi
    exact (hlt j hj).2

/-! ### Text that shows -/

/-- A text grows in both drafts. -/
theorem extendText (h : Mirrors r H f V d d') {c : Nat} (hc : V c) {t t' : String}
    (hkind : d.kind? c = some (.text t)) (hkind' : d'.kind? (f c) = some (.text t')) (s : String) :
    Mirrors r H f V (d.extendText c s) (d'.extendText (f c) s) := by
  have hchildren (i : Nat) : (d.extendText c s).children i = d.children i :=
    Draft.children_extendText ..
  have hchildren' (i : Nat) : (d'.extendText (f c) s).children i = d'.children i :=
    Draft.children_extendText ..
  have hne {i : Nat} (hi : ¬V i) : (d.extendText c s).kind? i = d.kind? i :=
    Draft.kind?_extendText_of_ne d (fun hic => hi (by rwa [hic])) s
  have hne' {i : Nat} (hi : ∀ j, V j → f j ≠ i) : (d'.extendText (f c) s).kind? i = d'.kind? i :=
    Draft.kind?_extendText_of_ne d' (fun hic => hi c hc hic.symm) s
  obtain ⟨ghosts, ghosts', shown, hroot⟩ := h.rootChildren
  refine
    { zero := h.zero
      root := ⟨h.root.1, h.root.2.1, h.root.2.2.1.grow (Draft.grows_extendText hkind s),
        h.root.2.2.2.grow (Draft.grows_extendText hkind' s)⟩
      hidden := fun i hi => ⟨(h.hidden i hi).1, fun hzero => ?_⟩
      sound := ⟨h.sound.1.extendText c s, h.sound.2.extendText (f c) s⟩
      contents := fun i name attributes contents hi hi' => ?_
      kind := fun i hi => (h.kind i hi).extendText hkind hkind' s
      children := fun i hi hir hiH => ?_
      rootChildren := ⟨ghosts, ghosts', shown, (hchildren r).trans hroot.children,
        (hchildren' _).trans hroot.children', hroot.mem_shown, fun i hi => ?_, fun i hi => ?_,
        fun hnil i hi htext => ?_, fun hnil i hi => ?_, hroot.nodup⟩
      texts := fun i hi => ⟨(h.texts i hi).1.extendText hkind s,
        (h.texts i hi).2.extendText hkind' s⟩ }
  · obtain ⟨attributes, helement⟩ := (h.hidden i hi).2 hzero
    refine ⟨attributes, ?_⟩
    rw [Draft.kind?_extendText_of_ne d _ s, helement]
    rintro rfl
    rw [hkind] at helement
    cases helement
  · refine h.contents i name attributes contents hi ?_
    by_cases hic : i = c
    · subst hic
      rw [Draft.kind?_extendText_self hkind] at hi'
      cases hi'
    · rwa [Draft.kind?_extendText_of_ne d hic] at hi'
  · rw [hchildren, hchildren']
    obtain ⟨heq, hmem⟩ := h.children i hi hir hiH
    exact ⟨heq, fun c hc => (hmem c hc).congr id fun hcr => hchildren r ▸ hcr⟩
  · obtain ⟨hV, hlight, hri⟩ := hroot.mem_ghosts i hi
    exact ⟨hV, hlight.congr (hne hV) (hchildren i), hri⟩
  · obtain ⟨hV, hlight⟩ := hroot.mem_ghosts' i hi
    exact ⟨hV, hlight.congr (hne' hV) (hchildren' i)⟩
  · rw [ne_eq, Draft.text?_extendText_eq_none_iff hkind] at htext
    exact hroot.last hnil i hi htext
  · rw [Draft.text?_extendText_eq_none_iff hkind']
    exact hroot.last' hnil i hi

/-- The children of the root when the first text that shows becomes part of its only child in the
first draft, and a child behind all others in the second one. -/
theorem rootMirrors_pending {k : Nat} (hchildren : d.children r = [k]) (hrk : r < k)
    (hr : f r < d'.nodes.size)
    (hghosts' : ∀ c ∈ d'.children (f r), (∀ i, V i → f i ≠ c) ∧ d'.Light c) (hrV : V r)
    (hnew : f k = d'.nodes.size) (s : String) :
    RootMirrors r f (fun i => V i ∨ i = k) (d.extendText k s) (d'.adding (.text s) (some (f r))) []
      (d'.children (f r)) [k] := by
  have hplace : ∀ p, some (f r) = some p → p < d'.nodes.size := by simpa using hr
  refine ⟨?_, ?_, fun c hc => ?_, by simp, fun c hc => ?_, by simp, by simp, by simp⟩
  · rw [Draft.children_extendText, hchildren, List.nil_append]
  · rw [Draft.children_adding _ _ hplace, if_pos rfl, ← hnew, List.map_singleton]
  · rw [List.mem_singleton.mp hc, hnew]
    exact ⟨Or.inr rfl, hrk, hr⟩
  · obtain ⟨hV, hlight⟩ := hghosts' c hc
    refine ⟨fun i hi => ?_, hlight.adding (.text s) hplace (by simpa using hV r hrV)⟩
    rcases hi with hi | rfl
    · exact hV i hi
    · rw [hnew]
      exact Nat.ne_of_gt hlight.lt

/-- The first text that shows becomes part of blanks that stand alone in the first draft, and a node
of its own in the second one. -/
theorem appendText_pending (h : Mirrors r H f V d d')
    (hlt : ∀ i, V i → i < d.nodes.size ∧ f i < d'.nodes.size) {k : Nat} {t : String}
    (hk : ¬V k) (hchildren : d.children r = [k]) (hkind : d.kind? k = some (.text t))
    (hleaf : d.children k = []) (hblank : isBlankRun t.toList = true) (hrk : r < k)
    (hghosts' : ∀ c ∈ d'.children (f r), (∀ i, V i → f i ≠ c) ∧ d'.Light c)
    (hnew : f k = d'.nodes.size) (s : String) :
    Mirrors r H f (fun i => V i ∨ i = k) (d.extendText k s)
      (d'.adding (.text s) (some (f r))) := by
  have hr := (hlt r h.root.1).2
  have hr' : ∀ p, some (f r) = some p → p < d'.nodes.size := by simpa using hr
  have hgrows' := Draft.grows_adding d' (.text s) hr'
  have hsound' := h.sound.2.adding (.text s) hr'
  have hne {i : Nat} (hi : V i) : i ≠ k := fun hik => hk (by rwa [← hik])
  have hold {i : Nat} (hi : V i) : (d.extendText k s).kind? i = d.kind? i :=
    Draft.kind?_extendText_of_ne d (hne hi) s
  have hk' : (d'.adding (.text s) (some (f r))).kind? (f k) = some (.text s) := by
    rw [hnew, Draft.kind?_adding_size]
  refine
    { zero := ⟨Or.inl h.zero.1, h.zero.2⟩
      root := ⟨Or.inl h.root.1, h.root.2.1, h.root.2.2.1.grow (Draft.grows_extendText hkind s),
        h.root.2.2.2.grow hgrows'⟩
      hidden := fun i hi => ?_
      sound := ⟨h.sound.1.extendText k s, hsound'⟩
      contents := fun i name attributes c hi hkindi => ?_
      kind := fun i hi => ?_
      children := fun i hi hir hiH => ?_
      rootChildren := ⟨_, _, _, rootMirrors_pending hchildren hrk hr hghosts' h.root.1 hnew s⟩
      texts := fun i hi => ⟨((h.texts i hi).1.mono fun c hc => ?_).extendText hkind s, ?_⟩ }
  · rw [hold (h.hidden i hi).1]
    exact ⟨Or.inl (h.hidden i hi).1, (h.hidden i hi).2⟩
  · rcases hi with hi | rfl
    · rw [hold hi] at hkindi
      exact Or.inl (h.contents i name attributes c hi hkindi)
    · rw [Draft.kind?_extendText_self hkind] at hkindi
      cases hkindi
  · rcases hi with hi | rfl
    · refine (h.kind i hi).imp (fun heq => ?_) fun ⟨hhead, _⟩ => ?_
      · rw [hold hi, Draft.kind?_adding_of_lt (hlt i hi).2, heq]
      · rw [hchildren, List.head?_cons, Option.some_inj] at hhead
        exact absurd hhead.symm (hne hi)
    · refine Or.inr ⟨by rw [Draft.children_extendText, hchildren]; rfl, t, s, hblank, ?_, hk'⟩
      rw [Draft.kind?_extendText_self hkind]
  · rcases hi with hi | rfl
    · obtain ⟨heq, hmem⟩ := h.children i hi hir hiH
      rw [Draft.children_extendText,
        Draft.children_adding_of_ne _ hr' (by simpa using Ne.symm hir)]
      refine ⟨heq, fun c hc => (hmem c hc).congr Or.inl fun hcr => ?_⟩
      rwa [Draft.children_extendText] at hcr
    · rw [Draft.children_extendText, hleaf, hnew, Draft.children_adding_size _ hr']
      exact ⟨rfl, fun c hc => absurd hc List.not_mem_nil⟩
  · rwa [hchildren, List.mem_singleton]
  · refine Draft.Conceals.adding (h.texts i hi).2 h.sound.2 hr' (fun c hc => ?_) fun hrh => ?_
    · obtain ⟨j, hj | rfl, rfl⟩ := hc
      · exact Or.inl ⟨j, hj, rfl⟩
      · exact Or.inr hnew
    · exact absurd hi (f.injective (Option.some.inj hrh) ▸ h.root.2.1)

/-- Text becomes a node of its own in both drafts. -/
theorem exists_insertText (h : Mirrors r H f V d d')
    (hlt : ∀ i, V i → i < d.nodes.size ∧ f i < d'.nodes.size) (hp : V p) (hpH : p ∉ H)
    (s : String) :
    ∃ (f' : Equiv.Perm Nat) (V' : Nat → Prop), (∀ i, V i → V' i ∧ f' i = f i) ∧
      (∀ i, V' i → i < (d.insertNew (.text s) p).nodes.size ∧
        f' i < (d'.insertNew (.text s) (f p)).nodes.size) ∧
      Mirrors r H f' V' (d.insertNew (.text s) p) (d'.insertNew (.text s) (f p)) := by
  obtain ⟨f', hext, hnew⟩ := Builder.exists_extends_new hlt
  have hinsert := (h.congr hext).adding (Builder.lt_of_extends hlt hext) hnew (some p)
    (by simpa using hp) (.text s) (by simp) (by simpa using hpH)
  rw [Option.map_some, hext p hp] at hinsert
  refine ⟨f', _, fun i hi => ⟨Or.inl hi, hext i hi⟩, ?_, hinsert⟩
  rw [Draft.size_insertNew, Draft.size_insertNew]
  exact Builder.lt_succ_of_extends hlt hext hnew

/-- Text behind a child that has a counterpart, or inside a node without children. -/
theorem exists_appendText (h : Mirrors r H f V d d')
    (hlt : ∀ i, V i → i < d.nodes.size ∧ f i < d'.nodes.size) (hp : V p) (hpH : p ∉ H)
    (hlast : (d'.children (f p)).getLast? = (d.children p).getLast?.map f)
    (hmem : ∀ c, (d.children p).getLast? = some c → V c) (s : String) :
    ∃ (f' : Equiv.Perm Nat) (V' : Nat → Prop), (∀ i, V i → V' i ∧ f' i = f i) ∧
      (∀ i, V' i → i < (d.appendText p s).nodes.size ∧
        f' i < (d'.appendText (f p) s).nodes.size) ∧
      Mirrors r H f' V' (d.appendText p s) (d'.appendText (f p) s) := by
  rcases d.appendText_cases p s with ⟨heq, hnone⟩ | ⟨c, t, hc, hkind, heq⟩
  · rcases d'.appendText_cases (f p) s with ⟨heq', -⟩ | ⟨c', t', hc', hkind', -⟩
    · rw [heq, heq']
      exact h.exists_insertText hlt hp hpH s
    · obtain ⟨c, hc, rfl⟩ := Option.map_eq_some_iff.mp (hlast.symm.trans hc')
      have hnone' := (h.text?_eq_none_iff (hmem c hc)).mpr (hnone c hc)
      rw [Draft.text?_eq, hkind'] at hnone'
      cases hnone'
  · have hV := hmem c hc
    rw [hc, Option.map_some] at hlast
    rcases d'.appendText_cases (f p) s with ⟨-, hnone'⟩ | ⟨c', t', hc', hkind', heq'⟩
    · have hnone := (h.text?_eq_none_iff hV).mp (hnone' (f c) hlast)
      rw [Draft.text?_eq, hkind] at hnone
      cases hnone
    · cases Option.some.inj (hlast.symm.trans hc')
      rw [heq, heq']
      refine ⟨f, V, fun i hi => ⟨hi, rfl⟩, fun i hi => ?_, h.extendText hV hkind hkind' s⟩
      rw [Draft.size_extendText, Draft.size_extendText]
      exact hlt i hi

/-- Text at the end of the root while nothing shows there. -/
theorem exists_appendText_nil (h : Mirrors r H f V d d')
    (hlt : ∀ i, V i → i < d.nodes.size ∧ f i < d'.nodes.size) {ghosts ghosts' : List Nat}
    (hroot : RootMirrors r f V d d' ghosts ghosts' []) (s : String) :
    ∃ (f' : Equiv.Perm Nat) (V' : Nat → Prop), (∀ i, V i → V' i ∧ f' i = f i) ∧
      (∀ i, V' i → i < (d.appendText r s).nodes.size ∧
        f' i < (d'.appendText (f r) s).nodes.size) ∧
      Mirrors r H f' V' (d.appendText r s) (d'.appendText (f r) s) := by
  have hchildren : d.children r = ghosts := by rw [hroot.children, List.append_nil]
  have hchildren' : d'.children (f r) = ghosts' := by
    rw [hroot.children', List.map_nil, List.append_nil]
  have heq' : d'.appendText (f r) s = d'.insertNew (.text s) (f r) := by
    rcases d'.appendText_cases (f r) s with ⟨heq', -⟩ | ⟨c, t, hc, hkind, -⟩
    · exact heq'
    · -- In the second draft the last child is no text, so it does not become longer either.
      have hnone := hroot.last' rfl c (by rwa [← hchildren'])
      rw [Draft.text?_eq, hkind] at hnone
      cases hnone
  rw [heq']
  rcases d.appendText_cases r s with ⟨heq, -⟩ | ⟨k, t, hk, hkind, heq⟩
  · rw [heq]
    exact h.exists_insertText hlt h.root.1 h.root.2.1 s
  · have hghosts : ghosts = [k] := hroot.last rfl k (by rwa [← hchildren]) (by
      rw [Draft.text?_eq, hkind]
      simp)
    -- Blanks alone in the root of the first draft become part of the text that follows.
    obtain ⟨hV, ⟨hleaf, kind, hkind', hlight⟩, hrk⟩ := hroot.mem_ghosts k (by simp [hghosts])
    rw [hkind, Option.some_inj] at hkind'
    subst hkind'
    obtain ⟨f', hext, hnew⟩ := Builder.exists_extends hV fun i hi => Nat.ne_of_lt (hlt i hi).2
    have hghosts' (c : Nat) (hc : c ∈ d'.children (f' r)) :
        (∀ i, V i → f' i ≠ c) ∧ d'.Light c := by
      rw [hext r h.root.1, hchildren'] at hc
      obtain ⟨hne, hlight'⟩ := hroot.mem_ghosts' c hc
      refine ⟨fun i hi => ?_, hlight'⟩
      rw [hext i hi]
      exact hne i hi
    have hpending := (h.congr hext).appendText_pending (Builder.lt_of_extends hlt hext) hV
      (hchildren.trans hghosts) hkind hleaf hlight hrk hghosts' hnew s
    rw [heq]
    rw [hext r h.root.1] at hpending
    refine ⟨f', _, fun i hi => ⟨Or.inl hi, hext i hi⟩, fun i hi => ?_, hpending⟩
    rw [Draft.size_extendText, Draft.size_insertNew]
    rcases hi with hi | rfl
    · rw [hext i hi]
      exact ⟨(hlt i hi).1, Nat.lt_succ_of_lt (hlt i hi).2⟩
    · rw [hnew]
      exact ⟨Draft.lt_of_kind? hkind, Nat.lt_succ_self _⟩

/-- Text at the end of a node in both drafts. -/
theorem appendText (h : Mirrors r H f V d d')
    (hlt : ∀ i, V i → i < d.nodes.size ∧ f i < d'.nodes.size) (hp : V p) (s : String) :
    ∃ (f' : Equiv.Perm Nat) (V' : Nat → Prop), (∀ i, V i → V' i ∧ f' i = f i) ∧
      (∀ i, V' i → i < (d.appendText p s).nodes.size ∧
        f' i < (d'.appendText (f p) s).nodes.size) ∧
      Mirrors r H f' V' (d.appendText p s) (d'.appendText (f p) s) := by
  by_cases hpH : p ∈ H
  · refine ⟨f, V, fun i hi => ⟨hi, rfl⟩, fun i hi => ?_, h.appendText_hidden hlt hpH s⟩
    exact ⟨Nat.lt_of_lt_of_le (hlt i hi).1 (Draft.size_le_appendText ..),
      Nat.lt_of_lt_of_le (hlt i hi).2 (Draft.size_le_appendText ..)⟩
  · by_cases hpr : p = r
    · subst hpr
      obtain ⟨ghosts, ghosts', shown, hroot⟩ := h.rootChildren
      cases hshown : shown.getLast? with
      | none =>
        cases List.getLast?_eq_none_iff.mp hshown
        exact h.exists_appendText_nil hlt hroot s
      | some c =>
        have hlast : (d.children p).getLast? = some c := by
          rw [hroot.children, List.getLast?_append, hshown]
          rfl
        refine h.exists_appendText hlt hp hpH ?_ (fun c' hc' => ?_) s
        · rw [hlast, hroot.children', List.getLast?_append, List.getLast?_map, hshown]
          rfl
        · cases Option.some.inj (hlast.symm.trans hc')
          exact (hroot.mem_shown c (List.mem_of_getLast? hshown)).1
    · obtain ⟨heq, hmem⟩ := h.children p hp hpr hpH
      refine h.exists_appendText hlt hp hpH ?_ (fun c hc => ?_) s
      · rw [heq, List.getLast?_map]
      · exact (hmem c (List.mem_of_getLast? hc)).mem

/-- Mirroring is kept in construction. -/
theorem draftRelation (r : Nat) (H : List Nat) : DraftRelation { draft := Mirrors r H } where
  congr := fun h hext => h.congr hext
  contents := fun h hi => h.contents_eq hi
  addDocument := fun h hlt hnew =>
    h.adding hlt hnew none (by simp) .document (by simp) (by simp)
  insert := fun {_ _ _ _ p} kind h hlt hnew hp hcontents htext =>
    h.adding hlt hnew (some p) (by simpa using hp) kind hcontents fun _ _ _ => htext
  appendText := fun h hlt hp s => h.appendText hlt hp s

end Mirrors

end HtmlText
