import HtmlText.Proofs.Alike.Outcome
import HtmlText.Proofs.Settling

/-!
# Documents before and in the head

A declaration in front of what would open the head opens the head earlier. What comes up before the
head is opened otherwise goes into the head then, and does not show. So the head is opened sooner or
later in both documents, and from there on they mirror each other.

## Main definitions

* `Draft.Rootless`, `Draft.Rooted`, `Draft.Headed`: drafts of documents up to the head.

## Main results

* `Builder.alike_headed`: documents that have come up to the head are alike.
-/

namespace HtmlText

namespace Draft

variable {d : Draft} {r h : Nat} {attributes headAttributes : List (String × String)}

/-- What stands in front of the root element. -/
def Prolog (d : Draft) (i : Nat) : Prop :=
  (∃ s, d.kind? i = some (.comment s)) ∨ ∃ t, d.kind? i = some (.doctype t)

theorem Prolog.text?_eq_none {i : Nat} (h : d.Prolog i) : d.text? i = none := by
  rw [text?_eq]
  rcases h with ⟨s, hs⟩ | ⟨t, ht⟩
  · rw [hs]
  · rw [ht]

theorem Prolog.adding {i : Nat} (h : d.Prolog i) (kind : DraftKind) (place : Option Nat) :
    (d.adding kind place).Prolog i := by
  rcases h with ⟨s, hs⟩ | ⟨t, ht⟩
  · exact Or.inl ⟨s, kind?_adding_of_some hs place⟩
  · exact Or.inr ⟨t, kind?_adding_of_some ht place⟩

/-- A document without a root element. -/
structure Rootless (d : Draft) : Prop where
  document : d.kind? 0 = some .document
  sound : d.Sound
  prolog : ∀ c ∈ d.children 0, d.Prolog c

/-- A document whose root element holds nothing but comments. -/
structure Rooted (d : Draft) (r : Nat) (attributes : List (String × String)) : Prop where
  document : d.kind? 0 = some .document
  sound : d.Sound
  root : d.kind? r = some (.element (.html "html") attributes none)
  leads : d.Leads r
  prolog : ∀ c ∈ d.children 0, d.text? c = none
  light : ∀ c ∈ d.children r, d.Light c ∧ r < c
  pos : 0 < r

/-- A document whose root element holds a head behind nothing but comments. -/
structure Headed (d : Draft) (r h : Nat) (attributes headAttributes : List (String × String)) :
    Prop where
  document : d.kind? 0 = some .document
  sound : d.Sound
  root : d.kind? r = some (.element (.html "html") attributes none)
  leads : d.Leads r
  prolog : ∀ c ∈ d.children 0, d.text? c = none
  head : d.kind? h = some (.element (.html "head") headAttributes none)
  children : ∃ before, d.children r = before ++ [h] ∧ ∀ c ∈ before, d.Light c ∧ r < c
  lt : 0 < r ∧ r < h
  conceals : d.Conceals (fun i => i = 0 ∨ i = r ∨ i = h) r h

/-! ### Before the root element -/

theorem rootless_empty : Draft.empty.Rootless where
  document := rfl
  sound := fun i c hc => by
    cases i with
    | zero => exact absurd hc List.not_mem_nil
    | succ i => exact absurd hc List.not_mem_nil
  prolog := fun c hc => absurd hc List.not_mem_nil

/-- A comment or a document type. -/
theorem Rootless.adding (hd : d.Rootless) {kind : DraftKind}
    (hkind : (∃ s, kind = .comment s) ∨ ∃ t, kind = .doctype t) :
    (d.adding kind (some 0)).Rootless := by
  have hplace : ∀ p, some 0 = some p → p < d.nodes.size := by simpa using lt_of_kind? hd.document
  refine ⟨kind?_adding_of_some hd.document _, hd.sound.adding kind hplace, fun c hc => ?_⟩
  rw [children_adding _ _ hplace, if_pos rfl] at hc
  rcases List.mem_append.mp hc with hc | hc
  · exact (hd.prolog c hc).adding kind _
  · rw [List.mem_singleton.mp hc, Prolog, kind?_adding_size]
    simpa using hkind

/-- The root element. -/
theorem Rootless.addRoot (hd : d.Rootless) (attributes : List (String × String)) :
    (d.adding (.element (.html "html") attributes none) (some 0)).Rooted d.nodes.size
      attributes := by
  have hpos : 0 < d.nodes.size := lt_of_kind? hd.document
  have hplace : ∀ p, some 0 = some p → p < d.nodes.size := by simpa using hpos
  have hroot := d.kind?_adding_size (.element (.html "html") attributes none) (some 0)
  have hchildren := d.children_adding (.element (.html "html") attributes none) hplace
  refine ⟨kind?_adding_of_some hd.document _, hd.sound.adding _ hplace, hroot,
    ⟨⟨attributes, hroot⟩, d.children 0, [], ?_, fun c hc => ?_⟩, fun c hc => ?_, fun c hc => ?_,
    hpos⟩
  · rw [hchildren, if_pos rfl]
  · rcases (hd.prolog c hc).adding _ _ with ⟨s, hs⟩ | ⟨t, ht⟩
    · exact ⟨_, hs, by simp⟩
    · exact ⟨_, ht, by simp⟩
  · rw [hchildren, if_pos rfl] at hc
    rcases List.mem_append.mp hc with hc | hc
    · exact ((hd.prolog c hc).adding _ _).text?_eq_none
    · rw [List.mem_singleton.mp hc, text?_eq, hroot]
  · rw [children_adding_size _ hplace] at hc
    exact absurd hc List.not_mem_nil

/-! ### Before the head -/

/-- What stands beside the root element when a node is added elsewhere. -/
theorem Sound.prolog_adding (hsound : d.Sound) (hprolog : ∀ c ∈ d.children 0, d.text? c = none)
    (kind : DraftKind) {place : Option Nat} (hplace : ∀ p, place = some p → p < d.nodes.size)
    (hzero : place ≠ some 0) :
    ∀ c ∈ (d.adding kind place).children 0, (d.adding kind place).text? c = none := by
  intro c hc
  rw [children_adding_of_ne kind hplace hzero] at hc
  rw [text?_adding_of_lt (hsound 0 c hc)]
  exact hprolog c hc

/-- A comment inside the root element. -/
theorem Rooted.addComment (hd : d.Rooted r attributes) (s : String) :
    (d.adding (.comment s) (some r)).Rooted r attributes := by
  have hr : r < d.nodes.size := lt_of_kind? hd.root
  have hplace : ∀ p, some r = some p → p < d.nodes.size := by simpa using hr
  refine ⟨kind?_adding_of_some hd.document _, hd.sound.adding _ hplace,
    kind?_adding_of_some hd.root _, hd.leads.grow (grows_adding _ _ hplace),
    hd.sound.prolog_adding hd.prolog _ hplace (by simp [Nat.ne_of_gt hd.pos]), fun c hc => ?_,
    hd.pos⟩
  rw [children_adding _ _ hplace, if_pos rfl] at hc
  rcases List.mem_append.mp hc with hc | hc
  · obtain ⟨hlight, hrc⟩ := hd.light c hc
    exact ⟨hlight.adding _ hplace (by simp [Nat.ne_of_lt hrc]), hrc⟩
  · rw [List.mem_singleton.mp hc]
    exact ⟨light_adding_size (.comment s) trivial hplace, hr⟩

/-- The head. -/
theorem Rooted.addHead (hd : d.Rooted r attributes) (headAttributes : List (String × String)) :
    (d.adding (.element (.html "head") headAttributes none) (some r)).Headed r d.nodes.size
      attributes headAttributes := by
  have hr : r < d.nodes.size := lt_of_kind? hd.root
  have hplace : ∀ p, some r = some p → p < d.nodes.size := by simpa using hr
  refine ⟨kind?_adding_of_some hd.document _, hd.sound.adding _ hplace,
    kind?_adding_of_some hd.root _, hd.leads.grow (grows_adding _ _ hplace),
    hd.sound.prolog_adding hd.prolog _ hplace (by simp [Nat.ne_of_gt hd.pos]),
    kind?_adding_size .., ⟨d.children r, by rw [children_adding _ _ hplace, if_pos rfl],
      fun c hc => ?_⟩, ⟨hd.pos, hr⟩, fun c hc => ?_⟩
  · obtain ⟨hlight, hrc⟩ := hd.light c hc
    exact ⟨hlight.adding _ hplace (by simp [Nat.ne_of_lt hrc]), hrc⟩
  · rw [children_adding_size _ hplace] at hc
    exact absurd hc List.not_mem_nil

/-! ### In the head -/

theorem Headed.ne_of_light (hd : d.Headed r h attributes headAttributes) {c : Nat}
    (hc : d.Light c) : c ≠ h := by
  rintro rfl
  obtain ⟨-, kind, hkind, hlight⟩ := hc
  rw [hd.head, Option.some_inj] at hkind
  rw [← hkind] at hlight
  exact absurd (show ElementName.html "head" = .html "meta" from hlight) (by decide)

/-- A comment or an element inside the head. -/
theorem Headed.adding (hd : d.Headed r h attributes headAttributes) {kind : DraftKind}
    (hkind : ∀ s, kind ≠ .text s) :
    (d.adding kind (some h)).Headed r h attributes headAttributes := by
  have hplace : ∀ p, some h = some p → p < d.nodes.size := by simpa using lt_of_kind? hd.head
  obtain ⟨before, hbefore, hlight⟩ := hd.children
  refine ⟨kind?_adding_of_some hd.document _, hd.sound.adding _ hplace,
    kind?_adding_of_some hd.root _, hd.leads.grow (grows_adding _ _ hplace),
    hd.sound.prolog_adding hd.prolog _ hplace
      (by simp [Nat.ne_of_gt (Nat.lt_trans hd.lt.1 hd.lt.2)]),
    kind?_adding_of_some hd.head _, ⟨before, ?_, fun c hc => ?_⟩, hd.lt,
    hd.conceals.adding hd.sound hplace (fun c hc => Or.inl hc) fun _ => hkind⟩
  · rw [children_adding_of_ne _ hplace (by simp [Nat.ne_of_gt hd.lt.2]), hbefore]
  · obtain ⟨hlight, hrc⟩ := hlight c hc
    exact ⟨hlight.adding _ hplace (by simp [(hd.ne_of_light hlight).symm]), hrc⟩

/-- Text inside the head. -/
theorem Headed.appendText (hd : d.Headed r h attributes headAttributes) (s : String) :
    (d.appendText h s).Headed r h attributes headAttributes := by
  have hlt (i : Nat) (hi : i = 0 ∨ i = r ∨ i = h) : i < d.nodes.size := by
    rcases hi with rfl | rfl | rfl
    · exact lt_of_kind? hd.document
    · exact lt_of_kind? hd.root
    · exact lt_of_kind? hd.head
  have hadded := hd.conceals.textAdded hd.sound (hlt h (by simp)) hlt s
  have hchildren {i : Nat} (hi : i ≠ h) : (d.appendText h s).children i = d.children i :=
    hadded.children i hi
  have hrh : r ≠ h := Nat.ne_of_lt hd.lt.2
  obtain ⟨before, hbefore, hlight⟩ := hd.children
  have hmem {c : Nat} (hc : c ∈ before) : c ∈ d.children r := by
    rw [hbefore]
    exact List.mem_append_left _ hc
  refine ⟨(hadded.kind 0 (by simp)).trans hd.document, hadded.sound,
    (hadded.kind r (by simp)).trans hd.root, hd.leads.grow hadded.grows, fun c hc => ?_,
    (hadded.kind h (by simp)).trans hd.head, ⟨before, (hchildren hrh).trans hbefore,
      fun c hc => ?_⟩, hd.lt, hd.conceals.grow hadded hd.sound hlt hrh⟩
  · rw [hchildren (Nat.ne_of_lt (Nat.lt_trans hd.lt.1 hd.lt.2))] at hc
    exact (hadded.text c (hd.sound 0 c hc)).mpr (hd.prolog c hc)
  · obtain ⟨hlight, hrc⟩ := hlight c hc
    exact ⟨hlight.congr (hadded.kind c (Or.inr (hmem hc)))
      (hchildren (hd.ne_of_light hlight)), hrc⟩

end Draft

/-! ### Alike documents -/

/-- A renaming with three given values. -/
theorem exists_perm {r h r' h' : Nat} (hr : 0 < r ∧ r < h) (hr' : 0 < r' ∧ r' < h') :
    ∃ f : Equiv.Perm Nat, f 0 = 0 ∧ f r = r' ∧ f h = h' := by
  have hnew₁ : ∀ i, i = 0 → Equiv.refl Nat i ≠ r' := by
    rintro i rfl
    exact Nat.ne_of_lt hr'.1
  obtain ⟨f₁, hf₁, hr₁⟩ := Builder.exists_extends (V := (· = 0)) (m := r) (by omega) hnew₁
  have hzero : f₁ 0 = 0 := hf₁ 0 rfl
  have hnew₂ : ∀ i, i = 0 ∨ i = r → f₁ i ≠ h' := by
    rintro i (rfl | rfl)
    · rw [hzero]
      omega
    · rw [hr₁]
      omega
  obtain ⟨f₂, hf₂, hh⟩ := Builder.exists_extends (V := fun i => i = 0 ∨ i = r) (m := h)
    (by omega) hnew₂
  exact ⟨f₂, (hf₂ 0 (Or.inl rfl)).trans hzero, (hf₂ r (Or.inr rfl)).trans hr₁, hh⟩

variable {d d' : Draft} {r h r' h' : Nat} {attributes headAttributes : List (String × String)}
  {f : Equiv.Perm Nat}

theorem Draft.Headed.ne_of_mem (hd : d.Headed r h attributes headAttributes) {c : Nat}
    (hc : d.Light c ∧ r < c) : c ≠ 0 ∧ c ≠ r ∧ c ≠ h :=
  ⟨Nat.ne_of_gt (Nat.lt_trans hd.lt.1 hc.2), Nat.ne_of_gt hc.2, hd.ne_of_light hc.1⟩

/-- The root elements mirror each other: in each of them the head is the first child that shows. -/
theorem Draft.Headed.exists_rootMirrors (hd : d.Headed r h attributes headAttributes)
    (hd' : d'.Headed r' h' attributes headAttributes) (hr : f r = r') (hh : f h = h')
    (himage : ∀ {c}, (∃ i, (i = 0 ∨ i = r ∨ i = h) ∧ f i = c) → c = 0 ∨ c = r' ∨ c = h') :
    ∃ ghosts ghosts',
      RootMirrors r f (fun i => i = 0 ∨ i = r ∨ i = h) d d' ghosts ghosts' [h] := by
  obtain ⟨before, hbefore, hlight⟩ := hd.children
  obtain ⟨before', hbefore', hlight'⟩ := hd'.children
  refine ⟨before, before', hbefore, by rw [hr, hbefore', ← hh]; rfl, fun c hc => ?_,
    fun c hc => ?_, fun c hc => ?_, by simp, by simp, by simp⟩
  · rw [List.mem_singleton.mp hc, hr, hh]
    exact ⟨by simp, hd.lt.2, hd'.lt.2⟩
  · obtain ⟨hzero, hroot, hhead⟩ := hd.ne_of_mem (hlight c hc)
    exact ⟨by simp [hzero, hroot, hhead], hlight c hc⟩
  · obtain ⟨hzero, hroot, hhead⟩ := hd'.ne_of_mem (hlight' c hc)
    refine ⟨fun i hi hic => ?_, (hlight' c hc).1⟩
    have hc := himage ⟨i, hi, hic⟩
    simp [hzero, hroot, hhead] at hc

theorem Draft.Headed.mirrors (hd : d.Headed r h attributes headAttributes)
    (hd' : d'.Headed r' h' attributes headAttributes) (hzero : f 0 = 0) (hr : f r = r')
    (hh : f h = h') : Mirrors r [0, h] f (fun i => i = 0 ∨ i = r ∨ i = h) d d' := by
  have himage {c : Nat} (hc : ∃ i, (i = 0 ∨ i = r ∨ i = h) ∧ f i = c) :
      c = 0 ∨ c = r' ∨ c = h' := by
    obtain ⟨i, rfl | rfl | rfl, rfl⟩ := hc
    · exact Or.inl hzero
    · exact Or.inr (Or.inl hr)
    · exact Or.inr (Or.inr hh)
  obtain ⟨ghosts, ghosts', hchildren⟩ := hd.exists_rootMirrors hd' hr hh himage
  refine .of_hidden (fun i => by simp [or_left_comm]) ⟨hzero, by simp⟩
    ⟨?_, hd.leads, hr ▸ hd'.leads⟩ hd.document (fun i hi hne => ?_) ⟨hd.sound, hd'.sound⟩
    (fun i hi => ?_) hchildren fun i hi => ?_
  · have hlt := hd.lt
    simp only [List.mem_cons, List.not_mem_nil, or_false, not_or]
    omega
  · rw [List.mem_singleton.mp (List.mem_of_ne_of_mem hne hi)]
    exact ⟨headAttributes, hd.head⟩
  · rcases hi with rfl | rfl | rfl
    · rw [hzero, hd.document, hd'.document]
    · rw [hr, hd.root, hd'.root]
    · rw [hh, hd.head, hd'.head]
  · rcases List.mem_cons.mp hi with rfl | hi
    · rw [hzero]
      exact ⟨Draft.conceals_of_text?_eq_none hd.prolog _ _,
        Draft.conceals_of_text?_eq_none hd'.prolog _ _⟩
    · rw [List.mem_singleton.mp hi, hr, hh]
      exact ⟨hd.conceals, hd'.conceals.mono fun c hc => Or.inl (himage hc)⟩

namespace Builder

/-- Documents that have come up to the head are alike. -/
theorem alike_headed (hd : d.Headed r h attributes headAttributes)
    (hd' : d'.Headed r' h' attributes headAttributes) (problems : List Problem)
    (oldLayout : Bool) :
    Alike { draft := Mirrors r [0, h] } (headed d problems oldLayout r h)
      (headed d' problems oldLayout r' h') := by
  obtain ⟨f, hzero, hr, hh⟩ := exists_perm hd.lt hd'.lt
  refine ⟨f, fun i => i = 0 ∨ i = r ∨ i = h, d', ?_, ⟨Or.inl rfl, hzero⟩, by simp,
    fun i hi => ?_, fun i hi => ?_, by simp [headed], fun _ => hd.mirrors hd' hzero hr hh⟩
  · simp [headed, rename, OpenElement.rename, hr, hh]
  · rcases hi with rfl | rfl | rfl
    · rw [hzero]
      exact ⟨Draft.lt_of_kind? hd.document, Draft.lt_of_kind? hd'.document⟩
    · rw [hr]
      exact ⟨Draft.lt_of_kind? hd.root, Draft.lt_of_kind? hd'.root⟩
    · rw [hh]
      exact ⟨Draft.lt_of_kind? hd.head, Draft.lt_of_kind? hd'.head⟩
  · obtain ⟨e, he, rfl⟩ | hid := hi.stack_or_head rfl rfl
    · rcases List.mem_cons.mp he with rfl | he
      · simp
      · rw [List.mem_singleton.mp he]
        simp
    · cases hid
      simp

end Builder

end HtmlText
