import HtmlText.Proofs.Alike.Relation

/-!
# Inserting nodes into alike states

A new node has the next number in each of two alike drafts, which need not be the same number. The
renaming is extended by the pair of the two: since neither number has been used before, the renaming
of all others stays as it is.

## Main results

* `AlikeBy.exists_addElement`: a new element without a place.
* `Alike.insertOpen` and so on: the operations that insert nodes.
-/

namespace HtmlText

namespace Draft

/-! ### Sizes of drafts -/

@[simp] theorem size_add (d : Draft) (kind : DraftKind) :
    (d.add kind).1.nodes.size = d.nodes.size + 1 :=
  Array.size_push _

@[simp] theorem snd_add (d : Draft) (kind : DraftKind) : (d.add kind).2 = d.nodes.size := rfl

@[simp] theorem size_setChildren (d : Draft) (id : Nat) (children : List Nat) :
    (d.setChildren id children).nodes.size = d.nodes.size :=
  Array.size_modify

@[simp] theorem size_setParent (d : Draft) (id : Nat) (parent : Option Nat) :
    (d.setParent id parent).nodes.size = d.nodes.size :=
  Array.size_modify

@[simp] theorem size_detach (d : Draft) (id : Nat) : (d.detach id).nodes.size = d.nodes.size := by
  rw [detach]
  split <;> simp

@[simp] theorem size_append (d : Draft) (parent id : Nat) :
    (d.append parent id).nodes.size = d.nodes.size := by
  simp [append]

@[simp] theorem size_insertBefore (d : Draft) (parent sibling id : Nat) :
    (d.insertBefore parent sibling id).nodes.size = d.nodes.size := by
  simp [insertBefore]

@[simp] theorem size_extendText (d : Draft) (id : Nat) (s : String) :
    (d.extendText id s).nodes.size = d.nodes.size :=
  Array.size_modify

@[simp] theorem size_addMissingAttributes (d : Draft) (id : Nat)
    (attributes : List (String × String)) :
    (d.addMissingAttributes id attributes).nodes.size = d.nodes.size :=
  Array.size_modify

theorem size_le_appendText (d : Draft) (parent : Nat) (s : String) :
    d.nodes.size ≤ (d.appendText parent s).nodes.size := by
  rw [appendText]
  split
  · split_ifs <;> simp
  · simp

theorem size_le_insertTextBefore (d : Draft) (parent sibling : Nat) (s : String) :
    d.nodes.size ≤ (d.insertTextBefore parent sibling s).nodes.size := by
  rw [insertTextBefore]
  split
  · split_ifs <;> simp
  · simp

@[simp] theorem size_moveChildren (d : Draft) (source target : Nat) :
    (d.moveChildren source target).nodes.size = d.nodes.size := by
  rw [moveChildren]
  generalize d.children source = ids
  induction ids generalizing d with
  | nil => rfl
  | cons id ids ih => rw [List.foldl_cons, ih, size_append]

end Draft

namespace Builder

variable {D : Comparison} {f f' : Equiv.Perm Nat}
  {V V' : Nat → Prop} {b b' : Builder} {d' : Draft}

/-! ### New numbers -/

/-- A renaming, extended by two numbers that it did not refer to each other or to others. -/
theorem exists_extends {m m' : Nat} (hm : ¬V m) (hm' : ∀ i, V i → f i ≠ m') :
    ∃ f' : Equiv.Perm Nat, (∀ i, V i → f' i = f i) ∧ f' m = m' := by
  refine ⟨f.trans (Equiv.swap (f m) m'), fun i hi => ?_, ?_⟩
  · have hne : f i ≠ f m := fun h => hm (f.injective h ▸ hi)
    rw [Equiv.trans_apply, Equiv.swap_apply_of_ne_of_ne hne (hm' i hi)]
  · rw [Equiv.trans_apply, Equiv.swap_apply_left]

/-- A renaming of old numbers, extended by two new ones. -/
theorem exists_extends_new {m m' : Nat} (hlt : ∀ i, V i → i < m ∧ f i < m') :
    ∃ f' : Equiv.Perm Nat, (∀ i, V i → f' i = f i) ∧ f' m = m' :=
  exists_extends (fun h => Nat.lt_irrefl m (hlt m h).1) fun i hi => Nat.ne_of_lt (hlt i hi).2

theorem lt_of_extends {m m' : Nat} (hlt : ∀ i, V i → i < m ∧ f i < m')
    (hext : ∀ i, V i → f' i = f i) (i : Nat) (hi : V i) : i < m ∧ f' i < m' := by
  rw [hext i hi]
  exact hlt i hi

/-- Old numbers and new ones stay below the next ones. -/
theorem lt_succ_of_extends {m m' : Nat} (hlt : ∀ i, V i → i < m ∧ f i < m')
    (hext : ∀ i, V i → f' i = f i) (hnew : f' m = m') (i : Nat) (hi : V i ∨ i = m) :
    i < m + 1 ∧ f' i < m' + 1 := by
  rcases hi with hi | rfl
  · obtain ⟨hi, hi'⟩ := lt_of_extends hlt hext i hi
    exact ⟨Nat.lt_succ_of_lt hi, Nat.lt_succ_of_lt hi'⟩
  · rw [hnew]
    exact ⟨Nat.lt_succ_self _, Nat.lt_succ_self _⟩

theorem rename_congr (h : ∀ i, b.Names i → f' i = f i) (d : Draft) :
    b.rename f' d = b.rename f d := by
  have hstack : b.stack.map (·.rename f') = b.stack.map (·.rename f) :=
    List.map_congr_left fun e he => by rw [OpenElement.rename, OpenElement.rename, h _ (.stack he)]
  have hformatting : b.formatting.map (·.rename f') = b.formatting.map (·.rename f) := by
    refine List.map_congr_left fun entry hentry => ?_
    cases entry with
    | marker => rfl
    | element id tag => rw [Formatting.rename, Formatting.rename, h _ (.formatting hentry)]
  have hhead : b.head.map f' = b.head.map f := by
    cases hid : b.head with
    | none => rfl
    | some id => rw [Option.map_some, Option.map_some, h _ (.head hid)]
  have hform : b.form.map f' = b.form.map f := by
    cases hid : b.form with
    | none => rfl
    | some id => rw [Option.map_some, Option.map_some, h _ (.form hid)]
  rw [rename, rename, hstack, hformatting, hhead, hform]

/-- States with new drafts, in which the old numbers are renamed as before. -/
theorem AlikeBy.setDraft (h : AlikeBy D f V b d') (d₁ d₁' : Draft)
    (hext : ∀ i, V i → V' i ∧ f' i = f i)
    (hlt : ∀ i, V' i → i < d₁.nodes.size ∧ f' i < d₁'.nodes.size)
    (hD : b.problems = [] → D.draft f V b.draft d' → D.draft f' V' d₁ d₁') :
    { b.rename f d' with draft := d₁' } = { b with draft := d₁ }.rename f' d₁' ∧
      AlikeBy D f' V' { b with draft := d₁ } d₁' := by
  constructor
  · have hnames : ∀ i, ({ b with draft := d₁ } : Builder).Names i → f' i = f i := by
      intro i hi
      have hi : b.Names i :=
        hi.mono (List.Subset.refl _) (List.Subset.refl _) rfl fun _ hid => hid
      exact (hext i (h.names i hi)).2
    rw [rename_congr hnames]
    rfl
  · exact
      { zero := ⟨(hext 0 h.zero.1).1, by rw [(hext 0 h.zero.1).2, h.zero.2]⟩
        kept := fun p hp => ⟨(hext _ (h.kept p hp).1).1, by
          rw [(hext _ (h.kept p hp).1).2, (h.kept p hp).2]⟩
        lt := hlt
        names := fun i hi => (hext i (h.names i
          (hi.mono (List.Subset.refl _) (List.Subset.refl _) rfl fun _ hid => hid))).1
        fostering := h.fostering
        draft := fun hnil => hD hnil (h.draft hnil) }

/-- Where a source has a problem, a draft may be changed in any way that keeps its nodes. -/
theorem AlikeBy.setDraft_of_ne (h : AlikeBy D f V b d') (hne : b.problems ≠ []) (d₁ d₁' : Draft)
    (hsize : b.draft.nodes.size ≤ d₁.nodes.size) (hsize' : d'.nodes.size ≤ d₁'.nodes.size) :
    { b.rename f d' with draft := d₁' } = { b with draft := d₁ }.rename f d₁' ∧
      AlikeBy D f V { b with draft := d₁ } d₁' :=
  h.setDraft d₁ d₁' (fun _ hi => ⟨hi, rfl⟩)
    (fun i hi => ⟨Nat.lt_of_lt_of_le (h.lt i hi).1 hsize, Nat.lt_of_lt_of_le (h.lt i hi).2 hsize'⟩)
    fun hnil => absurd hnil hne

/-- A new node has a new number in each of the two drafts. Put behind the children of a node, it
keeps the drafts related. -/
theorem AlikeBy.exists_add (hD : DraftRelation D) (h : AlikeBy D f V b d') {kind : DraftKind}
    (hkind : ∀ name attributes c, kind ≠ .element name attributes (some c))
    (htext : ∀ s, kind ≠ .text s) :
    ∃ (f' : Equiv.Perm Nat) (V' : Nat → Prop), (∀ i, V i → V' i ∧ f' i = f i) ∧
      (∀ i, V' i → i < b.draft.nodes.size + 1 ∧ f' i < d'.nodes.size + 1) ∧
      V' b.draft.nodes.size ∧ f' b.draft.nodes.size = d'.nodes.size ∧
      ∀ p, b.problems = [] → V p →
        D.draft f' V' ((b.draft.add kind).1.append p b.draft.nodes.size)
          ((d'.add kind).1.append (f p) d'.nodes.size) := by
  obtain ⟨f', hf', hnew⟩ := exists_extends_new h.lt
  refine ⟨f', fun i => V i ∨ i = b.draft.nodes.size, fun i hi => ⟨Or.inl hi, hf' i hi⟩,
    lt_succ_of_extends h.lt hf' hnew, Or.inr rfl, hnew, fun p hnil hp => ?_⟩
  have hrename : kind.rename f' = kind := by
    cases kind with
    | element name attributes contents =>
      cases contents with
      | none => rfl
      | some c => exact absurd rfl (hkind name attributes c)
    | _ => rfl
  have hinsert := hD.insert kind (hD.congr (h.draft hnil) hf') (lt_of_extends h.lt hf') hnew hp
    (fun name attributes c hc => absurd hc (hkind name attributes c)) htext
  rwa [hf' p hp, hrename] at hinsert

/-- A new element has a new number in each of the two drafts. Put behind the children of a node, it
keeps the drafts related. -/
theorem AlikeBy.exists_addElement (hD : DraftRelation D) (h : AlikeBy D f V b d')
    (name : ElementName) (attributes : List (String × String)) :
    ∃ (f' : Equiv.Perm Nat) (V' : Nat → Prop), (∀ i, V i → V' i ∧ f' i = f i) ∧
      (∀ i, V' i → i < (b.draft.addElement name attributes).1.nodes.size ∧
        f' i < (d'.addElement name attributes).1.nodes.size) ∧
      V' (b.draft.addElement name attributes).2 ∧
      f' (b.draft.addElement name attributes).2 = (d'.addElement name attributes).2 ∧
      ∀ p, b.problems = [] → V p →
        D.draft f' V'
          ((b.draft.addElement name attributes).1.append p (b.draft.addElement name attributes).2)
          ((d'.addElement name attributes).1.append (f p) (d'.addElement name attributes).2) := by
  by_cases htemplate : name = .html "template"
  · -- A template takes two new numbers, one for its contents and one for the element.
    obtain ⟨f₁, hf₁, hnew₁⟩ := exists_extends_new h.lt
    have hlt₁ : ∀ i, V i ∨ i = b.draft.nodes.size →
        i < (b.draft.add .document).1.nodes.size ∧ f₁ i < (d'.add .document).1.nodes.size := by
      simpa only [Draft.size_add] using lt_succ_of_extends h.lt hf₁ hnew₁
    obtain ⟨f₂, hf₂, hnew₂⟩ := exists_extends_new hlt₁
    have hold : ∀ i, V i → f₂ i = f i := fun i hi => (hf₂ i (Or.inl hi)).trans (hf₁ i hi)
    have hcontents : f₂ b.draft.nodes.size = d'.nodes.size := (hf₂ _ (Or.inr rfl)).trans hnew₁
    refine ⟨f₂, fun i => (V i ∨ i = b.draft.nodes.size) ∨ i = b.draft.nodes.size + 1,
      fun i hi => ⟨Or.inl (Or.inl hi), hold i hi⟩, ?_, ?_, ?_, ?_⟩
    · have hlt₂ := lt_succ_of_extends hlt₁ hf₂ hnew₂
      simpa only [Draft.addElement, if_pos htemplate, Draft.size_add] using hlt₂
    · simp [Draft.addElement, if_pos htemplate, Draft.add]
    · simpa [Draft.addElement, if_pos htemplate, Draft.add] using hnew₂
    · intro p hnil hp
      have hdocument := hD.addDocument (hD.congr (h.draft hnil) hold) (lt_of_extends h.lt hold)
        hcontents
      have hinsert := hD.insert (.element name attributes (some b.draft.nodes.size)) hdocument
        (lt_of_extends hlt₁ hf₂) hnew₂ (Or.inl hp) (fun _ _ c hc => Or.inr (by simp_all)) (by simp)
      rw [hold p hp, DraftKind.rename, Option.map_some, hcontents] at hinsert
      simpa only [Draft.addElement, if_pos htemplate, Draft.size_add, Draft.snd_add] using hinsert
  · have hkind : ∀ name' attributes' c, DraftKind.element name attributes none ≠
        .element name' attributes' (some c) := by simp
    obtain ⟨f', V', hext, hlt, hV, hnew, hdraft⟩ := h.exists_add hD hkind (by simp)
    refine ⟨f', V', hext, ?_, ?_, ?_, ?_⟩
    · simpa only [Draft.addElement, if_neg htemplate, Draft.size_add] using hlt
    · simpa only [Draft.addElement, if_neg htemplate, Draft.snd_add] using hV
    · simpa only [Draft.addElement, if_neg htemplate, Draft.snd_add] using hnew
    · simpa only [Draft.addElement, if_neg htemplate, Draft.snd_add] using hdraft

/-! ### Places -/

/-- A draft in which a node is put in a place. -/
def placed (d : Draft) (place : Place) (id : Nat) : Draft :=
  match place with
  | .inside parent => d.append parent id
  | .beforeTable table around =>
    match d.parent? table with
    | some parent => d.insertBefore parent table id
    | none => d.append around id

@[simp] theorem size_placed (d : Draft) (place : Place) (id : Nat) :
    (placed d place id).nodes.size = d.nodes.size := by
  cases place with
  | inside parent => exact Draft.size_append ..
  | beforeTable table around =>
    simp only [placed]
    split <;> simp

theorem current_rename (h : f 0 = 0) (d : Draft) :
    (b.rename f d).current = b.current.rename f := by
  rw [current, current, rename]
  cases b.stack with
  | nil => simp [OpenElement.rename, h]
  | cons e es => rfl

theorem AlikeBy.current (h : AlikeBy D f V b d') : V b.current.id := by
  rw [Builder.current]
  cases hstack : b.stack with
  | nil => exact h.zero.1
  | cons e es => exact h.names _ (.stack (by simp [hstack]))

/-- As long as there is no problem, everything goes inside the element it is meant for. -/
theorem AlikeBy.placeIn_eq (hD : DraftRelation D) (h : AlikeBy D f V b d')
    (hnil : b.problems = []) {target : OpenElement} (htarget : V target.id) :
    b.placeIn target = .inside (b.draft.contents target.id) ∧
      (b.rename f d').placeIn (target.rename f) = .inside (f (b.draft.contents target.id)) ∧
      V (b.draft.contents target.id) := by
  have hfostering : b.fostering = false := by
    by_contra hne
    exact h.fostering (by simpa using hne) hnil
  obtain ⟨hV, hcontents⟩ := hD.contents (h.draft hnil) htarget
  refine ⟨?_, ?_, hV⟩
  · rw [placeIn, hfostering, Bool.false_and, if_neg Bool.false_ne_true]
  · rw [placeIn, ← hcontents]
    simp [rename, hfostering, OpenElement.rename]

/-- A node is put where nodes go now. -/
theorem AlikeBy.setDraft_placed (hD : DraftRelation D) (h : AlikeBy D f V b d')
    (hext : ∀ i, V i → V' i ∧ f' i = f i) {e e' : Draft} {n n' : Nat}
    (hlt : ∀ i, V' i → i < e.nodes.size ∧ f' i < e'.nodes.size)
    (hdraft : ∀ p, b.problems = [] → V p → D.draft f' V' (e.append p n) (e'.append (f p) n')) :
    { b.rename f d' with draft := placed e' ((b.rename f d').placeIn (b.rename f d').current) n' } =
        { b with draft := placed e (b.placeIn b.current) n }.rename f'
          (placed e' ((b.rename f d').placeIn (b.rename f d').current) n') ∧
      AlikeBy D f' V' { b with draft := placed e (b.placeIn b.current) n }
        (placed e' ((b.rename f d').placeIn (b.rename f d').current) n') := by
  refine h.setDraft _ _ hext (by simpa only [size_placed] using hlt) fun hnil _ => ?_
  obtain ⟨hplace, hplace', hp⟩ := h.placeIn_eq hD hnil h.current
  rw [current_rename h.zero.2, hplace, hplace']
  exact hdraft _ hnil hp

/-! ### Inserting -/

theorem AlikeBy.exists_insertClosed (hD : DraftRelation D) (h : AlikeBy D f V b d')
    (name : ElementName) (attributes : List (String × String)) :
    ∃ (f' : Equiv.Perm Nat) (V' : Nat → Prop) (d₁' : Draft),
      (b.rename f d').insertClosed name attributes =
          ((b.insertClosed name attributes).1.rename f' d₁',
            f' (b.insertClosed name attributes).2) ∧
        AlikeBy D f' V' (b.insertClosed name attributes).1 d₁' ∧
        V' (b.insertClosed name attributes).2 ∧ ∀ i, V i → V' i ∧ f' i = f i := by
  obtain ⟨f', V', hext, hlt, hV, hid, hdraft⟩ := h.exists_addElement hD name attributes
  have hset := h.setDraft_placed hD hext hlt hdraft
  exact ⟨f', V', _, Prod.ext hset.1 hid.symm, hset.2, hV, hext⟩

theorem AlikeBy.push (h : AlikeBy D f V b d') {e : OpenElement} (he : V e.id) :
    AlikeBy D f V { b with stack := e :: b.stack } d' := by
  refine h.setStack fun x hx => ?_
  rcases List.mem_cons.mp hx with rfl | hx
  · exact he
  · exact h.names _ (.stack hx)

theorem AlikeBy.exists_insertOpen (hD : DraftRelation D) (h : AlikeBy D f V b d')
    (name : ElementName) (attributes : List (String × String)) :
    ∃ (f' : Equiv.Perm Nat) (V' : Nat → Prop) (d₁' : Draft),
      (b.rename f d').insertOpen name attributes =
          ((b.insertOpen name attributes).1.rename f' d₁',
            f' (b.insertOpen name attributes).2) ∧
        AlikeBy D f' V' (b.insertOpen name attributes).1 d₁' ∧
        V' (b.insertOpen name attributes).2 ∧ ∀ i, V i → V' i ∧ f' i = f i := by
  obtain ⟨f', V', d₁', heq, hclosed, hV, hext⟩ := h.exists_insertClosed hD name attributes
  refine ⟨f', V', d₁', ?_, hclosed.push hV, hV, hext⟩
  rw [insertOpen, heq]
  rfl

theorem AlikeBy.exists_insertComment (hD : DraftRelation D) (h : AlikeBy D f V b d')
    (s : String) :
    ∃ (f' : Equiv.Perm Nat) (V' : Nat → Prop) (d₁' : Draft),
      (b.rename f d').insertComment s = (b.insertComment s).rename f' d₁' ∧
        AlikeBy D f' V' (b.insertComment s) d₁' := by
  have hkind : ∀ name attributes c, DraftKind.comment s ≠ .element name attributes (some c) := by
    simp
  obtain ⟨f', V', hext, hlt, -, -, hdraft⟩ := h.exists_add hD hkind (by simp)
  have hset := h.setDraft_placed hD hext (by simpa only [Draft.size_add] using hlt) hdraft
  exact ⟨f', V', _, hset.1, hset.2⟩

theorem AlikeBy.exists_commentIn (hD : DraftRelation D) (h : AlikeBy D f V b d') {p : Nat}
    (hp : V p) (s : String) :
    ∃ (f' : Equiv.Perm Nat) (V' : Nat → Prop) (d₁' : Draft),
      (b.rename f d').commentIn (f p) s = (b.commentIn p s).rename f' d₁' ∧
        AlikeBy D f' V' (b.commentIn p s) d₁' := by
  have hkind : ∀ name attributes c, DraftKind.comment s ≠ .element name attributes (some c) := by
    simp
  obtain ⟨f', V', hext, hlt, -, -, hdraft⟩ := h.exists_add hD hkind (by simp)
  have hset := h.setDraft ((b.draft.add (.comment s)).1.append p b.draft.nodes.size)
    ((d'.add (.comment s)).1.append (f p) d'.nodes.size) hext
    (by simpa only [Draft.size_append, Draft.size_add] using hlt) fun hnil _ => hdraft p hnil hp
  exact ⟨f', V', _, hset.1, hset.2⟩

/-- A draft with text in a place. -/
def textPlaced (d : Draft) (place : Place) (s : String) : Draft :=
  match place with
  | .inside parent => d.appendText parent s
  | .beforeTable table around =>
    match d.parent? table with
    | some parent => d.insertTextBefore parent table s
    | none => d.appendText around s

theorem insertText_eq (b : Builder) (cs : List Char) :
    b.insertText cs =
      { b with draft := textPlaced b.draft (b.placeIn b.current) (String.ofList cs) } := rfl

theorem size_le_textPlaced (d : Draft) (place : Place) (s : String) :
    d.nodes.size ≤ (textPlaced d place s).nodes.size := by
  cases place with
  | inside parent => exact Draft.size_le_appendText ..
  | beforeTable table around =>
    simp only [textPlaced]
    split
    · exact Draft.size_le_insertTextBefore ..
    · exact Draft.size_le_appendText ..

/-- Text keeps the drafts related in a source without problems. In one with problems, there is
nothing to keep but the numbers. -/
theorem AlikeBy.exists_insertText (hD : DraftRelation D) (h : AlikeBy D f V b d')
    (cs : List Char) :
    ∃ (f' : Equiv.Perm Nat) (V' : Nat → Prop) (d₁' : Draft),
      (b.rename f d').insertText cs = (b.insertText cs).rename f' d₁' ∧
        AlikeBy D f' V' (b.insertText cs) d₁' := by
  rw [insertText_eq, insertText_eq]
  by_cases hnil : b.problems = []
  · obtain ⟨hplace, hplace', hp⟩ := h.placeIn_eq hD hnil h.current
    obtain ⟨f', V', hext, hlt, hdraft⟩ :=
      hD.appendText (h.draft hnil) h.lt hp (String.ofList cs)
    have hset := h.setDraft _ _ hext hlt fun _ _ => hdraft
    rw [current_rename h.zero.2, hplace, hplace']
    exact ⟨f', V', _, hset.1, hset.2⟩
  · have hset := h.setDraft_of_ne hnil
      (textPlaced b.draft (b.placeIn b.current) (String.ofList cs))
      (textPlaced d' ((b.rename f d').placeIn (b.rename f d').current) (String.ofList cs))
      (size_le_textPlaced ..) (size_le_textPlaced ..)
    exact ⟨f, V, _, hset.1, hset.2⟩

/-! ### Insertions into alike states -/

namespace Alike

/-- An element is inserted and then referred to. -/
theorem insertClosed_then (hD : DraftRelation D) (h : Alike D b b') (name : ElementName)
    (attributes : List (String × String)) (k : Builder → Nat → Builder)
    (hrename : ∀ (c : Builder) (f : Equiv.Perm Nat) (d : Draft) (id : Nat),
      k (c.rename f d) (f id) = (k c id).rename f d)
    (hk : ∀ {f : Equiv.Perm Nat} {V : Nat → Prop} {c : Builder} {d : Draft} {id : Nat},
      AlikeBy D f V c d → V id → AlikeBy D f V (k c id) d) :
    Alike D (k (b.insertClosed name attributes).1 (b.insertClosed name attributes).2)
      (k (b'.insertClosed name attributes).1 (b'.insertClosed name attributes).2) := by
  obtain ⟨f, V, d', rfl, h⟩ := h
  obtain ⟨f', V', d₁', heq, hclosed, hV, -⟩ := h.exists_insertClosed hD name attributes
  refine ⟨f', V', d₁', ?_, hk hclosed hV⟩
  rw [heq, hrename]

/-- An element is inserted, opened and then referred to. -/
theorem insertOpen_then (hD : DraftRelation D) (h : Alike D b b') (name : ElementName)
    (attributes : List (String × String)) (k : Builder → Nat → Builder)
    (hrename : ∀ (c : Builder) (f : Equiv.Perm Nat) (d : Draft) (id : Nat),
      k (c.rename f d) (f id) = (k c id).rename f d)
    (hk : ∀ {f : Equiv.Perm Nat} {V : Nat → Prop} {c : Builder} {d : Draft} {id : Nat},
      AlikeBy D f V c d → V id → AlikeBy D f V (k c id) d) :
    Alike D (k (b.insertOpen name attributes).1 (b.insertOpen name attributes).2)
      (k (b'.insertOpen name attributes).1 (b'.insertOpen name attributes).2) := by
  obtain ⟨f, V, d', rfl, h⟩ := h
  obtain ⟨f', V', d₁', heq, hopen, hV, -⟩ := h.exists_insertOpen hD name attributes
  refine ⟨f', V', d₁', ?_, hk hopen hV⟩
  rw [heq, hrename]

theorem insertClosed (hD : DraftRelation D) (h : Alike D b b') (name : ElementName)
    (attributes : List (String × String)) :
    Alike D (b.insertClosed name attributes).1 (b'.insertClosed name attributes).1 :=
  h.insertClosed_then hD name attributes (fun c _ => c) (fun _ _ _ _ => rfl) fun hc _ => hc

theorem insertOpen (hD : DraftRelation D) (h : Alike D b b') (name : ElementName)
    (attributes : List (String × String)) :
    Alike D (b.insertOpen name attributes).1 (b'.insertOpen name attributes).1 :=
  h.insertOpen_then hD name attributes (fun c _ => c) (fun _ _ _ _ => rfl) fun hc _ => hc

theorem insertTag (hD : DraftRelation D) (h : Alike D b b') (t : Tag) :
    Alike D (b.insertTag t) (b'.insertTag t) :=
  h.insertOpen hD _ _

theorem insertMissing (hD : DraftRelation D) (h : Alike D b b') (tag : String) :
    Alike D (b.insertMissing tag) (b'.insertMissing tag) :=
  h.insertOpen hD _ _

theorem insertVoid (hD : DraftRelation D) (h : Alike D b b') (t : Tag) :
    Alike D (b.insertVoid t) (b'.insertVoid t) :=
  h.insertClosed hD _ _

theorem insertComment (hD : DraftRelation D) (h : Alike D b b') (s : String) :
    Alike D (b.insertComment s) (b'.insertComment s) := by
  obtain ⟨f, V, d', rfl, h⟩ := h
  obtain ⟨f', V', d₁', heq, h'⟩ := h.exists_insertComment hD s
  exact ⟨f', V', d₁', heq, h'⟩

theorem insertText (hD : DraftRelation D) (h : Alike D b b') (cs : List Char) :
    Alike D (b.insertText cs) (b'.insertText cs) := by
  obtain ⟨f, V, d', rfl, h⟩ := h
  obtain ⟨f', V', d₁', heq, h'⟩ := h.exists_insertText hD cs
  exact ⟨f', V', d₁', heq, h'⟩

/-- A comment behind the children of the document. -/
theorem commentInDocument (hD : DraftRelation D) (h : Alike D b b') (s : String) :
    Alike D (b.commentIn 0 s) (b'.commentIn 0 s) := by
  obtain ⟨f, V, d', rfl, h⟩ := h
  obtain ⟨f', V', d₁', heq, h'⟩ := h.exists_commentIn hD h.zero.1 s
  rw [h.zero.2] at heq
  exact ⟨f', V', d₁', heq, h'⟩

/-- A document type behind the children of the document. -/
theorem addDoctype (hD : DraftRelation D) (h : Alike D b b') (d : Doctype) :
    Alike D
      { b with draft := (b.draft.add (.doctype d)).1.append 0 (b.draft.add (.doctype d)).2 }
      { b' with
        draft := (b'.draft.add (.doctype d)).1.append 0 (b'.draft.add (.doctype d)).2 } := by
  obtain ⟨f, V, d', rfl, h⟩ := h
  have hkind : ∀ name attributes c, DraftKind.doctype d ≠ .element name attributes (some c) := by
    simp
  obtain ⟨f', V', hext, hlt, -, -, hdraft⟩ := h.exists_add hD hkind (by simp)
  have hset := h.setDraft ((b.draft.add (.doctype d)).1.append 0 b.draft.nodes.size)
    ((d'.add (.doctype d)).1.append 0 d'.nodes.size) hext
    (by simpa only [Draft.size_append, Draft.size_add] using hlt) fun hnil _ => by
      have hzero := hdraft 0 hnil h.zero.1
      rwa [h.zero.2] at hzero
  exact ⟨f', V', _, hset.1, hset.2⟩

theorem insertRoot (hD : DraftRelation D) (h : Alike D b b')
    (attributes : List (String × String)) :
    Alike D (b.insertRoot attributes) (b'.insertRoot attributes) := by
  obtain ⟨f, V, d', rfl, h⟩ := h
  obtain ⟨f', V', hext, hlt, hV, hid, hdraft⟩ := h.exists_addElement hD (.html "html") attributes
  have hset := h.setDraft
    ((b.draft.addElement (.html "html") attributes).1.append 0
      (b.draft.addElement (.html "html") attributes).2)
    ((d'.addElement (.html "html") attributes).1.append 0
      (d'.addElement (.html "html") attributes).2) hext
    (by simpa only [Draft.size_append] using hlt) fun hnil _ => by
      have hzero := hdraft 0 hnil h.zero.1
      rwa [h.zero.2] at hzero
  refine ⟨f', V', _, ?_, hset.2.push (e := ⟨_, .html "html"⟩) hV⟩
  have hpush (c : Builder) (hc : c = { b.rename f d' with
      draft := (d'.addElement (.html "html") attributes).1.append 0
        (d'.addElement (.html "html") attributes).2 }) :
      (b.rename f d').insertRoot attributes =
        { c with stack := ⟨(d'.addElement (.html "html") attributes).2, .html "html"⟩ ::
            c.stack } := by
    rw [hc]
    rfl
  rw [hpush _ hset.1.symm, ← hid]
  rfl

end Alike

end Builder

end HtmlText
