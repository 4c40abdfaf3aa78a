import HtmlText.Markup.Construct.Formatting
import HtmlText.Proofs.Alike.Closing

/-!
# Formatting in alike states

Formatting is looked up by the numbers of its elements, so here the renaming matters: two numbers
are equal in one state exactly if their counterparts are equal in the other one. Taking a block out
of formatting moves nodes about, but this only happens in a source with problems, so that nothing
has to be shown of the drafts.

## Main definitions

* `Builder.AlikeWalk`: walks out of formatting in alike states.

## Main results

* `Alike.reconstruct`, `Alike.insertFormatting`: formatting that is made again.
* `AlikeBy.exists_takeOut`: a block is taken out of formatting.
* `Alike.closeFormatting`, `Alike.endAnchor`: the end of formatting.
-/

namespace HtmlText

namespace Builder

variable {D : Comparison} {f f' : Equiv.Perm Nat} {V V' : Nat → Prop} {b b' : Builder} {d' : Draft}

/-! ### Renaming and formatting -/

theorem marker_rename (f : Equiv.Perm Nat) (entry : Formatting) :
    decide (entry.rename f ≠ .marker) = decide (entry ≠ .marker) := by
  cases entry <;> simp [Formatting.rename]

theorem id?_rename (f : Equiv.Perm Nat) (entry : Formatting) :
    Formatting.id? (entry.rename f) = (Formatting.id? entry).map f := by
  cases entry <;> rfl

theorem id?_rename_eq (f : Equiv.Perm Nat) (entry : Formatting) (id : Nat) :
    decide (Formatting.id? (entry.rename f) = some (f id)) =
      decide (Formatting.id? entry = some id) := by
  rw [id?_rename]
  cases entry <;> simp [Formatting.id?]

theorem comesFrom_rename (f : Equiv.Perm Nat) (t : Tag) (entry : Formatting) :
    comesFrom t (entry.rename f) = comesFrom t entry := by
  cases entry <;> rfl

theorem recentFormatting_rename (b : Builder) (f : Equiv.Perm Nat) (d : Draft) :
    (b.rename f d).recentFormatting = b.recentFormatting.map (·.rename f) := by
  simp only [recentFormatting, rename, List.takeWhile_map, Function.comp_def, marker_rename]

theorem isSettled_rename (b : Builder) (f : Equiv.Perm Nat) (d : Draft) (entry : Formatting) :
    (b.rename f d).isSettled (entry.rename f) = b.isSettled entry := by
  cases entry with
  | marker => rfl
  | element id tag =>
    simp only [isSettled, rename, Formatting.rename, OpenElement.rename, List.any_map,
      Function.comp_def, EmbeddingLike.apply_eq_iff_eq]

theorem removeFormatting_rename (b : Builder) (f : Equiv.Perm Nat) (d : Draft) (id : Nat) :
    (b.rename f d).removeFormatting (f id) = (b.removeFormatting id).rename f d := by
  simp only [removeFormatting, rename, List.eraseP_map, Function.comp_def, id?_rename_eq]

theorem removeOpen_rename (b : Builder) (f : Equiv.Perm Nat) (d : Draft) (id : Nat) :
    (b.rename f d).removeOpen (f id) = (b.removeOpen id).rename f d := by
  simp [removeOpen, rename, List.eraseP_map, Function.comp_def, OpenElement.rename]

theorem AlikeBy.report (h : AlikeBy D f V b d') (p : Problem) : AlikeBy D f V (b.report p) d' :=
  h.mono rfl (List.Subset.refl _) (List.Subset.refl _) rfl (fun _ hid => hid) rfl
    fun hnil => absurd hnil (List.cons_ne_nil _ _)

theorem AlikeBy.removeFormatting (h : AlikeBy D f V b d') (id : Nat) :
    AlikeBy D f V (b.removeFormatting id) d' :=
  h.mono rfl (List.Subset.refl _) List.eraseP_subset rfl (fun _ hid => hid) rfl fun hnil => hnil

theorem AlikeBy.removeOpen (h : AlikeBy D f V b d') (id : Nat) :
    AlikeBy D f V (b.removeOpen id) d' :=
  h.mono rfl List.eraseP_subset (List.Subset.refl _) rfl (fun _ hid => hid) rfl fun hnil => hnil

/-! ### Making formatting again -/

theorem map_rename_congr {entries : List Formatting}
    (h : ∀ id tag, .element id tag ∈ entries → f' id = f id) :
    entries.map (·.rename f') = entries.map (·.rename f) := by
  refine List.map_congr_left fun entry hentry => ?_
  cases entry with
  | marker => rfl
  | element id tag => rw [Formatting.rename, Formatting.rename, h id tag hentry]

theorem reopen_element (b : Builder) (id : Nat) (tag : Tag) (earlier : List Formatting) :
    b.reopen (.element id tag :: earlier) =
      (((b.reopen earlier).1.insertOpen (.html tag.name) tag.attributes).1,
        .element ((b.reopen earlier).1.insertOpen (.html tag.name) tag.attributes).2 tag ::
          (b.reopen earlier).2) :=
  rfl

theorem reconstruct_eq (b : Builder) :
    b.reconstruct =
      { (b.reopen (b.formatting.takeWhile (!b.isSettled ·))).1 with
        formatting := (b.reopen (b.formatting.takeWhile (!b.isSettled ·))).2 ++
          b.formatting.drop (b.formatting.takeWhile (!b.isSettled ·)).length } :=
  rfl

theorem isSettled_takeWhile_rename (b : Builder) (f : Equiv.Perm Nat) (d : Draft) :
    (b.rename f d).formatting.takeWhile (!(b.rename f d).isSettled ·) =
      (b.formatting.takeWhile (!b.isSettled ·)).map (·.rename f) := by
  change (b.formatting.map (·.rename f)).takeWhile (!(b.rename f d).isSettled ·) = _
  simp only [List.takeWhile_map, Function.comp_def, isSettled_rename]

theorem AlikeBy.exists_reopen (hD : DraftRelation D) (h : AlikeBy D f V b d')
    (entries : List Formatting) :
    ∃ (f' : Equiv.Perm Nat) (V' : Nat → Prop) (d₁' : Draft),
      (b.rename f d').reopen (entries.map (·.rename f)) =
          ((b.reopen entries).1.rename f' d₁', (b.reopen entries).2.map (·.rename f')) ∧
        AlikeBy D f' V' (b.reopen entries).1 d₁' ∧
        (∀ id tag, .element id tag ∈ (b.reopen entries).2 → V' id) ∧
        ∀ i, V i → V' i ∧ f' i = f i := by
  induction entries with
  | nil => exact ⟨f, V, d', rfl, h, by simp [reopen], fun _ hi => ⟨hi, rfl⟩⟩
  | cons entry earlier ih =>
    obtain ⟨f₁, V₁, d₁, heq₁, h₁, hV₁, hext₁⟩ := ih
    cases entry with
    | marker =>
      refine ⟨f₁, V₁, d₁, ?_, h₁, ?_, hext₁⟩
      · rw [List.map_cons, reopen, heq₁]
        rfl
      · intro id tag hmem
        rcases List.mem_cons.mp hmem with hmarker | hmem
        · cases hmarker
        · exact hV₁ id tag hmem
    | element id tag =>
      obtain ⟨f₂, V₂, d₂, heq₂, h₂, hV₂, hext⟩ :=
        h₁.exists_insertOpen hD (.html tag.name) tag.attributes
      refine ⟨f₂, V₂, d₂, ?_, h₂, ?_, fun i hi =>
        ⟨(hext i (hext₁ i hi).1).1, (hext i (hext₁ i hi).1).2.trans (hext₁ i hi).2⟩⟩
      · -- The entries that were opened before keep their numbers.
        have hagain : (b.reopen earlier).2.map (·.rename f₂) =
            (b.reopen earlier).2.map (·.rename f₁) :=
          map_rename_congr fun id tag hmem => (hext id (hV₁ id tag hmem)).2
        change (b.rename f d').reopen (.element (f id) tag :: earlier.map (·.rename f)) = _
        rw [reopen_element, heq₁, heq₂, reopen_element, ← hagain]
        rfl
      · intro other otherTag hmem
        rcases List.mem_cons.mp hmem with hnew | hmem
        · cases hnew
          exact hV₂
        · exact (hext other (hV₁ other otherTag hmem)).1

namespace Alike

theorem reconstruct (hD : DraftRelation D) (h : Alike D b b') :
    Alike D b.reconstruct b'.reconstruct := by
  obtain ⟨f, V, d', rfl, h⟩ := h
  obtain ⟨f', V', d₁', heq, h', hV', hext⟩ :=
    h.exists_reopen hD (b.formatting.takeWhile (!b.isSettled ·))
  have hold (n : Nat) : (b.rename f d').formatting.drop n =
      (b.formatting.drop n).map (·.rename f') := by
    rw [List.map_drop, map_rename_congr fun id tag hmem =>
      (hext id (h.names id (.formatting hmem))).2]
    rfl
  refine ⟨f', V', d₁', ?_, h'.setFormatting fun id tag hmem => ?_⟩
  · rw [reconstruct_eq, isSettled_takeWhile_rename, heq, List.length_map, hold,
      ← List.map_append]
    rfl
  · rcases List.mem_append.mp hmem with hmem | hmem
    · exact hV' id tag hmem
    · exact (hext id (h.names id (.formatting (List.drop_subset _ _ hmem)))).1

end Alike

/-- The state in which formatting from an equal tag has given way, if there is too much of it. -/
def makeRoom (b : Builder) (t : Tag) : Builder :=
  match (b.recentFormatting.filter (comesFrom t)).getLast?.bind Formatting.id? with
  | some earliest =>
    if 3 ≤ (b.recentFormatting.filter (comesFrom t)).length then b.removeFormatting earliest else b
  | none => b

theorem insertFormatting_eq (b : Builder) (t : Tag) :
    b.insertFormatting t =
      let (c, id) := (b.makeRoom t).insertOpen (.html t.name) t.attributes
      { c with formatting := .element id t :: c.formatting } :=
  rfl

theorem filter_comesFrom_rename (b : Builder) (f : Equiv.Perm Nat) (d : Draft) (t : Tag) :
    (b.rename f d).recentFormatting.filter (comesFrom t) =
      (b.recentFormatting.filter (comesFrom t)).map (·.rename f) := by
  simp only [recentFormatting_rename, List.filter_map, Function.comp_def, comesFrom_rename]

namespace Alike

theorem makeRoom (h : Alike D b b') (t : Tag) : Alike D (b.makeRoom t) (b'.makeRoom t) := by
  obtain ⟨f, V, d', rfl, h⟩ := h
  have hlast : ((b.rename f d').recentFormatting.filter (comesFrom t)).getLast?.bind
      Formatting.id? =
      ((b.recentFormatting.filter (comesFrom t)).getLast?.bind Formatting.id?).map f := by
    rw [filter_comesFrom_rename, List.getLast?_map]
    cases (b.recentFormatting.filter (comesFrom t)).getLast? with
    | none => rfl
    | some entry => exact id?_rename f entry
  rw [Builder.makeRoom, Builder.makeRoom, hlast, filter_comesFrom_rename, List.length_map]
  cases (b.recentFormatting.filter (comesFrom t)).getLast?.bind Formatting.id? with
  | none => exact ⟨f, V, d', rfl, h⟩
  | some earliest =>
    simp only [Option.map_some]
    split_ifs
    · exact ⟨f, V, d', removeFormatting_rename .., h.removeFormatting earliest⟩
    · exact ⟨f, V, d', rfl, h⟩

theorem insertFormatting (hD : DraftRelation D) (h : Alike D b b') (t : Tag) :
    Alike D (b.insertFormatting t) (b'.insertFormatting t) := by
  rw [insertFormatting_eq, insertFormatting_eq]
  refine (h.makeRoom t).insertOpen_then hD _ _
    (fun c id => { c with formatting := .element id t :: c.formatting }) (fun _ _ _ _ => rfl) ?_
  intro f V c d id hc hid
  refine hc.setFormatting fun other tag hmem => ?_
  rcases List.mem_cons.mp hmem with hnew | hmem
  · cases hnew
    exact hid
  · exact hc.names other (.formatting hmem)

theorem findsGeneric_eq (h : Alike D b b') (tag : String) :
    findsGeneric tag b'.stack = findsGeneric tag b.stack := by
  obtain ⟨f, V, d', rfl, -⟩ := h
  change findsGeneric tag (b.stack.map (·.rename f)) = _
  induction b.stack with
  | nil => rfl
  | cons e es ih =>
    rw [List.map_cons, findsGeneric, findsGeneric, ih]
    rfl

theorem closeGeneric (h : Alike D b b') (tag : String) :
    Alike D (b.closeGeneric tag) (b'.closeGeneric tag) := by
  have hclosed := h.closeImpliedExcept tag
  simp only [Builder.closeGeneric, h.findsGeneric_eq, h.hasOpen_eq, hclosed.current_name_eq]
  split_ifs
  · exact hclosed.popThrough _
  · exact (hclosed.popThrough _).unexpected
  · exact h.unexpected
  · exact h.report _

end Alike

/-! ### Taking a block out of formatting -/

theorem formattingTag?_rename (b : Builder) (f : Equiv.Perm Nat) (d : Draft) (id : Nat) :
    (b.rename f d).formattingTag? (f id) = b.formattingTag? id := by
  simp only [formattingTag?, rename, List.findSome?_map]
  congr 1
  funext entry
  cases entry <;> simp [Formatting.rename]

theorem replaceFormatting_rename (b : Builder) (f : Equiv.Perm Nat) (d : Draft) (id : Nat)
    (entry : Formatting) :
    (b.rename f d).replaceFormatting (f id) (entry.rename f) =
      (b.replaceFormatting id entry).rename f d := by
  have hentries : (b.formatting.map (·.rename f)).map (fun old =>
        if Formatting.id? old = some (f id) then entry.rename f else old) =
      (b.formatting.map fun old => if Formatting.id? old = some id then entry else old).map
        (·.rename f) := by
    rw [List.map_map, List.map_map]
    refine List.map_congr_left fun old _ => ?_
    have hid := id?_rename_eq f old id
    simp only [decide_eq_decide] at hid
    simp only [Function.comp_apply, hid]
    split_ifs <;> rfl
  simp only [replaceFormatting, rename, hentries]

/-- Formatting with an entry put behind the one of a given element. -/
def bookmarked (id : Nat) (entry : Formatting) (entries : List Formatting) : List Formatting :=
  (entries.takeWhile fun other => !decide (Formatting.id? other = some id)) ++
    entry :: entries.dropWhile fun other => !decide (Formatting.id? other = some id)

theorem placeFormatting_some (b : Builder) (id old : Nat) (entry : Formatting) :
    b.placeFormatting (some id) old entry =
      { b with formatting := bookmarked id entry b.formatting }.removeFormatting old :=
  rfl

theorem bookmarked_rename (f : Equiv.Perm Nat) (id : Nat) (entry : Formatting)
    (entries : List Formatting) :
    bookmarked (f id) (entry.rename f) (entries.map (·.rename f)) =
      (bookmarked id entry entries).map (·.rename f) := by
  simp only [bookmarked, List.takeWhile_map, List.dropWhile_map, Function.comp_def, id?_rename_eq,
    List.map_append, List.map_cons]

theorem placeFormatting_rename (b : Builder) (f : Equiv.Perm Nat) (d : Draft)
    (bookmark : Option Nat) (old : Nat) (entry : Formatting) :
    (b.rename f d).placeFormatting (bookmark.map f) (f old) (entry.rename f) =
      (b.placeFormatting bookmark old entry).rename f d := by
  cases bookmark with
  | none => exact replaceFormatting_rename b f d old entry
  | some id =>
    rw [Option.map_some, placeFormatting_some, placeFormatting_some, ← removeFormatting_rename]
    simp only [rename, bookmarked_rename]

theorem AlikeBy.replaceFormatting (h : AlikeBy D f V b d') (id : Nat) {new : Nat} (hnew : V new)
    (tag : Tag) : AlikeBy D f V (b.replaceFormatting id (.element new tag)) d' := by
  refine h.setFormatting fun other otherTag hmem => ?_
  obtain ⟨old, hold, heq⟩ := List.mem_map.mp hmem
  split_ifs at heq
  · cases heq
    exact hnew
  · exact h.names other (.formatting (heq ▸ hold))

theorem AlikeBy.placeFormatting (h : AlikeBy D f V b d') (bookmark : Option Nat) (old : Nat)
    {new : Nat} (hnew : V new) (tag : Tag) :
    AlikeBy D f V (b.placeFormatting bookmark old (.element new tag)) d' := by
  cases bookmark with
  | none => exact h.replaceFormatting old hnew tag
  | some id =>
    rw [placeFormatting_some]
    refine AlikeBy.removeFormatting (h.setFormatting fun other otherTag hmem => ?_) old
    rcases List.mem_append.mp hmem with hmem | hmem
    · exact h.names other (.formatting (List.takeWhile_subset _ hmem))
    · rcases List.mem_cons.mp hmem with heq | hmem
      · cases heq
        exact hnew
      · exact h.names other (.formatting (List.dropWhile_subset _ hmem))

/-- The state inside the walk in which every node has another number, with another draft. -/
def Walk.rename (w : Walk) (f : Equiv.Perm Nat) (d : Draft) : Walk where
  builder := w.builder.rename f d
  kept := w.kept.map (·.rename f)
  moving := f w.moving
  bookmark := w.bookmark.map f

/-- The walk `w` and the one with the draft `d'` and the numbers given by `f` are alike. Blocks are
only taken out of formatting in a source with problems. -/
structure AlikeWalk (D : Comparison)
    (f : Equiv.Perm Nat) (V : Nat → Prop) (w : Walk) (d' : Draft) : Prop where
  builder : AlikeBy D f V w.builder d'
  problems : w.builder.problems ≠ []
  kept : ∀ e ∈ w.kept, V e.id
  moving : V w.moving
  bookmark : ∀ id, w.bookmark = some id → V id

/-- What moves is wrapped in a new element with the formatting of another one. -/
def Walk.wrap (w : Walk) (block : Nat) (e : OpenElement) (tag : Tag) (draft : Draft) (id : Nat) :
    Walk where
  builder := { w.builder with draft }.replaceFormatting e.id (.element id tag)
  kept := w.kept ++ [⟨id, .html tag.name⟩]
  moving := id
  bookmark := if w.moving = block then some id else w.bookmark

theorem step_of_formatting (w : Walk) (block : Nat) (e : OpenElement) {count : Nat}
    (hcount : ¬3 < count) {tag : Tag} (htag : w.builder.formattingTag? e.id = some tag) {d : Draft}
    {m : Nat} (hd : w.builder.draft = d) (hm : w.moving = m) :
    w.step block e count =
      w.wrap block e tag
        (((d.addElement (.html tag.name) tag.attributes).1.detach m).append
          (d.addElement (.html tag.name) tag.attributes).2 m)
        (d.addElement (.html tag.name) tag.attributes).2 := by
  subst hd hm
  rw [Walk.step, if_neg hcount, htag]
  rfl

theorem wrap_rename (w : Walk) (f : Equiv.Perm Nat) (d : Draft) (block : Nat) (e : OpenElement)
    (tag : Tag) (draft draft' : Draft) (id : Nat) :
    (w.rename f d).wrap (f block) (e.rename f) tag draft' (f id) =
      (w.wrap block e tag draft id).rename f draft' := by
  have hbuilder : ({ w.builder.rename f d with draft := draft' } : Builder).replaceFormatting
        (f e.id) ((Formatting.element id tag).rename f) =
      (({ w.builder with draft } : Builder).replaceFormatting e.id (.element id tag)).rename f
        draft' :=
    replaceFormatting_rename ({ w.builder with draft } : Builder) f draft' e.id _
  simp only [Walk.wrap, Walk.rename, EmbeddingLike.apply_eq_iff_eq, List.map_append, List.map_cons,
    List.map_nil, Walk.mk.injEq]
  refine ⟨hbuilder, rfl, trivial, ?_⟩
  split_ifs <;> rfl

theorem AlikeWalk.rename_congr {w : Walk} (h : AlikeWalk D f V w d')
    (hext : ∀ i, V i → V' i ∧ f' i = f i) (d : Draft) : w.rename f' d = w.rename f d := by
  have hkept : w.kept.map (·.rename f') = w.kept.map (·.rename f) :=
    List.map_congr_left fun x hx => by
      rw [OpenElement.rename, OpenElement.rename, (hext _ (h.kept x hx)).2]
  have hbookmark : w.bookmark.map f' = w.bookmark.map f := by
    cases hold : w.bookmark with
    | none => rfl
    | some id => rw [Option.map_some, Option.map_some, (hext id (h.bookmark id hold)).2]
  rw [Walk.rename, Walk.rename, hkept, hbookmark, (hext _ h.moving).2,
    Builder.rename_congr fun i hi => (hext i (h.builder.names i hi)).2]

/-- What moves is wrapped in a node that has a counterpart. -/
theorem AlikeWalk.wrap {w : Walk} (h : AlikeWalk D f V w d') (hext : ∀ i, V i → V' i ∧ f' i = f i)
    {draft draft' : Draft} (hdraft : AlikeBy D f' V' { w.builder with draft } draft')
    (block : Nat) (e : OpenElement) (tag : Tag) {id : Nat} (hid : V' id) :
    AlikeWalk D f' V' (w.wrap block e tag draft id) draft' where
  builder := hdraft.replaceFormatting e.id hid tag
  problems := h.problems
  kept := fun x hx => by
    rcases List.mem_append.mp hx with hx | hx
    · exact (hext _ (h.kept x hx)).1
    · rw [List.mem_singleton.mp hx]
      exact hid
  moving := hid
  bookmark := fun i hi => by
    simp only [Walk.wrap] at hi
    split_ifs at hi
    · cases hi
      exact hid
    · exact (hext i (h.bookmark i hi)).1

/-- One step of the walk. -/
theorem AlikeWalk.exists_step (hD : DraftRelation D) {w : Walk} (h : AlikeWalk D f V w d')
    {block : Nat} (hblock : V block) {e : OpenElement} (he : V e.id) (count : Nat) :
    ∃ (f' : Equiv.Perm Nat) (V' : Nat → Prop) (d₁' : Draft),
      (w.rename f d').step (f block) (e.rename f) count =
          (w.step block e count).rename f' d₁' ∧
        AlikeWalk D f' V' (w.step block e count) d₁' ∧ ∀ i, V i → V' i ∧ f' i = f i := by
  by_cases hcount : 3 < count
  · -- Too far from the block, the formatting is only taken out of force.
    refine ⟨f, V, d', ?_, ?_, fun i hi => ⟨hi, rfl⟩⟩
    · simp only [Walk.step, if_pos hcount, Walk.rename, OpenElement.rename,
        removeFormatting_rename]
    · simp only [Walk.step, if_pos hcount]
      exact ⟨h.builder.removeFormatting e.id, h.problems, h.kept, h.moving, h.bookmark⟩
  · have htag : (w.rename f d').builder.formattingTag? (e.rename f).id =
        w.builder.formattingTag? e.id :=
      formattingTag?_rename ..
    cases hfound : w.builder.formattingTag? e.id with
    | none =>
      refine ⟨f, V, d', ?_, ?_, fun i hi => ⟨hi, rfl⟩⟩
      · simp only [Walk.step, if_neg hcount, htag, hfound]
      · simp only [Walk.step, if_neg hcount, hfound]
        exact h
    | some tag =>
      obtain ⟨f', V', hext, hlt, hV, hid, -⟩ :=
        h.builder.exists_addElement hD (.html tag.name) tag.attributes
      have hset := h.builder.setDraft
        (((w.builder.draft.addElement (.html tag.name) tag.attributes).1.detach w.moving).append
          (w.builder.draft.addElement (.html tag.name) tag.attributes).2 w.moving)
        (((d'.addElement (.html tag.name) tag.attributes).1.detach (f w.moving)).append
          (d'.addElement (.html tag.name) tag.attributes).2 (f w.moving))
        hext (by simpa only [Draft.size_append, Draft.size_detach] using hlt)
        fun hnil => absurd hnil h.problems
      have he' : e.rename f' = e.rename f := by
        rw [OpenElement.rename, OpenElement.rename, (hext _ he).2]
      rw [step_of_formatting w block e hcount hfound rfl rfl,
        step_of_formatting (w.rename f d') (f block) (e.rename f) hcount (htag.trans hfound)
          (d := d') (m := f w.moving) rfl rfl]
      refine ⟨f', V', _, ?_, h.wrap hext hset.2 block e tag hV, hext⟩
      rw [← h.rename_congr hext, ← he', ← (hext _ hblock).2, ← hid]
      exact wrap_rename w f' d' block e tag _ _ _

/-- The whole walk, step by step. -/
theorem AlikeWalk.exists_walkOut (hD : DraftRelation D) {w : Walk} (h : AlikeWalk D f V w d')
    {block : Nat} (hblock : V block) (between : List OpenElement) (hbetween : ∀ e ∈ between, V e.id)
    (count : Nat) :
    ∃ (f' : Equiv.Perm Nat) (V' : Nat → Prop) (d₁' : Draft),
      walkOut (f block) (w.rename f d') (between.map (·.rename f)) count =
          (walkOut block w between count).rename f' d₁' ∧
        AlikeWalk D f' V' (walkOut block w between count) d₁' ∧ ∀ i, V i → V' i ∧ f' i = f i := by
  induction between generalizing f V w d' count with
  | nil => exact ⟨f, V, d', rfl, h, fun i hi => ⟨hi, rfl⟩⟩
  | cons e between ih =>
    obtain ⟨f₁, V₁, d₁, heq₁, h₁, hext₁⟩ :=
      h.exists_step hD hblock (hbetween e List.mem_cons_self) count
    obtain ⟨f₂, V₂, d₂, heq₂, h₂, hext₂⟩ := ih h₁ (hext₁ block hblock).1
      (fun x hx => (hext₁ _ (hbetween x (List.mem_cons_of_mem e hx))).1) (count + 1)
    have hbetween₁ : between.map (·.rename f₁) = between.map (·.rename f) :=
      List.map_congr_left fun x hx => by
        rw [OpenElement.rename, OpenElement.rename,
          (hext₁ _ (hbetween x (List.mem_cons_of_mem e hx))).2]
    refine ⟨f₂, V₂, d₂, ?_, h₂, fun i hi =>
      ⟨(hext₂ i (hext₁ i hi).1).1, (hext₂ i (hext₁ i hi).1).2.trans (hext₁ i hi).2⟩⟩
    rw [List.map_cons, walkOut, heq₁, ← hbetween₁, ← (hext₁ block hblock).2, heq₂, walkOut]

/-- A draft in which what a block contains is wrapped in a new element for a tag. -/
def wrapped (d : Draft) (tag : Tag) (block : Nat) : Draft :=
  let (draft, id) := d.addElement (.html tag.name) tag.attributes
  (draft.moveChildren block id).append block id

@[simp] theorem size_wrapped (d : Draft) (tag : Tag) (block : Nat) :
    (wrapped d tag block).nodes.size =
      (d.addElement (.html tag.name) tag.attributes).1.nodes.size := by
  simp only [wrapped, Draft.size_append, Draft.size_moveChildren]

/-- The state in which a block has been taken out of formatting, given the walk out to it and the
new draft with the number of the new formatting element in it. -/
def takenOut (w : Walk) (draft : Draft) (id : Nat) (inner : List OpenElement) (block : OpenElement)
    (element : OpenElement) (around : List OpenElement) (tag : Tag) : Builder :=
  { ({ w.builder with draft } : Builder).placeFormatting w.bookmark element.id
      (.element id tag) with
    stack := inner ++ ⟨id, .html tag.name⟩ :: block :: w.kept ++ around }

theorem takeOut_eq (b : Builder) (inner : List OpenElement) (block : OpenElement)
    (between : List OpenElement) (element : OpenElement) (around : List OpenElement) (tag : Tag)
    {w : Walk} (hw : walkOut block.id { builder := b, moving := block.id } between 1 = w)
    {d d₁ : Draft} {i m : Nat} {target : OpenElement} (hi : block.id = i)
    (hd : w.builder.draft = d) (hm : w.moving = m)
    (htarget : around.headD ⟨0, .html ""⟩ = target)
    (hd₁ : placed (d.detach m)
      (({ w.builder with draft := d.detach m } : Builder).placeIn target) m = d₁) :
    b.takeOut inner block between element around tag =
      takenOut w (wrapped d₁ tag i) (d₁.addElement (.html tag.name) tag.attributes).2 inner
        block element around tag := by
  subst hw hi hd hm htarget hd₁
  rfl

theorem takenOut_rename (w : Walk) (f : Equiv.Perm Nat) (d draft draft' : Draft) (id : Nat)
    (inner : List OpenElement) (block element : OpenElement) (around : List OpenElement)
    (tag : Tag) :
    takenOut (w.rename f d) draft' (f id) (inner.map (·.rename f)) (block.rename f)
        (element.rename f) (around.map (·.rename f)) tag =
      (takenOut w draft id inner block element around tag).rename f draft' := by
  have hplace := placeFormatting_rename ({ w.builder with draft } : Builder) f draft' w.bookmark
    element.id (.element id tag)
  have hstack : (inner.map (·.rename f) ++ (⟨f id, .html tag.name⟩ : OpenElement) ::
        block.rename f :: w.kept.map (·.rename f) ++ around.map (·.rename f)) =
      (inner ++ ⟨id, .html tag.name⟩ :: block :: w.kept ++ around).map (·.rename f) := by
    simp [OpenElement.rename]
  change ({ (({ w.builder with draft } : Builder).rename f draft').placeFormatting
    (w.bookmark.map f) (f element.id) ((Formatting.element id tag).rename f) with
      stack := inner.map (·.rename f) ++ (⟨f id, .html tag.name⟩ : OpenElement) ::
        block.rename f :: w.kept.map (·.rename f) ++ around.map (·.rename f) } : Builder) = _
  rw [hplace, hstack]
  rfl

theorem rename_elements_congr {es : List OpenElement} (h : ∀ e ∈ es, f' e.id = f e.id) :
    es.map (·.rename f') = es.map (·.rename f) :=
  List.map_congr_left fun e he => by rw [OpenElement.rename, OpenElement.rename, h e he]

theorem AlikeBy.exists_takeOut (hD : DraftRelation D) (h : AlikeBy D f V b d')
    (hne : b.problems ≠ []) (inner : List OpenElement) (block : OpenElement)
    (between : List OpenElement) (element : OpenElement) (around : List OpenElement)
    (hinner : ∀ e ∈ inner, V e.id) (hblock : V block.id) (hbetween : ∀ e ∈ between, V e.id)
    (helement : V element.id) (haround : ∀ e ∈ around, V e.id) (tag : Tag) :
    ∃ (f' : Equiv.Perm Nat) (V' : Nat → Prop) (d₁' : Draft),
      (b.rename f d').takeOut (inner.map (·.rename f)) (block.rename f)
          (between.map (·.rename f)) (element.rename f) (around.map (·.rename f)) tag =
          (b.takeOut inner block between element around tag).rename f' d₁' ∧
        AlikeBy D f' V' (b.takeOut inner block between element around tag) d₁' := by
  have hstart : AlikeWalk D f V { builder := b, moving := block.id } d' :=
    ⟨h, hne, by simp, hblock, by simp⟩
  obtain ⟨f₁, V₁, d₁, heq, hw, hext₁⟩ := hstart.exists_walkOut hD hblock between hbetween 1
  generalize hwalk : walkOut block.id { builder := b, moving := block.id } between 1 = w at heq hw
  generalize hp : placed (w.builder.draft.detach w.moving)
    (({ w.builder with draft := w.builder.draft.detach w.moving } : Builder).placeIn
      (around.headD ⟨0, .html ""⟩)) w.moving = p
  generalize hp' : placed (d₁.detach (f₁ w.moving))
    (({ (w.rename f₁ d₁).builder with draft := d₁.detach (f₁ w.moving) } : Builder).placeIn
      ((around.map (·.rename f)).headD ⟨0, .html ""⟩)) (f₁ w.moving) = p'
  have hsize : w.builder.draft.nodes.size ≤ p.nodes.size :=
    Nat.le_of_eq (by rw [← hp, size_placed, Draft.size_detach])
  have hsize' : d₁.nodes.size ≤ p'.nodes.size :=
    Nat.le_of_eq (by rw [← hp', size_placed, Draft.size_detach])
  -- The source has problems by now, so the places of the nodes in the drafts do not matter.
  have hplaced := (hw.builder.setDraft_of_ne hw.problems p p' hsize hsize').2
  obtain ⟨f₂, V₂, hext₂, hlt, hV, hid, -⟩ :=
    hplaced.exists_addElement hD (.html tag.name) tag.attributes
  simp only at hlt hV hid
  have hfinal := (hplaced.setDraft (wrapped p tag block.id) (wrapped p' tag (f block.id)) hext₂
    (by simpa only [size_wrapped] using hlt) fun hnil => absurd hnil hw.problems).2
  have hext : ∀ i, V i → V₂ i ∧ f₂ i = f i := fun i hi =>
    ⟨(hext₂ i (hext₁ i hi).1).1, (hext₂ i (hext₁ i hi).1).2.trans (hext₁ i hi).2⟩
  have hwalk' : walkOut (block.rename f).id
      { builder := b.rename f d', moving := (block.rename f).id } (between.map (·.rename f)) 1 =
        w.rename f₁ d₁ := heq
  rw [takeOut_eq b inner block between element around tag hwalk rfl rfl rfl rfl hp,
    takeOut_eq (b.rename f d') _ (block.rename f) _ (element.rename f) _ tag hwalk'
      (i := f block.id) rfl rfl rfl rfl hp']
  refine ⟨f₂, V₂, wrapped p' tag (f block.id), ?_, ?_⟩
  · rw [← hid, ← hw.rename_congr hext₂,
      ← rename_elements_congr fun e he => (hext _ (hinner e he)).2,
      ← rename_elements_congr fun e he => (hext _ (haround e he)).2]
    have hrename {e : OpenElement} (he : V e.id) : e.rename f = e.rename f₂ := by
      rw [OpenElement.rename, OpenElement.rename, (hext _ he).2]
    rw [hrename hblock, hrename helement]
    exact takenOut_rename w f₂ d₁ _ _ _ inner block element around tag
  · refine AlikeBy.setStack (hfinal.placeFormatting w.bookmark element.id hV tag) fun e he => ?_
    simp only [List.mem_append, List.mem_cons] at he
    rcases he with (hmem | rfl | rfl | hmem) | hmem
    · exact (hext _ (hinner e hmem)).1
    · exact hV
    · exact (hext _ hblock).1
    · exact (hext₂ _ (hw.kept e hmem)).1
    · exact (hext _ (haround e hmem)).1

/-! ### The end of formatting -/

/-- The latest formatting that satisfies a test, since the last marker. -/
def recent? (b : Builder) (test : Tag → Bool) : Option (Nat × Tag) :=
  b.recentFormatting.findSome? fun
    | .marker => none
    | .element id t => if test t then some (id, t) else none

theorem recent?_rename (b : Builder) (f : Equiv.Perm Nat) (d : Draft) (test : Tag → Bool) :
    (b.rename f d).recent? test = (b.recent? test).map fun entry => (f entry.1, entry.2) := by
  rw [recent?, recent?, recentFormatting_rename, List.findSome?_map, List.map_findSome?]
  congr 1
  funext entry
  cases entry with
  | marker => rfl
  | element id t =>
    simp only [Function.comp_apply, Formatting.rename]
    split_ifs <;> rfl

/-- One round for the end tag of formatting whose element and tag are given. -/
def endFound (b : Builder) (id : Nat) (t : Tag) : Builder × Bool :=
  match b.stack.dropWhile (·.id ≠ id) with
  | [] => ((b.report .formattingNotOpen).removeFormatting id, false)
  | element :: around =>
    if !findsInScope (·.boundsScope) (·.id = id) b.stack then
      (b.report .formattingNotInScope, false)
    else
      let c := if b.current.id = id then b else b.report .formattingNotCurrent
      match (b.stack.takeWhile (·.id ≠ id)).reverse.dropWhile (!·.name.isSpecial) with
      | [] => ({ c with stack := around }.removeFormatting id, false)
      | block :: inner =>
        (c.takeOut inner.reverse block
          ((b.stack.takeWhile (·.id ≠ id)).reverse.takeWhile (!·.name.isSpecial)).reverse
          element around t, true)

theorem closeFormattingOnce_eq (b : Builder) (tag : String) :
    b.closeFormattingOnce tag =
      match b.recent? (·.name = tag) with
      | none => (b.closeGeneric tag, false)
      | some (id, t) => b.endFound id t := by
  simp only [closeFormattingOnce, recent?, decide_eq_true_eq]
  rfl

theorem findsInScope_id_rename (bounds : ElementName → Bool) (f : Equiv.Perm Nat) (id : Nat)
    (es : List OpenElement) :
    findsInScope bounds (·.id = f id) (es.map (·.rename f)) =
      findsInScope bounds (·.id = id) es := by
  induction es with
  | nil => rfl
  | cons e es ih =>
    rw [List.map_cons, findsInScope, findsInScope, ih]
    simp [OpenElement.rename]

theorem takeWhile_id_rename (f : Equiv.Perm Nat) (id : Nat) (es : List OpenElement) :
    (es.map (·.rename f)).takeWhile (·.id ≠ f id) =
      (es.takeWhile (·.id ≠ id)).map (·.rename f) := by
  simp only [List.takeWhile_map, Function.comp_def, OpenElement.rename, ne_eq,
    EmbeddingLike.apply_eq_iff_eq]

theorem dropWhile_id_rename (f : Equiv.Perm Nat) (id : Nat) (es : List OpenElement) :
    (es.map (·.rename f)).dropWhile (·.id ≠ f id) =
      (es.dropWhile (·.id ≠ id)).map (·.rename f) := by
  simp only [List.dropWhile_map, Function.comp_def, OpenElement.rename, ne_eq,
    EmbeddingLike.apply_eq_iff_eq]

/-- Formatting is the innermost open element unless something is open inside it. -/
theorem takeWhile_id_eq_nil (b : Builder) {id : Nat} (h : b.current.id = id) :
    b.stack.takeWhile (·.id ≠ id) = [] := by
  rw [Builder.current] at h
  cases hstack : b.stack with
  | nil => rfl
  | cons e es =>
    rw [hstack, List.headD_cons] at h
    rw [List.takeWhile_cons_of_neg (by simp [h])]

/-- What becomes of formatting that ends: the open elements inside it are closed with it, or what is
behind the first special one among them is taken out of it. -/
def endInside (b : Builder) (id : Nat) (inside : List OpenElement) (element : OpenElement)
    (around : List OpenElement) (t : Tag) : Builder × Bool :=
  match inside.dropWhile (!·.name.isSpecial) with
  | [] => ({ b with stack := around }.removeFormatting id, false)
  | block :: inner =>
    (b.takeOut inner.reverse block (inside.takeWhile (!·.name.isSpecial)).reverse element around t,
      true)

/-- Something is taken out of formatting in a source with problems only. -/
theorem AlikeBy.exists_endInside (hD : DraftRelation D) (h : AlikeBy D f V b d') (id : Nat)
    {inside : List OpenElement} {element : OpenElement} {around : List OpenElement}
    (hne : inside ≠ [] → b.problems ≠ []) (hinside : ∀ e ∈ inside, V e.id)
    (helement : V element.id) (haround : ∀ e ∈ around, V e.id) (t : Tag) :
    Alike D (b.endInside id inside element around t).1
        ((b.rename f d').endInside (f id) (inside.map (·.rename f)) (element.rename f)
          (around.map (·.rename f)) t).1 ∧
      ((b.rename f d').endInside (f id) (inside.map (·.rename f)) (element.rename f)
          (around.map (·.rename f)) t).2 = (b.endInside id inside element around t).2 := by
  have hdrop : (inside.map (·.rename f)).dropWhile (!·.name.isSpecial) =
      (inside.dropWhile (!·.name.isSpecial)).map (·.rename f) := List.dropWhile_map
  have htake : (inside.map (·.rename f)).takeWhile (!·.name.isSpecial) =
      (inside.takeWhile (!·.name.isSpecial)).map (·.rename f) := List.takeWhile_map
  rw [endInside, endInside, hdrop, htake]
  cases hblock : inside.dropWhile (!·.name.isSpecial) with
  | nil =>
    exact ⟨⟨f, V, d', removeFormatting_rename { b with stack := around } f d' id,
      (h.setStack haround).removeFormatting id⟩, rfl⟩
  | cons block inner =>
    have hmem : ∀ e ∈ block :: inner, V e.id := fun e he =>
      hinside e (List.dropWhile_subset _ (hblock ▸ he))
    have hproblems : b.problems ≠ [] := hne fun hnil => by
      rw [hnil] at hblock
      cases hblock
    obtain ⟨f', V', d₁', heq, h'⟩ := h.exists_takeOut hD hproblems inner.reverse block
      (inside.takeWhile (!·.name.isSpecial)).reverse element around
      (fun e he => hmem e (List.mem_cons_of_mem _ (List.mem_reverse.mp he)))
      (hmem block List.mem_cons_self)
      (fun e he => hinside e (List.takeWhile_subset _ (List.mem_reverse.mp he))) helement haround t
    simp only [List.map_cons, ← List.map_reverse]
    exact ⟨⟨f', V', d₁', heq, h'⟩, trivial⟩

theorem AlikeBy.exists_endFound (hD : DraftRelation D) (h : AlikeBy D f V b d') (id : Nat)
    (t : Tag) :
    Alike D (b.endFound id t).1 ((b.rename f d').endFound (f id) t).1 ∧
      ((b.rename f d').endFound (f id) t).2 = (b.endFound id t).2 := by
  have hstack : (b.rename f d').stack = b.stack.map (·.rename f) := rfl
  have hreport (p : Problem) : (b.rename f d').report p = (b.report p).rename f d' := rfl
  have hmem : ∀ e ∈ b.stack, V e.id := fun e he => h.names _ (.stack he)
  rw [endFound, endFound, hstack, dropWhile_id_rename, takeWhile_id_rename,
    findsInScope_id_rename]
  cases hrest : b.stack.dropWhile (·.id ≠ id) with
  | nil =>
    exact ⟨⟨f, V, d', removeFormatting_rename (b.report _) f d' id,
      (h.report _).removeFormatting id⟩, rfl⟩
  | cons element around =>
    have hrestmem : ∀ e ∈ element :: around, V e.id := fun e he =>
      hmem e (List.dropWhile_subset _ (hrest ▸ he))
    by_cases hscope : findsInScope (·.boundsScope) (·.id = id) b.stack
    · -- Only an element that is not the current one has open elements inside it.
      have hcurrent : (if (b.rename f d').current.id = f id then b.rename f d'
            else (b.rename f d').report .formattingNotCurrent) =
          (if b.current.id = id then b else b.report .formattingNotCurrent).rename f d' := by
        rw [current_rename h.zero.2, OpenElement.rename]
        simp only [f.injective.eq_iff, hreport]
        split_ifs <;> rfl
      have hc : AlikeBy D f V
          (if b.current.id = id then b else b.report .formattingNotCurrent) d' := by
        split_ifs
        · exact h
        · exact h.report _
      simp only [List.map_cons, hscope, Bool.not_true, Bool.false_eq_true, if_false, hcurrent,
        ← List.map_reverse]
      refine hc.exists_endInside hD id (fun hne => ?_)
        (fun e he => hmem e (List.takeWhile_subset _ (List.mem_reverse.mp he)))
        (hrestmem element List.mem_cons_self)
        (fun e he => hrestmem e (List.mem_cons_of_mem _ he)) t
      rw [if_neg fun hid => hne (by rw [takeWhile_id_eq_nil b hid, List.reverse_nil])]
      exact List.cons_ne_nil _ _
    · simp only [List.map_cons, hscope, Bool.not_false, if_true]
      exact ⟨⟨f, V, d', hreport _, h.report _⟩, trivial⟩

namespace Alike

theorem closeFormattingOnce (hD : DraftRelation D) (h : Alike D b b') (tag : String) :
    Alike D (b.closeFormattingOnce tag).1 (b'.closeFormattingOnce tag).1 ∧
      (b'.closeFormattingOnce tag).2 = (b.closeFormattingOnce tag).2 := by
  have hgeneric := h.closeGeneric tag
  obtain ⟨f, V, d', rfl, h⟩ := h
  rw [closeFormattingOnce_eq, closeFormattingOnce_eq, recent?_rename]
  cases b.recent? (·.name = tag) with
  | none => exact ⟨hgeneric, rfl⟩
  | some entry => exact h.exists_endFound hD entry.1 entry.2

theorem closeFormattingRounds (hD : DraftRelation D) (tag : String) (rounds : Nat)
    (h : Alike D b b') :
    Alike D (Builder.closeFormattingRounds tag rounds b)
      (Builder.closeFormattingRounds tag rounds b') := by
  induction rounds generalizing b b' with
  | zero => exact h
  | succ rounds ih =>
    obtain ⟨honce, hmore⟩ := h.closeFormattingOnce hD tag
    simp only [Builder.closeFormattingRounds, hmore]
    split_ifs
    · exact ih honce
    · exact honce

theorem closeFormatting (hD : DraftRelation D) (h : Alike D b b') (tag : String) :
    Alike D (b.closeFormatting tag) (b'.closeFormatting tag) := by
  have htag : b'.formattingTag? b'.current.id = b.formattingTag? b.current.id := by
    obtain ⟨f, V, d', rfl, h⟩ := h
    rw [current_rename h.zero.2]
    exact formattingTag?_rename ..
  simp only [Builder.closeFormatting, h.current_name_eq, htag]
  split_ifs
  · exact h.pop
  · exact h.closeFormattingRounds hD tag 8

end Alike

theorem names_of_recent? {test : Tag → Bool} {entry : Nat × Tag}
    (h : b.recent? test = some entry) : b.Names entry.1 := by
  obtain ⟨found, hmem, hfound⟩ := List.exists_of_findSome?_eq_some h
  cases found with
  | marker => cases hfound
  | element id t =>
    simp only at hfound
    split_ifs at hfound
    cases hfound
    exact .formatting (List.takeWhile_subset _ hmem)

/-- The latest link in force. -/
theorem findSome?_anchor (b : Builder) :
    (b.recentFormatting.findSome? fun
        | .marker => none
        | .element id t => if t.name = "a" then some id else none) =
      (b.recent? (·.name = "a")).map (·.1) := by
  rw [recent?, List.map_findSome?]
  congr 1
  funext entry
  cases entry with
  | marker => rfl
  | element id t =>
    simp only [Function.comp_apply, decide_eq_true_eq]
    split_ifs <;> rfl

theorem endAnchor_eq (b : Builder) :
    b.endAnchor =
      match (b.recent? (·.name = "a")).map (·.1) with
      | none => b
      | some id => ((b.unexpected.closeFormatting "a").removeFormatting id).removeOpen id := by
  rw [← findSome?_anchor]
  rfl

theorem Alike.endAnchor (hD : DraftRelation D) (h : Alike D b b') :
    Alike D b.endAnchor b'.endAnchor := by
  obtain ⟨f, V, d', rfl, h⟩ := h
  rw [endAnchor_eq, endAnchor_eq, recent?_rename, Option.map_map]
  cases hentry : b.recent? (·.name = "a") with
  | none => exact ⟨f, V, d', rfl, h⟩
  | some entry =>
    have hid : V entry.1 := h.names _ (names_of_recent? hentry)
    have hclosed := (h.keep hid).unexpected.closeFormatting (hD.keep _ _) "a"
    obtain ⟨f₁, V₁, d₁, heq, h₁, hid₁, hf₁⟩ := hclosed.exists_of_keep
    refine ⟨f₁, V₁, d₁, ?_, (h₁.removeFormatting entry.1).removeOpen entry.1⟩
    simp only [Option.map_some, Function.comp_apply]
    rw [heq, ← hf₁, removeFormatting_rename, removeOpen_rename]

end Builder

end HtmlText
