import HtmlText.Proofs.Reading
import Mathlib.Data.List.TakeWhile

/-!
# Reading the beginning of a source

Construction goes on behind markup that is read as one token, and behind blanks. A run of text may
begin with the blanks and go on behind them, which makes no difference to a state that takes blanks
and the text behind them one after the other.

## Main definitions

* `ReadsAs`: markup that is read as one token, whatever follows it.
* `Builder.Reaches`: construction goes on in another state behind some text.
* `Builder.TakesBlanks`: states that take blanks and the text behind them one after the other.

## Main results

* `Builder.runAll_of_readsAs`: construction behind markup.
* `TakesBlanks.exists_reaches`: construction behind blanks.
-/

namespace HtmlText

theorem drop_length_takeWhile {α : Type} (p : α → Bool) (xs : List α) :
    xs.drop (xs.takeWhile p).length = xs.dropWhile p := by
  have h : (xs.takeWhile p ++ xs.dropWhile p).drop (xs.takeWhile p).length = xs.dropWhile p :=
    List.drop_left
  rwa [List.takeWhile_append_dropWhile] at h

namespace Source

/-- Text is read up to a character that ends it. -/
theorem nextMarkup_run {c : Char} (hc : endsRun false c = false) (cs : List Char) :
    nextMarkup false ⟨c :: cs, 0⟩ =
      ([.text ((c :: cs).takeWhile (!endsRun false ·))],
        ⟨(c :: cs).dropWhile (!endsRun false ·), 0⟩) := by
  have hne : c ≠ '\n' ∧ c ≠ '\r' ∧ c ≠ '\x00' ∧ c ≠ '&' ∧ c ≠ '<' := by
    simp only [endsRun, Bool.or_eq_false_iff, decide_eq_false_iff_not, Bool.not_false,
      Bool.true_and] at hc
    exact ⟨hc.1.1.2, hc.1.2, hc.1.1.1, hc.2.2, hc.2.1⟩
  simp only [nextMarkup, hne.1, hne.2.1, hne.2.2.1, hne.2.2.2.1, hne.2.2.2.2, if_false, readRun,
    if_true, Nat.zero_sub]
  rw [drop_length_takeWhile]

end Source

/-- Markup that is read as one token, whatever follows it. -/
def ReadsAs (u : List Char) (t : Token) : Prop :=
  ∀ tail, Source.nextMarkup false ⟨u ++ tail, 0⟩ = ([.token t], ⟨tail, 0⟩)

namespace Builder

/-- Construction goes on behind markup. -/
theorem runAll_of_readsAs {b : Builder} (hmode : b.textMode = .markup)
    (hforeign : b.inForeign = false) {u : List Char} {t : Token} (h : ReadsAs u t)
    (tail : List Char) : b.runAll ⟨u ++ tail, 0⟩ = (b.feed (.token t)).runAll ⟨tail, 0⟩ := by
  have hne : u ++ tail ≠ [] := by
    intro hnil
    have hread := h tail
    rw [hnil] at hread
    cases hread
  have hnext : Source.next .markup false ⟨u ++ tail, 0⟩ = ([.token t], ⟨tail, 0⟩) := h tail
  rw [runAll_next b hne, hmode, hforeign, hnext]
  rfl

/-- Construction goes on in another state behind some text, if no blank follows. -/
def Reaches (b : Builder) (u : List Char) (c : Builder) : Prop :=
  ∀ tail : List Char, (∀ ch ∈ tail.head?, isMarkupBlank ch = false) →
    b.runAll ⟨u ++ tail, 0⟩ = c.runAll ⟨tail, 0⟩

theorem reaches_nil (b : Builder) : b.Reaches [] b := fun _ _ => rfl

theorem Reaches.trans {b c e : Builder} {u v : List Char} (h : b.Reaches u c)
    (h' : c.Reaches v e) (hv : ∀ ch ∈ v.head?, isMarkupBlank ch = false) :
    b.Reaches (u ++ v) e := by
  intro tail htail
  rw [List.append_assoc, h (v ++ tail), h' tail htail]
  cases v with
  | nil => exact htail
  | cons ch v => exact hv

/-- A text begins with a run. -/
theorem exists_run {a : Char} (ha : Source.endsRun false a = false) (w : List Char) :
    ∃ v rest, a :: w = v ++ rest ∧ (∀ c ∈ v, Source.endsRun false c = false) ∧ v ≠ [] ∧
      ∀ c ∈ rest.head?, Source.endsRun false c = true := by
  refine ⟨(a :: w).takeWhile (!Source.endsRun false ·),
    (a :: w).dropWhile (!Source.endsRun false ·), List.takeWhile_append_dropWhile.symm,
    fun c hc => ?_, ?_, fun c hc => ?_⟩
  · simpa using List.mem_takeWhile_imp (p := (!Source.endsRun false ·)) hc
  · rw [List.takeWhile_cons_of_pos (by simp [ha])]
    exact List.cons_ne_nil _ _
  · have hrest := List.head?_dropWhile_not (!Source.endsRun false ·) (a :: w)
    rw [hc] at hrest
    simpa using hrest

/-- Construction goes on behind a run of text. -/
theorem runAll_run {b : Builder} (hmode : b.textMode = .markup) (hforeign : b.inForeign = false)
    {c : Char} (hc : Source.endsRun false c = false) (cs : List Char) :
    b.runAll ⟨c :: cs, 0⟩ =
      (b.feed (.token (.text ((c :: cs).takeWhile (!Source.endsRun false ·))))).runAll
        ⟨(c :: cs).dropWhile (!Source.endsRun false ·), 0⟩ := by
  have hne : (⟨c :: cs, 0⟩ : Source).rest ≠ [] := List.cons_ne_nil c cs
  have hnext : Source.next .markup false ⟨c :: cs, 0⟩ = _ := Source.nextMarkup_run hc cs
  rw [runAll_next b hne, hmode, hforeign, hnext]
  rfl

/-- Construction goes on behind a line feed. -/
theorem runAll_lineFeed {b : Builder} (hmode : b.textMode = .markup)
    (hforeign : b.inForeign = false) (cs : List Char) :
    b.runAll ⟨'\n' :: cs, 0⟩ = (b.feed (.token (.text ['\n']))).runAll ⟨cs, 0⟩ := by
  have hne : (⟨'\n' :: cs, 0⟩ : Source).rest ≠ [] := List.cons_ne_nil _ cs
  rw [runAll_next b hne, hmode, hforeign]
  rfl

/-- Construction goes on behind a run of text that something else follows. -/
theorem runAll_append {b : Builder} (hmode : b.textMode = .markup) (hforeign : b.inForeign = false)
    {v : List Char} (hv : ∀ c ∈ v, Source.endsRun false c = false) (hne : v ≠ [])
    (tail : List Char) :
    b.runAll ⟨v ++ tail, 0⟩ =
      (b.feed (.token (.text (v ++ tail.takeWhile (!Source.endsRun false ·))))).runAll
        ⟨tail.dropWhile (!Source.endsRun false ·), 0⟩ := by
  obtain ⟨c, v, rfl⟩ := List.exists_cons_of_ne_nil hne
  have hall : ∀ d ∈ c :: v, (!Source.endsRun false d) = true := fun d hd => by
    rw [hv d hd]
    rfl
  rw [List.cons_append, runAll_run hmode hforeign (hv c List.mem_cons_self), ← List.cons_append,
    List.takeWhile_append_of_pos hall, List.dropWhile_append_of_pos hall]

/-- States of a kind that take blanks and the text behind them one after the other, and come to
states of the same kind behind blanks. -/
structure TakesBlanks (C : Builder → Prop) : Prop where
  textMode : ∀ b, C b → b.textMode = .markup
  inForeign : ∀ b, C b → b.inForeign = false
  feed : ∀ b v, C b → isBlankRun v = true → v ≠ [] → C (b.feed (.token (.text v)))
  append : ∀ b v x, C b → isBlankRun v = true → v ≠ [] → x ≠ [] →
    (∀ c ∈ x.head?, isMarkupBlank c = false) →
    b.feed (.token (.text (v ++ x))) = (b.feed (.token (.text v))).feed (.token (.text x))

theorem endsRun_of_isMarkupBlank {c : Char} (hc : isMarkupBlank c = true) (hlf : c ≠ '\n')
    (hcr : c ≠ '\r') : Source.endsRun false c = false := by
  simp only [isMarkupBlank, Bool.or_eq_true, decide_eq_true_eq] at hc
  rcases hc with (((rfl | rfl) | rfl) | rfl) | rfl
  all_goals first | decide | exact absurd rfl hlf | exact absurd rfl hcr

/-- Construction goes on behind a run of blanks that no further blank follows in the same run. -/
theorem TakesBlanks.runAll_run {C : Builder → Prop} (hC : TakesBlanks C) {b : Builder} (hb : C b)
    {v : List Char} (hblank : isBlankRun v = true)
    (hv : ∀ c ∈ v, Source.endsRun false c = false) (hne : v ≠ []) {tail : List Char}
    (htail : ∀ c ∈ tail.head?, Source.endsRun false c = false → isMarkupBlank c = false) :
    b.runAll ⟨v ++ tail, 0⟩ = (b.feed (.token (.text v))).runAll ⟨tail, 0⟩ := by
  have hfeed := hC.feed b v hb hblank hne
  rw [runAll_append (hC.textMode b hb) (hC.inForeign b hb) hv hne]
  cases tail with
  | nil => rw [List.takeWhile_nil, List.dropWhile_nil, List.append_nil]
  | cons c tail =>
    cases hc : Source.endsRun false c with
    | true =>
      rw [List.takeWhile_cons_of_neg (by simp [hc]), List.dropWhile_cons_of_neg (by simp [hc]),
        List.append_nil]
    | false =>
      have hx : (c :: tail).takeWhile (!Source.endsRun false ·) =
          c :: tail.takeWhile (!Source.endsRun false ·) :=
        List.takeWhile_cons_of_pos (by simp [hc])
      have hhead : ∀ d ∈ (c :: tail.takeWhile (!Source.endsRun false ·)).head?,
          isMarkupBlank d = false := by
        rintro d ⟨⟩
        exact htail c rfl hc
      rw [Builder.runAll_run (hC.textMode _ hfeed) (hC.inForeign _ hfeed) hc, hx,
        hC.append b v _ hb hblank hne (List.cons_ne_nil _ _) hhead]

/-- Construction goes on behind blanks. The induction is on their number: one line feed, or one run
of other blanks, is read at a time. -/
theorem TakesBlanks.exists_reaches {C : Builder → Prop} (hC : TakesBlanks C) {b : Builder}
    (hb : C b) {w : List Char} (hw : isBlankRun w = true) (hcr : '\r' ∉ w) :
    ∃ c, C c ∧ b.Reaches w c := by
  generalize hn : w.length = n
  induction n using Nat.strongRecOn generalizing b w with
  | ind n ih =>
    cases w with
    | nil => exact ⟨b, hb, b.reaches_nil⟩
    | cons a w =>
      have hcons := hw
      rw [isBlankRun, List.all_cons, Bool.and_eq_true] at hcons
      by_cases hlf : a = '\n'
      · subst hlf
        obtain ⟨c, hc, hrun⟩ := ih w.length (by simp [← hn])
          (hC.feed b ['\n'] hb rfl (by simp)) hcons.2
          (fun hmem => hcr (List.mem_cons_of_mem _ hmem)) rfl
        refine ⟨c, hc, fun tail htail => ?_⟩
        rw [List.cons_append, runAll_lineFeed (hC.textMode b hb) (hC.inForeign b hb),
          hrun tail htail]
      · have hends : Source.endsRun false a = false :=
          endsRun_of_isMarkupBlank hcons.1 hlf fun heq => hcr (heq ▸ List.mem_cons_self)
        -- The run ends at a line feed, or where the blanks end.
        obtain ⟨v, rest, hsplit, hv, hne, hrest⟩ := exists_run hends w
        rw [hsplit] at hw hcr hn ⊢
        rw [isBlankRun, List.all_append, Bool.and_eq_true] at hw
        have hlt : rest.length < n := by
          rw [← hn, List.length_append]
          exact Nat.lt_add_of_pos_left (List.length_pos_iff.mpr hne)
        obtain ⟨c, hc, hrun⟩ := ih _ hlt (hC.feed b v hb hw.1 hne) hw.2
          (fun hmem => hcr (List.mem_append_right v hmem)) rfl
        refine ⟨c, hc, fun tail htail => ?_⟩
        rw [List.append_assoc, ← hrun tail htail]
        refine hC.runAll_run hb hw.1 hv hne fun d hd hdends => ?_
        cases rest with
        | nil => exact htail d hd
        | cons d' rest =>
          cases hd
          rw [hrest d rfl] at hdends
          cases hdends

/-- Construction goes on behind markup and blanks. -/
theorem TakesBlanks.exists_reaches_of_readsAs {C : Builder → Prop} (hC : TakesBlanks C)
    {b : Builder} (hmode : b.textMode = .markup) (hforeign : b.inForeign = false) {u : List Char}
    {t : Token} (h : ReadsAs u t) (hb : C (b.feed (.token t))) {w : List Char}
    (hw : isBlankRun w = true) (hcr : '\r' ∉ w) : ∃ c, C c ∧ b.Reaches (u ++ w) c := by
  obtain ⟨c, hc, hreaches⟩ := hC.exists_reaches hb hw hcr
  refine ⟨c, hc, fun tail htail => ?_⟩
  rw [List.append_assoc, runAll_of_readsAs hmode hforeign h, hreaches tail htail]

end Builder

end HtmlText
