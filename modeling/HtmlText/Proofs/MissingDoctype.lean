import HtmlText.Proofs.EncodingTransparency

/-!
# The document type that is put in front of a document

A document that does not begin with a document type gets one before it is parsed. Whether it begins
with one is decided by its look, up to blanks. Construction has a view of its own: it lets comments,
blanks given as references and a byte order mark pass before the document type, too.

So the two agree only on a part of all documents. A document that is parsed without problems has a
document type, and nothing but such things in front of it. If it does not look like that, a second
document type is put in front of the first one, and the first one comes too late.

## Main definitions

* `Builder.InPlainBody`: a body that text has opened.
* `Builder.PastDoctype`: states behind the document type.

## Main results

* `Builder.untyped_feed_cases`: what the beginning of a document may hold.
* `Builder.PastDoctype.feed_passes`, `Builder.PastDoctype.spoilt_feed_doctype`: the same behind a
  document type.
* `Builder.PastDoctype.problems_runAll`: a second document type in a source.
* `Page.clean_iff_beginsWithDoctype`: when a document without problems is parsed without problems.
-/

namespace HtmlText

namespace Builder

/-! ### In front of the document type -/

variable {d : Draft}

/-- A token that opens the root element is a problem if there is no document type. -/
theorem spoilt_settle_untyped (hd : d.Rootless) {t : Token}
    (hagain : ∀ rounds, settleWithin (rounds + 1) (untyped d) t [] =
      settleWithin rounds (beforeRoot d [.unexpectedToken] true) t []) :
    ((untyped d).settle t).Spoilt := by
  have hspoilt := (coherent_beforeRoot [.unexpectedToken] true hd).spoilt (List.cons_ne_nil _ _)
  obtain ⟨n, hn⟩ := Nat.exists_eq_add_of_le'
    (Nat.le_trans (by decide : 1 ≤ 32) ((untyped d).le_roundsFor t))
  rw [settle, hn, hagain]
  exact Alike.settleWithin .never n hspoilt t []

/-- Text is a problem if there is no document type, also behind blanks. -/
theorem spoilt_feed_untyped_text (hd : d.Rootless) {cs : List Char}
    (hcs : isBlankRun cs = false) : ((untyped d).feed (.token (.text cs))).Spoilt := by
  obtain ⟨v, x, rfl, hv, hxne, hx⟩ := exists_eq_blanks_append hcs
  have hskip : (untyped d).feed (.token (.text (v ++ x))) =
      (untyped d).feed (.token (.text x)) := by
    by_cases hne : v = []
    · rw [hne, List.nil_append]
    · exact (feed_blank_untyped hd hv hne).2 x hxne hx
  obtain ⟨c, x, rfl⟩ := List.exists_cons_of_ne_nil hxne
  rw [hskip, feed_token rfl (by simp) (by simp)]
  exact spoilt_settle_untyped hd (settleWithin_untyped d ⟨c, x, rfl, hx c rfl⟩)

theorem exists_feed_untyped (hd : d.Rootless) {e : Event} (he : e.Passes) :
    ∃ d', d'.Rootless ∧ (untyped d).feed e = untyped d' := by
  have hcomment (s : String) : (untyped d).feed (.token (.comment s)) =
      untyped (d.adding (.comment s) (some 0)) := by
    rw [feed_token rfl (by simp) (by simp)]
    exact settle_of_done rfl (step_eq rfl _)
  exact feed_of_passes (C := fun c => ∃ d', d'.Rootless ∧ c = untyped d') rfl ⟨d, hd, rfl⟩
    (fun s => ⟨_, hd.adding (Or.inl ⟨s, rfl⟩), hcomment s⟩)
    (fun _ hv hne => ⟨d, hd, (feed_blank_untyped hd hv hne).1⟩) he

/-- In front of the document type there are comments and blanks, and anything else is a problem. -/
theorem untyped_feed_cases (hd : d.Rootless) (e : Event) :
    e.Passes ∨ (∃ t, e = .token (.doctype t)) ∨ ((untyped d).feed e).Spoilt := by
  rcases e with p | t
  · exact Or.inr (Or.inr ((coherent_untyped hd).spoilt_report p))
  cases t with
  | comment s => exact Or.inl trivial
  | text cs =>
    cases hcs : isBlankRun cs with
    | true => exact Or.inl hcs
    | false => exact Or.inr (Or.inr (spoilt_feed_untyped_text hd hcs))
  | doctype t => exact Or.inr (Or.inl ⟨t, rfl⟩)
  | null | sourceEnd | startTag | endTag =>
    rw [feed_token rfl (by simp) (by simp)]
    exact Or.inr (Or.inr (spoilt_settle_untyped hd fun rounds =>
      settleWithin_of_again_part rfl rfl rfl rfl rfl rounds))

/-! ### A body that text has opened -/

/-- A body into which nothing but text and comments has come. -/
structure InPlainBody (b : Builder) : Prop extends b.Begun where
  textMode : b.textMode = .markup
  dropLineFeed : b.dropLineFeed = false

namespace InPlainBody

variable {b : Builder}

theorem bodyText (h : b.InPlainBody) (cs : List Char) : (b.bodyText cs).InPlainBody where
  toBegun := h.toBegun.bodyText cs
  textMode := by
    rw [Builder.bodyText, Begun.reconstruct_eq h.formatting]
    split_ifs <;> exact h.textMode
  dropLineFeed := by
    rw [Builder.bodyText, Begun.reconstruct_eq h.formatting]
    split_ifs <;> exact h.dropLineFeed

theorem settleWithin_text (h : b.InPlainBody) (cs later : List Char) :
    (settleWithin 2 b (.text cs) later).InPlainBody := by
  have hbody := h.bodyText cs
  rw [settleWithin_succ, h.nextPart_text, h.step_text]
  change (settleRest 1 (b.bodyText cs) later).InPlainBody
  rw [settleRest]
  split_ifs
  · exact hbody
  · rw [settleWithin_succ, hbody.nextPart_text, hbody.step_text]
    exact hbody.bodyText later

theorem feed_passes (h : b.InPlainBody) {e : Event} (he : e.Passes) : (b.feed e).InPlainBody := by
  refine feed_of_passes h.dropLineFeed h (fun s => ?_) (fun v _ hne => ?_) he
  · have hstep : b.step (.comment s) = (b.insertComment s).done := by
      rw [step_eq h.html, h.mode]
      rfl
    rw [feed_token h.dropLineFeed (by simp) (by simp), settle_of_done rfl hstep]
    exact ⟨⟨h.mode, h.html, h.templateModes, h.formatting, h.fragment⟩, h.textMode, h.dropLineFeed⟩
  · rw [feed_token h.dropLineFeed (by simpa using hne) (by simp),
      settle_of_done (h.nextPart_text v) (h.step_text v)]
    exact h.bodyText v

end InPlainBody

/-- Text opens the body from the head on. -/
theorem inPlainBody_settleWithin_headed (problems : List Problem) (oldLayout : Bool) (r h : Nat)
    {c : Char} (hc : isMarkupBlank c = false) (cs : List Char) :
    (settleWithin 4 (headed d problems oldLayout r h) (.text (c :: cs)) []).InPlainBody := by
  obtain ⟨run, hrun, hblank⟩ := splitRun_of_not_blank hc cs
  have hbegun := begun_beginBody d problems oldLayout r h
  have hnext : (behindHead d problems oldLayout r h).nextPart (.text (c :: cs)) [] =
      (.text (c :: run), (splitRun (c :: cs)).2 ++ []) := by
    rw [nextPart_of_splits rfl rfl, hrun]
  have hmissing : (behindHead d problems oldLayout r h).step (.text (c :: run)) =
      (behindHead d problems oldLayout r h).beginBody.again (.text (c :: run)) := by
    refine (step_eq rfl _).trans ?_
    change afterHeadRules _ (.text (c :: run)) = _
    rw [afterHeadRules, if_neg (by simp [hblank])]
    rfl
  rw [settleWithin_of_again_part (c := behindHead d problems oldLayout r h) rfl rfl rfl rfl ?_,
    settleWithin_succ, hnext, hmissing]
  · exact InPlainBody.settleWithin_text ⟨hbegun, rfl, rfl⟩ _ _
  · rw [nextPart_of_splits rfl rfl, hrun]
    change headRules _ (.text (c :: run)) = _
    rw [headRules, if_neg (by simp [hblank])]
    rfl

theorem inPlainBody_feed_beforeRoot (hd : d.Rootless) (problems : List Problem)
    (oldLayout : Bool) {c : Char} (hc : isMarkupBlank c = false) (cs : List Char) :
    ((beforeRoot d problems oldLayout).feed (.token (.text (c :: cs)))).InPlainBody := by
  have hopens : (Token.text (c :: cs)).OpensHead := ⟨c, cs, rfl, hc⟩
  rw [feed_token rfl (by simp) (by simp), settle,
    settleWithin_beforeRoot problems oldLayout hd hopens
      (Nat.le_trans (by decide) (le_roundsFor _ _))]
  exact inPlainBody_settleWithin_headed problems oldLayout _ _ hc cs

/-! ### Behind the document type -/

/-- The states to which comments and blanks lead behind the document type, and those to which they
lead behind text. -/
inductive PastDoctype : Builder → Prop
  | beforeRoot {d : Draft} (problems : List Problem) (oldLayout : Bool) (hd : d.Rootless) :
      PastDoctype (beforeRoot d problems oldLayout)
  | body {b b' : Builder} {r : Nat} {H : List Nat} (h : b.InPlainBody)
      (halike : Alike { draft := Mirrors r H } b b') : PastDoctype b

namespace PastDoctype

variable {b : Builder}

theorem coherent (h : b.PastDoctype) : b.Coherent := by
  cases h with
  | beforeRoot problems oldLayout hd => exact coherent_beforeRoot problems oldLayout hd
  | body _ halike => exact halike.coherent

theorem next_eq (h : b.PastDoctype) (s : Source) :
    s.next b.textMode b.inForeign = s.nextMarkup false := by
  cases h with
  | beforeRoot => rfl
  | body h =>
    have hforeign : b.inForeign = false := by simp [inForeign, h.html]
    rw [h.textMode, hforeign]
    rfl

theorem feed_passes (h : b.PastDoctype) {e : Event} (he : e.Passes) : (b.feed e).PastDoctype := by
  cases h with
  | beforeRoot problems oldLayout hd =>
    obtain ⟨d', hd', hfeed⟩ := exists_feed_beforeRoot problems oldLayout hd he
    rw [hfeed]
    exact .beforeRoot problems oldLayout hd'
  | body h halike => exact .body (h.feed_passes he) (halike.feed (Mirrors.draftRelation _ _) e)

/-- Text that does not begin with a blank opens the body. -/
theorem feed_text (hd : d.Rootless) (problems : List Problem) (oldLayout : Bool) {c : Char}
    (hc : isMarkupBlank c = false) (cs : List Char) :
    ((Builder.beforeRoot d problems oldLayout).feed (.token (.text (c :: cs)))).PastDoctype := by
  obtain ⟨r, H, halike⟩ := (Waiting.root problems oldLayout hd
    ((hd.addRoot []).addHead [])).alike_feed (t := .text (c :: cs)) ⟨c, cs, rfl, hc⟩
  exact .body (inPlainBody_feed_beforeRoot hd problems oldLayout hc cs) halike

/-- A second document type is a problem. -/
theorem spoilt_feed_doctype (h : b.PastDoctype) (t : Doctype) :
    (b.feed (.token (.doctype t))).Spoilt := by
  have hfeed : b.feed (.token (.doctype t)) =
      { b with dropLineFeed := false }.report .strayDoctype := by
    have hmode : b.mode ≠ .initial := by
      cases h with
      | beforeRoot => simp [Builder.beforeRoot]
      | body h => simp [h.mode]
    exact if_neg hmode
  have hcoherent : ({ b with dropLineFeed := false } : Builder).Coherent :=
    h.coherent.mono (Nat.le_refl _) (fun _ hi => hi.mono (List.Subset.refl _) (List.Subset.refl _)
      rfl fun _ hid => hid) rfl id
  rw [hfeed]
  exact hcoherent.spoilt_report _

/-- What is without problems in front of the document type has one itself, and so problems behind
another one. The induction is on the length of the source, and for one length on the pending
events. -/
theorem problems_runAll (h : b.PastDoctype) (hd : d.Rootless) (events : List Event) (s : Source)
    (hclean : ((events.foldl feed (untyped d)).runAll s).problems = []) :
    ((events.foldl feed b).runAll s).problems ≠ [] := by
  generalize hn : s.rest.length = n
  induction n using Nat.strongRecOn generalizing b d events s with
  | ind n ih =>
    induction events generalizing b d with
    | nil =>
      by_cases hs : s.rest = []
      · have hspoilt := ((untyped_feed_cases hd (.token .sourceEnd)).resolve_left id).resolve_left
          (by simp)
        rw [List.foldl_nil, runAll_nil _ hs] at hclean
        exact absurd hclean hspoilt.problems_ne_nil
      · have hlt := Source.length_next_lt .markup false hs
        have hnext : s.next (untyped d).textMode (untyped d).inForeign = s.nextMarkup false := rfl
        rw [List.foldl_nil, runAll_next _ hs, hnext] at hclean
        rw [List.foldl_nil, runAll_next _ hs, h.next_eq]
        exact ih _ (hn ▸ hlt) h hd _ _ hclean rfl
    | cons e events ihEvents =>
      rcases untyped_feed_cases hd e with hpasses | ⟨t, rfl⟩ | hspoilt
      · obtain ⟨d', hd', hfeed⟩ := exists_feed_untyped hd hpasses
        rw [List.foldl_cons, hfeed] at hclean
        exact ihEvents (h.feed_passes hpasses) hd' hclean
      · exact (h.spoilt_feed_doctype t).problems_runAll events s
      · exact absurd hclean (hspoilt.problems_runAll events s)

end PastDoctype

/-- Construction goes on behind the run that a source begins with, which may be empty. -/
theorem runAll_takeWhile {b : Builder} (hmode : b.textMode = .markup)
    (hforeign : b.inForeign = false) (hdrop : b.dropLineFeed = false) (cs : List Char) :
    b.runAll ⟨cs, 0⟩ =
      (b.feed (.token (.text (cs.takeWhile (!Source.endsRun false ·))))).runAll
        ⟨cs.dropWhile (!Source.endsRun false ·), 0⟩ := by
  cases cs with
  | nil => rw [List.takeWhile_nil, List.dropWhile_nil, feed_text_nil hdrop]
  | cons c cs =>
    cases hc : Source.endsRun false c with
    | true =>
      rw [List.takeWhile_cons_of_neg (by simp [hc]), List.dropWhile_cons_of_neg (by simp [hc]),
        feed_text_nil hdrop]
    | false => exact runAll_run hmode hforeign hc cs

/-- The byte order mark of a source is text if something stands in front of it. The run of text
behind the mark is read for itself where there is no mark. -/
theorem problems_runAll_mark {d₁ d₂ : Draft} (hd₁ : d₁.Rootless) (hd₂ : d₂.Rootless)
    (problems : List Problem) (oldLayout : Bool) {cs : List Char}
    (hclean : ((untyped d₁).runAll ⟨cs, 0⟩).problems = []) :
    ((beforeRoot d₂ problems oldLayout).runAll ⟨'\uFEFF' :: cs, 0⟩).problems ≠ [] := by
  have hmark : Source.endsRun false '\uFEFF' = false := by decide
  rw [runAll_takeWhile rfl rfl rfl] at hclean
  rw [runAll_run rfl rfl hmark, List.takeWhile_cons_of_pos (by simp [hmark]),
    List.dropWhile_cons_of_pos (by simp [hmark])]
  have hpast := PastDoctype.feed_text hd₂ problems oldLayout (c := '\uFEFF') (by decide)
    (cs.takeWhile (!Source.endsRun false ·))
  generalize cs.takeWhile (!Source.endsRun false ·) = v at hclean hpast ⊢
  rcases untyped_feed_cases hd₁ (.token (.text v)) with hpasses | ⟨t, heq⟩ | hspoilt
  · obtain ⟨d', hd', hfeed⟩ := exists_feed_untyped hd₁ hpasses
    rw [hfeed] at hclean
    exact hpast.problems_runAll hd' [] _ hclean
  · cases heq
  · exact absurd hclean (hspoilt.problems_runAll [] _)

end Builder

/-! ### The document type in front of a source -/

namespace Source

/-- A source with a document type in front of it keeps its byte order mark. -/
theorem ofString_missingDoctype (s : String) :
    ofString ("<!DOCTYPE html>" ++ s) =
      ⟨"<!DOCTYPE html>".toList ++ joinLineEnds s.toList, 0⟩ := by
  rw [ofString, String.toList_append, dropMark_of_head? (by simp), joinLineEnds_append (by decide)]

end Source

/-- A document that is parsed without problems has problems behind another document type. -/
theorem problems_parseDocument_missingDoctype {s : String}
    (hclean : (parseDocument s).problems = []) :
    (parseDocument ("<!DOCTYPE html>" ++ s)).problems ≠ [] := by
  rw [parseDocument, Builder.finish, List.reverse_eq_nil_iff, Builder.construct_eq] at hclean
  rw [parseDocument, Builder.finish, ne_eq, List.reverse_eq_nil_iff, Builder.construct_eq,
    Source.ofString_missingDoctype, Builder.runAll_of_readsAs rfl rfl readsAs_missingDoctype]
  obtain ⟨d, problems, oldLayout, hd, hfeed⟩ := Builder.feed_doctype { name := some "html" }
  rw [hfeed]
  by_cases hmark : s.toList.head? = some '\uFEFF'
  · obtain ⟨cs, hcs⟩ := List.head?_eq_some_iff.mp hmark
    rw [Source.ofString, hcs, Source.dropMark, if_pos rfl] at hclean
    rw [hcs, Source.joinLineEnds_cons (by decide)]
    exact Builder.problems_runAll_mark Draft.rootless_empty hd problems oldLayout hclean
  · rw [Source.ofString, Source.dropMark_of_head? hmark] at hclean
    exact (Builder.PastDoctype.beforeRoot problems oldLayout hd).problems_runAll
      Draft.rootless_empty [] _ hclean

namespace Page

/-- A document is read behind its own document type, or behind the one that is put there. -/
theorem ofSource_document {s : String}
    (hmode : Mode.ofSource (dropXmlDeclaration s) = .document) :
    let typed := if beginsWithDoctype (dropXmlDeclaration s) then dropXmlDeclaration s
      else "<!DOCTYPE html>" ++ dropXmlDeclaration s
    (ofSource s).tree = .ofDom (parseDocument typed).root ∧
      ((ofSource s).diagnostics = [] ↔ (parseDocument typed).problems = []) := by
  intro typed
  have hparse : parse (Mode.ofSource (dropXmlDeclaration s)) (dropXmlDeclaration s) =
      parseDocument typed := by
    rw [hmode, parse]
  constructor
  · rw [ofSource, hparse]
  · rw [ofSource, hparse, List.map_eq_nil_iff]

/-- A document that is parsed without problems comes without diagnostics, and with its own tree, if
it looks like one that begins with its document type, and not otherwise. -/
theorem clean_iff_beginsWithDoctype {s : String}
    (hmode : Mode.ofSource (dropXmlDeclaration s) = .document)
    (hclean : (parseDocument (dropXmlDeclaration s)).problems = []) :
    ((ofSource s).diagnostics = [] ↔ beginsWithDoctype (dropXmlDeclaration s) = true) ∧
      (beginsWithDoctype (dropXmlDeclaration s) = true →
        (ofSource s).tree = .ofDom (parseDocument (dropXmlDeclaration s)).root) := by
  obtain ⟨htree, hdiagnostics⟩ := ofSource_document hmode
  rw [htree, hdiagnostics]
  split_ifs with hbegins
  · exact ⟨iff_of_true hclean hbegins, fun _ => rfl⟩
  · exact ⟨iff_of_false (problems_parseDocument_missingDoctype hclean) hbegins,
      fun h => absurd h hbegins⟩

/-- A document that begins with its document type, behind a line feed. -/
def typedSource : String := "\n<!doctype html><html><head></head><body>x</body></html>"

set_option maxRecDepth 10000 in
theorem clean_typedSource :
    (parseDocument typedSource).problems = [] ∧ beginsWithDoctype typedSource = true ∧
      (ofSource typedSource).diagnostics = [] ∧
      (ofSource typedSource).tree = .ofDom (parseDocument typedSource).root := by
  have hsame : dropXmlDeclaration typedSource = typedSource := by decide
  have hmode : Mode.ofSource (dropXmlDeclaration typedSource) = .document := by decide
  have hclean : (parseDocument (dropXmlDeclaration typedSource)).problems = [] := by
    decide +kernel
  have hbegins : beginsWithDoctype (dropXmlDeclaration typedSource) = true := by decide
  obtain ⟨hdiagnostics, htree⟩ := clean_iff_beginsWithDoctype hmode hclean
  have htree := htree hbegins
  have hdiagnostics := hdiagnostics.mpr hbegins
  rw [hsame] at hclean hbegins htree
  exact ⟨hclean, hbegins, hdiagnostics, htree⟩

/-- A document with a comment in front of its document type. -/
def prefacedSource : String :=
  "<!-- c --><!DOCTYPE html><html><head><title>T</title></head><body>x</body></html>"

set_option maxRecDepth 10000 in
/-- Another document type may be put in front of the one that a document has. -/
theorem not_forall_clean_document :
    ¬∀ s : String, Mode.ofSource (dropXmlDeclaration s) = .document →
      (parseDocument (dropXmlDeclaration s)).problems = [] →
        (ofSource s).diagnostics = [] ∧
          (ofSource s).tree = .ofDom (parseDocument (dropXmlDeclaration s)).root := by
  intro h
  have hmode : Mode.ofSource (dropXmlDeclaration prefacedSource) = .document := by decide
  have hclean : (parseDocument (dropXmlDeclaration prefacedSource)).problems = [] := by
    decide +kernel
  have hproblem : (ofSource prefacedSource).diagnostics ≠ [] := by
    decide +kernel
  exact hproblem (h prefacedSource hmode hclean).1

end Page

end HtmlText
