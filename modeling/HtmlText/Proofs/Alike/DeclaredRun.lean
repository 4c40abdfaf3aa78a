import HtmlText.Proofs.Alike.Fragment
import HtmlText.Proofs.DoctypeReading

/-!
# Construction from a declared source

The preamble of a source is recognised by its look, and construction has a view of its own. Where
the two agree, construction comes to the same state behind the preamble whether the declaration
follows or not. The declaration opens the head then, or it does not show.

## Main definitions

* `PlainPreamble`: the preamble is read as what it looks like.
* `OpensHeadLate`: the head is opened behind the preamble.

## Main results

* `Builder.document_declared`: construction of a document with the declaration.
* `Builder.fragment_declared`: construction of a fragment with the declaration.
-/

namespace HtmlText

/-- The blanks at the beginning of a text are blanks of HTML source. -/
def PlainBlanks (cs : List Char) : Prop := isBlankRun (cs.takeWhile isUnicodeBlank) = true

instance (cs : List Char) : Decidable (PlainBlanks cs) :=
  inferInstanceAs (Decidable (_ = true))

/-- A tag at the beginning of a text, up to its first closing bracket, is read as a start tag with
its name. -/
def PlainTag (name : String) (cs : List Char) : Prop :=
  ∀ rest, dropTag? name cs = some rest →
    ∃ u t, cs = u ++ rest ∧ t.name = name ∧ ReadsAs u (.startTag t)

/-- The preamble of a source is read as what it looks like: there is no byte order mark in front of
it, its blanks are blanks of HTML source, and its tags end at their first closing brackets. -/
structure PlainPreamble (cs : List Char) : Prop where
  mark : cs.head? ≠ some '\uFEFF'
  blanks : PlainBlanks cs
  blanksBehindDoctype : ∀ rest, dropTag? "!doctype" (dropBlanks cs) = some rest → PlainBlanks rest
  root : PlainTag "html" (skipTag "!doctype" (dropBlanks cs))
  blanksBehindRoot : ∀ rest,
    dropTag? "html" (skipTag "!doctype" (dropBlanks cs)) = some rest → PlainBlanks rest
  head : PlainTag "head" (skipTag "html" (skipTag "!doctype" (dropBlanks cs)))

/-- The document type with which a document without one is parsed. -/
def missingDoctype (cs : List Char) : List Char :=
  if (dropWord? "<!doctype" (dropBlanks cs)).isSome then [] else "<!DOCTYPE html>".toList

/-- There is a `head` tag in the preamble of a source. -/
def opensHead (cs : List Char) : Bool :=
  (dropTag? "head" (skipTag "html" (skipTag "!doctype" (dropBlanks cs)))).isSome

/-- The start tag of the root or of the head comes behind the preamble, with nothing but comments
and blanks before it. -/
def OpensHeadLate (cs : List Char) : Prop :=
  opensHead cs = false ∧ OpensLate [] ⟨afterPreamble cs, 0⟩

theorem readsAs_missingDoctype :
    ReadsAs "<!DOCTYPE html>".toList (.doctype { name := some "html" }) := by
  intro tail
  rfl

namespace Builder

/-! ### Up to the head -/

/-- A problem at the beginning of a source is found. -/
theorem problems_runAll_initial {cs : List Char} {p : Problem} {events : List Event} {s : Source}
    (hcs : cs ≠ []) (h : Source.nextMarkup false ⟨cs, 0⟩ = (.problem p :: events, s)) :
    (({} : Builder).runAll ⟨cs, 0⟩).problems ≠ [] := by
  have hne : (⟨cs, 0⟩ : Source).rest ≠ [] := hcs
  have hnext : Source.next .markup false ⟨cs, 0⟩ = (.problem p :: events, s) := h
  have hstep : ({} : Builder).runAll ⟨cs, 0⟩ =
      (events.foldl feed (({} : Builder).report p)).runAll s := by
    rw [runAll_next _ hne]
    change ((Source.next .markup false ⟨cs, 0⟩).1.foldl feed {}).runAll
      (Source.next .markup false ⟨cs, 0⟩).2 = _
    rw [hnext]
    rfl
  rw [hstep]
  exact ((coherent_untyped Draft.rootless_empty).spoilt_report p).problems_runAll events s

/-- Construction comes to the root element behind a document type. -/
theorem exists_reaches_of_doctype {u : List Char} {t : Doctype} (h : ReadsAs u (.doctype t))
    {w : List Char} (hw : isBlankRun w = true) (hcr : '\r' ∉ w) :
    ∃ d problems oldLayout, d.Rootless ∧
      ({} : Builder).Reaches (u ++ w) (beforeRoot d problems oldLayout) := by
  obtain ⟨d, problems, oldLayout, hd, hfeed⟩ := feed_doctype t
  obtain ⟨c, rfl, hreaches⟩ :=
    (takesBlanks_beforeRoot problems oldLayout hd).exists_reaches_of_readsAs rfl rfl h hfeed hw hcr
  exact ⟨_, problems, oldLayout, hd, hreaches⟩

/-- A document type at the beginning of a source without problems is closed. -/
theorem exists_readsAs_doctype {cs : List Char}
    (hdoctype : (dropWord? "<!doctype" cs).isSome = true)
    (hclean : (({} : Builder).runAll ⟨cs, 0⟩).problems = []) :
    ∃ u t rest, dropTag? "!doctype" cs = some rest ∧ cs = '<' :: u ++ rest ∧
      ReadsAs ('<' :: u) (.doctype t) := by
  obtain ⟨behind, hbehind⟩ := Option.isSome_iff_exists.mp hdoctype
  cases hdrop : dropTag? "!doctype" cs with
  | none =>
    obtain ⟨p, events, s, hnext⟩ := Source.exists_nextMarkup_unclosed hbehind hdrop
    have hne : cs ≠ [] := by
      rintro rfl
      cases hbehind
    exact absurd hclean (problems_runAll_initial hne hnext)
  | some rest =>
    obtain ⟨u, problems, t, rfl, hnext⟩ := Source.exists_nextMarkup_doctype hdrop
    cases problems with
    | nil => exact ⟨u, t, rest, rfl, rfl, hnext⟩
    | cons p problems =>
      exact absurd hclean (problems_runAll_initial (by simp) (hnext rest))

/-- In a source that begins with a document type, blanks before it make no difference. -/
theorem reaches_initial {cs : List Char} (hcr : '\r' ∉ cs) (hblanks : PlainBlanks cs) :
    ({} : Builder).Reaches (cs.takeWhile isUnicodeBlank) {} := by
  obtain ⟨c, rfl, hinitial⟩ := (takesBlanks_untyped Draft.rootless_empty).exists_reaches rfl
    hblanks fun hmem => hcr ((List.takeWhile_prefix _).subset hmem)
  exact hinitial

/-- The document type at the beginning of a source without problems is closed. -/
theorem exists_doctype {cs : List Char} (hcr : '\r' ∉ cs) (hblanks : PlainBlanks cs)
    (hdoctype : (dropWord? "<!doctype" (dropBlanks cs)).isSome = true)
    (hclean : (({} : Builder).runAll ⟨missingDoctype cs ++ cs, 0⟩).problems = []) :
    ∃ u t rest, dropTag? "!doctype" (dropBlanks cs) = some rest ∧
      dropBlanks cs = '<' :: u ++ rest ∧ ReadsAs ('<' :: u) (.doctype t) := by
  have hmissing : missingDoctype cs = [] := if_pos hdoctype
  have hrun := reaches_initial hcr hblanks (dropBlanks cs) fun ch => head_dropBlanks
  rw [takeWhile_append_dropBlanks] at hrun
  rw [hmissing, List.nil_append, hrun] at hclean
  exact exists_readsAs_doctype hdoctype hclean

theorem isSome_dropTag?_doctype {cs : List Char} (hcr : '\r' ∉ cs) (hblanks : PlainBlanks cs)
    (hclean : (({} : Builder).runAll ⟨missingDoctype cs ++ cs, 0⟩).problems = []) :
    (dropTag? "!doctype" (dropBlanks cs)).isSome =
      (dropWord? "<!doctype" (dropBlanks cs)).isSome := by
  cases hdoctype : (dropWord? "<!doctype" (dropBlanks cs)).isSome with
  | true =>
    obtain ⟨u, t, rest, hdrop, -, -⟩ := exists_doctype hcr hblanks hdoctype hclean
    rw [hdrop]
    rfl
  | false =>
    cases hdrop : dropTag? "!doctype" (dropBlanks cs) with
    | none => rfl
    | some rest =>
      have hword : (dropWord? "<!doctype" (dropBlanks cs)).isSome = true :=
        isSome_dropWord?_of_dropTag? hdrop
      rw [hdoctype] at hword
      cases hword

theorem missingDoctype_declared {cs : List Char} (hcr : '\r' ∉ cs) (hblanks : PlainBlanks cs)
    (hclean : (({} : Builder).runAll ⟨missingDoctype cs ++ cs, 0⟩).problems = []) :
    missingDoctype (declared cs) = missingDoctype cs := by
  rw [missingDoctype, isSome_dropWord?_declared, isSome_dropTag?_doctype hcr hblanks hclean,
    missingDoctype]

/-- Construction comes to the root element behind the document type. -/
theorem exists_reaches_beforeRoot {cs : List Char} (hcr : '\r' ∉ cs) (hplain : PlainPreamble cs)
    (hclean : (({} : Builder).runAll ⟨missingDoctype cs ++ cs, 0⟩).problems = []) :
    ∃ pre d problems oldLayout, cs = pre ++ skipTag "!doctype" (dropBlanks cs) ∧ d.Rootless ∧
      ({} : Builder).Reaches (missingDoctype cs ++ pre) (beforeRoot d problems oldLayout) := by
  have hcs := takeWhile_append_dropBlanks cs
  have hcr' {rest : List Char} (hrest : rest <:+ cs) : '\r' ∉ rest.takeWhile isUnicodeBlank :=
    fun hmem => hcr (hrest.subset ((List.takeWhile_prefix _).subset hmem))
  have hsame := isSome_dropTag?_doctype hcr hplain.blanks hclean
  cases hdoctype : (dropWord? "<!doctype" (dropBlanks cs)).isSome with
  | true =>
    -- The document type of the source stands behind the blanks.
    have hmissing : missingDoctype cs = [] := if_pos hdoctype
    obtain ⟨u, t, rest, hdrop, hbehind, hreads⟩ :=
      exists_doctype hcr hplain.blanks hdoctype hclean
    have hrest : rest <:+ cs := (dropTag?_suffix rfl hdrop).trans (List.dropWhile_suffix _)
    obtain ⟨d, problems, oldLayout, hd, hreaches⟩ := exists_reaches_of_doctype hreads
      (hplain.blanksBehindDoctype rest hdrop) (hcr' hrest)
    refine ⟨cs.takeWhile isUnicodeBlank ++ ('<' :: u ++ rest.takeWhile isUnicodeBlank), d, problems,
      oldLayout, ?_, hd, ?_⟩
    · rw [skipTag_of_some hdrop, List.append_assoc, List.append_assoc, takeWhile_append_dropBlanks,
        ← hbehind, hcs]
    · rw [hmissing, List.nil_append]
      exact (reaches_initial hcr hplain.blanks).trans hreaches (by simp [isMarkupBlank])
  | false =>
    -- The document type that is put in front stands before the blanks.
    have hmissing : missingDoctype cs = "<!DOCTYPE html>".toList := if_neg (by simp [hdoctype])
    rw [hdoctype, Option.isSome_eq_false_iff, Option.isNone_iff_eq_none] at hsame
    obtain ⟨d, problems, oldLayout, hd, hreaches⟩ :=
      exists_reaches_of_doctype readsAs_missingDoctype hplain.blanks (hcr' List.suffix_rfl)
    refine ⟨cs.takeWhile isUnicodeBlank, d, problems, oldLayout, ?_, hd, ?_⟩
    · rw [skipTag_of_none hsame, hcs]
    · rw [hmissing]
      exact hreaches

/-- A state before the head. -/
inductive BeforeHead : Builder → Prop
  | root {d : Draft} (problems : List Problem) (oldLayout : Bool) (hd : d.Rootless) :
      BeforeHead (beforeRoot d problems oldLayout)
  | head {d : Draft} {r : Nat} {attributes : List (String × String)} (problems : List Problem)
      (oldLayout : Bool) (hd : d.Rooted r attributes) : BeforeHead (rooted d problems oldLayout r)

theorem BeforeHead.reads {b : Builder} (h : BeforeHead b) :
    b.textMode = .markup ∧ b.inForeign = false := by
  cases h <;> exact ⟨rfl, rfl⟩

theorem BeforeHead.waiting {b : Builder} (h : BeforeHead b) :
    Waiting b (b.feed (.token (.startTag declarationTag))) := by
  cases h with
  | root problems oldLayout hd => exact waiting_declared_beforeRoot problems oldLayout hd
  | head problems oldLayout hd => exact waiting_declared_rooted problems oldLayout hd

/-- The start tag of the head opens it. -/
theorem BeforeHead.exists_headed {b : Builder} (h : BeforeHead b) {t : Tag}
    (ht : t.name = "head") :
    ∃ (d : Draft) (r h : Nat) (attributes headAttributes : List (String × String))
      (problems : List Problem) (oldLayout : Bool), d.Headed r h attributes headAttributes ∧
        b.feed (.token (.startTag t)) = headed d problems oldLayout r h := by
  cases h with
  | root problems oldLayout hd =>
    obtain ⟨problems', hfeed⟩ := feed_head_beforeRoot problems oldLayout hd ht
    exact ⟨_, _, _, _, _, problems', oldLayout, (hd.addRoot []).addHead _, hfeed⟩
  | head problems oldLayout hd =>
    obtain ⟨problems', hfeed⟩ := feed_head_rooted problems oldLayout hd ht
    exact ⟨_, _, _, _, _, problems', oldLayout, hd.addHead _, hfeed⟩

/-- A plain tag begins with an opening bracket. -/
theorem PlainTag.exists_readsAs {name : String} {letter : Char} {letters : List Char}
    (hname : name.toList = letter :: letters) {cs rest : List Char} (h : PlainTag name cs)
    (hdrop : dropTag? name cs = some rest) :
    ∃ u t, cs = '<' :: u ++ rest ∧ t.name = name ∧ ReadsAs ('<' :: u) (.startTag t) := by
  obtain ⟨u, t, hu, ht, hreads⟩ := h rest hdrop
  obtain ⟨c, u', -, heq, -⟩ := exists_of_dropTag? hname hdrop
  have hsame : u = '<' :: c :: u' := by
    rw [heq] at hu
    exact (List.append_cancel_right hu).symm
  subst hsame
  exact ⟨c :: u', t, heq, ht, hreads⟩

/-- Construction comes to the head behind the start tag of the root, if there is one. -/
theorem exists_reaches_beforeHead {d : Draft} (hd : d.Rootless) (problems : List Problem)
    (oldLayout : Bool) {cs : List Char} (hcr : '\r' ∉ cs) (htag : PlainTag "html" cs)
    (hblanks : ∀ rest, dropTag? "html" cs = some rest → PlainBlanks rest) :
    ∃ pre b, cs = pre ++ skipTag "html" cs ∧ (∀ ch ∈ pre.head?, isMarkupBlank ch = false) ∧
      BeforeHead b ∧ (beforeRoot d problems oldLayout).Reaches pre b := by
  cases hdrop : dropTag? "html" cs with
  | none =>
    refine ⟨[], _, ?_, by simp, .root problems oldLayout hd, reaches_nil _⟩
    rw [skipTag_of_none hdrop, List.nil_append]
  | some rest =>
    obtain ⟨u, t, hcs, ht, hreads⟩ := PlainTag.exists_readsAs rfl htag hdrop
    obtain ⟨problems', hfeed⟩ := feed_root d problems oldLayout ht
    have hrest : '\r' ∉ rest.takeWhile isUnicodeBlank := fun hmem =>
      hcr ((dropTag?_suffix rfl hdrop).subset ((List.takeWhile_prefix _).subset hmem))
    obtain ⟨b, rfl, hreaches⟩ := (takesBlanks_rooted problems' oldLayout
      (hd.addRoot t.attributes)).exists_reaches_of_readsAs rfl rfl hreads hfeed
        (hblanks rest hdrop) hrest
    refine ⟨'<' :: u ++ rest.takeWhile isUnicodeBlank, _, ?_, by simp [isMarkupBlank],
      .head problems' oldLayout (hd.addRoot t.attributes), hreaches⟩
    rw [skipTag_of_some hdrop, List.append_assoc, takeWhile_append_dropBlanks, ← hcs]

/-! ### Documents -/

/-- Construction goes on behind the declaration. -/
theorem Reaches.runAll_declaration {b c : Builder} {u : List Char} (h : b.Reaches u c)
    (hc : c.textMode = .markup ∧ c.inForeign = false) (rest : List Char) :
    b.runAll ⟨u ++ (encodingDeclaration.toList ++ rest), 0⟩ =
      (c.feed (.token (.startTag declarationTag))).runAll ⟨rest, 0⟩ := by
  rw [h _ (by simp [encodingDeclaration, isMarkupBlank]),
    runAll_of_readsAs hc.1 hc.2 readsAs_declaration]

/-- Construction of a document from the head on, with the declaration and without it. -/
theorem BeforeHead.exists_runAll {b c : Builder} (hc : BeforeHead c) {u body : List Char}
    (hreaches : b.Reaches u c) (hbody : ∀ ch ∈ body.head?, isMarkupBlank ch = false)
    (hhead : PlainTag "head" body) :
    ∃ (v rest : List Char) (c₁ c₂ : Builder), body = v ++ rest ∧
      (dropTag? "head" body).getD body = rest ∧
      b.runAll ⟨u ++ body, 0⟩ = c₁.runAll ⟨rest, 0⟩ ∧
      b.runAll ⟨u ++ v ++ (encodingDeclaration.toList ++ rest), 0⟩ = c₂.runAll ⟨rest, 0⟩ ∧
      ((dropTag? "head" body).isSome = true ∧ (∃ r H, Alike { draft := Mirrors r H } c₁ c₂) ∨
        (dropTag? "head" body).isSome = false ∧ Waiting c₁ c₂) := by
  cases hdrop : dropTag? "head" body with
  | none =>
    refine ⟨[], body, c, _, rfl, rfl, hreaches body hbody, ?_, Or.inr ⟨rfl, hc.waiting⟩⟩
    rw [List.append_nil]
    exact hreaches.runAll_declaration hc.reads body
  | some rest =>
    obtain ⟨v, t, rfl, ht, hreads⟩ := PlainTag.exists_readsAs rfl hhead hdrop
    obtain ⟨d, r, h, attributes, headAttributes, problems, oldLayout, hd, hfeed⟩ :=
      hc.exists_headed ht
    have hrun (tail : List Char) : b.runAll ⟨u ++ ('<' :: v ++ tail), 0⟩ =
        (headed d problems oldLayout r h).runAll ⟨tail, 0⟩ := by
      rw [hreaches _ (by simp [isMarkupBlank]), runAll_of_readsAs hc.reads.1 hc.reads.2 hreads,
        hfeed]
    refine ⟨'<' :: v, rest, _, _, rfl, rfl, hrun rest, ?_,
      Or.inl ⟨rfl, r, [0, h], alike_declared problems oldLayout hd⟩⟩
    rw [List.append_assoc, hrun]
    exact runAll_of_readsAs rfl rfl readsAs_declaration rest

/-- Construction of a document with the declaration comes to a state that is alike to the one
without it, or for which that one waits. -/
theorem exists_document_runAll {cs : List Char} (hcr : '\r' ∉ cs) (hplain : PlainPreamble cs)
    (hclean : (({} : Builder).runAll ⟨missingDoctype cs ++ cs, 0⟩).problems = []) :
    ∃ b b' : Builder,
      ({} : Builder).runAll ⟨missingDoctype cs ++ cs, 0⟩ = b.runAll ⟨afterPreamble cs, 0⟩ ∧
      ({} : Builder).runAll ⟨missingDoctype cs ++ declared cs, 0⟩ =
        b'.runAll ⟨afterPreamble cs, 0⟩ ∧
      (opensHead cs = true ∧ (∃ r H, Alike { draft := Mirrors r H } b b') ∨
        opensHead cs = false ∧ Waiting b b') := by
  obtain ⟨pre, d, problems, oldLayout, hcs, hd, hreaches⟩ :=
    exists_reaches_beforeRoot hcr hplain hclean
  have hcr' : '\r' ∉ skipTag "!doctype" (dropBlanks cs) := fun hmem =>
    hcr (List.IsSuffix.subset ⟨pre, hcs.symm⟩ hmem)
  obtain ⟨pre', b, hcs', hpre', hb, hreaches'⟩ := exists_reaches_beforeHead hd problems oldLayout
    hcr' hplain.root hplain.blanksBehindRoot
  obtain ⟨v, rest, c₁, c₂, hbody, hrest, hrun, hrun', houtcome⟩ :=
    hb.exists_runAll (hreaches.trans hreaches' hpre')
      (fun ch => head_skipTag fun ch => head_skipTag fun ch => head_dropBlanks) hplain.head
  have hall : cs = pre ++ pre' ++ v ++ rest := by
    rw [List.append_assoc, ← hbody, List.append_assoc, ← hcs', ← hcs]
  have hpreamble : preamble cs = pre ++ pre' ++ v := by
    refine (List.append_left_inj rest).mp ?_
    rw [← hall, ← hrest]
    exact preamble_append_afterPreamble cs
  have hafter : afterPreamble cs = rest := hrest
  refine ⟨c₁, c₂, ?_, ?_, houtcome⟩
  · rw [hafter, ← hrun, List.append_assoc, List.append_assoc, ← hcs', ← hcs]
  · rw [hafter, ← hrun', declared, hpreamble, hafter]
    simp only [List.append_assoc]

/-- A document with the declaration has a problem if its head is opened too late, and is alike to
the one without the declaration otherwise. -/
theorem document_declared {cs : List Char} (hcr : '\r' ∉ cs) (hplain : PlainPreamble cs)
    (hclean : (({} : Builder).runAll ⟨missingDoctype cs ++ cs, 0⟩).problems = []) :
    (OpensHeadLate cs →
        (({} : Builder).runAll ⟨missingDoctype cs ++ declared cs, 0⟩).problems ≠ []) ∧
      (¬OpensHeadLate cs → ∃ r H, Alike { draft := Mirrors r H }
        (({} : Builder).runAll ⟨missingDoctype cs ++ cs, 0⟩)
        (({} : Builder).runAll ⟨missingDoctype cs ++ declared cs, 0⟩)) := by
  obtain ⟨b, b', hrun, hrun', ⟨hopens, r, H, halike⟩ | ⟨hopens, hwaiting⟩⟩ :=
    exists_document_runAll hcr hplain hclean
  · rw [hrun, hrun']
    refine ⟨fun hlate => ?_, fun _ => ⟨r, H, halike.runAll (Mirrors.draftRelation r H) _⟩⟩
    rw [hlate.1] at hopens
    cases hopens
  · rw [hrun] at hclean ⊢
    rw [hrun']
    obtain ⟨hlate, halike⟩ := hwaiting.runAll [] _ hclean
    exact ⟨fun h => hlate h.2, fun h => halike fun hnext => h ⟨hopens, hnext⟩⟩

/-! ### Fragments -/

/-- A fragment with the declaration is alike to the one without it. -/
theorem fragment_declared {cs : List Char} (hcr : '\r' ∉ cs) (hplain : PlainPreamble cs)
    (hpreamble : preamble cs = cs.takeWhile isUnicodeBlank) :
    ∃ r H, Alike { draft := Mirrors r H } (fragmentStart.runAll ⟨cs, 0⟩)
      (fragmentStart.runAll ⟨declared cs, 0⟩) := by
  have hleading : '\r' ∉ cs.takeWhile isUnicodeBlank := fun hmem =>
    hcr ((List.takeWhile_prefix _).subset hmem)
  have hafter : afterPreamble cs = dropBlanks cs := by
    refine (List.append_right_inj (preamble cs)).mp ?_
    rw [preamble_append_afterPreamble, hpreamble, takeWhile_append_dropBlanks]
  obtain ⟨b, ⟨d, hd, rfl⟩, hreaches⟩ := takesBlanks_fragment.exists_reaches
    ⟨_, Draft.blank_empty, fragmentStart_eq⟩ hplain.blanks hleading
  have hrun : fragmentStart.runAll ⟨cs, 0⟩ = (fragmentWith d).runAll ⟨dropBlanks cs, 0⟩ := by
    rw [← hreaches _ fun ch => head_dropBlanks, takeWhile_append_dropBlanks]
  rw [hrun, declared, hpreamble, hafter, hreaches.runAll_declaration ⟨rfl, rfl⟩]
  exact ⟨1, [0], (alike_declared_fragment hd).runAll (Mirrors.draftRelation 1 [0]) _⟩

end Builder

end HtmlText
