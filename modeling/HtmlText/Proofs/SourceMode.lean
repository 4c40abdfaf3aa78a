import HtmlText.Page
import HtmlText.Proofs.LineEnds
import HtmlText.Proofs.PreambleText

/-!
# The mode of a normalized source

Normalization rewrites the line ends of a source and puts a declaration into it, and neither makes
it a fragment or a document. What is recognised in a source by its look has no line end inside its
keywords, and line ends before, behind and between them count as blanks, or as characters that end a
word, whatever they are. So the readers of a source come to the same place, up to line ends. In
particular the same XML declaration is cut off. A source into which a declaration is put has no XML
declaration, neither before nor after.

## Main results

* `dropWord?_unifyLineEndChars`, `dropXmlDeclaration?_unifyLineEndChars`: reading a source with
  unified line ends.
* `Mode.ofSource_unifyLineEnds`, `Mode.ofSource_normalize`: the mode of a source.
* `Page.mode_normalize`: the modes of a source with and without its XML declaration.
-/

namespace HtmlText

/-! ### Reading a source with unified line ends -/

/-- A carriage return becomes a line feed, and what follows it is unified. -/
theorem exists_unifyLineEndChars_carriageReturn (cs : List Char) :
    ∃ rest, unifyLineEndChars ('\r' :: cs) = '\n' :: rest ∧
      (rest = unifyLineEndChars cs ∨ '\n' :: rest = unifyLineEndChars cs) := by
  by_cases hcs : cs.head? = some '\n'
  · obtain ⟨cs, rfl⟩ := List.head?_eq_some_iff.mp hcs
    refine ⟨unifyLineEndChars cs, by rw [unifyLineEndChars], Or.inr ?_⟩
    rw [unifyLineEndChars_cons_of_ne (by decide)]
  · refine ⟨unifyLineEndChars cs, ?_, Or.inl rfl⟩
    rw [unifyLineEndChars_cons fun _ => hcs, if_pos rfl]

/-- What passes over line feeds comes behind a carriage return to what follows it. -/
theorem unifyLineEndChars_skip {α : Type} {f : List Char → α} (hf : ∀ cs, f ('\n' :: cs) = f cs)
    (cs : List Char) : f (unifyLineEndChars ('\r' :: cs)) = f (unifyLineEndChars cs) := by
  obtain ⟨rest, heq, rfl | hrest⟩ := exists_unifyLineEndChars_carriageReturn cs
  · rw [heq, hf]
  · rw [heq, hrest]

theorem head?_unifyLineEndChars {c : Char} (hfeed : c ≠ '\n') (hreturn : c ≠ '\r')
    (cs : List Char) : (unifyLineEndChars cs).head? = some c ↔ cs.head? = some c := by
  cases cs with
  | nil => rfl
  | cons d cs =>
    by_cases hd : d = '\r'
    · obtain ⟨rest, heq, -⟩ := exists_unifyLineEndChars_carriageReturn cs
      simp [hd, heq, hfeed.symm, hreturn.symm]
    · rw [unifyLineEndChars_cons_of_ne hd, List.head?_cons, List.head?_cons]

theorem matchesLetter_lineEnd {letter c : Char} (hc : c = '\n' ∨ c = '\r') (h : letter ≠ c) :
    matchesLetter letter c = false := by
  have hcase : c.toLower = c ∧ c ≠ '\u017F' ∧ c ≠ '\u212A' := by
    rcases hc with rfl | rfl <;> decide
  simp [matchesLetter, hcase, h.symm]

/-- A keyword without line ends is read in the same place. -/
theorem dropKeyword?_unifyLineEndChars {keyword : List Char} (hfeed : '\n' ∉ keyword)
    (hreturn : '\r' ∉ keyword) (cs : List Char) :
    dropKeyword? keyword (unifyLineEndChars cs) =
      (dropKeyword? keyword cs).map unifyLineEndChars := by
  induction keyword generalizing cs with
  | nil => rfl
  | cons letter keyword ih =>
    rw [List.mem_cons, not_or] at hfeed hreturn
    cases cs with
    | nil => rfl
    | cons c cs =>
      by_cases hc : c = '\r'
      · obtain ⟨rest, heq, -⟩ := exists_unifyLineEndChars_carriageReturn cs
        rw [hc, heq, dropKeyword?, dropKeyword?,
          matchesLetter_lineEnd (Or.inl rfl) (Ne.symm hfeed.1),
          matchesLetter_lineEnd (Or.inr rfl) (Ne.symm hreturn.1)]
        rfl
      · rw [unifyLineEndChars_cons_of_ne hc, dropKeyword?, dropKeyword?, ih hfeed.2 hreturn.2]
        split_ifs <;> rfl

theorem atWordEnd_unifyLineEndChars (cs : List Char) :
    atWordEnd (unifyLineEndChars cs) = atWordEnd cs := by
  cases cs with
  | nil => rfl
  | cons c cs =>
    by_cases hc : c = '\r'
    · obtain ⟨rest, heq, -⟩ := exists_unifyLineEndChars_carriageReturn cs
      have hends : isWordChar '\n' = false ∧ isWordChar '\r' = false := by decide
      rw [hc, heq, atWordEnd_cons, atWordEnd_cons, hends.1, hends.2]
    · rw [unifyLineEndChars_cons_of_ne hc, atWordEnd_cons, atWordEnd_cons]

theorem dropWord?_unifyLineEndChars {word : String} (hfeed : '\n' ∉ word.toList)
    (hreturn : '\r' ∉ word.toList) (cs : List Char) :
    dropWord? word (unifyLineEndChars cs) = (dropWord? word cs).map unifyLineEndChars := by
  rw [dropWord?, dropWord?, dropKeyword?_unifyLineEndChars hfeed hreturn]
  cases dropKeyword? word.toList cs with
  | none => rfl
  | some rest =>
    simp only [Option.map_some, atWordEnd_unifyLineEndChars]
    split_ifs <;> rfl

theorem dropBlanks_cons_of_blank {c : Char} (hc : isUnicodeBlank c = true) (cs : List Char) :
    dropBlanks (c :: cs) = dropBlanks cs :=
  List.dropWhile_cons_of_pos hc

theorem dropBlanks_cons_of_not_blank {c : Char} (hc : isUnicodeBlank c = false) (cs : List Char) :
    dropBlanks (c :: cs) = c :: cs :=
  List.dropWhile_cons_of_neg (by simp [hc])

/-- The blanks at the beginning are the same, line ends among them. -/
theorem dropBlanks_unifyLineEndChars (cs : List Char) :
    dropBlanks (unifyLineEndChars cs) = unifyLineEndChars (dropBlanks cs) := by
  induction cs with
  | nil => rfl
  | cons c cs ih =>
    by_cases hc : c = '\r'
    · rw [hc, unifyLineEndChars_skip (dropBlanks_cons_of_blank (by decide)), ih,
        dropBlanks_cons_of_blank (by decide)]
    · rw [unifyLineEndChars_cons_of_ne hc]
      cases hblank : isUnicodeBlank c with
      | true => rw [dropBlanks_cons_of_blank hblank, dropBlanks_cons_of_blank hblank, ih]
      | false =>
        rw [dropBlanks_cons_of_not_blank hblank, dropBlanks_cons_of_not_blank hblank,
          unifyLineEndChars_cons_of_ne hc]

/-! ### The XML declaration -/

/-- A character that neither ends the declaration nor belongs to its end. -/
theorem dropXmlEnd?_cons {c : Char} {cs : List Char} (hbracket : c ≠ '>')
    (hmark : c = '?' → cs.head? ≠ some '>') : dropXmlEnd? (c :: cs) = dropXmlEnd? cs := by
  rw [dropXmlEnd?, if_neg hbracket]
  rintro rest rfl rfl
  exact hmark rfl rfl

theorem dropXmlEnd?_unifyLineEndChars (cs : List Char) :
    dropXmlEnd? (unifyLineEndChars cs) = (dropXmlEnd? cs).map unifyLineEndChars := by
  induction cs with
  | nil => rfl
  | cons c cs ih =>
    by_cases hc : c = '\r'
    · have hskip {d : Char} (hd : d ≠ '>' ∧ d ≠ '?') (cs : List Char) :
          dropXmlEnd? (d :: cs) = dropXmlEnd? cs :=
        dropXmlEnd?_cons hd.1 fun heq => absurd heq hd.2
      rw [hc, unifyLineEndChars_skip (hskip (by decide)), hskip (by decide), ih]
    · rw [unifyLineEndChars_cons_of_ne hc]
      by_cases hbracket : c = '>'
      · rw [hbracket, dropXmlEnd?, dropXmlEnd?]
        · rfl
        all_goals simp
      · by_cases hend : c = '?' ∧ cs.head? = some '>'
        · obtain ⟨rfl, hhead⟩ := hend
          obtain ⟨cs, rfl⟩ := List.head?_eq_some_iff.mp hhead
          rw [unifyLineEndChars_cons_of_ne (by decide)]
          rfl
        · have hmark : c = '?' → cs.head? ≠ some '>' := fun hq hhead => hend ⟨hq, hhead⟩
          have hmark' : c = '?' → (unifyLineEndChars cs).head? ≠ some '>' := by
            rwa [ne_eq, head?_unifyLineEndChars (by decide) (by decide)]
          rw [dropXmlEnd?_cons hbracket hmark, dropXmlEnd?_cons hbracket hmark', ih]

/-- The XML declaration is the same. -/
theorem dropXmlDeclaration?_unifyLineEndChars (cs : List Char) :
    dropXmlDeclaration? (unifyLineEndChars cs) =
      (dropXmlDeclaration? cs).map unifyLineEndChars := by
  rw [dropXmlDeclaration?, dropXmlDeclaration?, dropBlanks_unifyLineEndChars,
    dropWord?_unifyLineEndChars (by decide) (by decide)]
  cases dropWord? "<?xml" (dropBlanks cs) with
  | none => rfl
  | some rest => exact dropXmlEnd?_unifyLineEndChars rest

theorem dropXmlDeclaration_unifyLineEnds (s : String) :
    dropXmlDeclaration (unifyLineEnds s) = unifyLineEnds (dropXmlDeclaration s) := by
  rw [dropXmlDeclaration, dropXmlDeclaration, toList_unifyLineEnds,
    dropXmlDeclaration?_unifyLineEndChars]
  cases dropXmlDeclaration? s.toList with
  | none => rfl
  | some rest =>
    change String.ofList (unifyLineEndChars rest) = unifyLineEnds (String.ofList rest)
    rw [unifyLineEnds, String.toList_ofList]

theorem dropXmlDeclaration_of_not_has {s : String} (h : hasXmlDeclaration s = false) :
    dropXmlDeclaration s = s := by
  rw [hasXmlDeclaration, Option.isSome_eq_false_iff, Option.isNone_iff_eq_none] at h
  rw [dropXmlDeclaration, h]

theorem hasXmlDeclaration_unifyLineEnds (s : String) :
    hasXmlDeclaration (unifyLineEnds s) = hasXmlDeclaration s := by
  rw [hasXmlDeclaration, hasXmlDeclaration, toList_unifyLineEnds,
    dropXmlDeclaration?_unifyLineEndChars, Option.isSome_map]

/-! ### The mode -/

theorem beginsDocumentMarkup_unifyLineEndChars (cs : List Char) :
    beginsDocumentMarkup (unifyLineEndChars cs) = beginsDocumentMarkup cs := by
  have hword {word : String} (hfeed : '\n' ∉ word.toList) (hreturn : '\r' ∉ word.toList) :
      (dropWord? word (unifyLineEndChars cs)).isSome = (dropWord? word cs).isSome := by
    rw [dropWord?_unifyLineEndChars hfeed hreturn, Option.isSome_map]
  simp only [beginsDocumentMarkup, List.any_cons, List.any_nil]
  rw [hword (by decide) (by decide), hword (by decide) (by decide), hword (by decide) (by decide),
    hword (by decide) (by decide)]

theorem anySuffix_unifyLineEndChars (cs : List Char) :
    anySuffix beginsDocumentMarkup (unifyLineEndChars cs) = anySuffix beginsDocumentMarkup cs := by
  induction cs with
  | nil => rfl
  | cons c cs ih =>
    by_cases hc : c = '\r'
    · have hskip {d : Char} (hd : d ≠ '<') (cs : List Char) :
          anySuffix beginsDocumentMarkup (d :: cs) = anySuffix beginsDocumentMarkup cs := by
        rw [anySuffix, beginsDocumentMarkup_of_ne hd, Bool.false_or]
      rw [hc, unifyLineEndChars_skip (hskip (by decide)), hskip (by decide), ih]
    · have hbegin := beginsDocumentMarkup_unifyLineEndChars (c :: cs)
      rw [unifyLineEndChars_cons_of_ne hc] at hbegin ⊢
      rw [anySuffix, anySuffix, hbegin, ih]

theorem Mode.ofSource_unifyLineEnds (s : String) :
    Mode.ofSource (unifyLineEnds s) = Mode.ofSource s := by
  rw [Mode.ofSource, Mode.ofSource, toList_unifyLineEnds, anySuffix_unifyLineEndChars]

theorem Mode.ofSource_normalize (s : String) : Mode.ofSource (normalize s) = Mode.ofSource s := by
  rw [← Mode.ofSource_unifyLineEnds s]
  cases hdeclares : declaresEncoding (unifyLineEnds s) with
  | true => rw [normalize, ensureEncoding, if_pos hdeclares]
  | false =>
    rw [Mode.ofSource, Mode.ofSource, normalize, toList_ensureEncoding hdeclares,
      anySuffix_declared]

theorem Page.mode_ofSource (s : String) :
    (Page.ofSource s).mode = Mode.ofSource (dropXmlDeclaration s) := by
  rw [Page.ofSource]

/-- **Modes.** A normalized source is a document if the source is one, and so it is when both are
read, without their XML declarations. -/
theorem Page.mode_normalize (s : String) :
    Mode.ofSource (normalize s) = Mode.ofSource s ∧
      (Page.ofSource (normalize s)).mode = (Page.ofSource s).mode := by
  refine ⟨Mode.ofSource_normalize s, ?_⟩
  rw [Page.mode_ofSource, Page.mode_ofSource]
  cases hdeclares : declaresEncoding (unifyLineEnds s) with
  | true =>
    rw [normalize, ensureEncoding, if_pos hdeclares, dropXmlDeclaration_unifyLineEnds,
      Mode.ofSource_unifyLineEnds]
  | false =>
    have hsource : hasXmlDeclaration s = false := by
      rw [declaresEncoding, Bool.or_eq_false_iff, hasXmlDeclaration_unifyLineEnds] at hdeclares
      exact hdeclares.1
    have hnormal : hasXmlDeclaration (normalize s) = false := by
      rw [hasXmlDeclaration, normalize, toList_ensureEncoding hdeclares,
        dropXmlDeclaration?_declared]
      rfl
    rw [dropXmlDeclaration_of_not_has hsource, dropXmlDeclaration_of_not_has hnormal,
      Mode.ofSource_normalize]

end HtmlText
