import HtmlText.Proofs.LineEnds
import HtmlText.Proofs.PreambleText

/-!
# The normal form of a source

A normalized source has line feeds as its only line ends, and it declares its encoding. A source
that declares it already is not changed otherwise. Into any other source the declaration is put
behind the longest beginning that has the form of a preamble: blanks, a document type, the tag of
the root and the tag of the head, of which the tags may be missing. Each part of a preamble but the
blanks begins with an opening bracket, and the tags have different names. So there is no choice in
how a preamble is read, and reading as much as there is at each step comes to the longest one. The
declaration is found again wherever it stands, and so a normalized source is its own normal form.

## Main definitions

* `IsTag`, `IsOptionalTag`, `IsPreamble`: the form of a preamble.
* `IsLongestPreamble`: the longest beginning of a source with this form.

## Main results

* `dropTag?_eq_some_iff`: reading a tag.
* `IsPreamble.afterPreamble_suffix`: a preamble is read to its end, and perhaps further.
* `isLongestPreamble_preamble`: reading a preamble comes to the longest one.
* `normalize_normalForm`: what a normalized source is.
-/

namespace HtmlText

/-! ### The form of a preamble -/

/-- Characters with the property `White_Space` only. -/
def AllBlank (w : List Char) : Prop := ∀ c ∈ w, isUnicodeBlank c = true

/-- A tag: an opening bracket and the name in any case, which no word character continues, up to the
first closing bracket. -/
inductive IsTag (name : String) : List Char → Prop
  | intro {word inside : List Char} (hname : word.map Char.toLower = name.toList)
    (hend : ∀ c ∈ inside.head?, isWordChar c = false) (hinside : '>' ∉ inside) :
    IsTag name ('<' :: (word ++ (inside ++ ['>'])))

/-- A tag and blanks behind it, or nothing. -/
inductive IsOptionalTag (name : String) : List Char → Prop
  | absent : IsOptionalTag name []
  | present {u w : List Char} (hu : IsTag name u) (hw : AllBlank w) : IsOptionalTag name (u ++ w)

/-- Blanks, a document type and blanks, the tag of the root and blanks, and the tag of the head.
Each tag may be missing, with the blanks behind it. -/
inductive IsPreamble : List Char → Prop
  | intro {w doctype root head : List Char} (hw : AllBlank w)
    (hdoctype : IsOptionalTag "!doctype" doctype) (hroot : IsOptionalTag "html" root)
    (hhead : head = [] ∨ IsTag "head" head) : IsPreamble (w ++ (doctype ++ (root ++ head)))

/-- The longest beginning of a source that has the form of a preamble. -/
structure IsLongestPreamble (p cs : List Char) : Prop where
  begins : p <+: cs
  form : IsPreamble p
  longest : ∀ {q : List Char}, q <+: cs → IsPreamble q → q.length ≤ p.length

/-! ### Reading a tag -/

theorem dropKeyword?_append {word keyword : List Char} (h : word.map Char.toLower = keyword)
    (tail : List Char) : dropKeyword? keyword (word ++ tail) = some tail := by
  induction word generalizing keyword with
  | nil =>
    subst h
    rfl
  | cons c word ih =>
    subst h
    rw [List.map_cons, List.cons_append, dropKeyword?, if_pos (by simp [matchesLetter]), ih rfl]

/-- The letters `s` and `k` alone have case variants that are no letters of their alphabet. -/
theorem exists_of_dropKeyword?_eq_some {keyword cs rest : List Char} (hs : 's' ∉ keyword)
    (hk : 'k' ∉ keyword) (h : dropKeyword? keyword cs = some rest) :
    ∃ word, word.map Char.toLower = keyword ∧ cs = word ++ rest := by
  induction keyword generalizing cs with
  | nil =>
    cases h
    exact ⟨[], rfl, rfl⟩
  | cons letter keyword ih =>
    rw [List.mem_cons, not_or] at hs hk
    cases cs with
    | nil => cases h
    | cons c cs =>
      rw [dropKeyword?] at h
      split_ifs at h with hc
      have hlower : c.toLower = letter := by
        simpa [matchesLetter, Ne.symm hs.1, Ne.symm hk.1] using hc
      obtain ⟨word, hword, rfl⟩ := ih hs.2 hk.2 h
      exact ⟨c :: word, by rw [List.map_cons, hlower, hword], rfl⟩

theorem toList_bracket_append (name : String) : ("<" ++ name).toList = '<' :: name.toList := by
  rw [String.toList_append]
  rfl

/-- A tag is read to its end, whatever follows it. -/
theorem IsTag.dropTag?_append {name : String} {u : List Char} (hu : IsTag name u)
    (tail : List Char) : dropTag? name (u ++ tail) = some tail := by
  obtain @⟨word, inside, hname, hend, hinside⟩ := hu
  have hword : dropWord? ("<" ++ name) ('<' :: (word ++ (inside ++ ['>'])) ++ tail) =
      some (inside ++ '>' :: tail) := by
    rw [dropWord?_eq_some_iff, toList_bracket_append]
    refine ⟨?_, ?_⟩
    · have hlower : ('<' :: word).map Char.toLower = '<' :: name.toList := by
        rw [List.map_cons, hname]
        rfl
      simpa using dropKeyword?_append hlower (inside ++ '>' :: tail)
    · cases inside with
      | nil => rfl
      | cons c inside => simpa using hend c rfl
  rw [dropTag?, hword]
  exact dropThroughBracket?_append hinside tail

/-- Reading a tag takes away a text with the form of the tag. -/
theorem dropTag?_eq_some_iff {name : String} (hs : 's' ∉ name.toList) (hk : 'k' ∉ name.toList)
    {cs rest : List Char} : dropTag? name cs = some rest ↔ ∃ u, IsTag name u ∧ cs = u ++ rest := by
  constructor
  · intro h
    obtain ⟨inside, hinside, hword⟩ := exists_dropWord?_of_dropTag? h
    rw [dropWord?_eq_some_iff, toList_bracket_append] at hword
    obtain ⟨word, hlower, rfl⟩ := exists_of_dropKeyword?_eq_some (by simpa using hs)
      (by simpa using hk) hword.1
    obtain ⟨c, word, rfl, hc, hname⟩ := List.map_eq_cons_iff.mp hlower
    obtain rfl : c = '<' := eq_of_toLower_eq hc (by decide)
    refine ⟨_, .intro hname (fun c hc => ?_) hinside, by simp⟩
    obtain ⟨inside, rfl⟩ := List.head?_eq_some_iff.mp hc
    simpa using hword.2
  · rintro ⟨u, hu, rfl⟩
    exact hu.dropTag?_append rest

/-- The names of two tags that begin at the same place begin alike. -/
theorem IsTag.begins_alike {name name' : String} {u u' rest rest' : List Char} (hu : IsTag name u)
    (hu' : IsTag name' u') (h : u ++ rest = u' ++ rest') :
    name.toList <+: name'.toList ∨ name'.toList <+: name.toList := by
  have hbegins {name : String} {u : List Char} (hu : IsTag name u) (rest : List Char) :
      '<' :: name.toList <+: (u ++ rest).map Char.toLower := by
    obtain @⟨word, inside, hname, -, -⟩ := hu
    exact ⟨((inside ++ ['>']) ++ rest).map Char.toLower, by simp [← hname]⟩
  have hbegins' := hbegins hu' rest'
  rw [← h] at hbegins'
  have hcases := List.prefix_or_prefix_of_prefix (hbegins hu rest) hbegins'
  simpa [List.cons_prefix_cons] using hcases

/-- No tag is read where a tag with another name stands. -/
theorem IsTag.dropTag?_eq_none {name name' : String} {u : List Char} (hu : IsTag name u)
    (hs : 's' ∉ name'.toList) (hk : 'k' ∉ name'.toList)
    (hother : ¬(name.toList <+: name'.toList ∨ name'.toList <+: name.toList)) (rest : List Char) :
    dropTag? name' (u ++ rest) = none := by
  rw [Option.eq_none_iff_forall_ne_some]
  intro rest' h
  obtain ⟨u', hu', heq⟩ := (dropTag?_eq_some_iff hs hk).mp h
  exact hother (hu.begins_alike hu' heq)

/-! ### The parts of a preamble -/

/-- What is read as an optional tag has its form. -/
theorem exists_isOptionalTag (name : String) (hs : 's' ∉ name.toList) (hk : 'k' ∉ name.toList)
    (cs : List Char) : ∃ o, IsOptionalTag name o ∧ cs = o ++ skipTag name cs := by
  rw [skipTag]
  cases hdrop : dropTag? name cs with
  | none => exact ⟨[], .absent, rfl⟩
  | some rest =>
    obtain ⟨u, hu, rfl⟩ := (dropTag?_eq_some_iff hs hk).mp hdrop
    refine ⟨u ++ rest.takeWhile isUnicodeBlank,
      .present hu fun c hc => List.mem_takeWhile_imp hc, ?_⟩
    rw [List.append_assoc, takeWhile_append_dropBlanks]

/-- A source behind the tag of the head, if it begins with it. -/
def skipHead (cs : List Char) : List Char := (dropTag? "head" cs).getD cs

theorem afterPreamble_eq (cs : List Char) :
    afterPreamble cs = skipHead (skipTag "html" (skipTag "!doctype" (dropBlanks cs))) := rfl

theorem exists_head (cs : List Char) :
    ∃ head, (head = [] ∨ IsTag "head" head) ∧ cs = head ++ skipHead cs := by
  rw [skipHead]
  cases hdrop : dropTag? "head" cs with
  | none => exact ⟨[], Or.inl rfl, rfl⟩
  | some rest =>
    obtain ⟨u, hu, rfl⟩ := (dropTag?_eq_some_iff (by decide) (by decide)).mp hdrop
    exact ⟨u, Or.inr hu, rfl⟩

theorem skipHead_suffix (cs : List Char) : skipHead cs <:+ cs := by
  obtain ⟨head, -, heq⟩ := exists_head cs
  exact ⟨head, heq.symm⟩

theorem isPreamble_preamble (cs : List Char) : IsPreamble (preamble cs) := by
  obtain ⟨doctype, hdoctype, heq⟩ :=
    exists_isOptionalTag "!doctype" (by decide) (by decide) (dropBlanks cs)
  obtain ⟨root, hroot, heq'⟩ :=
    exists_isOptionalTag "html" (by decide) (by decide) (skipTag "!doctype" (dropBlanks cs))
  obtain ⟨head, hhead, heq''⟩ := exists_head (skipTag "html" (skipTag "!doctype" (dropBlanks cs)))
  have hpreamble : preamble cs =
      cs.takeWhile isUnicodeBlank ++ (doctype ++ (root ++ head)) := by
    apply (List.append_left_inj (afterPreamble cs)).mp
    simp only [preamble_append_afterPreamble, List.append_assoc]
    rw [afterPreamble_eq, ← heq'', ← heq', ← heq, takeWhile_append_dropBlanks]
  rw [hpreamble]
  exact .intro (fun c hc => List.mem_takeWhile_imp hc) hdoctype hroot hhead

/-! ### The longest preamble -/

/-- The parts of a preamble that follow others: there is nothing, or an opening bracket comes
first. -/
def StartsTag (q : List Char) : Prop := q = [] ∨ ∃ q', q = '<' :: q'

theorem IsTag.startsTag {name : String} {u : List Char} (hu : IsTag name u) (q : List Char) :
    StartsTag (u ++ q) := by
  cases hu
  exact Or.inr ⟨_, rfl⟩

theorem IsOptionalTag.startsTag {name : String} {o q : List Char} (ho : IsOptionalTag name o)
    (hq : StartsTag q) : StartsTag (o ++ q) := by
  cases ho with
  | absent => exact hq
  | present hu _ =>
    rw [List.append_assoc]
    exact hu.startsTag _

section Reading

variable {f : List Char → List Char} (hf : ∀ cs, f cs <:+ cs) {q r : List Char}
  (hq : StartsTag q) (hread : f (q ++ r) <:+ r)

include hf hq hread

/-- Blanks are read, and with them those that follow. If there is a part behind them, no further
blank follows. -/
theorem suffix_of_blanks {w : List Char} (hw : AllBlank w) :
    f (dropBlanks (w ++ (q ++ r))) <:+ r := by
  have hskip : dropBlanks (w ++ (q ++ r)) = dropBlanks (q ++ r) :=
    List.dropWhile_append_of_pos hw
  rw [hskip]
  rcases hq with rfl | ⟨q', rfl⟩
  · exact (hf _).trans (List.dropWhile_suffix _)
  · have hbracket : dropBlanks ('<' :: q' ++ r) = '<' :: q' ++ r :=
      List.dropWhile_cons_of_neg (by decide)
    rwa [hbracket]

/-- An optional tag is read, and if it is missing, then no tag with its name, unless no further part
follows. -/
theorem suffix_of_optionalTag {name : String} {letter : Char} {letters : List Char}
    (hname : name.toList = letter :: letters) (hother : q ≠ [] → dropTag? name (q ++ r) = none)
    {o : List Char} (ho : IsOptionalTag name o) : f (skipTag name (o ++ (q ++ r))) <:+ r := by
  cases ho with
  | absent =>
    rw [List.nil_append]
    by_cases hnil : q = []
    · subst hnil
      exact (hf _).trans (skipTag_suffix hname r)
    · rwa [skipTag_of_none (hother hnil)]
  | present hu hw =>
    rw [List.append_assoc, skipTag_of_some (hu.dropTag?_append _)]
    exact suffix_of_blanks hf hq hread hw

end Reading

/-- A preamble is read to its end, and perhaps further. The parts are gone through from the last to
the first. -/
theorem IsPreamble.afterPreamble_suffix {q : List Char} (hq : IsPreamble q) (r : List Char) :
    afterPreamble (q ++ r) <:+ r := by
  obtain @⟨w, doctype, root, head, hw, hdoctype, hroot, hhead⟩ := hq
  have hheadStarts : StartsTag head := by
    rcases hhead with rfl | hu
    · exact Or.inl rfl
    · simpa using hu.startsTag []
  have hheadRead : skipHead (head ++ r) <:+ r := by
    rcases hhead with rfl | hu
    · exact skipHead_suffix r
    · rw [skipHead, hu.dropTag?_append]
      exact List.suffix_rfl
  have hrootRead : skipHead (skipTag "html" (root ++ (head ++ r))) <:+ r := by
    refine suffix_of_optionalTag skipHead_suffix hheadStarts hheadRead rfl (fun hne => ?_) hroot
    -- Where the tag of the root is missing, the next tag is the one of the head.
    exact (hhead.resolve_left hne).dropTag?_eq_none (by decide) (by decide) (by decide) r
  have hrootSuffix (cs : List Char) : skipHead (skipTag "html" cs) <:+ cs :=
    (skipHead_suffix _).trans (skipTag_suffix rfl cs)
  have hdoctypeRead : skipHead (skipTag "html" (skipTag "!doctype"
      (doctype ++ (root ++ head ++ r)))) <:+ r := by
    rw [← List.append_assoc] at hrootRead
    refine suffix_of_optionalTag hrootSuffix (hroot.startsTag hheadStarts) hrootRead rfl
      (fun hne => ?_) hdoctype
    cases hroot with
    | absent =>
      exact (hhead.resolve_left hne).dropTag?_eq_none (by decide) (by decide) (by decide) r
    | present hu _ =>
      rw [List.append_assoc, List.append_assoc]
      exact hu.dropTag?_eq_none (by decide) (by decide) (by decide) _
  have hdoctypeSuffix (cs : List Char) :
      skipHead (skipTag "html" (skipTag "!doctype" cs)) <:+ cs :=
    (hrootSuffix _).trans (skipTag_suffix rfl cs)
  rw [← List.append_assoc] at hdoctypeRead
  rw [afterPreamble_eq, List.append_assoc]
  exact suffix_of_blanks hdoctypeSuffix (hdoctype.startsTag (hroot.startsTag hheadStarts))
    hdoctypeRead hw

/-- Reading a preamble comes to the longest one. -/
theorem isLongestPreamble_preamble (cs : List Char) : IsLongestPreamble (preamble cs) cs where
  begins := ⟨_, preamble_append_afterPreamble cs⟩
  form := isPreamble_preamble cs
  longest := by
    rintro q ⟨r, rfl⟩ hq
    have hle := (hq.afterPreamble_suffix r).length_le
    have hsum := congrArg List.length (preamble_append_afterPreamble (q ++ r))
    rw [List.length_append, List.length_append] at hsum
    omega

/-! ### The normal form -/

/-- A declaration is found wherever it stands. -/
theorem declaresEncoding_of_infix {s : String} {before after : List Char}
    (hs : s.toList = before ++ (encodingDeclaration.toList ++ after)) :
    declaresEncoding s = true := by
  rw [declaresEncoding, Bool.or_eq_true]
  refine Or.inr (anySuffix_eq_true_iff.mpr ⟨encodingDeclaration.toList ++ after, ?_, rfl⟩)
  rw [hs]
  exact List.suffix_append _ _

theorem declaresEncoding_normalize (s : String) : declaresEncoding (normalize s) = true := by
  cases hdeclares : declaresEncoding (unifyLineEnds s) with
  | true => rwa [normalize, ensureEncoding, if_pos hdeclares]
  | false => exact declaresEncoding_of_infix (toList_ensureEncoding hdeclares)

theorem notMem_toList_normalize (s : String) : '\r' ∉ (normalize s).toList := by
  have hsource := notMem_toList_unifyLineEnds s
  cases hdeclares : declaresEncoding (unifyLineEnds s) with
  | true => rwa [normalize, ensureEncoding, if_pos hdeclares]
  | false =>
    rw [normalize, toList_ensureEncoding hdeclares]
    exact notMem_declared (by decide) hsource

theorem normalize_normalize (s : String) : normalize (normalize s) = normalize s := by
  rw [normalize, unifyLineEnds_of_notMem (notMem_toList_normalize s), ensureEncoding,
    if_pos (declaresEncoding_normalize s)]

/-- **The normal form of a source.** With unified line ends, a source that declares its encoding is
normalized already. Into any other source the declaration is put, behind the longest beginning with
the form of a preamble. A normalized source has no carriage return, declares its encoding, and is
its own normal form. -/
theorem normalize_normalForm (s : String) :
    (if declaresEncoding (unifyLineEnds s) then normalize s = unifyLineEnds s
      else ∃ before after, normalize s = before ++ encodingDeclaration ++ after ∧
        before ++ after = unifyLineEnds s ∧
          IsLongestPreamble before.toList (unifyLineEnds s).toList) ∧
      '\r' ∉ (normalize s).toList ∧ declaresEncoding (normalize s) = true ∧
        normalize (normalize s) = normalize s := by
  refine ⟨?_, notMem_toList_normalize s, declaresEncoding_normalize s, normalize_normalize s⟩
  split_ifs with hdeclares
  · rw [normalize, ensureEncoding, if_pos hdeclares]
  · refine ⟨_, _, by rw [normalize, ensureEncoding, if_neg hdeclares], ?_, ?_⟩
    · apply String.toList_inj.mp
      rw [String.toList_append, String.toList_ofList, String.toList_ofList,
        preamble_append_afterPreamble]
    · rw [String.toList_ofList]
      exact isLongestPreamble_preamble _

/-- Only a whole word is the name of a tag, and a declared encoding is left alone. -/
example : normalize "<!DocType html>\r\n<HTML>\r<header>" =
      "<!DocType html>\n<HTML>\n<meta charset=\"utf-8\"><header>" ∧
    normalize "<p>\r<META name=x CHARSET =latin1>" = "<p>\n<META name=x CHARSET =latin1>" := by
  decide +kernel

end HtmlText
