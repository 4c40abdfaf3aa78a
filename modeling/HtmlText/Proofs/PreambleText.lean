import HtmlText.Source.Encoding
import HtmlText.Source.Mode
import Mathlib.Data.List.TakeWhile
import Mathlib.Tactic.SplitIfs

/-!
# The text of a preamble

A preamble is a prefix of the source, and it is recognised by itself: the tags in it are the same
whatever follows. So a source with a declaration behind its preamble is read in the same mode, and
begins with a document type if the source without it does, unless the document type is not closed.

## Main definitions

* `declared`: a source with a declaration behind its preamble.

## Main results

* `exists_of_dropTag?`: a tag is recognised by itself.
* `preamble_append_afterPreamble`: the two parts of a source.
* `preamble_cases`: what a preamble begins with.
* `anySuffix_declared`, `isSome_dropWord?_declared`, `dropXmlDeclaration?_declared`: what does not
  change.
-/

namespace HtmlText

/-! ### Keywords and tags -/

/-- Only letters are small letters of other characters. -/
theorem eq_of_toLower_eq {c d : Char} (h : c.toLower = d) (hd : d.toNat < 'a'.toNat) : c = d := by
  delta Char.toLower at h
  split_ifs at h with hupper
  · have hsmall : d.toNat = c.toNat + 32 := by
      have hle : c.val.toNat ≤ 90 := hupper.2
      rw [← h]
      change (c.val + 32).toNat = c.val.toNat + 32
      rw [UInt32.toNat_add]
      refine Nat.mod_eq_of_lt ?_
      change c.val.toNat + 32 < 2 ^ 32
      omega
    have hge : 65 ≤ c.toNat := hupper.1
    have hlt : d.toNat < 97 := hd
    omega
  · exact h

theorem eq_of_matchesLetter {letter c : Char} (h : matchesLetter letter c = true)
    (hletter : letter.toNat < 'a'.toNat) : c = letter := by
  simp only [matchesLetter, Bool.or_eq_true, Bool.and_eq_true, decide_eq_true_eq] at h
  rcases h with (h | ⟨rfl, -⟩) | ⟨rfl, -⟩
  · exact eq_of_toLower_eq h hletter
  · exact absurd hletter (by decide)
  · exact absurd hletter (by decide)

/-- A keyword is recognised by itself. -/
theorem exists_of_dropKeyword? {keyword cs rest : List Char}
    (h : dropKeyword? keyword cs = some rest) :
    ∃ u, cs = u ++ rest ∧ ∀ tail, dropKeyword? keyword (u ++ tail) = some tail := by
  induction keyword generalizing cs with
  | nil =>
    cases h
    exact ⟨[], rfl, fun tail => rfl⟩
  | cons letter keyword ih =>
    cases cs with
    | nil => cases h
    | cons c cs =>
      rw [dropKeyword?] at h
      split_ifs at h with hc
      obtain ⟨u, rfl, hu⟩ := ih h
      exact ⟨c :: u, rfl, fun tail => (if_pos hc).trans (hu tail)⟩

theorem exists_of_dropThroughBracket? {cs rest : List Char}
    (h : dropThroughBracket? cs = some rest) : ∃ v, '>' ∉ v ∧ cs = v ++ '>' :: rest := by
  induction cs with
  | nil => cases h
  | cons c cs ih =>
    rw [dropThroughBracket?] at h
    split_ifs at h with hc
    · cases h
      exact ⟨[], List.not_mem_nil, by rw [hc]; rfl⟩
    · obtain ⟨v, hv, rfl⟩ := ih h
      exact ⟨c :: v, List.not_mem_cons_of_ne_of_not_mem (Ne.symm hc) hv, rfl⟩

theorem dropThroughBracket?_append {v : List Char} (hv : '>' ∉ v) (tail : List Char) :
    dropThroughBracket? (v ++ '>' :: tail) = some tail := by
  induction v with
  | nil => exact if_pos rfl
  | cons c v ih =>
    rw [List.mem_cons, not_or] at hv
    exact (if_neg (Ne.symm hv.1)).trans (ih hv.2)

theorem dropThroughBracket?_eq_none {cs : List Char} (h : dropThroughBracket? cs = none) :
    '>' ∉ cs := by
  induction cs with
  | nil => exact List.not_mem_nil
  | cons c cs ih =>
    rw [dropThroughBracket?] at h
    split_ifs at h with hc
    exact List.not_mem_cons_of_ne_of_not_mem (Ne.symm hc) (ih h)

/-- A word is a keyword that no word character follows. -/
theorem dropWord?_eq_some_iff {word : String} {cs rest : List Char} :
    dropWord? word cs = some rest ↔
      dropKeyword? word.toList cs = some rest ∧ atWordEnd rest = true := by
  rw [dropWord?]
  cases dropKeyword? word.toList cs with
  | none => simp
  | some rest' =>
    simp only [Option.some_inj]
    split_ifs with hend
    · simp only [Option.some_inj]
      exact ⟨fun heq => ⟨heq, heq ▸ hend⟩, And.left⟩
    · constructor
      · intro h
        cases h
      · rintro ⟨rfl, h⟩
        exact absurd h hend

theorem dropTag?_of_dropWord? {name : String} {cs rest : List Char}
    (h : dropWord? ("<" ++ name) cs = some rest) : dropTag? name cs = dropThroughBracket? rest := by
  rw [dropTag?, h]

theorem dropTag?_eq_none {name : String} {cs : List Char}
    (h : dropWord? ("<" ++ name) cs = none) : dropTag? name cs = none := by
  rw [dropTag?, h]

/-- A tag is its name and whatever follows up to the first closing bracket. -/
theorem exists_dropWord?_of_dropTag? {name : String} {cs rest : List Char}
    (h : dropTag? name cs = some rest) :
    ∃ v, '>' ∉ v ∧ dropWord? ("<" ++ name) cs = some (v ++ '>' :: rest) := by
  rw [dropTag?] at h
  cases hdrop : dropWord? ("<" ++ name) cs with
  | none =>
    rw [hdrop] at h
    cases h
  | some behind =>
    rw [hdrop] at h
    obtain ⟨v, hv, rfl⟩ := exists_of_dropThroughBracket? h
    exact ⟨v, hv, rfl⟩

/-- What follows a closing bracket makes no difference to a word before it. -/
theorem exists_of_dropWord? {word : String} {cs v rest : List Char}
    (h : dropWord? word cs = some (v ++ '>' :: rest)) :
    ∃ k, dropKeyword? word.toList k = some [] ∧ cs = k ++ (v ++ '>' :: rest) ∧
      ∀ tail, dropWord? word (k ++ (v ++ '>' :: tail)) = some (v ++ '>' :: tail) := by
  obtain ⟨hkeyword, hend⟩ := dropWord?_eq_some_iff.mp h
  obtain ⟨k, hk, hlocal⟩ := exists_of_dropKeyword? hkeyword
  have hself := hlocal []
  rw [List.append_nil] at hself
  refine ⟨k, hself, hk, fun tail => dropWord?_eq_some_iff.mpr ⟨hlocal _, ?_⟩⟩
  cases v with
  | nil => exact hend
  | cons d v => exact hend

/-- A keyword that begins with an opening bracket and a letter. -/
theorem exists_cons_cons_of_dropKeyword? {letter : Char} {letters cs rest : List Char}
    (h : dropKeyword? ('<' :: letter :: letters) cs = some rest) :
    ∃ c u, cs = '<' :: c :: u ∧ matchesLetter letter c = true ∧
      dropKeyword? letters u = some rest := by
  rcases cs with _ | ⟨c₁, _ | ⟨c₂, cs⟩⟩
  · cases h
  · rw [dropKeyword?] at h
    split_ifs at h
    cases h
  · rw [dropKeyword?, dropKeyword?] at h
    split_ifs at h with hc₁ hc₂
    rw [eq_of_matchesLetter hc₁ (by decide)]
    exact ⟨c₂, cs, rfl, hc₂, h⟩

/-- A tag is recognised by itself. It begins with an opening bracket and the first letter of its
name. -/
theorem exists_of_dropTag? {name : String} {letter : Char} {letters : List Char}
    (hname : name.toList = letter :: letters) {cs rest : List Char}
    (h : dropTag? name cs = some rest) :
    ∃ c u, matchesLetter letter c = true ∧ cs = '<' :: c :: u ++ rest ∧
      ∀ tail, dropTag? name ('<' :: c :: u ++ tail) = some tail := by
  have hword : ("<" ++ name).toList = '<' :: letter :: letters := by
    rw [String.toList_append, hname]
    rfl
  obtain ⟨v, hv, hdrop⟩ := exists_dropWord?_of_dropTag? h
  obtain ⟨k, hself, rfl, hlocal⟩ := exists_of_dropWord? hdrop
  rw [hword] at hself
  obtain ⟨c, u, rfl, hc, -⟩ := exists_cons_cons_of_dropKeyword? hself
  have hassoc (tail : List Char) : '<' :: c :: (u ++ v ++ ['>']) ++ tail =
      '<' :: c :: u ++ (v ++ '>' :: tail) := by simp
  refine ⟨c, u ++ v ++ ['>'], hc, (hassoc rest).symm, fun tail => ?_⟩
  rw [hassoc, dropTag?, hlocal]
  exact dropThroughBracket?_append hv tail

theorem isSome_dropWord?_of_dropTag? {name : String} {cs rest : List Char}
    (h : dropTag? name cs = some rest) : (dropWord? ("<" ++ name) cs).isSome = true := by
  rw [dropTag?] at h
  cases hdrop : dropWord? ("<" ++ name) cs with
  | none =>
    rw [hdrop] at h
    cases h
  | some rest => rfl

/-- A word that begins with an opening bracket does not stand where something else follows the
bracket. -/
theorem dropWord?_eq_none {word : String} {letter c : Char} {letters : List Char}
    (hword : word.toList = '<' :: letter :: letters) (hc : matchesLetter letter c = false)
    (cs : List Char) : dropWord? word ('<' :: c :: cs) = none := by
  rw [dropWord?, hword, dropKeyword?, if_pos (by decide), dropKeyword?, if_neg (by simp [hc])]

/-- Where the character behind the bracket is no letter, it stands for itself only. -/
theorem dropWord?_eq_none_of_mark {word : String} {mark c : Char} {letters : List Char}
    (hword : word.toList = '<' :: mark :: letters) (hmark : mark.toNat < 'a'.toNat) (hc : c ≠ mark)
    (cs : List Char) : dropWord? word ('<' :: c :: cs) = none := by
  refine dropWord?_eq_none hword ?_ cs
  rw [Bool.eq_false_iff]
  exact fun hmatch => hc (eq_of_matchesLetter hmatch hmark)

theorem dropWord?_eq_none_of_ne {word : String} {c : Char} {letters : List Char}
    (hword : word.toList = '<' :: letters) (hc : c ≠ '<') (cs : List Char) :
    dropWord? word (c :: cs) = none := by
  have hmatch : matchesLetter '<' c = false := by
    rw [Bool.eq_false_iff]
    exact fun h => hc (eq_of_matchesLetter h (by decide))
  rw [dropWord?, hword, dropKeyword?, if_neg (by simp [hmatch])]

/-! ### The parts of a source -/

theorem takeWhile_append_dropBlanks (cs : List Char) :
    cs.takeWhile isUnicodeBlank ++ dropBlanks cs = cs :=
  List.takeWhile_append_dropWhile

theorem dropBlanks_append {w : List Char} (hw : ∀ c ∈ w, isUnicodeBlank c = true) {c : Char}
    (hc : isUnicodeBlank c = false) (cs : List Char) : dropBlanks (w ++ c :: cs) = c :: cs := by
  rw [dropBlanks, List.dropWhile_append_of_pos hw]
  exact List.dropWhile_cons_of_neg (by simp [hc])

/-- What follows blanks is not blank. -/
theorem head_dropBlanks {cs : List Char} {c : Char} (hc : c ∈ (dropBlanks cs).head?) :
    isMarkupBlank c = false := by
  have hnot : isUnicodeBlank c = false := by
    have hhead := List.head?_dropWhile_not isUnicodeBlank cs
    rw [← dropBlanks, hc] at hhead
    exact hhead
  rw [Bool.eq_false_iff]
  intro h
  rw [isUnicodeBlank_of_isMarkupBlank h] at hnot
  cases hnot

theorem skipTag_of_some {name : String} {cs rest : List Char}
    (h : dropTag? name cs = some rest) : skipTag name cs = dropBlanks rest := by
  rw [skipTag, h]

theorem skipTag_of_none {name : String} {cs : List Char} (h : dropTag? name cs = none) :
    skipTag name cs = cs := by
  rw [skipTag, h]

theorem head_skipTag {name : String} {cs : List Char}
    (hcs : ∀ c ∈ cs.head?, isMarkupBlank c = false) {c : Char} (hc : c ∈ (skipTag name cs).head?) :
    isMarkupBlank c = false := by
  cases hdrop : dropTag? name cs with
  | none =>
    rw [skipTag_of_none hdrop] at hc
    exact hcs c hc
  | some rest =>
    rw [skipTag_of_some hdrop] at hc
    exact head_dropBlanks hc

theorem dropTag?_suffix {name : String} {letter : Char} {letters : List Char}
    (hname : name.toList = letter :: letters) {cs rest : List Char}
    (h : dropTag? name cs = some rest) : rest <:+ cs := by
  obtain ⟨c, u, -, rfl, -⟩ := exists_of_dropTag? hname h
  exact List.suffix_append _ _

theorem skipTag_suffix {name : String} {letter : Char} {letters : List Char}
    (hname : name.toList = letter :: letters) (cs : List Char) : skipTag name cs <:+ cs := by
  rw [skipTag]
  cases hdrop : dropTag? name cs with
  | none => exact List.suffix_rfl
  | some rest => exact (List.dropWhile_suffix _).trans (dropTag?_suffix hname hdrop)

theorem afterPreamble_suffix_skipTag (cs : List Char) :
    afterPreamble cs <:+ skipTag "html" (skipTag "!doctype" (dropBlanks cs)) := by
  rw [afterPreamble]
  cases hdrop : dropTag? "head" (skipTag "html" (skipTag "!doctype" (dropBlanks cs))) with
  | none => exact List.suffix_rfl
  | some rest => exact dropTag?_suffix rfl hdrop

theorem afterPreamble_suffix (cs : List Char) : afterPreamble cs <:+ cs :=
  (afterPreamble_suffix_skipTag cs).trans ((skipTag_suffix rfl _).trans
    ((skipTag_suffix rfl _).trans (List.dropWhile_suffix _)))

/-- A source is its preamble and what stands behind it. -/
theorem preamble_append_afterPreamble (cs : List Char) :
    preamble cs ++ afterPreamble cs = cs := by
  obtain ⟨u, hu⟩ := afterPreamble_suffix cs
  have hlength : cs.length - (afterPreamble cs).length = u.length := by
    have hsum := congrArg List.length hu
    rw [List.length_append] at hsum
    omega
  have htake : cs.take u.length = u := by
    rw [← hu]
    exact List.take_left
  rw [preamble, hlength, htake, hu]

theorem exists_preamble_eq {cs u rest : List Char} (hcs : cs = u ++ rest)
    (hrest : afterPreamble cs <:+ rest) : ∃ more, preamble cs = u ++ more := by
  obtain ⟨more, hmore⟩ := hrest
  refine ⟨more, (List.append_left_inj (afterPreamble cs)).mp ?_⟩
  rw [preamble_append_afterPreamble, List.append_assoc, hmore, ← hcs]

/-- A tag in the preamble that comes first behind the blanks. -/
theorem exists_preamble_of_dropTag? {name : String} {letter : Char} {letters : List Char}
    (hname : name.toList = letter :: letters) {cs rest : List Char}
    (h : dropTag? name (dropBlanks cs) = some rest) (hrest : afterPreamble cs <:+ rest) :
    ∃ c u more, matchesLetter letter c = true ∧
      preamble cs = cs.takeWhile isUnicodeBlank ++ '<' :: c :: u ++ more ∧
      ∀ tail, dropTag? name ('<' :: c :: u ++ tail) = some tail := by
  obtain ⟨c, u, hc, hdrop, hlocal⟩ := exists_of_dropTag? hname h
  have hcs : cs = cs.takeWhile isUnicodeBlank ++ '<' :: c :: u ++ rest := by
    rw [List.append_assoc, ← hdrop, takeWhile_append_dropBlanks]
  obtain ⟨more, hmore⟩ := exists_preamble_eq hcs hrest
  exact ⟨c, u, more, hc, hmore, hlocal⟩

/-- A preamble consists of blanks only, or a tag in it comes first behind them. -/
theorem preamble_cases (cs : List Char) :
    (preamble cs = cs.takeWhile isUnicodeBlank ∧ dropTag? "!doctype" (dropBlanks cs) = none) ∨
      ∃ (name : String) (c : Char) (u more : List Char),
        (name = "!doctype" ∧ c = '!' ∨
          (name = "html" ∨ name = "head") ∧ matchesLetter 'h' c = true) ∧
        preamble cs = cs.takeWhile isUnicodeBlank ++ '<' :: c :: u ++ more ∧
        ∀ tail, dropTag? name ('<' :: c :: u ++ tail) = some tail := by
  cases hdoctype : dropTag? "!doctype" (dropBlanks cs) with
  | some rest =>
    have hrest : afterPreamble cs <:+ rest := by
      have hsuffix := (afterPreamble_suffix_skipTag cs).trans (skipTag_suffix rfl _)
      rw [skipTag_of_some hdoctype] at hsuffix
      exact hsuffix.trans (List.dropWhile_suffix _)
    obtain ⟨c, u, more, hc, hmore, hlocal⟩ := exists_preamble_of_dropTag? rfl hdoctype hrest
    exact Or.inr ⟨_, c, u, more, Or.inl ⟨rfl, eq_of_matchesLetter hc (by decide)⟩, hmore, hlocal⟩
  | none =>
    -- A tag that is not there is passed over, so the next one comes first behind the blanks.
    have hskip := skipTag_of_none hdoctype
    cases hhtml : dropTag? "html" (dropBlanks cs) with
    | some rest =>
      have hrest : afterPreamble cs <:+ rest := by
        have hsuffix := afterPreamble_suffix_skipTag cs
        rw [hskip, skipTag_of_some hhtml] at hsuffix
        exact hsuffix.trans (List.dropWhile_suffix _)
      obtain ⟨c, u, more, hc, hmore, hlocal⟩ := exists_preamble_of_dropTag? rfl hhtml hrest
      exact Or.inr ⟨_, c, u, more, Or.inr ⟨Or.inl rfl, hc⟩, hmore, hlocal⟩
    | none =>
      have hafter : afterPreamble cs = (dropTag? "head" (dropBlanks cs)).getD (dropBlanks cs) := by
        rw [afterPreamble, hskip, skipTag_of_none hhtml]
      cases hhead : dropTag? "head" (dropBlanks cs) with
      | some rest =>
        have hrest : afterPreamble cs <:+ rest := by
          rw [hafter, hhead]
          exact List.suffix_rfl
        obtain ⟨c, u, more, hc, hmore, hlocal⟩ := exists_preamble_of_dropTag? rfl hhead hrest
        exact Or.inr ⟨_, c, u, more, Or.inr ⟨Or.inr rfl, hc⟩, hmore, hlocal⟩
      | none =>
        rw [hhead] at hafter
        refine Or.inl ⟨(List.append_left_inj (afterPreamble cs)).mp ?_, rfl⟩
        rw [preamble_append_afterPreamble, hafter]
        exact (takeWhile_append_dropBlanks cs).symm

/-! ### The declared source -/

/-- A source with a declaration behind its preamble. -/
def declared (cs : List Char) : List Char :=
  preamble cs ++ (encodingDeclaration.toList ++ afterPreamble cs)

theorem toList_ensureEncoding {s : String} (h : declaresEncoding s = false) :
    (ensureEncoding s).toList = declared s.toList := by
  rw [ensureEncoding, if_neg (by simp [h]), String.toList_append, String.toList_append,
    String.toList_ofList, String.toList_ofList, List.append_assoc, declared]

/-- The declared source begins with an opening bracket behind its blanks, and with the same
character behind the bracket as the source, if there is a tag in the preamble. -/
theorem dropBlanks_declared (cs : List Char) :
    (∃ rest, dropBlanks (declared cs) = '<' :: 'm' :: rest) ∧
        dropTag? "!doctype" (dropBlanks cs) = none ∨
      ∃ (name : String) (c : Char) (u rest rest' : List Char),
        (name = "!doctype" ∧ c = '!' ∨ matchesLetter 'h' c = true) ∧
        dropBlanks cs = '<' :: c :: u ++ rest ∧ dropBlanks (declared cs) = '<' :: c :: u ++ rest' ∧
        ∀ tail, dropTag? name ('<' :: c :: u ++ tail) = some tail := by
  have hblanks (rest : List Char) :
      dropBlanks (cs.takeWhile isUnicodeBlank ++ '<' :: rest) = '<' :: rest :=
    dropBlanks_append (fun d hd => List.mem_takeWhile_imp hd) (by decide) rest
  rcases preamble_cases cs with ⟨hpreamble, hdoctype⟩ | ⟨name, c, u, more, hname, hpreamble, hlocal⟩
  · refine Or.inl ⟨⟨encodingDeclaration.toList.drop 2 ++ afterPreamble cs, ?_⟩, hdoctype⟩
    rw [declared, hpreamble]
    exact hblanks _
  · have hboth (tail : List Char) : dropBlanks (preamble cs ++ tail) =
        '<' :: c :: u ++ (more ++ tail) := by
      have heq := hblanks (c :: u ++ (more ++ tail))
      rw [hpreamble]
      simpa only [List.append_assoc, List.cons_append] using heq
    have hcs := hboth (afterPreamble cs)
    rw [preamble_append_afterPreamble] at hcs
    exact Or.inr ⟨name, c, u, _, _, hname.imp id And.right, hcs, hboth _, hlocal⟩

/-- The declared source does not begin with an XML declaration. -/
theorem dropXmlDeclaration?_declared (cs : List Char) :
    dropXmlDeclaration? (declared cs) = none := by
  have hnone {c : Char} (hc : c ≠ '?') (rest : List Char) :
      dropWord? "<?xml" ('<' :: c :: rest) = none :=
    dropWord?_eq_none_of_mark rfl (by decide) hc rest
  rcases dropBlanks_declared cs with ⟨⟨rest, heq⟩, -⟩ | ⟨name, c, u, -, rest, hc, -, heq, -⟩
  · rw [dropXmlDeclaration?, heq, hnone (by decide)]
  · have hne : c ≠ '?' := by
      rintro rfl
      rcases hc with ⟨-, hc⟩ | hc
      · cases hc
      · exact absurd hc (by decide)
    rw [dropXmlDeclaration?, heq, List.cons_append, List.cons_append, hnone hne]

/-- The declared source begins with a document type if the source begins with a closed one. -/
theorem isSome_dropWord?_declared (cs : List Char) :
    (dropWord? "<!doctype" (dropBlanks (declared cs))).isSome =
      (dropTag? "!doctype" (dropBlanks cs)).isSome := by
  have hnone {c : Char} (hc : c ≠ '!') (rest : List Char) :
      dropWord? "<!doctype" ('<' :: c :: rest) = none :=
    dropWord?_eq_none_of_mark rfl (by decide) hc rest
  rcases dropBlanks_declared cs with
    ⟨⟨rest, heq⟩, hdoctype⟩ | ⟨name, c, u, rest, rest', hc, hcs, heq, hlocal⟩
  · rw [heq, hnone (by decide), hdoctype]
  · rcases hc with ⟨rfl, rfl⟩ | hc
    · rw [heq, hcs, hlocal]
      exact isSome_dropWord?_of_dropTag? (hlocal rest')
    · have hne : c ≠ '!' := by
        rintro rfl
        exact absurd hc (by decide)
      have hword := hnone hne (u ++ rest)
      have htag : dropTag? "!doctype" ('<' :: c :: (u ++ rest)) = none := dropTag?_eq_none hword
      rw [heq, hcs, List.cons_append, List.cons_append, List.cons_append, List.cons_append,
        hnone hne, htag]

/-! ### The mode -/

theorem beginsDocumentMarkup_of_ne {c : Char} (hc : c ≠ '<') (cs : List Char) :
    beginsDocumentMarkup (c :: cs) = false := by
  rw [beginsDocumentMarkup, List.any_eq_false]
  intro tag htag
  have htoList : ∃ letters, tag.toList = '<' :: letters := by
    simp only [List.mem_cons, List.not_mem_nil, or_false] at htag
    rcases htag with rfl | rfl | rfl | rfl <;> exact ⟨_, rfl⟩
  obtain ⟨letters, hletters⟩ := htoList
  rw [dropWord?_eq_none_of_ne hletters hc]
  exact Bool.false_ne_true

theorem anySuffix_append_of_ne {w : List Char} (hw : ∀ c ∈ w, c ≠ '<') (cs : List Char) :
    anySuffix beginsDocumentMarkup (w ++ cs) = anySuffix beginsDocumentMarkup cs := by
  induction w with
  | nil => rfl
  | cons c w ih =>
    rw [List.cons_append, anySuffix, beginsDocumentMarkup_of_ne (hw c List.mem_cons_self),
      Bool.false_or, ih fun d hd => hw d (List.mem_cons_of_mem c hd)]

/-- The declaration is no markup of a complete document. -/
theorem anySuffix_declaration_append (cs : List Char) :
    anySuffix beginsDocumentMarkup (encodingDeclaration.toList ++ cs) =
      anySuffix beginsDocumentMarkup cs := by
  have hsplit : encodingDeclaration.toList ++ cs =
      '<' :: 'm' :: (encodingDeclaration.toList.drop 2 ++ cs) := rfl
  have hbegin : beginsDocumentMarkup ('<' :: 'm' :: (encodingDeclaration.toList.drop 2 ++ cs)) =
      false := rfl
  rw [hsplit, anySuffix, hbegin, Bool.false_or, ← List.cons_append]
  have hplain : '<' ∉ 'm' :: encodingDeclaration.toList.drop 2 := by decide
  exact anySuffix_append_of_ne (fun c hc heq => hplain (heq ▸ hc)) cs

/-- A closed tag of the preamble is markup of a complete document. -/
theorem anySuffix_of_dropTag? {name : String} (hname : name = "!doctype" ∨ name = "html" ∨
    name = "head") {cs rest : List Char} (h : dropTag? name cs = some rest) (w : List Char) :
    anySuffix beginsDocumentMarkup (w ++ cs) = true := by
  refine anySuffix_eq_true_iff.mpr ⟨cs, List.suffix_append w cs, ?_⟩
  rw [beginsDocumentMarkup, List.any_eq_true]
  refine ⟨"<" ++ name, ?_, isSome_dropWord?_of_dropTag? h⟩
  rcases hname with rfl | rfl | rfl <;> decide

/-- A preamble consists of blanks only, or there is markup of a complete document in it. -/
theorem preamble_blank_or_markup (cs : List Char) :
    preamble cs = cs.takeWhile isUnicodeBlank ∨
      ∀ tail, anySuffix beginsDocumentMarkup (preamble cs ++ tail) = true := by
  rcases preamble_cases cs with ⟨hpreamble, -⟩ | ⟨name, c, u, more, hname, hpreamble, hlocal⟩
  · exact Or.inl hpreamble
  · refine Or.inr fun tail => ?_
    have hname' : name = "!doctype" ∨ name = "html" ∨ name = "head" :=
      hname.imp And.left And.left
    have hmarkup := anySuffix_of_dropTag? hname' (hlocal (more ++ tail))
      (cs.takeWhile isUnicodeBlank)
    rw [hpreamble]
    simpa only [List.append_assoc, List.cons_append] using hmarkup

/-- The declared source is read in the same mode. -/
theorem anySuffix_declared (cs : List Char) :
    anySuffix beginsDocumentMarkup (declared cs) = anySuffix beginsDocumentMarkup cs := by
  have hparts : anySuffix beginsDocumentMarkup cs =
      anySuffix beginsDocumentMarkup (preamble cs ++ afterPreamble cs) := by
    rw [preamble_append_afterPreamble]
  rw [hparts, declared]
  rcases preamble_blank_or_markup cs with hpreamble | hmarkup
  · have hblank : ∀ d ∈ preamble cs, d ≠ '<' := by
      intro d hd heq
      rw [hpreamble] at hd
      have hd' : isUnicodeBlank d = true := List.mem_takeWhile_imp hd
      rw [heq] at hd'
      exact absurd hd' (by decide)
    rw [anySuffix_append_of_ne hblank, anySuffix_append_of_ne hblank,
      anySuffix_declaration_append]
  · rw [hmarkup, hmarkup]

/-- The source of a fragment has nothing but blanks in its preamble. -/
theorem preamble_of_fragment {cs : List Char}
    (h : anySuffix beginsDocumentMarkup cs = false) :
    preamble cs = cs.takeWhile isUnicodeBlank := by
  refine (preamble_blank_or_markup cs).resolve_right fun hmarkup => ?_
  rw [← preamble_append_afterPreamble cs, hmarkup] at h
  cases h

/-! ### The characters -/

theorem head?_declared {cs : List Char} {c : Char} (hc : c ≠ '<') (h : cs.head? ≠ some c) :
    (declared cs).head? ≠ some c := by
  have hparts := preamble_append_afterPreamble cs
  rw [declared]
  cases hpreamble : preamble cs with
  | nil => exact fun heq => hc (Option.some.inj heq).symm
  | cons d u =>
    rw [hpreamble] at hparts
    rwa [← hparts] at h

theorem notMem_declared {cs : List Char} {c : Char} (hc : c ∉ encodingDeclaration.toList)
    (h : c ∉ cs) : c ∉ declared cs := by
  have hparts := preamble_append_afterPreamble cs
  rw [← hparts, List.mem_append, not_or] at h
  rw [declared, List.mem_append, List.mem_append, not_or, not_or]
  exact ⟨h.1, hc, h.2⟩

end HtmlText
