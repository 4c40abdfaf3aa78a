import HtmlText.Markup.Lexer
import HtmlText.Proofs.PreambleText

/-!
# Where document types end

A document type ends at the first closing bracket, even inside an identifier in quotes, and what
follows the bracket makes no difference to it. Where there is no closing bracket there is a problem.
So the one at the beginning of a source is what the preamble takes it for.

## Main definitions

* `Doctype.EndsAtBracket`: reading ends at the first closing bracket.
* `Doctype.systemEnd`, `Doctype.publicEnd`, `Doctype.keywordEnd`, `Doctype.nameEnd`,
  `Doctype.doctypeEnd`: the parts of a document type without the blanks before them.

## Main results

* `Doctype.endsAtBracket_readDoctype`: document types end there.
* `Source.exists_nextMarkup_doctype`: a document type that is closed.
* `Source.exists_nextMarkup_unclosed`: a document type that is not closed.
-/

namespace HtmlText

/-! ### Texts up to a closing bracket -/

section

variable {p : Char → Bool} (hp : p '>' = false)

include hp

theorem dropWhile_append_bracket (v tail : List Char) :
    (v ++ '>' :: tail).dropWhile p = v.dropWhile p ++ '>' :: tail := by
  induction v with
  | nil => exact List.dropWhile_cons_of_neg (by simp [hp])
  | cons c v ih =>
    rw [List.cons_append, List.dropWhile_cons, List.dropWhile_cons]
    split_ifs
    · exact ih
    · rfl

theorem takeWhile_append_bracket (v tail : List Char) :
    (v ++ '>' :: tail).takeWhile p = v.takeWhile p := by
  induction v with
  | nil => exact List.takeWhile_cons_of_neg (by simp [hp])
  | cons c v ih =>
    rw [List.cons_append, List.takeWhile_cons, List.takeWhile_cons, ih]

end

theorem notMem_dropWhile {c : Char} {v : List Char} (h : c ∉ v) (p : Char → Bool) :
    c ∉ v.dropWhile p :=
  fun hmem => h ((List.dropWhile_suffix p).subset hmem)

/-- A keyword does not reach over a closing bracket. -/
theorem dropAsciiWord?_append_bracket (word : List Char) (hword : '>' ∉ word)
    (v tail : List Char) :
    dropAsciiWord? word (v ++ '>' :: tail) =
      (dropAsciiWord? word v).map (· ++ '>' :: tail) := by
  induction word generalizing v with
  | nil => rfl
  | cons letter word ih =>
    rw [List.mem_cons, not_or] at hword
    cases v with
    | nil => exact if_neg hword.1
    | cons c v =>
      rw [List.cons_append, dropAsciiWord?, dropAsciiWord?]
      split_ifs
      · exact ih hword.2 v
      · rfl

theorem notMem_of_dropAsciiWord? {c : Char} {word v rest : List Char} (h : c ∉ v)
    (hrest : dropAsciiWord? word v = some rest) : c ∉ rest := by
  induction word generalizing v with
  | nil =>
    cases hrest
    exact h
  | cons letter word ih =>
    cases v with
    | nil => cases hrest
    | cons d v =>
      rw [dropAsciiWord?] at hrest
      split_ifs at hrest
      exact ih (fun hmem => h (List.mem_cons_of_mem d hmem)) hrest

namespace Doctype

/-- Reading ends at the first closing bracket, whatever follows it, and there is a problem if there
is none. -/
structure EndsAtBracket (read : List Char → Scan Doctype) : Prop where
  closed : ∀ v, '>' ∉ v → ∃ problems d, ∀ tail, read (v ++ '>' :: tail) = ⟨problems, d, tail⟩
  unclosed : ∀ v, '>' ∉ v → (read v).problems ≠ []

namespace EndsAtBracket

variable {read : List Char → Scan Doctype}

theorem cons (h : EndsAtBracket read) {c : Char} (hc : c ≠ '>') :
    EndsAtBracket fun cs => read (c :: cs) where
  closed := fun v hv => h.closed (c :: v) fun hmem =>
    (List.mem_cons.mp hmem).elim (Ne.symm hc) hv
  unclosed := fun v hv => h.unclosed (c :: v) fun hmem =>
    (List.mem_cons.mp hmem).elim (Ne.symm hc) hv

/-- What is read depends on the first character. -/
theorem of_head (hnil : (read []).problems ≠ [])
    (hbracket : ∃ problems d, ∀ tail, read ('>' :: tail) = ⟨problems, d, tail⟩)
    (hcons : ∀ c, c ≠ '>' → EndsAtBracket fun cs => read (c :: cs)) : EndsAtBracket read where
  closed := fun v hv => by
    cases v with
    | nil => exact hbracket
    | cons c v =>
      rw [List.mem_cons, not_or] at hv
      exact (hcons c (Ne.symm hv.1)).closed v hv.2
  unclosed := fun v hv => by
    cases v with
    | nil => exact hnil
    | cons c v =>
      rw [List.mem_cons, not_or] at hv
      exact (hcons c (Ne.symm hv.1)).unclosed v hv.2

/-- What is read is in quotes, or something else. -/
theorem of_quote (hnil : (read []).problems ≠ [])
    (hbracket : ∃ problems d, ∀ tail, read ('>' :: tail) = ⟨problems, d, tail⟩)
    (hdouble : EndsAtBracket fun cs => read ('"' :: cs))
    (hsingle : EndsAtBracket fun cs => read ('\'' :: cs)) {other : List Char → Scan Doctype}
    (hother : EndsAtBracket other)
    (heq : ∀ c cs, c ≠ '>' → c ≠ '"' → c ≠ '\'' → read (c :: cs) = other (c :: cs)) :
    EndsAtBracket read := by
  refine of_head hnil hbracket fun c hc => ?_
  by_cases hc₁ : c = '"'
  · rwa [hc₁]
  by_cases hc₂ : c = '\''
  · rwa [hc₂]
  simp only [heq c _ hc hc₁ hc₂]
  exact hother.cons hc

/-- Reading begins behind blanks. A blank may be missing, which depends on the first character. -/
theorem of_behindBlanks (gap : Option Char → List Problem)
    (behind : List Problem → List Char → Scan Doctype)
    (hread : ∀ cs, read cs = behind (gap cs.head?) (cs.dropWhile isMarkupBlank))
    (h : ∀ problems, EndsAtBracket (behind problems)) : EndsAtBracket read where
  closed := fun v hv => by
    obtain ⟨problems, d, heq⟩ :=
      (h (gap (v ++ ['>']).head?)).closed _ (notMem_dropWhile hv isMarkupBlank)
    refine ⟨problems, d, fun tail => ?_⟩
    have hhead : (v ++ '>' :: tail).head? = (v ++ ['>']).head? := by
      cases v <;> rfl
    rw [hread, hhead, dropWhile_append_bracket (by decide), heq]
  unclosed := fun v hv => by
    rw [hread]
    exact (h _).unclosed _ (notMem_dropWhile hv isMarkupBlank)

end EndsAtBracket

theorem EndsAtBracket.withProblems {read : List Char → Scan Doctype} (h : EndsAtBracket read)
    (problems : List Problem) : EndsAtBracket fun cs => withProblems problems (read cs) where
  closed := fun v hv => by
    obtain ⟨more, d, heq⟩ := h.closed v hv
    exact ⟨problems ++ more, d, fun tail => by rw [heq]; rfl⟩
  unclosed := fun v hv hnil => h.unclosed v hv (List.append_eq_nil_iff.mp hnil).2

theorem endsAtBracket_passOver (d : Doctype) : EndsAtBracket d.passOver where
  closed := fun v hv => by
    refine ⟨.badCharacter :: nameProblems [] v, d, fun tail => ?_⟩
    have hall : ∀ c ∈ v, decide (c ≠ '>') = true := fun c hc =>
      decide_eq_true fun heq => hv (heq ▸ hc)
    rw [passOver, takeWhile_append_bracket (by simp), dropWhile_append_bracket (by simp),
      List.takeWhile_eq_self_iff.mpr hall, List.dropWhile_eq_nil_iff.mpr hall]
    rfl
  unclosed := fun v _ => List.cons_ne_nil _ _

/-- An identifier in quotes, and what is read behind it. -/
theorem endsAtBracket_quoted (set : String → Doctype) (quote : Char)
    {next : Doctype → List Char → Scan Doctype} (hnext : ∀ d, EndsAtBracket (next d)) :
    EndsAtBracket fun cs => quoted set quote cs next where
  closed := fun v hv => by
    -- The bracket ends the identifier, or it comes behind its closing quote.
    have hid (tail : List Char) : identifier quote (v ++ '>' :: tail) =
        { identifier quote v with rest := (identifier quote v).rest ++ '>' :: tail } := by
      rw [identifier, takeWhile_append_bracket (by simp), dropWhile_append_bracket (by simp)]
      rfl
    have hrest : '>' ∉ (identifier quote v).rest := notMem_dropWhile hv _
    generalize identifier quote v = scan at hid hrest
    obtain ⟨problems, value, rest⟩ := scan
    cases rest with
    | nil =>
      refine ⟨problems ++ [.badCharacter], { set value with incomplete := true }, fun tail => ?_⟩
      simp only [quoted, hid]
      rfl
    | cons c rest =>
      rw [List.mem_cons, not_or] at hrest
      obtain ⟨more, d, heq⟩ := (hnext (set value)).closed rest hrest.2
      refine ⟨problems ++ more, d, fun tail => ?_⟩
      simp only [quoted, hid, List.cons_append, if_neg (Ne.symm hrest.1), heq]
      rfl
  unclosed := fun v hv hnil => by
    have hrest : '>' ∉ (identifier quote v).rest := notMem_dropWhile hv _
    have hproblems := (List.append_eq_nil_iff.mp hnil).2
    generalize (identifier quote v).rest = rest at hrest hproblems
    cases rest with
    | nil => cases hproblems
    | cons c rest =>
      rw [List.mem_cons, not_or] at hrest
      simp only [if_neg (Ne.symm hrest.1)] at hproblems
      exact (hnext _).unclosed rest hrest.2 hproblems

/-- What `afterSystem` reads behind the blanks. -/
def systemEnd (d : Doctype) (cs : List Char) : Scan Doctype :=
  match cs with
  | [] => d.cutShort .unexpectedEnd []
  | '>' :: rest => ⟨[], d, rest⟩
  | rest => d.passOver rest

theorem endsAtBracket_systemEnd (d : Doctype) : EndsAtBracket d.systemEnd := by
  refine .of_head (List.cons_ne_nil _ _) ⟨[], d, fun tail => rfl⟩ fun c hc => ?_
  convert (endsAtBracket_passOver d).cons hc using 2 with cs
  rw [systemEnd] <;> simp [hc]

theorem endsAtBracket_afterSystem (d : Doctype) : EndsAtBracket d.afterSystem :=
  .of_behindBlanks (fun _ => []) (fun _ => d.systemEnd) (fun _ => rfl)
    fun _ => d.endsAtBracket_systemEnd

theorem endsAtBracket_system (d : Doctype) (gap : List Problem) (quote : Char) :
    EndsAtBracket (d.system gap quote) :=
  (endsAtBracket_quoted _ quote endsAtBracket_afterSystem).withProblems gap

/-- The problem of a missing blank. -/
def missingBlank : Option Char → List Problem
  | some c => if isMarkupBlank c then [] else [.badCharacter]
  | none => []

/-- What `afterPublic` reads behind the blanks. -/
def publicEnd (d : Doctype) (gap : List Problem) (cs : List Char) : Scan Doctype :=
  match cs with
  | [] => d.cutShort .unexpectedEnd []
  | '>' :: rest => ⟨[], d, rest⟩
  | '"' :: rest => d.system gap '"' rest
  | '\'' :: rest => d.system gap '\'' rest
  | rest => { d with incomplete := true }.passOver rest

theorem endsAtBracket_publicEnd (d : Doctype) (gap : List Problem) :
    EndsAtBracket (d.publicEnd gap) :=
  .of_quote (List.cons_ne_nil _ _) ⟨[], d, fun tail => rfl⟩ (d.endsAtBracket_system gap '"')
    (d.endsAtBracket_system gap '\'') (endsAtBracket_passOver { d with incomplete := true })
    fun c cs hc hdouble hsingle => by
      rw [publicEnd] <;> simp [hc, hdouble, hsingle]

theorem endsAtBracket_afterPublic (d : Doctype) : EndsAtBracket d.afterPublic :=
  .of_behindBlanks missingBlank d.publicEnd (fun cs => by cases cs <;> rfl)
    d.endsAtBracket_publicEnd

/-- The quoted identifier behind a keyword. -/
def keywordIdentifier (d : Doctype) (isPublic : Bool) (gap : List Problem) (quote : Char)
    (rest : List Char) : Scan Doctype :=
  if isPublic then
    withProblems gap (quoted (fun id => { d with publicId := some id }) quote rest afterPublic)
  else d.system gap quote rest

/-- What `afterKeyword` reads behind the blanks. -/
def keywordEnd (d : Doctype) (isPublic : Bool) (gap : List Problem) (cs : List Char) :
    Scan Doctype :=
  match cs with
  | [] => d.cutShort .unexpectedEnd []
  | '>' :: rest => d.cutShort .badCharacter rest
  | '"' :: rest => d.keywordIdentifier isPublic gap '"' rest
  | '\'' :: rest => d.keywordIdentifier isPublic gap '\'' rest
  | rest => { d with incomplete := true }.passOver rest

theorem endsAtBracket_keywordIdentifier (d : Doctype) (isPublic : Bool) (gap : List Problem)
    (quote : Char) : EndsAtBracket (d.keywordIdentifier isPublic gap quote) := by
  cases isPublic with
  | true => exact (endsAtBracket_quoted _ quote endsAtBracket_afterPublic).withProblems gap
  | false => exact d.endsAtBracket_system gap quote

theorem endsAtBracket_keywordEnd (d : Doctype) (isPublic : Bool) (gap : List Problem) :
    EndsAtBracket (d.keywordEnd isPublic gap) :=
  .of_quote (List.cons_ne_nil _ _) ⟨_, _, fun tail => rfl⟩
    (d.endsAtBracket_keywordIdentifier isPublic gap '"')
    (d.endsAtBracket_keywordIdentifier isPublic gap '\'')
    (endsAtBracket_passOver { d with incomplete := true }) fun c cs hc hdouble hsingle => by
      rw [keywordEnd] <;> simp [hc, hdouble, hsingle]

theorem endsAtBracket_afterKeyword (d : Doctype) (isPublic : Bool) :
    EndsAtBracket (d.afterKeyword isPublic) :=
  .of_behindBlanks missingBlank (d.keywordEnd isPublic) (fun cs => by cases cs <;> rfl)
    (d.endsAtBracket_keywordEnd isPublic)

/-- The keyword that may follow the name. -/
def keyword (d : Doctype) (cs : List Char) : Scan Doctype :=
  match dropAsciiWord? "public".toList cs, dropAsciiWord? "system".toList cs with
  | some rest, _ => d.afterKeyword true rest
  | none, some rest => d.afterKeyword false rest
  | none, none => { d with incomplete := true }.passOver cs

theorem endsAtBracket_keyword (d : Doctype) : EndsAtBracket d.keyword where
  closed := fun v hv => by
    have hpublic := dropAsciiWord?_append_bracket "public".toList (by decide) v
    have hsystem := dropAsciiWord?_append_bracket "system".toList (by decide) v
    cases hword : dropAsciiWord? "public".toList v with
    | some rest =>
      have hrest := notMem_of_dropAsciiWord? hv hword
      obtain ⟨problems, d', heq⟩ := (d.endsAtBracket_afterKeyword true).closed rest hrest
      exact ⟨problems, d', fun tail => by
        simp only [keyword, hpublic, hword, Option.map_some, heq]⟩
    | none =>
      cases hword' : dropAsciiWord? "system".toList v with
      | some rest =>
        have hrest := notMem_of_dropAsciiWord? hv hword'
        obtain ⟨problems, d', heq⟩ := (d.endsAtBracket_afterKeyword false).closed rest hrest
        exact ⟨problems, d', fun tail => by
          simp only [keyword, hpublic, hsystem, hword, hword', Option.map_some, Option.map_none,
            heq]⟩
      | none =>
        obtain ⟨problems, d', heq⟩ :=
          (endsAtBracket_passOver { d with incomplete := true }).closed v hv
        exact ⟨problems, d', fun tail => by
          simp only [keyword, hpublic, hsystem, hword, hword', Option.map_none, heq]⟩
  unclosed := fun v hv => by
    rw [keyword]
    split
    · next rest _ heq =>
      exact (d.endsAtBracket_afterKeyword true).unclosed _ (notMem_of_dropAsciiWord? hv heq)
    · next rest _ heq =>
      exact (d.endsAtBracket_afterKeyword false).unclosed _ (notMem_of_dropAsciiWord? hv heq)
    · exact (endsAtBracket_passOver _).unclosed v hv

/-- What `afterName` reads behind the blanks. -/
def nameEnd (d : Doctype) (cs : List Char) : Scan Doctype :=
  match cs with
  | [] => d.cutShort .unexpectedEnd []
  | '>' :: rest => ⟨[], d, rest⟩
  | rest => d.keyword rest

theorem endsAtBracket_nameEnd (d : Doctype) : EndsAtBracket d.nameEnd := by
  refine .of_head (List.cons_ne_nil _ _) ⟨[], d, fun tail => rfl⟩ fun c hc => ?_
  convert d.endsAtBracket_keyword.cons hc using 2 with cs
  rw [nameEnd] <;> simp [hc]

theorem endsAtBracket_afterName (d : Doctype) : EndsAtBracket d.afterName :=
  .of_behindBlanks (fun _ => []) (fun _ => d.nameEnd) (fun _ => rfl)
    fun _ => d.endsAtBracket_nameEnd

/-- The name of a document type, and what is read behind it. -/
def readName (cs : List Char) : Scan Doctype :=
  withProblems (nameProblems [] (cs.takeWhile fun c => !isMarkupBlank c && c ≠ '>'))
    (({ name := some (String.ofList ((cs.takeWhile fun c =>
      !isMarkupBlank c && c ≠ '>').map nameChar)) } : Doctype).afterName
        (cs.dropWhile fun c => !isMarkupBlank c && c ≠ '>'))

theorem endsAtBracket_readName : EndsAtBracket readName where
  closed := fun v hv => by
    obtain ⟨problems, d, heq⟩ := (endsAtBracket_afterName
      { name := some (String.ofList ((v.takeWhile fun c =>
        !isMarkupBlank c && c ≠ '>').map nameChar)) }).closed _
          (notMem_dropWhile hv fun c => !isMarkupBlank c && c ≠ '>')
    refine ⟨nameProblems [] (v.takeWhile fun c => !isMarkupBlank c && c ≠ '>') ++ problems, d,
      fun tail => ?_⟩
    rw [readName, takeWhile_append_bracket (by simp), dropWhile_append_bracket (by simp), heq]
    rfl
  unclosed := fun v hv hnil =>
    (endsAtBracket_afterName _).unclosed _ (notMem_dropWhile hv _)
      (List.append_eq_nil_iff.mp hnil).2

/-- What `readDoctype` reads behind the blanks. -/
def doctypeEnd (cs : List Char) : Scan Doctype :=
  match cs with
  | [] => ({} : Doctype).cutShort .unexpectedEnd []
  | '>' :: rest => ({} : Doctype).cutShort .badCharacter rest
  | cs => readName cs

/-- The problem of a missing blank before the name. The name itself may be missing too. -/
def missingNameBlank : Option Char → List Problem
  | some c => if isMarkupBlank c || c = '>' then [] else [.badCharacter]
  | none => []

theorem endsAtBracket_doctypeEnd : EndsAtBracket doctypeEnd := by
  refine .of_head (List.cons_ne_nil _ _) ⟨_, _, fun tail => rfl⟩ fun c hc => ?_
  convert endsAtBracket_readName.cons hc using 2 with cs
  rw [doctypeEnd] <;> simp [hc]

/-- Document types end at the first closing bracket. -/
theorem endsAtBracket_readDoctype : EndsAtBracket readDoctype :=
  .of_behindBlanks missingNameBlank (fun gap cs => withProblems gap (doctypeEnd cs))
    (fun cs => by cases cs <;> rfl) endsAtBracket_doctypeEnd.withProblems

end Doctype

/-! ### Document types in a source -/

/-- The keyword of a preamble is the one of a document type. -/
theorem dropKeyword?_eq_dropAsciiWord? {word : List Char} (hword : 's' ∉ word ∧ 'k' ∉ word)
    (cs : List Char) : dropKeyword? word cs = dropAsciiWord? word cs := by
  induction word generalizing cs with
  | nil => rfl
  | cons letter word ih =>
    cases cs with
    | nil => rfl
    | cons c cs =>
      simp only [List.mem_cons, not_or] at hword
      have hmatch : matchesLetter letter c = decide (lowerAscii c = letter) := by
        rw [Bool.eq_iff_iff, decide_eq_true_eq]
        simp [matchesLetter, lowerAscii, Ne.symm hword.1.1, Ne.symm hword.2.1]
      rw [dropKeyword?, dropAsciiWord?, hmatch, ih ⟨hword.1.2, hword.2.2⟩]
      simp only [decide_eq_true_eq]

namespace Source

theorem readDeclaration_doctype {cs rest : List Char}
    (h : dropAsciiWord? "doctype".toList cs = some rest) :
    readDeclaration false cs =
      (doctypeEvents (readDoctype rest), (readDoctype rest).rest) := by
  unfold readDeclaration
  split
  · exact absurd h (by simp [dropAsciiWord?, lowerAscii])
  · rw [h]

/-- The document type at the beginning of a source. -/
theorem nextMarkup_doctype {cs rest : List Char} (h : dropWord? "<!doctype" cs = some rest) :
    nextMarkup false ⟨cs, 0⟩ =
      (doctypeEvents (readDoctype rest), ⟨(readDoctype rest).rest, 0⟩) := by
  have hkeyword : dropKeyword? ('<' :: '!' :: "doctype".toList) cs = some rest :=
    (dropWord?_eq_some_iff.mp h).1
  obtain ⟨c, u, rfl, hc, hrest⟩ := exists_cons_cons_of_dropKeyword? hkeyword
  cases eq_of_matchesLetter hc (by decide)
  rw [dropKeyword?_eq_dropAsciiWord? (by decide)] at hrest
  have hmarkup : nextMarkup false ⟨'<' :: '!' :: u, 0⟩ =
      ((readDeclaration false u).1, ⟨(readDeclaration false u).2, 0⟩) := rfl
  rw [hmarkup, readDeclaration_doctype hrest]

/-- A document type that is closed ends where the preamble takes it to end. -/
theorem exists_nextMarkup_doctype {cs rest : List Char}
    (h : dropTag? "!doctype" cs = some rest) :
    ∃ (u : List Char) (problems : List Problem) (t : Doctype), cs = '<' :: u ++ rest ∧
      ∀ tail, nextMarkup false ⟨'<' :: u ++ tail, 0⟩ =
        (problems.map Event.problem ++ [.token (.doctype t)], ⟨tail, 0⟩) := by
  obtain ⟨v, hv, hdrop⟩ := exists_dropWord?_of_dropTag? h
  obtain ⟨k, hself, rfl, hlocal⟩ := exists_of_dropWord? hdrop
  obtain ⟨c, u, rfl, -, -⟩ := exists_cons_cons_of_dropKeyword? hself
  obtain ⟨problems, t, hread⟩ := Doctype.endsAtBracket_readDoctype.closed v hv
  have hassoc (tail : List Char) : '<' :: (c :: (u ++ v ++ ['>'])) ++ tail =
      '<' :: c :: u ++ (v ++ '>' :: tail) := by simp
  refine ⟨c :: (u ++ v ++ ['>']), problems, t, (hassoc rest).symm, fun tail => ?_⟩
  rw [hassoc, nextMarkup_doctype (hlocal tail), hread]
  rfl

/-- A document type that is not closed is a problem. -/
theorem exists_nextMarkup_unclosed {cs rest : List Char}
    (h : dropWord? "<!doctype" cs = some rest) (hnone : dropTag? "!doctype" cs = none) :
    ∃ p events s, nextMarkup false ⟨cs, 0⟩ = (.problem p :: events, s) := by
  have hbracket : '>' ∉ rest := by
    have htag : dropTag? "!doctype" cs = dropThroughBracket? rest := dropTag?_of_dropWord? h
    exact dropThroughBracket?_eq_none (htag.symm.trans hnone)
  have hproblems := Doctype.endsAtBracket_readDoctype.unclosed rest hbracket
  obtain ⟨p, problems, heq⟩ := List.exists_cons_of_ne_nil hproblems
  refine ⟨p, problems.map Event.problem ++ [.token (.doctype (readDoctype rest).value)],
    ⟨(readDoctype rest).rest, 0⟩, ?_⟩
  rw [nextMarkup_doctype h, doctypeEvents, heq]
  rfl

end Source

end HtmlText
