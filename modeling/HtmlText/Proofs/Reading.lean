import HtmlText.Markup.Parse
import Mathlib.Tactic.SplitIfs

/-!
# Reading uses up the source

Every reader leaves a suffix of the characters that it is given, and the next events of a source
that is not empty use up at least one character of it. So a source comes to its end, and the number
of rounds that construction is given does not matter if it is large enough.

## Main definitions

* `Builder.runAll`: construction to the end of a source.

## Main results

* `readTag_suffix`, `readComment_suffix`, `readDoctype_suffix`, `RawScan.close_suffix`: what the
  readers leave.
* `Source.length_next_lt`: the next events use up a character.
* `Builder.runAll_next`: construction goes on behind the next events.
-/

namespace HtmlText

/-! ### Comments and document types -/

theorem readComment_suffix (stage : CommentStage) (cs : List Char) :
    (readComment stage cs).rest <:+ cs := by
  induction cs generalizing stage with
  | nil => exact List.suffix_rfl
  | cons c cs ih =>
    rw [readComment]
    cases stage.step c with
    | finish problems => exact List.suffix_cons c cs
    | go problems added next => exact (ih next).trans (List.suffix_cons c cs)

theorem readBogusComment_suffix (cs : List Char) : (readBogusComment cs).rest <:+ cs := by
  induction cs with
  | nil => exact List.suffix_rfl
  | cons c cs ih =>
    rw [readBogusComment]
    split_ifs
    · exact List.suffix_cons c cs
    · exact ih.trans (List.suffix_cons c cs)
    · exact ih.trans (List.suffix_cons c cs)

/-- What is left behind a first character is left behind the whole. -/
theorem suffix_of_dropWhile_eq {p : Char → Bool} {cs rest : List Char} {c : Char}
    (h : cs.dropWhile p = c :: rest) : rest <:+ cs :=
  (List.suffix_cons c rest).trans (h ▸ List.dropWhile_suffix p)

namespace Doctype

theorem passOver_suffix (d : Doctype) (cs : List Char) : (d.passOver cs).rest <:+ cs :=
  (List.drop_suffix 1 _).trans (List.dropWhile_suffix _)

theorem quoted_suffix (set : String → Doctype) (quote : Char) (cs : List Char)
    {next : Doctype → List Char → Scan Doctype}
    (hnext : ∀ d cs, (next d cs).rest <:+ cs) : (quoted set quote cs next).rest <:+ cs := by
  have hrest : (identifier quote cs).rest <:+ cs := List.dropWhile_suffix _
  simp only [quoted, withProblems]
  cases hid : (identifier quote cs).rest with
  | nil => exact List.nil_suffix
  | cons c rest =>
    have hrest' : rest <:+ cs := (List.suffix_cons c rest).trans (hid ▸ hrest)
    simp only
    split_ifs
    · exact hrest'
    · exact (hnext _ rest).trans hrest'

theorem afterSystem_suffix (d : Doctype) (cs : List Char) : (d.afterSystem cs).rest <:+ cs := by
  unfold afterSystem
  split
  · exact List.nil_suffix
  · next heq => exact suffix_of_dropWhile_eq heq
  · next rest _ => exact (d.passOver_suffix _).trans (List.dropWhile_suffix _)

theorem system_suffix (d : Doctype) (gap : List Problem) (quote : Char) (cs : List Char) :
    (d.system gap quote cs).rest <:+ cs :=
  quoted_suffix (fun id => { d with systemId := some id }) quote cs afterSystem_suffix

theorem afterPublic_suffix (d : Doctype) (cs : List Char) : (d.afterPublic cs).rest <:+ cs := by
  unfold afterPublic
  simp only
  split
  · exact List.nil_suffix
  · next heq => exact suffix_of_dropWhile_eq heq
  · next heq => exact (d.system_suffix _ _ _).trans (suffix_of_dropWhile_eq heq)
  · next heq => exact (d.system_suffix _ _ _).trans (suffix_of_dropWhile_eq heq)
  · exact (passOver_suffix _ _).trans (List.dropWhile_suffix _)

theorem afterKeyword_suffix (d : Doctype) (isPublic : Bool) (cs : List Char) :
    (d.afterKeyword isPublic cs).rest <:+ cs := by
  have hbegin (gap : List Problem) (quote : Char) (rest : List Char) :
      (if isPublic then withProblems gap (quoted (fun id => { d with publicId := some id }) quote
        rest afterPublic) else d.system gap quote rest).rest <:+ rest := by
    split_ifs
    · exact quoted_suffix (fun id => { d with publicId := some id }) quote rest afterPublic_suffix
    · exact d.system_suffix gap quote rest
  unfold afterKeyword
  simp only
  split
  · exact List.nil_suffix
  · next heq => exact suffix_of_dropWhile_eq heq
  · next heq => exact (hbegin _ _ _).trans (suffix_of_dropWhile_eq heq)
  · next heq => exact (hbegin _ _ _).trans (suffix_of_dropWhile_eq heq)
  · exact (passOver_suffix _ _).trans (List.dropWhile_suffix _)

end Doctype

theorem dropAsciiWord?_suffix {word cs rest : List Char} (h : dropAsciiWord? word cs = some rest) :
    rest <:+ cs := by
  induction word generalizing cs with
  | nil =>
    cases h
    exact List.suffix_rfl
  | cons letter word ih =>
    cases cs with
    | nil => cases h
    | cons c cs =>
      rw [dropAsciiWord?] at h
      split_ifs at h
      exact (ih h).trans (List.suffix_cons c cs)

theorem Doctype.afterName_suffix (d : Doctype) (cs : List Char) :
    (d.afterName cs).rest <:+ cs := by
  unfold afterName
  split
  · exact List.nil_suffix
  · next heq => exact suffix_of_dropWhile_eq heq
  · have hblank : cs.dropWhile isMarkupBlank <:+ cs := List.dropWhile_suffix _
    split
    · next heq => exact (d.afterKeyword_suffix _ _).trans ((dropAsciiWord?_suffix heq).trans hblank)
    · next heq => exact (d.afterKeyword_suffix _ _).trans ((dropAsciiWord?_suffix heq).trans hblank)
    · exact (passOver_suffix _ _).trans hblank

theorem readDoctype_suffix (cs : List Char) : (readDoctype cs).rest <:+ cs := by
  have hblank : cs.dropWhile isMarkupBlank <:+ cs := List.dropWhile_suffix _
  simp only [readDoctype, Doctype.withProblems]
  split
  · exact List.nil_suffix
  · next heq => exact suffix_of_dropWhile_eq heq
  · exact (Doctype.afterName_suffix _ _).trans ((List.dropWhile_suffix _).trans hblank)

/-! ### Tags -/

theorem readValue_suffix (ends : Char → Bool) (skip : Nat) (cs : List Char) :
    (readValue ends skip cs).rest <:+ cs := by
  induction cs generalizing skip with
  | nil => cases skip <;> exact List.suffix_rfl
  | cons c cs ih =>
    cases skip with
    | succ skip => exact (ih skip).trans (List.suffix_cons c cs)
    | zero =>
      rw [readValue]
      split_ifs
      · exact List.suffix_rfl
      · exact (ih _).trans (List.suffix_cons c cs)
      · exact (ih _).trans (List.suffix_cons c cs)
      · exact (ih _).trans (List.suffix_cons c cs)

namespace TagDraft

theorem readValue_suffix (d : TagDraft) (cs : List Char) : (d.readValue cs).2 <:+ cs := by
  have hblank : cs.dropWhile isMarkupBlank <:+ cs := List.dropWhile_suffix _
  have hquoted (ends : Char → Bool) (rest : List Char) :
      (HtmlText.readValue ends 0 rest).rest.tail <:+ rest :=
    (List.tail_suffix _).trans (HtmlText.readValue_suffix ends 0 rest)
  unfold readValue
  simp only
  split
  · exact List.nil_suffix
  · next heq => exact heq ▸ hblank
  · next heq => exact (hquoted _ _).trans (suffix_of_dropWhile_eq heq)
  · next heq => exact (hquoted _ _).trans (suffix_of_dropWhile_eq heq)
  · exact (HtmlText.readValue_suffix _ 0 _).trans hblank

theorem readAttribute_suffix (d : TagDraft) (first : Char) (cs : List Char) :
    (d.readAttribute first cs).2 <:+ cs := by
  have hblank : (cs.dropWhile (!endsAttributeName ·)).dropWhile isMarkupBlank <:+ cs :=
    (List.dropWhile_suffix _).trans (List.dropWhile_suffix _)
  unfold readAttribute
  simp only
  split
  · next heq => exact (readValue_suffix _ _).trans ((List.suffix_cons _ _).trans (heq ▸ hblank))
  · exact hblank

end TagDraft

theorem readAttributes_suffix (rounds : Nat) (d : TagDraft) (cs : List Char) :
    (readAttributes rounds d cs).rest <:+ cs := by
  induction rounds generalizing d cs with
  | zero => exact List.nil_suffix
  | succ rounds ih =>
    have hblank : cs.dropWhile isMarkupBlank <:+ cs := List.dropWhile_suffix _
    unfold readAttributes
    split
    · exact List.nil_suffix
    · next heq => exact suffix_of_dropWhile_eq heq
    · exact List.nil_suffix
    · next heq => exact (List.suffix_cons _ _).trans (suffix_of_dropWhile_eq heq)
    · next heq => exact (ih _ _).trans (suffix_of_dropWhile_eq heq)
    · next heq =>
      exact (ih _ _).trans ((TagDraft.readAttribute_suffix _ _ _).trans
        (suffix_of_dropWhile_eq heq))

theorem readTag_suffix (cs : List Char) : (readTag cs).rest <:+ cs :=
  (readAttributes_suffix _ _ _).trans (List.dropWhile_suffix _)

/-! ### Raw text -/

theorem endTagName?_suffix {name cs rest : List Char} (h : endTagName? name cs = some rest) :
    rest <:+ cs := by
  unfold endTagName? at h
  split at h
  · unfold dropTagName? at h
    split at h
    · next heq =>
      split_ifs at h
      cases h
      exact (dropAsciiWord?_suffix heq).trans (List.suffix_cons _ _)
    · cases h
  · cases h

@[simp] theorem RawScan.rest_cons (c : Char) (scan : RawScan) : (scan.cons c).rest = scan.rest := by
  rw [cons]
  split_ifs <;> rfl

/-- Text that ends with its end tag right here, or goes on behind a character. -/
theorem suffix_of_endTag {name cs rest : List Char} {c : Char} {scan : RawScan} {p : Prop}
    [Decidable p] (hscan : scan.rest = some rest → rest <:+ cs)
    (h : (match if p then endTagName? name cs else none with
      | some rest => ⟨[], some rest⟩
      | none => scan.cons c : RawScan).rest = some rest) : rest <:+ cs := by
  cases hfound : if p then endTagName? name cs else none with
  | some r =>
    rw [hfound] at h
    cases h
    split_ifs at hfound
    exact endTagName?_suffix hfound
  | none =>
    rw [hfound, RawScan.rest_cons] at h
    exact hscan h

theorem readRaw_suffix {name : List Char} {references : Bool} {skip : Nat} {cs rest : List Char}
    (h : (readRaw name references skip cs).rest = some rest) : rest <:+ cs.tail := by
  induction cs generalizing skip with
  | nil => cases skip <;> cases h
  | cons c cs ih =>
    have htail : cs.tail <:+ cs := List.tail_suffix cs
    cases skip with
    | succ skip => exact (ih h).trans htail
    | zero =>
      unfold readRaw at h
      by_cases hreference : c = '&' && references
      · rw [if_pos hreference] at h
        exact (ih h).trans htail
      · rw [if_neg hreference] at h
        exact suffix_of_endTag (fun hscan => (ih hscan).trans htail) h

theorem readScript_suffix {stage : ScriptStage} {cs rest : List Char}
    (h : (readScript stage cs).rest = some rest) : rest <:+ cs.tail := by
  induction cs generalizing stage with
  | nil => cases h
  | cons c cs ih =>
    unfold readScript at h
    exact suffix_of_endTag (fun hscan => (ih hscan).trans (List.tail_suffix cs)) h

/-- What is left behind the end tag of raw text. -/
theorem RawScan.close_suffix {scan : RawScan} {cs : List Char}
    (h : ∀ rest, scan.rest = some rest → rest <:+ cs) (name : List Char) :
    (scan.close name).2 <:+ cs := by
  rw [close]
  cases hrest : scan.rest with
  | none => exact List.nil_suffix
  | some rest => exact (readAttributes_suffix _ _ _).trans (h rest hrest)

namespace Source

/-! ### Events -/

theorem readCharacterData_suffix (cs : List Char) : (readCharacterData cs).2 <:+ cs := by
  fun_induction readCharacterData cs with
  | case1 => exact List.suffix_rfl
  | case2 rest => exact List.suffix_append [']', ']', '>'] rest
  | case3 cs events rest heq _ ih =>
    rw [heq] at ih
    exact ih.trans (List.suffix_cons _ cs)
  | case4 c cs _ events rest heq _ ih =>
    rw [heq] at ih
    exact ih.trans (List.suffix_cons c cs)

theorem readDeclaration_suffix (characterData : Bool) (cs : List Char) :
    (readDeclaration characterData cs).2 <:+ cs := by
  unfold readDeclaration
  split
  · next rest => exact (readComment_suffix _ _).trans (List.suffix_append ['-', '-'] rest)
  · split
    · next heq => exact (readDoctype_suffix _).trans (dropAsciiWord?_suffix heq)
    · simp only
      split_ifs
      · exact (readCharacterData_suffix _).trans (List.drop_suffix 7 _)
      · exact readBogusComment_suffix _

theorem readEndTag_suffix (cs : List Char) : (readEndTag cs).2 <:+ cs := by
  unfold readEndTag
  split
  · exact List.suffix_rfl
  · simp only
    split_ifs
    · exact readTag_suffix _
    · exact List.suffix_cons _ _
    · exact readBogusComment_suffix _

theorem readMarkup_suffix (characterData : Bool) (cs : List Char) :
    (readMarkup characterData cs).2.rest <:+ cs := by
  unfold readMarkup
  split
  · exact List.suffix_rfl
  · simp only
    split_ifs
    · exact (readDeclaration_suffix _ _).trans (List.suffix_cons _ _)
    · exact (readEndTag_suffix _).trans (List.suffix_cons _ _)
    · exact readBogusComment_suffix _
    · exact readTag_suffix _
    · exact List.suffix_rfl

/-- A run of text leaves what comes behind its first character, or less. -/
theorem readRun_suffix (plain : Bool) {c : Char} (cs : List Char) (apart : Nat)
    (hc : endsRun plain c = false) : (readRun plain ⟨c :: cs, apart⟩).2.rest <:+ cs := by
  have hne : ∃ n, (readRun plain ⟨c :: cs, apart⟩).2.rest = (c :: cs).drop (n + 1) := by
    simp only [readRun]
    rw [List.takeWhile_cons_of_pos (by simp [hc])]
    split_ifs with hapart
    · exact ⟨_, rfl⟩
    · obtain ⟨n, rfl⟩ := Nat.exists_eq_succ_of_ne_zero hapart
      exact ⟨_, rfl⟩
  obtain ⟨n, hn⟩ := hne
  rw [hn, List.drop_succ_cons]
  exact List.drop_suffix n cs

theorem nextMarkup_suffix (characterData : Bool) (c : Char) (cs : List Char) (apart : Nat) :
    (nextMarkup characterData ⟨c :: cs, apart⟩).2.rest <:+ cs := by
  unfold nextMarkup
  simp only
  split_ifs with h₁ h₂ h₃ h₄ h₅
  · exact List.suffix_rfl
  · exact List.suffix_rfl
  · exact List.suffix_rfl
  · exact List.drop_suffix _ cs
  · exact readMarkup_suffix _ _
  · exact readRun_suffix false cs apart (by simp [endsRun, h₁, h₂, h₃, h₄, h₅])

theorem nextPlain_suffix (c : Char) (cs : List Char) (apart : Nat) :
    (nextPlain ⟨c :: cs, apart⟩).2.rest <:+ cs := by
  unfold nextPlain
  simp only
  split_ifs with h₁ h₂ h₃
  · exact List.suffix_rfl
  · exact List.suffix_rfl
  · exact List.suffix_rfl
  · exact readRun_suffix true cs apart (by simp [endsRun, h₁, h₂, h₃])

theorem dropMark_suffix (cs : List Char) : dropMark cs <:+ cs := by
  cases cs with
  | nil => exact List.suffix_rfl
  | cons c cs =>
    rw [dropMark]
    split_ifs
    · exact List.suffix_cons c cs
    · exact List.suffix_rfl

/-- The next events of a source that is not empty leave a suffix of what comes behind its first
character. -/
theorem next_suffix (mode : TextMode) (characterData : Bool) (c : Char) (cs : List Char)
    (apart : Nat) : (next mode characterData ⟨c :: cs, apart⟩).2.rest <:+ cs := by
  cases mode with
  | markup => exact nextMarkup_suffix characterData c cs apart
  | plain => exact nextPlain_suffix c cs apart
  | escapable name => exact RawScan.close_suffix (fun _ h => readRaw_suffix h) _
  | raw name => exact RawScan.close_suffix (fun _ h => readRaw_suffix h) _
  | script =>
    exact (dropMark_suffix _).trans (RawScan.close_suffix (fun _ h => readScript_suffix h) _)

/-- The next events use up a character. -/
theorem length_next_lt (mode : TextMode) (characterData : Bool) {s : Source} (h : s.rest ≠ []) :
    (s.next mode characterData).2.rest.length < s.rest.length := by
  obtain ⟨cs, apart⟩ := s
  cases cs with
  | nil => exact absurd rfl h
  | cons c cs => exact Nat.lt_succ_of_le (next_suffix mode characterData c cs apart).length_le

end Source

/-! ### Construction to the end of a source -/

namespace Builder

/-- The rest of a source, in as many rounds as it takes. -/
def runAll (b : Builder) (s : Source) : Builder := run (s.rest.length + 1) b s

theorem run_of_rest_eq_nil (rounds : Nat) (b : Builder) {s : Source} (h : s.rest = []) :
    run (rounds + 1) b s = b.feed (.token .sourceEnd) := by
  rw [run, h]
  rfl

theorem run_of_rest_ne_nil (rounds : Nat) (b : Builder) {s : Source} (h : s.rest ≠ []) :
    run (rounds + 1) b s =
      run rounds ((s.next b.textMode b.inForeign).1.foldl feed b)
        (s.next b.textMode b.inForeign).2 := by
  rw [run, if_neg (by simpa using h)]

/-- Once there are more rounds than characters, their number makes no difference. -/
theorem run_eq_run {m n : Nat} (b : Builder) {s : Source} (hm : s.rest.length < m)
    (hn : s.rest.length < n) : run m b s = run n b s := by
  induction m generalizing n b s with
  | zero => omega
  | succ m ih =>
    obtain ⟨n, rfl⟩ := Nat.exists_eq_succ_of_ne_zero (Nat.ne_of_gt (Nat.zero_lt_of_lt hn))
    by_cases hnil : s.rest = []
    · rw [run_of_rest_eq_nil _ _ hnil, run_of_rest_eq_nil _ _ hnil]
    · have hlt := Source.length_next_lt b.textMode b.inForeign hnil
      rw [run_of_rest_ne_nil _ _ hnil, run_of_rest_ne_nil _ _ hnil]
      exact ih _ (by omega) (by omega)

theorem runAll_nil (b : Builder) {s : Source} (h : s.rest = []) :
    b.runAll s = b.feed (.token .sourceEnd) :=
  run_of_rest_eq_nil _ b h

/-- Construction goes on behind the next events. -/
theorem runAll_next (b : Builder) {s : Source} (h : s.rest ≠ []) :
    b.runAll s =
      ((s.next b.textMode b.inForeign).1.foldl feed b).runAll
        (s.next b.textMode b.inForeign).2 := by
  rw [runAll, run_of_rest_ne_nil _ _ h]
  exact run_eq_run _ (Source.length_next_lt _ _ h) (Nat.lt_succ_self _)

theorem construct_eq (b : Builder) (s : String) : b.construct s = b.runAll (Source.ofString s) :=
  rfl

end Builder

end HtmlText
