import HtmlText.Proofs.Alike.Opening

/-!
# Waiting for the head

One document has come up to its head, and the other one has not. Comments and blanks go into the
head of the first one, and in front of the head of the second one or nowhere. As soon as anything
else comes up, the second document comes up to its head as well, and the two are alike from there
on, unless it is the start tag of the root or of the head: that one is refused by the first
document, since the head is open already.

## Main definitions

* `Builder.untyped`, `Builder.beforeRoot`, `Builder.rooted`: the states before the document type,
  before the root element and before the head.
* `Builder.Waiting`: a document that waits for its head, and one that has come up to it.
* `Event.Passes`: an event that leaves the one waiting.

## Main results

* `Waiting.feed_passes`: the one goes on waiting.
* `Waiting.alike_feed`: the one comes up to its head.
* `feed_late`: the head is opened too late.
-/

namespace HtmlText

/-! ### Inserting into simple states -/

theorem Draft.contents_of_element {d : Draft} {i : Nat} {name : ElementName}
    {attributes : List (String × String)} (h : d.kind? i = some (.element name attributes none)) :
    d.contents i = i := by
  rw [Draft.contents_eq, h]

namespace Builder

/-- An element that is no template goes behind the children of the current one. -/
theorem insertClosed_eq (b : Builder) (hfostering : b.fostering = false) {name : ElementName}
    (hname : name ≠ .html "template") (attributes : List (String × String)) :
    b.insertClosed name attributes =
      ({ b with
          draft := b.draft.adding (.element name attributes none)
            (some (b.draft.contents b.current.id)) }, b.draft.nodes.size) := by
  rw [insertClosed, Draft.addElement, if_neg hname, placeIn, hfostering, Bool.false_and,
    if_neg Bool.false_ne_true]
  rfl

theorem insertComment_eq (b : Builder) (hfostering : b.fostering = false) (s : String) :
    b.insertComment s =
      { b with
        draft := b.draft.adding (.comment s) (some (b.draft.contents b.current.id)) } := by
  rw [insertComment, placeIn, hfostering, Bool.false_and, if_neg Bool.false_ne_true]
  rfl

theorem insertText_eq_appendText (b : Builder) (hfostering : b.fostering = false)
    (cs : List Char) :
    b.insertText cs =
      { b with
        draft := b.draft.appendText (b.draft.contents b.current.id) (String.ofList cs) } := by
  rw [insertText, placeIn, hfostering, Bool.false_and, if_neg Bool.false_ne_true]

theorem le_roundsFor (b : Builder) (t : Token) : 32 ≤ b.roundsFor t := by
  simp only [roundsFor]
  omega

/-- A token that is dealt with in one step. -/
theorem settleWithin_of_done {b c : Builder} {t : Token} (hpart : b.nextPart t [] = (t, []))
    (hstep : b.step t = c.done) (rounds : Nat) :
    settleWithin (rounds + 1) b t [] = c.checkSelfClosing t := by
  rw [settleWithin_succ, hpart, hstep]
  rfl

theorem settle_of_done {b c : Builder} {t : Token} (hpart : b.nextPart t [] = (t, []))
    (hstep : b.step t = c.done) : b.settle t = c.checkSelfClosing t := by
  obtain ⟨n, hn⟩ := Nat.exists_eq_add_of_le'
    (Nat.le_trans (by decide : 1 ≤ 32) (b.le_roundsFor t))
  rw [settle, hn, settleWithin_of_done hpart hstep]

theorem settle_of_acknowledged {b c : Builder} {t : Token} (hpart : b.nextPart t [] = (t, []))
    (hstep : b.step t = c.acknowledged) : b.settle t = c := by
  obtain ⟨n, hn⟩ := Nat.exists_eq_add_of_le'
    (Nat.le_trans (by decide : 1 ≤ 32) (b.le_roundsFor t))
  rw [settle, hn, settleWithin_succ, hpart, hstep]
  rfl

/-! ### Parts of text -/

theorem splitRun_fst (cs : List Char) : splitRun (splitRun cs).1 = ((splitRun cs).1, []) := by
  cases cs with
  | nil => rfl
  | cons c cs =>
    have hall : ∀ d ∈ cs.takeWhile fun d => isMarkupBlank d == isMarkupBlank c,
        (isMarkupBlank d == isMarkupBlank c) = true := fun d hd =>
          List.mem_takeWhile_imp (p := fun d => isMarkupBlank d == isMarkupBlank c) hd
    have hrun : (splitRun (c :: cs)).1 =
        c :: cs.takeWhile fun d => isMarkupBlank d == isMarkupBlank c := by
      simp only [splitRun]
      rw [List.takeWhile_cons_of_pos (by simp)]
    rw [hrun]
    simp only [splitRun]
    rw [List.takeWhile_cons_of_pos (by simp), List.dropWhile_cons_of_pos (by simp),
      List.takeWhile_eq_self_iff.mpr hall, List.dropWhile_eq_nil_iff.mpr hall]

/-- A part of a token is dealt with like the token. -/
theorem settleWithin_nextPart {b c : Builder} (hb : b.mode.splitsText = true)
    (hbHtml : b.contextName.vocabulary = .html) (hc : c.mode.splitsText = true)
    (hcHtml : c.contextName.vocabulary = .html) (rounds : Nat) (t : Token) (later : List Char) :
    settleWithin rounds c (b.nextPart t later).1 (b.nextPart t later).2 =
      settleWithin rounds c t later := by
  cases rounds with
  | zero => rfl
  | succ rounds =>
    have hpart : c.nextPart (b.nextPart t later).1 (b.nextPart t later).2 =
        c.nextPart t later := by
      cases t with
      | text cs =>
        rw [nextPart_of_splits hb hbHtml, nextPart_of_splits hc hcHtml,
          nextPart_of_splits hc hcHtml, splitRun_fst, List.nil_append]
      | _ => rfl
    rw [settleWithin_succ, settleWithin_succ, hpart]

theorem opensHead_nextPart {b : Builder} {t : Token} (ht : t.OpensHead) (later : List Char) :
    (b.nextPart t later).1.OpensHead := by
  cases t with
  | text cs =>
    obtain ⟨c, rest, rfl, hc⟩ := ht
    obtain ⟨run, hrun, -⟩ := splitRun_of_not_blank hc rest
    rw [nextPart]
    split_ifs
    · rw [hrun]
      exact ⟨c, run, rfl, hc⟩
    · exact ⟨c, rest, rfl, hc⟩
  | _ => exact ht

/-! ### Before the head -/

/-- The state in front of the document type. -/
def untyped (d : Draft) : Builder := { draft := d }

/-- The state before the root element. -/
def beforeRoot (d : Draft) (problems : List Problem) (oldLayout : Bool) : Builder :=
  { draft := d, problems, mode := .beforeHtml, oldLayout }

/-- The state inside a root element with the given number, before the head. -/
def rooted (d : Draft) (problems : List Problem) (oldLayout : Bool) (r : Nat) : Builder :=
  { draft := d, problems, mode := .beforeHead, stack := [⟨r, .html "html"⟩], oldLayout }

variable {d : Draft} {r h : Nat} {attributes headAttributes : List (String × String)}
  (problems : List Problem) (oldLayout : Bool)

theorem insertRoot_beforeRoot (d : Draft) (attributes : List (String × String)) :
    (beforeRoot d problems oldLayout).insertRoot attributes =
      { rooted (d.adding (.element (.html "html") attributes none) (some 0)) problems oldLayout
          d.nodes.size with mode := .beforeHtml } := by
  rw [insertRoot, Draft.addElement, if_neg (by decide)]
  rfl

theorem insertHead_rooted (hd : d.Rooted r attributes)
    (headAttributes : List (String × String)) :
    (rooted d problems oldLayout r).insertHead headAttributes =
      { headed (d.adding (.element (.html "head") headAttributes none) (some r)) problems oldLayout
          r d.nodes.size with mode := .beforeHead } := by
  have hcontents : (rooted d problems oldLayout r).draft.contents
      (rooted d problems oldLayout r).current.id = r := Draft.contents_of_element hd.root
  rw [insertHead, insertOpen, insertClosed_eq _ rfl (by decide), hcontents]
  rfl

/-- A token whose first part is looked at again in another state is dealt with there. -/
theorem settleWithin_of_again_part {b c : Builder} (hb : b.mode.splitsText = true)
    (hbHtml : b.contextName.vocabulary = .html) (hc : c.mode.splitsText = true)
    (hcHtml : c.contextName.vocabulary = .html) {t : Token} {later : List Char}
    (hrules : b.mode.rules b (b.nextPart t later).1 = c.again (b.nextPart t later).1)
    (rounds : Nat) : settleWithin (rounds + 1) b t later = settleWithin rounds c t later := by
  rw [settleWithin_succ, step_eq hbHtml, hrules]
  exact settleWithin_nextPart hb hbHtml hc hcHtml rounds t later

/-- A token that is looked at again in another state is dealt with there. -/
theorem settleWithin_of_again {b c : Builder} (hb : b.mode.splitsText = true)
    (hbHtml : b.contextName.vocabulary = .html) (hc : c.mode.splitsText = true)
    (hcHtml : c.contextName.vocabulary = .html)
    (hrules : ∀ t : Token, t.OpensHead → b.mode.rules b t = c.again t) {t : Token}
    (ht : t.OpensHead) (rounds : Nat) (later : List Char) :
    settleWithin (rounds + 1) b t later = settleWithin rounds c t later :=
  settleWithin_of_again_part hb hbHtml hc hcHtml (hrules _ (opensHead_nextPart ht later)) rounds

/-- The state in which the head has been opened by something else than its start tag. -/
def openHead (d : Draft) (problems : List Problem) (oldLayout : Bool) (r : Nat) : Builder :=
  headed (d.adding (.element (.html "head") [] none) (some r)) problems oldLayout r d.nodes.size

/-- The state in which the root element has been opened by something else than its start tag. -/
def openRoot (d : Draft) (problems : List Problem) (oldLayout : Bool) : Builder :=
  rooted (d.adding (.element (.html "html") [] none) (some 0)) problems oldLayout d.nodes.size

/-- A token that does not stay before the head opens it. -/
theorem settleWithin_rooted (hd : d.Rooted r attributes) {t : Token} (ht : t.OpensHead)
    {rounds : Nat} (hrounds : 5 ≤ rounds) :
    settleWithin rounds (rooted d problems oldLayout r) t [] =
      settleWithin 4 (openHead d problems oldLayout r) t [] := by
  obtain ⟨rounds, rfl⟩ := Nat.exists_eq_add_of_le' (Nat.le_trans (by decide : 1 ≤ 5) hrounds)
  rw [settleWithin_of_again (c := openHead d problems oldLayout r) rfl rfl rfl rfl
    (fun t ht => ?_) ht]
  · exact (settles_headed _ problems oldLayout r _ ht).settleWithin_eq_settleWithin (by omega)
      (Nat.le_refl 4)
  · have hmissing : ((rooted d problems oldLayout r).insertHead []).againIn .inHead t =
        (openHead d problems oldLayout r).again t := by
      rw [insertHead_rooted problems oldLayout hd]
      rfl
    rw [← hmissing]
    change beforeHeadRules _ t = _
    cases t with
    | text cs =>
      obtain ⟨c, rest, rfl, hc⟩ := ht
      rw [beforeHeadRules, if_neg (by simp [isBlankRun, hc])]
    | null | sourceEnd => rfl
    | comment | doctype => exact ht.elim
    | startTag tag => rw [beforeHeadRules, if_neg ht.1, if_neg ht.2]
    | endTag tag => exact if_pos ht

/-- A token that does not stay before the root element opens it, and the head. -/
theorem settleWithin_beforeRoot (hd : d.Rootless) {t : Token} (ht : t.OpensHead) {rounds : Nat}
    (hrounds : 6 ≤ rounds) :
    settleWithin rounds (beforeRoot d problems oldLayout) t [] =
      settleWithin 4
        (openHead (d.adding (.element (.html "html") [] none) (some 0)) problems oldLayout
          d.nodes.size) t [] := by
  obtain ⟨rounds, rfl⟩ := Nat.exists_eq_add_of_le' (Nat.le_trans (by decide : 1 ≤ 6) hrounds)
  rw [settleWithin_of_again (c := openRoot d problems oldLayout) rfl rfl rfl rfl
    (fun t ht => ?_) ht]
  · exact settleWithin_rooted problems oldLayout (hd.addRoot []) ht (by omega)
  · have hmissing : ((beforeRoot d problems oldLayout).insertRoot []).againIn .beforeHead t =
        (openRoot d problems oldLayout).again t := by
      rw [insertRoot_beforeRoot]
      rfl
    rw [← hmissing]
    change beforeHtmlRules _ t = _
    cases t with
    | text cs =>
      obtain ⟨c, rest, rfl, hc⟩ := ht
      rw [beforeHtmlRules, if_neg (by simp [isBlankRun, hc])]
    | null | sourceEnd => rfl
    | comment | doctype => exact ht.elim
    | startTag tag => rw [beforeHtmlRules, if_neg ht.1]
    | endTag tag => exact if_pos ht

/-! ### Waiting -/

/-- A document that waits for its head, and one that has come up to it already. -/
inductive Waiting : Builder → Builder → Prop
  | root {d d' : Draft} {r' h' : Nat} (problems : List Problem) (oldLayout : Bool)
      (hd : d.Rootless) (hd' : d'.Headed r' h' [] []) :
      Waiting (beforeRoot d problems oldLayout) (headed d' problems oldLayout r' h')
  | head {d d' : Draft} {r r' h' : Nat} {attributes : List (String × String)}
      (problems : List Problem) (oldLayout : Bool) (hd : d.Rooted r attributes)
      (hd' : d'.Headed r' h' attributes []) :
      Waiting (rooted d problems oldLayout r) (headed d' problems oldLayout r' h')

theorem feed_token {b : Builder} (hdrop : b.dropLineFeed = false) {t : Token}
    (htext : t ≠ .text []) (hdoctype : ∀ d, t ≠ .doctype d) : b.feed (.token t) = b.settle t := by
  have hsame : { b with dropLineFeed := false } = b := by rw [← hdrop]
  cases t with
  | text cs =>
    have hne : cs.isEmpty = false := by
      cases cs with
      | nil => exact absurd rfl htext
      | cons c cs => rfl
    simp only [feed, hdrop, Bool.false_and, Bool.false_eq_true, if_false, hne, hsame]
  | doctype d => exact absurd rfl (hdoctype d)
  | _ => exact congrArg (fun c => settle c _) hsame

/-- Both documents come up to the head. -/
theorem Waiting.alike_feed {b b' : Builder} (h : Waiting b b') {t : Token} (ht : t.OpensHead) :
    ∃ r H, Alike { draft := Mirrors r H } (b.feed (.token t)) (b'.feed (.token t)) := by
  have htext : t ≠ .text [] := by
    rintro rfl
    obtain ⟨c, rest, heq, -⟩ := ht
    cases heq
  have hdoctype : ∀ d, t ≠ .doctype d := by
    rintro d rfl
    exact ht
  have hsettle {d d' : Draft} {r h r' h' : Nat} {attributes : List (String × String)}
      (hd : d.Headed r h attributes []) (hd' : d'.Headed r' h' attributes [])
      (problems : List Problem) (oldLayout : Bool) :
      Alike { draft := Mirrors r [0, h] }
        (settleWithin 4 (headed d problems oldLayout r h) t [])
        ((headed d' problems oldLayout r' h').settle t) := by
    rw [settle, (settles_headed d' problems oldLayout r' h' ht).settleWithin_eq_settleWithin
      (Nat.le_trans (by decide) (le_roundsFor _ t)) (Nat.le_refl 4)]
    exact (alike_headed hd hd' problems oldLayout).settleWithin (Mirrors.draftRelation r _) 4 t []
  cases h with
  | root problems oldLayout hd hd' =>
    rw [feed_token rfl htext hdoctype, feed_token rfl htext hdoctype, settle,
      settleWithin_beforeRoot problems oldLayout hd ht
        (Nat.le_trans (by decide) (le_roundsFor _ t))]
    exact ⟨_, _, hsettle ((hd.addRoot []).addHead []) hd' problems oldLayout⟩
  | head problems oldLayout hd hd' =>
    rw [feed_token rfl htext hdoctype, feed_token rfl htext hdoctype, settle,
      settleWithin_rooted problems oldLayout hd ht (Nat.le_trans (by decide) (le_roundsFor _ t))]
    exact ⟨_, _, hsettle (hd.addHead []) hd' problems oldLayout⟩

/-! ### Comments and blanks -/

end Builder

/-- An event that leaves a document waiting for its head. -/
def Event.Passes : Event → Prop
  | .token (.comment _) => True
  | .token (.text cs) => isBlankRun cs = true
  | _ => False

theorem splitRun_append {v x : List Char} (hv : isBlankRun v = true) (hne : v ≠ [])
    (hx : ∀ c ∈ x.head?, isMarkupBlank c = false) : splitRun (v ++ x) = (v, x) := by
  obtain ⟨c, v, rfl⟩ := List.exists_cons_of_ne_nil hne
  rw [isBlankRun, List.all_eq_true] at hv
  have hc : isMarkupBlank c = true := hv c List.mem_cons_self
  have hsame : ∀ d ∈ c :: v, (isMarkupBlank d == isMarkupBlank c) = true := fun d hd => by
    rw [hc, hv d hd]
    rfl
  have hx' : x.takeWhile (fun d => isMarkupBlank d == isMarkupBlank c) = [] ∧
      x.dropWhile (fun d => isMarkupBlank d == isMarkupBlank c) = x := by
    cases x with
    | nil => exact ⟨rfl, rfl⟩
    | cons d x =>
      have hd : ¬(isMarkupBlank d == isMarkupBlank c) = true := by
        rw [hc, hx d rfl]
        decide
      exact ⟨List.takeWhile_cons_of_neg hd, List.dropWhile_cons_of_neg hd⟩
  change (((c :: v) ++ x).takeWhile _, ((c :: v) ++ x).dropWhile _) = _
  rw [List.takeWhile_append_of_pos hsame, List.dropWhile_append_of_pos hsame, hx'.1, hx'.2,
    List.append_nil]

/-- A text that is not blank begins with blanks, and goes on with another character. -/
theorem exists_eq_blanks_append {cs : List Char} (h : isBlankRun cs = false) :
    ∃ v x, cs = v ++ x ∧ isBlankRun v = true ∧ x ≠ [] ∧
      ∀ c ∈ x.head?, isMarkupBlank c = false := by
  refine ⟨cs.takeWhile isMarkupBlank, cs.dropWhile isMarkupBlank,
    List.takeWhile_append_dropWhile.symm, List.all_takeWhile, fun hnil => ?_, fun c hc => ?_⟩
  · have hall : isBlankRun cs = true := List.all_eq_true.mpr (List.dropWhile_eq_nil_iff.mp hnil)
    rw [hall] at h
    cases h
  · have hnot := List.head?_dropWhile_not isMarkupBlank cs
    rw [hc] at hnot
    simpa using hnot

namespace Builder

variable {d : Draft} {r h : Nat} {attributes headAttributes : List (String × String)}
  (problems : List Problem) (oldLayout : Bool)

theorem insertComment_rooted (hd : d.Rooted r attributes) (s : String) :
    (rooted d problems oldLayout r).insertComment s =
      rooted (d.adding (.comment s) (some r)) problems oldLayout r := by
  have hcontents : (rooted d problems oldLayout r).draft.contents
      (rooted d problems oldLayout r).current.id = r := Draft.contents_of_element hd.root
  rw [insertComment_eq _ rfl, hcontents]
  rfl

theorem insertComment_headed (hd : d.Headed r h attributes headAttributes) (s : String) :
    (headed d problems oldLayout r h).insertComment s =
      headed (d.adding (.comment s) (some h)) problems oldLayout r h := by
  have hcontents : (headed d problems oldLayout r h).draft.contents
      (headed d problems oldLayout r h).current.id = h := Draft.contents_of_element hd.head
  rw [insertComment_eq _ rfl, hcontents]
  rfl

theorem insertText_headed (hd : d.Headed r h attributes headAttributes) (cs : List Char) :
    (headed d problems oldLayout r h).insertText cs =
      headed (d.appendText h (String.ofList cs)) problems oldLayout r h := by
  have hcontents : (headed d problems oldLayout r h).draft.contents
      (headed d problems oldLayout r h).current.id = h := Draft.contents_of_element hd.head
  rw [insertText_eq_appendText _ rfl, hcontents]
  rfl

theorem feed_text_nil {b : Builder} (hdrop : b.dropLineFeed = false) :
    b.feed (.token (.text [])) = b := by
  have hsame : { b with dropLineFeed := false } = b := by rw [← hdrop]
  simp only [feed, hdrop, Bool.false_and, Bool.false_eq_true, if_false]
  exact hsame

/-- Blanks are dealt with before the text behind them. -/
theorem settleWithin_append {b c : Builder} (hb : b.mode.splitsText = true)
    (hbHtml : b.contextName.vocabulary = .html) {v x : List Char} (hv : isBlankRun v = true)
    (hne : v ≠ []) (hx : ∀ c ∈ x.head?, isMarkupBlank c = false)
    (hrules : b.mode.rules b (.text v) = c.done) (rounds : Nat) :
    settleWithin (rounds + 1) b (.text (v ++ x)) [] = settleRest rounds c x := by
  rw [settleWithin_succ, nextPart_of_splits hb hbHtml, splitRun_append hv hne hx,
    step_eq hbHtml, hrules, List.append_nil]
  rfl

/-- Blanks, and the text behind them, are dealt with one after the other. -/
theorem feed_append {b c : Builder} (hb : b.mode.splitsText = true)
    (hbHtml : b.contextName.vocabulary = .html) (hbDrop : b.dropLineFeed = false)
    (hcDrop : c.dropLineFeed = false) {v : List Char} (hv : isBlankRun v = true) (hne : v ≠ [])
    (hrules : b.mode.rules b (.text v) = c.done)
    (hsettle : ∀ (t : Token), t.OpensHead → ∀ m n, 7 ≤ m → 7 ≤ n →
      settleWithin m c t [] = settleWithin n c t []) :
    b.feed (.token (.text v)) = c ∧ ∀ (x : List Char), x ≠ [] →
      (∀ c ∈ x.head?, isMarkupBlank c = false) →
      b.feed (.token (.text (v ++ x))) = c.feed (.token (.text x)) := by
  have hfeed {x : List Char} (hx : ∀ c ∈ x.head?, isMarkupBlank c = false) :
      ∃ m, 31 ≤ m ∧ b.feed (.token (.text (v ++ x))) = settleRest m c x := by
    have htext : Token.text (v ++ x) ≠ .text [] := by simp [hne]
    obtain ⟨m, hm⟩ := Nat.exists_eq_add_of_le' (Nat.le_trans (by decide : 1 ≤ 32)
      (le_roundsFor b (.text (v ++ x))))
    refine ⟨m, ?_, ?_⟩
    · have hle := le_roundsFor b (.text (v ++ x))
      omega
    · rw [feed_token hbDrop htext (by simp), settle, hm,
        settleWithin_append hb hbHtml hv hne hx hrules]
  constructor
  · obtain ⟨m, -, heq⟩ := hfeed (x := []) (by simp)
    rw [List.append_nil] at heq
    exact heq
  · intro x hxne hx
    obtain ⟨m, hm, heq⟩ := hfeed hx
    obtain ⟨c', x, rfl⟩ := List.exists_cons_of_ne_nil hxne
    have hopens : (Token.text (c' :: x)).OpensHead := ⟨c', x, rfl, hx c' rfl⟩
    rw [heq, feed_token hcDrop (by simp) (by simp), settle]
    exact hsettle _ hopens _ _ (by omega) (Nat.le_trans (by decide) (le_roundsFor _ _))

theorem feed_blank_beforeRoot (hd : d.Rootless) {v : List Char} (hv : isBlankRun v = true)
    (hne : v ≠ []) :
    (beforeRoot d problems oldLayout).feed (.token (.text v)) = beforeRoot d problems oldLayout ∧
      ∀ (x : List Char), x ≠ [] → (∀ c ∈ x.head?, isMarkupBlank c = false) →
        (beforeRoot d problems oldLayout).feed (.token (.text (v ++ x))) =
          (beforeRoot d problems oldLayout).feed (.token (.text x)) := by
  refine feed_append rfl rfl rfl rfl hv hne ?_ fun t ht m n hm hn => ?_
  · exact if_pos hv
  · rw [settleWithin_beforeRoot problems oldLayout hd ht (by omega),
      settleWithin_beforeRoot problems oldLayout hd ht (by omega)]

theorem feed_blank_rooted (hd : d.Rooted r attributes) {v : List Char} (hv : isBlankRun v = true)
    (hne : v ≠ []) :
    (rooted d problems oldLayout r).feed (.token (.text v)) = rooted d problems oldLayout r ∧
      ∀ (x : List Char), x ≠ [] → (∀ c ∈ x.head?, isMarkupBlank c = false) →
        (rooted d problems oldLayout r).feed (.token (.text (v ++ x))) =
          (rooted d problems oldLayout r).feed (.token (.text x)) := by
  refine feed_append rfl rfl rfl rfl hv hne ?_ fun t ht m n hm hn => ?_
  · exact if_pos hv
  · rw [settleWithin_rooted problems oldLayout hd ht (by omega),
      settleWithin_rooted problems oldLayout hd ht (by omega)]

theorem feed_blank_headed (hd : d.Headed r h attributes headAttributes) {v : List Char}
    (hv : isBlankRun v = true) (hne : v ≠ []) :
    (headed d problems oldLayout r h).feed (.token (.text v)) =
        headed (d.appendText h (String.ofList v)) problems oldLayout r h ∧
      ∀ (x : List Char), x ≠ [] → (∀ c ∈ x.head?, isMarkupBlank c = false) →
        (headed d problems oldLayout r h).feed (.token (.text (v ++ x))) =
          (headed (d.appendText h (String.ofList v)) problems oldLayout r h).feed
            (.token (.text x)) := by
  refine feed_append rfl rfl rfl rfl hv hne ?_ fun t ht m n hm hn => ?_
  · rw [← insertText_headed problems oldLayout hd]
    exact if_pos hv
  · exact (settles_headed _ problems oldLayout r h ht).settleWithin_eq_settleWithin (by omega)
      (by omega)

theorem feed_comment_beforeRoot (d : Draft) (s : String) :
    (beforeRoot d problems oldLayout).feed (.token (.comment s)) =
      beforeRoot (d.adding (.comment s) (some 0)) problems oldLayout := by
  rw [feed_token rfl (by simp) (by simp)]
  exact settle_of_done rfl (step_eq rfl _)

theorem feed_comment_rooted (hd : d.Rooted r attributes) (s : String) :
    (rooted d problems oldLayout r).feed (.token (.comment s)) =
      rooted (d.adding (.comment s) (some r)) problems oldLayout r := by
  rw [feed_token rfl (by simp) (by simp), ← insertComment_rooted problems oldLayout hd]
  exact settle_of_done rfl (step_eq rfl _)

theorem feed_comment_headed (hd : d.Headed r h attributes headAttributes) (s : String) :
    (headed d problems oldLayout r h).feed (.token (.comment s)) =
      headed (d.adding (.comment s) (some h)) problems oldLayout r h := by
  rw [feed_token rfl (by simp) (by simp), ← insertComment_headed problems oldLayout hd]
  exact settle_of_done rfl (step_eq rfl _)

/-- What holds of a state and of those to which a comment or blanks lead holds behind every event
that passes. -/
theorem feed_of_passes {C : Builder → Prop} {b : Builder} (hdrop : b.dropLineFeed = false)
    (hb : C b) (hcomment : ∀ s, C (b.feed (.token (.comment s))))
    (hblank : ∀ v, isBlankRun v = true → v ≠ [] → C (b.feed (.token (.text v)))) {e : Event}
    (he : e.Passes) : C (b.feed e) := by
  rcases e with p | t
  · exact he.elim
  cases t with
  | comment s => exact hcomment s
  | text cs =>
    by_cases hne : cs = []
    · rwa [hne, feed_text_nil hdrop]
    · exact hblank cs he hne
  | null | startTag | endTag | doctype | sourceEnd => exact he.elim

theorem exists_feed_beforeRoot (hd : d.Rootless) {e : Event} (he : e.Passes) :
    ∃ d', d'.Rootless ∧
      (beforeRoot d problems oldLayout).feed e = beforeRoot d' problems oldLayout :=
  feed_of_passes (C := fun c => ∃ d', d'.Rootless ∧ c = beforeRoot d' problems oldLayout) rfl
    ⟨d, hd, rfl⟩ (fun s => ⟨_, hd.adding (Or.inl ⟨s, rfl⟩), feed_comment_beforeRoot ..⟩)
    (fun _ hv hne => ⟨d, hd, (feed_blank_beforeRoot problems oldLayout hd hv hne).1⟩) he

theorem exists_feed_rooted (hd : d.Rooted r attributes) {e : Event} (he : e.Passes) :
    ∃ d', d'.Rooted r attributes ∧
      (rooted d problems oldLayout r).feed e = rooted d' problems oldLayout r :=
  feed_of_passes (C := fun c => ∃ d', d'.Rooted r attributes ∧ c = rooted d' problems oldLayout r)
    rfl ⟨d, hd, rfl⟩
    (fun s => ⟨_, hd.addComment s, feed_comment_rooted problems oldLayout hd s⟩)
    (fun _ hv hne => ⟨d, hd, (feed_blank_rooted problems oldLayout hd hv hne).1⟩) he

theorem exists_feed_headed (hd : d.Headed r h attributes headAttributes) {e : Event}
    (he : e.Passes) :
    ∃ d', d'.Headed r h attributes headAttributes ∧
      (headed d problems oldLayout r h).feed e = headed d' problems oldLayout r h :=
  feed_of_passes (C := fun c => ∃ d', d'.Headed r h attributes headAttributes ∧
      c = headed d' problems oldLayout r h)
    rfl ⟨d, hd, rfl⟩
    (fun s => ⟨_, hd.adding (by simp), feed_comment_headed problems oldLayout hd s⟩)
    (fun _ hv hne =>
      ⟨_, hd.appendText _, (feed_blank_headed problems oldLayout hd hv hne).1⟩) he

/-- Comments and blanks leave the one document waiting. -/
theorem Waiting.feed_passes {b b' : Builder} (h : Waiting b b') {e : Event} (he : e.Passes) :
    Waiting (b.feed e) (b'.feed e) := by
  cases h with
  | root problems oldLayout hd hd' =>
    obtain ⟨d₁, hd₁, hfeed⟩ := exists_feed_beforeRoot problems oldLayout hd he
    obtain ⟨d₂, hd₂, hfeed'⟩ := exists_feed_headed problems oldLayout hd' he
    rw [hfeed, hfeed']
    exact .root problems oldLayout hd₁ hd₂
  | head problems oldLayout hd hd' =>
    obtain ⟨d₁, hd₁, hfeed⟩ := exists_feed_rooted problems oldLayout hd he
    obtain ⟨d₂, hd₂, hfeed'⟩ := exists_feed_headed problems oldLayout hd' he
    rw [hfeed, hfeed']
    exact .head problems oldLayout hd₁ hd₂

/-- Text opens the head, also behind blanks. -/
theorem Waiting.alike_feed_text {b b' : Builder} (h : Waiting b b') {cs : List Char}
    (hcs : isBlankRun cs = false) :
    ∃ r H, Alike { draft := Mirrors r H } (b.feed (.token (.text cs)))
      (b'.feed (.token (.text cs))) := by
  obtain ⟨v, x, rfl, hv, hxne, hx⟩ := exists_eq_blanks_append hcs
  have hopens : (Token.text x).OpensHead := by
    obtain ⟨c, x, rfl⟩ := List.exists_cons_of_ne_nil hxne
    exact ⟨c, x, rfl, hx c rfl⟩
  by_cases hne : v = []
  · subst hne
    exact h.alike_feed hopens
  · have hpasses : Waiting (b.feed (.token (.text v))) (b'.feed (.token (.text v))) :=
      h.feed_passes (e := .token (.text v)) hv
    have hbehind := hpasses.alike_feed hopens
    cases h with
    | root problems oldLayout hd hd' =>
      obtain ⟨hblank, happend⟩ := feed_blank_beforeRoot problems oldLayout hd hv hne
      obtain ⟨hblank', happend'⟩ := feed_blank_headed problems oldLayout hd' hv hne
      rwa [hblank, hblank', ← happend x hxne hx, ← happend' x hxne hx] at hbehind
    | head problems oldLayout hd hd' =>
      obtain ⟨hblank, happend⟩ := feed_blank_rooted problems oldLayout hd hv hne
      obtain ⟨hblank', happend'⟩ := feed_blank_headed problems oldLayout hd' hv hne
      rwa [hblank, hblank', ← happend x hxne hx, ← happend' x hxne hx] at hbehind

/-! ### Problems -/

theorem Coherent.report {b : Builder} (hb : b.Coherent) (p : Problem) : (b.report p).Coherent :=
  hb.mono (Nat.le_refl _) (fun _ hi => hi.mono (List.Subset.refl _) (List.Subset.refl _) rfl
    fun _ hid => hid) rfl (by simp [Builder.report])

/-- A state to which a problem has been added. -/
theorem Coherent.spoilt_report {b : Builder} (hb : b.Coherent) (p : Problem) :
    (b.report p).Spoilt :=
  (hb.report p).spoilt (List.cons_ne_nil _ _)

theorem coherent_headed (hd : d.Headed r h attributes headAttributes) :
    (headed d problems oldLayout r h).Coherent :=
  coherent_of_stack (Draft.lt_of_kind? hd.document) rfl rfl rfl
    (by simpa [headed] using ⟨Draft.lt_of_kind? hd.head, Draft.lt_of_kind? hd.root⟩)
    (by simpa [headed] using Draft.lt_of_kind? hd.head)

theorem coherent_beforeRoot (hd : d.Rootless) : (beforeRoot d problems oldLayout).Coherent :=
  coherent_of_stack (Draft.lt_of_kind? hd.document) rfl rfl rfl (by simp [beforeRoot])
    (by simp [beforeRoot])

theorem coherent_untyped (hd : d.Rootless) : (untyped d).Coherent :=
  coherent_of_stack (Draft.lt_of_kind? hd.document) rfl rfl rfl (by simp [untyped])
    (by simp [untyped])

theorem coherent_rooted (hd : d.Rooted r attributes) :
    (rooted d problems oldLayout r).Coherent :=
  coherent_of_stack (Draft.lt_of_kind? hd.document) rfl rfl rfl
    (by simpa [rooted] using Draft.lt_of_kind? hd.root) (by simp [rooted])

/-- A start tag of the root or of the head comes too late for a document that has come up to its
head. -/
theorem feed_late (hd : d.Headed r h attributes headAttributes) {t : Tag}
    (ht : t.name = "html" ∨ t.name = "head") :
    ((headed d problems oldLayout r h).feed (.token (.startTag t))).Spoilt := by
  have hcoherent := (coherent_headed problems oldLayout hd).report .unexpectedToken
  have hsettle {c : Builder} (hc : c.Spoilt)
      (hrules : (headed d problems oldLayout r h).headRules (.startTag t) = c.done) :
      ((headed d problems oldLayout r h).feed (.token (.startTag t))).Spoilt := by
    have hstep : (headed d problems oldLayout r h).step (.startTag t) = c.done :=
      (step_eq rfl _).trans hrules
    rw [feed_token rfl (by simp) (by simp), settle_of_done rfl hstep]
    exact Alike.checkSelfClosing hc (.startTag t)
  rcases ht with hhtml | hhead
  · have hrules : (headed d problems oldLayout r h).headRules (.startTag t) =
        ((headed d problems oldLayout r h).unexpected.completeAttributes
          (some ⟨r, .html "html"⟩) t).done := by
      rw [headRules, if_pos hhtml]
      rfl
    have hcompleted : ((headed d problems oldLayout r h).unexpected.completeAttributes
        (some ⟨r, .html "html"⟩) t).Coherent :=
      hcoherent.mono (Nat.le_of_eq (Draft.size_addMissingAttributes ..).symm)
        (fun i hi => hi.mono (List.Subset.refl _) (List.Subset.refl _) rfl fun _ hid => hid) rfl id
    exact hsettle (hcompleted.spoilt (List.cons_ne_nil _ _)) hrules
  · have hrules : (headed d problems oldLayout r h).headRules (.startTag t) =
        (headed d problems oldLayout r h).unexpected.done := by
      rw [headRules, if_neg (by rw [hhead]; decide), if_neg (by rw [hhead]; decide), if_pos hhead]
    exact hsettle (hcoherent.spoilt (List.cons_ne_nil _ _)) hrules

/-- Whatever comes up leaves the one document waiting, comes too late for the other one, opens the
head or is a problem. -/
theorem Waiting.feed_cases {b b' : Builder} (h : Waiting b b') (e : Event) :
    e.Passes ∨ (∃ t : Tag, e = .token (.startTag t) ∧ (t.name = "html" ∨ t.name = "head")) ∨
      (∃ r H, Alike { draft := Mirrors r H } (b.feed e) (b'.feed e)) ∨ (b.feed e).Spoilt := by
  -- While the document waits for its head, it does nothing but report what does not belong there.
  have hreport (p : Problem) (hfeed : b.feed e = b.report p) : (b.feed e).Spoilt := by
    rw [hfeed]
    refine Coherent.spoilt_report ?_ p
    cases h with
    | root problems oldLayout hd hd' => exact coherent_beforeRoot problems oldLayout hd
    | head problems oldLayout hd hd' => exact coherent_rooted problems oldLayout hd
  rcases e with p | t
  · refine Or.inr (Or.inr (Or.inr (hreport p ?_)))
    cases h <;> rfl
  cases t with
  | comment s => exact Or.inl trivial
  | text cs =>
    cases hcs : isBlankRun cs with
    | true => exact Or.inl hcs
    | false => exact Or.inr (Or.inr (Or.inl (h.alike_feed_text hcs)))
  | null | sourceEnd => exact Or.inr (Or.inr (Or.inl (h.alike_feed trivial)))
  | doctype d =>
    refine Or.inr (Or.inr (Or.inr (hreport .strayDoctype ?_)))
    cases h <;> rfl
  | startTag tag =>
    by_cases hlate : tag.name = "html" ∨ tag.name = "head"
    · exact Or.inr (Or.inl ⟨tag, rfl, hlate⟩)
    · exact Or.inr (Or.inr (Or.inl (h.alike_feed (not_or.mp hlate))))
  | endTag tag =>
    by_cases hends : endsEarly tag.name = true
    · exact Or.inr (Or.inr (Or.inl (h.alike_feed (t := .endTag tag) hends)))
    · refine Or.inr (Or.inr (Or.inr (hreport .unexpectedToken ?_)))
      cases h with
      | root problems oldLayout hd hd' =>
        rw [feed_token rfl (by simp) (by simp)]
        refine settle_of_done rfl ((step_eq rfl _).trans ?_)
        exact if_neg hends
      | head problems oldLayout hd hd' =>
        rw [feed_token rfl (by simp) (by simp)]
        refine settle_of_done rfl ((step_eq rfl _).trans ?_)
        exact if_neg hends

end Builder

/-! ### The rest of a source -/

/-- Behind nothing but comments and blanks, given as pending events and the rest of a source, comes
the start tag of the root or of the head. -/
inductive OpensLate : List Event → Source → Prop
  | passes {e : Event} {events : List Event} {s : Source} (he : e.Passes)
      (h : OpensLate events s) : OpensLate (e :: events) s
  | late {t : Tag} {events : List Event} {s : Source} (ht : t.name = "html" ∨ t.name = "head") :
      OpensLate (.token (.startTag t) :: events) s
  | next {s : Source} (hs : s.rest ≠ [])
      (h : OpensLate (s.nextMarkup false).1 (s.nextMarkup false).2) : OpensLate [] s

namespace Builder

theorem Waiting.next_eq {b b' : Builder} (h : Waiting b b') (s : Source) :
    s.next b.textMode b.inForeign = s.nextMarkup false ∧
      s.next b'.textMode b'.inForeign = s.nextMarkup false := by
  cases h <;> exact ⟨rfl, rfl⟩

/-- A document that waits for its head, in a source that turns out to be without problems, becomes
like the one that has come up to its head, unless the head is opened too late. The induction is on
the length of the source, and for one length on the pending events. -/
theorem Waiting.runAll {b b' : Builder} (h : Waiting b b') (events : List Event) (s : Source)
    (hclean : ((events.foldl feed b).runAll s).problems = []) :
    (OpensLate events s → ((events.foldl feed b').runAll s).problems ≠ []) ∧
      (¬OpensLate events s → ∃ r H, Alike { draft := Mirrors r H }
        ((events.foldl feed b).runAll s) ((events.foldl feed b').runAll s)) := by
  generalize hn : s.rest.length = n
  induction n using Nat.strongRecOn generalizing b b' events s with
  | ind n ih =>
    induction events generalizing b b' with
    | nil =>
      by_cases hs : s.rest = []
      · refine ⟨fun hlate => ?_, fun _ => ?_⟩
        · cases hlate with
          | next hne _ => exact absurd hs hne
        · -- The end of the source opens the head that is missing.
          rw [List.foldl_nil, List.foldl_nil, runAll_nil b hs, runAll_nil b' hs]
          exact h.alike_feed trivial
      · have hlt := Source.length_next_lt .markup false hs
        rw [List.foldl_nil, runAll_next b hs, (h.next_eq s).1] at hclean
        rw [List.foldl_nil, List.foldl_nil, runAll_next b hs, runAll_next b' hs, (h.next_eq s).1,
          (h.next_eq s).2]
        obtain ⟨hlate, halike⟩ := ih _ (hn ▸ hlt) h _ _ hclean rfl
        refine ⟨fun hopens => hlate ?_, fun hopens => halike fun hnext => hopens (.next hs hnext)⟩
        cases hopens with
        | next _ hnext => exact hnext
    | cons e events ihEvents =>
      by_cases hpasses : e.Passes
      · obtain ⟨hlate, halike⟩ := ihEvents (h.feed_passes hpasses) hclean
        refine ⟨fun hopens => hlate ?_, fun hopens => halike fun h => hopens (.passes hpasses h)⟩
        cases hopens with
        | passes _ h => exact h
        | late => exact hpasses.elim
      by_cases htag : ∃ t : Tag, e = .token (.startTag t) ∧ (t.name = "html" ∨ t.name = "head")
      · obtain ⟨t, rfl, ht⟩ := htag
        refine ⟨fun _ => ?_, fun hopens => absurd (.late ht) hopens⟩
        -- For the second document the tag comes too late.
        have hlate : (b'.feed (.token (.startTag t))).Spoilt := by
          cases h with
          | root problems oldLayout hd hd' => exact feed_late problems oldLayout hd' ht
          | head problems oldLayout hd hd' => exact feed_late problems oldLayout hd' ht
        exact hlate.problems_runAll events s
      rcases ((h.feed_cases e).resolve_left hpasses).resolve_left htag with
        ⟨r, H, halike⟩ | hspoilt
      · have hD := Mirrors.draftRelation r H
        refine ⟨fun hopens => ?_, fun _ => ⟨r, H, (halike.foldl_feed hD events).runAll hD s⟩⟩
        cases hopens with
        | passes he _ => exact absurd he hpasses
        | late ht => exact absurd ⟨_, rfl, ht⟩ htag
      · exact absurd hclean (hspoilt.problems_runAll events s)

end Builder

end HtmlText
