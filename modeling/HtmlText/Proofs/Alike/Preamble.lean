import HtmlText.Proofs.Alike.Waiting
import HtmlText.Proofs.PreambleReading
import HtmlText.Source.Encoding

/-!
# States behind a preamble

A preamble leads to one of a few states: before the root element, before the head or in the head of
a document, or at the beginning of a fragment. The declaration that is put there opens the head, or
becomes a node that does not show. So the state with the declaration is alike to the one without it,
or the one without it is still waiting for its head.

## Main definitions

* `declarationTag`: the tag that declares the encoding.
* `Builder.fragmentWith`: a state at the beginning of a fragment.

## Main results

* `Builder.takesBlanks_eq`, `Builder.takesBlanks_beforeRoot` and so on: blanks in these states.
* `Builder.alike_declared`, `Builder.waiting_declared_rooted`,
  `Builder.waiting_declared_beforeRoot`: what the declaration leads to.
-/

namespace HtmlText

/-- The tag that is put into a source to declare its encoding. -/
def declarationTag : Tag := { name := "meta", attributes := [("charset", "utf-8")] }

/-- The declaration is read as its tag. -/
theorem readsAs_declaration : ReadsAs encodingDeclaration.toList (.startTag declarationTag) := by
  intro tail
  rfl

namespace Builder

variable {d : Draft} {r h : Nat} {attributes headAttributes : List (String × String)}
  (problems : List Problem) (oldLayout : Bool)

/-! ### Blanks before the head -/

/-- A state that blanks leave as it is, and that deals with text behind blanks as if there were
none. -/
theorem takesBlanks_eq {b : Builder} (hmode : b.textMode = .markup) (hforeign : b.inForeign = false)
    (h : ∀ v : List Char, isBlankRun v = true → v ≠ [] → b.feed (.token (.text v)) = b ∧
      ∀ x : List Char, x ≠ [] → (∀ c ∈ x.head?, isMarkupBlank c = false) →
        b.feed (.token (.text (v ++ x))) = b.feed (.token (.text x))) :
    TakesBlanks (· = b) where
  textMode := by
    rintro b rfl
    exact hmode
  inForeign := by
    rintro b rfl
    exact hforeign
  feed := by
    rintro b v rfl hv hne
    exact (h v hv hne).1
  append := by
    rintro b v x rfl hv hne hxne hx
    obtain ⟨hblank, happend⟩ := h v hv hne
    rw [hblank, happend x hxne hx]

theorem takesBlanks_beforeRoot (hd : d.Rootless) :
    TakesBlanks (· = beforeRoot d problems oldLayout) :=
  takesBlanks_eq rfl rfl fun _ => feed_blank_beforeRoot problems oldLayout hd

theorem takesBlanks_rooted (hd : d.Rooted r attributes) :
    TakesBlanks (· = rooted d problems oldLayout r) :=
  takesBlanks_eq rfl rfl fun _ => feed_blank_rooted problems oldLayout hd

/-- A token that opens the head shows that the document type is missing. -/
theorem settleWithin_untyped (d : Draft) {t : Token} (ht : t.OpensHead) (rounds : Nat) :
    settleWithin (rounds + 1) (untyped d) t [] =
      settleWithin rounds (beforeRoot d [.unexpectedToken] true) t [] := by
  refine settleWithin_of_again rfl rfl rfl rfl (fun t ht => ?_) ht rounds []
  change initialRules (untyped d) t = _
  cases t with
  | text cs =>
    obtain ⟨c, rest, rfl, hc⟩ := ht
    rw [initialRules, if_neg (by simp [isBlankRun, hc])]
    rfl
  | comment | doctype => exact ht.elim
  | _ => rfl

theorem feed_blank_untyped (hd : d.Rootless) {v : List Char} (hv : isBlankRun v = true)
    (hne : v ≠ []) :
    (untyped d).feed (.token (.text v)) = untyped d ∧
      ∀ (x : List Char), x ≠ [] → (∀ c ∈ x.head?, isMarkupBlank c = false) →
        (untyped d).feed (.token (.text (v ++ x))) = (untyped d).feed (.token (.text x)) := by
  refine feed_append rfl rfl rfl rfl hv hne ?_ fun t ht m n hm hn => ?_
  · exact if_pos hv
  · obtain ⟨m, rfl⟩ := Nat.exists_eq_add_of_le' (Nat.le_trans (by decide : 1 ≤ 7) hm)
    obtain ⟨n, rfl⟩ := Nat.exists_eq_add_of_le' (Nat.le_trans (by decide : 1 ≤ 7) hn)
    rw [settleWithin_untyped d ht, settleWithin_untyped d ht,
      settleWithin_beforeRoot _ _ hd ht (by omega), settleWithin_beforeRoot _ _ hd ht (by omega)]

theorem takesBlanks_untyped (hd : d.Rootless) : TakesBlanks (· = untyped d) :=
  takesBlanks_eq rfl rfl fun _ => feed_blank_untyped hd

/-! ### Tags before the head -/

variable (d)

/-- A document type. -/
theorem feed_doctype (t : Doctype) :
    ∃ d problems oldLayout, d.Rootless ∧
      ({} : Builder).feed (.token (.doctype t)) = beforeRoot d problems oldLayout := by
  have hd : (Draft.empty.adding (.doctype t) (some 0)).Rootless :=
    Draft.rootless_empty.adding (Or.inr ⟨t, rfl⟩)
  by_cases haccepted : t.isAccepted = true
  · refine ⟨_, [], t.wantsOldLayout, hd, ?_⟩
    change startDocument {} t = _
    rw [startDocument, if_pos rfl, if_pos haccepted]
    rfl
  · refine ⟨_, [.badDoctype], t.wantsOldLayout, hd, ?_⟩
    change startDocument {} t = _
    rw [startDocument, if_pos rfl, if_neg haccepted]
    rfl

/-- Only its problems change when a start tag turns out to be self-closing. -/
theorem checkSelfClosing_eq (b : Builder) (t : Token) :
    ∃ problems, b.checkSelfClosing t = { b with problems } := by
  cases t with
  | startTag tag =>
    rw [checkSelfClosing]
    split_ifs
    · exact ⟨.unacknowledgedSelfClosing :: b.problems, rfl⟩
    · exact ⟨b.problems, rfl⟩
  | _ => exact ⟨b.problems, rfl⟩

/-- The start tag of the root element. -/
theorem feed_root {t : Tag} (ht : t.name = "html") :
    ∃ problems', (beforeRoot d problems oldLayout).feed (.token (.startTag t)) =
      rooted (d.adding (.element (.html "html") t.attributes none) (some 0)) problems' oldLayout
        d.nodes.size := by
  have hstep : (beforeRoot d problems oldLayout).step (.startTag t) =
      (rooted (d.adding (.element (.html "html") t.attributes none) (some 0)) problems oldLayout
        d.nodes.size).done := by
    refine (step_eq rfl _).trans ((if_pos ht).trans ?_)
    rw [insertRoot_beforeRoot]
    rfl
  obtain ⟨problems', hcheck⟩ := checkSelfClosing_eq (rooted (d.adding (.element (.html "html")
    t.attributes none) (some 0)) problems oldLayout d.nodes.size) (.startTag t)
  exact ⟨problems', (feed_token rfl (by simp) (by simp)).trans
    ((settle_of_done rfl hstep).trans hcheck)⟩

variable {d}

/-- The start tag of the head. -/
theorem step_head (hd : d.Rooted r attributes) {t : Tag} (ht : t.name = "head") :
    (rooted d problems oldLayout r).step (.startTag t) =
      (headed (d.adding (.element (.html "head") t.attributes none) (some r)) problems oldLayout r
        d.nodes.size).done := by
  refine (step_eq rfl _).trans ((if_neg (by rw [ht]; decide)).trans ((if_pos ht).trans ?_))
  rw [insertHead_rooted problems oldLayout hd]
  rfl

theorem feed_head_rooted (hd : d.Rooted r attributes) {t : Tag} (ht : t.name = "head") :
    ∃ problems', (rooted d problems oldLayout r).feed (.token (.startTag t)) =
      headed (d.adding (.element (.html "head") t.attributes none) (some r)) problems' oldLayout r
        d.nodes.size := by
  obtain ⟨problems', hcheck⟩ := checkSelfClosing_eq (headed (d.adding (.element (.html "head")
    t.attributes none) (some r)) problems oldLayout r d.nodes.size) (.startTag t)
  exact ⟨problems', (feed_token rfl (by simp) (by simp)).trans
    ((settle_of_done rfl (step_head problems oldLayout hd ht)).trans hcheck)⟩

/-- The start tag of the head opens the root element, too. -/
theorem feed_head_beforeRoot (hd : d.Rootless) {t : Tag} (ht : t.name = "head") :
    ∃ problems', (beforeRoot d problems oldLayout).feed (.token (.startTag t)) =
      headed ((d.adding (.element (.html "html") [] none) (some 0)).adding
        (.element (.html "head") t.attributes none) (some d.nodes.size)) problems' oldLayout
        d.nodes.size (d.adding (.element (.html "html") [] none) (some 0)).nodes.size := by
  have hstep : (beforeRoot d problems oldLayout).step (.startTag t) =
      (openRoot d problems oldLayout).again (.startTag t) := by
    refine (step_eq rfl _).trans ((if_neg (by rw [ht]; decide)).trans ?_)
    rw [insertRoot_beforeRoot]
    rfl
  obtain ⟨n, hn⟩ := Nat.exists_eq_add_of_le' (Nat.le_trans (by decide : 2 ≤ 32)
    (le_roundsFor (beforeRoot d problems oldLayout) (.startTag t)))
  obtain ⟨problems', hcheck⟩ := checkSelfClosing_eq (headed ((d.adding (.element (.html "html") []
    none) (some 0)).adding (.element (.html "head") t.attributes none) (some d.nodes.size))
    problems oldLayout d.nodes.size (d.adding (.element (.html "html") [] none)
      (some 0)).nodes.size) (.startTag t)
  have hpart : (beforeRoot d problems oldLayout).nextPart (.startTag t) [] = (.startTag t, []) :=
    rfl
  refine ⟨problems', ?_⟩
  rw [feed_token rfl (by simp) (by simp), settle, hn, settleWithin_succ, hpart, hstep]
  exact (settleWithin_of_done rfl (step_head problems oldLayout (hd.addRoot []) ht) n).trans hcheck

/-! ### The declaration -/

/-- The declaration is put into the head. -/
theorem feed_declaration_headed (hd : d.Headed r h attributes headAttributes) :
    (headed d problems oldLayout r h).feed (.token (.startTag declarationTag)) =
      headed (d.adding (.element (.html "meta") declarationTag.attributes none) (some h)) problems
        oldLayout r h := by
  have hcontents : (headed d problems oldLayout r h).draft.contents
      (headed d problems oldLayout r h).current.id = h := Draft.contents_of_element hd.head
  have hstep : (headed d problems oldLayout r h).step (.startTag declarationTag) =
      ((headed d problems oldLayout r h).insertVoid declarationTag).acknowledged := step_eq rfl _
  rw [feed_token rfl (by simp) (by simp), settle_of_acknowledged rfl hstep, insertVoid,
    insertClosed_eq _ rfl (by decide), hcontents]
  rfl

theorem opensHead_declaration : (Token.startTag declarationTag).OpensHead :=
  ⟨by decide, by decide⟩

/-- A document that is in its head anyway is alike to the one with the declaration. -/
theorem alike_declared (hd : d.Headed r h attributes headAttributes) :
    Alike { draft := Mirrors r [0, h] } (headed d problems oldLayout r h)
      ((headed d problems oldLayout r h).feed (.token (.startTag declarationTag))) := by
  rw [feed_declaration_headed problems oldLayout hd]
  exact alike_headed hd (hd.adding (by simp)) problems oldLayout

/-- The declaration opens the head for which a document without it still waits. -/
theorem waiting_declared_rooted (hd : d.Rooted r attributes) :
    Waiting (rooted d problems oldLayout r)
      ((rooted d problems oldLayout r).feed (.token (.startTag declarationTag))) := by
  have hhead := hd.addHead []
  have hrounds {n : Nat} (hn : 4 ≤ n) := (settles_headed (d.adding (.element (.html "head") [] none)
    (some r)) problems oldLayout r d.nodes.size opensHead_declaration).settleWithin_eq_settleWithin
      hn (Nat.le_refl 4)
  have hfeed : (rooted d problems oldLayout r).feed (.token (.startTag declarationTag)) =
      (openHead d problems oldLayout r).feed (.token (.startTag declarationTag)) := by
    rw [feed_token rfl (by simp) (by simp), feed_token rfl (by simp) (by simp), settle, settle,
      settleWithin_rooted problems oldLayout hd opensHead_declaration
        (Nat.le_trans (by decide) (le_roundsFor _ _))]
    exact (hrounds (Nat.le_trans (by decide) (le_roundsFor _ _))).symm
  rw [hfeed, openHead, feed_declaration_headed problems oldLayout hhead]
  exact .head problems oldLayout hd (hhead.adding (by simp))

theorem waiting_declared_beforeRoot (hd : d.Rootless) :
    Waiting (beforeRoot d problems oldLayout)
      ((beforeRoot d problems oldLayout).feed (.token (.startTag declarationTag))) := by
  have hhead := (hd.addRoot []).addHead []
  have hfeed : (beforeRoot d problems oldLayout).feed (.token (.startTag declarationTag)) =
      (openHead (d.adding (.element (.html "html") [] none) (some 0)) problems oldLayout
        d.nodes.size).feed (.token (.startTag declarationTag)) := by
    rw [feed_token rfl (by simp) (by simp), feed_token rfl (by simp) (by simp), settle, settle,
      settleWithin_beforeRoot problems oldLayout hd opensHead_declaration
        (Nat.le_trans (by decide) (le_roundsFor _ _))]
    exact ((settles_headed _ problems oldLayout _ _
      opensHead_declaration).settleWithin_eq_settleWithin
        (Nat.le_trans (by decide) (le_roundsFor _ _)) (Nat.le_refl 4)).symm
  rw [hfeed, openHead, feed_declaration_headed problems oldLayout hhead]
  exact .root problems oldLayout hd (hhead.adding (by simp))

end Builder

end HtmlText
