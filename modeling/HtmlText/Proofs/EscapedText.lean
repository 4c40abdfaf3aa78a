import HtmlText.Proofs.Reading
import Mathlib.Data.List.TakeWhile

/-!
# Escaped text

In escaped text the ampersand and the two brackets are written as references. The reader of markup
takes such text apart at line feeds and references and gives back the text, piece by piece and
without problems. A reference is a name that is closed by a semicolon and that no longer name begins
with, so what follows it makes no difference but to the number of characters looked at.

## Main definitions

* `escapeChar`, `escapeChars`, `escapeMarkup`: text in which nothing is markup.

## Main results

* `Reference.IsClosedName.readName_append`: a closed name, whatever follows it.
* `Source.exists_nextMarkup_escapeChars`: the next piece of escaped text.
-/

namespace HtmlText

/-! ### References by closed names -/

namespace Reference

/-- What is left of the names that go on with some characters. -/
def narrowAll (cs : List Char) (names : List (List Char × List Nat)) :
    List (List Char × List Nat) :=
  cs.foldl (fun names c => narrow c names) names

theorem narrowAll_nil (cs : List Char) : narrowAll cs [] = [] := by
  induction cs with
  | nil => rfl
  | cons c cs ih => exact ih

/-- The names that are left after some characters are followed further. -/
theorem follow_append {cs : List Char} {names : List (List Char × List Nat)}
    (h : narrowAll cs names ≠ []) (hit : Option Hit) (looked : Nat) (rest : List Char) :
    follow names hit looked (cs ++ rest) =
      follow (narrowAll cs names) (follow names hit looked cs).1 (looked + cs.length) rest := by
  induction cs generalizing names hit looked with
  | nil => rfl
  | cons c cs ih =>
    have hcons : narrowAll (c :: cs) names = narrowAll cs (narrow c names) := rfl
    rw [hcons] at h ⊢
    rw [List.cons_append, follow, follow, List.length_cons, Nat.add_comm cs.length,
      ← Nat.add_assoc]
    cases hleft : narrow c names with
    | nil =>
      rw [hleft, narrowAll_nil] at h
      exact absurd rfl h
    | cons left lefts =>
      rw [hleft] at h
      exact ih h _ _

/-- Nothing follows a name that has come to its end. -/
theorem follow_singleton_nil (codes : List Nat) (hit : Option Hit) (looked : Nat)
    (rest : List Char) : follow [([], codes)] hit looked rest = (hit, looked, rest) := by
  cases rest <;> rfl

/-- The characters `c :: cs` are a name that is closed by a semicolon, and no longer name begins
with them. -/
structure IsClosedName (c : Char) (cs : List Char) (codes : List Nat) : Prop where
  left : narrowAll cs (candidates c) = [([], codes)]
  hit : (follow (candidates c) none 1 cs).1 = some ⟨codes, cs.length + 1, true⟩

/-- A closed name is read, whatever follows it. -/
theorem IsClosedName.readName_append {c : Char} {cs : List Char} {codes : List Nat}
    (h : IsClosedName c cs codes) (inAttribute : Bool) (rest : List Char) :
    readName inAttribute (c :: cs ++ rest) =
      ⟨[], codes.map Char.ofNat, cs.length + 1, if rest.isEmpty then 0 else 1⟩ := by
  have hfollow : follow (candidates c) none 1 (cs ++ rest) =
      (some ⟨codes, cs.length + 1, true⟩, cs.length + 1, rest) := by
    rw [follow_append (by simp [h.left]), h.left, follow_singleton_nil, h.hit, Nat.add_comm]
  obtain ⟨first, others, hnames⟩ : ∃ first others, candidates c = first :: others := by
    refine List.exists_cons_of_ne_nil fun hnil => ?_
    have hleft := h.left
    rw [hnil, narrowAll_nil] at hleft
    cases hleft
  rw [List.cons_append, readName]
  simp only [hnames]
  rw [← hnames, hfollow]
  cases rest <;> simp

theorem isClosedName_ampersand : IsClosedName 'a' "mp;".toList ['&'.toNat] where
  left := by decide +kernel
  hit := by decide +kernel

theorem isClosedName_less : IsClosedName 'l' "t;".toList ['<'.toNat] where
  left := by decide +kernel
  hit := by decide +kernel

theorem isClosedName_greater : IsClosedName 'g' "t;".toList ['>'.toNat] where
  left := by decide +kernel
  hit := by decide +kernel

end Reference

/-! ### Escaped characters -/

/-- A character as it is written in a source so that it is no markup. -/
def escapeChar (c : Char) : List Char :=
  if c = '&' then "&amp;".toList
  else if c = '<' then "&lt;".toList
  else if c = '>' then "&gt;".toList
  else [c]

/-- Characters as they are written in a source so that nothing in them is markup. -/
def escapeChars (cs : List Char) : List Char := cs.flatMap escapeChar

/-- A text as it is written in a source so that nothing in it is markup. -/
def escapeMarkup (s : String) : String := String.ofList (escapeChars s.toList)

/-- A character that is written as a reference. -/
def isEscaped (c : Char) : Bool := c = '&' || c = '<' || c = '>'

theorem escapeChar_of_not_isEscaped {c : Char} (h : isEscaped c = false) : escapeChar c = [c] := by
  simp only [isEscaped, Bool.or_eq_false_iff, decide_eq_false_iff_not] at h
  rw [escapeChar, if_neg h.1.1, if_neg h.1.2, if_neg h.2]

theorem escapeChars_cons_of_not_isEscaped {c : Char} (h : isEscaped c = false) (cs : List Char) :
    escapeChars (c :: cs) = c :: escapeChars cs := by
  rw [escapeChars, List.flatMap_cons, escapeChar_of_not_isEscaped h]
  rfl

theorem escapeChars_of_forall {cs : List Char} (h : ∀ c ∈ cs, isEscaped c = false) :
    escapeChars cs = cs := by
  induction cs with
  | nil => rfl
  | cons c cs ih =>
    rw [List.forall_mem_cons] at h
    rw [escapeChars_cons_of_not_isEscaped h.1, ih h.2]

theorem escapeChars_append (a b : List Char) :
    escapeChars (a ++ b) = escapeChars a ++ escapeChars b :=
  List.flatMap_append

/-- An escaped character is a reference by a closed name. -/
theorem exists_isClosedName {c : Char} (h : isEscaped c = true) :
    ∃ d ds, escapeChar c = '&' :: d :: ds ∧ d.isAlphanum = true ∧ d ≠ '#' ∧
      Reference.IsClosedName d ds [c.toNat] := by
  simp only [isEscaped, Bool.or_eq_true, decide_eq_true_eq] at h
  rcases h with (rfl | rfl) | rfl
  · exact ⟨_, _, rfl, rfl, by decide, Reference.isClosedName_ampersand⟩
  · exact ⟨_, _, rfl, rfl, by decide, Reference.isClosedName_less⟩
  · exact ⟨_, _, rfl, rfl, by decide, Reference.isClosedName_greater⟩

namespace Source

/-- An escaped character that is written as a reference. -/
theorem nextMarkup_escapeChar {c : Char} (h : isEscaped c = true) (rest : List Char)
    (apart : Nat) :
    nextMarkup false ⟨escapeChar c ++ rest, apart⟩ =
      ([.text [c]], ⟨rest, if rest.isEmpty then 0 else 1⟩) := by
  obtain ⟨d, ds, hchar, halphanum, hnumber, hname⟩ := exists_isClosedName h
  have hread : Reference.read false (d :: ds ++ rest) =
      ⟨[], [c], ds.length + 1, if rest.isEmpty then 0 else 1⟩ := by
    rw [List.cons_append, Reference.read, if_neg hnumber, if_pos halphanum, ← List.cons_append,
      hname.readName_append, List.map_singleton, Char.ofNat_toNat]
  have hdrop : (d :: ds ++ rest).drop (ds.length + 1) = rest := List.drop_left
  rw [hchar, List.cons_append, nextMarkup]
  simp only [hread, hdrop]
  rfl

/-- What a run takes from escaped text are characters that are written as they are. -/
theorem exists_eq_append_of_prefix {u cs tail : List Char}
    (hbegins : u <+: escapeChars cs ++ tail) (hu : ∀ d ∈ u, endsRun false d = false)
    (htail : ∀ d ∈ tail.head?, endsRun false d = true) :
    ∃ cs', cs = u ++ cs' ∧ escapeChars cs ++ tail = u ++ (escapeChars cs' ++ tail) := by
  induction u generalizing cs with
  | nil => exact ⟨cs, rfl, rfl⟩
  | cons d u ih =>
    rw [List.forall_mem_cons] at hu
    cases cs with
    | nil =>
      obtain ⟨rest, hrest⟩ := hbegins
      have hhead : d ∈ tail.head? := by
        have hnil : escapeChars [] ++ tail = tail := rfl
        rw [← hnil, ← hrest]
        rfl
      exact absurd (htail d hhead) (by simp [hu.1])
    | cons c cs =>
      cases hc : isEscaped c with
      | true =>
        -- An escaped character begins with an ampersand, which ends the run.
        obtain ⟨e, es, hchar, -⟩ := exists_isClosedName hc
        rw [escapeChars, List.flatMap_cons, hchar] at hbegins
        obtain ⟨rfl, -⟩ := List.cons_prefix_cons.mp hbegins
        cases hu.1
      | false =>
        have hcons : escapeChars (c :: cs) ++ tail = c :: (escapeChars cs ++ tail) := by
          rw [escapeChars_cons_of_not_isEscaped hc, List.cons_append]
        rw [hcons] at hbegins
        obtain ⟨rfl, hrest⟩ := List.cons_prefix_cons.mp hbegins
        obtain ⟨cs', rfl, htext⟩ := ih hrest hu.2
        exact ⟨cs', rfl, by rw [hcons, htext]; rfl⟩

/-- A run has no characters that end one. -/
theorem exists_readRun_eq {c : Char} (hc : endsRun false c = false) (cs : List Char)
    (apart : Nat) :
    ∃ u apart', u <+: c :: cs ∧ (∀ d ∈ u, endsRun false d = false) ∧ u ≠ [] ∧
      readRun false ⟨c :: cs, apart⟩ = ([.text u], ⟨(c :: cs).drop u.length, apart'⟩) := by
  have hrun : (c :: cs).takeWhile (!endsRun false ·) =
      c :: cs.takeWhile (!endsRun false ·) :=
    List.takeWhile_cons_of_pos (by simp [hc])
  have hall : ∀ d ∈ (c :: cs).takeWhile (!endsRun false ·), endsRun false d = false := by
    intro d hd
    simpa using List.mem_takeWhile_imp (p := (!endsRun false ·)) hd
  have hbegins := List.takeWhile_prefix (l := c :: cs) (!endsRun false ·)
  refine ⟨_, _, ?_, ?_, ?_, rfl⟩
  · split_ifs
    · exact hbegins
    · exact (List.take_prefix apart _).trans hbegins
  · split_ifs
    · exact hall
    · exact fun d hd => hall d (List.mem_of_mem_take hd)
  · rw [hrun]
    split_ifs with hapart
    · exact List.cons_ne_nil c _
    · obtain ⟨n, rfl⟩ := Nat.exists_eq_succ_of_ne_zero hapart
      exact List.cons_ne_nil c _

/-- The next piece of escaped text. -/
theorem exists_nextMarkup_escapeChars {cs tail : List Char} (hne : cs ≠ []) (hnull : '\x00' ∉ cs)
    (hcr : '\r' ∉ cs) (htail : ∀ d ∈ tail.head?, endsRun false d = true) (apart : Nat) :
    ∃ v cs' apart', cs = v ++ cs' ∧ v ≠ [] ∧
      nextMarkup false ⟨escapeChars cs ++ tail, apart⟩ =
        ([.text v], ⟨escapeChars cs' ++ tail, apart'⟩) := by
  obtain ⟨c, cs, rfl⟩ := List.exists_cons_of_ne_nil hne
  cases hc : isEscaped c with
  | true =>
    have hread := nextMarkup_escapeChar hc (escapeChars cs ++ tail) apart
    rw [← List.append_assoc] at hread
    exact ⟨[c], cs, _, rfl, List.cons_ne_nil c [], hread⟩
  | false =>
    have hcons : escapeChars (c :: cs) ++ tail = c :: (escapeChars cs ++ tail) := by
      rw [escapeChars_cons_of_not_isEscaped hc, List.cons_append]
    by_cases hfeed : c = '\n'
    · refine ⟨[c], cs, apart - 1, rfl, List.cons_ne_nil c [], ?_⟩
      rw [hcons, hfeed]
      rfl
    · have hne : c ≠ '\x00' ∧ c ≠ '\r' :=
        ⟨fun h => hnull (h ▸ List.mem_cons_self), fun h => hcr (h ▸ List.mem_cons_self)⟩
      have hplain : c ≠ '&' ∧ c ≠ '<' := by
        simp only [isEscaped, Bool.or_eq_false_iff, decide_eq_false_iff_not] at hc
        exact hc.1
      have hends : endsRun false c = false := by
        simp [endsRun, hfeed, hne, hplain]
      obtain ⟨v, apart', hbegins, hrun, hvne, hread⟩ :=
        exists_readRun_eq hends (escapeChars cs ++ tail) apart
      -- The run ends before the next escaped character, so what is left is escaped text again.
      rw [← hcons] at hbegins
      obtain ⟨cs', hsplit, htext⟩ := exists_eq_append_of_prefix hbegins hrun htail
      refine ⟨v, cs', apart', hsplit, hvne, ?_⟩
      rw [← hcons, htext, List.drop_left, ← htext, hcons] at hread
      rw [hcons, nextMarkup]
      simp only [if_neg hfeed, if_neg hne.1, if_neg hne.2, if_neg hplain.1, if_neg hplain.2]
      exact hread

end Source

end HtmlText
